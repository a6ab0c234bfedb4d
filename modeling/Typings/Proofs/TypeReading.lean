import Typings.Declaration.Text
import Typings.Proofs.Quoting
import Typings.Proofs.Spelling

/-! # Reading types

A reader of type expressions in which brackets bind tighter than bars and parentheses group. It
reads the text of every well-formed type to its end and finds the type again, except that a union
inside a union is part of the outer one, that a union of one member is this member, and that a
word does not say what kind of name or number it is.
-/

namespace Typings

open Text

/-! ## Tokens -/

inductive TypeToken where
  /-- An identifier or a numeric literal. -/
  | word (spelling : String)
  /-- A double-quoted literal, by its value. -/
  | literal (value : String)
  | opening
  | closing
  | brackets
  | bar
  deriving DecidableEq, Repr

theorem readLiteral_length {text value rest : List Char}
    (hread : readLiteral text = some (value, rest)) : rest.length < text.length := by
  fun_induction readLiteral text generalizing value rest with
  | case1 => cases hread
  | case2 after =>
      cases hread
      exact Nat.lt_succ_self _
  | case3 c after d values inner hinner _ ih =>
      cases hread
      have := ih hinner
      simp only [List.length_cons]
      omega
  | case4 => cases hread
  | case5 => cases hread
  | case6 c after _ _ _ ih =>
      obtain ⟨⟨values, inner⟩, hinner, heq⟩ := Option.map_eq_some_iff.mp hread
      cases heq
      have := ih hinner
      simp only [List.length_cons]
      omega

/-- The tokens of a text, if it consists of tokens and blanks. A word goes as far as it can. -/
def typeTokens : List Char → Option (List TypeToken)
  | [] => some []
  | c :: rest =>
    if c = '(' then (typeTokens rest).map (.opening :: ·)
    else if c = ')' then (typeTokens rest).map (.closing :: ·)
    else if c = '|' then (typeTokens rest).map (.bar :: ·)
    else if c = '[' then
      if rest.head? = some ']' then (typeTokens rest.tail).map (.brackets :: ·) else none
    else if c = '"' then
      match _hread : readLiteral rest with
      | some (value, after) => (typeTokens after).map (.literal (String.ofList value) :: ·)
      | none => none
    else if isBlank c then typeTokens rest
    else if isBareToken (String.ofList (c :: rest.takeWhile isWordChar)) then
      (typeTokens (rest.dropWhile isWordChar)).map
        (.word (String.ofList (c :: rest.takeWhile isWordChar)) :: ·)
    else none
termination_by text => text.length
decreasing_by
  all_goals simp only [List.length_cons, List.length_tail]
  all_goals first
    | omega
    | exact Nat.lt_succ_of_lt (readLiteral_length _hread)
    | exact Nat.lt_succ_of_le (List.dropWhile_suffix _).length_le

/-! ## Trees -/

/-- A type expression as its reader sees it. -/
inductive TypeTree where
  | word (spelling : String)
  | literal (value : String)
  | array (element : TypeTree)
  | union (alternatives : List TypeTree)
  deriving Repr

/-- The type of all alternatives together. A single alternative stands for itself. -/
def unite : List TypeTree → TypeTree
  | [tree] => tree
  | alternatives => .union alternatives

/-- How far a type has been read. -/
structure TypeReading where
  /-- For each open parenthesis, the alternatives read before it, innermost first. -/
  outer : List (List TypeTree) := []
  /-- The alternatives read behind the innermost open parenthesis, each followed by a bar. -/
  before : List TypeTree := []
  /-- The alternative that is being read, if its operand has been read. -/
  current : Option TypeTree := none

namespace TypeReading

/-- One token further. Brackets apply to the current alternative only. -/
def step : TypeReading → TypeToken → Option TypeReading
  | ⟨outer, before, none⟩, .word spelling => some ⟨outer, before, some (.word spelling)⟩
  | ⟨outer, before, none⟩, .literal value => some ⟨outer, before, some (.literal value)⟩
  | ⟨outer, before, none⟩, .opening => some ⟨before :: outer, [], none⟩
  | ⟨alternatives :: outer, before, some tree⟩, .closing =>
    some ⟨outer, alternatives, some (unite (before ++ [tree]))⟩
  | ⟨outer, before, some tree⟩, .brackets => some ⟨outer, before, some (.array tree)⟩
  | ⟨outer, before, some tree⟩, .bar => some ⟨outer, before ++ [tree], none⟩
  | _, _ => none

/-- Reads to the end of the tokens, where no parenthesis may be open and no operand missing. -/
def run : TypeReading → List TypeToken → Option TypeTree
  | ⟨[], before, some tree⟩, [] => some (unite (before ++ [tree]))
  | _, [] => none
  | reading, token :: rest => (reading.step token).bind (run · rest)

end TypeReading

/-- Reads a whole text as a type. -/
def readType (text : String) : Option TypeTree :=
  (typeTokens text.toList).bind (TypeReading.run {})

/-! ## What a type is read as -/

mutual

/-- The alternatives that a type adds to a union around it. -/
def Ty.alternatives : Ty → List TypeTree
  | .primitive kind => [.word kind.name]
  | .array element => [.array (unite element.alternatives)]
  | .union members => Ty.alternativesOfAll members
  | .literal (.string value) => [.literal value]
  | .literal (.number spelling) => [.word spelling]
  | .reference name => [.word name]
  | .marker gap => [.word gap.typeName]

/-- The alternatives that the members of a union add to it. -/
def Ty.alternativesOfAll : List Ty → List TypeTree
  | [] => []
  | member :: rest => member.alternatives ++ Ty.alternativesOfAll rest

end

/-- The type up to nested unions, unions of one member and the kinds of its words. -/
def Ty.tree (t : Ty) : TypeTree := unite t.alternatives

/-! ## Reading tokens -/

mutual

/-- The tokens of the text of a type. -/
def Ty.tokens : Ty → List TypeToken
  | .primitive kind => [.word kind.name]
  | .array element =>
    if element.isUnion then .opening :: element.tokens ++ [.closing, .brackets]
    else element.tokens ++ [.brackets]
  | .union members => Ty.tokensOfAll members
  | .literal (.string value) => [.literal value]
  | .literal (.number spelling) => [.word spelling]
  | .reference name => [.word name]
  | .marker gap => [.word gap.typeName]

/-- The tokens of the texts of types, with bars between them. -/
def Ty.tokensOfAll : List Ty → List TypeToken
  | [] => []
  | [member] => member.tokens
  | member :: rest => member.tokens ++ .bar :: Ty.tokensOfAll rest

end

/-- The text does not go on with a word. -/
def EndsWord (rest : List Char) : Prop :=
  ∀ c ∈ rest.head?, isWordChar c = false

theorem endsWord_nil : EndsWord [] := by simp [EndsWord]

theorem endsWord_cons {c : Char} (hc : isWordChar c = false) (rest : List Char) :
    EndsWord (c :: rest) := by
  simpa [EndsWord] using hc

theorem takeWhile_word {word rest : List Char} (hword : ∀ c ∈ word, isWordChar c = true)
    (hrest : EndsWord rest) : (word ++ rest).takeWhile isWordChar = word := by
  rw [List.takeWhile_append_of_pos hword]
  cases rest with
  | nil => simp
  | cons c rest => simp [hrest c rfl]

theorem dropWhile_word {word rest : List Char} (hword : ∀ c ∈ word, isWordChar c = true)
    (hrest : EndsWord rest) : (word ++ rest).dropWhile isWordChar = rest := by
  rw [List.dropWhile_append_of_pos hword]
  cases rest with
  | nil => rfl
  | cons c rest => simp [hrest c rfl]

theorem typeTokens_word {word : String} (hword : isBareToken word = true) {rest : List Char}
    (hrest : EndsWord rest) :
    typeTokens (word.toList ++ rest) = (typeTokens rest).map (.word word :: ·) := by
  obtain ⟨hne, hchars⟩ := isBareToken_chars hword
  obtain ⟨c, cs, heq⟩ := List.exists_cons_of_ne_nil hne
  rw [heq] at hchars
  obtain ⟨hc, hcs⟩ := List.forall_mem_cons.mp hchars
  have hspelling : String.ofList (c :: cs) = word := by rw [← heq, String.ofList_toList]
  have hother : ∀ d, isWordChar d = false → c ≠ d := fun d hd => isWordChar_ne hc hd
  rewrite [heq, List.cons_append, typeTokens, if_neg (hother '(' (by decide)),
    if_neg (hother ')' (by decide)), if_neg (hother '|' (by decide)),
    if_neg (hother '[' (by decide)), if_neg (hother '"' (by decide))]
  simp only [isBlank_of_isWordChar hc, takeWhile_word hcs hrest, dropWhile_word hcs hrest,
    hspelling, hword, if_true, Bool.false_eq_true, if_false]

theorem typeTokens_literal (value : String) (rest : List Char) :
    typeTokens ((quoteLiteral value).toList ++ rest) =
      (typeTokens rest).map (.literal value :: ·) := by
  have hread := readLiteral_escaped value.toList rest
  rw [quoteLiteral_toList, List.cons_append, List.append_assoc, List.singleton_append, typeTokens]
  simp only [Char.reduceEq, if_true, if_false]
  split
  next values after heq =>
    rw [hread] at heq
    cases heq
    rw [String.ofList_toList]
  next heq =>
    rw [hread] at heq
    cases heq

theorem typeTokens_opening (rest : List Char) :
    typeTokens ('(' :: rest) = (typeTokens rest).map (.opening :: ·) := by
  rw [typeTokens, if_pos rfl]

theorem typeTokens_closing (rest : List Char) :
    typeTokens (')' :: rest) = (typeTokens rest).map (.closing :: ·) := by
  rw [typeTokens, if_neg (by decide), if_pos rfl]

theorem typeTokens_brackets (rest : List Char) :
    typeTokens ('[' :: ']' :: rest) = (typeTokens rest).map (.brackets :: ·) := by
  rw [typeTokens]
  simp only [Char.reduceEq, if_true, if_false, List.head?_cons, List.tail_cons]

theorem typeTokens_blank (rest : List Char) : typeTokens (' ' :: rest) = typeTokens rest := by
  have hblank : isBlank ' ' = true := by decide
  rewrite [typeTokens]
  simp only [Char.reduceEq, if_true, if_false, hblank]

theorem typeTokens_bar (rest : List Char) :
    typeTokens (" | ".toList ++ rest) = (typeTokens rest).map (.bar :: ·) := by
  change typeTokens (' ' :: '|' :: ' ' :: rest) = _
  rw [typeTokens_blank, typeTokens, typeTokens_blank]
  simp only [Char.reduceEq, if_true, if_false]

theorem intercalate_texts (member next : Ty) (rest : List Ty) :
    (" | ".intercalate (Ty.textOfAll (member :: next :: rest))).toList =
      member.text.toList ++ (" | ".toList ++
        (" | ".intercalate (Ty.textOfAll (next :: rest))).toList) := by
  simp only [Ty.textOfAll, String.toList_intercalate, List.map_cons, List.intercalate_cons_cons,
    List.append_assoc]

mutual

/-- The tokens of a type are found in its text, whatever follows that does not prolong a word. -/
theorem typeTokens_text (t : Ty) (ht : t.WellFormed) {rest : List Char} (hrest : EndsWord rest) :
    typeTokens (t.text.toList ++ rest) = (typeTokens rest).map (t.tokens ++ ·) := by
  match t with
  | .primitive kind => exact typeTokens_word (isBareToken_primitive kind) hrest
  | .array element =>
      rw [Ty.text, Ty.tokens]
      split
      next hunion =>
        have hread := typeTokens_text element ht
          (endsWord_cons (c := ')') (by decide) ('[' :: ']' :: rest))
        have htext : ("(" ++ element.text ++ ")[]").toList ++ rest =
            '(' :: (element.text.toList ++ ')' :: '[' :: ']' :: rest) := by simp
        rw [htext, typeTokens_opening, hread, typeTokens_closing, typeTokens_brackets]
        simp [Option.map_map, Function.comp_def]
      next hsingle =>
        have hread := typeTokens_text element ht
          (endsWord_cons (c := '[') (by decide) (']' :: rest))
        have htext : (element.text ++ "[]").toList ++ rest =
            element.text.toList ++ '[' :: ']' :: rest := by simp
        rw [htext, hread, typeTokens_brackets]
        simp [Option.map_map, Function.comp_def]
  | .union members =>
      rw [Ty.text, Ty.tokens]
      exact typeTokens_texts members ht.1 ht.2 hrest
  | .literal (.string value) => exact typeTokens_literal value rest
  | .literal (.number spelling) => exact typeTokens_word ht hrest
  | .reference name => exact typeTokens_word ht hrest
  | .marker gap => exact typeTokens_word (isBareToken_marker gap) hrest

theorem typeTokens_texts (members : List Ty) (hne : members ≠ [])
    (hmembers : Ty.AllWellFormed members) {rest : List Char} (hrest : EndsWord rest) :
    typeTokens ((" | ".intercalate (Ty.textOfAll members)).toList ++ rest) =
      (typeTokens rest).map (Ty.tokensOfAll members ++ ·) := by
  match members with
  | [] => exact absurd rfl hne
  | [member] =>
      have hread := typeTokens_text member hmembers.1 hrest
      simpa [Ty.textOfAll, Ty.tokensOfAll] using hread
  | member :: next :: others =>
      -- The blank before the bar ends a word at the end of the member.
      have hbar : EndsWord (" | ".toList ++
          ((" | ".intercalate (Ty.textOfAll (next :: others))).toList ++ rest)) :=
        endsWord_cons (by decide) _
      have hread := typeTokens_text member hmembers.1 hbar
      have hothers := typeTokens_texts (next :: others) (List.cons_ne_nil _ _) hmembers.2 hrest
      rw [intercalate_texts, List.append_assoc, List.append_assoc, hread, typeTokens_bar, hothers]
      simp [Option.map_map, Function.comp_def, Ty.tokensOfAll]

end

/-! ## Reading trees -/

theorem TypeReading.run_cons (reading : TypeReading) (token : TypeToken)
    (rest : List TypeToken) :
    reading.run (token :: rest) = (reading.step token).bind (TypeReading.run · rest) := by
  rcases reading with ⟨_ | _, _, _ | _⟩ <;> rfl

theorem alternatives_of_single {t : Ty} (hsingle : t.isUnion = false) :
    t.alternatives = [t.tree] := by
  rcases t with kind | element | members | (value | spelling) | name | gap
  all_goals first
    | rfl
    | cases hsingle

/-- Reading the tokens leaves the last alternative current, behind the others. -/
def ReadAs (tokens : List TypeToken) (alternatives : List TypeTree) : Prop :=
  ∃ init last, alternatives = init ++ [last] ∧ ∀ outer before rest,
    TypeReading.run ⟨outer, before, none⟩ (tokens ++ rest) =
      TypeReading.run ⟨outer, before ++ init, some last⟩ rest

theorem readAs_word (spelling : String) : ReadAs [.word spelling] [.word spelling] := by
  refine ⟨[], .word spelling, rfl, fun outer before rest => ?_⟩
  simp [TypeReading.run_cons, TypeReading.step]

theorem readAs_literal (value : String) : ReadAs [.literal value] [.literal value] := by
  refine ⟨[], .literal value, rfl, fun outer before rest => ?_⟩
  simp [TypeReading.run_cons, TypeReading.step]

/-- In parentheses, all alternatives together are one operand, to which brackets apply. -/
theorem ReadAs.array {tokens : List TypeToken} {alternatives : List TypeTree}
    (hread : ReadAs tokens alternatives) :
    ReadAs (.opening :: tokens ++ [.closing, .brackets]) [.array (unite alternatives)] := by
  obtain ⟨init, last, rfl, hrun⟩ := hread
  refine ⟨[], .array (unite (init ++ [last])), rfl, fun outer before rest => ?_⟩
  simp only [List.cons_append, List.append_assoc, TypeReading.run_cons]
  change TypeReading.run ⟨before :: outer, [], none⟩ _ = _
  rw [hrun]
  simp [TypeReading.run_cons, TypeReading.step]

/-- Without parentheses, brackets apply to an operand that is an alternative on its own. -/
theorem ReadAs.bare_array {tokens : List TypeToken} {tree : TypeTree}
    (hread : ReadAs tokens [tree]) : ReadAs (tokens ++ [.brackets]) [.array tree] := by
  obtain ⟨init, last, heq, hrun⟩ := hread
  obtain ⟨rfl, rfl⟩ : init = [] ∧ last = tree := by
    cases init <;> simp_all
  refine ⟨[], .array last, rfl, fun outer before rest => ?_⟩
  rw [List.append_assoc, hrun]
  simp [TypeReading.run_cons, TypeReading.step]

theorem ReadAs.bar {tokens others : List TypeToken} {alternatives otherAlternatives : List TypeTree}
    (hread : ReadAs tokens alternatives) (hothers : ReadAs others otherAlternatives) :
    ReadAs (tokens ++ .bar :: others) (alternatives ++ otherAlternatives) := by
  obtain ⟨init, last, rfl, hrun⟩ := hread
  obtain ⟨initOthers, lastOther, rfl, hrunOthers⟩ := hothers
  refine ⟨init ++ [last] ++ initOthers, lastOther, by simp, fun outer before rest => ?_⟩
  rw [List.append_assoc, hrun, List.cons_append, TypeReading.run_cons]
  simp only [TypeReading.step, Option.bind_some]
  rw [hrunOthers]
  simp

mutual

/-- The tokens of a well-formed type are read as its alternatives. -/
theorem run_tokens (t : Ty) (ht : t.WellFormed) : ReadAs t.tokens t.alternatives := by
  match t with
  | .primitive kind => exact readAs_word kind.name
  | .array element =>
      have helement := run_tokens element ht
      rw [Ty.tokens, Ty.alternatives]
      split
      next hunion => exact helement.array
      next hsingle =>
        have htree := alternatives_of_single (by simpa using hsingle)
        rw [htree] at helement ⊢
        exact helement.bare_array
  | .union members => exact run_tokensOfAll members ht.1 ht.2
  | .literal (.string value) => exact readAs_literal value
  | .literal (.number spelling) => exact readAs_word spelling
  | .reference name => exact readAs_word name
  | .marker gap => exact readAs_word gap.typeName

theorem run_tokensOfAll (members : List Ty) (hne : members ≠ [])
    (hmembers : Ty.AllWellFormed members) :
    ReadAs (Ty.tokensOfAll members) (Ty.alternativesOfAll members) := by
  match members with
  | [] => exact absurd rfl hne
  | [member] =>
      rw [Ty.tokensOfAll, Ty.alternativesOfAll, Ty.alternativesOfAll, List.append_nil]
      exact run_tokens member hmembers.1
  | member :: next :: others =>
      have hothers := run_tokensOfAll (next :: others) (List.cons_ne_nil _ _) hmembers.2
      rw [Ty.alternativesOfAll, Ty.tokensOfAll]
      · exact (run_tokens member hmembers.1).bar hothers
      · exact List.cons_ne_nil _ _

end

theorem readType_text {t : Ty} (ht : t.WellFormed) : readType t.text = some t.tree := by
  obtain ⟨init, last, heq, hread⟩ := run_tokens t ht
  have htokens := typeTokens_text t ht endsWord_nil
  have hrun := hread [] [] []
  rw [List.append_nil] at htokens hrun
  rw [readType, htokens, typeTokens]
  simp only [Option.map_some, List.append_nil, Option.bind_some]
  rw [hrun, Ty.tree, heq]
  rfl

/-! ## Telling types apart -/

mutual

/-- No alternative is a union itself. -/
theorem alternatives_flat (t : Ty) {trees : List TypeTree} : .union trees ∉ t.alternatives := by
  match t with
  | .primitive kind => simp [Ty.alternatives]
  | .array element => simp [Ty.alternatives]
  | .union members =>
      rw [Ty.alternatives]
      exact alternativesOfAll_flat members
  | .literal (.string value) => simp [Ty.alternatives]
  | .literal (.number spelling) => simp [Ty.alternatives]
  | .reference name => simp [Ty.alternatives]
  | .marker gap => simp [Ty.alternatives]

theorem alternativesOfAll_flat (members : List Ty) {trees : List TypeTree} :
    .union trees ∉ Ty.alternativesOfAll members := by
  match members with
  | [] => simp [Ty.alternativesOfAll]
  | member :: rest =>
      rw [Ty.alternativesOfAll, List.mem_append, not_or]
      exact ⟨alternatives_flat member, alternativesOfAll_flat rest⟩

end

/-- What is united can be told apart again, unless it was a union before. -/
theorem unite_injective {first second : List TypeTree}
    (hfirst : ∀ trees, .union trees ∉ first) (hsecond : ∀ trees, .union trees ∉ second)
    (heq : unite first = unite second) : first = second := by
  match first, second with
  | [tree], [other] => exact congrArg (fun tree => [tree]) heq
  | [tree], [] => exact absurd (List.mem_singleton.mpr heq.symm) (hfirst _)
  | [tree], _ :: _ :: _ => exact absurd (List.mem_singleton.mpr heq.symm) (hfirst _)
  | [], [other] => exact absurd (List.mem_singleton.mpr heq) (hsecond _)
  | _ :: _ :: _, [other] => exact absurd (List.mem_singleton.mpr heq) (hsecond _)
  | [], [] => rfl
  | [], _ :: _ :: _ => exact TypeTree.union.inj heq
  | _ :: _ :: _, [] => exact TypeTree.union.inj heq
  | _ :: _ :: _, _ :: _ :: _ => exact TypeTree.union.inj heq

theorem alternativesOfAll_of_single {members : List Ty}
    (hsingle : ∀ m ∈ members, m.isUnion = false) :
    Ty.alternativesOfAll members = members.map Ty.tree := by
  induction members with
  | nil => rfl
  | cons m members ih =>
      obtain ⟨hm, hrest⟩ := List.forall_mem_cons.mp hsingle
      rw [Ty.alternativesOfAll, alternatives_of_single hm, ih hrest]
      rfl

theorem alternativesOfAll_of_text {members others : List Ty}
    (hmembers : (Ty.union members).WellFormed) (hothers : (Ty.union others).WellFormed)
    (htext : (Ty.union members).text = (Ty.union others).text) :
    Ty.alternativesOfAll members = Ty.alternativesOfAll others := by
  have hread := readType_text hmembers
  rw [htext, readType_text hothers, Option.some.injEq] at hread
  exact unite_injective (fun _ => alternativesOfAll_flat members)
    (fun _ => alternativesOfAll_flat others) hread.symm

/-- The text of a well-formed type is read to its end, and as this type. Unions with the same text
therefore have the same alternatives in the same order, whatever their literals contain. -/
theorem type_reads_back (t : Ty) (ht : t.WellFormed) :
    readType t.text = some t.tree ∧
    ∀ members others, (Ty.union members).WellFormed → (Ty.union others).WellFormed →
      (Ty.union members).text = (Ty.union others).text →
      Ty.alternativesOfAll members = Ty.alternativesOfAll others ∧
      ((∀ m ∈ members, m.isUnion = false) → (∀ m ∈ others, m.isUnion = false) →
        members.map Ty.tree = others.map Ty.tree) := by
  refine ⟨readType_text ht, fun members others hmembers hothers htext => ?_⟩
  have heq := alternativesOfAll_of_text hmembers hothers htext
  refine ⟨heq, fun hsingle hsingleOthers => ?_⟩
  rw [← alternativesOfAll_of_single hsingle, heq, alternativesOfAll_of_single hsingleOthers]

/-- An array of a union whose literal looks like the code around it. -/
def trickyType : Ty :=
  .array (.union
    [.literal (.string "\\\" | (x)[]"), .union [.array (.array (.reference "Product"))],
      .union [.literal (.number "-.5"), .marker .unmapped]])

theorem type_reads_back_tricky :
    trickyType.WellFormed ∧
    readType trickyType.text = some (.array (.union
      [.literal "\\\" | (x)[]", .array (.array (.word "Product")), .word "-.5",
        .word "Unimplemented"])) ∧
    Ty.alternativesOfAll [.literal (.string "\" | "), .union [.marker .untyped]] =
      Ty.alternativesOfAll [.union [.literal (.string "\" | "), .marker .untyped]] := by
  have hformed : trickyType.WellFormed := by
    have hproduct : isBareToken "Product" = true := by decide
    have hnumber : isBareToken "-.5" = true := by decide
    simp [trickyType, Ty.WellFormed, Ty.AllWellFormed, hproduct, hnumber]
  obtain ⟨hread, hapart⟩ := type_reads_back trickyType hformed
  refine ⟨hformed, hread, (hapart _ _ ?_ ?_ ?_).1⟩
  · simp [Ty.WellFormed, Ty.AllWellFormed]
  · simp [Ty.WellFormed, Ty.AllWellFormed]
  · simp [Ty.text, Ty.textOfAll]

end Typings
