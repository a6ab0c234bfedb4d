import Typings.Proofs.Declaring
import Typings.Proofs.TypeNames

/-! # Names of contexts

A template has the same context name with the extension `.liquid` behind it as without, and
extensions within its name do not count either. What is left, with underscores for separators, is
the stem. Its type name alone decides whether the context name can be declared: `Context` stands
behind it, so the name is not empty and no reserved word, and an underscore goes before a digit.
-/

namespace Typings

open Docs

/-! ## Extensions -/

/-- The extension of template files. -/
def extension : List Char := ['.', 'l', 'i', 'q', 'u', 'i', 'd']

theorem extension_prefix_iff {c : Char} {rest : List Char} : extension <+: c :: rest ↔
    ∃ tail, c = '.' ∧ rest = 'l' :: 'i' :: 'q' :: 'u' :: 'i' :: 'd' :: tail := by
  constructor
  · rintro ⟨tail, heq⟩
    obtain ⟨hc, hrest⟩ := List.cons.inj heq
    exact ⟨tail, hc.symm, hrest.symm⟩
  · rintro ⟨tail, rfl, rfl⟩
    exact ⟨tail, rfl⟩

theorem dropExtension_cons {c : Char} {rest : List Char} (hcons : ¬ extension <+: c :: rest) :
    dropExtension (c :: rest) = c :: dropExtension rest := by
  rw [dropExtension]
  intro tail hc hrest
  exact hcons (extension_prefix_iff.mpr ⟨tail, hc, hrest⟩)

/-- The extension has no dot but its first, so an occurrence that begins in a text with the
extension behind it ends within that text. -/
theorem extension_prefix_of_append {cs rest : List Char} (hcs : cs ≠ [])
    (hstart : extension <+: cs ++ (extension ++ rest)) : extension <+: cs := by
  obtain hwithin | ⟨tail, htail⟩ :=
    List.prefix_or_prefix_of_prefix hstart (List.prefix_append cs _)
  · exact hwithin
  cases tail with
  | nil => simp [← htail]
  | cons d tail =>
      have hdot : d = '.' := by
        rw [← htail, List.prefix_append_right_inj, htail] at hstart
        exact (List.cons_prefix_cons.mp hstart).1
      have hinner : d ∈ extension.tail := by
        rw [← htail, List.tail_append_of_ne_nil hcs]
        simp
      rw [hdot] at hinner
      exact absurd hinner (by decide)

/-- Extensions are dropped on both sides of an extension. -/
theorem dropExtension_append (cs rest : List Char) :
    dropExtension (cs ++ (extension ++ rest)) = dropExtension cs ++ dropExtension rest := by
  fun_induction dropExtension cs with
  | case1 => rfl
  | case2 tail ih => exact ih
  | case3 c tail hcons ih =>
      rw [List.cons_append, dropExtension_cons, ih, List.cons_append]
      -- an extension that began here would end before the one behind the text
      intro hstart
      obtain ⟨behind, hc, htail⟩ :=
        extension_prefix_iff.mp (extension_prefix_of_append (List.cons_ne_nil c tail) hstart)
      exact hcons behind hc htail

theorem dropExtension_of_free {piece : List Char} (hfree : ¬ extension <:+: piece) :
    dropExtension piece = piece := by
  induction piece with
  | nil => rfl
  | cons c piece ih =>
      rw [List.infix_cons_iff, not_or] at hfree
      rw [dropExtension_cons hfree.1, ih hfree.2]

theorem dropExtension_intercalate {pieces : List (List Char)}
    (hpieces : ∀ piece ∈ pieces, ¬ extension <:+: piece) :
    dropExtension (extension.intercalate pieces) = pieces.flatten := by
  induction pieces with
  | nil => rfl
  | cons piece pieces ih =>
      obtain ⟨hpiece, hrest⟩ := List.forall_mem_cons.mp hpieces
      cases pieces with
      | nil => simp [dropExtension_of_free hpiece]
      | cons next pieces =>
          rw [List.intercalate_cons_cons, List.append_assoc, dropExtension_append,
            dropExtension_of_free hpiece, ih hrest]
          rfl

/-- Every text can be cut at its extensions. -/
theorem exists_pieces (cs : List Char) : ∃ piece pieces,
    (∀ part ∈ piece :: pieces, ¬ extension <:+: part) ∧
      cs = extension.intercalate (piece :: pieces) := by
  fun_induction dropExtension cs with
  | case1 => exact ⟨[], [], by simp [extension], by simp⟩
  | case2 tail ih =>
      obtain ⟨piece, pieces, hfree, heq⟩ := ih
      refine ⟨[], piece :: pieces, ?_, ?_⟩
      · exact List.forall_mem_cons.mpr ⟨by simp [extension], hfree⟩
      · rw [List.intercalate_cons_cons, ← heq]
        rfl
  | case3 c tail hcons ih =>
      obtain ⟨piece, pieces, hfree, heq⟩ := ih
      obtain ⟨hpiece, hrest⟩ := List.forall_mem_cons.mp hfree
      have htail : c :: tail = extension.intercalate ((c :: piece) :: pieces) := by
        rw [heq, List.intercalate_cons_cons_left]
      refine ⟨c :: piece, pieces, List.forall_mem_cons.mpr ⟨?_, hrest⟩, htail⟩
      rw [List.infix_cons_iff, not_or]
      refine ⟨fun hstart => ?_, hpiece⟩
      -- the first piece is a beginning of the text, which does not begin with an extension
      have hwhole : c :: piece <+: c :: tail := by
        rw [htail]
        cases pieces <;> simp
      obtain ⟨behind, hc, hbehind⟩ := extension_prefix_iff.mp (hstart.trans hwhole)
      exact hcons behind hc hbehind

/-! ## Stems -/

/-- The stem is the template without the extensions, however they are found, and with underscores
for the separators. -/
def IsStem (template stem : String) : Prop :=
  ∃ pieces, (∀ piece ∈ pieces, ¬ extension <:+: piece) ∧
    template.toList = extension.intercalate pieces ∧
    stem.toList = pieces.flatten.map fun c => if isTemplateSeparator c then '_' else c

theorem isStem_iff {template stem : String} :
    IsStem template stem ↔ stem = templateStem template := by
  constructor
  · rintro ⟨pieces, hfree, htemplate, hstem⟩
    rw [templateStem, htemplate, dropExtension_intercalate hfree, ← hstem, String.ofList_toList]
  · rintro rfl
    obtain ⟨piece, pieces, hfree, heq⟩ := exists_pieces template.toList
    refine ⟨piece :: pieces, hfree, heq, ?_⟩
    rw [templateStem, String.toList_ofList, heq, dropExtension_intercalate hfree]

theorem templateStem_extended (template : String) :
    templateStem (template ++ ".liquid") = templateStem template := by
  have hdrop := dropExtension_append template.toList []
  have hextension : ".liquid".toList = extension := by decide
  rw [List.append_nil] at hdrop
  rw [templateStem, String.toList_append, hextension, hdrop, dropExtension, List.append_nil,
    templateStem]

/-! ## Validity -/

/-- A context name is the type name of the stem with `Context` behind it, and with an underscore in
front where it would start with a digit. -/
theorem contextName_chars (template : String) : ∃ front, (front = [] ∨ front = ['_']) ∧
    (contextName template).toList =
      front ++ (typeName (templateStem template)).toList ++ "Context".toList ∧
    (contextName template).toList.head?.any Char.isDigit = false := by
  unfold contextName
  dsimp only
  split
  next =>
    refine ⟨['_'], .inr rfl, ?_, ?_⟩
    · rw [String.toList_append, String.toList_append, ← List.append_assoc]
      rfl
    · rw [String.toList_append]
      rfl
  next hdigit =>
    refine ⟨[], .inl rfl, ?_, ?_⟩
    · rw [String.toList_append, List.nil_append]
    · simpa [startsWithDigit] using hdigit

theorem isIdentifierStart_of_rest {c : Char} (hc : isIdentifierRest c = true)
    (hdigit : c.isDigit = false) : isIdentifierStart c = true := by
  unfold isIdentifierRest Char.isAlphanum at hc
  unfold isIdentifierStart
  grind

theorem isIdentifier_of_chars {name : String} (hne : name.toList ≠ [])
    (hchars : ∀ c ∈ name.toList, isIdentifierRest c = true)
    (hdigit : name.toList.head?.any Char.isDigit = false) : isIdentifier name = true := by
  obtain ⟨c, rest, heq⟩ := List.exists_cons_of_ne_nil hne
  rw [heq] at hchars hdigit
  obtain ⟨hc, hrest⟩ := List.forall_mem_cons.mp hchars
  have hstart := isIdentifierStart_of_rest hc (by simpa using hdigit)
  exact isIdentifier_iff.mpr ⟨c, rest, heq, hstart, hrest⟩

/-- Whether a context can be declared depends on the characters of the type name alone. -/
theorem isTypeName_contextName_iff (template : String) :
    isTypeName (contextName template) = true ↔
      ∀ c ∈ (typeName (templateStem template)).toList, isIdentifierRest c = true := by
  obtain ⟨front, hfront, hchars, hdigit⟩ := contextName_chars template
  constructor
  · intro hvalid c hc
    refine isIdentifier_chars (isTypeName_identifier hvalid) c ?_
    rw [hchars]
    simp only [List.mem_append]
    exact .inl (.inr hc)
  · intro hstem
    have hcontext : "Context".toList.all isIdentifierRest = true := by decide
    have hidentifier : isIdentifier (contextName template) = true := by
      refine isIdentifier_of_chars ?_ ?_ hdigit
      · rw [hchars]
        exact List.append_ne_nil_of_right_ne_nil _ (by decide)
      · rw [hchars]
        refine List.forall_mem_append.mpr
          ⟨List.forall_mem_append.mpr ⟨?_, hstem⟩, List.all_eq_true.mp hcontext⟩
        rcases hfront with rfl | rfl <;> simp [isIdentifierRest]
    -- reserved words are told apart from names of contexts by their ends
    have hreserved : ∀ word ∈ reservedWords, ¬ "Context".toList <:+ word.toList := by decide
    have hunreserved : contextName template ∉ reservedWords := by
      intro hmem
      refine hreserved _ hmem ?_
      rw [hchars]
      exact List.suffix_append _ _
    unfold isTypeName
    simp [hidentifier, hunreserved]

theorem typeName_chars_iff (documented : String) :
    (∀ c ∈ (typeName documented).toList, isIdentifierRest c = true) ↔
      ∀ c ∈ (typeName documented).toList, c.isAlphanum = true ∨ c = '$' := by
  refine forall₂_congr fun c hc => ?_
  have hunderscore : c ≠ '_' := by
    rintro rfl
    exact underscore_notMem_typeName documented hc
  simp [isIdentifierRest, hunderscore]

/-- A template that is named like an identifier is its own stem. -/
theorem templateStem_of_identifier {t : String} (ht : isIdentifier t = true) :
    templateStem t = t := by
  have hdot : ¬ extension <:+: t.toList := by
    intro hinside
    have hrest := isIdentifier_chars ht '.' (hinside.subset (by decide))
    exact absurd hrest (by decide)
  have hkept : ∀ c ∈ t.toList, (if isTemplateSeparator c then '_' else c) = c := by
    intro c hc
    have hrest := isIdentifier_chars ht c hc
    split
    next hseparator =>
      exfalso
      unfold isTemplateSeparator at hseparator
      simp only [Bool.or_eq_true, beq_iff_eq] at hseparator
      rcases hseparator with (rfl | rfl) | rfl <;> exact absurd hrest (by decide)
    next => rfl
  rw [templateStem, dropExtension_of_free hdot, List.map_congr_left hkept, List.map_id',
    String.ofList_toList]

/-- No template is called like its own context. -/
theorem contextName_ne_self {t : String} (hvalid : isTypeName (contextName t) = true) :
    contextName t ≠ t := by
  intro hself
  rw [hself] at hvalid
  have hstem := templateStem_of_identifier (isTypeName_identifier hvalid)
  obtain ⟨front, hfront, hchars, _⟩ := contextName_chars t
  rw [hself, hstem] at hchars
  have hfree : (typeName t).toList.count '_' = 0 :=
    List.count_eq_zero.mpr (underscore_notMem_typeName t)
  have hlength := congrArg List.length hchars
  have hcount := congrArg (List.count '_') hchars
  have hshort := length_le_typeName t
  have hcontext : "Context".toList.count '_' = 0 ∧ "Context".toList.length = 7 := by decide
  have hunderscore : front.count '_' ≤ front.length := List.count_le_length
  rw [List.length_append, List.length_append] at hlength
  rw [List.count_append, List.count_append] at hcount
  omega

/-! ## Ordinary templates -/

/-- The character is an ASCII letter or digit, or one of `_`, `$`, `/`, `.` and `-`. -/
def isTemplateChar (c : Char) : Bool :=
  isIdentifierRest c || isTemplateSeparator c

theorem dropExtension_sublist (cs : List Char) : (dropExtension cs).Sublist cs := by
  fun_induction dropExtension cs with
  | case1 => exact .slnil
  | case2 tail ih => exact ih.trans (List.sublist_append_right extension tail)
  | case3 c tail hcons ih => exact ih.cons_cons c

theorem isIdentifierRest_templateStem {template : String}
    (htemplate : ∀ c ∈ template.toList, isTemplateChar c = true) :
    ∀ c ∈ (templateStem template).toList, isIdentifierRest c = true := by
  rw [templateStem, String.toList_ofList]
  refine List.forall_mem_map.mpr fun c hc => ?_
  have hchar := htemplate c ((dropExtension_sublist _).subset hc)
  unfold isTemplateChar at hchar
  split
  next => decide
  next hseparator => simpa [hseparator] using hchar

/-- The name of a context does not depend on an extension behind the template. It can be declared
exactly when the type name of the stem has no characters but ASCII letters, ASCII digits and `$`,
and the contexts of ordinary templates are all declared. -/
theorem context_names_valid :
    (∀ template, contextName (template ++ ".liquid") = contextName template) ∧
    (∀ template, ∃! stem, IsStem template stem) ∧
    (∀ template stem, IsStem template stem → (isTypeName (contextName template) = true ↔
      ∀ c ∈ (typeName stem).toList, c.isAlphanum = true ∨ c = '$')) ∧
    ∀ contexts : List Context,
      (∀ context ∈ contexts, ∀ c ∈ context.template.toList, isTemplateChar c = true) →
      contextDeclarations contexts = .ok (contexts.map Context.declaration) := by
  refine ⟨fun template => ?_, fun template => ?_, fun template stem hstem => ?_,
    fun contexts htemplates => ?_⟩
  · unfold contextName
    rw [templateStem_extended]
  · exact ⟨templateStem template, isStem_iff.mpr rfl, fun stem hstem => isStem_iff.mp hstem⟩
  · rw [isStem_iff.mp hstem, isTypeName_contextName_iff, typeName_chars_iff]
  · refine contextDeclarations_valid fun context hcontext => ?_
    rw [isTypeName_contextName_iff]
    exact isIdentifierRest_typeName (isIdentifierRest_templateStem (htemplates context hcontext))

/-- Contexts of templates whose stems start with a digit, are empty or are reserved words. -/
def unusualContexts : List Context :=
  [⟨"404.liquid", ["cart"]⟩, ⟨".liquid", []⟩, ⟨"class", ["cart", "gift_card"]⟩]

theorem context_names_valid_unusual :
    (IsStem "404.liquid.x" "404_x" ∧ (isTypeName (contextName "404.liquid.x") = true ↔
      ∀ c ∈ (typeName "404_x").toList, c.isAlphanum = true ∨ c = '$')) ∧
    contextDeclarations unusualContexts = .ok (unusualContexts.map Context.declaration) := by
  obtain ⟨_, _, hvalid, hdeclared⟩ := context_names_valid
  have hstem : IsStem "404.liquid.x" "404_x" :=
    isStem_iff.mpr (by decide +kernel)
  have htemplates : (unusualContexts.all fun context =>
      context.template.toList.all isTemplateChar) = true := by decide
  simp only [List.all_eq_true] at htemplates
  exact ⟨⟨hstem, hvalid _ _ hstem⟩, hdeclared _ htemplates⟩

end Typings
