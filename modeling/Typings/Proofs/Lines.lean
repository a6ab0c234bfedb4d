import Mathlib.Data.List.DropRight
import Typings.Text.Blank
import Typings.Text.Lines

/-! # Lines of texts

Splitting at line feeds takes nothing from a text but its line endings. Lines that hold no line
feed and do not end in a carriage return are found again when they are ended and put together.
-/

namespace Typings.Text

/-- The text is a whole line of every text in which it stands before a line feed. -/
structure IsLine (line : List Char) : Prop where
  feedless : '\n' ∉ line
  open_end : line.getLast? ≠ some '\r'

theorem IsLine.append {first second : List Char} (hfirst : '\n' ∉ first)
    (hsecond : IsLine second) (hne : second ≠ []) : IsLine (first ++ second) := by
  refine ⟨by simp [hfirst, hsecond.feedless], ?_⟩
  rw [List.getLast?_append_of_ne_nil first hne]
  exact hsecond.open_end

theorem lines_cons {c : Char} {rest : List Char} (hfeed : c ≠ '\n')
    (hreturn : c = '\r' → rest.head? ≠ some '\n') :
    lines (c :: rest) = (c :: (lines rest).headD []) :: (lines rest).tail := by
  rw [lines]
  · cases lines rest <;> rfl
  · exact hfeed
  · rintro after rfl rfl
    exact hreturn rfl rfl

theorem lines_feed (rest : List Char) : lines ('\n' :: rest) = [] :: lines rest := by
  rw [lines]

/-- A line in front of a line feed is split off as it is. -/
theorem lines_line_feed {line : List Char} (hline : IsLine line) (rest : List Char) :
    lines (line ++ '\n' :: rest) = line :: lines rest := by
  induction line with
  | nil => exact lines_feed rest
  | cons c line ih =>
      have hfeed : c ≠ '\n' := fun h => hline.feedless (h ▸ List.mem_cons_self)
      have hrest : '\n' ∉ line := fun h => hline.feedless (List.mem_cons_of_mem _ h)
      have hreturn : c = '\r' → (line ++ '\n' :: rest).head? ≠ some '\n' := by
        rintro rfl
        cases line with
        -- The carriage return would be the last character of the line.
        | nil => exact absurd rfl hline.open_end
        | cons d line =>
            intro hd
            simp only [List.cons_append, List.head?_cons, Option.some.injEq] at hd
            exact hrest (hd ▸ List.mem_cons_self)
      have hopen : line.getLast? ≠ some '\r' := by
        intro hlast
        refine hline.open_end ?_
        rw [List.getLast?_cons, hlast]
        rfl
      rw [List.cons_append, lines_cons hfeed hreturn, ih ⟨hrest, hopen⟩, List.headD_cons,
        List.tail_cons]

/-- A text without line feeds is its own single line. -/
theorem lines_of_feedless {line : List Char} (hfeedless : '\n' ∉ line) (hne : line ≠ []) :
    lines line = [line] := by
  induction line with
  | nil => exact absurd rfl hne
  | cons c line ih =>
      rw [List.mem_cons, not_or] at hfeedless
      have hhead : line.head? ≠ some '\n' := fun h => hfeedless.2 (List.mem_of_head? h)
      rw [lines_cons (Ne.symm hfeedless.1) fun _ => hhead]
      cases line with
      | nil => rfl
      | cons d line =>
          rw [ih hfeedless.2 (List.cons_ne_nil d line), List.headD_cons, List.tail_cons]

/-- Lines that are ended and put together are found again. -/
theorem lines_endLines_append {ls : List (List Char)} (hlines : ∀ line ∈ ls, IsLine line)
    (rest : List Char) : lines (endLines ls ++ rest) = ls ++ lines rest := by
  induction ls with
  | nil => rfl
  | cons line ls ih =>
      obtain ⟨hline, hrest⟩ := List.forall_mem_cons.mp hlines
      have hsplit : endLines (line :: ls) ++ rest = line ++ '\n' :: (endLines ls ++ rest) := by
        simp [endLines]
      rw [hsplit, lines_line_feed hline, ih hrest, List.cons_append]

theorem endLines_append (first second : List (List Char)) :
    endLines (first ++ second) = endLines first ++ endLines second :=
  List.flatMap_append

theorem endLines_cons (line : List Char) (ls : List (List Char)) :
    endLines (line :: ls) = line ++ '\n' :: endLines ls := by
  simp [endLines]

/-- Cutting at every line feed finds ended lines again, and nothing behind the last of them. -/
theorem splitOn_endLines {ls : List (List Char)} (hlines : ∀ line ∈ ls, '\n' ∉ line) :
    (endLines ls).splitOn '\n' = ls ++ [[]] := by
  induction ls with
  | nil => rfl
  | cons line ls ih =>
      obtain ⟨hline, hrest⟩ := List.forall_mem_cons.mp hlines
      rw [endLines_cons, List.splitOn_append_cons_self_of_not_mem hline, ih hrest,
        List.cons_append]

/-- The first line stands at the beginning of the text. -/
theorem lines_head_prefix {cs line : List Char} {others : List (List Char)}
    (heq : lines cs = line :: others) : line <+: cs := by
  fun_induction lines cs generalizing line others with
  | case1 => cases heq
  | case2 rest _ =>
      cases heq
      exact List.nil_prefix
  | case3 rest _ =>
      cases heq
      exact List.nil_prefix
  | case4 c rest _ _ hnone _ =>
      cases heq
      exact ⟨rest, rfl⟩
  | case5 c rest _ _ head tail hsome ih =>
      cases heq
      exact List.cons_prefix_cons.mpr ⟨rfl, ih hsome⟩

/-- Every line is a part of the text without a line feed. -/
theorem mem_lines {cs line : List Char} (hline : line ∈ lines cs) :
    line <:+: cs ∧ '\n' ∉ line := by
  fun_induction lines cs generalizing line with
  | case1 => cases hline
  | case2 rest ih =>
      rcases List.mem_cons.mp hline with rfl | hline
      · exact ⟨List.nil_infix, by simp⟩
      · exact ⟨(ih hline).1.trans (List.suffix_cons _ _).isInfix, (ih hline).2⟩
  | case3 rest ih =>
      rcases List.mem_cons.mp hline with rfl | hline
      · exact ⟨List.nil_infix, by simp⟩
      · have hsuffix : rest <:+ '\r' :: '\n' :: rest := ⟨['\r', '\n'], rfl⟩
        exact ⟨(ih hline).1.trans hsuffix.isInfix, (ih hline).2⟩
  | case4 c rest hfeed _ hnone _ =>
      rw [List.mem_singleton.mp hline]
      exact ⟨⟨[], rest, rfl⟩, by simpa using Ne.symm hfeed⟩
  | case5 c rest hfeed _ head tail hsome ih =>
      rcases List.mem_cons.mp hline with rfl | hline
      · have hfront : c :: head <+: c :: rest :=
          List.cons_prefix_cons.mpr ⟨rfl, lines_head_prefix hsome⟩
        refine ⟨hfront.isInfix, ?_⟩
        have hhead := (ih (by rw [hsome]; exact List.mem_cons_self)).2
        simp [Ne.symm hfeed, hhead]
      · have hmem := ih (by rw [hsome]; exact List.mem_cons_of_mem _ hline)
        exact ⟨hmem.1.trans (List.suffix_cons _ _).isInfix, hmem.2⟩

theorem lines_eq_nil_iff {cs : List Char} : lines cs = [] ↔ cs = [] := by
  cases cs with
  | nil => simp [lines]
  | cons c rest =>
    fun_cases lines (c :: rest) <;> simp

/-- What no line ending interrupts stands at the front of the first line. -/
theorem lines_append_of_unbroken {front : List Char} (hne : front ≠ [])
    (hfront : ∀ c ∈ front, c ≠ '\n' ∧ c ≠ '\r') (rest : List Char) :
    lines (front ++ rest) = (front ++ (lines rest).headD []) :: (lines rest).tail := by
  induction front with
  | nil => exact absurd rfl hne
  | cons c front ih =>
      obtain ⟨⟨hfeed, hreturn⟩, hrest⟩ := List.forall_mem_cons.mp hfront
      rw [List.cons_append, lines_cons hfeed fun h => absurd h hreturn]
      by_cases hnil : front = []
      · rw [hnil, List.nil_append, List.singleton_append]
      · rw [ih hnil hrest, List.headD_cons, List.tail_cons, List.cons_append]

/-- A text that ends within a line gives its lines in front of a line feed. -/
theorem lines_append_feed {first : List Char} {last : Char} (hlast : first.getLast? = some last)
    (hfeed : last ≠ '\n') (hreturn : last ≠ '\r') (rest : List Char) :
    lines (first ++ '\n' :: rest) = lines first ++ lines rest := by
  have hbehind : ∀ {c : Char} {cs : List Char}, (c :: cs).getLast? = some last → c ≠ last →
      cs.getLast? = some last := by
    intro c cs hcs hc
    cases cs with
    | nil => exact absurd (Option.some.inj hcs) hc
    | cons d cs => simpa using hcs
  fun_induction lines first with
  | case1 => cases hlast
  | case2 first ih =>
      rw [List.cons_append, lines_feed, ih (hbehind hlast hfeed.symm), List.cons_append]
  | case3 first ih =>
      have hfirst := hbehind (hbehind hlast hreturn.symm) hfeed.symm
      rw [List.cons_append, List.cons_append, lines, ih hfirst, List.cons_append]
  | case4 c first hc _ hnone _ =>
      obtain rfl := lines_eq_nil_iff.mp hnone
      obtain rfl : c = last := by simpa using hlast
      exact lines_line_feed ⟨by simpa using hfeed.symm, by simpa using hreturn⟩ rest
  | case5 c first hc hcr line others hsome ih =>
      have hne : first ≠ [] := fun h => by simp [h, lines] at hsome
      have hfirst : first.getLast? = some last := by
        rwa [List.getLast?_cons_of_ne_nil hne] at hlast
      have hhead : c = '\r' → (first ++ '\n' :: rest).head? ≠ some '\n' := by
        rintro rfl hd
        rw [List.head?_append_of_ne_nil _ hne] at hd
        obtain ⟨after, rfl⟩ := List.head?_eq_some_iff.mp hd
        exact hcr after rfl rfl
      rw [List.cons_append, lines_cons hc hhead, ih hfirst, hsome]
      rfl

/-! ## Trimming -/

theorem trimEnd_eq_rdropWhile (cs : List Char) : trimEnd cs = cs.rdropWhile isBlank := rfl

theorem trimEnd_front (cs : List Char) : trimEnd cs <+: cs :=
  List.rdropWhile_prefix isBlank cs

/-- A trimmed text does not end in a blank. -/
theorem trimEnd_last {cs : List Char} {c : Char} (hlast : (trimEnd cs).getLast? = some c) :
    isBlank c = false := by
  have hne : cs.rdropWhile isBlank ≠ [] := by
    rintro hnil
    rw [trimEnd_eq_rdropWhile, hnil] at hlast
    cases hlast
  have hnot := List.rdropWhile_last_not isBlank cs hne
  rw [trimEnd_eq_rdropWhile, List.getLast?_eq_some_getLast hne, Option.some.injEq] at hlast
  rw [← hlast]
  simpa using hnot

theorem trimEnd_isLine {cs : List Char} (hfeedless : '\n' ∉ cs) : IsLine (trimEnd cs) := by
  refine ⟨fun hmem => hfeedless ((trimEnd_front cs).subset hmem), fun hlast => ?_⟩
  have hblank := trimEnd_last hlast
  revert hblank
  decide

/-- The text neither starts nor ends with a blank. -/
structure IsTrimmed (cs : List Char) : Prop where
  front : ∀ c, cs.head? = some c → isBlank c = false
  back : ∀ c, cs.getLast? = some c → isBlank c = false

theorem trimEnd_eq_self {cs : List Char} (hlast : ∀ c, cs.getLast? = some c → isBlank c = false) :
    trimEnd cs = cs := by
  rw [trimEnd_eq_rdropWhile, List.rdropWhile_eq_self_iff]
  intro hne
  rw [hlast _ (List.getLast?_eq_some_getLast hne)]
  exact Bool.false_ne_true

/-- Behind ink, the end of a text is trimmed on its own. -/
theorem trimEnd_append {first : List Char}
    (hlast : ∀ c, first.getLast? = some c → isBlank c = false) (second : List Char) :
    trimEnd (first ++ second) = first ++ trimEnd second := by
  induction second using List.reverseRecOn with
  | nil => rw [List.append_nil, trimEnd_eq_self hlast, show trimEnd [] = [] from rfl,
      List.append_nil]
  | append_singleton second c ih =>
      rw [← List.append_assoc]
      simp only [trimEnd_eq_rdropWhile] at ih ⊢
      by_cases hblank : isBlank c = true
      · rw [List.rdropWhile_concat_pos _ _ _ hblank, List.rdropWhile_concat_pos _ _ _ hblank, ih]
      · rw [List.rdropWhile_concat_neg _ _ _ hblank, List.rdropWhile_concat_neg _ _ _ hblank,
          List.append_assoc]

theorem IsTrimmed.trim_eq {cs : List Char} (hcs : IsTrimmed cs) : trim cs = cs := by
  have hfront : cs.dropWhile isBlank = cs := by
    rw [List.dropWhile_eq_self_iff]
    intro hpos
    rw [hcs.front _ (List.head?_eq_getElem? ▸ List.getElem?_eq_getElem hpos)]
    exact Bool.false_ne_true
  rw [trim, hfront, trimEnd_eq_self hcs.back]

theorem isTrimmed_trim (cs : List Char) : IsTrimmed (trim cs) := by
  refine ⟨fun c hc => ?_, fun c => trimEnd_last⟩
  -- what is trimmed off the end leaves the front as it is
  obtain ⟨after, heq⟩ := trimEnd_front (cs.dropWhile isBlank)
  have hhead : (cs.dropWhile isBlank).head? = some c := by
    rw [← heq, List.head?_append, show (trimEnd _).head? = some c from hc, Option.some_or]
  have hnot := List.head?_dropWhile_not isBlank cs
  rwa [hhead] at hnot

/-- Trimming leaves nothing of a blank text, and of no other. -/
theorem trim_eq_nil_iff {cs : List Char} : trim cs = [] ↔ hasInk cs = false := by
  simp only [trim, trimEnd_eq_rdropWhile, List.rdropWhile_eq_nil_iff, hasInk, List.any_eq_false,
    Bool.not_eq_true', Bool.not_eq_false]
  constructor
  · intro hblank
    have hnil : cs.dropWhile isBlank = [] := by
      cases hdrop : cs.dropWhile isBlank with
      | nil => rfl
      | cons c rest =>
          have hnot := List.head?_dropWhile_not isBlank cs
          rw [hdrop] at hnot hblank
          exact absurd (hblank c List.mem_cons_self) (by simpa using hnot)
    exact List.dropWhile_eq_nil_iff.mp hnil
  · intro hblank c hc
    exact hblank c (List.dropWhile_subset _ hc)

theorem trim_ne_nil {cs : List Char} (hink : hasInk cs = true) : trim cs ≠ [] := by
  simp [trim_eq_nil_iff, hink]

theorem IsTrimmed.append {first second : List Char} (hfirst : IsTrimmed first)
    (hsecond : IsTrimmed second) (hne : first ≠ []) (hne' : second ≠ []) (between : List Char) :
    IsTrimmed (first ++ (between ++ second)) := by
  refine ⟨fun c hc => hfirst.front c ?_, fun c hc => hsecond.back c ?_⟩
  · rwa [List.head?_append_of_ne_nil _ hne] at hc
  · rwa [List.getLast?_append_of_ne_nil _ (by simp [hne']), List.getLast?_append_of_ne_nil _ hne']
      at hc

end Typings.Text
