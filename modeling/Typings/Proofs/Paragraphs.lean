import Typings.Proofs.Lines

/-! # Paragraphs

A page is made of paragraphs with one empty line between each and the next. Where every line of a
paragraph has ink at its end, cutting the page at its blank lines finds the paragraphs again, and
the page contains no other blank line, whatever its lines say.
-/

namespace Typings.Text

/-- The blocks of a text: what stands between two line feeds that follow each other, searched from
the left. -/
def splitBlocks : List Char → List (List Char)
  | [] => [[]]
  | '\n' :: '\n' :: rest => [] :: splitBlocks rest
  | c :: rest => (splitBlocks rest).modifyHead (c :: ·)

/-- The number of lines of a text that are empty. -/
def blankLines (text : List Char) : Nat := (lines text).count []

/-- The text is made of the given blocks in order, each ended by a line feed, and of one blank line
between each and the next. It ends in a single line feed, and no line of it ends in a blank. -/
structure InBlocks (text : List Char) (blocks : List (List Char)) : Prop where
  ending : ∃ body, text = body ++ ['\n'] ∧ body.getLast? ≠ some '\n'
  sparse : ¬ ['\n', '\n', '\n'] <:+: text
  inked : ∀ line ∈ text.splitOn '\n', ∀ c ∈ line.getLast?, isBlank c = false
  cut : (splitBlocks text.dropLast).map (· ++ ['\n']) = blocks

example : splitBlocks "a\nb\n\nc".toList = ["a\nb".toList, "c".toList] := by decide

/-! ## Tidy lines -/

/-- The text is a line, and it ends in ink. -/
structure IsTidy (line : List Char) : Prop where
  feedless : '\n' ∉ line
  inked : ∃ c, line.getLast? = some c ∧ isBlank c = false

theorem not_feed_of_ink {c : Char} (hc : isBlank c = false) : c ≠ '\n' := by
  rintro rfl
  revert hc
  decide

namespace IsTidy

variable {line : List Char}

theorem ne_nil (hline : IsTidy line) : line ≠ [] := by
  rintro rfl
  obtain ⟨c, hlast, _⟩ := hline.inked
  simp at hlast

theorem prepend (hline : IsTidy line) {margin : List Char} (hmargin : '\n' ∉ margin) :
    IsTidy (margin ++ line) := by
  refine ⟨by simp [hmargin, hline.feedless], ?_⟩
  rw [List.getLast?_append_of_ne_nil margin hline.ne_nil]
  exact hline.inked

theorem isLine (hline : IsTidy line) : IsLine line := by
  refine ⟨hline.feedless, fun hreturn => ?_⟩
  obtain ⟨c, hlast, hink⟩ := hline.inked
  rw [hlast, Option.some.injEq] at hreturn
  subst hreturn
  revert hink
  decide

/-- A text that goes on with a tidy line does not go on with a line feed. -/
theorem head_append (hline : IsTidy line) (rest : List Char) :
    (line ++ rest).head? ≠ some '\n' := by
  intro hhead
  cases line with
  | nil => exact hline.ne_nil rfl
  | cons c line =>
      simp only [List.cons_append, List.head?_cons, Option.some.injEq] at hhead
      exact hline.feedless (hhead ▸ List.mem_cons_self)

end IsTidy

/-- What is left of a line when the blanks at its end are gone is tidy, unless nothing is left. -/
theorem trimEnd_isTidy {line : List Char} (hline : '\n' ∉ line) (hne : trimEnd line ≠ []) :
    IsTidy (trimEnd line) := by
  refine ⟨(trimEnd_isLine hline).feedless, (trimEnd line).getLast hne, ?_, ?_⟩
  · exact List.getLast?_eq_some_getLast hne
  · exact trimEnd_last (List.getLast?_eq_some_getLast hne)

/-! ## Paragraphs and pages -/

/-- The lines are those of a paragraph: there is one, and all of them are tidy. -/
structure IsParagraph (ls : List (List Char)) : Prop where
  ne_nil : ls ≠ []
  tidy : ∀ line ∈ ls, IsTidy line

/-- The lines of a page that starts with the given paragraph. -/
def pageLines (first : List (List Char)) : List (List (List Char)) → List (List Char)
  | [] => first
  | next :: rest => first ++ [] :: pageLines next rest

/-- The lines with a line feed between each and the next. -/
def joinLines (ls : List (List Char)) : List Char := ['\n'].intercalate ls

theorem joinLines_singleton (line : List Char) : joinLines [line] = line :=
  List.intercalate_singleton

theorem joinLines_cons_cons (line next : List Char) (ls : List (List Char)) :
    joinLines (line :: next :: ls) = line ++ '\n' :: joinLines (next :: ls) := by
  simp [joinLines, List.intercalate_cons_cons]

/-- Ending the lines adds one line feed behind the last. -/
theorem endLines_eq_joinLines {ls : List (List Char)} (hne : ls ≠ []) :
    endLines ls = joinLines ls ++ ['\n'] := by
  induction ls with
  | nil => exact absurd rfl hne
  | cons line ls ih =>
      cases ls with
      | nil => simp [endLines, joinLines_singleton]
      | cons next ls => rw [endLines_cons, ih (List.cons_ne_nil _ _), joinLines_cons_cons]; simp

variable {first next : List (List Char)} {rest : List (List (List Char))}

theorem pageLines_ne_nil (hfirst : IsParagraph first) (rest : List (List (List Char))) :
    pageLines first rest ≠ [] := by
  cases rest with
  | nil => exact hfirst.ne_nil
  | cons next rest => simp [pageLines]

theorem joinLines_pageLines (hfirst : IsParagraph first) (hnext : IsParagraph next)
    (rest : List (List (List Char))) :
    joinLines (pageLines first (next :: rest)) =
      joinLines first ++ '\n' :: '\n' :: joinLines (pageLines next rest) := by
  have hends := endLines_append first ([] :: pageLines next rest)
  rw [endLines_cons, endLines_eq_joinLines (by simp), endLines_eq_joinLines hfirst.ne_nil,
    endLines_eq_joinLines (pageLines_ne_nil hnext rest)] at hends
  exact List.append_cancel_right (hends.trans (by simp))

/-- The text of a page: its first paragraph, and every other one behind a line feed. -/
theorem endLines_pageLines (first : List (List Char)) (rest : List (List (List Char))) :
    endLines (pageLines first rest) =
      endLines first ++ rest.flatMap fun ls => '\n' :: endLines ls := by
  induction rest generalizing first with
  | nil => simp [pageLines]
  | cons next rest ih => simp [pageLines, endLines_append, endLines_cons, ih]

/-- The last line of a page is tidy. -/
theorem pageLines_concat (hall : ∀ ls ∈ first :: rest, IsParagraph ls) :
    ∃ before last, pageLines first rest = before ++ [last] ∧ IsTidy last := by
  induction rest generalizing first with
  | nil =>
      obtain ⟨hne, htidy⟩ := hall first List.mem_cons_self
      refine ⟨first.dropLast, first.getLast hne, (List.dropLast_concat_getLast hne).symm, ?_⟩
      exact htidy _ (List.getLast_mem hne)
  | cons next rest ih =>
      obtain ⟨before, last, heq, hlast⟩ := ih (List.forall_mem_cons.mp hall).2
      refine ⟨first ++ [] :: before, last, ?_, hlast⟩
      simp [pageLines, heq]

theorem mem_pageLines (hall : ∀ ls ∈ first :: rest, IsParagraph ls) {line : List Char}
    (hline : line ∈ pageLines first rest) : line = [] ∨ IsTidy line := by
  induction rest generalizing first with
  | nil => exact Or.inr ((hall first List.mem_cons_self).tidy line hline)
  | cons next rest ih =>
      obtain ⟨hfirst, hrest⟩ := List.forall_mem_cons.mp hall
      rw [pageLines, List.mem_append, List.mem_cons] at hline
      rcases hline with hline | hempty | hline
      · exact Or.inr (hfirst.tidy line hline)
      · exact Or.inl hempty
      · exact ih hrest hline

theorem IsParagraph.count (hfirst : IsParagraph first) : first.count [] = 0 := by
  apply List.count_eq_zero.mpr
  intro hempty
  exact (hfirst.tidy [] hempty).ne_nil rfl

/-- A page has one empty line between each paragraph and the next, and no other. -/
theorem count_pageLines (hall : ∀ ls ∈ first :: rest, IsParagraph ls) :
    (pageLines first rest).count [] = rest.length := by
  induction rest generalizing first with
  | nil => exact (hall first List.mem_cons_self).count
  | cons next rest ih =>
      obtain ⟨hfirst, hrest⟩ := List.forall_mem_cons.mp hall
      rw [pageLines, List.count_append, List.count_cons_self, hfirst.count, ih hrest,
        List.length_cons, Nat.zero_add]

/-! ## Line feeds that follow each other -/

theorem IsParagraph.tail {line next : List Char} {ls : List (List Char)}
    (h : IsParagraph (line :: next :: ls)) : IsParagraph (next :: ls) :=
  ⟨List.cons_ne_nil _ _, fun other hother => h.tidy other (List.mem_cons_of_mem _ hother)⟩

/-- A paragraph starts with its first line. -/
theorem IsParagraph.head_append {ls : List (List Char)} (h : IsParagraph ls) (rest : List Char) :
    (joinLines ls ++ rest).head? ≠ some '\n' := by
  rcases ls with _ | ⟨line, _ | ⟨next, ls⟩⟩
  · exact absurd rfl h.ne_nil
  · rw [joinLines_singleton]
    exact (h.tidy line List.mem_cons_self).head_append rest
  · rw [joinLines_cons_cons, List.append_assoc]
    exact (h.tidy line List.mem_cons_self).head_append _

/-- A page starts with its first paragraph. -/
theorem pageLines_head_append (hall : ∀ ls ∈ first :: rest, IsParagraph ls) (after : List Char) :
    (joinLines (pageLines first rest) ++ after).head? ≠ some '\n' := by
  obtain ⟨hfirst, hrest⟩ := List.forall_mem_cons.mp hall
  cases rest with
  | nil => exact hfirst.head_append after
  | cons next rest =>
      rw [joinLines_pageLines hfirst (hrest next List.mem_cons_self), List.append_assoc]
      exact hfirst.head_append _

theorem feed_not_leading {rest : List Char} (hrest : rest.head? ≠ some '\n') :
    ¬ ['\n'] <+: rest := by
  cases rest with
  | nil => simp
  | cons c rest =>
      rw [List.head?_cons, ne_eq, Option.some.injEq] at hrest
      simp [List.cons_prefix_cons, Ne.symm hrest]

/-- Three line feeds in a row start behind a line, not in it. -/
theorem tripleFeed_line {line : List Char} (hline : '\n' ∉ line) (rest : List Char) :
    ['\n', '\n', '\n'] <:+: line ++ rest ↔ ['\n', '\n', '\n'] <:+: rest := by
  induction line with
  | nil => rfl
  | cons c line ih =>
      rw [List.mem_cons, not_or] at hline
      rw [List.cons_append, List.infix_cons_iff, ih hline.2, List.cons_prefix_cons]
      simp [hline.1]

/-- A line feed adds three in a row only in front of two. -/
theorem tripleFeed_feed {rest : List Char} (hrest : ¬ ['\n', '\n'] <+: rest) :
    ['\n', '\n', '\n'] <:+: '\n' :: rest ↔ ['\n', '\n', '\n'] <:+: rest := by
  rw [List.infix_cons_iff, List.cons_prefix_cons]
  simp [hrest]

theorem feedPair_not_leading {rest : List Char} (hrest : rest.head? ≠ some '\n') :
    ¬ ['\n', '\n'] <+: rest :=
  fun hpair => feed_not_leading hrest ((List.prefix_append ['\n'] ['\n']).trans hpair)

/-- Three line feeds in a row start behind a paragraph, not in it. -/
theorem tripleFeed_paragraph {ls : List (List Char)} (hls : IsParagraph ls) (rest : List Char) :
    ['\n', '\n', '\n'] <:+: joinLines ls ++ rest ↔ ['\n', '\n', '\n'] <:+: rest := by
  induction ls with
  | nil => exact absurd rfl hls.ne_nil
  | cons line ls ih =>
      have hline := (hls.tidy line List.mem_cons_self).feedless
      cases ls with
      | nil => rw [joinLines_singleton, tripleFeed_line hline]
      | cons next ls =>
          have hpair := feedPair_not_leading (hls.tail.head_append rest)
          rw [joinLines_cons_cons, List.append_assoc, List.cons_append, tripleFeed_line hline,
            tripleFeed_feed hpair, ih hls.tail]

/-- Nowhere in a page do three line feeds follow each other. -/
theorem tripleFeed_page (hall : ∀ ls ∈ first :: rest, IsParagraph ls) :
    ¬ ['\n', '\n', '\n'] <:+: joinLines (pageLines first rest) ++ ['\n'] := by
  induction rest generalizing first with
  | nil =>
      rw [pageLines, tripleFeed_paragraph (hall first List.mem_cons_self)]
      intro htriple
      simpa using htriple.length_le
  | cons next rest ih =>
      obtain ⟨hfirst, hrest⟩ := List.forall_mem_cons.mp hall
      have hhead := pageLines_head_append hrest ['\n']
      have hpair : ¬ ['\n', '\n'] <+: '\n' :: (joinLines (pageLines next rest) ++ ['\n']) := by
        rw [List.cons_prefix_cons]
        exact fun h => feed_not_leading hhead h.2
      rw [joinLines_pageLines hfirst (hrest next List.mem_cons_self), List.append_assoc,
        tripleFeed_paragraph hfirst, List.cons_append, List.cons_append, tripleFeed_feed hpair,
        tripleFeed_feed (feedPair_not_leading hhead)]
      exact ih hrest

/-! ## Cutting -/

theorem splitBlocks_cons {c : Char} {rest : List Char}
    (hfeed : c = '\n' → rest.head? ≠ some '\n') :
    splitBlocks (c :: rest) = (splitBlocks rest).modifyHead (c :: ·) := by
  rw [splitBlocks]
  rintro after rfl rfl
  exact hfeed rfl rfl

/-- A line belongs to the block in which it stands. -/
theorem splitBlocks_line {line : List Char} (hline : '\n' ∉ line) (rest : List Char) :
    splitBlocks (line ++ rest) = (splitBlocks rest).modifyHead (line ++ ·) := by
  induction line with
  | nil => cases hrest : splitBlocks rest <;> simp [hrest]
  | cons c line ih =>
      rw [List.mem_cons, not_or] at hline
      rw [List.cons_append, splitBlocks_cons fun hc => absurd hc.symm hline.1, ih hline.2]
      cases splitBlocks rest <;> rfl

/-- All lines of a paragraph belong to one block. -/
theorem splitBlocks_paragraph {ls : List (List Char)} (hls : IsParagraph ls) (rest : List Char) :
    splitBlocks (joinLines ls ++ rest) = (splitBlocks rest).modifyHead (joinLines ls ++ ·) := by
  induction ls with
  | nil => exact absurd rfl hls.ne_nil
  | cons line ls ih =>
      have hline := (hls.tidy line List.mem_cons_self).feedless
      cases ls with
      | nil => rw [joinLines_singleton, splitBlocks_line hline]
      | cons next ls =>
          -- The line feed behind the line is not followed by another one.
          rw [joinLines_cons_cons, List.append_assoc, List.cons_append, splitBlocks_line hline,
            splitBlocks_cons fun _ => hls.tail.head_append rest, ih hls.tail]
          cases splitBlocks rest <;> simp

/-- Cutting a page at its blank lines finds its paragraphs. -/
theorem splitBlocks_page (hall : ∀ ls ∈ first :: rest, IsParagraph ls) :
    splitBlocks (joinLines (pageLines first rest)) = (first :: rest).map joinLines := by
  induction rest generalizing first with
  | nil =>
      have hfirst := splitBlocks_paragraph (hall first List.mem_cons_self) []
      rw [List.append_nil] at hfirst
      rw [pageLines, hfirst]
      simp [splitBlocks]
  | cons next rest ih =>
      obtain ⟨hfirst, hrest⟩ := List.forall_mem_cons.mp hall
      rw [joinLines_pageLines hfirst (hrest next List.mem_cons_self),
        splitBlocks_paragraph hfirst, splitBlocks, ih hrest]
      simp

/-! ## Pages as texts -/

theorem pageLines_isLine (hall : ∀ ls ∈ first :: rest, IsParagraph ls) :
    ∀ line ∈ pageLines first rest, IsLine line := by
  intro line hline
  rcases mem_pageLines hall hline with rfl | htidy
  · exact ⟨List.not_mem_nil, by simp⟩
  · exact htidy.isLine

theorem lines_page (hall : ∀ ls ∈ first :: rest, IsParagraph ls) :
    lines (endLines (pageLines first rest)) = pageLines first rest := by
  have hpage := lines_endLines_append (pageLines_isLine hall) []
  rwa [List.append_nil, lines, List.append_nil] at hpage

theorem blankLines_page (hall : ∀ ls ∈ first :: rest, IsParagraph ls) :
    blankLines (endLines (pageLines first rest)) = rest.length := by
  rw [blankLines, lines_page hall, count_pageLines hall]

/-- Before the last line feed of a page stands ink. -/
theorem joinLines_page_last (hall : ∀ ls ∈ first :: rest, IsParagraph ls) :
    (joinLines (pageLines first rest)).getLast? ≠ some '\n' := by
  obtain ⟨before, last, heq, hlast⟩ := pageLines_concat hall
  obtain ⟨c, hc, hink⟩ := hlast.inked
  have hbody : joinLines (before ++ [last]) = endLines before ++ last := by
    have hends := endLines_eq_joinLines (show before ++ [last] ≠ [] by simp)
    rw [endLines_append, endLines_cons, ← List.append_assoc] at hends
    exact (List.append_cancel_right hends).symm
  rw [heq, hbody, List.getLast?_append_of_ne_nil _ hlast.ne_nil, hc, ne_eq, Option.some.injEq]
  exact not_feed_of_ink hink

/-- A page is made of its paragraphs. -/
theorem page_inBlocks (hall : ∀ ls ∈ first :: rest, IsParagraph ls) :
    InBlocks (endLines (pageLines first rest)) ((first :: rest).map endLines) := by
  have htext := endLines_eq_joinLines (pageLines_ne_nil (hall first List.mem_cons_self) rest)
  refine ⟨⟨joinLines (pageLines first rest), htext, joinLines_page_last hall⟩, ?_, ?_, ?_⟩
  · rw [htext]
    exact tripleFeed_page hall
  · intro line hline c hc
    have hfeedless := fun line hline => (pageLines_isLine hall line hline).feedless
    -- Behind the last line feed there is one more line, which is empty.
    have hcases : line = [] ∨ IsTidy line := by
      rw [splitOn_endLines hfeedless, List.mem_append, List.mem_singleton] at hline
      exact hline.elim (mem_pageLines hall) Or.inl
    rcases hcases with rfl | htidy
    · cases hc
    · obtain ⟨d, hlast, hink⟩ := htidy.inked
      rw [Option.mem_def, hlast, Option.some.injEq] at hc
      exact hc ▸ hink
  · rw [htext, List.dropLast_concat, splitBlocks_page hall, List.map_map]
    refine List.map_congr_left fun ls hls => ?_
    exact (endLines_eq_joinLines (hall ls hls).ne_nil).symm

end Typings.Text
