import Typings.Declaration.Text
import Typings.Proofs.Lines

/-! # Lines of documentation comments

The lines of a comment keep it open up to its last line: the text of the documentation, wherever it
is cut into lines, trimmed and decorated, never ends the comment in which it stands. Indenting a
comment finds the same lines again.
-/

namespace Typings

open Text

/-- The text does not end a comment in which it stands. -/
def KeepsOpen (cs : List Char) : Prop := ¬ ['*', '/'] <:+: cs

theorem KeepsOpen.part {cs part : List Char} (hopen : KeepsOpen cs) (hpart : part <:+: cs) :
    KeepsOpen part :=
  fun hend => hopen (hend.trans hpart)

theorem keepsOpen_cons {c : Char} {cs : List Char} :
    KeepsOpen (c :: cs) ↔ ¬ (c = '*' ∧ cs.head? = some '/') ∧ KeepsOpen cs := by
  unfold KeepsOpen
  rw [List.infix_cons_iff, not_or]
  refine and_congr_left fun _ => not_congr ?_
  cases cs with
  | nil => simp [List.cons_prefix_cons]
  | cons d cs => simp [List.cons_prefix_cons, eq_comm]

/-- Two texts keep a comment open together if its end does not arise where they meet. -/
theorem KeepsOpen.append {first second : List Char} (hfirst : KeepsOpen first)
    (hsecond : KeepsOpen second) (hmeet : first.getLast? = some '*' → second.head? ≠ some '/') :
    KeepsOpen (first ++ second) := by
  induction first with
  | nil => exact hsecond
  | cons c first ih =>
      rw [keepsOpen_cons] at hfirst
      rw [List.cons_append, keepsOpen_cons]
      cases first with
      | nil => exact ⟨fun ⟨hstar, hslash⟩ => hmeet (by simp [hstar]) hslash, hsecond⟩
      | cons d first =>
          refine ⟨hfirst.1, ih hfirst.2 ?_⟩
          simpa only [List.getLast?_cons_cons] using hmeet

/-- A comment does not end in front of the end that is written behind it. -/
theorem KeepsOpen.no_end {body : List Char} (hopen : KeepsOpen ('*' :: body))
    (rest after : List Char) : body ++ '*' :: rest ≠ '/' :: after := by
  intro hslash
  refine (keepsOpen_cons.mp hopen).1 ⟨rfl, ?_⟩
  cases body with
  | nil => simp at hslash
  | cons d body => rw [List.head?_cons, (List.cons.inj hslash).1]

theorem keepsOpen_of_starless {cs : List Char} (hstarless : '*' ∉ cs) : KeepsOpen cs :=
  fun hend => hstarless (hend.subset List.mem_cons_self)

theorem keepsOpen_endLines {ls : List (List Char)} (hlines : ∀ line ∈ ls, KeepsOpen line) :
    KeepsOpen (endLines ls) := by
  induction ls with
  | nil => exact keepsOpen_of_starless (by simp [endLines])
  | cons line ls ih =>
      obtain ⟨hline, hrest⟩ := List.forall_mem_cons.mp hlines
      rw [endLines_cons]
      exact hline.append (keepsOpen_cons.mpr ⟨by simp, ih hrest⟩) (by simp)

/-! ## Escaping -/

/-- The escaped text starts as the text does. -/
theorem head?_escapeCommentEnd (cs : List Char) :
    (escapeCommentEnd cs).head? = cs.head? := by
  fun_cases escapeCommentEnd cs <;> rfl

theorem escapeCommentEnd_keepsOpen (cs : List Char) : KeepsOpen (escapeCommentEnd cs) := by
  fun_induction escapeCommentEnd cs with
  | case1 => exact fun hend => by simpa using hend.length_le
  | case2 rest ih =>
      refine keepsOpen_cons.mpr ⟨by simp, keepsOpen_cons.mpr ⟨by simp, ?_⟩⟩
      exact keepsOpen_cons.mpr ⟨by simp, ih⟩
  | case3 c rest hnot ih =>
      refine keepsOpen_cons.mpr ⟨?_, ih⟩
      rintro ⟨rfl, hslash⟩
      -- A slash behind the star would have been behind it in the text, and separated from it.
      rw [head?_escapeCommentEnd] at hslash
      obtain ⟨after, rfl⟩ := List.head?_eq_some_iff.mp hslash
      exact hnot after rfl rfl

/-- The escape is placed at a star by looking at the next character alone. -/
theorem escapeCommentEnd_cons (c : Char) (cs : List Char) :
    escapeCommentEnd (c :: cs) =
      (if c = '*' ∧ cs.head? = some '/' then ['*', '\\'] else [c]) ++ escapeCommentEnd cs := by
  split
  next h =>
    obtain ⟨rfl, hslash⟩ := h
    obtain ⟨rest, rfl⟩ := List.head?_eq_some_iff.mp hslash
    simp [escapeCommentEnd]
  next h =>
    rw [escapeCommentEnd]
    · rfl
    · rintro rest rfl rfl
      exact h ⟨rfl, rfl⟩

theorem escapeCommentEnd_append {first second : List Char}
    (hmeet : first.getLast? = some '*' → second.head? ≠ some '/') :
    escapeCommentEnd (first ++ second) = escapeCommentEnd first ++ escapeCommentEnd second := by
  induction first with
  | nil => rfl
  | cons c first ih =>
      rw [List.cons_append, escapeCommentEnd_cons, escapeCommentEnd_cons]
      cases first with
      | nil =>
          have hplain : ¬ (c = '*' ∧ second.head? = some '/') := by
            rintro ⟨rfl, hslash⟩
            exact hmeet rfl hslash
          simp [hplain, escapeCommentEnd]
      | cons d first =>
          rw [ih (by simpa using hmeet), List.append_assoc]
          rfl

theorem escapeCommentEnd_eq_nil_iff {cs : List Char} : escapeCommentEnd cs = [] ↔ cs = [] := by
  rw [← List.head?_eq_none_iff, head?_escapeCommentEnd, List.head?_eq_none_iff]

/-- The escaped text ends as the text does. -/
theorem getLast?_escapeCommentEnd (cs : List Char) :
    (escapeCommentEnd cs).getLast? = cs.getLast? := by
  induction cs with
  | nil => rfl
  | cons c cs ih =>
      rw [escapeCommentEnd_cons]
      by_cases hnil : cs = []
      · subst hnil
        simp [escapeCommentEnd]
      · rw [List.getLast?_append_of_ne_nil _ (mt escapeCommentEnd_eq_nil_iff.mp hnil), ih,
          List.getLast?_cons_of_ne_nil hnil]

/-- Blanks at the end of a text stand apart from what is escaped in it. -/
theorem trimEnd_escapeCommentEnd (cs : List Char) :
    trimEnd (escapeCommentEnd cs) = escapeCommentEnd (trimEnd cs) := by
  induction cs using List.reverseRecOn with
  | nil => rfl
  | append_singleton cs c ih =>
      by_cases hblank : isBlank c = true
      · have hslash : c ≠ '/' := by
          rintro rfl
          exact absurd hblank (by decide)
        rw [escapeCommentEnd_append (by simpa using fun _ => hslash), escapeCommentEnd_cons,
          if_neg (by simp), trimEnd_eq_rdropWhile, trimEnd_eq_rdropWhile,
          List.rdropWhile_concat_pos _ _ _ hblank, ← trimEnd_eq_rdropWhile cs, ← ih]
        exact List.rdropWhile_concat_pos isBlank (escapeCommentEnd cs) c hblank
      · have hlast : ∀ d, (escapeCommentEnd (cs ++ [c])).getLast? = some d → isBlank d = false := by
          intro d hd
          rw [getLast?_escapeCommentEnd, List.getLast?_concat, Option.some.injEq] at hd
          simpa [hd] using hblank
        rw [trimEnd_eq_self hlast, trimEnd_eq_rdropWhile, List.rdropWhile_concat_neg _ _ _ hblank]

/-- The first line of a text starts with a slash where the text does. -/
theorem head?_lines_slash {cs : List Char} :
    ((lines cs).headD []).head? = some '/' ↔ cs.head? = some '/' := by
  cases cs with
  | nil => simp [lines]
  | cons c cs => fun_cases lines (c :: cs) <;> simp

theorem lines_escapeCommentEnd_cons {c : Char} {rest : List Char} (hfeed : c ≠ '\n')
    (hreturn : c = '\r' → rest.head? ≠ some '\n')
    (hrest : lines (escapeCommentEnd rest) = (lines rest).map escapeCommentEnd) :
    lines (escapeCommentEnd (c :: rest)) = (lines (c :: rest)).map escapeCommentEnd := by
  have hhead : ((lines rest).map escapeCommentEnd).headD [] =
      escapeCommentEnd ((lines rest).headD []) := by
    cases lines rest <;> rfl
  rw [lines_cons hfeed hreturn, List.map_cons, escapeCommentEnd_cons, escapeCommentEnd_cons]
  -- the slash behind a star stands in the same line
  simp only [head?_lines_slash]
  split
  · rw [List.cons_append, List.singleton_append, lines_cons (by simp) (by simp),
      lines_cons (by simp) (by simp), hrest, hhead, List.map_tail]
    rfl
  · rw [List.singleton_append, lines_cons hfeed (by rwa [head?_escapeCommentEnd]), hrest, hhead,
      List.map_tail]
    rfl

/-- Cutting into lines and escaping can be done in either order. -/
theorem lines_escapeCommentEnd (cs : List Char) :
    lines (escapeCommentEnd cs) = (lines cs).map escapeCommentEnd := by
  have hreturn : ∀ {c : Char} {rest : List Char},
      (∀ after, c = '\r' → rest = '\n' :: after → False) →
      c = '\r' → rest.head? ≠ some '\n' := by
    intro c rest hnot hc hhead
    obtain ⟨after, hrest⟩ := List.head?_eq_some_iff.mp hhead
    exact hnot after hc hrest
  induction cs using lines.induct with
  | case1 => rfl
  | case2 rest ih =>
      rw [escapeCommentEnd_cons, if_neg (by simp), List.singleton_append, lines_feed, lines_feed,
        ih]
      rfl
  | case3 rest ih =>
      rw [escapeCommentEnd_cons, if_neg (by simp), escapeCommentEnd_cons, if_neg (by simp)]
      simp [lines, ih, escapeCommentEnd]
  | case4 c rest hfeed hnot _ ih => exact lines_escapeCommentEnd_cons hfeed (hreturn hnot) ih
  | case5 c rest hfeed hnot _ _ _ ih => exact lines_escapeCommentEnd_cons hfeed (hreturn hnot) ih

/-! ## Lines that are shown -/

/-- What a line of a comment is before it is decorated: a line that keeps the comment open. -/
structure CommentLine (line : List Char) : Prop where
  isLine : IsLine line
  keepsOpen : KeepsOpen line

theorem commentLine_of_mem {text : String} {line : List Char} (hline : line ∈ commentLines text) :
    CommentLine line := by
  obtain ⟨raw, hraw, rfl⟩ := List.mem_map.mp hline
  obtain ⟨hpart, hfeedless⟩ := mem_lines hraw
  refine ⟨trimEnd_isLine hfeedless, ?_⟩
  exact (escapeCommentEnd_keepsOpen _).part ((trimEnd_front raw).isInfix.trans hpart)

/-- A decorated line starts with a blank, and what was decorated cannot end the comment. -/
theorem CommentLine.decorate {line : List Char} (hline : CommentLine line) :
    CommentLine (decorateLine line) := by
  unfold decorateLine
  split
  · exact ⟨⟨by decide, by decide⟩, by unfold KeepsOpen; decide⟩
  next hne =>
    refine ⟨hline.isLine.append (by decide) (by simpa using hne), ?_⟩
    exact KeepsOpen.append (by unfold KeepsOpen; decide) hline.keepsOpen fun h => by simp at h

theorem decorateLine_ne_nil (line : List Char) : decorateLine line ≠ [] := by
  unfold decorateLine
  split <;> simp

/-! ## Shape -/

/-- The lines of a comment: none, a single line, or a block. -/
inductive CommentBlock : List (List Char) → Prop
  | absent : CommentBlock []
  | single (line : List Char) (comment : CommentLine line) :
      CommentBlock ["/** ".toList ++ line ++ " */".toList]
  | block (inner : List (List Char)) (comment : ∀ line ∈ inner, CommentLine line)
      (inked : ∀ line ∈ inner, line ≠ []) :
      CommentBlock ("/**".toList :: inner ++ [" */".toList])

/-- The lines of the comment for a text. -/
def docBlock (text : String) : List (List Char) :=
  match commentLines text with
  | [] => []
  | [line] => ["/** ".toList ++ line ++ " */".toList]
  | block => "/**".toList :: block.map decorateLine ++ [" */".toList]

theorem docBlock_shape (text : String) : CommentBlock (docBlock text) := by
  have hcomment : ∀ line ∈ commentLines text, CommentLine line := fun _ => commentLine_of_mem
  unfold docBlock
  generalize commentLines text = block at hcomment
  rcases block with _ | ⟨line, _ | ⟨second, rest⟩⟩
  · exact .absent
  · exact .single line (hcomment line (List.mem_singleton_self line))
  · refine .block _ (List.forall_mem_map.mpr fun line hline => ?_) ?_
    · exact (hcomment line hline).decorate
    · exact List.forall_mem_map.mpr fun line _ => decorateLine_ne_nil line

/-- Every line of a comment is a line of text and has ink. -/
theorem CommentBlock.isLine {block : List (List Char)} (hblock : CommentBlock block) :
    ∀ line ∈ block, IsLine line ∧ line ≠ [] := by
  have hclose : IsLine " */".toList := ⟨by decide, by decide⟩
  cases hblock with
  | absent => simp
  | single line hline =>
      rw [List.forall_mem_singleton]
      refine ⟨hclose.append ?_ (by decide), by simp⟩
      simp [hline.isLine.feedless]
  | block inner hinner hinked =>
      refine List.forall_mem_append.mpr ⟨List.forall_mem_cons.mpr ⟨?_, fun line hline => ?_⟩, ?_⟩
      · exact ⟨⟨by decide, by decide⟩, by decide⟩
      · exact ⟨(hinner line hline).isLine, hinked line hline⟩
      · exact List.forall_mem_singleton.mpr ⟨hclose, by decide⟩

/-- Lines that are ended except for the last one are found again. -/
theorem lines_block {ls : List (List Char)} {last : List Char}
    (hlines : ∀ line ∈ ls ++ [last], IsLine line ∧ line ≠ []) :
    lines (endLines ls ++ last) = ls ++ [last] := by
  obtain ⟨hls, hlast⟩ := List.forall_mem_append.mp hlines
  obtain ⟨hline, hne⟩ := List.forall_mem_singleton.mp hlast
  rw [lines_endLines_append fun line h => (hls line h).1, lines_of_feedless hline.feedless hne]

/-- A text without lines has no comment; any other comment has the lines of its block. -/
theorem docComment_lines (text : String) :
    (docComment text = none ∧ docBlock text = []) ∨
      ∃ comment, docComment text = some comment ∧ lines comment.toList = docBlock text := by
  have hlines := (docBlock_shape text).isLine
  unfold docBlock at hlines
  unfold docComment docBlock
  generalize commentLines text = block at hlines
  rcases block with _ | ⟨line, _ | ⟨second, rest⟩⟩
  · exact Or.inl ⟨rfl, rfl⟩
  · refine Or.inr ⟨_, rfl, ?_⟩
    have hsingle := @lines_block [] _ hlines
    simpa [endLines] using hsingle
  · refine Or.inr ⟨_, rfl, ?_⟩
    have hblock := lines_block hlines
    simpa [endLines_cons] using hblock

/-- The lines of the comment for a text, behind the margin. -/
def docBlockLines (margin : String) (doc : Option String) : List (List Char) :=
  match doc with
  | none => []
  | some text => (docBlock text).map (margin.toList ++ ·)

/-- An indented comment consists of the lines of its block behind the margin. -/
theorem docLines_toList (margin : String) (doc : Option String) :
    (docLines margin doc).toList = endLines (docBlockLines margin doc) := by
  unfold docLines docBlockLines
  cases doc with
  | none => rfl
  | some text =>
      rcases docComment_lines text with ⟨hnone, hblock⟩ | ⟨comment, hsome, hlines⟩
      · simp [hnone, hblock, endLines]
      · simp only [Option.bind_some, hsome, indentLines, String.toList_ofList, hlines]
        congr 1
        refine List.map_congr_left fun line hline => ?_
        simp [((docBlock_shape text).isLine line hline).2]

/-! ## Behind a margin -/

theorem starless_of_margin {margin : List Char} (hmargin : ∀ c ∈ margin, c = ' ') :
    '*' ∉ margin := by
  intro hstar
  have hblank := hmargin '*' hstar
  simp at hblank

theorem CommentLine.keepsOpen_margin {line margin : List Char} (hline : CommentLine line)
    (hmargin : ∀ c ∈ margin, c = ' ') : KeepsOpen (margin ++ line) := by
  have hstarless := starless_of_margin hmargin
  refine (keepsOpen_of_starless hstarless).append hline.keepsOpen ?_
  exact fun hlast => absurd (List.mem_of_getLast? hlast) hstarless

theorem CommentLine.keepsOpen_single {line : List Char} (hline : CommentLine line) :
    KeepsOpen ("* ".toList ++ (line ++ [' '])) := by
  refine KeepsOpen.append (by unfold KeepsOpen; decide) ?_ (by simp)
  exact hline.keepsOpen.append (keepsOpen_of_starless (by simp)) (by simp)

theorem keepsOpen_last {margin : List Char} (hmargin : ∀ c ∈ margin, c = ' ') :
    KeepsOpen (margin ++ [' ']) :=
  keepsOpen_of_starless (by simpa using starless_of_margin hmargin)

/-- Behind a margin of blanks, the lines of a block are one comment that nothing in it ends. -/
theorem CommentBlock.comment {block : List (List Char)} (hblock : CommentBlock block)
    {margin : List Char} (hmargin : ∀ c ∈ margin, c = ' ') :
    block = [] ∨ ∃ body, KeepsOpen body ∧ endLines (block.map (margin ++ ·)) =
      margin ++ ('/' :: '*' :: body ++ ['*', '/']) ++ ['\n'] := by
  cases hblock with
  | absent => exact Or.inl rfl
  | single line hline =>
      right
      exact ⟨"* ".toList ++ (line ++ [' ']), hline.keepsOpen_single, by simp [endLines]⟩
  | block inner hinner _ =>
      right
      refine ⟨'*' :: '\n' :: (endLines (inner.map (margin ++ ·)) ++ (margin ++ [' '])), ?_, ?_⟩
      · have hlines : KeepsOpen (endLines (inner.map (margin ++ ·))) :=
          keepsOpen_endLines <| List.forall_mem_map.mpr fun line hline =>
            (hinner line hline).keepsOpen_margin hmargin
        refine keepsOpen_cons.mpr ⟨by simp, keepsOpen_cons.mpr ⟨by simp, ?_⟩⟩
        refine hlines.append (keepsOpen_last hmargin) fun _ hslash => ?_
        rcases List.mem_append.mp (List.mem_of_head? hslash) with hmem | hmem
        · have hblank := hmargin _ hmem
          simp at hblank
        · simp at hmem
      · simp [endLines]

end Typings
