import Mathlib.Data.List.DropRight
import Typings.Diff.Text
import Typings.Proofs.Diff.Hunks
import Typings.Proofs.Lines

/-! # What differences tell

The difference between two texts can be trusted. There is an alignment of their lines such that all
deleted lines and all inserted ones are printed, in order and behind their marks, and nothing else
is printed but kept lines within three lines of them. Texts with the same lines are the same, so no
difference between texts goes unprinted.
-/

namespace Typings.Diff

open Text

/-! ## Lines with their endings -/

/-- The line ends with a line feed, with a carriage return, with both in this order, or with none of
them, and has none before. -/
def EndedOnce (line : List Char) : Prop :=
  ∃ body ending, line = body ++ ending ∧ '\n' ∉ body ∧ '\r' ∉ body ∧
    ending ∈ [[], ['\n'], ['\r'], ['\r', '\n']]

theorem linesWithEnds_flatten (cs : List Char) : (linesWithEnds cs).flatten = cs := by
  fun_induction linesWithEnds cs <;> simp_all

theorem linesWithEnds_endedOnce {cs line : List Char} (hline : line ∈ linesWithEnds cs) :
    EndedOnce line := by
  fun_induction linesWithEnds cs generalizing line with
  | case1 => cases hline
  | case2 rest ih =>
      rcases List.mem_cons.mp hline with rfl | hline
      · exact ⟨[], ['\r', '\n'], rfl, by simp⟩
      · exact ih hline
  | case3 c rest hfeed hending ih =>
      rcases List.mem_cons.mp hline with rfl | hline
      · refine ⟨[], [c], rfl, by simp, by simp, ?_⟩
        obtain rfl | rfl := hending <;> simp
      · exact ih hline
  | case4 c rest hfeed hplain hnone ih =>
      rw [List.mem_singleton.mp hline]
      rw [not_or] at hplain
      refine ⟨[c], [], rfl, ?_, ?_, List.mem_cons_self⟩
      · simpa using Ne.symm hplain.2
      · simpa using Ne.symm hplain.1
  | case5 c rest hfeed hplain first others hsome ih =>
      rw [not_or] at hplain
      rcases List.mem_cons.mp hline with rfl | hline
      · obtain ⟨body, ending, rfl, hfeedless, hreturnless, hends⟩ :=
          ih (by rw [hsome]; exact List.mem_cons_self)
        refine ⟨c :: body, ending, rfl, ?_, ?_, hends⟩
        · simp [Ne.symm hplain.2, hfeedless]
        · simp [Ne.symm hplain.1, hreturnless]
      · exact ih (by rw [hsome]; exact List.mem_cons_of_mem _ hline)

theorem withoutLineFeeds_feedless {line : List Char} (hline : EndedOnce line) :
    '\n' ∉ withoutLineFeeds line := by
  have hdrop : ∀ cs, withoutLineFeeds cs = cs.rdropWhile (· == '\n') := fun _ => rfl
  obtain ⟨body, ending, rfl, hfeedless, _, hending⟩ := hline
  have hbody : body.rdropWhile (· == '\n') = body := by
    rw [List.rdropWhile_eq_self_iff]
    intro hne hlast
    exact hfeedless (beq_iff_eq.mp hlast ▸ List.getLast_mem hne)
  have hreturn : (body ++ ['\r']).rdropWhile (· == '\n') = body ++ ['\r'] :=
    List.rdropWhile_concat_neg _ _ _ (by decide)
  simp only [List.mem_cons, List.not_mem_nil, or_false] at hending
  rw [hdrop]
  obtain rfl | rfl | rfl | rfl := hending
  · rwa [List.append_nil, hbody]
  · rwa [List.rdropWhile_concat_pos _ _ _ rfl, hbody]
  · rw [hreturn]
    simp [hfeedless]
  · rw [← List.singleton_append, ← List.append_assoc, List.rdropWhile_concat_pos _ _ _ rfl, hreturn]
    simp [hfeedless]

/-! ## Printed lines -/

/-- A line as it is printed, behind the mark for what becomes of it. -/
def Edit.shown : Edit (List Char) → List Char
  | keep line => ' ' :: withoutLineFeeds line
  | delete line => '-' :: withoutLineFeeds line
  | insert line => '+' :: withoutLineFeeds line

/-- The line between two hunks. -/
def separatorLine : List Char := "...".toList

/-- The lines that are printed for hunks. -/
def printedLines (hunks : List (List (Edit (List Char)))) : List (List Char) :=
  [separatorLine].intercalate (hunks.map (·.map Edit.shown))

/-- What is printed behind a mark, line by line. -/
def behindMark (mark : Char) (printed : List (List Char)) : List (List Char) :=
  printed.filterMap fun line => if line.head? = some mark then some line.tail else none

/-- The two lines over the difference. -/
def heading (label : String) : String :=
  "--- " ++ label ++ " (current)\n+++ " ++ label ++ " (generated)\n"

/-- The text is the heading and the given lines under it. -/
structure Prints (text label : String) (printed : List (List Char)) : Prop where
  text_eq : text = heading label ++ String.ofList (endLines printed)
  feedless : ∀ line ∈ printed, '\n' ∉ line

theorem shown_flatten (s : Stretch (List Char)) :
    s.shown.flatten = endLines (s.edits.map Edit.shown) := by
  have hline : ∀ mark, markedLine mark = fun line => mark :: (withoutLineFeeds line ++ ['\n']) :=
    fun _ => rfl
  cases s <;> simp [Stretch.shown, Stretch.edits, endLines, hline, Edit.shown, List.flatMap_map,
    ← List.flatMap_def]

theorem hunkText_eq (hunk : List (Stretch (List Char))) :
    hunkText hunk = endLines ((editsOf hunk).map Edit.shown) := by
  induction hunk with
  | nil => rfl
  | cons s hunk ih =>
      rw [hunkText, List.flatMap_cons, ← hunkText, ih, shown_flatten, editsOf_cons, List.map_append,
        endLines_append]

theorem endLines_intercalate (between : List (List Char)) (parts : List (List (List Char))) :
    endLines (between.intercalate parts) = (endLines between).intercalate (parts.map endLines) := by
  induction parts with
  | nil => rfl
  | cons part parts ih =>
      cases parts with
      | nil => simp [List.intercalate_singleton]
      | cons next parts =>
          rw [List.intercalate_cons_cons, endLines_append, endLines_append, ih, List.map_cons,
            List.map_cons, List.map_cons, List.intercalate_cons_cons]

theorem endLines_printedLines (hunks : List (List (Stretch (List Char)))) :
    endLines (printedLines (hunks.map editsOf)) =
      hunkSeparator.intercalate (hunks.map hunkText) := by
  have hseparator : endLines [separatorLine] = hunkSeparator := by decide
  rw [printedLines, endLines_intercalate, hseparator, List.map_map, List.map_map]
  congr 1
  exact List.map_congr_left fun hunk _ => (hunkText_eq hunk).symm

theorem behindMark_append (mark : Char) (first second : List (List Char)) :
    behindMark mark (first ++ second) = behindMark mark first ++ behindMark mark second :=
  List.filterMap_append

/-- A mark finds the lines that are printed behind it, in every hunk and nowhere else. -/
theorem behindMark_printedLines {mark : Char} (part : Edit (List Char) → Option (List Char))
    (hmark : mark ≠ '.') (hpart : ∀ e, (part e).map withoutLineFeeds =
      if e.shown.head? = some mark then some e.shown.tail else none)
    (hunks : List (List (Edit (List Char)))) :
    behindMark mark (printedLines hunks) =
      (hunks.flatten.filterMap part).map withoutLineFeeds := by
  have hhunk : ∀ hunk : List (Edit (List Char)), behindMark mark (hunk.map Edit.shown) =
      (hunk.filterMap part).map withoutLineFeeds := by
    intro hunk
    rw [behindMark, List.filterMap_map, List.map_filterMap]
    exact List.filterMap_congr fun e _ => (hpart e).symm
  have hseparator : behindMark mark [separatorLine] = [] := by
    simp [behindMark, separatorLine, Ne.symm hmark]
  induction hunks with
  | nil => rfl
  | cons hunk hunks ih =>
      rw [List.flatten_cons, List.filterMap_append, List.map_append, ← ih, ← hhunk]
      cases hunks with
      | nil => simp [printedLines, behindMark]
      | cons next hunks =>
          rw [printedLines, List.map_cons, List.map_cons, List.intercalate_cons_cons,
            behindMark_append, behindMark_append, hseparator, List.append_nil, ← List.map_cons,
            ← printedLines]

theorem mem_printedLines {hunks : List (List (Edit (List Char)))} {line : List Char}
    (hline : line ∈ printedLines hunks) :
    line = separatorLine ∨ ∃ e ∈ hunks.flatten, line = e.shown := by
  induction hunks with
  | nil => cases hline
  | cons hunk hunks ih =>
      have hhunk : line ∈ hunk.map Edit.shown → ∃ e ∈ (hunk :: hunks).flatten, line = e.shown := by
        intro hmem
        obtain ⟨e, he, rfl⟩ := List.mem_map.mp hmem
        exact ⟨e, List.mem_append_left _ he, rfl⟩
      cases hunks with
      | nil => exact .inr (hhunk (by simpa [printedLines] using hline))
      | cons next hunks =>
          rw [printedLines, List.map_cons, List.map_cons, List.intercalate_cons_cons,
            ← List.map_cons, ← printedLines, List.mem_append, List.mem_append,
            List.mem_singleton] at hline
          obtain (hline | hline) | hline := hline
          · exact .inr (hhunk hline)
          · exact .inl hline
          · obtain hline | ⟨e, he, heq⟩ := ih hline
            · exact .inl hline
            · exact .inr ⟨e, List.mem_append_right _ he, heq⟩

theorem Edit.shown_feedless {e : Edit (List Char)} {old new : List Char}
    {a : Alignment (linesWithEnds old) (linesWithEnds new)} (he : e ∈ a.edits) :
    '\n' ∉ e.shown := by
  have hold : ∀ line, e.old? = some line → '\n' ∉ withoutLineFeeds line := by
    intro line hside
    have hmem : line ∈ a.edits.filterMap Edit.old? := List.mem_filterMap.mpr ⟨e, he, hside⟩
    rw [a.old_eq] at hmem
    exact withoutLineFeeds_feedless (linesWithEnds_endedOnce hmem)
  have hnew : ∀ line, e.new? = some line → '\n' ∉ withoutLineFeeds line := by
    intro line hside
    have hmem : line ∈ a.edits.filterMap Edit.new? := List.mem_filterMap.mpr ⟨e, he, hside⟩
    rw [a.new_eq] at hmem
    exact withoutLineFeeds_feedless (linesWithEnds_endedOnce hmem)
  cases e with
  | keep line => simpa [Edit.shown] using hold line rfl
  | delete line => simpa [Edit.shown] using hold line rfl
  | insert line => simpa [Edit.shown] using hnew line rfl

/-- The printed lines show an alignment: what is deleted and what is inserted completely and in
order, what is kept in parts, and no kept line that is not within three lines of a change that is
printed in the same hunk. -/
structure Shows (printed : List (List Char)) {old new : List (List Char)} (a : Alignment old new) :
    Prop where
  deleted : behindMark '-' printed = a.deleted.map withoutLineFeeds
  inserted : behindMark '+' printed = a.inserted.map withoutLineFeeds
  kept : (behindMark ' ' printed).Sublist (a.common.map withoutLineFeeds)
  hunks : ∃ hunks, printed = printedLines hunks ∧ Excerpt hunks a.edits ∧
    ∀ hunk ∈ hunks, NearChange [] hunk []

/-- Some deleted or inserted line is printed. -/
def ShowsChange (printed : List (List Char)) : Prop :=
  behindMark '-' printed ≠ [] ∨ behindMark '+' printed ≠ []

theorem shows_of_excerpt {old new : List (List Char)} {a : Alignment old new}
    {hunks : List (List (Edit (List Char)))} (hexcerpt : Excerpt hunks a.edits)
    (hnear : ∀ hunk ∈ hunks, NearChange [] hunk []) : Shows (printedLines hunks) a where
  deleted := by
    rw [behindMark_printedLines Edit.deleted? (by decide)
      fun e => by cases e <;> simp [Edit.deleted?, Edit.shown]]
    rw [hexcerpt.filterMap_flatten fun _ => rfl, Alignment.deleted]
  inserted := by
    rw [behindMark_printedLines Edit.inserted? (by decide)
      fun e => by cases e <;> simp [Edit.inserted?, Edit.shown]]
    rw [hexcerpt.filterMap_flatten fun _ => rfl, Alignment.inserted]
  kept := by
    rw [behindMark_printedLines Edit.kept? (by decide)
      fun e => by cases e <;> simp [Edit.kept?, Edit.shown]]
    exact (hexcerpt.flatten_sublist.filterMap _).map _
  hunks := ⟨hunks, rfl, hexcerpt, hnear⟩

/-- Where an alignment of the lines of two texts is shown and no change is, the texts are the
same. -/
theorem Shows.eq_of_no_change {printed : List (List Char)} {old new : List Char}
    {a : Alignment (linesWithEnds old) (linesWithEnds new)} (h : Shows printed a)
    (hnone : ¬ ShowsChange printed) : old = new := by
  simp only [ShowsChange, h.deleted, h.inserted, ne_eq, List.map_eq_nil_iff, not_or,
    not_not] at hnone
  rw [← linesWithEnds_flatten old, ← linesWithEnds_flatten new]
  exact congrArg List.flatten (a.eq_of_unchanged hnone.1 hnone.2)

/-- The difference between two texts is an alignment of their lines, of which it shows every change
and nothing that is far from all changes. It shows a change exactly if the texts differ. -/
theorem difference_shows_changes (label old new : String) :
    ∃ (printed : List (List Char))
      (a : Alignment (linesWithEnds old.toList) (linesWithEnds new.toList)),
      Prints (differenceText label old new) label printed ∧
      a.common.Sublist (linesWithEnds old.toList) ∧ a.common.Sublist (linesWithEnds new.toList) ∧
      Shows printed a ∧ (ShowsChange printed ↔ old ≠ new) := by
  obtain ⟨a, hexcerpt, hnear⟩ :=
    hunksBetween_excerpt (linesWithEnds old.toList) (linesWithEnds new.toList)
  have hshows := shows_of_excerpt hexcerpt hnear
  refine ⟨_, a, ⟨?_, ?_⟩, a.common_sublist_old, a.common_sublist_new, hshows, ?_, ?_⟩
  · rw [endLines_printedLines]
    rfl
  · intro line hline
    obtain rfl | ⟨e, he, rfl⟩ := mem_printedLines hline
    · decide
    · exact Edit.shown_feedless (hexcerpt.flatten_sublist.subset he)
  · rintro hchange rfl
    rw [hunksBetween_self] at hchange
    simp [ShowsChange, printedLines, behindMark] at hchange
  · intro hne
    by_contra hnone
    exact hne (String.toList_inj.mp (hshows.eq_of_no_change hnone))

example : differenceText "types.ts" "a\nb\nc\n" "a\nB\nc" =
    "--- types.ts (current)\n+++ types.ts (generated)\n a\n-b\n-c\n+B\n+c\n" := by
  decide +kernel

end Typings.Diff
