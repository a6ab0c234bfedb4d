import Typings.Proofs.Diff.Alignments
import Typings.Proofs.Diff.Compaction

/-! # Hunks

The hunks between two lists are parts of an alignment of them. They leave out nothing but kept
items, and every kept item in a hunk has a change within three places. Between equal lists there are
no hunks.
-/

namespace Typings.Diff

variable {α : Type}

/-! ## Stretches of scripts -/

namespace Stretch

/-- Kept items and changes alternate, and no change is empty. The flag is set if a change may come
first, and not set if kept items may. -/
inductive Alternates : Bool → List (Stretch α) → Prop
  | nil (changed : Bool) : Alternates changed []
  | same (items : List α) {rest : List (Stretch α)} (behind : Alternates true rest) :
      Alternates false (same items :: rest)
  | change {deleted inserted : List α} (filled : deleted ≠ [] ∨ inserted ≠ [])
      {rest : List (Stretch α)} (behind : Alternates false rest) :
      Alternates true (change deleted inserted :: rest)

theorem prepend_alternates {c : Chunk α} {changed : Bool} {stretches : List (Stretch α)}
    (hc : c.items ≠ []) (hstretches : Alternates changed stretches) :
    ∃ changed, Alternates changed (prepend c stretches) := by
  cases c with
  | keep items =>
      cases hstretches with
      | nil => exact ⟨false, .same items (.nil true)⟩
      | same others hbehind => exact ⟨false, .same (items ++ others) hbehind⟩
      | change hfilled hbehind => exact ⟨false, .same items (.change hfilled hbehind)⟩
  | delete items =>
      cases hstretches with
      | nil => exact ⟨true, .change (.inl hc) (.nil false)⟩
      | same others hbehind => exact ⟨true, .change (.inl hc) (.same others hbehind)⟩
      | change hfilled hbehind =>
          exact ⟨true, .change (.inl (List.append_ne_nil_of_left_ne_nil hc _)) hbehind⟩
  | insert items =>
      cases hstretches with
      | nil => exact ⟨true, .change (.inr hc) (.nil false)⟩
      | same others hbehind => exact ⟨true, .change (.inr hc) (.same others hbehind)⟩
      | change hfilled hbehind =>
          exact ⟨true, .change (.inr (List.append_ne_nil_of_left_ne_nil hc _)) hbehind⟩

theorem ofScript_alternates {s : Script α} (hs : Script.Filled s) :
    ∃ changed, Alternates changed (ofScript s) := by
  induction s with
  | nil => exact ⟨false, .nil false⟩
  | cons c s ih =>
      obtain ⟨hc, hrest⟩ := Script.filled_cons.mp hs
      obtain ⟨changed, hstretches⟩ := ih hrest
      exact prepend_alternates hc hstretches

theorem edits_change (deleted inserted : List α) :
    ∀ e ∈ (change deleted inserted).edits, e.isChange = true := by
  simp only [edits, List.mem_append, List.mem_map]
  rintro e (⟨item, _, rfl⟩ | ⟨item, _, rfl⟩) <;> rfl

theorem edits_change_ne_nil {deleted inserted : List α} (h : deleted ≠ [] ∨ inserted ≠ []) :
    (change deleted inserted).edits ≠ [] := by
  cases deleted <;> simp_all [edits]

end Stretch

/-! ## Context of changes -/

/-- Every kept item among the edits has a change within three places, if what stands before the
edits and behind them is shown as well. -/
def NearChange (before edits behind : List (Edit α)) : Prop :=
  ∀ front item back, edits = front ++ .keep item :: back →
    (∃ e ∈ takeLast 3 (before ++ front), e.isChange = true) ∨
      ∃ e ∈ (back ++ behind).take 3, e.isChange = true

namespace NearChange

variable {before edits behind : List (Edit α)}

theorem of_changes (hedits : ∀ e ∈ edits, e.isChange = true) : NearChange before edits behind := by
  rintro front item back rfl
  exact absurd (hedits (.keep item) (by simp)) (by simp [Edit.isChange])

theorem append {edits' : List (Edit α)} (hfirst : NearChange before edits (edits' ++ behind))
    (hsecond : NearChange (before ++ edits) edits' behind) :
    NearChange before (edits ++ edits') behind := by
  intro front item back heq
  obtain ⟨between, hfront, hback⟩ | ⟨between, hfront, hback⟩ := List.append_eq_append_iff.mp heq
  · rw [hfront, ← List.append_assoc]
    exact hsecond between item back hback
  · cases between with
    | nil =>
        rw [List.append_nil] at hfront
        rw [← hfront]
        simpa using hsecond [] item back hback.symm
    | cons e between =>
        obtain ⟨rfl, htail⟩ := List.cons.inj hback
        rw [htail, List.append_eq, List.append_assoc]
        exact hfirst front item between hfront

/-- Up to three items behind a change are near to it. -/
theorem of_last {items : List α} (hitems : items.length ≤ 3)
    (hbefore : ∃ e ∈ before.getLast?, e.isChange = true) :
    NearChange before (items.map .keep) behind := by
  intro front item back heq
  obtain ⟨e, hlast, he⟩ := hbefore
  obtain ⟨earlier, rfl⟩ := List.getLast?_eq_some_iff.mp hlast
  have hlength := congrArg List.length heq
  simp only [List.length_map, List.length_append, List.length_cons] at hlength
  refine .inl ⟨e, ?_, he⟩
  have hdrop : (earlier ++ ([e] ++ front)).length - 3 ≤ earlier.length := by
    simp only [List.length_append, List.length_singleton]
    omega
  rw [takeLast, List.append_assoc, List.drop_append_of_le_length hdrop]
  simp

/-- Up to three items before a change are near to it. -/
theorem of_head {items : List α} (hitems : items.length ≤ 3)
    (hbehind : ∃ e ∈ behind.head?, e.isChange = true) :
    NearChange before (items.map .keep) behind := by
  intro front item back heq
  obtain ⟨e, hhead, he⟩ := hbehind
  obtain ⟨later, rfl⟩ := List.head?_eq_some_iff.mp hhead
  have hlength := congrArg List.length heq
  simp only [List.length_map, List.length_append, List.length_cons] at hlength
  refine .inr ⟨e, ?_, he⟩
  obtain ⟨places, hplaces⟩ : ∃ places, 3 - back.length = places + 1 := ⟨2 - back.length, by omega⟩
  rw [List.take_append, hplaces, List.take_succ_cons]
  simp

/-- Between two changes, up to six items are near to one of them. -/
theorem of_between {items : List α} (hitems : items.length ≤ 6)
    (hbefore : ∃ e ∈ before.getLast?, e.isChange = true)
    (hbehind : ∃ e ∈ behind.head?, e.isChange = true) :
    NearChange before (items.map .keep) behind := by
  rw [← List.take_append_drop 3 items, List.map_append]
  refine (of_last ?_ hbefore).append (of_head ?_ hbehind)
  · rw [List.length_take]
    omega
  · rw [List.length_drop]
    omega

end NearChange

/-! ## Cutting -/

theorem length_takeLast_le (n : Nat) (items : List α) : (takeLast n items).length ≤ n := by
  rw [takeLast, List.length_drop]
  omega

/-- What is left out of a long list when its first and its last items are shown. -/
theorem exists_left_out {n : Nat} {items : List α} (hlong : 2 * n ≤ items.length) :
    ∃ left, items = items.take n ++ (left ++ takeLast n items) := by
  have hlast : takeLast n items = (items.drop n).drop (items.length - 2 * n) := by
    rw [takeLast, List.drop_drop]
    congr 1
    omega
  refine ⟨(items.drop n).take (items.length - 2 * n), ?_⟩
  rw [hlast, List.take_append_drop, List.take_append_drop]

/-- The edits start with a part that is shown behind other edits, and the hunks are an excerpt of
what follows. All that is shown is near to a change. -/
structure Cut (before edits first : List (Edit α)) (hunks : List (List (Edit α))) : Prop where
  excerpt : ∃ rest, edits = first ++ rest ∧ Excerpt hunks rest
  near_first : NearChange before first []
  near_hunks : ∀ hunk ∈ hunks, NearChange [] hunk []

namespace Cut

variable {before edits first : List (Edit α)} {hunks : List (List (Edit α))}

variable (before) in
/-- What is shown is shown behind other edits as well, if it makes these be near to a change. -/
theorem prepend {shown : List (Edit α)} (h : Cut (before ++ shown) edits first hunks)
    (hshown : NearChange before shown first) :
    Cut before (shown ++ edits) (shown ++ first) hunks where
  excerpt := by
    obtain ⟨rest, rfl, hrest⟩ := h.excerpt
    exact ⟨rest, (List.append_assoc ..).symm, hrest⟩
  near_first := .append (by rwa [List.append_nil]) h.near_first
  near_hunks := h.near_hunks

/-- What is shown may be the first part, and kept items behind it be left out. -/
theorem leaveOut {shown : List (Edit α)} (left : List α) (h : Cut [] edits first hunks)
    (hshown : NearChange before shown []) :
    Cut before (shown ++ (left.map .keep ++ edits)) shown (first :: hunks) where
  excerpt := by
    obtain ⟨rest, rfl, hrest⟩ := h.excerpt
    exact ⟨_, rfl, .hunk left first hrest⟩
  near_first := hshown
  near_hunks := List.forall_mem_cons.mpr ⟨h.near_first, h.near_hunks⟩

/-- Kept items before the first part may be left out. -/
theorem skip (left : List α) (h : Cut [] edits first hunks) :
    Excerpt (first :: hunks) (left.map .keep ++ edits) ∧
      ∀ hunk ∈ first :: hunks, NearChange [] hunk [] := by
  obtain ⟨rest, rfl, hrest⟩ := h.excerpt
  exact ⟨.hunk left first hrest, List.forall_mem_cons.mpr ⟨h.near_first, h.near_hunks⟩⟩

variable {items : List α}

variable (before) in
theorem nil : Cut before [] ([] : List (Edit α)) [] where
  excerpt := ⟨[], rfl, .rest []⟩
  near_first := .of_changes nofun
  near_hunks := nofun

/-- Kept items at the end, of which the first ones are shown. -/
theorem last (hbefore : ∃ e ∈ before.getLast?, e.isChange = true) (items : List α) :
    Cut before (items.map .keep) ((items.take 3).map .keep) [] where
  excerpt := ⟨(items.drop 3).map .keep, by rw [← List.map_append, List.take_append_drop], .rest _⟩
  near_first := .of_last (List.length_take_le 3 items) hbefore
  near_hunks := nofun

/-- Kept items between changes that are shown in full. -/
theorem short (h : Cut (before ++ items.map .keep) edits first hunks) (hitems : items.length ≤ 6)
    (hbefore : ∃ e ∈ before.getLast?, e.isChange = true)
    (hbehind : ∃ e ∈ first.head?, e.isChange = true) :
    Cut before (items.map .keep ++ edits) (items.map .keep ++ first) hunks :=
  h.prepend before (.of_between hitems hbefore hbehind)

/-- Kept items between changes of which the first ones and the last ones are shown, in two hunks. -/
theorem long (h : Cut ((takeLast 3 items).map .keep) edits first hunks) (hitems : 6 ≤ items.length)
    (hbefore : ∃ e ∈ before.getLast?, e.isChange = true)
    (hbehind : ∃ e ∈ first.head?, e.isChange = true) :
    Cut before (items.map .keep ++ edits) ((items.take 3).map .keep)
      (((takeLast 3 items).map .keep ++ first) :: hunks) := by
  obtain ⟨left, heq⟩ := exists_left_out (n := 3) hitems
  have hlast := h.prepend [] (.of_head (length_takeLast_le 3 items) hbehind)
  have hcut := hlast.leaveOut left (.of_last (List.length_take_le 3 items) hbefore)
  have hedits : items.map .keep ++ edits = (items.take 3).map .keep ++
      (left.map .keep ++ ((takeLast 3 items).map .keep ++ edits)) := by
    rw [← List.append_assoc, ← List.append_assoc, ← List.map_append, ← List.map_append,
      List.append_assoc (items.take 3), ← heq]
  rwa [hedits]

end Cut

/-! ## Hunks -/

/-- The stretches at hand go to the front of the first hunk. -/
theorem hunksFrom_eq (hunk stretches : List (Stretch α)) :
    hunksFrom hunk stretches = (hunksFrom [] stretches).modifyHead (hunk.reverse ++ ·) := by
  induction stretches generalizing hunk with
  | nil => simp [hunksFrom]
  | cons stretch rest ih =>
      cases stretch with
      | change deleted inserted =>
          rw [hunksFrom, hunksFrom, ih, ih [_], List.modifyHead_modifyHead]
          · simp [Function.comp_def]
          all_goals nofun
      | same items =>
          cases rest with
          | nil => simp [hunksFrom]
          | cons second rest =>
              by_cases hlong : 2 * contextLines < items.length
              · simp [hunksFrom, hlong]
              · rw [hunksFrom, hunksFrom, if_neg hlong, if_neg hlong, ih, ih [_],
                  List.modifyHead_modifyHead]
                · simp [Function.comp_def]
                all_goals nofun

section HunksFrom

variable {rest first : List (Stretch α)} {hunks : List (List (Stretch α))} {items : List α}

theorem hunksFrom_change (h : hunksFrom [] rest = first :: hunks) (deleted inserted : List α) :
    hunksFrom [] (.change deleted inserted :: rest) =
      (.change deleted inserted :: first) :: hunks := by
  rw [hunksFrom, hunksFrom_eq, h]
  · rfl
  all_goals nofun

theorem hunksFrom_short (h : hunksFrom [] rest = first :: hunks) (hne : rest ≠ [])
    (hitems : ¬ 6 < items.length) :
    hunksFrom [] (.same items :: rest) = (.same items :: first) :: hunks := by
  rw [hunksFrom, if_neg (show ¬ 2 * contextLines < items.length from hitems), hunksFrom_eq, h]
  · rfl
  · exact hne

theorem hunksFrom_long (h : hunksFrom [] rest = first :: hunks) (hne : rest ≠ [])
    (hitems : 6 < items.length) :
    hunksFrom [] (.same items :: rest) =
      [.same (items.take 3)] :: (.same (takeLast 3 items) :: first) :: hunks := by
  rw [hunksFrom, if_pos (show 2 * contextLines < items.length from hitems), hunksFrom_eq, h]
  · rfl
  · exact hne

end HunksFrom

/-- Stretches are cut so that all that is shown is near to a change, where kept items that come
first are shown behind one. -/
theorem hunksFrom_cut {changed : Bool} {stretches : List (Stretch α)}
    (hstretches : Stretch.Alternates changed stretches) :
    ∃ first hunks, hunksFrom [] stretches = first :: hunks ∧
      (∀ before, (changed = false → ∃ e ∈ before.getLast?, e.isChange = true) →
        Cut before (editsOf stretches) (editsOf first) (hunks.map editsOf)) ∧
      (changed = true → stretches ≠ [] → ∃ e ∈ (editsOf first).head?, e.isChange = true) := by
  -- What is shown last before the stretches is left open: behind a cut it is the end of the kept
  -- items, and elsewhere it is whatever the walk has come to.
  induction hstretches with
  | nil changed =>
      exact ⟨[], [], rfl, fun before _ => .nil before, fun _ hne => absurd rfl hne⟩
  | @same items rest hbehind ih =>
      cases rest with
      | nil =>
          refine ⟨[.same (items.take 3)], [], rfl, fun before hbefore => ?_, by simp⟩
          simpa [editsOf, Stretch.edits] using Cut.last (hbefore rfl) items
      | cons second rest =>
          obtain ⟨first, hunks, heq, hcut, hhead⟩ := ih
          have hne := List.cons_ne_nil second rest
          have hchange := hhead rfl hne
          by_cases hlong : 6 < items.length
          · refine ⟨_, _, hunksFrom_long heq hne hlong, fun before hbefore => ?_, by simp⟩
            have hlast := (hcut _ (by simp)).long (Nat.le_of_lt hlong) (hbefore rfl) hchange
            simpa [editsOf, Stretch.edits] using hlast
          · refine ⟨_, _, hunksFrom_short heq hne hlong, fun before hbefore => ?_, by simp⟩
            exact (hcut _ (by simp)).short (Nat.le_of_not_lt hlong) (hbefore rfl) hchange
  | @change deleted inserted hfilled rest hbehind ih =>
      obtain ⟨first, hunks, heq, hcut, hhead⟩ := ih
      have hchanges := Stretch.edits_change deleted inserted
      have hne := Stretch.edits_change_ne_nil hfilled
      refine ⟨_, _, hunksFrom_change heq deleted inserted, fun before _ => ?_, fun _ _ => ?_⟩
      · refine (hcut _ fun _ => ?_).prepend before (.of_changes hchanges)
        rw [List.getLast?_append_of_ne_nil _ hne]
        exact ⟨_, List.getLast?_eq_some_getLast hne, hchanges _ (List.getLast_mem hne)⟩
      · rw [editsOf_cons, List.head?_append_of_ne_nil _ hne]
        exact ⟨_, List.head?_eq_some_head hne, hchanges _ (List.head_mem hne)⟩

/-- The hunks of stretches are an excerpt of them in which all that is shown is near to a change. -/
theorem hunks_excerpt {changed : Bool} {stretches : List (Stretch α)}
    (hstretches : Stretch.Alternates changed stretches) :
    Excerpt ((hunks stretches).map editsOf) (editsOf stretches) ∧
      ∀ hunk ∈ (hunks stretches).map editsOf, NearChange [] hunk [] := by
  cases hstretches with
  | nil => exact ⟨.rest [], by simp [hunks]⟩
  | @same items rest hbehind =>
      cases rest with
      | nil =>
          refine ⟨?_, by simp [hunks]⟩
          simpa [hunks, editsOf, Stretch.edits] using Excerpt.rest items
      | cons second rest =>
          obtain ⟨first, others, heq, hcut, hhead⟩ := hunksFrom_cut hbehind
          have hchange := hhead rfl (List.cons_ne_nil second rest)
          have hlast : NearChange [] _ _ := .of_head (length_takeLast_le 3 items) hchange
          have hshown : hunks (.same items :: second :: rest) =
              (.same (takeLast 3 items) :: first) :: others := by
            rw [hunks, hunksFrom_eq, heq]
            · rfl
            · exact List.cons_ne_nil second rest
          have hedits : editsOf (.same items :: second :: rest) =
              (items.take (items.length - 3)).map .keep ++
                ((takeLast 3 items).map .keep ++ editsOf (second :: rest)) := by
            rw [editsOf_cons, Stretch.edits, ← List.append_assoc, ← List.map_append, takeLast,
              List.take_append_drop]
          rw [hshown, hedits]
          exact ((hcut _ (by simp)).prepend [] hlast).skip _
  | @change deleted inserted hfilled rest hbehind =>
      obtain ⟨first, others, heq, hcut, hhead⟩ := hunksFrom_cut (.change hfilled hbehind)
      rw [hunks, heq]
      · exact (hcut [] (by simp)).skip []
      all_goals simp

variable [DecidableEq α]

/-- The hunks between two lists are an excerpt of an alignment of them. -/
theorem hunksBetween_excerpt (old new : List α) :
    ∃ a : Alignment old new, Excerpt ((hunksBetween old new).map editsOf) a.edits ∧
      ∀ hunk ∈ (hunksBetween old new).map editsOf, NearChange [] hunk [] := by
  have hscript := (compact_reworks _).between (shortestScript_between old new)
  obtain ⟨changed, hstretches⟩ := Stretch.ofScript_alternates hscript.filled
  exact ⟨Script.alignment hscript, hunks_excerpt hstretches⟩

/-! ## Equal lists -/

theorem shortestScript_self (items : List α) :
    shortestScript items items = Script.keeping items := by
  have hfront : splitPrefix items items = (items, [], []) := by
    induction items with
    | nil => rfl
    | cons item items ih => simp [splitPrefix, ih]
  have hback : splitSuffix ([] : List α) [] = ([], [], []) := by simp [splitSuffix, splitPrefix]
  simp [shortestScript, shortestWithin, hfront, hback, middleScript, Script.replacing,
    Script.keeping]

theorem settleAll_keeping (inserts : Bool) (limit : Nat) (items : List α) :
    settleAll inserts limit [] (Script.keeping items) = Script.keeping items := by
  cases items with
  | nil => cases limit <;> rfl
  | cons item items =>
      cases limit with
      | zero => rfl
      | succ limit => cases limit <;> rfl

/-- There are no hunks between equal lists. -/
theorem hunksBetween_self (items : List α) : hunksBetween items items = [] := by
  rw [hunksBetween, shortestScript_self, compact, settleAll_keeping, settleAll_keeping]
  cases items <;> rfl

end Typings.Diff
