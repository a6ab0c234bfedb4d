import Typings.Diff.Compact
import Typings.Proofs.Diff.Scripts

/-! # Compaction keeps scripts

Runs of edits are moved without a change to what a script starts from and what it leads to. Inserted
items slide only over kept ones that are equal to them, and a deletion and an insertion next to each
other may stand in either order.
-/

namespace Typings.Diff

variable {α : Type}

namespace Script

/-- The second script leads from the same list to the same list as the first one, and it has no
empty chunk unless the first one has. -/
structure Reworks (s t : Script α) : Prop where
  old_eq : Script.old t = Script.old s
  new_eq : Script.new t = Script.new s
  filled : Filled s → Filled t

namespace Reworks

variable {s t u : Script α}

theorem refl (s : Script α) : Reworks s s := ⟨rfl, rfl, id⟩

theorem trans (hst : Reworks s t) (htu : Reworks t u) : Reworks s u :=
  ⟨htu.old_eq.trans hst.old_eq, htu.new_eq.trans hst.new_eq, htu.filled ∘ hst.filled⟩

/-- A part of a script can be reworked within it. -/
theorem within (hst : Reworks s t) (front back : Script α) :
    Reworks (front ++ (s ++ back)) (front ++ (t ++ back)) where
  old_eq := by simp only [old_append, hst.old_eq]
  new_eq := by simp only [new_append, hst.new_eq]
  filled := by
    simp only [filled_append]
    exact fun ⟨hfront, hs, hback⟩ => ⟨hfront, hst.filled hs, hback⟩

theorem between {old new : List α} (hst : Reworks s t) (hs : Between s old new) :
    Between t old new :=
  ⟨hst.old_eq.trans hs.old_eq, hst.new_eq.trans hs.new_eq, hst.filled hs.filled⟩

end Reworks

end Script

open Script

/-- The focus as the script that it is taken from. -/
def Focus.script (f : Focus α) : Script α := f.before.reverse ++ f.run.chunk :: f.behind

namespace Run

variable (r : Run α)

theorem items_chunk : r.chunk.items = r.items := by
  unfold chunk
  split <;> rfl

theorem old_chunk : r.chunk.old = if r.inserts then [] else r.items := by
  unfold chunk
  split <;> rfl

theorem new_chunk : r.chunk.new = if r.inserts then r.items else [] := by
  unfold chunk
  split <;> rfl

end Run

theorem keepBefore_reworks (items : List α) (s : Script α) :
    Reworks (keeping items ++ s) (keepBefore items s) := by
  unfold keepBefore keeping
  split
  · exact .refl s
  · cases s with
    | nil => exact .refl _
    | cons c s =>
      cases c with
      | keep others =>
        refine ⟨by simp [Chunk.old], by simp [Chunk.new], ?_⟩
        simp +contextual [filled_cons, Chunk.items]
      | delete others => exact .refl _
      | insert others => exact .refl _

theorem keepBehind_reworks (items : List α) (s : Script α) :
    Reworks (s.reverse ++ keeping items.reverse) (keepBehind items s).reverse := by
  unfold keepBehind keeping
  simp only [List.isEmpty_reverse]
  split
  · rw [List.append_nil]
    exact .refl _
  · cases s with
    | nil => exact .refl _
    | cons c s =>
      cases c with
      | keep others =>
        refine ⟨by simp [Chunk.old], by simp [Chunk.new], ?_⟩
        simp +contextual [filled_cons, filled_append, Chunk.items]
      | delete others => simpa using Reworks.refl _
      | insert others => simpa using Reworks.refl _

/-- Runs of one kind can be joined. -/
theorem joined_reworks (inserts : Bool) (first second : List α) :
    Reworks [Run.chunk ⟨inserts, first⟩, Run.chunk ⟨inserts, second⟩]
      [Run.chunk ⟨inserts, first ++ second⟩] := by
  refine ⟨?_, ?_, ?_⟩
  · cases inserts <;> simp [Run.chunk, Chunk.old]
  · cases inserts <;> simp [Run.chunk, Chunk.new]
  · simp +contextual [filled_cons, Run.items_chunk, filled_nil]

/-- Runs of different kinds can change places. -/
theorem swapped_reworks (first second : Run α) (hkind : first.inserts ≠ second.inserts) :
    Reworks [first.chunk, second.chunk] [second.chunk, first.chunk] := by
  refine ⟨?_, ?_, ?_⟩
  · simp only [old_cons, old_nil, Run.old_chunk]
    split <;> split <;> simp_all
  · simp only [new_cons, new_nil, Run.new_chunk]
    split <;> split <;> simp_all
  · simp +contextual [filled_cons, filled_nil]

variable [DecidableEq α]

/-! ## Sliding -/

/-- Sliding up changes neither what is kept nor what is kept and inserted together. -/
theorem slideUp_eq {moved kept inserted left items moved' : List α}
    (hslide : slideUp moved kept inserted = (left, items, moved')) :
    kept.reverse ++ moved = left.reverse ++ moved' ∧
    kept.reverse ++ (inserted.reverse ++ moved) = left.reverse ++ (items.reverse ++ moved') ∧
    items.length = inserted.length := by
  fun_induction slideUp moved kept inserted with
  | case1 =>
      cases hslide
      simp
  | case2 =>
      cases hslide
      simp
  | case3 moved a kept inserted ih => simpa using ih hslide
  | case4 =>
      cases hslide
      simp

/-- Sliding down changes neither what is kept nor what is kept and inserted together. -/
theorem slideDown_eq {moved inserted kept moved' items left : List α}
    (hslide : slideDown moved inserted kept = (moved', items, left)) :
    moved.reverse ++ kept = moved'.reverse ++ left ∧
    moved.reverse ++ (inserted ++ kept) = moved'.reverse ++ (items ++ left) ∧
    items.length = inserted.length := by
  fun_induction slideDown moved inserted kept with
  | case1 =>
      cases hslide
      simp
  | case2 =>
      cases hslide
      simp
  | case3 moved a kept inserted ih => simpa using ih hslide
  | case4 =>
      cases hslide
      simp

/-- What becomes of a run and of the kept items before it when it is moved up over them. -/
theorem slidUp_reworks {r : Run α} {kept left items moved : List α}
    (hslide : (if r.inserts then slideUp [] kept.reverse r.items.reverse
      else (kept.reverse, r.items.reverse, [])) = (left, items, moved)) :
    Reworks [.keep kept, r.chunk] (keeping left.reverse ++
      Run.chunk { r with items := items.reverse } :: keeping moved) := by
  obtain ⟨inserts, inserted⟩ := r
  cases inserts with
  | false =>
      cases hslide
      refine ⟨by simp [Run.chunk, Chunk.old], by simp [Run.chunk, Chunk.new], ?_⟩
      simp +contextual [filled_cons, filled_append, Run.items_chunk]
  | true =>
      obtain ⟨hkept, hall, hlength⟩ := slideUp_eq hslide
      refine ⟨?_, ?_, ?_⟩
      · simpa [Run.chunk, Chunk.old] using hkept.symm
      · simpa [Run.chunk, Chunk.new] using hall.symm
      · have hne : inserted ≠ [] → items ≠ [] := by
          simp [← List.length_pos_iff, hlength]
        simpa [filled_cons, filled_append, Run.items_chunk, filled_nil] using fun _ => hne

/-- What becomes of a run and of the kept items behind it when it is moved down over them. -/
theorem slidDown_reworks {r : Run α} {kept moved items left : List α}
    (hslide : (if r.inserts then slideDown [] r.items kept else ([], r.items, kept)) =
      (moved, items, left)) :
    Reworks [r.chunk, .keep kept] (keeping moved.reverse ++
      Run.chunk { r with items := items } :: keeping left) := by
  obtain ⟨inserts, inserted⟩ := r
  cases inserts with
  | false =>
      cases hslide
      refine ⟨by simp [Run.chunk, Chunk.old], by simp [Run.chunk, Chunk.new], ?_⟩
      simp +contextual [filled_cons, filled_append, Run.items_chunk]
  | true =>
      obtain ⟨hkept, hall, hlength⟩ := slideDown_eq hslide
      refine ⟨?_, ?_, ?_⟩
      · simpa [Run.chunk, Chunk.old] using hkept.symm
      · simpa [Run.chunk, Chunk.new] using hall.symm
      · have hne : inserted ≠ [] → items ≠ [] := by
          simp [← List.length_pos_iff, hlength]
        simpa [filled_cons, filled_append, Run.items_chunk, filled_nil] using fun h _ => hne h

/-! ## Moving -/

/-- One step up, over kept items. -/
theorem reworks_up {r : Run α} {kept left items moved : List α}
    (hslide : (if r.inserts then slideUp [] kept.reverse r.items.reverse
      else (kept.reverse, r.items.reverse, [])) = (left, items, moved)) (before behind : Script α) :
    Reworks (before.reverse ++ .keep kept :: r.chunk :: behind)
      (before.reverse ++ (keeping left.reverse ++
        Run.chunk { r with items := items.reverse } :: keepBefore moved behind)) := by
  have hslid := (slidUp_reworks hslide).within before.reverse behind
  have hkept := (keepBefore_reworks moved behind).within (before.reverse ++
    (keeping left.reverse ++ [Run.chunk { r with items := items.reverse }])) []
  simp only [List.append_nil, List.append_assoc, List.cons_append, List.nil_append] at hslid hkept
  exact hslid.trans hkept

/-- One step down, over kept items. -/
theorem reworks_down {r : Run α} {kept moved items left : List α}
    (hslide : (if r.inserts then slideDown [] r.items kept else ([], r.items, kept)) =
      (moved, items, left)) (before behind : Script α) :
    Reworks (before.reverse ++ r.chunk :: .keep kept :: behind)
      ((keepBehind moved before).reverse ++
        Run.chunk { r with items := items } :: (keeping left ++ behind)) := by
  have hslid := (slidDown_reworks hslide).within before.reverse behind
  have hkept := (keepBehind_reworks moved before).within []
    (Run.chunk { r with items := items } :: (keeping left ++ behind))
  simp only [List.append_assoc, List.cons_append, List.nil_append] at hslid hkept
  exact hslid.trans hkept

theorem moveUp_reworks (r : Run α) (behind before : Script α) :
    Reworks (before.reverse ++ r.chunk :: behind) (moveUp r behind before).script := by
  induction before generalizing r behind with
  | nil => exact .refl _
  | cons c before ih =>
      rw [List.reverse_cons, List.append_assoc, List.singleton_append]
      cases c with
      | keep kept =>
          rcases hslide : (if r.inserts then slideUp [] kept.reverse r.items.reverse
            else (kept.reverse, r.items.reverse, [])) with ⟨left, items, moved⟩
          have hstep := reworks_up hslide before behind
          simp only [moveUp, hslide]
          split
          next hempty =>
            rw [List.isEmpty_iff.mp hempty] at hstep
            exact hstep.trans (ih _ _)
          next hleft =>
            rw [keeping_of_ne_nil (by simpa using hleft)] at hstep
            simpa [Focus.script] using hstep
      | insert items =>
          obtain ⟨_ | _, others⟩ := r
          · have hstep := swapped_reworks ⟨true, items⟩ ⟨false, others⟩ nofun
            exact (hstep.within before.reverse behind).trans (ih _ _)
          · exact ((joined_reworks true items others).within before.reverse behind).trans (ih _ _)
      | delete items =>
          obtain ⟨_ | _, others⟩ := r
          · exact ((joined_reworks false items others).within before.reverse behind).trans (ih _ _)
          · have hstep := swapped_reworks ⟨false, items⟩ ⟨true, others⟩ nofun
            exact (hstep.within before.reverse behind).trans (ih _ _)

theorem moveDown_reworks (r : Run α) (before behind : Script α) :
    Reworks (before.reverse ++ r.chunk :: behind) (moveDown r before behind).script := by
  induction behind generalizing r before with
  | nil => exact .refl _
  | cons c behind ih =>
      cases c with
      | keep kept =>
          rcases hslide : (if r.inserts then slideDown [] r.items kept else ([], r.items, kept))
            with ⟨moved, items, left⟩
          have hstep := reworks_down hslide before behind
          simp only [moveDown, hslide]
          split
          next hempty =>
            rw [List.isEmpty_iff.mp hempty] at hstep
            exact hstep.trans (ih _ _)
          next hleft =>
            rw [keeping_of_ne_nil (by simpa using hleft)] at hstep
            exact hstep
      | insert items =>
          obtain ⟨_ | _, others⟩ := r
          · have hstep := swapped_reworks ⟨false, others⟩ ⟨true, items⟩ nofun
            have hrest := ih ⟨false, others⟩ (.insert items :: before)
            rw [List.reverse_cons, List.append_assoc] at hrest
            exact (hstep.within before.reverse behind).trans hrest
          · exact ((joined_reworks true others items).within before.reverse behind).trans (ih _ _)
      | delete items =>
          obtain ⟨_ | _, others⟩ := r
          · exact ((joined_reworks false others items).within before.reverse behind).trans (ih _ _)
          · have hstep := swapped_reworks ⟨true, others⟩ ⟨false, items⟩ nofun
            have hrest := ih ⟨true, others⟩ (.delete items :: before)
            rw [List.reverse_cons, List.append_assoc] at hrest
            exact (hstep.within before.reverse behind).trans hrest

theorem settle_reworks (r : Run α) (before behind : Script α) :
    Reworks (before.reverse ++ r.chunk :: behind) (settle r before behind).script :=
  (moveUp_reworks r behind before).trans (moveDown_reworks _ _ _)

/-! ## Compaction -/

omit [DecidableEq α] in
theorem chunk_of_run? {inserts : Bool} {c : Chunk α} {r : Run α} (hrun : c.run? inserts = some r) :
    r.chunk = c := by
  cases c <;> cases inserts <;> cases hrun <;> rfl

theorem settleAll_reworks (inserts : Bool) (limit : Nat) (before behind : Script α) :
    Reworks (before.reverse ++ behind) (settleAll inserts limit before behind) := by
  fun_induction settleAll inserts limit before behind with
  | case1 before behind => exact .refl _
  | case2 before =>
      rw [List.append_nil]
      exact .refl _
  | case3 limit before c behind hrun ih =>
      rwa [List.reverse_cons, List.append_assoc] at ih
  | case4 limit before c behind r hrun settled ih =>
      have hsettled := settle_reworks r before behind
      rw [chunk_of_run? hrun] at hsettled
      rw [List.reverse_cons, List.append_assoc] at ih
      exact hsettled.trans ih

/-- A compacted script leads from the same list to the same list. -/
theorem compact_reworks (s : Script α) : Reworks s (compact s) :=
  (settleAll_reworks false _ [] s).trans (settleAll_reworks true _ [] _)

end Typings.Diff
