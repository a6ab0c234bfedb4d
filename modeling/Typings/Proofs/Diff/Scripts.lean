import Typings.Diff.Shortest

/-! # Scripts between two lists

A script that is made for two lists leads from the first to the second, however the lists are cut
on the way. It need not be a shortest one for that: where the cut lies does not matter.
-/

namespace Typings.Diff

variable {α : Type}

/-- The items of the chunk, whatever becomes of them. -/
def Chunk.items : Chunk α → List α
  | keep items => items
  | delete items => items
  | insert items => items

namespace Script

@[simp] theorem old_nil : Script.old ([] : Script α) = [] := rfl

@[simp] theorem new_nil : Script.new ([] : Script α) = [] := rfl

@[simp] theorem old_cons (c : Chunk α) (s : Script α) :
    Script.old (c :: s) = c.old ++ Script.old s :=
  List.flatMap_cons

@[simp] theorem new_cons (c : Chunk α) (s : Script α) :
    Script.new (c :: s) = c.new ++ Script.new s :=
  List.flatMap_cons

@[simp] theorem old_append (s t : Script α) :
    Script.old (s ++ t) = Script.old s ++ Script.old t :=
  List.flatMap_append

@[simp] theorem new_append (s t : Script α) :
    Script.new (s ++ t) = Script.new s ++ Script.new t :=
  List.flatMap_append

/-- Every chunk of the script holds something. -/
def Filled (s : Script α) : Prop := ∀ c ∈ s, c.items ≠ []

theorem filled_nil : Filled ([] : Script α) := by simp [Filled]

theorem filled_cons {c : Chunk α} {s : Script α} :
    Filled (c :: s) ↔ c.items ≠ [] ∧ Filled s :=
  List.forall_mem_cons

theorem filled_append {s t : Script α} : Filled (s ++ t) ↔ Filled s ∧ Filled t :=
  List.forall_mem_append

/-- The script leads from the one list to the other. -/
structure Between (s : Script α) (old new : List α) : Prop where
  old_eq : s.old = old
  new_eq : s.new = new
  filled : Filled s

theorem Between.append {s t : Script α} {old new old' new' : List α} (hs : Between s old new)
    (ht : Between t old' new') : Between (s ++ t) (old ++ old') (new ++ new') where
  old_eq := by rw [old_append, hs.old_eq, ht.old_eq]
  new_eq := by rw [new_append, hs.new_eq, ht.new_eq]
  filled := filled_append.mpr ⟨hs.filled, ht.filled⟩

theorem keeping_between (items : List α) : Between (keeping items) items items := by
  unfold keeping
  split
  next hempty =>
    rw [List.isEmpty_iff.mp hempty]
    exact ⟨rfl, rfl, filled_nil⟩
  next hempty =>
    refine ⟨by simp [Chunk.old], by simp [Chunk.new], filled_cons.mpr ⟨?_, filled_nil⟩⟩
    simpa [Chunk.items] using hempty

theorem keeping_of_ne_nil {items : List α} (hne : items ≠ []) : keeping items = [.keep items] := by
  simp [keeping, hne]

@[simp] theorem old_keeping (items : List α) : Script.old (keeping items) = items :=
  (keeping_between items).old_eq

@[simp] theorem new_keeping (items : List α) : Script.new (keeping items) = items :=
  (keeping_between items).new_eq

@[simp] theorem filled_keeping (items : List α) : Filled (keeping items) :=
  (keeping_between items).filled

theorem replacing_between (deleted inserted : List α) :
    Between (replacing deleted inserted) deleted inserted := by
  unfold replacing
  refine ⟨?_, ?_, filled_append.mpr ⟨?_, ?_⟩⟩
  · cases deleted <;> cases inserted <;> simp [Chunk.old]
  · cases deleted <;> cases inserted <;> simp [Chunk.new]
  · cases deleted <;> simp [Filled, Chunk.items]
  · cases inserted <;> simp [Filled, Chunk.items]

end Script

variable [DecidableEq α]

theorem splitPrefix_eq {as bs common as' bs' : List α}
    (hsplit : splitPrefix as bs = (common, as', bs')) :
    as = common ++ as' ∧ bs = common ++ bs' := by
  fun_induction splitPrefix as bs generalizing common as' bs' with
  | case1 as a bs common as' bs' heq ih =>
      cases hsplit
      obtain ⟨has, hbs⟩ := ih heq
      exact ⟨congrArg (a :: ·) has, congrArg (a :: ·) hbs⟩
  | case2 =>
      cases hsplit
      exact ⟨rfl, rfl⟩
  | case3 =>
      cases hsplit
      exact ⟨rfl, rfl⟩

theorem splitSuffix_eq {as bs common as' bs' : List α}
    (hsplit : splitSuffix as bs = (common, as', bs')) :
    as = as' ++ common ∧ bs = bs' ++ common := by
  cases hsplit
  obtain ⟨has, hbs⟩ := splitPrefix_eq (Eq.refl (splitPrefix as.reverse bs.reverse))
  constructor
  · simpa using congrArg List.reverse has
  · simpa using congrArg List.reverse hbs

/-- A script for the middle of two lists leads from the one to the other if those for the parts
do. -/
theorem middleScript_between {shorter : List α → List α → Script α}
    (hshorter : ∀ old new, (shorter old new).Between old new) (old new : List α) :
    (middleScript shorter old new).Between old new := by
  unfold middleScript
  split
  · exact Script.replacing_between old new
  · split
    · exact Script.replacing_between old new
    next x y _ =>
      have hbefore := hshorter (old.take x) (new.take y)
      have hbehind := hshorter (old.drop x) (new.drop y)
      simpa only [List.take_append_drop] using hbefore.append hbehind

theorem shortestWithin_between (limit : Nat) (old new : List α) :
    (shortestWithin limit old new).Between old new := by
  induction limit generalizing old new with
  | zero => exact Script.replacing_between old new
  | succ limit ih =>
      rcases hfront : splitPrefix old new with ⟨beginning, old', new'⟩
      rcases hback : splitSuffix old' new' with ⟨ending, old'', new''⟩
      obtain ⟨rfl, rfl⟩ := splitPrefix_eq hfront
      obtain ⟨rfl, rfl⟩ := splitSuffix_eq hback
      have hscript := ((Script.keeping_between beginning).append
        (middleScript_between ih old'' new'')).append (Script.keeping_between ending)
      simpa only [shortestWithin, hfront, hback, List.append_assoc] using hscript

theorem shortestScript_between (old new : List α) : (shortestScript old new).Between old new :=
  shortestWithin_between _ old new

end Typings.Diff
