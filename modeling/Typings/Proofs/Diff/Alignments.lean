import Mathlib.Data.List.Basic
import Typings.Diff.Hunk
import Typings.Proofs.Diff.Scripts

/-! # Alignments

An alignment says of every item of two lists whether it is kept, and then it stands in both, or is
deleted from the first list or inserted in the second. A script stands for an alignment, whose items
are in the order in which they are shown: of a change, the deleted ones come first.
-/

namespace Typings.Diff

variable {α : Type}

/-- What becomes of one item. -/
inductive Edit (α : Type) where
  | keep (item : α)
  | delete (item : α)
  | insert (item : α)
  deriving DecidableEq, Repr

namespace Edit

/-- The item, if it stands in the old list. -/
def old? : Edit α → Option α
  | keep item => some item
  | delete item => some item
  | insert _ => none

/-- The item, if it stands in the new list. -/
def new? : Edit α → Option α
  | keep item => some item
  | delete _ => none
  | insert item => some item

def kept? : Edit α → Option α
  | keep item => some item
  | _ => none

def deleted? : Edit α → Option α
  | delete item => some item
  | _ => none

def inserted? : Edit α → Option α
  | insert item => some item
  | _ => none

def isChange : Edit α → Bool
  | keep _ => false
  | _ => true

end Edit

/-- The edits that lead from one list to another, item by item. -/
structure Alignment (old new : List α) where
  edits : List (Edit α)
  old_eq : edits.filterMap Edit.old? = old
  new_eq : edits.filterMap Edit.new? = new

theorem filterMap_kept_sublist {side : Edit α → Option α}
    (hside : ∀ item, side (.keep item) = some item) (edits : List (Edit α)) :
    (edits.filterMap Edit.kept?).Sublist (edits.filterMap side) := by
  have hkept : Edit.kept? = fun e : Edit α => if !e.isChange then side e else none := by
    funext e
    cases e <;> simp [Edit.kept?, Edit.isChange, hside]
  rw [hkept, ← List.filterMap_filter]
  exact List.filter_sublist.filterMap side

namespace Alignment

variable {old new : List α} (a : Alignment old new)

/-- The common subsequence that is kept. -/
def common : List α := a.edits.filterMap Edit.kept?

/-- The items of the old list outside the common subsequence. -/
def deleted : List α := a.edits.filterMap Edit.deleted?

/-- The items of the new list outside the common subsequence. -/
def inserted : List α := a.edits.filterMap Edit.inserted?

theorem common_sublist_old : a.common.Sublist old := by
  obtain ⟨edits, rfl, rfl⟩ := a
  exact filterMap_kept_sublist (fun _ => rfl) edits

theorem common_sublist_new : a.common.Sublist new := by
  obtain ⟨edits, rfl, rfl⟩ := a
  exact filterMap_kept_sublist (fun _ => rfl) edits

/-- Lists of which nothing is outside the common subsequence are the same. -/
theorem eq_of_unchanged (hdeleted : a.deleted = []) (hinserted : a.inserted = []) : old = new := by
  obtain ⟨edits, rfl, rfl⟩ := a
  refine List.filterMap_congr fun e he => ?_
  cases e with
  | keep item => rfl
  | delete item => cases List.filterMap_eq_nil_iff.mp hdeleted _ he
  | insert item => cases List.filterMap_eq_nil_iff.mp hinserted _ he

end Alignment

/-! ## Edits of scripts -/

namespace Stretch

/-- The edits of a stretch, one by one, in the order in which they are shown. -/
def edits : Stretch α → List (Edit α)
  | same items => items.map .keep
  | change deleted inserted => deleted.map .delete ++ inserted.map .insert

end Stretch

/-- The edits of the stretches, one by one. -/
def editsOf (stretches : List (Stretch α)) : List (Edit α) := stretches.flatMap Stretch.edits

@[simp] theorem editsOf_cons (s : Stretch α) (stretches : List (Stretch α)) :
    editsOf (s :: stretches) = s.edits ++ editsOf stretches :=
  List.flatMap_cons

theorem old_editsOf_prepend (c : Chunk α) (stretches : List (Stretch α)) :
    (editsOf (Stretch.prepend c stretches)).filterMap Edit.old? =
      c.old ++ (editsOf stretches).filterMap Edit.old? := by
  unfold Stretch.prepend
  split <;> simp [Stretch.edits, Edit.old?, Chunk.old, Function.comp_def]

theorem new_editsOf_prepend (c : Chunk α) (stretches : List (Stretch α)) :
    (editsOf (Stretch.prepend c stretches)).filterMap Edit.new? =
      c.new ++ (editsOf stretches).filterMap Edit.new? := by
  have hnone : ∀ items : List α, items.filterMap (fun _ => (none : Option α)) = [] :=
    fun _ => List.filterMap_eq_nil_iff.mpr fun _ _ => rfl
  unfold Stretch.prepend
  split <;> simp [Stretch.edits, Edit.new?, Chunk.new, Function.comp_def, hnone]

theorem old_editsOf_ofScript (s : Script α) :
    (editsOf (Stretch.ofScript s)).filterMap Edit.old? = s.old := by
  induction s with
  | nil => rfl
  | cons c s ih =>
      rw [Stretch.ofScript, List.foldr_cons, old_editsOf_prepend, Script.old_cons, ← ih]
      rfl

theorem new_editsOf_ofScript (s : Script α) :
    (editsOf (Stretch.ofScript s)).filterMap Edit.new? = s.new := by
  induction s with
  | nil => rfl
  | cons c s ih =>
      rw [Stretch.ofScript, List.foldr_cons, new_editsOf_prepend, Script.new_cons, ← ih]
      rfl

/-- The alignment of two lists that a script between them stands for. -/
def Script.alignment {s : Script α} {old new : List α} (hs : Script.Between s old new) :
    Alignment old new where
  edits := editsOf (Stretch.ofScript s)
  old_eq := (old_editsOf_ofScript s).trans hs.old_eq
  new_eq := (new_editsOf_ofScript s).trans hs.new_eq

/-! ## Excerpts -/

/-- The hunks are parts of the edits and follow each other in this order. What is left out before
them, between them and behind them is kept. -/
inductive Excerpt : List (List (Edit α)) → List (Edit α) → Prop
  | rest (left : List α) : Excerpt [] (left.map .keep)
  | hunk (left : List α) (hunk : List (Edit α)) {hunks : List (List (Edit α))}
      {edits : List (Edit α)} (behind : Excerpt hunks edits) :
      Excerpt (hunk :: hunks) (left.map .keep ++ (hunk ++ edits))

namespace Excerpt

variable {hunks : List (List (Edit α))} {edits : List (Edit α)}

/-- Everything but kept items is in the hunks. -/
theorem filterMap_flatten {part : Edit α → Option α} (hpart : ∀ item, part (.keep item) = none)
    (h : Excerpt hunks edits) : hunks.flatten.filterMap part = edits.filterMap part := by
  have hleft : ∀ left : List α, (left.map Edit.keep).filterMap part = [] := by
    intro left
    rw [List.filterMap_map, List.filterMap_eq_nil_iff]
    exact fun item _ => hpart item
  induction h with
  | rest left => simp [hleft]
  | hunk left hunk hbehind ih => simp [List.filterMap_append, hleft, ih]

theorem flatten_sublist (h : Excerpt hunks edits) : hunks.flatten.Sublist edits := by
  induction h with
  | rest left => exact List.nil_sublist _
  | hunk left hunk hbehind ih =>
      rw [List.flatten_cons]
      exact ((List.Sublist.refl hunk).append ih).trans (List.sublist_append_right _ _)

end Excerpt

end Typings.Diff
