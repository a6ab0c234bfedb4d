import Typings.Diff.Compact
import Typings.Diff.Shortest

/-! # Hunks

The part of an edit script that is shown: every change with the lines around it. A stretch of kept
lines that is too long to be shown in full separates two hunks.
-/

namespace Typings.Diff

variable {α : Type}

/-- A stretch of a script: items that are the same on both sides, or deleted items with the ones
inserted in their place. -/
inductive Stretch (α : Type) where
  | same (items : List α)
  | change (deleted inserted : List α)
  deriving DecidableEq, Repr

namespace Stretch

/-- Puts a chunk in front of stretches. Adjacent kept items come together, and so do adjacent
deletions and insertions in whatever order they stand. -/
def prepend : Chunk α → List (Stretch α) → List (Stretch α)
  | .keep items, .same others :: rest => .same (items ++ others) :: rest
  | .keep items, stretches => .same items :: stretches
  | .delete items, .change deleted inserted :: rest => .change (items ++ deleted) inserted :: rest
  | .delete items, stretches => .change items [] :: stretches
  | .insert items, .change deleted inserted :: rest => .change deleted (items ++ inserted) :: rest
  | .insert items, stretches => .change [] items :: stretches

/-- The stretches of a script. -/
def ofScript (s : Script α) : List (Stretch α) := s.foldr prepend []

end Stretch

/-- The number of kept lines that are shown on either side of a change. -/
def contextLines : Nat := 3

def takeLast (n : Nat) (items : List α) : List α := items.drop (items.length - n)

/-- Cuts the stretches behind a change into hunks. `hunk` holds the stretches of the hunk so far,
last one first. -/
def hunksFrom (hunk : List (Stretch α)) : List (Stretch α) → List (List (Stretch α))
  | [] => [hunk.reverse]
  | [.same items] => [(.same (items.take contextLines) :: hunk).reverse]
  | .same items :: rest =>
    if 2 * contextLines < items.length then
      (.same (items.take contextLines) :: hunk).reverse ::
        hunksFrom [.same (takeLast contextLines items)] rest
    else hunksFrom (.same items :: hunk) rest
  | change :: rest => hunksFrom (change :: hunk) rest

/-- The hunks of stretches. There are none where nothing changes. -/
def hunks : List (Stretch α) → List (List (Stretch α))
  | [] => []
  | [.same _] => []
  | .same items :: rest => hunksFrom [.same (takeLast contextLines items)] rest
  | stretches => hunksFrom [] stretches

/-- The hunks that lead from one list to the other. -/
def hunksBetween [DecidableEq α] (old new : List α) : List (List (Stretch α)) :=
  hunks (Stretch.ofScript (compact (shortestScript old new)))

end Typings.Diff
