import Typings.Diff.Script
import Typings.Diff.Snake

/-! # Shortest scripts

A script between two lists with as few edits as possible: common beginnings and ends are kept, and
what lies between them is cut at a middle snake.
-/

namespace Typings.Diff

variable {α : Type} [DecidableEq α]

/-- The script for what is left between a common beginning and a common end. `shorter` makes the
scripts of the parts. -/
def middleScript (shorter : List α → List α → Script α) (old new : List α) : Script α :=
  if old.isEmpty || new.isEmpty then Script.replacing old new
  else
    match middleSnake? old new with
    | none => Script.replacing old new
    | some (x, y) => shorter (old.take x) (new.take y) ++ shorter (old.drop x) (new.drop y)

/-- A script between two lists, cut at most `limit` times in a row. -/
def shortestWithin : Nat → List α → List α → Script α
  | 0, old, new => Script.replacing old new
  | limit + 1, old, new =>
    let (beginning, old, new) := splitPrefix old new
    let (ending, old, new) := splitSuffix old new
    Script.keeping beginning ++ middleScript (shortestWithin limit) old new ++
      Script.keeping ending

/-- A script between two lists with as few edits as possible. -/
def shortestScript (old new : List α) : Script α :=
  shortestWithin (old.length + new.length + 1) old new

end Typings.Diff
