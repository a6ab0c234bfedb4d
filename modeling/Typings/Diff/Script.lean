/-! # Edit scripts

A script turns one list into another. It is cut into chunks, each of which keeps, deletes or inserts
a run of items and holds these items itself, so what a script starts from and what it leads to can
be read off it.
-/

namespace Typings.Diff

variable {α : Type}

/-- A run of items with one fate. -/
inductive Chunk (α : Type) where
  | keep (items : List α)
  | delete (items : List α)
  | insert (items : List α)
  deriving DecidableEq, Repr

namespace Chunk

/-- The items that the chunk takes from the old list. -/
def old : Chunk α → List α
  | keep items => items
  | delete items => items
  | insert _ => []

/-- The items that the chunk gives to the new list. -/
def new : Chunk α → List α
  | keep items => items
  | delete _ => []
  | insert items => items

end Chunk

abbrev Script (α : Type) : Type := List (Chunk α)

namespace Script

/-- The list that the script starts from. -/
def old (s : Script α) : List α := s.flatMap Chunk.old

/-- The list that the script leads to. -/
def new (s : Script α) : List α := s.flatMap Chunk.new

/-- The script that keeps the items; it is empty where there are none. -/
def keeping (items : List α) : Script α := if items.isEmpty then [] else [.keep items]

/-- The script that deletes some items and inserts others in their place. -/
def replacing (deleted inserted : List α) : Script α :=
  (if deleted.isEmpty then [] else [.delete deleted]) ++
    (if inserted.isEmpty then [] else [.insert inserted])

end Script

/-- The longest common beginning of two lists and what follows it in either. -/
def splitPrefix [DecidableEq α] : List α → List α → List α × List α × List α
  | a :: as, b :: bs =>
    if a = b then
      let (common, as, bs) := splitPrefix as bs
      (a :: common, as, bs)
    else ([], a :: as, b :: bs)
  | as, bs => ([], as, bs)

/-- The longest common end of two lists and what precedes it in either. -/
def splitSuffix [DecidableEq α] (as bs : List α) : List α × List α × List α :=
  let (common, as, bs) := splitPrefix as.reverse bs.reverse
  (common.reverse, as.reverse, bs.reverse)

end Typings.Diff
