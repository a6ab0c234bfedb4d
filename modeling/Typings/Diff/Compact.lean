import Typings.Diff.Script

/-! # Compaction

A shortest script need not be the one that reads best. Every run of deletions, and then every run of
insertions, is slid up as far as it goes and then down as far as it goes; runs that touch become
one. A run of insertions slides over kept items that equal the ones at its end, and past any
deletions. A run of deletions only moves past insertions.
-/

namespace Typings.Diff

variable {α : Type} [DecidableEq α]

/-- A run of edits of either kind. -/
structure Run (α : Type) where
  inserts : Bool
  items : List α

namespace Run

/-- The run as a chunk of a script. -/
def chunk (r : Run α) : Chunk α := if r.inserts then .insert r.items else .delete r.items

end Run

/-- A script around a run that is on its way: the chunks before it, nearest first, and the chunks
behind it. -/
structure Focus (α : Type) where
  before : Script α
  run : Run α
  behind : Script α

/-- Slides inserted items up over kept ones, given from their ends. The result is what stays kept,
what is inserted, both from their ends, and what comes to be kept behind it. -/
def slideUp (moved : List α) : List α → List α → List α × List α × List α
  | [], inserted => ([], inserted, moved)
  | kept, [] => (kept, [], moved)
  | a :: kept, b :: inserted =>
    if a = b then slideUp (a :: moved) kept (inserted ++ [b]) else (a :: kept, b :: inserted, moved)

/-- Slides inserted items down over kept ones. The result is what comes to be kept before it, from
its end, what is inserted, and what stays kept. -/
def slideDown (moved : List α) : List α → List α → List α × List α × List α
  | inserted, [] => (moved, inserted, [])
  | [], kept => (moved, [], kept)
  | b :: inserted, a :: kept =>
    if a = b then slideDown (a :: moved) (inserted ++ [b]) kept
    else (moved, b :: inserted, a :: kept)
  termination_by _ kept => kept.length

/-- Puts kept items in front of a script, joining them to kept items there. -/
def keepBefore (items : List α) (s : Script α) : Script α :=
  if items.isEmpty then s
  else
    match s with
    | .keep others :: rest => .keep (items ++ others) :: rest
    | s => .keep items :: s

/-- Puts kept items, given from their end, behind a script that is given from its end. -/
def keepBehind (items : List α) (s : Script α) : Script α :=
  if items.isEmpty then s
  else
    match s with
    | .keep others :: rest => .keep (others ++ items.reverse) :: rest
    | s => .keep items.reverse :: s

/-- Moves a run up as far as it goes. -/
def moveUp (run : Run α) (behind : Script α) : Script α → Focus α
  | [] => ⟨[], run, behind⟩
  | .keep kept :: before =>
    let (left, items, moved) :=
      if run.inserts then slideUp [] kept.reverse run.items.reverse
      else (kept.reverse, run.items.reverse, [])
    let run := { run with items := items.reverse }
    let behind := keepBefore moved behind
    if left.isEmpty then moveUp run behind before else ⟨.keep left.reverse :: before, run, behind⟩
  | .insert items :: before =>
    if run.inserts then moveUp { run with items := items ++ run.items } behind before
    else moveUp run (.insert items :: behind) before
  | .delete items :: before =>
    if run.inserts then moveUp run (.delete items :: behind) before
    else moveUp { run with items := items ++ run.items } behind before

/-- Moves a run down as far as it goes. -/
def moveDown (run : Run α) (before : Script α) : Script α → Focus α
  | [] => ⟨before, run, []⟩
  | .keep kept :: behind =>
    let (moved, items, left) :=
      if run.inserts then slideDown [] run.items kept else ([], run.items, kept)
    let run := { run with items := items }
    let before := keepBehind moved before
    if left.isEmpty then moveDown run before behind else ⟨before, run, .keep left :: behind⟩
  | .insert items :: behind =>
    if run.inserts then moveDown { run with items := run.items ++ items } before behind
    else moveDown run (.insert items :: before) behind
  | .delete items :: behind =>
    if run.inserts then moveDown run (.delete items :: before) behind
    else moveDown { run with items := run.items ++ items } before behind

/-- Moves a run up and then down. -/
def settle (run : Run α) (before behind : Script α) : Focus α :=
  let up := moveUp run behind before
  moveDown up.run up.before up.behind

/-- The chunk as a run of the wanted kind. -/
def Chunk.run? (inserts : Bool) : Chunk α → Option (Run α)
  | .keep _ => none
  | .insert items => if inserts then some ⟨true, items⟩ else none
  | .delete items => if inserts then none else some ⟨false, items⟩

/-- Settles every run of one kind in turn. At most `limit` chunks are visited. -/
def settleAll (inserts : Bool) : Nat → Script α → Script α → Script α
  | 0, before, behind => before.reverse ++ behind
  | _, before, [] => before.reverse
  | limit + 1, before, c :: behind =>
    match c.run? inserts with
    | none => settleAll inserts limit (c :: before) behind
    | some run =>
      let settled := settle run before behind
      settleAll inserts limit (settled.run.chunk :: settled.before) settled.behind

/-- More chunks than are visited while a script is compacted. -/
def visitLimit (s : Script α) : Nat :=
  let n := s.length + s.old.length + s.new.length
  (n + 1) * (n + 2)

/-- The script with its deletions settled and then its insertions. -/
def compact (s : Script α) : Script α :=
  let s := settleAll false (visitLimit s) [] s
  settleAll true (visitLimit s) [] s

end Typings.Diff
