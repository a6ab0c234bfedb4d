/-! # Middle snakes

Where a shortest edit script between two lists may be cut in two. Paths are searched from both ends
at once: after `d` rounds, the forward table holds for every diagonal how far a path with `d` edits
reaches from the start, and the backward table how far one reaches from the end. The scripts before
and after the point where two paths meet are shortest ones again.

The search is bound to find a point. Whoever uses it depends on that for the length of a script
only, and not for its being a script.
-/

namespace Typings.Diff

variable {α : Type} [DecidableEq α]

/-- How far paths reach, by diagonal. Diagonals run from `-radius` to `radius`. -/
structure Reach where
  radius : Nat
  table : Array Nat

namespace Reach

/-- The table of a search before its first round. -/
def start (radius : Nat) : Reach := ⟨radius, Array.replicate (2 * radius + 1) 0⟩

def slot (r : Reach) (diagonal : Int) : Nat := (diagonal + r.radius).toNat

def get (r : Reach) (diagonal : Int) : Nat := r.table.getD (r.slot diagonal) 0

def set (r : Reach) (diagonal : Int) (x : Nat) : Reach :=
  { r with table := r.table.setIfInBounds (r.slot diagonal) x }

/-- How far a path reaches on a diagonal with one edit more than the paths of the table. -/
def step (r : Reach) (edits : Nat) (diagonal : Int) : Nat :=
  if diagonal = -edits ∨ (diagonal ≠ edits ∧ r.get (diagonal - 1) < r.get (diagonal + 1)) then
    r.get (diagonal + 1)
  else r.get (diagonal - 1) + 1

end Reach

/-- The number of equal items from the given places on. -/
def runForward (old new : Array α) : Nat → Nat → Nat → Nat
  | 0, _, _ => 0
  | limit + 1, x, y =>
    match old[x]?, new[y]? with
    | some a, some b => if a = b then runForward old new limit (x + 1) (y + 1) + 1 else 0
    | _, _ => 0

/-- The number of equal items before the places that are `x` and `y` items from the ends. -/
def runBackward (old new : Array α) (limit x y : Nat) : Nat :=
  match limit with
  | 0 => 0
  | limit + 1 =>
    if x < old.size ∧ y < new.size then
      match old[old.size - 1 - x]?, new[new.size - 1 - y]? with
      | some a, some b => if a = b then runBackward old new limit (x + 1) (y + 1) + 1 else 0
      | _, _ => 0
    else 0

/-- Two paths meet when together they cover the old list. -/
def meets (old : Array α) (x : Nat) (other : Reach) (diagonal : Int) : Bool :=
  old.size ≤ x + other.get diagonal

/-- One round of the forward search, over `count` diagonals from `edits` downwards. It stops with
the point where a path meets one of the backward search. -/
def forwardRound (old new : Array α) (edits : Nat) (backward : Reach) :
    Nat → Int → Reach → Except (Nat × Nat) Reach
  | 0, _, forward => .ok forward
  | count + 1, diagonal, forward =>
    let delta : Int := old.size - new.size
    let x := forward.step edits diagonal
    let y := (x - diagonal).toNat
    let reached := x + runForward old new old.size x y
    let forward := forward.set diagonal reached
    if delta % 2 = 1 ∧ (diagonal - delta).natAbs < edits ∧
        meets old reached backward (delta - diagonal) then
      .error (x, y)
    else forwardRound old new edits backward count (diagonal - 2) forward

/-- One round of the backward search, over `count` diagonals from `edits` downwards. It stops with
the point where a path meets one of the forward search. -/
def backwardRound (old new : Array α) (edits : Nat) (forward : Reach) :
    Nat → Int → Reach → Except (Nat × Nat) Reach
  | 0, _, backward => .ok backward
  | count + 1, diagonal, backward =>
    let delta : Int := old.size - new.size
    let x := backward.step edits diagonal
    let y := (x - diagonal).toNat
    let run := runBackward old new old.size x y
    let backward := backward.set diagonal (x + run)
    if delta % 2 = 0 ∧ (diagonal - delta).natAbs ≤ edits ∧
        meets old (x + run) forward (delta - diagonal) then
      .error (old.size - (x + run), new.size - (y + run))
    else backwardRound old new edits forward count (diagonal - 2) backward

/-- Rounds with one edit more each, until two paths meet. -/
def search (old new : Array α) : Nat → Nat → Reach → Reach → Except (Nat × Nat) Unit
  | 0, _, _, _ => .ok ()
  | rounds + 1, edits, forward, backward => do
    let forward ← forwardRound old new edits backward (edits + 1) edits forward
    let backward ← backwardRound old new edits forward (edits + 1) edits backward
    search old new rounds (edits + 1) forward backward

/-- The point at which to cut two lists: how many items of either come before it. -/
def middleSnake? (old new : List α) : Option (Nat × Nat) :=
  let old := old.toArray
  let new := new.toArray
  let rounds := (old.size + new.size + 1) / 2 + 1
  match search old new rounds 0 (.start (rounds + 1)) (.start (rounds + 1)) with
  | .error point => some point
  | .ok () => none

end Typings.Diff
