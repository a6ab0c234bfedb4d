import Typings.Tools.Pattern.Basic

/-! # Matching

Finding a pattern in a text. Of all stretches that a pattern matches the one that begins first
counts, and of those that begin there the longest. A pattern becomes a program of small steps; a
search follows all ways through it at once, one byte of the text after the other, and keeps the ways
in their order of preference: an earlier beginning before a later one, the first alternative before
the second, another repetition before none.
-/

namespace Typings.Tools

/-- A step of a matching program. -/
inductive Step where
  | one (set : ByteSet)
  | edge (e : Edge)
  /-- Remembers the place in the text. -/
  | mark (slot : Nat)
  | again (number : Nat)
  | fork (first second : Nat)
  | jump (target : Nat)
  | accept

/-- A pattern that is ready to be searched for. -/
structure Matcher where
  steps : Array Step
  /-- How many places are remembered: the two ends of every group. -/
  slots : Nat
  /-- Whether groups are asked for again, which makes their ends part of the state of a way. -/
  looksBack : Bool
  style : PatternStyle

/-- Where a pattern has been found. The ends of a group are in the slots `2 * n - 2` and
`2 * n - 1`, where `n` is the number of the group. -/
structure Found where
  start : Nat
  stop : Nat
  marks : Array (Option Nat)

namespace Pattern

/-- The pattern matches an empty stretch somewhere. -/
def maybeEmpty : Pattern → Bool
  | nothing | edge _ | again _ | many _ => true
  | one _ => false
  | group _ p => maybeEmpty p
  | both p q => maybeEmpty p && maybeEmpty q
  | either p q => maybeEmpty p || maybeEmpty q

/-- The steps of a pattern, from a number on. Whatever can match the empty stretch is repeated in a
way that follows it at least once, so that its groups are remembered. -/
def stepsFrom (start : Nat) : Pattern → List Step
  | nothing => []
  | one set => [.one set]
  | edge e => [.edge e]
  | again n => [.again n]
  | group n p => .mark (2 * n - 2) :: stepsFrom (start + 1) p ++ [.mark (2 * n - 1)]
  | both p q =>
    let first := stepsFrom start p
    first ++ stepsFrom (start + first.length) q
  | either p q =>
    let first := stepsFrom (start + 1) p
    let second := stepsFrom (start + first.length + 2) q
    let stop := start + first.length + 2 + second.length
    .fork (start + 1) (start + first.length + 2) :: first ++ .jump stop :: second
  | many p =>
    let inner := stepsFrom (start + 1) p
    let stop := start + inner.length + 2
    let back := if p.maybeEmpty then .fork (start + 1) stop else .jump start
    .fork (start + 1) stop :: inner ++ [back]

/-- The program of a pattern. -/
def matcher (style : PatternStyle) (p : Pattern) : Matcher where
  steps := (p.stepsFrom 0 ++ [Step.accept]).toArray
  slots := 2 * p.groupCount
  looksBack := p.hasAgain
  style

end Pattern

namespace Matcher

/-- A way through a program: the next step, where the stretch begins, the places that are
remembered, and what is still to be seen of a group that stands once more. -/
structure Way where
  next : Nat
  start : Nat
  marks : Array (Option Nat)
  awaited : Bytes := []

/-- A place in a text: its number and the bytes on both sides. -/
structure Place where
  position : Nat
  before : Option UInt8
  after : Option UInt8

/-- The place is an edge of the given kind. -/
def Place.isEdge (p : Place) (style : PatternStyle) : Edge → Bool :=
  let isWord (b : Option UInt8) := b.any isWordByte
  let isBreak (b : Option UInt8) := style.multiline && b == some 10
  fun
  | .lineStart => p.before.isNone || isBreak p.before
  | .lineEnd => p.after.isNone || isBreak p.after
  | .textStart => p.before.isNone
  | .textEnd => p.after.isNone
  | .wordStart => !isWord p.before && isWord p.after
  | .wordEnd => isWord p.before && !isWord p.after
  | .wordBoundary => isWord p.before != isWord p.after
  | .noBoundary => isWord p.before == isWord p.after

/-- The ways that have come to a place, last one first, and the states that they have been in: for
every step the marks that it has been reached with. -/
structure Arrivals where
  ways : List Way := []
  seen : Array (List (Array (Option Nat)))

/-- The stretch of a group in the text as a whole. -/
def stretch (text : Array UInt8) (marks : Array (Option Nat)) (number : Nat) : Option Bytes := do
  let start ← marks.getD (2 * number - 2) none
  let stop ← marks.getD (2 * number - 1) none
  return (text.extract start stop).toList

/-- Follows ways, in their order, as far as they get without a byte. A way whose state another one
has been in before is given up. Every step is followed at most once for the same marks, so the limit
is not reached. -/
def follow (m : Matcher) (text : Array UInt8) (place : Place) :
    Nat → List Way → Arrivals → Arrivals
  | 0, _, arrivals => arrivals
  | _, [], arrivals => arrivals
  | limit + 1, way :: ways, arrivals =>
    if !way.awaited.isEmpty then
      follow m text place limit ways { arrivals with ways := way :: arrivals.ways }
    else
      let key := if m.looksBack then way.marks else #[]
      let known := arrivals.seen.getD way.next []
      if known.contains key then follow m text place limit ways arrivals
      else
        let arrivals :=
          { arrivals with seen := arrivals.seen.setIfInBounds way.next (key :: known) }
        match m.steps[way.next]? with
        | none => follow m text place limit ways arrivals
        | some (.one _) | some .accept =>
          follow m text place limit ways { arrivals with ways := way :: arrivals.ways }
        | some (.edge e) =>
          let ways :=
            if place.isEdge m.style e then { way with next := way.next + 1 } :: ways else ways
          follow m text place limit ways arrivals
        | some (.mark slot) =>
          let marks := way.marks.setIfInBounds slot (some place.position)
          follow m text place limit ({ way with next := way.next + 1, marks } :: ways) arrivals
        | some (.again number) =>
          match stretch text way.marks number with
          | none => follow m text place limit ways arrivals
          | some awaited =>
            let way := { way with next := way.next + 1, awaited }
            follow m text place limit (way :: ways) arrivals
        | some (.fork first second) =>
          let ways := { way with next := first } :: { way with next := second } :: ways
          follow m text place limit ways arrivals
        | some (.jump target) =>
          follow m text place limit ({ way with next := target } :: ways) arrivals

/-- How many steps the ways at one place can take together. Without looking back every step is
followed once; with it the number of marks is bounded by the places that there are. -/
def followLimit (m : Matcher) (ways : Nat) (positions : Nat) : Nat :=
  let states := m.steps.size * (if m.looksBack then (positions + 2) * (ways + 2) else 1)
  2 * states + ways + 2

/-- Whether a way goes on behind a byte, and how. -/
def Way.step? (m : Matcher) (b : UInt8) (way : Way) : Option Way :=
  match way.awaited with
  | c :: rest =>
    let same := if m.style.ignoresCase then upperByte b == upperByte c else b == c
    if same then some { way with awaited := rest } else none
  | [] =>
    match m.steps[way.next]? with
    | some (.one set) => if set.contains b then some { way with next := way.next + 1 } else none
    | _ => none

/-- The way has come to the end of the program. -/
def Way.accepts (m : Matcher) (way : Way) : Bool :=
  way.awaited.isEmpty && (match m.steps[way.next]? with
    | some .accept => true
    | _ => false)

/-- Goes through a text from a place on. `best` is what has been found so far; once there is
something, no later beginning counts. -/
def scan (m : Matcher) (text : Array UInt8) (ways : List Way) (best : Option Found)
    (position : Nat) (before : Option UInt8) (rest : Bytes) : Option Found :=
  let place : Place := ⟨position, before, rest.head?⟩
  let ways := if best.isSome then ways else
    ways ++ [{ next := 0, start := position, marks := Array.replicate m.slots none }]
  let arrivals := follow m text place (m.followLimit ways.length position) ways
    { seen := Array.replicate m.steps.size [] }
  let ways := arrivals.ways.reverse
  let best := match ways.find? (·.accepts m) with
    | none => best
    | some way =>
      if best.all fun found => way.start ≤ found.start then
        some ⟨way.start, position, way.marks⟩
      else best
  match rest with
  | [] => best
  | b :: rest =>
    let ways := ways.filterMap fun way =>
      if best.any fun found => found.start < way.start then none else way.step? m b
    if ways.isEmpty && best.isSome then best
    else scan m text ways best (position + 1) (some b) rest

/-- Finds the pattern in the part of a text that begins at a position. -/
def find? (m : Matcher) (text : Array UInt8) (position : Nat) (rest : Bytes) : Option Found :=
  let before := if position = 0 then none else text[position - 1]?
  m.scan text [] none position before rest

/-- The pattern matches somewhere in a text. -/
def isIn (m : Matcher) (text : Bytes) : Bool := (m.find? text.toArray 0 text).isSome

end Matcher

end Typings.Tools
