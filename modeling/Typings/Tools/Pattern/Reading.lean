import Typings.Tools.Pattern.Bracket

/-! # Reading patterns

How patterns are written. In the basic style groups, alternatives, counts and the signs `+` and `?`
have a backslash in front; in the extended style they have none, and the backslash takes their
meaning away.
-/

namespace Typings.Tools.Pattern

/-- A sign of a written pattern. -/
inductive Token where
  | byte (b : UInt8)
  | any
  | openBracket
  | edge (e : Edge)
  /-- A byte that may stand in a word, or one that may not. -/
  | wordByte (negated : Bool)
  /-- White space, or anything else. -/
  | spaceByte (negated : Bool)
  | again (number : Nat)
  | openGroup
  | closeGroup
  | openCount
  | closeCount
  | star
  | plus
  | query
  | bar
  | lastBackslash
  | finish
  deriving DecidableEq, Repr

/-- The token of a byte behind a backslash. -/
def escapedToken (style : PatternStyle) (b : UInt8) : Token :=
  let special (token : Token) := if style.extended then .byte b else token
  match b with
  | 40 => special .openGroup
  | 41 => special .closeGroup
  | 123 => special .openCount
  | 125 => special .closeCount
  | 124 => special .bar
  | 43 => special .plus
  | 63 => special .query
  | 60 => .edge .wordStart
  | 62 => .edge .wordEnd
  | 98 => .edge .wordBoundary
  | 66 => .edge .noBoundary
  | 96 => .edge .textStart
  | 39 => .edge .textEnd
  | 119 => .wordByte false
  | 87 => .wordByte true
  | 115 => .spaceByte false
  | 83 => .spaceByte true
  | b => if ByteClass.within 49 57 b then .again (b.toNat - 48) else .byte b

/-- The token at the beginning of some bytes, with what follows it. In the basic style `^` is the
edge of a line only where something begins, and `$` only where something ends. -/
def nextToken (style : PatternStyle) (begins : Bool) : Bytes → Token × Bytes
  | [] => (.finish, [])
  | [92] => (.lastBackslash, [])
  | 92 :: b :: rest => (escapedToken style b, rest)
  | b :: rest =>
    let special (token : Token) := if style.extended then token else .byte b
    let token := match b with
      | 46 => .any
      | 91 => .openBracket
      | 42 => .star
      | 40 => special .openGroup
      | 41 => special .closeGroup
      | 123 => special .openCount
      | 125 => special .closeCount
      | 124 => special .bar
      | 43 => special .plus
      | 63 => special .query
      | 94 => if style.extended || begins then .edge .lineStart else .byte b
      | 36 =>
        let ends := match rest with
          | [] | 92 :: 124 :: _ | 92 :: 41 :: _ => true
          | _ => false
        if style.extended || ends then .edge .lineEnd else .byte b
      | b => .byte b
    (token, rest)

/-- A place in a written pattern. -/
structure Cursor where
  token : Token
  rest : Bytes
  /-- The number of groups that have been opened. -/
  opened : Nat := 0
  /-- The numbers of the groups that have been closed. -/
  closed : List Nat := []

/-- Goes on to the next token. -/
def Cursor.advance (c : Cursor) (style : PatternStyle) (begins : Bool) : Cursor :=
  let (token, rest) := nextToken style begins c.rest
  { c with token, rest }

/-- The token ends a sequence. -/
def Cursor.endsSequence (c : Cursor) (nested : Bool) : Bool :=
  c.token == .bar || c.token == .finish || (nested && c.token == .closeGroup)

/-! ## Repetitions -/

/-- A number in a count. -/
inductive Count where
  | absent
  | invalid
  | value (n : Nat)
  deriving DecidableEq

/-- The most repetitions that can be asked for. -/
def mostRepetitions : Nat := 32767

/-- The number with one more digit. -/
def Count.extend (n : Count) : Token → Count
  | .byte b =>
    if !isDigit b then invalid
    else
      match n with
      | invalid => invalid
      | absent => value (b.toNat - 48)
      | value n => value (min (mostRepetitions + 1) (n * 10 + (b.toNat - 48)))
  | _ => invalid

/-- Reads a number up to a comma or the end of the count. -/
def readCount (style : PatternStyle) : Nat → Count → Cursor → Count × Cursor
  | 0, _, c => (.invalid, c)
  | limit + 1, n, c =>
    let c := c.advance style false
    if c.token == .finish then (.invalid, c)
    else if c.token == .closeCount || c.token == .byte 44 then (n, c)
    else readCount style limit (n.extend c.token) c

/-- The least and the most repetitions of a count, at whose opening the place is. -/
def readCounts (style : PatternStyle) (c : Cursor) :
    Except PatternError ((Nat × Option Nat) × Cursor) := do
  let limit := c.rest.length + 1
  let (first, c) := readCount style limit .absent c
  if first == .absent && c.token != .byte 44 then throw .invalidCount
  let (second, c) :=
    if c.token == .closeCount then (first, c)
    else if c.token == .byte 44 then readCount style limit .absent c
    else (.invalid, c)
  if first == .invalid || second == .invalid then
    throw (if c.token == .finish then .openCount else .invalidCount)
  if c.token != .closeCount then throw .invalidCount
  let least := match first with
    | .value n => n
    | _ => 0
  let most := match second with
    | .value n => some n
    | _ => none
  if most.any (· < least) then throw .invalidCount
  if mostRepetitions < most.getD least then throw .tooBig
  return ((least, most), c.advance style false)

/-- Repeats a part as the tokens behind it ask for. In the basic style a star or a count cannot
follow another repetition. -/
def readRepetitions (style : PatternStyle) :
    Nat → Pattern → Cursor → Except PatternError (Pattern × Cursor)
  | 0, p, c => .ok (p, c)
  | limit + 1, p, c => do
    let again (bounds : Nat × Option Nat) (c : Cursor) :=
      if !style.extended && (c.token == .star || c.token == .openCount) then
        throw .nothingToRepeat
      else readRepetitions style limit (p.repeated bounds.1 bounds.2) c
    match c.token with
    | .star => again (0, none) (c.advance style false)
    | .plus => again (1, none) (c.advance style false)
    | .query => again (0, some 1) (c.advance style false)
    | .openCount =>
      let (bounds, c) ← readCounts style c
      again bounds c
    | _ => return (p, c)

/-! ## Parts, sequences and alternatives -/

/-- One byte, be it a letter in either case if case does not matter. -/
def literal (style : PatternStyle) (b : UInt8) : Pattern :=
  if style.ignoresCase then .one (.ofPredicate fun x => upperByte x == upperByte b)
  else .one (.ofPredicate (· == b))

/-- The pattern of a token that stands for one byte. -/
def single? (style : PatternStyle) : Token → Option Pattern
  | .byte b => some (literal style b)
  | .any => some (.one (.ofPredicate fun b => !style.multiline || b != 10))
  | .wordByte negated => some (.one (.ofPredicate fun b => isWordByte b != negated))
  | .spaceByte negated => some (.one (.ofPredicate fun b => ByteClass.space.contains b != negated))
  | .closeCount => some (literal style 125)
  | .star => if style.extended then none else some (literal style 42)
  | .plus => if style.extended then none else some (literal style 43)
  | .query => if style.extended then none else some (literal style 63)
  | _ => none

mutual

/-- Alternatives up to the end of the pattern or of the group that they are in. -/
def readAlternatives (style : PatternStyle) (nested : Bool) :
    Nat → Cursor → Except PatternError (Pattern × Cursor)
  | 0, _ => .error .tooBig
  | limit + 1, c => do
    let (first, further) ← readSequence style nested limit c
    readFurther style nested c.closed limit first further

/-- Further alternatives behind some that have been read. `known` are the groups that were closed
before them all: no alternative can mention a group of another one. -/
def readFurther (style : PatternStyle) (nested : Bool) (known : List Nat) :
    Nat → Pattern → Cursor → Except PatternError (Pattern × Cursor)
  | 0, _, _ => .error .tooBig
  | limit + 1, before, c => do
    if c.token != .bar then return (before, c)
    else
      let next := c.advance style true
      if next.endsSequence nested then
        readFurther style nested known limit (.either before .nothing) next
      else
        let (branch, next) ← readSequence style nested limit { next with closed := known }
        readFurther style nested known limit (.either before branch)
          { next with closed := c.closed ++ next.closed }

/-- Parts that stand one behind the other. -/
def readSequence (style : PatternStyle) (nested : Bool) :
    Nat → Cursor → Except PatternError (Pattern × Cursor)
  | 0, _ => .error .tooBig
  | limit + 1, c => do
    let (part, c) ← readPart style limit c
    if c.endsSequence nested then return (part, c)
    else
      let (parts, c) ← readSequence style nested limit c
      return (.both part parts, c)

/-- One part with its repetitions. An edge cannot be repeated. -/
def readPart (style : PatternStyle) : Nat → Cursor → Except PatternError (Pattern × Cursor)
  | 0, _ => .error .tooBig
  | limit + 1, c => do
    let repeated (p : Pattern) (c : Cursor) :=
      readRepetitions style (c.rest.length + 2) p (c.advance style false)
    match c.token with
    | .bar | .finish => return (.nothing, c)
    | .lastBackslash => throw .trailingBackslash
    | .closeGroup => throw .strayClose
    | .openCount => throw .nothingToRepeat
    | .edge e => return (.edge e, c.advance style false)
    | .again number =>
      if c.closed.contains number then repeated (.again number) c else throw .invalidReference
    | .openBracket =>
      let (set, rest) ← readBracket style c.rest
      repeated (.one set) { c with rest }
    | .openGroup =>
      let number := c.opened + 1
      let c := { c.advance style true with opened := number }
      let (inner, c) ←
        if c.token == .closeGroup then pure (.nothing, c)
        else readAlternatives style true limit c
      if c.token != .closeGroup then throw .openGroup
      repeated (.group number inner) { c with closed := number :: c.closed }
    | token =>
      match single? style token with
      | some p => repeated p c
      | none => throw .nothingToRepeat

end

/-- The pattern that is written in some bytes, with the number of its groups. A group that stands
for no times at all counts as well. -/
def read (style : PatternStyle) (written : Bytes) : Except PatternError (Pattern × Nat) := do
  let (token, rest) := nextToken style true written
  let (p, c) ← readAlternatives style false (4 * written.length + 8) { token, rest }
  return (p, c.opened)

end Typings.Tools.Pattern
