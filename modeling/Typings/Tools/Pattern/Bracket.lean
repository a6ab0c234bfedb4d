import Typings.Tools.Pattern.Basic

/-! # Bracket expressions

Sets of bytes as they are written between brackets in a pattern: bytes, ranges, named classes, and
the forms for one collating element or one class of equivalent ones, which stand for single bytes.
-/

namespace Typings.Tools.Pattern

/-- An element between brackets. -/
inductive Element where
  | byte (b : UInt8)
  | collating (name : Bytes)
  | equivalent (name : Bytes)
  | named (name : Bytes)

namespace Element

def rangeEnd : Element → Except PatternError UInt8
  | byte b => .ok b
  | collating [b] => .ok b
  | collating _ => .error .invalidCollation
  | equivalent _ | named _ => .error .invalidRange

/-- The bytes that an element stands for. -/
def members (ignoresCase : Bool) : Element → Except PatternError (UInt8 → Bool)
  | byte b | collating [b] | equivalent [b] =>
    .ok fun x => x == b || (ignoresCase && upperByte x == upperByte b)
  | collating _ | equivalent _ => .error .invalidCollation
  | named name =>
    match ByteClass.ofName? name with
    | none => .error .invalidClass
    | some c =>
      let c := if ignoresCase && (c == .upper || c == .lower) then .alpha else c
      .ok c.contains

def mayBeginRange : Element → Bool
  | byte _ | collating _ => true
  | equivalent _ | named _ => false

end Element

/-- The longest name between colons, points or equality signs. -/
def longestName : Nat := 31

/-- The name up to its closing sign and bracket, with what follows. -/
def readName (sign : UInt8) (before : Bytes) : Bytes → Option (Bytes × Bytes)
  | [] => none
  | b :: rest =>
    if longestName < before.length then none
    else if b == sign && rest.head? == some 93 then some (before.reverse, rest.drop 1)
    else readName sign (b :: before) rest

/-- An element at the beginning of some bytes. -/
def readElement : Bytes → Except PatternError (Element × Bytes)
  | 91 :: 58 :: rest => called (readName 58 [] rest) .named
  | 91 :: 46 :: rest => called (readName 46 [] rest) .collating
  | 91 :: 61 :: rest => called (readName 61 [] rest) .equivalent
  | b :: rest => .ok (.byte b, rest)
  | [] => .error .openBracket
where
  called (found : Option (Bytes × Bytes)) (element : Bytes → Element) :
      Except PatternError (Element × Bytes) :=
    match found with
    | none => .error .openBracket
    | some (name, rest) => .ok (element name, rest)

/-- The bytes of a range. A range whose ends are in order only without regard to case is empty. -/
def rangeMembers (ignoresCase : Bool) (first last : Element) :
    Except PatternError (UInt8 → Bool) := do
  if !last.mayBeginRange then throw .invalidRange
  let low ← first.rangeEnd
  let high ← last.rangeEnd
  if !ignoresCase then
    if high < low then throw .invalidRange
    return ByteClass.within low high
  else
    if upperByte high < upperByte low then throw .invalidRange
    return fun b => low ≤ high && ByteClass.within (upperByte low) (upperByte high) (upperByte b)

/-- An element or a range at the beginning of some bytes. Anywhere but in the first place a hyphen
stands for itself only right before the closing bracket. -/
def readMembers (ignoresCase isFirst : Bool) (bytes : Bytes) :
    Except PatternError ((UInt8 → Bool) × Bytes) := do
  if bytes.head? == some 45 && !isFirst && bytes[1]? != some 93 then throw .invalidRange
  let (first, rest) ← readElement bytes
  match rest with
  | 45 :: more =>
    if !first.mayBeginRange then return (← first.members ignoresCase, rest)
    else
      match more with
      | [] => throw .openBracket
      | 93 :: _ => return (← first.members ignoresCase, rest)
      | _ =>
        let (last, more) ← readElement more
        return (← rangeMembers ignoresCase first last, more)
  | _ => return (← first.members ignoresCase, rest)

/-- Members up to the closing bracket, with what follows it. -/
def readAllMembers (ignoresCase : Bool) :
    Nat → Bool → List (UInt8 → Bool) → Bytes → Except PatternError (List (UInt8 → Bool) × Bytes)
  | 0, _, _, _ => .error .openBracket
  | limit + 1, isFirst, before, bytes => do
    let (members, rest) ← readMembers ignoresCase isFirst bytes
    match rest with
    | [] => throw .openBracket
    | 93 :: rest => return (members :: before, rest)
    | _ => readAllMembers ignoresCase limit false (members :: before) rest

/-- The bytes between the brackets begin and end with a colon, as if they were to name a class. -/
def looksLikeClass (bytes : Bytes) : Bool :=
  let inner := if bytes.head? == some 94 then bytes.drop 1 else bytes
  !inner.contains 91 && !inner.contains 45 && inner.head? == some 58 &&
    inner.getLast? == some 58 && inner.any (· != 58)

/-- The set that is written behind an opening bracket, with what follows the closing one. -/
def readBracket (style : PatternStyle) (bytes : Bytes) : Except PatternError (ByteSet × Bytes) := do
  let negated := bytes.head? == some 94
  let inner := if negated then bytes.drop 1 else bytes
  if inner.isEmpty then throw .incomplete
  let (members, rest) ← readAllMembers style.ignoresCase bytes.length true [] inner
  if looksLikeClass (bytes.take (bytes.length - rest.length - 1)) then throw .bareClass
  let isMember b := members.any (· b) || (negated && style.multiline && b == 10)
  return (.ofPredicate fun b => isMember b != negated, rest)

end Typings.Tools.Pattern
