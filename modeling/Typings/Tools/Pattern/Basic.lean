import Typings.Tools.ByteClass

/-! # Patterns

A pattern describes stretches of a text: bytes out of sets, edges of lines and words, alternatives
and repetitions. Parts of a pattern can be groups, whose stretches are remembered; a pattern can ask
for the stretch of a group to stand once more.
-/

namespace Typings.Tools

/-- A place between two bytes of a text that a pattern can ask for. -/
inductive Edge where
  | lineStart
  | lineEnd
  | textStart
  | textEnd
  | wordStart
  | wordEnd
  /-- Where a word starts or ends. -/
  | wordBoundary
  /-- Where no word starts or ends. -/
  | noBoundary
  deriving DecidableEq, Repr

/-- A description of stretches of a text. -/
inductive Pattern where
  /-- The empty stretch. -/
  | nothing
  /-- One byte out of a set. -/
  | one (set : ByteSet)
  | edge (e : Edge)
  /-- A part whose stretch is remembered under a number. -/
  | group (number : Nat) (inner : Pattern)
  /-- What the group with a number has matched last. -/
  | again (number : Nat)
  | both (first second : Pattern)
  | either (first second : Pattern)
  /-- Any number of stretches, one behind the other. -/
  | many (inner : Pattern)

namespace Pattern

/-- A part that may be missing. -/
def optional (p : Pattern) : Pattern := either p nothing

/-- A part for a number of times in a row. -/
def times (p : Pattern) : Nat → Pattern
  | 0 => nothing
  | 1 => p
  | n + 1 => both (times p n) p

/-- A part for at most a number of times in a row. -/
def upTo (p : Pattern) : Nat → Pattern
  | 0 => nothing
  | 1 => optional p
  | n + 1 => optional (both (upTo p n) p)

/-- A part for at least some number of times in a row, and at most another one if there is such a
limit. -/
def repeated (p : Pattern) (least : Nat) : Option Nat → Pattern
  | none => if least = 0 then many p else both (times p least) (many p)
  | some most =>
    if least = most then times p least
    else if least = 0 then upTo p most
    else both (times p least) (upTo p (most - least))

/-- The pattern asks for the stretch of a group. -/
def hasAgain : Pattern → Bool
  | again _ => true
  | group _ p | many p => hasAgain p
  | both p q | either p q => hasAgain p || hasAgain q
  | nothing | one _ | edge _ => false

/-- The highest number of a group. -/
def groupCount : Pattern → Nat
  | group n p => max n (groupCount p)
  | many p => groupCount p
  | both p q | either p q => max (groupCount p) (groupCount q)
  | nothing | one _ | edge _ | again _ => 0

end Pattern

/-- How patterns are written and what they take for the same. -/
structure PatternStyle where
  /-- Groups, alternatives and repetitions are written without a backslash. -/
  extended : Bool := false
  ignoresCase : Bool := false
  /-- Lines have edges inside a text. -/
  multiline : Bool := false
  deriving DecidableEq, Repr

/-- Why a pattern cannot be read. -/
inductive PatternError where
  | incomplete
  | invalidClass
  | invalidCollation
  | trailingBackslash
  | invalidReference
  | openBracket
  | openGroup
  | openCount
  | invalidCount
  | invalidRange
  | tooBig
  | nothingToRepeat
  | strayClose
  /-- A class stands outside of the brackets that it needs. -/
  | bareClass
  deriving DecidableEq, Repr

/-- What is wrong, in words. -/
def PatternError.message : PatternError → String
  | incomplete => "Invalid regular expression"
  | invalidClass => "Invalid character class name"
  | invalidCollation => "Invalid collation character"
  | trailingBackslash => "Trailing backslash"
  | invalidReference => "Invalid back reference"
  | openBracket => "Unmatched [, [^, [:, [., or [="
  | openGroup => "Unmatched ( or \\("
  | openCount => "Unmatched \\\x7b"
  | invalidCount => "Invalid content of \\\x7b\\\x7d"
  | invalidRange => "Invalid range end"
  | tooBig => "Regular expression too big"
  | nothingToRepeat => "Invalid preceding regular expression"
  | strayClose => "Unmatched ) or \\)"
  | bareClass => "character class syntax is [[:space:]], not [:space:]"

end Typings.Tools
