import Typings.Tools.Basic

/-! # Classes and sets of bytes

The named classes of bytes that text tools know, as ASCII has them, and sets of bytes for quick
membership tests.
-/

namespace Typings.Tools

/-- A named class of bytes. -/
inductive ByteClass where
  | alnum
  | alpha
  | blank
  | cntrl
  | digit
  | graph
  | lower
  | print
  | punct
  | space
  | upper
  | xdigit
  deriving DecidableEq, Repr

namespace ByteClass

def named : List (String × ByteClass) :=
  [("alnum", alnum), ("alpha", alpha), ("blank", blank), ("cntrl", cntrl), ("digit", digit),
    ("graph", graph), ("lower", lower), ("print", print), ("punct", punct), ("space", space),
    ("upper", upper), ("xdigit", xdigit)]

def ofName? (name : Bytes) : Option ByteClass :=
  (named.find? fun (n, _) => bytesOf n == name).map (·.2)

/-- The byte lies between two others. -/
def within (first last b : UInt8) : Bool := first ≤ b && b ≤ last

def contains (c : ByteClass) (b : UInt8) : Bool :=
  match c with
  | alnum => within 48 57 b || within 65 90 b || within 97 122 b
  | alpha => within 65 90 b || within 97 122 b
  | blank => b == 9 || b == 32
  | cntrl => b < 32 || b == 127
  | digit => within 48 57 b
  | graph => within 33 126 b
  | lower => within 97 122 b
  | print => within 32 126 b
  | punct => within 33 47 b || within 58 64 b || within 91 96 b || within 123 126 b
  | space => within 9 13 b || b == 32
  | upper => within 65 90 b
  | xdigit => within 48 57 b || within 65 70 b || within 97 102 b

end ByteClass

/-- The byte is a decimal digit. -/
def isDigit (b : UInt8) : Bool := ByteClass.digit.contains b

def decimalValue (digits : Bytes) : Nat := digits.foldl (fun n d => n * 10 + (d.toNat - 48)) 0

/-- The byte may stand in a word: a letter, a digit or an underscore. -/
def isWordByte (b : UInt8) : Bool := ByteClass.alnum.contains b || b == 95

/-- A small letter as a capital one. -/
def upperByte (b : UInt8) : UInt8 := if ByteClass.lower.contains b then b - 32 else b

/-- A capital letter as a small one. -/
def lowerByte (b : UInt8) : UInt8 := if ByteClass.upper.contains b then b + 32 else b

/-- All bytes in order. -/
def allBytes : Bytes := (List.range 256).map UInt8.ofNat

/-- A set of bytes: for every byte whether it belongs to the set. -/
structure ByteSet where
  members : Array Bool

namespace ByteSet

/-- The bytes that satisfy a test. -/
def ofPredicate (p : UInt8 → Bool) : ByteSet := ⟨(allBytes.map p).toArray⟩

def contains (s : ByteSet) (b : UInt8) : Bool := s.members.getD b.toNat false

def ofBytes (bytes : Bytes) : ByteSet :=
  ⟨bytes.foldl (fun members b => members.setIfInBounds b.toNat true)
    (Array.replicate 256 false)⟩

end ByteSet

end Typings.Tools
