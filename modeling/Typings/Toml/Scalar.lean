/-! # Numbers and dates

The spellings of numbers, dates and times in TOML.
-/

namespace Typings.Toml

/-- Digits of a base, with single underscores between them. -/
def areGroupedDigits (isDigit : Char → Bool) : List Char → Bool
  | [] => false
  | [c] => isDigit c
  | c :: '_' :: rest => isDigit c && areGroupedDigits isDigit rest
  | c :: rest => isDigit c && areGroupedDigits isDigit rest

def isHexDigit (c : Char) : Bool :=
  c.isDigit || ('a' ≤ c && c ≤ 'f') || ('A' ≤ c && c ≤ 'F')

/-- The number that digits of a base stand for, underscores left out. -/
def digitsValue (base : Nat) (cs : List Char) : Nat :=
  cs.foldl (fun n c =>
    if c = '_' then n
    else n * base + (if c.isDigit then c.toNat - 48 else c.toLower.toNat - 87)) 0

/-- The digits are those of the base and the number fits 63 bits. -/
def isBasedInteger (base : Nat) (isDigit : Char → Bool) (cs : List Char) : Bool :=
  areGroupedDigits isDigit cs && digitsValue base cs < Nat.pow 2 63

/-- A decimal number without sign: digits, the first of which is no zero unless it is the only
one. -/
def isDecimal (cs : List Char) : Bool :=
  areGroupedDigits Char.isDigit cs && (cs.head? ≠ some '0' || cs.length == 1)

def dropSign : List Char → List Char
  | '+' :: rest => rest
  | '-' :: rest => rest
  | cs => cs

/-- The spelling of an integer that fits 64 bits. -/
def isInteger (cs : List Char) : Bool :=
  match cs with
  | '0' :: 'x' :: rest => isBasedInteger 16 isHexDigit rest
  | '0' :: 'o' :: rest => isBasedInteger 8 (fun c => '0' ≤ c && c ≤ '7') rest
  | '0' :: 'b' :: rest => isBasedInteger 2 (fun c => c == '0' || c == '1') rest
  | cs =>
    let digits := dropSign cs
    isDecimal digits &&
      digitsValue 10 digits ≤ (if cs.head? = some '-' then Nat.pow 2 63 else Nat.pow 2 63 - 1)

/-- The spelling of an exponent behind its letter. -/
def isExponent (cs : List Char) : Bool := areGroupedDigits Char.isDigit (dropSign cs)

/-- The least number that is nearer to infinity than to the largest number with 53 binary digits. -/
def overflowBound : Nat := Nat.pow 2 1024 - Nat.pow 2 970

/-- A decimal number without sign, of well-formed digits, is beyond all floating-point numbers. The
place of its first digit decides that unless it is near the bound. -/
def overflows (cs : List Char) : Bool :=
  let mantissa := cs.takeWhile fun c => c ≠ 'e' && c ≠ 'E'
  let digits := mantissa.filter Char.isDigit
  let value := digitsValue 10 digits
  let spelled := cs.drop (mantissa.length + 1)
  let exponent : Int := Int.ofNat (digitsValue 10 (dropSign spelled))
  let places := ((mantissa.dropWhile (· ≠ '.')).filter Char.isDigit).length
  let shift := (if spelled.head? = some '-' then -exponent else exponent) - places
  let leading := shift + (digits.dropWhile (· == '0')).length
  if value = 0 || leading < 309 then false
  else if 309 < leading then true
  else if 0 ≤ shift then overflowBound ≤ value * Nat.pow 10 shift.toNat
  else overflowBound * Nat.pow 10 (-shift).toNat ≤ value

/-- The spelling of a floating-point number. Large negative numbers may be infinite, positive ones
may not. -/
def isFloat (cs : List Char) : Bool :=
  let unsigned := dropSign cs
  let whole := unsigned.takeWhile fun c => c ≠ '.' && c ≠ 'e' && c ≠ 'E'
  unsigned == "inf".toList || unsigned == "nan".toList ||
    (isDecimal whole && (cs.head? = some '-' || !overflows unsigned) &&
      match unsigned.drop whole.length with
      | '.' :: rest =>
        let fraction := rest.takeWhile fun c => c ≠ 'e' && c ≠ 'E'
        areGroupedDigits Char.isDigit fraction &&
          (match rest.drop fraction.length with
          | [] => true
          | _ :: exponent => isExponent exponent)
      | [] => false
      | _ :: exponent => isExponent exponent)

/-! ## Dates -/

/-- The number that two digits stand for. -/
def twoDigits? (a b : Char) : Option Nat :=
  if a.isDigit && b.isDigit then some ((a.toNat - 48) * 10 + (b.toNat - 48)) else none

def isLeapYear (year : Nat) : Bool := year % 4 == 0 && (year % 100 ≠ 0 || year % 400 == 0)

def daysOfMonth (year month : Nat) : Nat :=
  if month = 2 then (if isLeapYear year then 29 else 28)
  else if month ∈ [4, 6, 9, 11] then 30
  else 31

/-- What follows a date at the beginning of a text. -/
def afterDate? : List Char → Option (List Char)
  | a :: b :: c :: d :: '-' :: e :: f :: '-' :: g :: h :: rest => do
    let century ← twoDigits? a b
    let year ← twoDigits? c d
    let month ← twoDigits? e f
    let day ← twoDigits? g h
    if 1 ≤ month ∧ month ≤ 12 ∧ 1 ≤ day ∧ day ≤ daysOfMonth (century * 100 + year) month then
      some rest
    else none
  | _ => none

/-- What follows hours and minutes at the beginning of a text. -/
def afterMinutes? : List Char → Option (List Char)
  | a :: b :: ':' :: c :: d :: rest => do
    let hour ← twoDigits? a b
    let minute ← twoDigits? c d
    if hour ≤ 23 ∧ minute ≤ 59 then some rest else none
  | _ => none

/-- What follows a time at the beginning of a text. -/
def afterTime? (cs : List Char) : Option (List Char) := do
  match ← afterMinutes? cs with
  | ':' :: a :: b :: rest =>
    let second ← twoDigits? a b
    if 60 < second then none
    else
      match rest with
      | '.' :: c :: rest => if c.isDigit then some (rest.dropWhile Char.isDigit) else none
      | rest => some rest
  | _ => none

/-- The text is the offset of a time. -/
def isOffset : List Char → Bool
  | ['Z'] => true
  | ['z'] => true
  | '+' :: rest => afterMinutes? rest == some []
  | '-' :: rest => afterMinutes? rest == some []
  | _ => false

/-- The spelling of a date, of a time, or of both. -/
def isMoment (cs : List Char) : Bool :=
  match afterDate? cs with
  | some [] => true
  | some (c :: rest) =>
    (c == 'T' || c == 't' || c == ' ') &&
      (match afterTime? rest with
      | some offset => offset.isEmpty || isOffset offset
      | none => false)
  | none => afterTime? cs == some []

/-- The spelling of a number, a date or a time. -/
def isScalar (cs : List Char) : Bool := isInteger cs || isFloat cs || isMoment cs

example : isScalar "1_000".toList = true := by decide +kernel
example : isScalar "1979-05-27 07:32:00Z".toList = true := by decide +kernel
example : isScalar "01".toList = false := by decide +kernel
example : isScalar "1.7976931348623158e308".toList = true := by decide +kernel
example : isScalar "1.7976931348623159e308".toList = false := by decide +kernel

end Typings.Toml
