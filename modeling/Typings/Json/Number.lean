import Typings.Json.Double

/-! # Numbers

A number of a document is an integer where it is written as one and fits 64 bits, and a
double-precision number otherwise. The negative zero is not an integer.

The value of a written number comes from its digits in two steps. As many leading digits as fit 64
bits make up the significand; what follows them only moves the exponent, or is dropped. Then
`Double.ofDecimal` scales the significand.
-/

namespace Typings.Json

/-- A number as a value. -/
inductive Number where
  | integer (value : Int)
  | double (value : Double)
  deriving DecidableEq, Repr

/-- A number as it is written: a sign, digits, and optional digits of fraction and exponent. -/
structure Numeral where
  negative : Bool
  integer : List Char
  fraction : Option (List Char) := none
  /-- The sign and the digits of the exponent. -/
  exponent : Option (Bool × List Char) := none
  deriving DecidableEq, Repr

/-- The value of a decimal digit. -/
def digitValue (c : Char) : Nat := c.toNat - '0'.toNat

/-- The greatest significand. -/
def maxSignificand : Nat := Nat.pow 2 64 - 1

/-- The greatest decimal exponent that can be written. -/
def maxExponentDigits : Nat := Nat.pow 2 31 - 1

/-- The significand of the digits before the point, and the number of digits that it leaves out. -/
def wholeDigits : Nat → List Char → Nat × Nat
  | significand, [] => (significand, 0)
  | significand, c :: rest =>
    let next := significand * 10 + digitValue c
    if maxSignificand < next then (significand, rest.length + 1) else wholeDigits next rest

/-- The significand after the digits behind the point, and the number of digits that it takes in. -/
def fractionDigits : Nat → List Char → Nat × Nat
  | significand, [] => (significand, 0)
  | significand, c :: rest =>
    let next := significand * 10 + digitValue c
    if maxSignificand < next then (significand, 0)
    else
      let (result, taken) := fractionDigits next rest
      (result, taken + 1)

/-- The value of exponent digits, or, where it is out of bounds, the number of digits up to and
with the one that takes it there. -/
def exponentDigits : Nat → Nat → List Char → Except Nat Nat
  | value, _, [] => .ok value
  | value, read, c :: rest =>
    let next := value * 10 + digitValue c
    if maxExponentDigits < next then .error (read + 1) else exponentDigits next (read + 1) rest

/-- Why a well-formed numeral has no value: it is too great, which shows after all of its
characters or already after some digits of the exponent. -/
inductive Overflow where
  | atEnd
  | inExponent (digits : Nat)
  deriving DecidableEq, Repr

namespace Numeral

/-- The integer that the numeral denotes, where it is written as an integer and fits 64 bits. -/
def integer? (n : Numeral) : Option Int :=
  match n.fraction, n.exponent, wholeDigits 0 n.integer with
  | none, none, (significand, 0) =>
    if !n.negative then some significand
    else if 0 < significand ∧ significand ≤ Nat.pow 2 63 then some (-significand)
    else none
  | _, _, _ => none

/-- The significand and the decimal exponent without the written exponent. -/
def decimal (n : Numeral) : Nat × Int :=
  let (whole, dropped) := wholeDigits 0 n.integer
  let (significand, taken) := fractionDigits whole (n.fraction.getD [])
  (significand, (dropped : Int) - taken)

/-- The number nearest to a significand and a decimal exponent. -/
def scaled (negative : Bool) (significand : Nat) (exponent : Int) : Except Overflow Double :=
  match Double.ofDecimal negative significand exponent with
  | some d => .ok d
  | none => .error .atEnd

def value (n : Numeral) : Except Overflow Number :=
  match n.integer? with
  | some i => .ok (.integer i)
  | none =>
    let (significand, exponent) := n.decimal
    match n.exponent with
    | none => (scaled n.negative significand exponent).map .double
    | some (down, digits) =>
      match exponentDigits 0 0 digits with
      | .ok written =>
        (scaled n.negative significand
          (if down then exponent - written else exponent + written)).map .double
      | .error read =>
        if significand ≠ 0 ∧ !down then .error (.inExponent read)
        else .ok (.double (.zero n.negative))

end Numeral

namespace Double

/-- The digits with a point after the first `whole` of them, and at least one digit behind it. -/
def placePoint (digits : List Char) (whole : Nat) : List Char :=
  if digits.length ≤ whole then digits ++ List.replicate (whole - digits.length) '0' ++ ['.', '0']
  else digits.take whole ++ '.' :: digits.drop whole

/-- The text of a number: the fewest digits that read back, in positional notation where the
decimal exponent lies between -5 and 15, with at least one digit behind the point, and in
exponential notation elsewhere. -/
def text (d : Double) : String :=
  let sign := if d.negative then "-" else ""
  if d.isZero then sign ++ "0.0"
  else
    let (digits, power) := d.shortest
    let digits := Nat.toDigits 10 digits
    let exponent := power + (digits.length : Int) - 1
    if 0 ≤ exponent ∧ exponent ≤ 15 then
      sign ++ String.ofList (placePoint digits (exponent.toNat + 1))
    else if -5 ≤ exponent ∧ exponent < 0 then
      sign ++ "0." ++ String.ofList (List.replicate (-exponent - 1).toNat '0' ++ digits)
    else
      let mantissa := if digits.length = 1 then digits else placePoint digits 1
      sign ++ String.ofList mantissa ++ "e" ++ (if exponent < 0 then "-" else "+") ++
        toString exponent.natAbs

end Double

def Number.text : Number → String
  | integer value => toString value
  | double value => value.text

end Typings.Json
