/-! # Binary floating point

The finite double-precision numbers, as a sign, a significand and a power of two, with rounding to
the nearest of them. Rounding is exact arithmetic on natural numbers; a tie goes to the even
significand. `Double.shortest` finds the decimal with the fewest digits that rounds back.
-/

namespace Typings.Json

/-- The finite number `significand · 2 ^ exponent`, or its opposite. A significand has at most 53
bits, and exactly 53 unless the exponent is the least one. -/
structure Double where
  negative : Bool
  significand : Nat
  exponent : Int
  deriving DecidableEq, Repr

namespace Double

/-- The least exponent. -/
def minExponent : Int := -1074

/-- The greatest exponent. -/
def maxExponent : Int := 971

/-- Zero, with a sign. -/
def zero (negative : Bool) : Double := ⟨negative, 0, minExponent⟩

def isZero (d : Double) : Bool := d.significand == 0

/-- The integer nearest to `num / den`; a tie goes to the even neighbour. -/
def roundDiv (num den : Nat) : Nat :=
  let quotient := num / den
  let rest := num % den
  if 2 * rest > den || (2 * rest == den && quotient % 2 == 1) then quotient + 1 else quotient

/-- The fraction `num / den · 2 ^ shift` with whole numbers for both parts. -/
def scaleFraction (num den : Nat) (shift : Int) : Nat × Nat :=
  if 0 ≤ shift then (num * Nat.pow 2 shift.toNat, den)
  else (num, den * Nat.pow 2 (-shift).toNat)

/-- The exponent at which `num / den · 2 ^ shift` has a significand of 53 bits, or the least
exponent where that lies below it. -/
def exponentFor (num den : Nat) (shift : Int) : Int :=
  let guess := (Nat.log2 num : Int) - Nat.log2 den - 53 + shift
  let (n, d) := scaleFraction num den (shift - guess)
  max minExponent (if d * Nat.pow 2 53 ≤ n then guess + 1 else guess)

/-- The number nearest to `num / den · 2 ^ shift`; nothing where that is beyond the greatest finite
number. -/
def nearest (negative : Bool) (num den : Nat) (shift : Int) : Option Double :=
  if num = 0 then some (zero negative)
  else
    let exponent := exponentFor num den shift
    let (n, d) := scaleFraction num den (shift - exponent)
    let significand := roundDiv n d
    let (significand, exponent) :=
      if significand = Nat.pow 2 53 then (Nat.pow 2 52, exponent + 1) else (significand, exponent)
    if maxExponent < exponent then none else some ⟨negative, significand, exponent⟩

/-- The number nearest to a natural number. -/
def ofNat (negative : Bool) (n : Nat) : Option Double :=
  nearest negative n 1 0

/-- The rounded product of a number and `10 ^ k`, where the power itself is rounded first. -/
def mulPowerOfTen (d : Double) (k : Nat) : Option Double := do
  let power ← ofNat false (Nat.pow 10 k)
  nearest d.negative (d.significand * power.significand) 1 (d.exponent + power.exponent)

/-- The rounded quotient of a number and `10 ^ k`, where the power itself is rounded first. -/
def divPowerOfTen (d : Double) (k : Nat) : Option Double := do
  let power ← ofNat false (Nat.pow 10 k)
  nearest d.negative d.significand power.significand (d.exponent - power.exponent)

/-- The greatest power of ten that is a finite number. -/
def maxPowerOfTen : Nat := 308

/-- Divides by the greatest power of ten, as often as asked or until nothing is left. -/
def divByMaxPower : Nat → Double → Option Double
  | 0, d => some d
  | times + 1, d =>
    if d.isZero then some d else (d.divPowerOfTen maxPowerOfTen).bind (divByMaxPower times)

/-- The number read from the digits `significand` and a decimal exponent. The significand is
rounded, then multiplied or divided by a rounded power of ten and rounded again; an exponent below
that of the least power is used up in several divisions. Nothing where the result is not finite. -/
def ofDecimal (negative : Bool) (significand : Nat) (exponent : Int) : Option Double := do
  let d ← ofNat negative significand
  if 0 ≤ exponent then
    if exponent.toNat ≤ maxPowerOfTen then d.mulPowerOfTen exponent.toNat
    else if d.isZero then some d
    else none
  else
    let places := (-exponent).toNat
    let times := (places - 1) / maxPowerOfTen
    let d ← divByMaxPower times d
    if d.isZero then some d else d.divPowerOfTen (places - times * maxPowerOfTen)

/-- The points `low`, `value` and `high`, in units of `2 ^ shift`: the value and the ends of the
interval of reals that round to it. -/
structure Interval where
  low : Nat
  value : Nat
  high : Nat
  shift : Int
  closed : Bool

/-- The reals that round to the number. -/
def interval (d : Double) : Interval where
  low := if d.significand = Nat.pow 2 52 ∧ minExponent < d.exponent then 4 * d.significand - 1
    else 4 * d.significand - 2
  value := 4 * d.significand
  high := 4 * d.significand + 2
  shift := d.exponent - 2
  closed := d.significand % 2 == 0

/-- The multiple of a power of ten with the fewest digits inside the interval, searched downwards
from `10 ^ power`. Of two multiples with as many digits the nearer one is taken, and of two as near
the even one. -/
def searchShortest (i : Interval) : Nat → Int → Nat × Int
  | 0, power => (0, power)
  | steps + 1, power =>
    let inUnits (n : Nat) : Nat × Nat :=
      if 0 ≤ power then scaleFraction n (Nat.pow 10 power.toNat) i.shift
      else scaleFraction (n * Nat.pow 10 (-power).toNat) 1 i.shift
    let (valueNum, valueDen) := inUnits i.value
    let (lowNum, lowDen) := inUnits i.low
    let (highNum, highDen) := inUnits i.high
    let below := valueNum / valueDen
    let above := below + 1
    let belowFits := 0 < below &&
      (if i.closed then lowNum ≤ below * lowDen else lowNum < below * lowDen)
    let aboveFits :=
      if i.closed then above * highDen ≤ highNum else above * highDen < highNum
    if belowFits && aboveFits then (roundDiv valueNum valueDen, power)
    else if belowFits then (below, power)
    else if aboveFits then (above, power)
    else searchShortest i steps (power - 1)

/-- A power of ten above the number. -/
def topPower (d : Double) : Int :=
  let bits := (Nat.log2 d.significand : Int) + d.exponent + 1
  (if 0 ≤ bits then bits * 31 / 100 else bits * 30 / 100) + 1

/-- The decimal `digits · 10 ^ power` with the fewest digits that rounds to the number, sign apart.
The number is not zero. -/
def shortest (d : Double) : Nat × Int :=
  searchShortest d.interval 64 d.topPower

end Double

end Typings.Json
