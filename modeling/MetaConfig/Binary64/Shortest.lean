import MetaConfig.Binary64.Basic
import MetaConfig.Powers
import MetaConfig.Text.Decimal

/-!
The fewest decimal digits that a number can be read back from, and of those the nearest to it.
For each count of digits in turn the two neighbours of the number on that decimal grid are tried.
-/

namespace MetaConfig.Binary64

structure Digits where
  digits : Nat
  exponent : Int
  deriving DecidableEq, Repr

/-- The numbers that round to a given one, as multiples of `1 / denominator`: all from `low` to
`high`, and these two as well where the significand is even. -/
structure Interval where
  low : Nat
  value : Nat
  high : Nat
  denominator : Nat
  closed : Bool

def interval (number : Binary64) : Interval :=
  let half := 2
  let below :=
    if number.significand = twoTo (significandBits - 1) ∧ leastExponent < number.exponent
    then 1 else half
  let scale (quarters : Nat) := Ratio.shift ⟨quarters, 4⟩ number.exponent
  let value := scale (4 * number.significand)
  { low := (scale (4 * number.significand - below)).numerator
    value := value.numerator
    high := (scale (4 * number.significand + half)).numerator
    denominator := value.denominator
    closed := number.significand % 2 == 0 }

def Interval.holds (bounds : Interval) (point : Ratio) : Bool :=
  let place := point.numerator * bounds.denominator
  let low := bounds.low * point.denominator
  let high := bounds.high * point.denominator
  if bounds.closed then low ≤ place && place ≤ high else low < place && place < high

def leadingPower (ratio : Ratio) : Int :=
  if ratio.denominator ≤ ratio.numerator then
    ((Text.ofNat (ratio.numerator / ratio.denominator)).length : Int) - 1
  else
    let inverse := (ratio.denominator + ratio.numerator - 1) / ratio.numerator
    Int.negOfNat (Text.ofNat (inverse - 1)).length

def Digits.toRatio (decimal : Digits) : Ratio :=
  match decimal.exponent with
  | .ofNat power => ⟨decimal.digits * tenTo power, 1⟩
  | .negSucc power => ⟨decimal.digits, tenTo (power + 1)⟩

def onGrid? (bounds : Interval) (exponent : Int) : Option Digits :=
  let step := (Digits.mk 1 exponent).toRatio
  let numerator := bounds.value * step.denominator
  let denominator := bounds.denominator * step.numerator
  let below := numerator / denominator
  let twiceRest := 2 * (numerator % denominator)
  let lower : Digits := ⟨below, exponent⟩
  let upper : Digits := ⟨below + 1, exponent⟩
  let preferLower := twiceRest < denominator || (twiceRest == denominator && below % 2 == 0)
  match bounds.holds lower.toRatio, bounds.holds upper.toRatio with
  | true, true => some (if preferLower then lower else upper)
  | true, false => some lower
  | false, true => some upper
  | false, false => none

/-- The neighbour on the first grid that has one, from the given exponent down to `places` finer
ones. Seventeen digits always suffice. -/
def firstGrid (bounds : Interval) (exponent : Int) : (places : Nat) → Digits
  | 0 => (onGrid? bounds exponent).getD ⟨0, 0⟩
  | places + 1 =>
      (onGrid? bounds exponent).getD (firstGrid bounds (exponent - 1) places)

def Digits.trimZeros (decimal : Digits) : (fuel : Nat) → Digits
  | 0 => decimal
  | fuel + 1 =>
      if decimal.digits ≠ 0 ∧ decimal.digits % 10 = 0
      then Digits.trimZeros ⟨decimal.digits / 10, decimal.exponent + 1⟩ fuel
      else decimal

def shortest (number : Binary64) : Digits :=
  (firstGrid number.interval (leadingPower number.toRatio) 17).trimZeros 18

end MetaConfig.Binary64
