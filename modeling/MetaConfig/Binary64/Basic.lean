import MetaConfig.Powers

/-!
Finite numbers in binary with 53 significant bits and exponents down to -1074, each operation
rounded once to the nearest of them, a tie to the even significand. Overflow has no value.
-/

namespace MetaConfig

/-- The number `significand * 2 ^ exponent`, with its sign; zero has two signs. -/
structure Binary64 where
  negative : Bool
  significand : Nat
  exponent : Int
  deriving DecidableEq, Repr

namespace Binary64

def leastExponent : Int := -1074

def greatestExponent : Int := 971

def significandBits : Nat := 53

def zero (negative : Bool) : Binary64 := ⟨negative, 0, leastExponent⟩

def isZero (number : Binary64) : Bool := number.significand == 0

structure Ratio where
  numerator : Nat
  denominator : Nat
  deriving DecidableEq, Repr

def Ratio.shift (ratio : Ratio) : (power : Int) → Ratio
  | .ofNat power => ⟨ratio.numerator * twoTo power, ratio.denominator⟩
  | .negSucc power => ⟨ratio.numerator, ratio.denominator * twoTo (power + 1)⟩

/-- The nearest natural number, a tie going to the even one. -/
def Ratio.nearest (ratio : Ratio) : Nat :=
  let quotient := ratio.numerator / ratio.denominator
  let twiceRest := 2 * (ratio.numerator % ratio.denominator)
  if twiceRest < ratio.denominator ∨ twiceRest = ratio.denominator ∧ quotient % 2 = 0
  then quotient else quotient + 1

def Ratio.exponent (ratio : Ratio) : Int :=
  let guess : Int := (Nat.log2 ratio.numerator : Int) - Nat.log2 ratio.denominator - significandBits
  let shifted := ratio.shift (-guess)
  let exact :=
    if shifted.numerator / shifted.denominator < twoTo significandBits then guess else guess + 1
  max exact leastExponent

def ofRatio? (negative : Bool) (ratio : Ratio) : Option Binary64 :=
  let exponent := ratio.exponent
  let significand := (ratio.shift (-exponent)).nearest
  let number : Binary64 :=
    if significand = twoTo significandBits
    then ⟨negative, twoTo (significandBits - 1), exponent + 1⟩
    else ⟨negative, significand, exponent⟩
  if number.significand = 0 then some (zero negative)
  else if greatestExponent < number.exponent then none
  else some number

def toRatio (number : Binary64) : Ratio := Ratio.shift ⟨number.significand, 1⟩ number.exponent

def ofNat? (negative : Bool) (number : Nat) : Option Binary64 := ofRatio? negative ⟨number, 1⟩

def mul? (left right : Binary64) : Option Binary64 :=
  let first := left.toRatio
  let second := right.toRatio
  ofRatio? (left.negative != right.negative)
    ⟨first.numerator * second.numerator, first.denominator * second.denominator⟩

def div? (left right : Binary64) : Option Binary64 :=
  let first := left.toRatio
  let second := right.toRatio
  ofRatio? (left.negative != right.negative)
    ⟨first.numerator * second.denominator, first.denominator * second.numerator⟩

def whole? (number : Binary64) : Option Nat :=
  let ratio := number.toRatio
  if ratio.numerator % ratio.denominator = 0 then some (ratio.numerator / ratio.denominator)
  else none

end Binary64

end MetaConfig
