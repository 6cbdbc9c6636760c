import Mathlib.Algebra.Order.Field.Power
import Mathlib.Data.Nat.Cast.Field
import Mathlib.Tactic.FieldSimp
import Mathlib.Tactic.Positivity
import Mathlib.Tactic.Ring
import MetaConfig.Binary64.Shortest

/-!
What numbers are worth, as rationals: ratios of naturals, binary numbers and decimal ones. The
ratios that the arithmetic works with are worth as much as the numbers that they stand for.
-/

namespace MetaConfig

theorem cast_twoTo (power : Nat) : (twoTo power : ℚ) = 2 ^ power := by
  rw [twoTo, Nat.pow_eq, Nat.cast_pow, Nat.cast_ofNat]

theorem cast_tenTo (power : Nat) : (tenTo power : ℚ) = 10 ^ power := by
  rw [tenTo, Nat.pow_eq, Nat.cast_pow, Nat.cast_ofNat]

namespace Binary64

def Ratio.value (ratio : Ratio) : ℚ := ratio.numerator / ratio.denominator

def magnitude (number : Binary64) : ℚ := number.significand * 2 ^ number.exponent

def Digits.value (decimal : Digits) : ℚ := decimal.digits * 10 ^ decimal.exponent

theorem Ratio.value_shift (ratio : Ratio) (power : Int) :
    (ratio.shift power).value = ratio.value * 2 ^ power := by
  cases power with
  | ofNat power =>
      rw [shift, value, value, Int.ofNat_eq_natCast, zpow_natCast, Nat.cast_mul, cast_twoTo]
      ring
  | negSucc power =>
      rw [shift, value, value, zpow_negSucc, Nat.cast_mul, cast_twoTo]
      field_simp

theorem Ratio.shift_denominator_pos {ratio : Ratio} (positive : 0 < ratio.denominator)
    (power : Int) : 0 < (ratio.shift power).denominator := by
  cases power with
  | ofNat => exact positive
  | negSucc power => exact Nat.mul_pos positive (twoTo_pos _)

theorem value_toRatio (number : Binary64) : number.toRatio.value = number.magnitude := by
  rw [toRatio, Ratio.value_shift, Ratio.value, magnitude, Nat.cast_one, div_one]

theorem toRatio_denominator_pos (number : Binary64) : 0 < number.toRatio.denominator :=
  Ratio.shift_denominator_pos Nat.one_pos _

theorem magnitude_pos {number : Binary64} (nonzero : number.significand ≠ 0) :
    0 < number.magnitude := by
  have positive : (0 : ℚ) < number.significand := by
    exact_mod_cast Nat.pos_of_ne_zero nonzero
  rw [magnitude]
  positivity

theorem toRatio_numerator_pos {number : Binary64} (nonzero : number.significand ≠ 0) :
    0 < number.toRatio.numerator := by
  have positive := magnitude_pos nonzero
  rw [← value_toRatio, Ratio.value] at positive
  apply Nat.pos_of_ne_zero
  intro zero
  simp [zero] at positive

theorem Digits.value_toRatio (decimal : Digits) : decimal.toRatio.value = decimal.value := by
  obtain ⟨digits, exponent⟩ := decimal
  cases exponent with
  | ofNat power =>
      rw [toRatio, Ratio.value, value, Int.ofNat_eq_natCast, zpow_natCast, Nat.cast_mul,
        cast_tenTo, Nat.cast_one, div_one]
  | negSucc power =>
      rw [toRatio, Ratio.value, value, zpow_negSucc, cast_tenTo, div_eq_mul_inv]

theorem Digits.toRatio_denominator_pos (decimal : Digits) : 0 < decimal.toRatio.denominator := by
  obtain ⟨digits, exponent⟩ := decimal
  cases exponent with
  | ofNat => exact Nat.one_pos
  | negSucc power => exact tenTo_pos _

/-- A number as it is stored in 64 bits: at most 53 significant bits, and fewer only at the least
exponent. -/
structure Proper (number : Binary64) : Prop where
  significand_lt : number.significand < twoTo significandBits
  leastExponent_le : leastExponent ≤ number.exponent
  exponent_le : number.exponent ≤ greatestExponent
  normal : twoTo (significandBits - 1) ≤ number.significand ∨ number.exponent = leastExponent

theorem digits_ne_zero_of_value_pos {decimal : Digits} (positive : 0 < decimal.value) :
    decimal.digits ≠ 0 := by
  intro zero
  simp [Digits.value, zero] at positive

theorem magnitude_of_whole? {number : Binary64} {whole : Nat} (given : number.whole? = some whole) :
    number.magnitude = whole := by
  simp only [whole?, Option.ite_none_right_eq_some, Option.some.injEq] at given
  obtain ⟨divisible, rfl⟩ := given
  have nonzero : (number.toRatio.denominator : ℚ) ≠ 0 := by
    exact_mod_cast number.toRatio_denominator_pos.ne'
  rw [← value_toRatio, Ratio.value, Nat.cast_div (Nat.dvd_of_mod_eq_zero divisible) nonzero]

theorem isZero_or_one_le_of_whole? {number : Binary64} {whole : Nat}
    (given : number.whole? = some whole) : number.isZero = true ∨ 1 ≤ number.magnitude := by
  by_cases zero : number.significand = 0
  · left
    simp [isZero, zero]
  · right
    have positive := magnitude_pos zero
    rw [magnitude_of_whole? given] at positive ⊢
    exact_mod_cast positive

theorem exponent_neg_of_whole? {number : Binary64} (broken : number.whole? = none) :
    number.exponent < 0 := by
  by_contra large
  obtain ⟨power, exponent⟩ := Int.eq_ofNat_of_zero_le (not_lt.mp large)
  have ratio : number.toRatio = ⟨number.significand * twoTo power, 1⟩ := by
    rw [toRatio, exponent]
    rfl
  rw [whole?, ratio] at broken
  simp [Nat.mod_one] at broken

theorem significand_ne_zero_of_whole? {number : Binary64} (broken : number.whole? = none) :
    number.significand ≠ 0 := by
  intro zero
  have numerator : number.toRatio.numerator = 0 := by
    rw [toRatio, zero]
    cases number.exponent <;> simp [Ratio.shift]
  rw [whole?, numerator] at broken
  simp at broken

end Binary64

end MetaConfig
