import Mathlib.Tactic.Linarith
import MetaConfig.Proofs.Binary64.Rounding

/-!
Whole numbers rounded to 53 significant bits. The number nearest to a whole number is whole, and
it is off by no more than one part in 2 ^ 53; below 2 ^ 53 it is the number itself.
-/

namespace MetaConfig.Binary64

namespace Ratio

variable {ratio other : Ratio}

theorem cast_mod (denominator : 0 < ratio.denominator) :
    ((ratio.numerator % ratio.denominator : Nat) : ℚ) =
      (ratio.value - (ratio.numerator / ratio.denominator : Nat)) * ratio.denominator := by
  have nonzero : (ratio.denominator : ℚ) ≠ 0 := by exact_mod_cast denominator.ne'
  have parts : (ratio.denominator * (ratio.numerator / ratio.denominator) : ℚ) =
      ratio.denominator * (ratio.numerator / ratio.denominator : Nat) +
        (ratio.numerator % ratio.denominator : Nat) := by
    rw [mul_div_cancel₀ _ nonzero]
    exact_mod_cast (Nat.div_add_mod ratio.numerator ratio.denominator).symm
  rw [value]
  linarith

theorem div_eq_of_value_eq (denominator : 0 < ratio.denominator)
    (otherDenominator : 0 < other.denominator) (same : ratio.value = other.value) :
    ratio.numerator / ratio.denominator = other.numerator / other.denominator := by
  have bounds (bound : Nat) : ratio.numerator / ratio.denominator < bound ↔
      other.numerator / other.denominator < bound := by
    rw [div_lt_iff denominator, div_lt_iff otherDenominator, same]
  have below := (bounds (other.numerator / other.denominator + 1)).mpr (Nat.lt_succ_self _)
  have above := (bounds (ratio.numerator / ratio.denominator + 1)).mp (Nat.lt_succ_self _)
  omega

theorem nearest_eq_ite (denominator : 0 < ratio.denominator) :
    ratio.nearest =
      let quotient := ratio.numerator / ratio.denominator
      if 2 * (ratio.value - quotient) < 1 ∨
          2 * (ratio.value - quotient) = 1 ∧ quotient % 2 = 0
      then quotient else quotient + 1 := by
  have positive : (0 : ℚ) < ratio.denominator := by exact_mod_cast denominator
  have rest := cast_mod denominator
  have below : 2 * (ratio.numerator % ratio.denominator) < ratio.denominator ↔
      2 * (ratio.value - (ratio.numerator / ratio.denominator : Nat)) < 1 := by
    rw [← Nat.cast_lt (α := ℚ), Nat.cast_mul, rest, Nat.cast_ofNat, ← mul_assoc,
      mul_lt_iff_lt_one_left positive]
  have half : 2 * (ratio.numerator % ratio.denominator) = ratio.denominator ↔
      2 * (ratio.value - (ratio.numerator / ratio.denominator : Nat)) = 1 := by
    rw [← Nat.cast_inj (R := ℚ), Nat.cast_mul, rest, Nat.cast_ofNat, ← mul_assoc,
      mul_eq_right₀ positive.ne']
  simp only [nearest, below, half]

theorem nearest_eq_of_value_eq (denominator : 0 < ratio.denominator)
    (otherDenominator : 0 < other.denominator) (same : ratio.value = other.value) :
    ratio.nearest = other.nearest := by
  rw [nearest_eq_ite denominator, nearest_eq_ite otherDenominator, same,
    div_eq_of_value_eq denominator otherDenominator same]

theorem abs_nearest_sub_value_le (denominator : 0 < ratio.denominator) :
    |(ratio.nearest : ℚ) - ratio.value| ≤ 1 / 2 := by
  have least : ((ratio.numerator / ratio.denominator : Nat) : ℚ) ≤ ratio.value :=
    not_lt.mp (mt (div_lt_iff denominator _).mpr (Nat.lt_irrefl _))
  have below := (div_lt_iff denominator _).mp (Nat.lt_succ_self _)
  push_cast at below
  rw [nearest_eq_ite denominator, abs_le]
  dsimp only
  split
  · rename_i down
    rcases down with less | ⟨half, _⟩ <;> constructor <;> linarith
  · rename_i up
    have more : 1 ≤ 2 * (ratio.value - (ratio.numerator / ratio.denominator : Nat)) :=
      not_lt.mp fun less => up (.inl less)
    push_cast
    constructor <;> linarith

theorem nearest_eq_of_value_eq_natCast (denominator : 0 < ratio.denominator) {whole : Nat}
    (isWhole : ratio.value = whole) : ratio.nearest = whole := by
  have value : (⟨whole, 1⟩ : Ratio).value = whole := by simp [Ratio.value]
  have same : ratio.nearest = Ratio.nearest ⟨whole, 1⟩ :=
    nearest_eq_of_value_eq denominator Nat.one_pos (isWhole.trans value.symm)
  rw [same]
  simp [nearest, Nat.mod_one]

theorem exponent_nonpos_of_lt (numerator : 0 < ratio.numerator)
    (denominator : 0 < ratio.denominator) (small : ratio.value < 2 ^ 53) : ratio.exponent ≤ 0 := by
  by_contra large
  rcases (exponent_spec numerator denominator).2 with normal | least
  · have bits : (2 : ℚ) ^ (53 : Int) ≤ ratio.value :=
      (zpow_le_zpow_right₀ (by norm_num) (by omega)).trans normal
    exact absurd small (not_lt.mpr (by exact_mod_cast bits))
  · rw [least] at large
    exact large (by decide)

theorem exponent_of_value_eq_natCast (numerator : 0 < ratio.numerator)
    (denominator : 0 < ratio.denominator) {whole : Nat} (isWhole : ratio.value = whole)
    (large : 2 ^ 53 ≤ whole) : ratio.exponent = (Nat.log2 whole - 52 : Nat) := by
  have nonzero : whole ≠ 0 := by
    rintro rfl
    exact absurd large (by decide)
  have bits := mt (Nat.log2_lt nonzero).mp (not_lt.mpr large)
  obtain ⟨below, least⟩ := exponent_spec numerator denominator
  rw [isWhole] at below least
  have logLeast : (2 : ℚ) ^ (Nat.log2 whole : Int) ≤ whole := by
    exact_mod_cast Nat.log2_self_le nonzero
  have logBelow : (whole : ℚ) < 2 ^ ((Nat.log2 whole : Int) + 1) := by
    exact_mod_cast Nat.lt_log2_self (n := whole)
  have upper := (zpow_lt_zpow_iff_right₀ (by norm_num)).mp (logLeast.trans_lt below)
  rcases least with normal | lowest
  · have lower := (zpow_lt_zpow_iff_right₀ (by norm_num)).mp (normal.trans_lt logBelow)
    omega
  · rw [lowest, leastExponent] at upper
    omega

end Ratio

def roundWhole (number : Nat) : Nat :=
  let place := twoTo (Nat.log2 number - 52)
  Ratio.nearest ⟨number, place⟩ * place

theorem roundWhole_of_lt {number : Nat} (small : number < 2 ^ 53) : roundWhole number = number := by
  have bits : Nat.log2 number - 52 = 0 := by
    by_cases zero : number = 0
    · simp [zero]
    · have log := (Nat.log2_lt zero).mpr small
      omega
  rw [roundWhole, bits]
  simp [twoTo, Ratio.nearest, Nat.mod_one]

theorem abs_roundWhole_sub_le (number : Nat) :
    |(roundWhole number : ℚ) - number| * 2 ^ 53 ≤ number := by
  by_cases small : number < 2 ^ 53
  · simp [roundWhole_of_lt small]
  · have zero : number ≠ 0 := by
      rintro rfl
      exact small (by decide)
    have log := mt (Nat.log2_lt zero).mp small
    obtain ⟨power, bits⟩ := Nat.exists_eq_add_of_le (show 53 ≤ Nat.log2 number by omega)
    have place : Nat.log2 number - 52 = power + 1 := by omega
    have least : (2 : ℚ) ^ (53 + power) ≤ number := by
      exact_mod_cast bits ▸ Nat.log2_self_le zero
    have near : |(Ratio.nearest ⟨number, twoTo (power + 1)⟩ : ℚ) -
        Ratio.value ⟨number, twoTo (power + 1)⟩| ≤ 1 / 2 :=
      Ratio.abs_nearest_sub_value_le (twoTo_pos _)
    have positive : (0 : ℚ) < 2 ^ (power + 1) := by positivity
    rw [Ratio.value, cast_twoTo] at near
    rw [roundWhole, place, Nat.cast_mul, cast_twoTo]
    calc |(Ratio.nearest ⟨number, twoTo (power + 1)⟩ : ℚ) * 2 ^ (power + 1) - number| * 2 ^ 53
        = |(Ratio.nearest ⟨number, twoTo (power + 1)⟩ : ℚ) - number / 2 ^ (power + 1)| *
            2 ^ (power + 1) * 2 ^ 53 := by
          rw [← abs_of_pos positive, ← abs_mul, abs_of_pos positive, sub_mul,
            div_mul_cancel₀ _ positive.ne']
      _ ≤ 1 / 2 * 2 ^ (power + 1) * 2 ^ 53 := by gcongr
      _ = 2 ^ (53 + power) := by ring
      _ ≤ number := least

example : roundWhole (2 ^ 53 + 1) = 2 ^ 53 := by decide +kernel

theorem roundWhole_bounds (number : Nat) :
    (number : ℚ) * (1 - 1 / 2 ^ 53) ≤ roundWhole number ∧
      (roundWhole number : ℚ) ≤ number * (1 + 1 / 2 ^ 53) := by
  have near := abs_roundWhole_sub_le number
  rw [← le_div_iff₀ (by positivity), abs_le] at near
  constructor <;> linarith

theorem roundWhole_pos {number : Nat} (positive : 0 < number) : 0 < roundWhole number := by
  have least := (roundWhole_bounds number).1
  have numberPositive : (0 : ℚ) < number := by exact_mod_cast positive
  have roundedPositive : (0 : ℚ) < roundWhole number := by
    refine lt_of_lt_of_le ?_ least
    exact mul_pos numberPositive (by norm_num)
  exact_mod_cast roundedPositive

/-! ## Rounded ratios that are whole -/

theorem magnitude_of_ofRatio? {negative : Bool} {ratio : Ratio} {number : Binary64}
    (rounded : ofRatio? negative ratio = some number) :
    number.magnitude = (ratio.shift (-ratio.exponent)).nearest * 2 ^ ratio.exponent ∧
      number.negative = negative := by
  simp only [ofRatio?] at rounded
  generalize (ratio.shift (-ratio.exponent)).nearest = significand at rounded ⊢
  by_cases carried : significand = twoTo significandBits
  · rw [if_pos carried] at rounded
    have nonzero : ¬ twoTo (significandBits - 1) = 0 := (twoTo_pos _).ne'
    rw [if_neg nonzero] at rounded
    obtain ⟨_, same⟩ := Option.ite_none_left_eq_some.mp rounded
    obtain rfl := Option.some.inj same
    refine ⟨?_, rfl⟩
    rw [magnitude, carried, cast_twoTo, cast_twoTo, zpow_add_one₀ two_ne_zero]
    norm_num [significandBits]
    ring
  · rw [if_neg carried] at rounded
    split at rounded
    · rename_i none
      obtain rfl := Option.some.inj rounded
      have nothing : significand = 0 := none
      exact ⟨by simp [magnitude, zero, nothing], rfl⟩
    · obtain ⟨_, same⟩ := Option.ite_none_left_eq_some.mp rounded
      obtain rfl := Option.some.inj same
      exact ⟨rfl, rfl⟩

theorem magnitude_of_ofRatio?_of_whole {negative : Bool} {ratio : Ratio} {number : Binary64}
    (denominator : 0 < ratio.denominator) {whole : Nat} (positive : 0 < whole)
    (isWhole : ratio.value = whole) (rounded : ofRatio? negative ratio = some number) :
    number.magnitude = roundWhole whole := by
  have valuePositive : (0 : ℚ) < ratio.value := by
    rw [isWhole]
    exact_mod_cast positive
  have numerator : 0 < ratio.numerator := by
    apply Nat.pos_of_ne_zero
    intro zero
    simp [Ratio.value, zero] at valuePositive
  rw [(magnitude_of_ofRatio? rounded).1]
  have shiftedDenominator := Ratio.shift_denominator_pos denominator (-ratio.exponent)
  have shifted := ratio.value_shift (-ratio.exponent)
  by_cases small : whole < 2 ^ 53
  · have bits : ratio.value < 2 ^ 53 := by
      rw [isWhole]
      exact_mod_cast small
    have exponent := ratio.exponent_nonpos_of_lt numerator denominator bits
    obtain ⟨power, negated⟩ := Int.eq_ofNat_of_zero_le (Int.neg_nonneg.mpr exponent)
    have inverse : ratio.exponent = -(power : Int) := by omega
    have exact : (ratio.shift (-ratio.exponent)).nearest = whole * 2 ^ power := by
      apply Ratio.nearest_eq_of_value_eq_natCast shiftedDenominator
      rw [shifted, isWhole, negated, zpow_natCast]
      push_cast
      rfl
    rw [exact, roundWhole_of_lt small, inverse, zpow_neg, zpow_natCast]
    push_cast
    exact mul_inv_cancel_right₀ (by positivity) _
  · have exponent := ratio.exponent_of_value_eq_natCast numerator denominator isWhole
      (not_lt.mp small)
    have same : (ratio.shift (-ratio.exponent)).nearest =
        Ratio.nearest ⟨whole, twoTo (Nat.log2 whole - 52)⟩ := by
      apply Ratio.nearest_eq_of_value_eq shiftedDenominator (twoTo_pos _)
      rw [shifted, isWhole, Ratio.value, exponent, zpow_neg, zpow_natCast, cast_twoTo,
        div_eq_mul_inv]
    rw [same, roundWhole, exponent, zpow_natCast, Nat.cast_mul, cast_twoTo]

theorem magnitude_of_ofNat? {negative : Bool} {whole : Nat} {number : Binary64}
    (positive : 0 < whole) (rounded : ofNat? negative whole = some number) :
    number.magnitude = roundWhole whole ∧ number.negative = negative := by
  have value : (⟨whole, 1⟩ : Ratio).value = whole := by simp [Ratio.value]
  exact ⟨magnitude_of_ofRatio?_of_whole Nat.one_pos positive value rounded,
    (magnitude_of_ofRatio? rounded).2⟩

theorem magnitude_of_mul? {left right number : Binary64} {first second : Nat}
    (leftWhole : left.magnitude = first) (rightWhole : right.magnitude = second)
    (positive : 0 < first * second) (product : left.mul? right = some number) :
    number.magnitude = roundWhole (first * second) ∧
      number.negative = (left.negative != right.negative) := by
  have denominator := Nat.mul_pos left.toRatio_denominator_pos right.toRatio_denominator_pos
  have value : (⟨left.toRatio.numerator * right.toRatio.numerator,
      left.toRatio.denominator * right.toRatio.denominator⟩ : Ratio).value =
        (first * second : Nat) := by
    rw [Nat.cast_mul, ← leftWhole, ← rightWhole, ← value_toRatio, ← value_toRatio]
    simp only [Ratio.value, Nat.cast_mul]
    exact mul_div_mul_comm _ _ _ _
  exact ⟨magnitude_of_ofRatio?_of_whole denominator positive value product,
    (magnitude_of_ofRatio? product).2⟩

theorem whole?_of_magnitude {number : Binary64} {whole : Nat}
    (isWhole : number.magnitude = whole) : number.whole? = some whole := by
  have denominator := number.toRatio_denominator_pos
  have nonzero : (number.toRatio.denominator : ℚ) ≠ 0 := by exact_mod_cast denominator.ne'
  have numerator : number.toRatio.numerator = whole * number.toRatio.denominator := by
    rw [← value_toRatio, Ratio.value, div_eq_iff nonzero] at isWhole
    exact_mod_cast isWhole
  simp [whole?, numerator, denominator]

end MetaConfig.Binary64
