import Mathlib.Algebra.Order.Floor.Semifield
import Mathlib.Data.Int.Log
import Mathlib.Data.Rat.Floor
import Mathlib.Tactic.Linarith
import MetaConfig.Proofs.Binary64.Value
import MetaConfig.Proofs.Text.Decimal

/-!
The shortest digits of a number are near it: they are worth no more than the numbers that round
to it, and no less than the power of ten of its first digit. Seventeen places behind that digit
always hold a neighbour of the number, so there are digits for all.
-/

namespace MetaConfig.Binary64

theorem zpow_le_iff_le_log {value : ℚ} (positive : 0 < value) (power : Int) :
    10 ^ power ≤ value ↔ power ≤ Int.log 10 value := by
  exact_mod_cast Int.zpow_le_iff_le_log (b := 10) (by decide) positive

theorem lt_zpow_iff_log_lt {value : ℚ} (positive : 0 < value) (power : Int) :
    value < 10 ^ power ↔ Int.log 10 value < power := by
  exact_mod_cast Int.lt_zpow_iff_log_lt (b := 10) (by decide) positive

theorem log_eq_of_bounds {value : ℚ} {power : Int} (least : 10 ^ power ≤ value)
    (below : value < 10 ^ (power + 1)) : Int.log 10 value = power := by
  have positive : 0 < value := lt_of_lt_of_le (by positivity) least
  rw [zpow_le_iff_le_log positive] at least
  rw [lt_zpow_iff_log_lt positive] at below
  omega

theorem log_div_of_bounds {numerator denominator places : Nat}
    (least : 10 ^ places * numerator < denominator)
    (most : denominator ≤ 10 ^ (places + 1) * numerator) :
    Int.log 10 ((numerator : ℚ) / denominator) = -(places + 1 : Nat) := by
  have positive : (0 : ℚ) < denominator := by exact_mod_cast Nat.zero_lt_of_lt least
  apply log_eq_of_bounds
  · rw [zpow_neg, zpow_natCast, ← one_div, div_le_div_iff₀ (by positivity) positive, one_mul,
      mul_comm]
    exact_mod_cast most
  · have power : (-((places + 1 : Nat) : Int) + 1) = -(places : Int) := by
      push_cast
      ring
    rw [power, zpow_neg, zpow_natCast, ← one_div, div_lt_div_iff₀ positive (by positivity),
      one_mul, mul_comm]
    exact_mod_cast least

theorem leadingPower_eq_log {ratio : Ratio} (numerator : 0 < ratio.numerator)
    (denominator : 0 < ratio.denominator) : leadingPower ratio = Int.log 10 ratio.value := by
  have positive : (0 : ℚ) < ratio.denominator := by exact_mod_cast denominator
  unfold leadingPower
  split
  · rename_i large
    have atLeastOne : 1 ≤ ratio.value := by
      rw [Ratio.value, one_le_div positive]
      exact_mod_cast large
    rw [Int.log_of_one_le_right 10 atLeastOne, Ratio.value, Nat.floor_div_eq_div,
      Text.length_ofNat]
    push_cast
    ring
  · rename_i small
    -- One less than the inverse, rounded up, is the inverse of one less, rounded down.
    obtain ⟨whole, inverse⟩ : ∃ whole, whole = (ratio.denominator - 1) / ratio.numerator :=
      ⟨_, rfl⟩
    have rounded : (ratio.denominator + ratio.numerator - 1) / ratio.numerator - 1 = whole := by
      have split : ratio.denominator + ratio.numerator - 1 =
          ratio.denominator - 1 + ratio.numerator := by omega
      rw [split, Nat.add_div_right _ numerator, inverse, Nat.succ_sub_one]
    have least : whole * ratio.numerator < ratio.denominator := by
      have bound := Nat.div_mul_le_self (ratio.denominator - 1) ratio.numerator
      rw [← inverse] at bound
      omega
    have most : ratio.denominator ≤ (whole + 1) * ratio.numerator := by
      have bound := Nat.lt_mul_div_succ (ratio.denominator - 1) numerator
      rw [← inverse, Nat.mul_comm] at bound
      omega
    have nonzero : whole ≠ 0 := by
      rintro rfl
      omega
    have lower := Nat.pow_log_le_self 10 nonzero
    have upper := Nat.lt_pow_succ_log_self (b := 10) (by decide) whole
    simp only [rounded, Text.length_ofNat]
    rw [Ratio.value, log_div_of_bounds ((Nat.mul_le_mul_right _ lower).trans_lt least)
      (most.trans (Nat.mul_le_mul_right _ upper))]
    rfl

/-! ## The numbers that round to one -/

theorem interval_denominator_pos (number : Binary64) : 0 < number.interval.denominator :=
  Ratio.shift_denominator_pos (Nat.succ_pos 3) number.exponent

theorem quarters_div (number : Binary64) (quarters : Nat) :
    ((Ratio.shift ⟨quarters, 4⟩ number.exponent).numerator : ℚ) / number.interval.denominator =
      quarters / 4 * 2 ^ number.exponent := by
  have same : number.interval.denominator =
      (Ratio.shift ⟨quarters, 4⟩ number.exponent).denominator := by
    rw [interval]
    cases number.exponent <;> rfl
  rw [same]
  exact Ratio.value_shift ⟨quarters, 4⟩ number.exponent

theorem interval_value (number : Binary64) :
    (number.interval.value : ℚ) / number.interval.denominator = number.magnitude := by
  have value := quarters_div number (4 * number.significand)
  rw [magnitude, ← mul_div_cancel_left₀ (number.significand : ℚ) four_ne_zero]
  exact_mod_cast value

theorem interval_high (number : Binary64) :
    (number.interval.high : ℚ) / number.interval.denominator =
      number.magnitude + 2 ^ number.exponent / 2 := by
  have high := quarters_div number (4 * number.significand + 2)
  have total : ((4 * number.significand + 2 : Nat) : ℚ) / 4 * 2 ^ number.exponent =
      number.magnitude + 2 ^ number.exponent / 2 := by
    rw [magnitude]
    push_cast
    ring
  exact high.trans total

theorem interval_low_lt {number : Binary64} (nonzero : number.significand ≠ 0) :
    (number.interval.low : ℚ) / number.interval.denominator < number.magnitude := by
  obtain ⟨below, positive, low⟩ : ∃ below, 0 < below ∧ number.interval.low =
      (Ratio.shift ⟨4 * number.significand - below, 4⟩ number.exponent).numerator := by
    refine ⟨_, ?_, rfl⟩
    split <;> decide
  have fewer : ((4 * number.significand - below : Nat) : ℚ) < 4 * number.significand := by
    have bound : 4 * number.significand - below < 4 * number.significand := by omega
    exact_mod_cast bound
  rw [low, quarters_div, magnitude]
  gcongr
  linarith

/-- Whether a value lies between the bounds, or on them where these count. -/
def Interval.Contains (bounds : Interval) (value : ℚ) : Prop :=
  let low : ℚ := bounds.low / bounds.denominator
  let high : ℚ := bounds.high / bounds.denominator
  if bounds.closed then low ≤ value ∧ value ≤ high else low < value ∧ value < high

variable {bounds : Interval} {value : ℚ}

theorem Interval.holds_iff_contains (positive : 0 < bounds.denominator) {point : Ratio}
    (denominator : 0 < point.denominator) :
    bounds.holds point = true ↔ bounds.Contains point.value := by
  have boundsPositive : (0 : ℚ) < bounds.denominator := by exact_mod_cast positive
  have pointPositive : (0 : ℚ) < point.denominator := by exact_mod_cast denominator
  unfold holds Contains
  rw [Ratio.value]
  cases bounds.closed with
  | true =>
      simp only [if_true, Bool.and_eq_true, decide_eq_true_eq,
        div_le_div_iff₀ boundsPositive pointPositive, div_le_div_iff₀ pointPositive boundsPositive]
      norm_cast
  | false =>
      simp only [Bool.false_eq_true, if_false, Bool.and_eq_true, decide_eq_true_eq,
        div_lt_div_iff₀ boundsPositive pointPositive, div_lt_div_iff₀ pointPositive boundsPositive]
      norm_cast

theorem Interval.Contains.le_high (inside : bounds.Contains value) :
    value ≤ (bounds.high : ℚ) / bounds.denominator := by
  unfold Contains at inside
  split at inside
  · exact inside.2
  · exact inside.2.le

theorem Interval.contains_of_lt (above : (bounds.low : ℚ) / bounds.denominator < value)
    (below : value < (bounds.high : ℚ) / bounds.denominator) : bounds.Contains value := by
  unfold Contains
  split
  · exact ⟨above.le, below.le⟩
  · exact ⟨above, below⟩

/-! ## Neighbours on a grid -/

def Interval.steps (bounds : Interval) (exponent : Int) : Nat :=
  ⌊(bounds.value : ℚ) / bounds.denominator / 10 ^ exponent⌋₊

theorem Interval.steps_eq_div (bounds : Interval) (exponent : Int) :
    bounds.steps exponent =
      bounds.value * (Digits.toRatio ⟨1, exponent⟩).denominator /
        (bounds.denominator * (Digits.toRatio ⟨1, exponent⟩).numerator) := by
  have step : (Digits.toRatio ⟨1, exponent⟩).value = 10 ^ exponent := by
    rw [Digits.value_toRatio, Digits.value, Nat.cast_one, one_mul]
  rw [steps, ← step, Ratio.value, div_div_div_eq]
  exact_mod_cast Nat.floor_div_eq_div (K := ℚ) _ _

variable {exponent : Int}

theorem onGrid?_some (positive : 0 < bounds.denominator) {decimal : Digits}
    (found : onGrid? bounds exponent = some decimal) :
    decimal.exponent = exponent ∧ bounds.steps exponent ≤ decimal.digits ∧
      bounds.Contains decimal.value := by
  have holds {candidate : Digits} (inside : bounds.holds candidate.toRatio = true) :
      bounds.Contains candidate.value := by
    rw [← Digits.value_toRatio]
    exact (Interval.holds_iff_contains positive candidate.toRatio_denominator_pos).mp inside
  unfold onGrid? at found
  simp only [← Interval.steps_eq_div] at found
  split at found
  · rename_i lower upper
    split at found
    · obtain rfl := Option.some.inj found
      exact ⟨rfl, le_rfl, holds lower⟩
    · obtain rfl := Option.some.inj found
      exact ⟨rfl, Nat.le_succ _, holds upper⟩
  · rename_i lower upper
    obtain rfl := Option.some.inj found
    exact ⟨rfl, le_rfl, holds lower⟩
  · rename_i lower upper
    obtain rfl := Option.some.inj found
    exact ⟨rfl, Nat.le_succ _, holds upper⟩
  · contradiction

theorem onGrid?_isSome (positive : 0 < bounds.denominator)
    (inside : bounds.Contains (Digits.value ⟨bounds.steps exponent + 1, exponent⟩)) :
    (onGrid? bounds exponent).isSome = true := by
  rw [← Digits.value_toRatio] at inside
  have upper := (Interval.holds_iff_contains positive (Digits.toRatio_denominator_pos _)).mpr inside
  unfold onGrid?
  simp only [← Interval.steps_eq_div, upper]
  cases bounds.holds (Digits.toRatio ⟨bounds.steps exponent, exponent⟩) <;> rfl

theorem zpow_le_of_onGrid? (positive : 0 < bounds.denominator) {leading : Int}
    (large : (10 : ℚ) ^ leading ≤ bounds.value / bounds.denominator) (fine : exponent ≤ leading)
    {decimal : Digits} (found : onGrid? bounds exponent = some decimal) :
    10 ^ leading ≤ decimal.value := by
  obtain ⟨rfl, enough, _⟩ := onGrid?_some positive found
  obtain ⟨places, apart⟩ := Int.eq_ofNat_of_zero_le (sub_nonneg.mpr fine)
  have split : (10 : ℚ) ^ leading = 10 ^ places * 10 ^ decimal.exponent := by
    rw [← zpow_natCast, ← zpow_add₀ (by norm_num), ← apart, sub_add_cancel]
  have steps : 10 ^ places ≤ bounds.steps decimal.exponent := by
    apply Nat.le_floor
    rw [le_div_iff₀ (by positivity), Nat.cast_pow, Nat.cast_ofNat, ← split]
    exact large
  have digits : ((10 ^ places : Nat) : ℚ) ≤ decimal.digits := by exact_mod_cast steps.trans enough
  rw [split, Digits.value]
  push_cast at digits
  gcongr

theorem firstGrid_spec (positive : 0 < bounds.denominator) {leading : Int}
    (large : (10 : ℚ) ^ leading ≤ bounds.value / bounds.denominator) (places : Nat)
    (fine : exponent ≤ leading) (last : (onGrid? bounds (exponent - places)).isSome = true) :
    10 ^ leading ≤ (firstGrid bounds exponent places).value ∧
      bounds.Contains (firstGrid bounds exponent places).value := by
  have ofFound {decimal : Digits} {exponent : Int} (fine : exponent ≤ leading)
      (found : onGrid? bounds exponent = some decimal) :
      10 ^ leading ≤ decimal.value ∧ bounds.Contains decimal.value :=
    ⟨zpow_le_of_onGrid? positive large fine found, (onGrid?_some positive found).2.2⟩
  induction places generalizing exponent with
  | zero =>
      obtain ⟨decimal, found⟩ := Option.isSome_iff_exists.mp last
      rw [Nat.cast_zero, sub_zero] at found
      rw [firstGrid, found]
      exact ofFound fine found
  | succ places ih =>
      cases found : onGrid? bounds exponent with
      | some decimal =>
          rw [firstGrid, found]
          exact ofFound fine found
      | none =>
          rw [firstGrid, found]
          refine ih (by omega) ?_
          rwa [Nat.cast_succ, ← sub_sub, sub_right_comm] at last

theorem Digits.value_trimZeros (decimal : Digits) (fuel : Nat) :
    (decimal.trimZeros fuel).value = decimal.value := by
  induction fuel generalizing decimal with
  | zero => rfl
  | succ fuel ih =>
      rw [trimZeros]
      split
      · rename_i trailing
        have digits : (decimal.digits : ℚ) = (decimal.digits / 10 : Nat) * 10 := by
          exact_mod_cast (Nat.div_mul_cancel (Nat.dvd_of_mod_eq_zero trailing.2)).symm
        rw [ih, value, value, digits, zpow_add_one₀ (by norm_num)]
        ring
      · rfl

variable {number : Binary64}

/-- Seventeen places behind the first digit the grid is finer than half of the last place of the
number, so that the neighbour above still rounds to the number. -/
theorem onGrid?_seventeen_places (nonzero : number.significand ≠ 0)
    (short : number.significand < twoTo significandBits) :
    (onGrid? number.interval (Int.log 10 number.magnitude - 17)).isSome = true := by
  have positive := magnitude_pos nonzero
  obtain ⟨exponent, grid⟩ : ∃ exponent, exponent = Int.log 10 number.magnitude - 17 := ⟨_, rfl⟩
  have step : (10 : ℚ) ^ exponent * 10 ^ 17 ≤ number.magnitude := by
    have behind : exponent + (17 : Nat) = Int.log 10 number.magnitude := by omega
    rw [← zpow_natCast, ← zpow_add₀ (by norm_num), behind]
    exact (zpow_le_iff_le_log positive _).mpr le_rfl
  have significand : (number.significand : ℚ) ≤ 2 ^ 53 := by
    exact_mod_cast short.le
  have fine : (10 : ℚ) ^ exponent < 2 ^ number.exponent / 2 := by
    have place : (0 : ℚ) < 2 ^ number.exponent := by positivity
    rw [magnitude] at step
    nlinarith
  rw [← grid]
  apply onGrid?_isSome (interval_denominator_pos number)
  have floor : (number.interval.steps exponent : ℚ) * 10 ^ exponent ≤ number.magnitude := by
    rw [← le_div_iff₀ (by positivity), ← interval_value]
    exact Nat.floor_le (by positivity)
  have ceiling : number.magnitude < (number.interval.steps exponent + 1) * 10 ^ exponent := by
    rw [← div_lt_iff₀ (by positivity), ← interval_value]
    exact Nat.lt_floor_add_one _
  apply Interval.contains_of_lt
  · refine (interval_low_lt nonzero).trans ?_
    rw [Digits.value]
    exact_mod_cast ceiling
  · rw [interval_high, Digits.value]
    push_cast
    linarith

/-- The shortest digits round to the number, and they begin where the number does. -/
theorem shortest_spec (nonzero : number.significand ≠ 0)
    (short : number.significand < twoTo significandBits) :
    10 ^ Int.log 10 number.magnitude ≤ number.shortest.value ∧
      number.interval.Contains number.shortest.value := by
  have leading : leadingPower number.toRatio = Int.log 10 number.magnitude := by
    rw [← value_toRatio]
    exact leadingPower_eq_log (toRatio_numerator_pos nonzero) (toRatio_denominator_pos number)
  have large : (10 : ℚ) ^ Int.log 10 number.magnitude ≤
      number.interval.value / number.interval.denominator := by
    rw [interval_value]
    exact (zpow_le_iff_le_log (magnitude_pos nonzero) _).mpr le_rfl
  rw [shortest, Digits.value_trimZeros, leading]
  exact firstGrid_spec (interval_denominator_pos number) large 17 le_rfl
    (onGrid?_seventeen_places nonzero short)

end MetaConfig.Binary64
