import MetaConfig.Binary64.Print
import MetaConfig.Proofs.Binary64.Shortest

/-!
Which layout a number is printed in. Of the numbers that are not whole, those less than 0.00001
have an exponent, and all others have digits on both sides of a point.
-/

namespace MetaConfig.Binary64

variable {number : Binary64}

theorem high_le (proper : number.Proper) :
    number.magnitude + 2 ^ number.exponent / 2 ≤ 2 ^ 53 * 2 ^ number.exponent := by
  have significand : (number.significand : ℚ) + 1 ≤ 2 ^ 53 := by
    exact_mod_cast proper.significand_lt
  calc number.magnitude + 2 ^ number.exponent / 2
      = (number.significand + 1 / 2) * 2 ^ number.exponent := by
        rw [magnitude]
        ring
    _ ≤ 2 ^ 53 * 2 ^ number.exponent := by
        gcongr
        linarith

/-- No number less than 0.00001 is so near to it that the two round to the same: of the numbers
around it the nearest is above. -/
theorem high_lt_of_magnitude_lt (proper : number.Proper)
    (small : number.magnitude < 10 ^ (-5 : Int)) :
    number.magnitude + 2 ^ number.exponent / 2 < 10 ^ (-5 : Int) := by
  -- Numbers next to 0.00001 have the exponent -69; there the significand is bounded exactly.
  rcases lt_trichotomy number.exponent (-69) with low | middle | high
  · have place : (2 : ℚ) ^ number.exponent ≤ 2 ^ (-70 : Int) :=
      zpow_le_zpow_right₀ (by norm_num) (by omega)
    calc number.magnitude + 2 ^ number.exponent / 2
        ≤ 2 ^ 53 * 2 ^ number.exponent := high_le proper
      _ ≤ 2 ^ 53 * 2 ^ (-70 : Int) := by gcongr
      _ < 10 ^ (-5 : Int) := by norm_num
  · rw [magnitude, middle] at small ⊢
    have scaled : (number.significand : ℚ) * 10 ^ 5 < 2 ^ 69 := by
      norm_num at small ⊢
      linarith
    have least : number.significand * 10 ^ 5 < 2 ^ 69 := by exact_mod_cast scaled
    have below : number.significand ≤ 5902958103587056 := by omega
    have bound : (number.significand : ℚ) ≤ 5902958103587056 := by exact_mod_cast below
    norm_num
    linarith
  · have normal : twoTo (significandBits - 1) ≤ number.significand := by
      rcases proper.normal with normal | least
      · exact normal
      · rw [least, leastExponent] at high
        contradiction
    have bits : (2 : ℚ) ^ 52 ≤ number.significand := by exact_mod_cast normal
    have large : (2 : ℚ) ^ 52 * 2 ^ (-68 : Int) ≤ number.magnitude := by
      rw [magnitude]
      gcongr
      · norm_num
      · omega
    norm_num at large small
    linarith

theorem power_eq_log {decimal : Digits} (nonzero : decimal.digits ≠ 0) :
    decimal.exponent + ((Text.ofNat decimal.digits).length - 1 : Nat) =
      Int.log 10 decimal.value := by
  have lower : ((10 ^ Nat.log 10 decimal.digits : Nat) : ℚ) ≤ decimal.digits := by
    exact_mod_cast Nat.pow_log_le_self 10 nonzero
  have upper : (decimal.digits : ℚ) < (10 ^ (Nat.log 10 decimal.digits + 1) : Nat) := by
    exact_mod_cast Nat.lt_pow_succ_log_self (b := 10) (by decide) decimal.digits
  rw [Text.length_ofNat, Nat.add_sub_cancel]
  symm
  push_cast at lower upper
  apply log_eq_of_bounds
  · rw [Digits.value, add_comm, zpow_add₀ (by norm_num), zpow_natCast]
    gcongr
  · rw [Digits.value, add_assoc, add_comm, zpow_add₀ (by norm_num), ← Nat.cast_succ, zpow_natCast]
    gcongr

def firstPower (number : Binary64) : Int :=
  number.shortest.exponent + ((Text.ofNat number.shortest.digits).length - 1 : Nat)

theorem firstPower_lt_iff (proper : number.Proper) (nonzero : number.significand ≠ 0) :
    number.firstPower < -5 ↔ number.magnitude < 10 ^ (-5 : Int) := by
  obtain ⟨leading, inside⟩ := shortest_spec nonzero proper.significand_lt
  have positive : 0 < number.shortest.value := lt_of_lt_of_le (by positivity) leading
  rw [firstPower, power_eq_log (digits_ne_zero_of_value_pos positive)]
  constructor
  · intro small
    by_contra large
    rw [not_lt, zpow_le_iff_le_log (magnitude_pos nonzero)] at large
    rw [zpow_le_iff_le_log positive] at leading
    omega
  · intro small
    have below := inside.le_high
    rw [interval_high] at below
    rw [← lt_zpow_iff_log_lt positive]
    exact below.trans_lt (high_lt_of_magnitude_lt proper small)

theorem firstPower_le_of_exponent_neg (proper : number.Proper) (nonzero : number.significand ≠ 0)
    (broken : number.exponent < 0) : number.firstPower ≤ 15 := by
  obtain ⟨leading, inside⟩ := shortest_spec nonzero proper.significand_lt
  have positive : 0 < number.shortest.value := lt_of_lt_of_le (by positivity) leading
  have place : (2 : ℚ) ^ number.exponent ≤ 1 := zpow_le_one_of_nonpos₀ (by norm_num) broken.le
  have bound : number.shortest.value < 10 ^ (16 : Int) := by
    calc number.shortest.value ≤ number.magnitude + 2 ^ number.exponent / 2 := by
          rw [← interval_high]
          exact inside.le_high
      _ ≤ 2 ^ 53 * 2 ^ number.exponent := high_le proper
      _ ≤ 2 ^ 53 * 1 := by gcongr
      _ < 10 ^ (16 : Int) := by norm_num
  rw [firstPower, power_eq_log (digits_ne_zero_of_value_pos positive)]
  rw [lt_zpow_iff_log_lt positive] at bound
  omega

theorem print_of_whole?_eq_none (proper : number.Proper) (broken : number.whole? = none) :
    number.print = (if number.negative then ['-'] else []) ++
      if number.magnitude < 10 ^ (-5 : Int)
      then withExponent (Text.ofNat number.shortest.digits) number.firstPower
      else placePoint (Text.ofNat number.shortest.digits) (number.firstPower + 1) := by
  have nonzero := significand_ne_zero_of_whole? broken
  have notZero : number.isZero = false := by simpa [isZero] using nonzero
  have notLarge := firstPower_le_of_exponent_neg proper nonzero (exponent_neg_of_whole? broken)
  have layout : (number.firstPower < -5 ∨ 15 < number.firstPower) ↔
      number.magnitude < 10 ^ (-5 : Int) := by
    rw [← firstPower_lt_iff proper nonzero]
    omega
  have printed : number.print = (if number.negative then ['-'] else []) ++
      if number.firstPower < -5 ∨ 15 < number.firstPower
      then withExponent (Text.ofNat number.shortest.digits) number.firstPower
      else placePoint (Text.ofNat number.shortest.digits) (number.firstPower + 1) := by
    rw [print, printWith, notZero]
    cases number.negative <;> rfl
  simpa only [layout] using printed

end MetaConfig.Binary64
