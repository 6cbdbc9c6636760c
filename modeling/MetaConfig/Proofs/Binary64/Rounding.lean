import Mathlib.Data.Nat.Log
import MetaConfig.Proofs.Binary64.Value

/-!
Rounding a ratio gives a number as it is stored: with 53 significant bits, or with fewer at the
least exponent. So do products and quotients, which are rounded ratios.
-/

namespace MetaConfig.Binary64

namespace Ratio

variable {ratio : Ratio}

theorem div_lt_iff (denominator : 0 < ratio.denominator) (bound : Nat) :
    ratio.numerator / ratio.denominator < bound ↔ ratio.value < bound := by
  have positive : (0 : ℚ) < ratio.denominator := by exact_mod_cast denominator
  rw [value, div_lt_iff₀ positive, Nat.div_lt_iff_lt_mul denominator]
  exact_mod_cast Iff.rfl

theorem le_nearest (denominator : 0 < ratio.denominator) {low : Nat}
    (least : (low : ℚ) ≤ ratio.value) : low ≤ ratio.nearest := by
  have notBelow := mt (div_lt_iff denominator low).mp (not_lt.mpr least)
  simp only [nearest]
  split <;> omega

theorem nearest_le (denominator : 0 < ratio.denominator) {high : Nat}
    (below : ratio.value < high) : ratio.nearest ≤ high := by
  have whole := (div_lt_iff denominator high).mpr below
  simp only [nearest]
  split <;> omega

theorem value_bounds (numerator : 0 < ratio.numerator) (denominator : 0 < ratio.denominator) :
    2 ^ ((Nat.log2 ratio.numerator : Int) - Nat.log2 ratio.denominator - 1) ≤ ratio.value ∧
      ratio.value < 2 ^ ((Nat.log2 ratio.numerator : Int) - Nat.log2 ratio.denominator + 1) := by
  have positive : (0 : ℚ) < ratio.denominator := by exact_mod_cast denominator
  have numeratorLeast : (2 : ℚ) ^ (Nat.log2 ratio.numerator : Int) ≤ ratio.numerator := by
    exact_mod_cast Nat.log2_self_le numerator.ne'
  have numeratorBelow : (ratio.numerator : ℚ) < 2 ^ ((Nat.log2 ratio.numerator : Int) + 1) := by
    exact_mod_cast Nat.lt_log2_self (n := ratio.numerator)
  have denominatorLeast : (2 : ℚ) ^ (Nat.log2 ratio.denominator : Int) ≤ ratio.denominator := by
    exact_mod_cast Nat.log2_self_le denominator.ne'
  have denominatorBelow :
      (ratio.denominator : ℚ) < 2 ^ ((Nat.log2 ratio.denominator : Int) + 1) := by
    exact_mod_cast Nat.lt_log2_self (n := ratio.denominator)
  constructor
  · rw [value, le_div_iff₀ positive, sub_sub, zpow_sub₀ (by norm_num),
      div_mul_eq_mul_div, div_le_iff₀ (by positivity)]
    gcongr
  · rw [value, div_lt_iff₀ positive]
    calc (ratio.numerator : ℚ) < 2 ^ ((Nat.log2 ratio.numerator : Int) + 1) := numeratorBelow
      _ = 2 ^ ((Nat.log2 ratio.numerator : Int) - Nat.log2 ratio.denominator + 1) *
            2 ^ (Nat.log2 ratio.denominator : Int) := by
          rw [← zpow_add₀ (by norm_num)]
          ring_nf
      _ ≤ _ := by gcongr

/-- With its exponent a ratio has 53 bits before the point, or fewer at the least exponent. -/
theorem exponent_spec (numerator : 0 < ratio.numerator) (denominator : 0 < ratio.denominator) :
    ratio.value < 2 ^ (53 + ratio.exponent) ∧
      (2 ^ (52 + ratio.exponent) ≤ ratio.value ∨ ratio.exponent = leastExponent) := by
  obtain ⟨least, below⟩ := value_bounds numerator denominator
  obtain ⟨guess, guessed⟩ : ∃ guess : Int, guess =
      (Nat.log2 ratio.numerator : Int) - Nat.log2 ratio.denominator - significandBits := ⟨_, rfl⟩
  have bits : (Nat.log2 ratio.numerator : Int) - Nat.log2 ratio.denominator = guess + 53 := by
    simp only [guessed, significandBits]
    omega
  rw [bits] at least below
  -- Whether the guess is kept or raised, all 53 bits are in use.
  obtain ⟨exact, exponent, exactLeast, exactBelow⟩ : ∃ exact : Int,
      ratio.exponent = max exact leastExponent ∧ 2 ^ (52 + exact) ≤ ratio.value ∧
        ratio.value < 2 ^ (53 + exact) := by
    have shifted : (ratio.shift (-guess)).numerator / (ratio.shift (-guess)).denominator <
        twoTo significandBits ↔ ratio.value < 2 ^ (53 + guess) := by
      rw [div_lt_iff (shift_denominator_pos denominator _), value_shift, zpow_neg,
        ← div_eq_mul_inv, div_lt_iff₀ (by positivity), zpow_add₀ (by norm_num), cast_twoTo]
      rfl
    simp only [Ratio.exponent, ← guessed, shifted]
    split
    · rename_i fits
      have lower : 52 + guess = guess + 53 - 1 := by omega
      exact ⟨guess, rfl, lower ▸ least, fits⟩
    · rename_i large
      have lower : 52 + (guess + 1) = 53 + guess := by omega
      have upper : 53 + (guess + 1) = guess + 53 + 1 := by omega
      exact ⟨guess + 1, rfl, lower ▸ not_lt.mp large, upper ▸ below⟩
  rw [exponent]
  rcases le_total leastExponent exact with normal | small
  · rw [max_eq_left normal]
    exact ⟨exactBelow, .inl exactLeast⟩
  · rw [max_eq_right small]
    refine ⟨exactBelow.trans_le ?_, .inr rfl⟩
    exact zpow_le_zpow_right₀ (by norm_num) (by omega)

theorem leastExponent_le_exponent (ratio : Ratio) : leastExponent ≤ ratio.exponent :=
  le_max_right _ _

theorem nearest_shift_bounds (numerator : 0 < ratio.numerator)
    (denominator : 0 < ratio.denominator) :
    (ratio.shift (-ratio.exponent)).nearest ≤ twoTo significandBits ∧
      (twoTo (significandBits - 1) ≤ (ratio.shift (-ratio.exponent)).nearest ∨
        ratio.exponent = leastExponent) := by
  obtain ⟨below, least⟩ := exponent_spec numerator denominator
  have place : (0 : ℚ) < 2 ^ ratio.exponent := by positivity
  have shifted : (ratio.shift (-ratio.exponent)).value = ratio.value / 2 ^ ratio.exponent := by
    rw [value_shift, zpow_neg, div_eq_mul_inv]
  have shiftedDenominator := shift_denominator_pos denominator (-ratio.exponent)
  constructor
  · apply nearest_le shiftedDenominator
    rw [shifted, div_lt_iff₀ place, cast_twoTo, ← zpow_natCast, ← zpow_add₀ (by norm_num)]
    exact below
  · refine least.imp_left fun normal => le_nearest shiftedDenominator ?_
    rw [shifted, le_div_iff₀ place, cast_twoTo, ← zpow_natCast, ← zpow_add₀ (by norm_num)]
    exact normal

end Ratio

theorem proper_zero (negative : Bool) : (zero negative).Proper where
  significand_lt := twoTo_pos significandBits
  leastExponent_le := le_rfl
  exponent_le := (by decide : leastExponent ≤ greatestExponent)
  normal := .inr rfl

theorem Ratio.nearest_shift_of_zero {ratio : Ratio} (zero : ratio.numerator = 0)
    (denominator : 0 < ratio.denominator) (power : Int) : (ratio.shift power).nearest = 0 := by
  have numerator : (ratio.shift power).numerator = 0 := by
    cases power <;> simp [shift, zero]
  have positive := shift_denominator_pos denominator power
  simp [nearest, numerator, positive]

theorem proper_of_ofRatio? {negative : Bool} {ratio : Ratio}
    (denominator : 0 < ratio.denominator) {number : Binary64}
    (rounded : ofRatio? negative ratio = some number) : number.Proper := by
  have leastExponent_le := ratio.leastExponent_le_exponent
  have most : (ratio.shift (-ratio.exponent)).nearest ≤ twoTo significandBits := by
    rcases Nat.eq_zero_or_pos ratio.numerator with zero | numerator
    · rw [Ratio.nearest_shift_of_zero zero denominator]
      exact Nat.zero_le _
    · exact (Ratio.nearest_shift_bounds numerator denominator).1
  have normal : (ratio.shift (-ratio.exponent)).nearest ≠ 0 →
      twoTo (significandBits - 1) ≤ (ratio.shift (-ratio.exponent)).nearest ∨
        ratio.exponent = leastExponent := by
    intro nonzero
    rcases Nat.eq_zero_or_pos ratio.numerator with zero | numerator
    · exact absurd (Ratio.nearest_shift_of_zero zero denominator _) nonzero
    · exact (Ratio.nearest_shift_bounds numerator denominator).2
  simp only [ofRatio?] at rounded
  generalize (ratio.shift (-ratio.exponent)).nearest = significand at rounded most normal
  by_cases carried : significand = twoTo significandBits
  · rw [if_pos carried] at rounded
    split at rounded
    · obtain rfl := Option.some.inj rounded
      exact proper_zero negative
    · obtain ⟨small, same⟩ := Option.ite_none_left_eq_some.mp rounded
      obtain rfl := Option.some.inj same
      have fewer : twoTo (significandBits - 1) < twoTo significandBits := by decide
      exact ⟨fewer, leastExponent_le.trans (Int.le_add_one le_rfl), not_lt.mp small, .inl le_rfl⟩
  · rw [if_neg carried] at rounded
    split at rounded
    · obtain rfl := Option.some.inj rounded
      exact proper_zero negative
    · rename_i nonzero
      obtain ⟨small, same⟩ := Option.ite_none_left_eq_some.mp rounded
      obtain rfl := Option.some.inj same
      exact ⟨lt_of_le_of_ne most carried, leastExponent_le, not_lt.mp small, normal nonzero⟩

theorem proper_of_ofNat? {negative : Bool} {whole : Nat} {number : Binary64}
    (rounded : ofNat? negative whole = some number) : number.Proper :=
  proper_of_ofRatio? Nat.one_pos rounded

theorem proper_of_mul? {left right number : Binary64} (product : left.mul? right = some number) :
    number.Proper :=
  proper_of_ofRatio? (Nat.mul_pos left.toRatio_denominator_pos right.toRatio_denominator_pos)
    product

theorem proper_of_div? {left right number : Binary64} (nonzero : right.significand ≠ 0)
    (quotient : left.div? right = some number) : number.Proper :=
  proper_of_ofRatio? (Nat.mul_pos left.toRatio_denominator_pos (toRatio_numerator_pos nonzero))
    quotient

end MetaConfig.Binary64
