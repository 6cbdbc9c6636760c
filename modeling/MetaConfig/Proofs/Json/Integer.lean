import MetaConfig.Proofs.Binary64.Whole
import MetaConfig.Proofs.Json.Number
import MetaConfig.Proofs.Json.Reading
import MetaConfig.Proofs.Text.Cutting
import MetaConfig.Proofs.Text.Decimal

/-!
What is read of the digits of an integer. It is the integer itself if it has 64 bits. Of a longer
one as many digits are taken up as fit into 64 bits, and their number and the power of ten for the
other digits are rounded, and so is the product of the two.
-/

namespace MetaConfig.Json

open Text Binary64

def EndsNumber (rest : Text) : Prop :=
  ∀ char ∈ rest.head?, isDigit char = false ∧ char ∉ ['.', 'e', 'E']

structure LeadingDigits (number kept dropped : Nat) : Prop where
  kept_eq : kept = number / 10 ^ dropped
  fits : kept ≤ greatestNatural
  longest : ∀ fewer < dropped, greatestNatural < number / 10 ^ fewer

theorem LeadingDigits.of_le {number kept dropped : Nat} (leads : LeadingDigits number kept dropped)
    (fits : number ≤ greatestNatural) : kept = number ∧ dropped = 0 := by
  have none : dropped = 0 := by
    by_contra some
    have tooLong := leads.longest 0 (Nat.pos_of_ne_zero some)
    rw [pow_zero, Nat.div_one] at tooLong
    exact absurd fits (not_le.mpr tooLong)
  subst none
  exact ⟨by simpa using leads.kept_eq, rfl⟩

theorem LeadingDigits.le_kept {number kept dropped : Nat}
    (leads : LeadingDigits number kept dropped) (large : twoTo 63 < number) : 2 ^ 60 < kept := by
  cases dropped with
  | zero =>
      have bound : 2 ^ 60 < twoTo 63 := by decide
      rw [leads.kept_eq, pow_zero, Nat.div_one]
      exact bound.trans large
  | succ fewer =>
      have bound : 10 * (2 ^ 60 + 1) ≤ greatestNatural := by decide
      have tooLong := leads.longest fewer (Nat.lt_succ_self fewer)
      have shorter : number / 10 ^ (fewer + 1) = number / 10 ^ fewer / 10 := by
        rw [Nat.pow_succ, Nat.div_div_eq_div_mul]
      rw [leads.kept_eq, shorter]
      omega

theorem LeadingDigits.bounds {number kept dropped : Nat}
    (leads : LeadingDigits number kept dropped) (large : twoTo 63 < number) :
    (kept * 10 ^ dropped : ℚ) ≤ number ∧
      (number : ℚ) ≤ kept * 10 ^ dropped * (1 + 1 / 2 ^ 60) := by
  have scale : 0 < 10 ^ dropped := Nat.pow_pos (by decide)
  have least : kept * 10 ^ dropped ≤ number := by
    rw [leads.kept_eq]
    exact Nat.div_mul_le_self number _
  have below : number < 10 ^ dropped * (kept + 1) := by
    rw [leads.kept_eq]
    exact Nat.lt_mul_div_succ number scale
  have long : (2 : ℚ) ^ 60 ≤ kept := by exact_mod_cast (leads.le_kept large).le
  have rest : (10 : ℚ) ^ dropped ≤ kept * 10 ^ dropped * (1 / 2 ^ 60) := by
    have scaled : (10 : ℚ) ^ dropped * 2 ^ 60 ≤ 10 ^ dropped * kept := by gcongr
    rw [mul_one_div, le_div_iff₀ (by positivity)]
    linarith
  constructor
  · exact_mod_cast least
  · have most : (number : ℚ) ≤ 10 ^ dropped * (kept + 1) := by exact_mod_cast below.le
    linarith

theorem LeadingDigits.unique {number kept dropped otherKept otherDropped : Nat}
    (leads : LeadingDigits number kept dropped)
    (other : LeadingDigits number otherKept otherDropped) :
    kept = otherKept ∧ dropped = otherDropped := by
  have notLonger {kept dropped otherKept otherDropped : Nat}
      (leads : LeadingDigits number kept dropped)
      (other : LeadingDigits number otherKept otherDropped) : otherDropped ≤ dropped := by
    by_contra fewer
    have tooLong := other.longest dropped (not_le.mp fewer)
    rw [← leads.kept_eq] at tooLong
    exact absurd leads.fits (not_le.mpr tooLong)
  obtain rfl := Nat.le_antisymm (notLonger other leads) (notLonger leads other)
  exact ⟨leads.kept_eq.trans other.kept_eq.symm, rfl⟩

theorem leadingDigits_takeUpDigits {digits : Text} (numeric : ∀ char ∈ digits, isDigit char = true)
    {significand : Nat} (fits : significand ≤ greatestNatural) :
    LeadingDigits (Nat.ofDigitChars 10 digits significand) (takeUpDigits significand digits).1
      (takeUpDigits significand digits).2 := by
  -- Digits are taken up one after another, so the number taken up so far is generalized; where
  -- the next one does not fit, all the rest is dropped.
  induction digits generalizing significand with
  | nil => exact ⟨by simp [takeUpDigits], fits, by simp [takeUpDigits]⟩
  | cons char rest ih =>
      obtain ⟨_, restNumeric⟩ := List.forall_mem_cons.mp numeric
      have step : Nat.ofDigitChars 10 (char :: rest) significand =
          Nat.ofDigitChars 10 rest (significand * 10 + (char.toNat - 48)) := by
        rw [Nat.ofDigitChars_cons, Nat.mul_comm 10 significand]
        rfl
      rw [takeUpDigits]
      split
      · rename_i longerFits
        rw [step]
        exact ih restNumeric longerFits
      · rename_i tooLong
        refine ⟨(ofDigitChars_div numeric significand).symm, fits, fun fewer less => ?_⟩
        have whole := ofDigitChars_div restNumeric (significand * 10 + (char.toNat - 48))
        have scale : 10 ^ fewer ≤ 10 ^ rest.length :=
          Nat.pow_le_pow_right (by decide) (Nat.le_of_lt_succ less)
        rw [step]
        calc greatestNatural < significand * 10 + (char.toNat - 48) := not_le.mp tooLong
          _ = _ / 10 ^ rest.length := whole.symm
          _ ≤ _ / 10 ^ fewer := Nat.div_le_div_left scale (Nat.pow_pos (by decide))

theorem leadingDigits_ofNat (number : Nat) :
    LeadingDigits number (takeUpDigits 0 (ofNat number)).1 (takeUpDigits 0 (ofNat number)).2 := by
  have value : Nat.ofDigitChars 10 (ofNat number) 0 = number := Nat.ofDigitChars_ten_toDigits
  have numeric : ∀ char ∈ ofNat number, isDigit char = true :=
    fun char member => isDigit_of_mem_ofNat member
  have leads := leadingDigits_takeUpDigits numeric (Nat.zero_le greatestNatural)
  rwa [value] at leads

theorem takeUpDigits_ofNat {number : Nat} (fits : number ≤ greatestNatural) :
    takeUpDigits 0 (ofNat number) = (number, 0) :=
  Prod.ext_iff.mpr ((leadingDigits_ofNat number).of_le fits)

/-! ## Reading digits -/

theorem readNumber_ofNat (number : Nat) (negative : Bool) {rest : Text} (ends : EndsNumber rest) :
    readNumber negative (ofNat number ++ rest) =
      readAfterWhole negative (takeUpDigits 0 (ofNat number)).1 (takeUpDigits 0 (ofNat number)).2
        rest := by
  have stops : ∀ char ∈ rest.head?, isDigit char = false := fun char member => (ends char member).1
  by_cases zero : number = 0
  · subst number
    have whole : takeUpDigits 0 (ofNat 0) = (0, 0) := takeUpDigits_ofNat (Nat.zero_le _)
    rw [whole]
    cases rest with
    | nil => rfl
    | cons next others =>
        have stop := stops next rfl
        simp [ofNat, readNumber, stop]
  · have digits : ∀ char ∈ ofNat number, isDigit char = true :=
      fun char member => isDigit_of_mem_ofNat member
    have taken : (ofNat number ++ rest).takeWhile isDigit = ofNat number :=
      takeWhile_append_stop digits stops
    have dropped : (ofNat number ++ rest).dropWhile isDigit = rest :=
      dropWhile_append_stop digits stops
    have noZero := head?_ofNat_ne_zero (Nat.pos_of_ne_zero zero)
    obtain ⟨first, others, parts, firstDigit⟩ := exists_digit_ofNat number
    have firstNotZero : first ≠ '0' := by
      simpa [parts] using noZero
    rw [parts, List.cons_append] at taken dropped
    rw [parts, List.cons_append, readNumber]
    · simp only [firstDigit, if_true, taken, dropped]
    · exact firstNotZero

def wholeNumber? (negative : Bool) (significand unread : Nat) : Option Number :=
  match if unread = 0 then integer? negative significand else none with
  | some value => some (.integer value)
  | none => (real? negative significand unread).map .real

theorem toOption_readAfterWhole (negative : Bool) (significand unread : Nat) {rest : Text}
    (ends : EndsNumber rest) :
    (readAfterWhole negative significand unread rest).toOption =
      (wholeNumber? negative significand unread).map fun number => (number, rest) := by
  unfold readAfterWhole wholeNumber?
  split
  · exact absurd (ends '.' rfl).2 (by decide)
  · exact absurd (ends 'e' rfl).2 (by decide)
  · exact absurd (ends 'E' rfl).2 (by decide)
  · generalize (if unread = 0 then integer? negative significand else none) = given
    cases given with
    | some value => rfl
    | none =>
        unfold readReal
        cases real? negative significand unread <;> rfl

def rereadInt? (value : Int) : Option Number :=
  let (significand, unread) := takeUpDigits 0 (ofNat value.natAbs)
  wholeNumber? (value < 0) significand unread

theorem readScalar?_ofInt (value : Int) (rest : Text) :
    readScalar? (ofInt value ++ rest) =
      (readNumber (value < 0) (ofNat value.natAbs ++ rest)).map
        fun (number, rest) => some (.number number, rest) := by
  by_cases negative : value < 0
  · rw [ofInt, if_pos negative, List.cons_append, decide_eq_true negative]
    simp only [readScalar?]
    cases readNumber true (ofNat value.natAbs ++ rest) <;> rfl
  · obtain ⟨first, others, parts, digit⟩ := exists_digit_ofNat value.natAbs
    have other : first ∉ ['[', '\x7b', 'n', 't', 'f', '"', '-'] :=
      not_mem_of_isDigit digit (by decide)
    simp only [List.mem_cons, not_or] at other
    rw [ofInt, if_neg negative, decide_eq_false negative, parts, List.cons_append]
    simp only [readScalar?, other, digit, or_self, if_true, if_false]
    cases readNumber false (first :: (others ++ rest)) <;> rfl

theorem toOption_readScalar?_ofInt (value : Int) {rest : Text} (ends : EndsNumber rest) :
    (readScalar? (ofInt value ++ rest)).toOption =
      (rereadInt? value).map fun number => some (.number number, rest) := by
  have read := toOption_readAfterWhole (value < 0) (takeUpDigits 0 (ofNat value.natAbs)).1
    (takeUpDigits 0 (ofNat value.natAbs)).2 ends
  rw [← readNumber_ofNat value.natAbs _ ends] at read
  rw [readScalar?_ofInt, toOption_map, read, rereadInt?, Option.map_map]
  rfl

def IsInteger (value : Int) : Prop := -(twoTo 63 : Int) ≤ value ∧ value ≤ greatestNatural

theorem rereadInt?_of_isInteger {value : Int} (isInteger : IsInteger value) :
    rereadInt? value = some (.integer value) := by
  obtain ⟨lower, upper⟩ := isInteger
  have bound : twoTo 63 ≤ greatestNatural := by decide
  have whole : takeUpDigits 0 (ofNat value.natAbs) = (value.natAbs, 0) :=
    takeUpDigits_ofNat (by omega)
  have given : integer? (value < 0) value.natAbs = some value := by
    by_cases negative : value < 0
    · have bounds : 0 < value.natAbs ∧ value.natAbs ≤ twoTo 63 := by omega
      have same : -(value.natAbs : Int) = value := by omega
      rw [integer?, decide_eq_true negative, if_neg (by decide), if_pos bounds, same]
    · have same : (value.natAbs : Int) = value := by omega
      rw [integer?, decide_eq_false negative, if_pos (by decide), same]
  simp only [rereadInt?, whole, wholeNumber?, if_true, given]

/-! ## Integers of more than 64 bits -/

theorem ofNat?_tenTo {power : Nat} (small : power ≤ 308) :
    Binary64.ofNat? false (tenTo power) = some (powerOfTen power) := by
  have nonzero := powerOfTen_nonzero small
  unfold powerOfTen at nonzero ⊢
  cases rounded : Binary64.ofNat? false (tenTo power) with
  | none =>
      rw [rounded] at nonzero
      exact absurd rfl nonzero
  | some number => rfl

theorem mul?_of_timesPowerOfTen? {number result : Binary64} {power steps : Nat}
    (nonzero : number.isZero = false)
    (scaled : timesPowerOfTen? number power (steps + 1) = some result) :
    power ≤ 308 ∧ number.mul? (powerOfTen power) = some result := by
  have upwards : (0 : Int) ≤ power := Int.natCast_nonneg power
  simp only [timesPowerOfTen?, Int.natAbs_natCast, upwards, if_true, nonzero,
    Bool.false_eq_true, if_false] at scaled
  split at scaled
  · rename_i small
    exact ⟨small, scaled⟩
  · contradiction

def roundScaled (kept dropped : Nat) : Nat :=
  roundWhole (roundWhole kept * roundWhole (10 ^ dropped))

theorem roundScaled_bounds (kept dropped : Nat) :
    (kept * 10 ^ dropped : ℚ) * (1 - 1 / 2 ^ 53) ^ 3 ≤ roundScaled kept dropped ∧
      (roundScaled kept dropped : ℚ) ≤ kept * 10 ^ dropped * (1 + 1 / 2 ^ 53) ^ 3 := by
  obtain ⟨keptLeast, keptMost⟩ := roundWhole_bounds kept
  obtain ⟨scaleLeast, scaleMost⟩ := roundWhole_bounds (10 ^ dropped)
  obtain ⟨productLeast, productMost⟩ :=
    roundWhole_bounds (roundWhole kept * roundWhole (10 ^ dropped))
  rw [← roundScaled] at productLeast productMost
  push_cast at scaleLeast scaleMost productLeast productMost
  constructor
  · calc (kept * 10 ^ dropped : ℚ) * (1 - 1 / 2 ^ 53) ^ 3
        = kept * (1 - 1 / 2 ^ 53) * (10 ^ dropped * (1 - 1 / 2 ^ 53)) * (1 - 1 / 2 ^ 53) := by ring
      _ ≤ (roundWhole kept : ℚ) * roundWhole (10 ^ dropped) * (1 - 1 / 2 ^ 53) := by
        gcongr
      _ ≤ (roundScaled kept dropped : ℚ) := productLeast
  · calc (roundScaled kept dropped : ℚ)
        ≤ (roundWhole kept : ℚ) * roundWhole (10 ^ dropped) * (1 + 1 / 2 ^ 53) := productMost
      _ ≤ kept * (1 + 1 / 2 ^ 53) * (10 ^ dropped * (1 + 1 / 2 ^ 53)) * (1 + 1 / 2 ^ 53) := by
        gcongr
      _ = (kept * 10 ^ dropped : ℚ) * (1 + 1 / 2 ^ 53) ^ 3 := by ring

/-- Three roundings and the digits that are left out change a number by no more than one part in
2 ^ 51. -/
theorem abs_roundScaled_sub_le {number kept dropped : Nat}
    (leads : LeadingDigits number kept dropped) (large : twoTo 63 < number) :
    |(roundScaled kept dropped : ℚ) - number| * 2 ^ 51 ≤ number := by
  have positive : (0 : ℚ) ≤ kept * 10 ^ dropped := by positivity
  obtain ⟨least, most⟩ := leads.bounds large
  obtain ⟨lower, upper⟩ := roundScaled_bounds kept dropped
  generalize (kept * 10 ^ dropped : ℚ) = whole at least most positive lower upper
  rw [← le_div_iff₀ (pow_pos two_pos 51), abs_le]
  constructor
  · norm_num at lower most ⊢
    linarith
  · norm_num at upper ⊢
    linarith

theorem magnitude_of_real? {negative : Bool} {kept dropped : Nat} {number : Binary64}
    (positive : 0 < kept) (found : real? negative kept dropped = some number) :
    number.magnitude = roundScaled kept dropped ∧ number.negative = negative := by
  obtain ⟨start, rounded, scaled⟩ := Option.bind_eq_some_iff.mp found
  obtain ⟨startWhole, startNegative⟩ := magnitude_of_ofNat? positive rounded
  have startPositive := roundWhole_pos positive
  have nonzero : start.isZero = false := by
    rw [Bool.eq_false_iff]
    intro zero
    have none : start.significand = 0 := by simpa [isZero] using zero
    rw [magnitude, none, Nat.cast_zero, zero_mul] at startWhole
    exact startPositive.ne (by exact_mod_cast startWhole)
  obtain ⟨small, product⟩ := mul?_of_timesPowerOfTen? nonzero scaled
  have scale : 0 < 10 ^ dropped := Nat.pow_pos (by decide)
  obtain ⟨scaleWhole, scaleNegative⟩ := magnitude_of_ofNat? scale (ofNat?_tenTo small)
  have bothPositive := Nat.mul_pos startPositive (roundWhole_pos scale)
  obtain ⟨whole, sign⟩ := magnitude_of_mul? startWhole scaleWhole bothPositive product
  exact ⟨whole, by simp [sign, startNegative, scaleNegative]⟩

theorem natAbs_gt_of_long {value : Int} (long : ¬ IsInteger value) :
    twoTo 63 < value.natAbs := by
  have bound : twoTo 63 ≤ greatestNatural := by decide
  simp only [IsInteger, not_and_or, not_le] at long
  omega

theorem integer?_of_long {value : Int} (long : ¬ IsInteger value) {kept : Nat}
    (whole : kept = value.natAbs) (fits : kept ≤ greatestNatural) :
    integer? (value < 0) kept = none := by
  have large := natAbs_gt_of_long long
  have negative : value < 0 := by
    simp only [IsInteger, not_and_or, not_le] at long
    omega
  rw [integer?, decide_eq_true negative, if_neg (by decide), if_neg (by omega)]

theorem real_of_rereadInt? {value : Int} (long : ¬ IsInteger value) {number : Number}
    (found : rereadInt? value = some number) :
    ∃ real kept dropped, number = .real real ∧ LeadingDigits value.natAbs kept dropped ∧
      real.magnitude = roundScaled kept dropped ∧ real.negative = decide (value < 0) := by
  have leads := leadingDigits_ofNat value.natAbs
  simp only [rereadInt?, wholeNumber?] at found
  generalize (takeUpDigits 0 (ofNat value.natAbs)).1 = kept at found leads
  generalize (takeUpDigits 0 (ofNat value.natAbs)).2 = dropped at found leads
  have noInteger : (if dropped = 0 then integer? (value < 0) kept else none) = none := by
    split
    · rename_i whole
      subst whole
      exact integer?_of_long long (by simpa using leads.kept_eq) leads.fits
    · rfl
  have keptPositive := Nat.zero_lt_of_lt (leads.le_kept (natAbs_gt_of_long long))
  rw [noInteger] at found
  obtain ⟨real, rounded, rfl⟩ := Option.map_eq_some_iff.mp found
  obtain ⟨magnitude, negative⟩ := magnitude_of_real? keptPositive rounded
  exact ⟨real, kept, dropped, rfl, leads, magnitude, negative⟩

end MetaConfig.Json
