import MetaConfig.Proofs.Binary64.Print
import MetaConfig.Proofs.Json.Number
import MetaConfig.Proofs.Source.Rules

/-!
The types that scalars of JSON have, and those that their literals have when they are read as
texts. They are the same but for fractions less than 0.00001: these are printed with an
exponent, and a text with an exponent is a string.
-/

namespace MetaConfig

open Text

namespace Scalar

variable (negative : Bool)

theorem infer_ofNat (number : Nat) :
    infer ((if negative then ['-'] else []) ++ ofNat number) =
      ⟨(if negative then ['-'] else []) ++ ofNat number, .int⟩ := by
  have digits : IsDigits (ofNat number) :=
    ⟨Nat.toDigits_ne_nil, fun _ => isDigit_of_mem_ofNat⟩
  exact Rule.integer.infer_of_accepts (by decide) (signed_append negative digits)

theorem infer_ofInt (value : Int) : infer (ofInt value) = ⟨ofInt value, .int⟩ := by
  have signed : ofInt value = (if decide (value < 0) then ['-'] else []) ++ ofNat value.natAbs := by
    unfold ofInt
    by_cases below : value < 0 <;> simp [below]
  rw [signed, infer_ofNat]

theorem infer_placePoint {digits : Text} (nonempty : digits ≠ [])
    (numeric : ∀ digit ∈ digits, isDigit digit = true) (power : Int) :
    infer ((if negative then ['-'] else []) ++ Binary64.placePoint digits power) =
      ⟨(if negative then ['-'] else []) ++ Binary64.placePoint digits power, .float⟩ := by
  have zero : isDigit '0' = true := by decide
  obtain ⟨whole, fraction, spelled, wholeDigits, behind, fractionDigits⟩ :=
    Binary64.placePoint_eq_append zero numeric power
  have pointed : IsPointed (Binary64.placePoint digits power) :=
    ⟨whole, fraction, spelled, wholeDigits, behind nonempty, fractionDigits⟩
  exact Rule.fraction.infer_of_accepts (by decide) (signed_append negative pointed)

theorem infer_withExponent (digits : Text) (power : Int) :
    (infer ((if negative then ['-'] else []) ++ Binary64.withExponent digits power)).type ≠
      .float := by
  intro float
  have accepted := (Rule.type_infer_eq_iff .fraction _).mp float
  have letter : 'e' ∈ (if negative then ['-'] else []) ++ Binary64.withExponent digits power := by
    simp [Binary64.withExponent]
  have allowed := Rule.mem_of_fraction accepted letter
  revert allowed
  decide

theorem infer_literal_ofNumber_iff {number : Json.Number}
    (proper : ∀ value, number = .real value → value.Proper) :
    infer (ofNumber number).literal = ofNumber number ↔
      ∀ value, number = .real value → value.isZero = true ∨ 10 ^ (-5 : Int) ≤ value.magnitude := by
  cases number with
  | integer value => simp [ofNumber, infer_ofInt]
  | real value =>
      have valueProper := proper value rfl
      simp only [Json.Number.real.injEq, forall_eq']
      cases whole : value.whole? with
      | some number =>
          simp only [ofNumber, whole, infer_ofNat, true_iff]
          have least : (10 : ℚ) ^ (-5 : Int) ≤ 1 := by norm_num
          exact (Binary64.isZero_or_one_le_of_whole? whole).imp_right least.trans
      | none =>
          -- The layout decides: only a text with a point and no exponent is a fraction again.
          have nonzero := Binary64.significand_ne_zero_of_whole? whole
          have notZero : value.isZero = false := by simpa [Binary64.isZero] using nonzero
          have digits : ∀ char ∈ ofNat value.shortest.digits, isDigit char = true :=
            fun _ => isDigit_of_mem_ofNat
          simp only [ofNumber, whole, Binary64.print_of_whole?_eq_none valueProper whole, notZero,
            Bool.false_eq_true, false_or]
          by_cases small : value.magnitude < 10 ^ (-5 : Int)
          · simp only [small, if_true, not_le.mpr small, iff_false]
            intro same
            exact infer_withExponent value.negative _ _ (congrArg Scalar.type same)
          · simp only [small, if_false, not_lt.mp small, iff_true]
            exact infer_placePoint value.negative Nat.toDigits_ne_nil digits _

/-- The literal of a JSON scalar has the type and the spelling of the scalar when it is read as a
text, but for a fraction less than 0.00001. -/
theorem infer_literal_ofJson?_iff {value : Json.Value} {scalar : Scalar}
    (typed : ofJson? value = some scalar)
    (proper : ∀ number, value = .number (.real number) → number.Proper) :
    infer scalar.literal = scalar ↔ ∀ number, value = .number (.real number) →
      number.isZero = true ∨ 10 ^ (-5 : Int) ≤ number.magnitude := by
  cases value with
  | null =>
      obtain rfl := Option.some.inj typed
      simp only [reduceCtorEq, false_imp_iff, implies_true, iff_true]
      decide
  | boolean value =>
      simp only [reduceCtorEq, false_imp_iff, implies_true, iff_true]
      cases value with
      | true =>
          obtain rfl := Option.some.inj typed
          decide
      | false =>
          obtain rfl := Option.some.inj typed
          decide
  | number value =>
      obtain rfl := Option.some.inj typed
      simp only [Json.Value.number.injEq] at proper ⊢
      exact infer_literal_ofNumber_iff proper
  | string value =>
      obtain rfl := Option.some.inj typed
      simp [infer_literal_infer]
  | array items => contradiction
  | object members => contradiction

/-- A fraction that is read from `1e-7` has the type of a fraction, and its literal does not. -/
theorem infer_literal_ofJson?_ne_of_exponent :
    ∃ number scalar, Json.Value.read "1e-7".toList = .ok (.number (.real number)) ∧
      ofJson? (.number (.real number)) = some scalar ∧
      scalar = ⟨"1e-7".toList, .float⟩ ∧ infer scalar.literal ≠ scalar := by
  have typed : ofJson? (.number (.real ⟨false, 7555786372591432, -76⟩)) =
      some ⟨"1e-7".toList, .float⟩ := rfl
  refine ⟨⟨false, 7555786372591432, -76⟩, ⟨"1e-7".toList, .float⟩, rfl, typed, rfl, ?_⟩
  intro same
  have proper : ∀ number, Json.Value.number (.real ⟨false, 7555786372591432, -76⟩) =
      .number (.real number) → number.Proper := by
    rintro number ⟨⟩
    have read : Json.readNumber false "1e-7".toList =
        .ok (.real ⟨false, 7555786372591432, -76⟩, []) := rfl
    exact Json.proper_of_readNumber read
  rcases (infer_literal_ofJson?_iff typed proper).mp same _ rfl with zero | large
  · contradiction
  · norm_num [Binary64.magnitude] at large

end Scalar

end MetaConfig
