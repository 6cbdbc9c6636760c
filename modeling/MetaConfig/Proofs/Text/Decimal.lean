import Mathlib.Algebra.Group.Nat.Defs
import Mathlib.Data.Nat.Log
import MetaConfig.Text.Decimal

/-!
The digits that numbers are written with: how many there are, and that the number is read back
from them.
-/

namespace MetaConfig.Text

theorem isDigit_of_mem_ofNat {char : Char} {number : Nat} (member : char ∈ ofNat number) :
    isDigit char = true :=
  Nat.isDigit_of_mem_toDigits (by decide) (by decide) member

theorem isDigit_ne {char other : Char} (digit : isDigit char = true)
    (noDigit : isDigit other = false) : char ≠ other := by
  rintro rfl
  rw [digit] at noDigit
  contradiction

theorem not_mem_of_isDigit {char : Char} (digit : isDigit char = true) {others : Text}
    (noDigits : others.all (!isDigit ·) = true) : char ∉ others := by
  intro member
  have noDigit := List.all_eq_true.mp noDigits char member
  rw [digit] at noDigit
  contradiction

theorem ofNat_ne_nil (number : Nat) : ofNat number ≠ [] := Nat.toDigits_ne_nil

theorem exists_digit_ofNat (number : Nat) :
    ∃ first others, ofNat number = first :: others ∧ isDigit first = true := by
  obtain ⟨first, others, parts⟩ := List.exists_cons_of_ne_nil (ofNat_ne_nil number)
  exact ⟨first, others, parts, isDigit_of_mem_ofNat (by rw [parts]; exact List.mem_cons_self)⟩

theorem head?_ofNat_ne_zero {number : Nat} (positive : 0 < number) :
    (ofNat number).head? ≠ some '0' := by
  induction number using Nat.strongRecOn with
  | ind number ih =>
      by_cases small : number < 10
      · rw [ofNat, Nat.toDigits_of_lt_base small]
        simp only [List.head?_cons, ne_eq, Option.some.injEq, Nat.digitChar_eq_zero]
        omega
      · have shorter := ih (number / 10) (by omega) (by omega)
        have whole : ofNat number = ofNat (number / 10) ++ [Nat.digitChar (number % 10)] :=
          Nat.toDigits_of_base_le (by decide) (by omega)
        obtain ⟨first, others, parts⟩ := List.exists_cons_of_ne_nil (ofNat_ne_nil (number / 10))
        rw [whole, parts]
        rw [parts] at shorter
        exact shorter

theorem length_ofNat (number : Nat) : (ofNat number).length = Nat.log 10 number + 1 := by
  have length_le_iff {places : Nat} (positive : 0 < places) :
      (ofNat number).length ≤ places ↔ number < 10 ^ places :=
    Nat.length_toDigits_le_iff (by decide) positive
  have shortEnough : (ofNat number).length ≤ Nat.log 10 number + 1 :=
    (length_le_iff (Nat.succ_pos _)).mpr (Nat.lt_pow_succ_log_self (by decide) number)
  cases whole : Nat.log 10 number with
  | zero =>
      have positive : 0 < (ofNat number).length := Nat.length_toDigits_pos
      omega
  | succ log =>
      have nonzero : number ≠ 0 := by
        rintro rfl
        simp at whole
      have large : 10 ^ (log + 1) ≤ number := whole ▸ Nat.pow_log_le_self 10 nonzero
      have longEnough := mt (length_le_iff (Nat.succ_pos log)).mp (not_lt.mpr large)
      omega

theorem digit?_of_isDigit {char : Char} (digit : isDigit char = true) :
    digit? 10 char = some (char.toNat - 48) := by
  simp only [isDigit, Bool.and_eq_true, decide_eq_true_eq] at digit
  have small : char.toNat ≤ 57 := digit.2
  simp only [digit?, if_pos digit, Option.filter_some]
  rw [if_pos]
  exact decide_eq_true (by omega)

theorem foldlM_digit? {text : Text} (digits : ∀ char ∈ text, isDigit char = true) (start : Nat) :
    text.foldlM (fun value char => (digit? 10 char).map (value * 10 + ·)) start =
      some (Nat.ofDigitChars 10 text start) := by
  induction text generalizing start with
  | nil => simp
  | cons char rest ih =>
      have later := ih fun other member => digits other (List.mem_cons_of_mem char member)
      rw [List.foldlM_cons, digit?_of_isDigit (digits char List.mem_cons_self),
        Nat.ofDigitChars_cons, Nat.mul_comm 10 start]
      exact later _

theorem digit?_isSome_of_mem {base : Nat} {text : Text} {start value : Nat}
    (found : text.foldlM (fun value char => (digit? base char).map (value * base + ·)) start =
      some value) : ∀ char ∈ text, (digit? base char).isSome := by
  induction text generalizing start with
  | nil => simp
  | cons first others ih =>
      rw [List.foldlM_cons] at found
      obtain ⟨next, digit, later⟩ := Option.bind_eq_some_iff.mp found
      intro char member
      rcases List.mem_cons.mp member with rfl | inOthers
      · obtain ⟨code, isCode, -⟩ := Option.map_eq_some_iff.mp digit
        rw [isCode]
        rfl
      · exact ih later char inOthers

theorem ofDigitChars_lt {text : Text} (digits : ∀ char ∈ text, isDigit char = true) :
    Nat.ofDigitChars 10 text 0 < 10 ^ text.length := by
  induction text with
  | nil => simp
  | cons char rest ih =>
      obtain ⟨digit, others⟩ := List.forall_mem_cons.mp digits
      simp only [isDigit, Bool.and_eq_true, decide_eq_true_eq] at digit
      have small : char.toNat ≤ 57 := digit.2
      have later := ih others
      have most : 10 ^ rest.length * (char.toNat - 48) ≤ 10 ^ rest.length * 9 :=
        Nat.mul_le_mul_left _ (by omega)
      rw [Nat.ofDigitChars_cons, Nat.ofDigitChars_eq_ofDigitChars_zero, List.length_cons,
        Nat.pow_succ]
      simp only [Nat.mul_zero, Nat.zero_add]
      exact (Nat.add_lt_add_of_le_of_lt most later).trans_eq (Nat.mul_succ _ 9).symm

theorem ofDigitChars_div {text : Text} (digits : ∀ char ∈ text, isDigit char = true)
    (start : Nat) : Nat.ofDigitChars 10 text start / 10 ^ text.length = start := by
  rw [Nat.ofDigitChars_eq_ofDigitChars_zero, Nat.mul_add_div (Nat.pow_pos (by decide)),
    Nat.div_eq_of_lt (ofDigitChars_lt digits), Nat.add_zero]

theorem nat?_ofNat (number : Nat) : nat? 10 (ofNat number) = some number := by
  have nonempty : (ofNat number).isEmpty = false := by
    rw [List.isEmpty_eq_false_iff]
    exact Nat.toDigits_ne_nil
  rw [nat?, nonempty, if_neg Bool.false_ne_true,
    foldlM_digit? fun _ member => isDigit_of_mem_ofNat member]
  exact congrArg some Nat.ofDigitChars_ten_toDigits

theorem ofNat_injective {first second : Nat} (same : ofNat first = ofNat second) :
    first = second := by
  have denoted := nat?_ofNat first
  rw [same, nat?_ofNat] at denoted
  exact (Option.some.inj denoted).symm

def int? : Text → Option Int
  | '-' :: digits => (nat? 10 digits).map fun number => -(number : Int)
  | digits => (nat? 10 digits).map fun number => (number : Int)

theorem int?_append_ofNat (negative : Bool) (number : Nat) :
    int? ((if negative then ['-'] else []) ++ ofNat number) =
      some (if negative then -(number : Int) else number) := by
  cases negative with
  | true => simp [int?, nat?_ofNat]
  | false =>
      obtain ⟨first, others, parts, digit⟩ := exists_digit_ofNat number
      have noMinus : first ≠ '-' := isDigit_ne digit (by decide)
      have denoted := nat?_ofNat number
      rw [parts] at denoted
      simp [int?, parts, noMinus, denoted]

theorem int?_ofInt (value : Int) : int? (ofInt value) = some value := by
  have denoted := int?_append_ofNat (value < 0) value.natAbs
  by_cases negative : value < 0
  · have same : -(value.natAbs : Int) = value := by omega
    rw [decide_eq_true negative, if_pos rfl, if_pos rfl, same] at denoted
    rw [ofInt, if_pos negative]
    exact denoted
  · have same : (value.natAbs : Int) = value := by omega
    rw [decide_eq_false negative, if_neg (by decide), if_neg (by decide), same] at denoted
    rw [ofInt, if_neg negative]
    exact denoted

end MetaConfig.Text
