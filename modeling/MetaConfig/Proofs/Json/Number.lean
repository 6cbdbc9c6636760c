import MetaConfig.Json.Lexeme
import MetaConfig.Proofs.Binary64.Rounding

/-!
The numbers that are read from JSON are numbers as they are stored in 64 bits.
-/

namespace MetaConfig.Json

open Text

theorem powerOfTen_nonzero {power : Nat} (small : power ≤ 308) :
    (powerOfTen power).significand ≠ 0 := by
  have all : ∀ power ∈ List.range 309, (powerOfTen power).significand ≠ 0 := by decide +kernel
  exact all power (List.mem_range.mpr (Nat.lt_succ_of_le small))

theorem proper_of_timesPowerOfTen? {number result : Binary64} {power : Int} {steps : Nat}
    (proper : number.Proper) (scaled : timesPowerOfTen? number power steps = some result) :
    result.Proper := by
  induction steps generalizing number power with
  | zero =>
      obtain rfl := Option.some.inj scaled
      exact proper
  | succ steps ih =>
      simp only [timesPowerOfTen?] at scaled
      split at scaled
      · rename_i small
        split at scaled
        · exact Binary64.proper_of_mul? scaled
        · exact Binary64.proper_of_div? (powerOfTen_nonzero small) scaled
      · split at scaled
        · obtain rfl := Option.some.inj scaled
          exact proper
        · split at scaled
          · contradiction
          · obtain ⟨smaller, quotient, later⟩ := Option.bind_eq_some_iff.mp scaled
            exact ih (Binary64.proper_of_div? (powerOfTen_nonzero le_rfl) quotient) later

theorem proper_of_readReal {negative : Bool} {significand : Nat} {exponent : Int}
    {rest after : Text} {value : Binary64}
    (found : readReal negative significand exponent rest = .ok (.real value, after)) :
    value.Proper := by
  unfold readReal at found
  split at found
  · rename_i number given
    obtain ⟨rounded, start, scaled⟩ := Option.bind_eq_some_iff.mp given
    simp only [Except.ok.injEq, Prod.mk.injEq, Number.real.injEq] at found
    obtain ⟨rfl, _⟩ := found
    exact proper_of_timesPowerOfTen? (Binary64.proper_of_ofNat? start) scaled
  · contradiction

theorem proper_of_readExponent {negative : Bool} {significand : Nat} {scale : Int}
    {text after : Text} {value : Binary64}
    (found : readExponent negative significand scale text = .ok (.real value, after)) :
    value.Proper := by
  simp only [readExponent] at found
  split at found
  · contradiction
  · split at found
    · contradiction
    · split at found
      · exact proper_of_readReal found
      · rcases ite_eq_iff.mp found with ⟨_, failed⟩ | ⟨_, same⟩
        · contradiction
        · simp only [Except.ok.injEq, Prod.mk.injEq, Number.real.injEq] at same
          obtain ⟨rfl, _⟩ := same
          exact Binary64.proper_zero negative

theorem proper_of_readFraction {negative : Bool} {significand : Nat} {scale : Int}
    {text after : Text} {value : Binary64}
    (found : readFraction negative significand scale text = .ok (.real value, after)) :
    value.Proper := by
  simp only [readFraction] at found
  split at found
  · contradiction
  · split at found
    · exact proper_of_readExponent found
    · exact proper_of_readExponent found
    · exact proper_of_readReal found

theorem proper_of_readAfterWhole {negative : Bool} {significand unread : Nat}
    {rest after : Text} {value : Binary64}
    (found : readAfterWhole negative significand unread rest = .ok (.real value, after)) :
    value.Proper := by
  unfold readAfterWhole at found
  split at found
  · exact proper_of_readFraction found
  · exact proper_of_readExponent found
  · exact proper_of_readExponent found
  · split at found
    · simp at found
    · exact proper_of_readReal found

theorem proper_of_readNumber {negative : Bool} {text after : Text} {value : Binary64}
    (found : readNumber negative text = .ok (.real value, after)) : value.Proper := by
  unfold readNumber at found
  split at found
  · contradiction
  · split at found
    · split at found
      · contradiction
      · exact proper_of_readAfterWhole found
    · exact proper_of_readAfterWhole found
  · split at found
    · exact proper_of_readAfterWhole found
    · contradiction

end MetaConfig.Json
