import MetaConfig.Text.Lowercase

/-!
Lower case makes letters only: a character below the small letters is in the lower case of a
text only if it is in the text.
-/

namespace MetaConfig.Text

theorem bounds_of_mem_caseRuns : ∀ run ∈ caseRuns, 97 ≤ run.target ∧
    (run.target + (run.last - run.first) < 0xD800 ∨
      0xDFFF < run.target ∧ run.target + (run.last - run.first) < 0x110000) := by
  decide +kernel

theorem toNat_ofNat {code : Nat} (valid : code.isValidChar) : (Char.ofNat code).toNat = code := by
  rw [Char.ofNat, dif_pos valid]
  rfl

theorem lowerChar_eq_self {char : Char} (small : (lowerChar char).toNat < 97) :
    lowerChar char = char := by
  unfold lowerChar at small ⊢
  cases found : caseRuns.find? fun run => char.toNat ≤ run.last with
  | none => simp [found]
  | some run =>
      simp only [found] at small ⊢
      split at small
      · rename_i inside
        obtain ⟨large, valid⟩ := bounds_of_mem_caseRuns run (List.mem_of_find?_eq_some found)
        have within : char.toNat ≤ run.last := by simpa using List.find?_some found
        rw [toNat_ofNat (by simp only [Nat.isValidChar]; omega)] at small
        omega
      · rename_i outside
        simp [outside]

theorem mem_of_mem_lowerAfter {char : Char} (small : char.toNat < 97) {before text : Text}
    (member : char ∈ lowerAfter before text) : char ∈ text := by
  induction text generalizing before with
  | nil => simp [lowerAfter] at member
  | cons head rest ih =>
      simp only [lowerAfter, List.mem_append] at member
      rcases member with first | later
      · have self : char = lowerChar head := by
          split at first
          · split at first
            · rw [List.mem_singleton.mp first] at small
              exact absurd small (by decide)
            · rw [List.mem_singleton.mp first] at small
              exact absurd small (by decide)
          · split at first
            · rcases List.mem_cons.mp first with rfl | mark
              · exact absurd small (by decide)
              · rw [List.mem_singleton.mp mark] at small
                exact absurd small (by decide)
            · exact List.mem_singleton.mp first
        rw [self, lowerChar_eq_self (self ▸ small)]
        exact List.mem_cons_self
      · exact List.mem_cons_of_mem _ (ih later)

theorem mem_of_mem_lower {char : Char} (small : char.toNat < 97) {text : Text}
    (member : char ∈ lower text) : char ∈ text :=
  mem_of_mem_lowerAfter small member

theorem lower_ne_nil {text : Text} (nonempty : text ≠ []) : lower text ≠ [] := by
  cases text with
  | nil => exact absurd rfl nonempty
  | cons char rest =>
      rw [lower, lowerAfter]
      apply List.append_ne_nil_of_left_ne_nil
      split
      · split <;> simp
      · split <;> simp

end MetaConfig.Text
