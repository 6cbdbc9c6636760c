import MetaConfig.Proofs.Json.Integer
import MetaConfig.Proofs.Json.Written
import MetaConfig.Proofs.Source.Flattening

/-!
Integers in JSON sources. Each is typed as an integer, whatever its size, but only one of 64 bits
is sure to keep its value: a longer one goes through rounded numbers, and the digits that are
written for it need not be its own. They are off by no more than one part in 2 ^ 51.
-/

namespace MetaConfig

open Text Json

/-- Integers that come through as they are: those of 64 bits, and of all others those that the
roundings do not change. -/
def Json.KeepsValue (value : Int) : Prop :=
  IsInteger value ∨
    ∃ kept dropped, LeadingDigits value.natAbs kept dropped ∧
      roundScaled kept dropped = value.natAbs

theorem Json.keepsValue_iff_of_long {value : Int} (long : ¬ IsInteger value) {kept dropped : Nat}
    (leads : LeadingDigits value.natAbs kept dropped) :
    KeepsValue value ↔ roundScaled kept dropped = value.natAbs := by
  constructor
  · rintro (fits | ⟨otherKept, otherDropped, otherLeads, same⟩)
    · exact absurd fits long
    · obtain ⟨rfl, rfl⟩ := leads.unique otherLeads
      exact same
  · exact fun same => .inr ⟨kept, dropped, leads, same⟩

namespace Scalar

structure IsNear (scalar : Scalar) (value denoted : Int) : Prop where
  typed : scalar.type = .int
  denotes : int? scalar.literal = some denoted
  exact_iff : denoted = value ↔ KeepsValue value
  near : |denoted - value| * 2 ^ 51 ≤ |value|

theorem isNear_of_isInteger {value : Int} (isInteger : IsInteger value) :
    (ofNumber (.integer value)).IsNear value value where
  typed := rfl
  denotes := int?_ofInt value
  exact_iff := iff_of_true rfl (.inl isInteger)
  near := by simp

theorem isNear_of_long {value : Int} (long : ¬ IsInteger value) {real : Binary64}
    {kept dropped : Nat} (leads : LeadingDigits value.natAbs kept dropped)
    (magnitude : real.magnitude = roundScaled kept dropped)
    (negative : real.negative = decide (value < 0)) :
    (ofNumber (.real real)).IsNear value
      (if value < 0 then -(roundScaled kept dropped : Int) else roundScaled kept dropped) := by
  have whole := Binary64.whole?_of_magnitude magnitude
  have bound : |(roundScaled kept dropped : Int) - abs value| * 2 ^ 51 ≤ abs value := by
    have near := abs_roundScaled_sub_le leads (natAbs_gt_of_long long)
    rw [Nat.cast_natAbs] at near
    exact_mod_cast near
  have written : ofNumber (.real real) =
      ⟨(if decide (value < 0) then ['-'] else []) ++ ofNat (roundScaled kept dropped), .int⟩ := by
    simp only [ofNumber, whole, negative]
  rw [written]
  refine ⟨rfl, ?_, ?_, ?_⟩
  · simpa using int?_append_ofNat (value < 0) (roundScaled kept dropped)
  · rw [keepsValue_iff_of_long long leads]
    split <;> omega
  · by_cases below : value < 0
    · have mirrored : -(roundScaled kept dropped : Int) - value =
          -(roundScaled kept dropped - |value|) := by
        rw [abs_of_neg below]
        ring
      rw [if_pos below, mirrored, abs_neg]
      exact bound
    · rw [abs_of_nonneg (not_lt.mp below)] at bound ⊢
      rw [if_neg below]
      exact bound

theorem exists_isNear_of_rereadInt? {value : Int} {number : Json.Number}
    (found : rereadInt? value = some number) : ∃ denoted, (ofNumber number).IsNear value denoted := by
  by_cases isInteger : IsInteger value
  · rw [rereadInt?_of_isInteger isInteger] at found
    obtain rfl := Option.some.inj found
    exact ⟨value, isNear_of_isInteger isInteger⟩
  · obtain ⟨real, kept, dropped, rfl, leads, magnitude, negative⟩ :=
      real_of_rereadInt? isInteger found
    exact ⟨_, isNear_of_long isInteger leads magnitude negative⟩

end Scalar

namespace Flatten

def SettingAt (found : List Setting) (places : List (Path × Value)) (path : Path)
    (setting : Setting) : Prop :=
  ∃ index : Nat, (places.map Prod.fst)[index]? = some path ∧ found[index]? = some setting

theorem exists_settingAt {found : List Setting} {places : List (Path × Value)}
    (settingsFor : List.Forall₂ IsFor found places) {path : Path} {leaf : Value}
    (listed : (path, leaf) ∈ places) :
    ∃ setting, SettingAt found places path setting ∧ IsFor setting (path, leaf) := by
  obtain ⟨index, bound, place⟩ := List.getElem_of_mem listed
  have foundBound : index < found.length := settingsFor.length_eq ▸ bound
  have isFor := settingsFor.get foundBound bound
  refine ⟨found[index], ⟨index, ?_, List.getElem?_eq_getElem foundBound⟩, ?_⟩
  · rw [List.getElem?_map, List.getElem?_eq_getElem bound, place]
    rfl
  · simpa [place] using isFor

/-- Wherever an integer is written in a JSON object, there is a setting with the key of that place,
the type of integers and a literal near to it; it denotes the integer itself exactly when that is
one of those that keep their value. -/
theorem settings_isNear {source : Text} {found : List Setting}
    (imported : SourceFormat.json.settings source = .ok found) :
    (∃ written rest, Written.Begins written source rest) ∧
      ∃ content places, Value.read source = .ok content ∧ ListsLeaves content places ∧
        List.Forall₂ IsFor found places ∧
        ∀ written rest path value after, Written.Begins written source rest →
          written.at? path = some (.scalar (ofInt value ++ after)) → EndsNumber after →
          ∃ scalar denoted, SettingAt found places path ⟨keyOf path, scalar⟩ ∧
            scalar.IsNear value denoted := by
  obtain ⟨members, read, rfl⟩ := exists_object_of_read imported
  obtain ⟨places, lists, settingsFor⟩ := exists_listsLeaves (everyObject_of_read read)
  refine ⟨Written.exists_begins_of_read read, _, places, read, lists, settingsFor, ?_⟩
  intro written rest path value after begins leads ends
  obtain ⟨leaf, stop, leafRead, leafAt⟩ := Written.agrees_of_read read begins path _ leads
  have reread := toOption_readScalar?_ofInt value ends
  rw [leafRead] at reread
  obtain ⟨number, numberRead, same⟩ := Option.map_eq_some_iff.mp reread.symm
  obtain ⟨rfl, rfl⟩ := by simpa using same
  have listed := (lists.mem_iff path (.number number)).mpr ⟨leafAt, rfl, by simp⟩
  obtain ⟨⟨key, scalar⟩, settingAt, isFor⟩ := exists_settingAt settingsFor listed
  obtain ⟨denoted, isNear⟩ := Scalar.exists_isNear_of_rereadInt? numberRead
  obtain rfl : key = keyOf path := isFor.key_eq
  obtain rfl : Scalar.ofNumber number = scalar := Option.some.inj isFor.typed
  exact ⟨_, denoted, settingAt, isNear⟩

/-- An integer that is written `18446744073709551617` loses its last digit. -/
theorem settings_isNear_of_lost_digit :
    let source := "\x7b\"n\":18446744073709551617\x7d".toList
    let scalar : Scalar := ⟨"18446744073709551616".toList, .int⟩
    SourceFormat.json.settings source = .ok [⟨['n'], scalar⟩] ∧
      Written.Begins (.object [(['n'], .scalar (ofInt 18446744073709551617 ++ ['\x7d']))]) source [] ∧
      scalar.IsNear 18446744073709551617 18446744073709551616 ∧
      ¬ KeepsValue 18446744073709551617 := by
  intro source scalar
  have imported : SourceFormat.json.settings source = .ok [⟨['n'], scalar⟩] := by
    decide +kernel
  have value : Written.Begins (.scalar (ofInt 18446744073709551617 ++ ['\x7d']))
      "18446744073709551617\x7d".toList ['\x7d'] :=
    .scalar rfl rfl
  have begins : Written.Begins
      (.object [(['n'], .scalar (ofInt 18446744073709551617 ++ ['\x7d']))]) source [] :=
    .object rfl (.member rfl rfl rfl value (.closing rfl))
  have ends : EndsNumber ['\x7d'] := by simp [EndsNumber, isDigit]
  obtain ⟨_, _, _, _, _, _, everywhere⟩ := settings_isNear imported
  obtain ⟨other, denoted, ⟨_, _, listed⟩, isNear⟩ :=
    everywhere _ _ [.member ['n']] 18446744073709551617 ['\x7d'] begins rfl ends
  obtain rfl : other = scalar :=
    congrArg Setting.scalar (List.mem_singleton.mp (List.mem_of_getElem? listed))
  have denotes : int? scalar.literal = some 18446744073709551616 := by decide +kernel
  obtain rfl : 18446744073709551616 = denoted :=
    Option.some.inj (denotes.symm.trans isNear.denotes)
  exact ⟨imported, begins, isNear, fun keeps => absurd (isNear.exact_iff.mpr keeps) (by decide)⟩

end Flatten

end MetaConfig
