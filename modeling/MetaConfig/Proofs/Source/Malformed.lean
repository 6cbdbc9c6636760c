import MetaConfig.Proofs.Json.Faults
import MetaConfig.Proofs.Text.Cutting
import MetaConfig.Proofs.Text.Decimal
import MetaConfig.Source.Convert

/-!
What is said of JSON sources that are not well formed. The title of the report is the same for all
of them. The message tells the reason and the place as well, so it is the same for two sources
exactly when both are. The label is always in the source, and where a character begins unless the
fault splits one.
-/

namespace MetaConfig

open Text

theorem Text.append_digits_inj {front otherFront digits otherDigits : Text}
    (areDigits : ∀ char ∈ digits, isDigit char = true)
    (otherAreDigits : ∀ char ∈ otherDigits, isDigit char = true)
    (stops : ∀ char ∈ front.getLast?, isDigit char = false)
    (otherStops : ∀ char ∈ otherFront.getLast?, isDigit char = false)
    (same : front ++ digits = otherFront ++ otherDigits) :
    front = otherFront ∧ digits = otherDigits := by
  -- from behind, the digits are what is taken first
  have behind {front digits : Text} (areDigits : ∀ char ∈ digits, isDigit char = true)
      (stops : ∀ char ∈ front.getLast?, isDigit char = false) :
      (front ++ digits).reverse.takeWhile isDigit = digits.reverse := by
    rw [List.reverse_append]
    refine takeWhile_append_stop (fun char member => areDigits char (by simpa using member)) ?_
    rwa [List.head?_reverse]
  have sameDigits := (behind areDigits stops).symm.trans (same ▸ behind otherAreDigits otherStops)
  obtain rfl := List.reverse_inj.mp sameDigits
  exact ⟨List.append_cancel_right same, rfl⟩

theorem Text.append_ofNat_inj {front otherFront : Text} {number otherNumber : Nat}
    (stops : ∀ char ∈ front.getLast?, isDigit char = false)
    (otherStops : ∀ char ∈ otherFront.getLast?, isDigit char = false)
    (same : front ++ ofNat number = otherFront ++ ofNat otherNumber) :
    front = otherFront ∧ number = otherNumber := by
  have digits (number : Nat) : ∀ char ∈ ofNat number, isDigit char = true :=
    fun _ member => isDigit_of_mem_ofNat member
  obtain ⟨sameFront, sameDigits⟩ :=
    append_digits_inj (digits number) (digits otherNumber) stops otherStops same
  exact ⟨sameFront, ofNat_injective sameDigits⟩

namespace Json.Fault

/-- The text of a fault tells its reason and its place. -/
theorem print_eq_print_iff {fault otherFault : Fault} {source other : Text} :
    fault.print source = otherFault.print other ↔
      fault.reason.message = otherFault.reason.message ∧
        fault.position source = otherFault.position other := by
  have stops (front : Text) : ∀ char ∈ (front ++ " column ".toList).getLast?,
      isDigit char = false := by
    simp [isDigit]
  have lineStops (front : Text) : ∀ char ∈ (front ++ " at line ".toList).getLast?,
      isDigit char = false := by
    simp [isDigit]
  constructor
  · intro same
    obtain ⟨sameFront, sameColumn⟩ := append_ofNat_inj (stops _) (stops _) same
    have beforeColumn := List.append_cancel_right sameFront
    obtain ⟨sameFront, sameLine⟩ := append_ofNat_inj (lineStops _) (lineStops _) beforeColumn
    have sameReason := List.append_cancel_right sameFront
    refine ⟨sameReason, ?_⟩
    cases place : fault.position source
    cases otherPlace : otherFault.position other
    rw [place, otherPlace] at sameLine sameColumn
    rw [Position.mk.injEq]
    exact ⟨sameLine, sameColumn⟩
  · rintro ⟨sameReason, samePlace⟩
    rw [print, print, sameReason, samePlace]

end Json.Fault

/-! ## Two malformed sources -/

variable {framing otherFraming : Framing} {source other : Text} {problem otherProblem : Problem}

theorem cases_of_convert {format : SourceFormat}
    (failed : convert framing format source = .error problem) :
    format = .json ∧
      ((∃ fault, Json.Value.read source = .error fault ∧
          problem = Flatten.problemOf source fault) ∨
        ∃ help, problem = .unsupported .json help) := by
  unfold convert at failed
  split at failed
  · contradiction
  · cases format with
    | env => contradiction
    | yaml => contradiction
    | json =>
        refine ⟨rfl, ?_⟩
        simp only [SourceFormat.settings, Flatten.read] at failed
        split at failed
        · rename_i fault found
          exact .inl ⟨fault, found, (Except.error.inj failed).symm⟩
        · contradiction
        · exact .inr ⟨_, (Except.error.inj failed).symm⟩

theorem exists_fault_of_convert (failed : convert framing .json source = .error problem)
    (malformed : problem.code? = some "M0101".toList) :
    ∃ fault, Json.Value.read source = .error fault ∧
      problem = Flatten.problemOf source fault := by
  obtain ⟨-, notWellFormed | ⟨help, rfl⟩⟩ := cases_of_convert failed
  · exact notWellFormed
  · have differ : some "M0102".toList ≠ some "M0101".toList := by decide
    exact absurd malformed differ

theorem Flatten.title_problemOf (source : Text) (fault : Json.Fault) :
    (problemOf source fault).title = "failed to parse json input".toList := by
  rfl

/-- Of any two JSON sources that are not well formed the reports have one title, and they have one
message exactly when both fail for the same reason at the same line and column. -/
theorem message_eq_iff_of_malformed (failed : convert framing .json source = .error problem)
    (otherFailed : convert otherFraming .json other = .error otherProblem)
    (malformed : problem.code? = some "M0101".toList)
    (otherMalformed : otherProblem.code? = some "M0101".toList) :
    problem.title = otherProblem.title ∧
      ∃ fault otherFault, Json.Value.read source = .error fault ∧
        Json.Value.read other = .error otherFault ∧
        (problem.message = otherProblem.message ↔
          fault.reason.message = otherFault.reason.message ∧
            fault.position source = otherFault.position other) := by
  obtain ⟨fault, read, rfl⟩ := exists_fault_of_convert failed malformed
  obtain ⟨otherFault, otherRead, rfl⟩ := exists_fault_of_convert otherFailed otherMalformed
  refine ⟨?_, fault, otherFault, read, otherRead, ?_⟩
  · rw [Flatten.title_problemOf, Flatten.title_problemOf]
  · rw [← Json.Fault.print_eq_print_iff]
    exact List.append_right_inj _

theorem message_eq_of_unfinished_lists :
    ∃ problem otherProblem, convert .default .json "[1".toList = .error problem ∧
      convert .default .json "[2".toList = .error otherProblem ∧
      problem.title = otherProblem.title ∧ problem.message = otherProblem.message := by
  have failed : convert .default .json "[1".toList =
      .error (Flatten.problemOf "[1".toList ⟨.unfinishedList, 0⟩) := by
    rfl
  have otherFailed : convert .default .json "[2".toList =
      .error (Flatten.problemOf "[2".toList ⟨.unfinishedList, 0⟩) := by
    rfl
  obtain ⟨sameTitle, fault, otherFault, read, otherRead, message_iff⟩ :=
    message_eq_iff_of_malformed failed otherFailed rfl rfl
  obtain rfl : ⟨.unfinishedList, 0⟩ = fault := Except.error.inj read
  obtain rfl : ⟨.unfinishedList, 0⟩ = otherFault := Except.error.inj otherRead
  exact ⟨_, _, failed, otherFailed, sameTitle, message_iff.mpr ⟨rfl, by decide⟩⟩

/-- Two reports need not have one message: that of an unfinished object and that of an unfinished
list tell which of the two it was. -/
theorem message_ne_of_unfinished_brackets :
    ∃ problem otherProblem, convert .default .json ['\x7b'] = .error problem ∧
      convert .default .json ['['] = .error otherProblem ∧
      problem.code? = some "M0101".toList ∧ otherProblem.code? = some "M0101".toList ∧
      problem.title = otherProblem.title ∧ problem.message ≠ otherProblem.message := by
  have failed : convert .default .json ['\x7b'] =
      .error (Flatten.problemOf ['\x7b'] ⟨.unfinishedObject, 0⟩) := by
    rfl
  have otherFailed : convert .default .json ['['] =
      .error (Flatten.problemOf ['['] ⟨.unfinishedList, 0⟩) := by
    rfl
  have sameTitle := (Flatten.title_problemOf ['\x7b'] ⟨.unfinishedObject, 0⟩).trans
    (Flatten.title_problemOf ['['] ⟨.unfinishedList, 0⟩).symm
  refine ⟨_, _, failed, otherFailed, rfl, rfl, sameTitle, fun same => ?_⟩
  have sameCause : Json.Fault.print _ _ = Json.Fault.print _ _ := List.append_cancel_left same
  have sameReason := (Json.Fault.print_eq_print_iff.mp sameCause).1
  exact absurd sameReason (by decide)

/-! ## Labels -/

namespace Flatten

/-- The report of a JSON source that is not well formed has a label, which is in the source or at
its end. It is inside a character exactly when the fault splits one. -/
theorem label_of_malformed {format : SourceFormat} {cause : Text} {span : Option SourceSpan}
    (failed : read source = .error (.malformed format cause span)) :
    ∃ fault label, Json.Value.read source = .error fault ∧ span = some ⟨label, 0⟩ ∧
      label ≤ byteSize source ∧ (IsBoundary source label ↔ ¬ fault.Splits source) := by
  unfold read at failed
  split at failed
  · rename_i fault found
    have inside : fault.offset source ≤ byteSize source := Nat.sub_le _ _
    obtain ⟨label, isLabel, bound, boundary⟩ := offsetOf_positionAt inside
    have reported := Except.error.inj failed
    simp only [problemOf, Json.Fault.position, isLabel, Option.map_some,
      Problem.malformed.injEq] at reported
    refine ⟨fault, label, found, reported.2.2.symm, bound, ?_⟩
    exact boundary.trans (Json.isBoundary_iff_of_read found)
  · contradiction
  · cases failed

/-- The label of a string that is not closed is inside its last character, if that has several
bytes. -/
theorem label_of_unfinished_string :
    ∃ cause label, read ['"', 'é'] = .error (.malformed .json cause (some ⟨label, 0⟩)) ∧
      label < byteSize ['"', 'é'] ∧ ¬ IsBoundary ['"', 'é'] label := by
  have failed : read ['"', 'é'] =
      .error (problemOf ['"', 'é'] ⟨.unfinishedString, 0⟩) := by
    rfl
  obtain ⟨fault, label, found, span, -, boundary⟩ := label_of_malformed failed
  obtain rfl : ⟨.unfinishedString, 0⟩ = fault := Except.error.inj found
  obtain rfl : 2 = label := congrArg SourceSpan.offset (Option.some.inj span)
  have splits : Json.Fault.Splits (['"'] ++ ['é']) ⟨.unfinishedString, 0⟩ :=
    .atEnd rfl (by decide)
  exact ⟨_, 2, failed, by decide, fun isBoundary => boundary.mp isBoundary splits⟩

end Flatten

end MetaConfig
