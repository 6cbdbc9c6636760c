import Mathlib.Tactic.SplitIfs
import MetaConfig.Json.Reader

/-!
What a reader that succeeds has read: for the readers of values, items and members, one statement
each of all that the first step can have been.
-/

namespace MetaConfig.Json

section

variable {first second : Type}

theorem toOption_bind (step : Except Fault first) (next : first → Except Fault second) :
    (step >>= next).toOption = step.toOption.bind fun value => (next value).toOption := by
  cases step <;> rfl

theorem toOption_map (write : first → second) (step : Except Fault first) :
    (step.map write).toOption = step.toOption.map write := by
  cases step <;> rfl

theorem eq_ok_of_toOption {step : Except Fault first} {value : first}
    (found : step.toOption = some value) : step = .ok value := by
  cases step with
  | error fault => contradiction
  | ok known => exact congrArg Except.ok (Option.some.inj found)

end

theorem exists_of_bind_eq_ok {first second : Type} {step : Except Fault first}
    {next : first → Except Fault second} {result : second} (found : (step >>= next) = .ok result) :
    ∃ value, step = .ok value ∧ next value = .ok result := by
  cases step with
  | error fault => cases found
  | ok value => exact ⟨value, rfl, found⟩

theorem bracket_of_readScalar? {char : Char} {others : Text}
    (found : readScalar? (char :: others) = .ok none) : char = '[' ∨ char = '\x7b' := by
  rw [readScalar?] at found
  split_ifs at found with bracket
  · exact bracket
  -- Every other branch ends with a scalar or with a fault.
  all_goals
    obtain ⟨after, -, found⟩ := exists_of_bind_eq_ok found
    cases found

variable {fuel levels : Nat} {first : Bool} {text rest : Text}

/-- A value is a scalar, or it opens a list or an object of what stands in the brackets. -/
theorem cases_of_readValue {value : Value}
    (found : readValue (fuel + 1) levels text = .ok (value, rest)) :
    readScalar? (skipBlanks text) = .ok (some (value, rest)) ∨
      ∃ inside fewer, levels = fewer + 2 ∧
        ((∃ items, skipBlanks text = '[' :: inside ∧
            readItems fuel (fewer + 1) true inside = .ok (items, rest) ∧ value = .array items) ∨
          ∃ written, skipBlanks text = '\x7b' :: inside ∧
            readMembers fuel (fewer + 1) true inside = .ok (written, rest) ∧
            value = .ofMembers written) := by
  simp only [readValue] at found
  cases scalar : readScalar? (skipBlanks text) with
  | error fault =>
      rw [scalar] at found
      cases found
  | ok read =>
      rw [scalar] at found
      cases read with
      | some known =>
          cases found
          exact .inl rfl
      | none =>
          cases starts : skipBlanks text with
          | nil =>
              rw [starts] at scalar
              cases scalar
          | cons char inside =>
              rw [starts] at scalar found
              rcases levels with _ | _ | fewer
              · cases found
              · cases found
              · refine .inr ⟨inside, fewer, rfl, ?_⟩
                rcases bracket_of_readScalar? scalar with rfl | rfl
                · obtain ⟨⟨items, after⟩, itemsRead, found⟩ := exists_of_bind_eq_ok found
                  cases found
                  exact .inl ⟨items, rfl, itemsRead, rfl⟩
                · obtain ⟨⟨written, after⟩, membersRead, found⟩ := exists_of_bind_eq_ok found
                  cases found
                  exact .inr ⟨written, rfl, membersRead, rfl⟩

theorem cases_of_readItems {items : List Value}
    (found : readItems (fuel + 1) levels first text = .ok (items, rest)) :
    (nextItem first text = .ok (false, rest) ∧ items = []) ∨
      ∃ between item after others, nextItem first text = .ok (true, between) ∧
        readValue fuel levels between = .ok (item, after) ∧
        readItems fuel levels false after = .ok (others, rest) ∧ items = item :: others := by
  rw [readItems] at found
  obtain ⟨⟨more, between⟩, next, found⟩ := exists_of_bind_eq_ok found
  cases more with
  | false =>
      cases found
      exact .inl ⟨next, rfl⟩
  | true =>
      obtain ⟨⟨item, after⟩, itemRead, found⟩ := exists_of_bind_eq_ok found
      obtain ⟨⟨others, last⟩, othersRead, found⟩ := exists_of_bind_eq_ok found
      cases found
      exact .inr ⟨between, item, after, others, next, itemRead, othersRead, rfl⟩

theorem cases_of_readMembers {members : List (Text × Value)}
    (found : readMembers (fuel + 1) levels first text = .ok (members, rest)) :
    (nextName first text = .ok (false, rest) ∧ members = []) ∨
      ∃ opened name named between value after others,
        nextName first text = .ok (true, opened) ∧ readString opened = .ok (name, named) ∧
        readColon named = .ok between ∧ readValue fuel levels between = .ok (value, after) ∧
        readMembers fuel levels false after = .ok (others, rest) ∧
        members = (name, value) :: others := by
  rw [readMembers] at found
  obtain ⟨⟨more, opened⟩, next, found⟩ := exists_of_bind_eq_ok found
  cases more with
  | false =>
      cases found
      exact .inl ⟨next, rfl⟩
  | true =>
      obtain ⟨⟨name, named⟩, nameRead, found⟩ := exists_of_bind_eq_ok found
      obtain ⟨between, colonRead, found⟩ := exists_of_bind_eq_ok found
      obtain ⟨⟨value, after⟩, valueRead, found⟩ := exists_of_bind_eq_ok found
      obtain ⟨⟨others, last⟩, othersRead, found⟩ := exists_of_bind_eq_ok found
      cases found
      exact .inr ⟨opened, name, named, between, value, after, others, next, nameRead, colonRead,
        valueRead, othersRead, rfl⟩

end MetaConfig.Json
