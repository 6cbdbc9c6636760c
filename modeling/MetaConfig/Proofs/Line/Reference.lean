import MetaConfig.Line.Classify
import MetaConfig.Proofs.Text.Trimming

/-!
The environment reference of a value. A value can hold several markers, also one inside the
argument of another; the search passes over those that are empty or not closed, and finds the
reference that has the least text before it.
-/

namespace MetaConfig.EnvReference

open Text

structure Fits (reference : EnvReference) (value : Text) : Prop where
  nonempty : reference.argument ≠ []
  closed : ')' ∉ reference.argument
  print_eq : reference.print = value

structure FitsFirst (reference : EnvReference) (value : Text) : Prop
    extends reference.Fits value where
  first : ∀ other : EnvReference, other.Fits value →
    reference.before.length ≤ other.before.length

theorem print_prepend (char : Char) (reference : EnvReference) :
    { reference with before := char :: reference.before }.print = char :: reference.print :=
  rfl

theorem not_fits_nil (reference : EnvReference) : ¬ reference.Fits [] := by
  intro fits
  have printed := fits.print_eq
  simp [print] at printed

theorem markerAtStart?_append {argument : Text} (nonempty : argument ≠ [])
    (closed : ')' ∉ argument) (after : Text) :
    markerAtStart? (marker ++ ['('] ++ argument ++ [')'] ++ after) = some (argument, after) := by
  have opened : after? (marker ++ ['(']) (marker ++ ['('] ++ argument ++ [')'] ++ after) =
      some (argument ++ ')' :: after) := by
    simpa using after?_append (marker ++ ['(']) (argument ++ ')' :: after)
  have taken : (argument ++ ')' :: after).takeWhile (· != ')') = argument :=
    takeWhile_append_stop (fun char member => by simpa using ne_of_mem_of_not_mem member closed)
      (by simp)
  rw [markerAtStart?, opened]
  simp [taken, nonempty]

theorem fits_of_markerAtStart? {text argument after : Text}
    (found : markerAtStart? text = some (argument, after)) :
    Fits ⟨[], argument, after⟩ text := by
  unfold markerAtStart? at found
  split at found
  · contradiction
  · rename_i inside opened
    dsimp only at found
    split at found
    · contradiction
    · rename_i stop others closed
      obtain ⟨nonempty, found⟩ := Option.ite_none_left_eq_some.mp found
      obtain ⟨rfl, rfl⟩ := Prod.mk.inj (Option.some.inj found)
      have cut := List.prefix_iff_eq_append.mp (List.takeWhile_prefix (l := inside) (· != ')'))
      have stops : stop = ')' := by
        have first := List.head?_dropWhile_not (· != ')') inside
        have rest := List.takeWhile_append_dropWhile (p := (· != ')')) (l := inside)
        rw [closed] at cut
        rw [List.append_cancel_left (rest.trans cut.symm)] at first
        simpa using first
      refine ⟨by simpa using nonempty, ?_, ?_⟩
      · intro member
        simpa using List.mem_takeWhile_imp member
      · calc marker ++ ['('] ++ inside.takeWhile (· != ')') ++ [')'] ++ others
          _ = marker ++ ['('] ++ inside := by
            rw [closed, stops] at cut
            simpa using cut
          _ = text := (eq_append_of_after? opened).symm

theorem fits_iff_markerAtStart? (text argument after : Text) :
    Fits ⟨[], argument, after⟩ text ↔ markerAtStart? text = some (argument, after) := by
  constructor
  · rintro ⟨nonempty, closed, rfl⟩
    exact markerAtStart?_append nonempty closed after
  · exact fits_of_markerAtStart?

/-- A reference with text before it is one of the rest of the value. -/
theorem fits_cons_iff (reference : EnvReference) (char : Char) (rest : Text) :
    Fits { reference with before := char :: reference.before } (char :: rest) ↔
      reference.Fits rest := by
  constructor
  · rintro ⟨nonempty, closed, printed⟩
    rw [print_prepend] at printed
    exact ⟨nonempty, closed, (List.cons.inj printed).2⟩
  · rintro ⟨nonempty, closed, rfl⟩
    exact ⟨nonempty, closed, rfl⟩

theorem Fits.cases {reference : EnvReference} {char : Char} {rest : Text}
    (fits : reference.Fits (char :: rest)) :
    (reference.before = [] ∧
        markerAtStart? (char :: rest) = some (reference.argument, reference.after)) ∨
      ∃ later : EnvReference, later.Fits rest ∧
        reference = { later with before := char :: later.before } := by
  obtain ⟨before, argument, after⟩ := reference
  cases before with
  | nil => exact .inl ⟨rfl, (fits_iff_markerAtStart? _ argument after).mp fits⟩
  | cons first others =>
      obtain ⟨rfl, _⟩ := List.cons.inj fits.print_eq
      exact .inr ⟨⟨others, argument, after⟩, (fits_cons_iff _ first rest).mp fits, rfl⟩

theorem fitsFirst_cons_iff {char : Char} {rest : Text}
    (noMarker : markerAtStart? (char :: rest) = none) (reference : EnvReference) :
    FitsFirst { reference with before := char :: reference.before } (char :: rest) ↔
      reference.FitsFirst rest := by
  constructor
  · rintro ⟨fits, first⟩
    refine ⟨(fits_cons_iff reference char rest).mp fits, fun other otherFits => ?_⟩
    exact Nat.le_of_succ_le_succ (first _ ((fits_cons_iff other char rest).mpr otherFits))
  · rintro ⟨fits, first⟩
    refine ⟨(fits_cons_iff reference char rest).mpr fits, fun other otherFits => ?_⟩
    rcases otherFits.cases with ⟨_, marked⟩ | ⟨later, laterFits, rfl⟩
    · rw [noMarker] at marked
      contradiction
    · exact Nat.succ_le_succ (first later laterFits)

theorem find?_eq_some_iff_fitsFirst (value : Text) (reference : EnvReference) :
    find? value = some reference ↔ reference.FitsFirst value := by
  induction value generalizing reference with
  | nil =>
      have unfit : ¬ reference.FitsFirst [] := fun fits => not_fits_nil reference fits.toFits
      simp [find?, unfit]
  | cons char rest ih =>
      cases marked : markerAtStart? (char :: rest) with
      | some parts =>
          obtain ⟨argument, after⟩ := parts
          simp only [find?, marked, Option.some.injEq]
          constructor
          · rintro rfl
            exact ⟨fits_of_markerAtStart? marked, fun _ _ => Nat.zero_le _⟩
          · rintro ⟨fits, first⟩
            have atStart := first _ (fits_of_markerAtStart? marked)
            rcases fits.cases with ⟨before, same⟩ | ⟨later, _, rfl⟩
            · obtain ⟨rfl, rfl⟩ := Prod.mk.inj (Option.some.inj (marked.symm.trans same))
              rw [← before]
            · exact absurd atStart (Nat.not_succ_le_zero _)
      | none =>
          simp only [find?, marked, Option.map_eq_some_iff, ih]
          constructor
          · rintro ⟨later, laterFirst, rfl⟩
            exact (fitsFirst_cons_iff marked later).mpr laterFirst
          · intro fitsFirst
            rcases fitsFirst.toFits.cases with ⟨_, same⟩ | ⟨later, _, rfl⟩
            · rw [marked] at same
              contradiction
            · exact ⟨later, (fitsFirst_cons_iff marked later).mp fitsFirst, rfl⟩

theorem Fits.isSome_find? {reference : EnvReference} {value : Text}
    (fits : reference.Fits value) : (find? value).isSome = true := by
  induction value generalizing reference with
  | nil => exact absurd fits (not_fits_nil reference)
  | cons char rest ih =>
      cases marked : markerAtStart? (char :: rest) with
      | some parts => simp [find?, marked]
      | none =>
          rcases fits.cases with ⟨_, same⟩ | ⟨later, laterFits, _⟩
          · rw [marked] at same
            contradiction
          · simp [find?, marked, ih laterFits]

theorem print_of_find? {value : Text} {reference : EnvReference}
    (found : find? value = some reference) : reference.print = value :=
  ((find?_eq_some_iff_fitsFirst value reference).mp found).print_eq

/-- A reference is found exactly when one fits the value, and then it is the one with the least
text before it. -/
theorem find?_finds_first (value : Text) :
    ((find? value).isSome = true ↔ ∃ reference : EnvReference, reference.Fits value) ∧
      ∀ reference, find? value = some reference ↔ reference.FitsFirst value := by
  refine ⟨⟨fun isSome => ?_, fun ⟨_, fits⟩ => fits.isSome_find?⟩, find?_eq_some_iff_fitsFirst value⟩
  obtain ⟨reference, found⟩ := Option.isSome_iff_exists.mp isSome
  exact ⟨reference, ((find?_eq_some_iff_fitsFirst value reference).mp found).toFits⟩

-- A marker that is empty is passed over, and the next one takes up the one inside it.
example : find? "$ENV()$ENV($ENV(A)B)".toList =
    some ⟨"$ENV()".toList, "$ENV(A".toList, "B)".toList⟩ := by decide

end MetaConfig.EnvReference
