import MetaConfig.Proofs.Text.Trimming

/-!
The two ways of ending a line. A carriage return before each line feed leaves the pieces of a text
as they are but for the returns at their ends, and changes no run of characters that are neither.
-/

namespace MetaConfig.Text

def withReturns (text : Text) : Text :=
  text.flatMap fun char => if char = '\n' then ['\r', '\n'] else [char]

theorem withReturns_append (first rest : Text) :
    withReturns (first ++ rest) = withReturns first ++ withReturns rest :=
  List.flatMap_append

theorem withReturns_newline (rest : Text) :
    withReturns ('\n' :: rest) = '\r' :: '\n' :: withReturns rest := rfl

theorem withReturns_cons {char : Char} (other : char ≠ '\n') (rest : Text) :
    withReturns (char :: rest) = char :: withReturns rest := by
  simp [withReturns, other]

theorem withReturns_of_not_mem {text : Text} (oneLine : '\n' ∉ text) :
    withReturns text = text := by
  induction text with
  | nil => rfl
  | cons char rest ih =>
      simp only [List.mem_cons, not_or] at oneLine
      rw [withReturns_cons (Ne.symm oneLine.1), ih oneLine.2]

theorem withReturns_ne_cons {text : Text} {char : Char} (noReturn : char ≠ '\r')
    (other : ∀ rest, text ≠ char :: rest) (changed : Text) :
    withReturns text ≠ char :: changed := by
  intro starts
  cases text with
  | nil => cases starts
  | cons first rest =>
      by_cases newline : first = '\n'
      · subst newline
        obtain ⟨isReturn, -⟩ := List.cons.inj starts
        exact noReturn isReturn.symm
      · rw [withReturns_cons newline] at starts
        obtain ⟨rfl, -⟩ := List.cons.inj starts
        exact other rest rfl

theorem length_le_withReturns (text : Text) : text.length ≤ (withReturns text).length := by
  induction text with
  | nil => exact Nat.le_refl 0
  | cons char rest ih =>
      by_cases newline : char = '\n'
      · subst newline
        simp only [withReturns_newline, List.length_cons]
        omega
      · simp only [withReturns_cons newline, List.length_cons]
        omega

section Runs

variable {predicate : Char → Bool}

theorem takeWhile_withReturns (noReturn : predicate '\r' = false)
    (noNewline : predicate '\n' = false) (text : Text) :
    (withReturns text).takeWhile predicate = text.takeWhile predicate := by
  induction text with
  | nil => rfl
  | cons char rest ih =>
      by_cases newline : char = '\n'
      · subst newline
        simp [withReturns_newline, noReturn, noNewline]
      · simp [withReturns_cons newline, List.takeWhile_cons, ih]

theorem dropWhile_withReturns (alike : predicate '\r' = predicate '\n') (text : Text) :
    (withReturns text).dropWhile predicate = withReturns (text.dropWhile predicate) := by
  induction text with
  | nil => rfl
  | cons char rest ih =>
      by_cases newline : char = '\n'
      · subst newline
        cases dropped : predicate '\n' with
        | false => simp [withReturns_newline, alike, dropped]
        | true => simp [withReturns_newline, alike, dropped, ih]
      · cases dropped : predicate char with
        | false => simp [withReturns_cons newline, dropped]
        | true => simp [withReturns_cons newline, dropped, ih]

theorem all_withReturns (alike : predicate '\r' = predicate '\n') (text : Text) :
    (withReturns text).all predicate = text.all predicate := by
  induction text with
  | nil => rfl
  | cons char rest ih =>
      by_cases newline : char = '\n'
      · subst newline
        simp [withReturns_newline, alike, ih]
      · simp [withReturns_cons newline, ih]

end Runs

/-- Every piece but the last one gets a return at its end. -/
theorem pieces_withReturns (text : Text) :
    pieces '\n' (withReturns text) =
      (pieces '\n' text).dropLast.map (· ++ ['\r']) ++ (pieces '\n' text).getLast?.toList := by
  induction text with
  | nil => rfl
  | cons char rest ih =>
      obtain ⟨first, others, parts⟩ := List.exists_cons_of_ne_nil (pieces_ne_nil '\n' rest)
      rw [parts] at ih
      by_cases newline : char = '\n'
      · subst newline
        simp [withReturns_newline, pieces, ih, parts]
      · cases others with
        | nil => simp_all [withReturns_cons newline, pieces]
        | cons second more => simp_all [withReturns_cons newline, pieces]

theorem map_pieces_withReturns {result : Type} {use : Text → result} {text : Text}
    (same : ∀ piece ∈ pieces '\n' text, use (piece ++ ['\r']) = use piece) :
    (pieces '\n' (withReturns text)).map use = (pieces '\n' text).map use := by
  have nonempty := pieces_ne_nil '\n' text
  have returned : (pieces '\n' text).dropLast.map (use ∘ (· ++ ['\r'])) =
      (pieces '\n' text).dropLast.map use := by
    apply List.map_congr_left
    intro piece member
    exact same piece (List.dropLast_subset _ member)
  rw [pieces_withReturns, List.map_append, List.map_map, returned, ← List.map_append,
    List.getLast?_eq_some_getLast nonempty]
  exact congrArg (List.map use) (List.dropLast_append_getLast nonempty)

end MetaConfig.Text
