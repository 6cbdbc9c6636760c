import Mathlib.Data.List.DropRight
import MetaConfig.Proofs.Text.Cutting
import MetaConfig.Text.Blank

/-!
Trimming takes blanks away from the ends of a text and stops at the first character that is
not blank. A text that is not blank is its indent, what trimming leaves, and its ending.
-/

namespace MetaConfig.Text

theorem trimStart_append {blanks : Text} (blank : ∀ char ∈ blanks, isBlank char = true)
    (rest : Text) : trimStart (blanks ++ rest) = trimStart rest :=
  List.dropWhile_append_of_pos blank

theorem trimStart_cons {char : Char} (solid : isBlank char = false) (rest : Text) :
    trimStart (char :: rest) = char :: rest := by
  simp [trimStart, solid]

theorem trimEnd_cons (char : Char) (rest : Text) :
    trimEnd (char :: rest) =
      if trimEnd rest = [] ∧ isBlank char = true then [] else char :: trimEnd rest := by
  simp only [trimEnd, List.reverse_cons, List.dropWhile_append, List.reverse_eq_nil_iff]
  by_cases consumed : rest.reverse.dropWhile isBlank = []
  · cases blank : isBlank char <;> simp [consumed, blank]
  · simp [consumed]

theorem trimEnd_append (first rest : Text) :
    trimEnd (first ++ rest) =
      if trimEnd rest = [] then trimEnd first else first ++ trimEnd rest := by
  induction first with
  | nil => simp [trimEnd]
  | cons char others ih =>
      rw [List.cons_append, trimEnd_cons, trimEnd_cons, ih]
      by_cases consumed : trimEnd rest = []
      · simp [consumed]
      · simp [consumed]

theorem trimEnd_of_solid {text : Text} (solid : ∀ char ∈ text, isBlank char = false) :
    trimEnd text = text := by
  induction text with
  | nil => rfl
  | cons char rest ih =>
      have head := solid char List.mem_cons_self
      rw [trimEnd_cons, ih fun other member => solid other (List.mem_cons_of_mem _ member)]
      simp [head]

theorem getLast?_trimEnd (text : Text) :
    ∀ char ∈ (trimEnd text).getLast?, isBlank char = false := by
  intro char last
  rw [trimEnd, List.getLast?_reverse] at last
  have stop := List.head?_dropWhile_not isBlank text.reverse
  rw [Option.mem_def.mp last] at stop
  exact stop

theorem trim_cons {char : Char} (solid : isBlank char = false) (rest : Text) :
    trim (char :: rest) = char :: trimEnd rest := by
  rw [trim, trimStart_cons solid, trimEnd_cons]
  simp [solid]

theorem trim_trim (text : Text) : trim (trim text) = trim text := by
  have idempotent (rest : Text) : trimEnd (trimEnd rest) = trimEnd rest :=
    List.rdropWhile_idempotent isBlank rest
  cases start : trimStart text with
  | nil =>
      have trimmed : trim text = [] := by
        rw [trim, start]
        rfl
      rw [trimmed]
      rfl
  | cons first rest =>
      have solid : isBlank first = false := by
        have stop := List.head?_dropWhile_not isBlank text
        rw [← trimStart, start] at stop
        exact stop
      have trimmed : trim text = first :: trimEnd rest := by
        rw [trim, start, trimEnd_cons]
        simp [solid]
      rw [trimmed, trim_cons solid, idempotent]

theorem trimEnd_dropLastChar {char : Char} (blank : isBlank char = true) (text : Text) :
    trimEnd (dropLastChar char text) = trimEnd text := by
  by_cases last : text.getLast? = some char
  · obtain ⟨first, rfl⟩ := List.getLast?_eq_some_iff.mp last
    simp [trimEnd, dropLastChar, blank]
  · rw [dropLastChar_of_getLast?_ne last]

theorem trim_append_singleton {first last : Char} (firstSolid : isBlank first = false)
    (lastSolid : isBlank last = false) (middle : Text) :
    trim (first :: middle ++ [last]) = first :: middle ++ [last] := by
  have ending : trimEnd [last] = [last] := trimEnd_of_solid (by simp [lastSolid])
  rw [List.cons_append, trim_cons firstSolid, trimEnd_append, ending, if_neg (by simp)]

theorem trim_concat {char : Char} (blank : isBlank char = true) (text : Text) :
    trim (text ++ [char]) = trim text := by
  have ending : trimEnd [char] = [] := by
    simp [trimEnd, blank]
  rw [trim, trim, trimStart, trimStart, List.dropWhile_append]
  split
  · rename_i consumed
    rw [List.isEmpty_iff] at consumed
    simp [consumed, blank]
  · rw [trimEnd_append, if_pos ending]

theorem trim_dropLastChar {char : Char} (blank : isBlank char = true) (text : Text) :
    trim (dropLastChar char text) = trim text := by
  by_cases last : text.getLast? = some char
  · obtain ⟨first, rfl⟩ := List.getLast?_eq_some_iff.mp last
    rw [dropLastChar, if_pos last, List.dropLast_concat, trim_concat blank]
  · rw [dropLastChar_of_getLast?_ne last]

theorem trimEnd_eq_nil_iff {text : Text} :
    trimEnd text = [] ↔ ∀ char ∈ text, isBlank char = true := by
  rw [trimEnd, List.reverse_eq_nil_iff, List.dropWhile_eq_nil_iff]
  simp only [List.mem_reverse]

theorem trim_eq_nil_of_trimEnd {text : Text} (consumed : trimEnd text = []) : trim text = [] := by
  have dropped : trimStart text = [] :=
    List.dropWhile_eq_nil_iff.mpr (trimEnd_eq_nil_iff.mp consumed)
  rw [trim, dropped]
  rfl

theorem trim_padded {before after : Text} (beforeBlank : ∀ char ∈ before, isBlank char = true)
    (afterBlank : ∀ char ∈ after, isBlank char = true) (text : Text) :
    trim (before ++ text ++ after) = trim text := by
  have consumed : trimEnd after = [] := trimEnd_eq_nil_iff.mpr afterBlank
  rw [List.append_assoc, trim, trimStart_append beforeBlank, trim, trimStart, trimStart,
    List.dropWhile_append]
  split
  · rename_i dropped
    have nothing : after.dropWhile isBlank = [] := List.dropWhile_eq_nil_iff.mpr afterBlank
    rw [nothing, List.isEmpty_iff.mp dropped]
  · rw [trimEnd_append, if_pos consumed]

def ending (text : Text) : Text := (text.reverse.takeWhile isBlank).reverse

theorem trimEnd_append_ending (text : Text) : trimEnd text ++ ending text = text := by
  rw [trimEnd, ending, ← List.reverse_append, List.takeWhile_append_dropWhile,
    List.reverse_reverse]

theorem isBlank_of_mem_ending {char : Char} {text : Text} (member : char ∈ ending text) :
    isBlank char = true :=
  List.mem_takeWhile_imp (List.mem_reverse.mp member)

theorem ending_append (first rest : Text) :
    ending (first ++ rest) = if trimEnd rest = [] then ending first ++ rest else ending rest := by
  have whole := trimEnd_append_ending (first ++ rest)
  rw [trimEnd_append] at whole
  split
  · rename_i consumed
    rw [if_pos consumed] at whole
    have parts : trimEnd first ++ (ending first ++ rest) = first ++ rest := by
      rw [← List.append_assoc, trimEnd_append_ending]
    exact List.append_cancel_left (whole.trans parts.symm)
  · rename_i kept
    rw [if_neg kept] at whole
    have parts : first ++ trimEnd rest ++ ending rest = first ++ rest := by
      rw [List.append_assoc, trimEnd_append_ending]
    exact List.append_cancel_left (whole.trans parts.symm)

theorem ending_padded {before after text : Text} (afterBlank : ∀ char ∈ after, isBlank char = true)
    (solid : trim text ≠ []) : ending (before ++ text ++ after) = ending text ++ after := by
  have consumed : trimEnd after = [] := trimEnd_eq_nil_iff.mpr afterBlank
  have kept : trimEnd text ≠ [] := fun none => solid (trim_eq_nil_of_trimEnd none)
  rw [ending_append, if_pos consumed, ending_append, if_neg kept]

theorem indent_append_trim_append_ending {text : Text} (solid : trim text ≠ []) :
    indent text ++ trim text ++ ending text = text := by
  have kept : trimEnd (trimStart text) ≠ [] := solid
  have sameEnding := ending_append (indent text) (trimStart text)
  rw [if_neg kept, indent_append_trimStart] at sameEnding
  rw [trim, sameEnding, List.append_assoc, trimEnd_append_ending, indent_append_trimStart]

theorem length_trimEnd_le (text : Text) : (trimEnd text).length ≤ text.length := by
  have shorter := (List.dropWhile_sublist (p := isBlank) (l := text.reverse)).length_le
  simpa [trimEnd] using shorter

theorem solid_of_trim_cons {first : Char} {rest : Text}
    (same : trim (first :: rest) = first :: rest) : isBlank first = false := by
  cases blank : isBlank first with
  | false => rfl
  | true =>
      have shorter := length_trimEnd_le (trimStart rest)
      have dropped := (List.dropWhile_sublist (p := isBlank) (l := rest)).length_le
      rw [trim, show first :: rest = [first] ++ rest from rfl,
        trimStart_append (by simp [blank])] at same
      have lengths := congrArg List.length same
      simp only [List.length_append, List.length_singleton, trimStart] at lengths shorter
      omega

theorem mem_of_mem_trim {char : Char} {text : Text} (member : char ∈ trim text) :
    char ∈ text := by
  have later : char ∈ trimStart text := by
    simp only [trim, trimEnd, List.mem_reverse] at member
    exact List.mem_reverse.mp (List.dropWhile_subset _ member)
  exact List.dropWhile_subset _ later

end MetaConfig.Text
