import MetaConfig.Proofs.Line.Declaration

/-!
What a line is classified as. The first character that is not blank settles comments and tags,
and the grammar of declarations settles declarations: none of them is lost to a branch that is
tried before it.
-/

namespace MetaConfig.Line

open Text

theorem trim_of_spells {declaration : Declaration} {separator text : Text}
    (spells : declaration.Spells separator text) :
    ∃ char rest, Declaration.isKeyChar char = true ∧ trim text = char :: rest := by
  obtain ⟨char, others, parts⟩ := List.exists_cons_of_ne_nil spells.key.nonempty
  have keyChar : Declaration.isKeyChar char = true := spells.key.keyChars char (by simp [parts])
  have solid := Declaration.isBlank_of_isKeyChar keyChar
  have trimmed : trim text = trimEnd (char :: (others ++ ':' :: (declaration.type.keyword ++
      (separator ++ declaration.value)))) := by
    rw [spells.text_eq, parts]
    simp only [List.append_assoc, List.cons_append, List.nil_append]
    rw [trim, trimStart_append spells.indentBlank, trimStart_cons solid]
  rw [trimEnd_cons, if_neg (by simp [solid])] at trimmed
  exact ⟨char, _, keyChar, trimmed⟩

theorem classify_of_parse? {text : Text} {found : Declaration}
    (parsed : Declaration.parse? text = some found) : classify text = declaration found := by
  obtain ⟨separator, spells⟩ := (Declaration.parse?_eq_some_iff text found).mp parsed
  obtain ⟨char, rest, keyChar, trimmed⟩ := trim_of_spells spells
  have notComment : char ≠ '#' := by
    rintro rfl
    contradiction
  have notTag : char ≠ '@' := by
    rintro rfl
    contradiction
  simp only [classify, trimmed, parsed]
  split
  · rename_i same
    exact absurd (List.cons.inj same).1 notComment
  · rename_i same
    exact absurd (List.cons.inj same).1 notTag
  · rfl

theorem declaration?_classify (text : Text) :
    (classify text).declaration? = Declaration.parse? text := by
  cases parsed : Declaration.parse? text with
  | some found => rw [classify_of_parse? parsed, declaration?]
  | none =>
      simp only [classify, parsed]
      split
      · rfl
      · rfl
      · split <;> rfl

theorem print_tag_of_splitOnce {text name rest : Text}
    (cut : splitOnce ' ' (trim text) = some (name, rest)) :
    (tag name rest).print = trim text := by
  obtain ⟨whole, _⟩ := eq_append_of_splitOnce cut
  have nonempty : rest ≠ [] := by
    rintro rfl
    have ending := getLast?_trimEnd (trimStart text) ' '
    rw [← trim, whole] at ending
    exact absurd (ending (by simp)) (by decide)
  rw [whole]
  simp [print, nonempty]

theorem classify_tag (rest : Text) :
    ∃ name others, classify ('@' :: rest) = tag name others ∧
      (tag name others).print = '@' :: trimEnd rest := by
  have trimmed : trim ('@' :: rest) = '@' :: trimEnd rest := trim_cons (by decide) rest
  cases cut : splitOnce ' ' (trim ('@' :: rest)) with
  | none =>
      rw [trimmed] at cut
      exact ⟨'@' :: trimEnd rest, [], by simp [classify, trimmed, cut], by simp [print]⟩
  | some parts =>
      have printed := print_tag_of_splitOnce cut
      rw [trimmed] at cut printed
      exact ⟨parts.1, parts.2, by simp [classify, trimmed, cut], printed⟩

theorem classify_tag_of_name {name : Text} (solid : ∀ char ∈ name, isBlank char = false)
    (rest : Text) :
    classify ('@' :: name ++ ' ' :: rest) = tag ('@' :: name) (trimEnd rest) := by
  have noBlank : ' ' ∉ '@' :: name := by
    intro member
    rcases List.mem_cons.mp member with impossible | inside
    · exact absurd impossible (by decide)
    · exact absurd (solid ' ' inside) (by decide)
  rw [List.cons_append, classify, trim_cons (by decide), trimEnd_append, trimEnd_cons]
  by_cases consumed : trimEnd rest = []
  · have blank : isBlank ' ' = true := by decide
    simp [consumed, blank, trimEnd_of_solid solid, splitOnce_of_not_mem noBlank]
  · have kept : splitOnce ' ' ('@' :: name ++ ' ' :: trimEnd rest) =
        some ('@' :: name, trimEnd rest) := splitOnce_append_cons noBlank _
    rw [List.cons_append] at kept
    simp [consumed, kept]

end MetaConfig.Line
