import MetaConfig.Proofs.Line.Grammar
import MetaConfig.Proofs.Line.Reading

/-!
Blanks around a line. Its kind depends on the trimmed text and, where that is a key and a type
with nothing after them, on the number of blanks that follow: of two or more the last is taken for
the value. Nothing else about a line is changed by what surrounds it.
-/

namespace MetaConfig

open Text

inductive Declaration.Valueless : Text → Prop
  | mk {key} (type : ValueType) : IsKey key → Valueless (key ++ [':'] ++ type.keyword)

namespace Declaration

variable {head : Text}

theorem Valueless.solid (valueless : Valueless head) : ∀ char ∈ head, isBlank char = false := by
  obtain ⟨type, isKey⟩ := valueless
  have colon : isBlank ':' = false := by decide
  intro char member
  simp only [List.mem_append, List.mem_singleton] at member
  rcases member with (inKey | rfl) | inKeyword
  · exact isBlank_of_isKeyChar (isKey.keyChars char inKey)
  · exact colon
  · exact isBlank_of_mem_keyword inKeyword

theorem Valueless.exists_cons (valueless : Valueless head) :
    ∃ first rest, isKeyChar first = true ∧ head = first :: rest := by
  obtain ⟨type, isKey⟩ := valueless
  rename_i key
  obtain ⟨first, others, cut⟩ := List.exists_cons_of_ne_nil isKey.nonempty
  refine ⟨first, others ++ [':'] ++ type.keyword, ?_, ?_⟩
  · exact isKey.keyChars first (by simp [cut])
  · simp [cut]

theorem Valueless.ne_nil (valueless : Valueless head) : head ≠ [] := by
  obtain ⟨first, rest, -, rfl⟩ := valueless.exists_cons
  exact List.cons_ne_nil first rest

theorem Valueless.trim_append (valueless : Valueless head) {indent : Text}
    (indentBlank : ∀ char ∈ indent, isBlank char = true) (tail : Text) :
    trim (indent ++ head ++ tail) = head ++ trimEnd tail := by
  have kept := trimEnd_of_solid valueless.solid
  obtain ⟨first, rest, keyChar, rfl⟩ := valueless.exists_cons
  rw [List.append_assoc, trim, trimStart_append indentBlank, List.cons_append,
    trimStart_cons (isBlank_of_isKeyChar keyChar), ← List.cons_append, trimEnd_append]
  split
  · rename_i consumed
    rw [kept, consumed, List.append_nil]
  · rfl

theorem Valueless.ending_append (valueless : Valueless head) (indent : Text) {tail : Text}
    (tailBlank : ∀ char ∈ tail, isBlank char = true) : ending (indent ++ head ++ tail) = tail := by
  have kept := trimEnd_of_solid valueless.solid
  have headEnding : ending head = [] := by
    have whole := trimEnd_append_ending head
    rw [kept] at whole
    exact List.append_right_eq_self.mp whole
  rw [Text.ending_append, if_pos (trimEnd_eq_nil_iff.mpr tailBlank), Text.ending_append, kept,
    if_neg valueless.ne_nil, headEnding, List.nil_append]

theorem Parts.Fit.exists_valueless {parts : Parts} {text : Text} (fit : parts.Fit text) :
    ∃ head, Valueless head ∧ text = parts.indent ++ head ++ parts.tail := by
  refine ⟨_, .mk parts.type fit.key, ?_⟩
  simpa [Parts.tail] using fit.text_eq

theorem Valueless.isDeclaration_of_eq_append (valueless : Valueless head) {text value : Text}
    {blank : Char} (oneLine : '\n' ∉ text) (cut : text = Text.indent text ++ head ++ blank :: value)
    (separates : isBlank blank = true) (nonempty : value ≠ []) : isDeclaration text = true := by
  have indentBlank : ∀ char ∈ Text.indent text, isBlank char = true :=
    fun char member => List.mem_takeWhile_imp member
  have valueOneLine : '\n' ∉ value := by
    intro member
    rw [cut] at oneLine
    exact oneLine (List.mem_append_right _ (List.mem_cons_of_mem _ member))
  obtain ⟨type, isKey⟩ := valueless
  rename_i key
  refine (isDeclaration_iff text).mpr ⟨⟨Text.indent text, key, type, [blank], value⟩, ?_⟩
  exact ⟨indentBlank, isKey, by simp, by simpa using separates, nonempty, valueOneLine,
    by simpa using cut⟩

/-- What a line with a value is when it is trimmed: a blank follows the type, and then something
else, since the last character is not blank. -/
def Valued (trimmed : Text) : Prop :=
  ∃ head blank rest, Valueless head ∧ isBlank blank = true ∧ trimmed = head ++ blank :: rest

theorem Valued.ne_nil {trimmed : Text} (valued : Valued trimmed) : trimmed ≠ [] := by
  obtain ⟨head, blank, rest, -, -, rfl⟩ := valued
  simp

theorem Valueless.not_valued (valueless : Valueless head) : ¬ Valued head := by
  rintro ⟨other, blank, rest, -, separates, rfl⟩
  have solid := valueless.solid blank (by simp)
  rw [separates] at solid
  contradiction

theorem isDeclaration_of_valued {text : Text} (oneLine : '\n' ∉ text)
    (valued : Valued (trim text)) : isDeclaration text = true := by
  have cut := indent_append_trim_append_ending valued.ne_nil
  have last := getLast?_trimEnd (trimStart text)
  obtain ⟨head, blank, rest, valueless, separates, trimmed⟩ := valued
  rw [← trim, trimmed] at last
  rw [trimmed] at cut
  have whole : text = Text.indent text ++ head ++ blank :: (rest ++ ending text) := by
    simpa using cut.symm
  refine valueless.isDeclaration_of_eq_append oneLine whole separates fun empty => ?_
  have stop := last blank (by simp [(List.append_eq_nil_iff.mp empty).1])
  rw [separates] at stop
  contradiction

theorem isDeclaration_of_valueless {text : Text} (oneLine : '\n' ∉ text)
    (valueless : Valueless (trim text)) (several : 1 < (ending text).length) :
    isDeclaration text = true := by
  have cut := indent_append_trim_append_ending valueless.ne_nil
  obtain ⟨blank, others, blanks⟩ :=
    List.exists_cons_of_length_pos (Nat.lt_trans Nat.one_pos several)
  have first : blank ∈ ending text := blanks ▸ List.mem_cons_self
  have separates := isBlank_of_mem_ending first
  rw [blanks] at cut
  refine valueless.isDeclaration_of_eq_append oneLine cut.symm separates ?_
  rintro rfl
  simp [blanks] at several

theorem cases_of_isDeclaration {text : Text} (fits : isDeclaration text = true) :
    (Valueless (trim text) ∧ 1 < (ending text).length) ∨ Valued (trim text) := by
  obtain ⟨parts, fit⟩ := (isDeclaration_iff text).mp fits
  obtain ⟨head, valueless, cut⟩ := fit.exists_valueless
  -- The separator and the value are blank throughout, or trimming leaves a part of them that
  -- begins with the separator.
  have trimmed := valueless.trim_append fit.indentBlank parts.tail
  rw [← cut] at trimmed
  cases kept : trimEnd parts.tail with
  | nil =>
      rw [kept, List.append_nil] at trimmed
      refine .inl ⟨trimmed ▸ valueless, ?_⟩
      have separatorLength := List.length_pos_iff.mpr fit.separatorNonempty
      have valueLength := List.length_pos_iff.mpr fit.valueNonempty
      rw [cut, valueless.ending_append parts.indent (trimEnd_eq_nil_iff.mp kept), Parts.tail,
        List.length_append]
      omega
  | cons blank rest =>
      have starts : parts.tail.head? = some blank := by
        rw [← trimEnd_append_ending parts.tail, kept]
        rfl
      exact .inr ⟨head, blank, rest, valueless, fit.head?_tail blank starts, by rw [trimmed, kept]⟩

/-- Which lines are declarations, from their trimmed text and the blanks at their end. -/
theorem isDeclaration_iff_valued {text : Text} (oneLine : '\n' ∉ text) :
    isDeclaration text = true ↔
      (Valueless (trim text) ∧ 1 < (ending text).length) ∨ Valued (trim text) := by
  constructor
  · exact cases_of_isDeclaration
  · rintro (⟨valueless, several⟩ | valued)
    · exact isDeclaration_of_valueless oneLine valueless several
    · exact isDeclaration_of_valued oneLine valued

end Declaration

namespace Line

open Declaration

theorem Kind.ofName?_name (kind : Kind) : Kind.ofName? kind.name = some kind := by
  cases kind <;> decide

theorem Kind.name_injective : Function.Injective Kind.name := by
  intro kind another same
  have read := Kind.ofName?_name kind
  rw [same, Kind.ofName?_name] at read
  exact (Option.some.inj read).symm

theorem ne_of_isKeyChar {char other : Char} (keyChar : isKeyChar char = true)
    (noKeyChar : isKeyChar other = false) : char ≠ other := by
  rintro rfl
  rw [keyChar] at noKeyChar
  contradiction

theorem kind_classify (text : Text) :
    (classify text).kind =
      match trim text with
      | [] => .blank
      | '#' :: _ => .comment
      | '@' :: _ => .tag
      | _ => if isDeclaration text then .declaration else .other := by
  have reads := reads_classify text
  generalize classify text = line at reads
  cases reads with
  | comment trimmed => simp [trimmed, kind]
  | tag _ trimmed =>
      rename_i word rest _
      cases rest <;> simp [trimmed, kind, print]
  | declaration spells =>
      rename_i separator found
      obtain ⟨first, rest, keyChar, trimmed⟩ := trim_of_spells spells
      have parsed := (parse?_eq_some_iff text found).mpr ⟨separator, spells⟩
      have notComment : first ≠ '#' := ne_of_isKeyChar keyChar (by decide)
      have notTag : first ≠ '@' := ne_of_isKeyChar keyChar (by decide)
      simp [trimmed, kind, isDeclaration, parsed, notComment, notTag]
  | blank trimmed => simp [trimmed, kind]
  | other trimmed notComment notTag unparsed =>
      simp [trimmed, kind, isDeclaration, unparsed, notComment, notTag]

theorem kind_classify_of_isKeyChar {text rest : Text} {first : Char}
    (trimmed : trim text = first :: rest) (keyChar : isKeyChar first = true) :
    (classify text).kind = if isDeclaration text then .declaration else .other := by
  have notComment : first ≠ '#' := ne_of_isKeyChar keyChar (by decide)
  have notTag : first ≠ '@' := ne_of_isKeyChar keyChar (by decide)
  simp [kind_classify, trimmed, notComment, notTag]

theorem kind_classify_of_valueless {text : Text} (oneLine : '\n' ∉ text)
    (valueless : Valueless (trim text)) :
    (classify text).kind = if (ending text).length ≤ 1 then .other else .declaration := by
  obtain ⟨first, rest, keyChar, trimmed⟩ := valueless.exists_cons
  have fits : isDeclaration text = true ↔ 1 < (ending text).length := by
    rw [isDeclaration_iff_valued oneLine, or_iff_left valueless.not_valued,
      and_iff_right valueless]
  rw [kind_classify_of_isKeyChar trimmed keyChar]
  by_cases few : (ending text).length ≤ 1
  · rw [if_neg (by rw [fits]; omega), if_pos few]
  · rw [if_pos (by rw [fits]; omega), if_neg few]

theorem kind_classify_congr {text padded : Text} (oneLine : '\n' ∉ text)
    (paddedOneLine : '\n' ∉ padded) (sameTrimmed : trim padded = trim text)
    (notValueless : ¬ Valueless (trim text)) :
    (classify padded).kind = (classify text).kind := by
  have sameFit : isDeclaration padded = true ↔ isDeclaration text = true := by
    rw [isDeclaration_iff_valued paddedOneLine, isDeclaration_iff_valued oneLine, sameTrimmed]
    simp only [notValueless, false_and, false_or]
  rw [kind_classify, kind_classify, sameTrimmed, Bool.eq_iff_iff.mpr sameFit]

/-- Blanks around a line keep its kind, with one exception: a line without a value becomes a
declaration when the blanks at its end, which were one at most, become several. -/
theorem kind_name_classify_padded {before text after : Text}
    (beforeBlank : ∀ char ∈ before, isBlank char = true)
    (afterBlank : ∀ char ∈ after, isBlank char = true) (beforeOneLine : '\n' ∉ before)
    (oneLine : '\n' ∉ text) (afterOneLine : '\n' ∉ after) :
    ((classify (before ++ text ++ after)).kind.name = (classify text).kind.name ↔
      ¬ (Valueless (trim text) ∧ (ending text).length ≤ 1 ∧
        1 < (ending text ++ after).length)) ∧
    (Valueless (trim text) → (classify (before ++ text ++ after)).kind =
      if (ending text ++ after).length ≤ 1 then .other else .declaration) := by
  have sameTrimmed := trim_padded beforeBlank afterBlank text
  have paddedOneLine : '\n' ∉ before ++ text ++ after := by
    simp [beforeOneLine, oneLine, afterOneLine]
  have padded (valueless : Valueless (trim text)) :
      (classify (before ++ text ++ after)).kind =
        if (ending text ++ after).length ≤ 1 then .other else .declaration := by
    have kept := kind_classify_of_valueless paddedOneLine (sameTrimmed ▸ valueless)
    rwa [ending_padded afterBlank valueless.ne_nil] at kept
  refine ⟨?_, padded⟩
  rw [Kind.name_injective.eq_iff]
  by_cases valueless : Valueless (trim text)
  · have longer : (ending text).length ≤ (ending text ++ after).length := by simp
    rw [padded valueless, kind_classify_of_valueless oneLine valueless]
    simp only [valueless, true_and]
    split_ifs with fewAfter few few
    · exact iff_of_true rfl (by omega)
    · omega
    · exact iff_of_false (by decide) (by omega)
    · exact iff_of_true rfl (by omega)
  · have same := kind_classify_congr oneLine paddedOneLine sameTrimmed valueless
    exact iff_of_true same fun bare => valueless bare.1

/-- One blank after a type leaves it without a value, and two give it the second one. -/
theorem kind_name_classify_padded_of_missing_value :
    (classify "port:int ".toList).kind.name = (classify "port:int".toList).kind.name ∧
      (classify "port:int  ".toList).kind.name ≠ (classify "port:int".toList).kind.name ∧
      (classify "port:int  ".toList).kind = .declaration := by
  have keyChars : "port".toList.all isKeyChar = true := by decide
  have key : IsKey "port".toList := ⟨by decide, List.all_eq_true.mp keyChars⟩
  have valueless : Valueless (trim "port:int".toList) := .mk .int key
  have blanks (count : Nat) : (∀ char ∈ List.replicate count ' ', isBlank char = true) ∧
      '\n' ∉ List.replicate count ' ' := by
    constructor
    · intro char member
      rw [List.eq_of_mem_replicate member]
      decide
    · intro member
      exact absurd (List.eq_of_mem_replicate member) (by decide)
  have padded (count : Nat) := @kind_name_classify_padded [] "port:int".toList
    (List.replicate count ' ') (by simp) (blanks count).1 (by simp) (by decide) (blanks count).2
  have few : ¬ 1 < (ending "port:int".toList ++ List.replicate 1 ' ').length := by decide
  refine ⟨(padded 1).1.mpr fun lacking => few lacking.2.2, ?_, (padded 2).2 valueless⟩
  exact fun same => (padded 2).1.mp same ⟨valueless, by decide, by decide⟩

/-- A line without a value does not stay what it is whatever blanks follow it. -/
theorem kind_name_ne_of_two_blanks :
    (∀ char ∈ "  ".toList, isBlank char = true) ∧ '\n' ∉ "  ".toList ∧
      '\n' ∉ "port:int".toList ∧ (classify "port:int".toList).kind = .other ∧
      (classify ("port:int".toList ++ "  ".toList)).kind.name ≠
        (classify "port:int".toList).kind.name := by
  have blanks : "  ".toList.all isBlank = true := by decide
  have lacking : (classify "port:int".toList).kind = .other := by rfl
  have declared : (classify ("port:int".toList ++ "  ".toList)).kind = .declaration := by rfl
  refine ⟨List.all_eq_true.mp blanks, by decide, by decide, lacking, ?_⟩
  rw [lacking, declared]
  decide

end Line

end MetaConfig
