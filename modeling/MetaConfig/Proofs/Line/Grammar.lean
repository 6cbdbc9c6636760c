import MetaConfig.Proofs.Line.Classification

/-!
The grammar of declarations without a word on how far each part reaches. A text can fit it in
several ways, since blanks after the keyword may be counted to the separator or to the value, and
in no other; classification finds the way with the longest separator whenever there is one.
-/

namespace MetaConfig.Declaration

open Text

structure Parts where
  indent : Text
  key : Text
  type : ValueType
  separator : Text
  value : Text

namespace Parts

structure Fit (parts : Parts) (text : Text) : Prop where
  indentBlank : ∀ char ∈ parts.indent, isBlank char = true
  key : IsKey parts.key
  separatorNonempty : parts.separator ≠ []
  separatorBlank : ∀ char ∈ parts.separator, isBlank char = true
  valueNonempty : parts.value ≠ []
  oneLine : '\n' ∉ parts.value
  text_eq : text = parts.indent ++ parts.key ++ [':'] ++ parts.type.keyword ++
    (parts.separator ++ parts.value)

structure FitLongest (parts : Parts) (text : Text) : Prop extends parts.Fit text where
  longest : ∀ other : Parts, other.Fit text → other.separator.length ≤ parts.separator.length

def declaration (parts : Parts) : Declaration :=
  ⟨parts.indent, parts.key, parts.type, parts.value, EnvReference.find? parts.value⟩

def tail (parts : Parts) : Text := parts.separator ++ parts.value

variable {parts other : Parts} {text : Text}

theorem Fit.head?_tail (fit : parts.Fit text) : ∀ char ∈ parts.tail.head?, isBlank char = true := by
  obtain ⟨first, others, cut⟩ := List.exists_cons_of_ne_nil fit.separatorNonempty
  have firstBlank := fit.separatorBlank first (by simp [cut])
  simp [tail, cut, firstBlank]

theorem Fit.indent_eq (fit : parts.Fit text) : parts.indent = Text.indent text := by
  obtain ⟨first, others, cut⟩ := List.exists_cons_of_ne_nil fit.key.nonempty
  have firstSolid : isBlank first = false :=
    isBlank_of_isKeyChar (fit.key.keyChars first (by simp [cut]))
  have taken : (parts.indent ++ (parts.key ++ (':' :: (parts.type.keyword ++
      parts.tail)))).takeWhile isBlank = parts.indent :=
    takeWhile_append_stop fit.indentBlank (by simp [cut, firstSolid])
  rw [Text.indent, fit.text_eq]
  simpa [tail] using taken.symm

/-- Each part but the last two ends where its own characters end, so only those two can vary. -/
theorem Fit.unique (fit : parts.Fit text) (otherFit : other.Fit text) :
    parts.indent = other.indent ∧ parts.key = other.key ∧ parts.type = other.type ∧
      parts.tail = other.tail := by
  have indents : parts.indent = other.indent := fit.indent_eq.trans otherFit.indent_eq.symm
  have colon : isKeyChar ':' = false := by decide
  have keyTaken {parts : Parts} (fit : parts.Fit text) :
      (parts.key ++ (':' :: (parts.type.keyword ++ parts.tail))).takeWhile isKeyChar =
        parts.key :=
    takeWhile_append_stop fit.key.keyChars (by simp [colon])
  have wordTaken {parts : Parts} (fit : parts.Fit text) :
      (parts.type.keyword ++ parts.tail).takeWhile (fun char => !isBlank char) =
        parts.type.keyword :=
    takeWhile_append_stop (fun char member => by simp [isBlank_of_mem_keyword member])
      (fun char member => by simp [fit.head?_tail char member])
  have afterIndent : parts.key ++ (':' :: (parts.type.keyword ++ parts.tail)) =
      other.key ++ (':' :: (other.type.keyword ++ other.tail)) := by
    have same := fit.text_eq.symm.trans otherFit.text_eq
    rw [indents] at same
    simpa [tail] using same
  have keys : parts.key = other.key := by
    rw [← keyTaken fit, afterIndent, keyTaken otherFit]
  have afterColon : parts.type.keyword ++ parts.tail = other.type.keyword ++ other.tail := by
    simpa [keys] using afterIndent
  have words : parts.type.keyword = other.type.keyword := by
    rw [← wordTaken fit, afterColon, wordTaken otherFit]
  have types : parts.type = other.type := by
    have read := ValueType.ofKeyword?_keyword parts.type
    rw [words, ValueType.ofKeyword?_keyword] at read
    exact (Option.some.inj read).symm
  exact ⟨indents, keys, types, by simpa [types] using afterColon⟩

end Parts

theorem exists_isValue_suffix {value : Text} (nonempty : value ≠ []) (oneLine : '\n' ∉ value) :
    ∃ blanks rest, value = blanks ++ rest ∧ (∀ char ∈ blanks, isBlank char = true) ∧
      IsValue rest := by
  have cut : value.takeWhile isBlank ++ value.dropWhile isBlank = value :=
    List.takeWhile_append_dropWhile
  have taken : ∀ char ∈ value.takeWhile isBlank, isBlank char = true :=
    fun char member => List.mem_takeWhile_imp member
  cases dropped : value.dropWhile isBlank with
  | nil =>
      have blank := List.dropWhile_eq_nil_iff.mp dropped
      refine ⟨value.dropLast, [value.getLast nonempty], ?_, ?_, by simp, ?_, .inl rfl⟩
      · exact (List.dropLast_concat_getLast nonempty).symm
      · exact fun char member => blank char ((List.dropLast_sublist value).subset member)
      · intro member
        rw [List.mem_singleton.mp member] at oneLine
        exact oneLine (List.getLast_mem nonempty)
  | cons char rest =>
      have solid : isBlank char = false := by
        simpa [dropped] using List.head?_dropWhile_not isBlank value
      rw [dropped] at cut
      refine ⟨_, _, cut.symm, taken, by simp, ?_, .inr (by simp [solid])⟩
      rw [← cut] at oneLine
      exact fun member => oneLine (List.mem_append_right _ member)

namespace Parts

variable {parts : Parts} {text : Text}

theorem Fit.giveBlanks (fit : parts.Fit text) {blanks rest : Text}
    (cut : parts.value = blanks ++ rest) (blank : ∀ char ∈ blanks, isBlank char = true)
    (isValue : IsValue rest) :
    Fit ⟨parts.indent, parts.key, parts.type, parts.separator ++ blanks, rest⟩ text := by
  refine ⟨fit.indentBlank, fit.key, by simp [fit.separatorNonempty], ?_, isValue.nonempty,
    isValue.oneLine, ?_⟩
  · intro char member
    rcases List.mem_append.mp member with inSeparator | inBlanks
    · exact fit.separatorBlank char inSeparator
    · exact blank char inBlanks
  · rw [fit.text_eq, cut]
    simp

theorem Fit.longest_of_isValue (fit : parts.Fit text) (isValue : IsValue parts.value) :
    parts.FitLongest text := by
  refine ⟨fit, fun other otherFit => ?_⟩
  by_contra longer
  -- A longer separator would take up a blank that the value begins with.
  obtain ⟨_, _, _, tails⟩ := fit.unique otherFit
  simp only [tail] at tails
  have lead : parts.separator <+: other.separator :=
    List.prefix_of_prefix_length_le ⟨parts.value, rfl⟩ ⟨other.value, tails.symm⟩ (by omega)
  obtain ⟨taken, separators⟩ := lead
  have values : parts.value = taken ++ other.value := by
    simpa [← separators] using tails
  have takenNonempty : taken ≠ [] := by
    rintro rfl
    simp [← separators] at longer
  obtain ⟨first, others, cut⟩ := List.exists_cons_of_ne_nil takenNonempty
  have firstBlank := otherFit.separatorBlank first (by simp [← separators, cut])
  have otherLength := List.length_pos_iff.mpr otherFit.valueNonempty
  rcases isValue.settled with single | solid
  · rw [values, cut, List.length_append, List.length_cons] at single
    omega
  · have firstSolid := solid first (by simp [values, cut])
    rw [firstBlank] at firstSolid
    contradiction

theorem FitLongest.isValue (fits : parts.FitLongest text) : IsValue parts.value := by
  obtain ⟨blanks, rest, cut, blank, isValue⟩ :=
    exists_isValue_suffix fits.valueNonempty fits.oneLine
  have noLonger := fits.longest _ (fits.giveBlanks cut blank isValue)
  simp only [List.length_append] at noLonger
  have none : blanks = [] := List.length_eq_zero_iff.mp (by omega)
  rwa [cut, none, List.nil_append]

theorem Fit.exists_fitLongest (fit : parts.Fit text) :
    ∃ longest : Parts, longest.FitLongest text := by
  obtain ⟨blanks, rest, cut, blank, isValue⟩ :=
    exists_isValue_suffix fit.valueNonempty fit.oneLine
  exact ⟨_, (fit.giveBlanks cut blank isValue).longest_of_isValue isValue⟩

end Parts

theorem parse?_eq_some_iff_fitLongest (text : Text) (found : Declaration) :
    parse? text = some found ↔
      ∃ parts : Parts, parts.FitLongest text ∧ found = parts.declaration := by
  rw [parse?_eq_some_iff]
  constructor
  · rintro ⟨separator, spells⟩
    have fit : Parts.Fit ⟨found.indent, found.key, found.type, separator, found.value⟩ text :=
      ⟨spells.indentBlank, spells.key, spells.separatorNonempty, spells.separatorBlank,
        spells.value.nonempty, spells.value.oneLine, spells.text_eq⟩
    refine ⟨_, fit.longest_of_isValue spells.value, ?_⟩
    simp only [Parts.declaration, ← spells.reference]
  · rintro ⟨parts, fits, rfl⟩
    exact ⟨parts.separator, fits.indentBlank, fits.key, fits.separatorNonempty,
      fits.separatorBlank, fits.isValue, rfl, fits.text_eq⟩

theorem isDeclaration_iff (text : Text) :
    isDeclaration text = true ↔ ∃ parts : Parts, parts.Fit text := by
  rw [isDeclaration, Option.isSome_iff_exists]
  constructor
  · rintro ⟨found, parsed⟩
    obtain ⟨parts, fits, _⟩ := (parse?_eq_some_iff_fitLongest text found).mp parsed
    exact ⟨parts, fits.toFit⟩
  · rintro ⟨parts, fit⟩
    obtain ⟨longest, fits⟩ := fit.exists_fitLongest
    exact ⟨_, (parse?_eq_some_iff_fitLongest text _).mpr ⟨longest, fits, rfl⟩⟩

end MetaConfig.Declaration

namespace MetaConfig.Line

open Text Declaration

theorem classify_eq_declaration_iff_parse? (text : Text) (found : Declaration) :
    classify text = declaration found ↔ parse? text = some found := by
  constructor
  · intro classified
    rw [← declaration?_classify, classified, declaration?]
  · exact classify_of_parse?

/-- A text is a declaration, for the test alone as for classification, exactly when it fits the
grammar; its parts are then those with the longest separator. -/
theorem classify_eq_declaration_iff_fit (text : Text) :
    (isDeclaration text = true ↔ ∃ found, classify text = declaration found) ∧
      ((∃ found, classify text = declaration found) ↔ ∃ parts : Parts, parts.Fit text) ∧
      ∀ found, classify text = declaration found ↔
        ∃ parts : Parts, parts.FitLongest text ∧ parts.indent = Text.indent text ∧
          found = ⟨parts.indent, parts.key, parts.type, parts.value,
            EnvReference.find? parts.value⟩ := by
  have classified : isDeclaration text = true ↔ ∃ found, classify text = declaration found := by
    simp only [isDeclaration, Option.isSome_iff_exists, classify_eq_declaration_iff_parse?]
  refine ⟨classified, classified.symm.trans (isDeclaration_iff text), fun found => ?_⟩
  rw [classify_eq_declaration_iff_parse?, parse?_eq_some_iff_fitLongest]
  constructor
  · rintro ⟨parts, fits, rfl⟩
    exact ⟨parts, fits, fits.indent_eq, rfl⟩
  · rintro ⟨parts, fits, _, rfl⟩
    exact ⟨parts, fits, rfl⟩

example : classify "\ta:env \n $ENV(B)".toList =
    declaration ⟨['\t'], ['a'], .env, "$ENV(B)".toList, some ⟨[], ['B'], []⟩⟩ := by decide

-- The last blank is left for the value, unless it is a line feed.
example : classify "a:int\n ".toList = declaration ⟨[], ['a'], .int, [' '], none⟩ := by decide

example : isDeclaration "a:int \n".toList = false := by decide

end MetaConfig.Line
