import MetaConfig.Proofs.Source.Literal
import MetaConfig.Proofs.Text.Lowercase
import MetaConfig.Source.Convert

/-!
What the settings of a source are made of: those of a line are the two sides of its separator,
and those of a JSON value are its scalars. It follows what a key and a literal cannot hold.
-/

namespace MetaConfig

open Text

theorem Assignments.eq_of_readLine? {separator : Char} {line : Text} {setting : Setting}
    (found : readLine? separator line = some setting) :
    ∃ key value, trim line = key ++ separator :: value ∧ separator ∉ key ∧
      (trim line).head? ≠ some '#' ∧ lower (trim key) ≠ [] ∧ unquoted (trim value) ≠ [] ∧
      setting = ⟨lower (trim key), Scalar.infer (unquoted (trim value))⟩ := by
  simp only [readLine?] at found
  split at found
  · contradiction
  · rename_i noComment
    split at found
    · contradiction
    · rename_i key value cut
      obtain ⟨whole, absent⟩ := eq_append_of_splitOnce cut
      simp only [Option.ite_none_left_eq_some, Bool.or_eq_true, List.isEmpty_iff, not_or,
        Option.some.injEq] at found
      obtain ⟨⟨keyNonempty, valueNonempty⟩, rfl⟩ := found
      exact ⟨key, value, whole, absent, noComment, keyNonempty, valueNonempty, rfl⟩

theorem Assignments.mem_line_of_mem {separator : Char} {line : Text} {setting : Setting}
    (found : readLine? separator line = some setting) {char : Char} (small : char.toNat < 97)
    (member : char ∈ setting.key ∨ char ∈ setting.scalar.literal) : char ∈ line := by
  obtain ⟨key, value, whole, _, _, _, _, rfl⟩ := eq_of_readLine? found
  apply mem_of_mem_trim
  rw [whole]
  rcases member with inKey | inLiteral
  · exact List.mem_append_left _ (mem_of_mem_trim (mem_of_mem_lower small inKey))
  · have inValue := mem_of_mem_unquoted (Scalar.mem_of_mem_literal_infer small inLiteral)
    exact List.mem_append_right _ (List.mem_cons_of_mem _ (mem_of_mem_trim inValue))

theorem Assignments.newline_not_mem {separator : Char} {source : Text} {setting : Setting}
    (member : setting ∈ Assignments.read separator source) :
    '\n' ∉ setting.key ∧ '\n' ∉ setting.scalar.literal := by
  obtain ⟨line, piece, found⟩ := List.mem_filterMap.mp member
  have oneLine := separator_not_mem_of_mem_pieces piece
  constructor
  · exact fun inside => oneLine (mem_line_of_mem found (by decide) (.inl inside))
  · exact fun inside => oneLine (mem_line_of_mem found (by decide) (.inr inside))

theorem Assignments.ne_nil_of_mem {separator : Char} {source : Text} {setting : Setting}
    (member : setting ∈ Assignments.read separator source) :
    setting.key ≠ [] ∧ setting.scalar.literal ≠ [] := by
  obtain ⟨line, _, found⟩ := List.mem_filterMap.mp member
  obtain ⟨_, _, _, _, _, keyNonempty, valueNonempty, rfl⟩ := eq_of_readLine? found
  exact ⟨keyNonempty, Scalar.literal_infer_ne_nil valueNonempty⟩

namespace Flatten

mutual

theorem leaf_of_mem_settings {path : Text} {value : Json.Value} {setting : Setting}
    (member : setting ∈ settings path value) :
    ∃ leafPath leafValue, setting ∈ leaf leafPath leafValue := by
  cases value with
  | object members => exact leaf_of_mem_memberSettings (by rwa [settings] at member)
  | array items => exact leaf_of_mem_itemSettings (by rwa [settings] at member)
  | null => exact ⟨path, .null, by rwa [settings] at member⟩
  | boolean value => exact ⟨path, .boolean value, by rwa [settings] at member⟩
  | number value => exact ⟨path, .number value, by rwa [settings] at member⟩
  | string value => exact ⟨path, .string value, by rwa [settings] at member⟩

theorem leaf_of_mem_memberSettings {path : Text} {members : List (Text × Json.Value)}
    {setting : Setting} (member : setting ∈ memberSettings path members) :
    ∃ leafPath leafValue, setting ∈ leaf leafPath leafValue := by
  cases members with
  | nil => simp [memberSettings] at member
  | cons first others =>
      rw [memberSettings] at member
      rcases List.mem_append.mp member with inFirst | inOthers
      · exact leaf_of_mem_settings inFirst
      · exact leaf_of_mem_memberSettings inOthers

theorem leaf_of_mem_itemSettings {path : Text} {index : Nat} {items : List Json.Value}
    {setting : Setting} (member : setting ∈ itemSettings path index items) :
    ∃ leafPath leafValue, setting ∈ leaf leafPath leafValue := by
  cases items with
  | nil => simp [itemSettings] at member
  | cons first others =>
      rw [itemSettings] at member
      rcases List.mem_append.mp member with inFirst | inOthers
      · exact leaf_of_mem_settings inFirst
      · exact leaf_of_mem_itemSettings inOthers

end

theorem eq_of_mem_leaf {path : Text} {value : Json.Value} {setting : Setting}
    (member : setting ∈ leaf path value) :
    setting.key = path ∧ Scalar.ofJson? value = some setting.scalar ∧
      setting.scalar.literal ≠ [] := by
  unfold leaf at member
  cases typed : Scalar.ofJson? value with
  | none => simp [typed] at member
  | some scalar =>
      simp only [typed, List.isEmpty_iff] at member
      split at member
      · simp at member
      · rename_i nonempty
        obtain rfl := List.mem_singleton.mp member
        exact ⟨rfl, rfl, nonempty⟩

theorem not_lineBreak_of_mem_leaf {path : Text} {value : Json.Value} {setting : Setting}
    (member : setting ∈ leaf path value) :
    '\n' ∉ setting.scalar.literal ∧ '\r' ∉ setting.scalar.literal := by
  obtain ⟨_, typed, _⟩ := eq_of_mem_leaf member
  constructor
  · intro inside
    exact (Scalar.not_lineBreak_of_mem_literal typed inside).1 rfl
  · intro inside
    exact (Scalar.not_lineBreak_of_mem_literal typed inside).2 rfl

theorem exists_object_of_read {source : Text} {found : List Setting}
    (imported : Flatten.read source = .ok found) :
    ∃ members, Json.Value.read source = .ok (.object members) ∧
      found = settings [] (.object members) := by
  unfold Flatten.read at imported
  split at imported
  · contradiction
  · rename_i members parsed
    exact ⟨members, parsed, (Except.ok.inj imported).symm⟩
  · contradiction

end Flatten

/-! A blank source. -/

theorem Assignments.read_of_blank {separator : Char} (solid : isBlank separator = false)
    {source : Text} (blank : ∀ char ∈ source, isBlank char = true) :
    Assignments.read separator source = [] := by
  refine List.filterMap_eq_nil_iff.mpr fun line piece => ?_
  cases found : readLine? separator line with
  | none => rfl
  | some setting =>
      obtain ⟨key, value, whole, _⟩ := eq_of_readLine? found
      have inLine : separator ∈ line := mem_of_mem_trim (by simp [whole])
      have impossible := blank separator (mem_of_mem_pieces piece inLine).1
      rw [solid] at impossible
      contradiction

namespace Json

theorem readScalar?_of_blank {text : Text} (blank : ∀ char ∈ text, Text.isBlank char = true) :
    ∃ fault, readScalar? text = .error fault := by
  cases text with
  | nil => exact ⟨_, rfl⟩
  | cons char rest =>
      have charBlank := blank char List.mem_cons_self
      have apart : ∀ known ∈ ['[', '\x7b', 'n', 't', 'f', '"', '-'], char ≠ known := by
        have solid : ∀ known ∈ ['[', '\x7b', 'n', 't', 'f', '"', '-'],
            Text.isBlank known = false := by simp [Text.isBlank]
        rintro known member rfl
        rw [solid char member] at charBlank
        contradiction
      have noDigit : Text.isDigit char = false := by
        simp only [Text.isBlank, Bool.or_eq_true, Bool.and_eq_true, decide_eq_true_eq,
          beq_iff_eq] at charBlank
        rw [Bool.eq_false_iff]
        intro digit
        simp only [Text.isDigit, Bool.and_eq_true, decide_eq_true_eq] at digit
        have bounds : 48 ≤ char.toNat ∧ char.toNat ≤ 57 := digit
        omega
      simp only [List.forall_mem_cons] at apart
      exact ⟨.onNext .missingValue (char :: rest), by simp [readScalar?, noDigit, apart]⟩

theorem read_of_blank {source : Text} (blank : ∀ char ∈ source, Text.isBlank char = true) :
    ∃ fault, Value.read source = .error fault := by
  have blankRest : ∀ char ∈ skipBlanks source, Text.isBlank char = true :=
    fun char member => blank char (List.dropWhile_subset _ member)
  obtain ⟨fault, refused⟩ := readScalar?_of_blank blankRest
  refine ⟨fault, ?_⟩
  simp [Value.read, readValue, refused]
  rfl

end Json

namespace SourceFormat

theorem settings_of_blank {format : SourceFormat} {source : Text}
    (blank : isBlankText source = true) {settings : List Setting}
    (imported : format.settings source = .ok settings) : settings = [] := by
  have blankChars : ∀ char ∈ source, isBlank char = true := List.all_eq_true.mp blank
  cases format with
  | env =>
      obtain rfl := Except.ok.inj imported
      exact Assignments.read_of_blank (by decide) blankChars
  | yaml =>
      obtain rfl := Except.ok.inj imported
      exact Assignments.read_of_blank (by decide) blankChars
  | json =>
      obtain ⟨members, parsed, _⟩ := Flatten.exists_object_of_read imported
      obtain ⟨fault, refused⟩ := Json.read_of_blank blankChars
      rw [refused] at parsed
      contradiction

/-- A setting comes from a line of its source or from a scalar of the object that this is. -/
theorem cases_of_mem_settings {format : SourceFormat} {source : Text} {settings : List Setting}
    (imported : format.settings source = .ok settings) {setting : Setting}
    (member : setting ∈ settings) :
    (format ≠ json ∧ ∃ separator, setting ∈ Assignments.read separator source) ∨
      format = json ∧ ∃ path value, setting ∈ Flatten.leaf path value := by
  cases format with
  | env =>
      obtain rfl := Except.ok.inj imported
      exact .inl ⟨by decide, '=', member⟩
  | yaml =>
      obtain rfl := Except.ok.inj imported
      exact .inl ⟨by decide, ':', member⟩
  | json =>
      obtain ⟨members, _, rfl⟩ := Flatten.exists_object_of_read imported
      exact .inr ⟨rfl, Flatten.leaf_of_mem_settings member⟩

/-- A declaration's line has room for every literal: there is something to write, and it has
no line feed. -/
theorem literal_of_mem_settings {format : SourceFormat} {source : Text}
    {settings : List Setting} (imported : format.settings source = .ok settings)
    {setting : Setting} (member : setting ∈ settings) :
    setting.scalar.literal ≠ [] ∧ '\n' ∉ setting.scalar.literal := by
  rcases cases_of_mem_settings imported member with
    ⟨_, separator, inLines⟩ | ⟨_, path, value, inLeaf⟩
  · exact ⟨(Assignments.ne_nil_of_mem inLines).2, (Assignments.newline_not_mem inLines).2⟩
  · exact ⟨(Flatten.eq_of_mem_leaf inLeaf).2.2, (Flatten.not_lineBreak_of_mem_leaf inLeaf).1⟩

/-- Only a name in a JSON object can bring a line feed into a key. -/
theorem newline_not_mem_key {format : SourceFormat} (lineBased : format ≠ json) {source : Text}
    {settings : List Setting} (imported : format.settings source = .ok settings)
    {setting : Setting} (member : setting ∈ settings) : '\n' ∉ setting.key := by
  rcases cases_of_mem_settings imported member with ⟨_, separator, inLines⟩ | ⟨isJson, _⟩
  · exact (Assignments.newline_not_mem inLines).1
  · exact absurd isJson lineBased

end SourceFormat

structure Setting.FitsLine (format : SourceFormat) (setting : Setting) : Prop where
  literalNonempty : setting.scalar.literal ≠ []
  literalOneLine : '\n' ∉ setting.scalar.literal
  noReturn : format = .json → '\r' ∉ setting.scalar.literal
  keyNonempty : format ≠ .json → setting.key ≠ []
  keyOneLine : format ≠ .json → '\n' ∉ setting.key

theorem SourceFormat.settings_fitLine {format : SourceFormat} {source : Text}
    {settings : List Setting} (imported : format.settings source = .ok settings) :
    ∀ setting ∈ settings, setting.FitsLine format := by
  intro setting member
  obtain ⟨literalNonempty, literalOneLine⟩ := literal_of_mem_settings imported member
  refine ⟨literalNonempty, literalOneLine, ?_, ?_, ?_⟩
  · intro isJson
    rcases cases_of_mem_settings imported member with ⟨lineBased, _⟩ | ⟨_, path, value, inLeaf⟩
    · exact absurd isJson lineBased
    · exact (Flatten.not_lineBreak_of_mem_leaf inLeaf).2
  · intro lineBased
    rcases cases_of_mem_settings imported member with ⟨_, separator, inLines⟩ | ⟨isJson, _⟩
    · exact (Assignments.ne_nil_of_mem inLines).1
    · exact absurd isJson lineBased
  · intro lineBased
    exact newline_not_mem_key lineBased imported member

theorem SourceFormat.settings_fitLine_of_line_breaks :
    (∃ settings, json.settings
        "\x7b\"\":[\"\\r\\n\\r\\n\\n\",-1e25,\"\"]\x7d".toList = .ok settings ∧
      settings = [⟨"_0".toList, ⟨"\\n\\n\\n".toList, .string⟩⟩,
        ⟨"_1".toList, ⟨"-10000000000000000905969664".toList, .int⟩⟩] ∧
      ∀ setting ∈ settings, setting.FitsLine json) ∧
    ∃ settings, env.settings "A = 'x\ry'\r\n='z'\nB=\"\"".toList = .ok settings ∧
      settings = [⟨['a'], ⟨"x\ry".toList, .string⟩⟩] ∧
      ∀ setting ∈ settings, setting.FitsLine env := by
  have fromObject : json.settings
      "\x7b\"\":[\"\\r\\n\\r\\n\\n\",-1e25,\"\"]\x7d".toList =
        .ok [⟨"_0".toList, ⟨"\\n\\n\\n".toList, .string⟩⟩,
          ⟨"_1".toList, ⟨"-10000000000000000905969664".toList, .int⟩⟩] := by
    decide +kernel
  have fromLines : env.settings "A = 'x\ry'\r\n='z'\nB=\"\"".toList =
      .ok [⟨['a'], ⟨"x\ry".toList, .string⟩⟩] := by
    decide +kernel
  exact ⟨⟨_, fromObject, rfl, settings_fitLine fromObject⟩,
    ⟨_, fromLines, rfl, settings_fitLine fromLines⟩⟩

-- A name in an object may have no character, and then the key has none.
example : SourceFormat.json.settings "\x7b\"\":true\x7d".toList =
    .ok [⟨[], ⟨"true".toList, .bool⟩⟩] := by decide +kernel

end MetaConfig
