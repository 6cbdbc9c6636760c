import Mathlib.Data.List.Basic
import MetaConfig.Proofs.Line.Grammar
import MetaConfig.Proofs.Source.Conversion

/-!
What a converted document declares. A setting comes back from its line exactly when its key is
a word of the grammar and its literal neither ends in a carriage return nor begins with a blank
that belongs to the separator; if all do, every line of the document is known.
-/

namespace MetaConfig

open Text

def Declaration.setting (declaration : Declaration) : Setting :=
  ⟨declaration.key, ⟨declaration.value, declaration.type⟩⟩

def Setting.declaration (setting : Setting) : Declaration :=
  ⟨[], setting.key, setting.scalar.type, setting.scalar.literal,
    EnvReference.find? setting.scalar.literal⟩

/-- What makes a setting come back from a line of a document. A carriage return at the end is
lost to the line break, and blanks at the start to the separator. -/
structure Setting.Declarable (setting : Setting) : Prop where
  key : Declaration.IsKey setting.key
  oneLine : '\n' ∉ setting.scalar.literal
  ending : setting.scalar.literal.getLast? ≠ some '\r'
  settled : setting.scalar.literal.length = 1 ∨
    ∀ char ∈ setting.scalar.literal.head?, isBlank char = false

namespace Setting

theorem newline_not_mem_print_of_isKey {setting : Setting}
    (isKey : Declaration.IsKey setting.key) (literal : '\n' ∉ setting.scalar.literal) :
    '\n' ∉ setting.print :=
  (newline_not_mem_print_iff literal).mpr (isKey.not_mem (by decide))

theorem dropLastChar_print {setting : Setting} (nonempty : setting.scalar.literal ≠ []) :
    dropLastChar '\r' setting.print =
      [] ++ setting.key ++ [':'] ++ setting.scalar.type.keyword ++
        (' ' :: dropLastChar '\r' setting.scalar.literal) := by
  rw [print, dropLastChar_append _ _ nonempty]
  simp

theorem parse?_print {setting : Setting} (isKey : Declaration.IsKey setting.key)
    (nonempty : setting.scalar.literal ≠ []) :
    Declaration.parse? (dropLastChar '\r' setting.print) =
      (Declaration.valueAfterKeyword? (' ' :: dropLastChar '\r' setting.scalar.literal)).map
        fun value =>
          ⟨[], setting.key, setting.scalar.type, value, EnvReference.find? value⟩ := by
  have blank : isBlank ' ' = true := by decide
  rw [dropLastChar_print nonempty]
  exact Declaration.parse?_append (by simp) isKey _ (by simp [blank])

/-- The text of a setting is a declaration of that setting exactly when its key and its literal
are what a declaration can have. -/
theorem parse?_print_eq_some_iff (setting : Setting) :
    Declaration.parse? setting.print = some setting.declaration ↔
      Declaration.IsKey setting.key ∧ Declaration.IsValue setting.scalar.literal := by
  rw [Declaration.parse?_eq_some_iff]
  constructor
  · rintro ⟨separator, spells⟩
    exact ⟨spells.key, spells.value⟩
  · rintro ⟨isKey, isValue⟩
    have oneBlank : ∀ char ∈ [' '], isBlank char = true := List.forall_mem_singleton.mpr rfl
    refine ⟨[' '], List.forall_mem_nil _, isKey, by simp, oneBlank, isValue, rfl, ?_⟩
    simp [print, declaration]

theorem parse?_print_of_declarable {setting : Setting} (declarable : setting.Declarable)
    (nonempty : setting.scalar.literal ≠ []) :
    Declaration.parse? (dropLastChar '\r' setting.print) = some setting.declaration := by
  have ending : setting.print.getLast? ≠ some '\r' := by
    rw [print, List.getLast?_append_of_ne_nil _ nonempty]
    exact declarable.ending
  rw [dropLastChar_of_getLast?_ne ending]
  exact setting.parse?_print_eq_some_iff.mpr
    ⟨declarable.key, nonempty, declarable.oneLine, declarable.settled⟩

def reread? (setting : Setting) : Option Setting :=
  (Declaration.parse? (dropLastChar '\r' setting.print)).map Declaration.setting

theorem reread?_eq_self_iff {setting : Setting} (isKey : Declaration.IsKey setting.key)
    (nonempty : setting.scalar.literal ≠ []) :
    setting.reread? = some setting ↔ setting.Declarable := by
  constructor
  · intro same
    rw [reread?, parse?_print isKey nonempty, Option.map_map] at same
    obtain ⟨value, valued, rebuilt⟩ := Option.map_eq_some_iff.mp same
    have sameValue : value = setting.scalar.literal := congrArg (·.scalar.literal) rebuilt
    rw [sameValue] at valued
    obtain ⟨separator, cut, separatorNonempty, _, isValue⟩ :=
      (Declaration.valueAfterKeyword?_eq_some_iff _ _).mp valued
    refine ⟨isKey, isValue.oneLine, ?_, isValue.settled⟩
    -- A dropped carriage return would leave less than the literal on the line.
    intro last
    have shorter := length_dropLastChar_lt last
    have positive := List.length_pos_iff.mpr separatorNonempty
    have lengths := congrArg List.length cut
    rw [List.length_cons, List.length_append] at lengths
    omega
  · intro declarable
    rw [reread?, parse?_print_of_declarable declarable nonempty]
    rfl

/-- The text of a setting, on its own, is classified as a declaration of that setting without an
indent exactly when its key is a word of the grammar and its literal is a value that begins with
no blank, or is one. -/
theorem classify_print_eq_declaration_iff (setting : Setting) :
    Line.classify setting.print =
        .declaration ⟨[], setting.key, setting.scalar.type, setting.scalar.literal,
          EnvReference.find? setting.scalar.literal⟩ ↔
      Declaration.IsKey setting.key ∧ Declaration.IsValue setting.scalar.literal :=
  (Line.classify_eq_declaration_iff_parse? _ _).trans setting.parse?_print_eq_some_iff

-- A key can take the place of the type, and of the value's first blanks the separator.
example : Line.classify (Setting.print ⟨"a:int b".toList, ⟨['1'], .int⟩⟩) =
    .declaration ⟨[], ['a'], .int, "b:int 1".toList, none⟩ := by decide

example : Line.classify (Setting.print ⟨['a'], ⟨" b".toList, .string⟩⟩) =
    .declaration ⟨[], ['a'], .string, ['b'], none⟩ := by decide

end Setting

namespace Framing

theorem classify_heading {framing : Framing} (oneLine : framing.OneLine) (format : SourceFormat) :
    ∃ name rest, ((framing.heading format).map (dropLastChar '\r')).map Line.classify =
        [ .comment bannerRule,
          .comment ("# Auto-converted from ".toList ++ format.displayName ++
            " to .meta format".toList),
          .comment bannerRule,
          .blank,
          .tag name rest,
          .tag "@v".toList (trimEnd framing.version) ] ∧
      (Line.tag name rest).print = trim framing.environmentTag := by
  obtain ⟨tag, tagged⟩ := oneLine.tagged
  have carriageReturn : isBlank '\r' = true := by decide
  obtain ⟨name, rest, classified, printed⟩ := Line.classify_tag (dropLastChar '\r' tag)
  have environment : Line.classify (dropLastChar '\r' framing.environmentTag) =
      .tag name rest := by
    rw [tagged, dropLastChar_cons (by decide), classified]
  have version : Line.classify (dropLastChar '\r' ("@v ".toList ++ framing.version)) =
      .tag "@v".toList (trimEnd framing.version) := by
    have cut : "@v ".toList ++ framing.version = '@' :: 'v' :: ' ' :: framing.version := rfl
    rw [cut, dropLastChar_cons (by decide), dropLastChar_cons (by decide),
      dropLastChar_cons (by decide), ← trimEnd_dropLastChar carriageReturn framing.version]
    have solid : ∀ char ∈ ['v'], isBlank char = false := by simp [isBlank]
    exact Line.classify_tag_of_name solid _
  have rule : Line.classify (dropLastChar '\r' bannerRule) = .comment bannerRule := by
    decide
  have title : Line.classify (dropLastChar '\r' ("# Auto-converted from ".toList ++
      format.displayName ++ " to .meta format".toList)) =
        .comment ("# Auto-converted from ".toList ++ format.displayName ++
          " to .meta format".toList) := by
    cases format <;> decide
  have empty : Line.classify (dropLastChar '\r' []) = .blank := by decide
  refine ⟨name, rest, ?_, ?_⟩
  · simp only [heading, List.map_cons, List.map_nil, rule, title, empty, environment, version]
  · rw [printed, trimEnd_dropLastChar carriageReturn, tagged, trim_cons (by decide)]

theorem map_line_read_frame {framing : Framing} (oneLine : framing.OneLine)
    (format : SourceFormat) (settings : List Setting) :
    (Document.read (framing.frame format settings)).map NumberedLine.line =
      ((framing.heading format).map (dropLastChar '\r')).map Line.classify ++
        settings.flatMap (fun setting =>
          ((pieces '\n' setting.print).map (dropLastChar '\r')).map Line.classify) ++
        [.blank] := by
  have empty : Line.classify (dropLastChar '\r' []) = .blank := by decide
  rw [Document.map_line_read, Document.lines, pieces_frame oneLine]
  simp only [List.map_append, List.map_flatMap, List.map_cons, List.map_nil, empty]

theorem declarations_frame {framing : Framing} (oneLine : framing.OneLine)
    (format : SourceFormat) (settings : List Setting) :
    Document.declarations (framing.frame format settings) =
      settings.flatMap fun setting =>
        ((pieces '\n' setting.print).map (dropLastChar '\r')).filterMap Declaration.parse? := by
  obtain ⟨name, rest, classified, _⟩ := classify_heading oneLine format
  have noneBefore : (((framing.heading format).map (dropLastChar '\r')).map
      Line.classify).filterMap Line.declaration? = [] := by
    rw [classified]
    rfl
  have noneAfter : [Line.blank].filterMap Line.declaration? = [] := rfl
  rw [Document.declarations_eq_filterMap, map_line_read_frame oneLine, List.filterMap_append,
    List.filterMap_append, noneBefore, noneAfter, List.nil_append, List.append_nil,
    List.filterMap_flatMap]
  simp only [Document.filterMap_map_classify]

theorem map_setting_declarations_frame {framing : Framing} (oneLine : framing.OneLine)
    (format : SourceFormat) {settings : List Setting}
    (printed : ∀ setting ∈ settings, '\n' ∉ setting.print) :
    (Document.declarations (framing.frame format settings)).map Declaration.setting =
      settings.filterMap Setting.reread? := by
  have single : ∀ setting ∈ settings,
      ((pieces '\n' setting.print).map (dropLastChar '\r')).filterMap Declaration.parse? =
        (Declaration.parse? (dropLastChar '\r' setting.print)).toList := by
    intro setting member
    rw [pieces_of_not_mem (printed setting member)]
    cases parsed : Declaration.parse? (dropLastChar '\r' setting.print) <;> simp [parsed]
  rw [declarations_frame oneLine, List.flatMap_congr single, ← List.filterMap_eq_flatMap_toList,
    List.map_filterMap]
  rfl

theorem map_setting_declarations_frame_iff {framing : Framing} (oneLine : framing.OneLine)
    (format : SourceFormat) {settings : List Setting}
    (literals : ∀ setting ∈ settings,
      setting.scalar.literal ≠ [] ∧ '\n' ∉ setting.scalar.literal) :
    (Document.declarations (framing.frame format settings)).map Declaration.setting = settings ↔
      ∀ setting ∈ settings, setting.Declarable := by
  constructor
  · intro same
    -- Keys that come back from declarations are words, so every setting has one line.
    have keys : ∀ setting ∈ settings, Declaration.IsKey setting.key := by
      intro setting member
      rw [← same, declarations_frame oneLine] at member
      obtain ⟨found, inDeclarations, rfl⟩ := List.mem_map.mp member
      obtain ⟨other, _, inLines⟩ := List.mem_flatMap.mp inDeclarations
      obtain ⟨line, _, parsed⟩ := List.mem_filterMap.mp inLines
      obtain ⟨separator, spells⟩ := (Declaration.parse?_eq_some_iff line found).mp parsed
      exact spells.key
    have printed : ∀ setting ∈ settings, '\n' ∉ setting.print := fun setting member =>
      Setting.newline_not_mem_print_of_isKey (keys setting member) (literals setting member).2
    rw [map_setting_declarations_frame oneLine format printed] at same
    intro setting member
    have reread := List.filterMap_eq_map_iff_forall_eq_some.mp (same.trans (List.map_id _).symm)
    exact (Setting.reread?_eq_self_iff (keys setting member) (literals setting member).1).mp
      (reread setting member)
  · intro declarable
    have printed : ∀ setting ∈ settings, '\n' ∉ setting.print := fun setting member =>
      Setting.newline_not_mem_print_of_isKey (declarable setting member).key
        (literals setting member).2
    have reread : ∀ setting ∈ settings, setting.reread? = some (id setting) :=
      fun setting member =>
        (Setting.reread?_eq_self_iff (declarable setting member).key
          (literals setting member).1).mpr (declarable setting member)
    rw [map_setting_declarations_frame oneLine format printed,
      List.filterMap_eq_map_iff_forall_eq_some.mpr reread, List.map_id]

theorem map_line_read_frame_of_declarable {framing : Framing} (oneLine : framing.OneLine)
    (format : SourceFormat) {settings : List Setting}
    (nonempty : ∀ setting ∈ settings, setting.scalar.literal ≠ [])
    (declarable : ∀ setting ∈ settings, setting.Declarable) :
    (Document.read (framing.frame format settings)).map NumberedLine.line =
      ((framing.heading format).map (dropLastChar '\r')).map Line.classify ++
        settings.map (fun setting => .declaration setting.declaration) ++ [.blank] := by
  have single : ∀ setting ∈ settings,
      ((pieces '\n' setting.print).map (dropLastChar '\r')).map Line.classify =
        [.declaration setting.declaration] := by
    intro setting member
    have declared := declarable setting member
    have printed := Setting.newline_not_mem_print_of_isKey declared.key declared.oneLine
    have classified := Line.classify_of_parse?
      (Setting.parse?_print_of_declarable declared (nonempty setting member))
    rw [pieces_of_not_mem printed, List.map_singleton, List.map_singleton, classified]
  rw [map_line_read_frame oneLine, List.flatMap_congr single, ← List.map_eq_flatMap]

end Framing

/-- The declarations of a converted document are the settings of its source, with nothing lost,
added or changed, exactly when every setting is declarable. -/
theorem map_setting_declarations_convert_iff {format : SourceFormat} {source output : Text}
    {settings : List Setting} (imported : format.settings source = .ok settings)
    (converted : convert .default format source = .ok output) :
    (Document.declarations output).map Declaration.setting = settings ↔
      ∀ setting ∈ settings, setting.Declarable := by
  rw [convert] at converted
  split at converted
  · rename_i blank
    obtain rfl := SourceFormat.settings_of_blank blank imported
    obtain rfl := Except.ok.inj converted
    constructor
    · intro _ setting member
      simp at member
    · intro _
      decide
  · rw [imported] at converted
    obtain rfl := Except.ok.inj converted
    exact Framing.map_setting_declarations_frame_iff Framing.Built.default.oneLine format
      fun setting member => SourceFormat.literal_of_mem_settings imported member

/-- A digit in a key takes the setting out of the declarations. -/
theorem map_setting_declarations_convert_of_digit :
    ∃ output settings,
      SourceFormat.env.settings "S3_BUCKET=x".toList = .ok settings ∧
      convert .default .env "S3_BUCKET=x".toList = .ok output ∧
      settings = [⟨"s3_bucket".toList, ⟨"x".toList, .string⟩⟩] ∧
      Document.declarations output = [] ∧
      (Document.declarations output).map Declaration.setting ≠ settings := by
  have imported : SourceFormat.env.settings "S3_BUCKET=x".toList =
      .ok [⟨"s3_bucket".toList, ⟨"x".toList, .string⟩⟩] := by
    rfl
  have notBlank : isBlankText "S3_BUCKET=x".toList = false := by decide
  have converted : convert .default .env "S3_BUCKET=x".toList =
      .ok (Framing.default.frame .env [⟨"s3_bucket".toList, ⟨"x".toList, .string⟩⟩]) := by
    rw [convert, notBlank, imported]
    rfl
  refine ⟨_, _, imported, converted, rfl, by decide, ?_⟩
  intro same
  have declarable := (map_setting_declarations_convert_iff imported converted).mp same
  have key := (declarable _ List.mem_cons_self).key.keyChars '3' (by decide)
  exact absurd key (by decide)

/-- A converted document is read back line by line: the banner, the tags, and one declaration for
each setting, if all settings are declarable. -/
theorem read_convert {framing : Framing} (built : framing.Built) {format : SourceFormat}
    {source : Text} {settings : List Setting} (notBlank : isBlankText source = false)
    (imported : format.settings source = .ok settings)
    (declarable : ∀ setting ∈ settings, setting.Declarable) :
    ∃ output name rest, convert framing format source = .ok output ∧
      (Document.read output).map NumberedLine.number = List.range' 1 (settings.length + 7) ∧
      (Document.read output).map NumberedLine.line =
        [ .comment Framing.bannerRule,
          .comment ("# Auto-converted from ".toList ++ format.displayName ++
            " to .meta format".toList),
          .comment Framing.bannerRule,
          .blank,
          .tag name rest,
          .tag "@v".toList (trimEnd framing.version) ] ++
        settings.map (fun setting => .declaration setting.declaration) ++ [.blank] ∧
      (Line.tag name rest).print = trim framing.environmentTag := by
  have oneLine := built.oneLine
  obtain ⟨name, rest, heading, printed⟩ := Framing.classify_heading oneLine format
  have lines := Framing.map_line_read_frame_of_declarable oneLine format
    (fun setting member => (SourceFormat.literal_of_mem_settings imported member).1) declarable
  rw [heading] at lines
  refine ⟨framing.frame format settings, name, rest, ?_, ?_, lines, printed⟩
  · simp [convert, notBlank, imported, Except.map]
  · have count := congrArg List.length lines
    rw [Document.map_line_read, List.length_map] at count
    rw [Document.map_number_read, count]
    simp only [List.length_append, List.length_map, List.length_cons, List.length_nil]
    congr 1
    omega

theorem read_convert_of_tagged_assignments :
    ∃ output name rest,
      convert ((Framing.default.withEnvironmentTag "prod eu ".toList).withVersion "2".toList) .env
        "PORT=80\nKEY=\"a$ENV(B)\"\n".toList = .ok output ∧
      (Document.read output).map NumberedLine.number = [1, 2, 3, 4, 5, 6, 7, 8, 9] ∧
      (Document.read output).map NumberedLine.line =
        [ .comment Framing.bannerRule,
          .comment "# Auto-converted from .env to .meta format".toList,
          .comment Framing.bannerRule,
          .blank,
          .tag name rest,
          .tag "@v".toList "2".toList,
          .declaration ⟨[], "port".toList, .int, "80".toList, none⟩,
          .declaration ⟨[], "key".toList, .env, "a$ENV(B)".toList,
            some ⟨"a".toList, "B".toList, []⟩⟩,
          .blank ] ∧
      (Line.tag name rest).print = "@prod eu".toList := by
  have built : Framing.Built
      ((Framing.default.withEnvironmentTag "prod eu ".toList).withVersion "2".toList) :=
    .withVersion (.withEnvironmentTag .default (by decide)) (by decide)
  have imported : SourceFormat.env.settings "PORT=80\nKEY=\"a$ENV(B)\"\n".toList =
      .ok [⟨"port".toList, ⟨"80".toList, .int⟩⟩,
        ⟨"key".toList, ⟨"a$ENV(B)".toList, .env⟩⟩] := by
    rfl
  have port : Setting.Declarable ⟨"port".toList, ⟨"80".toList, .int⟩⟩ :=
    ⟨⟨by simp, by simp [Declaration.isKeyChar]⟩, by simp, by simp, .inr (by simp [isBlank])⟩
  have key : Setting.Declarable ⟨"key".toList, ⟨"a$ENV(B)".toList, .env⟩⟩ :=
    ⟨⟨by simp, by simp [Declaration.isKeyChar]⟩, by simp, by simp, .inr (by simp [isBlank])⟩
  exact read_convert built (by decide) imported
    (List.forall_mem_cons.mpr ⟨port, List.forall_mem_singleton.mpr key⟩)

end MetaConfig
