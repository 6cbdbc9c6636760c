import MetaConfig.Proofs.Document
import MetaConfig.Proofs.Source.Settings

/-!
The lines of a converted document. Each setting has a line of its own unless its key holds a
line feed, and only keys from JSON can hold one.
-/

namespace MetaConfig

open Text

inductive Framing.Built : Framing → Prop
  | default : Built .default
  | withEnvironmentTag {framing tag} : Built framing → '\n' ∉ tag →
      Built (framing.withEnvironmentTag tag)
  | withVersion {framing version} : Built framing → '\n' ∉ version →
      Built (framing.withVersion version)

structure Framing.OneLine (framing : Framing) : Prop where
  environmentTag : '\n' ∉ framing.environmentTag
  tagged : ∃ rest, framing.environmentTag = '@' :: rest
  version : '\n' ∉ framing.version

theorem Framing.Built.oneLine {framing : Framing} (built : framing.Built) : framing.OneLine := by
  induction built with
  | default => exact ⟨by decide, ⟨_, rfl⟩, by decide⟩
  | @withEnvironmentTag framing tag _ absent ih =>
      refine ⟨?_, ?_, ih.version⟩
      · unfold Framing.withEnvironmentTag
        split
        · exact absent
        · simp [absent]
      · unfold Framing.withEnvironmentTag
        split
        · rename_i tagged
          exact List.head?_eq_some_iff.mp tagged
        · exact ⟨tag, rfl⟩
  | withVersion _ absent ih => exact ⟨ih.environmentTag, ih.tagged, absent⟩

theorem Framing.OneLine.newline_not_mem {framing : Framing} (oneLine : framing.OneLine)
    (format : SourceFormat) : ∀ line ∈ framing.heading format, '\n' ∉ line := by
  have title : '\n' ∉ "# Auto-converted from ".toList ++ format.displayName ++
      " to .meta format".toList := by
    cases format <;> decide
  have version : '\n' ∉ "@v ".toList ++ framing.version := by
    simp [oneLine.version]
  intro line member
  simp only [Framing.heading, List.mem_cons, List.not_mem_nil, or_false] at member
  rcases member with rfl | rfl | rfl | rfl | rfl | rfl
  · decide
  · exact title
  · decide
  · simp
  · exact oneLine.environmentTag
  · exact version

theorem Setting.newline_not_mem_print_iff {setting : Setting}
    (literal : '\n' ∉ setting.scalar.literal) :
    '\n' ∉ setting.print ↔ '\n' ∉ setting.key := by
  have keyword : '\n' ∉ setting.scalar.type.keyword := by
    cases setting.scalar.type <;> decide
  simp [Setting.print, literal, keyword]

theorem Setting.count_newline_print {setting : Setting}
    (literal : '\n' ∉ setting.scalar.literal) :
    setting.print.count '\n' = setting.key.count '\n' := by
  have keyword : '\n' ∉ setting.scalar.type.keyword := by
    cases setting.scalar.type <;> decide
  simp [Setting.print, List.count_eq_zero_of_not_mem literal, List.count_eq_zero_of_not_mem keyword]

namespace Framing

theorem pieces_frame {framing : Framing} (oneLine : framing.OneLine) (format : SourceFormat)
    (settings : List Setting) :
    pieces '\n' (framing.frame format settings) =
      framing.heading format ++ settings.flatMap (fun setting => pieces '\n' setting.print) ++
        [[]] := by
  rw [frame, pieces_joinWith '\n' (by simp)]
  simp only [List.flatMap_append, List.flatMap_map,
    flatMap_pieces_of_not_mem (oneLine.newline_not_mem format)]
  rfl

theorem pieces_frame_eq_iff {framing : Framing} (oneLine : framing.OneLine)
    (format : SourceFormat) {settings : List Setting}
    (literals : ∀ setting ∈ settings, '\n' ∉ setting.scalar.literal) :
    pieces '\n' (framing.frame format settings) =
        framing.heading format ++ settings.map Setting.print ++ [[]] ↔
      ∀ setting ∈ settings, '\n' ∉ setting.key := by
  rw [frame, pieces_joinWith_eq_self_iff '\n' (by simp)]
  constructor
  · intro absent setting member
    exact (Setting.newline_not_mem_print_iff (literals setting member)).mp
      (absent setting.print (by simpa using .inr (.inl ⟨setting, member, rfl⟩)))
  · intro keys part member
    simp only [List.mem_append, List.mem_map, List.mem_singleton] at member
    rcases member with (inHeading | ⟨setting, inSettings, rfl⟩) | rfl
    · exact oneLine.newline_not_mem format part inHeading
    · exact (Setting.newline_not_mem_print_iff (literals setting inSettings)).mpr
        (keys setting inSettings)
    · simp

theorem length_pieces_frame {framing : Framing} (oneLine : framing.OneLine)
    (format : SourceFormat) {settings : List Setting}
    (literals : ∀ setting ∈ settings, '\n' ∉ setting.scalar.literal) :
    (pieces '\n' (framing.frame format settings)).length =
      settings.length + 7 + (settings.flatMap Setting.key).count '\n' := by
  have declared : (settings.flatMap fun setting => pieces '\n' setting.print).length =
      settings.length + (settings.flatMap Setting.key).count '\n' := by
    induction settings with
    | nil => rfl
    | cons first others ih =>
        have counted := Setting.count_newline_print (literals first List.mem_cons_self)
        have later := ih fun setting member => literals setting (List.mem_cons_of_mem _ member)
        rw [List.flatMap_cons, List.length_append, length_pieces, counted, later,
          List.flatMap_cons, List.count_append, List.length_cons]
        omega
  rw [pieces_frame oneLine, List.length_append, List.length_append, declared]
  simp only [heading, List.length_cons, List.length_nil]
  omega

end Framing

/-- The lines of a converted document are those of the framing and one for each setting, exactly
when no key holds a line feed; each line feed in a key makes one line more. -/
theorem pieces_convert {format : SourceFormat} {source : Text} {settings : List Setting}
    (notBlank : isBlankText source = false) (imported : format.settings source = .ok settings) :
    ∃ output, convert .default format source = .ok output ∧
      (pieces '\n' output =
          Framing.default.heading format ++ settings.map Setting.print ++ [[]] ↔
        ∀ setting ∈ settings, '\n' ∉ setting.key) ∧
      (pieces '\n' output).length =
        settings.length + 7 + (settings.flatMap Setting.key).count '\n' ∧
      (format ≠ .json → ∀ setting ∈ settings, '\n' ∉ setting.key) := by
  have literals : ∀ setting ∈ settings, '\n' ∉ setting.scalar.literal :=
    fun setting member => (SourceFormat.literal_of_mem_settings imported member).2
  have oneLine := Framing.Built.default.oneLine
  refine ⟨Framing.default.frame format settings, ?_, ?_, ?_, ?_⟩
  · simp [convert, notBlank, imported, Except.map]
  · exact Framing.pieces_frame_eq_iff oneLine format literals
  · exact Framing.length_pieces_frame oneLine format literals
  · exact fun lineBased setting member =>
      SourceFormat.newline_not_mem_key lineBased imported member

/-- A key with line feeds in it makes a declaration of its own. -/
theorem pieces_convert_of_forged_key :
    ∃ output settings,
      SourceFormat.json.settings "\x7b\"x\\nadmin:bool true\\n#\":false\x7d".toList =
        .ok settings ∧
      convert .default .json "\x7b\"x\\nadmin:bool true\\n#\":false\x7d".toList = .ok output ∧
      settings = [⟨"x\nadmin:bool true\n#".toList, ⟨"false".toList, .bool⟩⟩] ∧
      pieces '\n' output ≠
        Framing.default.heading .json ++ settings.map Setting.print ++ [[]] ∧
      (pieces '\n' output).length = 10 ∧
      "admin:bool true".toList ∈ pieces '\n' output := by
  have imported : SourceFormat.json.settings
      "\x7b\"x\\nadmin:bool true\\n#\":false\x7d".toList =
        .ok [⟨"x\nadmin:bool true\n#".toList, ⟨"false".toList, .bool⟩⟩] := by
    cbv
  obtain ⟨output, converted, separated, count, _⟩ := pieces_convert (by decide) imported
  refine ⟨output, _, imported, converted, rfl, ?_, count, ?_⟩
  · intro same
    exact separated.mp same _ List.mem_cons_self (by decide)
  · have framed := converted
    rw [convert, imported] at framed
    obtain rfl := Except.ok.inj framed
    decide

end MetaConfig
