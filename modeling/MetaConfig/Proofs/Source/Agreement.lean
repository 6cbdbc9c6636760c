import Mathlib.Data.List.Basic
import MetaConfig.Proofs.Json.Spelling
import MetaConfig.Proofs.Source.Settings

/-!
The three formats agree. Keys with quoted values give the same settings whether they are written
on lines with an equals sign, on lines with a colon, or as the members of a JSON object.
-/

namespace MetaConfig

open Text

inductive QuoteMark where
  | double
  | single
  deriving DecidableEq

def QuoteMark.char : QuoteMark → Char
  | double => '"'
  | single => '\''

theorem unquoted_quoted (quote : QuoteMark) (inner : Text) :
    unquoted (quote.char :: inner ++ [quote.char]) = inner := by
  cases quote with
  | double => simp [QuoteMark.char, unquoted, unquotedBy?]
  | single => simp [QuoteMark.char, unquoted, unquotedBy?]

structure QuotedAssignment where
  key : Text
  value : Text
  quote : QuoteMark
  deriving DecidableEq

namespace QuotedAssignment

/-- What can be written on a line of every format: the key ends at the separator, is not taken
for a comment and loses nothing when it is trimmed. -/
structure Portable (assignment : QuotedAssignment) : Prop where
  keyNonempty : assignment.key ≠ []
  keyTrimmed : trim assignment.key = assignment.key
  noEquals : '=' ∉ assignment.key
  noColon : ':' ∉ assignment.key
  keyOneLine : '\n' ∉ assignment.key
  noComment : assignment.key.head? ≠ some '#'
  valueNonempty : assignment.value ≠ []
  noLineFeed : '\n' ∉ assignment.value
  noReturn : '\r' ∉ assignment.value

def line (separator : Text) (assignment : QuotedAssignment) : Text :=
  assignment.key ++ separator ++ [assignment.quote.char] ++ assignment.value ++
    [assignment.quote.char]

def member (assignment : QuotedAssignment) : Text × Text := (assignment.key, assignment.value)

def setting (assignment : QuotedAssignment) : Setting :=
  ⟨lower assignment.key, .infer assignment.value⟩

variable {assignment : QuotedAssignment}

theorem isBlank_quote (quote : QuoteMark) : isBlank quote.char = false := by
  cases quote <;> decide

theorem newline_not_mem_line (portable : assignment.Portable) {separator : Text}
    (oneLine : '\n' ∉ separator) : '\n' ∉ assignment.line separator := by
  have quote : '\n' ≠ assignment.quote.char := by
    cases assignment.quote <;> decide
  simp [line, portable.keyOneLine, portable.noLineFeed, oneLine, quote]

theorem readLine?_line (portable : assignment.Portable) {separator : Char}
    (absent : separator ∉ assignment.key) {blanks : Text}
    (blank : ∀ char ∈ blanks, isBlank char = true) :
    Assignments.readLine? separator (assignment.line (separator :: blanks)) =
      some assignment.setting := by
  obtain ⟨first, others, cut⟩ := List.exists_cons_of_ne_nil portable.keyNonempty
  have firstSolid : isBlank first = false := by
    have same := portable.keyTrimmed
    rw [cut] at same
    exact solid_of_trim_cons same
  have quoteSolid := isBlank_quote assignment.quote
  let rest := assignment.quote.char :: assignment.value ++ [assignment.quote.char]
  have restTrimmed : trim (blanks ++ rest) = rest := by
    rw [trim, trimStart_append blank]
    exact trim_append_singleton quoteSolid quoteSolid assignment.value
  have lineCut : assignment.line (separator :: blanks) =
      assignment.key ++ separator :: (blanks ++ rest) := by
    simp [line, rest]
  have lineTrimmed : trim (assignment.line (separator :: blanks)) =
      assignment.key ++ separator :: (blanks ++ rest) := by
    have ends := trim_append_singleton firstSolid quoteSolid
      (others ++ separator :: (blanks ++ assignment.quote.char :: assignment.value))
    rw [lineCut, cut]
    simpa [rest] using ends
  have noComment : (assignment.key ++ separator :: (blanks ++ rest)).head? ≠ some '#' := by
    have other := portable.noComment
    rw [cut] at other ⊢
    simpa using other
  have keyKept := lower_ne_nil portable.keyNonempty
  simp only [Assignments.readLine?, lineTrimmed, noComment, if_false,
    splitOnce_append_cons absent, portable.keyTrimmed, restTrimmed, rest, unquoted_quoted]
  simp [keyKept, portable.valueNonempty, setting]

theorem read_lines {assignments : List QuotedAssignment}
    (portable : ∀ assignment ∈ assignments, assignment.Portable) {separator : Char}
    (absent : ∀ assignment ∈ assignments, separator ∉ assignment.key) {blanks : Text}
    (blank : ∀ char ∈ blanks, isBlank char = true) (oneLine : '\n' ∉ separator :: blanks) :
    Assignments.read separator
        (joinWith ['\n'] (assignments.map (line (separator :: blanks)))) =
      assignments.map setting := by
  cases assignments with
  | nil => rfl
  | cons first others =>
      have lines : ∀ text ∈ (first :: others).map (line (separator :: blanks)), '\n' ∉ text := by
        intro text inLines
        obtain ⟨assignment, inList, rfl⟩ := List.mem_map.mp inLines
        exact newline_not_mem_line (portable assignment inList) oneLine
      rw [Assignments.read, (pieces_joinWith_eq_self_iff '\n' (by simp)).mpr lines,
        List.filterMap_map]
      exact List.filterMap_eq_map_iff_forall_eq_some.mpr fun assignment inList =>
        readLine?_line (portable assignment inList) (absent assignment inList) blank

theorem memberSettings_members {assignments : List QuotedAssignment}
    (portable : ∀ assignment ∈ assignments, assignment.Portable) :
    Flatten.memberSettings [] (Json.stringMembers (assignments.map member)) =
      assignments.map setting := by
  induction assignments with
  | nil => rfl
  | cons first others ih =>
      have firstPortable := portable first List.mem_cons_self
      have kept := escapeLineBreaks_of_oneLine firstPortable.noLineFeed firstPortable.noReturn
      have literal := Scalar.literal_infer_ne_nil firstPortable.valueNonempty
      have later := ih fun assignment inOthers =>
        portable assignment (List.mem_cons_of_mem first inOthers)
      have firstSetting : Flatten.settings (Flatten.memberPath [] first.key)
          (.string first.value) = [first.setting] := by
        simp [Flatten.settings, Flatten.leaf, Flatten.memberPath, Scalar.ofJson?, kept, literal,
          setting]
      simp only [Json.stringMembers, List.map_cons, member, Flatten.memberSettings] at later ⊢
      rw [firstSetting, later, List.singleton_append]

theorem read_object {assignments : List QuotedAssignment}
    (portable : ∀ assignment ∈ assignments, assignment.Portable)
    (distinct : (assignments.map key).Nodup) {source : Text}
    (spells : Json.SpellsObject (assignments.map member) source) :
    Flatten.read source = .ok (assignments.map setting) := by
  have names : ((assignments.map member).map Prod.fst).Nodup := by
    simpa [member, Function.comp_def] using distinct
  rw [Flatten.read, Json.read_spelling spells names]
  simp only [Flatten.settings, memberSettings_members portable]

end QuotedAssignment

open QuotedAssignment

/-- Quoted assignments give the same settings in every format: on lines of either kind, and in
a JSON object however it is spelled, of which the printed object is one case. -/
theorem settings_agree {assignments : List QuotedAssignment}
    (portable : ∀ assignment ∈ assignments, assignment.Portable)
    (distinct : (assignments.map QuotedAssignment.key).Nodup) :
    SourceFormat.env.settings (joinWith ['\n'] (assignments.map (line ['=']))) =
        .ok (assignments.map setting) ∧
      SourceFormat.yaml.settings (joinWith ['\n'] (assignments.map (line [':', ' ']))) =
        .ok (assignments.map setting) ∧
      (∀ source, Json.SpellsObject (assignments.map member) source →
        SourceFormat.json.settings source = .ok (assignments.map setting)) ∧
      ∀ layout, Json.SpellsObject (assignments.map member)
        (Json.Value.print layout (.object (Json.stringMembers (assignments.map member)))) := by
  have blank : isBlank ' ' = true := by decide
  refine ⟨congrArg Except.ok ?_, congrArg Except.ok ?_, ?_, ?_⟩
  · exact read_lines portable (fun assignment inList => (portable assignment inList).noEquals)
      (by simp) (by decide)
  · exact read_lines portable (fun assignment inList => (portable assignment inList).noColon)
      (by simp [blank]) (by decide)
  · exact fun source spells => read_object portable distinct spells
  · exact fun layout => Json.spellsObject_print layout _

theorem settings_agree_of_awkward_values :
    SourceFormat.env.settings "İd 'x'=\"it's = : # \"\nB='\"\\n\"'".toList =
        .ok [⟨"i̇d 'x'".toList, ⟨"it's = : # ".toList, .string⟩⟩,
          ⟨"b".toList, ⟨"\"\\n\"".toList, .string⟩⟩] ∧
      SourceFormat.yaml.settings "İd 'x': \"it's = : # \"\nB: '\"\\n\"'".toList =
        .ok [⟨"i̇d 'x'".toList, ⟨"it's = : # ".toList, .string⟩⟩,
          ⟨"b".toList, ⟨"\"\\n\"".toList, .string⟩⟩] ∧
      SourceFormat.json.settings
          "\x7b\"İd 'x'\":\"it's = : # \",\"B\":\"\\\"\\\\n\\\"\"\x7d".toList =
        .ok [⟨"i̇d 'x'".toList, ⟨"it's = : # ".toList, .string⟩⟩,
          ⟨"b".toList, ⟨"\"\\n\"".toList, .string⟩⟩] := by
  have first : Portable ⟨"İd 'x'".toList, "it's = : # ".toList, .double⟩ := by
    constructor <;> decide
  have second : Portable ⟨"B".toList, "\"\\n\"".toList, .single⟩ := by
    constructor <;> decide
  obtain ⟨env, yaml, json, printed⟩ := settings_agree
    (List.forall_mem_cons.mpr ⟨first, List.forall_mem_singleton.mpr second⟩) (by decide)
  exact ⟨env, yaml, json _ (printed .compact)⟩

end MetaConfig
