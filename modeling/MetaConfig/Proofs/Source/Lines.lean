import MetaConfig.Proofs.Text.Trimming
import MetaConfig.Source.Convert

/-!
Sources that are read line by line. Each line gives its own settings, whatever the other lines
hold and whatever ends them, so a source of several parts is read as the parts are.
-/

namespace MetaConfig

open Text

/-- The lines that line feeds end: a return before a line feed belongs to the end of the line, and
what follows the last line feed is a line only when there is something. The pieces between the
line feeds are given. -/
def Text.endedLines : List Text → List Text
  | [] => []
  | [last] => if last.isEmpty then [] else [last]
  | first :: second :: others => dropLastChar '\r' first :: endedLines (second :: others)

namespace Assignments

theorem readLine?_nil (separator : Char) : readLine? separator [] = none := rfl

theorem readLine?_dropLastChar (separator : Char) (line : Text) :
    readLine? separator (dropLastChar '\r' line) = readLine? separator line := by
  have blank : isBlank '\r' = true := by decide
  simp only [readLine?, trim_dropLastChar blank]

theorem filterMap_readLine?_endedLines (separator : Char) (parts : List Text) :
    (endedLines parts).filterMap (readLine? separator) =
      parts.filterMap (readLine? separator) := by
  fun_induction endedLines parts with
  | case1 => rfl
  | case2 last empty =>
      obtain rfl := List.isEmpty_iff.mp empty
      simp [readLine?_nil]
  | case3 last nonempty => rfl
  | case4 first second others ih =>
      rw [List.filterMap_cons, List.filterMap_cons, ih, readLine?_dropLastChar]

/-- How the lines end, and whether the last one does, makes no difference. -/
theorem read_eq_filterMap_endedLines (separator : Char) (source : Text) :
    read separator source =
      (endedLines (pieces '\n' source)).filterMap (readLine? separator) :=
  (filterMap_readLine?_endedLines separator _).symm

theorem read_joinWith (separator : Char) {parts : List Text} (nonempty : parts ≠ []) :
    read separator (joinWith ['\n'] parts) = parts.flatMap (read separator) := by
  rw [read, pieces_joinWith '\n' nonempty, List.filterMap_flatMap]
  rfl

/-- A line without a setting leaves the lines around it as they are. -/
theorem read_around (separator : Char) (before after : Text) {line : Text}
    (oneLine : '\n' ∉ line) (skipped : readLine? separator line = none) :
    read separator (joinWith ['\n'] [before, line, after]) =
      read separator before ++ read separator after := by
  have nothing : read separator line = [] := by
    simp [read, pieces_of_not_mem oneLine, skipped]
  simp [read_joinWith, nothing]

end Assignments

/-- Two sources with a line feed between them give the settings of the one and then those of the
other, in each of the formats that have a setting on a line. -/
theorem SourceFormat.settings_append_newline {format : SourceFormat} (lineBased : format ≠ json)
    (first second : Text) :
    ∃ before after, format.settings first = .ok before ∧ format.settings second = .ok after ∧
      format.settings (first ++ '\n' :: second) = .ok (before ++ after) := by
  have joined (separator : Char) : Assignments.read separator (first ++ '\n' :: second) =
      Assignments.read separator first ++ Assignments.read separator second := by
    have parts := Assignments.read_joinWith separator (List.cons_ne_nil first [second])
    simpa [joinWith] using parts
  cases format with
  | env => exact ⟨_, _, rfl, rfl, congrArg Except.ok (joined '=')⟩
  | json => contradiction
  | yaml => exact ⟨_, _, rfl, rfl, congrArg Except.ok (joined ':')⟩

theorem SourceFormat.settings_append_newline_of_open_quote :
    env ≠ json ∧ env.settings "A='x\n=\nB=1\r".toList =
        .ok [⟨['a'], ⟨"'x".toList, .string⟩⟩, ⟨['b'], ⟨['1'], .int⟩⟩] ∧
      env.settings "no setting\nC='\n".toList = .ok [⟨['c'], ⟨['\''], .string⟩⟩] ∧
      env.settings "A='x\n=\nB=1\r\nno setting\nC='\n".toList =
        .ok [⟨['a'], ⟨"'x".toList, .string⟩⟩, ⟨['b'], ⟨['1'], .int⟩⟩,
          ⟨['c'], ⟨['\''], .string⟩⟩] := by
  have lineBased : env ≠ json := by decide
  have firstRead : env.settings "A='x\n=\nB=1\r".toList =
      .ok [⟨['a'], ⟨"'x".toList, .string⟩⟩, ⟨['b'], ⟨['1'], .int⟩⟩] := by
    decide +kernel
  have secondRead : env.settings "no setting\nC='\n".toList =
      .ok [⟨['c'], ⟨['\''], .string⟩⟩] := by
    decide +kernel
  obtain ⟨before, after, first, second, whole⟩ := settings_append_newline lineBased
    "A='x\n=\nB=1\r".toList "no setting\nC='\n".toList
  obtain rfl := Except.ok.inj (first.symm.trans firstRead)
  obtain rfl := Except.ok.inj (second.symm.trans secondRead)
  exact ⟨lineBased, firstRead, secondRead, whole⟩

end MetaConfig
