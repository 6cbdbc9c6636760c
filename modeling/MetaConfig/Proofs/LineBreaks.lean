import MetaConfig.Proofs.Document
import MetaConfig.Proofs.Json.LineBreaks
import MetaConfig.Source.Convert

/-!
Documents and sources with both ways of ending a line. Lines that end in a carriage return and a
line feed are the same lines: a source is converted as before, and a document is read as before
when it has no returns of its own at the ends of lines.
-/

namespace MetaConfig

open Text

namespace Assignments

theorem readLine?_concat_return (separator : Char) (line : Text) :
    readLine? separator (line ++ ['\r']) = readLine? separator line := by
  have blank : isBlank '\r' = true := by decide
  simp only [readLine?, trim_concat blank]

theorem read_withReturns (separator : Char) (source : Text) :
    read separator (withReturns source) = read separator source := by
  have same : (pieces '\n' (withReturns source)).map (readLine? separator) =
      (pieces '\n' source).map (readLine? separator) :=
    map_pieces_withReturns fun piece _ => readLine?_concat_return separator piece
  have collected (lines : List Text) :
      lines.filterMap (readLine? separator) = (lines.map (readLine? separator)).filterMap id := by
    rw [List.filterMap_map]
    rfl
  rw [read, read, collected, collected, same]

end Assignments

theorem Flatten.read_withReturns {source : Text} {settings : List Setting}
    (found : read source = .ok settings) : read (withReturns source) = .ok settings := by
  unfold read at found ⊢
  cases value : Json.Value.read source with
  | error fault =>
      rw [value] at found
      cases found
  | ok content =>
      rw [value] at found
      rw [Json.read_withReturns value]
      cases content with
      | object members => exact found
      | _ => cases found

theorem SourceFormat.settings_withReturns {format : SourceFormat} {source : Text}
    {settings : List Setting} (found : format.settings source = .ok settings) :
    format.settings (withReturns source) = .ok settings := by
  cases format with
  | env =>
      rw [SourceFormat.settings, Assignments.read_withReturns]
      exact found
  | json => exact Flatten.read_withReturns found
  | yaml =>
      rw [SourceFormat.settings, Assignments.read_withReturns]
      exact found

theorem convert_withReturns {framing : Framing} {format : SourceFormat} {source output : Text}
    (converted : convert framing format source = .ok output) :
    convert framing format (withReturns source) = .ok output := by
  have sameBlank : isBlankText (withReturns source) = isBlankText source :=
    all_withReturns (by decide) source
  unfold convert at converted ⊢
  rw [sameBlank]
  split at converted
  · rename_i blank
    rw [if_pos blank]
    exact converted
  · rename_i notBlank
    rw [if_neg notBlank]
    cases found : format.settings source with
    | error problem =>
        rw [found] at converted
        cases converted
    | ok settings =>
        rw [found] at converted
        rw [SourceFormat.settings_withReturns found]
        exact converted

namespace Document

theorem lines_withReturns {source : Text}
    (noReturns : ∀ piece ∈ pieces '\n' source, piece.getLast? ≠ some '\r') :
    lines (withReturns source) = lines source := by
  refine map_pieces_withReturns ?_
  intro piece member
  rw [dropLastChar_of_getLast?_ne (noReturns piece member)]
  simp [dropLastChar]

/-- A return before each line feed changes neither what a source is converted to nor, where no
line ends in a return by itself, what a document is read as. -/
theorem convert_read_withReturns (source : Text) :
    (∀ framing format output, convert framing format source = .ok output →
      convert framing format (withReturns source) = .ok output) ∧
    ((∀ piece ∈ pieces '\n' source, piece.getLast? ≠ some '\r') →
      read (withReturns source) = read source) := by
  constructor
  · intro framing format output converted
    exact convert_withReturns converted
  · intro noReturns
    rw [read, read, lines_withReturns noReturns]

theorem convert_read_withReturns_of_object :
    ∃ source output,
      source = "\x7b\n\"on\": true,\n\n\"name\":\n\"a b\"\x7d\n".toList ∧
      convert .default .json source = .ok output ∧
      convert .default .json (withReturns source) = .ok output ∧
      (∀ piece ∈ pieces '\n' source, piece.getLast? ≠ some '\r') ∧
      read (withReturns source) = read source := by
  have imported : SourceFormat.json.settings
      "\x7b\n\"on\": true,\n\n\"name\":\n\"a b\"\x7d\n".toList =
      .ok [⟨"on".toList, ⟨"true".toList, .bool⟩⟩, ⟨"name".toList, ⟨"a b".toList, .string⟩⟩] := by
    decide +kernel
  have converted := congrArg (Except.map (Framing.default.frame .json)) imported
  have noReturns : ∀ piece ∈ pieces '\n'
      "\x7b\n\"on\": true,\n\n\"name\":\n\"a b\"\x7d\n".toList, piece.getLast? ≠ some '\r' := by
    decide
  obtain ⟨kept, sameLines⟩ := convert_read_withReturns _
  exact ⟨_, _, rfl, converted, kept _ _ _ converted, noReturns, sameLines noReturns⟩

end Document

end MetaConfig
