import MetaConfig.Page
import MetaConfig.Proofs.Highlight.Json

/-!
An editing page is answered with what the library gives. An answer never holds both an output and
a message, and the markup of a document can be had from its lines as JSON.
-/

namespace MetaConfig

open Text

theorem Problem.message_ne_nil (problem : Problem) : problem.message ≠ [] := by
  -- every message begins with words of its own
  cases problem <;> exact List.cons_ne_nil _ _

/-- The lines that a document is written as in JSON make the same markup as the document. Their
numbers are read back when there are fewer than 2⁶⁴ lines, as in every text that fits into
memory. -/
theorem linesOfText?_highlight_json {source : Text} (markers : Markers)
    (fit : (Document.lines source).length < twoTo 64) :
    (Json.linesOfText? (highlight .json markers source)).map
        (Html.highlight Html.defaultContainerClass) =
      some (highlight .html markers source) := by
  have linesBack : Json.linesOfText? (highlight .json markers source) =
      some (Document.render markers source) :=
    Json.linesOfText?_highlight_render .compact markers fit
  rw [linesBack]
  rfl

namespace Page

inductive Answer.Mirrors : Except Problem Text → Answer → Prop
  | output (output : Text) : Mirrors (.ok output) ⟨output, [], true⟩
  | message {problem : Problem} : problem.message ≠ [] →
      Mirrors (.error problem) ⟨[], problem.message, false⟩

theorem Answer.mirrors_ofResult (result : Except Problem Text) :
    Mirrors result (ofResult result) := by
  cases result with
  | ok output => exact .output output
  | error problem => exact .message problem.message_ne_nil

theorem success_highlight_iff (format : HighlightFormat) (source markers : Text) :
    (highlight format source markers).success = true ↔
      ∃ given, readMarkers markers = .ok given := by
  cases read : readMarkers markers with
  | ok given => simp [highlight, read, Answer.ofResult, bind, Except.bind]
  | error problem => simp [highlight, read, Answer.ofResult, bind, Except.bind]

theorem output_highlight {format : HighlightFormat} {source markers : Text} {given : Markers}
    (read : readMarkers markers = .ok given) :
    (highlight format source markers).output = MetaConfig.highlight format given source := by
  simp [highlight, read, Answer.ofResult, bind, Except.bind]

theorem readMarkers_eq_ok_iff (markers : Text) :
    (∃ given, readMarkers markers = .ok given) ↔
      isBlankText markers = true ∨ ∃ given, Markers.ofJson markers = .ok given := by
  unfold readMarkers
  by_cases blank : isBlankText markers = true
  · simp [blank]
  · simp [blank]

/-- Every answer is what the library gives, or the message of its problem. Both highlighters take
the same markers, and whenever they do, the JSON gives the markup. -/
theorem answers_mirror_library (source format markers : Text) :
    Answer.Mirrors
        (SourceFormat.parse format >>= fun format => MetaConfig.convert .default format source)
        (convert source format) ∧
      Answer.Mirrors
        ((if isBlankText markers then .ok .empty else Markers.ofJson markers).map
          fun given => MetaConfig.highlight .html given source)
        (highlightHtml source markers) ∧
      Answer.Mirrors
        ((if isBlankText markers then .ok .empty else Markers.ofJson markers).map
          fun given => MetaConfig.highlight .json given source)
        (highlightJson source markers) ∧
      ((highlightHtml source markers).success = true ↔
        isBlankText markers = true ∨ ∃ given, Markers.ofJson markers = .ok given) ∧
      ((highlightJson source markers).success = true ↔
        isBlankText markers = true ∨ ∃ given, Markers.ofJson markers = .ok given) ∧
      ((highlightJson source markers).success = true →
        (Document.lines source).length < twoTo 64 →
          (Json.linesOfText? (highlightJson source markers).output).map
              (Html.highlight Html.defaultContainerClass) =
            some (highlightHtml source markers).output) := by
  refine ⟨Answer.mirrors_ofResult _, Answer.mirrors_ofResult _, Answer.mirrors_ofResult _,
    ?htmlSucceeds, ?jsonSucceeds, ?square⟩
  case htmlSucceeds =>
    exact (success_highlight_iff .html source markers).trans (readMarkers_eq_ok_iff markers)
  case jsonSucceeds =>
    exact (success_highlight_iff .json source markers).trans (readMarkers_eq_ok_iff markers)
  case square =>
    intro succeeded fit
    obtain ⟨given, read⟩ := (success_highlight_iff .json source markers).mp succeeded
    have jsonOutput : (highlightJson source markers).output = _ := output_highlight read
    have htmlOutput : (highlightHtml source markers).output = _ := output_highlight read
    rw [jsonOutput, htmlOutput]
    exact linesOfText?_highlight_json given fit

theorem answers_mirror_library_of_marked_line :
    let source := "user:string <b>\r\n".toList
    let markers := "[[1,\"say \\\"&\\\"\",\"warning\"]]".toList
    (highlightHtml source markers).success = true ∧
      (highlightJson source markers).success = true ∧
      (highlightHtml source "[".toList).success = false ∧
      (Json.linesOfText? (highlightJson source markers).output).map
          (Html.highlight Html.defaultContainerClass) =
        some (highlightHtml source markers).output := by
  intro source markers
  obtain ⟨-, -, -, htmlSucceeds, jsonSucceeds, square⟩ :=
    answers_mirror_library source "env".toList markers
  have listed : Markers.Json.read markers = .ok [⟨1, "say \"&\"".toList, .warning⟩] := by
    rfl
  have accepted : isBlankText markers = true ∨ ∃ given, Markers.ofJson markers = .ok given :=
    .inr ⟨_, by rw [Markers.ofJson, listed]⟩
  have succeeded := jsonSucceeds.mpr accepted
  have fit : (Document.lines source).length < twoTo 64 := by decide
  exact ⟨htmlSucceeds.mpr accepted, succeeded, by rfl, square succeeded fit⟩

end Page

end MetaConfig
