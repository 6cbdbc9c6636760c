import MetaConfig.Highlight.Format
import MetaConfig.Markers.Json
import MetaConfig.Proofs.Document

/-!
Which markers a document shows. However markers were collected, the last one for each line
stands, and those for lines that the document does not have make no difference.
-/

namespace MetaConfig

namespace Markers

inductive Collected : List Marker → Markers → Prop
  | empty : Collected [] .empty
  | insert {sequence markers} (marker : Marker) : Collected sequence markers →
      Collected (sequence ++ [marker]) (markers.insert marker)
  | ofList (sequence : List Marker) : Collected sequence (ofList sequence)
  | ofJson {source sequence markers} : Json.read source = .ok sequence →
      ofJson source = .ok markers → Collected sequence markers

def lastAt (line : Nat) (sequence : List Marker) : Option Marker :=
  (sequence.filter fun marker => marker.line == line).getLast?

theorem lastAt_concat (line : Nat) (sequence : List Marker) (marker : Marker) :
    lastAt line (sequence ++ [marker]) =
      if marker.line = line then some marker else lastAt line sequence := by
  by_cases same : marker.line = line
  · simp [lastAt, same]
  · simp [lastAt, same]

theorem get?_ofList (sequence : List Marker) (line : Nat) :
    (ofList sequence).get? line = lastAt line sequence := by
  induction sequence using List.reverseRecOn with
  | nil => rfl
  | append_singleton sequence marker ih =>
      have added : ofList (sequence ++ [marker]) = (ofList sequence).insert marker := by
        simp [ofList]
      rw [added, get?_insert, lastAt_concat, ih]

theorem Collected.get?_eq {sequence : List Marker} {markers : Markers}
    (collected : Collected sequence markers) (line : Nat) :
    markers.get? line = lastAt line sequence := by
  induction collected with
  | empty => rfl
  | insert marker _ ih => rw [get?_insert, lastAt_concat, ih]
  | ofList sequence => exact get?_ofList sequence line
  | @ofJson source sequence markers listed made =>
      rw [Markers.ofJson, listed] at made
      obtain rfl := Except.ok.inj made
      exact get?_ofList sequence line

end Markers

namespace Document

theorem render_congr {first second : Markers} {source : Text}
    (same : ∀ number ∈ List.range' 1 (lines source).length,
      first.get? number = second.get? number) :
    render first source = render second source := by
  apply List.map_congr_left
  intro numbered member
  rw [NumberedLine.render, NumberedLine.render,
    same numbered.number (number_mem_of_mem_read member)]

theorem render_eq_renderLines (markers : Markers) (source : Text) :
    render markers source = renderLines markers ((lines source).map Line.classify) := by
  rw [render, read_eq_map, renderLines, List.map_map]
  rfl

/-- The lines of a document with those of the markers in a sequence that are the last ones for
their lines, and with nothing else changed. -/
structure Shows (sequence : List Marker) (markers : Markers) (source : Text) : Prop where
  numbers : (render markers source).map RenderedLine.number =
    List.range' 1 (lines source).length
  spans : (render markers source).map RenderedLine.spans =
    (render .empty source).map RenderedLine.spans
  indicators : (render markers source).map RenderedLine.indicator =
    (List.range' 1 (lines source).length).map fun number =>
      (Markers.lastAt number sequence).map Marker.indicator
  byPlace : render markers source = renderLines markers ((lines source).map Line.classify)

theorem shows_of_collected {sequence : List Marker} {markers : Markers}
    (collected : Markers.Collected sequence markers) (source : Text) :
    Shows sequence markers source := by
  constructor
  · rw [← map_number_read, render, List.map_map]
    rfl
  · rw [render, render, List.map_map, List.map_map]
    rfl
  · rw [← map_number_read, render, List.map_map, List.map_map]
    apply List.map_congr_left
    intro numbered _
    simp [NumberedLine.render, collected.get?_eq]
  · exact render_eq_renderLines markers source

/-- Two collections of markers that agree on the last marker for each line of a document cannot
be told apart in it. -/
theorem render_eq_of_lastAt_eq {first second : List Marker} {firstMarkers secondMarkers : Markers}
    {source : Text} (firstCollected : Markers.Collected first firstMarkers)
    (secondCollected : Markers.Collected second secondMarkers)
    (sameLast : ∀ number, 1 ≤ number → number ≤ (lines source).length →
      Markers.lastAt number first = Markers.lastAt number second) :
    render firstMarkers source = render secondMarkers source ∧
      (∀ format, highlight format firstMarkers source = highlight format secondMarkers source) ∧
      Shows first firstMarkers source ∧ Shows second secondMarkers source := by
  have sameRender : render firstMarkers source = render secondMarkers source := by
    apply render_congr
    intro number inRange
    obtain ⟨lower, upper⟩ := List.mem_range'_1.mp inRange
    rw [firstCollected.get?_eq, secondCollected.get?_eq]
    exact sameLast number lower (by omega)
  refine ⟨sameRender, ?_, shows_of_collected firstCollected source,
    shows_of_collected secondCollected source⟩
  intro format
  simp only [highlight, sameRender]

theorem render_eq_of_overwritten_marker :
    ∃ first second : Markers,
      Markers.Collected
        [⟨2, "old".toList, .error⟩, ⟨9, [], .error⟩, ⟨2, "new".toList, .warning⟩] first ∧
      Markers.Collected [⟨0, [], .error⟩, ⟨2, "new".toList, .warning⟩] second ∧
      first ≠ second ∧
      render first "a:int 1\nb:int 2".toList = render second "a:int 1\nb:int 2".toList ∧
      (∀ format, highlight format first "a:int 1\nb:int 2".toList =
        highlight format second "a:int 1\nb:int 2".toList) := by
  have firstCollected : Markers.Collected
      [⟨2, "old".toList, .error⟩, ⟨9, [], .error⟩, ⟨2, "new".toList, .warning⟩] _ :=
    .insert _ (.insert _ (.insert _ .empty))
  have listed : Markers.Json.read "[[0,\"\",\"error\"],[2,\"new\",\"warning\"]]".toList =
      .ok [⟨0, [], .error⟩, ⟨2, "new".toList, .warning⟩] := by
    rfl
  have secondCollected := Markers.Collected.ofJson listed (by rw [Markers.ofJson, listed])
  have sameLast : ∀ number, 1 ≤ number → number ≤ (lines "a:int 1\nb:int 2".toList).length →
      Markers.lastAt number
          [⟨2, "old".toList, .error⟩, ⟨9, [], .error⟩, ⟨2, "new".toList, .warning⟩] =
        Markers.lastAt number [⟨0, [], .error⟩, ⟨2, "new".toList, .warning⟩] := by
    intro number lower upper
    have bound : number ≤ 2 := upper
    obtain rfl | rfl : number = 1 ∨ number = 2 := by omega
    · decide
    · decide
  obtain ⟨sameRender, sameOutput, _, _⟩ :=
    render_eq_of_lastAt_eq firstCollected secondCollected sameLast
  exact ⟨_, _, firstCollected, secondCollected, by decide, sameRender, sameOutput⟩

end Document

end MetaConfig
