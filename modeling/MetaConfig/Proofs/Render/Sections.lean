import MetaConfig.Proofs.Document
import MetaConfig.Render.Span

/-!
Documents in sections. What stands above a line break has no effect on the lines below it but
that it moves them down, so the sections of a document can be rendered one by one, each with the
markers for its own lines.
-/

namespace MetaConfig

open Text

def Marker.moveUp (count : Nat) (marker : Marker) : Marker :=
  { marker with line := marker.line - count }

theorem Marker.indicator_moveUp (count : Nat) (marker : Marker) :
    (marker.moveUp count).indicator = marker.indicator := rfl

def NumberedLine.moveDown (count : Nat) (numbered : NumberedLine) : NumberedLine :=
  { numbered with number := numbered.number + count }

def RenderedLine.moveDown (count : Nat) (line : RenderedLine) : RenderedLine :=
  { line with number := line.number + count }

namespace Markers

def after (count : Nat) (markers : Markers) : Markers where
  entries := (markers.entries.filter fun marker => count < marker.line).map (Marker.moveUp count)
  ascending := by
    have kept := markers.ascending.filter fun marker => count < marker.line
    refine List.pairwise_map.mpr (kept.imp_of_mem ?_)
    intro earlier later _ laterKept order
    have below : count < later.line := by simpa using (List.mem_filter.mp laterKept).2
    simp only [Marker.moveUp]
    omega

theorem mem_after (count : Nat) (markers : Markers) (marker : Marker) :
    marker ∈ (markers.after count).entries ↔
      ∃ original ∈ markers.entries, count < original.line ∧ original.moveUp count = marker := by
  simp [after, and_assoc]

theorem get?_after (count : Nat) (markers : Markers) {number : Nat} (positive : 0 < number) :
    (markers.after count).get? number =
      (markers.get? (number + count)).map (Marker.moveUp count) := by
  have sameLine (marker : Marker) :
      (decide (count < marker.line) && (marker.moveUp count).line == number) =
        (marker.line == number + count) := by
    rw [Bool.eq_iff_iff]
    simp only [Marker.moveUp, Bool.and_eq_true, decide_eq_true_eq, beq_iff_eq]
    omega
  simp only [get?, after, List.find?_map, List.find?_filter, Function.comp_def, Bool.decide_and,
    Bool.decide_eq_true, sameLine]

end Markers

namespace Document

theorem numberFrom_append {item : Type} (first : Nat) (items others : List item) :
    numberFrom first (items ++ others) =
      numberFrom first items ++ numberFrom (first + items.length) others := by
  induction items generalizing first with
  | nil => rfl
  | cons head rest ih =>
      have moved : first + 1 + rest.length = first + (rest.length + 1) := by omega
      simp [numberFrom, ih, moved]

theorem numberFrom_add {item : Type} (first count : Nat) (items : List item) :
    numberFrom (first + count) items =
      (numberFrom first items).map fun (number, item) => (number + count, item) := by
  induction items generalizing first with
  | nil => rfl
  | cons head rest ih =>
      have moved : first + count + 1 = first + 1 + count := by omega
      simp [numberFrom, moved, ih]

theorem lines_append_newline (above below : Text) :
    lines (above ++ '\n' :: below) = lines above ++ lines below := by
  rw [lines, pieces_append_cons, List.map_append]
  rfl

theorem read_append_newline (above below : Text) :
    read (above ++ '\n' :: below) =
      read above ++ (read below).map (NumberedLine.moveDown (lines above).length) := by
  rw [read, lines_append_newline, numberFrom_append, numberFrom_add, List.map_append, read, read,
    List.map_map, List.map_map]
  rfl

theorem number_pos_of_mem_read {source : Text} {numbered : NumberedLine}
    (member : numbered ∈ read source) : 0 < numbered.number :=
  (List.mem_range'_1.mp (number_mem_of_mem_read member)).1

theorem render_moveDown (markers : Markers) (count : Nat) {numbered : NumberedLine}
    (positive : 0 < numbered.number) :
    (numbered.moveDown count).render markers =
      (numbered.render (markers.after count)).moveDown count := by
  simp [NumberedLine.render, NumberedLine.moveDown, RenderedLine.moveDown,
    Markers.get?_after count markers positive, Function.comp_def, Marker.indicator_moveUp]

/-- A document is rendered as the part above a line break and the part below it, which has the
markers that are left, with its numbers raised by the lines above. -/
theorem render_append_newline (markers : Markers) (above below : Text) :
    render markers (above ++ '\n' :: below) =
        render markers above ++
          (render (markers.after (lines above).length) below).map
            (RenderedLine.moveDown (lines above).length) ∧
      ∀ marker, marker ∈ (markers.after (lines above).length).entries ↔
        ∃ original ∈ markers.entries, (lines above).length < original.line ∧
          original.moveUp (lines above).length = marker := by
  refine ⟨?_, Markers.mem_after _ markers⟩
  have moved : ((read below).map (NumberedLine.moveDown (lines above).length)).map
      (NumberedLine.render markers) =
      (render (markers.after (lines above).length) below).map
        (RenderedLine.moveDown (lines above).length) := by
    rw [render, List.map_map, List.map_map]
    apply List.map_congr_left
    intro numbered member
    exact render_moveDown markers _ (number_pos_of_mem_read member)
  rw [render, read_append_newline, List.map_append, moved]
  rfl

end Document

end MetaConfig
