import MetaConfig.Highlight.Terminal
import MetaConfig.Proofs.Document
import MetaConfig.Proofs.Render.Spans

/-!
Highlighting without colours. An unmarked document is written as the printed forms of its lines,
so it is read as the same lines again. Markers put something around the lines and change none
of them.
-/

namespace MetaConfig

open Text

namespace Document

def printedLines (source : Text) : List Text :=
  (lines source).map fun text => (Line.classify text).print

theorem printedLines_ne_nil (source : Text) : printedLines source ≠ [] := by
  have nonempty := pieces_ne_nil '\n' source
  simpa [printedLines, lines] using nonempty

theorem newline_not_mem_of_mem_printedLines {source text : Text}
    (member : text ∈ printedLines source) : '\n' ∉ text := by
  obtain ⟨line, inLines, rfl⟩ := List.mem_map.mp member
  intro inside
  rcases (Line.reads_classify line).mem_of_mem_print inside with inLine | blank
  · exact newline_not_mem_of_mem_lines inLines inLine
  · exact absurd blank (by decide)

end Document

namespace Terminal

theorem paintSpan_plain {span : Span} (shown : span.role ≠ .placeholder) :
    paintSpan .plain span = span.text := by
  obtain ⟨role, text⟩ := span
  cases role with
  | placeholder => exact absurd rfl shown
  | _ => rfl

theorem flatMap_paintSpan_plain {text : Text} {line : Line} (reads : Line.Reads text line) :
    line.spans.flatMap (paintSpan .plain) = line.print := by
  by_cases empty : line = .blank
  · subst line
    rfl
  · rw [← reads.flatMap_text_spans empty]
    apply List.flatMap_congr
    intro span member
    exact paintSpan_plain (Line.role_ne_placeholder empty span member)

def annotate : Option Marker → Text → Text
  | some marker, text =>
      ['●', ' '] ++ text ++ "  # ".toList ++ marker.severity.name ++ ": ".toList ++ marker.message
  | none, text => [' ', ' '] ++ text

theorem highlightLine_plain (markers : Markers) (number : Nat) (text : Text) :
    highlightLine .plain true (NumberedLine.render markers ⟨number, Line.classify text⟩) =
      annotate (markers.get? number) (Line.classify text).print := by
  have shown := flatMap_paintSpan_plain (Line.reads_classify text)
  have severity (marker : Marker) :
      paint (Palette.plain.severity marker.severity) bullet = ['●'] := rfl
  have message (text : Text) : paint Palette.plain.message text = text := rfl
  cases found : markers.get? number with
  | none =>
      simp [highlightLine, NumberedLine.render, shown, found, gutter, note, annotate]
  | some marker =>
      simp [highlightLine, NumberedLine.render, shown, found, gutter, note, annotate,
        Marker.indicator, severity, message]

theorem highlightLine_plain_of_unmarked {markers : Markers} {number : Nat}
    (unmarked : markers.get? number = none) (text : Text) :
    highlightLine .plain false (NumberedLine.render markers ⟨number, Line.classify text⟩) =
      (Line.classify text).print := by
  have shown := flatMap_paintSpan_plain (Line.reads_classify text)
  simp [highlightLine, NumberedLine.render, shown, unmarked, note]

theorem any_isSome_render (markers : Markers) (source : Text) :
    ((Document.render markers source).any fun line => line.indicator.isSome) =
      (List.range' 1 (Document.lines source).length).any fun number =>
        (markers.get? number).isSome := by
  rw [← Document.map_number_read, Document.render, List.any_map, List.any_map]
  congr 1
  funext numbered
  simp [NumberedLine.render]

theorem map_highlightLine_render (palette : Palette) (marked : Bool) (markers : Markers)
    (source : Text) :
    (Document.render markers source).map (highlightLine palette marked) =
      (Document.numberFrom 1 (Document.lines source)).map fun (number, text) =>
        highlightLine palette marked (NumberedLine.render markers ⟨number, Line.classify text⟩) := by
  rw [Document.render, Document.read, List.map_map, List.map_map]
  rfl

theorem highlight_plain_of_unmarked {markers : Markers} {source : Text}
    (unmarked : ∀ number ∈ List.range' 1 (Document.lines source).length,
      markers.get? number = none) :
    highlight .plain (Document.render markers source) =
      joinWith ['\n'] (Document.printedLines source) := by
  have noneMarked : ((Document.render markers source).any fun line => line.indicator.isSome) =
      false := by
    rw [any_isSome_render, List.any_eq_false]
    intro number member
    simp [unmarked number member]
  have unnumbered : Document.printedLines source =
      (Document.numberFrom 1 (Document.lines source)).map
        fun (_, text) => (Line.classify text).print := by
    conv_lhs => rw [Document.printedLines, ← Document.map_snd_numberFrom 1 (Document.lines source)]
    rw [List.map_map]
    rfl
  have printed : (Document.render markers source).map (highlightLine .plain false) =
      Document.printedLines source := by
    rw [map_highlightLine_render, unnumbered]
    apply List.map_congr_left
    rintro ⟨number, text⟩ member
    have inRange := List.mem_map_of_mem (f := Prod.fst) member
    rw [Document.map_fst_numberFrom] at inRange
    exact highlightLine_plain_of_unmarked (unmarked number inRange) text
  simp only [highlight, noneMarked, printed]

theorem highlight_plain_of_marked {markers : Markers} {source : Text} {number : Nat}
    (inRange : number ∈ List.range' 1 (Document.lines source).length)
    (marked : markers.get? number ≠ none) :
    highlight .plain (Document.render markers source) =
      joinWith ['\n'] ((Document.numberFrom 1 (Document.printedLines source)).map
        fun (number, text) => annotate (markers.get? number) text) := by
  have someMarked : ((Document.render markers source).any fun line => line.indicator.isSome) =
      true := by
    rw [any_isSome_render, List.any_eq_true]
    exact ⟨number, inRange, Option.isSome_iff_ne_none.mpr marked⟩
  have annotated : (Document.render markers source).map (highlightLine .plain true) =
      (Document.numberFrom 1 (Document.printedLines source)).map
        fun (number, text) => annotate (markers.get? number) text := by
    rw [map_highlightLine_render, Document.printedLines, Document.numberFrom_map, List.map_map]
    apply List.map_congr_left
    rintro ⟨number, text⟩ _
    exact highlightLine_plain markers number text
  simp only [highlight, someMarked, annotated]

def plainText (source : Text) : Text := highlight .plain (Document.render .empty source)

theorem plainText_eq_joinWith (source : Text) :
    plainText source = joinWith ['\n'] (Document.printedLines source) :=
  highlight_plain_of_unmarked fun _ _ => rfl

theorem pieces_plainText (source : Text) :
    pieces '\n' (plainText source) = Document.printedLines source := by
  rw [plainText_eq_joinWith]
  apply (pieces_joinWith_eq_self_iff '\n' (Document.printedLines_ne_nil source)).mpr
  intro text member
  exact Document.newline_not_mem_of_mem_printedLines member

/-- Markers add to the lines of a document: without one for a line of it nothing changes, and
otherwise each line of the unmarked document stands between what its marker adds. -/
theorem highlight_plain_render (markers : Markers) (source : Text) :
    (pieces '\n' (plainText source)).length = (Document.lines source).length ∧
      highlight .plain (Document.render markers source) =
        if ∀ number ∈ List.range' 1 (Document.lines source).length,
            markers.get? number = none then plainText source
        else
          joinWith ['\n'] ((Document.numberFrom 1 (pieces '\n' (plainText source))).map
            fun (number, piece) => annotate (markers.get? number) piece) := by
  constructor
  · rw [pieces_plainText, Document.printedLines, List.length_map]
  · split
    · rename_i unmarked
      rw [highlight_plain_of_unmarked unmarked, plainText_eq_joinWith]
    · rename_i someMarked
      obtain ⟨number, notUnmarked⟩ := not_forall.mp someMarked
      obtain ⟨inRange, marked⟩ := Classical.not_imp.mp notUnmarked
      rw [highlight_plain_of_marked inRange marked, pieces_plainText]

example : highlight .plain (Document.render (.ofList [⟨2, "twice".toList, .error⟩])
    "a:int  1\r\nb:int 2".toList) = "  a:int 1\n● b:int 2  # error: twice".toList := by
  decide

theorem lines_plainText {source : Text}
    (single : ∀ piece ∈ pieces '\n' source, ¬ ['\r', '\r'] <:+ piece) :
    Document.lines (plainText source) = Document.printedLines source := by
  rw [plainText_eq_joinWith]
  apply Document.lines_joinWith (Document.printedLines_ne_nil source)
  · intro text member
    exact Document.newline_not_mem_of_mem_printedLines member
  · intro text member ending
    obtain ⟨line, inLines, rfl⟩ := List.mem_map.mp member
    obtain ⟨piece, inPieces, rfl⟩ := List.mem_map.mp inLines
    -- A printed line ends in a carriage return only if one is left of two.
    have left := (Line.reads_classify (dropLastChar '\r' piece)).getLast?_of_print ending
      (by decide)
    exact single piece inPieces (suffix_of_getLast?_dropLastChar left)

/-- Colourless output means what the source means, and it is its own output. -/
theorem read_plainText {source : Text}
    (single : ∀ piece ∈ pieces '\n' source, ¬ ['\r', '\r'] <:+ piece) :
    Document.read (plainText source) = Document.read source ∧
      plainText (plainText source) = plainText source := by
  have sameLines : (Document.lines (plainText source)).map Line.classify =
      (Document.lines source).map Line.classify := by
    rw [lines_plainText single, Document.printedLines, List.map_map]
    apply List.map_congr_left
    intro text _
    exact (Line.reads_classify text).print.classify_eq
  have sameRead : Document.read (plainText source) = Document.read source := by
    rw [Document.read_eq_map, sameLines, ← Document.read_eq_map]
  refine ⟨sameRead, ?_⟩
  rw [plainText, Document.render, sameRead]
  rfl

theorem read_plainText_of_loose_lines :
    ∃ source,
      source = "  @env  eu \r\n\t# c\r\n \u00a0\r\n\ta:env\t x$ENV(Y)z\r\nb:int \u2003\t\no ".toList ∧
      plainText source = "@env  eu\n\t# c\n\n\ta:env x$ENV(Y)z\nb:int \t\no ".toList ∧
      (∀ piece ∈ pieces '\n' source, ¬ ['\r', '\r'] <:+ piece) ∧
      Document.read (plainText source) = Document.read source ∧
      plainText (plainText source) = plainText source := by
  have single : ∀ piece ∈ pieces '\n'
      "  @env  eu \r\n\t# c\r\n \u00a0\r\n\ta:env\t x$ENV(Y)z\r\nb:int \u2003\t\no ".toList,
      ¬ ['\r', '\r'] <:+ piece := by decide
  obtain ⟨sameRead, fixed⟩ := read_plainText single
  exact ⟨_, rfl, by decide, single, sameRead, fixed⟩

end Terminal

end MetaConfig
