import Mathlib.Data.List.Chain
import MetaConfig.Proofs.Highlight.Markup

/-!
Highlighted documents read back. The segments of a document are cut into lines where a line
ends, and each line gives its number, its indicator and its spans. An indent is the only span
without tags of its own, so it comes back if it is not empty and no other indent is next to it,
as is the case in all rendered lines.
-/

namespace MetaConfig

open Text

structure RenderedLine.IndentsApart (line : RenderedLine) : Prop where
  nonempty : ∀ span ∈ line.spans, span.role = .indent → span.text ≠ []
  apart : line.spans.IsChain fun first second => first.role = .indent → second.role ≠ .indent

theorem Line.indentsApart_spans (line : Line) (number : Nat) (indicator : Option Indicator) :
    RenderedLine.IndentsApart ⟨number, line.spans, indicator⟩ := by
  cases line with
  | comment text => exact ⟨by simp [spans], by simp [spans]⟩
  | tag name rest =>
      by_cases bare : rest.isEmpty
      · exact ⟨by simp [spans, bare], by simp [spans, bare]⟩
      · exact ⟨by simp [spans, bare], by simp [spans, bare]⟩
  | declaration found =>
      obtain ⟨indent, key, type, value, reference⟩ := found
      have notIndent : type.role ≠ .indent := by
        cases type <;> decide
      by_cases flush : indent = []
      · cases reference <;> constructor <;>
          simp [spans, Declaration.spans, EnvReference.spans, flush, notIndent]
      · cases reference <;> constructor <;>
          simp [spans, Declaration.spans, EnvReference.spans, flush, notIndent]
  | blank => exact ⟨by simp [spans], by simp [spans]⟩
  | other text => exact ⟨by simp [spans], by simp [spans]⟩

theorem Document.indentsApart_render (markers : Markers) (source : Text) :
    ∀ line ∈ Document.render markers source, line.IndentsApart := by
  intro line member
  obtain ⟨numbered, _, rfl⟩ := List.mem_map.mp member
  exact numbered.line.indentsApart_spans _ _

namespace Html

def spanSegments : List Span → Text × List Segment
  | [] => ([], [])
  | span :: spans =>
      let (bare, segments) := spanSegments spans
      if span.role = .indent then (span.text ++ bare, segments)
      else ([], ⟨.role span.role, span.text⟩ :: ⟨.spanEnd, bare⟩ :: segments)

def bareSpans (bare : Text) : List Span :=
  if bare.isEmpty then [] else [⟨.indent, bare⟩]

def spans? : Text → List Segment → Option (List Span)
  | bare, [] => some (bareSpans bare)
  | bare, ⟨.role role, text⟩ :: ⟨.spanEnd, after⟩ :: segments =>
      (spans? after segments).map fun spans => bareSpans bare ++ ⟨role, text⟩ :: spans
  | _, _ => none

theorem highlightSpan_of_role_ne {span : Span} (other : span.role ≠ .indent) :
    highlightSpan span =
      Segment.print ⟨.role span.role, span.text⟩ ++ Segment.print ⟨.spanEnd, []⟩ := by
  obtain ⟨role, text⟩ := span
  have noText : escape [] = [] := rfl
  cases role with
  | indent => exact absurd rfl other
  | _ =>
      simp [highlightSpan, element, Segment.print, Tag.print, Tag.element, Tag.properties, noText]

theorem flatMap_highlightSpan (spans : List Span) :
    spans.flatMap highlightSpan =
      escape (spanSegments spans).1 ++ (spanSegments spans).2.flatMap Segment.print := by
  have noText : escape [] = [] := rfl
  induction spans with
  | nil => rfl
  | cons span spans ih =>
      rw [List.flatMap_cons, ih, spanSegments]
      by_cases indent : span.role = .indent
      · have bare : highlightSpan span = escape span.text := by
          simp [highlightSpan, indent]
        simp [indent, bare, escape_append]
      · simp [indent, highlightSpan_of_role_ne indent, Segment.print, noText]

theorem tag_of_mem_spanSegments {spans : List Span} {segment : Segment}
    (member : segment ∈ (spanSegments spans).2) :
    segment.tag = .spanEnd ∨ ∃ role, segment.tag = .role role := by
  induction spans with
  | nil => simp [spanSegments] at member
  | cons span spans ih =>
      rw [spanSegments] at member
      by_cases indent : span.role = .indent
      · simp only [if_pos indent] at member
        exact ih member
      · simp only [if_neg indent, List.mem_cons] at member
        rcases member with rfl | rfl | later
        · exact .inr ⟨span.role, rfl⟩
        · exact .inl rfl
        · exact ih later

theorem spans?_eq_map (bare : Text) (segments : List Segment) :
    spans? bare segments = (spans? [] segments).map (bareSpans bare ++ ·) := by
  have empty : bareSpans [] = [] := rfl
  unfold spans?
  split <;> simp [empty, Function.comp_def]

theorem spans?_spanSegments {spans : List Span}
    (nonempty : ∀ span ∈ spans, span.role = .indent → span.text ≠ [])
    (apart : spans.IsChain fun first second => first.role = .indent → second.role ≠ .indent) :
    spans? (spanSegments spans).1 (spanSegments spans).2 = some spans := by
  induction spans with
  | nil => rfl
  | cons span spans ih =>
      have later := ih (fun other member => nonempty other (List.mem_cons_of_mem span member))
        apart.tail
      rw [spanSegments]
      by_cases indent : span.role = .indent
      · -- The spans after an indent begin with a tag, so the bare text is this indent alone.
        have noBare : (spanSegments spans).1 = [] := by
          cases spans with
          | nil => rfl
          | cons second others =>
              have other := (List.isChain_cons_cons.mp apart).1 indent
              simp [spanSegments, other]
        have itself : bareSpans span.text = [span] := by
          have isIndent := nonempty span List.mem_cons_self indent
          rw [bareSpans, if_neg (by simpa using isIndent), ← indent]
        rw [noBare] at later
        simp only [if_pos indent, noBare, List.append_nil]
        rw [spans?_eq_map, later, itself]
        rfl
      · simp only [if_neg indent, spans?, later]
        rfl

def lineSegments (line : RenderedLine) : List Segment :=
  let (bare, segments) := spanSegments line.spans
  match line.indicator with
  | none => ⟨.line line.number, bare⟩ :: segments
  | some indicator =>
      ⟨.line line.number, []⟩ :: ⟨.indicator indicator, []⟩ :: ⟨.spanEnd, bare⟩ :: segments

def line? : List Segment → Option RenderedLine
  | ⟨.line number, _⟩ :: ⟨.indicator indicator, _⟩ :: ⟨.spanEnd, bare⟩ :: segments =>
      (spans? bare segments).map fun spans => ⟨number, spans, some indicator⟩
  | ⟨.line number, bare⟩ :: segments =>
      (spans? bare segments).map fun spans => ⟨number, spans, none⟩
  | _ => none

theorem line?_of_spanTags (number : Nat) (bare : Text) {segments : List Segment}
    (spanTags : ∀ segment ∈ segments,
      segment.tag = .spanEnd ∨ ∃ role, segment.tag = .role role) :
    line? (⟨.line number, bare⟩ :: segments) =
      (spans? bare segments).map fun spans => ⟨number, spans, none⟩ := by
  cases segments with
  | nil => rfl
  | cons first others =>
      obtain ⟨tag, text⟩ := first
      rcases spanTags _ List.mem_cons_self with closing | ⟨role, opening⟩
      · obtain rfl : tag = .spanEnd := closing
        rfl
      · obtain rfl : tag = .role role := opening
        rfl

theorem line?_lineSegments {line : RenderedLine} (apart : line.IndentsApart) :
    line? (lineSegments line) = some line := by
  obtain ⟨number, spans, indicator⟩ := line
  have body := spans?_spanSegments apart.nonempty apart.apart
  cases indicator with
  | none =>
      rw [lineSegments, line?_of_spanTags _ _ fun _ member => tag_of_mem_spanSegments member, body]
      rfl
  | some indicator =>
      simp only [lineSegments, line?, body]
      rfl

theorem highlightLine_eq_print (line : RenderedLine) :
    highlightLine line = (lineSegments line).flatMap Segment.print ++ "</div>".toList := by
  have noText : escape [] = [] := rfl
  cases shown : line.indicator with
  | none =>
      simp [highlightLine, lineSegments, shown, element, flatMap_highlightSpan, Segment.print,
        Tag.print, Tag.element, Tag.properties]
  | some indicator =>
      simp [highlightLine, lineSegments, shown, element, flatMap_highlightSpan, Segment.print,
        Tag.print, Tag.element, Tag.properties, highlightIndicator, noText]

def lineClosing : Segment := ⟨.lineEnd, ['\n']⟩

def documentClosing : Segment := ⟨.documentEnd, ['\n']⟩

theorem lineClosing_not_mem_lineSegments (line : RenderedLine) :
    lineClosing ∉ lineSegments line := by
  have notInSpans : lineClosing ∉ (spanSegments line.spans).2 := by
    intro member
    rcases tag_of_mem_spanSegments member with closing | ⟨role, opening⟩
    · cases closing
    · cases opening
  cases shown : line.indicator <;>
    simpa [lineSegments, shown, lineClosing] using notInSpans

def bodySegments (lines : List RenderedLine) : List Segment :=
  lines.flatMap (fun line => lineSegments line ++ [lineClosing]) ++ [documentClosing]

theorem splitOn_bodySegments (lines : List RenderedLine) :
    (bodySegments lines).splitOn lineClosing = lines.map lineSegments ++ [[documentClosing]] := by
  induction lines with
  | nil => decide
  | cons line lines ih =>
      have cut : bodySegments (line :: lines) =
          lineSegments line ++ lineClosing :: bodySegments lines := by
        simp [bodySegments]
      have single := List.splitOn_eq_singleton (lineClosing_not_mem_lineSegments line)
      rw [cut, List.splitOn_append_cons_self, single, ih]
      rfl

def decode? (markup : Text) : Option (Text × List RenderedLine) := do
  match ← Segment.readAll? markup with
  | ⟨.document containerClass, _⟩ :: body =>
      ((body.splitOn lineClosing).dropLast.mapM line?).map fun lines => (containerClass, lines)
  | _ => none

theorem highlight_eq_print (containerClass : Text) (lines : List RenderedLine) :
    highlight containerClass lines =
      (⟨.document containerClass, ['\n']⟩ :: bodySegments lines).flatMap Segment.print := by
  have lineBreak : escape ['\n'] = ['\n'] := rfl
  have body : (lines.flatMap fun line => highlightLine line ++ ['\n']) =
      (lines.flatMap fun line => lineSegments line ++ [lineClosing]).flatMap Segment.print := by
    rw [List.flatMap_assoc]
    refine List.flatMap_congr fun line _ => ?_
    rw [highlightLine_eq_print, List.flatMap_append]
    simp [Segment.print, lineClosing, Tag.print, Tag.element, Tag.properties, lineBreak]
  rw [highlight, body]
  simp [bodySegments, documentClosing, element, Segment.print, Tag.print, Tag.element,
    Tag.properties, lineBreak]

theorem decode?_highlight (containerClass : Text) {lines : List RenderedLine}
    (apart : ∀ line ∈ lines, line.IndentsApart) :
    decode? (highlight containerClass lines) = some (containerClass, lines) := by
  have linesBack : (lines.map lineSegments).mapM line? = some lines :=
    mapM_map_eq_some fun line member => line?_lineSegments (apart line member)
  rw [highlight_eq_print, decode?, Segment.readAll?_flatMap_print]
  simp only [Option.bind_eq_bind, Option.bind_some, splitOn_bodySegments, List.dropLast_concat,
    linesBack, Option.map_some]

theorem decode?_highlight_render (containerClass : Text) (markers : Markers) (source : Text) :
    decode? (highlight containerClass (Document.render markers source)) =
      some (containerClass, Document.render markers source) :=
  decode?_highlight containerClass (Document.indentsApart_render markers source)

/-- A highlighted document tells its class and its lines: there is a decoder for it, and no two
documents have the same markup. -/
theorem highlight_eq_highlight_iff (firstClass secondClass : Text)
    {firstLines secondLines : List RenderedLine}
    (firstApart : ∀ line ∈ firstLines, line.IndentsApart)
    (secondApart : ∀ line ∈ secondLines, line.IndentsApart) :
    (highlight firstClass firstLines = highlight secondClass secondLines ↔
        firstClass = secondClass ∧ firstLines = secondLines) ∧
      decode? (highlight firstClass firstLines) = some (firstClass, firstLines) := by
  have firstDecoded := decode?_highlight firstClass firstApart
  have secondDecoded := decode?_highlight secondClass secondApart
  refine ⟨⟨?_, ?_⟩, firstDecoded⟩
  · intro same
    rw [same, secondDecoded] at firstDecoded
    obtain ⟨sameClass, sameLines⟩ := Prod.mk.inj (Option.some.inj firstDecoded)
    exact ⟨sameClass.symm, sameLines.symm⟩
  · rintro ⟨rfl, rfl⟩
    rfl

theorem highlight_ne_highlight_of_entities :
    ∃ markup entities,
      markup = Document.render (Markers.empty.insert ⟨1, "\"\u00a0'".toList, .warning⟩)
        "  a:string <b>$ENV(B)".toList ∧
      entities = Document.render (Markers.empty.insert ⟨1, "\"\u00a0'".toList, .warning⟩)
        "  a:string &lt;b&gt;$ENV(B)".toList ∧
      (∀ line ∈ markup, line.IndentsApart) ∧ (∀ line ∈ entities, line.IndentsApart) ∧
      highlight "a\"b".toList markup ≠ highlight "a\"b".toList entities ∧
      decode? (highlight "a\"b".toList markup) = some ("a\"b".toList, markup) := by
  have markupApart := Document.indentsApart_render
    (Markers.empty.insert ⟨1, "\"\u00a0'".toList, .warning⟩) "  a:string <b>$ENV(B)".toList
  have entitiesApart := Document.indentsApart_render
    (Markers.empty.insert ⟨1, "\"\u00a0'".toList, .warning⟩)
    "  a:string &lt;b&gt;$ENV(B)".toList
  obtain ⟨same, decoded⟩ := highlight_eq_highlight_iff "a\"b".toList "a\"b".toList
    markupApart entitiesApart
  refine ⟨_, _, rfl, rfl, markupApart, entitiesApart, ?_, decoded⟩
  intro equal
  exact absurd (same.mp equal).2 (by decide)

end Html

end MetaConfig
