import MetaConfig.Proofs.Render.Spans

/-!
Spans read back as the line that they were made of. The role of the first span tells what the
line is, and the places of the others tell its parts; a value in six spans has a reference. No
two classified lines have the same spans.
-/

namespace MetaConfig

open Text

def EnvReference.ofSpans? : List Span → Option EnvReference
  | [before, _, _, argument, _, after] => some ⟨before.text, argument.text, after.text⟩
  | _ => none

def Declaration.ofSpans? (indent : Text) : List Span → Option Declaration
  | key :: _ :: keyword :: _ :: value =>
      (ValueType.ofKeyword? keyword.text).map fun type =>
        ⟨indent, key.text, type, value.flatMap Span.text, EnvReference.ofSpans? value⟩
  | _ => none

def Line.ofSpans? : List Span → Option Line
  | [] => none
  | first :: others =>
      match first.role with
      | .comment => some (comment first.text)
      | .tag => some (tag first.text ((others.flatMap Span.text).drop 1))
      | .plain => some (other first.text)
      | .placeholder => some blank
      | .indent => (Declaration.ofSpans? first.text others).map declaration
      | _ => (Declaration.ofSpans? [] (first :: others)).map declaration

theorem EnvReference.ofSpans?_spans (reference : EnvReference) :
    ofSpans? reference.spans = some reference := rfl

namespace Declaration

theorem spans_of_indent {found : Declaration} (indented : found.indent ≠ []) :
    found.spans = ⟨.indent, found.indent⟩ :: { found with indent := [] }.spans := by
  simp [spans, indented]

theorem ofSpans?_spans {found : Declaration} (divided : found.IsDivided)
    (flush : found.indent = []) (indent : Text) :
    ofSpans? indent found.spans = some { found with indent := indent } := by
  obtain ⟨_, key, type, value, reference⟩ := found
  obtain rfl : _ = [] := flush
  cases reference with
  | none => simp [spans, ofSpans?, ValueType.ofKeyword?_keyword, EnvReference.ofSpans?]
  | some reference =>
      obtain rfl : reference.print = value := divided reference rfl
      simp [spans, ofSpans?, ValueType.ofKeyword?_keyword, EnvReference.ofSpans?_spans,
        EnvReference.flatMap_text_spans]

theorem lineOfSpans?_spans {found : Declaration} (divided : found.IsDivided) :
    Line.ofSpans? found.spans = some (.declaration found) := by
  by_cases flush : found.indent = []
  · have first : Line.ofSpans? found.spans =
        (ofSpans? [] found.spans).map Line.declaration := by
      simp [spans, flush, Line.ofSpans?]
    rw [first, ofSpans?_spans divided flush, Option.map_some, ← flush]
  · have unindented : { found with indent := [] }.IsDivided := divided
    rw [spans_of_indent flush, Line.ofSpans?]
    simp only [ofSpans?_spans unindented rfl, Option.map_some]

end Declaration

namespace Line

theorem Reads.ofSpans?_spans {text : Text} {line : Line} (reads : Reads text line) :
    ofSpans? line.spans = some line := by
  cases reads with
  | comment trimmed => rfl
  | @tag word rest noBlank trimmed =>
      by_cases bare : rest = []
      · simp [spans, ofSpans?, bare]
      · simp [spans, ofSpans?, bare]
  | declaration spells =>
      exact Declaration.lineOfSpans?_spans (Declaration.isDivided_of_find? spells.reference)
  | blank trimmed => rfl
  | other trimmed notComment notTag unparsed => rfl

theorem ofSpans?_spans_classify (text : Text) :
    ofSpans? (classify text).spans = some (classify text) :=
  (reads_classify text).ofSpans?_spans

/-- Two texts whose lines have the same spans are classified as the same line, with all its
parts. -/
theorem spans_classify_inj (text other : Text) :
    (classify text).spans = (classify other).spans ↔ classify text = classify other := by
  constructor
  · intro same
    have reread : some (classify text) = some (classify other) :=
      calc some (classify text)
        _ = ofSpans? (classify text).spans := (ofSpans?_spans_classify text).symm
        _ = ofSpans? (classify other).spans := congrArg ofSpans? same
        _ = some (classify other) := ofSpans?_spans_classify other
    exact Option.some.inj reread
  · exact congrArg spans

-- A value that is not divided by its reference would be lost.
example : spans (.declaration ⟨[], ['a'], .env, ['x'], some ⟨[], ['B'], []⟩⟩) =
    spans (.declaration ⟨[], ['a'], .env, ['y'], some ⟨[], ['B'], []⟩⟩) := rfl

end Line

end MetaConfig
