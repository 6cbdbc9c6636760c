import MetaConfig.Document
import MetaConfig.Markers.Basic

/-!
Documents as lines of spans, each with a role that tells what the text is for. A line's marker
becomes its indicator and changes nothing else.
-/

namespace MetaConfig

inductive SpanRole where
  | comment
  | tag
  | plain
  | indent
  | key
  | separator
  | type
  | boolean
  | stringValue
  | literal
  | envMarker
  | punctuation
  | placeholder
  deriving DecidableEq, Repr

namespace SpanRole

def all : List SpanRole :=
  [comment, tag, plain, indent, key, separator, type, boolean, stringValue, literal, envMarker,
    punctuation, placeholder]

def name : SpanRole → Text
  | comment => "comment".toList
  | tag => "tag".toList
  | plain => "plain".toList
  | indent => "indent".toList
  | key => "key".toList
  | separator => "separator".toList
  | type => "type".toList
  | boolean => "boolean".toList
  | stringValue => "string-value".toList
  | literal => "literal".toList
  | envMarker => "env-marker".toList
  | punctuation => "punctuation".toList
  | placeholder => "placeholder".toList

def ofName? (word : Text) : Option SpanRole := all.find? fun role => role.name == word

end SpanRole

structure Span where
  role : SpanRole
  text : Text
  deriving DecidableEq, Repr

structure Indicator where
  severity : Severity
  message : Text
  deriving DecidableEq, Repr

def Marker.indicator (marker : Marker) : Indicator := ⟨marker.severity, marker.message⟩

structure RenderedLine where
  number : Nat
  spans : List Span
  indicator : Option Indicator
  deriving DecidableEq, Repr

def RenderedLine.text (line : RenderedLine) : Text := line.spans.flatMap Span.text

/-- Stands for a blank line, so that it keeps its height. -/
def blankPlaceholder : Text := ['\u00a0']

def ValueType.role : ValueType → SpanRole
  | .bool => .boolean
  | .string => .stringValue
  | .int => .literal
  | .float => .literal
  | .env => .literal

def EnvReference.spans (reference : EnvReference) : List Span :=
  [ ⟨.plain, reference.before⟩,
    ⟨.envMarker, marker⟩,
    ⟨.punctuation, ['(']⟩,
    ⟨.plain, reference.argument⟩,
    ⟨.punctuation, [')']⟩,
    ⟨.plain, reference.after⟩ ]

def Declaration.spans (declaration : Declaration) : List Span :=
  let indent : List Span :=
    if declaration.indent.isEmpty then [] else [⟨.indent, declaration.indent⟩]
  let value :=
    match declaration.reference with
    | some reference => reference.spans
    | none => [⟨declaration.type.role, declaration.value⟩]
  indent ++
    [ ⟨.key, declaration.key⟩,
      ⟨.separator, [':']⟩,
      ⟨.type, declaration.type.keyword⟩,
      ⟨.plain, [' ']⟩ ] ++
    value

def Line.spans : Line → List Span
  | comment text => [⟨.comment, text⟩]
  | tag name rest =>
      ⟨.tag, name⟩ :: (if rest.isEmpty then [] else [⟨.plain, ' ' :: rest⟩])
  | declaration found => found.spans
  | blank => [⟨.placeholder, blankPlaceholder⟩]
  | other text => [⟨.plain, text⟩]

def NumberedLine.render (markers : Markers) (numbered : NumberedLine) : RenderedLine :=
  { number := numbered.number
    spans := numbered.line.spans
    indicator := (markers.get? numbered.number).map Marker.indicator }

namespace Document

def renderLines (markers : Markers) (lines : List Line) : List RenderedLine :=
  (numberFrom 1 lines).map fun (number, line) => NumberedLine.render markers ⟨number, line⟩

def render (markers : Markers) (source : Text) : List RenderedLine :=
  (read source).map (NumberedLine.render markers)

end Document

end MetaConfig
