import MetaConfig.Json.Fields
import MetaConfig.Json.Printer
import MetaConfig.Json.Reader
import MetaConfig.Render.Span

/-!
Rendered lines as JSON values, for programs, and read back from them.
-/

namespace MetaConfig

open Json

namespace Span

def toValue (span : Span) : Value :=
  .object [("role".toList, .string span.role.name), ("text".toList, .string span.text)]

def ofValue? (value : Value) : Option Span :=
  match value.fields? [["role".toList], ["text".toList]] with
  | some [some role, some text] => do
      pure ⟨← role.word?.bind SpanRole.ofName?, ← text.string?⟩
  | _ => none

end Span

namespace Indicator

def toValue (indicator : Indicator) : Value :=
  .object
    [ ("severity".toList, .string indicator.severity.name),
      ("message".toList, .string indicator.message) ]

def ofValue? (value : Value) : Option Indicator :=
  match value.fields? [["severity".toList], ["message".toList]] with
  | some [some severity, some message] => do
      pure ⟨← severity.word?.bind Severity.ofName?, ← message.string?⟩
  | _ => none

end Indicator

namespace RenderedLine

def toValue (line : RenderedLine) : Value :=
  .object
    ([ ("number".toList, .ofNat line.number),
       ("spans".toList, .array (line.spans.map Span.toValue)) ] ++
      (line.indicator.map fun indicator => ("indicator".toList, indicator.toValue)).toList)

def indicatorOfField? : Option Value → Option (Option Indicator)
  | none => some none
  | some .null => some none
  | some value => (Indicator.ofValue? value).map some

def ofValue? (value : Value) : Option RenderedLine :=
  match value.fields? [["number".toList], ["spans".toList], ["indicator".toList]] with
  | some [some number, some spans, indicator] => do
      let number ← number.natural?
      let spans ← (← spans.array?).mapM Span.ofValue?
      let indicator ← indicatorOfField? indicator
      pure ⟨number, spans, indicator⟩
  | _ => none

end RenderedLine

namespace Json

def highlight (layout : Layout) (lines : List RenderedLine) : Text :=
  (Value.array (lines.map RenderedLine.toValue)).print layout

def linesOfValue? (value : Value) : Option (List RenderedLine) := do
  (← value.array?).mapM RenderedLine.ofValue?

/-- The lines that a text holds. It is first read as a value, so of several members with one name
the last stands. -/
def linesOfText? (source : Text) : Option (List RenderedLine) :=
  match Value.read source with
  | .ok value => linesOfValue? value
  | .error _ => none

end Json

end MetaConfig
