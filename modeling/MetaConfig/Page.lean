import MetaConfig.Highlight.Format
import MetaConfig.Markers.Json
import MetaConfig.Source.Convert

/-!
The answers that an editing page asks for. Each is an output or a message, and never both.
-/

namespace MetaConfig.Page

open Text

structure Answer where
  output : Text
  errorText : Text
  success : Bool
  deriving DecidableEq, Repr

def Answer.ofResult : Except Problem Text → Answer
  | .ok output => ⟨output, [], true⟩
  | .error problem => ⟨[], problem.message, false⟩

def convert (source format : Text) : Answer :=
  .ofResult do
    let format ← SourceFormat.parse format
    MetaConfig.convert .default format source

/-- Markers from a JSON text; a blank text lists none. -/
def readMarkers (text : Text) : Except Problem Markers :=
  if isBlankText text then .ok .empty else Markers.ofJson text

def highlight (format : HighlightFormat) (source markers : Text) : Answer :=
  .ofResult do
    let markers ← readMarkers markers
    .ok (MetaConfig.highlight format markers source)

def highlightHtml : (source markers : Text) → Answer := highlight .html

def highlightJson : (source markers : Text) → Answer := highlight .json

def detectFormat (fileName current : Text) : Text :=
  ((SourceFormat.detect? fileName).map SourceFormat.name).getD current

end MetaConfig.Page
