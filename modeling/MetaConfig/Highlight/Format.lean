import MetaConfig.Highlight.Html
import MetaConfig.Highlight.Json
import MetaConfig.Highlight.Terminal
import MetaConfig.Problem

/-!
The forms in which a highlighted document is written, and their names.
-/

namespace MetaConfig

open Text

inductive HighlightFormat where
  | ansi
  | html
  | json
  deriving DecidableEq, Repr

namespace HighlightFormat

def all : List HighlightFormat := [ansi, html, json]

def name : HighlightFormat → Text
  | ansi => "ansi".toList
  | html => "html".toList
  | json => "json".toList

def aliases : HighlightFormat → List Text
  | ansi => ["ansi".toList, "terminal".toList, "term".toList]
  | html => ["html".toList]
  | json => ["json".toList]

def parse? (word : Text) : Option HighlightFormat :=
  all.find? fun format => format.aliases.contains (lower word)

def parse (word : Text) : Except Problem HighlightFormat :=
  match parse? word with
  | some format => .ok format
  | none => .error (.unknownFormat word (all.map name))

end HighlightFormat

def Text.withinCapacity (capacity : Nat) (output : Text) : Except Problem Text :=
  if byteSize output ≤ capacity then .ok output
  else .error (.io "failed to write whole buffer".toList)

def highlight (format : HighlightFormat) (markers : Markers) (source : Text) : Text :=
  let lines := Document.render markers source
  match format with
  | .ansi => Terminal.highlight .default lines
  | .html => Html.highlight Html.defaultContainerClass lines
  | .json => Json.highlight .compact lines

end MetaConfig
