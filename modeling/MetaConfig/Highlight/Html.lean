import MetaConfig.Render.Span

/-!
Highlighting as HTML: an element for each line, in it one for each span, and classes that name
the roles. Texts are escaped so that they can stand in elements and in attributes.
-/

namespace MetaConfig.Html

open Text

def escapeChar (char : Char) : Text :=
  if char = '&' then "&amp;".toList
  else if char = '<' then "&lt;".toList
  else if char = '>' then "&gt;".toList
  else if char = '"' then "&quot;".toList
  else if char = '\'' then "&#39;".toList
  else if char = '\u00a0' then "&nbsp;".toList
  else [char]

def escape (text : Text) : Text := text.flatMap escapeChar

def property (name value : Text) : Text :=
  [' '] ++ name ++ ['=', '"'] ++ escape value ++ ['"']

def element (name attributes content : Text) : Text :=
  ['<'] ++ name ++ attributes ++ ['>'] ++ content ++ ['<', '/'] ++ name ++ ['>']

def highlightIndicator (indicator : Indicator) : Text :=
  element "span".toList
    (property "class".toList ("lint lint-".toList ++ indicator.severity.name) ++
      property "title".toList indicator.message ++
      property "aria-label".toList indicator.message)
    []

/-- An indent stands as bare text, and every other span in an element. -/
def highlightSpan (span : Span) : Text :=
  match span.role with
  | .indent => escape span.text
  | role =>
      element "span".toList (property "class".toList ("meta-".toList ++ role.name))
        (escape span.text)

def highlightLine (line : RenderedLine) : Text :=
  element "div".toList
    (property "class".toList "line".toList ++
      property "data-line".toList (ofNat line.number))
    ((line.indicator.map highlightIndicator).getD [] ++ line.spans.flatMap highlightSpan)

def defaultContainerClass : Text := "meta-code".toList

def highlight (containerClass : Text) (lines : List RenderedLine) : Text :=
  element "pre".toList (property "class".toList containerClass)
    (['\n'] ++ lines.flatMap fun line => highlightLine line ++ ['\n']) ++ ['\n']

end MetaConfig.Html
