import MetaConfig.Render.Span

/-!
Highlighting for a terminal. Each role has a style of its own or none; a marked line shows a
bullet in front and its message behind, and then all lines are moved to the right.
-/

namespace MetaConfig

open Text

namespace Terminal

inductive Colour where
  | black
  | red
  | green
  | yellow
  | blue
  | magenta
  | cyan
  | white
  | brightBlack
  | brightRed
  | brightGreen
  | brightYellow
  | brightBlue
  | brightMagenta
  | brightCyan
  | brightWhite
  deriving DecidableEq, Repr

def Colour.code : Colour → Nat
  | black => 30
  | red => 31
  | green => 32
  | yellow => 33
  | blue => 34
  | magenta => 35
  | cyan => 36
  | white => 37
  | brightBlack => 90
  | brightRed => 91
  | brightGreen => 92
  | brightYellow => 93
  | brightBlue => 94
  | brightMagenta => 95
  | brightCyan => 96
  | brightWhite => 97

structure Style where
  colour : Option Colour := none
  bold : Bool := false
  dimmed : Bool := false
  italic : Bool := false
  underline : Bool := false
  /-- The numbers of effects that have no field, such as a background. -/
  further : List Nat := []
  deriving DecidableEq, Repr

def Style.codes (style : Style) : List Nat :=
  (style.colour.map Colour.code).toList ++ (if style.bold then [1] else []) ++
    (if style.dimmed then [2] else []) ++ (if style.italic then [3] else []) ++
    (if style.underline then [4] else []) ++ style.further

def escapeSequence (codes : List Nat) : Text :=
  ['\x1b', '['] ++ joinWith [';'] (codes.map ofNat) ++ ['m']

/-- The text between the sequences that switch the style on and off; a style without any effect
leaves it alone. -/
def Style.apply (style : Style) (text : Text) : Text :=
  if style.codes.isEmpty then text
  else escapeSequence style.codes ++ text ++ escapeSequence [0]

def paint (style : Option Style) (text : Text) : Text :=
  match style with
  | some style => style.apply text
  | none => text

structure Palette where
  role : SpanRole → Option Style
  severity : Severity → Option Style
  message : Option Style

namespace Palette

def plain : Palette := ⟨fun _ => none, fun _ => none, none⟩

def default : Palette where
  role
    | .comment => some { colour := some .green }
    | .tag => some { colour := some .magenta, bold := true }
    | .plain => none
    | .indent => none
    | .key => some { colour := some .yellow }
    | .separator => some { colour := some .brightBlack }
    | .type => some { colour := some .blue }
    | .boolean => some { colour := some .brightGreen, bold := true }
    | .stringValue => some { colour := some .brightWhite }
    | .literal => some { colour := some .brightGreen }
    | .envMarker => some { colour := some .cyan }
    | .punctuation => some { colour := some .brightBlack }
    | .placeholder => none
  severity
    | .error => some { colour := some .red }
    | .warning => some { colour := some .yellow }
  message := some { dimmed := true }

def withStyle (palette : Palette) (role : SpanRole) (style : Style) : Palette :=
  { palette with role := fun other => if other = role then some style else palette.role other }

end Palette

def bullet : Text := ['●']

def gutter (palette : Palette) : Option Indicator → Text
  | some indicator => paint (palette.severity indicator.severity) bullet ++ [' ']
  | none => [' ', ' ']

/-- Plain text and indents are never styled, and the placeholder of a blank line is left out. -/
def paintSpan (palette : Palette) (span : Span) : Text :=
  match span.role with
  | .placeholder => []
  | .plain => span.text
  | .indent => span.text
  | role => paint (palette.role role) span.text

def note (palette : Palette) : Option Indicator → Text
  | some indicator =>
      paint palette.message
        ("  # ".toList ++ indicator.severity.name ++ ": ".toList ++ indicator.message)
  | none => []

def highlightLine (palette : Palette) (marked : Bool) (line : RenderedLine) : Text :=
  (if marked then gutter palette line.indicator else []) ++
    line.spans.flatMap (paintSpan palette) ++ note palette line.indicator

def highlight (palette : Palette) (lines : List RenderedLine) : Text :=
  let marked := lines.any fun line => line.indicator.isSome
  joinWith ['\n'] (lines.map (highlightLine palette marked))

end Terminal

end MetaConfig
