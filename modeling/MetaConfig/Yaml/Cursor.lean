import MetaConfig.Text.Bytes
import MetaConfig.Yaml.Fault

/-!
What is left of a YAML text, with its place.
-/

namespace MetaConfig.Yaml

open Text

structure Cursor where
  rest : Text
  mark : Mark
  deriving DecidableEq, Repr

def isBreak (char : Char) : Bool :=
  char == '\n' || char == '\r' || char == '\u0085' || char == '\u2028' || char == '\u2029'

def isBlank (char : Char) : Bool := char == ' ' || char == '\t'

def isNameChar (char : Char) : Bool :=
  ('a' ≤ char && char ≤ 'z') || ('A' ≤ char && char ≤ 'Z') || isDigit char || char == '_' ||
    char == '-'

namespace Cursor

/-- The start of a text. A byte order mark before everything else is not part of it. -/
def ofText (text : Text) : Cursor :=
  ⟨if text.head? = some '\ufeff' then text.drop 1 else text, .start⟩

def ahead? (cursor : Cursor) (distance : Nat) : Option Char := cursor.rest[distance]?

def char? (cursor : Cursor) : Option Char := cursor.rest.head?

def startsWith (cursor : Cursor) (char : Char) : Bool := cursor.char? == some char

def atEnd (cursor : Cursor) : Bool := cursor.rest.isEmpty

def atBlank (cursor : Cursor) : Bool := cursor.char?.any isBlank

def atBreak (cursor : Cursor) : Bool := cursor.char?.any isBreak

def atBreakOrEnd (cursor : Cursor) : Bool := cursor.char?.all isBreak

def isGapAhead (cursor : Cursor) (distance : Nat) : Bool :=
  (cursor.ahead? distance).all fun char => isBlank char || isBreak char

def atGap (cursor : Cursor) : Bool := cursor.isGapAhead 0

def skip (cursor : Cursor) : Cursor :=
  { rest := cursor.rest.drop 1
    mark :=
      ⟨cursor.mark.index + byteSize (cursor.rest.take 1), cursor.mark.line,
        cursor.mark.column + 1⟩ }

def skipMany (cursor : Cursor) : (count : Nat) → Cursor
  | 0 => cursor
  | count + 1 => cursor.skip.skipMany count

def skipWhile (accepts : Char → Bool) (cursor : Cursor) : Cursor :=
  cursor.skipMany (cursor.rest.takeWhile accepts).length

def skipBlanks : Cursor → Cursor := skipWhile isBlank

def skipComment (cursor : Cursor) : Cursor :=
  if cursor.startsWith '#' then cursor.skipWhile fun char => !isBreak char else cursor

/-- A line break, as it counts in a scalar, and the cursor after it. All breaks but the line and
paragraph separators count as line feeds. -/
def takeBreak (cursor : Cursor) : Text × Cursor :=
  let next (length : Nat) : Cursor :=
    { rest := cursor.rest.drop length
      mark :=
        ⟨cursor.mark.index + byteSize (cursor.rest.take length), cursor.mark.line + 1, 0⟩ }
  match cursor.rest with
  | '\r' :: '\n' :: _ => (['\n'], next 2)
  | char :: _ =>
      if char = '\u2028' ∨ char = '\u2029' then ([char], next 1)
      else if isBreak char then (['\n'], next 1)
      else ([], cursor)
  | [] => ([], cursor)

def skipBreak (cursor : Cursor) : Cursor := cursor.takeBreak.2

def atDocumentMarker (char : Char) (cursor : Cursor) : Bool :=
  cursor.mark.column == 0 && cursor.rest.take 3 == [char, char, char] && cursor.isGapAhead 3

def atAnyDocumentMarker (cursor : Cursor) : Bool :=
  cursor.atDocumentMarker '-' || cursor.atDocumentMarker '.'

def fault {result : Type} (cursor : Cursor) (context : String) (began : Mark)
    (problem : String) : Except Fault result :=
  .error (.malformed problem.toList cursor.mark (some (context.toList, began)))

end Cursor

end MetaConfig.Yaml
