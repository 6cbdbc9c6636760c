import MetaConfig.Text.Basic

/-!
Sizes and positions counted in bytes of the UTF-8 form. A position is given either as an
offset from the start or as a line, counted from one, with a number of bytes in that line.
-/

namespace MetaConfig.Text

def byteSize : Text → Nat
  | [] => 0
  | char :: rest => char.utf8Size + byteSize rest

structure Position where
  line : Nat
  column : Nat
  deriving DecidableEq, Repr

/-- Moves a position over a number of bytes of the text, which may end inside a character. -/
def Position.advance (position : Position) : (bytes : Nat) → Text → Position
  | _, [] => position
  | bytes, char :: rest =>
      if bytes < char.utf8Size then { position with column := position.column + bytes }
      else
        let next : Position :=
          if char = '\n' then ⟨position.line + 1, 0⟩
          else ⟨position.line, position.column + char.utf8Size⟩
        next.advance (bytes - char.utf8Size) rest

def positionAt (offset : Nat) (text : Text) : Position :=
  Position.advance ⟨1, 0⟩ offset text

def offsetInPieces (start lines column : Nat) : List Text → Option Nat
  | [] => none
  | piece :: others =>
      match lines with
      | 0 => some (start + min (column - 1) (byteSize piece))
      | lines + 1 => offsetInPieces (start + byteSize piece + 1) lines column others

/-- The offset of a line and a column, both counted from one, held inside the text: a
line past the last one stands for the end. There is no line zero. -/
def offsetOf (text : Text) (line column : Nat) : Option Nat :=
  match line with
  | 0 => none
  | lines + 1 =>
      some ((offsetInPieces 0 lines column (pieces '\n' text)).getD (byteSize text))

end MetaConfig.Text
