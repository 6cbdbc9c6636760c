import MetaConfig.Line.Classify

/-!
Documents as numbered lines. A document is cut at line feeds alone; a carriage return at the
end of a line belongs to the line break.
-/

namespace MetaConfig

structure NumberedLine where
  number : Nat
  line : Line
  deriving DecidableEq, Repr

def NumberedLine.describe (numbered : NumberedLine) : Text :=
  numbered.line.kind.name ++ " at line ".toList ++ Text.ofNat numbered.number

namespace Document

/-- The lines of a document, without their line breaks; a final line break is followed by one
empty line more. -/
def lines (source : Text) : List Text :=
  (Text.pieces '\n' source).map (Text.dropLastChar '\r')

def numberFrom {item : Type} (first : Nat) : List item → List (Nat × item)
  | [] => []
  | head :: others => (first, head) :: numberFrom (first + 1) others

def read (source : Text) : List NumberedLine :=
  (numberFrom 1 (lines source)).map fun (number, text) => ⟨number, Line.classify text⟩

end Document

end MetaConfig
