import MetaConfig.Text.Decimal

/-!
Places in a YAML text and what can be wrong there.
-/

namespace MetaConfig.Yaml

open Text

/-- A place, counted from zero: in bytes from the start of the text, in lines, and in characters
of the line. -/
structure Mark where
  index : Nat
  line : Nat
  column : Nat
  deriving DecidableEq, Repr

namespace Mark

def start : Mark := ⟨0, 0, 0⟩

def isStart (mark : Mark) : Bool := mark.line == 0 && mark.column == 0

def sameLineAndColumn (mark other : Mark) : Bool :=
  mark.line == other.line && mark.column == other.column

def print (mark : Mark) : Text :=
  if mark.isStart then []
  else
    " at line ".toList ++ ofNat (mark.line + 1) ++ " column ".toList ++ ofNat (mark.column + 1)

end Mark

inductive Fault where
  | forbiddenCharacter (offset : Nat)
  | malformed (problem : Text) (place : Mark) (context : Option (Text × Mark))
  deriving DecidableEq, Repr

/-- The place of what a fault was met in is left out when it adds nothing. -/
def Fault.print : Fault → Text
  | forbiddenCharacter offset =>
      "control characters are not allowed".toList ++
        (if offset = 0 then [] else " at position ".toList ++ ofNat offset)
  | malformed problem place none => problem ++ place.print
  | malformed problem place (some (context, began)) =>
      problem ++ place.print ++ ", ".toList ++ context ++
        (if began.sameLineAndColumn place then [] else began.print)

end MetaConfig.Yaml
