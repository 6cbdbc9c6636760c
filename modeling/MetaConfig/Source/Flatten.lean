import MetaConfig.Json.Printer
import MetaConfig.Json.Reader
import MetaConfig.Problem
import MetaConfig.Scalar

/-!
Settings from a JSON object: one for each scalar in it, keyed by the path to it. Names of members
are put in lower case, and the parts of a path are joined by underscores.
-/

namespace MetaConfig

open Text

/-- The text with each line break, of one character or two, written as a backslash and an `n`. -/
def Text.escapeLineBreaks : Text → Text
  | [] => []
  | '\r' :: '\n' :: rest => '\\' :: 'n' :: escapeLineBreaks rest
  | char :: rest =>
      if char = '\n' ∨ char = '\r' then '\\' :: 'n' :: escapeLineBreaks rest
      else char :: escapeLineBreaks rest

def Scalar.ofNumber : Json.Number → Scalar
  | .integer value => ⟨ofInt value, .int⟩
  | .real value =>
      match value.whole? with
      | some whole => ⟨(if value.negative then ['-'] else []) ++ ofNat whole, .int⟩
      | none => ⟨value.print, .float⟩

def Scalar.ofJson? : Json.Value → Option Scalar
  | .null => some ⟨"null".toList, .string⟩
  | .boolean true => some ⟨"true".toList, .bool⟩
  | .boolean false => some ⟨"false".toList, .bool⟩
  | .number value => some (ofNumber value)
  | .string value => some (infer (escapeLineBreaks value))
  | .array _ => none
  | .object _ => none

namespace Flatten

def memberPath (path name : Text) : Text :=
  if path.isEmpty then lower name else path ++ ['_'] ++ lower name

def itemPath (path : Text) (index : Nat) : Text := path ++ ['_'] ++ ofNat index

def leaf (path : Text) (value : Json.Value) : List Setting :=
  match Scalar.ofJson? value with
  | none => []
  | some scalar => if scalar.literal.isEmpty then [] else [⟨path, scalar⟩]

mutual

def settings (path : Text) : Json.Value → List Setting
  | .object members => memberSettings path members
  | .array items => itemSettings path 0 items
  | .null => leaf path .null
  | .boolean value => leaf path (.boolean value)
  | .number value => leaf path (.number value)
  | .string value => leaf path (.string value)

def memberSettings (path : Text) : List (Text × Json.Value) → List Setting
  | [] => []
  | (name, value) :: members =>
      settings (memberPath path name) value ++ memberSettings path members

def itemSettings (path : Text) (index : Nat) : List Json.Value → List Setting
  | [] => []
  | item :: items =>
      settings (itemPath path index) item ++ itemSettings path (index + 1) items

end

def describe : Json.Value → Text
  | .null => "null".toList
  | .boolean _ => "a boolean".toList
  | .number _ => "a number".toList
  | .string _ => "a string".toList
  | .array _ => "an array".toList
  | .object _ => "an object".toList

def problemOf (source : Text) (fault : Json.Fault) : Problem :=
  let position := fault.position source
  .malformed .json (fault.print source)
    ((offsetOf source position.line position.column).map fun offset => ⟨offset, 0⟩)

def read (source : Text) : Except Problem (List Setting) :=
  match Json.Value.read source with
  | .error fault => .error (problemOf source fault)
  | .ok (.object members) => .ok (settings [] (.object members))
  | .ok value =>
      .error (.unsupported .json ("the top level must be an object, found ".toList ++
        describe value))

end Flatten

end MetaConfig
