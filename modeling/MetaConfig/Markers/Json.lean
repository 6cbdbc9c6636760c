import MetaConfig.Json.Fields
import MetaConfig.Json.Printer
import MetaConfig.Json.Reader
import MetaConfig.Json.Skip
import MetaConfig.Markers.Basic
import MetaConfig.Problem
import MetaConfig.Text.Quoted

/-!
Lint markers from a JSON text: an array of records with the fields `line`, `message` and
`severity`. Each field is checked as it is read, so that the first fault of the text is the one
that is reported, be it one of form or one of content.
-/

namespace MetaConfig

open Text
open Json (Fault Value readScalar? readString readColon readEnd readWord skipBlanks nextItem nextName
  skipValue)

def Marker.toValue (marker : Marker) : Value :=
  .object
    [ ("line".toList, .ofNat marker.line),
      ("message".toList, .string marker.message),
      ("severity".toList, .string marker.severity.name) ]

def Marker.ofValue? (value : Value) : Option Marker :=
  match value.fields?
      [["line".toList], ["message".toList], ["severity".toList, "type".toList]] with
  | some [some line, some message, some severity] => do
      pure ⟨← line.natural?, ← message.string?, ← severity.word?.bind Severity.ofName?⟩
  | _ => none

namespace Markers.Json

def describe : Value → Text
  | .null => "null".toList
  | .boolean true => "boolean `true`".toList
  | .boolean false => "boolean `false`".toList
  | .number (.integer value) => "integer `".toList ++ ofInt value ++ "`".toList
  | .number (.real value) => "floating point `".toList ++ value.print ++ "`".toList
  | .string value => "string ".toList ++ quoted value
  | .array _ => "sequence".toList
  | .object _ => "map".toList

def refuse {result : Type} (message rest : Text) : Except Fault result :=
  .error (.before (.refused message) rest)

/-- Refuses the value at the start of the text, which is of another kind than expected. A list
or an object is refused where it begins, and any other value where it ends. -/
def refuseKind {result : Type} (expected text : Text) : Except Fault result := do
  let (value, rest) ←
    match ← readScalar? text with
    | some scalar => pure scalar
    | none => pure (if text.head? = some '[' then .array [] else .object [], text)
  refuse ("invalid type: ".toList ++ describe value ++ ", expected ".toList ++ expected) rest

def readLineNumber (text : Text) : Except Fault (Nat × Text) := do
  let text := skipBlanks text
  match ← readScalar? text with
  | some (.number (.integer (.ofNat number)), rest) => .ok (number, rest)
  | some (.number (.integer (.negSucc below)), rest) =>
      refuse ("invalid value: integer `".toList ++ ofInt (.negSucc below) ++
        "`, expected usize".toList) rest
  | _ => refuseKind "usize".toList text

def readMessage (text : Text) : Except Fault (Text × Text) := do
  let text := skipBlanks text
  match ← readScalar? text with
  | some (.string message, rest) => .ok (message, rest)
  | _ => refuseKind "a string".toList text

def severityOfWord (word rest : Text) : Except Fault (Severity × Text) :=
  match Severity.ofName? word with
  | some severity => .ok (severity, rest)
  | none => refuse (Severity.unknownMessage word) rest

def readSeverityMember (text : Text) : Except Fault (Severity × Text) := do
  match skipBlanks text with
  | [] => .error (.onNext .unfinishedObject [])
  | '"' :: rest => do
      let (word, rest) ← readString rest
      let (severity, rest) ← severityOfWord word rest
      let content := skipBlanks (← readColon rest)
      match ← readScalar? content with
      | some (.null, rest) =>
          match skipBlanks rest with
          | [] => .error (.before .unfinishedObject [])
          | '\x7d' :: rest => .ok (severity, rest)
          | rest => .error (.before .missingValue rest)
      | _ => refuseKind "unit".toList content
  | '\x7d' :: rest => .error (.onNext .missingValue ('\x7d' :: rest))
  | rest => .error (.onNext .nameNotString rest)

def readSeverity (text : Text) : Except Fault (Severity × Text) :=
  match skipBlanks text with
  | [] => .error (.onNext .unfinishedValue [])
  | '"' :: rest => do
      let (word, rest) ← readString rest
      severityOfWord word rest
  | '\x7b' :: rest => readSeverityMember rest
  | rest => .error (.onNext .missingValue rest)

structure Fields where
  line : Option Nat := none
  message : Option Text := none
  severity : Option Severity := none

def Fields.marker (fields : Fields) (rest : Text) : Except Fault (Marker × Text) :=
  match fields.line, fields.message, fields.severity with
  | some line, some message, some severity => .ok (⟨line, message, severity⟩, rest)
  | none, _, _ => refuse "missing field `line`".toList rest
  | _, none, _ => refuse "missing field `message`".toList rest
  | _, _, none => refuse "missing field `severity`".toList rest

def refuseSecond {result : Type} (field rest : Text) : Except Fault result :=
  let rest :=
    match skipBlanks rest with
    | '\x7d' :: after => after
    | rest => rest
  refuse ("duplicate field `".toList ++ field ++ "`".toList) rest

def readMembers : (fuel : Nat) → (first : Bool) → Fields → Text → Except Fault (Marker × Text)
  | 0, _, fields, text => fields.marker text
  | fuel + 1, first, fields, text => do
      let (more, rest) ← nextName first text
      if !more then fields.marker rest
      else
        let (name, rest) ← readString rest
        if name = "line".toList then
          if fields.line.isSome then refuseSecond name rest
          else
            let (line, rest) ← readLineNumber (← readColon rest)
            readMembers fuel false { fields with line := some line } rest
        else if name = "message".toList then
          if fields.message.isSome then refuseSecond name rest
          else
            let (message, rest) ← readMessage (← readColon rest)
            readMembers fuel false { fields with message := some message } rest
        else if name = "severity".toList ∨ name = "type".toList then
          if fields.severity.isSome then refuseSecond "severity".toList rest
          else
            let (severity, rest) ← readSeverity (← readColon rest)
            readMembers fuel false { fields with severity := some severity } rest
        else
          let rest ← skipValue (← readColon rest)
          readMembers fuel false fields rest

def requireItem (before : Nat) (text : Text) : Except Fault Text := do
  let (more, rest) ← nextItem (before == 0) text
  if more then .ok rest
  else
    refuse ("invalid length ".toList ++ ofNat before ++
      ", expected struct LintMarker with 3 elements".toList) rest

def readItemsEnd (text : Text) : Except Fault Text :=
  match skipBlanks text with
  | [] => .error (.onNext .unfinishedList [])
  | ']' :: rest => .ok rest
  | ',' :: rest =>
      match skipBlanks rest with
      | ']' :: rest => .error (.onNext .trailingComma (']' :: rest))
      | rest => .error (.onNext .trailingCharacters rest)
  | rest => .error (.onNext .trailingCharacters rest)

def readItems (text : Text) : Except Fault (Marker × Text) := do
  let (line, rest) ← readLineNumber (← requireItem 0 text)
  let (message, rest) ← readMessage (← requireItem 1 rest)
  let (severity, rest) ← readSeverity (← requireItem 2 rest)
  .ok (⟨line, message, severity⟩, ← readItemsEnd rest)

def readMarker (text : Text) : Except Fault (Marker × Text) :=
  match skipBlanks text with
  | [] => .error (.onNext .unfinishedValue [])
  | '[' :: rest => readItems rest
  | '\x7b' :: rest => readMembers (rest.length + 1) true {} rest
  | rest => refuseKind "struct LintMarker".toList rest

def readMarkers : (fuel : Nat) → (first : Bool) → Text → Except Fault (List Marker × Text)
  | 0, _, text => .ok ([], text)
  | fuel + 1, first, text => do
      let (more, rest) ← nextItem first text
      if more then
        let (marker, rest) ← readMarker rest
        let (markers, rest) ← readMarkers fuel false rest
        .ok (marker :: markers, rest)
      else .ok ([], rest)

def read (source : Text) : Except Fault (List Marker) :=
  match skipBlanks source with
  | [] => .error (.onNext .unfinishedValue [])
  | '[' :: rest => do
      let (markers, rest) ← readMarkers (rest.length + 1) true rest
      readEnd rest
      .ok markers
  | rest => refuseKind "a sequence".toList rest

end Markers.Json

def Markers.ofJson (source : Text) : Except Problem Markers :=
  match Markers.Json.read source with
  | .ok markers => .ok (ofList markers)
  | .error fault => .error (.invalidMarkers ("JSON: ".toList ++ fault.print source))

end MetaConfig
