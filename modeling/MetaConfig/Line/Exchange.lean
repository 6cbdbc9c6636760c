import MetaConfig.Json.Fields
import MetaConfig.Line.Basic

/-!
Classified lines as JSON values, and read back from them. The member `kind` names what the line
is, and the other members are its parts.
-/

namespace MetaConfig

open Json

namespace EnvReference

def toValue (reference : EnvReference) : Value :=
  .object
    [ ("prefix".toList, .string reference.before),
      ("argument".toList, .string reference.argument),
      ("suffix".toList, .string reference.after) ]

def ofValue? (value : Value) : Option EnvReference :=
  match value.fields? [["prefix".toList], ["argument".toList], ["suffix".toList]] with
  | some [some before, some argument, some after] => do
      pure ⟨← before.string?, ← argument.string?, ← after.string?⟩
  | _ => none

end EnvReference

namespace Declaration

def referenceOfMember? : Option Value → Option (Option EnvReference)
  | none => some none
  | some .null => some none
  | some value => (EnvReference.ofValue? value).map some

def typeOfValue? : Value → Option ValueType
  | .object [(word, .object [])] => ValueType.ofKeyword? word
  | value => value.word?.bind ValueType.ofKeyword?

def ofValue? (value : Value) : Option Declaration :=
  match value, value.fields?
      [["indent".toList], ["key".toList], ["value_type".toList], ["raw_value".toList],
        ["env_reference".toList]] with
  | .array _, some [_, _, _, _, none] => none
  | _, some [some indent, some key, some type, some content, reference] => do
      pure ⟨← indent.string?, ← key.string?, ← typeOfValue? type, ← content.string?,
        ← referenceOfMember? reference⟩
  | _, _ => none

end Declaration

namespace Line

def toValue (line : Line) : Value :=
  let members :=
    match line with
    | comment text => [("text".toList, .string text)]
    | tag name rest => [("name".toList, .string name), ("rest".toList, .string rest)]
    | declaration found =>
        [ ("indent".toList, .string found.indent),
          ("key".toList, .string found.key),
          ("value_type".toList, .string found.type.keyword),
          ("raw_value".toList, .string found.value),
          ("env_reference".toList, (found.reference.map EnvReference.toValue).getD .null) ]
    | blank => []
    | other text => [("text".toList, .string text)]
  .object (("kind".toList, .string line.kind.name) :: members)

def textOfParts? (parts : Value) : Option Text :=
  match parts.fields? [["text".toList]] with
  | some [some text] => text.string?
  | _ => none

def ofParts? (parts : Value) : Kind → Option Line
  | .comment => (textOfParts? parts).map comment
  | .tag =>
      match parts.fields? [["name".toList], ["rest".toList]] with
      | some [some name, some rest] => do pure (tag (← name.string?) (← rest.string?))
      | _ => none
  | .declaration => (Declaration.ofValue? parts).map declaration
  | .blank =>
      match parts with
      | .array (_ :: _) => none
      | _ => some blank
  | .other => (textOfParts? parts).map other

/-- A line is an object, in which members that a line of its kind does not have are passed over,
or an array of the name of its kind and its parts. -/
def ofValue? : Value → Option Line
  | .array (.string word :: parts) => (Kind.ofName? word).bind (ofParts? (.array parts))
  | value => do
      let word ← (← value.member? "kind".toList).string?
      ofParts? value (← Kind.ofName? word)

end Line

end MetaConfig
