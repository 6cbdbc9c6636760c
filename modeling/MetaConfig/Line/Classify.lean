import MetaConfig.Line.Basic
import MetaConfig.Text.Blank

/-!
Classification of a line. Comments win over tags and tags over declarations; what is none of
these is blank or other text. A declaration is
`indent key ":" keyword separator value`, with a separator of one or more blanks that is as
long as the value, which is one or more characters other than a line feed, allows.
-/

namespace MetaConfig

open Text

namespace EnvReference

def markerAtStart? (text : Text) : Option (Text × Text) :=
  match after? (marker ++ ['(']) text with
  | none => none
  | some inside =>
      let argument := inside.takeWhile (· != ')')
      match inside.drop argument.length with
      | [] => none
      | _ :: after => if argument.isEmpty then none else some (argument, after)

def find? : Text → Option EnvReference
  | [] => none
  | char :: rest =>
      match markerAtStart? (char :: rest) with
      | some (argument, after) => some ⟨[], argument, after⟩
      | none => (find? rest).map fun found => { found with before := char :: found.before }

end EnvReference

namespace Declaration

def isKeyChar (char : Char) : Bool := ('a' ≤ char && char ≤ 'z') || char == '_'

/-- The value in what follows a type keyword: all that stands after the separating blanks, or
the last blank when there are only blanks. -/
def valueAfterKeyword? (tail : Text) : Option Text :=
  let separator := tail.takeWhile isBlank
  let value :=
    match tail.dropWhile isBlank with
    | [] => separator.drop (max 1 (separator.length - 1))
    | value => value
  if separator.isEmpty || value.isEmpty || value.contains '\n' then none else some value

def parse? (text : Text) : Option Declaration := do
  let unindented := trimStart text
  let key := unindented.takeWhile isKeyChar
  guard !key.isEmpty
  let tail ← after? [':'] (unindented.drop key.length)
  let word := tail.takeWhile fun char => !isBlank char
  let type ← ValueType.ofKeyword? word
  let value ← valueAfterKeyword? (tail.drop word.length)
  pure ⟨Text.indent text, key, type, value, EnvReference.find? value⟩

def pattern : Text := "^(\\s*)([a-z_]+):(string|int|bool|float|env)\\s+(.+)$".toList

def isDeclaration (text : Text) : Bool := (parse? text).isSome

end Declaration

namespace Line

def classify (text : Text) : Line :=
  let trimmed := trim text
  match trimmed with
  | '#' :: _ => comment text
  | '@' :: _ =>
      let (name, rest) := (splitOnce ' ' trimmed).getD (trimmed, [])
      tag name rest
  | _ =>
      match Declaration.parse? text with
      | some found => declaration found
      | none => if trimmed.isEmpty then blank else other text

end Line

end MetaConfig
