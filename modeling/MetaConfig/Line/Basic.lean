import MetaConfig.Text.Decimal

/-!
The lines of a meta document: comments, tags, typed declarations, blank lines and all other
text, and the text that each of them is written as.
-/

namespace MetaConfig

inductive ValueType where
  | string
  | int
  | bool
  | float
  | env
  deriving DecidableEq, Repr

namespace ValueType

def all : List ValueType := [string, int, bool, float, env]

def keyword : ValueType → Text
  | string => "string".toList
  | int => "int".toList
  | bool => "bool".toList
  | float => "float".toList
  | env => "env".toList

def ofKeyword? (word : Text) : Option ValueType := all.find? fun type => type.keyword == word

theorem mem_all (type : ValueType) : type ∈ all := by cases type <;> decide

theorem ofKeyword?_keyword (type : ValueType) : ofKeyword? type.keyword = some type := by
  cases type <;> decide

theorem eq_keyword_of_ofKeyword? {word : Text} {type : ValueType}
    (found : ofKeyword? word = some type) : type.keyword = word := by
  simpa using List.find?_some found

end ValueType

/-- A marker `$ENV(argument)` inside a value, with the text on both sides of it. -/
structure EnvReference where
  before : Text
  argument : Text
  after : Text
  deriving DecidableEq, Repr

def EnvReference.marker : Text := "$ENV".toList

def EnvReference.print (reference : EnvReference) : Text :=
  reference.before ++ marker ++ ['('] ++ reference.argument ++ [')'] ++ reference.after

structure Declaration where
  indent : Text
  key : Text
  type : ValueType
  value : Text
  reference : Option EnvReference
  deriving DecidableEq, Repr

def Declaration.print (declaration : Declaration) : Text :=
  declaration.indent ++ declaration.key ++ [':'] ++ declaration.type.keyword ++ [' '] ++
    declaration.value

inductive Line where
  | comment (text : Text)
  | tag (name rest : Text)
  | declaration (declaration : Declaration)
  | blank
  | other (text : Text)
  deriving DecidableEq, Repr

namespace Line

inductive Kind where
  | comment
  | tag
  | declaration
  | blank
  | other
  deriving DecidableEq, Repr

def Kind.name : Kind → Text
  | comment => "comment".toList
  | tag => "tag".toList
  | declaration => "declaration".toList
  | blank => "blank".toList
  | other => "opaque".toList

def Kind.ofName? (word : Text) : Option Kind :=
  [Kind.comment, .tag, .declaration, .blank, .other].find? fun kind => kind.name == word

def kind : Line → Kind
  | comment _ => .comment
  | tag _ _ => .tag
  | declaration _ => .declaration
  | blank => .blank
  | other _ => .other

def declaration? : Line → Option Declaration
  | declaration found => some found
  | _ => none

def print : Line → Text
  | comment text => text
  | tag name rest => if rest.isEmpty then name else name ++ [' '] ++ rest
  | declaration found => found.print
  | blank => []
  | other text => text

end Line

end MetaConfig
