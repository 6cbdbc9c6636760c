import MetaConfig.Text.Basic

/-!
How grave a lint marker is.
-/

namespace MetaConfig

inductive Severity where
  | error
  | warning
  deriving DecidableEq, Repr

namespace Severity

def all : List Severity := [error, warning]

def name : Severity → Text
  | error => "error".toList
  | warning => "warning".toList

def ofName? (word : Text) : Option Severity := all.find? fun severity => severity.name == word

def unknownMessage (word : Text) : Text :=
  "unknown variant `".toList ++ word ++ "`, expected `error` or `warning`".toList

end Severity

end MetaConfig
