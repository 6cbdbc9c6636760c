import MetaConfig.Line.Basic

/-!
Typed values and settings. The type of a text is that of the first rule that it meets: boolean,
integer, fraction, environment reference, string.
-/

namespace MetaConfig

open Text

structure Scalar where
  literal : Text
  type : ValueType
  deriving DecidableEq, Repr

structure Setting where
  key : Text
  scalar : Scalar
  deriving DecidableEq, Repr

def Setting.print (setting : Setting) : Text :=
  setting.key ++ [':'] ++ setting.scalar.type.keyword ++ [' '] ++ setting.scalar.literal

namespace Scalar

def isBooleanText (text : Text) : Bool :=
  text.map Char.toLower == "true".toList || text.map Char.toLower == "false".toList

def withoutMinus : Text → Text
  | '-' :: rest => rest
  | text => text

def isIntegerText (text : Text) : Bool :=
  !(withoutMinus text).isEmpty && (withoutMinus text).all isDigit

def isFractionText (text : Text) : Bool :=
  match splitOnce '.' (withoutMinus text) with
  | some (whole, fraction) => whole.all isDigit && !fraction.isEmpty && fraction.all isDigit
  | none => false

def infer (text : Text) : Scalar :=
  if isBooleanText text then ⟨text.map Char.toLower, .bool⟩
  else if isIntegerText text then ⟨text, .int⟩
  else if isFractionText text then ⟨text, .float⟩
  else if text.contains '$' then ⟨text, .env⟩
  else ⟨text, .string⟩

end Scalar

namespace Text

def unquotedBy? (quote : Char) : Text → Option Text
  | [] => none
  | first :: rest =>
      if first = quote ∧ rest.getLast? = some quote then some rest.dropLast else none

def unquoted (text : Text) : Text :=
  ((unquotedBy? '"' text).orElse fun _ => unquotedBy? '\'' text).getD text

end Text

end MetaConfig
