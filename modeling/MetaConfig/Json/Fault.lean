import MetaConfig.Text.Bytes
import MetaConfig.Text.Decimal

/-!
What can be wrong with a JSON text, and where. A fault is placed by the number of bytes of the
text that come after it, so that a reader needs to know no more than what is left to be read.
-/

namespace MetaConfig.Json

inductive Reason where
  | unfinishedValue
  | unfinishedList
  | unfinishedObject
  | unfinishedString
  | unknownWord
  | missingValue
  | missingColon
  | missingListComma
  | missingObjectComma
  | trailingComma
  | trailingCharacters
  | nameNotString
  | invalidNumber
  | numberOutOfRange
  | invalidEscape
  | controlCharacter
  | loneSurrogate
  | unfinishedSurrogate
  | nestingTooDeep
  | refused (message : Text)
  deriving DecidableEq, Repr

def Reason.message : Reason → Text
  | unfinishedValue => "EOF while parsing a value".toList
  | unfinishedList => "EOF while parsing a list".toList
  | unfinishedObject => "EOF while parsing an object".toList
  | unfinishedString => "EOF while parsing a string".toList
  | unknownWord => "expected ident".toList
  | missingValue => "expected value".toList
  | missingColon => "expected `:`".toList
  | missingListComma => "expected `,` or `]`".toList
  | missingObjectComma => "expected `,` or `\x7d`".toList
  | trailingComma => "trailing comma".toList
  | trailingCharacters => "trailing characters".toList
  | nameNotString => "key must be a string".toList
  | invalidNumber => "invalid number".toList
  | numberOutOfRange => "number out of range".toList
  | invalidEscape => "invalid escape".toList
  | controlCharacter =>
      "control character (\\u0000-\\u001F) found while parsing a string".toList
  | loneSurrogate => "lone leading surrogate in hex escape".toList
  | unfinishedSurrogate => "unexpected end of hex escape".toList
  | nestingTooDeep => "recursion limit exceeded".toList
  | refused message => message

structure Fault where
  reason : Reason
  /-- How many bytes of the text come after the place of the fault. -/
  left : Nat
  deriving DecidableEq, Repr

namespace Fault

def before (reason : Reason) (rest : Text) : Fault := ⟨reason, Text.byteSize rest⟩

/-- A fault that the next byte makes, if there is one. -/
def onNext (reason : Reason) (rest : Text) : Fault := ⟨reason, Text.byteSize rest - 1⟩

def offset (source : Text) (fault : Fault) : Nat := Text.byteSize source - fault.left

def position (source : Text) (fault : Fault) : Text.Position :=
  Text.positionAt (fault.offset source) source

def print (source : Text) (fault : Fault) : Text :=
  let position := fault.position source
  fault.reason.message ++ " at line ".toList ++ Text.ofNat position.line ++
    " column ".toList ++ Text.ofNat position.column

end Fault

end MetaConfig.Json
