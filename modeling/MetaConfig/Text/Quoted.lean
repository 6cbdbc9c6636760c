import MetaConfig.Text.Decimal
import MetaConfig.Text.CaseTable
import MetaConfig.Text.PrintTable

/-!
Texts in double quotes for messages: quotes, backslashes and the usual controls are written
with a backslash, and what has no visible form of its own as its code point in braces.
-/

namespace MetaConfig.Text

def escapeChar (char : Char) : Text :=
  if char = '\x00' then ['\\', '0']
  else if char = '\t' then ['\\', 't']
  else if char = '\r' then ['\\', 'r']
  else if char = '\n' then ['\\', 'n']
  else if char = '"' then ['\\', '"']
  else if char = '\\' then ['\\', '\\']
  else if liesWithin graphemeExtendBounds char || liesWithin invisibleBounds char then
    ['\\', 'u', '\x7b'] ++ ofNatHex char.toNat ++ ['\x7d']
  else [char]

def quoted (text : Text) : Text := ['"'] ++ text.flatMap escapeChar ++ ['"']

end MetaConfig.Text
