import MetaConfig.Binary64.Print
import MetaConfig.Json.Value

/-!
Writing JSON values, on one line or with an indent of two blanks for each level.
-/

namespace MetaConfig

open Text

namespace Json

def escapeChar (char : Char) : Text :=
  if char = '"' then ['\\', '"']
  else if char = '\\' then ['\\', '\\']
  else if char = '\x08' then ['\\', 'b']
  else if char = '\x0c' then ['\\', 'f']
  else if char = '\n' then ['\\', 'n']
  else if char = '\r' then ['\\', 'r']
  else if char = '\t' then ['\\', 't']
  else if char.toNat < 0x20 then
    ['\\', 'u', '0', '0'] ++ (if char.toNat < 0x10 then ['0'] else []) ++ ofNatHex char.toNat
  else [char]

def printString (text : Text) : Text := ['"'] ++ text.flatMap escapeChar ++ ['"']

def Number.print : Number → Text
  | integer value => ofInt value
  | real value => value.print

inductive Layout where
  | compact
  | indented
  deriving DecidableEq, Repr

def Layout.lineBreak : Layout → (level : Nat) → Text
  | compact, _ => []
  | indented, level => '\n' :: List.replicate (2 * level) ' '

def Layout.colon : Layout → Text
  | compact => [':']
  | indented => [':', ' ']

mutual

def Value.printAt (layout : Layout) (level : Nat) : Value → Text
  | .null => "null".toList
  | .boolean true => "true".toList
  | .boolean false => "false".toList
  | .number value => value.print
  | .string value => printString value
  | .array [] => ['[', ']']
  | .array (first :: others) =>
      ['['] ++ printItems layout (level + 1) (first :: others) ++ layout.lineBreak level ++ [']']
  | .object [] => ['\x7b', '\x7d']
  | .object (first :: others) =>
      ['\x7b'] ++ printMembers layout (level + 1) (first :: others) ++ layout.lineBreak level ++
        ['\x7d']

def printItems (layout : Layout) (level : Nat) : List Value → Text
  | [] => []
  | item :: items =>
      layout.lineBreak level ++ item.printAt layout level ++
        (if items.isEmpty then [] else [',']) ++ printItems layout level items

def printMembers (layout : Layout) (level : Nat) : List (Text × Value) → Text
  | [] => []
  | (name, value) :: members =>
      layout.lineBreak level ++ printString name ++ layout.colon ++
        value.printAt layout level ++ (if members.isEmpty then [] else [',']) ++
        printMembers layout level members

end

def Value.print (layout : Layout) (value : Value) : Text := value.printAt layout 0

end Json

end MetaConfig
