import MetaConfig.Text.Basic

/-!
Blank characters, by the `White_Space` property of Unicode, and trimming by them.
-/

namespace MetaConfig.Text

def isBlank (char : Char) : Bool :=
  let code := char.toNat
  (9 ≤ code && code ≤ 13) || code == 0x20 || code == 0x85 || code == 0xA0 || code == 0x1680 ||
    (0x2000 ≤ code && code ≤ 0x200A) || code == 0x2028 || code == 0x2029 || code == 0x202F ||
    code == 0x205F || code == 0x3000

def indent (text : Text) : Text := text.takeWhile isBlank

def trimStart (text : Text) : Text := text.dropWhile isBlank

def trimEnd (text : Text) : Text := (text.reverse.dropWhile isBlank).reverse

def trim (text : Text) : Text := trimEnd (trimStart text)

def isBlankText (text : Text) : Bool := text.all isBlank

theorem indent_append_trimStart (text : Text) : indent text ++ trimStart text = text :=
  List.takeWhile_append_dropWhile

end MetaConfig.Text
