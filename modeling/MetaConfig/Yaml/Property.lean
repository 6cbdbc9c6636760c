import MetaConfig.Powers
import MetaConfig.Yaml.Cursor
import MetaConfig.Yaml.Token

/-!
Anchors, aliases, tags and directives.
-/

namespace MetaConfig.Yaml

open Text

def scanAnchor (isAlias : Bool) (cursor : Cursor) : Except Fault (Token × Cursor) :=
  let name := cursor.skip.rest.takeWhile isNameChar
  let after := cursor.skip.skipMany name.length
  let ends := after.atGap || after.char?.any fun char => "?:,]\x7d%@`".toList.contains char
  if name.isEmpty || !ends then
    after.fault (if isAlias then "while scanning an alias" else "while scanning an anchor")
      cursor.mark "did not find expected alphabetic or numeric character"
  else .ok (⟨if isAlias then .alias name else .anchor name, cursor.mark, after.mark⟩, after)

/-! ## Tags -/

def escapedWidth? (octet : Nat) : Option Nat :=
  if octet < 0x80 then some 1
  else if octet < 0xC0 then none
  else if octet < 0xE0 then some 2
  else if octet < 0xF0 then some 3
  else if octet < 0xF8 then some 4
  else none

def escapedOctet? (cursor : Cursor) : Option Nat :=
  match cursor.rest with
  | '%' :: high :: low :: _ => nat? 16 [high, low]
  | _ => none

def scanTrailingOctets (context : String) (began : Mark) (code : Nat) (cursor : Cursor) :
    (count : Nat) → Except Fault (Nat × Cursor)
  | 0 => .ok (code, cursor)
  | count + 1 =>
      match escapedOctet? cursor with
      | none => cursor.fault context began "did not find URI escaped octet"
      | some octet =>
          if octet / 64 = 2 then
            scanTrailingOctets context began (code * 64 + octet % 64) (cursor.skipMany 3) count
          else cursor.fault context began "found an incorrect trailing UTF-8 octet"

/-- The character with a code that was written in `width` bytes. There is none if fewer bytes
would do. -/
def escapedChar? (width code : Nat) : Option Char :=
  let least :=
    match width with
    | 1 => 0
    | 2 => 0x80
    | 3 => 0x800
    | _ => 0x10000
  if least ≤ code ∧ code.isValidChar then some (Char.ofNat code) else none

def scanEscapedChar (context : String) (began : Mark) (cursor : Cursor) :
    Except Fault (Option Char × Cursor) :=
  match escapedOctet? cursor with
  | none => cursor.fault context began "did not find URI escaped octet"
  | some octet =>
      match escapedWidth? octet with
      | none => cursor.fault context began "found an incorrect leading UTF-8 octet"
      | some width => do
          let bits := if width = 1 then octet else octet % twoTo (7 - width)
          let (code, after) ←
            scanTrailingOctets context began bits (cursor.skipMany 3) (width - 1)
          .ok (escapedChar? width code, after)

def isTagChar (full : Bool) (char : Char) : Bool :=
  isNameChar char || ";/?:@&=+$.%!~*'()".toList.contains char ||
    (full && ",[]".toList.contains char)

def scanTagChars (full : Bool) (context : String) (began : Mark) :
    (fuel : Nat) → Cursor → Except Fault (TagText × Cursor)
  | 0, cursor => .ok ([], cursor)
  | fuel + 1, cursor =>
      match cursor.char? with
      | none => .ok ([], cursor)
      | some char =>
          if char = '%' then do
            let (meant, after) ← scanEscapedChar context began cursor
            let (others, after) ← scanTagChars full context began fuel after
            .ok (meant :: others, after)
          else if isTagChar full char then do
            let (others, after) ← scanTagChars full context began fuel cursor.skip
            .ok (some char :: others, after)
          else .ok ([], cursor)

def scanTagText (full directive : Bool) (head : Text) (began : Mark) (cursor : Cursor) :
    Except Fault (TagText × Cursor) := do
  let context := if directive then "while parsing a %TAG directive" else "while parsing a tag"
  let (chars, after) ← scanTagChars full context began (cursor.rest.length + 1) cursor
  if head.isEmpty && chars.isEmpty then
    after.fault context began "did not find expected tag URI"
  else .ok ((TagText.ofText (head.drop 1) ++ chars).upToNull, after)

def scanTagHandle (directive : Bool) (began : Mark) (cursor : Cursor) :
    Except Fault (Text × Cursor) :=
  if !cursor.startsWith '!' then
    cursor.fault (if directive then "while scanning a tag directive" else "while scanning a tag")
      began "did not find expected '!'"
  else
    let name := cursor.skip.rest.takeWhile isNameChar
    let after := cursor.skip.skipMany name.length
    if after.startsWith '!' then .ok ('!' :: name ++ ['!'], after.skip)
    else if directive && !name.isEmpty then
      after.fault "while parsing a tag directive" began "did not find expected '!'"
    else .ok ('!' :: name, after)

def scanTagParts (cursor : Cursor) : Except Fault (Text × TagText × Cursor) := do
  let began := cursor.mark
  if cursor.ahead? 1 = some '<' then
    let (suffix, after) ← scanTagText true false [] began (cursor.skipMany 2)
    if after.startsWith '>' then .ok ([], suffix, after.skip)
    else after.fault "while scanning a tag" began "did not find the expected '>'"
  else
    let (handle, after) ← scanTagHandle false began cursor
    if 1 < handle.length ∧ handle.getLast? = some '!' then
      let (suffix, after) ← scanTagText false false [] began after
      .ok (handle, suffix, after)
    else
      let (suffix, after) ← scanTagText false false handle began after
      if suffix.isEmpty then .ok ([], .ofText ['!'], after) else .ok (['!'], suffix, after)

def scanTag (inFlow : Bool) (cursor : Cursor) : Except Fault (Token × Cursor) := do
  let (handle, suffix, after) ← scanTagParts cursor
  if after.atGap || (inFlow && after.startsWith ',') then
    .ok (⟨.tag handle suffix, cursor.mark, after.mark⟩, after)
  else
    after.fault "while scanning a tag" cursor.mark
      "did not find expected whitespace or line break"

/-! ## Directives -/

def scanVersionNumber (began : Mark) (cursor : Cursor) : Except Fault (Nat × Cursor) :=
  let digits := cursor.rest.takeWhile isDigit
  if 9 < digits.length then
    (cursor.skipMany 9).fault "while scanning a %YAML directive" began
      "found extremely long version number"
  else
    match nat? 10 digits with
    | none =>
        cursor.fault "while scanning a %YAML directive" began
          "did not find expected version number"
    | some number => .ok (number, cursor.skipMany digits.length)

def scanVersion (began : Mark) (cursor : Cursor) : Except Fault (TokenKind × Cursor) := do
  let (major, after) ← scanVersionNumber began cursor.skipBlanks
  if !after.startsWith '.' then
    after.fault "while scanning a %YAML directive" began
      "did not find expected digit or '.' character"
  else
    let (minor, after) ← scanVersionNumber began after.skip
    .ok (.versionDirective major minor, after)

def scanTagDefinition (began : Mark) (cursor : Cursor) : Except Fault (TokenKind × Cursor) := do
  let (handle, after) ← scanTagHandle true began cursor.skipBlanks
  if !after.atBlank then
    after.fault "while scanning a %TAG directive" began "did not find expected whitespace"
  else
    let (lead, after) ← scanTagText true true [] began after.skipBlanks
    if !after.atGap then
      after.fault "while scanning a %TAG directive" began
        "did not find expected whitespace or line break"
    else .ok (.tagDirective handle lead, after)

def scanDirective (cursor : Cursor) : Except Fault (Token × Cursor) := do
  let began := cursor.mark
  let name := cursor.skip.rest.takeWhile isNameChar
  let after := cursor.skip.skipMany name.length
  let context := "while scanning a directive"
  if name.isEmpty then after.fault context began "could not find expected directive name"
  else if !after.atGap then
    after.fault context began "found unexpected non-alphabetical character"
  else
    let (kind, after) ←
      if name = "YAML".toList then scanVersion began after
      else if name = "TAG".toList then scanTagDefinition began after
      else after.fault context began "found unknown directive name"
    let stop := after.mark
    let after := after.skipBlanks.skipComment
    if !after.atBreakOrEnd then
      after.fault context began "did not find expected comment or line break"
    else .ok (⟨kind, began, stop⟩, after.skipBreak)

end MetaConfig.Yaml
