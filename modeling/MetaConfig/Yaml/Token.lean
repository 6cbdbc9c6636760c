import MetaConfig.Yaml.Fault

/-!
The tokens of a YAML text. Those that begin and end block collections are told by the indent,
and the others by the characters at which they stand.
-/

namespace MetaConfig.Yaml

inductive ScalarStyle where
  | plain
  | singleQuoted
  | doubleQuoted
  | literal
  | folded
  deriving DecidableEq, Repr

/-- The text of a tag. An escape in it may stand for bytes that are no character. -/
abbrev TagText := List (Option Char)

namespace TagText

def ofText (text : Text) : TagText := text.map some

def upToNull (tag : TagText) : TagText := tag.takeWhile fun char? => char? != some '\x00'

def text? (tag : TagText) : Option Text := tag.mapM id

end TagText

inductive TokenKind where
  | streamStart
  | streamEnd
  | versionDirective (major minor : Nat)
  | tagDirective (handle : Text) (lead : TagText)
  | documentStart
  | documentEnd
  | blockSequenceStart
  | blockMappingStart
  | blockEnd
  | flowSequenceStart
  | flowSequenceEnd
  | flowMappingStart
  | flowMappingEnd
  | blockEntry
  | flowEntry
  | key
  | value
  | alias (name : Text)
  | anchor (name : Text)
  | tag (handle : Text) (suffix : TagText)
  | scalar (text : Text) (style : ScalarStyle)
  deriving DecidableEq, Repr

structure Token where
  kind : TokenKind
  start : Mark
  stop : Mark
  deriving DecidableEq, Repr

end MetaConfig.Yaml
