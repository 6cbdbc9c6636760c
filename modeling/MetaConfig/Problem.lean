import MetaConfig.Source.Format
import MetaConfig.Text.Bytes

/-!
What can go wrong: input that cannot be converted, unknown formats, lint markers that cannot be
read, and files that cannot be read or written. Classifying and rendering never fail.
-/

namespace MetaConfig

open Text

structure SourceSpan where
  offset : Nat
  length : Nat
  deriving DecidableEq, Repr

inductive Problem where
  | malformed (format : SourceFormat) (cause : Text) (span : Option SourceSpan)
  | unsupported (format : SourceFormat) (help : Text)
  | unknownFormat (name : Text) (expected : List Text)
  | invalidMarkers (cause : Text)
  | io (cause : Text)
  deriving DecidableEq, Repr

namespace Problem

def code? : Problem → Option Text
  | malformed .. => some "M0101".toList
  | unsupported .. => some "M0102".toList
  | unknownFormat .. => some "M0201".toList
  | invalidMarkers .. => some "M0301".toList
  | io .. => none

/-- The title of a report, which never quotes the source. -/
def title : Problem → Text
  | malformed format .. => "failed to parse ".toList ++ format.name ++ " input".toList
  | unsupported format _ => "unsupported ".toList ++ format.name ++ " structure".toList
  | unknownFormat name _ => "unknown format '".toList ++ name ++ ['\'']
  | invalidMarkers _ => "invalid lint markers".toList
  | io cause => "I/O error: ".toList ++ cause

def message : Problem → Text
  | malformed format cause _ =>
      "Failed to parse ".toList ++ format.displayName ++ ": ".toList ++ cause
  | unsupported format help =>
      "Unsupported ".toList ++ format.displayName ++ " structure: ".toList ++ help
  | unknownFormat name expected =>
      "unknown format '".toList ++ name ++ "' (expected one of: ".toList ++
        joinWith ", ".toList expected ++ [')']
  | invalidMarkers cause => "invalid lint markers: ".toList ++ cause
  | io cause => "I/O error: ".toList ++ cause

def help? : Problem → Option Text
  | malformed _ cause _ => some ("please check your input: ".toList ++ cause)
  | unsupported _ help => some help
  | unknownFormat _ expected =>
      some ("expected one of: ".toList ++ joinWith ", ".toList expected)
  | invalidMarkers cause => some cause
  | io _ => none

def isConversion : Problem → Bool
  | malformed .. => true
  | unsupported .. => true
  | _ => false

def format? : Problem → Option SourceFormat
  | malformed format .. => some format
  | unsupported format _ => some format
  | _ => none

end Problem

def SourceFormat.parse (word : Text) : Except Problem SourceFormat :=
  match parse? word with
  | some format => .ok format
  | none => .error (.unknownFormat word (all.map name))

end MetaConfig
