import MetaConfig.Source.Assignments
import MetaConfig.Source.Flatten

/-!
Conversion of settings in another format to a meta document: a banner that names the format,
two tags, and a declaration for each setting.
-/

namespace MetaConfig

open Text

structure Framing where
  environmentTag : Text
  version : Text
  deriving DecidableEq, Repr

namespace Framing

def default : Framing := ⟨"@common".toList, "1.0.0".toList⟩

/-- Sets the environment tag; an `@` that it does not begin with is added. -/
def withEnvironmentTag (tag : Text) (framing : Framing) : Framing :=
  { framing with environmentTag := if tag.head? = some '@' then tag else '@' :: tag }

def withVersion (version : Text) (framing : Framing) : Framing :=
  { framing with version := version }

def bannerRule : Text := "# ===============================".toList

def heading (framing : Framing) (format : SourceFormat) : List Text :=
  [ bannerRule,
    "# Auto-converted from ".toList ++ format.displayName ++ " to .meta format".toList,
    bannerRule,
    [],
    framing.environmentTag,
    "@v ".toList ++ framing.version ]

def frame (framing : Framing) (format : SourceFormat) (settings : List Setting) : Text :=
  joinWith ['\n'] (framing.heading format ++ settings.map Setting.print ++ [[]])

end Framing

namespace SourceFormat

def settings (format : SourceFormat) (source : Text) : Except Problem (List Setting) :=
  match format with
  | env => .ok (Assignments.read '=' source)
  | json => Flatten.read source
  | yaml => .ok (Assignments.read ':' source)

end SourceFormat

def metaExtension : Text := "meta".toList

def defaultOutputName : Text := "config.meta".toList

/-- The meta document for a source. A blank source gives an empty document. -/
def convert (framing : Framing) (format : SourceFormat) (source : Text) :
    Except Problem Text :=
  if isBlankText source then .ok []
  else (format.settings source).map (framing.frame format)

end MetaConfig
