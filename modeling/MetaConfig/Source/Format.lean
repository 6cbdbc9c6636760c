import MetaConfig.Text.Lowercase

/-!
The formats that settings are converted from: their names, and the file names they are
recognised by.
-/

namespace MetaConfig

open Text

inductive SourceFormat where
  | env
  | json
  | yaml
  deriving DecidableEq, Repr

namespace SourceFormat

def all : List SourceFormat := [env, json, yaml]

def name : SourceFormat → Text
  | env => "env".toList
  | json => "json".toList
  | yaml => "yaml".toList

def ofName? (word : Text) : Option SourceFormat := all.find? fun format => format.name == word

def displayName : SourceFormat → Text
  | env => ".env".toList
  | json => "JSON".toList
  | yaml => "YAML".toList

def aliases : SourceFormat → List Text
  | env => ["env".toList, "dotenv".toList, ".env".toList]
  | json => ["json".toList]
  | yaml => ["yaml".toList, "yml".toList]

def parse? (word : Text) : Option SourceFormat :=
  all.find? fun format => format.aliases.contains (lower word)

def detect? (fileName : Text) : Option SourceFormat :=
  if endsWith ".json".toList fileName then some json
  else if endsWith ".yaml".toList fileName || endsWith ".yml".toList fileName then some yaml
  else if endsWith ".env".toList fileName then some env
  else none

end SourceFormat

/-- The last name of a path. Slashes and single points at its end do not count, and two points
are no name. -/
def Text.fileName? (path : Text) : Option Text :=
  let names := (pieces '/' path).filter fun piece => !piece.isEmpty && piece != ['.']
  names.getLast?.filter (· != ['.', '.'])

def SourceFormat.detectPath? (path : Text) : Option SourceFormat :=
  path.fileName?.bind detect?

end MetaConfig
