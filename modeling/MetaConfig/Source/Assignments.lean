import MetaConfig.Scalar
import MetaConfig.Text.Blank
import MetaConfig.Text.Lowercase

/-!
Settings written one on a line, a key and a value on both sides of a separator. Lines that are
blank, begin with `#`, have no separator, or lack a key or a value are passed over.
-/

namespace MetaConfig.Assignments

open Text

/-- The setting on a line. Its key is in lower case, and its value loses one layer of quotes. -/
def readLine? (separator : Char) (line : Text) : Option Setting :=
  let line := trim line
  if line.head? = some '#' then none
  else
    match splitOnce separator line with
    | none => none
    | some (key, value) =>
        let key := lower (trim key)
        let value := unquoted (trim value)
        if key.isEmpty || value.isEmpty then none else some ⟨key, .infer value⟩

def read (separator : Char) (source : Text) : List Setting :=
  (pieces '\n' source).filterMap (readLine? separator)

end MetaConfig.Assignments
