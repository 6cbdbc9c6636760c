import MetaConfig.Markers.Basic
import MetaConfig.Powers
import MetaConfig.Problem
import MetaConfig.Yaml.Document
import MetaConfig.Yaml.Resolve

/-!
Lint markers from a YAML text: a sequence of mappings with the keys `line`, `message` and
`severity`. The first document of the text is read item by item, so that a fault of the text is
reported only when nothing before it is.
-/

namespace MetaConfig

open Text

namespace Markers.Yaml

open MetaConfig.Yaml (Document Item ItemKind Mark Stop ScalarStyle TagText)

inductive Refusal where
  | stopped (stop : Stop)
  | endOfText
  | severalDocuments
  | tooManyAliases
  | content (message : Text) (place : Option (Mark × Text))

def Refusal.print : Refusal → Text
  | stopped (.fault fault) => fault.print
  | stopped (.unknownAnchor mark) => "unknown anchor".toList ++ mark.print
  | endOfText => "EOF while parsing a value".toList
  | severalDocuments =>
      "deserializing from YAML containing more than one document is not supported".toList
  | tooManyAliases => "repetition limit exceeded".toList
  | content message none => message
  | content message (some (mark, path)) =>
      (if path = ['.'] then [] else path ++ ": ".toList) ++ message ++ mark.print

def refuse {result : Type} (message : Text) : Except Refusal result :=
  .error (.content message none)

def locate {result : Type} (mark : Mark) (path : Text) :
    Except Refusal result → Except Refusal result
  | .error (.content message none) => .error (.content message (some (mark, path)))
  | outcome => outcome

structure Place where
  next : Nat
  followed : Nat

def Place.advance (place : Place) : Place := { place with next := place.next + 1 }

def itemAt (document : Document) (place : Place) : Except Refusal Item :=
  match document.items[place.next]?, document.stop with
  | some item, _ => .ok item
  | none, some stop => .error (.stopped stop)
  | none, none => .error .endOfText

def follow (document : Document) (anchor : Nat) (place : Place) : Except Refusal Place :=
  if document.items.length * 100 < place.followed + 1 then .error .tooManyAliases
  else
    match document.place? anchor with
    | some target => .ok ⟨target, place.followed + 1⟩
    | none => .error .endOfText

/-- Reads the node at a place, or the one that an alias there stands for. What has no place in
that node is placed at the alias. -/
def readNode {result : Type} (document : Document) (path : Text)
    (read : Item → Place → Except Refusal (result × Place)) (place : Place) :
    Except Refusal (result × Place) := do
  let item ← itemAt document place
  match item.kind with
  | .alias anchor =>
      locate item.mark path do
        let target ← follow document anchor place
        let (content, after) ← read (← itemAt document target) target
        .ok (content, ⟨place.next + 1, after.followed⟩)
  | _ => read item place

/-! ## Scalars -/

def coreTag (name : String) : Option TagText :=
  some (.ofText ("tag:yaml.org,2002:".toList ++ name.toList))

def isOwnTag : Option TagText → Bool
  | some (some '!' :: _) => true
  | _ => false

def ownName? : Option TagText → Option Text
  | some [some '!'] => some ['!']
  | some (some '!' :: name) => TagText.text? name
  | _ => none

def kindMessage (found expected : Text) : Text :=
  "invalid type: ".toList ++ found ++ ", expected ".toList ++ expected

def valueMessage (text : Text) (expected : String) : Text :=
  "invalid value: string ".toList ++ quoted text ++ ", expected ".toList ++ expected.toList

def scalarMessage (tag : Option TagText) (text : Text) (style : ScalarStyle) (expected : Text) :
    Text :=
  let describe : Text :=
    if style = .plain ∧ (tag = none ∨ isOwnTag tag) then
      (MetaConfig.Yaml.resolve text).describe
    else (MetaConfig.Yaml.Resolved.string text).describe
  if tag = coreTag "bool" then
    match MetaConfig.Yaml.boolean? text with
    | some value => kindMessage (MetaConfig.Yaml.Resolved.boolean value).describe expected
    | none => valueMessage text "a boolean"
  else if tag = coreTag "int" then
    match MetaConfig.Yaml.integer? text with
    | some value => kindMessage (MetaConfig.Yaml.describeInteger value) expected
    | none => valueMessage text "an integer"
  else if tag = coreTag "float" then
    match MetaConfig.Yaml.fraction? text with
    | some value => kindMessage (MetaConfig.Yaml.Resolved.fraction value).describe expected
    | none => valueMessage text "a float"
  else if tag = coreTag "null" then
    if MetaConfig.Yaml.isNullWord text then
      kindMessage MetaConfig.Yaml.Resolved.absent.describe expected
    else valueMessage text "null"
  else kindMessage describe expected

def refuseKind {result : Type} (item : Item) (expected : String) : Except Refusal result :=
  match item.kind with
  | .scalar tag text style => refuse (scalarMessage tag text style expected.toList)
  | .sequenceStart _ => refuse (kindMessage "sequence".toList expected.toList)
  | .mappingStart _ => refuse (kindMessage "map".toList expected.toList)
  | _ => .error .endOfText

def readLineNumber (path : Text) (item : Item) (place : Place) :
    Except Refusal (Nat × Place) :=
  let number? :=
    match item.kind with
    | .scalar tag text style =>
        if style = .plain ∨ (style = .literal ∧ tag = coreTag "int") then
          MetaConfig.Yaml.natural? (twoTo 64) text
        else none
    | _ => none
  locate item.mark path
    (match number? with
    | some number => .ok (number, place.advance)
    | none => refuseKind item "usize")

def readText (expected : String) (path : Text) (item : Item) (place : Place) :
    Except Refusal (Text × Place) :=
  locate item.mark path
    (match item.kind with
    | .scalar _ text _ => .ok (text, place.advance)
    | _ => refuseKind item expected)

def severityOfWord (word : Text) : Except Refusal Severity :=
  match Severity.ofName? word with
  | some severity => .ok severity
  | none => refuse (Severity.unknownMessage word)

def readNothing (path : Text) (item : Item) (place : Place) : Except Refusal Place :=
  locate item.mark path
    (match item.kind with
    | .scalar _ text style =>
        if style == .plain && (text.isEmpty || MetaConfig.Yaml.isNullWord text) then
          .ok place.advance
        else refuse (valueMessage text "null")
    | _ => refuseKind item "unit")

def readSeverity (path : Text) (item : Item) (place : Place) :
    Except Refusal (Severity × Place) :=
  let tagged (word : Text) : Except Refusal (Severity × Place) := do
    let severity ← severityOfWord word
    .ok (severity, ← readNothing path item place)
  let untagged (found : String) : Except Refusal (Severity × Place) :=
    locate item.mark path (refuse (kindMessage found.toList "a YAML tag starting with '!'".toList))
  match item.kind with
  | .scalar tag text _ =>
      match ownName? tag with
      | some word => tagged word
      | none => locate item.mark path (do .ok (← severityOfWord text, place.advance))
  | .sequenceStart tag => ((ownName? tag).map tagged).getD (untagged "sequence")
  | .mappingStart tag => ((ownName? tag).map tagged).getD (untagged "map")
  | _ => .error .endOfText

def skipNode (document : Document) : (fuel : Nat) → (depth : Nat) → Place → Except Refusal Place
  | 0, _, place => .ok place
  | fuel + 1, depth, place => do
      let item ← itemAt document place
      let depth :=
        match item.kind with
        | .sequenceStart _ => depth + 1
        | .mappingStart _ => depth + 1
        | .sequenceEnd => depth - 1
        | .mappingEnd => depth - 1
        | _ => depth
      if depth = 0 then .ok place.advance else skipNode document fuel depth place.advance

/-! ## Markers -/

structure Fields where
  line : Option Nat := none
  message : Option Text := none
  severity : Option Severity := none

def Fields.marker (fields : Fields) : Except Refusal Marker :=
  match fields.line, fields.message, fields.severity with
  | some line, some message, some severity => .ok ⟨line, message, severity⟩
  | none, _, _ => refuse "missing field `line`".toList
  | _, none, _ => refuse "missing field `message`".toList
  | _, _, none => refuse "missing field `severity`".toList

def refuseSecond {result : Type} (field : Text) : Except Refusal result :=
  refuse ("duplicate field `".toList ++ field ++ "`".toList)

def valuePath (path : Text) (key : Item) : Text :=
  path ++ ['.'] ++
    (match key.kind with
    | .scalar _ text _ => text
    | _ => ['?'])

def readEntries (document : Document) (path : Text) :
    (fuel : Nat) → Fields → Place → Except Refusal (Marker × Place)
  | 0, fields, place => do .ok (← fields.marker, place)
  | fuel + 1, fields, place => do
      let key ← itemAt document place
      if key.kind = .mappingEnd then .ok (← fields.marker, place.advance)
      else
        let (name, place) ← readNode document path (readText "field identifier" path) place
        let path' := valuePath path key
        if name = "line".toList then
          if fields.line.isSome then refuseSecond name
          else
            let (line, place) ← readNode document path' (readLineNumber path') place
            readEntries document path fuel { fields with line := some line } place
        else if name = "message".toList then
          if fields.message.isSome then refuseSecond name
          else
            let (message, place) ← readNode document path' (readText "a string" path') place
            readEntries document path fuel { fields with message := some message } place
        else if name = "severity".toList ∨ name = "type".toList then
          if fields.severity.isSome then refuseSecond "severity".toList
          else
            let (severity, place) ← readNode document path' (readSeverity path') place
            readEntries document path fuel { fields with severity := some severity } place
        else
          let place ← skipNode document document.items.length 0 place
          readEntries document path fuel fields place

def readMarker (document : Document) (path : Text) (item : Item) (place : Place) :
    Except Refusal (Marker × Place) :=
  locate item.mark path
    (match item.kind with
    | .mappingStart _ =>
        readEntries document path (document.items.length + 1) {} place.advance
    | .scalar _ [] .plain => do .ok (← Fields.marker {}, place.advance)
    | _ => refuseKind item "struct LintMarker")

def readElements (document : Document) :
    (fuel : Nat) → (index : Nat) → Place → Except Refusal (List Marker)
  | 0, _, _ => .ok []
  | fuel + 1, index, place => do
      let item ← itemAt document place
      if item.kind = .sequenceEnd then .ok []
      else
        let path := ".[".toList ++ ofNat index ++ [']']
        let (marker, place) ← readNode document path (readMarker document path) place
        .ok (marker :: (← readElements document fuel (index + 1) place))

/-- The markers that a document lists. A node that is not there counts as an empty sequence, and
so does the absence of any document. -/
def readRoot (document : Document) : Except Refusal (List Marker) := do
  let item ← itemAt document ⟨0, 0⟩
  locate item.mark ['.']
    (match item.kind with
    | .sequenceStart _ => readElements document (document.items.length + 1) 0 ⟨1, 0⟩
    | .absent => .ok []
    | .scalar _ [] .plain => .ok []
    | _ => refuseKind item "a sequence")

def read (source : Text) : Except Refusal (List Marker) := do
  let document := MetaConfig.Yaml.Document.read source
  let markers ← readRoot document
  match document.stop with
  | some stop => .error (.stopped stop)
  | none => if document.isFollowed then .error .severalDocuments else .ok markers

end Markers.Yaml

def Markers.ofYaml (source : Text) : Except Problem Markers :=
  match Markers.Yaml.read source with
  | .ok markers => .ok (ofList markers)
  | .error refusal => .error (.invalidMarkers ("YAML: ".toList ++ refusal.print))

end MetaConfig
