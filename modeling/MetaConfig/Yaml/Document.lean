import MetaConfig.Yaml.Event

/-!
The first document of a YAML text as a row of nodes and ends of collections, in which aliases
are resolved to the numbers of anchors.
-/

namespace MetaConfig.Yaml

open Text

inductive ItemKind where
  | absent
  | alias (anchor : Nat)
  | scalar (tag : Option TagText) (text : Text) (style : ScalarStyle)
  | sequenceStart (tag : Option TagText)
  | sequenceEnd
  | mappingStart (tag : Option TagText)
  | mappingEnd
  deriving DecidableEq, Repr

structure Item where
  kind : ItemKind
  mark : Mark
  deriving DecidableEq, Repr

inductive Stop where
  | fault (fault : Fault)
  | unknownAnchor (mark : Mark)
  deriving DecidableEq, Repr

structure Document where
  items : List Item
  places : List (Nat × Nat)
  stop : Option Stop
  isFollowed : Bool

namespace Document

def place? (document : Document) (anchor : Nat) : Option Nat := document.places.lookup anchor

structure Draft where
  items : List Item := []
  anchors : List (Text × Nat) := []
  places : List (Nat × Nat) := []

def Draft.add (draft : Draft) (kind : ItemKind) (mark : Mark) : Draft :=
  { draft with items := ⟨kind, mark⟩ :: draft.items }

/-- Adds a node. The number of its anchor, if it has one, is that of the names known so far. A
name that was known before is not one more, so that the next new name shares its number. -/
def Draft.addNode (draft : Draft) (anchor : Option Text) (kind : ItemKind) (mark : Mark) :
    Draft :=
  match anchor with
  | none => draft.add kind mark
  | some name =>
      let number := draft.anchors.length
      let others := draft.anchors.filter fun (other, _) => other != name
      { (draft.add kind mark) with
        anchors := others ++ [(name, number)]
        places := (number, draft.items.length) :: draft.places }

def Draft.finish (draft : Draft) (stop : Option Stop) (isFollowed : Bool) : Document :=
  ⟨draft.items.reverse, draft.places, stop, isFollowed⟩

def ofEvents (fault : Option Fault) : Draft → List Event → Document
  | draft, [] => draft.finish (fault.map .fault) true
  | draft, event :: events =>
      match event.kind with
      | .streamStart => ofEvents fault draft events
      | .documentStart => ofEvents fault draft events
      | .documentEnd =>
          let isFollowed := fault.isSome || events.any fun event => event.kind == .documentStart
          draft.finish none isFollowed
      | .streamEnd => (draft.add .absent event.mark).finish none false
      | .alias name =>
          match draft.anchors.lookup name with
          | some anchor => ofEvents fault (draft.add (.alias anchor) event.mark) events
          | none => draft.finish (some (.unknownAnchor event.mark)) true
      | .scalar properties text style =>
          ofEvents fault
            (draft.addNode properties.anchor (.scalar properties.tag text style) event.mark)
            events
      | .sequenceStart properties =>
          ofEvents fault
            (draft.addNode properties.anchor (.sequenceStart properties.tag) event.mark) events
      | .sequenceEnd => ofEvents fault (draft.add .sequenceEnd event.mark) events
      | .mappingStart properties =>
          ofEvents fault
            (draft.addNode properties.anchor (.mappingStart properties.tag) event.mark) events
      | .mappingEnd => ofEvents fault (draft.add .mappingEnd event.mark) events

end Document

def Document.read (source : Text) : Document :=
  let (events, fault) := Event.parse source
  ofEvents fault {} events

end MetaConfig.Yaml
