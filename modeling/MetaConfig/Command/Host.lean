import MetaConfig.Text.Basic

/-!
What the program needs of the system it runs on, and a small file system in memory that
provides it.
-/

namespace MetaConfig.Command

open Text

structure Host (m : Type → Type) where
  readInput : m (Except Text ByteArray)
  readFile : Text → m (Except Text ByteArray)
  isDirectory : Text → m Bool
  writeFile : Text → ByteArray → m (Except Text Unit)

def decodeUtf8? (content : ByteArray) : Option Text := (String.fromUTF8? content).map String.toList

def encodeUtf8 (text : Text) : ByteArray := (String.ofList text).toUTF8

abbrev Location := List Text

structure Storage where
  directories : List Location := []
  files : List (Location × ByteArray) := []
  input : ByteArray := .empty

namespace Storage

def isDirectoryAt (storage : Storage) (location : Location) : Bool :=
  location.isEmpty || storage.directories.contains location

def file? (storage : Storage) (location : Location) : Option ByteArray :=
  storage.files.lookup location

def withParents (location : Location) : List Location :=
  (List.range location.length).map fun length => location.take (length + 1)

def makeDirectory (storage : Storage) (location : Location) : Storage :=
  { storage with directories := storage.directories ++ withParents location }

def setFile (storage : Storage) (location : Location) (content : ByteArray) : Storage :=
  { storage with
    files := (location, content) :: storage.files.filter fun (other, _) => other != location }

def namesOf (path : Text) : List Text :=
  (pieces '/' path).filter fun piece => !piece.isEmpty && piece != ['.']

def namesDirectory (path : Text) : Bool :=
  endsWith ['/'] path || endsWith ['/', '.'] path || path == ['.']

def follow (storage : Storage) : (location : Location) → List Text → Option Location
  | location, [] => some location
  | location, name :: names =>
      if !storage.isDirectoryAt location then none
      else if name = ['.', '.'] then
        if location.isEmpty then none else follow storage location.dropLast names
      else follow storage (location ++ [name]) names

/-- Where a path leads. Nothing is known of paths from the root. -/
def locate? (storage : Storage) (path : Text) : Option Location :=
  if path.isEmpty || path.head? == some '/' then none
  else
    match storage.follow [] (namesOf path) with
    | none => none
    | some location =>
        if namesDirectory path && !storage.isDirectoryAt location then none else some location

def readPath (storage : Storage) (path : Text) : Except Text ByteArray :=
  match storage.locate? path with
  | none => .error "No such file or directory (os error 2)".toList
  | some location =>
      if storage.isDirectoryAt location then .error "Is a directory (os error 21)".toList
      else
        match storage.file? location with
        | some content => .ok content
        | none => .error "No such file or directory (os error 2)".toList

def writePath (storage : Storage) (path : Text) (content : ByteArray) : Except Text Storage :=
  match storage.locate? path with
  | none => .error "No such file or directory (os error 2)".toList
  | some location =>
      if storage.isDirectoryAt location then .error "Is a directory (os error 21)".toList
      else .ok (storage.setFile location content)

def isDirectoryPath (storage : Storage) (path : Text) : Bool :=
  (storage.locate? path).any storage.isDirectoryAt

def takeInput : StateM Storage ByteArray :=
  modifyGet fun storage => (storage.input, { storage with input := .empty })

def inputDevice : Text := "/dev/stdin".toList

def host : Host (StateM Storage) where
  readInput := do return .ok (← takeInput)
  readFile path := do
    if path = inputDevice then return .ok (← takeInput)
    else return (← get).readPath path
  isDirectory path := do return (← get).isDirectoryPath path
  writeFile path content := do
    match (← get).writePath path content with
    | .ok storage => do
        set storage
        return .ok ()
    | .error reason => return .error reason

end Storage

end MetaConfig.Command
