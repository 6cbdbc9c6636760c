import MetaConfig.Command.Host

/-!
What can be relied on in the files of a system, said of a view of its state: reading changes no
file, and writing changes one file or, when it fails, none. The file system in memory is such a
system.
-/

namespace MetaConfig.Command

open Text

structure FileView (Place : Type) where
  content? : Place → Option ByteArray
  place? : Text → Option Place
  isDirectory : Text → Bool

/-- The path leads to a file with the content, and all other files are as they were before. -/
def FileView.Writes {Place : Type} (before : FileView Place) (path : Text) (content : ByteArray)
    (after : FileView Place) : Prop :=
  ∃ place, after.place? path = some place ∧ after.content? place = some content ∧
    ∀ other, other ≠ place → after.content? other = before.content? other

structure Host.Lawful {State Place : Type} (host : Host (StateM State))
    (view : State → FileView Place) : Prop where
  readInput_keeps : ∀ state, view (host.readInput.run state).2 = view state
  readFile_keeps : ∀ path state, view ((host.readFile path).run state).2 = view state
  isDirectory_keeps : ∀ path state, view ((host.isDirectory path).run state).2 = view state
  isDirectory_eq : ∀ path state,
    ((host.isDirectory path).run state).1 = (view state).isDirectory path
  writeFile_error : ∀ path content state reason,
    ((host.writeFile path content).run state).1 = .error reason →
      view ((host.writeFile path content).run state).2 = view state
  writeFile_ok : ∀ path content state, ((host.writeFile path content).run state).1 = .ok () →
    (view state).Writes path content (view ((host.writeFile path content).run state).2)

namespace Storage

def view (storage : Storage) : FileView Location where
  content? := storage.file?
  place? := storage.locate?
  isDirectory := storage.isDirectoryPath

variable {first second : Storage}

/-! Where paths lead depends on the directories alone. -/

theorem isDirectoryAt_congr (same : first.directories = second.directories) :
    first.isDirectoryAt = second.isDirectoryAt := by
  funext location
  rw [isDirectoryAt, isDirectoryAt, same]

theorem follow_congr (same : first.directories = second.directories) (location : Location)
    (names : List Text) : first.follow location names = second.follow location names := by
  induction names generalizing location with
  | nil => rfl
  | cons name names ih => simp only [follow, ih, isDirectoryAt_congr same]

theorem locate?_congr (same : first.directories = second.directories) :
    first.locate? = second.locate? := by
  funext path
  simp only [locate?, follow_congr same, isDirectoryAt_congr same]

theorem view_congr (files : first.files = second.files)
    (directories : first.directories = second.directories) : first.view = second.view := by
  have contents : first.file? = second.file? := by
    funext location
    rw [file?, file?, files]
  have ends : first.isDirectoryPath = second.isDirectoryPath := by
    funext path
    simp only [isDirectoryPath, locate?_congr directories, isDirectoryAt_congr directories]
  rw [view, view, contents, locate?_congr directories, ends]

theorem file?_setFile_self (storage : Storage) (location : Location) (content : ByteArray) :
    (storage.setFile location content).file? location = some content := by
  simp [file?, setFile]

theorem lookup_filter_of_ne {location other : Location} (different : other ≠ location)
    (files : List (Location × ByteArray)) :
    (files.filter fun file => file.1 != location).lookup other = files.lookup other := by
  induction files with
  | nil => rfl
  | cons first others ih =>
      obtain ⟨known, stored⟩ := first
      by_cases removed : known = location
      · subst removed
        have passed : (other == known) = false := by simp [different]
        simp [List.lookup_cons, ih, passed]
      · simp [removed, List.lookup_cons, ih]

theorem file?_setFile_of_ne {location other : Location} (different : other ≠ location)
    (storage : Storage) (content : ByteArray) :
    (storage.setFile location content).file? other = storage.file? other := by
  have passed : (other == location) = false := by simp [different]
  simp only [file?, setFile, List.lookup_cons, passed]
  exact lookup_filter_of_ne different storage.files

theorem writes_of_writePath {storage after : Storage} {path : Text} {content : ByteArray}
    (written : storage.writePath path content = .ok after) :
    storage.view.Writes path content after.view := by
  unfold writePath at written
  split at written
  · contradiction
  · rename_i location located
    split at written
    · contradiction
    · obtain rfl := Except.ok.inj written
      refine ⟨location, ?_, file?_setFile_self storage location content, ?_⟩
      · have same : (storage.setFile location content).locate? = storage.locate? :=
          locate?_congr rfl
        rw [← located]
        exact congrFun same path
      · exact fun other different => file?_setFile_of_ne different storage content

theorem run_readFile_of_ne {path : Text} (file : path ≠ inputDevice) (storage : Storage) :
    (host.readFile path).run storage = (storage.readPath path, storage) := by
  simp [host, file]
  rfl

theorem run_writeFile_error {storage : Storage} {path reason : Text} {content : ByteArray}
    (failed : storage.writePath path content = .error reason) :
    (host.writeFile path content).run storage = (.error reason, storage) := by
  simp [host, failed]
  rfl

theorem run_writeFile_ok {storage after : Storage} {path : Text} {content : ByteArray}
    (written : storage.writePath path content = .ok after) :
    (host.writeFile path content).run storage = (.ok (), after) := by
  simp [host, written]
  rfl

theorem lawful_host : host.Lawful view where
  readInput_keeps _ := view_congr rfl rfl
  readFile_keeps path storage := by
    by_cases device : path = inputDevice
    · subst device
      exact view_congr rfl rfl
    · rw [run_readFile_of_ne device]
  isDirectory_keeps _ _ := rfl
  isDirectory_eq _ _ := rfl
  writeFile_error path content storage reason failed := by
    cases written : storage.writePath path content with
    | error => rw [run_writeFile_error written]
    | ok after =>
        rw [run_writeFile_ok written] at failed
        contradiction
  writeFile_ok path content storage succeeded := by
    cases written : storage.writePath path content with
    | error =>
        rw [run_writeFile_error written] at succeeded
        contradiction
    | ok after =>
        rw [run_writeFile_ok written]
        exact writes_of_writePath written

end Storage

end MetaConfig.Command
