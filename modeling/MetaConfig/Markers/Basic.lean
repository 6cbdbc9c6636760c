import MetaConfig.Markers.Severity

/-!
Lint markers, at most one for a line: a marker replaces the one that its line had before. They
are kept in ascending order of their lines, so equal markers are equal whatever order they came
in.
-/

namespace MetaConfig

structure Marker where
  line : Nat
  message : Text
  severity : Severity
  deriving DecidableEq, Repr

structure Markers where
  entries : List Marker
  ascending : entries.Pairwise fun earlier later => earlier.line < later.line
  deriving DecidableEq

namespace Markers

def empty : Markers := ⟨[], .nil⟩

def place (marker : Marker) : List Marker → List Marker
  | [] => [marker]
  | head :: others =>
      if marker.line < head.line then marker :: head :: others
      else if marker.line = head.line then marker :: others
      else head :: place marker others

theorem line_of_mem_place {marker other : Marker} {entries : List Marker}
    (member : other ∈ place marker entries) : other = marker ∨ other ∈ entries := by
  induction entries with
  | nil => simpa [place] using member
  | cons head others ih =>
      simp only [place] at member
      split at member
      · simpa using member
      · split at member
        · rcases List.mem_cons.mp member with same | rest
          · exact .inl same
          · exact .inr (List.mem_cons_of_mem _ rest)
        · rcases List.mem_cons.mp member with same | rest
          · exact .inr (by simp [same])
          · exact (ih rest).imp_right (List.mem_cons_of_mem _)

theorem place_ascending (marker : Marker) {entries : List Marker}
    (ascending : entries.Pairwise fun earlier later => earlier.line < later.line) :
    (place marker entries).Pairwise fun earlier later => earlier.line < later.line := by
  induction entries with
  | nil => simp [place]
  | cons head others ih =>
      obtain ⟨headFirst, othersAscending⟩ := List.pairwise_cons.mp ascending
      simp only [place]
      split
      · rename_i before
        refine List.pairwise_cons.mpr ⟨?_, ascending⟩
        intro other member
        rcases List.mem_cons.mp member with same | rest
        · simpa [same] using before
        · exact Nat.lt_trans before (headFirst other rest)
      · split
        · rename_i same
          refine List.pairwise_cons.mpr ⟨?_, othersAscending⟩
          intro other member
          simpa [same] using headFirst other member
        · refine List.pairwise_cons.mpr ⟨?_, ih othersAscending⟩
          intro other member
          rcases line_of_mem_place member with same | rest
          · subst same
            omega
          · exact headFirst other rest

def insert (markers : Markers) (marker : Marker) : Markers :=
  ⟨place marker markers.entries, place_ascending marker markers.ascending⟩

def ofList (markers : List Marker) : Markers := markers.foldl insert empty

def get? (markers : Markers) (line : Nat) : Option Marker :=
  markers.entries.find? fun marker => marker.line == line

def size (markers : Markers) : Nat := markers.entries.length

def isEmpty (markers : Markers) : Bool := markers.entries.isEmpty

theorem find?_place (marker : Marker) (entries : List Marker) (line : Nat)
    (ascending : entries.Pairwise fun earlier later => earlier.line < later.line) :
    (place marker entries).find? (fun other => other.line == line) =
      if marker.line = line then some marker
      else entries.find? fun other => other.line == line := by
  induction entries with
  | nil => by_cases same : marker.line = line <;> simp [place, same]
  | cons head others ih =>
      obtain ⟨-, othersAscending⟩ := List.pairwise_cons.mp ascending
      have tail := ih othersAscending
      simp only [place]
      by_cases same : marker.line = line
      · split
        · simp [same]
        · split
          · simp [same]
          · have apart : head.line ≠ line := by omega
            simp [apart, tail, same]
      · split
        · simp [same]
        · split
          · have apart : head.line ≠ line := by omega
            simp [same, apart]
          · simp [List.find?_cons, tail, same]

theorem get?_insert (markers : Markers) (marker : Marker) (line : Nat) :
    (markers.insert marker).get? line =
      if marker.line = line then some marker else markers.get? line :=
  find?_place marker markers.entries line markers.ascending

end Markers

end MetaConfig
