import MetaConfig.Document
import MetaConfig.Proofs.Line.Classification
import MetaConfig.Proofs.Text.Cutting

/-!
Documents line by line: the numbers that lines have, and the declarations that are found.
-/

namespace MetaConfig.Document

open Text

theorem map_snd_numberFrom {item : Type} (first : Nat) (items : List item) :
    (numberFrom first items).map Prod.snd = items := by
  induction items generalizing first with
  | nil => rfl
  | cons head others ih => simp [numberFrom, ih]

theorem map_fst_numberFrom {item : Type} (first : Nat) (items : List item) :
    (numberFrom first items).map Prod.fst = List.range' first items.length := by
  induction items generalizing first with
  | nil => rfl
  | cons head others ih => simp [numberFrom, ih, List.range'_succ]

theorem numberFrom_map {item other : Type} (transform : item → other) (first : Nat)
    (items : List item) :
    numberFrom first (items.map transform) =
      (numberFrom first items).map fun (number, item) => (number, transform item) := by
  induction items generalizing first with
  | nil => rfl
  | cons head others ih => simp [numberFrom, ih]

theorem newline_not_mem_of_mem_lines {source text : Text} (member : text ∈ lines source) :
    '\n' ∉ text := by
  obtain ⟨piece, inPieces, rfl⟩ := List.mem_map.mp member
  intro inside
  exact separator_not_mem_of_mem_pieces inPieces (mem_of_mem_dropLastChar inside)

theorem lines_joinWith {texts : List Text} (nonempty : texts ≠ [])
    (oneLine : ∀ text ∈ texts, '\n' ∉ text)
    (endings : ∀ text ∈ texts, text.getLast? ≠ some '\r') :
    lines (joinWith ['\n'] texts) = texts := by
  have kept : ∀ text ∈ texts, dropLastChar '\r' text = id text := by
    intro text member
    exact dropLastChar_of_getLast?_ne (endings text member)
  rw [lines, (pieces_joinWith_eq_self_iff '\n' nonempty).mpr oneLine,
    List.map_congr_left kept, List.map_id]

theorem read_eq_map (source : Text) :
    read source = (numberFrom 1 ((lines source).map Line.classify)).map
      fun (number, line) => ⟨number, line⟩ := by
  rw [read, numberFrom_map, List.map_map]
  rfl

theorem map_line_read (source : Text) :
    (read source).map NumberedLine.line = (lines source).map Line.classify := by
  have numbered : (read source).map NumberedLine.line =
      ((numberFrom 1 (lines source)).map Prod.snd).map Line.classify := by
    simp [read]
  rw [numbered, map_snd_numberFrom]

theorem map_number_read (source : Text) :
    (read source).map NumberedLine.number = List.range' 1 (lines source).length := by
  have numbered : (read source).map NumberedLine.number =
      (numberFrom 1 (lines source)).map Prod.fst := by
    simp [read]
  rw [numbered, map_fst_numberFrom]

theorem number_mem_of_mem_read {source : Text} {numbered : NumberedLine}
    (member : numbered ∈ read source) :
    numbered.number ∈ List.range' 1 (lines source).length := by
  rw [← map_number_read]
  exact List.mem_map_of_mem member

theorem filterMap_map_classify (texts : List Text) :
    (texts.map Line.classify).filterMap Line.declaration? =
      texts.filterMap Declaration.parse? := by
  simp only [List.filterMap_map, Function.comp_def, Line.declaration?_classify]

def declarations (source : Text) : List Declaration :=
  (read source).filterMap fun numbered => numbered.line.declaration?

theorem declarations_eq_filterMap (source : Text) :
    declarations source =
      ((read source).map NumberedLine.line).filterMap Line.declaration? := by
  rw [declarations, List.filterMap_map]
  rfl

end MetaConfig.Document
