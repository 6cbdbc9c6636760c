import MetaConfig.Proofs.Line.Reading
import MetaConfig.Proofs.Line.Reference
import MetaConfig.Render.Span

/-!
The spans of a line that has been read: together they are the printed line, also where a
reference divides the value, and only a blank line has a placeholder. They are the text itself
but for the blanks around a tag and those before the value of a declaration.
-/

namespace MetaConfig

open Text

theorem EnvReference.flatMap_text_spans (reference : EnvReference) :
    reference.spans.flatMap Span.text = reference.print := by
  simp [spans, print]

def Declaration.IsDivided (found : Declaration) : Prop :=
  ∀ reference ∈ found.reference, reference.print = found.value

theorem Declaration.isDivided_of_find? {found : Declaration}
    (searched : found.reference = EnvReference.find? found.value) : found.IsDivided := by
  intro reference member
  exact EnvReference.print_of_find? (searched.symm.trans member)

theorem Declaration.flatMap_text_spans {found : Declaration} (divided : found.IsDivided) :
    found.spans.flatMap Span.text = found.print := by
  obtain ⟨indent, key, type, value, shown⟩ := found
  have indentText : (if indent = [] then [] else [(⟨.indent, indent⟩ : Span)]).flatMap
      Span.text = indent := by
    by_cases flush : indent = []
    · simp [flush]
    · simp [flush]
  cases shown with
  | none => simp [spans, print, indentText]
  | some parts =>
      obtain rfl : parts.print = value := divided parts rfl
      simp [spans, print, indentText, EnvReference.flatMap_text_spans]

theorem Line.Reads.flatMap_text_spans {text : Text} {line : Line} (reads : Reads text line)
    (notBlank : line ≠ .blank) : line.spans.flatMap Span.text = line.print := by
  cases reads with
  | comment trimmed => simp [spans, Line.print]
  | @tag word rest noBlank trimmed =>
      by_cases bare : rest = []
      · simp [spans, Line.print, bare]
      · simp [spans, Line.print, bare]
  | declaration spells =>
      exact Declaration.flatMap_text_spans (Declaration.isDivided_of_find? spells.reference)
  | blank trimmed => exact absurd rfl notBlank
  | other trimmed notComment notTag unparsed => simp [spans, Line.print]

theorem Line.role_ne_placeholder {line : Line} (notBlank : line ≠ .blank) :
    ∀ span ∈ line.spans, span.role ≠ .placeholder := by
  cases line with
  | comment text => simp [spans]
  | tag name rest =>
      by_cases bare : rest = []
      · simp [spans, bare]
      · simp [spans, bare]
  | declaration found =>
      obtain ⟨indent, key, type, value, reference⟩ := found
      have typeRole : type.role ≠ .placeholder := by
        cases type <;> decide
      by_cases flush : indent = []
      · cases reference <;> simp [spans, Declaration.spans, EnvReference.spans, flush, typeRole]
      · cases reference <;> simp [spans, Declaration.spans, EnvReference.spans, flush, typeRole]
  | blank => exact absurd rfl notBlank
  | other text => simp [spans]

/-! ## The text that is shown -/

def Declaration.spacedBy (separator : Text) (declaration : Declaration) : Text :=
  declaration.indent ++ declaration.key ++ [':'] ++ declaration.type.keyword ++
    (separator ++ declaration.value)

theorem Declaration.print_eq_spacedBy (declaration : Declaration) :
    declaration.print = declaration.spacedBy [' '] := by
  simp [print, spacedBy]

theorem Declaration.Spells.eq_spacedBy {declaration : Declaration} {separator text : Text}
    (spells : declaration.Spells separator text) : text = declaration.spacedBy separator :=
  spells.text_eq

theorem Declaration.spacedBy_inj {declaration : Declaration} {separator other : Text} :
    declaration.spacedBy separator = declaration.spacedBy other ↔ separator = other := by
  simp [spacedBy]

namespace Line

/-- What is shown of a text in the spans of its line. Of a declaration all is shown, with one
blank for those before its value. -/
def ShownAs (text shown : Text) : Line → Prop
  | comment _ => shown = text
  | tag _ _ => shown = trim text
  | declaration found =>
      ∃ separator, found.Spells separator text ∧ shown = found.spacedBy [' ']
  | blank => shown = blankPlaceholder
  | other _ => shown = text

/-- The text is not shown as it is: a tag has blanks around it, a declaration has others than one
space before its value, or a blank line is not the placeholder itself. -/
def Altered (text : Text) : Line → Prop
  | tag _ _ => trim text ≠ text
  | declaration found => ∃ separator, found.Spells separator text ∧ separator ≠ [' ']
  | blank => text ≠ blankPlaceholder
  | comment _ | other _ => False

variable {text : Text} {line : Line}

theorem Reads.flatMap_text_spans_eq_ite (reads : Reads text line) :
    line.spans.flatMap Span.text = if line = .blank then blankPlaceholder else line.print := by
  by_cases isBlank : line = .blank
  · simp [isBlank, spans]
  · rw [if_neg isBlank, reads.flatMap_text_spans isBlank]

theorem Reads.shownAs (reads : Reads text line) :
    line.ShownAs text (line.spans.flatMap Span.text) := by
  have shown := reads.flatMap_text_spans_eq_ite
  cases reads with
  | comment trimmed => exact shown
  | tag noBlank trimmed => exact shown.trans trimmed.symm
  | @declaration separator found spells =>
      exact ⟨separator, spells, shown.trans found.print_eq_spacedBy⟩
  | blank trimmed => exact shown
  | other trimmed notComment notTag unparsed => exact shown

theorem Reads.shown_eq_iff (reads : Reads text line) :
    line.spans.flatMap Span.text = text ↔ ¬ line.Altered text := by
  have shown := reads.shownAs
  cases reads with
  | comment trimmed => exact iff_of_true shown not_false
  | @tag word rest noBlank trimmed =>
      have whole : (Line.tag ('@' :: word) rest).spans.flatMap Span.text = trim text := shown
      rw [whole, Altered, not_not]
  | @declaration separator found spells =>
      -- The value tells where the blanks before it end, so no other separator spells the text.
      have unique {other : Text} (otherSpells : found.Spells other text) : other = separator :=
        Declaration.spacedBy_inj.mp (otherSpells.eq_spacedBy.symm.trans spells.eq_spacedBy)
      obtain ⟨_, _, shown⟩ := shown
      rw [shown, spells.eq_spacedBy, Declaration.spacedBy_inj, ← spells.eq_spacedBy]
      constructor
      · rintro rfl ⟨other, otherSpells, different⟩
        exact different (unique otherSpells)
      · intro unaltered
        by_contra different
        exact unaltered ⟨separator, spells, Ne.symm different⟩
  | blank trimmed =>
      have placeholder : Line.blank.spans.flatMap Span.text = blankPlaceholder := shown
      rw [placeholder, Altered, not_not]
      exact eq_comm
  | other trimmed notComment notTag unparsed => exact iff_of_true shown not_false

/-- The spans of a line hold what the line is printed as, or the placeholder. This is the text as
each kind of line shows it, and the text itself exactly when nothing in it is altered. -/
theorem spans_reproduce_text (text : Text) :
    let line := classify text
    let shown := line.spans.flatMap Span.text
    (shown = if line = blank then blankPlaceholder else line.print) ∧
      line.ShownAs text shown ∧ (shown = text ↔ ¬ line.Altered text) := by
  have reads := reads_classify text
  exact ⟨reads.flatMap_text_spans_eq_ite, reads.shownAs, reads.shown_eq_iff⟩

-- A reference in the value shows the blanks inside it; only those before the value become one.
example : (classify "\ta:env \n x $ENV( B )".toList).spans.flatMap Span.text =
    "\ta:env x $ENV( B )".toList := by decide

end Line

end MetaConfig
