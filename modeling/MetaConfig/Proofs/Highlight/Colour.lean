import MetaConfig.Highlight.Terminal
import MetaConfig.Proofs.Text.Cutting
import MetaConfig.Proofs.Text.Decimal

/-!
Colours are laid over a text. A style puts control sequences around what it is applied to, so when
these are deleted a document is highlighted as it is without colours, whatever the palette.
-/

namespace MetaConfig

open Text

structure RenderedLine.EscapeFree (line : RenderedLine) : Prop where
  spans : ∀ span ∈ line.spans, '\x1b' ∉ span.text
  message : ∀ indicator ∈ line.indicator, '\x1b' ∉ indicator.message

namespace Terminal

/-- What follows a control sequence at the start of the text, which goes from an escape character
and a bracket to the next `m`. -/
def afterSequence? : Text → Option Text
  | '\x1b' :: '[' :: rest => (splitOnce 'm' rest).map Prod.snd
  | _ => none

theorem length_afterSequence? {text after : Text} (found : afterSequence? text = some after) :
    after.length < text.length := by
  unfold afterSequence? at found
  split at found
  · obtain ⟨⟨codes, rest⟩, cut, rfl⟩ := Option.map_eq_some_iff.mp found
    obtain ⟨parts, -⟩ := eq_append_of_splitOnce cut
    simp only [parts, List.length_cons, List.length_append]
    omega
  · cases found

def withoutSequences : Text → Text
  | [] => []
  | char :: rest =>
      match _found : afterSequence? (char :: rest) with
      | some after => withoutSequences after
      | none => char :: withoutSequences rest
termination_by text => text.length
decreasing_by
  · exact length_afterSequence? _found
  · simp

theorem withoutSequences_cons {char : Char} (noEscape : char ≠ '\x1b') (rest : Text) :
    withoutSequences (char :: rest) = char :: withoutSequences rest := by
  have noSequence : afterSequence? (char :: rest) = none := by
    simp [afterSequence?, noEscape]
  rw [withoutSequences]
  split
  · rename_i after found
    rw [noSequence] at found
    cases found
  · rfl

theorem withoutSequences_sequence {codes : Text} (noEnd : 'm' ∉ codes) (rest : Text) :
    withoutSequences (['\x1b', '['] ++ codes ++ 'm' :: rest) = withoutSequences rest := by
  have sequence : afterSequence? ('\x1b' :: '[' :: (codes ++ 'm' :: rest)) = some rest := by
    simp [afterSequence?, splitOnce_append_cons noEnd]
  simp only [List.cons_append, List.nil_append]
  rw [withoutSequences]
  split
  · rename_i after found
    rw [sequence] at found
    obtain rfl := Option.some.inj found
    rfl
  · rename_i found
    rw [sequence] at found
    cases found

def Paints (painted plain : Text) : Prop :=
  ∀ rest, withoutSequences (painted ++ rest) = plain ++ withoutSequences rest

theorem Paints.withoutSequences_eq {painted plain : Text} (paints : Paints painted plain) :
    withoutSequences painted = plain := by
  have alone := paints []
  rwa [List.append_nil, withoutSequences, List.append_nil] at alone

theorem Paints.append {painted plain others plainOthers : Text} (paints : Paints painted plain)
    (paintsOthers : Paints others plainOthers) :
    Paints (painted ++ others) (plain ++ plainOthers) := by
  intro rest
  rw [List.append_assoc, paints, paintsOthers, List.append_assoc]

theorem paints_self {text : Text} (noEscape : '\x1b' ∉ text) : Paints text text := by
  intro rest
  induction text with
  | nil => rfl
  | cons char others ih =>
      simp only [List.mem_cons, not_or] at noEscape
      rw [List.cons_append, withoutSequences_cons (Ne.symm noEscape.1), ih noEscape.2]
      rfl

theorem paints_flatMap {item : Type} {painted plain : item → Text} {items : List item}
    (each : ∀ item ∈ items, Paints (painted item) (plain item)) :
    Paints (items.flatMap painted) (items.flatMap plain) := by
  induction items with
  | nil => exact paints_self List.not_mem_nil
  | cons first others ih =>
      obtain ⟨paintsFirst, paintsOthers⟩ := List.forall_mem_cons.mp each
      exact paintsFirst.append (ih paintsOthers)

theorem paints_joinWith {item : Type} {painted plain : item → Text} {items : List item}
    (each : ∀ item ∈ items, Paints (painted item) (plain item)) :
    Paints (joinWith ['\n'] (items.map painted)) (joinWith ['\n'] (items.map plain)) := by
  induction items with
  | nil => exact paints_self List.not_mem_nil
  | cons first others ih =>
      obtain ⟨paintsFirst, paintsOthers⟩ := List.forall_mem_cons.mp each
      cases others with
      | nil => exact paintsFirst
      | cons second more =>
          have lineFeed : Paints ['\n'] ['\n'] := paints_self (by decide)
          exact (paintsFirst.append lineFeed).append (ih paintsOthers)

/-! ## Styles -/

theorem end_not_mem_codes (codes : List Nat) : 'm' ∉ joinWith [';'] (codes.map ofNat) := by
  have noDigit (code : Nat) : 'm' ∉ ofNat code := by
    intro member
    exact absurd (isDigit_of_mem_ofNat member) (by decide)
  induction codes with
  | nil => exact List.not_mem_nil
  | cons first others ih =>
      cases others with
      | nil => exact noDigit first
      | cons second more => simpa [joinWith, noDigit first] using ih

theorem paints_escapeSequence (codes : List Nat) : Paints (escapeSequence codes) [] := by
  intro rest
  have deleted := withoutSequences_sequence (end_not_mem_codes codes) rest
  simpa [escapeSequence] using deleted

theorem paints_paint (style : Option Style) {text : Text} (noEscape : '\x1b' ∉ text) :
    Paints (paint style text) text := by
  have bare := paints_self noEscape
  cases style with
  | none => exact bare
  | some style =>
      rw [paint, Style.apply]
      split
      · exact bare
      · have wrapped := ((paints_escapeSequence style.codes).append bare).append
          (paints_escapeSequence [0])
        simpa using wrapped

/-! ## Lines -/

variable (palette : Palette)

theorem paints_paintSpan {span : Span} (noEscape : '\x1b' ∉ span.text) :
    Paints (paintSpan palette span) (paintSpan .plain span) := by
  obtain ⟨role, text⟩ := span
  cases role with
  | placeholder => exact paints_self List.not_mem_nil
  | plain => exact paints_self noEscape
  | indent => exact paints_self noEscape
  | _ => exact paints_paint _ noEscape

theorem paints_gutter (indicator : Option Indicator) :
    Paints (gutter palette indicator) (gutter .plain indicator) := by
  cases indicator with
  | none => exact paints_self (show '\x1b' ∉ [' ', ' '] by decide)
  | some indicator =>
      have blank : Paints [' '] [' '] := paints_self (by decide)
      exact (paints_paint (palette.severity indicator.severity) (by decide)).append blank

theorem paints_note {indicator : Option Indicator}
    (noEscape : ∀ shown ∈ indicator, '\x1b' ∉ shown.message) :
    Paints (note palette indicator) (note .plain indicator) := by
  cases indicator with
  | none => exact paints_self List.not_mem_nil
  | some indicator =>
      have message := noEscape indicator rfl
      have severity : '\x1b' ∉ indicator.severity.name := by
        cases indicator.severity <;> decide
      exact paints_paint palette.message (by simp [message, severity])

theorem paints_highlightLine {line : RenderedLine} (escapeFree : line.EscapeFree)
    (marked : Bool) :
    Paints (highlightLine palette marked line) (highlightLine .plain marked line) := by
  have spans : Paints (line.spans.flatMap (paintSpan palette))
      (line.spans.flatMap (paintSpan .plain)) :=
    paints_flatMap fun span member => paints_paintSpan palette (escapeFree.spans span member)
  have front : Paints (if marked then gutter palette line.indicator else [])
      (if marked then gutter .plain line.indicator else []) := by
    cases marked with
    | false => exact paints_self List.not_mem_nil
    | true => exact paints_gutter palette line.indicator
  exact (front.append spans).append (paints_note palette escapeFree.message)

/-- Deleting the control sequences takes the colours away and leaves the text as it is. -/
theorem withoutSequences_highlight {lines : List RenderedLine}
    (escapeFree : ∀ line ∈ lines, line.EscapeFree) :
    withoutSequences (highlight palette lines) = highlight .plain lines := by
  have paints := paints_joinWith fun line member =>
    paints_highlightLine palette (escapeFree line member)
      (lines.any fun line => line.indicator.isSome)
  exact paints.withoutSequences_eq

theorem withoutSequences_highlight_of_marked_line :
    let palette := Palette.default.withStyle .key { further := [48, 5, 17], underline := true }
    let lines : List RenderedLine :=
      [ ⟨1, [⟨.key, "m".toList⟩, ⟨.placeholder, ['\u00a0']⟩, ⟨.literal, "[1m".toList⟩],
          some ⟨.warning, "m".toList⟩⟩,
        ⟨2, [⟨.comment, []⟩], none⟩ ]
    (∀ line ∈ lines, line.EscapeFree) ∧
      highlight palette lines ≠ highlight .plain lines ∧
      withoutSequences (highlight palette lines) = highlight .plain lines := by
  intro palette lines
  have escapeFree : ∀ line ∈ lines, line.EscapeFree := by
    intro line member
    rcases List.mem_cons.mp member with rfl | member
    · exact ⟨by decide, by decide⟩
    · obtain rfl := List.mem_singleton.mp member
      exact ⟨by decide, by decide⟩
  exact ⟨escapeFree, by decide, withoutSequences_highlight palette escapeFree⟩

end Terminal

end MetaConfig
