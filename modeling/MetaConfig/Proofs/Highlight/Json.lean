import MetaConfig.Highlight.Json
import MetaConfig.Proofs.Document
import MetaConfig.Proofs.Json.Printing

/-!
Rendered lines written as JSON come back from it. A line gives a record, from which its number is
read only where it fits into 64 bits, and the record gives a text.
-/

namespace MetaConfig

open Json Text

theorem SpanRole.ofName?_name (role : SpanRole) : ofName? role.name = some role := by
  cases role <;> rfl

theorem Severity.ofName?_name (severity : Severity) : ofName? severity.name = some severity := by
  cases severity <;> rfl

namespace Json.Value

theorem number_lt_of_natural? {value : Value} {number : Nat}
    (read : value.natural? = some number) : number < twoTo 64 := by
  unfold natural? at read
  split at read
  · split at read
    · rename_i fits
      obtain rfl := Option.some.inj read
      exact fits
    · contradiction
  · contradiction

end Json.Value

namespace Span

theorem ofValue?_toValue (span : Span) : ofValue? span.toValue = some span := by
  have fields : span.toValue.fields? [["role".toList], ["text".toList]] =
      some [some (.string span.role.name), some (.string span.text)] := rfl
  rw [ofValue?, fields]
  simp [Value.word?, Value.string?, SpanRole.ofName?_name]

theorem exact_toValue (span : Span) (levels : Nat) : Exact (levels + 1) span.toValue := by
  have names : ["role".toList, "text".toList].Nodup := by decide
  exact exact_stringMembers [("role".toList, span.role.name), ("text".toList, span.text)] levels
    names

end Span

namespace Indicator

theorem ofValue?_toValue (indicator : Indicator) :
    ofValue? indicator.toValue = some indicator := by
  have fields : indicator.toValue.fields? [["severity".toList], ["message".toList]] =
      some [some (.string indicator.severity.name), some (.string indicator.message)] := rfl
  rw [ofValue?, fields]
  simp [Value.word?, Value.string?, Severity.ofName?_name]

theorem exact_toValue (indicator : Indicator) (levels : Nat) :
    Exact (levels + 1) indicator.toValue := by
  have names : ["severity".toList, "message".toList].Nodup := by decide
  exact exact_stringMembers
    [("severity".toList, indicator.severity.name), ("message".toList, indicator.message)] levels
    names

end Indicator

namespace RenderedLine

theorem ofValue?_toValue {line : RenderedLine} (fits : line.number < twoTo 64) :
    ofValue? line.toValue = some line := by
  obtain ⟨number, spans, indicator⟩ := line
  have fields : (toValue ⟨number, spans, indicator⟩).fields?
      [["number".toList], ["spans".toList], ["indicator".toList]] =
      some [some (.ofNat number), some (.array (spans.map Span.toValue)),
        indicator.map Indicator.toValue] := by
    cases indicator <;> rfl
  have numberBack : (Value.ofNat number).natural? = some number := if_pos fits
  have spansBack : (spans.map Span.toValue).mapM Span.ofValue? = some spans :=
    mapM_map_eq_some fun span _ => span.ofValue?_toValue
  have indicatorBack : indicatorOfField? (indicator.map Indicator.toValue) = some indicator := by
    cases indicator with
    | none => rfl
    | some indicator => exact congrArg (Option.map some) indicator.ofValue?_toValue
  rw [ofValue?, fields]
  simp [numberBack, Value.array?, spansBack, indicatorBack]

theorem number_lt_of_ofValue? {value : Value} {line : RenderedLine}
    (read : ofValue? value = some line) : line.number < twoTo 64 := by
  unfold ofValue? at read
  split at read
  · obtain ⟨number, numberRead, others⟩ := Option.bind_eq_some_iff.mp read
    have fits := Value.number_lt_of_natural? numberRead
    simp only [bind, pure, Option.bind_eq_some_iff, Option.some.injEq] at others
    obtain ⟨_, _, _, _, _, _, rfl⟩ := others
    exact fits
  · contradiction

theorem forall_members_toValue {line : RenderedLine} {condition : Value → Prop}
    (number : condition (.ofNat line.number))
    (spans : condition (.array (line.spans.map Span.toValue)))
    (indicator : ∀ indicator ∈ line.indicator, condition indicator.toValue)
    {members : List (Text × Value)} (isObject : line.toValue = .object members) :
    ∀ member ∈ members, condition member.2 := by
  obtain rfl := Value.object.inj isObject
  intro member inside
  rcases List.mem_append.mp inside with always | sometimes
  · simp only [List.mem_cons, List.not_mem_nil, or_false] at always
    rcases always with rfl | rfl
    · exact number
    · exact spans
  · obtain ⟨shown, known, rfl⟩ := Option.map_eq_some_iff.mp (Option.mem_toList.mp sometimes)
    exact indicator shown known

theorem exact_toValue {line : RenderedLine} (fits : line.number < twoTo 64) (levels : Nat) :
    Exact (levels + 3) line.toValue := by
  refine .object ?names (forall_members_toValue ?number ?spans ?indicator rfl)
  case names =>
    obtain ⟨number, spans, indicator⟩ := line
    cases indicator with
    | none =>
        have names : ["number".toList, "spans".toList].Nodup := by decide
        exact names
    | some indicator =>
        have names : ["number".toList, "spans".toList, "indicator".toList].Nodup := by decide
        exact names
  case number =>
    have bounds : twoTo 64 = greatestNatural + 1 := by decide
    refine .integer ⟨?_, ?_⟩
    · omega
    · omega
  case spans =>
    refine .array fun item inside => ?_
    obtain ⟨span, _, rfl⟩ := List.mem_map.mp inside
    exact span.exact_toValue levels
  case indicator => exact fun indicator _ => indicator.exact_toValue (levels + 1)

theorem whole_toValue (line : RenderedLine) : Whole line.toValue := by
  refine .object (forall_members_toValue (.integer line.number) (.array fun item inside => ?_)
    (fun indicator _ => (indicator.exact_toValue 0).whole) rfl)
  obtain ⟨span, _, rfl⟩ := List.mem_map.mp inside
  exact (span.exact_toValue 0).whole

end RenderedLine

theorem Document.number_le_of_mem_render {markers : Markers} {source : Text} {line : RenderedLine}
    (member : line ∈ render markers source) : line.number ≤ (lines source).length := by
  obtain ⟨numbered, inside, rfl⟩ := List.mem_map.mp member
  have upper := (List.mem_range'_1.mp (number_mem_of_mem_read inside)).2
  change numbered.number ≤ (lines source).length
  omega

namespace Json

theorem number_lt_of_linesOfText? {source : Text} {lines : List RenderedLine}
    (read : linesOfText? source = some lines) : ∀ line ∈ lines, line.number < twoTo 64 := by
  intro line member
  unfold linesOfText? at read
  split at read
  · obtain ⟨items, _, itemsRead⟩ := Option.bind_eq_some_iff.mp read
    obtain ⟨item, _, itemRead⟩ := exists_of_mem_mapM itemsRead member
    exact RenderedLine.number_lt_of_ofValue? itemRead
  · contradiction

theorem linesOfText?_eq_bind (source : Text) :
    linesOfText? source = (Value.read source).toOption.bind linesOfValue? := by
  unfold linesOfText?
  cases Value.read source <;> rfl

theorem linesOfText?_highlight (layout : Layout) {lines : List RenderedLine}
    (fit : ∀ line ∈ lines, line.number < twoTo 64) :
    linesOfText? (highlight layout lines) = some lines := by
  have exact : Exact 127 (.array (lines.map RenderedLine.toValue)) := by
    refine .array ?_
    intro item member
    obtain ⟨line, inside, rfl⟩ := List.mem_map.mp member
    exact RenderedLine.exact_toValue (fit line inside) 123
  rw [linesOfText?, highlight, Value.read_print layout exact]
  exact mapM_map_eq_some fun line member => RenderedLine.ofValue?_toValue (fit line member)

theorem linesOfText?_highlight_layout (first second : Layout) (lines : List RenderedLine) :
    linesOfText? (highlight first lines) = linesOfText? (highlight second lines) := by
  have whole : Whole (.array (lines.map RenderedLine.toValue)) := by
    refine .array ?_
    intro item member
    obtain ⟨line, _, rfl⟩ := List.mem_map.mp member
    exact line.whole_toValue
  have alike := Value.toOption_read_print_eq whole first second
  rw [linesOfText?_eq_bind, linesOfText?_eq_bind, highlight, highlight, alike]

/-- Lines come back from the text that they are written as, in either layout, if and only if
their numbers fit into 64 bits. -/
theorem linesOfText?_highlight_iff (layout : Layout) (lines : List RenderedLine) :
    linesOfText? (highlight layout lines) = some lines ↔
      ∀ line ∈ lines, line.number < twoTo 64 :=
  ⟨number_lt_of_linesOfText?, linesOfText?_highlight layout⟩

example :
    let text := "\"\\/\u00a0😀\x01".toList
    let line : RenderedLine := ⟨2 ^ 64 - 1, [⟨.envMarker, text⟩], some ⟨.warning, ['\n']⟩⟩
    linesOfText? (highlight .indented [line]) = some [line] := by
  decide +kernel

theorem linesOfText?_highlight_render (layout : Layout) (markers : Markers) {source : Text}
    (fit : (Document.lines source).length < twoTo 64) :
    linesOfText? (highlight layout (Document.render markers source)) =
      some (Document.render markers source) := by
  refine linesOfText?_highlight layout fun line member => ?_
  exact Nat.lt_of_le_of_lt (Document.number_le_of_mem_render member) fit

end Json

end MetaConfig
