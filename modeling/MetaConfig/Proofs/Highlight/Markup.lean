import MetaConfig.Highlight.Html
import MetaConfig.Proofs.Text.Cutting
import MetaConfig.Proofs.Text.Decimal

/-!
Reading markup. Entities are read as the characters that they stand for, a tag gives the values
of its properties, and markup is cut into segments at the signs around its tags. Escaped texts
hold none of these signs, so each reader takes back what was written.
-/

namespace MetaConfig.Html

open Text

def unescape : Text → Text
  | [] => []
  | '&' :: 'a' :: 'm' :: 'p' :: ';' :: rest => '&' :: unescape rest
  | '&' :: 'l' :: 't' :: ';' :: rest => '<' :: unescape rest
  | '&' :: 'g' :: 't' :: ';' :: rest => '>' :: unescape rest
  | '&' :: 'q' :: 'u' :: 'o' :: 't' :: ';' :: rest => '"' :: unescape rest
  | '&' :: '#' :: '3' :: '9' :: ';' :: rest => '\'' :: unescape rest
  | '&' :: 'n' :: 'b' :: 's' :: 'p' :: ';' :: rest => '\u00a0' :: unescape rest
  | char :: rest => char :: unescape rest

def entities : List (Char × Text) :=
  [ ('&', "&amp;".toList),
    ('<', "&lt;".toList),
    ('>', "&gt;".toList),
    ('"', "&quot;".toList),
    ('\'', "&#39;".toList),
    ('\u00a0', "&nbsp;".toList) ]

theorem escapeChar_cases (char : Char) :
    (char, escapeChar char) ∈ entities ∨
      char ∉ entities.map Prod.fst ∧ escapeChar char = [char] := by
  by_cases special : char ∈ entities.map Prod.fst
  · left
    have escaped : ∀ entry ∈ entities, escapeChar entry.1 = entry.2 := by decide
    obtain ⟨entry, known, rfl⟩ := List.mem_map.mp special
    rw [escaped entry known]
    exact known
  · right
    refine ⟨special, ?_⟩
    simp only [entities, List.map_cons, List.map_nil, List.mem_cons, List.not_mem_nil, or_false,
      not_or] at special
    simp [escapeChar, special]

theorem unescape_cons {char : Char} (plain : char ≠ '&') (rest : Text) :
    unescape (char :: rest) = char :: unescape rest := by
  simp [unescape, plain]

theorem unescape_entity_append {char : Char} {entity : Text} (known : (char, entity) ∈ entities)
    (rest : Text) : unescape (entity ++ rest) = char :: unescape rest := by
  have each : ∀ entry ∈ entities, unescape (entry.2 ++ rest) = entry.1 :: unescape rest := by
    simp only [entities, List.forall_mem_cons]
    exact ⟨rfl, rfl, rfl, rfl, rfl, rfl, List.forall_mem_nil _⟩
  exact each _ known

theorem unescape_escapeChar_append (char : Char) (rest : Text) :
    unescape (escapeChar char ++ rest) = char :: unescape rest := by
  rcases escapeChar_cases char with known | ⟨plain, same⟩
  · exact unescape_entity_append known rest
  · have notAmpersand : char ≠ '&' := by
      rintro rfl
      exact plain (by decide)
    rw [same, List.singleton_append, unescape_cons notAmpersand]

theorem unescape_escape (text : Text) : unescape (escape text) = text := by
  induction text with
  | nil => rfl
  | cons char rest ih =>
      rw [escape] at ih ⊢
      rw [List.flatMap_cons, unescape_escapeChar_append, ih]

theorem escape_append (first second : Text) :
    escape (first ++ second) = escape first ++ escape second :=
  List.flatMap_append

theorem not_mem_escape {sign : Char} (isSign : sign = '<' ∨ sign = '>' ∨ sign = '"')
    (text : Text) : sign ∉ escape text := by
  have absent : ∀ entry ∈ entities, sign ∉ entry.2 := by
    rcases isSign with rfl | rfl | rfl <;> decide
  have special : sign ∈ entities.map Prod.fst := by
    rcases isSign with rfl | rfl | rfl <;> decide
  intro member
  obtain ⟨char, _, inside⟩ := List.mem_flatMap.mp member
  rcases escapeChar_cases char with known | ⟨plain, same⟩
  · exact absent _ known inside
  · rw [same, List.mem_singleton] at inside
    exact plain (inside ▸ special)

def value? (name text : Text) : Option (Text × Text) :=
  ((after? ([' '] ++ name ++ ['=', '"']) text).bind (splitOnce '"')).map fun (value, rest) =>
    (unescape value, rest)

def values? : List Text → Text → Option (List Text)
  | [], [] => some []
  | [], _ :: _ => none
  | name :: names, text => do
      let (value, rest) ← value? name text
      let others ← values? names rest
      some (value :: others)

theorem value?_property_append (name value rest : Text) :
    value? name (property name value ++ rest) = some (value, rest) := by
  have absent : '"' ∉ escape value := not_mem_escape (.inr (.inr rfl)) value
  have cut : property name value ++ rest =
      [' '] ++ name ++ ['=', '"'] ++ (escape value ++ '"' :: rest) := by
    simp [property]
  rw [value?, cut, after?_append, Option.bind_some, splitOnce_append_cons absent, Option.map_some]
  exact congrArg (fun value => some (value, rest)) (unescape_escape value)

theorem values?_properties (properties : List (Text × Text)) :
    values? (properties.map Prod.fst)
        (properties.flatMap fun (name, value) => property name value) =
      some (properties.map Prod.snd) := by
  induction properties with
  | nil => rfl
  | cons first others ih =>
      rw [List.map_cons, List.flatMap_cons, values?, value?_property_append]
      simp only [Option.bind_eq_bind, Option.bind_some, ih, List.map_cons]

theorem not_mem_property {sign : Char} (isBracket : sign = '<' ∨ sign = '>') {name : Text}
    (inName : sign ∉ name) (value : Text) : sign ∉ property name value := by
  have inValue : sign ∉ escape value := not_mem_escape (isBracket.imp_right .inl) value
  have around : sign ∉ [' '] ∧ sign ∉ ['=', '"'] ∧ sign ∉ ['"'] := by
    rcases isBracket with rfl | rfl <;> decide
  simp only [property, List.mem_append, not_or]
  exact ⟨⟨⟨⟨around.1, inName⟩, around.2.1⟩, inValue⟩, around.2.2⟩

inductive Tag where
  | document (containerClass : Text)
  | line (number : Nat)
  | indicator (shown : Indicator)
  | role (shown : SpanRole)
  | documentEnd
  | lineEnd
  | spanEnd
  deriving DecidableEq, Repr

namespace Tag

def element : Tag → Text
  | document _ => "pre".toList
  | line _ => "div".toList
  | indicator _ => "span".toList
  | role _ => "span".toList
  | documentEnd => "/pre".toList
  | lineEnd => "/div".toList
  | spanEnd => "/span".toList

def properties : Tag → List (Text × Text)
  | document containerClass => [("class".toList, containerClass)]
  | line number => [("class".toList, "line".toList), ("data-line".toList, ofNat number)]
  | indicator shown =>
      [ ("class".toList, "lint lint-".toList ++ shown.severity.name),
        ("title".toList, shown.message),
        ("aria-label".toList, shown.message) ]
  | role shown => [("class".toList, "meta-".toList ++ shown.name)]
  | documentEnd => []
  | lineEnd => []
  | spanEnd => []

def print (tag : Tag) : Text :=
  tag.element ++ tag.properties.flatMap fun (name, value) => property name value

def closing? (text : Text) : Option Tag :=
  [documentEnd, lineEnd, spanEnd].find? fun tag => tag.element == text

def document? (text : Text) : Option Tag := do
  match ← (after? "pre".toList text).bind (values? ["class".toList]) with
  | [containerClass] => some (document containerClass)
  | _ => none

def line? (text : Text) : Option Tag := do
  match ← (after? "div".toList text).bind (values? ["class".toList, "data-line".toList]) with
  | [_, digits] => (nat? 10 digits).map line
  | _ => none

def indicator? (text : Text) : Option Tag := do
  match ← (after? "span".toList text).bind
      (values? ["class".toList, "title".toList, "aria-label".toList]) with
  | [classes, message, _] =>
      ((after? "lint lint-".toList classes).bind Severity.ofName?).map fun severity =>
        indicator ⟨severity, message⟩
  | _ => none

def role? (text : Text) : Option Tag := do
  match ← (after? "span".toList text).bind (values? ["class".toList]) with
  | [name] => ((after? "meta-".toList name).bind SpanRole.ofName?).map role
  | _ => none

def read? (text : Text) : Option Tag :=
  closing? text <|> document? text <|> line? text <|> indicator? text <|> role? text

theorem values?_after (tag : Tag) :
    (after? tag.element tag.print).bind (values? (tag.properties.map Prod.fst)) =
      some (tag.properties.map Prod.snd) := by
  rw [print, after?_append, Option.bind_some, values?_properties]

theorem document?_print (containerClass : Text) :
    document? (document containerClass).print = some (document containerClass) := by
  have values := values?_after (document containerClass)
  simp only [element, properties, List.map_cons, List.map_nil] at values
  simp only [document?, values]
  rfl

theorem line?_print (number : Nat) : line? (line number).print = some (line number) := by
  have values := values?_after (line number)
  simp only [element, properties, List.map_cons, List.map_nil] at values
  simp only [line?, values, Option.bind_eq_bind, Option.bind_some, nat?_ofNat, Option.map_some]

theorem indicator?_print (shown : Indicator) :
    indicator? (indicator shown).print = some (indicator shown) := by
  have values := values?_after (indicator shown)
  have named : Severity.ofName? shown.severity.name = some shown.severity := by
    cases shown.severity <;> decide
  simp only [element, properties, List.map_cons, List.map_nil] at values
  simp only [indicator?, values, Option.bind_eq_bind, Option.bind_some, after?_append, named,
    Option.map_some]

theorem read?_print (tag : Tag) : read? tag.print = some tag := by
  cases tag with
  | document containerClass =>
      have notClosing : closing? (document containerClass).print = none := rfl
      rw [read?, notClosing, document?_print]
      rfl
  | line number =>
      have notClosing : closing? (line number).print = none := rfl
      have notDocument : document? (line number).print = none := rfl
      rw [read?, notClosing, notDocument, line?_print]
      rfl
  | indicator shown =>
      have notClosing : closing? (indicator shown).print = none := rfl
      have notDocument : document? (indicator shown).print = none := rfl
      have notLine : line? (indicator shown).print = none := rfl
      rw [read?, notClosing, notDocument, notLine, indicator?_print]
      rfl
  | role shown => cases shown <;> decide
  | documentEnd => decide
  | lineEnd => decide
  | spanEnd => decide

theorem not_mem_print {sign : Char} (isBracket : sign = '<' ∨ sign = '>') (tag : Tag) :
    sign ∉ tag.print := by
  have inElement : sign ∉ tag.element := by
    rcases isBracket with rfl | rfl <;> cases tag <;> simp [element]
  have inNames : ∀ entry ∈ tag.properties, sign ∉ entry.1 := by
    rcases isBracket with rfl | rfl <;> cases tag <;> simp [properties]
  intro member
  rcases List.mem_append.mp member with inside | inside
  · exact inElement inside
  · obtain ⟨entry, inProperties, inProperty⟩ := List.mem_flatMap.mp inside
    exact not_mem_property isBracket (inNames entry inProperties) entry.2 inProperty

end Tag

structure Segment where
  tag : Tag
  text : Text
  deriving DecidableEq, Repr

namespace Segment

def print (segment : Segment) : Text :=
  '<' :: segment.tag.print ++ '>' :: escape segment.text

def read? (piece : Text) : Option Segment := do
  let (tag, text) ← splitOnce '>' piece
  (Tag.read? tag).map (⟨·, unescape text⟩)

def readAll? (markup : Text) : Option (List Segment) :=
  match pieces '<' markup with
  | [] :: others => others.mapM read?
  | _ => none

theorem read?_print (segment : Segment) :
    read? (segment.tag.print ++ '>' :: escape segment.text) = some segment := by
  have absent : '>' ∉ segment.tag.print := segment.tag.not_mem_print (.inr rfl)
  simp only [read?, splitOnce_append_cons absent, Option.bind_eq_bind, Option.bind_some,
    Tag.read?_print, unescape_escape, Option.map_some]

theorem pieces_flatMap_print (segments : List Segment) {lead : Text} (absent : '<' ∉ lead) :
    pieces '<' (lead ++ segments.flatMap print) =
      lead :: segments.map fun segment => segment.tag.print ++ '>' :: escape segment.text := by
  induction segments generalizing lead with
  | nil => simpa using pieces_of_not_mem absent
  | cons first others ih =>
      have inTag : '<' ∉ first.tag.print := first.tag.not_mem_print (.inl rfl)
      have inText : '<' ∉ escape first.text := not_mem_escape (.inl rfl) first.text
      have inside : '<' ∉ first.tag.print ++ '>' :: escape first.text := by
        simp [inTag, inText]
      rw [List.flatMap_cons, print, List.cons_append, List.cons_append, pieces_append_cons,
        pieces_of_not_mem absent, ih inside]
      rfl

theorem readAll?_flatMap_print (segments : List Segment) :
    readAll? (segments.flatMap print) = some segments := by
  have noLead : '<' ∉ ([] : Text) := List.not_mem_nil
  have cut := pieces_flatMap_print segments noLead
  rw [List.nil_append] at cut
  rw [readAll?, cut]
  exact mapM_map_eq_some fun segment _ => read?_print segment

end Segment

end MetaConfig.Html
