import Mathlib.Data.List.TakeWhile
import MetaConfig.Json.Printer
import MetaConfig.Json.Reader
import MetaConfig.Proofs.Text.Decimal

/-!
How strings, and objects that have only strings in them, can be spelled in a JSON text. A
character may stand for itself or be written as an escape, and blanks may stand between the
parts. However an object is spelled, the reader finds the members that it was made from.
-/

namespace MetaConfig.Json

open Text

structure HexQuad (digits : Text) (code : Nat) : Prop where
  length_eq : digits.length = 4
  nat?_eq : nat? 16 digits = some code

/-- What can follow a backslash for a character. A character above the first plane is written
as two escapes, for a leading and a trailing surrogate. -/
inductive SpellsEscape : Char → Text → Prop
  | short {letter char} : shortEscape? letter = some char → SpellsEscape char [letter]
  | unit {digits char} : HexQuad digits char.toNat → SpellsEscape char ('u' :: digits)
  | pair {high low upper lower char} : HexQuad high (0xD800 + upper) →
      HexQuad low (0xDC00 + lower) → lower < 0x400 →
      char.toNat = 0x10000 + upper * 0x400 + lower →
      SpellsEscape char ('u' :: high ++ '\\' :: 'u' :: low)

inductive SpellsChar : Char → Text → Prop
  | plain {char} : char ≠ '"' → char ≠ '\\' → isControl char = false → SpellsChar char [char]
  | escaped {char escape} : SpellsEscape char escape → SpellsChar char ('\\' :: escape)

inductive SpellsString : Text → Text → Prop
  | nil : SpellsString [] []
  | cons {char spelling text others} : SpellsChar char spelling → SpellsString text others →
      SpellsString (char :: text) (spelling ++ others)

def IsGap (text : Text) : Prop := ∀ char ∈ text, isBlank char = true

inductive SpellsMember (name value : Text) : Text → Prop
  | mk {before nameSpelling afterName beforeValue valueSpelling after} :
      IsGap before → SpellsString name nameSpelling → IsGap afterName →
      IsGap beforeValue → SpellsString value valueSpelling → IsGap after →
      SpellsMember name value (before ++ '"' :: nameSpelling ++ '"' :: afterName ++ ':' ::
        beforeValue ++ '"' :: valueSpelling ++ '"' :: after)

inductive SpellsMembers : List (Text × Text) → Text → Prop
  | last {name value text} : SpellsMember name value text → SpellsMembers [(name, value)] text
  | more {name value text members others} : SpellsMember name value text →
      SpellsMembers members others →
      SpellsMembers ((name, value) :: members) (text ++ ',' :: others)

inductive SpellsObject : List (Text × Text) → Text → Prop
  | empty {before inside after} : IsGap before → IsGap inside → IsGap after →
      SpellsObject [] (before ++ '\x7b' :: inside ++ '\x7d' :: after)
  | members {before members inside after} : IsGap before → SpellsMembers members inside →
      IsGap after → SpellsObject members (before ++ '\x7b' :: inside ++ '\x7d' :: after)

/-! ## Strings -/

theorem readHexQuad_append {digits : Text} {code : Nat} (quad : HexQuad digits code)
    (rest : Text) : readHexQuad (digits ++ rest) = .ok (code, rest) := by
  have taken : (digits ++ rest).take 4 = digits := List.take_left' quad.length_eq
  have dropped : (digits ++ rest).drop 4 = rest := List.drop_left' quad.length_eq
  have more : (digits ++ rest).drop 3 ≠ [] := by
    intro empty
    have lengths := List.drop_eq_nil_iff.mp empty
    rw [List.length_append, quad.length_eq] at lengths
    omega
  rw [readHexQuad, taken, quad.nat?_eq]
  simp only [more, if_false, dropped]

theorem exists_hexQuad_of_readHexQuad {text rest : Text} {code : Nat}
    (found : readHexQuad text = .ok (code, rest)) :
    ∃ digits, HexQuad digits code ∧ text = digits ++ rest := by
  unfold readHexQuad at found
  split at found
  · rename_i value denoted
    split at found
    · cases found
    · rename_i longer
      simp only [Except.ok.injEq, Prod.mk.injEq] at found
      obtain ⟨rfl, rfl⟩ := found
      rw [List.drop_eq_nil_iff] at longer
      have length : (text.take 4).length = 4 := by
        rw [List.length_take]
        omega
      exact ⟨text.take 4, ⟨length, denoted⟩, (List.take_append_drop 4 text).symm⟩
  · split at found <;> cases found

theorem readUnicodeEscape_unit {digits : Text} {char : Char} (quad : HexQuad digits char.toNat)
    (rest : Text) : readUnicodeEscape (digits ++ rest) = .ok (char, rest) := by
  have valid : char.toNat.isValidChar := char.valid
  have low : isLowSurrogate char.toNat = false := by
    simp only [Nat.isValidChar] at valid
    simp only [isLowSurrogate, Bool.and_eq_false_iff, decide_eq_false_iff_not]
    omega
  have high : isHighSurrogate char.toNat = false := by
    simp only [Nat.isValidChar] at valid
    simp only [isHighSurrogate, Bool.and_eq_false_iff, decide_eq_false_iff_not]
    omega
  simp [readUnicodeEscape, readHexQuad_append quad, low, high, bind, Except.bind]

theorem readUnicodeEscape_pair {high low : Text} {upper lower : Nat} {char : Char}
    (highQuad : HexQuad high (0xD800 + upper)) (lowQuad : HexQuad low (0xDC00 + lower))
    (lowerBound : lower < 0x400) (code : char.toNat = 0x10000 + upper * 0x400 + lower)
    (rest : Text) :
    readUnicodeEscape (high ++ '\\' :: 'u' :: (low ++ rest)) = .ok (char, rest) := by
  have valid : char.toNat < 0x110000 := by
    have bounds : char.toNat.isValidChar := char.valid
    simp only [Nat.isValidChar] at bounds
    omega
  have notLow : isLowSurrogate (0xD800 + upper) = false := by
    simp only [isLowSurrogate, Bool.and_eq_false_iff, decide_eq_false_iff_not]
    omega
  have isHigh : isHighSurrogate (0xD800 + upper) = true := by
    simp only [isHighSurrogate, Bool.and_eq_true, decide_eq_true_eq]
    omega
  have isLow : isLowSurrogate (0xDC00 + lower) = true := by
    simp only [isLowSurrogate, Bool.and_eq_true, decide_eq_true_eq]
    omega
  have joined : Char.ofNat (0x10000 + upper * 0x400 + lower) = char := by
    rw [← code, Char.ofNat_toNat]
  simp [readUnicodeEscape, readHexQuad_append highQuad, readHexQuad_append lowQuad, notLow,
    isHigh, isLow, joined, bind, Except.bind]

theorem readEscape_append {char : Char} {escape : Text} (spells : SpellsEscape char escape)
    (rest : Text) : readEscape (escape ++ rest) = .ok (char, rest) := by
  cases spells with
  | @short letter _ meant =>
      have noUnit : letter ≠ 'u' := by
        rintro rfl
        simp [shortEscape?] at meant
      simp [readEscape, meant]
  | unit quad => exact readUnicodeEscape_unit quad rest
  | pair highQuad lowQuad lowerBound code =>
      simp only [List.cons_append, List.append_assoc]
      exact readUnicodeEscape_pair highQuad lowQuad lowerBound code rest

/-- Reading takes up one character, however it is written, and goes on with what follows. -/
theorem readCharacters_append {char : Char} {spelling : Text} (spells : SpellsChar char spelling)
    (fuel : Nat) (rest : Text) :
    readCharacters (fuel + 1) (spelling ++ rest) =
      (readCharacters fuel rest).map fun (others, after) => (char :: others, after) := by
  have prepend (result : Except Fault (Text × Text)) :
      (result >>= fun (others, after) => .ok (char :: others, after)) =
        result.map fun (others, after) => (char :: others, after) := by
    cases result <;> rfl
  cases spells with
  | plain noQuote noBackslash noControl =>
      simp only [List.singleton_append, readCharacters, noQuote, noBackslash, noControl, if_false,
        Bool.false_eq_true]
      exact prepend _
  | escaped escape =>
      simp only [List.cons_append, readCharacters, readEscape_append escape]
      exact prepend _

theorem readCharacters_spelling {text spelling : Text} (spells : SpellsString text spelling)
    {fuel : Nat} (enough : text.length < fuel) (rest : Text) :
    readCharacters fuel (spelling ++ '"' :: rest) = .ok (text, rest) := by
  induction spells generalizing fuel with
  | nil =>
      obtain ⟨less, rfl⟩ := Nat.exists_eq_add_one_of_ne_zero (Nat.ne_of_gt enough)
      simp [readCharacters]
  | cons charSpells _ ih =>
      obtain ⟨less, rfl⟩ :=
        Nat.exists_eq_add_one_of_ne_zero (Nat.ne_of_gt (Nat.zero_lt_of_lt enough))
      rw [List.append_assoc, readCharacters_append charSpells]
      rw [List.length_cons] at enough
      rw [ih (by omega)]
      rfl

theorem SpellsChar.nonempty {char : Char} {spelling : Text} (spells : SpellsChar char spelling) :
    0 < spelling.length := by
  cases spells <;> simp

theorem SpellsString.length_le {text spelling : Text} (spells : SpellsString text spelling) :
    text.length ≤ spelling.length := by
  induction spells with
  | nil => simp
  | cons charSpells _ ih =>
      have positive := charSpells.nonempty
      simp only [List.length_cons, List.length_append]
      omega

theorem readString_spelling {text spelling : Text} (spells : SpellsString text spelling)
    (rest : Text) : readString (spelling ++ '"' :: rest) = .ok (text, rest) := by
  have shorter := spells.length_le
  refine readCharacters_spelling spells ?_ rest
  rw [List.length_append]
  omega

example : readString "\\ud83d\\ude00\\u0041\\/\"".toList = .ok ("😀A/".toList, []) := by
  cbv

/-! ## Objects -/

theorem skipBlanks_append {gap : Text} (isGap : IsGap gap) {char : Char}
    (solid : isBlank char = false) (rest : Text) :
    skipBlanks (gap ++ char :: rest) = char :: rest := by
  rw [skipBlanks, List.dropWhile_append_of_pos isGap]
  simp [solid]

theorem isGap_nil : IsGap [] := by
  simp [IsGap]

theorem skipBlanks_gap {gap : Text} (isGap : IsGap gap) : skipBlanks gap = [] :=
  List.dropWhile_eq_nil_iff.mpr isGap

inductive Lead : Bool → Text → Prop
  | first : Lead true []
  | comma {gap} : IsGap gap → Lead false (gap ++ [','])

theorem nextName_member {first : Bool} {lead before : Text} (leads : Lead first lead)
    (isGap : IsGap before) (rest : Text) :
    nextName first (lead ++ (before ++ '"' :: rest)) = .ok (true, rest) := by
  cases leads with
  | first => simp [nextName, skipBlanks_append isGap (show isBlank '"' = false by decide)]
  | comma leadGap =>
      simp [nextName, skipBlanks_append leadGap (show isBlank ',' = false by decide),
        skipBlanks_append isGap (show isBlank '"' = false by decide)]

theorem nextName_closing (first : Bool) {gap : Text} (isGap : IsGap gap) (rest : Text) :
    nextName first (gap ++ '\x7d' :: rest) = .ok (false, rest) := by
  simp [nextName, skipBlanks_append isGap (show isBlank '\x7d' = false by decide)]

theorem readColon_append {gap : Text} (isGap : IsGap gap) (rest : Text) :
    readColon (gap ++ ':' :: rest) = .ok rest := by
  simp [readColon, skipBlanks_append isGap (show isBlank ':' = false by decide)]

theorem readValue_string {gap text spelling : Text} (isGap : IsGap gap)
    (spells : SpellsString text spelling) (fuel levels : Nat) (rest : Text) :
    readValue (fuel + 1) levels (gap ++ '"' :: (spelling ++ '"' :: rest)) =
      .ok (.string text, rest) := by
  simp [readValue, readScalar?, skipBlanks_append isGap (show isBlank '"' = false by decide),
    readString_spelling spells, bind, Except.bind]

theorem readMembers_member {first : Bool} {lead before name spelling afterName : Text}
    (leads : Lead first lead) (beforeGap : IsGap before) (nameSpells : SpellsString name spelling)
    (afterNameGap : IsGap afterName) (fuel levels : Nat) (content : Text) :
    readMembers (fuel + 1) levels first
        (lead ++ (before ++ '"' :: (spelling ++ '"' :: (afterName ++ ':' :: content)))) =
      (readValue fuel levels content >>= fun (value, rest) =>
        (readMembers fuel levels false rest).map
          fun (members, after) => ((name, value) :: members, after)) := by
  rw [readMembers, nextName_member leads beforeGap]
  simp only [bind, Except.bind, if_true, readString_spelling nameSpells,
    readColon_append afterNameGap]
  cases readValue fuel levels content with
  | error fault => rfl
  | ok found => cases readMembers fuel levels false found.2 <;> rfl

theorem readMembers_append {name value member lead : Text} {first : Bool}
    (spells : SpellsMember name value member) (leads : Lead first lead) (fuel levels : Nat)
    (rest : Text) :
    ∃ after, IsGap after ∧
      readMembers (fuel + 2) levels first (lead ++ (member ++ rest)) =
        (readMembers (fuel + 1) levels false (after ++ rest)).map
          fun (members, rest) => ((name, .string value) :: members, rest) := by
  cases spells with
  | @mk before nameSpelling afterName beforeValue valueSpelling after beforeGap nameSpells
      afterNameGap beforeValueGap valueSpells afterGap =>
      have valueRead := readValue_string beforeValueGap valueSpells fuel levels (after ++ rest)
      have taken := readMembers_member leads beforeGap nameSpells afterNameGap (fuel + 1) levels
        (beforeValue ++ '"' :: (valueSpelling ++ '"' :: (after ++ rest)))
      rw [valueRead] at taken
      exact ⟨after, afterGap, by simpa [bind, Except.bind] using taken⟩

theorem readMembers_closing {fuel : Nat} (positive : 0 < fuel) (levels : Nat) (first : Bool)
    {gap : Text} (isGap : IsGap gap) (rest : Text) :
    readMembers fuel levels first (gap ++ '\x7d' :: rest) = .ok ([], rest) := by
  obtain ⟨less, rfl⟩ := Nat.exists_eq_add_one_of_ne_zero (Nat.ne_of_gt positive)
  simp [readMembers, nextName_closing first isGap, bind, Except.bind]

def stringMembers (members : List (Text × Text)) : List (Text × Value) :=
  members.map fun (name, value) => (name, .string value)

theorem readMembers_spelling {members : List (Text × Text)} {inside lead : Text} {first : Bool}
    (spells : SpellsMembers members inside) (leads : Lead first lead) {fuel : Nat}
    (enough : members.length < fuel) (levels : Nat) (rest : Text) :
    readMembers fuel levels first (lead ++ (inside ++ '\x7d' :: rest)) =
      .ok (stringMembers members, rest) := by
  induction spells generalizing fuel lead first with
  | last memberSpells =>
      obtain ⟨less, rfl⟩ := Nat.exists_eq_add_of_le' (show 2 ≤ fuel from enough)
      obtain ⟨after, afterGap, taken⟩ := readMembers_append memberSpells leads less levels
        ('\x7d' :: rest)
      rw [taken, readMembers_closing (by omega) levels false afterGap]
      rfl
  | @more name value member members others memberSpells _ ih =>
      rw [List.length_cons] at enough
      obtain ⟨less, rfl⟩ := Nat.exists_eq_add_of_le' (show 2 ≤ fuel by omega)
      obtain ⟨after, afterGap, taken⟩ := readMembers_append memberSpells leads less levels
        (',' :: (others ++ '\x7d' :: rest))
      have enoughLeft : members.length < less + 1 := by omega
      have later := ih (.comma afterGap) enoughLeft
      simp only [List.append_assoc, List.singleton_append] at later
      rw [List.append_assoc, List.cons_append, taken, later]
      rfl

theorem SpellsMembers.length_le {members : List (Text × Text)} {inside : Text}
    (spells : SpellsMembers members inside) : members.length ≤ inside.length := by
  induction spells with
  | last memberSpells =>
      cases memberSpells
      simp only [List.length_append, List.length_cons, List.length_nil]
      omega
  | more memberSpells _ ih =>
      simp only [List.length_cons, List.length_append]
      omega

theorem setMember_of_not_mem {name : Text} {known : List (Text × Value)}
    (absent : name ∉ known.map Prod.fst) (value : Value) :
    Value.setMember name value known = known ++ [(name, value)] := by
  induction known with
  | nil => simp [Value.setMember]
  | cons first others ih =>
      simp only [List.map_cons, List.mem_cons, not_or] at absent
      simp [Value.setMember, Ne.symm absent.1, ih absent.2]

theorem foldl_setMember {known members : List (Text × Value)}
    (distinct : ((known ++ members).map Prod.fst).Nodup) :
    members.foldl (fun known (name, value) => Value.setMember name value known) known =
      known ++ members := by
  induction members generalizing known with
  | nil => simp
  | cons first others ih =>
      obtain ⟨name, value⟩ := first
      have absent : name ∉ known.map Prod.fst := by
        rw [List.map_append, List.map_cons] at distinct
        exact fun member => (List.nodup_append.mp distinct).2.2 _ member _ List.mem_cons_self rfl
      have moved : known ++ (name, value) :: others = (known ++ [(name, value)]) ++ others := by
        simp
      rw [moved] at distinct ⊢
      simp only [List.foldl_cons, setMember_of_not_mem absent]
      exact ih distinct

theorem ofMembers_of_nodup {members : List (Text × Value)}
    (distinct : (members.map Prod.fst).Nodup) : Value.ofMembers members = .object members := by
  have added : (([] ++ members).map Prod.fst).Nodup := distinct
  rw [Value.ofMembers, foldl_setMember added, List.nil_append]

theorem readValue_object {before : Text} (isGap : IsGap before) (fuel levels : Nat)
    (inside : Text) :
    readValue (fuel + 1) (levels + 2) (before ++ '\x7b' :: inside) =
      (readMembers fuel (levels + 1) true inside).map
        fun (members, rest) => (.ofMembers members, rest) := by
  have solid : isBlank '\x7b' = false := by decide
  cases read : readMembers fuel (levels + 1) true inside <;>
    simp [readValue, readScalar?, skipBlanks_append isGap solid, read, bind, Except.bind, Except.map]

theorem read_of_readMembers {before inside after : Text} {members : List (Text × Value)}
    (beforeGap : IsGap before) (afterGap : IsGap after)
    (distinct : (members.map Prod.fst).Nodup)
    (found : ∀ fuel levels, inside.length < fuel →
      readMembers fuel levels true (inside ++ '\x7d' :: after) = .ok (members, after)) :
    Value.read (before ++ '\x7b' :: inside ++ '\x7d' :: after) = .ok (.object members) := by
  have text_eq : before ++ '\x7b' :: inside ++ '\x7d' :: after =
      before ++ '\x7b' :: (inside ++ '\x7d' :: after) := by simp
  have enough : inside.length <
      2 * (before ++ '\x7b' :: (inside ++ '\x7d' :: after)).length + 1 := by
    simp only [List.length_append, List.length_cons]
    omega
  have membersRead := found _ (126 + 1) enough
  have opened := (readValue_object beforeGap _ 126 _).trans (congrArg (Except.map _) membersRead)
  have ended : readEnd after = .ok () := by
    rw [readEnd, skipBlanks_gap afterGap]
  rw [text_eq, Value.read, nestingLimit, opened]
  simp only [bind, Except.bind, Except.map, ended, ofMembers_of_nodup distinct]

/-- An object of strings is read as what it was made from, however it is spelled. -/
theorem read_spelling {members : List (Text × Text)} {source : Text}
    (spells : SpellsObject members source) (distinct : (members.map Prod.fst).Nodup) :
    Value.read source = .ok (.object (stringMembers members)) := by
  have names : ((stringMembers members).map Prod.fst).Nodup := by
    simpa [stringMembers, Function.comp_def] using distinct
  cases spells with
  | empty beforeGap insideGap afterGap =>
      exact read_of_readMembers beforeGap afterGap names fun fuel levels enough =>
        readMembers_closing (Nat.zero_lt_of_lt enough) levels true insideGap _
  | members beforeGap memberSpells afterGap =>
      refine read_of_readMembers beforeGap afterGap names fun fuel levels enough => ?_
      have shorter := memberSpells.length_le
      exact readMembers_spelling memberSpells .first (by omega) levels _

theorem hexQuad_of_control {code : Nat} (control : code < 0x20) :
    HexQuad (['0', '0'] ++ (if code < 0x10 then ['0'] else []) ++ ofNatHex code) code := by
  have all : ∀ code < 0x20,
      (['0', '0'] ++ (if code < 0x10 then ['0'] else []) ++ ofNatHex code).length = 4 ∧
        nat? 16 (['0', '0'] ++ (if code < 0x10 then ['0'] else []) ++ ofNatHex code) =
          some code := by decide
  obtain ⟨length, denoted⟩ := all code control
  exact ⟨length, denoted⟩

theorem spellsChar_escapeChar (char : Char) : SpellsChar char (escapeChar char) := by
  unfold escapeChar
  split_ifs with quote backslash backspace formFeed lineFeed carriageReturn tab control
  · subst quote
    exact .escaped (.short rfl)
  · subst backslash
    exact .escaped (.short rfl)
  · exact .escaped (.short (backspace ▸ rfl))
  · exact .escaped (.short (formFeed ▸ rfl))
  · exact .escaped (.short (lineFeed ▸ rfl))
  · exact .escaped (.short (carriageReturn ▸ rfl))
  · exact .escaped (.short (tab ▸ rfl))
  · exact .escaped (.unit (by simpa [*] using hexQuad_of_control control))
  · exact .escaped (.unit (by simpa [*] using hexQuad_of_control control))
  · exact .plain quote backslash (decide_eq_false control)

theorem spellsString_flatMap (text : Text) : SpellsString text (text.flatMap escapeChar) := by
  induction text with
  | nil => exact .nil
  | cons char rest ih => exact .cons (spellsChar_escapeChar char) ih

theorem isGap_lineBreak (layout : Layout) (level : Nat) : IsGap (layout.lineBreak level) := by
  cases layout with
  | compact => simp [IsGap, Layout.lineBreak]
  | indented =>
      intro char member
      rcases List.mem_cons.mp member with rfl | blank
      · decide
      · rw [List.eq_of_mem_replicate blank]
        decide

theorem exists_gap_colon (layout : Layout) : ∃ gap, IsGap gap ∧ layout.colon = ':' :: gap := by
  cases layout with
  | compact => exact ⟨[], isGap_nil, rfl⟩
  | indented => exact ⟨[' '], by simp [IsGap, isBlank], rfl⟩

theorem spellsMember_print (layout : Layout) (level : Nat) (name value : Text) {after : Text}
    (afterGap : IsGap after) :
    SpellsMember name value (layout.lineBreak level ++ printString name ++ layout.colon ++
      printString value ++ after) := by
  obtain ⟨gap, isGap, colon⟩ := exists_gap_colon layout
  have spells := SpellsMember.mk (isGap_lineBreak layout level) (spellsString_flatMap name)
    isGap_nil isGap (spellsString_flatMap value) afterGap
  rw [colon]
  simpa [printString] using spells

theorem spellsMembers_print (layout : Layout) (level : Nat) {after : Text} (afterGap : IsGap after)
    (first : Text × Text) (others : List (Text × Text)) :
    SpellsMembers (first :: others)
      (printMembers layout level (stringMembers (first :: others)) ++ after) := by
  induction others generalizing first with
  | nil =>
      have spells := spellsMember_print layout level first.1 first.2 afterGap
      simpa [stringMembers, printMembers, Value.printAt] using SpellsMembers.last spells
  | cons second others ih =>
      have spells := spellsMember_print layout level first.1 first.2 isGap_nil
      simpa [stringMembers, printMembers, Value.printAt] using SpellsMembers.more spells (ih second)

theorem spellsObject_print (layout : Layout) (members : List (Text × Text)) :
    SpellsObject members (Value.print layout (.object (stringMembers members))) := by
  cases members with
  | nil =>
      exact SpellsObject.empty isGap_nil isGap_nil isGap_nil
  | cons first others =>
      have inside := spellsMembers_print layout 1 (isGap_lineBreak layout 0) first others
      have spells := SpellsObject.members isGap_nil inside isGap_nil
      simpa [Value.print, Value.printAt, stringMembers] using spells

end MetaConfig.Json
