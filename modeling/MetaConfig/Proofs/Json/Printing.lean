import Mathlib.Tactic.Choose
import MetaConfig.Proofs.Json.Integer
import MetaConfig.Proofs.Json.Spelling

/-!
Printed values read back. From what is read of the digits of an integer, what is read of a value's
text is put together, in either layout from the same parts. It is the value itself as long as its
integers have 64 bits, the names in each object are different and no more levels are opened than
may be.
-/

namespace MetaConfig.Json

open Text

/-! ## Values -/

/-- Values that their texts tell in full, and that open no more than the given levels. -/
inductive Exact : (levels : Nat) → Value → Prop
  | null {levels} : Exact levels .null
  | boolean {levels} (value : Bool) : Exact levels (.boolean value)
  | integer {levels value} : IsInteger value → Exact levels (.number (.integer value))
  | string {levels} (text : Text) : Exact levels (.string text)
  | array {levels items} : (∀ item ∈ items, Exact levels item) →
      Exact (levels + 1) (.array items)
  | object {levels members} : (members.map Prod.fst).Nodup →
      (∀ member ∈ members, Exact levels member.2) → Exact (levels + 1) (.object members)

theorem exact_stringMembers (members : List (Text × Text)) (levels : Nat)
    (distinct : (members.map Prod.fst).Nodup) :
    Exact (levels + 1) (.object (stringMembers members)) := by
  refine .object (by simpa [stringMembers, Function.comp_def] using distinct) ?_
  intro member inside
  obtain ⟨entry, _, rfl⟩ := List.mem_map.mp inside
  exact .string entry.2

inductive Whole : Value → Prop
  | null : Whole .null
  | boolean (value : Bool) : Whole (.boolean value)
  | integer (value : Int) : Whole (.number (.integer value))
  | string (text : Text) : Whole (.string text)
  | array {items} : (∀ item ∈ items, Whole item) → Whole (.array items)
  | object {members} : (∀ member ∈ members, Whole member.2) → Whole (.object members)

theorem endsNumber_of_gap {gap : Text} (isGap : IsGap gap) {char : Char}
    (ends : isDigit char = false ∧ char ∉ ['.', 'e', 'E']) (rest : Text) :
    EndsNumber (gap ++ char :: rest) := by
  intro first head
  cases gap with
  | nil =>
      obtain rfl : char = first := by
        simpa using head
      exact ends
  | cons blank others =>
      obtain rfl : blank = first := by
        simpa using head
      have isBlank := isGap blank List.mem_cons_self
      simp only [Json.isBlank, Bool.or_eq_true, beq_iff_eq] at isBlank
      rcases isBlank with ((rfl | rfl) | rfl) | rfl <;> decide

theorem exists_cons_printAt (layout : Layout) (level : Nat) {value : Value} (whole : Whole value) :
    ∃ char rest, value.printAt layout level = char :: rest ∧ isBlank char = false ∧
      char ≠ ']' := by
  cases whole with
  | null => exact ⟨'n', _, rfl, by decide, by decide⟩
  | boolean value =>
      cases value with
      | false => exact ⟨'f', _, rfl, by decide, by decide⟩
      | true => exact ⟨'t', _, rfl, by decide, by decide⟩
  | integer value =>
      by_cases negative : value < 0
      · refine ⟨'-', ofNat value.natAbs, ?_, by decide, by decide⟩
        simp [Value.printAt, Number.print, ofInt, negative]
      · obtain ⟨first, others, parts, digit⟩ := exists_digit_ofNat value.natAbs
        have other : first ∉ [' ', '\n', '\t', '\r', ']'] := not_mem_of_isDigit digit (by decide)
        simp only [List.mem_cons, not_or] at other
        refine ⟨first, others, ?_, ?_, other.2.2.2.2.1⟩
        · simp [Value.printAt, Number.print, ofInt, negative, parts]
        · simp [isBlank, other]
  | string text => exact ⟨'"', _, rfl, by decide, by decide⟩
  | @array items _ =>
      cases items with
      | nil => exact ⟨'[', _, rfl, by decide, by decide⟩
      | cons first others => exact ⟨'[', _, rfl, by decide, by decide⟩
  | @object members _ =>
      cases members with
      | nil => exact ⟨'\x7b', _, rfl, by decide, by decide⟩
      | cons first others => exact ⟨'\x7b', _, rfl, by decide, by decide⟩

theorem length_printAt_pos (layout : Layout) (level : Nat) {value : Value} (whole : Whole value) :
    0 < (value.printAt layout level).length := by
  obtain ⟨char, rest, parts, -, -⟩ := exists_cons_printAt layout level whole
  simp [parts]

theorem readValue_scalar {gap rest : Text} {char : Char} {found : Option (Value × Text)}
    (isGap : IsGap gap) (solid : isBlank char = false)
    (read : (readScalar? (char :: rest)).toOption = found.map some) (fuel levels : Nat) :
    (readValue (fuel + 1) levels (gap ++ char :: rest)).toOption = found := by
  simp only [readValue, skipBlanks_append isGap solid]
  cases scalar : readScalar? (char :: rest) with
  | error fault =>
      rw [scalar] at read
      cases found with
      | none => rfl
      | some value => contradiction
  | ok known =>
      rw [scalar] at read
      cases found with
      | none => contradiction
      | some value =>
          obtain rfl : known = some value := Option.some.inj read
          rfl

theorem readValue_array {gap : Text} (isGap : IsGap gap) (fuel levels : Nat) (inside : Text) :
    readValue (fuel + 1) (levels + 2) (gap ++ '[' :: inside) =
      (readItems fuel (levels + 1) true inside).map fun (items, rest) => (.array items, rest) := by
  have solid : isBlank '[' = false := by decide
  cases read : readItems fuel (levels + 1) true inside <;>
    simp [readValue, readScalar?, skipBlanks_append isGap solid, read, bind, Except.bind, Except.map]

theorem readValue_tooDeep {gap : Text} (isGap : IsGap gap) {char : Char}
    (opening : char = '[' ∨ char = '\x7b') (fuel : Nat) (inside : Text) :
    (readValue (fuel + 1) 1 (gap ++ char :: inside)).toOption = none := by
  have solid : isBlank char = false := by
    rcases opening with rfl | rfl <;> decide
  simp only [readValue, readScalar?, skipBlanks_append isGap solid, if_pos opening]
  rfl

theorem nextItem_closing (first : Bool) {gap : Text} (isGap : IsGap gap) (rest : Text) :
    nextItem first (gap ++ ']' :: rest) = .ok (false, rest) := by
  simp [nextItem, skipBlanks_append isGap (show isBlank ']' = false by decide)]

theorem nextItem_item {first : Bool} {lead gap : Text} (leads : Lead first lead)
    (isGap : IsGap gap) {char : Char} (solid : isBlank char = false) (notClosing : char ≠ ']')
    (rest : Text) :
    nextItem first (lead ++ (gap ++ char :: rest)) = .ok (true, char :: rest) := by
  cases leads with
  | first => simp [nextItem, skipBlanks_append isGap solid]
  | comma leadGap =>
      simp [nextItem, skipBlanks_append leadGap (show isBlank ',' = false by decide),
        skipBlanks_append isGap solid, notClosing]

theorem readItems_closing {fuel : Nat} (positive : 0 < fuel) (levels : Nat) (first : Bool)
    {gap : Text} (isGap : IsGap gap) (rest : Text) :
    readItems fuel levels first (gap ++ ']' :: rest) = .ok ([], rest) := by
  obtain ⟨less, rfl⟩ := Nat.exists_eq_add_one_of_ne_zero (Nat.ne_of_gt positive)
  simp [readItems, nextItem_closing first isGap, bind, Except.bind]

theorem readItems_item {first : Bool} {lead gap : Text} {char : Char} (leads : Lead first lead)
    (isGap : IsGap gap) (solid : isBlank char = false) (notClosing : char ≠ ']')
    (fuel levels : Nat) (content : Text) :
    readItems (fuel + 1) levels first (lead ++ (gap ++ char :: content)) =
      (readValue fuel levels (char :: content) >>= fun (item, rest) =>
        (readItems fuel levels false rest).map fun (items, after) => (item :: items, after)) := by
  rw [readItems, nextItem_item leads isGap solid notClosing]
  simp only [bind, Except.bind, if_true]
  cases readValue fuel levels (char :: content) with
  | error fault => rfl
  | ok found => cases readItems fuel levels false found.2 <;> rfl

def ReadsAs (layout : Layout) (levels : Nat) (value : Value) (found : Option Value) : Prop :=
  ∀ level fuel gap rest, (value.printAt layout level).length ≤ fuel → IsGap gap →
    EndsNumber rest →
    (readValue fuel (levels + 1) (gap ++ (value.printAt layout level ++ rest))).toOption =
      found.map fun value => (value, rest)

section Sequences

variable {layout : Layout} {levels level fuel : Nat} {first : Bool} {lead after closing : Text}

theorem readItems_print {item : Value} {found : Option Value} (whole : Whole item)
    (reads : ReadsAs layout levels item found)
    (enough : (item.printAt layout level).length < fuel) (leads : Lead first lead)
    (ends : EndsNumber after) :
    (readItems fuel (levels + 1) first
        (lead ++ (layout.lineBreak level ++ (item.printAt layout level ++ after)))).toOption =
      found.bind fun item => (readItems (fuel - 1) (levels + 1) false after).toOption.map
        fun (items, rest) => (item :: items, rest) := by
  obtain ⟨less, rfl⟩ := Nat.exists_eq_add_one_of_ne_zero (Nat.ne_zero_of_lt enough)
  obtain ⟨char, content, parts, solid, notClosing⟩ := exists_cons_printAt layout level whole
  have itemRead := reads level less [] after (Nat.le_of_lt_succ enough) isGap_nil ends
  rw [List.nil_append, parts, List.cons_append] at itemRead
  rw [parts, List.cons_append,
    readItems_item leads (isGap_lineBreak layout level) solid notClosing, toOption_bind, itemRead]
  cases found with
  | none => rfl
  | some item => exact toOption_map _ _

theorem readMembers_print (name : Text) {value : Value} {found : Option Value}
    (reads : ReadsAs layout levels value found)
    (enough : (value.printAt layout level).length < fuel) (leads : Lead first lead)
    (ends : EndsNumber after) :
    (readMembers fuel (levels + 1) first
        (lead ++ (layout.lineBreak level ++ (printString name ++ (layout.colon ++
          (value.printAt layout level ++ after)))))).toOption =
      found.bind fun value => (readMembers (fuel - 1) (levels + 1) false after).toOption.map
        fun (members, rest) => ((name, value) :: members, rest) := by
  obtain ⟨less, rfl⟩ := Nat.exists_eq_add_one_of_ne_zero (Nat.ne_zero_of_lt enough)
  obtain ⟨gap, isGap, colon⟩ := exists_gap_colon layout
  have valueRead := reads level less gap after (Nat.le_of_lt_succ enough) isGap ends
  have taken := readMembers_member leads (isGap_lineBreak layout level)
    (spellsString_flatMap name) isGap_nil less (levels + 1)
    (gap ++ (value.printAt layout level ++ after))
  have text_eq : printString name ++ (layout.colon ++ (value.printAt layout level ++ after)) =
      '"' :: (name.flatMap escapeChar ++
        '"' :: ([] ++ ':' :: (gap ++ (value.printAt layout level ++ after)))) := by
    simp [printString, colon]
  rw [text_eq, taken, toOption_bind, valueRead]
  cases found with
  | none => rfl
  | some value => exact toOption_map _ _

theorem readItems_printItems {reread : Value → Option Value} {item : Value} {others : List Value}
    (whole : ∀ value ∈ item :: others, Whole value)
    (reads : ∀ value ∈ item :: others, ReadsAs layout levels value (reread value))
    (enough : (printItems layout level (item :: others)).length < fuel) (leads : Lead first lead)
    (isGap : IsGap closing) (rest : Text) :
    (readItems fuel (levels + 1) first
        (lead ++ (printItems layout level (item :: others) ++ (closing ++ ']' :: rest)))).toOption =
      ((item :: others).mapM reread).map fun items => (items, rest) := by
  induction others generalizing item fuel first lead with
  | nil =>
      have itemWhole := whole item List.mem_cons_self
      have itemReads := reads item List.mem_cons_self
      have positive := length_printAt_pos layout level itemWhole
      have itemEnough : (item.printAt layout level).length < fuel := by
        simp only [printItems, List.length_append] at enough
        omega
      have ends : EndsNumber (closing ++ ']' :: rest) := endsNumber_of_gap isGap (by decide) rest
      have taken := readItems_print itemWhole itemReads itemEnough leads ends
      rw [readItems_closing (by omega) (levels + 1) false isGap rest] at taken
      simp only [printItems, List.isEmpty_nil, if_true, List.append_nil, List.append_assoc]
      rw [List.mapM_cons, taken]
      cases reread item <;> rfl
  | cons second others ih =>
      obtain ⟨itemWhole, othersWhole⟩ := List.forall_mem_cons.mp whole
      obtain ⟨itemReads, othersReads⟩ := List.forall_mem_cons.mp reads
      rw [printItems] at enough ⊢
      simp only [List.isEmpty_cons, Bool.false_eq_true, if_false, List.length_append,
        List.length_singleton] at enough
      have itemEnough : (item.printAt layout level).length < fuel := by omega
      have comma : EndsNumber (',' :: (printItems layout level (second :: others) ++
          (closing ++ ']' :: rest))) := endsNumber_of_gap isGap_nil (by decide) _
      have taken := readItems_print itemWhole itemReads itemEnough leads comma
      have later := ih othersWhole othersReads
        (show (printItems layout level (second :: others)).length < fuel - 1 by omega)
        (.comma isGap_nil)
      rw [List.nil_append, List.singleton_append] at later
      simp only [List.isEmpty_cons, Bool.false_eq_true, if_false, List.append_assoc,
        List.cons_append, List.nil_append]
      rw [List.mapM_cons, taken, later]
      cases reread item with
      | none => rfl
      | some found => cases (second :: others).mapM reread <;> rfl

theorem readMembers_printMembers {reread : Text × Value → Option Value} {member : Text × Value}
    {others : List (Text × Value)}
    (reads : ∀ other ∈ member :: others, ReadsAs layout levels other.2 (reread other))
    (enough : (printMembers layout level (member :: others)).length < fuel)
    (leads : Lead first lead) (isGap : IsGap closing) (rest : Text) :
    (readMembers fuel (levels + 1) first (lead ++
        (printMembers layout level (member :: others) ++ (closing ++ '\x7d' :: rest)))).toOption =
      ((member :: others).mapM fun other => (reread other).map fun value => (other.1, value)).map
        fun members => (members, rest) := by
  induction others generalizing member fuel first lead with
  | nil =>
      have bounds : (member.2.printAt layout level).length + 1 < fuel := by
        simp only [printMembers, printString, List.length_append, List.length_singleton] at enough
        omega
      have ends : EndsNumber (closing ++ '\x7d' :: rest) := endsNumber_of_gap isGap (by decide) rest
      have taken := readMembers_print member.1 (reads member List.mem_cons_self)
        (Nat.lt_of_succ_lt bounds) leads ends
      rw [readMembers_closing (by omega) (levels + 1) false isGap rest] at taken
      simp only [printMembers, List.isEmpty_nil, if_true, List.append_nil, List.append_assoc]
      rw [List.mapM_cons, taken]
      cases reread member <;> rfl
  | cons second others ih =>
      obtain ⟨memberReads, othersReads⟩ := List.forall_mem_cons.mp reads
      rw [printMembers] at enough ⊢
      simp only [List.isEmpty_cons, Bool.false_eq_true, if_false, List.length_append,
        List.length_singleton] at enough
      have valueEnough : (member.2.printAt layout level).length < fuel := by omega
      have comma : EndsNumber (',' :: (printMembers layout level (second :: others) ++
          (closing ++ '\x7d' :: rest))) := endsNumber_of_gap isGap_nil (by decide) _
      have taken := readMembers_print member.1 memberReads valueEnough leads comma
      have later := ih othersReads
        (show (printMembers layout level (second :: others)).length < fuel - 1 by omega)
        (.comma isGap_nil)
      rw [List.nil_append, List.singleton_append] at later
      simp only [List.isEmpty_cons, Bool.false_eq_true, if_false, List.append_assoc,
        List.cons_append, List.nil_append]
      rw [List.mapM_cons, taken, later]
      cases reread member with
      | none => rfl
      | some value =>
          cases (second :: others).mapM fun other =>
            (reread other).map fun value => (other.1, value) <;> rfl

end Sequences

/-! ## Whole texts -/

variable {layout : Layout} {levels : Nat}

theorem readsAs_scalar {value : Value} (whole : Whole value) {found : Option Value}
    (read : ∀ level rest, EndsNumber rest →
      (readScalar? (value.printAt layout level ++ rest)).toOption =
        found.map fun value => some (value, rest)) :
    ReadsAs layout levels value found := by
  intro level fuel gap rest enough isGap ends
  have scalarRead := read level rest ends
  obtain ⟨char, content, parts, solid, -⟩ := exists_cons_printAt layout level whole
  rw [parts] at enough scalarRead ⊢
  obtain ⟨less, rfl⟩ := Nat.exists_eq_add_one_of_ne_zero (Nat.ne_zero_of_lt enough)
  refine readValue_scalar isGap solid ?_ less (levels + 1)
  rw [Option.map_map]
  exact scalarRead

theorem readsAs_integer (value : Int) :
    ReadsAs layout levels (.number (.integer value)) ((rereadInt? value).map .number) := by
  refine readsAs_scalar (.integer value) fun level rest ends => ?_
  rw [Option.map_map]
  exact toOption_readScalar?_ofInt value ends

theorem readsAs_string (text : Text) :
    ReadsAs layout levels (.string text) (some (.string text)) := by
  refine readsAs_scalar (.string text) fun level rest ends => ?_
  have read := readString_spelling (spellsString_flatMap text) rest
  have scalarRead : readScalar? ((Value.string text).printAt layout level ++ rest) =
      .ok (some (.string text, rest)) := by
    simp [Value.printAt, printString, readScalar?, read, bind, Except.bind]
  rw [scalarRead]
  rfl

theorem readsAs_array {items : List Value} {reread : Value → Option Value}
    (whole : ∀ item ∈ items, Whole item)
    (reads : ∀ item ∈ items, ReadsAs layout levels item (reread item)) :
    ReadsAs layout (levels + 1) (.array items) ((items.mapM reread).map .array) := by
  intro level fuel gap rest enough isGap ends
  cases items with
  | nil =>
      obtain ⟨less, rfl⟩ := Nat.exists_eq_add_of_le' enough
      have closed := readItems_closing (Nat.succ_pos less) (levels + 1) true isGap_nil rest
      have opened := readValue_array isGap (less + 1) levels (']' :: rest)
      rw [List.nil_append] at closed
      rw [closed] at opened
      exact congrArg Except.toOption opened
  | cons first others =>
      simp only [Value.printAt, List.length_append, List.length_singleton] at enough
      obtain ⟨less, rfl⟩ := Nat.exists_eq_add_of_le' (show 1 ≤ fuel by omega)
      have inside := readItems_printItems whole reads
        (show (printItems layout (level + 1) (first :: others)).length < less by omega) .first
        (isGap_lineBreak layout level) rest
      rw [List.nil_append] at inside
      simp only [Value.printAt, List.append_assoc, List.cons_append, List.nil_append]
      rw [readValue_array isGap, toOption_map, inside, Option.map_map, Option.map_map]
      rfl

theorem readsAs_object {members : List (Text × Value)} {reread : Text × Value → Option Value}
    (reads : ∀ member ∈ members, ReadsAs layout levels member.2 (reread member)) :
    ReadsAs layout (levels + 1) (.object members)
      ((members.mapM fun member => (reread member).map fun value => (member.1, value)).map
        .ofMembers) := by
  intro level fuel gap rest enough isGap ends
  cases members with
  | nil =>
      obtain ⟨less, rfl⟩ := Nat.exists_eq_add_of_le' enough
      have closed := readMembers_closing (Nat.succ_pos less) (levels + 1) true isGap_nil rest
      have opened := readValue_object isGap (less + 1) levels ('\x7d' :: rest)
      rw [List.nil_append] at closed
      rw [closed] at opened
      exact congrArg Except.toOption opened
  | cons first others =>
      simp only [Value.printAt, List.length_append, List.length_singleton] at enough
      obtain ⟨less, rfl⟩ := Nat.exists_eq_add_of_le' (show 1 ≤ fuel by omega)
      have inside := readMembers_printMembers reads
        (show (printMembers layout (level + 1) (first :: others)).length < less by omega) .first
        (isGap_lineBreak layout level) rest
      rw [List.nil_append] at inside
      simp only [Value.printAt, List.append_assoc, List.cons_append, List.nil_append]
      rw [readValue_object isGap, toOption_map, inside, Option.map_map, Option.map_map]
      rfl

theorem readsAs_tooDeep {value : Value} {char : Char} (opening : char = '[' ∨ char = '\x7b')
    (opens : ∀ level, ∃ inside, value.printAt layout level = char :: inside) :
    ReadsAs layout 0 value none := by
  intro level fuel gap rest enough isGap ends
  obtain ⟨inside, parts⟩ := opens level
  rw [parts] at enough ⊢
  obtain ⟨less, rfl⟩ := Nat.exists_eq_add_one_of_ne_zero (Nat.ne_zero_of_lt enough)
  exact readValue_tooDeep isGap opening less (inside ++ rest)

theorem Exact.whole {value : Value} (exact : Exact levels value) : Whole value := by
  induction exact with
  | null => exact .null
  | boolean value => exact .boolean value
  | integer _ => exact .integer _
  | string text => exact .string text
  | array _ ih => exact .array ih
  | object _ _ ih => exact .object ih

theorem readsAs_of_exact (layout : Layout) {value : Value} (exact : Exact levels value) :
    ReadsAs layout levels value (some value) := by
  induction exact with
  | null => exact readsAs_scalar .null fun level rest ends => rfl
  | boolean value =>
      refine readsAs_scalar (.boolean value) fun level rest ends => ?_
      cases value <;> rfl
  | @integer levels value isInteger =>
      have reads : ReadsAs layout levels _ _ := readsAs_integer value
      rwa [rereadInt?_of_isInteger isInteger] at reads
  | string text => exact readsAs_string text
  | @array levels items itemsExact reads =>
      have same : (items.map id).mapM some = some items := mapM_map_eq_some fun _ _ => rfl
      have read := readsAs_array (fun item inside => (itemsExact item inside).whole) reads
      rw [List.map_id] at same
      rwa [same] at read
  | @object levels members distinct membersExact reads =>
      have same : (members.map id).mapM
          (fun member => (some member.2).map fun value => (member.1, value)) = some members :=
        mapM_map_eq_some fun _ _ => rfl
      have read := readsAs_object reads
      rw [List.map_id] at same
      rwa [same, Option.map_some, ofMembers_of_nodup distinct] at read

theorem exists_readsAs_of_whole {value : Value} (whole : Whole value) (levels : Nat) :
    ∃ found, ∀ layout, ReadsAs layout levels value found := by
  induction whole generalizing levels with
  | null => exact ⟨_, fun layout => readsAs_of_exact layout .null⟩
  | boolean value => exact ⟨_, fun layout => readsAs_of_exact layout (.boolean value)⟩
  | integer value => exact ⟨_, fun layout => readsAs_integer value⟩
  | string text => exact ⟨_, fun layout => readsAs_string text⟩
  | @array items itemsWhole ih =>
      cases levels with
      | zero =>
          refine ⟨none, fun layout => readsAs_tooDeep (.inl rfl) fun level => ?_⟩
          cases items with
          | nil => exact ⟨_, rfl⟩
          | cons first others => exact ⟨_, rfl⟩
      | succ levels =>
          choose! reread reads using fun item inside => ih item inside levels
          exact ⟨_, fun layout => readsAs_array itemsWhole
            fun item inside => reads item inside layout⟩
  | @object members _ ih =>
      cases levels with
      | zero =>
          refine ⟨none, fun layout => readsAs_tooDeep (.inr rfl) fun level => ?_⟩
          cases members with
          | nil => exact ⟨_, rfl⟩
          | cons first others => exact ⟨_, rfl⟩
      | succ levels =>
          choose! reread reads using fun member inside => ih member inside levels
          exact ⟨_, fun layout => readsAs_object fun member inside => reads member inside layout⟩

theorem Value.toOption_read_print {value : Value} {found : Option Value}
    (reads : ReadsAs layout 127 value found) :
    (Value.read (value.print layout)).toOption = found := by
  have enough : (value.printAt layout 0).length ≤ 2 * (value.print layout).length + 2 := by
    rw [Value.print]
    omega
  have ends : EndsNumber [] := by
    simp [EndsNumber]
  have read := reads 0 _ [] [] enough isGap_nil ends
  have ended : readEnd [] = .ok () := by
    rw [readEnd, skipBlanks_gap isGap_nil]
  rw [List.nil_append, List.append_nil, ← Value.print] at read
  rw [Value.read, nestingLimit, toOption_bind, read]
  cases found with
  | none => rfl
  | some found => simp [bind, Except.bind, ended, Except.toOption]

/-- A value with nothing in it but what a text can tell comes back from its text. -/
theorem Value.read_print (layout : Layout) {value : Value} (exact : Exact 127 value) :
    Value.read (value.print layout) = .ok value :=
  eq_ok_of_toOption (toOption_read_print (readsAs_of_exact layout exact))

/-- The same is read of both texts of a value, also where it is another value or none. -/
theorem Value.toOption_read_print_eq {value : Value} (whole : Whole value)
    (first second : Layout) :
    (Value.read (value.print first)).toOption = (Value.read (value.print second)).toOption := by
  obtain ⟨found, reads⟩ := exists_readsAs_of_whole whole 127
  rw [toOption_read_print (reads first), toOption_read_print (reads second)]

end MetaConfig.Json
