import Mathlib.Data.List.DropRight
import Mathlib.Data.Prod.Lex
import MetaConfig.Proofs.Text.Bytes

/-!
Places by line and column, counted in the bytes of a text. The position of an offset is what is
counted in the bytes before it, the offset of that position is found again, and every other line
and column is held in the text, in order.
-/

namespace MetaConfig.Text

variable {text before line after : Text} {char : Char} {offset : Nat}

def bytes (text : Text) : List UInt8 := text.flatMap String.utf8EncodeChar

def lineFeed : UInt8 := 10

theorem bytes_append (first rest : Text) : bytes (first ++ rest) = bytes first ++ bytes rest :=
  List.flatMap_append

theorem length_bytes (text : Text) : (bytes text).length = byteSize text := by
  induction text with
  | nil => rfl
  | cons char rest ih =>
      have cut : bytes (char :: rest) = String.utf8EncodeChar char ++ bytes rest := rfl
      rw [cut, List.length_append, String.length_utf8EncodeChar, ih, byteSize]

theorem eq_newline_of_mem_utf8EncodeChar (member : lineFeed ∈ String.utf8EncodeChar char) :
    char = '\n' := by
  have code : char.val.toNat = 10 := by
    simp only [lineFeed, String.utf8EncodeChar] at member
    split_ifs at member <;>
      simp only [List.mem_cons, List.not_mem_nil, or_false, ← UInt8.toNat_inj, UInt8.toNat_ofNat',
        UInt8.reduceToNat] at member <;> omega
  exact Char.ext (UInt32.toNat_inj.mp code)

theorem lineFeed_not_mem_bytes (oneLine : '\n' ∉ text) : lineFeed ∉ bytes text := by
  intro member
  obtain ⟨char, inside, encoded⟩ := List.mem_flatMap.mp member
  obtain rfl := eq_newline_of_mem_utf8EncodeChar encoded
  exact oneLine inside

theorem count_lineFeed_bytes (text : Text) : (bytes text).count lineFeed = text.count '\n' := by
  induction text with
  | nil => rfl
  | cons char rest ih =>
      have cut : bytes (char :: rest) = bytes [char] ++ bytes rest := bytes_append [char] rest
      rw [cut, List.count_append, ih]
      by_cases newline : char = '\n'
      · subst newline
        rw [List.count_cons_self, Nat.add_comm]
        rfl
      · have none : (bytes [char]).count lineFeed = 0 :=
          List.count_eq_zero.mpr (lineFeed_not_mem_bytes (by simpa using Ne.symm newline))
        rw [none, Nat.zero_add, List.count_cons_of_ne newline]

/-! ## Counting -/

def lineFeedsBefore (offset : Nat) (text : Text) : Nat :=
  ((bytes text).take offset).count lineFeed

/-- How many of the first `offset` bytes come after the last line feed among them. -/
def bytesSinceLineFeed (offset : Nat) (text : Text) : Nat :=
  (((bytes text).take offset).rtakeWhile (· ≠ lineFeed)).length

theorem IsLine.exists_take_bytes (isLine : IsLine text before line after)
    (starts : byteSize before ≤ offset) (inside : offset ≤ byteSize before + byteSize line) :
    ∃ taken, (bytes text).take offset = bytes before ++ taken ∧
      taken.length = offset - byteSize before ∧ lineFeed ∉ taken := by
  refine ⟨(bytes line).take (offset - byteSize before), ?_, ?_, ?_⟩
  · rw [isLine.text_eq, bytes_append, bytes_append, List.take_append, length_bytes,
      List.take_of_length_le (by rwa [length_bytes]),
      List.take_append_of_le_length (by rw [length_bytes]; omega)]
  · rw [List.length_take, length_bytes]
    omega
  · exact fun member => lineFeed_not_mem_bytes isLine.oneLine (List.mem_of_mem_take member)

theorem IsLine.lineFeedsBefore_eq (isLine : IsLine text before line after)
    (starts : byteSize before ≤ offset) (inside : offset ≤ byteSize before + byteSize line) :
    lineFeedsBefore offset text = before.count '\n' := by
  obtain ⟨taken, cut, -, absent⟩ := isLine.exists_take_bytes starts inside
  rw [lineFeedsBefore, cut, List.count_append, count_lineFeed_bytes, List.count_eq_zero.mpr absent,
    Nat.add_zero]

theorem IsLine.rtakeWhile_bytes (isLine : IsLine text before line after) :
    (bytes before).rtakeWhile (· ≠ lineFeed) = [] := by
  rcases isLine.starts with rfl | ⟨earlier, rfl⟩
  · rfl
  · have last : bytes (earlier ++ ['\n']) = bytes earlier ++ [lineFeed] :=
      bytes_append earlier ['\n']
    rw [last]
    apply List.rtakeWhile_concat_neg
    simp

theorem IsLine.bytesSinceLineFeed_eq (isLine : IsLine text before line after)
    (starts : byteSize before ≤ offset) (inside : offset ≤ byteSize before + byteSize line) :
    bytesSinceLineFeed offset text = offset - byteSize before := by
  obtain ⟨taken, cut, size, absent⟩ := isLine.exists_take_bytes starts inside
  have others : ∀ byte ∈ taken.reverse, decide (byte ≠ lineFeed) = true := by
    intro byte member
    simpa using ne_of_mem_of_not_mem (List.mem_reverse.mp member) absent
  have since : (bytes before ++ taken).rtakeWhile (· ≠ lineFeed) = taken := by
    rw [List.rtakeWhile, List.reverse_append, List.takeWhile_append_of_pos others,
      List.reverse_append, List.reverse_reverse, ← List.rtakeWhile, isLine.rtakeWhile_bytes,
      List.nil_append]
  rw [bytesSinceLineFeed, cut, since, size]

/-- The position of an offset is what is counted in the bytes before it, also inside a
character. -/
theorem positionAt_eq_counted (inside : offset ≤ byteSize text) :
    positionAt offset text =
      ⟨lineFeedsBefore offset text + 1, bytesSinceLineFeed offset text⟩ := by
  obtain ⟨before, line, after, isLine, starts, ends⟩ := exists_isLine inside
  rw [isLine.positionAt_eq starts ends, isLine.lineFeedsBefore_eq starts ends,
    isLine.bytesSinceLineFeed_eq starts ends]

theorem offsetOf_positionAt_succ (inside : offset ≤ byteSize text) :
    offsetOf text (positionAt offset text).line ((positionAt offset text).column + 1) =
      some offset := by
  obtain ⟨before, line, after, isLine, starts, ends⟩ := exists_isLine inside
  rw [isLine.positionAt_eq starts ends, isLine.offsetOf_eq]
  congr 1
  dsimp only
  omega

theorem IsLine.count_le (isLine : IsLine text before line after) :
    before.count '\n' ≤ text.count '\n' := by
  rw [isLine.text_eq, List.count_append]
  exact Nat.le_add_right _ _

theorem IsLine.end_le (isLine : IsLine text before line after) :
    byteSize before + byteSize line ≤ byteSize text := by
  rw [isLine.text_eq, byteSize_append, byteSize_append]
  omega

theorem IsLine.end_le_start {laterBefore laterLine laterAfter : Text}
    (isLine : IsLine text before line after)
    (isLater : IsLine text laterBefore laterLine laterAfter)
    (fewer : before.count '\n' < laterBefore.count '\n') :
    byteSize before + byteSize line ≤ byteSize laterBefore := by
  have first : before ++ line <+: text :=
    ⟨after, by rw [List.append_assoc, ← isLine.text_eq]⟩
  have second : laterBefore <+: text := ⟨laterLine ++ laterAfter, isLater.text_eq.symm⟩
  rcases List.prefix_or_prefix_of_prefix first second with ⟨between, rfl⟩ | shorter
  · rw [byteSize_append, byteSize_append]
    omega
  · -- Everything up to the end of the line has no more line feeds than what is before it.
    have bound := shorter.sublist.count_le '\n'
    rw [List.count_append, List.count_eq_zero.mpr isLine.oneLine] at bound
    omega

theorem exists_isLine_of_number {number : Nat} (bound : number ≤ text.count '\n') :
    ∃ before line after, IsLine text before line after ∧ before.count '\n' = number := by
  induction number generalizing text with
  | zero =>
      by_cases newline : '\n' ∈ text
      · obtain ⟨first, rest, rfl, oneLine⟩ := List.eq_append_cons_of_mem newline
        exact ⟨_, _, _, isLine_first oneLine rest, rfl⟩
      · exact ⟨_, _, _, isLine_self newline, rfl⟩
  | succ number ih =>
      have newline : '\n' ∈ text := List.count_pos_iff.mp (Nat.lt_of_lt_of_le number.succ_pos bound)
      obtain ⟨first, rest, rfl, oneLine⟩ := List.eq_append_cons_of_mem newline
      have count (others : Text) : (first ++ '\n' :: others).count '\n' = others.count '\n' + 1 := by
        rw [List.count_append, List.count_eq_zero.mpr oneLine, List.count_cons_self, Nat.zero_add]
      rw [count] at bound
      obtain ⟨before, line, after, isLine, isNumber⟩ := ih (Nat.le_of_succ_le_succ bound)
      exact ⟨_, line, after, isLine.append_line, by rw [count, isNumber]⟩

theorem offsetInPieces_of_length_le {start lines column : Nat} {parts : List Text}
    (beyond : parts.length ≤ lines) : offsetInPieces start lines column parts = none := by
  induction parts generalizing start lines with
  | nil => simp [offsetInPieces]
  | cons piece others ih =>
      cases lines with
      | zero => contradiction
      | succ lines => exact ih (Nat.le_of_succ_le_succ beyond)

/-- What an offset can be: a column of a line held inside it, or the end of the text for a line
past the last one. -/
theorem offsetOf_cases (text : Text) {number : Nat} (positive : 1 ≤ number) :
    (∃ before line after, IsLine text before line after ∧ before.count '\n' + 1 = number ∧
      ∀ column, offsetOf text number column =
        some (byteSize before + min (column - 1) (byteSize line))) ∨
    (text.count '\n' + 1 < number ∧
      ∀ column, offsetOf text number column = some (byteSize text)) := by
  obtain ⟨earlier, rfl⟩ := Nat.exists_eq_add_of_le' positive
  by_cases within : earlier ≤ text.count '\n'
  · obtain ⟨before, line, after, isLine, rfl⟩ := exists_isLine_of_number within
    exact .inl ⟨before, line, after, isLine, rfl, isLine.offsetOf_eq⟩
  · have beyond : (pieces '\n' text).length ≤ earlier := by
      rw [length_pieces]
      omega
    refine .inr ⟨by omega, fun column => ?_⟩
    rw [offsetOf, offsetInPieces_of_length_le beyond, Option.getD_none]

/-! ## Offsets of all lines and columns -/

variable {number column : Nat}

def InLine (text : Text) (number offset : Nat) : Prop :=
  ∃ before line after, IsLine text before line after ∧ before.count '\n' + 1 = number ∧
    byteSize before ≤ offset ∧ offset ≤ byteSize before + byteSize line

theorem exists_offsetOf (text : Text) (positive : 1 ≤ number) (column : Nat) :
    ∃ offset, offsetOf text number column = some offset ∧ offset ≤ byteSize text ∧
      (number ≤ text.count '\n' + 1 → InLine text number offset) ∧
      (text.count '\n' + 1 < number → offset = byteSize text) := by
  rcases offsetOf_cases text positive with ⟨before, line, after, isLine, isNumber, found⟩ |
    ⟨beyond, found⟩
  · have bound := isLine.end_le
    have lines := isLine.count_le
    refine ⟨_, found column, by omega, fun _ => ?_, fun beyond => by omega⟩
    exact ⟨before, line, after, isLine, isNumber, by omega, by omega⟩
  · exact ⟨_, found column, Nat.le_refl _, fun within => by omega, fun _ => rfl⟩

section Order

variable {laterNumber laterColumn laterOffset : Nat}

theorem offset_le_of_column_le (positive : 1 ≤ number) (columns : column ≤ laterColumn)
    (found : offsetOf text number column = some offset)
    (laterFound : offsetOf text number laterColumn = some laterOffset) : offset ≤ laterOffset := by
  rcases offsetOf_cases text positive with ⟨before, line, after, -, -, held⟩ | ⟨-, held⟩
  · rw [held, Option.some.injEq] at found laterFound
    omega
  · rw [held, Option.some.injEq] at found laterFound
    omega

theorem offset_le_of_number_lt (positive : 1 ≤ number) (earlier : number < laterNumber)
    (found : offsetOf text number column = some offset)
    (laterFound : offsetOf text laterNumber laterColumn = some laterOffset) :
    offset ≤ laterOffset := by
  rcases offsetOf_cases text (positive.trans earlier.le) with
    ⟨laterBefore, laterLine, laterAfter, isLater, isLaterNumber, laterHeld⟩ | ⟨-, laterHeld⟩
  · rcases offsetOf_cases text positive with
      ⟨before, line, after, isLine, isNumber, held⟩ | ⟨beyond, -⟩
    · have apart := isLine.end_le_start isLater (by omega)
      rw [held, Option.some.injEq] at found
      rw [laterHeld, Option.some.injEq] at laterFound
      omega
    · have lines := isLater.count_le
      omega
  · obtain ⟨known, isKnown, bound, -, -⟩ := exists_offsetOf text positive column
    rw [isKnown, Option.some.injEq] at found
    rw [laterHeld, Option.some.injEq] at laterFound
    omega

theorem offsetOf_mono (positive : 1 ≤ number)
    (ordered : toLex (number, column) ≤ toLex (laterNumber, laterColumn))
    (found : offsetOf text number column = some offset)
    (laterFound : offsetOf text laterNumber laterColumn = some laterOffset) :
    offset ≤ laterOffset := by
  rcases Prod.Lex.toLex_le_toLex.mp ordered with earlier | ⟨same, columns⟩
  · exact offset_le_of_number_lt positive earlier found laterFound
  · dsimp only at same
    subst same
    exact offset_le_of_column_le positive columns found laterFound

end Order

/-- Finding an offset inverts counting lines and columns, from one, in the bytes of a text. Every
line and column has an offset in the text, which is in the line if there is one with that number
and the end of the text otherwise, and a later line or column has no smaller offset. -/
theorem offsetOf_inverts_counting (text : Text) :
    (∀ offset ≤ byteSize text,
      offsetOf text (lineFeedsBefore offset text + 1) (bytesSinceLineFeed offset text + 1) =
        some offset) ∧
    (∀ number ≥ 1, ∀ column, ∃ offset,
      offsetOf text number column = some offset ∧ offset ≤ byteSize text ∧
      (number ≤ text.count '\n' + 1 → InLine text number offset) ∧
      (text.count '\n' + 1 < number → offset = byteSize text)) ∧
    (∀ number ≥ 1, ∀ column laterNumber laterColumn offset laterOffset,
      toLex (number, column) ≤ toLex (laterNumber, laterColumn) →
      offsetOf text number column = some offset →
      offsetOf text laterNumber laterColumn = some laterOffset → offset ≤ laterOffset) := by
  refine ⟨?_, ?_, ?_⟩
  · intro offset inside
    have found := offsetOf_positionAt_succ inside
    rwa [positionAt_eq_counted inside] at found
  · intro number positive column
    exact exists_offsetOf text positive column
  · intro number positive column laterNumber laterColumn offset laterOffset ordered found laterFound
    exact offsetOf_mono positive ordered found laterFound

theorem offsetOf_inverts_counting_of_empty_line :
    ∃ text, text = ['é', '\r', '\n', '\n', 'z'] ∧
      (1 ≤ byteSize text ∧ offsetOf text 1 2 = some 1) ∧
      (4 ≤ byteSize text ∧ offsetOf text 2 1 = some 4) ∧
      (∃ held, offsetOf text 1 99 = some held ∧ 1 ≤ text.count '\n' + 1 ∧ InLine text 1 held ∧
        toLex (1, 99) ≤ toLex (2, 1) ∧ held ≤ 4) ∧
      (∃ last, offsetOf text 7 0 = some last ∧ text.count '\n' + 1 < 7 ∧
        last = byteSize text) := by
  obtain ⟨inverts, holds, mono⟩ := offsetOf_inverts_counting ['é', '\r', '\n', '\n', 'z']
  have inCharacter : offsetOf ['é', '\r', '\n', '\n', 'z'] 1 2 = some 1 := inverts 1 (by decide)
  have onEmptyLine : offsetOf ['é', '\r', '\n', '\n', 'z'] 2 1 = some 4 := inverts 4 (by decide)
  have ordered : toLex (1, 99) ≤ toLex (2, 1) := by decide
  obtain ⟨held, isHeld, -, inLine, -⟩ := holds 1 (by decide) 99
  obtain ⟨last, isLast, -, -, isEnd⟩ := holds 7 (by decide) 0
  refine ⟨_, rfl, ⟨by decide, inCharacter⟩, ⟨by decide, onEmptyLine⟩, ?_, ?_⟩
  · exact ⟨held, isHeld, by decide, inLine (by decide), ordered,
      mono 1 (by decide) 99 2 1 held 4 ordered isHeld onEmptyLine⟩
  · exact ⟨last, isLast, by decide, isEnd (by decide)⟩

end MetaConfig.Text
