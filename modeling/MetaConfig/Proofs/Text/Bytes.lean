import Mathlib.Algebra.GroupWithZero.Nat
import Mathlib.Data.List.TakeWhile
import MetaConfig.Proofs.Text.Cutting
import MetaConfig.Text.Bytes
import MetaConfig.Text.Decimal

/-!
Places in a text, counted in bytes, and which of them are inside a character. A line and a count
of bytes since its start are found for each offset, and an offset is found for them again: the byte
before the place, or the start of the line.
-/

namespace MetaConfig.Text

variable {source text rest before line after : Text} {char : Char} {offset : Nat}

theorem byteSize_append (first rest : Text) :
    byteSize (first ++ rest) = byteSize first + byteSize rest := by
  induction first with
  | nil => simp [byteSize]
  | cons char others ih => simp [byteSize, ih, Nat.add_assoc]

theorem utf8Size_newline : '\n'.utf8Size = 1 := rfl

theorem utf8Size_of_le {bound : Char} (below : char ≤ bound) (ascii : bound ≤ '\x7f') :
    char.utf8Size = 1 := by
  rw [Char.utf8Size_eq_one_iff]
  exact UInt32.le_trans below ascii

theorem utf8Size_of_isDigit (digit : isDigit char = true) : char.utf8Size = 1 := by
  simp only [isDigit, Bool.and_eq_true, decide_eq_true_eq] at digit
  exact utf8Size_of_le digit.2 (by decide)

theorem utf8Size_of_digit? {base : Nat} (digit : (digit? base char).isSome) :
    char.utf8Size = 1 := by
  by_contra large
  have above {bound : Char} (ascii : bound ≤ '\x7f') : ¬ char ≤ bound :=
    fun below => large (utf8Size_of_le below ascii)
  have noDigit : ¬ char ≤ '9' := above (by decide)
  have noLower : ¬ char ≤ 'f' := above (by decide)
  have noUpper : ¬ char ≤ 'F' := above (by decide)
  simp [digit?, noDigit, noLower, noUpper] at digit

/-- An offset is a boundary when no character stands on both sides of it. -/
def IsBoundary (text : Text) (offset : Nat) : Prop :=
  ∃ before after, text = before ++ after ∧ byteSize before = offset

theorem isBoundary_append_left (first rest : Text) :
    IsBoundary (first ++ rest) (byteSize first + offset) ↔ IsBoundary rest offset := by
  constructor
  · rintro ⟨before, after, cut, size⟩
    rcases List.append_eq_append_iff.mp cut with ⟨middle, rfl, rfl⟩ | ⟨middle, rfl, rfl⟩
    · refine ⟨middle, after, rfl, ?_⟩
      rw [byteSize_append] at size
      omega
    · rw [byteSize_append] at size
      obtain rfl : offset = 0 := by omega
      exact ⟨[], rest, rfl, rfl⟩
  · rintro ⟨before, after, rfl, rfl⟩
    exact ⟨first ++ before, after, (List.append_assoc ..).symm, byteSize_append first before⟩

theorem eq_zero_or_eq_of_isBoundary_singleton {offset : Nat} (boundary : IsBoundary [char] offset) :
    offset = 0 ∨ offset = char.utf8Size := by
  obtain ⟨before, after, cut, rfl⟩ := boundary
  rcases List.singleton_eq_append_iff.mp cut with ⟨rfl, -⟩ | ⟨rfl, -⟩
  · exact .inl rfl
  · exact .inr rfl

/-! ## After characters of one byte -/

def FollowsSmall (source rest : Text) : Prop :=
  ∃ before, source = before ++ rest ∧ ∀ char ∈ before.getLast?, char.utf8Size = 1

theorem followsSmall_self (source : Text) : FollowsSmall source source :=
  ⟨[], rfl, by simp⟩

theorem FollowsSmall.isSuffix (follows : FollowsSmall source rest) : rest <:+ source := by
  obtain ⟨before, rfl, -⟩ := follows
  exact List.suffix_append before rest

theorem followsSmall_of_cons (inside : char :: rest <:+ source) (small : char.utf8Size = 1) :
    FollowsSmall source rest := by
  obtain ⟨before, rfl⟩ := inside
  exact ⟨before ++ [char], by simp, by simpa using small⟩

theorem FollowsSmall.append {front : Text} (follows : FollowsSmall source (front ++ rest))
    (small : ∀ char ∈ front, char.utf8Size = 1) : FollowsSmall source rest := by
  rcases List.eq_nil_or_concat front with rfl | ⟨others, last, rfl⟩
  · exact follows
  · refine followsSmall_of_cons ?_ (small last (by simp))
    have inside := follows.isSuffix
    rw [List.concat_append] at inside
    exact (List.suffix_append others _).trans inside

theorem FollowsSmall.cons (follows : FollowsSmall source (char :: rest))
    (small : char.utf8Size = 1) : FollowsSmall source rest :=
  followsSmall_of_cons follows.isSuffix small

theorem FollowsSmall.dropWhile {taken : Char → Bool} (follows : FollowsSmall source text)
    (small : ∀ char, taken char = true → char.utf8Size = 1) :
    FollowsSmall source (text.dropWhile taken) := by
  rw [← @List.takeWhile_append_dropWhile _ taken text] at follows
  exact follows.append fun char member => small char (List.mem_takeWhile_imp member)

theorem FollowsSmall.isBoundary (follows : FollowsSmall source rest) :
    IsBoundary source (byteSize source - byteSize rest - 1) := by
  obtain ⟨before, rfl, small⟩ := follows
  rw [byteSize_append, Nat.add_sub_cancel]
  rcases List.eq_nil_or_concat before with rfl | ⟨earlier, last, rfl⟩
  · exact ⟨[], rest, rfl, rfl⟩
  · refine ⟨earlier, last :: rest, by simp, ?_⟩
    have one : last.utf8Size = 1 := small last (by simp)
    simp [byteSize_append, byteSize, one]

/-! ## Lines -/

structure IsLine (text before line after : Text) : Prop where
  text_eq : text = before ++ (line ++ after)
  starts : before = [] ∨ ∃ earlier, before = earlier ++ ['\n']
  oneLine : '\n' ∉ line
  ends : after = [] ∨ ∃ later, after = '\n' :: later

theorem offsetInPieces_append (start column : Nat) (earlier : List Text) (piece : Text)
    (later : List Text) :
    offsetInPieces start earlier.length column (earlier ++ piece :: later) =
      some (start + (earlier.map (byteSize · + 1)).sum + min (column - 1) (byteSize piece)) := by
  induction earlier generalizing start with
  | nil => simp [offsetInPieces]
  | cons first others ih =>
      simp only [List.cons_append, List.length_cons, offsetInPieces, ih, List.map_cons,
        List.sum_cons]
      congr 2
      omega

theorem sum_byteSize_pieces (text : Text) :
    ((pieces '\n' text).map (byteSize · + 1)).sum = byteSize text + 1 := by
  induction text with
  | nil => rfl
  | cons char rest ih =>
      obtain ⟨first, others, parts⟩ := List.exists_cons_of_ne_nil (pieces_ne_nil '\n' rest)
      rw [parts] at ih
      simp only [List.map_cons, List.sum_cons] at ih
      by_cases newline : char = '\n'
      · subst newline
        simp [pieces, parts, byteSize, utf8Size_newline] at ih ⊢
        omega
      · simp [pieces, parts, newline, byteSize] at ih ⊢
        omega

theorem IsLine.pieces_eq (isLine : IsLine text before line after) :
    ∃ earlier later, pieces '\n' text = earlier ++ line :: later ∧
      earlier.length = before.count '\n' ∧
      (earlier.map (byteSize · + 1)).sum = byteSize before := by
  have lastPieces : ∃ later, pieces '\n' (line ++ after) = line :: later := by
    rcases isLine.ends with rfl | ⟨rest, rfl⟩
    · exact ⟨[], by rw [List.append_nil, pieces_of_not_mem isLine.oneLine]⟩
    · refine ⟨pieces '\n' rest, ?_⟩
      rw [pieces_append_cons, pieces_of_not_mem isLine.oneLine, List.singleton_append]
  obtain ⟨later, lastPieces⟩ := lastPieces
  rcases isLine.starts with rfl | ⟨earlier, rfl⟩
  · refine ⟨[], later, ?_, rfl, rfl⟩
    rw [isLine.text_eq, List.nil_append, lastPieces, List.nil_append]
  · refine ⟨pieces '\n' earlier, later, ?_, ?_, ?_⟩
    · rw [isLine.text_eq, List.append_assoc, List.singleton_append, pieces_append_cons,
        lastPieces]
    · simp [length_pieces]
    · rw [sum_byteSize_pieces, byteSize_append]
      rfl

theorem IsLine.offsetOf_eq (isLine : IsLine text before line after) (column : Nat) :
    offsetOf text (before.count '\n' + 1) column =
      some (byteSize before + min (column - 1) (byteSize line)) := by
  obtain ⟨earlier, later, cut, number, size⟩ := isLine.pieces_eq
  rw [offsetOf, cut, ← number, offsetInPieces_append, size]
  simp

theorem advance_append_newline (position : Position) (first rest : Text) (more : Nat) :
    position.advance (byteSize first + 1 + more) (first ++ '\n' :: rest) =
      Position.advance ⟨position.line + first.count '\n' + 1, 0⟩ more rest := by
  induction first generalizing position with
  | nil =>
      have beyond : ¬ 1 + more < 1 := by omega
      simp [byteSize, Position.advance, utf8Size_newline, beyond]
  | cons char others ih =>
      have beyond : ¬ char.utf8Size + byteSize others + 1 + more < char.utf8Size := by omega
      have left : char.utf8Size + byteSize others + 1 + more - char.utf8Size =
          byteSize others + 1 + more := by omega
      rw [List.cons_append, byteSize, Position.advance, if_neg beyond, left]
      by_cases newline : char = '\n'
      · subst newline
        rw [if_pos rfl, ih, List.count_cons_self]
        congr 2
        dsimp only
        omega
      · rw [if_neg newline, ih, List.count_cons_of_ne newline]

theorem advance_of_oneLine {number column : Nat} (oneLine : '\n' ∉ line)
    (ends : after = [] ∨ ∃ later, after = '\n' :: later) (inside : offset ≤ byteSize line) :
    Position.advance ⟨number, column⟩ offset (line ++ after) = ⟨number, column + offset⟩ := by
  induction line generalizing column offset with
  | nil =>
      obtain rfl : offset = 0 := Nat.le_zero.mp inside
      rcases ends with rfl | ⟨later, rfl⟩
      · rfl
      · simp [Position.advance, utf8Size_newline]
  | cons char others ih =>
      simp only [List.mem_cons, not_or] at oneLine
      rw [byteSize] at inside
      rw [List.cons_append, Position.advance]
      by_cases within : offset < char.utf8Size
      · rw [if_pos within]
      · rw [if_neg within, if_neg (Ne.symm oneLine.1), ih oneLine.2 (by omega), Position.mk.injEq]
        exact ⟨rfl, by dsimp only; omega⟩

theorem IsLine.positionAt_eq (isLine : IsLine text before line after)
    (starts : byteSize before ≤ offset) (inside : offset ≤ byteSize before + byteSize line) :
    positionAt offset text = ⟨before.count '\n' + 1, offset - byteSize before⟩ := by
  rw [positionAt, isLine.text_eq]
  rcases isLine.starts with rfl | ⟨earlier, rfl⟩
  · have within : offset ≤ byteSize line := by simpa [byteSize] using inside
    rw [List.nil_append, advance_of_oneLine isLine.oneLine isLine.ends within]
    simp [byteSize]
  · have size : byteSize (earlier ++ ['\n']) = byteSize earlier + 1 := byteSize_append earlier _
    have cut : offset = byteSize earlier + 1 + (offset - byteSize (earlier ++ ['\n'])) := by omega
    rw [cut, List.append_assoc, List.singleton_append, advance_append_newline,
      advance_of_oneLine isLine.oneLine isLine.ends (by omega)]
    congr 1
    · simp
      omega
    · omega

theorem IsLine.append_line {first : Text} (isLine : IsLine text before line after) :
    IsLine (first ++ '\n' :: text) (first ++ '\n' :: before) line after := by
  refine ⟨?_, .inr ?_, isLine.oneLine, isLine.ends⟩
  · rw [isLine.text_eq]
    simp
  · rcases isLine.starts with rfl | ⟨earlier, rfl⟩
    · exact ⟨first, rfl⟩
    · exact ⟨first ++ '\n' :: earlier, by simp⟩

theorem isLine_self (oneLine : '\n' ∉ text) : IsLine text [] text [] :=
  ⟨by simp, .inl rfl, oneLine, .inl rfl⟩

theorem isLine_first {first : Text} (oneLine : '\n' ∉ first) (rest : Text) :
    IsLine (first ++ '\n' :: rest) [] first ('\n' :: rest) :=
  ⟨rfl, .inl rfl, oneLine, .inr ⟨rest, rfl⟩⟩

theorem exists_isLine (inside : offset ≤ byteSize text) :
    ∃ before line after, IsLine text before line after ∧ byteSize before ≤ offset ∧
      offset ≤ byteSize before + byteSize line := by
  induction length : text.length using Nat.strongRecOn generalizing text offset with
  | ind _ ih =>
      by_cases newline : '\n' ∈ text
      · obtain ⟨first, rest, rfl, oneLine⟩ := List.eq_append_cons_of_mem newline
        have size : byteSize (first ++ '\n' :: rest) = byteSize first + (1 + byteSize rest) :=
          byteSize_append first _
        by_cases inFirst : offset ≤ byteSize first
        · exact ⟨_, _, _, isLine_first oneLine rest, Nat.zero_le offset,
            by simpa [byteSize] using inFirst⟩
        · have shorter : rest.length < (first ++ '\n' :: rest).length := by
            simp
            omega
          obtain ⟨before, line, after, isLine, starts, ends⟩ :=
            ih _ (length ▸ shorter) (by omega : offset - (byteSize first + 1) ≤ byteSize rest) rfl
          have skipped : byteSize (first ++ '\n' :: before) =
              byteSize first + (1 + byteSize before) := byteSize_append first _
          exact ⟨_, line, after, isLine.append_line, by omega, by omega⟩
      · exact ⟨_, _, _, isLine_self newline, Nat.zero_le offset,
          by simpa [byteSize] using inside⟩

theorem offsetOf_positionAt (inside : offset ≤ byteSize text) :
    let place := positionAt offset text
    ∃ found, offsetOf text place.line place.column = some found ∧ found ≤ byteSize text ∧
      (IsBoundary text found ↔ IsBoundary text (offset - 1)) := by
  obtain ⟨before, line, after, isLine, starts, ends⟩ := exists_isLine inside
  have size : byteSize text = byteSize before + (byteSize line + byteSize after) := by
    rw [isLine.text_eq, byteSize_append, byteSize_append]
  rw [isLine.positionAt_eq starts ends]
  refine ⟨_, isLine.offsetOf_eq _, by omega, ?_⟩
  by_cases first : offset = byteSize before
  · -- The line starts at the offset, after a line feed of one byte if not at the start of the text.
    have none : byteSize before + min (offset - byteSize before - 1) (byteSize line) =
        byteSize before := by
      omega
    rw [none, first]
    refine iff_of_true ⟨before, line ++ after, isLine.text_eq, rfl⟩ ?_
    rcases isLine.starts with rfl | ⟨earlier, rfl⟩
    · exact ⟨[], text, rfl, rfl⟩
    · refine ⟨earlier, '\n' :: (line ++ after), by rw [isLine.text_eq]; simp, ?_⟩
      rw [byteSize_append]
      rfl
  · have moved : byteSize before + min (offset - byteSize before - 1) (byteSize line) =
        offset - 1 := by
      omega
    rw [moved]

end MetaConfig.Text
