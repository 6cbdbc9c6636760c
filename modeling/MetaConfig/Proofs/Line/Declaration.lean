import Mathlib.Data.List.TakeWhile
import Mathlib.Data.Option.Basic
import MetaConfig.Line.Classify
import MetaConfig.Proofs.Text.Trimming

/-!
The grammar of declarations as a relation between a declaration and a text, and the reader,
which finds exactly the declaration that spells the text. What a declaration spells is never
taken for a comment or a tag.
-/

namespace MetaConfig.Declaration

open Text

structure IsKey (key : Text) : Prop where
  nonempty : key ≠ []
  keyChars : ∀ char ∈ key, isKeyChar char = true

/-- What can stand as a value after a separator that is as long as possible: a value that begins
with a blank is that blank alone. -/
structure IsValue (value : Text) : Prop where
  nonempty : value ≠ []
  oneLine : '\n' ∉ value
  settled : value.length = 1 ∨ ∀ char ∈ value.head?, isBlank char = false

structure Spells (declaration : Declaration) (separator text : Text) : Prop where
  indentBlank : ∀ char ∈ declaration.indent, isBlank char = true
  key : IsKey declaration.key
  separatorNonempty : separator ≠ []
  separatorBlank : ∀ char ∈ separator, isBlank char = true
  value : IsValue declaration.value
  reference : declaration.reference = EnvReference.find? declaration.value
  text_eq : text = declaration.indent ++ declaration.key ++ [':'] ++ declaration.type.keyword ++
    (separator ++ declaration.value)

theorem isKeyChar_iff (char : Char) : isKeyChar char = true ↔
    (97 ≤ char.toNat ∧ char.toNat ≤ 122) ∨ char.toNat = 95 := by
  have underscore : char = '_' ↔ char.toNat = 95 := by
    rw [← Char.toNat_inj]
    rfl
  simp only [isKeyChar, Bool.or_eq_true, Bool.and_eq_true, decide_eq_true_eq, beq_iff_eq,
    underscore, Char.le_def, UInt32.le_iff_toNat_le]
  rfl

theorem isBlank_of_isKeyChar {char : Char} (keyChar : isKeyChar char = true) :
    isBlank char = false := by
  have bounds := (isKeyChar_iff char).mp keyChar
  simp only [isBlank, Bool.or_eq_false_iff, Bool.and_eq_false_iff, decide_eq_false_iff_not,
    beq_eq_false_iff_ne]
  omega

theorem isBlank_of_mem_keyword {char : Char} {type : ValueType} (member : char ∈ type.keyword) :
    isBlank char = false := by
  have solid : ∀ type ∈ ValueType.all, type.keyword.all (!isBlank ·) = true := by decide
  simpa using List.all_eq_true.mp (solid type type.mem_all) char member

theorem IsKey.not_mem {key : Text} (isKey : IsKey key) {char : Char}
    (other : isKeyChar char = false) : char ∉ key := by
  intro member
  rw [isKey.keyChars char member] at other
  contradiction

theorem valueAfterKeyword?_of_solid {separator rest : Text} {char : Char}
    (nonempty : separator ≠ []) (blank : ∀ char ∈ separator, isBlank char = true)
    (solid : isBlank char = false) :
    valueAfterKeyword? (separator ++ char :: rest) =
      if '\n' ∈ char :: rest then none else some (char :: rest) := by
  have taken : (separator ++ char :: rest).takeWhile isBlank = separator :=
    takeWhile_append_stop blank (by simp [solid])
  have dropped : (separator ++ char :: rest).dropWhile isBlank = char :: rest := by
    rw [List.dropWhile_append_of_pos blank]
    simp [solid]
  simp [valueAfterKeyword?, taken, dropped, nonempty]

theorem valueAfterKeyword?_of_blank {tail : Text} (blank : ∀ char ∈ tail, isBlank char = true) :
    valueAfterKeyword? tail =
      let value := tail.drop (max 1 (tail.length - 1))
      if value = [] ∨ '\n' ∈ value then none else some value := by
  have taken : tail.takeWhile isBlank = tail := List.takeWhile_eq_self_iff.mpr blank
  have dropped : tail.dropWhile isBlank = [] := List.dropWhile_eq_nil_iff.mpr blank
  cases tail with
  | nil => rfl
  | cons char rest => simp [valueAfterKeyword?, taken, dropped]

theorem valueAfterKeyword?_eq_some_iff (tail value : Text) :
    valueAfterKeyword? tail = some value ↔
      ∃ separator, tail = separator ++ value ∧ separator ≠ [] ∧
        (∀ char ∈ separator, isBlank char = true) ∧ IsValue value := by
  constructor
  · intro found
    have separatorBlank : ∀ char ∈ tail.takeWhile isBlank, isBlank char = true :=
      fun char member => List.mem_takeWhile_imp member
    cases dropped : tail.dropWhile isBlank with
    | nil =>
        have blank := List.dropWhile_eq_nil_iff.mp dropped
        rw [valueAfterKeyword?_of_blank blank] at found
        simp only [Option.ite_none_left_eq_some, Option.some.injEq, not_or] at found
        obtain ⟨⟨nonempty, oneLine⟩, rfl⟩ := found
        have long : max 1 (tail.length - 1) < tail.length := by
          simpa using nonempty
        refine ⟨tail.take (max 1 (tail.length - 1)), by simp, ?_, ?_, nonempty, oneLine, ?_⟩
        · intro empty
          have lengths := congrArg List.length empty
          rw [List.length_take, List.length_nil] at lengths
          omega
        · exact fun char member => blank char (List.mem_of_mem_take member)
        · left
          rw [List.length_drop]
          omega
    | cons char rest =>
        have solid : isBlank char = false := by
          simpa [dropped] using List.head?_dropWhile_not isBlank tail
        have cut : tail = tail.takeWhile isBlank ++ char :: rest := by
          rw [← dropped, List.takeWhile_append_dropWhile]
        have nonempty : tail.takeWhile isBlank ≠ [] := by
          intro empty
          simp [valueAfterKeyword?, empty] at found
        rw [cut, valueAfterKeyword?_of_solid nonempty separatorBlank solid] at found
        simp only [Option.ite_none_left_eq_some, Option.some.injEq] at found
        obtain ⟨oneLine, rfl⟩ := found
        exact ⟨_, cut, nonempty, separatorBlank, by simp, oneLine, .inr (by simp [solid])⟩
  · rintro ⟨separator, rfl, nonempty, blank, isValue⟩
    obtain ⟨char, rest, rfl⟩ := List.exists_cons_of_ne_nil isValue.nonempty
    cases solid : isBlank char with
    | false =>
        rw [valueAfterKeyword?_of_solid nonempty blank solid, if_neg isValue.oneLine]
    | true =>
        -- Only the last of several blanks can be a value.
        have single : rest = [] := by
          rcases isValue.settled with single | settled
          · simpa using single
          · simp [solid] at settled
        subst rest
        have positive := List.length_pos_iff.mpr nonempty
        have last : max 1 ((separator ++ [char]).length - 1) = separator.length := by
          simp only [List.length_append, List.length_singleton]
          omega
        have all : ∀ other ∈ separator ++ [char], isBlank other = true := by
          simpa [or_imp, forall_and, solid] using blank
        rw [valueAfterKeyword?_of_blank all, last, List.drop_left]
        simpa using isValue.oneLine

theorem parse?_append {indent key tail : Text} (indentBlank : ∀ char ∈ indent, isBlank char = true)
    (isKey : IsKey key) (type : ValueType) (stops : ∀ char ∈ tail.head?, isBlank char = true) :
    parse? (indent ++ key ++ [':'] ++ type.keyword ++ tail) =
      (valueAfterKeyword? tail).map fun value =>
        ⟨indent, key, type, value, EnvReference.find? value⟩ := by
  obtain ⟨first, others, parts⟩ := List.exists_cons_of_ne_nil isKey.nonempty
  have firstSolid : isBlank first = false :=
    isBlank_of_isKeyChar (isKey.keyChars first (by simp [parts]))
  have text_eq : indent ++ key ++ [':'] ++ type.keyword ++ tail =
      indent ++ (key ++ (':' :: (type.keyword ++ tail))) := by simp
  have indentTaken : Text.indent (indent ++ (key ++ (':' :: (type.keyword ++ tail)))) = indent :=
    takeWhile_append_stop indentBlank (by simp [parts, firstSolid])
  have unindented : trimStart (indent ++ (key ++ (':' :: (type.keyword ++ tail)))) =
      key ++ (':' :: (type.keyword ++ tail)) := by
    rw [trimStart_append indentBlank, parts, List.cons_append, trimStart_cons firstSolid]
  have keyTaken : (key ++ (':' :: (type.keyword ++ tail))).takeWhile isKeyChar = key :=
    takeWhile_append_stop isKey.keyChars (by simp; decide)
  have wordTaken : (type.keyword ++ tail).takeWhile (fun char => !isBlank char) = type.keyword :=
    takeWhile_append_stop (fun char member => by simp [isBlank_of_mem_keyword member])
      (fun char member => by simp [stops char member])
  have keyNonempty : key.isEmpty = false := by simp [isKey.nonempty]
  rw [text_eq, parse?]
  simp only [unindented, indentTaken, keyTaken, keyNonempty, List.drop_left, after?, guard,
    Bool.not_false, if_true, Option.bind_eq_bind, Option.pure_def, Option.bind_some, wordTaken,
    ValueType.ofKeyword?_keyword]
  cases valueAfterKeyword? tail <;> rfl

theorem parse?_eq_some_iff (text : Text) (declaration : Declaration) :
    parse? text = some declaration ↔ ∃ separator, declaration.Spells separator text := by
  constructor
  · intro found
    simp only [parse?, Option.bind_eq_bind, Option.bind_eq_some_iff] at found
    obtain ⟨_, guarded, tail, colon, type, keyword, value, valued, built⟩ := found
    simp only [Option.pure_def, Option.some.injEq] at built
    subst declaration
    obtain ⟨separator, cut, nonempty, blank, isValue⟩ :=
      (valueAfterKeyword?_eq_some_iff _ value).mp valued
    have keyNonempty : (trimStart text).takeWhile isKeyChar ≠ [] := by
      intro empty
      simp [empty, guard] at guarded
    have keyPrefix : (trimStart text).takeWhile isKeyChar <+: trimStart text :=
      List.takeWhile_prefix _
    have wordPrefix : tail.takeWhile (fun char => !isBlank char) <+: tail :=
      List.takeWhile_prefix _
    have keyCut := List.prefix_iff_eq_append.mp keyPrefix
    have wordCut := List.prefix_iff_eq_append.mp wordPrefix
    rw [← ValueType.eq_keyword_of_ofKeyword? keyword] at wordCut cut
    refine ⟨separator, ?_, ⟨keyNonempty, ?_⟩, nonempty, blank, isValue, rfl, ?_⟩
    · exact fun char member => List.mem_takeWhile_imp member
    · exact fun char member => List.mem_takeWhile_imp member
    · rw [cut] at wordCut
      rw [eq_append_of_after? colon, ← wordCut] at keyCut
      calc text
        _ = Text.indent text ++ trimStart text := (indent_append_trimStart text).symm
        _ = Text.indent text ++ ((trimStart text).takeWhile isKeyChar ++
              ([':'] ++ (type.keyword ++ (separator ++ value)))) := by rw [keyCut]
        _ = _ := by simp
  · rintro ⟨separator, spells⟩
    have stops : ∀ char ∈ (separator ++ declaration.value).head?, isBlank char = true := by
      obtain ⟨first, others, parts⟩ := List.exists_cons_of_ne_nil spells.separatorNonempty
      have firstBlank := spells.separatorBlank first (by simp [parts])
      simp [parts, firstBlank]
    have value := (valueAfterKeyword?_eq_some_iff _ declaration.value).mpr
      ⟨separator, rfl, spells.separatorNonempty, spells.separatorBlank, spells.value⟩
    rw [spells.text_eq, parse?_append spells.indentBlank spells.key declaration.type stops, value,
      Option.map_some, ← spells.reference]

end MetaConfig.Declaration
