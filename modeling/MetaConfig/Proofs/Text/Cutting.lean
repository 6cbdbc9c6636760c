import MetaConfig.Text.Basic

/-!
Cutting at a separator, which is the library's `List.splitOn`, and joining. Joined parts are cut
again into the pieces of each of them: a separator inside a part makes more pieces, and nothing
else does. After that, cutting once, cutting off a last character, and reading back each of several
parts.
-/

namespace MetaConfig.Text

theorem pieces_eq_splitOn (separator : Char) (text : Text) :
    pieces separator text = text.splitOn separator := by
  induction text with
  | nil => rfl
  | cons char rest ih =>
      have nonempty := List.splitOn_ne_nil separator rest
      rw [pieces, List.splitOn_cons_eq_if_modifyHead, ih]
      by_cases same : char = separator
      · simp [same]
      · cases parts : rest.splitOn separator with
        | nil => exact absurd parts nonempty
        | cons first others => simp [same]

theorem pieces_of_not_mem {separator : Char} {text : Text} (absent : separator ∉ text) :
    pieces separator text = [text] := by
  rw [pieces_eq_splitOn]
  exact List.splitOn_eq_singleton absent

theorem pieces_append_cons (separator : Char) (first rest : Text) :
    pieces separator (first ++ separator :: rest) =
      pieces separator first ++ pieces separator rest := by
  simp only [pieces_eq_splitOn]
  exact List.splitOn_append_cons_self first rest

theorem pieces_joinWith (separator : Char) {parts : List Text} (nonempty : parts ≠ []) :
    pieces separator (joinWith [separator] parts) = parts.flatMap (pieces separator) := by
  induction parts with
  | nil => exact absurd rfl nonempty
  | cons first others ih =>
      cases others with
      | nil => simp [joinWith]
      | cons second more =>
          have tail := ih (by simp)
          simp only [joinWith, List.append_assoc, List.singleton_append] at tail ⊢
          rw [pieces_append_cons, List.flatMap_cons, tail]

theorem flatMap_pieces_of_not_mem {separator : Char} {parts : List Text}
    (absent : ∀ part ∈ parts, separator ∉ part) : parts.flatMap (pieces separator) = parts := by
  induction parts with
  | nil => rfl
  | cons first others ih =>
      rw [List.flatMap_cons, pieces_of_not_mem (absent first List.mem_cons_self),
        ih fun part member => absent part (List.mem_cons_of_mem _ member), List.singleton_append]

theorem mem_of_mem_pieces {separator char : Char} {text piece : Text}
    (member : piece ∈ pieces separator text) (inside : char ∈ piece) :
    char ∈ text ∧ char ≠ separator := by
  induction text generalizing piece with
  | nil =>
      rw [pieces, List.mem_singleton] at member
      simp [member] at inside
  | cons head rest ih =>
      obtain ⟨first, others, parts⟩ :=
        List.exists_cons_of_ne_nil (pieces_ne_nil separator rest)
      rw [parts] at ih
      simp only [pieces, parts] at member
      have later {piece : Text} (member : piece ∈ first :: others) (inside : char ∈ piece) :
          char ∈ head :: rest ∧ char ≠ separator := by
        obtain ⟨inRest, different⟩ := ih member inside
        exact ⟨List.mem_cons_of_mem head inRest, different⟩
      split at member
      · rcases List.mem_cons.mp member with rfl | tail
        · simp at inside
        · exact later tail inside
      · rename_i different
        rcases List.mem_cons.mp member with rfl | tail
        · rcases List.mem_cons.mp inside with rfl | inFirst
          · exact ⟨List.mem_cons_self, different⟩
          · exact later List.mem_cons_self inFirst
        · exact later (List.mem_cons_of_mem first tail) inside

theorem separator_not_mem_of_mem_pieces {separator : Char} {text piece : Text}
    (member : piece ∈ pieces separator text) : separator ∉ piece :=
  fun inside => (mem_of_mem_pieces member inside).2 rfl

theorem length_pieces (separator : Char) (text : Text) :
    (pieces separator text).length = text.count separator + 1 := by
  induction text with
  | nil => rfl
  | cons char rest ih =>
      rw [pieces_eq_splitOn, List.splitOn_cons_eq_if_modifyHead, ← pieces_eq_splitOn]
      by_cases same : char = separator
      · simp [same, ih]
      · simp [same, ih]

/-- Parts are their own pieces exactly when none of them holds the separator. -/
theorem pieces_joinWith_eq_self_iff (separator : Char) {parts : List Text}
    (nonempty : parts ≠ []) :
    pieces separator (joinWith [separator] parts) = parts ↔
      ∀ part ∈ parts, separator ∉ part := by
  constructor
  · intro same part member
    rw [← same] at member
    exact separator_not_mem_of_mem_pieces member
  · intro absent
    rw [pieces_joinWith separator nonempty, flatMap_pieces_of_not_mem absent]

theorem splitOnce_append_cons {separator : Char} {before : Text} (absent : separator ∉ before)
    (after : Text) : splitOnce separator (before ++ separator :: after) = some (before, after) := by
  induction before with
  | nil => simp [splitOnce]
  | cons char rest ih =>
      simp only [List.mem_cons, not_or] at absent
      simp [splitOnce, Ne.symm absent.1, ih absent.2]

theorem splitOnce_of_not_mem {separator : Char} {text : Text} (absent : separator ∉ text) :
    splitOnce separator text = none := by
  induction text with
  | nil => rfl
  | cons char rest ih =>
      simp only [List.mem_cons, not_or] at absent
      simp [splitOnce, Ne.symm absent.1, ih absent.2]

theorem takeWhile_append_stop {predicate : Char → Bool} {first rest : Text}
    (taken : ∀ char ∈ first, predicate char = true)
    (stops : ∀ char ∈ rest.head?, predicate char = false) :
    (first ++ rest).takeWhile predicate = first := by
  rw [List.takeWhile_append_of_pos taken]
  cases rest with
  | nil => simp
  | cons char others =>
      have stop := stops char (by simp)
      simp [stop]

theorem dropWhile_append_stop {predicate : Char → Bool} {first rest : Text}
    (taken : ∀ char ∈ first, predicate char = true)
    (stops : ∀ char ∈ rest.head?, predicate char = false) :
    (first ++ rest).dropWhile predicate = rest := by
  rw [List.dropWhile_append_of_pos taken]
  cases rest with
  | nil => rfl
  | cons char others =>
      have stop := stops char (by simp)
      simp [stop]

theorem not_mem_of_splitOnce {separator : Char} {text : Text}
    (uncut : splitOnce separator text = none) : separator ∉ text := by
  intro member
  obtain ⟨before, after, parts, absent⟩ := List.eq_append_cons_of_mem member
  rw [parts, splitOnce_append_cons absent] at uncut
  contradiction

theorem eq_append_of_splitOnce {separator : Char} {text before after : Text}
    (found : splitOnce separator text = some (before, after)) :
    text = before ++ separator :: after ∧ separator ∉ before := by
  induction text generalizing before with
  | nil => simp [splitOnce] at found
  | cons char rest ih =>
      simp only [splitOnce] at found
      split at found
      · rename_i same
        simp only [Option.some.injEq, Prod.mk.injEq] at found
        obtain ⟨rfl, rfl⟩ := found
        simp [same]
      · rename_i different
        obtain ⟨⟨head, tail⟩, later, equal⟩ := Option.map_eq_some_iff.mp found
        simp only [Prod.mk.injEq] at equal
        obtain ⟨rfl, rfl⟩ := equal
        obtain ⟨cut, absent⟩ := ih later
        exact ⟨by simp [cut], by simp [absent, Ne.symm different]⟩

theorem dropLastChar_of_getLast?_ne {char : Char} {text : Text}
    (other : text.getLast? ≠ some char) : dropLastChar char text = text := by
  rw [dropLastChar, if_neg other]

theorem dropLastChar_cons {char first : Char} (different : first ≠ char) (rest : Text) :
    dropLastChar char (first :: rest) = first :: dropLastChar char rest := by
  cases rest with
  | nil => simp [dropLastChar, different]
  | cons second others =>
      simp only [dropLastChar, List.getLast?_cons_cons, List.dropLast_cons_cons]
      split <;> rfl

theorem dropLastChar_append (char : Char) (first : Text) {rest : Text} (nonempty : rest ≠ []) :
    dropLastChar char (first ++ rest) = first ++ dropLastChar char rest := by
  have sameEnd : (first ++ rest).getLast? = rest.getLast? := by
    rw [List.getLast?_append, List.getLast?_eq_some_getLast nonempty, Option.some_or]
  rw [dropLastChar, dropLastChar, sameEnd, List.dropLast_append_of_ne_nil nonempty]
  split <;> rfl

theorem suffix_of_getLast?_dropLastChar {char : Char} {text : Text}
    (last : (dropLastChar char text).getLast? = some char) : [char, char] <:+ text := by
  by_cases ending : text.getLast? = some char
  · obtain ⟨first, rfl⟩ := List.getLast?_eq_some_iff.mp ending
    rw [dropLastChar, if_pos ending, List.dropLast_concat] at last
    obtain ⟨before, rfl⟩ := List.getLast?_eq_some_iff.mp last
    exact ⟨before, by simp⟩
  · rw [dropLastChar_of_getLast?_ne ending] at last
    exact absurd last ending

theorem mem_of_mem_dropLastChar {char other : Char} {text : Text}
    (member : other ∈ dropLastChar char text) : other ∈ text := by
  unfold dropLastChar at member
  split at member
  · exact (List.dropLast_sublist text).subset member
  · exact member

theorem length_dropLastChar_lt {char : Char} {text : Text} (last : text.getLast? = some char) :
    (dropLastChar char text).length < text.length := by
  have nonempty : text ≠ [] := by
    rintro rfl
    simp at last
  rw [dropLastChar, if_pos last, List.length_dropLast]
  have positive := List.length_pos_iff.mpr nonempty
  omega

/-! ## Reading the parts back -/

theorem mapM_map_eq_some {α β : Type} {write : α → β} {back? : β → Option α} {values : List α}
    (back : ∀ value ∈ values, back? (write value) = some value) :
    (values.map write).mapM back? = some values := by
  induction values with
  | nil => rfl
  | cons first others ih =>
      have later := ih fun value member => back value (List.mem_cons_of_mem _ member)
      rw [List.map_cons, List.mapM_cons, back first List.mem_cons_self, later]
      rfl

theorem exists_of_mem_mapM {α β : Type} {back? : β → Option α} {parts : List β} {found : List α}
    (read : parts.mapM back? = some found) {value : α} (member : value ∈ found) :
    ∃ part ∈ parts, back? part = some value := by
  induction parts generalizing found with
  | nil =>
      obtain rfl : [] = found := Option.some.inj read
      contradiction
  | cons first others ih =>
      rw [List.mapM_cons] at read
      obtain ⟨firstValue, firstRead, rest⟩ := Option.bind_eq_some_iff.mp read
      obtain ⟨otherValues, othersRead, whole⟩ := Option.bind_eq_some_iff.mp rest
      obtain rfl : firstValue :: otherValues = found := Option.some.inj whole
      rcases List.mem_cons.mp member with rfl | inOthers
      · exact ⟨first, List.mem_cons_self, firstRead⟩
      · obtain ⟨part, inside, partRead⟩ := ih othersRead inOthers
        exact ⟨part, List.mem_cons_of_mem _ inside, partRead⟩

end MetaConfig.Text
