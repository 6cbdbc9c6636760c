import MetaConfig.Proofs.Text.Trimming
import MetaConfig.Source.Flatten

/-!
The literals that typed values are written with. None of them holds a line feed, whatever it
was made from: texts keep the characters they have or become a boolean's word, strings of JSON
lose their line breaks, and numbers have digits and a few signs.
-/

namespace MetaConfig

open Text

namespace Text

theorem mem_of_mem_unquotedBy? {char quote : Char} {text inner : Text}
    (unquoted : unquotedBy? quote text = some inner) (member : char ∈ inner) : char ∈ text := by
  cases text with
  | nil => simp [unquotedBy?] at unquoted
  | cons first rest =>
      simp only [unquotedBy?, Option.ite_none_right_eq_some, Option.some.injEq] at unquoted
      obtain ⟨_, rfl⟩ := unquoted
      exact List.mem_cons_of_mem first ((List.dropLast_sublist rest).subset member)

theorem mem_of_mem_unquoted {char : Char} {text : Text} (member : char ∈ unquoted text) :
    char ∈ text := by
  unfold unquoted at member
  cases double : unquotedBy? '"' text with
  | some inner =>
      simp only [double, Option.orElse_some, Option.getD_some] at member
      exact mem_of_mem_unquotedBy? double member
  | none =>
      cases single : unquotedBy? '\'' text with
      | some inner =>
          simp only [double, single, Option.orElse_none, Option.getD_some] at member
          exact mem_of_mem_unquotedBy? single member
      | none => simpa [double, single] using member

theorem mem_escapeLineBreaks {char : Char} {text : Text} (member : char ∈ escapeLineBreaks text) :
    char ≠ '\n' ∧ char ≠ '\r' := by
  induction text using escapeLineBreaks.induct with
  | case1 => simp [escapeLineBreaks] at member
  | case2 rest ih =>
      simp only [escapeLineBreaks, List.mem_cons] at member
      rcases member with rfl | rfl | later
      · decide
      · decide
      · exact ih later
  | case3 head rest noPair isBreak ih =>
      rw [escapeLineBreaks, if_pos isBreak] at member
      simp only [List.mem_cons] at member
      rcases member with rfl | rfl | later
      · decide
      · decide
      · exact ih later
      · exact noPair
  | case4 head rest noPair notBreak ih =>
      rw [escapeLineBreaks, if_neg notBreak] at member
      rcases List.mem_cons.mp member with rfl | later
      · exact not_or.mp notBreak
      · exact ih later
      · exact noPair

theorem escapeLineBreaks_of_oneLine {text : Text} (noLineFeed : '\n' ∉ text)
    (noReturn : '\r' ∉ text) : escapeLineBreaks text = text := by
  induction text with
  | nil => rfl
  | cons char rest ih =>
      simp only [List.mem_cons, not_or] at noLineFeed noReturn
      have kept := ih noLineFeed.2 noReturn.2
      have noPair : ∀ others, char = '\r' → rest = '\n' :: others → False :=
        fun others isReturn _ => noReturn.1 isReturn.symm
      rw [escapeLineBreaks, if_neg, kept]
      · simp [Ne.symm noLineFeed.1, Ne.symm noReturn.1]
      · exact noPair

end Text

def isNumberChar (char : Char) : Bool := char.isDigit || ".e+-".toList.contains char

theorem isNumberChar_of_mem_ofNat {char : Char} {number : Nat} (member : char ∈ ofNat number) :
    isNumberChar char = true := by
  have digit : char.isDigit = true :=
    Nat.isDigit_of_mem_toDigits (by decide) (by decide) member
  simp [isNumberChar, digit]

theorem isNumberChar_of_mem_ofInt {char : Char} {number : Int} (member : char ∈ ofInt number) :
    isNumberChar char = true := by
  unfold ofInt at member
  split at member
  · rcases List.mem_cons.mp member with rfl | digit
    · decide
    · exact isNumberChar_of_mem_ofNat digit
  · exact isNumberChar_of_mem_ofNat member

namespace Binary64

theorem placePoint_eq_append {allowed : Char → Prop} (zero : allowed '0') {digits : Text}
    (given : ∀ digit ∈ digits, allowed digit) (power : Int) :
    ∃ whole fraction, placePoint digits power = whole ++ '.' :: fraction ∧
      (∀ digit ∈ whole, allowed digit) ∧ (digits ≠ [] → fraction ≠ []) ∧
      ∀ digit ∈ fraction, allowed digit := by
  have zeros {digit : Char} {count : Nat} (member : digit ∈ List.replicate count '0') :
      allowed digit := by
    rwa [List.eq_of_mem_replicate member]
  unfold placePoint
  split
  · rename_i places
    refine ⟨digits.take (places + 1) ++ List.replicate (places + 1 - digits.length) '0', _,
      by rw [List.append_assoc, List.singleton_append], ?_, ?_, ?_⟩
    · intro digit member
      rcases List.mem_append.mp member with early | filled
      · exact given digit (List.mem_of_mem_take early)
      · exact zeros filled
    · split
      · simp
      · rename_i behind
        simpa using fun _ => behind
    · split
      · simpa using zero
      · exact fun digit member => given digit (List.mem_of_mem_drop member)
  · exact ⟨['0'], digits, rfl, by simpa using zero, id, given⟩
  · rename_i places
    refine ⟨['0'], List.replicate (places + 1) '0' ++ digits, rfl, by simpa using zero, ?_, ?_⟩
    · simp
    · intro digit member
      rcases List.mem_append.mp member with filled | inside
      · exact zeros filled
      · exact given digit inside

theorem isNumberChar_of_mem_placePoint {char : Char} {digits : Text} {whole : Int}
    (numeric : ∀ digit ∈ digits, isNumberChar digit = true)
    (member : char ∈ placePoint digits whole) : isNumberChar char = true := by
  have point : isNumberChar '.' = true := by decide
  have zero : isNumberChar '0' = true := by decide
  obtain ⟨before, after, written, early, _, late⟩ := placePoint_eq_append zero numeric whole
  rw [written] at member
  rcases List.mem_append.mp member with inside | inside
  · exact early char inside
  · rcases List.mem_cons.mp inside with rfl | inside
    · exact point
    · exact late char inside

theorem isNumberChar_of_mem_withExponent {char : Char} {digits : Text} {power : Int}
    (numeric : ∀ digit ∈ digits, isNumberChar digit = true)
    (member : char ∈ withExponent digits power) : isNumberChar char = true := by
  simp only [withExponent, List.mem_append, List.mem_cons, List.not_mem_nil, or_false] at member
  rcases member with ((early | late) | rfl | rfl) | exponent
  · exact numeric char (List.mem_of_mem_take early)
  · split at late
    · simp at late
    · rcases List.mem_cons.mp late with rfl | inside
      · decide
      · exact numeric char (List.mem_of_mem_drop inside)
  · decide
  · split <;> decide
  · exact isNumberChar_of_mem_ofNat exponent

theorem isNumberChar_of_mem_print {char : Char} {number : Binary64}
    (member : char ∈ number.print) : isNumberChar char = true := by
  have unsigned : ∀ char ∈ (if number.isZero then ['0', '.', '0']
      else
        let digits := ofNat number.shortest.digits
        let power := number.shortest.exponent + (digits.length - 1 : Nat)
        if power < -5 ∨ 15 < power then withExponent digits power
        else placePoint digits (power + 1)), isNumberChar char = true := by
    intro char inside
    split at inside
    · have digits : ∀ char ∈ ['0', '.', '0'], isNumberChar char = true := by
        simp [isNumberChar]
      exact digits char inside
    · simp only at inside
      split at inside
      · exact isNumberChar_of_mem_withExponent (fun _ => isNumberChar_of_mem_ofNat) inside
      · exact isNumberChar_of_mem_placePoint (fun _ => isNumberChar_of_mem_ofNat) inside
  unfold print printWith at member
  simp only at member
  split at member
  · rcases List.mem_cons.mp member with rfl | inside
    · decide
    · exact unsigned char inside
  · exact unsigned char member

end Binary64

namespace Scalar

theorem isNumberChar_of_mem_ofNumber {char : Char} {number : Json.Number}
    (member : char ∈ (ofNumber number).literal) : isNumberChar char = true := by
  unfold ofNumber at member
  split at member
  · exact isNumberChar_of_mem_ofInt member
  · rename_i value
    split at member
    · rcases List.mem_append.mp member with sign | digit
      · split at sign
        · rw [List.mem_singleton.mp sign]
          decide
        · simp at sign
      · exact isNumberChar_of_mem_ofNat digit
    · exact Binary64.isNumberChar_of_mem_print member

theorem literal_infer_eq_ite (text : Text) : (infer text).literal =
    if isBooleanText text = true then text.map Char.toLower else text := by
  unfold infer
  split
  · rfl
  · split
    · rfl
    · split
      · rfl
      · split <;> rfl

theorem literal_infer (text : Text) :
    (infer text).literal = text ∨ (infer text).literal = "true".toList ∨
      (infer text).literal = "false".toList := by
  rw [literal_infer_eq_ite]
  split
  · rename_i boolean
    simpa [isBooleanText] using Or.inr boolean
  · exact .inl rfl

/-- A text is typed once: its literal is typed in the same way. -/
theorem infer_literal_infer (text : Text) : infer (infer text).literal = infer text := by
  by_cases boolean : isBooleanText text = true
  · have inferred : infer text = ⟨text.map Char.toLower, .bool⟩ := by simp [infer, boolean]
    rw [inferred]
    simp only [isBooleanText, Bool.or_eq_true, beq_iff_eq] at boolean
    rcases boolean with lowered | lowered
    · rw [lowered]
      decide
    · rw [lowered]
      decide
  · rw [literal_infer_eq_ite, if_neg boolean]

theorem literal_infer_ne_nil {text : Text} (nonempty : text ≠ []) :
    (infer text).literal ≠ [] := by
  rcases literal_infer text with same | same | same
  · rwa [same]
  · simp [same]
  · simp [same]

theorem mem_of_mem_literal_infer {char : Char} (small : char.toNat < 97) {text : Text}
    (member : char ∈ (infer text).literal) : char ∈ text := by
  have noLetter : ∀ letter ∈ "true".toList ++ "false".toList, 97 ≤ letter.toNat := by simp
  rcases literal_infer text with same | same | same
  · rwa [same] at member
  · rw [same] at member
    have large := noLetter char (List.mem_append_left _ member)
    omega
  · rw [same] at member
    have large := noLetter char (List.mem_append_right _ member)
    omega

theorem not_lineBreak_of_mem_literal {value : Json.Value} {scalar : Scalar}
    (typed : ofJson? value = some scalar) {char : Char} (member : char ∈ scalar.literal) :
    char ≠ '\n' ∧ char ≠ '\r' := by
  have words : ∀ word ∈ ["null".toList, "true".toList, "false".toList],
      ∀ letter ∈ word, letter ≠ '\n' ∧ letter ≠ '\r' := by simp
  cases value with
  | null =>
      obtain rfl := Option.some.inj typed
      exact words _ (by simp) char member
  | boolean value =>
      cases value with
      | true =>
          obtain rfl := Option.some.inj typed
          exact words _ (by simp) char member
      | false =>
          obtain rfl := Option.some.inj typed
          exact words _ (by simp) char member
  | number value =>
      obtain rfl := Option.some.inj typed
      have numeric := isNumberChar_of_mem_ofNumber member
      constructor <;> (rintro rfl; revert numeric; decide)
  | string value =>
      obtain rfl := Option.some.inj typed
      constructor
      · rintro rfl
        exact (mem_escapeLineBreaks (mem_of_mem_literal_infer (by decide) member)).1 rfl
      · rintro rfl
        exact (mem_escapeLineBreaks (mem_of_mem_literal_infer (by decide) member)).2 rfl
  | array items => simp [ofJson?] at typed
  | object members => simp [ofJson?] at typed

end Scalar

end MetaConfig
