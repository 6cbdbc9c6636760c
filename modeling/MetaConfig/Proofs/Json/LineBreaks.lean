import MetaConfig.Proofs.Json.Reading
import MetaConfig.Proofs.Json.Spelling
import MetaConfig.Proofs.Text.LineBreaks

/-!
Line breaks in JSON texts. A line feed can stand between the parts of a value only, where it is
a blank, so a text is read as the same value when every line feed has a carriage return before
it. This is shown reader by reader: each finds the same and leaves the same to be read.
-/

namespace MetaConfig.Json

open Text

def Carries {found : Type} (read other : Text → Except Fault (found × Text)) : Prop :=
  ∀ ⦃text value rest⦄, read text = .ok (value, rest) →
    other (withReturns text) = .ok (value, withReturns rest)

theorem carries_ok {found : Type} (value : found) :
    Carries (fun text => .ok (value, text)) fun text => .ok (value, text) := by
  intro text read rest found
  obtain ⟨rfl, rfl⟩ := Prod.mk.inj (Except.ok.inj found)
  rfl

theorem carries_error {found : Type} {fault : Text → Fault}
    {other : Text → Except Fault (found × Text)} :
    Carries (fun text => .error (fault text)) other := by
  intro text value rest found
  cases found

theorem Carries.bind {first second : Type} {read other : Text → Except Fault (first × Text)}
    {next otherNext : first × Text → Except Fault (second × Text)} (carries : Carries read other)
    (later : ∀ value,
      Carries (fun text => next (value, text)) fun text => otherNext (value, text)) :
    Carries (fun text => read text >>= next) fun text => other text >>= otherNext := by
  intro text value rest found
  obtain ⟨⟨between, after⟩, step, found⟩ := exists_of_bind_eq_ok found
  dsimp only
  rw [carries step]
  exact later between found

theorem Carries.after {found : Type} {step : Text → Except Fault Text}
    {next otherNext : Text → Except Fault (found × Text)}
    (kept : ∀ ⦃text rest⦄, step text = .ok rest →
      step (withReturns text) = .ok (withReturns rest))
    (carries : Carries next otherNext) :
    Carries (fun text => step text >>= next) fun text => step text >>= otherNext := by
  intro text value rest found
  obtain ⟨after, stepped, found⟩ := exists_of_bind_eq_ok found
  dsimp only
  rw [kept stepped]
  exact carries found

theorem skipBlanks_withReturns (text : Text) :
    skipBlanks (withReturns text) = withReturns (skipBlanks text) :=
  dropWhile_withReturns (by decide) text

theorem skipBlanks_withReturns_nil {text : Text} (blank : skipBlanks text = []) :
    skipBlanks (withReturns text) = [] := by
  rw [skipBlanks_withReturns, blank]
  rfl

theorem newline_ne_of_skipBlanks {text rest : Text} {char : Char}
    (found : skipBlanks text = char :: rest) : char ≠ '\n' := by
  rintro rfl
  have stop := List.head?_dropWhile_not isBlank text
  rw [← skipBlanks, found] at stop
  simp [isBlank] at stop

theorem skipBlanks_withReturns_cons {text rest : Text} {char : Char}
    (found : skipBlanks text = char :: rest) :
    skipBlanks (withReturns text) = char :: withReturns rest := by
  rw [skipBlanks_withReturns, found, withReturns_cons (newline_ne_of_skipBlanks found)]

theorem readWord_withReturns {word : Text} (oneLine : '\n' ∉ word) {text rest : Text}
    (found : readWord word text = .ok rest) :
    readWord word (withReturns text) = .ok (withReturns rest) := by
  induction word generalizing text with
  | nil =>
      obtain rfl := Except.ok.inj found
      rfl
  | cons expected word ih =>
      simp only [List.mem_cons, not_or] at oneLine
      cases text with
      | nil => cases found
      | cons char others =>
          rw [readWord] at found
          split at found
          · rename_i same
            subst same
            rw [withReturns_cons (Ne.symm oneLine.1), readWord, if_pos rfl]
            exact ih oneLine.2 found
          · cases found

/-! ## Strings -/

theorem HexQuad.newline_not_mem {digits : Text} {code : Nat} (quad : HexQuad digits code) :
    '\n' ∉ digits := by
  have denoted := quad.nat?_eq
  unfold nat? at denoted
  split at denoted
  · contradiction
  · intro member
    exact absurd (digit?_isSome_of_mem denoted _ member) (by decide)

theorem carries_readHexQuad : Carries readHexQuad readHexQuad := by
  intro text code rest found
  obtain ⟨digits, quad, rfl⟩ := exists_hexQuad_of_readHexQuad found
  rw [withReturns_append, withReturns_of_not_mem quad.newline_not_mem]
  exact readHexQuad_append quad _

theorem carries_readUnicodeEscape : Carries readUnicodeEscape readUnicodeEscape := by
  refine carries_readHexQuad.bind fun first => ?_
  dsimp only
  by_cases low : isLowSurrogate first
  · simp only [low, if_true]
    exact carries_error
  by_cases high : isHighSurrogate first
  · intro text char rest found
    simp only [low, high, Bool.not_true, Bool.false_eq_true, if_false] at found ⊢
    split at found
    · cases found
    · split at found
      · cases found
      · rename_i digits
        obtain ⟨⟨second, after⟩, secondRead, found⟩ := exists_of_bind_eq_ok found
        dsimp only at found
        split_ifs at found with secondLow
        obtain ⟨rfl, rfl⟩ := Prod.mk.inj (Except.ok.inj found)
        simp [withReturns_cons, bind, Except.bind, carries_readHexQuad secondRead, secondLow]
      · cases found
    · cases found
  · simp only [low, high, Bool.not_false, Bool.false_eq_true, if_true, if_false]
    exact carries_ok _

theorem carries_readEscape : Carries readEscape readEscape := by
  intro text char rest found
  unfold readEscape at found
  split at found
  · cases found
  · exact carries_readUnicodeEscape found
  · rename_i letter others notUnicode
    split at found
    · rename_i meant short
      obtain ⟨rfl, rfl⟩ := Prod.mk.inj (Except.ok.inj found)
      have noNewline : letter ≠ '\n' := by
        rintro rfl
        simp [shortEscape?] at short
      simp [withReturns_cons noNewline, readEscape, short]
    · cases found

theorem carries_readCharacters {fuel more : Nat} (enough : fuel ≤ more) :
    Carries (readCharacters fuel) (readCharacters more) := by
  induction fuel generalizing more with
  | zero => exact carries_error
  | succ fuel ih =>
      obtain ⟨more, rfl⟩ := Nat.exists_eq_add_one_of_ne_zero (Nat.ne_zero_of_lt enough)
      have later := ih (Nat.le_of_succ_le_succ enough)
      intro text string rest found
      cases text with
      | nil => cases found
      | cons char others =>
          have noNewline : char ≠ '\n' := by
            rintro rfl
            simp [readCharacters, isControl] at found
          rw [readCharacters] at found
          rw [withReturns_cons noNewline, readCharacters]
          split_ifs at found ⊢ with quote backslash control
          · exact carries_ok [] found
          · refine carries_readEscape.bind (fun meant => ?_) found
            exact later.bind fun others => carries_ok (meant :: others)
          · refine later.bind (fun others => ?_) found
            exact carries_ok (char :: others)

theorem carries_readString : Carries readString readString := by
  intro text string rest found
  have longer := length_le_withReturns text
  exact carries_readCharacters (by omega) found

theorem takeWhile_isDigit_withReturns (text : Text) :
    (withReturns text).takeWhile isDigit = text.takeWhile isDigit :=
  takeWhile_withReturns (by decide) (by decide) text

theorem dropWhile_isDigit_withReturns (text : Text) :
    (withReturns text).dropWhile isDigit = withReturns (text.dropWhile isDigit) :=
  dropWhile_withReturns (by decide) text

theorem carries_readReal {negative : Bool} {significand : Nat} {exponent : Int} :
    Carries (readReal negative significand exponent) (readReal negative significand exponent) := by
  intro text number rest found
  unfold readReal at found ⊢
  split at found
  · obtain ⟨rfl, rfl⟩ := Prod.mk.inj (Except.ok.inj found)
    rfl
  · cases found

theorem readExponentDigits_withReturns (exponent : Nat) (text : Text) :
    readExponentDigits exponent (withReturns text) =
      (readExponentDigits exponent text).mapError withReturns := by
  induction text generalizing exponent with
  | nil => rfl
  | cons char rest ih =>
      by_cases newline : char = '\n'
      · subst newline
        rfl
      · rw [withReturns_cons newline, readExponentDigits, readExponentDigits]
        dsimp only
        split_ifs with digit fits
        · exact ih _
        · rfl
        · rfl

theorem exponentSign_withReturns (text : Text) :
    exponentSign (withReturns text) =
      ((exponentSign text).1, withReturns (exponentSign text).2) := by
  cases text with
  | nil => rfl
  | cons char rest =>
      by_cases newline : char = '\n'
      · subst newline
        rfl
      · rw [withReturns_cons newline]
        by_cases plus : char = '+'
        · subst plus
          rfl
        · by_cases minus : char = '-'
          · subst minus
            rfl
          · simp [exponentSign, plus, minus, withReturns_cons newline]

theorem carries_readExponent {negative : Bool} {significand : Nat} {scale : Int} :
    Carries (readExponent negative significand scale)
      (readExponent negative significand scale) := by
  intro text number rest found
  simp only [readExponent, exponentSign_withReturns] at found ⊢
  cases digits : (exponentSign text).2 with
  | nil =>
      rw [digits] at found
      cases found
  | cons char others =>
      have digit : isDigit char = true := by
        cases isIt : isDigit char with
        | true => rfl
        | false =>
            rw [digits] at found
            simp [isIt] at found
      have noNewline : char ≠ '\n' := isDigit_ne digit (by decide)
      simp only [digits, digit, withReturns_cons noNewline, Bool.not_true, Bool.false_eq_true,
        if_false] at found ⊢
      rw [← withReturns_cons noNewline, readExponentDigits_withReturns,
        dropWhile_isDigit_withReturns]
      cases spelled : readExponentDigits 0 (char :: others) with
      | ok exponent =>
          rw [spelled] at found
          exact carries_readReal found
      | error after =>
          simp only [spelled, Except.mapError] at found ⊢
          split_ifs at found ⊢ with overflow
          obtain ⟨rfl, rfl⟩ := Prod.mk.inj (Except.ok.inj found)
          rfl

theorem carries_readFraction {negative : Bool} {significand : Nat} {scale : Int} :
    Carries (readFraction negative significand scale)
      (readFraction negative significand scale) := by
  intro text number rest found
  simp only [readFraction, takeWhile_isDigit_withReturns, dropWhile_isDigit_withReturns]
    at found ⊢
  split_ifs at found ⊢ with noDigits
  split at found
  · rename_i others after
    rw [after, withReturns_cons (by decide)]
    exact carries_readExponent found
  · rename_i others after
    rw [after, withReturns_cons (by decide)]
    exact carries_readExponent found
  · rename_i small large
    have carried := carries_readReal found
    split
    · rename_i others after
      exact absurd after (withReturns_ne_cons (by decide) small others)
    · rename_i others after
      exact absurd after (withReturns_ne_cons (by decide) large others)
    · exact carried

theorem carries_readAfterWhole {negative : Bool} {significand unread : Nat} :
    Carries (readAfterWhole negative significand unread)
      (readAfterWhole negative significand unread) := by
  intro text number rest found
  unfold readAfterWhole at found
  split at found
  · rw [withReturns_cons (by decide)]
    exact carries_readFraction found
  · rw [withReturns_cons (by decide)]
    exact carries_readExponent found
  · rw [withReturns_cons (by decide)]
    exact carries_readExponent found
  · rename_i point small large
    unfold readAfterWhole
    split
    · rename_i others starts
      exact absurd starts (withReturns_ne_cons (by decide) point others)
    · rename_i others starts
      exact absurd starts (withReturns_ne_cons (by decide) small others)
    · rename_i others starts
      exact absurd starts (withReturns_ne_cons (by decide) large others)
    · split at found
      · obtain ⟨rfl, rfl⟩ := Prod.mk.inj (Except.ok.inj found)
        rfl
      · exact carries_readReal found

theorem carries_readNumber {negative : Bool} :
    Carries (readNumber negative) (readNumber negative) := by
  intro text number rest found
  unfold readNumber at found
  split at found
  · cases found
  · rename_i others
    rw [withReturns_cons (by decide)]
    cases others with
    | nil => exact carries_readAfterWhole found
    | cons next more =>
        dsimp only at found
        split_ifs at found with digit
        have carried := carries_readAfterWhole found
        by_cases newline : next = '\n'
        · subst newline
          exact carried
        · rw [withReturns_cons newline] at carried ⊢
          simpa [readNumber, digit] using carried
  · rename_i char others noZero
    split_ifs at found with digit
    have noNewline : char ≠ '\n' := isDigit_ne digit (by decide)
    have carried := carries_readAfterWhole found
    rw [← dropWhile_isDigit_withReturns, ← takeWhile_isDigit_withReturns] at carried
    rw [withReturns_cons noNewline] at carried ⊢
    unfold readNumber
    split
    · contradiction
    · rename_i starts
      exact absurd (List.cons.inj starts).1 noZero
    · rename_i starts
      obtain ⟨rfl, rfl⟩ := List.cons.inj starts
      rw [if_pos digit]
      exact carried

/-! ## Values -/

theorem readScalar?_withReturns {text : Text} {scalar : Option (Value × Text)}
    (found : readScalar? text = .ok scalar) :
    readScalar? (withReturns text) = .ok (scalar.map (Prod.map id withReturns)) := by
  cases text with
  | nil => cases found
  | cons char others =>
      have noNewline : char ≠ '\n' := by
        rintro rfl
        simp [readScalar?, isDigit] at found
      have whole := withReturns_cons noNewline others
      have carriesWord {word : Text} {value : Value} (oneLine : '\n' ∉ word)
          (found : (readWord word others >>= fun rest => .ok (some (value, rest))) =
            .ok scalar) :
          (readWord word (withReturns others) >>= fun rest => .ok (some (value, rest))) =
            .ok (scalar.map (Prod.map id withReturns)) := by
        obtain ⟨after, wordRead, found⟩ := exists_of_bind_eq_ok found
        obtain rfl := Except.ok.inj found
        rw [readWord_withReturns oneLine wordRead]
        rfl
      rw [readScalar?] at found
      rw [whole, readScalar?]
      split_ifs at found ⊢ with bracket null true false quote minus digit
      · obtain rfl := Except.ok.inj found
        rfl
      · exact carriesWord (by decide) found
      · exact carriesWord (by decide) found
      · exact carriesWord (by decide) found
      · obtain ⟨⟨string, after⟩, stringRead, found⟩ := exists_of_bind_eq_ok found
        obtain rfl := Except.ok.inj found
        simp only [bind, Except.bind, carries_readString stringRead]
        rfl
      · obtain ⟨⟨number, after⟩, numberRead, found⟩ := exists_of_bind_eq_ok found
        obtain rfl := Except.ok.inj found
        simp only [bind, Except.bind, carries_readNumber numberRead]
        rfl
      · obtain ⟨⟨number, after⟩, numberRead, found⟩ := exists_of_bind_eq_ok found
        obtain rfl := Except.ok.inj found
        have carried := carries_readNumber numberRead
        rw [whole] at carried
        simp only [bind, Except.bind, carried]
        rfl

theorem carries_nextItem (first : Bool) : Carries (nextItem first) (nextItem first) := by
  intro text more rest found
  cases starts : skipBlanks text with
  | nil => simp [nextItem, starts] at found
  | cons char others =>
      have carried := skipBlanks_withReturns_cons starts
      by_cases closing : char = ']'
      · subst closing
        simp only [nextItem, starts, Except.ok.injEq, Prod.mk.injEq] at found
        obtain ⟨rfl, rfl⟩ := found
        simp [nextItem, carried]
      · cases first with
        | true =>
            have noNewline := newline_ne_of_skipBlanks starts
            simp [nextItem, starts] at found
            obtain ⟨rfl, rfl⟩ := found
            simp [nextItem, carried, withReturns_cons noNewline]
        | false =>
            by_cases comma : char = ','
            · subst comma
              cases item : skipBlanks others with
              | nil => simp [nextItem, starts, item] at found
              | cons head inside =>
                  have noNewline := newline_ne_of_skipBlanks item
                  have itemCarried := skipBlanks_withReturns_cons item
                  by_cases ended : head = ']'
                  · simp [nextItem, starts, item, ended] at found
                  · simp [nextItem, starts, item, ended] at found
                    obtain ⟨rfl, rfl⟩ := found
                    simp [nextItem, carried, itemCarried, ended, withReturns_cons noNewline]
            · simp [nextItem, starts, comma] at found

theorem carries_nextName (first : Bool) : Carries (nextName first) (nextName first) := by
  intro text more rest found
  cases starts : skipBlanks text with
  | nil => simp [nextName, starts] at found
  | cons char others =>
      have carried := skipBlanks_withReturns_cons starts
      by_cases closing : char = '\x7d'
      · subst closing
        simp only [nextName, starts, Except.ok.injEq, Prod.mk.injEq] at found
        obtain ⟨rfl, rfl⟩ := found
        simp [nextName, carried]
      · cases first with
        | true =>
            by_cases quote : char = '"'
            · simp [nextName, starts, quote] at found
              obtain ⟨rfl, rfl⟩ := found
              simp [nextName, carried, quote]
            · simp [nextName, starts, quote] at found
        | false =>
            by_cases comma : char = ','
            · subst comma
              cases name : skipBlanks others with
              | nil => simp [nextName, starts, name] at found
              | cons head inside =>
                  have nameCarried := skipBlanks_withReturns_cons name
                  by_cases quote : head = '"'
                  · simp [nextName, starts, name, quote] at found
                    obtain ⟨rfl, rfl⟩ := found
                    simp [nextName, carried, nameCarried, quote]
                  · by_cases ended : head = '\x7d'
                    · simp [nextName, starts, name, ended] at found
                    · simp [nextName, starts, name, quote, ended] at found
            · simp [nextName, starts, comma] at found

theorem readColon_withReturns {text rest : Text} (found : readColon text = .ok rest) :
    readColon (withReturns text) = .ok (withReturns rest) := by
  unfold readColon at found ⊢
  split at found
  · cases found
  · rename_i others starts
    obtain rfl := Except.ok.inj found
    rw [skipBlanks_withReturns_cons starts]
    rfl
  · cases found

theorem readEnd_withReturns {text : Text} (found : readEnd text = .ok ()) :
    readEnd (withReturns text) = .ok () := by
  unfold readEnd at found ⊢
  split at found
  · rename_i blank
    rw [skipBlanks_withReturns_nil blank]
  · cases found

structure CarriesWithin (fuel more : Nat) : Prop where
  value (levels : Nat) : Carries (readValue fuel levels) (readValue more levels)
  items (levels : Nat) (first : Bool) :
    Carries (readItems fuel levels first) (readItems more levels first)
  members (levels : Nat) (first : Bool) :
    Carries (readMembers fuel levels first) (readMembers more levels first)

variable {fuel more : Nat}

theorem carries_readItems (within : CarriesWithin fuel more) (levels : Nat) (first : Bool) :
    Carries (readItems (fuel + 1) levels first) (readItems (more + 1) levels first) := by
  refine (carries_nextItem first).bind fun further => ?_
  cases further with
  | false => exact carries_ok []
  | true =>
      refine (within.value levels).bind fun item => ?_
      refine (within.items levels false).bind fun items => ?_
      exact carries_ok (item :: items)

theorem carries_readMembers (within : CarriesWithin fuel more) (levels : Nat) (first : Bool) :
    Carries (readMembers (fuel + 1) levels first) (readMembers (more + 1) levels first) := by
  refine (carries_nextName first).bind fun further => ?_
  cases further with
  | false => exact carries_ok []
  | true =>
      refine carries_readString.bind fun name => ?_
      refine .after (fun _ _ => readColon_withReturns) ?_
      refine (within.value levels).bind fun value => ?_
      refine (within.members levels false).bind fun members => ?_
      exact carries_ok ((name, value) :: members)

theorem carries_readValue (within : CarriesWithin fuel more) (levels : Nat) :
    Carries (readValue (fuel + 1) levels) (readValue (more + 1) levels) := by
  intro text value rest found
  rcases cases_of_readValue found with scalarRead |
    ⟨inside, fewer, rfl, ⟨items, starts, itemsRead, rfl⟩ | ⟨written, starts, membersRead, rfl⟩⟩
  · have carried := readScalar?_withReturns scalarRead
    rw [← skipBlanks_withReturns] at carried
    simp only [readValue, carried]
    rfl
  · have carried := within.items (fewer + 1) true itemsRead
    simp [readValue, readScalar?, skipBlanks_withReturns_cons starts, carried, bind, Except.bind]
  · have carried := within.members (fewer + 1) true membersRead
    simp [readValue, readScalar?, skipBlanks_withReturns_cons starts, carried, bind, Except.bind]

theorem carriesWithin {fuel more : Nat} (enough : fuel ≤ more) : CarriesWithin fuel more := by
  induction fuel generalizing more with
  | zero =>
      constructor
      · exact fun levels => carries_error
      · exact fun levels first => carries_error
      · exact fun levels first => carries_error
  | succ fuel ih =>
      obtain ⟨more, rfl⟩ := Nat.exists_eq_add_one_of_ne_zero (Nat.ne_zero_of_lt enough)
      have within := ih (Nat.le_of_succ_le_succ enough)
      exact ⟨carries_readValue within, carries_readItems within, carries_readMembers within⟩

theorem read_withReturns {source : Text} {value : Value} (found : Value.read source = .ok value) :
    Value.read (withReturns source) = .ok value := by
  obtain ⟨⟨content, rest⟩, valueRead, found⟩ := exists_of_bind_eq_ok found
  obtain ⟨_, ended, found⟩ := exists_of_bind_eq_ok found
  obtain rfl := Except.ok.inj found
  have longer := length_le_withReturns source
  have within : CarriesWithin (2 * source.length + 2) (2 * (withReturns source).length + 2) :=
    carriesWithin (by omega)
  rw [Value.read, within.value nestingLimit valueRead]
  simp only [bind, Except.bind, readEnd_withReturns ended]

end MetaConfig.Json
