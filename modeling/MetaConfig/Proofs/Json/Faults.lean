import MetaConfig.Proofs.Json.Reading
import MetaConfig.Proofs.Json.Spelling
import MetaConfig.Proofs.Text.Bytes

/-!
Where the faults of a JSON text are. Either the next character is at fault, or the reader stands
after a character of one byte, so the byte before a fault is the first of a character. Two faults
in strings are elsewhere: the end of the text can come after any character, and an escape is left
after four bytes.
-/

namespace MetaConfig.Json

open Text

variable {source text rest : Text} {char : Char} {reason : Reason} {fault : Fault}

theorem utf8Size_of_isBlank (blank : isBlank char = true) : char.utf8Size = 1 := by
  simp only [isBlank, Bool.or_eq_true, beq_iff_eq] at blank
  rcases blank with ((rfl | rfl) | rfl) | rfl <;> rfl

theorem HexQuad.utf8Size_eq {digits : Text} {code : Nat} (quad : HexQuad digits code) :
    ∀ char ∈ digits, char.utf8Size = 1 := by
  have denoted := quad.nat?_eq
  unfold nat? at denoted
  split at denoted
  · contradiction
  · exact fun char member => utf8Size_of_digit? (digit?_isSome_of_mem denoted char member)

theorem followsSmall_skipBlanks (follows : FollowsSmall source text) :
    FollowsSmall source (skipBlanks text) :=
  follows.dropWhile fun _ => utf8Size_of_isBlank

/-! ## Places of faults -/

/-- The byte before the fault is inside a character: the last one of the text, or one of those
that stand where the digits of an escape should. -/
inductive Fault.Splits (source : Text) : Fault → Prop
  | atEnd {start last} : source = start ++ [last] → 1 < last.utf8Size →
      Splits source ⟨.unfinishedString, 0⟩
  | inEscape {start digits} : source = start ++ '\\' :: 'u' :: digits → 4 ≤ byteSize digits →
      ¬ IsBoundary digits 3 → Splits source ⟨.invalidEscape, byteSize digits - 4⟩

def Fault.IsPlaced (source : Text) (fault : Fault) : Prop :=
  IsBoundary source (fault.offset source - 1) ∨ fault.Splits source

theorem Fault.offset_append {before : Text} (bound : fault.left ≤ byteSize rest) :
    fault.offset (before ++ rest) = byteSize before + (byteSize rest - fault.left) := by
  rw [offset, byteSize_append]
  omega

theorem isBoundary_inEscape {start digits : Text} (long : 4 ≤ byteSize digits) :
    IsBoundary (start ++ '\\' :: 'u' :: digits)
        (Fault.offset (start ++ '\\' :: 'u' :: digits) ⟨.invalidEscape, byteSize digits - 4⟩ - 1) ↔
      IsBoundary digits 3 := by
  have parts : start ++ '\\' :: 'u' :: digits = start ++ ['\\', 'u'] ++ digits := by simp
  have place : byteSize (start ++ ['\\', 'u']) + (byteSize digits - (byteSize digits - 4)) - 1 =
      byteSize (start ++ ['\\', 'u']) + 3 := by
    omega
  rw [parts, Fault.offset_append (Nat.sub_le _ 4), place, isBoundary_append_left]

theorem Fault.Splits.not_isBoundary (splits : fault.Splits source) :
    ¬ IsBoundary source (fault.offset source - 1) := by
  cases splits with
  | @atEnd start last isSource large =>
      subst isSource
      have place : (⟨.unfinishedString, 0⟩ : Fault).offset (start ++ [last]) - 1 =
          byteSize start + (last.utf8Size - 1) := by
        rw [offset_append (Nat.zero_le _)]
        simp only [byteSize]
        omega
      rw [place, isBoundary_append_left]
      intro boundary
      rcases eq_zero_or_eq_of_isBoundary_singleton boundary with first | last <;> omega
  | inEscape isSource long inside =>
      subst isSource
      rwa [isBoundary_inEscape long]

theorem isPlaced_before (follows : FollowsSmall source rest) :
    (Fault.before reason rest).IsPlaced source :=
  .inl follows.isBoundary

theorem isPlaced_onNext_cons (inside : char :: rest <:+ source) :
    (Fault.onNext reason (char :: rest)).IsPlaced source := by
  obtain ⟨before, rfl⟩ := inside
  have positive : 0 < char.utf8Size := char.utf8Size_pos
  refine .inl ⟨before, char :: rest, rfl, ?_⟩
  rw [Fault.offset_append (Nat.sub_le _ 1)]
  simp only [Fault.onNext, byteSize]
  omega

theorem isPlaced_onNext (follows : FollowsSmall source rest) :
    (Fault.onNext reason rest).IsPlaced source := by
  cases rest with
  | nil => exact isPlaced_before follows
  | cons char rest => exact isPlaced_onNext_cons follows.isSuffix

theorem isPlaced_atEnd (source : Text) : Fault.IsPlaced source ⟨.unfinishedString, 0⟩ := by
  rcases List.eq_nil_or_concat source with rfl | ⟨start, last, rfl⟩
  · exact .inl ⟨[], [], rfl, rfl⟩
  · by_cases small : last.utf8Size = 1
    · have follows : FollowsSmall (start.concat last) [] :=
        followsSmall_of_cons (by simp) small
      exact isPlaced_before follows
    · have positive : 0 < last.utf8Size := last.utf8Size_pos
      exact .inr (.atEnd List.concat_eq_append (by omega))

theorem isPlaced_inEscape {digits : Text} (inside : '\\' :: 'u' :: digits <:+ source)
    (long : 4 ≤ byteSize digits) :
    Fault.IsPlaced source ⟨.invalidEscape, byteSize digits - 4⟩ := by
  obtain ⟨start, rfl⟩ := inside
  by_cases boundary : IsBoundary digits 3
  · exact .inl ((isBoundary_inEscape long).mpr boundary)
  · exact .inr (.inEscape rfl long boundary)

/-! ## What readers leave -/

def Settles {found : Type} (source : Text) (good : found → Prop) : Except Fault found → Prop
  | .ok value => good value
  | .error fault => fault.IsPlaced source

theorem Settles.mono {found : Type} {good better : found → Prop} {outcome : Except Fault found}
    (settles : Settles source better outcome) (weaker : ∀ value, better value → good value) :
    Settles source good outcome := by
  cases outcome with
  | error fault => exact settles
  | ok value => exact weaker value settles

theorem Settles.bind {first second : Type} {good : first → Prop} {goodLater : second → Prop}
    {step : Except Fault first} {next : first → Except Fault second}
    (settles : Settles source good step)
    (later : ∀ value, good value → Settles source goodLater (next value)) :
    Settles source goodLater (step >>= next) := by
  cases step with
  | error fault => exact settles
  | ok value => exact later value settles

/-- A reader that starts after a character of one byte stops after one, or finds a fault that is
placed in the source. -/
def PlacesFaults {found : Type} (read : Text → Except Fault (found × Text)) : Prop :=
  ∀ ⦃source text⦄, FollowsSmall source text →
    Settles source (fun result => FollowsSmall source result.2) (read text)

section

variable {first second found : Type}

theorem placesFaults_ok (value : found) : PlacesFaults fun text => .ok (value, text) :=
  fun _ _ follows => follows

theorem placesFaults_before (reason : Reason) :
    PlacesFaults fun text => (.error (.before reason text) : Except Fault (found × Text)) :=
  fun _ _ follows => isPlaced_before follows

theorem PlacesFaults.after {step : Text → Except Fault Text}
    {next : Text → Except Fault (found × Text)}
    (settles : ∀ ⦃source text⦄, FollowsSmall source text →
      Settles source (FollowsSmall source) (step text))
    (places : PlacesFaults next) : PlacesFaults fun text => step text >>= next :=
  fun _ _ follows => (settles follows).bind fun _ stops => places stops

theorem PlacesFaults.bind {read : Text → Except Fault (first × Text)}
    {next : first × Text → Except Fault (second × Text)} (places : PlacesFaults read)
    (later : ∀ value, PlacesFaults fun text => next (value, text)) :
    PlacesFaults fun text => read text >>= next :=
  fun _ _ follows => (places follows).bind fun result stops => later result.1 stops

end

theorem settles_readWord {word : Text} (small : word.all (·.utf8Size == 1) = true)
    (follows : FollowsSmall source text) :
    Settles source (FollowsSmall source) (readWord word text) := by
  induction word generalizing text with
  | nil => exact follows
  | cons expected word ih =>
      simp only [List.all_cons, Bool.and_eq_true, beq_iff_eq] at small
      obtain ⟨expectedSmall, small⟩ := small
      cases text with
      | nil => exact isPlaced_before follows
      | cons char rest =>
          rw [readWord]
          split
          · rename_i same
            subst same
            exact ih small (follows.cons expectedSmall)
          · exact isPlaced_onNext follows

theorem settles_readHexQuad (inside : '\\' :: 'u' :: text <:+ source) :
    Settles source
      (fun result => ∃ digits, text = digits ++ result.2 ∧ ∀ char ∈ digits, char.utf8Size = 1)
      (readHexQuad text) := by
  cases read : readHexQuad text with
  | ok result =>
      obtain ⟨digits, quad, rfl⟩ := exists_hexQuad_of_readHexQuad read
      exact ⟨digits, rfl, quad.utf8Size_eq⟩
  | error fault =>
      unfold readHexQuad at read
      split at read
      · split at read <;> cases read
        exact isPlaced_atEnd source
      · split at read <;> cases read
        · exact isPlaced_atEnd source
        · rename_i long
          exact isPlaced_inEscape inside (Nat.not_lt.mp long)

theorem settles_readUnicodeEscape (inside : '\\' :: 'u' :: text <:+ source) :
    Settles source (fun result => result.2 <:+ text) (readUnicodeEscape text) := by
  have follows : FollowsSmall source text :=
    followsSmall_of_cons ((List.suffix_cons '\\' _).trans inside) rfl
  refine (settles_readHexQuad inside).bind ?_
  rintro ⟨first, rest⟩ ⟨digits, rfl, small⟩
  replace follows := follows.append small
  have suffix : rest <:+ digits ++ rest := List.suffix_append digits rest
  dsimp only
  split_ifs
  · exact isPlaced_before follows
  · exact suffix
  · split
    · exact isPlaced_before follows
    · split
      · exact isPlaced_before (follows.cons rfl)
      · refine (settles_readHexQuad follows.isSuffix).bind ?_
        rintro ⟨second, after⟩ ⟨more, rfl, moreSmall⟩
        dsimp only
        split_ifs
        · exact (List.suffix_append ('\\' :: 'u' :: more) after).trans suffix
        · exact isPlaced_before (((follows.cons rfl).cons rfl).append moreSmall)
      · exact isPlaced_onNext (follows.cons rfl)
    · exact isPlaced_onNext follows

theorem settles_readEscape (inside : '\\' :: text <:+ source) :
    Settles source (fun result => result.2 <:+ text) (readEscape text) := by
  have follows : FollowsSmall source text := followsSmall_of_cons inside rfl
  unfold readEscape
  split
  · exact isPlaced_before follows
  · refine (settles_readUnicodeEscape inside).mono fun result suffix => ?_
    exact suffix.trans (List.suffix_cons 'u' _)
  · split
    · exact List.suffix_cons _ _
    · exact isPlaced_onNext follows

theorem settles_readCharacters {fuel : Nat} (enough : text.length < fuel)
    (inside : text <:+ source) :
    Settles source (fun result => FollowsSmall source result.2) (readCharacters fuel text) := by
  -- A character of the string may have any size, so that what is left is only known to be
  -- inside the source; what follows a string stands after the closing quote.
  induction fuel generalizing text with
  | zero => contradiction
  | succ fuel ih =>
      cases text with
      | nil => exact isPlaced_atEnd source
      | cons char rest =>
          have fewer : rest.length < fuel := Nat.lt_of_succ_lt_succ enough
          have restInside : rest <:+ source := (List.suffix_cons char rest).trans inside
          rw [readCharacters]
          split_ifs with quote backslash control
          · exact followsSmall_of_cons inside (quote ▸ rfl)
          · subst backslash
            refine (settles_readEscape inside).bind fun escaped suffix => ?_
            refine (ih (suffix.length_le.trans_lt fewer) (suffix.trans restInside)).bind ?_
            exact fun _ stops => stops
          · exact isPlaced_onNext_cons inside
          · exact (ih fewer restInside).bind fun _ stops => stops

theorem placesFaults_readString : PlacesFaults readString :=
  fun _ text follows => settles_readCharacters (Nat.lt_succ_self text.length) follows.isSuffix

theorem placesFaults_readReal {negative : Bool} {significand : Nat} {exponent : Int} :
    PlacesFaults (readReal negative significand exponent) := by
  intro source text follows
  unfold readReal
  split
  · exact follows
  · exact isPlaced_before follows

theorem followsSmall_of_readExponentDigits {exponent : Nat} {after : Text}
    (follows : FollowsSmall source text) (found : readExponentDigits exponent text = .error after) :
    FollowsSmall source after := by
  induction text generalizing exponent with
  | nil => contradiction
  | cons char rest ih =>
      rw [readExponentDigits] at found
      dsimp only at found
      split_ifs at found with digit
      · exact ih (follows.cons (utf8Size_of_isDigit digit)) found
      · obtain rfl := Except.error.inj found
        exact follows.cons (utf8Size_of_isDigit digit)

theorem followsSmall_exponentSign (follows : FollowsSmall source text) :
    FollowsSmall source (exponentSign text).2 := by
  unfold exponentSign
  split
  · exact follows.cons rfl
  · exact follows.cons rfl
  · exact follows

theorem followsSmall_dropDigits (follows : FollowsSmall source text) :
    FollowsSmall source (text.dropWhile isDigit) :=
  follows.dropWhile fun _ => utf8Size_of_isDigit

theorem placesFaults_readExponent {negative : Bool} {significand : Nat} {scale : Int} :
    PlacesFaults (readExponent negative significand scale) := by
  intro source text follows
  replace follows := followsSmall_exponentSign follows
  unfold readExponent
  dsimp only
  split
  · rename_i ends
    rw [ends] at follows
    exact isPlaced_before follows
  · split
    · exact isPlaced_onNext follows
    · split
      · exact placesFaults_readReal (followsSmall_dropDigits follows)
      · rename_i after tooLarge
        split_ifs
        · exact isPlaced_before (followsSmall_of_readExponentDigits follows tooLarge)
        · exact followsSmall_dropDigits follows

theorem placesFaults_readFraction {negative : Bool} {significand : Nat} {scale : Int} :
    PlacesFaults (readFraction negative significand scale) := by
  intro source text follows
  have further := followsSmall_dropDigits follows
  unfold readFraction
  dsimp only
  split
  · exact isPlaced_onNext follows
  · split
    · rename_i starts
      rw [starts] at further
      exact placesFaults_readExponent (further.cons rfl)
    · rename_i starts
      rw [starts] at further
      exact placesFaults_readExponent (further.cons rfl)
    · exact placesFaults_readReal further

theorem placesFaults_readAfterWhole {negative : Bool} {significand unread : Nat} :
    PlacesFaults (readAfterWhole negative significand unread) := by
  intro source text follows
  unfold readAfterWhole
  split
  · exact placesFaults_readFraction (follows.cons rfl)
  · exact placesFaults_readExponent (follows.cons rfl)
  · exact placesFaults_readExponent (follows.cons rfl)
  · split
    · exact follows
    · exact placesFaults_readReal follows

theorem placesFaults_readNumber {negative : Bool} : PlacesFaults (readNumber negative) := by
  intro source text follows
  unfold readNumber
  split
  · exact isPlaced_before follows
  · replace follows := follows.cons rfl
    split
    · split_ifs
      · exact isPlaced_onNext follows
      · exact placesFaults_readAfterWhole follows
    · exact placesFaults_readAfterWhole follows
  · split_ifs
    · exact placesFaults_readAfterWhole (followsSmall_dropDigits follows)
    · exact isPlaced_onNext follows

theorem settles_readScalar? (follows : FollowsSmall source text) :
    Settles source (fun scalar => ∀ result ∈ scalar, FollowsSmall source result.2)
      (readScalar? text) := by
  cases text with
  | nil => exact isPlaced_onNext follows
  | cons char rest =>
      have after (same : char.utf8Size = 1) : FollowsSmall source rest := follows.cons same
      rw [readScalar?]
      split_ifs with bracket null true false quote minus digit
      · simp [Settles]
      · refine (settles_readWord (by decide) (after (null ▸ rfl))).bind fun others stops => ?_
        simpa [Settles] using stops
      · refine (settles_readWord (by decide) (after (true ▸ rfl))).bind fun others stops => ?_
        simpa [Settles] using stops
      · refine (settles_readWord (by decide) (after (false ▸ rfl))).bind fun others stops => ?_
        simpa [Settles] using stops
      · refine (placesFaults_readString (after (quote ▸ rfl))).bind fun result stops => ?_
        simpa [Settles] using stops
      · refine (placesFaults_readNumber (after (minus ▸ rfl))).bind fun result stops => ?_
        simpa [Settles] using stops
      · refine (placesFaults_readNumber follows).bind fun result stops => ?_
        simpa [Settles] using stops
      · exact isPlaced_onNext follows

theorem placesFaults_nextItem (first : Bool) : PlacesFaults (nextItem first) := by
  intro source text follows
  replace follows := followsSmall_skipBlanks follows
  unfold nextItem
  split
  · rename_i ends
    exact isPlaced_onNext (ends ▸ follows)
  · rename_i rest starts
    rw [starts] at follows
    exact follows.cons rfl
  · rename_i char rest noClosing starts
    rw [starts] at follows
    split_ifs with isFirst comma
    · exact follows
    · subst comma
      replace follows := followsSmall_skipBlanks (follows.cons rfl)
      split
      · rename_i ends
        exact isPlaced_onNext (ends ▸ follows)
      · rename_i ended
        exact isPlaced_onNext (ended ▸ follows)
      · exact follows
    · exact isPlaced_onNext follows

theorem placesFaults_nextName (first : Bool) : PlacesFaults (nextName first) := by
  intro source text follows
  replace follows := followsSmall_skipBlanks follows
  unfold nextName
  split
  · rename_i ends
    exact isPlaced_onNext (ends ▸ follows)
  · rename_i rest starts
    rw [starts] at follows
    exact follows.cons rfl
  · rename_i char rest noClosing starts
    rw [starts] at follows
    split_ifs with isFirst quote comma
    · subst quote
      exact follows.cons rfl
    · exact isPlaced_onNext follows
    · subst comma
      replace follows := followsSmall_skipBlanks (follows.cons rfl)
      split
      · rename_i ends
        exact isPlaced_onNext (ends ▸ follows)
      · rename_i opened
        rw [opened] at follows
        exact follows.cons rfl
      · rename_i ended
        exact isPlaced_onNext (ended ▸ follows)
      · exact isPlaced_onNext follows
    · exact isPlaced_onNext follows

theorem settles_readColon (follows : FollowsSmall source text) :
    Settles source (FollowsSmall source) (readColon text) := by
  replace follows := followsSmall_skipBlanks follows
  unfold readColon
  split
  · rename_i ends
    exact isPlaced_onNext (ends ▸ follows)
  · rename_i starts
    rw [starts] at follows
    exact follows.cons rfl
  · exact isPlaced_onNext follows

theorem settles_readEnd (follows : FollowsSmall source text) :
    Settles source (fun _ => True) (readEnd text) := by
  unfold readEnd
  split
  · trivial
  · exact isPlaced_onNext (followsSmall_skipBlanks follows)

structure PlacesFaultsWithin (fuel : Nat) : Prop where
  value (levels : Nat) : PlacesFaults (readValue fuel levels)
  items (levels : Nat) (first : Bool) : PlacesFaults (readItems fuel levels first)
  members (levels : Nat) (first : Bool) : PlacesFaults (readMembers fuel levels first)

variable {fuel : Nat}

theorem placesFaults_readItems (within : PlacesFaultsWithin fuel) (levels : Nat) (first : Bool) :
    PlacesFaults (readItems (fuel + 1) levels first) := by
  refine (placesFaults_nextItem first).bind fun further => ?_
  cases further with
  | false => exact placesFaults_ok []
  | true =>
      refine (within.value levels).bind fun item => ?_
      refine (within.items levels false).bind fun items => ?_
      exact placesFaults_ok (item :: items)

theorem placesFaults_readMembers (within : PlacesFaultsWithin fuel) (levels : Nat) (first : Bool) :
    PlacesFaults (readMembers (fuel + 1) levels first) := by
  refine (placesFaults_nextName first).bind fun further => ?_
  cases further with
  | false => exact placesFaults_ok []
  | true =>
      refine placesFaults_readString.bind fun name => ?_
      refine .after (fun _ _ => settles_readColon) ?_
      refine (within.value levels).bind fun value => ?_
      refine (within.members levels false).bind fun members => ?_
      exact placesFaults_ok ((name, value) :: members)

theorem placesFaults_readValue (within : PlacesFaultsWithin fuel) (levels : Nat) :
    PlacesFaults (readValue (fuel + 1) levels) := by
  intro source text follows
  replace follows := followsSmall_skipBlanks follows
  have settles := settles_readScalar? follows
  simp only [readValue]
  generalize skipBlanks text = place at follows settles ⊢
  split
  · rename_i fault failed
    rwa [failed] at settles
  · rename_i scalar found
    rw [found] at settles
    exact settles scalar rfl
  · rename_i opens
    split
    · exact isPlaced_onNext follows
    · exact isPlaced_onNext follows
    · rename_i fewer
      cases place with
      | nil => cases opens
      | cons char rest =>
          have bracket : char.utf8Size = 1 := by
            rcases bracket_of_readScalar? opens with rfl | rfl <;> rfl
          replace follows := follows.cons bracket
          split
          · rename_i starts
            obtain ⟨-, rfl⟩ := List.cons.inj starts
            exact (within.items (fewer + 1) true follows).bind fun _ stops => stops
          · exact (within.members (fewer + 1) true follows).bind fun _ stops => stops

theorem placesFaultsWithin (fuel : Nat) : PlacesFaultsWithin fuel := by
  induction fuel with
  | zero =>
      constructor
      · exact fun levels => placesFaults_before .nestingTooDeep
      · exact fun levels first => placesFaults_before .nestingTooDeep
      · exact fun levels first => placesFaults_before .nestingTooDeep
  | succ fuel within =>
      exact ⟨placesFaults_readValue within, placesFaults_readItems within,
        placesFaults_readMembers within⟩

/-- Every fault of a text is where a character begins, but for those that split one. -/
theorem isPlaced_of_read (failed : Value.read source = .error fault) : fault.IsPlaced source := by
  have settles : Settles source (fun _ => True) (Value.read source) := by
    refine ((placesFaultsWithin _).value nestingLimit (followsSmall_self source)).bind ?_
    intro result follows
    exact (settles_readEnd follows).bind fun _ _ => trivial
  rwa [failed] at settles

theorem isBoundary_iff_of_read (failed : Value.read source = .error fault) :
    IsBoundary source (fault.offset source - 1) ↔ ¬ fault.Splits source := by
  constructor
  · exact fun boundary splits => splits.not_isBoundary boundary
  · exact (isPlaced_of_read failed).resolve_right

end MetaConfig.Json
