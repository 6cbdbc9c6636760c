import MetaConfig.Json.Fault
import MetaConfig.Json.Value
import MetaConfig.Powers

/-!
The words, strings and numbers of JSON. Every reader here takes the text that is left and
returns what it read with the text after it.
-/

namespace MetaConfig.Json

open Text

def isBlank (char : Char) : Bool :=
  char == ' ' || char == '\n' || char == '\t' || char == '\r'

def skipBlanks (text : Text) : Text := text.dropWhile isBlank

def readWord : (word : Text) → Text → Except Fault Text
  | [], text => .ok text
  | _ :: _, [] => .error (.before .unfinishedValue [])
  | expected :: word, char :: rest =>
      if expected = char then readWord word rest
      else .error (.onNext .unknownWord (char :: rest))

/-! ## Strings -/

/-- Four hexadecimal digits. A fault in them is placed after the four bytes. -/
def readHexQuad (text : Text) : Except Fault (Nat × Text) :=
  match nat? 16 (text.take 4) with
  | some code =>
      if text.drop 3 = [] then .error ⟨.unfinishedString, 0⟩ else .ok (code, text.drop 4)
  | none =>
      if byteSize text < 4 then .error ⟨.unfinishedString, 0⟩
      else .error ⟨.invalidEscape, byteSize text - 4⟩

def isHighSurrogate (code : Nat) : Bool := 0xD800 ≤ code && code ≤ 0xDBFF

def isLowSurrogate (code : Nat) : Bool := 0xDC00 ≤ code && code ≤ 0xDFFF

def readUnicodeEscape (text : Text) : Except Fault (Char × Text) := do
  let (first, rest) ← readHexQuad text
  if isLowSurrogate first then .error (.before .loneSurrogate rest)
  else if !isHighSurrogate first then .ok (Char.ofNat first, rest)
  else
    match rest with
    | [] => .error (.before .unfinishedString [])
    | '\\' :: rest =>
        match rest with
        | [] => .error (.before .unfinishedString [])
        | 'u' :: rest => do
            let (second, rest) ← readHexQuad rest
            if isLowSurrogate second then
              .ok (Char.ofNat (0x10000 + (first - 0xD800) * 0x400 + (second - 0xDC00)), rest)
            else .error (.before .loneSurrogate rest)
        | rest => .error (.onNext .unfinishedSurrogate rest)
    | rest => .error (.onNext .unfinishedSurrogate rest)

def shortEscape? : Char → Option Char
  | '"' => some '"'
  | '\\' => some '\\'
  | '/' => some '/'
  | 'b' => some '\x08'
  | 'f' => some '\x0c'
  | 'n' => some '\n'
  | 'r' => some '\r'
  | 't' => some '\t'
  | _ => none

def readEscape : Text → Except Fault (Char × Text)
  | [] => .error (.before .unfinishedString [])
  | 'u' :: rest => readUnicodeEscape rest
  | char :: rest =>
      match shortEscape? char with
      | some meant => .ok (meant, rest)
      | none => .error (.onNext .invalidEscape (char :: rest))

def isControl (char : Char) : Bool := char.toNat < 0x20

def readCharacters : (fuel : Nat) → Text → Except Fault (Text × Text)
  | 0, text => .error (.before .unfinishedString text)
  | _ + 1, [] => .error (.before .unfinishedString [])
  | fuel + 1, char :: rest =>
      if char = '"' then .ok ([], rest)
      else if char = '\\' then do
        let (meant, rest) ← readEscape rest
        let (others, rest) ← readCharacters fuel rest
        .ok (meant :: others, rest)
      else if isControl char then .error (.onNext .controlCharacter (char :: rest))
      else do
        let (others, rest) ← readCharacters fuel rest
        .ok (char :: others, rest)

def readString (text : Text) : Except Fault (Text × Text) :=
  readCharacters (text.length + 1) text

/-! ## Numbers -/

def greatestNatural : Nat := twoTo 64 - 1

def takeUpDigits (significand : Nat) : Text → Nat × Nat
  | [] => (significand, 0)
  | char :: digits =>
      let longer := significand * 10 + (char.toNat - 48)
      if longer ≤ greatestNatural then takeUpDigits longer digits
      else (significand, digits.length + 1)

def powerOfTen (power : Nat) : Binary64 :=
  (Binary64.ofNat? false (tenTo power)).getD (.zero false)

def timesPowerOfTen? (number : Binary64) (power : Int) : (steps : Nat) → Option Binary64
  | 0 => some number
  | steps + 1 =>
      if power.natAbs ≤ 308 then
        if 0 ≤ power then number.mul? (powerOfTen power.natAbs)
        else number.div? (powerOfTen power.natAbs)
      else if number.isZero then some number
      else if 0 ≤ power then none
      else do
        let smaller ← number.div? (powerOfTen 308)
        timesPowerOfTen? smaller (power + 308) steps

/-- The number with the given decimal significand and exponent: the significand is rounded, and
the product with the power of ten once more. Three steps down leave nothing but zero. -/
def real? (negative : Bool) (significand : Nat) (exponent : Int) : Option Binary64 := do
  let number ← Binary64.ofNat? negative significand
  timesPowerOfTen? number exponent 4

def readReal (negative : Bool) (significand : Nat) (exponent : Int) (rest : Text) :
    Except Fault (Number × Text) :=
  match real? negative significand exponent with
  | some number => .ok (.real number, rest)
  | none => .error (.before .numberOutOfRange rest)

def greatestExponent : Nat := twoTo 31 - 1

def readExponentDigits (exponent : Nat) : Text → Except Text Nat
  | [] => .ok exponent
  | char :: rest =>
      if isDigit char then
        let longer := exponent * 10 + (char.toNat - 48)
        if longer ≤ greatestExponent then readExponentDigits longer rest else .error rest
      else .ok exponent

def exponentSign : Text → Bool × Text
  | '+' :: rest => (false, rest)
  | '-' :: rest => (true, rest)
  | text => (false, text)

def readExponent (negative : Bool) (significand : Nat) (scale : Int) (text : Text) :
    Except Fault (Number × Text) :=
  let (down, digits) := exponentSign text
  match digits with
  | [] => .error (.before .unfinishedValue [])
  | char :: _ =>
      if !isDigit char then .error (.onNext .invalidNumber digits)
      else
        let rest := digits.dropWhile isDigit
        match readExponentDigits 0 digits with
        | .ok exponent =>
            readReal negative significand (if down then scale - exponent else scale + exponent)
              rest
        | .error after =>
            if significand ≠ 0 ∧ !down then .error (.before .numberOutOfRange after)
            else .ok (.real (.zero negative), rest)

def readFraction (negative : Bool) (significand : Nat) (scale : Int) (text : Text) :
    Except Fault (Number × Text) :=
  let digits := text.takeWhile isDigit
  let rest := text.dropWhile isDigit
  if digits.isEmpty then
    .error (.onNext (if text.isEmpty then .unfinishedValue else .invalidNumber) text)
  else
    let (longer, unread) := takeUpDigits significand digits
    let scale := scale - (digits.length - unread : Nat)
    match rest with
    | 'e' :: rest | 'E' :: rest => readExponent negative longer scale rest
    | _ => readReal negative longer scale rest

def integer? (negative : Bool) (significand : Nat) : Option Int :=
  if !negative then some significand
  else if 0 < significand ∧ significand ≤ twoTo 63 then some (-(significand : Int))
  else none

def readAfterWhole (negative : Bool) (significand unread : Nat) (rest : Text) :
    Except Fault (Number × Text) :=
  match rest with
  | '.' :: rest => readFraction negative significand unread rest
  | 'e' :: rest | 'E' :: rest => readExponent negative significand unread rest
  | _ =>
      match if unread = 0 then integer? negative significand else none with
      | some value => .ok (.integer value, rest)
      | none => readReal negative significand unread rest

def readNumber (negative : Bool) (text : Text) : Except Fault (Number × Text) :=
  match text with
  | [] => .error (.before .unfinishedValue [])
  | '0' :: rest =>
      match rest with
      | next :: _ =>
          if isDigit next then .error (.onNext .invalidNumber rest)
          else readAfterWhole negative 0 0 rest
      | [] => readAfterWhole negative 0 0 rest
  | char :: _ =>
      if isDigit char then
        let (significand, unread) := takeUpDigits 0 (text.takeWhile isDigit)
        readAfterWhole negative significand unread (text.dropWhile isDigit)
      else .error (.onNext .invalidNumber text)

end MetaConfig.Json
