import MetaConfig.Json.Reader

/-!
Passing over a value whose content does not matter. Its form is checked, but numbers may have
any size, escapes any code and levels any depth.
-/

namespace MetaConfig.Json

open Text

def skipString : (fuel : Nat) → Text → Except Fault Text
  | 0, text => .error (.before .unfinishedString text)
  | _ + 1, [] => .error (.before .unfinishedString [])
  | fuel + 1, char :: rest =>
      if char = '"' then .ok rest
      else if char = '\\' then
        match rest with
        | [] => .error (.before .unfinishedString [])
        | 'u' :: rest => do
            let (_, rest) ← readHexQuad rest
            skipString fuel rest
        | escaped :: rest =>
            if (shortEscape? escaped).isSome then skipString fuel rest
            else .error (.onNext .invalidEscape (escaped :: rest))
      else if isControl char then .error (.before .controlCharacter (char :: rest))
      else skipString fuel rest

def skipExponent (text : Text) : Except Fault Text :=
  let digits :=
    match text with
    | '+' :: rest => rest
    | '-' :: rest => rest
    | _ => text
  match digits.takeWhile isDigit with
  | [] => .error (.onNext .invalidNumber digits)
  | _ => .ok (digits.dropWhile isDigit)

def skipAfterWhole (text : Text) : Except Fault Text :=
  match text with
  | '.' :: rest =>
      match rest.takeWhile isDigit with
      | [] => .error (.onNext .invalidNumber rest)
      | _ =>
          match rest.dropWhile isDigit with
          | 'e' :: rest | 'E' :: rest => skipExponent rest
          | rest => .ok rest
  | 'e' :: rest | 'E' :: rest => skipExponent rest
  | _ => .ok text

def skipNumber (text : Text) : Except Fault Text :=
  match text with
  | '0' :: rest =>
      match rest.takeWhile isDigit with
      | [] => skipAfterWhole rest
      | _ => .error (.onNext .invalidNumber rest)
  | _ =>
      match text.takeWhile isDigit with
      | [] => .error (.onNext .invalidNumber text)
      | _ => skipAfterWhole (text.dropWhile isDigit)

inductive Bracket where
  | list
  | object
  deriving DecidableEq, Repr

def Bracket.closing : Bracket → Char
  | list => ']'
  | object => '\x7d'

def Bracket.unfinished : Bracket → Reason
  | list => .unfinishedList
  | object => .unfinishedObject

def Bracket.missingComma : Bracket → Reason
  | list => .missingListComma
  | object => .missingObjectComma

def skipName (bracket : Bracket) (text : Text) : Except Fault Text :=
  match bracket with
  | .list => .ok text
  | .object =>
      match skipBlanks text with
      | [] => .error (.onNext .unfinishedObject [])
      | '"' :: rest => do
          let rest ← skipString (rest.length + 1) rest
          readColon rest
      | rest => .error (.onNext .nameNotString rest)

mutual

def skipInside : (fuel : Nat) → List Bracket → Text → Except Fault Text
  | 0, _, text => .error (.before .nestingTooDeep text)
  | fuel + 1, brackets, text =>
      match skipBlanks text with
      | [] => .error (.onNext .unfinishedValue [])
      | char :: rest =>
          if char = 'n' then do
            skipAfter fuel brackets true (← readWord ['u', 'l', 'l'] rest)
          else if char = 't' then do
            skipAfter fuel brackets true (← readWord ['r', 'u', 'e'] rest)
          else if char = 'f' then do
            skipAfter fuel brackets true (← readWord ['a', 'l', 's', 'e'] rest)
          else if char = '-' then do
            skipAfter fuel brackets true (← skipNumber rest)
          else if isDigit char then do
            skipAfter fuel brackets true (← skipNumber (char :: rest))
          else if char = '"' then do
            skipAfter fuel brackets true (← skipString (rest.length + 1) rest)
          else if char = '[' then skipAfter fuel (.list :: brackets) false rest
          else if char = '\x7b' then skipAfter fuel (.object :: brackets) false rest
          else .error (.onNext .missingValue (char :: rest))

def skipAfter : (fuel : Nat) → List Bracket → (afterValue : Bool) → Text → Except Fault Text
  | 0, _, _, text => .error (.before .nestingTooDeep text)
  | _ + 1, [], _, text => .ok text
  | fuel + 1, bracket :: outer, afterValue, text =>
      match skipBlanks text with
      | [] => .error (.onNext bracket.unfinished [])
      | char :: rest =>
          if char = ',' ∧ afterValue then do
            skipInside fuel (bracket :: outer) (← skipName bracket rest)
          else if char = bracket.closing then skipAfter fuel outer true rest
          else if afterValue then .error (.onNext bracket.missingComma (char :: rest))
          else do
            skipInside fuel (bracket :: outer) (← skipName bracket (char :: rest))

end

def skipValue (text : Text) : Except Fault Text := skipInside (2 * text.length + 2) [] text

end MetaConfig.Json
