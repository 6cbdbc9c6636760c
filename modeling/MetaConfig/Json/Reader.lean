import MetaConfig.Json.Lexeme

/-!
Reading a JSON text as a value. Lists and objects may stand in one another up to 127 levels.
-/

namespace MetaConfig.Json

/-- One level more than may be open at a time. -/
def nestingLimit : Nat := 128

def nextItem (first : Bool) (text : Text) : Except Fault (Bool × Text) :=
  match skipBlanks text with
  | [] => .error (.onNext .unfinishedList [])
  | ']' :: rest => .ok (false, rest)
  | char :: rest =>
      if first then .ok (true, char :: rest)
      else if char = ',' then
        match skipBlanks rest with
        | [] => .error (.onNext .unfinishedValue [])
        | ']' :: rest => .error (.onNext .trailingComma (']' :: rest))
        | rest => .ok (true, rest)
      else .error (.onNext .missingListComma (char :: rest))

def nextName (first : Bool) (text : Text) : Except Fault (Bool × Text) :=
  match skipBlanks text with
  | [] => .error (.onNext .unfinishedObject [])
  | '\x7d' :: rest => .ok (false, rest)
  | char :: rest =>
      if first then
        if char = '"' then .ok (true, rest)
        else .error (.onNext .nameNotString (char :: rest))
      else if char = ',' then
        match skipBlanks rest with
        | [] => .error (.onNext .unfinishedValue [])
        | '"' :: rest => .ok (true, rest)
        | '\x7d' :: rest => .error (.onNext .trailingComma ('\x7d' :: rest))
        | rest => .error (.onNext .nameNotString rest)
      else .error (.onNext .missingObjectComma (char :: rest))

def readColon (text : Text) : Except Fault Text :=
  match skipBlanks text with
  | [] => .error (.onNext .unfinishedObject [])
  | ':' :: rest => .ok rest
  | rest => .error (.onNext .missingColon rest)

def readEnd (text : Text) : Except Fault Unit :=
  match skipBlanks text with
  | [] => .ok ()
  | rest => .error (.onNext .trailingCharacters rest)

def readScalar? (text : Text) : Except Fault (Option (Value × Text)) :=
  match text with
  | [] => .error (.onNext .unfinishedValue [])
  | char :: rest =>
      if char = '[' ∨ char = '\x7b' then .ok none
      else if char = 'n' then do
        let rest ← readWord ['u', 'l', 'l'] rest
        .ok (some (.null, rest))
      else if char = 't' then do
        let rest ← readWord ['r', 'u', 'e'] rest
        .ok (some (.boolean true, rest))
      else if char = 'f' then do
        let rest ← readWord ['a', 'l', 's', 'e'] rest
        .ok (some (.boolean false, rest))
      else if char = '"' then do
        let (string, rest) ← readString rest
        .ok (some (.string string, rest))
      else if char = '-' then do
        let (number, rest) ← readNumber true rest
        .ok (some (.number number, rest))
      else if Text.isDigit char then do
        let (number, rest) ← readNumber false text
        .ok (some (.number number, rest))
      else .error (.onNext .missingValue text)

mutual

def readValue : (fuel levels : Nat) → Text → Except Fault (Value × Text)
  | 0, _, text => .error (.before .nestingTooDeep text)
  | fuel + 1, levels, text =>
      let text := skipBlanks text
      match readScalar? text with
      | .error fault => .error fault
      | .ok (some scalar) => .ok scalar
      | .ok none =>
          match levels with
          | 0 | 1 => .error (.onNext .nestingTooDeep text)
          | levels + 2 =>
              match text with
              | '[' :: rest => do
                  let (items, rest) ← readItems fuel (levels + 1) true rest
                  .ok (.array items, rest)
              | text => do
                  let (members, rest) ← readMembers fuel (levels + 1) true (text.drop 1)
                  .ok (.ofMembers members, rest)

def readItems : (fuel levels : Nat) → (first : Bool) → Text →
    Except Fault (List Value × Text)
  | 0, _, _, text => .error (.before .nestingTooDeep text)
  | fuel + 1, levels, first, text => do
      let (more, rest) ← nextItem first text
      if more then
        let (item, rest) ← readValue fuel levels rest
        let (items, rest) ← readItems fuel levels false rest
        .ok (item :: items, rest)
      else .ok ([], rest)

def readMembers : (fuel levels : Nat) → (first : Bool) → Text →
    Except Fault (List (Text × Value) × Text)
  | 0, _, _, text => .error (.before .nestingTooDeep text)
  | fuel + 1, levels, first, text => do
      let (more, rest) ← nextName first text
      if more then
        let (name, rest) ← readString rest
        let rest ← readColon rest
        let (value, rest) ← readValue fuel levels rest
        let (members, rest) ← readMembers fuel levels false rest
        .ok ((name, value) :: members, rest)
      else .ok ([], rest)

end

def Value.read (source : Text) : Except Fault Value := do
  let (value, rest) ← readValue (2 * source.length + 2) nestingLimit source
  readEnd rest
  .ok value

end MetaConfig.Json
