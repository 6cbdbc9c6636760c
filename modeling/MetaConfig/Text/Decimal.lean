import MetaConfig.Text.Basic

/-!
Numbers written in base ten and base sixteen, and single digits read back.
-/

namespace MetaConfig.Text

def ofNat (number : Nat) : Text := Nat.toDigits 10 number

def ofInt (number : Int) : Text :=
  if number < 0 then '-' :: ofNat number.natAbs else ofNat number.natAbs

def ofNatHex (number : Nat) : Text := Nat.toDigits 16 number

def isDigit (char : Char) : Bool := '0' ≤ char && char ≤ '9'

def digit? (base : Nat) (char : Char) : Option Nat :=
  let value? :=
    if '0' ≤ char ∧ char ≤ '9' then some (char.toNat - 48)
    else if 'a' ≤ char ∧ char ≤ 'f' then some (char.toNat - 87)
    else if 'A' ≤ char ∧ char ≤ 'F' then some (char.toNat - 55)
    else none
  value?.filter (· < base)

def nat? (base : Nat) (text : Text) : Option Nat :=
  if text.isEmpty then none
  else text.foldlM (fun value char => (digit? base char).map (value * base + ·)) 0

end MetaConfig.Text
