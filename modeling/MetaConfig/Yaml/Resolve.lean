import MetaConfig.Binary64.Print
import MetaConfig.Powers
import MetaConfig.Text.Quoted

/-!
What a plain scalar without a type stands for: nothing, a boolean, an integer, a fraction, or
its own text.
-/

namespace MetaConfig.Yaml

open Text

inductive Fraction where
  | finite (value : Binary64)
  | infinite (negative : Bool)
  | notANumber

inductive Resolved where
  | absent
  | boolean (value : Bool)
  | integer (value : Int)
  | fraction (value : Fraction)
  | string (text : Text)

def isNullWord (text : Text) : Bool :=
  ["null".toList, "Null".toList, "NULL".toList, "~".toList].contains text

def boolean? (text : Text) : Option Bool :=
  if ["true".toList, "True".toList, "TRUE".toList].contains text then some true
  else if ["false".toList, "False".toList, "FALSE".toList].contains text then some false
  else none

/-! ## Integers -/

def isSign (char : Char) : Bool := char == '+' || char == '-'

def withoutPlus : Text → Text
  | '+' :: rest => rest
  | text => text

def hasLeadingZero (text : Text) : Bool :=
  let digits := if text.head?.any isSign then text.drop 1 else text
  1 < digits.length && digits.head? == some '0' && digits.all isDigit

def inBase? (text : Text) : Option Nat :=
  match text with
  | '0' :: 'x' :: digits => nat? 16 digits
  | '0' :: 'o' :: digits => nat? 8 digits
  | '0' :: 'b' :: digits => nat? 2 digits
  | _ => none

def natural? (bound : Nat) (text : Text) : Option Nat :=
  let unsigned := withoutPlus text
  let number? :=
    (inBase? unsigned).orElse fun _ => if hasLeadingZero text then none else nat? 10 unsigned
  number?.filter (· < bound)

def negative? (bound : Nat) (text : Text) : Option Int :=
  match text with
  | '-' :: unsigned =>
      let number? :=
        (inBase? unsigned).orElse fun _ => if hasLeadingZero text then none else nat? 10 unsigned
      (number?.filter (· ≤ bound)).map fun number => -(number : Int)
  | _ => none

def integer? (text : Text) : Option Int :=
  ((natural? (twoTo 128) text).map Int.ofNat).orElse fun _ => negative? (twoTo 127) text

/-! ## Fractions -/

def exponent? (text : Text) : Option Int :=
  match text with
  | '-' :: digits => (nat? 10 digits).map fun power => -(power : Int)
  | _ => (nat? 10 (withoutPlus text)).map Int.ofNat

/-- Beyond this many places a number is too large, or so small that it counts as zero. -/
def exponentLimit : Nat := 400

def nearest? (negative : Bool) (digits : Text) (exponent : Int) : Option Binary64 := do
  let significand ← nat? 10 digits
  let power := exponent + (ofNat significand).length
  if significand = 0 ∨ power < -exponentLimit then some (.zero negative)
  else if exponentLimit < power then none
  else Binary64.ofRatio? negative (Binary64.Digits.toRatio ⟨significand, exponent⟩)

def unsignedDecimal? (negative : Bool) (text : Text) : Option Binary64 := do
  let whole := text.takeWhile isDigit
  let afterWhole := text.dropWhile isDigit
  let (fraction, rest) :=
    match afterWhole with
    | '.' :: rest => (rest.takeWhile isDigit, rest.dropWhile isDigit)
    | rest => ([], rest)
  let exponent ←
    match rest with
    | [] => some 0
    | 'e' :: power | 'E' :: power => exponent? power
    | _ => none
  nearest? negative (whole ++ fraction) (exponent - fraction.length)

def fraction? (text : Text) : Option Fraction :=
  let infinities := [".inf".toList, ".Inf".toList, ".INF".toList]
  if infinities.contains (withoutPlus text) then some (.infinite false)
  else if text.head? = some '-' ∧ infinities.contains (text.drop 1) then some (.infinite true)
  else if [".nan".toList, ".NaN".toList, ".NAN".toList].contains text then some .notANumber
  else
    match text with
    | '-' :: unsigned => (unsignedDecimal? true unsigned).map .finite
    | _ => (unsignedDecimal? false (withoutPlus text)).map .finite

def Fraction.print : Fraction → Text
  | finite value => value.printPositional
  | infinite false => "inf".toList
  | infinite true => "-inf".toList
  | notANumber => "NaN".toList

def resolve (text : Text) : Resolved :=
  if text.isEmpty || isNullWord text then .absent
  else
    match boolean? text, integer? text with
    | some value, _ => .boolean value
    | none, some value => .integer value
    | none, none =>
        match if hasLeadingZero text then none else fraction? text with
        | some value => .fraction value
        | none => .string text

def describeInteger (value : Int) : Text :=
  let size :=
    if value < -(twoTo 63 : Int) then " as i128" else if value < twoTo 64 then "" else " as u128"
  "integer `".toList ++ ofInt value ++ "`".toList ++ size.toList

def Resolved.describe : Resolved → Text
  | absent => "unit value".toList
  | boolean true => "boolean `true`".toList
  | boolean false => "boolean `false`".toList
  | integer value => describeInteger value
  | fraction value => "floating point `".toList ++ value.print ++ "`".toList
  | string text => "string ".toList ++ quoted text

end MetaConfig.Yaml
