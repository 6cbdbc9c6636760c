import MetaConfig.Binary64.Shortest

/-!
Numbers written with their shortest digits, in two layouts: with an exponent where the point
would stand far from the digits, and always with a point.
-/

namespace MetaConfig.Binary64

open Text

def placePoint (digits : Text) (whole : Int) : Text :=
  match whole with
  | .ofNat (whole + 1) =>
      let fraction := digits.drop (whole + 1)
      digits.take (whole + 1) ++ List.replicate (whole + 1 - digits.length) '0' ++ ['.'] ++
        (if fraction.isEmpty then ['0'] else fraction)
  | .ofNat 0 => ['0', '.'] ++ digits
  | .negSucc zeros => ['0', '.'] ++ List.replicate (zeros + 1) '0' ++ digits

def withExponent (digits : Text) (power : Int) : Text :=
  let fraction := if digits.length = 1 then [] else '.' :: digits.drop 1
  digits.take 1 ++ fraction ++ ['e', if power < 0 then '-' else '+'] ++ ofNat power.natAbs

def printWith (layout : Text → Int → Text) (number : Binary64) : Text :=
  let unsigned :=
    if number.isZero then ['0', '.', '0']
    else
      let digits := ofNat number.shortest.digits
      layout digits (number.shortest.exponent + (digits.length - 1 : Nat))
  if number.negative then '-' :: unsigned else unsigned

/-- There is an exponent if the power of ten of the first digit is less than -5 or greater
than 15. -/
def print : Binary64 → Text :=
  printWith fun digits power =>
    if power < -5 ∨ 15 < power then withExponent digits power else placePoint digits (power + 1)

def printPositional : Binary64 → Text :=
  printWith fun digits power => placePoint digits (power + 1)

end MetaConfig.Binary64
