import TaskNetwork.Binary64.Shortest

/-!
# Numbers as text

Two notations over the shortest decimal: `plain`, which never uses an exponent, and `scientific`,
which does so for very large and very small numbers.
-/

namespace TaskNetwork

namespace Decimal

/-- The digits without their point. -/
def numeral (d : Decimal) : List Char := Nat.toDigits 10 d.digits

/-- The power of ten of the leading digit. -/
def leading (d : Decimal) : Int := d.numeral.length + d.exponent - 1

/-- Positional notation, with a point only where there are places after it. -/
def positional (d : Decimal) : List Char :=
  match d.exponent with
  | .ofNat k => d.numeral ++ List.replicate k '0'
  | .negSucc k =>
    let places := k + 1
    let digits := d.numeral
    if places < digits.length then
      digits.take (digits.length - places) ++ '.' :: digits.drop (digits.length - places)
    else '0' :: '.' :: (List.replicate (places - digits.length) '0' ++ digits)

/-- One digit before the point and a signed exponent. -/
def exponential (d : Decimal) : List Char :=
  let mantissa :=
    match d.numeral with
    | first :: second :: rest => first :: '.' :: second :: rest
    | digits => digits
  let sign := if d.leading < 0 then '-' else '+'
  mantissa ++ 'e' :: sign :: Nat.toDigits 10 d.leading.natAbs

end Decimal

namespace Binary64

def withSign (x : Binary64) (digits : List Char) : List Char :=
  if x.isNegative then '-' :: digits else digits

/-- The shortest digits in positional notation: a whole number has no point. -/
def plain (x : Binary64) : String :=
  if x.isNaN then "NaN"
  else if !x.isFinite then String.ofList (x.withSign "inf".toList)
  else if x.isZero then String.ofList (x.withSign ['0'])
  else String.ofList (x.withSign (x.shortest .up).positional)

/-- The shortest digits, with an exponent outside `1e-5` to `1e15` and with a point inside: a whole
number ends in `.0`. -/
def scientific (x : Binary64) : List Char :=
  if x.isZero then x.withSign "0.0".toList
  else
    let d := x.shortest .toEven
    x.withSign <|
      if d.leading < -5 ∨ 15 < d.leading then d.exponential
      else if d.exponent < 0 then d.positional
      else d.positional ++ ['.', '0']

end Binary64

end TaskNetwork
