import TaskNetwork.Json.Basic

/-!
# Numbers of a JSON text

A number without point and exponent that fits into 64 bits is a whole number. Every other one is
read as a significand of at most 64 bits and a power of ten: the significand is rounded to a double,
and so is each product or quotient by a power of ten after it.
-/

namespace TaskNetwork

namespace Binary64

/-- The largest exponent whose power of ten is a finite double. -/
def maxPowerOfTen : Nat := 308

/-- A number that is not negative, divided by `10 ^ e` in steps that a double can hold. -/
def scaleDown (x : Binary64) (e : Nat) : Binary64 :=
  if e ≤ maxPowerOfTen then x.div (ofNat (Nat.pow 10 e))
  else if x.isZero then x
  else scaleDown (x.div (ofNat (Nat.pow 10 maxPowerOfTen))) (e - maxPowerOfTen)
termination_by e
decreasing_by simp only [maxPowerOfTen] at *; omega

/-- The double for `significand * Nat.pow 10 exponent`; none when it is too large. -/
def ofDecimal? (significand : Nat) : Int → Option Binary64
  | .ofNat e =>
    if e ≤ maxPowerOfTen then
      let product := (ofNat significand).mul (ofNat (Nat.pow 10 e))
      if product.isFinite then some product else none
    else if significand = 0 then some zero
    else none
  | .negSucc e => some ((ofNat significand).scaleDown (e + 1))

end Binary64

namespace Json

def digitValue (c : Char) : Nat := c.toNat - '0'.toNat

/-- Digits appended to a significand while it fits into 64 bits, with the number of digits that are
left out. -/
def absorb (significand : Nat) : List Char → Nat × Nat
  | [] => (significand, 0)
  | c :: rest =>
    let next := significand * 10 + digitValue c
    if next < UInt64.size then absorb next rest else (significand, rest.length + 1)

/-- The number written without point or exponent, from its sign and its digits without it. -/
def ofInteger (negative : Bool) (significand : Nat) : Json :=
  if !negative then int significand
  else if significand = 0 ∨ UInt64.size < 2 * significand then
    float (Binary64.ofNat significand).neg
  else int (-significand)

end Json

end TaskNetwork
