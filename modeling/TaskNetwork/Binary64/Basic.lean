/-!
# Double-precision numbers

A number is its 64 bits: a sign, eleven bits of exponent and 52 bits of fraction. Everything here is
exact arithmetic on natural numbers, so that a number read, compared or written can be reasoned
about. `ofRatio` rounds a ratio to the nearest double, a tie going to the even significand.
-/

namespace TaskNetwork

/-- A double-precision number, by its bits. -/
structure Binary64 where
  bits : UInt64
deriving DecidableEq

namespace Binary64

def signBit : UInt64 := 0x8000000000000000

/-- The place of the leading bit of a significand, above the bits of the fraction. -/
def leadingBit : Nat := 0x10000000000000

def isNegative (x : Binary64) : Bool := signBit.toNat ≤ x.bits.toNat

def exponentField (x : Binary64) : Nat := x.bits.toNat / leadingBit % 2048

def fraction (x : Binary64) : Nat := x.bits.toNat % leadingBit

def isFinite (x : Binary64) : Bool := x.exponentField != 2047

def isNaN (x : Binary64) : Bool := x.exponentField == 2047 && x.fraction != 0

def isZero (x : Binary64) : Bool := x.exponentField == 0 && x.fraction == 0

/-- The number without its sign is `significand * 2 ^ scale`, when it is finite. -/
def significand (x : Binary64) : Nat :=
  if x.exponentField = 0 then x.fraction else leadingBit + x.fraction

def scale (x : Binary64) : Int := max (x.exponentField : Int) 1 - 1075

/-- Numeric equality: not-a-number differs from everything and both zeros are equal. -/
def equal (x y : Binary64) : Bool :=
  !x.isNaN && !y.isNaN && (x.bits == y.bits || x.isZero && y.isZero)

def zero : Binary64 := ⟨0⟩

def infinity : Binary64 := ⟨0x7ff0000000000000⟩

/-- A value that is not a number. -/
def nan : Binary64 := ⟨0x7ff8000000000000⟩

def neg (x : Binary64) : Binary64 := ⟨x.bits ^^^ signBit⟩

/-- The ratio `num / den` times `base ^ k`, as a numerator and a denominator. -/
def timesPow (base num den : Nat) : Int → Nat × Nat
  | .ofNat k => (num * Nat.pow base k, den)
  | .negSucc k => (num, den * Nat.pow base (k + 1))

/-- The natural number nearest to `num / den`; a tie goes to the even one. -/
def roundDiv (num den : Nat) : Nat :=
  let q := num / den
  let twice := 2 * (num % den)
  if twice < den then q else if den < twice then q + 1 else q + q % 2

/-- The double `m * 2 ^ q`, for `m` up to twice the leading bit, and below it only at the least
scale. -/
def compose (m : Nat) (q : Int) : Binary64 :=
  let bits := if m < leadingBit then m else (q + 1075).toNat * leadingBit + (m - leadingBit)
  if bits < infinity.bits.toNat then ⟨.ofNat bits⟩ else infinity

/-- The double nearest to `num / den`, for a positive `den`. -/
def ofRatio (num den : Nat) : Binary64 :=
  if num = 0 then zero
  else
    let guess : Int := num.log2 - den.log2
    let (n, d) := timesPow 2 num den (-guess)
    let q := max ((if d ≤ n then guess else guess - 1) - 52) (-1074)
    let (n, d) := timesPow 2 num den (-q)
    compose (roundDiv n d) q

def ofNat (n : Nat) : Binary64 := ofRatio n 1

def ofInt : Int → Binary64
  | .ofNat n => ofNat n
  | .negSucc n => (ofNat (n + 1)).neg

/-- The number without its sign, as a numerator and a denominator. -/
def ratio (x : Binary64) : Nat × Nat := timesPow 2 x.significand 1 x.scale

/-- The rounded product of two finite numbers that are not negative. -/
def mul (x y : Binary64) : Binary64 :=
  ofRatio (x.ratio.1 * y.ratio.1) (x.ratio.2 * y.ratio.2)

/-- The rounded quotient of two finite numbers that are not negative, the second not zero. -/
def div (x y : Binary64) : Binary64 :=
  ofRatio (x.ratio.1 * y.ratio.2) (x.ratio.2 * y.ratio.1)

end Binary64

end TaskNetwork
