import TaskNetwork.Binary64.Basic

/-!
# The fewest digits that read back

The reals that round to a double form an interval around it. Its shortest decimal is the point of
the coarsest power-of-ten grid that falls into the interval, and of two such points the nearer one.
All tests are comparisons of natural numbers.
-/

namespace TaskNetwork

/-- The number `digits * 10 ^ exponent`. -/
structure Decimal where
  digits : Nat
  exponent : Int
deriving DecidableEq

/-- Where a decimal exactly between two grid points goes. -/
inductive Tie where
  | up
  | toEven

namespace Binary64

/-- The reals that round to a positive double, as numerators over one denominator. The end points
belong to the interval exactly when the significand is even. -/
structure Interval where
  low : Nat
  value : Nat
  high : Nat
  den : Nat
  closed : Bool

/-- In quarters of a unit in the last place. Below a power of two the next double is nearer. -/
def interval (x : Binary64) : Interval :=
  let m := x.significand
  let below := if x.fraction = 0 ∧ 1 < x.exponentField then 1 else 2
  let (unit, den) := timesPow 2 1 1 (x.scale - 2)
  ⟨(4 * m - below) * unit, 4 * m * unit, (4 * m + 2) * unit, den, m % 2 = 0⟩

namespace Interval

/-- Is `c * 10 ^ k` in the interval? -/
def contains (i : Interval) (c : Nat) (k : Int) : Bool :=
  let (num, den) := timesPow 10 c 1 k
  if i.closed then i.low * den ≤ num * i.den && num * i.den ≤ i.high * den
  else i.low * den < num * i.den && num * i.den < i.high * den

/-- The greatest multiple of `10 ^ k` up to the value, in units of `10 ^ k`. -/
def floor (i : Interval) (k : Int) : Nat :=
  let (num, den) := timesPow 10 i.value i.den (-k)
  num / den

/-- Is the grid point above the value the better of its two neighbours? -/
def prefersAbove (i : Interval) (tie : Tie) (k : Int) : Bool :=
  let below := i.floor k
  let (num, den) := timesPow 10 i.value i.den (-k)
  let middle := (2 * below + 1) * den
  if 2 * num = middle then
    match tie with
    | .up => true
    | .toEven => below % 2 = 1
  else middle < 2 * num

/-- The point of the grid `10 ^ k` that stands for the value, if one does. -/
def point? (i : Interval) (tie : Tie) (k : Int) : Option Decimal :=
  let below := i.floor k
  let lowerHit := 0 < below && i.contains below k
  let upperHit := i.contains (below + 1) k
  if upperHit && (!lowerHit || i.prefersAbove tie k) then some ⟨below + 1, k⟩
  else if lowerHit then some ⟨below, k⟩
  else none

/-- An exponent of ten above the value and at most a factor of a hundred away. -/
def magnitude (i : Interval) : Int :=
  if i.den ≤ i.value then (Nat.toDigits 10 (i.value / i.den)).length
  else 1 - ((Nat.toDigits 10 (i.den / i.value)).length : Int)

end Interval

/-- The shortest decimal of a positive finite double: no double needs more than 17 digits, and the
first grids of the search are too coarse for any. -/
def shortest (x : Binary64) (tie : Tie) : Decimal :=
  let i := x.interval
  ((List.range 20).findSome? fun (n : Nat) => i.point? tie (i.magnitude + 1 - n)).getD ⟨0, 0⟩

end Binary64

end TaskNetwork
