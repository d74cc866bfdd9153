import TaskNetwork.Binary64.Shortest
import TaskNetwork.Schema.Error
import TaskNetwork.Schema.Format

/-!
# Assertions

What a keyword says of a value without the help of other schemas. A value that the keyword is not
about is accepted.
-/

namespace TaskNetwork

/-- The fields that a schema object speaks of, by their keys or by patterns for them. -/
structure DeclaredFields where
  keys : List String := []
  patterns : List Pattern := []

def DeclaredFields.contains (d : DeclaredFields) (key : String) : Bool :=
  d.keys.contains key || d.patterns.any (·.occursIn key)

inductive Assertion where
  | type (kinds : List JsonKind)
  | enum (options : List Json)
  | const (value : Json)
  | required (keys : List String)
  /-- Fields that have to be there beside other ones. -/
  | requiredBeside (lists : List (String × List String))
  /-- No fields other than the declared ones. -/
  | closed (declared : DeclaredFields)
  | noFields
  /-- No items other than the first ones. -/
  | closedItems (count : Nat)
  | atLeast (measure : Measure) (count : Nat)
  | atMost (measure : Measure) (count : Nat)
  | uniqueItems
  | pattern (p : Pattern)
  | format (f : Format)
  | bounded (bound : Bound) (limit : Json)
  | multipleOf (divisor : Json)

/-- The size of a value, if it is one that has this kind of size. -/
def Measure.of? : Measure → Json → Option Nat
  | items, .arr values => some values.length
  | fields, .obj members => some members.length
  | characters, .str s => some s.length
  | _, _ => none

namespace Bound

/-- Is the first ratio less than the second one? -/
def below (a b : Int × Nat) : Bool := a.1 * b.2 < b.1 * a.2

/-- Is a number within the bound? -/
def admits : Bound → Int × Nat → Int × Nat → Bool
  | minimum, limit, value => !below value limit
  | exclusiveMinimum, limit, value => below limit value
  | maximum, limit, value => !below limit value
  | exclusiveMaximum, limit, value => below value limit

end Bound

namespace Json

/-- The shortest decimal of the double nearest to a number, as a ratio. -/
def decimalRatio (v : Json) : Int × Nat :=
  let ofDouble (x : Binary64) : Int × Nat :=
    if x.isZero then (0, 1)
    else
      let d := x.shortest .toEven
      let (num, den) := Binary64.timesPow 10 d.digits 1 d.exponent
      (if x.isNegative then -num else num, den)
  match v with
  | int i => ofDouble (.ofInt i)
  | float x => ofDouble x
  | _ => (0, 1)

/-- Is a number a multiple of another one? Where the divisor has a fraction, both are taken for the
decimals as which they are written. -/
def isMultipleOf (v divisor : Json) : Bool :=
  let divides (a b : Int × Nat) : Bool := (a.1 * b.2) % (a.2 * b.1) == 0
  match v.ratio?, divisor.ratio? with
  | some a, some b =>
    if b.1 % b.2 == 0 then divides a b else divides v.decimalRatio divisor.decimalRatio
  | _, _ => true

end Json

namespace Assertion

open Json

def holds : Assertion → Json → Bool
  | type kinds, v => kinds.any v.hasKind
  | enum options, v => options.any v.same
  | const value, v => v.same value
  | required keys, v => !v.isObject || keys.all v.keys.contains
  | requiredBeside lists, v =>
    lists.all fun (key, others) => !v.keys.contains key || others.all v.keys.contains
  | closed declared, v => v.keys.all declared.contains
  | noFields, v => v.keys.isEmpty
  | closedItems count, v => v.arr?.all (·.length ≤ count)
  | atLeast measure count, v => (measure.of? v).all (count ≤ ·)
  | atMost measure count, v => (measure.of? v).all (· ≤ count)
  | uniqueItems, v => v.arr?.all allDistinct
  | pattern p, v => v.str?.all p.occursIn
  | format f, v => v.str?.all f.accepts
  | bounded bound limit, v =>
    match limit.ratio?, v.ratio? with
    | some limit, some value => bound.admits limit value
    | _, _ => true
  | multipleOf divisor, v => v.isMultipleOf divisor

/-- What is wrong with a value of which the assertion does not hold. -/
def faults : Assertion → Json → List SchemaError
  | type kinds, v => [.wrongType v kinds]
  | enum options, v => [.notOption v options]
  | const value, _ => [.notConst value]
  | required keys, v => (keys.filter fun key => !v.keys.contains key).map .missing
  | requiredBeside lists, v =>
    lists.flatMap fun (key, others) =>
      if v.keys.contains key then
        (others.filter fun other => !v.keys.contains other).map .missing
      else []
  | closed declared, v => [.unexpectedFields (v.keys.filter fun key => !declared.contains key)]
  | noFields, obj ((_, first) :: _) => [.never first]
  | noFields, v => [.never v]
  | closedItems count, v => [.unexpectedItems ((v.arr?.getD []).drop count)]
  | atLeast measure count, v => [.tooSmall v measure count]
  | atMost measure count, v => [.tooLarge v measure count]
  | uniqueItems, v => [.repeatedItems v]
  | pattern p, v => [.noMatch v p.text]
  | format f, v => [.notOfFormat v f.label]
  | bounded bound limit, v => [.outOfBound v bound limit]
  | multipleOf divisor, v => [.notMultiple v divisor]

end Assertion

end TaskNetwork
