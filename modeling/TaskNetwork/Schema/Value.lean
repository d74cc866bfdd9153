import TaskNetwork.Json.Basic

/-!
# Values as schemas see them

A schema tells values apart by their kind, and does not tell apart two numbers that count the same,
however they are written. All comparisons of numbers are exact.
-/

namespace TaskNetwork

/-- The kinds of values, in the order in which they are listed. -/
inductive JsonKind where
  | array
  | boolean
  /-- A number without a fraction. -/
  | integer
  /-- A number that is written without a fraction. -/
  | integerLiteral
  | null
  | number
  | object
  | string
deriving DecidableEq

namespace JsonKind

def label : JsonKind → String
  | array => "array"
  | boolean => "boolean"
  | integer | integerLiteral => "integer"
  | null => "null"
  | number => "number"
  | object => "object"
  | string => "string"

/-- A kind for every label. -/
def all : List JsonKind := [array, boolean, integer, null, number, object, string]

end JsonKind

namespace Binary64

/-- A finite number as a numerator and a denominator. -/
def signedRatio (x : Binary64) : Int × Nat :=
  let (num, den) := x.ratio
  (if x.isNegative then -num else num, den)

/-- Is the number finite and without a fraction? -/
def isWhole (x : Binary64) : Bool := x.isFinite && x.ratio.1 % x.ratio.2 == 0

def equalsInt (x : Binary64) (i : Int) : Bool :=
  x.isFinite && x.signedRatio.1 == i * x.signedRatio.2

end Binary64

namespace Json

/-- The number that a value is, as a numerator and a denominator. -/
def ratio? : Json → Option (Int × Nat)
  | int i => some (i, 1)
  | float x => if x.isFinite then some x.signedRatio else none
  | _ => none

mutual

/-- Equality of values, for which a number is what it counts and not how it is written. -/
def same : Json → Json → Bool
  | null, null => true
  | bool a, bool b => a == b
  | int i, int j => i == j
  | float x, float y => x.equal y
  | int i, float y => y.equalsInt i
  | float x, int j => x.equalsInt j
  | str s, str t => s == t
  | arr items, arr items' => sameItems items items'
  | obj fields, obj fields' => sameFields fields fields'
  | _, _ => false

def sameItems : List Json → List Json → Bool
  | [], [] => true
  | v :: rest, w :: rest' => v.same w && sameItems rest rest'
  | _, _ => false

def sameFields : List (String × Json) → List (String × Json) → Bool
  | [], [] => true
  | (k, v) :: rest, (k', w) :: rest' => k == k' && v.same w && sameFields rest rest'
  | _, _ => false

end

/-- Are no two of the values the same? -/
def allDistinct : List Json → Bool
  | [] => true
  | v :: rest => !rest.any v.same && allDistinct rest

def hasKind : Json → JsonKind → Bool
  | null, .null => true
  | bool _, .boolean => true
  | int _, .number | int _, .integer | int _, .integerLiteral => true
  | float _, .number => true
  | float x, .integer => x.isWhole
  | str _, .string => true
  | arr _, .array => true
  | obj _, .object => true
  | _, _ => false

/-- The keys of an object. -/
def keys : Json → List String
  | obj fields => fields.map Prod.fst
  | _ => []

theorem mem_keys_iff (v : Json) (key : String) : key ∈ v.keys ↔ (v.get? key).isSome = true := by
  cases v with
  | obj fields =>
    simp only [keys, get?_obj]
    induction fields with
    | nil => simp
    | cons field rest ih =>
      obtain ⟨k, w⟩ := field
      by_cases h : key = k
      · simp [h]
      · have hne : (key == k) = false := by simp [h]
        simp [List.lookup_cons, h, hne, ih]
  | _ => simp [keys, get?]

def isObject : Json → Bool
  | obj _ => true
  | _ => false

end Json

end TaskNetwork
