import TaskNetwork.Encoder
import TaskNetwork.Term.Basic

/-!
# Terms as JSON and as text

A term is encoded as a name with its kind, and a list as the array of its elements, one level
deeper. A call is shown by its text, in which a list reads `(a b)`, an improper one `(a . b)` and a
call `(call f a)`.
-/

namespace TaskNetwork

namespace Term

/-- The text of a term without parts. -/
def atomText (enc : Encoder) : Term → String
  | var i => enc.variableName i
  | const i => enc.symbols.resolve .constant i
  | num x => x.plain
  | _ => "nil"

mutual

def text (enc : Encoder) : Term → String
  | cons head tail => "(" ++ head.text enc ++ tail.tailText enc ++ ")"
  | call f args => "(call " ++ f ++ argsText enc args ++ ")"
  | t => t.atomText enc

/-- What follows the items of a list before this tail. -/
def tailText (enc : Encoder) : Term → String
  | cons head tail => " " ++ head.text enc ++ tail.tailText enc
  | nil => ""
  | call f args => " . (call " ++ f ++ argsText enc args ++ ")"
  | t => " . " ++ t.atomText enc

def argsText (enc : Encoder) : List Term → String
  | [] => ""
  | t :: rest => " " ++ t.text enc ++ argsText enc rest

end

/-- The node of a term that has no elements. -/
def leafAt (enc : Encoder) (depth : Nat) (t : Term) : Json :=
  if enc.allows depth then
    match t with
    | var i => Encoder.named (enc.variableName i) "Variable"
    | const i => Encoder.named (enc.symbols.resolve .constant i) "Constant"
    | num x =>
      if x.isFinite then Encoder.named x.plain "Number" else (Fault.nonFiniteNumber x).node
    | call f args => Encoder.named (text enc (call f args)) "Call"
    | nil | cons _ _ => .arr []
  else enc.tooDeep

mutual

def encodeAt (enc : Encoder) (depth : Nat) : Term → Json
  | cons head tail =>
    if enc.allows depth then .arr (head.encodeAt enc (depth + 1) :: tail.elementsAt enc depth)
    else enc.tooDeep
  | t => t.leafAt enc depth

/-- The nodes of the elements of a list that is itself at this depth. -/
def elementsAt (enc : Encoder) (depth : Nat) : Term → List Json
  | cons head tail => head.encodeAt enc (depth + 1) :: tail.elementsAt enc depth
  | nil => []
  | t => [t.leafAt enc (depth + 1)]

end

/-- A term in parameter position: always an array, with a single term as its only element. -/
def parametersAt (enc : Encoder) (depth : Nat) (t : Term) : Json := .arr (t.elementsAt enc depth)

def encode (enc : Encoder) (t : Term) : Json := t.encodeAt enc 0

def parameters (enc : Encoder) (t : Term) : Json := t.parametersAt enc 0

theorem elementsAt_eq_map (enc : Encoder) (depth : Nat) (t : Term) :
    t.elementsAt enc depth = t.elements.map (encodeAt enc (depth + 1)) := by
  induction t using Term.rec (motive_2 := fun _ => True) with
  | cons head tail _ ih => simpa [elementsAt, elements, heads, ending?] using ih
  | _ => trivial

end Term

/-- A predicate whose head is a symbol of the given category. -/
def Predicate.encodeAt (enc : Encoder) (c : Category) (depth : Nat) (p : Predicate) : Json :=
  if enc.allows depth then
    .obj [("name", .str (enc.symbolName c p.head)), ("parameters", p.params.parametersAt enc depth),
      ("type", .str "predicate")]
  else enc.tooDeep

end TaskNetwork
