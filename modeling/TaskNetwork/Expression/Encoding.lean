import TaskNetwork.Expression.Variables
import TaskNetwork.Term.Encoding

/-!
# Expressions as JSON

The operands of an expression are one level deeper than the expression; a predicate is on the level
of the expression that it is. A conjunction of two operands has a left and a right one, a longer one
a list.
-/

namespace TaskNetwork

namespace Expression

/-- A conjunction of nodes. -/
def conjunctionNode : List Json → Json
  | [left, right] => .obj [("left", left), ("right", right), ("type", .str "and")]
  | operands =>
    if operands.length < 2 then (Fault.tooFewOperands "conjunction" operands.length).node
    else .obj [("conjuncts", .arr operands), ("type", .str "and")]

/-- A disjunction of nodes. -/
def disjunctionNode (operands : List Json) : Json :=
  if operands.length < 2 then (Fault.tooFewOperands "disjunction" operands.length).node
  else .obj [("disjuncts", .arr operands), ("type", .str "or")]

mutual

def encodeAt (enc : Encoder) (depth : Nat) (e : Expression) : Json :=
  if enc.allows depth then
    match e with
    | atom p => p.encodeAt enc .constant depth
    | and operands => conjunctionNode (encodeListAt enc (depth + 1) operands)
    | or operands => disjunctionNode (encodeListAt enc (depth + 1) operands)
    | not e => .obj [("expression", e.encodeAt enc (depth + 1)), ("type", .str "not")]
    | all premise consequence =>
      .obj [("expression", premise.encodeAt enc (depth + 1)),
        ("predicates", consequence.encodeAt enc (depth + 1)), ("type", .str "forall"),
        ("variables", enc.variableNodes premise.distinctVars)]
    | call f args =>
      .obj [("arguments", .arr (args.map (Term.encodeAt enc (depth + 1)))), ("function", .str f),
        ("type", .str "call")]
    | assign i value =>
      .obj [("function", .str (enc.variableName i)), ("operation", .str "assign"),
        ("type", .str "assignment"), ("value", value.encodeAt enc (depth + 1))]
    | nil => .obj [("type", .str "nil")]
    | unknown kind => .obj [("kind", .str kind), ("type", .str "unknown")]
  else enc.tooDeep

def encodeListAt (enc : Encoder) (depth : Nat) : List Expression → List Json
  | [] => []
  | e :: rest => e.encodeAt enc depth :: encodeListAt enc depth rest

end

def encode (enc : Encoder) (e : Expression) : Json := e.encodeAt enc 0

/-- A precondition, which is null only if there is none. -/
def encodeOption (enc : Encoder) : Option Expression → Json
  | none => .null
  | some e => e.encode enc

theorem encodeListAt_eq_map (enc : Encoder) (depth : Nat) (es : List Expression) :
    encodeListAt enc depth es = es.map (encodeAt enc depth) := by
  induction es with
  | nil => rfl
  | cons e rest ih => simp [encodeListAt, ih]

theorem exists_encodeAt_eq_obj (enc : Encoder) (depth : Nat) (e : Expression) :
    ∃ fields, e.encodeAt enc depth = .obj fields := by
  unfold encodeAt
  split
  · cases e with
    | atom p =>
      simp only [Predicate.encodeAt]
      split <;> exact ⟨_, rfl⟩
    | and operands =>
      simp only [conjunctionNode]
      split
      · exact ⟨_, rfl⟩
      · split <;> exact ⟨_, rfl⟩
    | or operands =>
      simp only [disjunctionNode]
      split <;> exact ⟨_, rfl⟩
    | _ => exact ⟨_, rfl⟩
  · exact ⟨_, rfl⟩

theorem encodeOption_eq_null_iff {enc : Encoder} {e : Option Expression} :
    encodeOption enc e = .null ↔ e = none := by
  cases e with
  | none => simp [encodeOption]
  | some e =>
    obtain ⟨fields, h⟩ := e.exists_encodeAt_eq_obj enc 0
    simp [encodeOption, encode, h]

end Expression

end TaskNetwork
