import TaskNetwork.Effect.Basic
import TaskNetwork.Expression.Encoding

/-!
# Effects as JSON

Both lists of an operator become one array, so every node shows its list: a deleted atom stands
inside a `not`, and every other effect names its list.
-/

namespace TaskNetwork

/-- A predicate as an effect. Inside a `not` it is one level deeper. -/
def Predicate.encodeEffectAt (enc : Encoder) (mode : EffectMode) (depth : Nat) (p : Predicate) :
    Json :=
  match mode with
  | .add => p.encodeAt enc .constant depth
  | .delete =>
    .obj [("expression", .arr [p.encodeAt enc .constant (depth + 1)]), ("type", .str "not")]

namespace Effect

def encodeAt (enc : Encoder) (mode : EffectMode) (depth : Nat) (e : Effect) : Json :=
  if enc.allows depth then
    match e with
    | atom p => p.encodeEffectAt enc mode depth
    | all premise templates =>
      .obj [("add_list", .bool mode.isAdd), ("expression", premise.encodeAt enc (depth + 1)),
        ("predicates", .arr (templates.map (Predicate.encodeEffectAt enc mode (depth + 1)))),
        ("type", .str "forall"), ("variables", enc.variableNodes premise.distinctVars)]
    | protect target =>
      .obj [("effect_type", .str mode.label),
        ("predicate", target.encodeAt enc .constant (depth + 1)), ("type", .str "protection")]
    | unknown kind =>
      .obj [("effect_type", .str mode.label), ("kind", .str kind), ("type", .str "unknown")]
  else enc.tooDeep

def encode (enc : Encoder) (mode : EffectMode) (e : Effect) : Json := e.encodeAt enc mode 0

end Effect

/-- The effects of an operator as one array, which is a level of its own. -/
def EffectLists.encode (enc : Encoder) (effects : EffectLists) : Json :=
  .arr (effects.entries.map fun (mode, e) => e.encodeAt enc mode 1)

end TaskNetwork
