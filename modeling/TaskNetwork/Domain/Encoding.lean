import TaskNetwork.Domain.Basic
import TaskNetwork.Effect.Encoding
import TaskNetwork.Task.Encoding

/-!
# Domains as JSON
-/

namespace TaskNetwork

/-- An operator, with a cost only if it has one. -/
def Operator.encode (enc : Encoder) (op : Operator) : Json :=
  let cost := op.cost.toList.map fun cost => ("cost", cost.encodeAt enc 1)
  .obj (cost ++
    [("effect", op.effects.encode enc), ("name", .str (enc.symbolName .primitiveTask op.head.head)),
      ("parameters", op.head.params.parameters enc),
      ("preconditions", Expression.encodeOption enc op.precondition)])

def MethodBranch.encode (enc : Encoder) (branch : MethodBranch) : Json :=
  .obj [("name", .str branch.label),
    ("preconditions", Expression.encodeOption enc branch.precondition),
    ("tasks", branch.tasks.encode enc)]

def Method.encode (enc : Encoder) (method : Method) : Json :=
  .obj [("methods", .arr (method.branches.map (MethodBranch.encode enc))),
    ("name", .str (enc.symbolName .compoundTask method.head.head)),
    ("parameters", method.head.params.parameters enc)]

def AxiomBranch.encode (enc : Encoder) (branch : AxiomBranch) : Json :=
  .obj [("name", .str branch.label),
    ("preconditions", Expression.encodeOption enc branch.precondition)]

def Axiom.encode (enc : Encoder) (rule : Axiom) : Json :=
  .obj [("branches", .arr (rule.branches.map (AxiomBranch.encode enc))),
    ("name", .str (enc.symbolName .constant rule.head.head)),
    ("parameters", rule.head.params.parameters enc)]

/-- The `domain` section of a document. -/
def Domain.encode (options : EncoderOptions) (domain : Domain) : Json :=
  let enc : Encoder := ⟨domain.symbols, options⟩
  .obj [("axioms", .arr (domain.axioms.map (Axiom.encode enc))),
    ("compound_tasks", .arr (domain.methods.map (Method.encode enc))),
    ("name", .str domain.name),
    ("primitive_tasks", .arr (domain.operators.map (Operator.encode enc))),
    ("procedures", .strings domain.procedures)]

end TaskNetwork
