import TaskNetwork.Problem.Basic
import TaskNetwork.Task.Encoding

/-!
# Problems as JSON

The parameters of an initial fact are written as text.
-/

namespace TaskNetwork

def Predicate.encodeFact (enc : Encoder) (fact : Predicate) : Json :=
  .obj [("parameters", .strings (fact.params.elements.map (Term.text enc))),
    ("predicate", .str (enc.symbolName .constant fact.head))]

/-- The `problem` section of a document. -/
def Problem.encode (options : EncoderOptions) (p : Problem) : Json :=
  let enc : Encoder := ⟨p.symbols, options⟩
  .obj [("additional_constants", .strings p.additionalConstants),
    ("goal", .obj [("tasks", p.goal.encode enc)]),
    ("init", .arr (p.init.map (Predicate.encodeFact enc))), ("name", .str p.name)]

end TaskNetwork
