import TaskNetwork.Task.Basic
import TaskNetwork.Term.Encoding

/-!
# Task lists as JSON

A task list becomes the array of its atoms. Sequences are flattened, and each of them counts as a
level; a list that lies too deep leaves one error node in the array.
-/

namespace TaskNetwork

def TaskAtom.encodeAt (enc : Encoder) (depth : Nat) (a : TaskAtom) : Json :=
  .obj [("name", .str (enc.symbolName a.category a.head.head)),
    ("parameters", a.head.params.parametersAt enc depth),
    ("type", .str (if a.isPrimitive then "predicate" else "task"))]

def TaskAtom.encode (enc : Encoder) (a : TaskAtom) : Json := a.encodeAt enc 0

namespace TaskList

mutual

/-- The nodes that a list contributes at a depth. -/
def nodesAt (enc : Encoder) (depth : Nat) (list : TaskList) : List Json :=
  if enc.allows depth then
    match list with
    | empty => []
    | atom a => [a.encodeAt enc depth]
    | sequence children => nodesListAt enc (depth + 1) children
  else [enc.tooDeep]

def nodesListAt (enc : Encoder) (depth : Nat) : List TaskList → List Json
  | [] => []
  | child :: rest => child.nodesAt enc depth ++ nodesListAt enc depth rest

end

def encode (enc : Encoder) (list : TaskList) : Json := .arr (list.nodesAt enc 0)

end TaskList

end TaskNetwork
