import TaskNetwork.Json.Decoder
import TaskNetwork.Symbol

/-!
# Encoders

An encoder writes a model as JSON: it knows the names of the symbols and how deep nodes may be
nested. What cannot be written is replaced, at the smallest node that has the fault, by an error
node that says so; the nodes around it are not affected.
-/

namespace TaskNetwork

structure EncoderOptions where
  /-- The greatest depth at which a node is still written. -/
  maxDepth : Nat := 256
  /-- Leave out the mark `!` in front of task names. -/
  stripTaskBang : Bool := true
deriving DecidableEq

namespace EncoderOptions

def decoder : Json.Decoder EncoderOptions :=
  let byDefault : EncoderOptions := {}
  let record := (Json.Record.none EncoderOptions.mk)
    |>.and (.withDefault "max_depth" .size byDefault.maxDepth)
    |>.and (.withDefault "strip_task_bang" .boolean byDefault.stripTaskBang)
  record.closed.decoder "IrOptions"

end EncoderOptions

/-- Why a node cannot be written. -/
inductive Fault where
  | tooFewOperands (kind : String) (found : Nat)
  | nonFiniteNumber (x : Binary64)
  | depthExceeded (max : Nat)
deriving DecidableEq

namespace Fault

def message : Fault → String
  | tooFewOperands kind found => s!"{kind} requires at least two operands, found {found}"
  | nonFiniteNumber x => s!"number {x.plain} has no JSON representation"
  | depthExceeded max => s!"nesting exceeds the maximum depth of {max}"

/-- The error node that stands in for the faulty one. -/
def node (fault : Fault) : Json :=
  .obj [("message", .str fault.message), ("type", .str "error")]

end Fault

structure Encoder where
  symbols : SymbolTable
  options : EncoderOptions := {}

namespace Encoder

def allows (enc : Encoder) (depth : Nat) : Bool := depth ≤ enc.options.maxDepth

/-- The node in place of one that lies too deep. -/
def tooDeep (enc : Encoder) : Json := (Fault.depthExceeded enc.options.maxDepth).node

/-- The name of a symbol, for a task without its mark if the options say so. -/
def symbolName (enc : Encoder) (c : Category) (index : Nat) : String :=
  let name := enc.symbols.resolve c index
  match name.toList with
  | '!' :: rest => if c.isTask && enc.options.stripTaskBang then String.ofList rest else name
  | _ => name

/-- The name of a variable, which always starts with a question mark. -/
def variableName (enc : Encoder) (index : Nat) : String :=
  let name := enc.symbols.resolve .var index
  if name.toList.head? = some '?' then name else "?" ++ name

/-- A node for something that is shown by its name alone. -/
def named (name kind : String) : Json := .obj [("name", .str name), ("type", .str kind)]

/-- Nodes for some variables, in their order. -/
def variableNodes (enc : Encoder) (indices : List Nat) : Json :=
  .arr (indices.map fun index => named (enc.variableName index) "Variable")

end Encoder

end TaskNetwork
