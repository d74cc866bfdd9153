import TaskNetwork.Domain.Basic

/-!
# Dispatch tables

The constructs of a domain by the symbol that they implement, in the order of declaration. Each
symbol of the table has a bucket. A head outside of the symbol table has one only if a construct
has that head; these buckets are listed by increasing index.
-/

namespace TaskNetwork

/-- Items by index: a bucket for each index below a bound, and those in use above it. -/
structure Buckets (α : Type) where
  dense : List (List α)
  overflow : List (Nat × List α) := []

namespace Buckets

variable {α : Type}

/-- An item added to the bucket of an index in an increasing list of buckets. -/
def addOverflow (index : Nat) (item : α) : List (Nat × List α) → List (Nat × List α)
  | [] => [(index, [item])]
  | (i, bucket) :: rest =>
    if index < i then (index, [item]) :: (i, bucket) :: rest
    else if index = i then (i, bucket ++ [item]) :: rest
    else (i, bucket) :: addOverflow index item rest

def add (b : Buckets α) (index : Nat) (item : α) : Buckets α :=
  if index < b.dense.length then { b with dense := b.dense.modify index (· ++ [item]) }
  else { b with overflow := addOverflow index item b.overflow }

/-- The items by their keys, with a bucket for each index below `size`. -/
def build (size : Nat) (key : α → Nat) (items : List α) : Buckets α :=
  items.foldl (fun b item => b.add (key item) item) { dense := List.replicate size [] }

/-- The items of an index. -/
def get (b : Buckets α) (index : Nat) : List α :=
  match b.dense[index]? with
  | some bucket => bucket
  | none => (b.overflow.lookup index).getD []

end Buckets

structure DispatchTable where
  operators : Buckets Operator
  methods : Buckets Method
  axioms : Buckets Axiom

namespace DispatchTable

/-- Operators by primitive task, methods by compound task and axioms by constant. -/
def ofDomain (domain : Domain) : DispatchTable where
  operators := .build (domain.symbols.size .primitiveTask) (·.head.head) domain.operators
  methods := .build (domain.symbols.size .compoundTask) (·.head.head) domain.methods
  axioms := .build (domain.symbols.size .constant) (·.head.head) domain.axioms

def operatorsFor (t : DispatchTable) (task : Nat) : List Operator := t.operators.get task

def methodsFor (t : DispatchTable) (task : Nat) : List Method := t.methods.get task

def axiomsFor (t : DispatchTable) (predicate : Nat) : List Axiom := t.axioms.get predicate

end DispatchTable

end TaskNetwork
