import TaskNetwork.Effect.Basic
import TaskNetwork.Task.Basic

/-!
# Operators, methods and axioms

Each construct carries an identifier, its place among the constructs of its kind in a domain.
-/

namespace TaskNetwork

/-- An implementation of a primitive task. -/
structure Operator where
  id : Nat
  head : Predicate
  /-- Without one the operator is always applicable. -/
  precondition : Option Expression
  effects : EffectLists
  cost : Option Term

structure MethodBranch where
  label : String
  precondition : Option Expression
  tasks : TaskList

/-- A decomposition of a compound task. -/
structure Method where
  id : Nat
  head : Predicate
  branches : List MethodBranch

structure AxiomBranch where
  label : String
  precondition : Option Expression

/-- A derivation of a predicate, by the first branch that holds. -/
structure Axiom where
  id : Nat
  head : Predicate
  branches : List AxiomBranch

end TaskNetwork
