import TaskNetwork.Json.Basic

/-!
# Summaries of documents

A summary keeps of a document what most readers ask for: names, arities, branch labels and task
references. Expressions stay JSON.
-/

namespace TaskNetwork

inductive TaskKind where
  | primitive
  | compound
deriving DecidableEq

namespace TaskKind

def label : TaskKind → String
  | primitive => "primitive"
  | compound => "compound"

/-- The kind that a task node states as its type. -/
def ofNodeType? : String → Option TaskKind
  | "predicate" => some primitive
  | "task" => some compound
  | _ => none

end TaskKind

/-- An occurrence of a task in a branch or a goal. -/
structure TaskReference where
  name : String
  kind : TaskKind
  parameters : Json

structure OperatorSummary where
  name : String
  arity : Nat
  /-- Null when the operator has no precondition. -/
  preconditions : Json
  /-- The number of effects. -/
  effects : Nat
  cost : Option Json
  errorNodes : Nat

structure BranchSummary where
  name : String
  preconditions : Json
  tasks : List TaskReference

structure MethodSummary where
  name : String
  arity : Nat
  branches : List BranchSummary
  errorNodes : Nat

structure AxiomSummary where
  name : String
  arity : Nat
  /-- The labels of the branches in order. -/
  branches : List String
  errorNodes : Nat

structure DomainSummary where
  name : String
  operators : List OperatorSummary
  methods : List MethodSummary
  axioms : List AxiomSummary
  procedures : List String

namespace DomainSummary

def operator? (d : DomainSummary) (name : String) : Option OperatorSummary :=
  d.operators.find? (·.name == name)

def method? (d : DomainSummary) (name : String) : Option MethodSummary :=
  d.methods.find? (·.name == name)

/-- The number of error nodes anywhere in the domain. -/
def errorNodes (d : DomainSummary) : Nat :=
  total (d.operators.map OperatorSummary.errorNodes) +
    total (d.methods.map MethodSummary.errorNodes) + total (d.axioms.map AxiomSummary.errorNodes)
where
  total (counts : List Nat) : Nat := counts.foldr (· + ·) 0

end DomainSummary

/-- A fact of an initial state. -/
structure FactSummary where
  predicate : String
  parameters : List String

structure ProblemSummary where
  name : String
  goal : List TaskReference
  init : List FactSummary
  additionalConstants : List String

/-- The summary of a document. -/
structure Summary where
  /-- The tags as they are written. -/
  requirements : List String
  domain : Option DomainSummary
  problem : Option ProblemSummary

def Summary.hasRequirement (s : Summary) (tag : String) : Bool := s.requirements.contains tag

end TaskNetwork
