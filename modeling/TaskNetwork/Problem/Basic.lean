import TaskNetwork.Domain.Basic

/-!
# Problems

A problem extends the symbol table of its domain; the domain itself stays as it is.
-/

namespace TaskNetwork

/-- An initial state and the tasks to accomplish. -/
structure Problem where
  name : String
  symbols : SymbolTable
  init : List Predicate := []
  goal : TaskList := .empty

/-- The constants that the domain does not have. -/
def Problem.additionalConstants (p : Problem) : List String :=
  p.symbols.problemConstants.map Prod.snd

/-- A problem that is still open. -/
structure ProblemBuilder where
  problem : Problem

namespace ProblemBuilder

def new (domain : Domain) (name : String) : ProblemBuilder :=
  ⟨{ name, symbols := domain.symbols.freeze }⟩

def intern (b : ProblemBuilder) (c : Category) (name : String) : Nat × ProblemBuilder :=
  let (index, symbols) := b.problem.symbols.intern c name
  (index, ⟨{ b.problem with symbols }⟩)

def addFact (b : ProblemBuilder) (fact : Predicate) : ProblemBuilder :=
  ⟨{ b.problem with init := b.problem.init ++ [fact] }⟩

def setGoal (b : ProblemBuilder) (goal : TaskList) : ProblemBuilder := ⟨{ b.problem with goal }⟩

def finish (b : ProblemBuilder) : Problem := b.problem

end ProblemBuilder

end TaskNetwork
