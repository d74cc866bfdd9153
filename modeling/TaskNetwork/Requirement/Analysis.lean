import TaskNetwork.Domain.Basic
import TaskNetwork.Expression.Size
import TaskNetwork.Requirement.Basic

/-!
# The requirements of a domain

A domain needs the base features and what occurs anywhere in a precondition, a branch or the premise
of an effect. The expressions of all constructs are put on one stack, and a walk visits them and
everything that they are made of.
-/

namespace TaskNetwork

namespace Expression

/-- The requirement of an expression by itself, apart from its operands. -/
def requirement? : Expression → Option Requirement
  | or _ => some .disjunction
  | not _ => some .negation
  | all _ _ => some .universalQuantification
  | call _ _ => some .externalCall
  | assign _ _ => some .externalAssignment
  | atom _ | and _ | nil | unknown _ => none

/-- The expressions right below an expression, from left to right. -/
def operands : Expression → List Expression
  | and es | or es => es
  | not e => [e]
  | all premise consequence => [premise, consequence]
  | atom _ | call _ _ | assign _ _ | nil | unknown _ => []

theorem totalSize_operands_lt (e : Expression) : totalSize size e.operands < e.size := by
  cases e <;> simp [operands, size, sizeList_eq]

/-- Adds the requirements of the expressions that are visited. Operands are pushed from left to
right, so the last one is visited first. -/
def requirementVisitor : Visitor Expression RequirementSet where
  note found e := e.requirement?.elim found found.insert
  parts e := e.operands.reverse
  size := size
  totalSize_parts_lt e := by simpa [totalSize_reverse] using e.totalSize_operands_lt

end Expression

/-- A walk over expressions to find their requirements. -/
abbrev RequirementWalk := Walk Expression RequirementSet

namespace RequirementWalk

def insert (w : RequirementWalk) (r : Requirement) : RequirementWalk :=
  { w with found := w.found.insert r }

/-- Pushes expressions from left to right, so the last one is to be visited first. -/
def push (w : RequirementWalk) (es : List Expression) : RequirementWalk :=
  { w with pending := es.reverse ++ w.pending }

/-- An effect is required at once, and its premise is left to be visited. -/
def addEffect (w : RequirementWalk) : Effect → RequirementWalk
  | .all premise _ =>
    ((w.insert .conditionalEffects).insert .universalQuantification).push [premise]
  | .atom _ | .protect _ | .unknown _ => w

def addOperator (w : RequirementWalk) (op : Operator) : RequirementWalk :=
  (op.effects.delete ++ op.effects.add).foldl addEffect (w.push op.precondition.toList)

def addMethod (w : RequirementWalk) (method : Method) : RequirementWalk :=
  w.push (method.branches.filterMap MethodBranch.precondition)

def addAxiom (w : RequirementWalk) (rule : Axiom) : RequirementWalk :=
  w.push (rule.branches.filterMap AxiomBranch.precondition)

/-- The walk over a domain before it visits anything. -/
def ofDomain (domain : Domain) : RequirementWalk :=
  let base : RequirementWalk := ⟨[], .insert .empty .baseFeatures⟩
  let operators := domain.operators.foldl addOperator base
  let methods := domain.methods.foldl addMethod operators
  domain.axioms.foldl addAxiom methods

end RequirementWalk

def Domain.requirements (domain : Domain) : RequirementSet :=
  Expression.requirementVisitor.drain (RequirementWalk.ofDomain domain)

end TaskNetwork
