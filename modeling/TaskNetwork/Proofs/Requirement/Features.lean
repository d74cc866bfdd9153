import TaskNetwork.Proofs.Induction
import TaskNetwork.Proofs.Walk
import TaskNetwork.Requirement.Analysis

/-!
# Features of a model

Every expression and every effect needs the features of its parts. Here they are collected by
recursion, and the walk over a domain finds just these and the base features: what is found already
and what the stack still needs make up the same set after every step.
-/

namespace TaskNetwork

namespace Expression

mutual

/-- The features that an expression needs, from left to right and with repeats. -/
def features : Expression → List Requirement
  | and operands => featuresList operands
  | or operands => .disjunction :: featuresList operands
  | not e => .negation :: e.features
  | all premise consequence =>
    .universalQuantification :: (premise.features ++ consequence.features)
  | call _ _ => [.externalCall]
  | assign _ _ => [.externalAssignment]
  | atom _ | nil | unknown _ => []

def featuresList : List Expression → List Requirement
  | [] => []
  | e :: rest => e.features ++ featuresList rest

end

theorem featuresList_eq_flatMap (es : List Expression) : featuresList es = es.flatMap features := by
  induction es with
  | nil => rfl
  | cons e rest ih => simp [featuresList, ih]

/-- An expression needs what it requires by itself and what its operands need. -/
theorem mem_features_iff (e : Expression) {r : Requirement} :
    r ∈ e.features ↔ e.requirement? = some r ∨ ∃ x ∈ e.operands, r ∈ x.features := by
  cases e <;> simp [features, requirement?, operands, featuresList_eq_flatMap, eq_comm]

end Expression

def Effect.features : Effect → List Requirement
  | all premise _ => .conditionalEffects :: .universalQuantification :: premise.features
  | atom _ | protect _ | unknown _ => []

/-! ## Constructs -/

/-- The features that a precondition needs. -/
def Expression.featuresOfOption (e : Option Expression) : List Requirement := e.elim [] features

theorem Expression.mem_featuresOfOption_iff {e : Option Expression} {r : Requirement} :
    r ∈ featuresOfOption e ↔ ∃ x, e = some x ∧ r ∈ x.features := by
  cases e <;> simp [featuresOfOption]

def Operator.features (op : Operator) : List Requirement :=
  Expression.featuresOfOption op.precondition ++
    (op.effects.delete ++ op.effects.add).flatMap Effect.features

def Method.features (method : Method) : List Requirement :=
  method.branches.flatMap fun branch => Expression.featuresOfOption branch.precondition

def Axiom.features (rule : Axiom) : List Requirement :=
  rule.branches.flatMap fun branch => Expression.featuresOfOption branch.precondition

/-- The features that the constructs of a domain need. -/
def Domain.features (domain : Domain) : List Requirement :=
  domain.operators.flatMap Operator.features ++ domain.methods.flatMap Method.features ++
    domain.axioms.flatMap Axiom.features

theorem mem_filterMap_features {α : Type} {precondition : α → Option Expression} {xs : List α}
    {r : Requirement} :
    (∃ e ∈ xs.filterMap precondition, r ∈ e.features) ↔
      ∃ x ∈ xs, r ∈ Expression.featuresOfOption (precondition x) := by
  simp only [List.mem_filterMap, Expression.mem_featuresOfOption_iff]
  grind

/-! ## The walk -/

namespace RequirementWalk

/-- A requirement is found already, or something that is still to be visited needs it. -/
def Finds (w : RequirementWalk) (r : Requirement) : Prop :=
  w.found.contains r = true ∨ ∃ e ∈ w.pending, r ∈ e.features

variable {w : RequirementWalk} {r : Requirement}

/-- A step moves requirements from the stack to what is found, and loses none. -/
theorem finds_step : Finds (Expression.requirementVisitor.step w) r ↔ w.Finds r := by
  obtain ⟨pending, found⟩ := w
  cases pending with
  | nil => rfl
  | cons e rest =>
    have hnote : (Expression.requirementVisitor.note found e).contains r = true ↔
        found.contains r = true ∨ e.requirement? = some r := by
      cases he : e.requirement? with
      | none => simp [Expression.requirementVisitor, he]
      | some x =>
        simp [Expression.requirementVisitor, he]
        grind
    have hparts (x : Expression) :
        x ∈ Expression.requirementVisitor.parts e ++ rest ↔ x ∈ e.operands ∨ x ∈ rest := by
      simp [Expression.requirementVisitor]
    have hneeds := e.mem_features_iff (r := r)
    simp only [Finds, Visitor.step, hnote, hparts, List.mem_cons]
    grind

theorem contains_drain :
    (Expression.requirementVisitor.drain w).contains r = true ↔ w.Finds r := by
  have kept := Visitor.apply_drain (f := fun w => Finds w r) (fun _ => propext finds_step) w
  simpa [Finds] using Iff.of_eq kept

theorem finds_insert (x : Requirement) : (w.insert x).Finds r ↔ w.Finds r ∨ r = x := by
  simp [Finds, insert]
  grind

theorem finds_push (es : List Expression) :
    (w.push es).Finds r ↔ w.Finds r ∨ ∃ e ∈ es, r ∈ e.features := by
  simp [Finds, push]
  grind

theorem finds_foldl {α : Type} {add : RequirementWalk → α → RequirementWalk}
    {features : α → List Requirement}
    (h : ∀ (w : RequirementWalk) (x : α), (add w x).Finds r ↔ w.Finds r ∨ r ∈ features x)
    (xs : List α) : (xs.foldl add w).Finds r ↔ w.Finds r ∨ r ∈ xs.flatMap features := by
  induction xs generalizing w with
  | nil => simp
  | cons x rest ih => simp [ih, h, or_assoc]

theorem finds_addEffect (w : RequirementWalk) (e : Effect) :
    (w.addEffect e).Finds r ↔ w.Finds r ∨ r ∈ e.features := by
  cases e with
  | all premise templates =>
    simp [addEffect, Effect.features, finds_push, finds_insert, or_assoc]
  | _ => simp [addEffect, Effect.features]

theorem finds_addOperator (w : RequirementWalk) (op : Operator) :
    (w.addOperator op).Finds r ↔ w.Finds r ∨ r ∈ op.features := by
  have hprecondition : (∃ e ∈ op.precondition.toList, r ∈ e.features) ↔
      r ∈ Expression.featuresOfOption op.precondition := by
    cases op.precondition <;> simp [Expression.featuresOfOption]
  rw [addOperator, finds_foldl finds_addEffect, finds_push, hprecondition, Operator.features,
    List.mem_append, or_assoc]

theorem finds_addMethod (w : RequirementWalk) (method : Method) :
    (w.addMethod method).Finds r ↔ w.Finds r ∨ r ∈ method.features := by
  rw [addMethod, finds_push, mem_filterMap_features, Method.features, List.mem_flatMap]

theorem finds_addAxiom (w : RequirementWalk) (rule : Axiom) :
    (w.addAxiom rule).Finds r ↔ w.Finds r ∨ r ∈ rule.features := by
  rw [addAxiom, finds_push, mem_filterMap_features, Axiom.features, List.mem_flatMap]

/-- Before its first step, the walk over a domain is to find the features of its constructs. -/
theorem finds_ofDomain (domain : Domain) :
    (ofDomain domain).Finds r ↔ r = .baseFeatures ∨ r ∈ domain.features := by
  rw [ofDomain, finds_foldl finds_addAxiom, finds_foldl finds_addMethod,
    finds_foldl finds_addOperator, Domain.features, List.mem_append, List.mem_append]
  simp [Finds, RequirementSet.empty, or_assoc]

end RequirementWalk

/-- The analysis finds the base features and those of the constructs. -/
theorem Domain.contains_requirements (domain : Domain) (r : Requirement) :
    domain.requirements.contains r = true ↔ r = .baseFeatures ∨ r ∈ domain.features :=
  RequirementWalk.contains_drain.trans (RequirementWalk.finds_ofDomain domain)

end TaskNetwork
