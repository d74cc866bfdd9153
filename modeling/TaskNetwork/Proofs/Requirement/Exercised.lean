import Mathlib.Data.List.Forall2
import Mathlib.Data.Option.Basic
import TaskNetwork.Proofs.Requirement.Features

/-!
# Exercised features

The requirements of a domain are what it exercises: the base features, what occurs in an expression
of it at any depth, and quantified effects. The walk that finds them comes to an end, and finds the
same whatever the order in which constructs, branches, effects and operands are written.
-/

namespace TaskNetwork

/-! ## Parts of expressions -/

namespace Expression

/-- One expression is another one or occurs in it, at any depth. -/
inductive Occurs (part : Expression) : Expression → Prop
  | self : Occurs part part
  | operand {e x : Expression} (hx : x ∈ e.operands) (h : Occurs part x) : Occurs part e

/-- A property holds of all expressions if one has it whenever all of its operands do. -/
theorem operands_induction {P : Expression → Prop}
    (step : ∀ e, (∀ x ∈ e.operands, P x) → P e) (e : Expression) : P e := by
  induction e with
  | and es ih | or es ih => exact step _ ih
  | not e ih => exact step _ (by simpa [operands] using ih)
  | all premise consequence ihp ihc => exact step _ (by simpa [operands] using ⟨ihp, ihc⟩)
  | _ => exact step _ (by simp [operands])

/-- An expression needs what the expressions that occur in it require by themselves. -/
theorem mem_features_iff_occurs (e : Expression) {r : Requirement} :
    r ∈ e.features ↔ ∃ part : Expression, part.Occurs e ∧ part.requirement? = some r := by
  constructor
  · intro h
    induction e using operands_induction with
    | step e ih =>
      obtain hself | ⟨x, hx, hr⟩ := e.mem_features_iff.mp h
      · exact ⟨e, .self, hself⟩
      · obtain ⟨part, hpart, hr⟩ := ih x hx hr
        exact ⟨part, .operand hx hpart, hr⟩
  · rintro ⟨part, hpart, hr⟩
    induction hpart with
    | self => exact part.mem_features_iff.mpr (.inl hr)
    | operand hx _ ih => exact (mem_features_iff _).mpr (.inr ⟨_, hx, ih⟩)

end Expression

theorem Effect.mem_features_iff {e : Effect} {r : Requirement} :
    r ∈ e.features ↔ ∃ premise templates, e = .all premise templates ∧
      (r = .conditionalEffects ∨ r = .universalQuantification ∨ r ∈ premise.features) := by
  cases e <;> simp [features]

theorem Operator.mem_features_iff {op : Operator} {r : Requirement} :
    r ∈ op.features ↔ (∃ e, op.precondition = some e ∧ r ∈ e.features) ∨
      ∃ premise templates, .all premise templates ∈ op.effects.delete ++ op.effects.add ∧
        (r = .conditionalEffects ∨ r = .universalQuantification ∨ r ∈ premise.features) := by
  have heffects : (∃ e ∈ op.effects.delete ++ op.effects.add, r ∈ e.features) ↔
      ∃ premise templates, .all premise templates ∈ op.effects.delete ++ op.effects.add ∧
        (r = .conditionalEffects ∨ r = .universalQuantification ∨ r ∈ premise.features) := by
    constructor
    · rintro ⟨e, he, hmem⟩
      obtain ⟨premise, templates, rfl, hr⟩ := Effect.mem_features_iff.mp hmem
      exact ⟨premise, templates, he, hr⟩
    · rintro ⟨premise, templates, he, hr⟩
      exact ⟨_, he, Effect.mem_features_iff.mpr ⟨premise, templates, rfl, hr⟩⟩
  rw [features, List.mem_append, Expression.mem_featuresOfOption_iff, List.mem_flatMap, heffects]

theorem Method.mem_features_iff {method : Method} {r : Requirement} :
    r ∈ method.features ↔
      ∃ branch ∈ method.branches, ∃ e, branch.precondition = some e ∧ r ∈ e.features := by
  simp only [features, List.mem_flatMap, Expression.mem_featuresOfOption_iff]

theorem Axiom.mem_features_iff {rule : Axiom} {r : Requirement} :
    r ∈ rule.features ↔
      ∃ branch ∈ rule.branches, ∃ e, branch.precondition = some e ∧ r ∈ e.features := by
  simp only [features, List.mem_flatMap, Expression.mem_featuresOfOption_iff]

/-! ## What a domain exercises -/

namespace Domain

/-- The expressions that stand by themselves in a domain: the preconditions of operators and of the
branches of methods and axioms, and the premises of effects. -/
inductive Root (domain : Domain) : Expression → Prop
  | operator {op : Operator} {e : Expression} (hop : op ∈ domain.operators)
      (h : op.precondition = some e) : Root domain e
  | method {method : Method} {branch : MethodBranch} {e : Expression}
      (hmethod : method ∈ domain.methods) (hbranch : branch ∈ method.branches)
      (h : branch.precondition = some e) : Root domain e
  | rule {rule : Axiom} {branch : AxiomBranch} {e : Expression} (hrule : rule ∈ domain.axioms)
      (hbranch : branch ∈ rule.branches) (h : branch.precondition = some e) : Root domain e
  | premise {op : Operator} {premise : Expression} {templates : List Predicate}
      (hop : op ∈ domain.operators)
      (h : .all premise templates ∈ op.effects.delete ++ op.effects.add) : Root domain premise

/-- The features that a domain exercises. -/
inductive Exercises (domain : Domain) : Requirement → Prop
  | base : Exercises domain .baseFeatures
  | expression {root e : Expression} {r : Requirement} (hroot : domain.Root root)
      (occurs : e.Occurs root) (kind : e.requirement? = some r) : Exercises domain r
  | conditional {op : Operator} {premise : Expression} {templates : List Predicate}
      (hop : op ∈ domain.operators)
      (h : .all premise templates ∈ op.effects.delete ++ op.effects.add) :
      Exercises domain .conditionalEffects
  | quantified {op : Operator} {premise : Expression} {templates : List Predicate}
      (hop : op ∈ domain.operators)
      (h : .all premise templates ∈ op.effects.delete ++ op.effects.add) :
      Exercises domain .universalQuantification

/-- The features of the constructs are those of the expressions and the quantified effects. -/
theorem mem_features_iff (domain : Domain) {r : Requirement} :
    r ∈ domain.features ↔ (∃ root, domain.Root root ∧ r ∈ root.features) ∨
      ∃ op ∈ domain.operators, ∃ premise templates,
        .all premise templates ∈ op.effects.delete ++ op.effects.add ∧
          (r = .conditionalEffects ∨ r = .universalQuantification) := by
  rw [features, List.mem_append, List.mem_append, List.mem_flatMap, List.mem_flatMap,
    List.mem_flatMap]
  constructor
  · rintro ((⟨op, hop, h⟩ | ⟨method, hmethod, h⟩) | ⟨rule, hrule, h⟩)
    · obtain ⟨e, he, hr⟩ | ⟨premise, templates, he, hr⟩ := Operator.mem_features_iff.mp h
      · exact .inl ⟨e, .operator hop he, hr⟩
      · obtain hr | hr | hr := hr
        · exact .inr ⟨op, hop, premise, templates, he, .inl hr⟩
        · exact .inr ⟨op, hop, premise, templates, he, .inr hr⟩
        · exact .inl ⟨premise, .premise hop he, hr⟩
    · obtain ⟨branch, hbranch, e, he, hr⟩ := Method.mem_features_iff.mp h
      exact .inl ⟨e, .method hmethod hbranch he, hr⟩
    · obtain ⟨branch, hbranch, e, he, hr⟩ := Axiom.mem_features_iff.mp h
      exact .inl ⟨e, .rule hrule hbranch he, hr⟩
  · rintro (⟨root, hroot, hr⟩ | ⟨op, hop, premise, templates, he, hr⟩)
    · cases hroot with
      | operator hop he =>
        exact .inl (.inl ⟨_, hop, Operator.mem_features_iff.mpr (.inl ⟨root, he, hr⟩)⟩)
      | method hmethod hbranch he =>
        exact .inl (.inr ⟨_, hmethod, Method.mem_features_iff.mpr ⟨_, hbranch, root, he, hr⟩⟩)
      | rule hrule hbranch he =>
        exact .inr ⟨_, hrule, Axiom.mem_features_iff.mpr ⟨_, hbranch, root, he, hr⟩⟩
      | premise hop he =>
        refine .inl (.inl ⟨_, hop, Operator.mem_features_iff.mpr (.inr ?_)⟩)
        exact ⟨root, _, he, .inr (.inr hr)⟩
    · refine .inl (.inl ⟨op, hop, Operator.mem_features_iff.mpr (.inr ?_)⟩)
      exact ⟨premise, templates, he, by grind⟩

theorem exercises_iff (domain : Domain) (r : Requirement) :
    domain.Exercises r ↔ r = .baseFeatures ∨ r ∈ domain.features := by
  rw [mem_features_iff]
  constructor
  · intro h
    cases h with
    | base => exact .inl rfl
    | expression hroot occurs kind =>
      exact .inr (.inl ⟨_, hroot, (Expression.mem_features_iff_occurs _).mpr ⟨_, occurs, kind⟩⟩)
    | conditional hop h => exact .inr (.inr ⟨_, hop, _, _, h, .inl rfl⟩)
    | quantified hop h => exact .inr (.inr ⟨_, hop, _, _, h, .inr rfl⟩)
  · rintro (rfl | ⟨root, hroot, hr⟩ | ⟨op, hop, premise, templates, h, rfl | rfl⟩)
    · exact .base
    · obtain ⟨e, occurs, kind⟩ := root.mem_features_iff_occurs.mp hr
      exact .expression hroot occurs kind
    · exact .conditional hop h
    · exact .quantified hop h

end Domain

/-! ## Order -/

/-- The items of a list in any order, each replaced by one that it is related to. -/
def Rearranged {α : Type} (R : α → α → Prop) (xs ys : List α) : Prop :=
  ∃ zs, List.Forall₂ R xs zs ∧ zs.Perm ys

theorem perm_flatMap_of_forall₂ {α β : Type} {R : α → α → Prop} {xs ys : List α}
    {f : α → List β} (hf : ∀ x y, R x y → (f x).Perm (f y)) (h : List.Forall₂ R xs ys) :
    (xs.flatMap f).Perm (ys.flatMap f) := by
  induction h with
  | nil => exact .refl _
  | cons hx _ ih => exact (hf _ _ hx).append ih

theorem Rearranged.perm_flatMap {α β : Type} {R : α → α → Prop} {xs ys : List α} {f : α → List β}
    (h : Rearranged R xs ys) (hf : ∀ x y, R x y → (f x).Perm (f y)) :
    (xs.flatMap f).Perm (ys.flatMap f) := by
  obtain ⟨zs, hzs, hperm⟩ := h
  exact (perm_flatMap_of_forall₂ hf hzs).trans (hperm.flatMap_right f)

/-- The operands of conjunctions and disjunctions in any order, at any depth. -/
inductive Expression.Reordered : Expression → Expression → Prop
  | same (e : Expression) : Reordered e e
  | and {es fs es' : List Expression} (operands : List.Forall₂ Reordered es fs)
      (order : fs.Perm es') : Reordered (.and es) (.and es')
  | or {es fs es' : List Expression} (operands : List.Forall₂ Reordered es fs)
      (order : fs.Perm es') : Reordered (.or es) (.or es')
  | not {e e' : Expression} (h : Reordered e e') : Reordered (.not e) (.not e')
  | all {premise premise' consequence consequence' : Expression}
      (hpremise : Reordered premise premise') (hconsequence : Reordered consequence consequence') :
      Reordered (.all premise consequence) (.all premise' consequence')

theorem Expression.Reordered.perm_features {e e' : Expression} (h : e.Reordered e') :
    e.features.Perm e'.features := by
  refine Reordered.rec (motive_1 := fun e e' _ => e.features.Perm e'.features)
    (motive_2 := fun es fs _ => (es.flatMap features).Perm (fs.flatMap features))
    ?same ?and ?or ?not ?all ?nil ?cons h
  case same =>
    intro e
    exact .refl _
  case and =>
    intro es fs es' _ order ih
    rw [features, features, featuresList_eq_flatMap, featuresList_eq_flatMap]
    exact ih.trans (order.flatMap_right features)
  case or =>
    intro es fs es' _ order ih
    rw [features, features, featuresList_eq_flatMap, featuresList_eq_flatMap]
    exact (ih.trans (order.flatMap_right features)).cons _
  case not =>
    intro e e' _ ih
    exact ih.cons _
  case all =>
    intro premise premise' consequence consequence' _ _ ihp ihc
    exact (ihp.append ihc).cons _
  case nil => exact .refl _
  case cons =>
    intro e e' es es' _ _ ihhead ihtail
    exact ihhead.append ihtail

/-- The premise of a quantified effect with its operands in any order. -/
inductive Effect.Reordered : Effect → Effect → Prop
  | same (e : Effect) : Reordered e e
  | all {premise premise' : Expression} (h : premise.Reordered premise')
      (templates : List Predicate) : Reordered (.all premise templates) (.all premise' templates)

theorem Effect.Reordered.perm_features {e e' : Effect} (h : e.Reordered e') :
    e.features.Perm e'.features := by
  cases h with
  | same => exact .refl _
  | all h templates => exact (h.perm_features.cons _).cons _

/-- A precondition with its operands in any order. -/
def Expression.OptionReordered : Option Expression → Option Expression → Prop :=
  Option.Rel Expression.Reordered

theorem Expression.OptionReordered.perm_features {e e' : Option Expression}
    (h : OptionReordered e e') : (featuresOfOption e).Perm (featuresOfOption e') := by
  cases h with
  | none => exact .refl _
  | some h => exact h.perm_features

/-- An operator with operands and effects in any order. Nothing is asked of its other parts. -/
structure Operator.Reordered (op op' : Operator) : Prop where
  precondition : Expression.OptionReordered op.precondition op'.precondition
  delete : Rearranged Effect.Reordered op.effects.delete op'.effects.delete
  add : Rearranged Effect.Reordered op.effects.add op'.effects.add

theorem Operator.Reordered.perm_features {op op' : Operator} (h : op.Reordered op') :
    op.features.Perm op'.features := by
  have hdelete := h.delete.perm_flatMap fun _ _ => Effect.Reordered.perm_features
  have hadd := h.add.perm_flatMap fun _ _ => Effect.Reordered.perm_features
  rw [features, features, List.flatMap_append, List.flatMap_append]
  exact h.precondition.perm_features.append (hdelete.append hadd)

/-- A method with its branches and their operands in any order. -/
def Method.Reordered (method method' : Method) : Prop :=
  Rearranged (fun b b' => Expression.OptionReordered b.precondition b'.precondition)
    method.branches method'.branches

/-- An axiom with its branches and their operands in any order. -/
def Axiom.Reordered (rule rule' : Axiom) : Prop :=
  Rearranged (fun b b' => Expression.OptionReordered b.precondition b'.precondition)
    rule.branches rule'.branches

namespace Domain

/-- A domain with its constructs, their branches and effects, and all operands in any order. -/
structure Reordered (domain domain' : Domain) : Prop where
  operators : Rearranged Operator.Reordered domain.operators domain'.operators
  methods : Rearranged Method.Reordered domain.methods domain'.methods
  axioms : Rearranged Axiom.Reordered domain.axioms domain'.axioms

theorem Reordered.perm_features {domain domain' : Domain} (h : domain.Reordered domain') :
    domain.features.Perm domain'.features := by
  have hoperators := h.operators.perm_flatMap fun _ _ => Operator.Reordered.perm_features
  have hmethods := h.methods.perm_flatMap (f := Method.features) fun _ _ hmethod =>
    hmethod.perm_flatMap fun _ _ => Expression.OptionReordered.perm_features
  have haxioms := h.axioms.perm_flatMap (f := Axiom.features) fun _ _ hrule =>
    hrule.perm_flatMap fun _ _ => Expression.OptionReordered.perm_features
  exact (hoperators.append hmethods).append haxioms

/-- The requirements of a domain are found after finitely many steps of the walk. They are the
features that the domain exercises, which a recursion over its constructs collects as well, and
they do not depend on any order. -/
theorem requirements_exact (domain : Domain) :
    (∃ n, Expression.requirementVisitor.step^[n] (RequirementWalk.ofDomain domain) =
        ⟨[], domain.requirements⟩) ∧
      (∀ r, domain.requirements.contains r = true ↔ domain.Exercises r) ∧
      domain.requirements = .ofList (.baseFeatures :: domain.features) ∧
      ∀ domain', domain.Reordered domain' → domain'.requirements = domain.requirements := by
  refine ⟨?_, ?_, ?_, ?_⟩
  · exact Expression.requirementVisitor.exists_iterate_step _
  · intro r
    rw [domain.contains_requirements, domain.exercises_iff]
  · apply RequirementSet.ext_contains
    intro r
    rw [Bool.eq_iff_iff, domain.contains_requirements]
    simp [RequirementSet.ofList]
  · intro domain' h
    apply RequirementSet.ext_contains
    intro r
    rw [Bool.eq_iff_iff, contains_requirements, contains_requirements, h.perm_features.mem_iff]

/-- Two operators and the operands of a conjunction change places. -/
theorem requirements_exact_of_swap :
    let plain : Operator := ⟨0, ⟨0, .nil⟩, none, {}, none⟩
    let guarded (es : List Expression) : Operator := ⟨1, ⟨1, .nil⟩, some (.and es), {}, none⟩
    let domain : Domain :=
      { name := "d", operators := [plain, guarded [.or [], .not .nil]] }
    let domain' : Domain :=
      { name := "d", operators := [guarded [.not .nil, .or []], plain] }
    domain.Reordered domain' ∧ domain'.requirements = domain.requirements ∧
      domain'.requirements.tags = [":DP", ":NP", ":S"] := by
  intro plain guarded domain domain'
  have hguarded : (guarded [.or [], .not .nil]).Reordered (guarded [.not .nil, .or []]) := by
    have hoperands : List.Forall₂ Expression.Reordered [.or [], .not .nil] [.or [], .not .nil] :=
      .cons (.same _) (.cons (.same _) .nil)
    exact ⟨.some (.and hoperands (.swap _ _ _)), ⟨[], .nil, .refl _⟩, ⟨[], .nil, .refl _⟩⟩
  have hplain : plain.Reordered plain := ⟨.none, ⟨[], .nil, .refl _⟩, ⟨[], .nil, .refl _⟩⟩
  have h : domain.Reordered domain' :=
    ⟨⟨_, .cons hplain (.cons hguarded .nil), .swap _ _ _⟩, ⟨[], .nil, .refl _⟩,
      ⟨[], .nil, .refl _⟩⟩
  exact ⟨h, domain.requirements_exact.2.2.2 domain' h, by decide⟩

end Domain

end TaskNetwork
