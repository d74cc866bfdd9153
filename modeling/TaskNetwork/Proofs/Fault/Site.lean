import TaskNetwork.Domain.Basic
import TaskNetwork.Proofs.Term.Elements

/-!
# Fault sites

A model is walked from its constructs down to terms, and every part on the way has a depth. A part
that cannot be written is a fault site, and nothing below it is looked at. Parts, depths and faults
are read off the model alone: nothing here says how a part is written.
-/

namespace TaskNetwork

/-- A part of a model in whose place an error node can stand. -/
inductive Part where
  | term (t : Term)
  | predicate (p : Predicate)
  | expression (e : Expression)
  | effect (mode : EffectMode) (e : Effect)
  | tasks (list : TaskList)

namespace Part

/-- The parameters of something at a depth. -/
def ofParameters (depth : Nat) (params : Term) : List (Nat × Part) :=
  params.elements.map fun t => (depth + 1, term t)

/-- The atom of an effect at a depth. To be deleted it is wrapped, which counts as a level. -/
def ofEffectAtom (mode : EffectMode) (depth : Nat) (p : Predicate) : Nat × Part :=
  match mode with
  | .add => (depth, predicate p)
  | .delete => (depth + 1, predicate p)

/-- The parts right below a part at a depth, each with its own depth. The arguments of a call are no
parts, since a call is shown by its text. -/
def below (depth : Nat) : Part → List (Nat × Part)
  | term (.cons head tail) => ofParameters depth (.cons head tail)
  | term _ => []
  | predicate p => ofParameters depth p.params
  | expression e =>
    match e with
    | .atom p => [(depth, predicate p)]
    | .and operands | .or operands => operands.map fun e => (depth + 1, expression e)
    | .not e => [(depth + 1, expression e)]
    | .all premise consequence =>
      [(depth + 1, expression premise), (depth + 1, expression consequence)]
    | .call _ args => args.map fun t => (depth + 1, term t)
    | .assign _ value => [(depth + 1, term value)]
    | .nil | .unknown _ => []
  | effect mode e =>
    match e with
    | .atom p => [ofEffectAtom mode depth p]
    | .all premise templates =>
      (depth + 1, expression premise) :: templates.map (ofEffectAtom mode (depth + 1))
    | .protect target => [(depth + 1, predicate target)]
    | .unknown _ => []
  | tasks list =>
    match list with
    | .empty => []
    | .atom a => ofParameters depth a.head.params
    | .sequence children => children.map fun child => (depth + 1, tasks child)

/-- Is the part one that cannot be written at any depth: a number without a numeral, or a
conjunction or disjunction that lacks operands? -/
def isMalformed : Part → Bool
  | term (.num x) => !x.isFinite
  | expression (.and operands) | expression (.or operands) => operands.length < 2
  | _ => false

def isFault (limit depth : Nat) (p : Part) : Bool := limit < depth || p.isMalformed

/-! ## Going down -/

theorem sizeOf_le_of_mem_elements {t u : Term} (h : u ∈ t.elements) : sizeOf u ≤ sizeOf t := by
  have single (t : Term) (ht : t.isList = false) (h : u ∈ t.elements) : sizeOf u ≤ sizeOf t := by
    rw [Term.elements_of_isList_eq_false ht, List.mem_singleton] at h
    exact Nat.le_of_eq (congrArg sizeOf h)
  induction t using Term.rec (motive_2 := fun _ => True) with
  | cons head tail _ ih =>
    rw [Term.elements_cons, List.mem_cons] at h
    rw [Term.cons.sizeOf_spec]
    obtain rfl | h := h
    · omega
    · have := ih h
      omega
  | nil => simp at h
  | var i => exact single _ rfl h
  | const i => exact single _ rfl h
  | num x => exact single _ rfl h
  | call f args => exact single _ rfl h
  | _ => trivial

theorem sizeOf_ofParameters {depth : Nat} {params : Term} {x : Nat × Part}
    (h : x ∈ ofParameters depth params) : sizeOf x.2 ≤ 1 + sizeOf params := by
  obtain ⟨t, ht, rfl⟩ := List.mem_map.mp h
  have := sizeOf_le_of_mem_elements ht
  simpa using this

theorem sizeOf_ofEffectAtom (mode : EffectMode) (depth : Nat) (p : Predicate) :
    sizeOf (ofEffectAtom mode depth p).2 = 1 + sizeOf p := by
  cases mode <;> simp [ofEffectAtom]

/-- Parts get smaller on the way down. -/
theorem sizeOf_below {depth : Nat} {p : Part} {x : Nat × Part} (h : x ∈ p.below depth) :
    sizeOf x.2 < sizeOf p := by
  cases p with
  | term t =>
    cases t with
    | cons head tail =>
      obtain ⟨u, hu, rfl⟩ := List.mem_map.mp h
      rw [Term.elements_cons, List.mem_cons] at hu
      obtain rfl | hu := hu
      · simp
        omega
      · have := sizeOf_le_of_mem_elements hu
        simp
        omega
    | _ => cases h
  | predicate p =>
    have := sizeOf_ofParameters h
    obtain ⟨head, params⟩ := p
    simp at this ⊢
    omega
  | expression e =>
    cases e with
    | and operands | or operands =>
      obtain ⟨e, he, rfl⟩ := List.mem_map.mp h
      have := List.sizeOf_lt_of_mem he
      simp
      omega
    | call function args =>
      obtain ⟨t, ht, rfl⟩ := List.mem_map.mp h
      have := List.sizeOf_lt_of_mem ht
      simp
      omega
    | all premise consequence =>
      simp [below] at h
      obtain rfl | rfl := h
      all_goals
        simp only [expression.sizeOf_spec, Expression.all.sizeOf_spec]
        omega
    | atom p =>
      rw [below, List.mem_singleton] at h
      simp [h]
    | not e =>
      rw [below, List.mem_singleton] at h
      simp [h]
    | assign i value =>
      rw [below, List.mem_singleton] at h
      simp only [h, term.sizeOf_spec, expression.sizeOf_spec, Expression.assign.sizeOf_spec]
      omega
    | nil => cases h
    | unknown kind => cases h
  | effect mode e =>
    cases e with
    | atom p =>
      rw [below, List.mem_singleton] at h
      rw [h, sizeOf_ofEffectAtom]
      simp only [effect.sizeOf_spec, Effect.atom.sizeOf_spec]
      omega
    | all premise templates =>
      rw [below, List.mem_cons, List.mem_map] at h
      obtain rfl | ⟨p, hp, rfl⟩ := h
      · simp
        omega
      · have := List.sizeOf_lt_of_mem hp
        rw [sizeOf_ofEffectAtom]
        simp
        omega
    | protect target =>
      rw [below, List.mem_singleton] at h
      simp only [h, predicate.sizeOf_spec, effect.sizeOf_spec, Effect.protect.sizeOf_spec]
      omega
    | unknown kind => cases h
  | tasks list =>
    cases list with
    | empty => cases h
    | atom a =>
      have := sizeOf_ofParameters h
      obtain ⟨⟨head, params⟩, isPrimitive⟩ := a
      simp at this ⊢
      omega
    | sequence children =>
      obtain ⟨child, hchild, rfl⟩ := List.mem_map.mp h
      have := List.sizeOf_lt_of_mem hchild
      simp
      omega

/-- A property holds of all parts if a part has it whenever all parts below it do. -/
theorem descent_induction {P : Part → Prop}
    (step : ∀ p, (∀ depth, ∀ x ∈ p.below depth, P x.2) → P p) (p : Part) : P p :=
  step p fun _ x _ => descent_induction step x.2
termination_by sizeOf p
decreasing_by exact sizeOf_below ‹_›

/-- The fault sites from a part at a depth on down. -/
def faultSites (limit depth : Nat) (p : Part) : List (Nat × Part) :=
  if p.isFault limit depth then [(depth, p)]
  else (p.below depth).attach.flatMap fun ⟨x, _⟩ => faultSites limit x.1 x.2
termination_by sizeOf p
decreasing_by exact sizeOf_below ‹_›

theorem faultSites_of_isFault {limit depth : Nat} {p : Part} (h : p.isFault limit depth = true) :
    p.faultSites limit depth = [(depth, p)] := by
  rw [faultSites, if_pos h]

theorem faultSites_of_sound {limit depth : Nat} {p : Part} (h : p.isFault limit depth = false) :
    p.faultSites limit depth = (p.below depth).flatMap fun x => x.2.faultSites limit x.1 := by
  have flat := List.flatMap_subtype (l := (p.below depth).attach)
    (f := fun x => x.1.2.faultSites limit x.1.1) (g := fun x => x.2.faultSites limit x.1)
    fun _ _ => rfl
  rw [List.unattach_attach] at flat
  rw [faultSites, if_neg (by simp [h])]
  exact flat

/-- The parts that are reached from some first ones without passing a fault site. -/
inductive Reached (limit : Nat) (roots : List (Nat × Part)) : Nat → Part → Prop where
  | root {depth : Nat} {p : Part} (h : (depth, p) ∈ roots) : Reached limit roots depth p
  | step {depth depth' : Nat} {p q : Part} (h : Reached limit roots depth p)
      (sound : p.isFault limit depth = false) (hq : (depth', q) ∈ p.below depth) :
      Reached limit roots depth' q

variable {limit : Nat} {roots : List (Nat × Part)}

theorem reached_of_mem_faultSites {depth : Nat} {p : Part} {site : Nat × Part}
    (hp : Reached limit roots depth p) (h : site ∈ p.faultSites limit depth) :
    Reached limit roots site.1 site.2 ∧ site.2.isFault limit site.1 = true := by
  induction p using descent_induction generalizing depth with
  | step p ih =>
    cases hfault : p.isFault limit depth with
    | true =>
      rw [faultSites_of_isFault hfault, List.mem_singleton] at h
      rw [h]
      exact ⟨hp, hfault⟩
    | false =>
      rw [faultSites_of_sound hfault] at h
      obtain ⟨x, hx, hsite⟩ := List.mem_flatMap.mp h
      exact ih depth x hx (hp.step hfault hx) hsite

theorem faultSites_subset_of_reached {depth : Nat} {p : Part} (hp : Reached limit roots depth p) :
    p.faultSites limit depth ⊆ roots.flatMap fun x => x.2.faultSites limit x.1 := by
  induction hp with
  | root h => exact fun site hsite => List.mem_flatMap.mpr ⟨_, h, hsite⟩
  | step _ sound hq ih =>
    refine fun site hsite => ih ?_
    rw [faultSites_of_sound sound]
    exact List.mem_flatMap.mpr ⟨_, hq, hsite⟩

/-- The fault sites are the faulty parts that are reached. -/
theorem mem_faultSites_iff {site : Nat × Part} :
    site ∈ (roots.flatMap fun x => x.2.faultSites limit x.1) ↔
      Reached limit roots site.1 site.2 ∧ site.2.isFault limit site.1 = true := by
  constructor
  · intro h
    obtain ⟨x, hx, hsite⟩ := List.mem_flatMap.mp h
    exact reached_of_mem_faultSites (.root hx) hsite
  · rintro ⟨hreached, hfault⟩
    refine faultSites_subset_of_reached hreached ?_
    rw [faultSites_of_isFault hfault]
    exact List.mem_singleton_self _

end Part

/-! ## Constructs -/

/-- The parts of a precondition, which is not nested in anything. -/
def Part.ofPrecondition (e : Option Expression) : List (Nat × Part) :=
  e.toList.map fun e => (0, .expression e)

/-- The first parts of an operator. A cost and an effect are one level down. -/
def Operator.parts (op : Operator) : List (Nat × Part) :=
  Part.ofParameters 0 op.head.params ++ (op.cost.toList.map fun t => (1, .term t)) ++
    Part.ofPrecondition op.precondition ++
    op.effects.entries.map fun (mode, e) => (1, .effect mode e)

def MethodBranch.parts (branch : MethodBranch) : List (Nat × Part) :=
  Part.ofPrecondition branch.precondition ++ [(0, .tasks branch.tasks)]

def Method.parts (method : Method) : List (Nat × Part) :=
  Part.ofParameters 0 method.head.params ++ method.branches.flatMap MethodBranch.parts

def Axiom.parts (rule : Axiom) : List (Nat × Part) :=
  Part.ofParameters 0 rule.head.params ++
    rule.branches.flatMap fun branch => Part.ofPrecondition branch.precondition

def Domain.parts (domain : Domain) : List (Nat × Part) :=
  domain.operators.flatMap Operator.parts ++ domain.methods.flatMap Method.parts ++
    domain.axioms.flatMap Axiom.parts

/-- The fault sites of a domain. -/
def Domain.faultSites (limit : Nat) (domain : Domain) : List (Nat × Part) :=
  domain.parts.flatMap fun x => x.2.faultSites limit x.1

end TaskNetwork
