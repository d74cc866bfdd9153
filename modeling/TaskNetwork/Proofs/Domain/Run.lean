import TaskNetwork.Proofs.Domain.Refusal
import TaskNetwork.Proofs.Symbol.Run

/-!
# Runs of a domain builder

A domain is what a builder holds after any sequence of calls. What the new builder has and every
step keeps is true of every domain: no method and no axiom is without branches or has two of the
same label, constructs are numbered by their places, and no name stands for two symbols of a
category.
-/

namespace TaskNetwork

namespace DomainBuilder

/-- A call of a builder. -/
inductive Call where
  | intern (c : Category) (name : String)
  | addProcedure (name : String)
  | addOperator (head : Predicate) (precondition : Option Expression) (effects : EffectLists)
      (cost : Option Term)
  | addMethod (head : Predicate) (branches : List MethodBranch)
  | addAxiom (head : Predicate) (branches : List AxiomBranch)

/-- The builder after a call. A call that is refused changes nothing. -/
def apply (b : DomainBuilder) : Call → DomainBuilder
  | .intern c name => (b.intern c name).2
  | .addProcedure name => b.addProcedure name
  | .addOperator head precondition effects cost =>
    (b.addOperator head precondition effects cost).2
  | .addMethod head branches =>
    match b.addMethod head branches with
    | .ok (_, b') => b'
    | .error _ => b
  | .addAxiom head branches =>
    match b.addAxiom head branches with
    | .ok (_, b') => b'
    | .error _ => b

def run (b : DomainBuilder) (calls : List Call) : DomainBuilder := calls.foldl apply b

/-- What every call keeps is kept by a run. -/
theorem run_induction {P : DomainBuilder → Prop} (step : ∀ b call, P b → P (b.apply call))
    (b : DomainBuilder) (calls : List Call) (h : P b) : P (b.run calls) := by
  induction calls generalizing b with
  | nil => exact h
  | cons call rest ih => exact ih (b.apply call) (step b call h)

end DomainBuilder

/-- What a call can do to the domain of a builder. -/
inductive Domain.Step (d : Domain) : Domain → Prop
  | none : Step d d
  | symbol (c : Category) (name : String) :
      Step d { d with symbols := d.symbols.apply (.intern c name) }
  | procedure (name : String) (fresh : name ∉ d.procedures) :
      Step d { d with procedures := d.procedures ++ [name] }
  | operator (op : Operator) (number : op.id = d.operators.length) :
      Step d { d with operators := d.operators ++ [op] }
  | method (method : Method) (number : method.id = d.methods.length)
      (nonempty : method.branches ≠ [])
      (distinct : (method.branches.map MethodBranch.label).Nodup) :
      Step d { d with methods := d.methods ++ [method] }
  | rule (rule : Axiom) (number : rule.id = d.axioms.length) (nonempty : rule.branches ≠ [])
      (distinct : (rule.branches.map AxiomBranch.label).Nodup) :
      Step d { d with axioms := d.axioms ++ [rule] }

namespace DomainBuilder

theorem step_apply (b : DomainBuilder) (call : Call) : b.domain.Step (b.apply call).domain := by
  cases call with
  | intern c name => exact .symbol c name
  | addProcedure name =>
    simp only [apply, addProcedure]
    split
    · exact .none
    · rename_i fresh
      exact .procedure name (by simpa using fresh)
  | addOperator head precondition effects cost => exact .operator _ rfl
  | addMethod head branches =>
    simp only [apply, addMethod_eq]
    cases hrefusal : refusal? _ _ _ (branches.map MethodBranch.label) with
    | some e => exact .none
    | none =>
      obtain ⟨nonempty, distinct⟩ := refusal?_eq_none_iff.mp hrefusal
      exact .method ⟨_, head, branches⟩ rfl (by simpa using nonempty) distinct
  | addAxiom head branches =>
    simp only [apply, addAxiom_eq]
    cases hrefusal : refusal? _ _ _ (branches.map AxiomBranch.label) with
    | some e => exact .none
    | none =>
      obtain ⟨nonempty, distinct⟩ := refusal?_eq_none_iff.mp hrefusal
      exact .rule ⟨_, head, branches⟩ rfl (by simpa using nonempty) distinct

/-- What every step keeps is true of the domain after a run. -/
theorem domain_induction {P : Domain → Prop} (step : ∀ {d d' : Domain}, d.Step d' → P d → P d')
    (name : String) (calls : List Call) (h : P (new name).domain) :
    P ((new name).run calls).domain :=
  run_induction (P := fun b => P b.domain) (fun b call => step (b.step_apply call)) (new name) calls
    h

end DomainBuilder

/-! ## Branches -/

/-- No method and no axiom of the domain is without branches. -/
structure Domain.HasBranches (domain : Domain) : Prop where
  methods : ∀ method ∈ domain.methods, method.branches ≠ []
  axioms : ∀ rule ∈ domain.axioms, rule.branches ≠ []

/-- Every method and every axiom of the domain has branches, and their labels differ. -/
structure Domain.WellLabelled (domain : Domain) : Prop where
  methods : ∀ method ∈ domain.methods,
    method.branches ≠ [] ∧ (method.branches.map MethodBranch.label).Nodup
  axioms : ∀ rule ∈ domain.axioms,
    rule.branches ≠ [] ∧ (rule.branches.map AxiomBranch.label).Nodup

theorem Domain.WellLabelled.step {d d' : Domain} (step : d.Step d') (h : d.WellLabelled) :
    d'.WellLabelled := by
  cases step with
  | none => exact h
  | symbol c name => exact ⟨h.methods, h.axioms⟩
  | procedure name fresh => exact ⟨h.methods, h.axioms⟩
  | operator op number => exact ⟨h.methods, h.axioms⟩
  | method method number nonempty distinct =>
    exact ⟨List.forall_mem_append.mpr ⟨h.methods, by simpa using ⟨nonempty, distinct⟩⟩, h.axioms⟩
  | rule rule number nonempty distinct =>
    exact ⟨h.methods, List.forall_mem_append.mpr ⟨h.axioms, by simpa using ⟨nonempty, distinct⟩⟩⟩

namespace DomainBuilder

theorem wellLabelled_finish (name : String) (calls : List Call) :
    ((new name).run calls).finish.WellLabelled := by
  have h := domain_induction Domain.WellLabelled.step name calls ⟨by simp [new], by simp [new]⟩
  exact ⟨h.methods, h.axioms⟩

/-- Every finished domain has branches throughout. -/
theorem hasBranches_finish (name : String) (calls : List Call) :
    ((new name).run calls).finish.HasBranches :=
  have h := wellLabelled_finish name calls
  ⟨fun method hmem => (h.methods method hmem).1, fun rule hmem => (h.axioms rule hmem).1⟩

end DomainBuilder

/-! ## Numbers -/

/-- Every construct of the domain has its place among those of its kind as its identifier. -/
structure Domain.Numbered (domain : Domain) : Prop where
  operators : domain.operators.map Operator.id = List.range domain.operators.length
  methods : domain.methods.map Method.id = List.range domain.methods.length
  axioms : domain.axioms.map Axiom.id = List.range domain.axioms.length

namespace DomainBuilder

/-- A construct that is added gets the next number. -/
theorem map_id_append {α : Type} {id : α → Nat} {constructs : List α}
    (h : constructs.map id = List.range constructs.length) {x : α} (hx : id x = constructs.length) :
    (constructs ++ [x]).map id = List.range (constructs ++ [x]).length := by
  simp [h, hx, List.range_succ]

end DomainBuilder

theorem Domain.Numbered.step {d d' : Domain} (step : d.Step d') (h : d.Numbered) :
    d'.Numbered := by
  cases step with
  | none => exact h
  | symbol c name => exact ⟨h.operators, h.methods, h.axioms⟩
  | procedure name fresh => exact ⟨h.operators, h.methods, h.axioms⟩
  | operator op number =>
    exact ⟨DomainBuilder.map_id_append h.operators number, h.methods, h.axioms⟩
  | method method number nonempty distinct =>
    exact ⟨h.operators, DomainBuilder.map_id_append h.methods number, h.axioms⟩
  | rule rule number nonempty distinct =>
    exact ⟨h.operators, h.methods, DomainBuilder.map_id_append h.axioms number⟩

namespace DomainBuilder

theorem numbered_finish (name : String) (calls : List Call) :
    ((new name).run calls).finish.Numbered := by
  have h := domain_induction Domain.Numbered.step name calls ⟨rfl, rfl, rfl⟩
  exact ⟨h.operators, h.methods, h.axioms⟩

/-! ## Symbols -/

/-- The symbols of a builder are those of an open table after some operations. -/
theorem exists_symbols_run_eq (name : String) (calls : List Call) :
    ∃ operations, ((new name).run calls).domain.symbols = SymbolTable.empty.run operations ∧
      ((new name).run calls).domain.symbols.frozenAt = none := by
  refine domain_induction (P := fun d => ∃ operations,
    d.symbols = SymbolTable.empty.run operations ∧ d.symbols.frozenAt = none) ?_ name calls
    ⟨[], rfl, rfl⟩
  intro d d' step h
  cases step with
  | symbol c name =>
    obtain ⟨operations, hd, hopen⟩ := h
    refine ⟨operations ++ [.intern c name], ?_, ?_⟩
    · rw [SymbolTable.run_append, ← hd]
      rfl
    · simpa [SymbolTable.apply, SymbolTable.intern] using hopen
  | _ => exact h

/-- The symbols of a finished domain are those of a table after some operations. -/
theorem exists_symbols_finish_eq (name : String) (calls : List Call) :
    ∃ operations, ((new name).run calls).finish.symbols = SymbolTable.empty.run operations := by
  obtain ⟨operations, h, -⟩ := exists_symbols_run_eq name calls
  refine ⟨operations ++ [.freeze], ?_⟩
  rw [SymbolTable.run_append, ← h]
  rfl

/-- All constants of a finished domain are its own. -/
theorem frozenAt_finish (name : String) (calls : List Call) :
    let domain := ((new name).run calls).finish
    domain.symbols.frozenAt = some (domain.symbols.size .constant) := by
  obtain ⟨-, -, hopen⟩ := exists_symbols_run_eq name calls
  have hsize : (((new name).run calls).finish).symbols.size .constant =
      ((new name).run calls).domain.symbols.size .constant := by
    rw [SymbolTable.size, finish, SymbolTable.names_freeze, SymbolTable.size]
  intro domain
  rw [hsize]
  simp [domain, finish, SymbolTable.freeze, hopen]

theorem nodup_names_finish (name : String) (calls : List Call) (c : Category) :
    (((new name).run calls).finish.symbols.names c).Nodup := by
  obtain ⟨operations, h⟩ := exists_symbols_finish_eq name calls
  rw [h]
  exact SymbolTable.nodup_names_run operations c

end DomainBuilder

end TaskNetwork
