import TaskNetwork.Proofs.Domain.Run

/-!
# Building a domain call by call

Whoever builds a domain calls one builder again and again, and goes on after a call that fails. Here
a call is a computation on the builder that checks first and changes it afterwards, so a failure
would keep whatever was changed before it. Nothing ever is: a call that fails leaves the builder
alone, and every other one does what the operation on builders says.
-/

namespace TaskNetwork

/-- A computation on a builder. Where it fails, the builder stays as it is by then. -/
abbrev Building (α : Type) := ExceptT BuildError (StateM DomainBuilder) α

namespace Building

open DomainBuilder (Call)

/-- The answer of a computation, and the builder after it. -/
def on {α : Type} (a : Building α) (b : DomainBuilder) : Except BuildError α × DomainBuilder :=
  StateT.run (ExceptT.run a) b

/-- Fails for the first label that repeats one before it. -/
def checkLabels (construct name : String) (labels : List String) : Building Unit :=
  match firstRepeat? [] labels with
  | some label => throw (.duplicateLabel construct name label)
  | none => return

def addMethod (head : Predicate) (branches : List MethodBranch) : Building (Option Nat) := do
  let task := (← get).domain.symbols.resolve .compoundTask head.head
  if branches.isEmpty then throw (.emptyMethod task)
  checkLabels "method" task (branches.map MethodBranch.label)
  let id := (← get).domain.methods.length
  modify fun b => ⟨{ b.domain with methods := b.domain.methods ++ [⟨id, head, branches⟩] }⟩
  return some id

def addAxiom (head : Predicate) (branches : List AxiomBranch) : Building (Option Nat) := do
  let predicate := (← get).domain.symbols.resolve .constant head.head
  if branches.isEmpty then throw (.emptyAxiom predicate)
  checkLabels "axiom" predicate (branches.map AxiomBranch.label)
  let id := (← get).domain.axioms.length
  modify fun b => ⟨{ b.domain with axioms := b.domain.axioms ++ [⟨id, head, branches⟩] }⟩
  return some id

/-- A call of a builder, which answers with an index or an identifier if there is one. -/
def perform : Call → Building (Option Nat)
  | .intern c name => do
    let (index, b) := (← get).intern c name
    set b
    return some index
  | .addProcedure name => do
    modify (·.addProcedure name)
    return none
  | .addOperator head precondition effects cost => do
    let (id, b) := (← get).addOperator head precondition effects cost
    set b
    return some id
  | .addMethod head branches => addMethod head branches
  | .addAxiom head branches => addAxiom head branches

/-- The calls one after another, also after those that fail, with all answers. -/
def performAll (calls : List Call) : StateM DomainBuilder (List (Except BuildError (Option Nat))) :=
  calls.mapM fun call => ExceptT.run (perform call)

/-! ## One call -/

theorem on_addMethod (head : Predicate) (branches : List MethodBranch) (b : DomainBuilder) :
    (addMethod head branches).on b =
      match b.addMethod head branches with
      | .ok (id, b') => (.ok (some id), b')
      | .error e => (.error e, b) := by
  cases branches with
  | nil => rfl
  | cons first rest =>
    cases h : firstRepeat? [] ((first :: rest).map MethodBranch.label) <;>
      simp only [addMethod, checkLabels, DomainBuilder.addMethod, h] <;> rfl

theorem on_addAxiom (head : Predicate) (branches : List AxiomBranch) (b : DomainBuilder) :
    (addAxiom head branches).on b =
      match b.addAxiom head branches with
      | .ok (id, b') => (.ok (some id), b')
      | .error e => (.error e, b) := by
  cases branches with
  | nil => rfl
  | cons first rest =>
    cases h : firstRepeat? [] ((first :: rest).map AxiomBranch.label) <;>
      simp only [addAxiom, checkLabels, DomainBuilder.addAxiom, h] <;> rfl

/-- A call changes the builder as the operation does, and nothing is left of one that fails. -/
theorem on_perform_snd (call : Call) (b : DomainBuilder) :
    ((perform call).on b).2 = b.apply call := by
  cases call with
  | intern c name => rfl
  | addProcedure name => rfl
  | addOperator head precondition effects cost => rfl
  | addMethod head branches =>
    rw [perform, on_addMethod, DomainBuilder.apply]
    cases b.addMethod head branches <;> rfl
  | addAxiom head branches =>
    rw [perform, on_addAxiom, DomainBuilder.apply]
    cases b.addAxiom head branches <;> rfl

/-- The calls that add a method fail for its labels only. -/
theorem on_addMethod_eq_error_iff {head : Predicate} {branches : List MethodBranch}
    {b : DomainBuilder} {e : BuildError} :
    ((perform (.addMethod head branches)).on b).1 = .error e ↔
      let task := b.domain.symbols.resolve .compoundTask head.head
      Refused (.emptyMethod task) "method" task (branches.map MethodBranch.label) e := by
  rw [perform, on_addMethod, DomainBuilder.addMethod_eq]
  dsimp only
  rw [← refusal?_eq_some_iff]
  cases refusal? _ _ _ (branches.map MethodBranch.label) <;> simp

theorem on_addAxiom_eq_error_iff {head : Predicate} {branches : List AxiomBranch}
    {b : DomainBuilder} {e : BuildError} :
    ((perform (.addAxiom head branches)).on b).1 = .error e ↔
      let predicate := b.domain.symbols.resolve .constant head.head
      Refused (.emptyAxiom predicate) "axiom" predicate (branches.map AxiomBranch.label) e := by
  rw [perform, on_addAxiom, DomainBuilder.addAxiom_eq]
  dsimp only
  rw [← refusal?_eq_some_iff]
  cases refusal? _ _ _ (branches.map AxiomBranch.label) <;> simp

/-- A call that fails adds a method or an axiom, and leaves the builder as it was. -/
theorem on_perform_of_error {call : Call} {b : DomainBuilder} {e : BuildError}
    (h : ((perform call).on b).1 = .error e) : ((perform call).on b).2 = b := by
  cases call with
  | addMethod head branches =>
    rw [perform, on_addMethod] at h ⊢
    cases hadd : b.addMethod head branches with
    | error e => rfl
    | ok added => simp [hadd] at h
  | addAxiom head branches =>
    rw [perform, on_addAxiom] at h ⊢
    cases hadd : b.addAxiom head branches with
    | error e => rfl
    | ok added => simp [hadd] at h
  | _ => cases h

/-! ## Runs -/

/-- The builder after a run is the one that its calls leave behind, whether they fail or not. -/
theorem performAll_snd (calls : List Call) (b : DomainBuilder) :
    (StateT.run (performAll calls) b).2 = b.run calls := by
  induction calls generalizing b with
  | nil => rfl
  | cons call rest ih =>
    rw [performAll, List.mapM_cons]
    change (StateT.run (performAll rest) ((perform call).on b).2).2 = (b.apply call).run rest
    rw [on_perform_snd]
    exact ih (b.apply call)

end Building

namespace DomainBuilder

/-- The procedure that a call asks to add. -/
def Call.procedure? : Call → Option String
  | addProcedure name => some name
  | _ => none

theorem procedures_apply (b : DomainBuilder) (call : Call) :
    (b.apply call).domain.procedures =
      b.domain.procedures ++ call.procedure?.toList.removeAll b.domain.procedures := by
  cases call with
  | addProcedure name =>
    by_cases h : name ∈ b.domain.procedures <;>
      simp [apply, addProcedure, Call.procedure?, List.removeAll, h]
  | addMethod head branches =>
    simp only [apply, addMethod_eq]
    cases refusal? _ _ _ (branches.map MethodBranch.label) <;>
      simp [Call.procedure?, List.removeAll]
  | addAxiom head branches =>
    simp only [apply, addAxiom_eq]
    cases refusal? _ _ _ (branches.map AxiomBranch.label) <;>
      simp [Call.procedure?, List.removeAll]
  | _ => simp [apply, intern, addOperator, Call.procedure?, List.removeAll]

/-- The procedures of a domain are those that were added, each at its first use. -/
theorem procedures_run (name : String) (calls : List Call) :
    ((new name).run calls).domain.procedures =
      (calls.filterMap Call.procedure?).eraseDups := by
  have h := view_foldl (P := fun _ => True) (fun b : DomainBuilder => b.domain.procedures)
    (fun _ _ _ => trivial) (fun b call _ => procedures_apply b call) calls (s := new name) trivial
  have hnew : (new name).domain.procedures = [] := rfl
  rw [hnew] at h
  simpa [run, List.removeAll] using h

/-- After any calls, also after some that failed: a call that fails leaves the builder as it was;
one that adds a method or an axiom fails for missing branches or for the first repeated label, and
for nothing else; and the finished domain is in order. -/
theorem building_contract (name : String) (calls : List Call) :
    let b := (new name).run calls
    let domain := b.finish
    (StateT.run (Building.performAll calls) (new name)).2 = b ∧
      (∀ call e, ((Building.perform call).on b).1 = .error e →
        ((Building.perform call).on b).2 = b) ∧
      (∀ head (branches : List MethodBranch),
        let task := b.domain.symbols.resolve .compoundTask head.head
        let labels := branches.map MethodBranch.label
        let answer := ((Building.perform (.addMethod head branches)).on b).1
        (∀ e, answer = .error e ↔ Refused (.emptyMethod task) "method" task labels e) ∧
          ((∃ e, answer = .error e) ↔ branches = [] ∨ ¬ labels.Nodup)) ∧
      (∀ head (branches : List AxiomBranch),
        let predicate := b.domain.symbols.resolve .constant head.head
        let labels := branches.map AxiomBranch.label
        let answer := ((Building.perform (.addAxiom head branches)).on b).1
        (∀ e, answer = .error e ↔ Refused (.emptyAxiom predicate) "axiom" predicate labels e) ∧
          ((∃ e, answer = .error e) ↔ branches = [] ∨ ¬ labels.Nodup)) ∧
      domain.Numbered ∧ domain.WellLabelled ∧
      domain.procedures = (calls.filterMap Call.procedure?).eraseDups := by
  intro b domain
  refine ⟨Building.performAll_snd calls (new name), fun call e => Building.on_perform_of_error,
    ?_, ?_, numbered_finish name calls, wellLabelled_finish name calls, procedures_run name calls⟩
  · intro head branches task labels answer
    have hanswer (e : BuildError) :
        answer = .error e ↔ Refused (.emptyMethod task) "method" task labels e :=
      Building.on_addMethod_eq_error_iff
    refine ⟨hanswer, ?_⟩
    simp only [hanswer, exists_refused_iff, labels, List.map_eq_nil_iff]
  · intro head branches predicate labels answer
    have hanswer (e : BuildError) :
        answer = .error e ↔ Refused (.emptyAxiom predicate) "axiom" predicate labels e :=
      Building.on_addAxiom_eq_error_iff
    refine ⟨hanswer, ?_⟩
    simp only [hanswer, exists_refused_iff, labels, List.map_eq_nil_iff]

end DomainBuilder

end TaskNetwork
