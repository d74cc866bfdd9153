import Mathlib.Data.List.Basic
import TaskNetwork.Document.Basic
import TaskNetwork.Proofs.Induction
import TaskNetwork.Proofs.Term.Elements
import TaskNetwork.Summary.Reader

/-!
# Reading what was written

The summary of a model is defined from the model itself. A document of the model reads back as this
summary, whatever was replaced by error nodes in it.
-/

namespace TaskNetwork

/-! ## Summaries of models -/

def TaskAtom.reference (enc : Encoder) (depth : Nat) (a : TaskAtom) : TaskReference where
  name := enc.symbolName a.category a.head.head
  kind := if a.isPrimitive then .primitive else .compound
  parameters := a.head.params.parametersAt enc depth

namespace TaskList

mutual

/-- The atoms from left to right, each with the number of sequences around it. -/
def atomsAt (depth : Nat) : TaskList → List (Nat × TaskAtom)
  | empty => []
  | atom a => [(depth, a)]
  | sequence children => atomsListAt (depth + 1) children

def atomsListAt (depth : Nat) : List TaskList → List (Nat × TaskAtom)
  | [] => []
  | child :: rest => child.atomsAt depth ++ atomsListAt depth rest

end

/-- References to the tasks that are within the depth limit. -/
def references (enc : Encoder) (list : TaskList) : List TaskReference :=
  ((list.atomsAt 0).filter fun (depth, _) => enc.allows depth).map fun (depth, a) =>
    a.reference enc depth

end TaskList

def Operator.summary (enc : Encoder) (op : Operator) : OperatorSummary where
  name := enc.symbolName .primitiveTask op.head.head
  arity := op.head.params.elements.length
  preconditions := Expression.encodeOption enc op.precondition
  effects := op.effects.delete.length + op.effects.add.length
  cost := op.cost.map (Term.encodeAt enc 1)
  errorNodes := (op.encode enc).errorCount

def MethodBranch.summary (enc : Encoder) (branch : MethodBranch) : BranchSummary where
  name := branch.label
  preconditions := Expression.encodeOption enc branch.precondition
  tasks := branch.tasks.references enc

def Method.summary (enc : Encoder) (method : Method) : MethodSummary where
  name := enc.symbolName .compoundTask method.head.head
  arity := method.head.params.elements.length
  branches := method.branches.map (MethodBranch.summary enc)
  errorNodes := (method.encode enc).errorCount

def Axiom.summary (enc : Encoder) (rule : Axiom) : AxiomSummary where
  name := enc.symbolName .constant rule.head.head
  arity := rule.head.params.elements.length
  branches := rule.branches.map AxiomBranch.label
  errorNodes := (rule.encode enc).errorCount

def Domain.summary (options : EncoderOptions) (domain : Domain) : DomainSummary :=
  let enc : Encoder := ⟨domain.symbols, options⟩
  { name := domain.name
    operators := domain.operators.map (Operator.summary enc)
    methods := domain.methods.map (Method.summary enc)
    axioms := domain.axioms.map (Axiom.summary enc)
    procedures := domain.procedures }

def Predicate.factSummary (enc : Encoder) (fact : Predicate) : FactSummary where
  predicate := enc.symbolName .constant fact.head
  parameters := fact.params.elements.map (Term.text enc)

def Problem.summary (options : EncoderOptions) (p : Problem) : ProblemSummary :=
  let enc : Encoder := ⟨p.symbols, options⟩
  { name := p.name
    goal := p.goal.references enc
    init := p.init.map (Predicate.factSummary enc)
    additionalConstants := p.additionalConstants }

/-- The summary of a domain and perhaps a problem over it. -/
def Summary.ofModel (domain : Domain) (problem : Option Problem) (options : EncoderOptions) :
    Summary where
  requirements := domain.requirements.tags
  domain := some (domain.summary options)
  problem := problem.map (Problem.summary options)

/-! ## Fields -/

/-- Items that were written one by one are read one by one. -/
theorem mapM_map_ok {ε α β γ : Type} {read : β → Except ε γ} {write : α → β} {value : α → γ}
    (h : ∀ x, read (write x) = .ok (value x)) (xs : List α) :
    (xs.map write).mapM read = .ok (xs.map value) := by
  induction xs with
  | nil => rfl
  | cons x rest ih => simp [h, ih, bind, Except.bind, pure, Except.pure]

namespace Json

@[simp] theorem stringArray_strings (field : String) (items : List String) :
    stringArray field (strings items) = .ok items := by
  simp only [strings, stringArray]
  induction items with
  | nil => rfl
  | cons s rest ih => simp [ih, bind, Except.bind, pure, Except.pure]

end Json

/-! ## Task lists -/

theorem TaskAtom.isErrorNode_encodeAt (enc : Encoder) (depth : Nat) (a : TaskAtom) :
    (a.encodeAt enc depth).isErrorNode = false := by
  cases h : a.isPrimitive <;> simp [TaskAtom.encodeAt, Json.isErrorNode, Json.str?, h, List.lookup_cons]

theorem Encoder.isErrorNode_tooDeep (enc : Encoder) : enc.tooDeep.isErrorNode = true := rfl

theorem TaskAtom.read_encodeAt (enc : Encoder) (depth : Nat) (a : TaskAtom) :
    TaskReference.read (a.encodeAt enc depth) = .ok (a.reference enc depth) := by
  cases h : a.isPrimitive <;>
    simp [TaskReference.read, TaskAtom.encodeAt, TaskAtom.reference, Json.requiredString,
      Json.required, List.lookup_cons, bind, Except.bind, pure, Except.pure, TaskKind.ofNodeType?, h]

namespace TaskList

theorem atomsListAt_eq_flatMap (depth : Nat) (children : List TaskList) :
    atomsListAt depth children = children.flatMap (atomsAt depth) := by
  induction children with
  | nil => rfl
  | cons child rest ih => simp [atomsListAt, ih]

theorem le_of_mem_atomsAt {list : TaskList} {depth : Nat} {x : Nat × TaskAtom}
    (h : x ∈ list.atomsAt depth) : depth ≤ x.1 := by
  induction list generalizing depth with
  | empty => simp [atomsAt] at h
  | atom a =>
    rw [atomsAt, List.mem_singleton] at h
    simp [h]
  | sequence children ih =>
    rw [atomsAt, atomsListAt_eq_flatMap, List.mem_flatMap] at h
    obtain ⟨child, hmem, hx⟩ := h
    have := ih child hmem hx
    omega

/-- The nodes of a list without its error nodes are those of its atoms within the limit. -/
theorem filter_nodesAt (enc : Encoder) (list : TaskList) (depth : Nat) :
    (list.nodesAt enc depth).filter (fun node => !node.isErrorNode) =
      ((list.atomsAt depth).filter fun (depth, _) => enc.allows depth).map fun (depth, a) =>
        a.encodeAt enc depth := by
  induction list generalizing depth with
  | empty =>
    unfold nodesAt
    split <;> simp [atomsAt, Encoder.isErrorNode_tooDeep]
  | atom a =>
    unfold nodesAt
    split <;> simp_all [atomsAt, Encoder.isErrorNode_tooDeep, TaskAtom.isErrorNode_encodeAt]
  | sequence children ih =>
    unfold nodesAt
    split
    · dsimp only
      rw [atomsAt, nodesListAt_eq_flatMap, atomsListAt_eq_flatMap, List.filter_flatMap,
        List.filter_flatMap, List.map_flatMap]
      exact List.flatMap_congr fun child hmem => ih child hmem _
    · -- Every atom inside is at least as deep as the list.
      have none : ((sequence children).atomsAt depth).filter (fun (d, _) => enc.allows d) = [] := by
        rw [List.filter_eq_nil_iff]
        intro x hx
        have := le_of_mem_atomsAt hx
        simp_all [Encoder.allows]
        omega
      simp [none, Encoder.isErrorNode_tooDeep]

theorem readAll_encode (enc : Encoder) (list : TaskList) :
    TaskReference.readAll (list.encode enc) = .ok (list.references enc) := by
  have hread (x : Nat × TaskAtom) :
      TaskReference.read (x.2.encodeAt enc x.1) = .ok (x.2.reference enc x.1) :=
    TaskAtom.read_encodeAt enc x.1 x.2
  simp only [encode, TaskReference.readAll, filter_nodesAt]
  exact mapM_map_ok hread _

end TaskList

/-! ## Constructs -/

theorem Operator.read_encode (enc : Encoder) (op : Operator) :
    OperatorSummary.read (op.encode enc) = .ok (op.summary enc) := by
  have hparams : op.head.params.parameters enc = .arr _ := Term.parametersAt_eq enc 0 _
  cases hcost : op.cost <;>
    simp [OperatorSummary.read, Operator.summary, Operator.encode, hcost, hparams,
      EffectLists.encode, EffectLists.entries, Json.requiredString, Json.requiredArray, Json.arity,
      Json.required, List.lookup_cons, bind, Except.bind, pure, Except.pure]

theorem MethodBranch.read_encode (enc : Encoder) (branch : MethodBranch) :
    BranchSummary.read (branch.encode enc) = .ok (branch.summary enc) := by
  simp [BranchSummary.read, MethodBranch.summary, MethodBranch.encode, TaskList.readAll_encode,
    Json.requiredString, Json.required, List.lookup_cons, bind, Except.bind, pure, Except.pure]

theorem Method.read_encode (enc : Encoder) (method : Method) :
    MethodSummary.read (method.encode enc) = .ok (method.summary enc) := by
  have hparams : method.head.params.parameters enc = .arr _ := Term.parametersAt_eq enc 0 _
  have hbranches := mapM_map_ok (MethodBranch.read_encode enc) method.branches
  simp [MethodSummary.read, Method.summary, Method.encode, hparams, hbranches, Json.requiredString,
    Json.requiredArray, Json.arity, Json.required, List.lookup_cons, bind, Except.bind, pure,
    Except.pure]

theorem Axiom.read_encode (enc : Encoder) (rule : Axiom) :
    AxiomSummary.read (rule.encode enc) = .ok (rule.summary enc) := by
  have hparams : rule.head.params.parameters enc = .arr _ := Term.parametersAt_eq enc 0 _
  have hlabel (branch : AxiomBranch) :
      (branch.encode enc).requiredString "name" = .ok branch.label := rfl
  have hbranches := mapM_map_ok hlabel rule.branches
  simp [AxiomSummary.read, Axiom.summary, Axiom.encode, hparams, hbranches, Json.requiredString,
    Json.requiredArray, Json.arity, Json.required, List.lookup_cons, bind, Except.bind, pure,
    Except.pure]

theorem Domain.read_encode (options : EncoderOptions) (domain : Domain) :
    DomainSummary.read (domain.encode options) = .ok (domain.summary options) := by
  have hops := mapM_map_ok (Operator.read_encode ⟨domain.symbols, options⟩) domain.operators
  have hmethods := mapM_map_ok (Method.read_encode ⟨domain.symbols, options⟩) domain.methods
  have haxioms := mapM_map_ok (Axiom.read_encode ⟨domain.symbols, options⟩) domain.axioms
  simp [DomainSummary.read, Domain.summary, Domain.encode, hops, hmethods, haxioms,
    Json.requiredString, Json.requiredArray, Json.required, List.lookup_cons, bind, Except.bind, pure,
    Except.pure]

/-! ## Problems -/

theorem Predicate.read_encodeFact (enc : Encoder) (fact : Predicate) :
    FactSummary.read (fact.encodeFact enc) = .ok (fact.factSummary enc) := by
  simp [FactSummary.read, Predicate.factSummary, Predicate.encodeFact, Json.requiredString,
    Json.required, List.lookup_cons, bind, Except.bind, pure, Except.pure]

theorem Problem.read_encode (options : EncoderOptions) (p : Problem) :
    ProblemSummary.read (p.encode options) = .ok (p.summary options) := by
  have hgoal := p.goal.readAll_encode ⟨p.symbols, options⟩
  have hinit := mapM_map_ok (Predicate.read_encodeFact ⟨p.symbols, options⟩) p.init
  simp [ProblemSummary.read, Problem.summary, Problem.encode, hgoal, hinit, Json.requiredString,
    Json.requiredArray, Json.required, List.lookup_cons, bind, Except.bind, pure, Except.pure]

/-! ## Documents -/

/-- A problem section that was written, or left out, is read as such. -/
theorem readSection_problem {d : Document} {problem : Option Problem} {options : EncoderOptions}
    (h : d.problem = problem.map (Problem.encode options)) :
    readSection "problem" ProblemSummary.read d.toJson =
      .ok (problem.map (Problem.summary options)) := by
  cases problem <;> simp_all [readSection, Problem.read_encode, Except.map]

theorem readSection_domain {d : Document} {domain : Option Domain} {options : EncoderOptions}
    (h : d.domain = domain.map (Domain.encode options)) :
    readSection "domain" DomainSummary.read d.toJson =
      .ok (domain.map (Domain.summary options)) := by
  cases domain <;> simp_all [readSection, Domain.read_encode, Except.map]

theorem readRequirements_toJson {d : Document} {hasDomain : Bool}
    (h : d.requirements = none → hasDomain = false) :
    readRequirements hasDomain d.toJson =
      .ok ((d.requirements.map RequirementSet.tags).getD []) := by
  cases hreq : d.requirements with
  | none => simp [readRequirements, hreq, h hreq]
  | some requirements => simp [readRequirements, hreq, RequirementSet.toJson]

namespace Document

/-- A document with at least one section, and with requirements if it has a domain, is read section
by section. -/
theorem read_toJson {d : Document} (domain : Option Domain) (problem : Option Problem)
    {options : EncoderOptions} (hdomain : d.domain = domain.map (Domain.encode options))
    (hproblem : d.problem = problem.map (Problem.encode options))
    (hsection : domain ≠ none ∨ problem ≠ none) (hreq : d.requirements = none → domain = none) :
    Summary.read d.toJson = .ok {
      requirements := (d.requirements.map RequirementSet.tags).getD []
      domain := domain.map (Domain.summary options)
      problem := problem.map (Problem.summary options) } := by
  have hreq' : readRequirements (domain.map (Domain.summary options)).isSome d.toJson =
      .ok ((d.requirements.map RequirementSet.tags).getD []) := by
    refine readRequirements_toJson fun h => ?_
    simp [hreq h]
  have hne : ((domain.map (Domain.summary options)).isNone &&
      (problem.map (Problem.summary options)).isNone) = false := by
    cases domain <;> cases problem <;> simp_all
  have hread : Summary.read d.toJson = do
      let domain ← readSection "domain" DomainSummary.read d.toJson
      let problem ← readSection "problem" ProblemSummary.read d.toJson
      if domain.isNone && problem.isNone then .error (.invalid .noSection)
      else return { requirements := ← readRequirements domain.isSome d.toJson, domain, problem } :=
    rfl
  rw [hread, readSection_domain hdomain, readSection_problem hproblem]
  simp only [bind, Except.bind, hne, hreq', pure, Except.pure, Bool.false_eq_true, if_false]

/-- What is written of a model reads back as its summary, and without a precondition exactly where
the model has none. -/
theorem read_built (domain : Domain) (problem : Option Problem) (options : EncoderOptions) :
    Summary.read (build domain problem options).toJson =
        .ok (Summary.ofModel domain problem options) ∧
      (∀ p : Problem, Summary.read (problemOnly p options).toJson =
        .ok { requirements := [], domain := none, problem := some (p.summary options) }) ∧
      (∀ (enc : Encoder) (op : Operator),
        (op.summary enc).preconditions = .null ↔ op.precondition = none) ∧
      (∀ (enc : Encoder) (branch : MethodBranch),
        (branch.summary enc).preconditions = .null ↔ branch.precondition = none) := by
  refine ⟨?_, ?_, ?_, ?_⟩
  · exact read_toJson (some domain) problem rfl rfl (.inl nofun) nofun
  · intro p
    exact read_toJson none (some p) rfl rfl (.inr nofun) fun _ => rfl
  · intro enc op
    exact Expression.encodeOption_eq_null_iff
  · intro enc branch
    exact Expression.encodeOption_eq_null_iff

end Document

end TaskNetwork
