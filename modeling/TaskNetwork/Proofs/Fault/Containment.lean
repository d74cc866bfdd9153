import TaskNetwork.Proofs.Fault.Site
import TaskNetwork.Proofs.Json.ErrorCount
import TaskNetwork.Proofs.Summary.Reading

/-!
# Containment of faults

Every fault site becomes one error node, and there are no others. One step down is enough: the error
nodes of a part are one if it is faulty, and else those of the parts right below it.
-/

namespace TaskNetwork

attribute [local simp] Json.errorCount_obj Json.errorCount_arr Json.isErrorNode Json.str?
  List.lookup_cons Function.comp_def

/-! ## Counts of nodes -/

namespace Json

@[simp] theorem errorCount_str (s : String) : (str s).errorCount = 0 := by
  simp [errorCount]

@[simp] theorem errorCount_bool (b : Bool) : (bool b).errorCount = 0 := by
  simp [errorCount]

@[simp] theorem errorCount_null : null.errorCount = 0 := by
  simp [errorCount]

@[simp] theorem errorCount_strings (items : List String) : (strings items).errorCount = 0 := by
  simp [strings]

end Json

@[simp] theorem Fault.errorCount_node (f : Fault) : f.node.errorCount = 1 := by
  simp [node]

namespace Encoder

theorem errorCount_named {name kind : String} (h : kind ≠ "error") :
    (named name kind).errorCount = 0 := by
  simp [named, h]

@[simp] theorem errorCount_variableNodes (enc : Encoder) (indices : List Nat) :
    (enc.variableNodes indices).errorCount = 0 := by
  simp [variableNodes, errorCount_named]

end Encoder

namespace Expression

theorem conjunctionNode_of_lt {operands : List Json} (h : operands.length < 2) :
    conjunctionNode operands = (Fault.tooFewOperands "conjunction" operands.length).node := by
  unfold conjunctionNode
  split
  · simp at h
  · rw [if_pos h]

theorem errorCount_conjunctionNode {operands : List Json} (h : ¬ operands.length < 2) :
    (conjunctionNode operands).errorCount = (operands.map Json.errorCount).sum := by
  unfold conjunctionNode
  split
  · simp
  · simp [h]

theorem errorCount_disjunctionNode {operands : List Json} (h : ¬ operands.length < 2) :
    (disjunctionNode operands).errorCount = (operands.map Json.errorCount).sum := by
  simp [disjunctionNode, h]

end Expression

/-! ## One step -/

namespace Part

/-- The nodes that a part is written as: one, but for a task list. -/
def nodes (enc : Encoder) (depth : Nat) : Part → List Json
  | term t => [t.encodeAt enc depth]
  | predicate p => [p.encodeAt enc .constant depth]
  | expression e => [e.encodeAt enc depth]
  | effect mode e => [e.encodeAt enc mode depth]
  | tasks list => list.nodesAt enc depth

/-- The number of error nodes in a part. -/
def errorCount (enc : Encoder) (depth : Nat) (p : Part) : Nat :=
  ((p.nodes enc depth).map Json.errorCount).sum

/-- The number of error nodes in several parts. -/
def errorTotal (enc : Encoder) (parts : List (Nat × Part)) : Nat :=
  (parts.map fun x => x.2.errorCount enc x.1).sum

variable {enc : Encoder} {depth : Nat}

theorem errorTotal_append (parts parts' : List (Nat × Part)) :
    errorTotal enc (parts ++ parts') = errorTotal enc parts + errorTotal enc parts' := by
  simp [errorTotal]

theorem errorCount_parametersAt (t : Term) :
    (t.parametersAt enc depth).errorCount = errorTotal enc (ofParameters depth t) := by
  simp [Term.parametersAt_eq, errorTotal, ofParameters, errorCount, nodes]

theorem errorCount_encodeEffectAt (mode : EffectMode) (p : Predicate) :
    (p.encodeEffectAt enc mode depth).errorCount =
      errorTotal enc [ofEffectAtom mode depth p] := by
  cases mode <;>
    simp [Predicate.encodeEffectAt, ofEffectAtom, errorTotal, errorCount, nodes]

theorem isFault_eq (p : Part) :
    p.isFault enc.options.maxDepth depth = (!enc.allows depth || p.isMalformed) := by
  simp only [isFault, Encoder.allows, ← Nat.not_le, decide_not]

theorem nodes_of_tooDeep (h : enc.allows depth = false) (p : Part) :
    p.nodes enc depth = [enc.tooDeep] := by
  cases p with
  | term t =>
    cases hlist : t.isList with
    | true => simp [nodes, Term.encodeAt_of_isList hlist, h]
    | false => simp [nodes, Term.encodeAt_of_isList_eq_false hlist, Term.leafAt, h]
  | predicate p => simp [nodes, Predicate.encodeAt, h]
  | expression e => simp [nodes, Expression.encodeAt.eq_def, h]
  | effect mode e => simp [nodes, Effect.encodeAt, h]
  | tasks list => simp [nodes, TaskList.nodesAt.eq_def, h]

theorem nodes_of_malformed (h : enc.allows depth = true) {p : Part}
    (hp : p.isMalformed = true) : ∃ fault : Fault, p.nodes enc depth = [fault.node] := by
  cases p with
  | term t =>
    cases t with
    | num x =>
      have hx : x.isFinite = false := by simpa [isMalformed] using hp
      exact ⟨.nonFiniteNumber x, by simp [nodes, Term.encodeAt, Term.leafAt, h, hx]⟩
    | _ => cases hp
  | expression e =>
    cases e with
    | and operands =>
      have hlength : operands.length < 2 := by simpa [isMalformed] using hp
      exact ⟨.tooFewOperands "conjunction" operands.length, by
        simp [nodes, Expression.encodeAt, h, Expression.encodeListAt_eq_map,
          Expression.conjunctionNode_of_lt, hlength]⟩
    | or operands =>
      have hlength : operands.length < 2 := by simpa [isMalformed] using hp
      exact ⟨.tooFewOperands "disjunction" operands.length, by
        simp [nodes, Expression.encodeAt, h, Expression.encodeListAt_eq_map,
          Expression.disjunctionNode, hlength]⟩
    | _ => cases hp
  | _ => cases hp

/-- A faulty part is written as an error node. -/
theorem nodes_of_isFault {p : Part} (h : p.isFault enc.options.maxDepth depth = true) :
    ∃ fault : Fault, p.nodes enc depth = [fault.node] := by
  rw [isFault_eq] at h
  cases hallows : enc.allows depth with
  | false => exact ⟨_, nodes_of_tooDeep hallows p⟩
  | true => exact nodes_of_malformed hallows (by simpa [hallows] using h)

theorem errorCount_of_isFault {p : Part} (h : p.isFault enc.options.maxDepth depth = true) :
    p.errorCount enc depth = 1 := by
  obtain ⟨fault, hnodes⟩ := nodes_of_isFault h
  simp [errorCount, hnodes]

theorem errorCount_term (h : enc.allows depth = true) {t : Term}
    (ht : (term t).isMalformed = false) :
    (term t).errorCount enc depth = errorTotal enc ((term t).below depth) := by
  cases t with
  | num x =>
    have hx : x.isFinite = true := by simpa [isMalformed] using ht
    simp [errorCount, nodes, Term.encodeAt, Term.leafAt, h, hx, below, errorTotal,
      Encoder.errorCount_named]
  | cons head tail =>
    have hlist : (Term.cons head tail).isList = true := rfl
    have hparams : (Term.cons head tail).encodeAt enc depth =
        (Term.cons head tail).parametersAt enc depth := by
      rw [Term.encodeAt_of_isList hlist, if_pos h, Term.parametersAt_eq]
    simp [errorCount, nodes, hparams, errorCount_parametersAt, below]
  | _ =>
    simp [errorCount, nodes, Term.encodeAt, Term.leafAt, h, below, errorTotal,
      Encoder.errorCount_named]

theorem errorCount_predicate (h : enc.allows depth = true) (p : Predicate) :
    (predicate p).errorCount enc depth = errorTotal enc ((predicate p).below depth) := by
  simp [errorCount, nodes, Predicate.encodeAt, h, below, errorCount_parametersAt]

theorem errorCount_operands (operands : List Expression) :
    ((Expression.encodeListAt enc depth operands).map Json.errorCount).sum =
      errorTotal enc (operands.map fun e => (depth, expression e)) := by
  simp [Expression.encodeListAt_eq_map, errorTotal, errorCount, nodes]

theorem errorCount_expression (h : enc.allows depth = true) {e : Expression}
    (he : (expression e).isMalformed = false) :
    (expression e).errorCount enc depth = errorTotal enc ((expression e).below depth) := by
  cases e with
  | atom p => simp [errorCount, nodes, Expression.encodeAt, h, below, errorTotal]
  | and operands =>
    have hlength : ¬ operands.length < 2 := by simpa [isMalformed] using he
    rw [below, ← errorCount_operands, ← Expression.errorCount_conjunctionNode]
    · simp [errorCount, nodes, Expression.encodeAt, h]
    · simpa [Expression.encodeListAt_eq_map] using hlength
  | or operands =>
    have hlength : ¬ operands.length < 2 := by simpa [isMalformed] using he
    rw [below, ← errorCount_operands, ← Expression.errorCount_disjunctionNode]
    · simp [errorCount, nodes, Expression.encodeAt, h]
    · simpa [Expression.encodeListAt_eq_map] using hlength
  | _ => simp [errorCount, nodes, Expression.encodeAt, h, below, errorTotal]

theorem errorCount_effect (h : enc.allows depth = true) (mode : EffectMode) (e : Effect) :
    (effect mode e).errorCount enc depth = errorTotal enc ((effect mode e).below depth) := by
  cases e with
  | atom p =>
    rw [below, ← errorCount_encodeEffectAt]
    simp [errorCount, nodes, Effect.encodeAt, h]
  | all premise templates =>
    simp [errorCount, nodes, Effect.encodeAt, h, below, errorTotal, errorCount_encodeEffectAt]
  | _ =>
    simp [errorCount, nodes, Effect.encodeAt, h, below, errorTotal]

theorem errorCount_taskAtom (a : TaskAtom) :
    (a.encodeAt enc depth).errorCount = errorTotal enc (ofParameters depth a.head.params) := by
  cases h : a.isPrimitive <;>
    simp [TaskAtom.encodeAt, h, errorCount_parametersAt]

theorem errorCount_tasks (h : enc.allows depth = true) (list : TaskList) :
    (tasks list).errorCount enc depth = errorTotal enc ((tasks list).below depth) := by
  cases list with
  | empty => simp [errorCount, nodes, TaskList.nodesAt, h, below, errorTotal]
  | atom a => simp [errorCount, nodes, TaskList.nodesAt, h, below, errorCount_taskAtom]
  | sequence children =>
    simp [errorCount, nodes, TaskList.nodesAt, h, below, errorTotal,
      TaskList.nodesListAt_eq_flatMap, List.flatMap_def, List.sum_flatten]

/-- A faulty part becomes one error node, and any other has those of the parts right below it. -/
theorem errorCount_eq (p : Part) :
    p.errorCount enc depth =
      if p.isFault enc.options.maxDepth depth then 1 else errorTotal enc (p.below depth) := by
  cases hfault : p.isFault enc.options.maxDepth depth with
  | true => simpa using errorCount_of_isFault hfault
  | false =>
    have ⟨h, hp⟩ : enc.allows depth = true ∧ p.isMalformed = false := by
      simpa [isFault_eq] using hfault
    cases p with
    | term t => simpa using errorCount_term h hp
    | predicate p => simpa using errorCount_predicate h p
    | expression e => simpa using errorCount_expression h hp
    | effect mode e => simpa using errorCount_effect h mode e
    | tasks list => simpa using errorCount_tasks h list

/-! ## All the way down -/

theorem errorCount_eq_length (p : Part) :
    p.errorCount enc depth = (p.faultSites enc.options.maxDepth depth).length := by
  induction p using descent_induction generalizing depth with
  | step p ih =>
    rw [errorCount_eq]
    cases hfault : p.isFault enc.options.maxDepth depth with
    | true => rw [faultSites_of_isFault hfault]; rfl
    | false =>
      rw [faultSites_of_sound hfault, List.length_flatMap, errorTotal]
      exact congrArg List.sum (List.map_congr_left fun x hx => ih depth x hx)

theorem errorTotal_eq_length (parts : List (Nat × Part)) :
    errorTotal enc parts =
      (parts.flatMap fun x => x.2.faultSites enc.options.maxDepth x.1).length := by
  simp [errorTotal, errorCount_eq_length, List.length_flatMap]

theorem errorTotal_flatMap {α : Type} (parts : α → List (Nat × Part)) (xs : List α) :
    errorTotal enc (xs.flatMap parts) = (xs.map fun x => errorTotal enc (parts x)).sum := by
  simp [errorTotal, List.flatMap_def, List.sum_flatten]

theorem errorCount_encodeOption (e : Option Expression) :
    (Expression.encodeOption enc e).errorCount = errorTotal enc (ofPrecondition e) := by
  cases e <;> simp [Expression.encodeOption, Expression.encode, ofPrecondition, errorTotal,
    errorCount, nodes]

theorem errorCount_effects (effects : EffectLists) :
    (effects.encode enc).errorCount =
      errorTotal enc (effects.entries.map fun (mode, e) => (1, effect mode e)) := by
  simp [EffectLists.encode, errorTotal, errorCount, nodes]

end Part

open TaskNetwork.Part

variable (enc : Encoder)

theorem Operator.errorCount_encode (op : Operator) :
    (op.encode enc).errorCount = errorTotal enc op.parts := by
  have hcost : errorTotal enc (op.cost.toList.map fun t => (1, term t)) =
      (op.cost.toList.map fun t => (t.encodeAt enc 1).errorCount).sum := by
    simp [errorTotal, errorCount, nodes]
  have herror : (op.encode enc).isErrorNode = false := by
    cases h : op.cost <;> simp [encode, h]
  simp only [encode] at herror ⊢
  rw [Json.errorCount_obj, herror]
  simp [parts, errorTotal_append, hcost, Term.parameters, errorCount_parametersAt,
    errorCount_encodeOption, errorCount_effects]
  omega

theorem MethodBranch.errorCount_encode (branch : MethodBranch) :
    (branch.encode enc).errorCount = errorTotal enc branch.parts := by
  simp [encode, parts, errorTotal_append, errorCount_encodeOption, TaskList.encode]
  simp [errorTotal, errorCount, nodes]

theorem Method.errorCount_encode (method : Method) :
    (method.encode enc).errorCount = errorTotal enc method.parts := by
  have := MethodBranch.errorCount_encode enc
  simp [encode, parts, errorTotal_append, errorTotal_flatMap, Term.parameters,
    errorCount_parametersAt, this, Nat.add_comm]

theorem Axiom.errorCount_encode (rule : Axiom) :
    (rule.encode enc).errorCount = errorTotal enc rule.parts := by
  simp [encode, parts, AxiomBranch.encode, errorTotal_append, errorTotal_flatMap, Term.parameters,
    errorCount_parametersAt, errorCount_encodeOption, Nat.add_comm]

theorem Domain.errorCount_encode (options : EncoderOptions) (domain : Domain) :
    (domain.encode options).errorCount = (domain.faultSites options.maxDepth).length := by
  have htotal : (domain.encode options).errorCount =
      errorTotal ⟨domain.symbols, options⟩ domain.parts := by
    simp [encode, parts, errorTotal_append, errorTotal_flatMap, Operator.errorCount_encode,
      Method.errorCount_encode, Axiom.errorCount_encode]
    omega
  rw [htotal, errorTotal_eq_length]
  rfl

theorem DomainSummary.total_eq_sum (counts : List Nat) : errorNodes.total counts = counts.sum := by
  rfl

/-- The summary adds up the error nodes of the constructs, outside of which there are none. -/
theorem Domain.errorNodes_summary (options : EncoderOptions) (domain : Domain) :
    (domain.summary options).errorNodes = (domain.encode options).errorCount := by
  simp [DomainSummary.errorNodes, DomainSummary.total_eq_sum, summary, encode, Operator.summary,
    Method.summary, Axiom.summary]
  omega

/-- The error nodes of a written domain are as many as its fault sites, and so reads the number in
the summary of its document. The fault sites are the faulty parts that are reached, and there are no
error nodes exactly where no part that is reached is faulty. -/
theorem Document.faults_contained (domain : Domain) (problem : Option Problem)
    (options : EncoderOptions) :
    let limit := options.maxDepth
    let sites := domain.faultSites limit
    (domain.encode options).errorCount = sites.length ∧
      (∃ summary domainSummary,
        Summary.read (build domain problem options).toJson = .ok summary ∧
          summary.domain = some domainSummary ∧ domainSummary.errorNodes = sites.length) ∧
      (∀ depth p, (depth, p) ∈ sites ↔
        Reached limit domain.parts depth p ∧ p.isFault limit depth = true) ∧
      ((domain.encode options).errorCount = 0 ↔
        ∀ depth p, Reached limit domain.parts depth p → p.isFault limit depth = false) := by
  intro limit sites
  have hcount := Domain.errorCount_encode options domain
  have hsites (depth : Nat) (p : Part) : (depth, p) ∈ sites ↔
      Reached limit domain.parts depth p ∧ p.isFault limit depth = true := mem_faultSites_iff
  refine ⟨hcount, ⟨_, _, (read_toJson (some domain) problem rfl rfl (.inl nofun) nofun), rfl, ?_⟩,
    hsites, ?_⟩
  · rw [Domain.errorNodes_summary, hcount]
  · rw [hcount, List.length_eq_zero_iff, List.eq_nil_iff_forall_not_mem]
    constructor
    · intro none depth p hreached
      by_contra hfault
      exact none (depth, p) ((hsites depth p).mpr ⟨hreached, by simpa using hfault⟩)
    · rintro sound ⟨depth, p⟩ hmem
      obtain ⟨hreached, hfault⟩ := (hsites depth p).mp hmem
      rw [sound depth p hreached] at hfault
      cases hfault

end TaskNetwork
