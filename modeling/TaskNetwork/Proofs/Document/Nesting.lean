import TaskNetwork.Proofs.Document.Rendering
import TaskNetwork.Proofs.Domain.Run

/-!
# How deep documents nest

The nesting of a document is bounded by the depth that the options allow: an expression adds at most
two levels to it for each level of its own, and everything else at most one. The bound is reached,
so there is a greatest depth for which all documents can be read, and the default is above it.
-/

namespace TaskNetwork

namespace Json

/-! ## Levels -/

@[simp] theorem nesting_str (s : String) : (str s).nesting = 0 := by
  rw [nesting]
  all_goals simp

@[simp] theorem nesting_bool (b : Bool) : (bool b).nesting = 0 := by
  rw [nesting]
  all_goals simp

@[simp] theorem nesting_null : null.nesting = 0 := by
  rw [nesting]
  all_goals simp

theorem nesting_arr_le {items : List Json} {n : Nat} (hpos : 0 < n) :
    (arr items).nesting ≤ n ↔ ∀ item ∈ items, item.nesting < n := by
  rw [nesting, Nat.add_one_le_iff]
  induction items with
  | nil => simpa [nestingItems] using hpos
  | cons item items ih => simp only [nestingItems, Nat.max_lt, ih, List.forall_mem_cons]

theorem nesting_obj_le {fields : List (String × Json)} {n : Nat} (hpos : 0 < n) :
    (obj fields).nesting ≤ n ↔ ∀ field ∈ fields, field.2.nesting < n := by
  rw [nesting, Nat.add_one_le_iff]
  induction fields with
  | nil => simpa [nestingFields] using hpos
  | cons field fields ih => simp only [nestingFields, Nat.max_lt, ih, List.forall_mem_cons]

theorem nesting_arr_map_le {α : Type} {f : α → Json} {items : List α} {n : Nat}
    (h : ∀ x ∈ items, (f x).nesting ≤ n) : (arr (items.map f)).nesting ≤ n + 1 :=
  (nesting_arr_le n.succ_pos).mpr (List.forall_mem_map.mpr fun x hx => Nat.lt_succ_of_le (h x hx))

theorem nesting_strings_le (items : List String) : (strings items).nesting ≤ 1 :=
  (nesting_arr_le Nat.one_pos).mpr (by simp)

end Json

open Json

theorem Fault.nesting_node_le (f : Fault) : f.node.nesting ≤ 1 :=
  (nesting_obj_le Nat.one_pos).mpr (by simp)

namespace Encoder

variable {enc : Encoder} {depth : Nat}

theorem nesting_named_le (name kind : String) : (named name kind).nesting ≤ 1 :=
  (nesting_obj_le Nat.one_pos).mpr (by simp)

theorem nesting_variableNodes_le (indices : List Nat) :
    (enc.variableNodes indices).nesting ≤ 2 :=
  nesting_arr_map_le fun _ _ => nesting_named_le _ _

/-- What lies too deep has one level, however deep it is in the model. -/
theorem nesting_written_le {v : Json} {n : Nat} (hpos : 0 < n)
    (h : depth ≤ enc.options.maxDepth → v.nesting ≤ n) :
    (if enc.allows depth then v else enc.tooDeep).nesting ≤ n := by
  split
  · rename_i hallows
    exact h (by simpa [allows] using hallows)
  · exact Nat.le_trans (Fault.nesting_node_le _) hpos

end Encoder

variable (enc : Encoder) (depth : Nat)

/-! ## Terms and expressions -/

namespace Term

theorem nesting_leafAt_le (t : Term) : (t.leafAt enc depth).nesting ≤ 1 := by
  refine Encoder.nesting_written_le Nat.one_pos fun _ => ?_
  cases t with
  | num x =>
    dsimp only
    split
    · exact Encoder.nesting_named_le _ _
    · exact Fault.nesting_node_le _
  | nil | cons head tail => exact (nesting_arr_le Nat.one_pos).mpr (by simp)
  | _ => exact Encoder.nesting_named_le _ _

theorem nesting_encodeAt_le (t : Term) :
    (t.encodeAt enc depth).nesting ≤ max 1 (enc.options.maxDepth + 2 - depth) := by
  induction t using Term.elements_induction generalizing depth with
  | leaf t h =>
    rw [encodeAt_of_isList_eq_false h]
    have := nesting_leafAt_le enc depth t
    omega
  | list t h ih =>
    rw [encodeAt_of_isList h]
    refine Encoder.nesting_written_le (by omega) fun hdepth => ?_
    exact Nat.le_trans (nesting_arr_map_le fun e he => ih e he (depth + 1)) (by omega)

theorem nesting_encode_le (t : Term) : (t.encode enc).nesting ≤ enc.options.maxDepth + 2 := by
  have := t.nesting_encodeAt_le enc 0
  rw [encode]
  omega

theorem nesting_parametersAt_le (t : Term) :
    (t.parametersAt enc depth).nesting ≤ max 2 (enc.options.maxDepth + 2 - depth) := by
  rw [parametersAt_eq]
  exact Nat.le_trans (nesting_arr_map_le fun e _ => e.nesting_encodeAt_le enc (depth + 1))
    (by omega)

end Term

theorem Predicate.nesting_encodeAt_le (c : Category) (p : Predicate) :
    (p.encodeAt enc c depth).nesting ≤ max 1 (enc.options.maxDepth + 3 - depth) := by
  refine Encoder.nesting_written_le (by omega) fun hdepth => (nesting_obj_le (by omega)).mpr ?_
  have := p.params.nesting_parametersAt_le enc depth
  simp
  omega

namespace Expression

theorem nesting_conjunctionNode_le {operands : List Json} {n : Nat} (hpos : 2 ≤ n)
    (h : ∀ operand ∈ operands, operand.nesting + 2 ≤ n) :
    (conjunctionNode operands).nesting ≤ n := by
  unfold conjunctionNode
  split
  · have hleft := h _ (List.mem_cons_self ..)
    have hright := h _ (List.mem_cons_of_mem _ (List.mem_cons_self ..))
    refine (nesting_obj_le (by omega)).mpr ?_
    simp
    omega
  · split
    · exact Nat.le_trans (Fault.nesting_node_le _) (by omega)
    · have hlist : (Json.arr operands).nesting ≤ n - 1 :=
        (nesting_arr_le (by omega)).mpr fun operand hoperand => by have := h operand hoperand; omega
      refine (nesting_obj_le (by omega)).mpr ?_
      simp
      omega

theorem nesting_disjunctionNode_le {operands : List Json} {n : Nat} (hpos : 2 ≤ n)
    (h : ∀ operand ∈ operands, operand.nesting + 2 ≤ n) :
    (disjunctionNode operands).nesting ≤ n := by
  unfold disjunctionNode
  split
  · exact Nat.le_trans (Fault.nesting_node_le _) (by omega)
  · have hlist : (Json.arr operands).nesting ≤ n - 1 :=
      (nesting_arr_le (by omega)).mpr fun operand hoperand => by have := h operand hoperand; omega
    refine (nesting_obj_le (by omega)).mpr ?_
    simp
    omega

/-- An expression nests at most two levels for each level that is allowed below it, and three for
a predicate at the end. -/
theorem nesting_encodeAt_le (e : Expression) :
    (e.encodeAt enc depth).nesting ≤ max 1 (2 * enc.options.maxDepth + 3 - 2 * depth) := by
  induction e generalizing depth with
  | and operands ih =>
    rw [encodeAt, encodeListAt_eq_map]
    refine Encoder.nesting_written_le (by omega) fun hdepth => ?_
    refine nesting_conjunctionNode_le (by omega) (List.forall_mem_map.mpr fun e he => ?_)
    have := ih e he (depth + 1)
    omega
  | or operands ih =>
    rw [encodeAt, encodeListAt_eq_map]
    refine Encoder.nesting_written_le (by omega) fun hdepth => ?_
    refine nesting_disjunctionNode_le (by omega) (List.forall_mem_map.mpr fun e he => ?_)
    have := ih e he (depth + 1)
    omega
  | atom p =>
    rw [encodeAt]
    refine Encoder.nesting_written_le (by omega) fun hdepth => ?_
    have := p.nesting_encodeAt_le enc depth .constant
    omega
  | not e ih =>
    rw [encodeAt]
    refine Encoder.nesting_written_le (by omega) fun hdepth => (nesting_obj_le (by omega)).mpr ?_
    have := ih (depth + 1)
    simp
    omega
  | all premise consequence ihp ihc =>
    rw [encodeAt]
    refine Encoder.nesting_written_le (by omega) fun hdepth => (nesting_obj_le (by omega)).mpr ?_
    have hpremise := ihp (depth + 1)
    have hconsequence := ihc (depth + 1)
    have hvars := enc.nesting_variableNodes_le premise.distinctVars
    simp
    omega
  | call function args =>
    rw [encodeAt]
    refine Encoder.nesting_written_le (by omega) fun hdepth => (nesting_obj_le (by omega)).mpr ?_
    have hargs : (Json.arr (args.map (Term.encodeAt enc (depth + 1)))).nesting ≤
        max 1 (enc.options.maxDepth + 2 - (depth + 1)) + 1 :=
      nesting_arr_map_le fun t _ => t.nesting_encodeAt_le enc (depth + 1)
    simp
    omega
  | assign i value =>
    rw [encodeAt]
    refine Encoder.nesting_written_le (by omega) fun hdepth => (nesting_obj_le (by omega)).mpr ?_
    have := value.nesting_encodeAt_le enc (depth + 1)
    simp
    omega
  | nil | unknown kind =>
    rw [encodeAt]
    refine Encoder.nesting_written_le (by omega) fun _ => Nat.le_trans ?_ (Nat.le_max_left 1 _)
    exact (nesting_obj_le Nat.one_pos).mpr (by simp)

theorem nesting_encode_le (e : Expression) :
    (e.encode enc).nesting ≤ 2 * enc.options.maxDepth + 3 := by
  have := e.nesting_encodeAt_le enc 0
  rw [encode]
  omega

theorem nesting_encodeOption_le (e : Option Expression) :
    (encodeOption enc e).nesting ≤ 2 * enc.options.maxDepth + 3 := by
  cases e with
  | none => simp [encodeOption]
  | some e => exact e.nesting_encode_le enc

end Expression

/-! ## Effects and tasks -/

theorem Predicate.nesting_encodeEffectAt_le (mode : EffectMode) (p : Predicate) :
    (p.encodeEffectAt enc mode depth).nesting ≤ max 3 (enc.options.maxDepth + 4 - depth) := by
  cases mode with
  | add =>
    have := p.nesting_encodeAt_le enc depth .constant
    rw [encodeEffectAt]
    omega
  | delete =>
    have hitem := p.nesting_encodeAt_le enc (depth + 1) .constant
    have hlist : (Json.arr [p.encodeAt enc .constant (depth + 1)]).nesting ≤
        max 2 (enc.options.maxDepth + 3 - depth) := by
      refine (nesting_arr_le (by omega)).mpr ?_
      simp
      omega
    refine (nesting_obj_le (by omega)).mpr ?_
    simp
    omega

theorem Effect.nesting_encodeAt_le (mode : EffectMode) (e : Effect) :
    (e.encodeAt enc mode depth).nesting ≤ max 1 (2 * enc.options.maxDepth + 5 - 2 * depth) := by
  refine Encoder.nesting_written_le (by omega) fun hdepth => ?_
  cases e with
  | atom p =>
    have := p.nesting_encodeEffectAt_le enc depth mode
    dsimp only
    omega
  | all premise templates =>
    have hpremise := premise.nesting_encodeAt_le enc (depth + 1)
    have hvars := enc.nesting_variableNodes_le premise.distinctVars
    have htemplates : (Json.arr
        (templates.map (Predicate.encodeEffectAt enc mode (depth + 1)))).nesting ≤
        max 3 (enc.options.maxDepth + 4 - (depth + 1)) + 1 :=
      nesting_arr_map_le fun p _ => p.nesting_encodeEffectAt_le enc (depth + 1) mode
    refine (nesting_obj_le (by omega)).mpr ?_
    simp
    omega
  | protect target =>
    have := target.nesting_encodeAt_le enc (depth + 1) .constant
    refine (nesting_obj_le (by omega)).mpr ?_
    simp
    omega
  | unknown kind =>
    refine Nat.le_trans ?_ (Nat.le_max_left 1 _)
    exact (nesting_obj_le Nat.one_pos).mpr (by simp)

theorem EffectLists.nesting_encode_le (effects : EffectLists) :
    (effects.encode enc).nesting ≤ 2 * enc.options.maxDepth + 4 := by
  refine nesting_arr_map_le fun (mode, e) _ => ?_
  have := e.nesting_encodeAt_le enc 1 mode
  dsimp only
  omega

theorem TaskAtom.nesting_encodeAt_le (a : TaskAtom) :
    (a.encodeAt enc depth).nesting ≤ max 3 (enc.options.maxDepth + 3 - depth) := by
  have := a.head.params.nesting_parametersAt_le enc depth
  refine (nesting_obj_le (by omega)).mpr ?_
  simp
  omega

theorem TaskList.nesting_le_of_mem_nodesAt {depth : Nat} {list : TaskList} :
    ∀ v ∈ list.nodesAt enc depth, v.nesting ≤ enc.options.maxDepth + 3 := by
  have hdeep : enc.tooDeep.nesting ≤ enc.options.maxDepth + 3 :=
    Nat.le_trans (Fault.nesting_node_le _) (by omega)
  induction list generalizing depth with
  | empty =>
    rw [nodesAt]
    split <;> simp [hdeep]
  | atom a =>
    have := a.nesting_encodeAt_le enc depth
    rw [nodesAt]
    split
    · simp
      omega
    · simp [hdeep]
  | sequence children ih =>
    rw [nodesAt, nodesListAt_eq_flatMap]
    split
    · intro v hv
      obtain ⟨child, hchild, hmem⟩ := List.mem_flatMap.mp hv
      exact ih child hchild v hmem
    · simp [hdeep]

theorem TaskList.nesting_encode_le (list : TaskList) :
    (list.encode enc).nesting ≤ enc.options.maxDepth + 4 :=
  (nesting_arr_le (by omega)).mpr fun v hv => Nat.lt_succ_of_le (nesting_le_of_mem_nodesAt enc v hv)

/-! ## Constructs and sections -/

theorem Operator.nesting_encode_le (op : Operator) :
    (op.encode enc).nesting ≤ 2 * enc.options.maxDepth + 5 := by
  have heffects := op.effects.nesting_encode_le enc
  have hparams := op.head.params.nesting_parametersAt_le enc 0
  have hprecondition := Expression.nesting_encodeOption_le enc op.precondition
  have hcost : ∀ t : Term, (t.encodeAt enc 1).nesting ≤ max 1 (enc.options.maxDepth + 1) :=
    fun t => t.nesting_encodeAt_le enc 1
  unfold encode
  refine (nesting_obj_le (by omega)).mpr ?_
  cases op.cost with
  | none =>
    simp [Term.parameters]
    omega
  | some t =>
    have := hcost t
    simp [Term.parameters]
    omega

theorem MethodBranch.nesting_encode_le (branch : MethodBranch) :
    (branch.encode enc).nesting ≤
      max (2 * enc.options.maxDepth + 4) (enc.options.maxDepth + 5) := by
  have hprecondition := Expression.nesting_encodeOption_le enc branch.precondition
  have htasks := branch.tasks.nesting_encode_le enc
  refine (nesting_obj_le (by omega)).mpr ?_
  simp
  omega

theorem Method.nesting_encode_le (method : Method) :
    (method.encode enc).nesting ≤
      max (2 * enc.options.maxDepth + 6) (enc.options.maxDepth + 7) := by
  have hparams := method.head.params.nesting_parametersAt_le enc 0
  have hbranches : (Json.arr (method.branches.map (MethodBranch.encode enc))).nesting ≤
      max (2 * enc.options.maxDepth + 4) (enc.options.maxDepth + 5) + 1 :=
    nesting_arr_map_le fun branch _ => branch.nesting_encode_le enc
  refine (nesting_obj_le (by omega)).mpr ?_
  simp [Term.parameters]
  omega

theorem AxiomBranch.nesting_encode_le (branch : AxiomBranch) :
    (branch.encode enc).nesting ≤ 2 * enc.options.maxDepth + 4 := by
  have hprecondition := Expression.nesting_encodeOption_le enc branch.precondition
  refine (nesting_obj_le (by omega)).mpr ?_
  simp
  omega

theorem Axiom.nesting_encode_le (rule : Axiom) :
    (rule.encode enc).nesting ≤ 2 * enc.options.maxDepth + 6 := by
  have hparams := rule.head.params.nesting_parametersAt_le enc 0
  have hbranches : (Json.arr (rule.branches.map (AxiomBranch.encode enc))).nesting ≤
      2 * enc.options.maxDepth + 5 :=
    nesting_arr_map_le fun branch _ => branch.nesting_encode_le enc
  refine (nesting_obj_le (by omega)).mpr ?_
  simp [Term.parameters]
  omega

theorem Domain.nesting_encode_le (options : EncoderOptions) (domain : Domain) :
    (domain.encode options).nesting ≤ max (2 * options.maxDepth + 8) (options.maxDepth + 9) := by
  have hoperators :
      (Json.arr (domain.operators.map (Operator.encode ⟨domain.symbols, options⟩))).nesting ≤
        2 * options.maxDepth + 6 :=
    nesting_arr_map_le fun op _ => op.nesting_encode_le _
  have hmethods :
      (Json.arr (domain.methods.map (Method.encode ⟨domain.symbols, options⟩))).nesting ≤
        max (2 * options.maxDepth + 6) (options.maxDepth + 7) + 1 :=
    nesting_arr_map_le fun method _ => method.nesting_encode_le _
  have haxioms : (Json.arr (domain.axioms.map (Axiom.encode ⟨domain.symbols, options⟩))).nesting ≤
      2 * options.maxDepth + 7 :=
    nesting_arr_map_le fun rule _ => rule.nesting_encode_le _
  have hprocedures := nesting_strings_le domain.procedures
  refine (nesting_obj_le (by omega)).mpr ?_
  simp
  omega

theorem Predicate.nesting_encodeFact_le (fact : Predicate) : (fact.encodeFact enc).nesting ≤ 2 := by
  have := nesting_strings_le (fact.params.elements.map (Term.text enc))
  refine (nesting_obj_le Nat.two_pos).mpr ?_
  simp
  omega

theorem Problem.nesting_encode_le (options : EncoderOptions) (problem : Problem) :
    (problem.encode options).nesting ≤ options.maxDepth + 6 := by
  have hconstants := nesting_strings_le problem.additionalConstants
  have hgoal : (Json.obj [("tasks", problem.goal.encode ⟨problem.symbols, options⟩)]).nesting ≤
      options.maxDepth + 5 := by
    have htasks : (problem.goal.encode ⟨problem.symbols, options⟩).nesting ≤
        options.maxDepth + 4 := problem.goal.nesting_encode_le _
    refine (nesting_obj_le (by omega)).mpr ?_
    simp
    omega
  have hinit :
      (Json.arr (problem.init.map (Predicate.encodeFact ⟨problem.symbols, options⟩))).nesting ≤
        3 :=
    nesting_arr_map_le fun fact _ => fact.nesting_encodeFact_le _
  refine (nesting_obj_le (by omega)).mpr ?_
  simp
  omega

theorem Document.nesting_build_le (domain : Domain) (problem : Option Problem)
    (options : EncoderOptions) :
    (build domain problem options).toJson.nesting ≤
      max (2 * options.maxDepth + 9) (options.maxDepth + 10) := by
  have hdomain := domain.nesting_encode_le options
  have hrequirements : domain.requirements.toJson.nesting ≤ 1 := nesting_strings_le _
  refine (nesting_obj_le (by omega)).mpr ?_
  cases problem with
  | none =>
    simp [build, withRequirements]
    omega
  | some p =>
    have hproblem := p.nesting_encode_le options
    simp [build, withRequirements]
    omega

/-! ## The deepest documents -/

/-- So many conjunctions of three operands inside one another, around an atom. -/
def Expression.conjunctions : Nat → Expression
  | 0 => .atom (.ofArgs 0 [.const 0])
  | n + 1 => .and [conjunctions n, .nil, .nil]

/-- So many lists inside one another. -/
def Term.lists : Nat → Term
  | 0 => .nil
  | n + 1 => .cons (lists n) .nil

/-- Each of the lists adds a level, and so does the node in place of the first that is too deep. -/
theorem Term.nesting_encodeAt_lists {n : Nat} (h : depth + n = enc.options.maxDepth + 1) :
    ((lists n).encodeAt enc depth).nesting = n + 1 := by
  induction n generalizing depth with
  | zero =>
    have hdeep : enc.allows depth = false := by
      simp [Encoder.allows]
      omega
    simp [lists, encodeAt, leafAt, hdeep, Encoder.tooDeep, Fault.node, nesting, nestingFields]
  | succ n ih =>
    have hallows : enc.allows depth = true := by
      simp [Encoder.allows]
      omega
    have hinner := ih (depth + 1) (by omega)
    simp [lists, encodeAt, elementsAt, hallows, nesting, nestingItems, hinner]

theorem Term.nesting_leafAt_const (i : Nat) : ((Term.const i).leafAt enc depth).nesting = 1 := by
  unfold leafAt
  split <;> simp [Encoder.named, Encoder.tooDeep, Fault.node, nesting, nestingFields]

/-- Each of the conjunctions adds two levels. -/
theorem Expression.le_nesting_conjunctions {n : Nat} (h : depth + n ≤ enc.options.maxDepth) :
    2 * n + 3 ≤ ((conjunctions n).encodeAt enc depth).nesting := by
  induction n generalizing depth with
  | zero =>
    have hallows : enc.allows depth = true := by simpa [Encoder.allows] using h
    simp [conjunctions, encodeAt, Predicate.encodeAt, hallows, Predicate.ofArgs, Term.ofList,
      Term.ofListWithTail, Term.parametersAt, Term.elementsAt, Term.encodeAt, nesting, nestingItems,
      nestingFields, Term.nesting_leafAt_const]
  | succ n ih =>
    have hallows : enc.allows depth = true := by
      simp [Encoder.allows]
      omega
    have hinner := ih (depth + 1) (by omega)
    simp [conjunctions, encodeAt, hallows, encodeListAt, conjunctionNode, nesting, nestingItems,
      nestingFields]
    omega

/-- The domain of a method with so many conjunctions as its precondition. -/
def Domain.conjunctive (n : Nat) : Domain :=
  ((DomainBuilder.new "d").run
    [.addMethod (.ofArgs 0 []) [⟨"b", some (.conjunctions n), .empty⟩]]).finish

theorem Document.le_nesting_conjunctive {n : Nat} {options : EncoderOptions}
    (h : n ≤ options.maxDepth) (problem : Option Problem) :
    2 * n + 9 ≤ (build (.conjunctive n) problem options).toJson.nesting := by
  have hdomain : (Domain.conjunctive n).methods =
      [⟨0, .ofArgs 0 [], [⟨"b", some (.conjunctions n), .empty⟩]⟩] := rfl
  have hdeep := Expression.le_nesting_conjunctions ⟨(Domain.conjunctive n).symbols, options⟩ 0
    (by simpa using h)
  simp [build, withRequirements, toJson, Domain.encode, hdomain, Method.encode, MethodBranch.encode,
    Expression.encodeOption, Expression.encode, nesting, nestingItems, nestingFields]
  omega

/-- However deep a model is, what is written of it nests within a bound that only the options set.
The bounds for terms and expressions are reached, and that for documents up to one level. -/
theorem Document.nesting_bounded (options : EncoderOptions) :
    (∀ symbols : SymbolTable,
      (∀ t : Term, (t.encode ⟨symbols, options⟩).nesting ≤ options.maxDepth + 2) ∧
        ∃ t : Term, (t.encode ⟨symbols, options⟩).nesting = options.maxDepth + 2) ∧
    (∀ symbols : SymbolTable,
      (∀ e : Expression, (e.encode ⟨symbols, options⟩).nesting ≤ 2 * options.maxDepth + 3) ∧
        ∃ e : Expression, (e.encode ⟨symbols, options⟩).nesting = 2 * options.maxDepth + 3) ∧
    (∀ (domain : Domain) (problem : Option Problem),
      (build domain problem options).toJson.nesting ≤ 2 * options.maxDepth + 10) ∧
    ∃ domain : Domain, ∀ problem : Option Problem,
      2 * options.maxDepth + 9 ≤ (build domain problem options).toJson.nesting := by
  refine ⟨?_, ?_, ?_, ?_⟩
  · intro symbols
    refine ⟨Term.nesting_encode_le _, .lists (options.maxDepth + 1), ?_⟩
    exact Term.nesting_encodeAt_lists _ 0 (Nat.zero_add _)
  · intro symbols
    have hbound := Expression.nesting_encode_le ⟨symbols, options⟩
    refine ⟨hbound, .conjunctions options.maxDepth, Nat.le_antisymm (hbound _) ?_⟩
    exact Expression.le_nesting_conjunctions _ 0 (by simp)
  · intro domain problem
    have := nesting_build_le domain problem options
    omega
  · exact ⟨.conjunctive options.maxDepth, le_nesting_conjunctive (Nat.le_refl _)⟩

/-- All documents are read back, whatever was built, exactly if the depth that the options allow is
small enough. -/
theorem Document.readable_iff_maxDepth (options : EncoderOptions) :
    (∀ name calls problem layout,
        let domain := ((DomainBuilder.new name).run calls).finish
        Json.parse ((build domain problem options).render layout) =
          .ok (build domain problem options).toJson) ↔
      2 * options.maxDepth + 9 ≤ Json.nestingLimit := by
  constructor
  · intro hread
    by_contra hdeep
    have hnesting := le_nesting_conjunctive (Nat.le_refl options.maxDepth) none
    obtain ⟨position, hparse⟩ := parse_render_of_lt (.conjunctive options.maxDepth) none options
      .compact (by omega)
    have hok : Json.parse ((build (.conjunctive options.maxDepth) none options).render .compact) =
        .ok (build (.conjunctive options.maxDepth) none options).toJson := hread "d" _ none .compact
    rw [hparse] at hok
    cases hok
  · intro hlimit name calls problem layout domain
    refine parse_render domain problem options layout ?_
    have hbound := nesting_build_le domain problem options
    have hvalue : Json.nestingLimit = 127 := rfl
    omega

/-- The default depth is too great: a document of sixty such conjunctions is not read. -/
theorem Document.conjunctive_not_readable :
    ∃ position, Json.parse ((build (.conjunctive 60) none {}).render .compact) =
      .error ⟨.tooDeep, position⟩ := by
  have hnesting : 2 * 60 + 9 ≤ (build (.conjunctive 60) none {}).toJson.nesting :=
    le_nesting_conjunctive (by decide) none
  have hlimit : Json.nestingLimit < 2 * 60 + 9 := by decide
  exact parse_render_of_lt (.conjunctive 60) none {} .compact (Nat.lt_of_lt_of_le hlimit hnesting)

end TaskNetwork
