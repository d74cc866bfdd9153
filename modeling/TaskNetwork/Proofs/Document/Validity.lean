import Mathlib.Data.List.Nodup
import TaskNetwork.Document.Basic
import TaskNetwork.Proofs.Domain.Run
import TaskNetwork.Proofs.Induction
import TaskNetwork.Proofs.Schema.DocumentFormat
import TaskNetwork.Proofs.Schema.Errors
import TaskNetwork.Proofs.Term.Elements

/-!
# Documents satisfy their format

Whatever is encoded is a node of the format, with error nodes only where the format has them. The
statements follow the encoders from terms up to whole documents.
-/

namespace TaskNetwork

/-- The name of a variable starts with its mark. -/
theorem Encoder.head?_variableName (enc : Encoder) (index : Nat) :
    (enc.variableName index).toList.head? = some '?' := by
  simp only [variableName]
  split
  · assumption
  · simp

theorem Requirement.tag_injective : Function.Injective Requirement.tag := by
  intro r r' h
  cases r <;> cases r' <;> simp_all [tag]

theorem RequirementSet.nodup_tags (s : RequirementSet) : s.tags.Nodup := by
  refine List.Nodup.map Requirement.tag_injective ?_
  rw [← s.ordered]
  exact List.Nodup.filter _ (by decide)

namespace DocumentFormat

open Schema

/-! ## Error nodes and names -/

theorem valid_error (f : Fault) : Valid f.node (ref "error") := by
  refine (valid_ref rfl).mpr (valid_record_of_perm rfl ?_)
  simp [List.lookup_cons, valid_const, valid_text]

/-- The places of the format where an error node may stand for another node. -/
theorem valid_fault {name : String} (h : name ∈ ["term", "expression", "effect_atom", "task"])
    (f : Fault) : Valid f.node (ref name) := by
  simp only [List.mem_cons, List.not_mem_nil, or_false] at h
  obtain rfl | rfl | rfl | rfl := h <;> exact valid_of_mem rfl (by simp) (valid_error f)

theorem valid_strings {items : List String} : Valid (.strings items) (arrayOf text) := by
  refine valid_arrayOf.mpr ⟨_, rfl, ?_⟩
  simp [valid_text]

theorem occursIn_variableMark {s : String} (h : s.toList.head? = some '?') :
    variableMark.occursIn s = true := by
  obtain ⟨rest, hs⟩ := List.head?_eq_some_iff.mp h
  simp [Pattern.occursIn, variableMark, hs, Regex.occursIn, Regex.ends, Regex.endsInOrder,
    Regex.startOfText, Regex.char, Regex.neighbours, Marks.everywhere, Marks.inter,
    List.replicate_succ]

variable (enc : Encoder)

/-- What lies too deep becomes an error node, which is valid where other faults are. -/
theorem valid_written {name : String} {v : Json} (depth : Nat)
    (h : name ∈ ["term", "expression", "effect_atom", "task"]) (hv : Valid v (ref name)) :
    Valid (if enc.allows depth then v else enc.tooDeep) (ref name) := by
  split
  · exact hv
  · exact valid_fault h _

theorem valid_variableName (index : Nat) : Valid (.str (enc.variableName index)) variableName := by
  simpa [variableName, valid_all, valid_text, valid_assert, Assertion.holds, Json.str?] using
    occursIn_variableMark (enc.head?_variableName index)

theorem valid_variables (indices : List Nat) :
    Valid (enc.variableNodes indices) (ref "variables") := by
  refine (valid_ref rfl).mpr (valid_arrayOf.mpr ⟨_, rfl, ?_⟩)
  simp only [List.mem_map]
  rintro _ ⟨index, -, rfl⟩
  refine valid_record_of_perm rfl ?_
  simpa [List.lookup_cons, valid_const] using valid_variableName enc index

/-! ## Terms and predicates -/

theorem valid_named {name kind : String} (h : kind ∈ ["Variable", "Constant", "Number", "Call"]) :
    Valid (Encoder.named name kind) (ref "term") := by
  refine valid_of_mem (s := ref "scalar") rfl (by simp) ?_
  refine (valid_ref rfl).mpr (valid_record_of_perm rfl ?_)
  simpa [List.lookup_cons, valid_text, valid_among] using h

theorem valid_parameters {items : List Json} :
    Valid (.arr items) (ref "parameters") ↔ ∀ item ∈ items, Valid item (ref "term") := by
  rw [valid_ref (s := arrayOf (ref "term")) rfl, valid_arrayOf]
  simp

theorem valid_leafAt (depth : Nat) (t : Term) : Valid (t.leafAt enc depth) (ref "term") := by
  have emptyList : Valid (.arr []) (ref "term") :=
    valid_of_mem (s := ref "parameters") rfl (by simp) (valid_parameters.mpr (by simp))
  refine valid_written enc depth (by simp) ?_
  cases t with
  | var i => exact valid_named (by simp)
  | const i => exact valid_named (by simp)
  | num x =>
    dsimp only
    split
    · exact valid_named (by simp)
    · exact valid_fault (by simp) _
  | call f args => exact valid_named (by simp)
  | nil => exact emptyList
  | cons head tail => exact emptyList

theorem valid_term (depth : Nat) (t : Term) : Valid (t.encodeAt enc depth) (ref "term") := by
  induction t using Term.elements_induction generalizing depth with
  | leaf t h =>
    rw [Term.encodeAt_of_isList_eq_false h]
    exact valid_leafAt enc depth t
  | list t h ih =>
    rw [Term.encodeAt_of_isList h]
    refine valid_written enc depth (by simp) ?_
    refine valid_of_mem (s := ref "parameters") rfl (by simp) (valid_parameters.mpr ?_)
    simpa using fun e he => ih e he (depth + 1)

theorem valid_parametersAt (depth : Nat) (t : Term) :
    Valid (t.parametersAt enc depth) (ref "parameters") := by
  rw [Term.parametersAt_eq]
  refine valid_parameters.mpr ?_
  simpa using fun e _ => valid_term enc (depth + 1) e

theorem valid_predicateOrError (c : Category) (depth : Nat) (p : Predicate) :
    Valid (p.encodeAt enc c depth) predicateOrError := by
  refine valid_anyOf.mpr ?_
  unfold Predicate.encodeAt
  split
  · refine ⟨ref "predicate", by simp, (valid_ref rfl).mpr (valid_record_of_perm rfl ?_)⟩
    simpa [List.lookup_cons, valid_const, valid_text] using valid_parametersAt enc depth p.params
  · exact ⟨ref "error", by simp, valid_error _⟩

/-- A predicate may stand for any node that has predicates and error nodes among its forms. -/
theorem valid_predicate {name : String} {options : List Schema}
    (h : definitions.lookup name = some (anyOf options))
    (mem : ∀ s ∈ [ref "predicate", ref "error"], s ∈ options) (c : Category) (depth : Nat)
    (p : Predicate) : Valid (p.encodeAt enc c depth) (ref name) := by
  obtain ⟨s, hs, hv⟩ := valid_anyOf.mp (valid_predicateOrError enc c depth p)
  exact valid_of_mem h (mem s hs) hv

/-! ## Expressions -/

theorem valid_conjunctionNode {operands : List Json}
    (h : ∀ item ∈ operands, Valid item (ref "expression")) :
    Valid (Expression.conjunctionNode operands) (ref "expression") := by
  unfold Expression.conjunctionNode
  split
  · rename_i left right
    refine valid_of_mem (s := node "and" [("left", ref "expression"), ("right", ref "expression")])
      rfl (by simp) (valid_record_of_perm rfl ?_)
    simpa [List.lookup_cons, valid_const] using h
  · rename_i two
    split
    · exact valid_fault (by simp) _
    · rename_i many
      have three : 3 ≤ operands.length := by
        have hlength : operands.length ≠ 2 := fun hlength => by
          obtain ⟨left, right, rfl⟩ := List.length_eq_two.mp hlength
          exact two left right rfl
        omega
      refine valid_of_mem (s := node "and" [("conjuncts",
        all [type [.array], minItems 3, items (ref "expression")])])
        rfl (by simp) (valid_record_of_perm rfl ?_)
      simpa [List.lookup_cons, valid_const, valid_all, valid_array, valid_minItems, valid_items] using
        ⟨three, h⟩

theorem valid_disjunctionNode {operands : List Json}
    (h : ∀ item ∈ operands, Valid item (ref "expression")) :
    Valid (Expression.disjunctionNode operands) (ref "expression") := by
  unfold Expression.disjunctionNode
  split
  · exact valid_fault (by simp) _
  · rename_i many
    refine valid_of_mem (s := node "or" [("disjuncts",
      all [type [.array], minItems 2, items (ref "expression")])])
      rfl (by simp) (valid_record_of_perm rfl ?_)
    simpa [List.lookup_cons, valid_const, valid_all, valid_array, valid_minItems, valid_items] using
      ⟨Nat.le_of_not_lt many, h⟩

theorem valid_expression (depth : Nat) (e : Expression) :
    Valid (e.encodeAt enc depth) (ref "expression") := by
  induction e generalizing depth with
  | atom p =>
    refine valid_written enc depth (by simp) ?_
    exact valid_predicate enc rfl (by simp) .constant depth p
  | and operands ih =>
    refine valid_written enc depth (by simp) (valid_conjunctionNode ?_)
    simpa [Expression.encodeListAt_eq_map] using fun e he => ih e he (depth + 1)
  | or operands ih =>
    refine valid_written enc depth (by simp) (valid_disjunctionNode ?_)
    simpa [Expression.encodeListAt_eq_map] using fun e he => ih e he (depth + 1)
  | not e ih =>
    refine valid_written enc depth (by simp) ?_
    refine valid_of_mem (s := node "not" [("expression", ref "expression")])
      rfl (by simp) (valid_record_of_perm rfl ?_)
    simpa [List.lookup_cons, valid_const] using ih (depth + 1)
  | all premise consequence ihp ihc =>
    refine valid_written enc depth (by simp) ?_
    refine valid_of_mem (s := node "forall" [("variables", ref "variables"),
      ("expression", ref "expression"), ("predicates", ref "expression")])
      rfl (by simp) (valid_record_of_perm rfl ?_)
    simpa [List.lookup_cons, valid_const] using
      ⟨valid_variables enc _, ihp (depth + 1), ihc (depth + 1)⟩
  | call function args =>
    refine valid_written enc depth (by simp) ?_
    refine valid_of_mem (s := node "call" [("function", text), ("arguments", ref "parameters")])
      rfl (by simp) (valid_record_of_perm rfl ?_)
    simpa [List.lookup_cons, valid_const, valid_text, valid_parameters] using
      fun t _ => valid_term enc (depth + 1) t
  | assign i value =>
    refine valid_written enc depth (by simp) ?_
    refine valid_of_mem (s := node "assignment" [("operation", const (.str "assign")),
      ("function", variableName), ("value", ref "term")])
      rfl (by simp) (valid_record_of_perm rfl ?_)
    simpa [List.lookup_cons, valid_const] using
      ⟨valid_variableName enc i, valid_term enc (depth + 1) value⟩
  | nil =>
    refine valid_written enc depth (by simp) ?_
    refine valid_of_mem (s := node "nil" []) rfl (by simp) (valid_record_of_perm rfl ?_)
    simp [List.lookup_cons, valid_const]
  | unknown kind =>
    refine valid_written enc depth (by simp) ?_
    refine valid_of_mem (s := node "unknown" [("kind", text)])
      rfl (by simp) (valid_record_of_perm rfl ?_)
    simp [List.lookup_cons, valid_const, valid_text]

theorem valid_precondition (e : Option Expression) :
    Valid (Expression.encodeOption enc e) (ref "precondition") := by
  cases e with
  | none => exact valid_of_mem (s := type [.null]) rfl (by simp) rfl
  | some e => exact valid_of_mem (s := ref "expression") rfl (by simp) (valid_expression enc 0 e)

/-! ## Effects and tasks -/

theorem valid_effectAtom (mode : EffectMode) (depth : Nat) (p : Predicate) :
    Valid (p.encodeEffectAt enc mode depth) (ref "effect_atom") := by
  cases mode with
  | add => exact valid_predicate enc rfl (by simp) .constant depth p
  | delete =>
    refine valid_of_mem (s := node "not" [("expression",
      all [type [.array], minItems 1, maxItems 1, items predicateOrError])])
      rfl (by simp) (valid_record_of_perm rfl ?_)
    simpa [List.lookup_cons, valid_const, valid_all, valid_array, valid_minItems, valid_maxItems,
      valid_items] using valid_predicateOrError enc .constant (depth + 1) p

theorem valid_effectType (mode : EffectMode) : Valid (.str mode.label) (ref "effect_type") := by
  refine (valid_ref rfl).mpr (valid_among.mpr ?_)
  cases mode <;> simp [EffectMode.label]

theorem valid_effect (mode : EffectMode) (depth : Nat) (e : Effect) :
    Valid (e.encodeAt enc mode depth) (ref "effect") := by
  simp only [Effect.encodeAt]
  split
  · cases e with
    | atom p =>
      exact valid_of_mem (s := ref "effect_atom") rfl (by simp) (valid_effectAtom enc mode depth p)
    | all premise templates =>
      refine valid_of_mem (s := node "forall" [("variables", ref "variables"),
        ("expression", ref "expression"), ("predicates", arrayOf (ref "effect_atom")),
        ("add_list", type [.boolean])]) rfl (by simp) (valid_record_of_perm rfl ?_)
      have atoms : Valid (.arr (templates.map (Predicate.encodeEffectAt enc mode (depth + 1))))
          (arrayOf (ref "effect_atom")) := by
        refine valid_arrayOf.mpr ⟨_, rfl, ?_⟩
        simpa using fun p _ => valid_effectAtom enc mode (depth + 1) p
      simpa [List.lookup_cons, valid_const] using
        ⟨valid_variables enc _, valid_expression enc (depth + 1) premise, atoms, rfl⟩
    | protect target =>
      refine valid_of_mem (s := node "protection" [("effect_type", ref "effect_type"),
        ("predicate", predicateOrError)]) rfl (by simp) (valid_record_of_perm rfl ?_)
      simpa [List.lookup_cons, valid_const] using
        ⟨valid_effectType mode, valid_predicateOrError enc .constant (depth + 1) target⟩
    | unknown kind =>
      refine valid_of_mem (s := node "unknown" [("kind", text), ("effect_type", ref "effect_type")])
        rfl (by simp) (valid_record_of_perm rfl ?_)
      simpa [List.lookup_cons, valid_const, valid_text] using valid_effectType mode
  · exact valid_of_mem (s := ref "effect_atom") rfl (by simp) (valid_fault (by simp) _)

theorem valid_effects (effects : EffectLists) :
    Valid (effects.encode enc) (arrayOf (ref "effect")) := by
  refine valid_arrayOf.mpr ⟨_, rfl, ?_⟩
  simp only [List.mem_map]
  rintro _ ⟨⟨mode, e⟩, -, rfl⟩
  exact valid_effect enc mode 1 e

theorem valid_taskAtom (depth : Nat) (a : TaskAtom) : Valid (a.encodeAt enc depth) (ref "task") := by
  refine valid_of_mem (s := record [("type", among ["predicate", "task"]), ("name", text),
    ("parameters", ref "parameters")]) rfl (by simp) (valid_record_of_perm rfl ?_)
  have kind : Valid (.str (if a.isPrimitive then "predicate" else "task"))
      (among ["predicate", "task"]) := by
    refine valid_among.mpr ?_
    split <;> simp
  simpa [List.lookup_cons, valid_text] using ⟨kind, valid_parametersAt enc depth a.head.params⟩

theorem valid_nodesAt (depth : Nat) (list : TaskList) :
    ∀ item ∈ list.nodesAt enc depth, Valid item (ref "task") := by
  have fault : ∀ item ∈ [enc.tooDeep], Valid item (ref "task") := by
    simp only [List.mem_singleton, forall_eq]
    exact valid_fault (by simp) _
  induction list generalizing depth with
  | empty =>
    rw [TaskList.nodesAt]
    split
    · simp
    · exact fault
  | atom a =>
    rw [TaskList.nodesAt]
    split
    · simpa using valid_taskAtom enc depth a
    · exact fault
  | sequence children ih =>
    rw [TaskList.nodesAt]
    split
    · simpa [TaskList.nodesListAt_eq_flatMap] using
        fun item child hchild => ih child hchild (depth + 1) item
    · exact fault

theorem valid_tasks (list : TaskList) : Valid (list.encode enc) (ref "tasks") :=
  (valid_ref rfl).mpr (valid_arrayOf.mpr ⟨_, rfl, valid_nodesAt enc 0 list⟩)

/-! ## Constructs -/

theorem valid_operator (op : Operator) : Valid (op.encode enc) (ref "operator") := by
  have parameters := valid_parametersAt enc 0 op.head.params
  have preconditions := valid_precondition enc op.precondition
  have effects := valid_effects enc op.effects
  refine (valid_ref rfl).mpr (valid_recordWith.mpr ⟨_, rfl, ?_⟩)
  cases hcost : op.cost with
  | none => simp [List.lookup_cons, valid_text, Term.parameters, parameters, preconditions, effects]
  | some cost =>
    have cost := valid_term enc 1 cost
    simp [List.lookup_cons, valid_text, Term.parameters, parameters, preconditions, effects, cost]

theorem valid_method (method : Method) (h : method.branches ≠ []) :
    Valid (method.encode enc) (ref "method") := by
  refine (valid_ref rfl).mpr (valid_record_of_perm rfl ?_)
  have branches : Valid (.arr (method.branches.map (MethodBranch.encode enc)))
      (nonemptyArrayOf (record [("name", text), ("preconditions", ref "precondition"),
        ("tasks", ref "tasks")])) := by
    refine valid_nonemptyArrayOf.mpr ⟨_, rfl, by simpa using h, ?_⟩
    simp only [List.mem_map]
    rintro _ ⟨branch, -, rfl⟩
    refine valid_record_of_perm rfl ?_
    simpa [List.lookup_cons, valid_text] using
      ⟨valid_precondition enc branch.precondition, valid_tasks enc branch.tasks⟩
  simpa [List.lookup_cons, valid_text] using
    ⟨valid_parametersAt enc 0 method.head.params, branches⟩

theorem valid_axiom (rule : Axiom) (h : rule.branches ≠ []) :
    Valid (rule.encode enc) (ref "axiom_rule") := by
  refine (valid_ref rfl).mpr (valid_record_of_perm rfl ?_)
  have branches : Valid (.arr (rule.branches.map (AxiomBranch.encode enc)))
      (nonemptyArrayOf (record [("name", text), ("preconditions", ref "precondition")])) := by
    refine valid_nonemptyArrayOf.mpr ⟨_, rfl, by simpa using h, ?_⟩
    simp only [List.mem_map]
    rintro _ ⟨branch, -, rfl⟩
    refine valid_record_of_perm rfl ?_
    simpa [List.lookup_cons, valid_text] using valid_precondition enc branch.precondition
  simpa [List.lookup_cons, valid_text] using ⟨valid_parametersAt enc 0 rule.head.params, branches⟩

/-! ## Sections and documents -/

/-- An array of what some things are written as. -/
theorem valid_map {α : Type} {encode : α → Json} {things : List α} {s : Schema}
    (h : ∀ x ∈ things, Valid (encode x) s) : Valid (.arr (things.map encode)) (arrayOf s) := by
  refine valid_arrayOf.mpr ⟨_, rfl, ?_⟩
  simpa using h

theorem valid_domain (options : EncoderOptions) {domain : Domain} (h : domain.HasBranches) :
    Valid (domain.encode options) (ref "domain") := by
  refine (valid_ref rfl).mpr (valid_record_of_perm rfl ?_)
  simpa [List.lookup_cons, valid_text] using
    ⟨valid_map fun op _ => valid_operator _ op,
      valid_map fun method hmem => valid_method _ method (h.methods method hmem),
      valid_map fun rule hmem => valid_axiom _ rule (h.axioms rule hmem), valid_strings⟩

theorem valid_problem (options : EncoderOptions) (problem : Problem) :
    Valid (problem.encode options) (ref "problem") := by
  refine (valid_ref rfl).mpr (valid_record_of_perm rfl ?_)
  have goal (tasks : Json) (h : Valid tasks (ref "tasks")) :
      Valid (.obj [("tasks", tasks)]) (record [("tasks", ref "tasks")]) := by
    refine valid_record_of_perm rfl ?_
    simpa [List.lookup_cons] using h
  have fact (enc : Encoder) (fact : Predicate) : Valid (fact.encodeFact enc)
      (record [("predicate", text), ("parameters", arrayOf text)]) := by
    refine valid_record_of_perm rfl ?_
    simpa [List.lookup_cons, valid_text] using valid_strings
  simpa [List.lookup_cons, valid_text] using
    ⟨goal _ (valid_tasks _ problem.goal), valid_map fun p _ => fact _ p, valid_strings⟩

theorem allDistinct_map_str {items : List String} (h : items.Nodup) :
    Json.allDistinct (items.map Json.str) = true := by
  induction items with
  | nil => rfl
  | cons s rest ih =>
    obtain ⟨hs, hrest⟩ := List.nodup_cons.mp h
    have fresh : (rest.map Json.str).any (Json.str s).same = false := by
      simp only [List.any_map, List.any_eq_false, Function.comp_apply, same_str]
      rintro t ht ⟨rfl⟩
      exact hs ht
    simp [Json.allDistinct, fresh, ih hrest]

theorem valid_requirements (s : RequirementSet) :
    Valid s.toJson (all [type [.array], assert .uniqueItems, items (ref "requirement")]) := by
  have tags : ∀ r : Requirement, Valid (.str r.tag) (ref "requirement") := by
    intro r
    refine (valid_ref rfl).mpr (valid_among.mpr ?_)
    cases r <;> simp [Requirement.tag]
  simp only [valid_all, List.forall_mem_cons, valid_array, valid_assert, Assertion.holds,
    RequirementSet.toJson, Json.strings, Json.arr?, Option.all_some, valid_items]
  refine ⟨⟨_, rfl⟩, allDistinct_map_str s.nodup_tags, ?_, by simp⟩
  simpa [RequirementSet.tags] using fun r _ => tags r

/-- A document with valid sections is valid if it has all that one of its kinds must have. -/
theorem accepts_document {d : Document} (hdomain : ∀ v ∈ d.domain, Valid v (ref "domain"))
    (hproblem : ∀ v ∈ d.problem, Valid v (ref "problem"))
    (h : d.domain.isSome ∧ d.requirements.isSome ∨ d.problem.isSome) :
    documentFormat.accepts d.toJson = true := by
  refine valid_root.mp ?_
  obtain ⟨requirements, domain, problem⟩ := d
  simp only [root, valid_all, List.forall_mem_cons]
  refine ⟨rfl, ?_, ?_, ?_, by simp⟩
  · cases requirements <;> cases domain <;> cases problem <;> rfl
  · obtain ⟨hd, hr⟩ | hp := h
    · exact valid_anyOf.mpr ⟨required ["requirements", "domain"], by simp,
        valid_required (by simpa using ⟨hr, hd⟩)⟩
    · exact valid_anyOf.mpr ⟨required ["problem"], by simp, valid_required (by simpa using hp)⟩
  · simp only [valid_properties, List.forall_mem_cons, Document.get?_toJson_requirements,
      Document.get?_toJson_domain, Document.get?_toJson_problem]
    refine ⟨?_, ?_, ?_, by simp⟩
    · rintro _ hw
      obtain ⟨s, -, rfl⟩ := Option.map_eq_some_iff.mp hw
      exact valid_requirements s
    · exact hdomain
    · exact hproblem

end DocumentFormat

open DocumentFormat Schema in
/-- Every document of a domain that was built, of a problem over it or of a problem alone satisfies
the format, whatever trees and numbers the model holds and however deep nodes may be nested. -/
theorem Document.validates_built (name : String) (calls : List DomainBuilder.Call)
    (requirements : RequirementSet) (problem : Option Problem) (options : EncoderOptions) :
    let domain := ((DomainBuilder.new name).run calls).finish
    documentFormat.Validates (build domain problem options).toJson ∧
      documentFormat.Validates (withRequirements domain requirements problem options).toJson ∧
      ∀ p : Problem, documentFormat.Validates (problemOnly p options).toJson := by
  intro domain
  have hdomain : Valid (domain.encode options) (ref "domain") :=
    valid_domain options (DomainBuilder.hasBranches_finish name calls)
  have both (rs : RequirementSet) :
      documentFormat.Validates (withRequirements domain rs problem options).toJson := by
    refine SchemaDocument.validates_iff.mpr (accepts_document ?_ ?_ (.inl ⟨rfl, rfl⟩))
    · rintro _ ⟨rfl⟩
      exact hdomain
    · intro v hv
      obtain ⟨p, -, rfl⟩ := Option.map_eq_some_iff.mp hv
      exact valid_problem options p
  refine ⟨both domain.requirements, both requirements, fun p => ?_⟩
  refine SchemaDocument.validates_iff.mpr (accepts_document (by simp [problemOnly]) ?_ (.inr rfl))
  rintro _ ⟨rfl⟩
  exact valid_problem options p

end TaskNetwork
