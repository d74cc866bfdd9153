import TaskNetwork.Proofs.Fault.Containment
import TaskNetwork.Proofs.Json.Pruning
import TaskNetwork.Proofs.Operator.Lossless

/-!
# Presence of parts

What is written of a model has the nodes of all parts that are reached in it. One step down is
enough: the nodes of a part right below a sound one are within its nodes.
-/

namespace TaskNetwork

open Json

/-! ## One step -/

section

variable {enc : Encoder} {depth : Nat} {node : Json}

theorem Term.hasPart_parametersAt {t : Term} {x : Nat × Part}
    (hx : x ∈ Part.ofParameters depth t) (hnode : node ∈ x.2.nodes enc x.1) :
    HasPart node (t.parametersAt enc depth) := by
  obtain ⟨u, hu, rfl⟩ := List.mem_map.mp hx
  obtain rfl := List.mem_singleton.mp hnode
  rw [parametersAt_eq]
  exact .item (List.mem_map_of_mem hu) .self

theorem Predicate.hasPart_encodeEffectAt {mode : EffectMode} {p : Predicate}
    (hnode : node ∈ (Part.ofEffectAtom mode depth p).2.nodes enc
      (Part.ofEffectAtom mode depth p).1) :
    HasPart node (p.encodeEffectAt enc mode depth) := by
  cases mode with
  | add =>
    obtain rfl := List.mem_singleton.mp hnode
    exact .self
  | delete => exact .of_get? "expression" rfl (.item hnode .self)

namespace Expression

theorem hasPart_conjunctionNode {operands : List Json} (h : ¬ operands.length < 2)
    (hnode : node ∈ operands) : HasPart node (conjunctionNode operands) := by
  unfold conjunctionNode
  split
  · rcases List.mem_pair.mp hnode with rfl | rfl
    · exact .of_get? "left" rfl .self
    · exact .of_get? "right" rfl .self
  · rw [if_neg h]
    exact .of_get? "conjuncts" rfl (.item hnode .self)

theorem hasPart_disjunctionNode {operands : List Json} (h : ¬ operands.length < 2)
    (hnode : node ∈ operands) : HasPart node (disjunctionNode operands) := by
  rw [disjunctionNode, if_neg h]
  exact .of_get? "disjuncts" rfl (.item hnode .self)

end Expression

namespace Part

theorem hasPart_term {t : Term} {x : Nat × Part} (h : enc.allows depth = true)
    (hx : x ∈ (term t).below depth) (hnode : node ∈ x.2.nodes enc x.1) :
    HasPart node (t.encodeAt enc depth) := by
  cases t with
  | cons head tail =>
    have hlist : (Term.cons head tail).isList = true := rfl
    rw [Term.encodeAt_of_isList hlist, if_pos h, ← Term.parametersAt_eq]
    exact Term.hasPart_parametersAt hx hnode
  | _ => cases hx

theorem hasPart_predicate {p : Predicate} {x : Nat × Part} (h : enc.allows depth = true)
    (hx : x ∈ (predicate p).below depth) (hnode : node ∈ x.2.nodes enc x.1) :
    HasPart node (p.encodeAt enc .constant depth) := by
  rw [Predicate.encodeAt, if_pos h]
  exact .of_get? "parameters" rfl (Term.hasPart_parametersAt hx hnode)

theorem hasPart_expression {e : Expression} {x : Nat × Part} (h : enc.allows depth = true)
    (hformed : (expression e).isMalformed = false) (hx : x ∈ (expression e).below depth)
    (hnode : node ∈ x.2.nodes enc x.1) : HasPart node (e.encodeAt enc depth) := by
  have hoperand {operands : List Expression}
      (hx : x ∈ operands.map fun e => (depth + 1, expression e)) :
      node ∈ Expression.encodeListAt enc (depth + 1) operands := by
    obtain ⟨e, he, rfl⟩ := List.mem_map.mp hx
    obtain rfl := List.mem_singleton.mp hnode
    rw [Expression.encodeListAt_eq_map]
    exact List.mem_map_of_mem he
  rw [Expression.encodeAt.eq_def, if_pos h]
  cases e with
  | atom p =>
    obtain rfl := List.mem_singleton.mp hx
    obtain rfl := List.mem_singleton.mp hnode
    exact .self
  | and operands =>
    have hlength : ¬ operands.length < 2 := by simpa [isMalformed] using hformed
    refine Expression.hasPart_conjunctionNode ?_ (hoperand hx)
    rwa [Expression.encodeListAt_eq_map, List.length_map]
  | or operands =>
    have hlength : ¬ operands.length < 2 := by simpa [isMalformed] using hformed
    refine Expression.hasPart_disjunctionNode ?_ (hoperand hx)
    rwa [Expression.encodeListAt_eq_map, List.length_map]
  | not e =>
    obtain rfl := List.mem_singleton.mp hx
    obtain rfl := List.mem_singleton.mp hnode
    exact .of_get? "expression" rfl .self
  | all premise consequence =>
    rcases List.mem_pair.mp hx with rfl | rfl
    · obtain rfl := List.mem_singleton.mp hnode
      exact .of_get? "expression" rfl .self
    · obtain rfl := List.mem_singleton.mp hnode
      exact .of_get? "predicates" rfl .self
  | call f args =>
    obtain ⟨t, ht, rfl⟩ := List.mem_map.mp hx
    obtain rfl := List.mem_singleton.mp hnode
    exact .of_get? "arguments" rfl (.item (List.mem_map_of_mem ht) .self)
  | assign i value =>
    obtain rfl := List.mem_singleton.mp hx
    obtain rfl := List.mem_singleton.mp hnode
    exact .of_get? "value" rfl .self
  | nil => cases hx
  | unknown kind => cases hx

theorem hasPart_effect {mode : EffectMode} {e : Effect} {x : Nat × Part}
    (h : enc.allows depth = true) (hx : x ∈ (effect mode e).below depth)
    (hnode : node ∈ x.2.nodes enc x.1) : HasPart node (e.encodeAt enc mode depth) := by
  rw [Effect.encodeAt.eq_def, if_pos h]
  cases e with
  | atom p =>
    obtain rfl := List.mem_singleton.mp hx
    exact Predicate.hasPart_encodeEffectAt hnode
  | all premise templates =>
    rcases List.mem_cons.mp hx with rfl | htemplate
    · obtain rfl := List.mem_singleton.mp hnode
      exact .of_get? "expression" rfl .self
    · obtain ⟨p, hp, rfl⟩ := List.mem_map.mp htemplate
      exact .of_get? "predicates" rfl
        (.item (List.mem_map_of_mem hp) (Predicate.hasPart_encodeEffectAt hnode))
  | protect target =>
    obtain rfl := List.mem_singleton.mp hx
    obtain rfl := List.mem_singleton.mp hnode
    exact .of_get? "predicate" rfl .self
  | unknown kind => cases hx

theorem hasPart_tasks {list : TaskList} {x : Nat × Part} (h : enc.allows depth = true)
    (hx : x ∈ (tasks list).below depth) (hnode : node ∈ x.2.nodes enc x.1) :
    ∃ outer ∈ list.nodesAt enc depth, HasPart node outer := by
  rw [TaskList.nodesAt.eq_def, if_pos h]
  cases list with
  | empty => cases hx
  | atom a =>
    exact ⟨_, List.mem_singleton_self _,
      .of_get? "parameters" rfl (Term.hasPart_parametersAt hx hnode)⟩
  | sequence children =>
    obtain ⟨child, hchild, rfl⟩ := List.mem_map.mp hx
    refine ⟨node, ?_, .self⟩
    change node ∈ TaskList.nodesListAt enc (depth + 1) children
    rw [TaskList.nodesListAt_eq_flatMap]
    exact List.mem_flatMap.mpr ⟨child, hchild, hnode⟩

/-- The nodes of a part right below a sound one are within its nodes. -/
theorem hasPart_of_below {p : Part} {x : Nat × Part}
    (sound : p.isFault enc.options.maxDepth depth = false) (hx : x ∈ p.below depth)
    (hnode : node ∈ x.2.nodes enc x.1) : ∃ outer ∈ p.nodes enc depth, HasPart node outer := by
  have ⟨h, hformed⟩ : enc.allows depth = true ∧ p.isMalformed = false := by
    simpa [isFault_eq] using sound
  cases p with
  | term t => exact ⟨_, List.mem_singleton_self _, hasPart_term h hx hnode⟩
  | predicate p => exact ⟨_, List.mem_singleton_self _, hasPart_predicate h hx hnode⟩
  | expression e => exact ⟨_, List.mem_singleton_self _, hasPart_expression h hformed hx hnode⟩
  | effect mode e => exact ⟨_, List.mem_singleton_self _, hasPart_effect h hx hnode⟩
  | tasks list => exact hasPart_tasks h hx hnode

/-! ## All the way down -/

/-- The nodes of the parts are in the value. -/
def AllIn (enc : Encoder) (parts : List (Nat × Part)) (v : Json) : Prop :=
  ∀ x ∈ parts, ∀ node ∈ x.2.nodes enc x.1, HasPart node v

namespace AllIn

variable {parts parts' : List (Nat × Part)} {v w : Json}

theorem append (h : AllIn enc parts v) (h' : AllIn enc parts' v) : AllIn enc (parts ++ parts') v :=
  List.forall_mem_append.mpr ⟨h, h'⟩

theorem flatMap {α : Type} {xs : List α} {parts : α → List (Nat × Part)}
    (h : ∀ x ∈ xs, AllIn enc (parts x) v) : AllIn enc (xs.flatMap parts) v := by
  intro y hy
  obtain ⟨x, hx, hmem⟩ := List.mem_flatMap.mp hy
  exact h x hx y hmem

theorem of_part (hpart : HasPart v w) (h : AllIn enc parts v) : AllIn enc parts w :=
  fun x hx node hnode => (h x hx node hnode).trans hpart

/-- What has the nodes of the first parts has those of all parts that are reached. -/
theorem reached (h : AllIn enc parts v) {depth : Nat} {p : Part}
    (hp : Reached enc.options.maxDepth parts depth p) :
    ∀ node ∈ p.nodes enc depth, HasPart node v := by
  induction hp with
  | root hroot => exact h _ hroot
  | step _ sound hq ih =>
    intro node hnode
    obtain ⟨outer, houter, hpart⟩ := hasPart_of_below sound hq hnode
    exact hpart.trans (ih outer houter)

theorem parameters (t : Term) : AllIn enc (ofParameters 0 t) (t.parameters enc) :=
  fun _ hx _ hnode => Term.hasPart_parametersAt hx hnode

theorem precondition (e : Option Expression) :
    AllIn enc (ofPrecondition e) (Expression.encodeOption enc e) := by
  intro x hx node hnode
  cases e with
  | none => cases hx
  | some e =>
    obtain rfl := List.mem_singleton.mp hx
    obtain rfl := List.mem_singleton.mp hnode
    exact .self

end AllIn

end Part

/-! ## Constructs -/

open TaskNetwork.Part (AllIn)

variable (enc)

theorem Operator.allIn_encode (op : Operator) : AllIn enc op.parts (op.encode enc) := by
  obtain ⟨hcost, heffect, -, hparams, hpre⟩ := op.get?_encode enc
  have hcosts : AllIn enc (op.cost.toList.map fun t => (1, .term t)) (op.encode enc) := by
    intro x hx node hnode
    obtain ⟨t, ht, rfl⟩ := List.mem_map.mp hx
    obtain rfl := List.mem_singleton.mp hnode
    rw [Option.mem_toList] at ht
    rw [ht] at hcost
    exact .of_get? "cost" hcost .self
  have heffects : AllIn enc (op.effects.entries.map fun entry => (1, .effect entry.1 entry.2))
      (op.effects.encode enc) := by
    intro x hx node hnode
    obtain ⟨entry, hentry, rfl⟩ := List.mem_map.mp hx
    obtain rfl := List.mem_singleton.mp hnode
    exact .item (List.mem_map_of_mem hentry) .self
  refine .append (.append (.append ?_ hcosts) ?_) ?_
  · exact (AllIn.parameters _).of_part (.of_get? "parameters" hparams .self)
  · exact (AllIn.precondition _).of_part (.of_get? "preconditions" hpre .self)
  · exact heffects.of_part (.of_get? "effect" heffect .self)

theorem MethodBranch.allIn_encode (branch : MethodBranch) :
    AllIn enc branch.parts (branch.encode enc) := by
  refine .append ((AllIn.precondition _).of_part (.of_get? "preconditions" rfl .self)) ?_
  intro x hx node hnode
  obtain rfl := List.mem_singleton.mp hx
  exact .of_get? "tasks" rfl (.item hnode .self)

theorem Method.allIn_encode (method : Method) : AllIn enc method.parts (method.encode enc) := by
  refine .append ((AllIn.parameters _).of_part (.of_get? "parameters" rfl .self)) ?_
  refine .flatMap fun branch hbranch => (branch.allIn_encode enc).of_part ?_
  exact .of_get? "methods" rfl (.item (List.mem_map_of_mem hbranch) .self)

theorem Axiom.allIn_encode (rule : Axiom) : AllIn enc rule.parts (rule.encode enc) := by
  refine .append ((AllIn.parameters _).of_part (.of_get? "parameters" rfl .self)) ?_
  refine .flatMap fun branch hbranch => (AllIn.precondition branch.precondition).of_part ?_
  have hbranch : HasPart (branch.encode enc) (rule.encode enc) :=
    .of_get? "branches" rfl (.item (List.mem_map_of_mem hbranch) .self)
  exact .trans (.of_get? "preconditions" rfl .self) hbranch

theorem Domain.allIn_encode (options : EncoderOptions) (domain : Domain) :
    AllIn ⟨domain.symbols, options⟩ domain.parts (domain.encode options) := by
  refine .append (.append ?_ ?_) ?_
  · refine .flatMap fun op hop => (op.allIn_encode _).of_part ?_
    exact .of_get? "primitive_tasks" rfl (.item (List.mem_map_of_mem hop) .self)
  · refine .flatMap fun method hmethod => (method.allIn_encode _).of_part ?_
    exact .of_get? "compound_tasks" rfl (.item (List.mem_map_of_mem hmethod) .self)
  · refine .flatMap fun rule hrule => (rule.allIn_encode _).of_part ?_
    exact .of_get? "axioms" rfl (.item (List.mem_map_of_mem hrule) .self)

/-- The first part of a problem. Its facts are shown by their texts and have none. -/
def Problem.parts (p : Problem) : List (Nat × Part) := [(0, .tasks p.goal)]

theorem Problem.allIn_encode (options : EncoderOptions) (p : Problem) :
    AllIn ⟨p.symbols, options⟩ p.parts (p.encode options) := by
  intro x hx node hnode
  obtain rfl := List.mem_singleton.mp hx
  have hgoal : HasPart (p.goal.encode ⟨p.symbols, options⟩) (p.encode options) :=
    .of_get? "goal" rfl (.of_get? "tasks" rfl .self)
  exact .trans (.item hnode .self) hgoal

end

end TaskNetwork
