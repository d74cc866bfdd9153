import TaskNetwork.Document.Basic
import TaskNetwork.Proofs.Induction
import TaskNetwork.Proofs.Json.Pruning
import TaskNetwork.Proofs.Term.Elements

/-!
# Two depth limits

What is written with a smaller depth limit is what is written with a greater one, pruned: nodes that
are too deep for the smaller limit are cut, and all else is the same. Task lists are flattened as
they are written, so a cut may there take the place of any number of tasks; but where nothing is cut
they do not differ either.
-/

namespace TaskNetwork

open Json

/-- The options with another depth limit. -/
def EncoderOptions.limitedTo (options : EncoderOptions) (limit : Nat) : EncoderOptions :=
  { options with maxDepth := limit }

namespace Encoder

/-- The encoder with another depth limit. -/
def limitedTo (enc : Encoder) (limit : Nat) : Encoder :=
  { enc with options := enc.options.limitedTo limit }

variable (enc : Encoder) {m n : Nat} (h : m ≤ n)

theorem allows_limitedTo (limit depth : Nat) :
    (enc.limitedTo limit).allows depth = decide (depth ≤ limit) := rfl

include h in
/-- What the smaller limit allows is pruned further down, and anything else is cut. -/
theorem pruned_written {depth : Nat} {v w : Json}
    (hpruned : Pruned (enc.limitedTo m).tooDeep v w) :
    Pruned (enc.limitedTo m).tooDeep
      (if (enc.limitedTo m).allows depth then v else (enc.limitedTo m).tooDeep)
      (if (enc.limitedTo n).allows depth then w else (enc.limitedTo n).tooDeep) := by
  simp only [allows_limitedTo, decide_eq_true_eq]
  by_cases hdepth : depth ≤ m
  · rw [if_pos hdepth, if_pos (Nat.le_trans hdepth h)]
    exact hpruned
  · rw [if_neg hdepth]
    exact .cut _

end Encoder

variable (enc : Encoder) {m n : Nat} (h : m ≤ n)

/-! ## Terms and predicates -/

namespace Term

/-- The text of a term has no depth. -/
theorem text_limitedTo (limit : Nat) (t : Term) :
    t.text (enc.limitedTo limit) = t.text enc ∧
      t.tailText (enc.limitedTo limit) = t.tailText enc := by
  induction t with
  | cons head tail hhead htail => simp [text, tailText, hhead, htail]
  | call f args ih =>
    have hargs : argsText (enc.limitedTo limit) args = argsText enc args := by
      induction args with
      | nil => rfl
      | cons t rest ihrest =>
        obtain ⟨ht, hrest⟩ := List.forall_mem_cons.mp ih
        simp [argsText, ht.1, ihrest hrest]
    simp [text, tailText, hargs]
  | _ => exact ⟨rfl, rfl⟩

include h

theorem pruned_leafAt (depth : Nat) (t : Term) :
    Pruned (enc.limitedTo m).tooDeep (t.leafAt (enc.limitedTo m) depth)
      (t.leafAt (enc.limitedTo n) depth) := by
  refine enc.pruned_written h (.of_eq ?_)
  cases t with
  | call f args =>
    dsimp only
    rw [(text_limitedTo enc m _).1, (text_limitedTo enc n _).1]
  | _ => rfl

theorem pruned_encodeAt (depth : Nat) (t : Term) :
    Pruned (enc.limitedTo m).tooDeep (t.encodeAt (enc.limitedTo m) depth)
      (t.encodeAt (enc.limitedTo n) depth) := by
  induction t using elements_induction generalizing depth with
  | leaf t hleaf =>
    rw [encodeAt_of_isList_eq_false hleaf, encodeAt_of_isList_eq_false hleaf]
    exact pruned_leafAt enc h depth t
  | list t hlist ih =>
    rw [encodeAt_of_isList hlist, encodeAt_of_isList hlist]
    exact enc.pruned_written h (.arr (Pruned.forall₂_map _ fun e he => ih e he (depth + 1)))

theorem prunedField_parametersAt (depth : Nat) (t : Term) :
    PrunedField (enc.limitedTo m).tooDeep
      ("parameters", t.parametersAt (enc.limitedTo m) depth)
      ("parameters", t.parametersAt (enc.limitedTo n) depth) := by
  rw [parametersAt_eq, parametersAt_eq]
  exact .list (by decide) (Pruned.forall₂_map _ fun e _ => pruned_encodeAt enc h (depth + 1) e)

end Term

include h

theorem Predicate.pruned_encodeAt (c : Category) (depth : Nat) (p : Predicate) :
    Pruned (enc.limitedTo m).tooDeep (p.encodeAt (enc.limitedTo m) c depth)
      (p.encodeAt (enc.limitedTo n) c depth) :=
  enc.pruned_written h <| .obj <|
    .cons (.same _) (.cons (p.params.prunedField_parametersAt enc h depth) (.cons (.same _) .nil))

/-! ## Expressions -/

namespace Expression

omit h in
theorem pruned_conjunctionNode {cut : Json} {vs ws : List Json}
    (hpruned : List.Forall₂ (Pruned cut) vs ws) :
    Pruned cut (conjunctionNode vs) (conjunctionNode ws) := by
  match hpruned with
  | .nil => exact .same _
  | .cons _ .nil => exact .same _
  | .cons hleft (.cons hright .nil) =>
    exact .obj (.cons (.node (by decide) hleft) (.cons (.node (by decide) hright)
      (.cons (.same _) .nil)))
  | .cons hfirst (.cons hsecond (.cons hthird hrest)) =>
    refine .obj (.cons (.list (by decide) ?_) (.cons (.same _) .nil))
    exact .cons hfirst (.cons hsecond (.cons hthird hrest))

omit h in
theorem pruned_disjunctionNode {cut : Json} {vs ws : List Json}
    (hpruned : List.Forall₂ (Pruned cut) vs ws) :
    Pruned cut (disjunctionNode vs) (disjunctionNode ws) := by
  rw [disjunctionNode, disjunctionNode, hpruned.length_eq]
  split
  · exact .same _
  · exact .obj (.cons (.list (by decide) hpruned) (.cons (.same _) .nil))

theorem pruned_encodeAt (depth : Nat) (e : Expression) :
    Pruned (enc.limitedTo m).tooDeep (e.encodeAt (enc.limitedTo m) depth)
      (e.encodeAt (enc.limitedTo n) depth) := by
  induction e generalizing depth with
  | atom p =>
    rw [encodeAt, encodeAt]
    exact enc.pruned_written h (p.pruned_encodeAt enc h .constant depth)
  | and operands ih =>
    rw [encodeAt, encodeAt, encodeListAt_eq_map, encodeListAt_eq_map]
    refine enc.pruned_written h (pruned_conjunctionNode ?_)
    exact Pruned.forall₂_map operands fun e he => ih e he (depth + 1)
  | or operands ih =>
    rw [encodeAt, encodeAt, encodeListAt_eq_map, encodeListAt_eq_map]
    refine enc.pruned_written h (pruned_disjunctionNode ?_)
    exact Pruned.forall₂_map operands fun e he => ih e he (depth + 1)
  | not e ih =>
    rw [encodeAt, encodeAt]
    refine enc.pruned_written h (.obj ?_)
    exact .cons (.node (by decide) (ih (depth + 1))) (.cons (.same _) .nil)
  | all premise consequence ihp ihc =>
    rw [encodeAt, encodeAt]
    refine enc.pruned_written h (.obj ?_)
    exact .cons (.node (by decide) (ihp (depth + 1))) (.cons (.node (by decide) (ihc (depth + 1)))
      (.cons (.same _) (.cons (.same _) .nil)))
  | call f args =>
    rw [encodeAt, encodeAt]
    refine enc.pruned_written h (.obj ?_)
    exact .cons (.list (by decide) (Pruned.forall₂_map args fun t _ =>
      t.pruned_encodeAt enc h (depth + 1))) (.cons (.same _) (.cons (.same _) .nil))
  | assign i value =>
    rw [encodeAt, encodeAt]
    refine enc.pruned_written h (.obj ?_)
    exact .cons (.same _) (.cons (.same _) (.cons (.same _) (.cons
      (.node (by decide) (value.pruned_encodeAt enc h (depth + 1))) .nil)))
  | nil | unknown kind =>
    rw [encodeAt, encodeAt]
    exact enc.pruned_written h (.same _)

theorem prunedField_encodeOption (e : Option Expression) :
    PrunedField (enc.limitedTo m).tooDeep
      ("preconditions", encodeOption (enc.limitedTo m) e)
      ("preconditions", encodeOption (enc.limitedTo n) e) := by
  cases e with
  | none => exact .same _
  | some e => exact .node (by decide) (e.pruned_encodeAt enc h 0)

end Expression

/-! ## Effects -/

theorem Predicate.pruned_encodeEffectAt (mode : EffectMode) (depth : Nat) (p : Predicate) :
    Pruned (enc.limitedTo m).tooDeep (p.encodeEffectAt (enc.limitedTo m) mode depth)
      (p.encodeEffectAt (enc.limitedTo n) mode depth) := by
  cases mode with
  | add => exact p.pruned_encodeAt enc h .constant depth
  | delete =>
    have hatom := p.pruned_encodeAt enc h .constant (depth + 1)
    exact .obj (.cons (.list (by decide) (.cons hatom .nil)) (.cons (.same _) .nil))

theorem Effect.pruned_encodeAt (mode : EffectMode) (depth : Nat) (e : Effect) :
    Pruned (enc.limitedTo m).tooDeep (e.encodeAt (enc.limitedTo m) mode depth)
      (e.encodeAt (enc.limitedTo n) mode depth) := by
  refine enc.pruned_written h ?_
  cases e with
  | atom p => exact p.pruned_encodeEffectAt enc h mode depth
  | all premise templates =>
    have hpremise := premise.pruned_encodeAt enc h (depth + 1)
    have htemplates := Pruned.forall₂_map templates fun p _ =>
      p.pruned_encodeEffectAt enc h mode (depth + 1)
    exact .obj (.cons (.same _) (.cons (.node (by decide) hpremise)
      (.cons (.list (by decide) htemplates) (.cons (.same _) (.cons (.same _) .nil)))))
  | protect target =>
    have htarget := target.pruned_encodeAt enc h .constant (depth + 1)
    exact .obj (.cons (.same _) (.cons (.node (by decide) htarget) (.cons (.same _) .nil)))
  | unknown kind => exact .same _

/-! ## Operators and axioms -/

theorem EffectLists.prunedField_encode (effects : EffectLists) :
    PrunedField (enc.limitedTo m).tooDeep ("effect", effects.encode (enc.limitedTo m))
      ("effect", effects.encode (enc.limitedTo n)) :=
  .list (by decide) (Pruned.forall₂_map _ fun entry _ => entry.2.pruned_encodeAt enc h entry.1 1)

theorem Operator.pruned_encode (op : Operator) :
    Pruned (enc.limitedTo m).tooDeep (op.encode (enc.limitedTo m))
      (op.encode (enc.limitedTo n)) := by
  have heffects := op.effects.prunedField_encode enc h
  have hparams := op.head.params.prunedField_parametersAt enc h 0
  have hprecondition := Expression.prunedField_encodeOption enc h op.precondition
  unfold encode
  cases op.cost with
  | none =>
    exact .obj (.cons heffects (.cons (.same _) (.cons hparams (.cons hprecondition .nil))))
  | some cost =>
    have hcost := cost.pruned_encodeAt enc h 1
    exact .obj (.cons (.node (by decide) hcost)
      (.cons heffects (.cons (.same _) (.cons hparams (.cons hprecondition .nil)))))

theorem AxiomBranch.pruned_encode (branch : AxiomBranch) :
    Pruned (enc.limitedTo m).tooDeep (branch.encode (enc.limitedTo m))
      (branch.encode (enc.limitedTo n)) :=
  .obj (.cons (.same _)
    (.cons (Expression.prunedField_encodeOption enc h branch.precondition) .nil))

theorem Axiom.pruned_encode (rule : Axiom) :
    Pruned (enc.limitedTo m).tooDeep (rule.encode (enc.limitedTo m))
      (rule.encode (enc.limitedTo n)) := by
  have hbranches := Pruned.forall₂_map rule.branches fun branch _ =>
    branch.pruned_encode enc h
  exact .obj (.cons (.list (by decide) hbranches) (.cons (.same _)
    (.cons (rule.head.params.prunedField_parametersAt enc h 0) .nil)))

/-! ## Task lists and methods -/

theorem TaskAtom.pruned_encodeAt (depth : Nat) (a : TaskAtom) :
    Pruned (enc.limitedTo m).tooDeep (a.encodeAt (enc.limitedTo m) depth)
      (a.encodeAt (enc.limitedTo n) depth) :=
  .obj (.cons (.same _) (.cons (a.head.params.prunedField_parametersAt enc h depth)
    (.cons (.same _) .nil)))

namespace TaskList

omit h in
theorem le_of_uncut {depth : Nat} {list : TaskList}
    (hfree : ∀ node ∈ list.nodesAt (enc.limitedTo m) depth,
      ¬ HasPart (enc.limitedTo m).tooDeep node) : depth ≤ m := by
  by_contra hdeep
  rw [nodesAt.eq_def, Encoder.allows_limitedTo, decide_eq_false hdeep] at hfree
  exact hfree _ (List.mem_singleton_self _) .self

/-- Where nothing is cut, the greater limit adds no task. -/
theorem nodesAt_eq_of_uncut (depth : Nat) (list : TaskList)
    (hfree : ∀ node ∈ list.nodesAt (enc.limitedTo m) depth,
      ¬ HasPart (enc.limitedTo m).tooDeep node) :
    list.nodesAt (enc.limitedTo m) depth = list.nodesAt (enc.limitedTo n) depth := by
  have hdepth := le_of_uncut enc hfree
  have hm : (enc.limitedTo m).allows depth = true := decide_eq_true hdepth
  have hn : (enc.limitedTo n).allows depth = true := decide_eq_true (Nat.le_trans hdepth h)
  induction list generalizing depth with
  | empty => rw [nodesAt, nodesAt, if_pos hm, if_pos hn]
  | atom a =>
    rw [nodesAt, if_pos hm] at hfree ⊢
    rw [nodesAt, if_pos hn]
    rw [(a.pruned_encodeAt enc h depth).eq_of_not_hasPart (hfree _ (List.mem_singleton_self _))]
  | sequence children ih =>
    rw [nodesAt, if_pos hm, nodesListAt_eq_flatMap] at hfree ⊢
    rw [nodesAt, if_pos hn, nodesListAt_eq_flatMap]
    have hchild (child : TaskList) (hmem : child ∈ children) :
        child.nodesAt (enc.limitedTo m) (depth + 1) =
          child.nodesAt (enc.limitedTo n) (depth + 1) := by
      have hfree' : ∀ node ∈ child.nodesAt (enc.limitedTo m) (depth + 1),
          ¬ HasPart (enc.limitedTo m).tooDeep node :=
        fun node hnode => hfree node (List.mem_flatMap.mpr ⟨child, hmem, hnode⟩)
      have hdepth' := le_of_uncut enc hfree'
      exact ih child hmem (depth + 1) hfree' hdepth' (decide_eq_true hdepth')
        (decide_eq_true (Nat.le_trans hdepth' h))
    rw [List.flatMap_def, List.flatMap_def, List.map_congr_left hchild]

theorem encode_eq_of_uncut {list : TaskList}
    (hfree : ¬ HasPart (enc.limitedTo m).tooDeep (list.encode (enc.limitedTo m))) :
    list.encode (enc.limitedTo m) = list.encode (enc.limitedTo n) := by
  rw [encode, encode, list.nodesAt_eq_of_uncut enc h 0 (not_hasPart_item hfree)]

end TaskList

theorem MethodBranch.encode_eq_of_uncut {branch : MethodBranch}
    (hfree : ¬ HasPart (enc.limitedTo m).tooDeep (branch.encode (enc.limitedTo m))) :
    branch.encode (enc.limitedTo m) = branch.encode (enc.limitedTo n) := by
  obtain ⟨-, hprecondition, htasks, -⟩ := by
    simpa only [List.forall_mem_cons] using not_hasPart_field hfree
  rw [encode, branch.tasks.encode_eq_of_uncut enc h htasks,
    (Expression.prunedField_encodeOption enc h branch.precondition).eq_of_not_hasPart
      hprecondition]
  rfl

theorem Method.encode_eq_of_uncut {method : Method}
    (hfree : ¬ HasPart (enc.limitedTo m).tooDeep (method.encode (enc.limitedTo m))) :
    method.encode (enc.limitedTo m) = method.encode (enc.limitedTo n) := by
  obtain ⟨hbranches, -, hparams, -⟩ := by
    simpa only [List.forall_mem_cons] using not_hasPart_field hfree
  have hmap : method.branches.map (MethodBranch.encode (enc.limitedTo m)) =
      method.branches.map (MethodBranch.encode (enc.limitedTo n)) :=
    List.map_congr_left fun branch hmem =>
      branch.encode_eq_of_uncut enc h (not_hasPart_item hbranches _ (List.mem_map_of_mem hmem))
  rw [encode, hmap, Term.parameters,
    (method.head.params.prunedField_parametersAt enc h 0).eq_of_not_hasPart hparams]
  rfl

/-! ## Documents -/

omit h in
/-- Facts are written as text, without a depth. -/
theorem Predicate.encodeFact_limitedTo (limit : Nat) (fact : Predicate) :
    fact.encodeFact (enc.limitedTo limit) = fact.encodeFact enc := by
  have htext : Term.text (enc.limitedTo limit) = Term.text enc :=
    funext fun t => (t.text_limitedTo enc limit).1
  rw [encodeFact, htext, encodeFact]
  rfl

omit h in
theorem Domain.encode_limitedTo (options : EncoderOptions) (limit : Nat) (domain : Domain) :
    domain.encode (options.limitedTo limit) =
      let enc := (Encoder.mk domain.symbols options).limitedTo limit
      obj [("axioms", arr (domain.axioms.map (Axiom.encode enc))),
        ("compound_tasks", arr (domain.methods.map (Method.encode enc))),
        ("name", str domain.name),
        ("primitive_tasks", arr (domain.operators.map (Operator.encode enc))),
        ("procedures", strings domain.procedures)] := rfl

theorem Domain.encode_eq_of_uncut {options : EncoderOptions} {domain : Domain}
    (hfree : ¬ HasPart (Fault.depthExceeded m).node (domain.encode (options.limitedTo m))) :
    domain.encode (options.limitedTo m) = domain.encode (options.limitedTo n) := by
  rw [encode_limitedTo] at hfree
  rw [encode_limitedTo, encode_limitedTo]
  dsimp only at hfree ⊢
  generalize Encoder.mk domain.symbols options = enc at hfree ⊢
  obtain ⟨haxioms, hmethods, -, hoperators, -⟩ := by
    simpa only [List.forall_mem_cons] using not_hasPart_field hfree
  have hrules : domain.axioms.map (Axiom.encode (enc.limitedTo m)) =
      domain.axioms.map (Axiom.encode (enc.limitedTo n)) :=
    List.map_congr_left fun rule hmem => (rule.pruned_encode enc h).eq_of_not_hasPart
      (not_hasPart_item haxioms _ (List.mem_map_of_mem hmem))
  have htasks : domain.methods.map (Method.encode (enc.limitedTo m)) =
      domain.methods.map (Method.encode (enc.limitedTo n)) :=
    List.map_congr_left fun method hmem => method.encode_eq_of_uncut enc h
      (not_hasPart_item hmethods _ (List.mem_map_of_mem hmem))
  have hoperators : domain.operators.map (Operator.encode (enc.limitedTo m)) =
      domain.operators.map (Operator.encode (enc.limitedTo n)) :=
    List.map_congr_left fun op hmem => (op.pruned_encode enc h).eq_of_not_hasPart
      (not_hasPart_item hoperators _ (List.mem_map_of_mem hmem))
  rw [hrules, htasks, hoperators]

omit h in
theorem Problem.encode_limitedTo (options : EncoderOptions) (limit : Nat) (p : Problem) :
    p.encode (options.limitedTo limit) =
      let enc := Encoder.mk p.symbols options
      obj [("additional_constants", strings p.additionalConstants),
        ("goal", obj [("tasks", p.goal.encode (enc.limitedTo limit))]),
        ("init", arr (p.init.map (Predicate.encodeFact enc))), ("name", str p.name)] := by
  have hinit : p.init.map (Predicate.encodeFact ((Encoder.mk p.symbols options).limitedTo limit)) =
      p.init.map (Predicate.encodeFact ⟨p.symbols, options⟩) :=
    List.map_congr_left fun fact _ => fact.encodeFact_limitedTo _ limit
  dsimp only
  rw [← hinit]
  rfl

theorem Problem.encode_eq_of_uncut {options : EncoderOptions} {p : Problem}
    (hfree : ¬ HasPart (Fault.depthExceeded m).node (p.encode (options.limitedTo m))) :
    p.encode (options.limitedTo m) = p.encode (options.limitedTo n) := by
  rw [encode_limitedTo] at hfree
  rw [encode_limitedTo, encode_limitedTo]
  dsimp only at hfree ⊢
  generalize Encoder.mk p.symbols options = enc at hfree ⊢
  obtain ⟨-, hgoal, -⟩ := by
    simpa only [List.forall_mem_cons] using not_hasPart_field hfree
  have htasks : ¬ HasPart (Fault.depthExceeded m).node (p.goal.encode (enc.limitedTo m)) :=
    not_hasPart_field hgoal ("tasks", p.goal.encode (enc.limitedTo m)) (by simp)
  rw [p.goal.encode_eq_of_uncut enc h htasks]

/-- A smaller depth limit prunes what a greater one writes: an operator or an axiom loses nodes that
are too deep and nothing else changes in it. A document in which nothing was cut is the same with
the greater limit. -/
theorem Document.pruned_of_le (domain : Domain) (problem : Option Problem)
    (options : EncoderOptions) :
    let enc (limit : Nat) : Encoder := ⟨domain.symbols, options.limitedTo limit⟩
    let document (limit : Nat) := (build domain problem (options.limitedTo limit)).toJson
    let cut := (Fault.depthExceeded m).node
    (∀ op ∈ domain.operators, Pruned cut (op.encode (enc m)) (op.encode (enc n))) ∧
      (∀ rule ∈ domain.axioms, Pruned cut (rule.encode (enc m)) (rule.encode (enc n))) ∧
      (¬ HasPart cut (document m) → document n = document m) := by
  intro enc document cut
  refine ⟨?_, ?_, ?_⟩
  · intro op _
    exact op.pruned_encode ⟨domain.symbols, options⟩ h
  · intro rule _
    exact rule.pruned_encode ⟨domain.symbols, options⟩ h
  · intro hfree
    have hdomain := Domain.encode_eq_of_uncut h fun hpart =>
      hfree (.of_get? "domain" (get?_toJson_domain _) hpart)
    cases problem with
    | none => simp only [document, build, withRequirements, hdomain, Option.map_none]
    | some p =>
      have hproblem := Problem.encode_eq_of_uncut h fun hpart =>
        hfree (.of_get? "problem" (get?_toJson_problem _) hpart)
      simp only [document, build, withRequirements, hdomain, hproblem, Option.map_some]

omit h in
/-- The negation is as deep as the smaller limit allows, and what is negated lies too deep. -/
theorem Document.pruned_of_zero_le_one :
    let op : Operator := ⟨0, ⟨0, .nil⟩, some (.not .nil), {}, none⟩
    let options : EncoderOptions := {}
    0 ≤ 1 ∧ Pruned (Fault.depthExceeded 0).node (op.encode ⟨.empty, options.limitedTo 0⟩)
      (op.encode ⟨.empty, options.limitedTo 1⟩) := by
  intro op options
  have h : 0 ≤ 1 := by decide
  exact ⟨h, (pruned_of_le h { name := "d", operators := [op] } none options).1 op
    (List.mem_singleton_self op)⟩

end TaskNetwork
