import TaskNetwork.Document.Basic
import TaskNetwork.Proofs.Expression.Lossless
import TaskNetwork.Proofs.Requirement.Features

/-!
# Declared features

A reader of a document sees features of the language by the types of its nodes: of those in
expression position, and of the entries of effect lists. What is seen is declared in the
requirements of the document, and where no node was replaced by an error node, nothing else is.
-/

namespace TaskNetwork

namespace Json

/-! ## Features of a document -/

/-- The feature that a node shows by its type where an expression stands. -/
def featureOfType? : String → Option Requirement
  | "not" => some .negation
  | "or" => some .disjunction
  | "call" => some .externalCall
  | "assignment" => some .externalAssignment
  | "forall" => some .universalQuantification
  | _ => none

/-- The fields of expressions under which other expressions stand, alone or in an array. -/
def operandKeys : List String :=
  ["left", "right", "conjuncts", "disjuncts", "expression", "predicates"]

def nodeType? (v : Json) : Option String := (v.get? "type").bind str?

mutual

/-- The features that are seen where an expression stands. -/
def expressionFeatures : Json → List Requirement
  | obj fields => ((obj fields).nodeType?.bind featureOfType?).toList ++ operandFeatures fields
  | arr items => itemFeatures items
  | _ => []

def operandFeatures : List (String × Json) → List Requirement
  | [] => []
  | (key, value) :: rest =>
    (if operandKeys.contains key then value.expressionFeatures else []) ++ operandFeatures rest

def itemFeatures : List Json → List Requirement
  | [] => []
  | item :: rest => item.expressionFeatures ++ itemFeatures rest

end

/-- The items of an array under a key. -/
def itemsAt (key : String) (v : Json) : List Json := ((v.get? key).bind arr?).getD []

/-- The features that are seen under a key where an expression stands. -/
def featuresAt (key : String) (v : Json) : List Requirement :=
  (v.get? key).elim [] expressionFeatures

/-- The features that are seen in an entry of an effect list. A deleted atom stands inside a `not`,
which is no negation. -/
def effectFeatures (v : Json) : List Requirement :=
  if v.nodeType? = some "forall" then
    .conditionalEffects :: .universalQuantification :: v.featuresAt "expression"
  else []

def operatorFeatures (v : Json) : List Requirement :=
  v.featuresAt "preconditions" ++ (v.itemsAt "effect").flatMap effectFeatures

/-- The features that are seen in a construct with branches under a key. -/
def branchFeatures (key : String) (v : Json) : List Requirement :=
  (v.itemsAt key).flatMap (featuresAt "preconditions")

/-- The features that are seen in the domain section of a document. -/
def domainFeatures (v : Json) : List Requirement :=
  (v.itemsAt "primitive_tasks").flatMap operatorFeatures ++
    (v.itemsAt "compound_tasks").flatMap (branchFeatures "methods") ++
    (v.itemsAt "axioms").flatMap (branchFeatures "branches")

theorem itemFeatures_eq_flatMap (items : List Json) :
    itemFeatures items = items.flatMap expressionFeatures := by
  induction items with
  | nil => rfl
  | cons item rest ih => simp [itemFeatures, ih]

/-! ## Seen and needed -/

/-- A node shows the features that its part of the model needs: none is seen that is not needed, and
without error nodes all are seen. -/
structure Shows (v : Json) (seen needed : List Requirement) : Prop where
  sound : seen ⊆ needed
  complete : v.Faultless → needed ⊆ seen

namespace Shows

variable {v part : Json} {seen seen' needed needed' : List Requirement}

theorem of_fault (h : ¬ v.Faultless) : v.Shows [] needed where
  sound := List.nil_subset _
  complete faultless := absurd faultless h

theorem nil : v.Shows [] [] := ⟨List.Subset.refl _, fun _ => List.Subset.refl _⟩

theorem cons (r : Requirement) (h : v.Shows seen needed) : v.Shows (r :: seen) (r :: needed) where
  sound := List.cons_subset_cons r h.sound
  complete faultless := List.cons_subset_cons r (h.complete faultless)

theorem append (h : v.Shows seen needed) (h' : v.Shows seen' needed') :
    v.Shows (seen ++ seen') (needed ++ needed') where
  sound := List.append_subset.mpr ⟨List.subset_append_of_subset_left _ h.sound,
    List.subset_append_of_subset_right _ h'.sound⟩
  complete faultless := List.append_subset.mpr
    ⟨List.subset_append_of_subset_left _ (h.complete faultless),
      List.subset_append_of_subset_right _ (h'.complete faultless)⟩

theorem flatMap {α : Type} {xs : List α} {seen needed : α → List Requirement}
    (h : ∀ x ∈ xs, v.Shows (seen x) (needed x)) :
    v.Shows (xs.flatMap seen) (xs.flatMap needed) where
  sound := by
    intro r hr
    obtain ⟨x, hx, hseen⟩ := List.mem_flatMap.mp hr
    exact List.mem_flatMap.mpr ⟨x, hx, (h x hx).sound hseen⟩
  complete faultless := by
    intro r hr
    obtain ⟨x, hx, hneeded⟩ := List.mem_flatMap.mp hr
    exact List.mem_flatMap.mpr ⟨x, hx, (h x hx).complete faultless hneeded⟩

theorem of_part (h : part.Shows seen needed) (hpart : v.Faultless → part.Faultless) :
    v.Shows seen needed where
  sound := h.sound
  complete faultless := h.complete (hpart faultless)

theorem featuresAt {key : String} (hget : v.get? key = some part)
    (h : part.Shows part.expressionFeatures needed) : v.Shows (v.featuresAt key) needed := by
  rw [Json.featuresAt, hget]
  exact h.of_part fun faultless => faultless.of_get? hget

theorem itemsAt {α : Type} {key : String} {xs : List α} {node : α → Json}
    {seen : Json → List Requirement} {needed : α → List Requirement}
    (hget : v.get? key = some (.arr (xs.map node)))
    (h : ∀ x ∈ xs, (node x).Shows (seen (node x)) (needed x)) :
    v.Shows ((v.itemsAt key).flatMap seen) (xs.flatMap needed) := by
  have hitems : v.itemsAt key = xs.map node := by simp [Json.itemsAt, hget, arr?]
  rw [hitems, List.flatMap_map]
  refine .flatMap fun x hx => (h x hx).of_part fun faultless => ?_
  exact faultless_arr.mp (faultless.of_get? hget) _ (List.mem_map_of_mem hx)

end Shows

end Json

attribute [local simp] Json.expressionFeatures Json.operandFeatures Json.operandKeys Json.nodeType?
  Json.str? Json.featureOfType? List.lookup_cons

/-! ## Expressions -/

theorem Fault.expressionFeatures_node (f : Fault) : f.node.expressionFeatures = [] := by
  simp [node]

theorem Fault.shows_node (f : Fault) (needed : List Requirement) :
    f.node.Shows f.node.expressionFeatures needed := by
  rw [f.expressionFeatures_node]
  exact .of_fault f.not_faultless_node

namespace Expression

theorem exists_conjunctionNode_eq_node {operands : List Json} (h : operands.length < 2) :
    ∃ f : Fault, conjunctionNode operands = f.node := by
  match operands, h with
  | [], _ | [_], _ => exact ⟨_, rfl⟩

theorem expressionFeatures_conjunctionNode {operands : List Json} (h : ¬ operands.length < 2) :
    (conjunctionNode operands).expressionFeatures = operands.flatMap Json.expressionFeatures := by
  unfold conjunctionNode
  split <;> simp [h, Json.itemFeatures_eq_flatMap]

/-- A conjunction shows what its operands show, and nothing if it is replaced. -/
theorem shows_conjunctionNode {operands : List Json} {needed : List Requirement}
    (h : (conjunctionNode operands).Shows (operands.flatMap Json.expressionFeatures) needed) :
    (conjunctionNode operands).Shows (conjunctionNode operands).expressionFeatures needed := by
  by_cases hlength : operands.length < 2
  · obtain ⟨f, hf⟩ := exists_conjunctionNode_eq_node hlength
    rw [hf]
    exact f.shows_node needed
  · rwa [expressionFeatures_conjunctionNode hlength]

theorem shows_disjunctionNode {operands : List Json} {needed : List Requirement}
    (h : (disjunctionNode operands).Shows (operands.flatMap Json.expressionFeatures) needed) :
    (disjunctionNode operands).Shows (disjunctionNode operands).expressionFeatures
      (.disjunction :: needed) := by
  by_cases hlength : operands.length < 2
  · rw [disjunctionNode, if_pos hlength]
    exact Fault.shows_node _ _
  · have hseen : (disjunctionNode operands).expressionFeatures =
        .disjunction :: operands.flatMap Json.expressionFeatures := by
      simp [disjunctionNode, hlength, Json.itemFeatures_eq_flatMap]
    rw [hseen]
    exact h.cons .disjunction

variable {enc : Encoder} {depth : Nat}

/-- An expression that lies too deep is replaced, and then nothing is seen. -/
theorem shows_of_allows {e : Expression}
    (h : enc.allows depth = true →
      (e.encodeAt enc depth).Shows (e.encodeAt enc depth).expressionFeatures e.features) :
    (e.encodeAt enc depth).Shows (e.encodeAt enc depth).expressionFeatures e.features := by
  cases hallows : enc.allows depth with
  | true => exact h hallows
  | false =>
    have hnode : e.encodeAt enc depth = enc.tooDeep := by simp [encodeAt.eq_def, hallows]
    rw [hnode]
    exact Fault.shows_node _ _

/-- The features that are seen in an expression are those that it needs. -/
theorem shows_encodeAt (e : Expression) :
    (e.encodeAt enc depth).Shows (e.encodeAt enc depth).expressionFeatures e.features := by
  induction e generalizing depth with
  | and operands ih =>
    refine shows_of_allows fun hallows => ?_
    rw [encodeAt, if_pos hallows, encodeListAt_eq_map, features, featuresList_eq_flatMap]
    apply shows_conjunctionNode
    rw [List.flatMap_map]
    refine .flatMap fun e he => (ih e he).of_part fun faultless => ?_
    exact faultless_of_conjunctionNode faultless _ (List.mem_map_of_mem he)
  | or operands ih =>
    refine shows_of_allows fun hallows => ?_
    rw [encodeAt, if_pos hallows, encodeListAt_eq_map, features, featuresList_eq_flatMap]
    apply shows_disjunctionNode
    rw [List.flatMap_map]
    refine .flatMap fun e he => (ih e he).of_part fun faultless => ?_
    exact faultless_of_disjunctionNode faultless _ (List.mem_map_of_mem he)
  | not e ih =>
    refine shows_of_allows fun hallows => ?_
    have hseen : ((not e).encodeAt enc depth).expressionFeatures =
        .negation :: (e.encodeAt enc (depth + 1)).expressionFeatures := by
      simp [encodeAt, hallows]
    rw [hseen, features]
    refine .cons _ (ih.of_part fun faultless => ?_)
    rw [encodeAt, if_pos hallows] at faultless
    exact faultless.value "expression" (by simp)
  | all premise consequence ihp ihc =>
    refine shows_of_allows fun hallows => ?_
    have hseen : ((all premise consequence).encodeAt enc depth).expressionFeatures =
        .universalQuantification :: ((premise.encodeAt enc (depth + 1)).expressionFeatures ++
          (consequence.encodeAt enc (depth + 1)).expressionFeatures) := by
      simp [encodeAt, hallows]
    rw [hseen, features]
    refine .cons _ (.append ?_ ?_)
    · refine ihp.of_part fun faultless => ?_
      rw [encodeAt, if_pos hallows] at faultless
      exact faultless.value "expression" (by simp)
    · refine ihc.of_part fun faultless => ?_
      rw [encodeAt, if_pos hallows] at faultless
      exact faultless.value "predicates" (by simp)
  | atom p =>
    refine shows_of_allows fun hallows => ?_
    simpa [encodeAt, hallows, Predicate.encodeAt, features] using Json.Shows.nil
  | call function args =>
    refine shows_of_allows fun hallows => ?_
    simpa [encodeAt, hallows, features] using Json.Shows.nil.cons .externalCall
  | assign i value =>
    refine shows_of_allows fun hallows => ?_
    simpa [encodeAt, hallows, features] using Json.Shows.nil.cons .externalAssignment
  | _ =>
    refine shows_of_allows fun hallows => ?_
    simpa [encodeAt, hallows, features] using Json.Shows.nil

theorem shows_encodeOption (e : Option Expression) :
    (encodeOption enc e).Shows (encodeOption enc e).expressionFeatures (featuresOfOption e) := by
  cases e with
  | none => simpa [encodeOption, featuresOfOption] using Json.Shows.nil
  | some e => exact e.shows_encodeAt

end Expression

/-! ## Constructs -/

variable (enc : Encoder)

/-- Of effects only the quantified ones show features, whichever list they are in. -/
theorem Effect.shows_encodeAt (mode : EffectMode) (depth : Nat) (e : Effect) :
    (e.encodeAt enc mode depth).Shows (e.encodeAt enc mode depth).effectFeatures e.features := by
  rw [encodeAt.eq_def]
  split
  · rename_i hallows
    cases e with
    | atom p =>
      cases mode <;>
        simpa [Predicate.encodeEffectAt, Predicate.encodeAt, hallows, Json.effectFeatures, features]
          using Json.Shows.nil
    | all premise templates =>
      simp only [Json.effectFeatures, Json.nodeType?, Json.get?_obj, features]
      have hget : Json.get? "expression" (.obj [("add_list", .bool mode.isAdd),
          ("expression", premise.encodeAt enc (depth + 1)),
          ("predicates", .arr (templates.map (Predicate.encodeEffectAt enc mode (depth + 1)))),
          ("type", .str "forall"), ("variables", enc.variableNodes premise.distinctVars)]) =
          some (premise.encodeAt enc (depth + 1)) := by simp
      exact .cons _ (.cons _ (.featuresAt hget premise.shows_encodeAt))
    | _ => simpa [Json.effectFeatures, features] using Json.Shows.nil
  · have hseen : enc.tooDeep.effectFeatures = [] := by
      simp [Encoder.tooDeep, Fault.node, Json.effectFeatures]
    rw [hseen]
    exact .of_fault (Fault.not_faultless_node _)

theorem Operator.shows_encode (op : Operator) :
    (op.encode enc).Shows (op.encode enc).operatorFeatures op.features := by
  have hprecondition : (op.encode enc).get? "preconditions" =
      some (Expression.encodeOption enc op.precondition) := by
    cases h : op.cost <;> simp [encode, h]
  have heffects : (op.encode enc).get? "effect" =
      some (.arr (op.effects.entries.map fun x => x.2.encodeAt enc x.1 1)) := by
    cases h : op.cost <;> simp [encode, h, EffectLists.encode]
  have hneeded : (op.effects.delete ++ op.effects.add).flatMap Effect.features =
      op.effects.entries.flatMap fun x => x.2.features := by
    simp [EffectLists.entries, List.flatMap_map]
  rw [Json.operatorFeatures, features, hneeded]
  refine .append (.featuresAt hprecondition (Expression.shows_encodeOption _)) ?_
  exact .itemsAt heffects fun x _ => x.2.shows_encodeAt enc x.1 1

theorem Method.shows_encode (method : Method) :
    (method.encode enc).Shows ((method.encode enc).branchFeatures "methods") method.features := by
  have hbranches : (method.encode enc).get? "methods" =
      some (.arr (method.branches.map (MethodBranch.encode enc))) := by simp [encode]
  refine .itemsAt hbranches fun branch _ => ?_
  have hget : (branch.encode enc).get? "preconditions" =
      some (Expression.encodeOption enc branch.precondition) := by simp [MethodBranch.encode]
  exact .featuresAt hget (Expression.shows_encodeOption _)

theorem Axiom.shows_encode (rule : Axiom) :
    (rule.encode enc).Shows ((rule.encode enc).branchFeatures "branches") rule.features := by
  have hbranches : (rule.encode enc).get? "branches" =
      some (.arr (rule.branches.map (AxiomBranch.encode enc))) := by simp [encode]
  refine .itemsAt hbranches fun branch _ => ?_
  have hget : (branch.encode enc).get? "preconditions" =
      some (Expression.encodeOption enc branch.precondition) := by simp [AxiomBranch.encode]
  exact .featuresAt hget (Expression.shows_encodeOption _)

/-- The features that are seen in a written domain are those that its constructs need. -/
theorem Domain.shows_encode (options : EncoderOptions) (domain : Domain) :
    (domain.encode options).Shows (domain.encode options).domainFeatures domain.features := by
  have hoperators : (domain.encode options).get? "primitive_tasks" =
      some (.arr (domain.operators.map (Operator.encode ⟨domain.symbols, options⟩))) := by
    simp [encode]
  have hmethods : (domain.encode options).get? "compound_tasks" =
      some (.arr (domain.methods.map (Method.encode ⟨domain.symbols, options⟩))) := by
    simp [encode]
  have haxioms : (domain.encode options).get? "axioms" =
      some (.arr (domain.axioms.map (Axiom.encode ⟨domain.symbols, options⟩))) := by
    simp [encode]
  refine .append (.append ?_ ?_) ?_
  · exact .itemsAt hoperators fun op _ => op.shows_encode _
  · exact .itemsAt hmethods fun method _ => method.shows_encode _
  · exact .itemsAt haxioms fun rule _ => rule.shows_encode _

/-- Every feature that is seen in the domain section of a document is declared in the requirements
beside it. If the section has no error node, the requirements are the base features and what is
seen. -/
theorem Document.requirements_cover (domain : Domain) (problem : Option Problem)
    (options : EncoderOptions) :
    ∃ written tags,
      (build domain problem options).toJson.get? "domain" = some written ∧
        (build domain problem options).toJson.get? "requirements" = some (.strings tags) ∧
        (∀ r ∈ written.domainFeatures, r.tag ∈ tags) ∧
        (written.errorCount = 0 →
          tags = (RequirementSet.ofList (.baseFeatures :: written.domainFeatures)).tags) := by
  have hshows := Domain.shows_encode options domain
  refine ⟨domain.encode options, domain.requirements.tags, by simp [build, withRequirements],
    by simp [build, withRequirements, RequirementSet.toJson], ?_, ?_⟩
  · intro r hr
    have hcontains := (domain.contains_requirements r).mpr (.inr (hshows.sound hr))
    exact List.mem_map_of_mem (by simpa [RequirementSet.contains] using hcontains)
  · intro faultless
    refine congrArg RequirementSet.tags (RequirementSet.ext_contains fun r => ?_)
    have hseen : r ∈ domain.features ↔ r ∈ (domain.encode options).domainFeatures :=
      ⟨fun h => hshows.complete faultless h, fun h => hshows.sound h⟩
    rw [Bool.eq_iff_iff, domain.contains_requirements r, hseen]
    simp [RequirementSet.ofList]

end TaskNetwork
