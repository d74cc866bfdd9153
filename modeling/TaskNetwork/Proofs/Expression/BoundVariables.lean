import TaskNetwork.Effect.Encoding
import TaskNetwork.Proofs.Expression.Variables
import TaskNetwork.Proofs.Json.Pruning
import TaskNetwork.Proofs.Term.Elements

/-!
# The variables of a quantifier

A quantified expression and a conditional effect name the variables of their premise. So every
variable that is shown in the premise is named, also where parts of the premise could not be
written.
-/

namespace TaskNetwork

namespace Json

/-- The name of the variable that a node is for: of a variable term, or of what an assignment
binds. -/
def variableName? (v : Json) : Option String :=
  match (v.get? "type").bind str? with
  | some "Variable" => (v.get? "name").bind str?
  | some "assignment" => (v.get? "function").bind str?
  | _ => none

/-- Every variable that is shown anywhere in the value has one of the names. -/
def ShowsOnly (names : List String) (v : Json) : Prop :=
  ∀ part name, HasPart part v → part.variableName? = some name → name ∈ names

variable {names : List String}

@[simp] theorem showsOnly_str (s : String) : (str s).ShowsOnly names := by
  intro part name hpart hname
  cases hpart
  cases hname

@[simp] theorem showsOnly_arr {items : List Json} :
    (arr items).ShowsOnly names ↔ ∀ item ∈ items, item.ShowsOnly names := by
  constructor
  · intro h item hmem part name hpart
    exact h part name (.item hmem hpart)
  · intro h part name hpart hname
    cases hpart with
    | self => cases hname
    | item hmem hpart => exact h _ hmem part name hpart hname

@[simp] theorem showsOnly_obj {fields : List (String × Json)} :
    (obj fields).ShowsOnly names ↔
      (∀ name, (obj fields).variableName? = some name → name ∈ names) ∧
        ∀ field ∈ fields, field.2.ShowsOnly names := by
  constructor
  · intro h
    refine ⟨fun name => h _ name .self, ?_⟩
    intro field hmem part name hpart
    exact h part name (.field hmem hpart)
  · rintro ⟨hself, hfields⟩ part name hpart hname
    cases hpart with
    | self => exact hself name hname
    | field hmem hpart => exact hfields _ hmem part name hpart hname

end Json

open Json

attribute [local simp] variableName? str? List.lookup_cons Encoder.named

variable {enc : Encoder} {names : List String}

theorem Fault.showsOnly_node (fault : Fault) : fault.node.ShowsOnly names := by
  simp [node]

namespace Encoder

theorem showsOnly_variableNodes {indices : List Nat}
    (h : ∀ i ∈ indices, enc.variableName i ∈ names) :
    (enc.variableNodes indices).ShowsOnly names := by
  simpa [variableNodes] using h

/-- The node in the place of what is too deep shows no variable. -/
theorem showsOnly_written {depth : Nat} {v : Json} (h : v.ShowsOnly names) :
    (if enc.allows depth then v else enc.tooDeep).ShowsOnly names := by
  split
  · exact h
  · exact Fault.showsOnly_node _

end Encoder

namespace Term

theorem mem_vars_of_mem_elements {t e : Term} {i : Nat} (he : e ∈ t.elements) (hi : i ∈ e.vars) :
    i ∈ t.vars := by
  induction t with
  | cons head tail _ ih =>
    rw [elements_cons, List.mem_cons] at he
    rw [vars, List.mem_append]
    rcases he with rfl | he
    · exact .inl hi
    · exact .inr (ih he)
  | nil => cases he
  | _ =>
    rw [elements_of_isList_eq_false rfl, List.mem_singleton] at he
    rwa [← he]

theorem showsOnly_encodeAt (t : Term) (h : ∀ i ∈ t.vars, enc.variableName i ∈ names)
    (depth : Nat) : (t.encodeAt enc depth).ShowsOnly names := by
  induction t using elements_induction generalizing depth with
  | leaf t hleaf =>
    rw [encodeAt_of_isList_eq_false hleaf]
    refine enc.showsOnly_written ?_
    cases t with
    | var i => simpa [vars] using h
    | num x =>
      dsimp only
      split
      · simp
      · exact Fault.showsOnly_node _
    | const | call => simp
    | nil | cons => cases hleaf
  | list t hlist ih =>
    rw [encodeAt_of_isList hlist]
    refine enc.showsOnly_written ?_
    rw [showsOnly_arr, List.forall_mem_map]
    intro e he
    exact ih e he (fun i hi => h i (mem_vars_of_mem_elements he hi)) (depth + 1)

theorem showsOnly_parametersAt (t : Term) (h : ∀ i ∈ t.vars, enc.variableName i ∈ names)
    (depth : Nat) : (t.parametersAt enc depth).ShowsOnly names := by
  rw [parametersAt_eq, showsOnly_arr, List.forall_mem_map]
  intro e he
  exact e.showsOnly_encodeAt (fun i hi => h i (mem_vars_of_mem_elements he hi)) (depth + 1)

end Term

theorem Predicate.showsOnly_encodeAt (p : Predicate)
    (h : ∀ i ∈ p.params.vars, enc.variableName i ∈ names) (c : Category) (depth : Nat) :
    (p.encodeAt enc c depth).ShowsOnly names := by
  refine enc.showsOnly_written ?_
  simpa using p.params.showsOnly_parametersAt h depth

namespace Expression

theorem showsOnly_conjunctionNode {operands : List Json}
    (h : ∀ operand ∈ operands, operand.ShowsOnly names) :
    (conjunctionNode operands).ShowsOnly names := by
  rw [conjunctionNode.eq_def]
  split
  · simpa using h
  · split
    · exact Fault.showsOnly_node _
    · simpa using h

theorem showsOnly_disjunctionNode {operands : List Json}
    (h : ∀ operand ∈ operands, operand.ShowsOnly names) :
    (disjunctionNode operands).ShowsOnly names := by
  rw [disjunctionNode]
  split
  · exact Fault.showsOnly_node _
  · simpa using h

/-- Every variable that is shown in a written expression is one of the expression. -/
theorem showsOnly_encodeAt (e : Expression) (h : ∀ i ∈ e.vars, enc.variableName i ∈ names)
    (depth : Nat) : (e.encodeAt enc depth).ShowsOnly names := by
  have operands {es : List Expression}
      (ih : ∀ e ∈ es, (∀ i ∈ e.vars, enc.variableName i ∈ names) →
        ∀ depth, (e.encodeAt enc depth).ShowsOnly names)
      (h : ∀ i ∈ varsList es, enc.variableName i ∈ names) (depth : Nat) :
      ∀ node ∈ encodeListAt enc depth es, node.ShowsOnly names := by
    rw [encodeListAt_eq_map, List.forall_mem_map]
    rw [varsList_eq_flatMap] at h
    intro e he
    exact ih e he (fun i hi => h i (List.mem_flatMap_of_mem he hi)) depth
  induction e generalizing depth with
  | atom p =>
    rw [encodeAt]
    exact enc.showsOnly_written (p.showsOnly_encodeAt h _ _)
  | and es ih =>
    rw [encodeAt]
    exact enc.showsOnly_written (showsOnly_conjunctionNode (operands ih h _))
  | or es ih =>
    rw [encodeAt]
    exact enc.showsOnly_written (showsOnly_disjunctionNode (operands ih h _))
  | not e ih =>
    rw [encodeAt]
    refine enc.showsOnly_written ?_
    simpa using ih h (depth + 1)
  | all premise consequence ihpremise ihconsequence =>
    rw [vars, List.forall_mem_append] at h
    rw [encodeAt]
    refine enc.showsOnly_written ?_
    have hpremise := ihpremise h.1 (depth + 1)
    have hconsequence := ihconsequence h.2 (depth + 1)
    have hvariables : (enc.variableNodes premise.distinctVars).ShowsOnly names := by
      refine Encoder.showsOnly_variableNodes ?_
      simpa [distinctVars_eq] using h.1
    simp [hpremise, hconsequence, hvariables]
  | call f args =>
    rw [vars, Term.varsArgs_eq_flatMap] at h
    rw [encodeAt]
    refine enc.showsOnly_written ?_
    have hargs : ∀ t ∈ args, (t.encodeAt enc (depth + 1)).ShowsOnly names := by
      intro t ht
      exact t.showsOnly_encodeAt (fun i hi => h i (List.mem_flatMap_of_mem ht hi)) (depth + 1)
    simpa using hargs
  | assign i value =>
    rw [vars, List.forall_mem_cons] at h
    rw [encodeAt]
    refine enc.showsOnly_written ?_
    have hvalue := value.showsOnly_encodeAt h.2 (depth + 1)
    simpa [h.1] using hvalue
  | nil | unknown kind =>
    rw [encodeAt]
    refine enc.showsOnly_written ?_
    simp

end Expression

/-- What a quantifier node says about the variables of its premise: it lists them at their first
uses, and names every variable that is shown in the premise. -/
structure Json.NamesVariables (node : Json) (enc : Encoder) (premise : Expression) : Prop where
  listed : node.get? "variables" = some (enc.variableNodes premise.vars.eraseDups)
  shown : ∃ shown, node.get? "expression" = some shown ∧
    ∀ part name, HasPart part shown → part.variableName? = some name →
      ∃ items, node.get? "variables" = some (arr items) ∧ Encoder.named name "Variable" ∈ items

theorem Json.NamesVariables.of_get? {node : Json} {premise : Expression} {depth : Nat}
    (hshown : node.get? "expression" = some (premise.encodeAt enc depth))
    (hlisted : node.get? "variables" = some (enc.variableNodes premise.distinctVars)) :
    node.NamesVariables enc premise := by
  refine ⟨by rw [hlisted, premise.distinctVars_eq], _, hshown, ?_⟩
  intro part name hpart hname
  refine ⟨_, hlisted, ?_⟩
  have hvars : ∀ i ∈ premise.vars, enc.variableName i ∈ premise.vars.map enc.variableName :=
    fun i hi => List.mem_map_of_mem hi
  have hmem := premise.showsOnly_encodeAt hvars depth part name hpart hname
  obtain ⟨i, hi, rfl⟩ := List.mem_map.mp hmem
  refine List.mem_map.mpr ⟨i, ?_, rfl⟩
  rwa [premise.distinctVars_eq, List.mem_eraseDups]

/-- The walk with a stack finds each variable of a premise once, in the order of the first uses, and
both kinds of quantifier nodes name exactly these. -/
theorem Expression.quantifier_variables (enc : Encoder) {depth : Nat}
    (h : depth ≤ enc.options.maxDepth) (premise : Expression) :
    (∃ n, Node.visitor.step^[n] ⟨[.expression premise], []⟩ = ⟨[], premise.distinctVars⟩) ∧
      premise.distinctVars = premise.vars.eraseDups ∧
      premise.distinctVars.Nodup ∧
      (∀ i, i ∈ premise.distinctVars ↔ i ∈ premise.vars) ∧
      (premise.distinctVars.Pairwise fun i j => premise.vars.idxOf i < premise.vars.idxOf j) ∧
      (∀ consequence, ((all premise consequence).encodeAt enc depth).NamesVariables enc premise) ∧
      ∀ mode templates,
        ((Effect.all premise templates).encodeAt enc mode depth).NamesVariables enc premise := by
  have hallows : enc.allows depth = true := decide_eq_true h
  refine ⟨Node.visitor.exists_iterate_step _, premise.distinctVars_eq, ?_, ?_, ?_, ?_, ?_⟩
  · rw [premise.distinctVars_eq]
    exact nodup_eraseDups _
  · intro i
    rw [premise.distinctVars_eq, List.mem_eraseDups]
  · rw [premise.distinctVars_eq]
    exact pairwise_idxOf_eraseDups _
  · intro consequence
    rw [encodeAt.eq_def, if_pos hallows]
    exact .of_get? rfl rfl
  · intro mode templates
    rw [Effect.encodeAt, if_pos hallows]
    exact .of_get? rfl rfl

/-- All of this premise is too deep to be written, and still its variables are named: the one that
is bound comes before those of its value, and a repeated one is named once. -/
theorem Expression.quantifier_variables_of_cut :
    let enc : Encoder := ⟨.empty, { maxDepth := 0 }⟩
    let premise : Expression := .assign 2 (.ofListWithTail [.var 1, .var 2] (.var 0))
    0 ≤ enc.options.maxDepth ∧ premise.distinctVars = [2, 1, 0] ∧
      ((all premise .nil).encodeAt enc 0).NamesVariables enc premise ∧
      ((Effect.all premise []).encodeAt enc .add 0).NamesVariables enc premise := by
  intro enc premise
  have hdepth : 0 ≤ enc.options.maxDepth := by decide
  obtain ⟨-, -, -, -, -, hexpression, heffect⟩ := quantifier_variables enc hdepth premise
  exact ⟨hdepth, by decide, hexpression _, heffect _ _⟩

end TaskNetwork
