import TaskNetwork.Compilation
import TaskNetwork.Proofs.Dispatch.Buckets
import TaskNetwork.Proofs.Expression.Variables
import TaskNetwork.Proofs.Symbol.Renumbering
import TaskNetwork.Proofs.Term.Elements

/-!
# Domains over renumbered symbols

A model can be written over the same symbols in another order. What is encoded, required and
dispatched does not depend on this order: every function on the way maps renumbered models to what
it gives for the old ones, from terms up to domains.
-/

namespace TaskNetwork

/-! ## Models at new indices -/

section Definitions

variable (index : Category → Nat → Nat)

namespace Term

mutual

/-- The term with every symbol at its new index. -/
def renumber : Term → Term
  | var i => var (index .var i)
  | const i => const (index .constant i)
  | num x => num x
  | cons head tail => cons head.renumber tail.renumber
  | call f args => call f (renumberArgs args)
  | nil => nil

def renumberArgs : List Term → List Term
  | [] => []
  | t :: rest => t.renumber :: renumberArgs rest

end

end Term

/-- The predicate at new indices, with a head of the given category. -/
def Predicate.renumber (c : Category) (p : Predicate) : Predicate :=
  ⟨index c p.head, p.params.renumber index⟩

namespace Expression

mutual

def renumber : Expression → Expression
  | atom p => atom (p.renumber index .constant)
  | and operands => and (renumberList operands)
  | or operands => or (renumberList operands)
  | not e => not e.renumber
  | all premise consequence => all premise.renumber consequence.renumber
  | call f args => call f (args.map (Term.renumber index))
  | assign i value => assign (index .var i) (value.renumber index)
  | nil => nil
  | unknown kind => unknown kind

def renumberList : List Expression → List Expression
  | [] => []
  | e :: rest => e.renumber :: renumberList rest

end

end Expression

def Effect.renumber : Effect → Effect
  | atom p => atom (p.renumber index .constant)
  | all premise templates =>
    all (premise.renumber index) (templates.map (Predicate.renumber index .constant))
  | protect target => protect (target.renumber index .constant)
  | unknown kind => unknown kind

def EffectLists.renumber (effects : EffectLists) : EffectLists :=
  ⟨effects.delete.map (Effect.renumber index), effects.add.map (Effect.renumber index)⟩

def TaskAtom.renumber (a : TaskAtom) : TaskAtom :=
  ⟨a.head.renumber index a.category, a.isPrimitive⟩

namespace TaskList

mutual

def renumber : TaskList → TaskList
  | empty => empty
  | atom a => atom (a.renumber index)
  | sequence children => sequence (renumberList children)

def renumberList : List TaskList → List TaskList
  | [] => []
  | child :: rest => child.renumber :: renumberList rest

end

end TaskList

def Operator.renumber (op : Operator) : Operator where
  id := op.id
  head := op.head.renumber index .primitiveTask
  precondition := op.precondition.map (Expression.renumber index)
  effects := op.effects.renumber index
  cost := op.cost.map (Term.renumber index)

def MethodBranch.renumber (branch : MethodBranch) : MethodBranch where
  label := branch.label
  precondition := branch.precondition.map (Expression.renumber index)
  tasks := branch.tasks.renumber index

def Method.renumber (method : Method) : Method where
  id := method.id
  head := method.head.renumber index .compoundTask
  branches := method.branches.map (MethodBranch.renumber index)

def AxiomBranch.renumber (branch : AxiomBranch) : AxiomBranch where
  label := branch.label
  precondition := branch.precondition.map (Expression.renumber index)

def Axiom.renumber (rule : Axiom) : Axiom where
  id := rule.id
  head := rule.head.renumber index .constant
  branches := rule.branches.map (AxiomBranch.renumber index)

end Definitions

/-- The same constructs in the same order, over the symbols in their new order. -/
def Domain.renumber (domain : Domain) (ρ : domain.symbols.Renumbering) : Domain where
  name := domain.name
  symbols := ρ.table
  operators := domain.operators.map (Operator.renumber ρ.index)
  methods := domain.methods.map (Method.renumber ρ.index)
  axioms := domain.axioms.map (Axiom.renumber ρ.index)
  procedures := domain.procedures

variable {index : Category → Nat → Nat}

/-! ## Variables -/

namespace Term

theorem renumberArgs_eq_map (args : List Term) :
    renumberArgs index args = args.map (renumber index) := by
  induction args with
  | nil => rfl
  | cons t rest ih => simp [renumberArgs, ih]

theorem vars_renumber (t : Term) : (t.renumber index).vars = t.vars.map (index .var) := by
  induction t with
  | cons head tail hhead htail => simp [renumber, vars, hhead, htail]
  | call f args ih =>
    simp only [renumber, vars, renumberArgs_eq_map, varsArgs_eq_flatMap, List.flatMap_map,
      List.map_flatMap]
    exact List.flatMap_congr ih
  | _ => rfl

theorem varsArgs_renumber (args : List Term) :
    varsArgs (args.map (renumber index)) = (varsArgs args).map (index .var) := by
  simp [varsArgs_eq_flatMap, List.flatMap_map, List.map_flatMap, vars_renumber]

end Term

theorem TaskList.renumberList_eq_map (children : List TaskList) :
    renumberList index children = children.map (renumber index) := by
  induction children with
  | nil => rfl
  | cons child rest ih => simp [renumberList, ih]

namespace Expression

theorem renumberList_eq_map (es : List Expression) :
    renumberList index es = es.map (renumber index) := by
  induction es with
  | nil => rfl
  | cons e rest ih => simp [renumberList, ih]

theorem vars_renumber (e : Expression) : (e.renumber index).vars = e.vars.map (index .var) := by
  induction e with
  | atom p => exact p.params.vars_renumber
  | and operands ih | or operands ih =>
    simp only [renumber, vars, renumberList_eq_map, varsList_eq_flatMap, List.flatMap_map,
      List.map_flatMap]
    exact List.flatMap_congr ih
  | not e ih => simpa [renumber, vars] using ih
  | all premise consequence ihp ihc => simp [renumber, vars, ihp, ihc]
  | call f args => exact Term.varsArgs_renumber args
  | assign i value => simp [renumber, vars, value.vars_renumber]
  | _ => rfl

theorem distinctVars_renumber (h : Function.Injective (index .var)) (e : Expression) :
    (e.renumber index).distinctVars = e.distinctVars.map (index .var) := by
  rw [distinctVars_eq, distinctVars_eq, vars_renumber, eraseDups_map h]

end Expression

/-! ## Encodings -/

section Encodings

variable {enc enc' : Encoder} (h : enc.Renumbered index enc')

namespace Term

theorem isList_renumber (t : Term) : (t.renumber index).isList = t.isList := by
  cases t <;> rfl

theorem elements_renumber (t : Term) :
    (t.renumber index).elements = t.elements.map (renumber index) := by
  induction t with
  | cons head tail _ ih => simp [renumber, ih]
  | _ => rfl

include h

/-- The text of a term, and what it adds to the text of a list that it ends. -/
theorem text_renumber (t : Term) :
    (t.renumber index).text enc' = t.text enc ∧
      (t.renumber index).tailText enc' = t.tailText enc := by
  have hvar := h.variableName
  have hconst (i : Nat) := h.resolve .constant i
  induction t with
  | var i => simp [renumber, text, tailText, atomText, hvar]
  | const i => simp [renumber, text, tailText, atomText, hconst]
  | num x => exact ⟨rfl, rfl⟩
  | nil => exact ⟨rfl, rfl⟩
  | cons head tail hhead htail => simp [renumber, text, tailText, hhead, htail]
  | call f args ih =>
    have hargs : argsText enc' (renumberArgs index args) = argsText enc args := by
      rw [renumberArgs_eq_map]
      induction args with
      | nil => rfl
      | cons t rest ihrest =>
        obtain ⟨ht, hrest⟩ := List.forall_mem_cons.mp ih
        simp [argsText, ht.1, ihrest hrest]
    simp [renumber, text, tailText, hargs]

theorem leafAt_renumber (depth : Nat) (t : Term) :
    (t.renumber index).leafAt enc' depth = t.leafAt enc depth := by
  have htext := (t.text_renumber h).1
  unfold leafAt
  rw [h.allows, h.tooDeep]
  cases t with
  | var i => simp [renumber, h.variableName]
  | const i => simp [renumber, h.resolve]
  | call f args =>
    rw [renumber] at htext ⊢
    simp only [htext]
  | _ => rfl

theorem encodeAt_renumber (depth : Nat) (t : Term) :
    (t.renumber index).encodeAt enc' depth = t.encodeAt enc depth := by
  induction t using elements_induction generalizing depth with
  | leaf t hleaf =>
    rw [encodeAt_of_isList_eq_false hleaf, encodeAt_of_isList_eq_false (by rwa [isList_renumber]),
      leafAt_renumber h]
  | list t hlist ih =>
    rw [encodeAt_of_isList hlist, encodeAt_of_isList (by rwa [isList_renumber]), h.allows,
      h.tooDeep, elements_renumber, List.map_map]
    congr 2
    exact List.map_congr_left fun e he => ih e he (depth + 1)

theorem parametersAt_renumber (depth : Nat) (t : Term) :
    (t.renumber index).parametersAt enc' depth = t.parametersAt enc depth := by
  rw [parametersAt_eq, parametersAt_eq, elements_renumber, List.map_map]
  congr 1
  exact List.map_congr_left fun e _ => encodeAt_renumber h (depth + 1) e

end Term

include h

theorem Predicate.encodeAt_renumber (c : Category) (depth : Nat) (p : Predicate) :
    (p.renumber index c).encodeAt enc' c depth = p.encodeAt enc c depth := by
  simp only [encodeAt, renumber, h.allows, h.tooDeep, h.symbolName, Term.parametersAt_renumber h]

theorem Expression.encodeAt_renumber (depth : Nat) (e : Expression) :
    (e.renumber index).encodeAt enc' depth = e.encodeAt enc depth := by
  have hvars (e : Expression) : enc'.variableNodes (e.renumber index).distinctVars =
      enc.variableNodes e.distinctVars := by
    rw [distinctVars_renumber (h.injective .var), h.variableNodes]
  induction e generalizing depth with
  | atom p => simp only [renumber, encodeAt, h.allows, h.tooDeep, p.encodeAt_renumber h]
  | and operands ih | or operands ih =>
    have hoperands : encodeListAt enc' (depth + 1) (renumberList index operands) =
        encodeListAt enc (depth + 1) operands := by
      rw [renumberList_eq_map, encodeListAt_eq_map, encodeListAt_eq_map, List.map_map]
      exact List.map_congr_left fun e he => ih e he (depth + 1)
    simp only [renumber, encodeAt, h.allows, h.tooDeep, hoperands]
  | not e ih => simp only [renumber, encodeAt, h.allows, h.tooDeep, ih]
  | all premise consequence ihp ihc =>
    simp only [renumber, encodeAt, h.allows, h.tooDeep, ihp, ihc, hvars]
  | call f args =>
    have hargs (t : Term) := t.encodeAt_renumber h (depth + 1)
    simp only [renumber, encodeAt, h.allows, h.tooDeep, List.map_map, Function.comp_def, hargs]
  | assign i value =>
    simp only [renumber, encodeAt, h.allows, h.tooDeep, h.variableName, value.encodeAt_renumber h]
  | nil => simp only [renumber, encodeAt, h.allows, h.tooDeep]
  | unknown kind => simp only [renumber, encodeAt, h.allows, h.tooDeep]

theorem Expression.encodeOption_renumber (e : Option Expression) :
    encodeOption enc' (e.map (renumber index)) = encodeOption enc e := by
  cases e with
  | none => rfl
  | some e => exact e.encodeAt_renumber h 0

theorem Predicate.encodeEffectAt_renumber (mode : EffectMode) (depth : Nat) (p : Predicate) :
    (p.renumber index .constant).encodeEffectAt enc' mode depth =
      p.encodeEffectAt enc mode depth := by
  cases mode <;> simp only [encodeEffectAt, p.encodeAt_renumber h]

theorem Effect.encodeAt_renumber (mode : EffectMode) (depth : Nat) (e : Effect) :
    (e.renumber index).encodeAt enc' mode depth = e.encodeAt enc mode depth := by
  cases e with
  | atom p => simp only [renumber, encodeAt, h.allows, h.tooDeep, p.encodeEffectAt_renumber h]
  | all premise templates =>
    have hatoms (p : Predicate) := p.encodeEffectAt_renumber h mode (depth + 1)
    have hvars : enc'.variableNodes (premise.renumber index).distinctVars =
        enc.variableNodes premise.distinctVars := by
      rw [premise.distinctVars_renumber (h.injective .var), h.variableNodes]
    simp only [renumber, encodeAt, h.allows, h.tooDeep, premise.encodeAt_renumber h, hvars,
      List.map_map, Function.comp_def, hatoms]
  | protect target =>
    simp only [renumber, encodeAt, h.allows, h.tooDeep, target.encodeAt_renumber h]
  | unknown kind => simp only [renumber, encodeAt, h.allows, h.tooDeep]

theorem EffectLists.encode_renumber (effects : EffectLists) :
    (effects.renumber index).encode enc' = effects.encode enc := by
  have heffect (mode : EffectMode) (e : Effect) := e.encodeAt_renumber h mode 1
  simp [encode, entries, renumber, Function.comp_def, heffect]

theorem TaskAtom.encodeAt_renumber (depth : Nat) (a : TaskAtom) :
    (a.renumber index).encodeAt enc' depth = a.encodeAt enc depth := by
  have hname : enc'.symbolName (a.renumber index).category (a.renumber index).head.head =
      enc.symbolName a.category a.head.head := h.symbolName a.category a.head.head
  have hparams : (a.renumber index).head.params.parametersAt enc' depth =
      a.head.params.parametersAt enc depth := a.head.params.parametersAt_renumber h depth
  have hkind : (a.renumber index).isPrimitive = a.isPrimitive := rfl
  rw [TaskAtom.encodeAt, TaskAtom.encodeAt, hname, hparams, hkind]

theorem TaskList.nodesAt_renumber (depth : Nat) (list : TaskList) :
    (list.renumber index).nodesAt enc' depth = list.nodesAt enc depth := by
  induction list generalizing depth with
  | empty => simp only [renumber, nodesAt, h.allows, h.tooDeep]
  | atom a => simp only [renumber, nodesAt, h.allows, h.tooDeep, a.encodeAt_renumber h]
  | sequence children ih =>
    have hchildren : nodesListAt enc' (depth + 1) (renumberList index children) =
        nodesListAt enc (depth + 1) children := by
      rw [nodesListAt_eq_flatMap, nodesListAt_eq_flatMap, renumberList_eq_map, List.flatMap_map]
      exact List.flatMap_congr fun child hchild => ih child hchild (depth + 1)
    simp only [renumber, nodesAt, h.allows, h.tooDeep, hchildren]

theorem Operator.encode_renumber (op : Operator) :
    (op.renumber index).encode enc' = op.encode enc := by
  have hcost : (op.cost.map (Term.renumber index)).toList.map
        (fun cost => ("cost", cost.encodeAt enc' 1)) =
      op.cost.toList.map fun cost => ("cost", cost.encodeAt enc 1) := by
    cases op.cost with
    | none => simp
    | some cost => simp [cost.encodeAt_renumber h]
  have hparams := op.head.params.parametersAt_renumber h 0
  simp only [encode, renumber, Predicate.renumber, Term.parameters, hcost, hparams, h.symbolName,
    op.effects.encode_renumber h, Expression.encodeOption_renumber h]

theorem MethodBranch.encode_renumber (branch : MethodBranch) :
    (branch.renumber index).encode enc' = branch.encode enc := by
  simp only [encode, renumber, TaskList.encode, Expression.encodeOption_renumber h,
    branch.tasks.nodesAt_renumber h]

theorem Method.encode_renumber (method : Method) :
    (method.renumber index).encode enc' = method.encode enc := by
  have hbranch (branch : MethodBranch) := branch.encode_renumber h
  have hparams := method.head.params.parametersAt_renumber h 0
  simp only [encode, renumber, Predicate.renumber, Term.parameters, hparams, h.symbolName,
    List.map_map, Function.comp_def, hbranch]

theorem AxiomBranch.encode_renumber (branch : AxiomBranch) :
    (branch.renumber index).encode enc' = branch.encode enc := by
  simp only [encode, renumber, Expression.encodeOption_renumber h]

theorem Axiom.encode_renumber (rule : Axiom) :
    (rule.renumber index).encode enc' = rule.encode enc := by
  have hbranch (branch : AxiomBranch) := branch.encode_renumber h
  have hparams := rule.head.params.parametersAt_renumber h 0
  simp only [encode, renumber, Predicate.renumber, Term.parameters, hparams, h.symbolName,
    List.map_map, Function.comp_def, hbranch]

end Encodings

end TaskNetwork
