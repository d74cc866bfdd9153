import TaskNetwork.Proofs.FirstUse
import TaskNetwork.Proofs.Induction
import TaskNetwork.Proofs.Walk

/-!
# The variables of an expression

The walk that notes the variables of an expression finds what is left of its traversal from left to
right when repeats are dropped.
-/

namespace TaskNetwork

theorem Term.varsArgs_eq_flatMap (args : List Term) : varsArgs args = args.flatMap vars := by
  induction args with
  | nil => rfl
  | cons t rest ih => simp [varsArgs, ih]

theorem Expression.varsList_eq_flatMap (es : List Expression) :
    varsList es = es.flatMap vars := by
  induction es with
  | nil => rfl
  | cons e rest ih => simp [varsList, ih]

namespace Expression.Node

/-- The variables of a node from left to right, with repeats. -/
def vars : Node → List Nat
  | expression e => e.vars
  | term t => t.vars

/-- A node mentions what it mentions by itself, and then what its parts mention. -/
theorem vars_eq (node : Node) : node.vars = node.var?.toList ++ node.parts.flatMap vars := by
  cases node with
  | expression e =>
    cases e <;>
      simp [vars, var?, parts, Expression.vars, Expression.varsList_eq_flatMap,
        Term.varsArgs_eq_flatMap, List.flatMap_map]
  | term t =>
    cases t <;> simp [vars, var?, parts, Term.vars, Term.varsArgs_eq_flatMap, List.flatMap_map]

/-- What will be noted when all pending nodes are visited. -/
def total (w : Walk Node (List Nat)) : List Nat := (w.pending.flatMap vars).foldl noteVar w.found

theorem total_step (w : Walk Node (List Nat)) : total (visitor.step w) = total w := by
  obtain ⟨pending, found⟩ := w
  cases pending with
  | nil => rfl
  | cons node rest =>
    have hnote : visitor.note found node = node.var?.toList.foldl noteVar found := by
      cases h : node.var? <;> simp [visitor, h]
    simp only [total, Visitor.step, hnote, List.flatMap_cons, List.flatMap_append,
      List.foldl_append, vars_eq node]
    rfl

theorem foldl_noteVar (indices : List Nat) : indices.foldl noteVar [] = indices.eraseDups := by
  have grows (seen : List Nat) (i : Nat) (_ : True) :
      noteVar seen i = seen ++ (some i).toList.removeAll seen := by
    by_cases h : i ∈ seen <;> simp [noteVar, List.removeAll, h]
  have h : indices.foldl noteVar [] = [] ++ ((indices.filterMap some).removeAll []).eraseDups :=
    view_foldl id (fun _ _ _ => trivial) grows indices trivial
  simpa only [List.filterMap_some, List.removeAll_nil, List.nil_append] using h

end Expression.Node

/-- The walk finds the first uses of the variables, in their order. -/
theorem Expression.distinctVars_eq (e : Expression) : e.distinctVars = e.vars.eraseDups := by
  have h : e.distinctVars = Node.total ⟨[.expression e], []⟩ :=
    Visitor.apply_drain Node.total_step ⟨[.expression e], []⟩
  rw [h, Node.total, List.flatMap_singleton, Node.foldl_noteVar]
  rfl

end TaskNetwork
