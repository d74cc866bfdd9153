import TaskNetwork.Expression.Encoding
import TaskNetwork.Task.Encoding

/-!
# Induction over terms, expressions and task lists

The arguments of a call, the operands of an expression and the children of a sequence are lists of
trees. These principles give a property of all members of such a list, in place of a second property
of the list.
-/

namespace TaskNetwork

@[induction_eliminator]
theorem Term.induction {P : Term → Prop} (var : ∀ i, P (.var i)) (const : ∀ i, P (.const i))
    (num : ∀ x, P (.num x)) (cons : ∀ head tail, P head → P tail → P (.cons head tail))
    (call : ∀ function args, (∀ t ∈ args, P t) → P (.call function args)) (nil : P .nil)
    (t : Term) : P t :=
  t.rec (motive_1 := P) (motive_2 := fun args => ∀ t ∈ args, P t) var const num cons call nil
    (by simp) fun _ _ h hrest => List.forall_mem_cons.mpr ⟨h, hrest⟩

@[induction_eliminator]
theorem Expression.induction {P : Expression → Prop} (atom : ∀ p, P (.atom p))
    (and : ∀ operands, (∀ e ∈ operands, P e) → P (.and operands))
    (or : ∀ operands, (∀ e ∈ operands, P e) → P (.or operands))
    (not : ∀ e, P e → P (.not e))
    (all : ∀ premise consequence, P premise → P consequence → P (.all premise consequence))
    (call : ∀ function args, P (.call function args)) (assign : ∀ i value, P (.assign i value))
    (nil : P .nil) (unknown : ∀ kind, P (.unknown kind)) (e : Expression) : P e :=
  e.rec (motive_1 := P) (motive_2 := fun operands => ∀ e ∈ operands, P e) atom and or not all call
    assign nil unknown (by simp) fun _ _ h hrest => List.forall_mem_cons.mpr ⟨h, hrest⟩

@[induction_eliminator]
theorem TaskList.induction {P : TaskList → Prop} (empty : P .empty) (atom : ∀ a, P (.atom a))
    (sequence : ∀ children, (∀ child ∈ children, P child) → P (.sequence children))
    (list : TaskList) : P list :=
  list.rec (motive_1 := P) (motive_2 := fun children => ∀ child ∈ children, P child) empty atom
    sequence (by simp) fun _ _ h hrest => List.forall_mem_cons.mpr ⟨h, hrest⟩

theorem TaskList.nodesListAt_eq_flatMap (enc : Encoder) (depth : Nat) (children : List TaskList) :
    nodesListAt enc depth children = children.flatMap (nodesAt enc depth) := by
  induction children with
  | nil => rfl
  | cons child rest ih => simp [nodesListAt, ih]

end TaskNetwork
