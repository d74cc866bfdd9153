import TaskNetwork.Expression.Size

/-!
# The distinct variables of an expression

A walk visits an expression, the expressions and terms in it and the terms in these from left to
right, and notes every variable that is not noted already.
-/

namespace TaskNetwork

/-- An expression or a term in one. -/
inductive Expression.Node where
  | expression (e : Expression)
  | term (t : Term)

namespace Expression.Node

/-- The variable that a node mentions by itself: a variable term, or what an assignment binds. -/
def var? : Node → Option Nat
  | term (.var i) => some i
  | expression (.assign i _) => some i
  | _ => none

/-- The nodes right below a node, from left to right. -/
def parts : Node → List Node
  | expression (.atom p) => [term p.params]
  | expression (.and operands) | expression (.or operands) => operands.map expression
  | expression (.not e) => [expression e]
  | expression (.all premise consequence) => [expression premise, expression consequence]
  | expression (.call _ args) => args.map term
  | expression (.assign _ value) => [term value]
  | expression .nil | expression (.unknown _) => []
  | term (.cons head tail) => [term head, term tail]
  | term (.call _ args) => args.map term
  | term (.var _) | term (.const _) | term (.num _) | term .nil => []

def size : Node → Nat
  | expression e => e.size
  | term t => t.size

theorem totalSize_parts_lt (node : Node) : totalSize size node.parts < node.size := by
  cases node with
  | expression e =>
    cases e <;>
      simp [parts, size, Expression.size, totalSize_map, Expression.sizeList_eq, Term.sizeArgs_eq]
  | term t => cases t <;> simp [parts, size, Term.size, totalSize_map, Term.sizeArgs_eq]

/-- The variables that were noted, with one more if it is new. -/
def noteVar (seen : List Nat) (i : Nat) : List Nat := if seen.contains i then seen else seen ++ [i]

def visitor : Visitor Node (List Nat) where
  note seen node := node.var?.elim seen (noteVar seen)
  parts := parts
  size := size
  totalSize_parts_lt := totalSize_parts_lt

end Expression.Node

/-- The variables of an expression in the order of their first occurrence, each once. -/
def Expression.distinctVars (e : Expression) : List Nat :=
  Node.visitor.drain ⟨[.expression e], []⟩

end TaskNetwork
