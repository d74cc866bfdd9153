import TaskNetwork.Expression.Basic
import TaskNetwork.Walk

/-!
# The sizes of terms and expressions

The parts of a term or an expression are smaller together than the whole, so a walk over them comes
to an end.
-/

namespace TaskNetwork

namespace Term

mutual

/-- The number of terms in a term, which is one of them. -/
def size : Term → Nat
  | cons head tail => head.size + tail.size + 1
  | call _ args => sizeArgs args + 1
  | var _ | const _ | num _ | nil => 1

def sizeArgs : List Term → Nat
  | [] => 0
  | t :: rest => t.size + sizeArgs rest

end

theorem sizeArgs_eq (args : List Term) : sizeArgs args = totalSize size args := by
  induction args with
  | nil => rfl
  | cons t rest ih => simp [sizeArgs, ih]

end Term

namespace Expression

mutual

/-- The number of expressions and terms in an expression, which is one of them. -/
def size : Expression → Nat
  | atom p => p.params.size + 1
  | and es => sizeList es + 1
  | or es => sizeList es + 1
  | not e => e.size + 1
  | all premise consequence => premise.size + consequence.size + 1
  | call _ args => Term.sizeArgs args + 1
  | assign _ value => value.size + 1
  | nil => 1
  | unknown _ => 1

def sizeList : List Expression → Nat
  | [] => 0
  | e :: rest => e.size + sizeList rest

end

theorem sizeList_eq (es : List Expression) : sizeList es = totalSize size es := by
  induction es with
  | nil => rfl
  | cons e rest ih => simp [sizeList, ih]

end Expression

end TaskNetwork
