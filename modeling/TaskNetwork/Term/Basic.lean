import TaskNetwork.Binary64.Basic

/-!
# Terms and predicates

A list is a chain of cells that ends in `nil`, or in some other term if it is improper. Variables
and constants are indices into a symbol table.
-/

namespace TaskNetwork

inductive Term where
  | var (index : Nat)
  | const (index : Nat)
  | num (value : Binary64)
  | cons (head tail : Term)
  /-- The value of an external procedure. -/
  | call (function : String) (args : List Term)
  | nil

namespace Term

instance : Inhabited Term := ⟨nil⟩

/-- The list of some terms that ends in `tail`. -/
def ofListWithTail (items : List Term) (tail : Term) : Term := items.foldr cons tail

def ofList (items : List Term) : Term := ofListWithTail items nil

def isNil : Term → Bool
  | nil => true
  | _ => false

/-- The items of a list, in order. -/
def heads : Term → List Term
  | cons head tail => head :: tail.heads
  | _ => []

/-- What a list ends in, unless it is `nil`. A term that is no list is its own end. -/
def ending? : Term → Option Term
  | cons _ tail => tail.ending?
  | nil => none
  | t => some t

/-- The items of a list and what it ends in, as one sequence. -/
def elements (t : Term) : List Term := t.heads ++ t.ending?.toList

mutual

/-- Equality in which numbers are compared by value. -/
def equal : Term → Term → Bool
  | var i, var j => i == j
  | const i, const j => i == j
  | num x, num y => x.equal y
  | cons head tail, cons head' tail' => head.equal head' && tail.equal tail'
  | call f args, call f' args' => f == f' && equalArgs args args'
  | nil, nil => true
  | _, _ => false

def equalArgs : List Term → List Term → Bool
  | [], [] => true
  | t :: rest, t' :: rest' => t.equal t' && equalArgs rest rest'
  | _, _ => false

end

mutual

/-- The variables of a term from left to right, with repeats. -/
def vars : Term → List Nat
  | var i => [i]
  | cons head tail => head.vars ++ tail.vars
  | call _ args => varsArgs args
  | _ => []

def varsArgs : List Term → List Nat
  | [] => []
  | t :: rest => t.vars ++ varsArgs rest

end

@[simp] theorem heads_ofListWithTail (items : List Term) (tail : Term) :
    (ofListWithTail items tail).heads = items ++ tail.heads := by
  induction items with
  | nil => rfl
  | cons item rest ih => simpa [ofListWithTail, heads] using ih

@[simp] theorem ending?_ofListWithTail (items : List Term) (tail : Term) :
    (ofListWithTail items tail).ending? = tail.ending? := by
  induction items with
  | nil => rfl
  | cons item rest ih => simpa [ofListWithTail, ending?] using ih

end Term

/-- A symbol applied to a parameter term. The position of a predicate decides the category of its
head: a constant in a formula, a task in a task list or at the head of a construct. -/
structure Predicate where
  head : Nat
  params : Term

namespace Predicate

instance : Inhabited Predicate := ⟨⟨0, .nil⟩⟩

def ofArgs (head : Nat) (args : List Term) : Predicate := ⟨head, .ofList args⟩

def equal (p q : Predicate) : Bool := p.head == q.head && p.params.equal q.params

end Predicate

end TaskNetwork
