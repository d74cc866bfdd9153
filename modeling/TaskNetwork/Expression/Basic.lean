import TaskNetwork.Term.Basic

/-!
# Precondition expressions

`conjunction` and `disjunction` build an expression from any number of operands: no operand gives
`nil`, and one operand stands for itself.
-/

namespace TaskNetwork

inductive Expression where
  | atom (p : Predicate)
  | and (operands : List Expression)
  | or (operands : List Expression)
  | not (e : Expression)
  | all (premise consequence : Expression)
  | call (function : String) (args : List Term)
  /-- Binds a variable to the value of a term. -/
  | assign (var : Nat) (value : Term)
  /-- Trivially true. -/
  | nil
  /-- A kind of expression that is only passed on. -/
  | unknown (kind : String)

namespace Expression

instance : Inhabited Expression := ⟨nil⟩

def conjunction : List Expression → Expression
  | [] => nil
  | [e] => e
  | operands => and operands

def disjunction : List Expression → Expression
  | [] => nil
  | [e] => e
  | operands => or operands

mutual

/-- Equality in which numbers are compared by value. -/
def equal : Expression → Expression → Bool
  | atom p, atom q => p.equal q
  | and es, and es' => equalList es es'
  | or es, or es' => equalList es es'
  | not e, not e' => e.equal e'
  | all premise consequence, all premise' consequence' =>
    premise.equal premise' && consequence.equal consequence'
  | call f args, call f' args' => f == f' && Term.equalArgs args args'
  | assign i value, assign j value' => i == j && value.equal value'
  | nil, nil => true
  | unknown kind, unknown kind' => kind == kind'
  | _, _ => false

def equalList : List Expression → List Expression → Bool
  | [], [] => true
  | e :: rest, e' :: rest' => e.equal e' && equalList rest rest'
  | _, _ => false

end

mutual

/-- The variables of an expression from left to right, with repeats: a variable that is bound comes
before its value, and a premise before its consequence. -/
def vars : Expression → List Nat
  | atom p => p.params.vars
  | and es => varsList es
  | or es => varsList es
  | not e => e.vars
  | all premise consequence => premise.vars ++ consequence.vars
  | call _ args => Term.varsArgs args
  | assign i value => i :: value.vars
  | nil => []
  | unknown _ => []

def varsList : List Expression → List Nat
  | [] => []
  | e :: rest => e.vars ++ varsList rest

end

end Expression

end TaskNetwork
