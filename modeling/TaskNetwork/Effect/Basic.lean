import TaskNetwork.Expression.Basic

/-!
# Operator effects
-/

namespace TaskNetwork

/-- An entry of an add or delete list. -/
inductive Effect where
  | atom (p : Predicate)
  /-- Applies the templates for every binding that satisfies the premise. -/
  | all (premise : Expression) (templates : List Predicate)
  /-- Keeps the target from being deleted by later operators. -/
  | protect (target : Predicate)
  | unknown (kind : String)

/-- Which list of an operator an effect belongs to. -/
inductive EffectMode where
  | delete
  | add
deriving DecidableEq

namespace EffectMode

def label : EffectMode → String
  | delete => "delete"
  | add => "add"

def isAdd : EffectMode → Bool
  | delete => false
  | add => true

end EffectMode

namespace Effect

/-- Equality in which numbers are compared by value. -/
def equal : Effect → Effect → Bool
  | atom p, atom q => p.equal q
  | all premise templates, all premise' templates' =>
    premise.equal premise' && templates.length == templates'.length &&
      (templates.zip templates').all fun (p, q) => p.equal q
  | protect p, protect q => p.equal q
  | unknown kind, unknown kind' => kind == kind'
  | _, _ => false

end Effect

/-- The effects of an operator: the deletes apply before the adds. -/
structure EffectLists where
  delete : List Effect := []
  add : List Effect := []

namespace EffectLists

def isEmpty (effects : EffectLists) : Bool := effects.delete.isEmpty && effects.add.isEmpty

/-- All effects with their lists, in the order in which they apply. -/
def entries (effects : EffectLists) : List (EffectMode × Effect) :=
  effects.delete.map (.delete, ·) ++ effects.add.map (.add, ·)

def equalList (es es' : List Effect) : Bool :=
  es.length == es'.length && (es.zip es').all fun (e, e') => e.equal e'

def equal (a b : EffectLists) : Bool := equalList a.delete b.delete && equalList a.add b.add

end EffectLists

end TaskNetwork
