import TaskNetwork.Term.Basic
import TaskNetwork.Symbol

/-!
# Task lists
-/

namespace TaskNetwork

/-- An occurrence of a task. -/
structure TaskAtom where
  head : Predicate
  isPrimitive : Bool

namespace TaskAtom

def ofPrimitive (head : Nat) (args : List Term) : TaskAtom := ⟨.ofArgs head args, true⟩

def ofCompound (head : Nat) (args : List Term) : TaskAtom := ⟨.ofArgs head args, false⟩

/-- The category of the head. -/
def category (a : TaskAtom) : Category := if a.isPrimitive then .primitiveTask else .compoundTask

def equal (a b : TaskAtom) : Bool := a.head.equal b.head && a.isPrimitive == b.isPrimitive

end TaskAtom

/-- Tasks to be done in order. -/
inductive TaskList where
  | empty
  | atom (a : TaskAtom)
  | sequence (children : List TaskList)

namespace TaskList

instance : Inhabited TaskList := ⟨empty⟩

/-- The sequence of some atoms. -/
def ofAtoms : List TaskAtom → TaskList
  | [] => empty
  | atoms => sequence (atoms.map atom)

mutual

/-- The atoms from left to right. -/
def atoms : TaskList → List TaskAtom
  | empty => []
  | atom a => [a]
  | sequence children => atomsList children

def atomsList : List TaskList → List TaskAtom
  | [] => []
  | child :: rest => child.atoms ++ atomsList rest

end

mutual

/-- Equality in which numbers are compared by value. -/
def equal : TaskList → TaskList → Bool
  | empty, empty => true
  | atom a, atom b => a.equal b
  | sequence children, sequence children' => equalList children children'
  | _, _ => false

def equalList : List TaskList → List TaskList → Bool
  | [], [] => true
  | child :: rest, child' :: rest' => child.equal child' && equalList rest rest'
  | _, _ => false

end

end TaskList

end TaskNetwork
