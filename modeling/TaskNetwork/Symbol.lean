/-!
# Symbol tables

A symbol is an index into the names of its category. Names are only ever added, at the end and once
each, so an index keeps its meaning for good; beside its names a category keeps the index of each,
by which a name is found. Freezing a table fixes how many of its constants belong to the domain;
those interned later are the problem's own.
-/

namespace TaskNetwork

/-- The namespaces of symbols. -/
inductive Category where
  | constant
  | primitiveTask
  | compoundTask
  | var
deriving DecidableEq

namespace Category

def label : Category → String
  | constant => "constant"
  | primitiveTask => "primitive_task"
  | compoundTask => "compound_task"
  | var => "variable"

def all : List Category := [constant, primitiveTask, compoundTask, var]

def ofLabel? (label : String) : Option Category := all.find? (·.label == label)

def isTask : Category → Bool
  | primitiveTask | compoundTask => true
  | constant | var => false

end Category

/-- The names of one category by index, and the indices by name. -/
structure Arena where
  names : List String := []
  indices : List (String × Nat) := []
deriving DecidableEq

namespace Arena

def index? (a : Arena) (name : String) : Option Nat := a.indices.lookup name

/-- The index of a name, which is added if it is new. -/
def intern (a : Arena) (name : String) : Nat × Arena :=
  match a.index? name with
  | some index => (index, a)
  | none =>
    let index := a.names.length
    (index, { names := a.names ++ [name], indices := (name, index) :: a.indices })

end Arena

structure SymbolTable where
  constants : Arena := {}
  primitiveTasks : Arena := {}
  compoundTasks : Arena := {}
  vars : Arena := {}
  /-- The number of constants when the table was frozen. -/
  frozenAt : Option Nat := none
deriving DecidableEq

namespace SymbolTable

def empty : SymbolTable := {}

def arena (t : SymbolTable) : Category → Arena
  | .constant => t.constants
  | .primitiveTask => t.primitiveTasks
  | .compoundTask => t.compoundTasks
  | .var => t.vars

def setArena (t : SymbolTable) (c : Category) (a : Arena) : SymbolTable :=
  match c with
  | .constant => { t with constants := a }
  | .primitiveTask => { t with primitiveTasks := a }
  | .compoundTask => { t with compoundTasks := a }
  | .var => { t with vars := a }

/-- The names of a category, by index. -/
def names (t : SymbolTable) (c : Category) : List String := (t.arena c).names

def size (t : SymbolTable) (c : Category) : Nat := (t.names c).length

def isEmpty (t : SymbolTable) (c : Category) : Bool := (t.names c).isEmpty

def index? (t : SymbolTable) (c : Category) (name : String) : Option Nat :=
  (t.arena c).index? name

def name? (t : SymbolTable) (c : Category) (index : Nat) : Option String := (t.names c)[index]?

/-- The name of a symbol, made up from its category and index when the table does not have it. -/
def resolve (t : SymbolTable) (c : Category) (index : Nat) : String :=
  (t.name? c index).getD s!"{c.label}_{index}"

/-- The index of a name, which is added if it is new. -/
def intern (t : SymbolTable) (c : Category) (name : String) : Nat × SymbolTable :=
  let (index, a) := (t.arena c).intern name
  (index, t.setArena c a)

/-- Only the first freezing counts. -/
def freeze (t : SymbolTable) : SymbolTable :=
  match t.frozenAt with
  | some _ => t
  | none => { t with frozenAt := some (t.size .constant) }

def isFrozen (t : SymbolTable) : Bool := t.frozenAt.isSome

/-- The number of constants of the domain: all of them while the table is not frozen. -/
def domainConstants (t : SymbolTable) : Nat := t.frozenAt.getD (t.size .constant)

/-- The constants interned after freezing, with their indices. -/
def problemConstants (t : SymbolTable) : List (Nat × String) :=
  (((t.names .constant).drop t.domainConstants).zipIdx t.domainConstants).map
    fun (name, index) => (index, name)

@[simp] theorem arena_setArena_self (t : SymbolTable) (c : Category) (a : Arena) :
    (t.setArena c a).arena c = a := by
  cases c <;> rfl

theorem arena_setArena_of_ne (t : SymbolTable) {c d : Category} (h : d ≠ c) (a : Arena) :
    (t.setArena c a).arena d = t.arena d := by
  cases c <;> cases d <;> first | rfl | exact absurd rfl h

@[simp] theorem setArena_arena (t : SymbolTable) (c : Category) : t.setArena c (t.arena c) = t := by
  cases c <;> rfl

@[simp] theorem frozenAt_setArena (t : SymbolTable) (c : Category) (a : Arena) :
    (t.setArena c a).frozenAt = t.frozenAt := by
  cases c <;> rfl

@[simp] theorem arena_freeze (t : SymbolTable) (c : Category) : t.freeze.arena c = t.arena c := by
  unfold freeze
  cases t.frozenAt <;> cases c <;> rfl

@[simp] theorem names_freeze (t : SymbolTable) (c : Category) : t.freeze.names c = t.names c := by
  rw [names, arena_freeze, names]

end SymbolTable

end TaskNetwork
