import TaskNetwork.Domain.Construct
import TaskNetwork.Symbol

/-!
# Domains

A domain is collected in a builder, which names symbols and gives out identifiers in the order of
declaration. A method or an axiom must have branches, with labels that differ; one that does not is
refused and leaves the builder as it was.
-/

namespace TaskNetwork

structure Domain where
  name : String
  symbols : SymbolTable := .empty
  operators : List Operator := []
  methods : List Method := []
  axioms : List Axiom := []
  /-- The external procedures that the domain calls, by first use. -/
  procedures : List String := []

/-- Why a construct is refused. -/
inductive BuildError where
  | emptyMethod (task : String)
  | emptyAxiom (predicate : String)
  | duplicateLabel (construct name label : String)
deriving DecidableEq

def BuildError.message : BuildError → String
  | emptyMethod task => s!"method for compound task '{task}' has no branches"
  | emptyAxiom predicate => s!"axiom for '{predicate}' has no branches"
  | duplicateLabel construct name label =>
    s!"duplicate branch label '{label}' in {construct} '{name}'"

/-- The first string that repeats one before it. -/
def firstRepeat? : List String → List String → Option String
  | _, [] => none
  | before, label :: rest =>
    if before.contains label then some label else firstRepeat? (label :: before) rest

/-- A domain that is still open: the same data, with a symbol table that is not frozen. -/
structure DomainBuilder where
  domain : Domain

namespace DomainBuilder

def new (name : String) : DomainBuilder := ⟨{ name }⟩

def intern (b : DomainBuilder) (c : Category) (name : String) : Nat × DomainBuilder :=
  let (index, symbols) := b.domain.symbols.intern c name
  (index, ⟨{ b.domain with symbols }⟩)

/-- Repeats are ignored. -/
def addProcedure (b : DomainBuilder) (name : String) : DomainBuilder :=
  if b.domain.procedures.contains name then b
  else ⟨{ b.domain with procedures := b.domain.procedures ++ [name] }⟩

def addOperator (b : DomainBuilder) (head : Predicate) (precondition : Option Expression)
    (effects : EffectLists) (cost : Option Term) : Nat × DomainBuilder :=
  let id := b.domain.operators.length
  let operators := b.domain.operators ++ [⟨id, head, precondition, effects, cost⟩]
  (id, ⟨{ b.domain with operators }⟩)

def addMethod (b : DomainBuilder) (head : Predicate) (branches : List MethodBranch) :
    Except BuildError (Nat × DomainBuilder) :=
  let task := b.domain.symbols.resolve .compoundTask head.head
  if branches.isEmpty then .error (.emptyMethod task)
  else
    match firstRepeat? [] (branches.map MethodBranch.label) with
    | some label => .error (.duplicateLabel "method" task label)
    | none =>
      let id := b.domain.methods.length
      .ok (id, ⟨{ b.domain with methods := b.domain.methods ++ [⟨id, head, branches⟩] }⟩)

def addAxiom (b : DomainBuilder) (head : Predicate) (branches : List AxiomBranch) :
    Except BuildError (Nat × DomainBuilder) :=
  let predicate := b.domain.symbols.resolve .constant head.head
  if branches.isEmpty then .error (.emptyAxiom predicate)
  else
    match firstRepeat? [] (branches.map AxiomBranch.label) with
    | some label => .error (.duplicateLabel "axiom" predicate label)
    | none =>
      let id := b.domain.axioms.length
      .ok (id, ⟨{ b.domain with axioms := b.domain.axioms ++ [⟨id, head, branches⟩] }⟩)

/-- The finished domain, with its constants frozen. -/
def finish (b : DomainBuilder) : Domain := { b.domain with symbols := b.domain.symbols.freeze }

end DomainBuilder

end TaskNetwork
