import TaskNetwork.Summary.Basic

/-!
# Reading documents

A document is read section by section and field by field, in a fixed order; the first thing that is
missing or wrong is the error. Error nodes in a task list are left out and counted.
-/

namespace TaskNetwork

/-- What is wrong with the shape of a document. -/
inductive ShapeError where
  | topLevelNotObject
  | domainDocumentNotObject
  | noSection
  | notString (field : String)
  | notArray (field : String)
  | nonStringEntry (field : String)
  | unknownTaskType (tag : String)
  | problemDocumentHasDomain
deriving DecidableEq

def ShapeError.message : ShapeError → String
  | topLevelNotObject => "top level is not an object"
  | domainDocumentNotObject => "domain document is not an object"
  | noSection => "neither 'domain' nor 'problem' is present"
  | notString field => s!"'{field}' is not a string"
  | notArray field => s!"'{field}' is not an array"
  | nonStringEntry field => s!"'{field}' holds a non-string entry"
  | unknownTaskType tag => s!"unknown task type '{tag}'"
  | problemDocumentHasDomain => "problem document also carries a domain section"

/-- Why a document cannot be read or merged. -/
inductive DocumentError where
  | missingField (field : String)
  | invalid (shape : ShapeError)
  | conflictingSection (name : String)
deriving DecidableEq

def DocumentError.message : DocumentError → String
  | missingField field => s!"document missing required field: '{field}'"
  | invalid shape => s!"invalid document: {shape.message}"
  | conflictingSection name => s!"document already has a '{name}' section"

namespace Json

/-- Does the value state its type as that of an error node? -/
def isErrorNode (v : Json) : Bool := (v.get? "type").bind str? == some "error"

mutual

/-- The number of error nodes in a value, itself included. -/
def errorCount : Json → Nat
  | arr items => errorCountItems items
  | obj fields => (if (obj fields).isErrorNode then 1 else 0) + errorCountFields fields
  | _ => 0

def errorCountItems : List Json → Nat
  | [] => 0
  | item :: rest => item.errorCount + errorCountItems rest

def errorCountFields : List (String × Json) → Nat
  | [] => 0
  | (_, value) :: rest => value.errorCount + errorCountFields rest

end

/-! ## Fields -/

def required (field : String) (v : Json) : Except DocumentError Json :=
  match v.get? field with
  | some value => .ok value
  | none => .error (.missingField field)

def requiredString (field : String) (v : Json) : Except DocumentError String := do
  match ← v.required field with
  | str s => return s
  | _ => .error (.invalid (.notString field))

def requiredArray (field : String) (v : Json) : Except DocumentError (List Json) := do
  match ← v.required field with
  | arr items => return items
  | _ => .error (.invalid (.notArray field))

/-- The strings of an array, which an error calls by the name of its field. -/
def stringArray (field : String) : Json → Except DocumentError (List String)
  | arr items => items.mapM fun item =>
    match item with
    | str s => .ok s
    | _ => .error (.invalid (.nonStringEntry field))
  | _ => .error (.invalid (.notArray field))

/-- The number of parameters of a construct. -/
def arity (v : Json) : Except DocumentError Nat := do return (← v.requiredArray "parameters").length

end Json

/-! ## Sections -/

open Json

def TaskReference.read (v : Json) : Except DocumentError TaskReference := do
  let tag ← v.requiredString "type"
  match TaskKind.ofNodeType? tag with
  | none => .error (.invalid (.unknownTaskType tag))
  | some kind =>
    return { name := ← v.requiredString "name", kind, parameters := ← v.required "parameters" }

/-- The tasks of an array without its error nodes. -/
def TaskReference.readAll : Json → Except DocumentError (List TaskReference)
  | arr items => (items.filter (!·.isErrorNode)).mapM TaskReference.read
  | _ => .error (.invalid (.notArray "tasks"))

def OperatorSummary.read (v : Json) : Except DocumentError OperatorSummary := do
  return {
    name := ← v.requiredString "name"
    arity := ← v.arity
    preconditions := ← v.required "preconditions"
    effects := (← v.requiredArray "effect").length
    cost := v.get? "cost"
    errorNodes := v.errorCount }

def BranchSummary.read (v : Json) : Except DocumentError BranchSummary := do
  return {
    name := ← v.requiredString "name"
    preconditions := ← v.required "preconditions"
    tasks := ← TaskReference.readAll (← v.required "tasks") }

/-- The branches are looked at before the name. -/
def MethodSummary.read (v : Json) : Except DocumentError MethodSummary := do
  let branches ← (← v.requiredArray "methods").mapM BranchSummary.read
  return {
    name := ← v.requiredString "name"
    arity := ← v.arity
    branches
    errorNodes := v.errorCount }

/-- The branches are looked at before the name. -/
def AxiomSummary.read (v : Json) : Except DocumentError AxiomSummary := do
  let branches ← (← v.requiredArray "branches").mapM (requiredString "name")
  return {
    name := ← v.requiredString "name"
    arity := ← v.arity
    branches
    errorNodes := v.errorCount }

def DomainSummary.read (v : Json) : Except DocumentError DomainSummary := do
  return {
    name := ← v.requiredString "name"
    operators := ← (← v.requiredArray "primitive_tasks").mapM OperatorSummary.read
    methods := ← (← v.requiredArray "compound_tasks").mapM MethodSummary.read
    axioms := ← (← v.requiredArray "axioms").mapM AxiomSummary.read
    procedures := ← stringArray "procedures" (← v.required "procedures") }

def FactSummary.read (v : Json) : Except DocumentError FactSummary := do
  return {
    predicate := ← v.requiredString "predicate"
    parameters := ← stringArray "parameters" (← v.required "parameters") }

def ProblemSummary.read (v : Json) : Except DocumentError ProblemSummary := do
  return {
    name := ← v.requiredString "name"
    goal := ← TaskReference.readAll (← (← v.required "goal").required "tasks")
    init := ← (← v.requiredArray "init").mapM FactSummary.read
    additionalConstants :=
      ← stringArray "additional_constants" (← v.required "additional_constants") }

/-- A section that may be left out. -/
def readSection {α : Type} (name : String) (read : Json → Except DocumentError α) (v : Json) :
    Except DocumentError (Option α) :=
  match v.get? name with
  | some value => (read value).map some
  | none => .ok none

/-- The requirements, which only a document without a domain may leave out. -/
def readRequirements (hasDomain : Bool) (v : Json) : Except DocumentError (List String) :=
  match v.get? "requirements" with
  | some value => stringArray "requirements" value
  | none => if hasDomain then .error (.missingField "requirements") else .ok []

def Summary.read : Json → Except DocumentError Summary
  | obj fields => do
    let domain ← readSection "domain" DomainSummary.read (obj fields)
    let problem ← readSection "problem" ProblemSummary.read (obj fields)
    if domain.isNone && problem.isNone then .error (.invalid .noSection)
    else return { requirements := ← readRequirements domain.isSome (obj fields), domain, problem }
  | _ => .error (.invalid .topLevelNotObject)

end TaskNetwork
