import TaskNetwork.Schema.Validation

/-!
# The format of documents

The schema that every document of this library satisfies. Each definition is a node of the format;
an error node may stand wherever a node can be replaced by one.
-/

namespace TaskNetwork

namespace DocumentFormat

open Schema

def required (keys : List String) : Schema := assert (.required keys)

/-- No fields other than these. -/
def closed (keys : List String) : Schema := assert (.closed { keys })

def const (value : Json) : Schema := assert (.const value)

def minItems (count : Nat) : Schema := assert (.atLeast .items count)

def maxItems (count : Nat) : Schema := assert (.atMost .items count)

/-- An object with exactly these fields. -/
def record (fields : List (String × Schema)) : Schema :=
  let keys := fields.map Prod.fst
  all [type [.object], required keys, closed keys, properties fields]

/-- An object with these fields, and perhaps some optional ones. -/
def recordWith (fields optional : List (String × Schema)) : Schema :=
  let keys := fields.map Prod.fst
  all [type [.object], required keys, closed (keys ++ optional.map Prod.fst),
    properties (fields ++ optional)]

/-- A node that states its type. -/
def node (type : String) (fields : List (String × Schema)) : Schema :=
  record (("type", const (.str type)) :: fields)

def text : Schema := type [.string]

/-- One of some strings. -/
def among (options : List String) : Schema := assert (.enum (options.map Json.str))

def arrayOf (item : Schema) : Schema := all [type [.array], items item]

def nonemptyArrayOf (item : Schema) : Schema := all [type [.array], minItems 1, items item]

/-- What names of variables have in front. -/
def variableMark : Pattern := { text := "^\\?", regex := .sequence [.startOfText, .char '?'] }

/-- A string that names a variable. -/
def variableName : Schema := all [text, assert (.pattern variableMark)]

def requirement : Schema := among [":CE", ":DP", ":E", ":F", ":NP", ":S", ":UP"]

def error : Schema := node "error" [("message", text)]

def scalar : Schema :=
  record [("type", among ["Variable", "Constant", "Number", "Call"]), ("name", text)]

def term : Schema := anyOf [ref "scalar", ref "parameters", ref "error"]

def parameters : Schema := arrayOf (ref "term")

def predicate : Schema := node "predicate" [("name", text), ("parameters", ref "parameters")]

def variableList : Schema :=
  arrayOf (record [("type", const (.str "Variable")), ("name", variableName)])

def expression : Schema :=
  anyOf [
    ref "predicate",
    node "and" [("left", ref "expression"), ("right", ref "expression")],
    node "and" [("conjuncts", all [type [.array], minItems 3, items (ref "expression")])],
    node "or" [("disjuncts", all [type [.array], minItems 2, items (ref "expression")])],
    node "not" [("expression", ref "expression")],
    node "forall" [("variables", ref "variables"), ("expression", ref "expression"),
      ("predicates", ref "expression")],
    node "call" [("function", text), ("arguments", ref "parameters")],
    node "assignment" [("operation", const (.str "assign")), ("function", variableName),
      ("value", ref "term")],
    node "nil" [],
    node "unknown" [("kind", text)],
    ref "error"]

def precondition : Schema := anyOf [type [.null], ref "expression"]

def predicateOrError : Schema := anyOf [ref "predicate", ref "error"]

def effectAtom : Schema :=
  anyOf [
    ref "predicate",
    node "not" [("expression",
      all [type [.array], minItems 1, maxItems 1, items predicateOrError])],
    ref "error"]

def effectType : Schema := among ["add", "delete"]

def effect : Schema :=
  anyOf [
    ref "effect_atom",
    node "forall" [("variables", ref "variables"), ("expression", ref "expression"),
      ("predicates", arrayOf (ref "effect_atom")), ("add_list", type [.boolean])],
    node "protection" [("effect_type", ref "effect_type"), ("predicate", predicateOrError)],
    node "unknown" [("kind", text), ("effect_type", ref "effect_type")]]

def task : Schema :=
  anyOf [
    record [("type", among ["predicate", "task"]), ("name", text),
      ("parameters", ref "parameters")],
    ref "error"]

def tasks : Schema := arrayOf (ref "task")

def operator : Schema :=
  recordWith [("name", text), ("parameters", ref "parameters"),
    ("preconditions", ref "precondition"), ("effect", arrayOf (ref "effect"))]
    [("cost", ref "term")]

def method : Schema :=
  record [("name", text), ("parameters", ref "parameters"),
    ("methods", nonemptyArrayOf (record [("name", text), ("preconditions", ref "precondition"),
      ("tasks", ref "tasks")]))]

def axiomRule : Schema :=
  record [("name", text), ("parameters", ref "parameters"),
    ("branches",
      nonemptyArrayOf (record [("name", text), ("preconditions", ref "precondition")]))]

def domain : Schema :=
  record [("name", text), ("primitive_tasks", arrayOf (ref "operator")),
    ("compound_tasks", arrayOf (ref "method")), ("axioms", arrayOf (ref "axiom_rule")),
    ("procedures", arrayOf text)]

def problem : Schema :=
  record [("name", text), ("goal", record [("tasks", ref "tasks")]),
    ("init", arrayOf (record [("predicate", text), ("parameters", arrayOf text)])),
    ("additional_constants", arrayOf text)]

def definitions : List (String × Schema) :=
  [("requirement", requirement), ("error", error), ("scalar", scalar), ("term", term),
    ("parameters", parameters), ("predicate", predicate), ("variables", variableList),
    ("expression", expression), ("precondition", precondition), ("effect_atom", effectAtom),
    ("effect_type", effectType), ("effect", effect), ("task", task), ("tasks", tasks),
    ("operator", operator), ("method", method), ("axiom_rule", axiomRule), ("domain", domain),
    ("problem", problem)]

def root : Schema :=
  all [
    type [.object],
    closed ["requirements", "domain", "problem"],
    anyOf [required ["requirements", "domain"], required ["problem"]],
    properties [
      ("requirements",
        all [type [.array], assert .uniqueItems, items (ref "requirement")]),
      ("domain", ref "domain"),
      ("problem", ref "problem")]]

end DocumentFormat

/-- The schema of documents. -/
def documentFormat : SchemaDocument :=
  { root := DocumentFormat.root, definitions := DocumentFormat.definitions }

end TaskNetwork
