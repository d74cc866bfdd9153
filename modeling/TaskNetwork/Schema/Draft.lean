import TaskNetwork.Schema.Validation

/-!
# Drafts of the schema language

The versions of the language in which schemas are written, and for each of them the schema of
schemas: which values its keywords may have. A name that is no keyword may have any value.
-/

namespace TaskNetwork

inductive Draft where
  | draft4
  | draft6
  | draft7
  | draft2019
  | draft2020
deriving DecidableEq

namespace Draft

def all : List Draft := [draft4, draft6, draft7, draft2019, draft2020]

/-- The name by which a schema says in which draft it is written. -/
def uri : Draft → String
  | draft4 => "http://json-schema.org/draft-04/schema"
  | draft6 => "http://json-schema.org/draft-06/schema"
  | draft7 => "http://json-schema.org/draft-07/schema"
  | draft2019 => "https://json-schema.org/draft/2019-09/schema"
  | draft2020 => "https://json-schema.org/draft/2020-12/schema"

/-- The draft with a name, which may end in the mark of an empty fragment. -/
def ofUri? (name : String) : Option Draft :=
  let name := String.ofList (name.toList.reverse.dropWhile (· == '#')).reverse
  all.find? (·.uri == name)

/-- Is a draft the given one or a later one? -/
def since (first d : Draft) : Bool := (all.dropWhile (· != first)).contains d

/-- Does a reference stand for all that is said beside it? -/
def refStandsAlone (d : Draft) : Bool := !since draft2019 d

/-- Are the formats of strings checked? -/
def checksFormats (d : Draft) : Bool := !since draft2019 d

/-- The format with a name in a draft. -/
def format? (d : Draft) (name : String) : Option Format :=
  match Format.ofLabel? name with
  | some .jsonPointer => if since draft6 d then some .jsonPointer else none
  | some .uriReference => if since draft6 d then some .uriReference else none
  | some .iri => if since draft7 d then some .iri else none
  | some .iriReference => if since draft7 d then some .iriReference else none
  | some .internationalHostname => if since draft7 d then some .internationalHostname else none
  | some .relativeJsonPointer => if since draft7 d then some .relativeJsonPointer else none
  | found => found

/-- The kind with a label in a draft. -/
def kind? (d : Draft) (label : String) : Option JsonKind :=
  match JsonKind.all.find? (·.label == label) with
  | some .integer => some (if d = draft4 then .integerLiteral else .integer)
  | found => found

/-! ## The schema of schemas -/

section Metaschema

open Schema

def text : Schema := type [.string]

def truth : Schema := type [.boolean]

def number : Schema := type [.number]

def textOf (format : Format) : Schema := Schema.all [text, assert (.format format)]

/-- A text that a pattern occurs in. -/
def textLike (pattern : String) : Schema :=
  match Pattern.ofString? pattern with
  | some p => Schema.all [text, assert (.pattern p)]
  | none => never

def count (d : Draft) : Schema :=
  let kind := if d = draft4 then JsonKind.integerLiteral else .integer
  Schema.all [type [kind], assert (.bounded .minimum (.int 0))]

def positive : Schema := Schema.all [number, assert (.bounded .exclusiveMinimum (.int 0))]

def self (d : Draft) : Schema := ref d.uri

def listOf (schema : Schema) : Schema := Schema.all [type [.array], items schema]

def mapOf (schema : Schema) : Schema := Schema.all [type [.object], additional {} schema]

def someSchemas (d : Draft) : Schema :=
  Schema.all [listOf d.self, assert (.atLeast .items 1)]

def keyList (d : Draft) : Schema :=
  let distinct := Schema.all [listOf text, assert .uniqueItems]
  if d = draft4 then Schema.all [distinct, assert (.atLeast .items 1)] else distinct

def kindNames : Schema :=
  let kind := assert (.enum (JsonKind.all.map fun kind => .str kind.label))
  anyOf [kind, Schema.all [listOf kind, assert (.atLeast .items 1), assert .uniqueItems]]

/-- The keywords of every draft. -/
def commonKeywords (d : Draft) : List (String × Schema) := [
  ("title", text), ("description", text), ("format", text), ("uniqueItems", truth),
  ("type", kindNames), ("enum", type [.array]), ("required", d.keyList),
  ("multipleOf", positive), ("maximum", number), ("minimum", number),
  ("maxLength", d.count), ("minLength", d.count), ("maxItems", d.count), ("minItems", d.count),
  ("maxProperties", d.count), ("minProperties", d.count),
  ("definitions", mapOf d.self), ("properties", mapOf d.self), ("patternProperties", mapOf d.self),
  ("dependencies", mapOf (anyOf [d.self, d.keyList])),
  ("allOf", d.someSchemas), ("anyOf", d.someSchemas), ("oneOf", d.someSchemas), ("not", d.self)]

/-- The keywords that have been there from the second of the drafts on. -/
def newerKeywords (d : Draft) : List (String × Schema) := [
  ("exclusiveMaximum", number), ("exclusiveMinimum", number), ("examples", type [.array]),
  ("contains", d.self), ("propertyNames", d.self), ("additionalProperties", d.self)]

/-- The keywords that have been there from the third of the drafts on. -/
def conditionKeywords (d : Draft) : List (String × Schema) := [
  ("$comment", text), ("readOnly", truth), ("writeOnly", truth), ("contentMediaType", text),
  ("contentEncoding", text), ("if", d.self), ("then", d.self), ("else", d.self)]

/-- The keywords of the drafts that are named for a year. -/
def yearKeywords (d : Draft) : List (String × Schema) := [
  ("$id", textLike "^[^#]*#?$"), ("$schema", text), ("$ref", text), ("$recursiveRef", text),
  ("$vocabulary", mapOf truth), ("$defs", mapOf d.self), ("pattern", text),
  ("dependentSchemas", mapOf d.self), ("dependentRequired", mapOf d.keyList),
  ("unevaluatedItems", d.self), ("unevaluatedProperties", d.self), ("contentSchema", d.self),
  ("maxContains", d.count), ("minContains", d.count), ("deprecated", truth)]

def itemsOrList (d : Draft) : Schema := anyOf [d.self, d.someSchemas]

/-- The keywords that are a draft's own, or whose values are. -/
def ownKeywords (d : Draft) : List (String × Schema) :=
  let regex := ("pattern", textOf .regex)
  match d with
  | draft4 =>
    let truthOrSchema := anyOf [truth, d.self]
    [("id", text), ("$schema", text), regex, ("exclusiveMaximum", truth),
      ("exclusiveMinimum", truth), ("items", d.itemsOrList), ("additionalItems", truthOrSchema),
      ("additionalProperties", truthOrSchema)]
  | draft6 | draft7 =>
    [("$id", textOf .uriReference), ("$schema", textOf .uri), ("$ref", textOf .uriReference), regex,
      ("items", d.itemsOrList), ("additionalItems", d.self)]
  | draft2019 =>
    let anchor := textLike "^[A-Za-z][-A-Za-z0-9.:_]*$"
    [("$anchor", anchor), ("$recursiveAnchor", truth), ("items", d.itemsOrList),
      ("additionalItems", d.self)]
  | draft2020 =>
    let anchor := textLike "^[A-Za-z_][-A-Za-z0-9._]*$"
    [("$anchor", anchor), ("$dynamicAnchor", anchor), ("$recursiveAnchor", anchor),
      ("$dynamicRef", text), ("items", d.self), ("prefixItems", d.someSchemas)]

def keywords (d : Draft) : List (String × Schema) :=
  d.commonKeywords ++ (if since draft6 d then d.newerKeywords else []) ++
    (if since draft7 d then d.conditionKeywords else []) ++
    (if since draft2019 d then d.yearKeywords else []) ++ d.ownKeywords

/-- What has to be said of keywords together. -/
def combinations (d : Draft) : List Schema :=
  match d with
  | draft4 =>
    [type [.object], assert (.requiredBeside
      [("exclusiveMaximum", ["maximum"]), ("exclusiveMinimum", ["minimum"])])]
  | draft7 =>
    let patterns := propertyNames (assert (.format .regex))
    [type [.boolean, .object], properties [("patternProperties", patterns)]]
  | _ => [type [.boolean, .object]]

/-- The schema of the schemas of a draft. -/
def metaschema (d : Draft) : Schema := Schema.all (properties d.keywords :: d.combinations)

/-- The schema of the schemas of a draft, with what its references name. -/
def document (d : Draft) : SchemaDocument :=
  { root := d.metaschema, definitions := [(d.uri, d.metaschema)] }

end Metaschema

end Draft

end TaskNetwork
