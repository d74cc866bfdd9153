import TaskNetwork.Schema.Assertion

/-!
# Schemas

A schema says which JSON values are valid. A schema object is the conjunction of its keywords, and
each keyword is a schema by itself, which accepts every value that it is not about. A reference
stands for a definition by its name.
-/

namespace TaskNetwork

inductive Schema where
  /-- All of some schemas. -/
  | all (parts : List Schema)
  | never
  | assert (a : Assertion)
  | anyOf (options : List Schema)
  /-- Exactly one of some schemas. -/
  | oneOf (options : List Schema)
  /-- A schema that must not accept the value, with the value that describes it. -/
  | not (schema : Schema) (source : Json)
  | ifThenElse (condition thenPart elsePart : Schema)
  | properties (fields : List (String × Schema))
  | patternProperties (fields : List (Pattern × Schema))
  /-- A schema for the fields other than the declared ones. -/
  | additional (declared : DeclaredFields) (schema : Schema)
  /-- A schema for the keys. -/
  | propertyNames (schema : Schema)
  /-- Schemas for the whole object, each where a field is there. -/
  | whereField (fields : List (String × Schema))
  /-- Schemas for the first items in their order. -/
  | firstItems (schemas : List Schema)
  /-- A schema for the items after some first ones. -/
  | itemsFrom (skipped : Nat) (schema : Schema)
  /-- A schema for some of the items. -/
  | contains (schema : Schema) (least : Nat) (most : Option Nat)
  /-- A schema for the fields about which the schemas beside it say nothing. -/
  | unevaluatedProperties (beside : List Schema) (schema : Schema)
  /-- A schema for the items about which the schemas beside it say nothing. -/
  | unevaluatedItems (beside : List Schema) (schema : Schema)
  | ref (name : String)

namespace Schema

instance : Inhabited Schema := ⟨never⟩

/-- The schema that accepts every value. -/
def always : Schema := all []

/-- A schema for all items. -/
def items (schema : Schema) : Schema := itemsFrom 0 schema

/-- Only values of some kinds. -/
def type (kinds : List JsonKind) : Schema := assert (.type kinds)

end Schema

/-- A schema with the definitions that its references name. -/
structure SchemaDocument where
  root : Schema
  definitions : List (String × Schema)

end TaskNetwork
