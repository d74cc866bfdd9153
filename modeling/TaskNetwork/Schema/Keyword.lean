import TaskNetwork.Schema.Draft

/-!
# Keywords

Which keywords a draft has, and where in a schema object there are other schemas.
-/

namespace TaskNetwork

/-- Does a name that is a keyword in some draft have its meaning in this one? -/
def Draft.hasKeyword (d : Draft) (keyword : String) : Bool :=
  match keyword with
  | "const" | "contains" | "propertyNames" | "exclusiveMaximum" | "exclusiveMinimum" =>
    since draft6 d
  | "if" => since draft7 d
  | "prefixItems" | "dependentRequired" | "dependentSchemas" | "unevaluatedItems"
  | "unevaluatedProperties" => since draft2019 d
  | "additionalItems" => d != draft2020
  | "$recursiveRef" => d = draft2019
  | "$dynamicRef" => d = draft2020
  | _ => true

/-- How the schemas in the value of a keyword are arranged. -/
inductive Arrangement where
  | schema
  | list
  /-- A schema, or a list of schemas. -/
  | schemaOrList
  | fields

/-- How a keyword of a draft holds schemas, if it does. -/
def Draft.arrangement? (d : Draft) (keyword : String) : Option Arrangement :=
  let startingAt (first : Draft) (a : Arrangement) : Option Arrangement :=
    if since first d then some a else none
  match keyword with
  | "not" | "additionalProperties" => some .schema
  | "contains" | "propertyNames" => startingAt draft6 .schema
  | "if" | "then" | "else" => startingAt draft7 .schema
  | "unevaluatedItems" | "unevaluatedProperties" | "contentSchema" => startingAt draft2019 .schema
  | "additionalItems" => if d = draft2020 then none else some .schema
  | "items" => some (if d = draft2020 then .schema else .schemaOrList)
  | "allOf" | "anyOf" | "oneOf" => some .list
  | "prefixItems" => startingAt draft2019 .list
  | "properties" | "patternProperties" | "definitions" | "dependencies" => some .fields
  | "$defs" | "dependentSchemas" => startingAt draft2019 .fields
  | _ => none

end TaskNetwork
