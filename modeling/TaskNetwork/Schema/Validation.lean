import TaskNetwork.Schema.Basic

/-!
# Validity

`accepts` decides whether a value is valid and `errors` lists what is wrong with it; of a failed
choice it says only that no option fits. Both recurse on the schema, at one value: what they need to
know of its items and fields is in its view, which is built by recursion on the value. References
are followed, but a chain of them at one value that is longer than the list of definitions goes
round in a circle and asks nothing.
-/

namespace TaskNetwork

namespace Schema

/-- What schemas say of a value that is part of another one. -/
structure Part where
  holds : Schema → Bool
  faults : Schema → List SchemaError

/-- What schemas say of a field: of its key, which is a string, and of its value. -/
structure FieldPart where
  key : String
  name : Part
  value : Part

/-- A value with what schemas say of its items or fields. -/
structure View where
  value : Json
  items : List Part := []
  fields : List FieldPart := []

namespace View

def field? (view : View) (key : String) : Option Part :=
  (view.fields.find? (·.key == key)).map (·.value)

def hasField (view : View) (key : String) : Bool := view.fields.any (·.key == key)

end View

/-- What references say of one value, by their names. -/
structure References where
  holds : String → Bool
  /-- Does a reference say anything of the field with a key? -/
  coversField : String → String → Bool
  /-- Does a reference say anything of the item at an index? -/
  coversItem : String → Nat → Bool

/-! ## Decision -/

mutual

/-- Is the value of a view valid? -/
def holds (view : View) (refs : References) : Schema → Bool
  | all parts => holdsAll view refs parts
  | never => false
  | assert a => a.holds view.value
  | anyOf options => 0 < countHolding view refs options
  | oneOf options => countHolding view refs options = 1
  | not schema _ => !schema.holds view refs
  | ifThenElse condition thenPart elsePart =>
    if condition.holds view refs then thenPart.holds view refs else elsePart.holds view refs
  | properties fields => fields.all fun (key, schema) => (view.field? key).all (·.holds schema)
  | patternProperties fields =>
    fields.all fun (p, schema) =>
      view.fields.all fun field => !p.occursIn field.key || field.value.holds schema
  | additional declared schema =>
    view.fields.all fun field => declared.contains field.key || field.value.holds schema
  | propertyNames schema => view.fields.all (·.name.holds schema)
  | whereField fields => holdsWhereField view refs fields
  | firstItems schemas => (view.items.zip schemas).all fun (item, schema) => item.holds schema
  | itemsFrom skipped schema => (view.items.drop skipped).all (·.holds schema)
  | contains schema least most =>
    let count := view.items.countP (·.holds schema)
    view.value.arr?.isNone || least ≤ count && most.all (count ≤ ·)
  | unevaluatedProperties beside schema =>
    view.fields.all fun field =>
      coversFieldAny view refs field.key beside || field.value.holds schema
  | unevaluatedItems beside schema =>
    view.items.zipIdx.all fun (item, index) =>
      coversItemAny view refs index beside || item.holds schema
  | ref name => refs.holds name

def holdsAll (view : View) (refs : References) : List Schema → Bool
  | [] => true
  | part :: rest => part.holds view refs && holdsAll view refs rest

/-- How many of the schemas hold. -/
def countHolding (view : View) (refs : References) : List Schema → Nat
  | [] => 0
  | option :: rest => (if option.holds view refs then 1 else 0) + countHolding view refs rest

def holdsWhereField (view : View) (refs : References) : List (String × Schema) → Bool
  | [] => true
  | (key, schema) :: rest =>
    (!view.hasField key || schema.holds view refs) && holdsWhereField view refs rest

/-- Does the schema say anything of the field with a key? Of a choice, the options that hold do. -/
def coversField (view : View) (refs : References) (key : String) : Schema → Bool
  | all parts => coversFieldAny view refs key parts
  | anyOf options | oneOf options => coversFieldHolding view refs key options
  | ifThenElse condition thenPart elsePart =>
    if condition.holds view refs then
      condition.coversField view refs key || thenPart.coversField view refs key
    else elsePart.coversField view refs key
  | properties fields => fields.any (·.1 == key)
  | patternProperties fields => fields.any (·.1.occursIn key)
  | whereField fields => coversFieldWhere view refs key fields
  | assert (.closed _) | additional _ _ | unevaluatedProperties _ _ => true
  | ref name => refs.coversField name key
  | _ => false

def coversFieldAny (view : View) (refs : References) (key : String) : List Schema → Bool
  | [] => false
  | part :: rest => part.coversField view refs key || coversFieldAny view refs key rest

def coversFieldHolding (view : View) (refs : References) (key : String) : List Schema → Bool
  | [] => false
  | option :: rest =>
    option.holds view refs && option.coversField view refs key ||
      coversFieldHolding view refs key rest

def coversFieldWhere (view : View) (refs : References) (key : String) :
    List (String × Schema) → Bool
  | [] => false
  | (present, schema) :: rest =>
    view.hasField present && schema.coversField view refs key ||
      coversFieldWhere view refs key rest

/-- Does the schema say anything of the item at an index? -/
def coversItem (view : View) (refs : References) (index : Nat) : Schema → Bool
  | all parts => coversItemAny view refs index parts
  | anyOf options | oneOf options => coversItemHolding view refs index options
  | ifThenElse condition thenPart elsePart =>
    if condition.holds view refs then
      condition.coversItem view refs index || thenPart.coversItem view refs index
    else elsePart.coversItem view refs index
  | whereField fields => coversItemWhere view refs index fields
  | firstItems schemas => index < schemas.length
  | contains schema _ _ => view.items[index]?.any (·.holds schema)
  | assert (.closedItems _) | itemsFrom _ _ | unevaluatedItems _ _ => true
  | ref name => refs.coversItem name index
  | _ => false

def coversItemAny (view : View) (refs : References) (index : Nat) : List Schema → Bool
  | [] => false
  | part :: rest => part.coversItem view refs index || coversItemAny view refs index rest

def coversItemHolding (view : View) (refs : References) (index : Nat) : List Schema → Bool
  | [] => false
  | option :: rest =>
    option.holds view refs && option.coversItem view refs index ||
      coversItemHolding view refs index rest

def coversItemWhere (view : View) (refs : References) (index : Nat) :
    List (String × Schema) → Bool
  | [] => false
  | (present, schema) :: rest =>
    view.hasField present && schema.coversItem view refs index ||
      coversItemWhere view refs index rest

end

/-! ## Errors -/

/-- The items that the schemas beside a keyword say nothing of, and that its own does not accept. -/
def unevaluatedValues (view : View) (refs : References) (beside : List Schema) (schema : Schema) :
    List Json :=
  let rejected := view.items.zipIdx.map fun (item, index) =>
    !coversItemAny view refs index beside && !item.holds schema
  (((view.value.arr?.getD []).zip rejected).filter (·.2)).map Prod.fst

mutual

/-- What is wrong with the value of a view, if `follow` says so for references. -/
def faults (view : View) (refs : References) (follow : String → List SchemaError) :
    Schema → List SchemaError
  | all parts => faultsAll view refs follow parts
  | never => [.never view.value]
  | assert a => if a.holds view.value then [] else a.faults view.value
  | anyOf options =>
    if holds view refs (anyOf options) then [] else [.noAlternative view.value "anyOf"]
  | oneOf options =>
    match countHolding view refs options with
    | 0 => [.noAlternative view.value "oneOf"]
    | 1 => []
    | _ => [.manyAlternatives view.value]
  | not schema source => if schema.holds view refs then [.forbidden view.value source] else []
  | ifThenElse condition thenPart elsePart =>
    if condition.holds view refs then thenPart.faults view refs follow
    else elsePart.faults view refs follow
  | properties fields =>
    fields.flatMap fun (key, schema) => (view.field? key).elim [] (·.faults schema)
  | patternProperties fields =>
    fields.flatMap fun (p, schema) =>
      view.fields.flatMap fun field =>
        if p.occursIn field.key then field.value.faults schema else []
  | additional declared schema =>
    view.fields.flatMap fun field =>
      if declared.contains field.key then [] else field.value.faults schema
  | propertyNames never => if view.fields.isEmpty then [] else [.never view.value]
  | propertyNames schema => view.fields.flatMap (·.name.faults schema)
  | whereField fields => faultsWhereField view refs follow fields
  | firstItems schemas => (view.items.zip schemas).flatMap fun (item, schema) => item.faults schema
  | itemsFrom skipped schema => (view.items.drop skipped).flatMap (·.faults schema)
  | contains schema least most =>
    if holds view refs (contains schema least most) then [] else [.noneContained view.value]
  | unevaluatedProperties beside schema =>
    match (view.fields.filter fun field =>
      !coversFieldAny view refs field.key beside && !field.value.holds schema).map (·.key) with
    | [] => []
    | keys => [.unevaluatedFields keys]
  | unevaluatedItems beside schema =>
    match unevaluatedValues view refs beside schema with
    | [] => []
    | items => [.unevaluatedItems items]
  | ref name => follow name

def faultsAll (view : View) (refs : References) (follow : String → List SchemaError) :
    List Schema → List SchemaError
  | [] => []
  | part :: rest => part.faults view refs follow ++ faultsAll view refs follow rest

def faultsWhereField (view : View) (refs : References) (follow : String → List SchemaError) :
    List (String × Schema) → List SchemaError
  | [] => []
  | (key, schema) :: rest =>
    (if view.hasField key then schema.faults view refs follow else []) ++
      faultsWhereField view refs follow rest

end

/-! ## Values -/

/-- What the references at the value of a view say with at most so many of them in a row. -/
def references (definitions : List (String × Schema)) (view : View) : Nat → References
  | 0 =>
    { holds := fun _ => true, coversField := fun _ _ => false, coversItem := fun _ _ => false }
  | count + 1 => {
    holds := fun name =>
      (definitions.lookup name).all fun schema =>
        schema.holds view (references definitions view count)
    coversField := fun name key =>
      (definitions.lookup name).any fun schema =>
        schema.coversField view (references definitions view count) key
    coversItem := fun name index =>
      (definitions.lookup name).any fun schema =>
        schema.coversItem view (references definitions view count) index }

/-- What is wrong with the value of a view, with at most so many references in a row. -/
def faultsWithin (definitions : List (String × Schema)) (view : View) :
    Nat → Schema → List SchemaError
  | 0, schema => schema.faults view (references definitions view 0) fun _ => []
  | count + 1, schema =>
    schema.faults view (references definitions view (count + 1)) fun name =>
      (definitions.lookup name).elim [] (faultsWithin definitions view count)

/-- The value of a view as part of another one. -/
def View.part (definitions : List (String × Schema)) (view : View) : Part where
  holds schema := schema.holds view (references definitions view definitions.length)
  faults schema := faultsWithin definitions view definitions.length schema

mutual

/-- The view of a value. -/
def view (definitions : List (String × Schema)) : Json → View
  | .arr values => { value := .arr values, items := viewItems definitions values }
  | .obj members => { value := .obj members, fields := viewFields definitions members }
  | value => { value }

def viewItems (definitions : List (String × Schema)) : List Json → List Part
  | [] => []
  | item :: rest => (view definitions item).part definitions :: viewItems definitions rest

def viewFields (definitions : List (String × Schema)) : List (String × Json) → List FieldPart
  | [] => []
  | (key, value) :: rest =>
    { key
      name := ({ value := .str key } : View).part definitions
      value := (view definitions value).part definitions } :: viewFields definitions rest

end

/-- Is the value valid under the schema? -/
def accepts (definitions : List (String × Schema)) (v : Json) (schema : Schema) : Bool :=
  ((view definitions v).part definitions).holds schema

/-- What is wrong with a value under a schema. -/
def errors (definitions : List (String × Schema)) (v : Json) (schema : Schema) :
    List SchemaError :=
  ((view definitions v).part definitions).faults schema

end Schema

namespace SchemaDocument

def accepts (s : SchemaDocument) (v : Json) : Bool := Schema.accepts s.definitions v s.root

def errors (s : SchemaDocument) (v : Json) : List SchemaError :=
  Schema.errors s.definitions v s.root

end SchemaDocument

end TaskNetwork
