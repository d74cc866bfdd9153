import TaskNetwork.Schema.Reference

/-!
# Schemas out of JSON

A schema is a truth value or an object of keywords, whose values have to be valid under the schema
of schemas of its draft. Keywords that are not known here are notes and change nothing. Only what
the root needs is read: definitions that are never referred to may hold anything that the schema of
schemas allows.
-/

namespace TaskNetwork

namespace Schema

open Json

abbrev Reading := Except SchemaFault Schema

/-- The schemas in the value of a keyword, as far as they can be read. -/
inductive Content where
  | nothing
  | schema (s : Reading)
  | list (schemas : List Reading)
  | fields (schemas : List (String × Reading))

/-- A keyword with its value and the schemas in it. -/
structure Entry where
  keyword : String
  value : Json
  content : Content

/-- The document around the schemas to be read. -/
structure Surroundings where
  draft : Draft
  document : Json
  survey : Survey

def badKeyword {α : Type} (e : Entry) : Except SchemaFault α := .error (.badKeyword e.keyword)

namespace Entry

def schema (e : Entry) : Reading :=
  match e.content with
  | .schema s => s
  | _ => badKeyword e

def list (e : Entry) : Except SchemaFault (List Schema) :=
  match e.content with
  | .list schemas => schemas.mapM id
  | _ => badKeyword e

def fields (e : Entry) : Except SchemaFault (List (String × Schema)) :=
  match e.content with
  | .fields schemas => schemas.mapM fun (key, s) => do return (key, ← s)
  | _ => badKeyword e

def text (e : Entry) : Except SchemaFault String :=
  match e.value with
  | str s => .ok s
  | _ => badKeyword e

def number (e : Entry) : Except SchemaFault Json :=
  if e.value.ratio?.isSome then .ok e.value else badKeyword e

/-- A count, of which one that is too large for a word is as good as the largest that is not. -/
def count (e : Entry) (d : Draft) : Except SchemaFault Nat :=
  match e.value.ratio? with
  | some (.ofNat num, den) =>
    if e.value.hasKind (if d = .draft4 then .integerLiteral else .integer) then
      .ok (min (num / den) (UInt64.size - 1))
    else badKeyword e
  | _ => badKeyword e

def keysOf (e : Entry) : Json → Except SchemaFault (List String)
  | arr keys =>
    match keys.mapM str? with
    | some names => .ok names
    | none => badKeyword e
  | _ => badKeyword e

/-- The kinds that a `type` keyword names, in their order. -/
def kinds (e : Entry) (d : Draft) : Except SchemaFault (List JsonKind) := do
  let labels ←
    match e.value with
    | str label => .ok [label]
    | value => e.keysOf value
  match labels.mapM d.kind? with
  | some found =>
    return JsonKind.all.filterMap fun kind => found.find? (·.label == kind.label)
  | none => badKeyword e

end Entry

def keyword? (entries : List Entry) (keyword : String) : Option Entry :=
  entries.find? (·.keyword == keyword)

/-- The schema in a keyword, or one that accepts everything where the keyword is not there. -/
def optional (entries : List Entry) (keyword : String) : Reading :=
  match keyword? entries keyword with
  | some e => e.schema
  | none => .ok always

def patternOf (text : String) : Except SchemaFault Pattern :=
  match Pattern.ofString? text with
  | some p => .ok p
  | none => .error (.badKeyword text)

/-- The fields that the keywords for single fields and for patterns declare. -/
def declared (entries : List Entry) : Except SchemaFault DeclaredFields := do
  let keysIn (keyword : String) : List String :=
    ((keyword? entries keyword).map (·.value.keys)).getD []
  return { keys := keysIn "properties", patterns := ← (keysIn "patternProperties").mapM patternOf }

/-- The bound that a keyword sets. In the oldest draft a truth value beside it makes it strict. -/
def boundOf (d : Draft) (entries : List Entry) (plain exclusive : Bound) (keyword : String) :
    Bound :=
  match keyword? entries keyword with
  | some { value := Json.bool true, .. } => if d = .draft4 then exclusive else plain
  | _ => plain

/-- How many items the schemas for single items are about. -/
def firstItemCount (d : Draft) (entries : List Entry) : Nat :=
  match keyword? entries (if d = .draft2020 then "prefixItems" else "items") with
  | some { value := arr items, .. } => items.length
  | _ => 0

/-- The schemas of the fields that are there beside others, as lists of keys or as schemas. -/
def dependencies (e : Entry) : Except SchemaFault (List Schema) :=
  match e.value, e.content with
  | obj members, .fields schemas => do
    let lists := members.filter (·.2.arr?.isSome)
    let schemas := schemas.filter fun (key, _) => !lists.any (·.1 == key)
    return [
      assert (.requiredBeside (← lists.mapM fun (key, keys) => do return (key, ← e.keysOf keys))),
      whereField (← schemas.mapM fun (key, s) => do return (key, ← s))]
  | _, _ => badKeyword e

/-- What a keyword asks for that is not about what other keywords leave open. -/
def partsOf (c : Surroundings) (place : List String) (entries : List Entry) (e : Entry) :
    Except SchemaFault (List Schema) := do
  let d := c.draft
  let atLeast (m : Measure) : Except SchemaFault (List Schema) := do
    return [assert (.atLeast m (← e.count d))]
  let atMost (m : Measure) : Except SchemaFault (List Schema) := do
    return [assert (.atMost m (← e.count d))]
  let bounded (b : Bound) : Except SchemaFault (List Schema) := do
    return [assert (.bounded b (← e.number))]
  if !d.hasKeyword e.keyword then .ok []
  else
    match e.keyword with
    | "$ref" | "$dynamicRef" | "$recursiveRef" =>
      return ((← Target.find c.survey c.document place (← e.text)).map fun t => ref t.name).toList
    | "type" => return [type (← e.kinds d)]
    | "enum" =>
      match e.value with
      | arr options => .ok [assert (.enum options)]
      | _ => badKeyword e
    | "const" => .ok [assert (.const e.value)]
    | "required" => return [assert (.required (← e.keysOf e.value))]
    | "dependentRequired" =>
      match e.value with
      | obj members =>
        let lists ← members.mapM fun (key, keys) => do return (key, ← e.keysOf keys)
        return [assert (.requiredBeside lists)]
      | _ => badKeyword e
    | "minItems" => atLeast .items
    | "maxItems" => atMost .items
    | "minProperties" => atLeast .fields
    | "maxProperties" => atMost .fields
    | "minLength" => atLeast .characters
    | "maxLength" => atMost .characters
    | "minimum" => bounded (boundOf d entries .minimum .exclusiveMinimum "exclusiveMinimum")
    | "maximum" => bounded (boundOf d entries .maximum .exclusiveMaximum "exclusiveMaximum")
    | "exclusiveMinimum" => bounded .exclusiveMinimum
    | "exclusiveMaximum" => bounded .exclusiveMaximum
    | "multipleOf" => return [assert (.multipleOf (← e.number))]
    | "uniqueItems" =>
      match e.value with
      | Json.bool unique => .ok (if unique then [assert .uniqueItems] else [])
      | _ => badKeyword e
    | "pattern" => return [assert (.pattern (← patternOf (← e.text)))]
    | "format" =>
      if d.checksFormats then return ((d.format? (← e.text)).map fun f => assert (.format f)).toList
      else .ok []
    | "properties" => return [properties (← e.fields)]
    | "patternProperties" =>
      return [patternProperties (← (← e.fields).mapM fun (text, s) => do
        return (← patternOf text, s))]
    | "additionalProperties" =>
      match e.value with
      | Json.bool false =>
        if (keyword? entries "properties").isNone &&
            (keyword? entries "patternProperties").isNone then
          .ok [assert .noFields]
        else return [assert (.closed (← declared entries))]
      | _ => return [additional (← declared entries) (← e.schema)]
    | "propertyNames" => return [propertyNames (← e.schema)]
    | "dependentSchemas" => return [whereField (← e.fields)]
    | "dependencies" => dependencies e
    | "items" =>
      match e.content with
      | .list _ => return [firstItems (← e.list)]
      | _ =>
        let skipped := if d = .draft2020 then firstItemCount d entries else 0
        return [itemsFrom skipped (← e.schema)]
    | "prefixItems" => return [firstItems (← e.list)]
    | "additionalItems" =>
      match (keyword? entries "items").map (·.value), e.value with
      | some (arr items), Json.bool false => .ok [assert (.closedItems items.length)]
      | some (arr items), _ => return [itemsFrom items.length (← e.schema)]
      | _, _ => .ok []
    | "contains" =>
      let bound (keyword : String) : Except SchemaFault (Option Nat) :=
        match keyword? entries keyword with
        | some e => if d.refStandsAlone then .ok none else do return some (← e.count d)
        | none => .ok none
      return [contains (← e.schema) ((← bound "minContains").getD 1) (← bound "maxContains")]
    | "allOf" => return [all (← e.list)]
    | "anyOf" => return [anyOf (← e.list)]
    | "oneOf" => return [oneOf (← e.list)]
    | "not" => return [not (← e.schema) e.value]
    | "if" =>
      if (keyword? entries "then").isNone && (keyword? entries "else").isNone then .ok []
      else
        return [ifThenElse (← e.schema) (← optional entries "then") (← optional entries "else")]
    | _ => .ok []

/-- What a keyword asks for of which the schemas beside it say nothing. -/
def openParts (d : Draft) (beside : List Schema) (e : Entry) : Except SchemaFault (List Schema) :=
  if !d.hasKeyword e.keyword then .ok []
  else
    match e.keyword with
    | "unevaluatedProperties" => do return [unevaluatedProperties beside (← e.schema)]
    | "unevaluatedItems" => do return [unevaluatedItems beside (← e.schema)]
    | _ => .ok []

/-- The schema that an object of keywords is. -/
def ofEntries (c : Surroundings) (place : List String) (entries : List Entry) : Reading := do
  let counted :=
    match keyword? entries "$ref" with
    | some e => if c.draft.refStandsAlone then [e] else entries
    | none => entries
  let beside := (← counted.mapM (partsOf c place counted)).flatten
  return all (beside ++ (← counted.mapM (openParts c.draft beside)).flatten)

mutual

/-- The schema at a place of the document. -/
def read (c : Surroundings) (place : List String) : Json → Reading
  | Json.bool true => .ok always
  | Json.bool false => .ok never
  | obj fields => ofEntries c place (readEntries c place fields)
  | _ => .error .notSchema

def readEntries (c : Surroundings) (place : List String) : List (String × Json) → List Entry
  | [] => []
  | (keyword, value) :: rest =>
    let place' := place ++ [keyword]
    let content : Content :=
      match c.draft.arrangement? keyword, value with
      | some .schema, value => .schema (read c place' value)
      | some .list, arr items => .list (readItems c place' 0 items)
      | some .schemaOrList, arr items => .list (readItems c place' 0 items)
      | some .schemaOrList, value => .schema (read c place' value)
      | some .fields, obj members => .fields (readMembers c place' members)
      | _, _ => .nothing
    { keyword, value, content } :: readEntries c place rest

def readItems (c : Surroundings) (place : List String) (index : Nat) : List Json → List Reading
  | [] => []
  | item :: rest =>
    read c (place ++ [toString index]) item :: readItems c place (index + 1) rest

def readMembers (c : Surroundings) (place : List String) :
    List (String × Json) → List (String × Reading)
  | [] => []
  | (key, value) :: rest => (key, read c (place ++ [key]) value) :: readMembers c place rest

end

mutual

/-- The references in a schema. -/
def referencedNames : Schema → List String
  | all parts | anyOf parts | oneOf parts | firstItems parts => namesInList parts
  | not schema _ | additional _ schema | propertyNames schema | itemsFrom _ schema
  | contains schema _ _ => schema.referencedNames
  | ifThenElse condition thenPart elsePart =>
    condition.referencedNames ++ thenPart.referencedNames ++ elsePart.referencedNames
  | properties fields | whereField fields => namesInFields fields
  | patternProperties fields => namesInPatterns fields
  | unevaluatedProperties beside schema | unevaluatedItems beside schema =>
    namesInList beside ++ schema.referencedNames
  | ref name => [name]
  | never | assert _ => []

def namesInList : List Schema → List String
  | [] => []
  | schema :: rest => schema.referencedNames ++ namesInList rest

def namesInFields : List (String × Schema) → List String
  | [] => []
  | (_, schema) :: rest => schema.referencedNames ++ namesInFields rest

def namesInPatterns : List (Pattern × Schema) → List String
  | [] => []
  | (_, schema) :: rest => schema.referencedNames ++ namesInPatterns rest

end

/-- The definition of a name. -/
def definition (c : Surroundings) (name : String) : Reading :=
  match Target.ofName name with
  | .place way =>
    match c.document.at? way with
    | some value => read c way value
    | none => .error (.unknownReference name)
  | .metaschema d => .ok d.metaschema

/-- The definitions of some names and of all that they refer to, in so many rounds. -/
def definitionsOf (c : Surroundings) :
    Nat → List String → List (String × Schema) → Except SchemaFault (List (String × Schema))
  | 0, _, known => .ok known
  | rounds + 1, names, known => do
    let wanted := (names.filter fun name => (known.lookup name).isNone).eraseDups
    if wanted.isEmpty then return known
    let found ← wanted.mapM fun name => do return (name, ← definition c name)
    definitionsOf c rounds (found.flatMap (·.2.referencedNames)) (known ++ found)

end Schema

/-- The draft in which a document says that it is written. -/
def Draft.ofDocument (v : Json) : Except SchemaFault Draft :=
  match v.get? "$schema" with
  | some (.str name) =>
    match Draft.ofUri? name with
    | some d => .ok d
    | none => .error (.unknownDraft name)
  | _ => .ok .draft2020

/-- The schema that a JSON document describes. A chain of definitions cannot be longer than the
text. -/
def SchemaDocument.ofJson (v : Json) : Except SchemaFault SchemaDocument := do
  let draft ← Draft.ofDocument v
  match draft.document.errors v with
  | cause :: _ => .error (.invalid cause)
  | [] =>
    let c : Schema.Surroundings := { draft, document := v, survey := ← Survey.ofDocument draft v }
    let root ← Schema.read c [] v
    let definitions ← Schema.definitionsOf c v.compact.length root.referencedNames []
    return { root, definitions }

end TaskNetwork
