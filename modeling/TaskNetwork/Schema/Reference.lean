import TaskNetwork.Schema.Keyword

/-!
# What references name

A place in a document is the list of the keys and indices on the way to it. A reference names a
place by the way from the root of a resource, or by an anchor in it. Every schema with an identifier
is a resource of its own, and the identifier is the base of the references inside it.

Nothing is fetched. A validator that loads the resources which a document names by files or over the
network accepts more documents than are accepted here.
-/

namespace TaskNetwork

/-- Why a value is not a schema. -/
inductive SchemaFault where
  | notSchema
  | badKeyword (name : String)
  | unknownDraft (name : String)
  | badReference (name : String)
  | unknownReference (name : String)
  | invalid (cause : SchemaError)

def SchemaFault.message : SchemaFault → String
  | notSchema => "a schema is an object or a truth value"
  | badKeyword name => s!"'{name}' has a value that it cannot have"
  | unknownDraft name => s!"'{name}' is not a known draft"
  | badReference name => s!"'{name}' is not a reference"
  | unknownReference name => s!"'{name}' is not defined"
  | invalid cause => cause.message

namespace Json

/-- The value at a place inside a value. -/
def at? : List String → Json → Option Json
  | [], v => some v
  | step :: rest, v =>
    match v with
    | obj fields => (fields.lookup step).bind (at? rest)
    | arr items =>
      if !step.isEmpty && step.toList.all Char.isDigit then
        (step.toNat?.bind (items[·]?)).bind (at? rest)
      else none
    | _ => none

end Json

namespace Pointer

/-- A step of a way with escapes for slashes and tildes. -/
def escape : List Char → List Char
  | [] => []
  | '~' :: rest => '~' :: '0' :: escape rest
  | '/' :: rest => '~' :: '1' :: escape rest
  | c :: rest => c :: escape rest

def unescape : List Char → List Char
  | '~' :: '1' :: rest => '/' :: unescape rest
  | '~' :: '0' :: rest => '~' :: unescape rest
  | c :: rest => c :: unescape rest
  | [] => []

/-- The text for the way to a place, with a slash in front of every step. -/
def write (place : List String) : String :=
  String.join (place.map fun step => "/" ++ String.ofList (escape step.toList))

/-- The place to which a text is the way. -/
def read (text : String) : List String :=
  ((text.splitOn "/").drop 1).map fun step => String.ofList (unescape step.toList)

end Pointer

/-- A place that references can name: the root of a resource, or an anchor in one. -/
structure Landmark where
  resource : Uri
  anchor : Option String
  place : List String

/-- The landmarks of a document and the other resources that its references name. -/
structure Survey where
  landmarks : List Landmark := []
  resources : List Uri := []

namespace Survey

def append (a b : Survey) : Survey :=
  { landmarks := a.landmarks ++ b.landmarks, resources := a.resources ++ b.resources }

/-- The resource to which a document belongs that does not say so. It is only the base of other
references: one to it as a whole asks for nothing. -/
def defaultBase : Uri := { scheme := some "json-schema", authority := some "", path := "/" }

/-- The value of a keyword that is a string. -/
def textOf (fields : List (String × Json)) (keyword : String) : Option String :=
  (fields.lookup keyword).bind Json.str?

def idKeyword (d : Draft) : String := if d = .draft4 then "id" else "$id"

/-- The identifier of a schema object. In the older drafts one beside a reference counts nothing. -/
def identifier? (d : Draft) (fields : List (String × Json)) : Option String :=
  if d.refStandsAlone && (fields.lookup "$ref").isSome then none else textOf fields (idKeyword d)

/-- The names of the anchors at a schema object. -/
def anchors (d : Draft) (fields : List (String × Json)) : List String :=
  if d.refStandsAlone then
    match (identifier? d fields).map String.toList with
    | some ('#' :: name) => [.ofList name]
    | _ => []
  else
    let names := (textOf fields "$anchor").toList
    if d = .draft2020 then names ++ (textOf fields "$dynamicAnchor").toList else names

/-- The reference that a text is, inside a resource. -/
def resolve (base : Uri) (name : String) : Except SchemaFault Uri :=
  match Uri.parse? name with
  | some r => .ok (base.resolve r)
  | none => .error (.badReference name)

/-- The resource of a schema object inside another one, if it is one of its own. -/
def ownResource (d : Draft) (base : Uri) (fields : List (String × Json)) :
    Except SchemaFault (Option Uri) :=
  match identifier? d fields with
  | none => .ok none
  | some name =>
    let name := String.ofList (name.toList.reverse.dropWhile (· == '#')).reverse
    if name.isEmpty || d.refStandsAlone && name.front = '#' then .ok none
    else (resolve base name).map fun u => some u.withoutFragment

/-- What a reference names apart from its fragment, where that is another resource. -/
def referenced (base : Uri) (fields : List (String × Json)) : Except SchemaFault (List Uri) :=
  match textOf fields "$ref" with
  | some name =>
    if name.toList.head? = some '#' then .ok []
    else (resolve base name).map fun u => [u.withoutFragment]
  | none => .ok []

mutual

/-- The survey of a schema at a place, inside a resource. -/
def ofSchema (d : Draft) (base : Uri) (place : List String) : Json → Except SchemaFault Survey
  | .obj fields => do
    let own ← ownResource d base fields
    let base := own.getD base
    let here : Survey := {
      landmarks := (own.map fun u => ⟨u, none, place⟩).toList ++
        (anchors d fields).map fun name => ⟨base, some name, place⟩
      resources := ← referenced base fields }
    return here.append (← ofKeywords d base place fields)
  | _ => .ok {}

/-- The survey of the schemas in the keywords of a schema object. -/
def ofKeywords (d : Draft) (base : Uri) (place : List String) :
    List (String × Json) → Except SchemaFault Survey
  | [] => .ok {}
  | (keyword, value) :: rest => do
    let place' := place ++ [keyword]
    let first ←
      match d.arrangement? keyword, value with
      | some .schema, value => ofSchema d base place' value
      | some .list, .arr items => ofItems d base place' 0 items
      | some .schemaOrList, .arr items => ofItems d base place' 0 items
      | some .schemaOrList, value => ofSchema d base place' value
      | some .fields, .obj members => ofMembers d base place' members
      | _, _ => .ok {}
    return first.append (← ofKeywords d base place rest)

def ofItems (d : Draft) (base : Uri) (place : List String) (index : Nat) :
    List Json → Except SchemaFault Survey
  | [] => .ok {}
  | item :: rest => do
    let first ← ofSchema d base (place ++ [toString index]) item
    return first.append (← ofItems d base place (index + 1) rest)

def ofMembers (d : Draft) (base : Uri) (place : List String) :
    List (String × Json) → Except SchemaFault Survey
  | [] => .ok {}
  | (key, value) :: rest => do
    let first ← ofSchema d base (place ++ [key]) value
    return first.append (← ofMembers d base place rest)

end

/-- The root of a resource. -/
def root? (s : Survey) (resource : Uri) : Option Landmark :=
  s.landmarks.find? fun mark => mark.resource = resource && mark.anchor.isNone

/-- The draft whose schema of schemas a resource is. -/
def draftAt? (resource : Uri) : Option Draft :=
  Draft.all.find? fun d => Uri.parse? d.uri == resource

/-- The survey of a document. Every resource that it names is in it or is known: one that is to be
loaded from a file or over the network counts as unknown, though a validator may be able to load
it. -/
def ofDocument (d : Draft) (v : Json) : Except SchemaFault Survey := do
  let own ←
    match v with
    | .obj fields => ownResource d defaultBase fields
    | _ => .ok none
  let found ← ofSchema d defaultBase [] v
  let root : Landmark := ⟨own.getD defaultBase, none, []⟩
  let s : Survey := { found with landmarks := root :: found.landmarks }
  match s.resources.find? fun u => (s.root? u).isNone && (draftAt? u).isNone with
  | some u => .error (.unknownReference u.path)
  | none => return s

/-- The base of the references at a place: the innermost resource around it. -/
def baseAt (s : Survey) (place : List String) : Uri :=
  let around := s.landmarks.filter fun mark => mark.anchor.isNone && mark.place.isPrefixOf place
  let innermost := around.foldl (fun (best : Option Landmark) mark =>
    if best.any (mark.place.length < ·.place.length) then best else some mark) none
  (innermost.map (·.resource)).getD defaultBase

end Survey

/-- What a reference names: a place in the document at hand, or the schema of schemas of a draft. -/
inductive Target where
  | place (way : List String)
  | metaschema (d : Draft)

namespace Target

/-- A name for every target, of which only those of places begin with `#`. -/
def name : Target → String
  | place way => "#" ++ Pointer.write way
  | metaschema d => d.uri

/-- The target with a name. -/
def ofName (name : String) : Target :=
  match Draft.all.find? (·.uri == name) with
  | some d => metaschema d
  | none => place (Pointer.read name)

/-- A reference up to its last hash mark and after it. One that begins with a hash mark is all
fragment. -/
def split (reference : String) : String × String :=
  match reference.toList with
  | '#' :: fragment => ("", .ofList fragment)
  | chars =>
    let (fragment, rest) := chars.reverse.span (· != '#')
    match rest with
    | _ :: before => (.ofList before.reverse, .ofList fragment.reverse)
    | [] => (reference, "")

/-- What is at a fragment of a resource: its root, a place on a way from there, or an anchor. -/
def inResource (s : Survey) (document : Json) (root : Landmark) (fragment : String) :
    Option Target :=
  match fragment.toList with
  | [] => some (place root.place)
  | '/' :: _ => do
    let way := root.place ++ Pointer.read (← Uri.unescape? fragment)
    if (document.at? way).isSome then some (place way) else none
  | _ =>
    let named := s.landmarks.find? fun mark =>
      mark.resource = root.resource && mark.anchor == some fragment
    named.map fun mark => place mark.place

/-- What a reference at a place of a document means, if it asks for anything. -/
def find (s : Survey) (document : Json) (origin : List String) (reference : String) :
    Except SchemaFault (Option Target) := do
  let base := s.baseAt origin
  let (before, fragment) := split reference
  let whole := !reference.toList.contains '#'
  let resource ←
    if before.isEmpty && !whole then .ok base
    else (Survey.resolve base before).map Uri.withoutFragment
  if whole && resource = Survey.defaultBase then return none
  let found :=
    match s.root? resource with
    | some root => inResource s document root fragment
    | none => if fragment.isEmpty then (Survey.draftAt? resource).map metaschema else none
  match found with
  | some target => return some target
  | none => .error (.unknownReference reference)

end Target

end TaskNetwork
