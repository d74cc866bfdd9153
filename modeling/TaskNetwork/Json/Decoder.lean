import TaskNetwork.Json.Basic
import TaskNetwork.Binary64.Text
import TaskNetwork.Text.Quoted

/-!
# Typed values out of JSON

A decoder turns a value into a typed one or says what is wrong with it. A record is read from an
object by the names of its fields or from an array by their order. An object's fields are looked at
in the order of their keys, so the first bad one in that order is reported, and a missing one only
when all that are there are good.
-/

namespace TaskNetwork

namespace Json

inductive DecodeError where
  | invalidType (found : Json) (expected : String)
  | invalidValue (found : Json) (expected : String)
  | invalidLength (length : Nat) (expected : String)
  | missingField (name : String)
  | unknownField (name : String) (expected : List String)
  | unknownVariant (name : String) (expected : List String)

/-- How a value is named in a message. -/
def describe : Json → String
  | null => "null"
  | bool b => s!"boolean `{b}`"
  | int i => s!"integer `{String.ofList (writeInteger i)}`"
  | float x => s!"floating point `{String.ofList x.scientific}`"
  | str s => s!"string {Text.quoted s}"
  | arr _ => "sequence"
  | obj _ => "map"
where
  writeInteger : Int → List Char
    | .ofNat n => Nat.toDigits 10 n
    | .negSucc n => '-' :: Nat.toDigits 10 (n + 1)

/-- Names in back quotes, as alternatives. -/
def alternatives : List String → String
  | [] => "there are none"
  | [one] => s!"`{one}`"
  | [one, two] => s!"`{one}` or `{two}`"
  | names => "one of " ++ ", ".intercalate (names.map fun name => s!"`{name}`")

def DecodeError.message : DecodeError → String
  | invalidType found expected => s!"invalid type: {found.describe}, expected {expected}"
  | invalidValue found expected => s!"invalid value: {found.describe}, expected {expected}"
  | invalidLength length expected => s!"invalid length {length}, expected {expected}"
  | missingField name => s!"missing field `{name}`"
  | unknownField name expected => s!"unknown field `{name}`, expected {alternatives expected}"
  | unknownVariant name expected => s!"unknown variant `{name}`, expected {alternatives expected}"

abbrev Decoder (α : Type) := Json → Except DecodeError α

namespace Decoder

/-- Any value, as it is. -/
def any : Decoder Json := .ok

def string : Decoder String
  | str s => .ok s
  | found => .error (.invalidType found "a string")

def boolean : Decoder Bool
  | bool b => .ok b
  | found => .error (.invalidType found "a boolean")

/-- A count of 64 bits. -/
def size : Decoder Nat
  | int (.ofNat n) => .ok n
  | int i => .error (.invalidValue (int i) "usize")
  | found => .error (.invalidType found "usize")

def list {α : Type} (item : Decoder α) : Decoder (List α)
  | arr items => items.mapM item
  | found => .error (.invalidType found "a sequence")

/-- Null stands for nothing. -/
def option {α : Type} (item : Decoder α) : Decoder (Option α)
  | null => .ok none
  | found => (item found).map some

/-- One of some named values, which is written as its name or as an object from its name to null. -/
def variant {α : Type} (choices : List (String × α)) : Decoder α
  | str name => choose name
  | obj [(name, content)] => do
    let chosen ← choose name
    match content with
    | null => return chosen
    | found => .error (.invalidType found "unit")
  | obj fields => .error (.invalidValue (obj fields) "map with a single key")
  | found => .error (.invalidType found "string or map")
where
  choose (name : String) : Except DecodeError α :=
    match choices.lookup name with
    | some chosen => .ok chosen
    | none => .error (.unknownVariant name (choices.map Prod.fst))

end Decoder

/-! ## Records -/

/-- Why an object is not a record: a field with a bad value, or one that is not there. -/
inductive FieldFault where
  | bad (key : String) (error : DecodeError)
  | missing (name : String)

/-- The fault to report of two: bad values come first, in the order of their keys. -/
def FieldFault.first : FieldFault → FieldFault → FieldFault
  | .bad key error, .bad key' error' =>
    if key' < key then .bad key' error' else .bad key error
  | .missing _, .bad key' error' => .bad key' error'
  | fault, .missing _ => fault

/-- Why an array is not a record: an item with a bad value, or one that is not there. -/
inductive ItemFault where
  | bad (error : DecodeError)
  | missing (index : Nat)

/-- A reader of some of the fields of a record, by name or in order. -/
structure Record (α : Type) where
  names : List String
  ofFields : List (String × Json) → Except FieldFault α
  ofItems : Nat → List Json → Except ItemFault (α × List Json)

namespace Record

variable {α β : Type}

/-- The record without fields. -/
def none (value : α) : Record α := ⟨[], fun _ => .ok value, fun _ items => .ok (value, items)⟩

/-- One field. Where it is not there, `absent` may stand for it in an object, and `short` in an
array. -/
def field (name : String) (decoder : Decoder α) (absent short : Option α) : Record α where
  names := [name]
  ofFields fields :=
    match fields.lookup name, absent with
    | some value, _ => (decoder value).mapError (.bad name)
    | .none, some value => .ok value
    | .none, .none => .error (.missing name)
  ofItems index
    | value :: rest => ((decoder value).mapError .bad).map (·, rest)
    | [] =>
      match short with
      | some value => .ok (value, [])
      | .none => .error (.missing index)

def required (name : String) (decoder : Decoder α) : Record α :=
  field name decoder .none .none

/-- A field that may be left out of an object, though not of an array. -/
def optional (name : String) (decoder : Decoder α) : Record (Option α) :=
  field name decoder.option (some .none) .none

def withDefault (name : String) (decoder : Decoder α) (default : α) : Record α :=
  field name decoder (some default) (some default)

/-- A record with one more field. -/
def and (f : Record (α → β)) (x : Record α) : Record β where
  names := f.names ++ x.names
  ofFields fields :=
    match f.ofFields fields, x.ofFields fields with
    | .ok g, .ok value => .ok (g value)
    | .error fault, .error fault' => .error (fault.first fault')
    | .error fault, .ok _ => .error fault
    | .ok _, .error fault => .error fault
  ofItems index items := do
    let (g, items) ← f.ofItems index items
    let (value, items) ← x.ofItems (index + f.names.length) items
    return (g value, items)

/-- The record that refuses fields other than its own. -/
def closed (r : Record α) : Record α where
  names := r.names
  ofFields fields :=
    match fields.find? (fun field => !r.names.contains field.1) with
    | .none => r.ofFields fields
    | some (key, _) =>
      let unknown := FieldFault.bad key (.unknownField key r.names)
      match r.ofFields fields with
      | .ok _ => .error unknown
      | .error fault => .error (fault.first unknown)
  ofItems := r.ofItems

/-- The decoder of a record, which messages call by `name`. -/
def decoder (r : Record α) (name : String) : Decoder α
  | obj fields =>
    match r.ofFields fields with
    | .ok value => .ok value
    | .error (.bad _ error) => .error error
    | .error (.missing field) => .error (.missingField field)
  | arr items =>
    match r.ofItems 0 items with
    | .ok (value, []) => .ok value
    | .ok _ => .error (.invalidLength items.length "fewer elements in array")
    | .error (.bad error) => .error error
    | .error (.missing index) =>
      let count := r.names.length
      let elements := if count = 1 then "element" else "elements"
      .error (.invalidLength index s!"struct {name} with {count} {elements}")
  | found => .error (.invalidType found s!"struct {name}")

end Record

end Json

end TaskNetwork
