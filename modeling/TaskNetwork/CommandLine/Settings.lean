import TaskNetwork.Json.Printer
import TaskNetwork.Toml.Parser

/-!
# Settings

A settings file is a TOML document. Every setting may be left out, and none that is not known here
may be in it.
-/

namespace TaskNetwork

structure Settings where
  /-- The least severity of the events to log. -/
  logLevel : String := "warn"
  /-- A schema file to use in place of the document format. -/
  schema : Option String := none
  /-- The layout of the documents to print. -/
  layout : Json.Layout := .pretty

/-- Why a text is not a settings file. -/
inductive SettingsError where
  | malformed
  | redefined
  | unknown (key : List String)
  | wrongType (key : List String) (expected : String)

def SettingsError.message : SettingsError → String
  | malformed => "the text is not TOML"
  | redefined => "a key is defined more than once"
  | unknown key => s!"unknown key '{dotted key}'"
  | wrongType key expected => s!"'{dotted key}' is not {expected}"
where
  dotted (key : List String) : String := ".".intercalate key

namespace Settings

open Toml

def layoutOf (pretty : Bool) : Json.Layout := if pretty then .pretty else .compact

/-- The settings with the one of the table `output` under a key inside it. -/
def withOutput (s : Settings) (key : List String) (value : Value) :
    Except SettingsError Settings :=
  match key, value with
  | ["pretty"], .bool pretty => .ok { s with layout := layoutOf pretty }
  | ["pretty"], _ => .error (.wrongType ["output", "pretty"] "a boolean")
  | key, _ => .error (.unknown ("output" :: key))

/-- The settings with the one under a key. The table `output` may also be an array that begins with
its values in order. -/
def withEntry (s : Settings) (key : List String) (value : Value) : Except SettingsError Settings :=
  match key, value with
  | ["log_level"], .str level => .ok { s with logLevel := level }
  | ["log_level"], _ => .error (.wrongType key "a string")
  | ["schema"], .str path => .ok { s with schema := some path }
  | ["schema"], _ => .error (.wrongType key "a string")
  | ["output"], .table entries => entries.foldlM (fun s (key, value) => s.withOutput key value) s
  | ["output"], .arr [] => .ok s
  | ["output"], .arr (pretty :: _) => s.withOutput ["pretty"] pretty
  | ["output"], _ => .error (.wrongType key "a table")
  | "output" :: rest, value => s.withOutput rest value
  | key, _ => .error (.unknown key)

/-- The entries in front of the first header, with the statements from there on. -/
def topEntries : List Statement → List (List String × Value) × List Statement
  | .entry key value :: rest =>
    let (entries, others) := topEntries rest
    ((key, value) :: entries, others)
  | others => ([], others)

/-- The entries of a document by their full keys. The only table with a header of its own is
`output`, which the entries in front of it must not define. -/
def entriesOf (statements : List Statement) :
    Except SettingsError (List (List String × Value)) :=
  match topEntries statements with
  | (top, []) => .ok top
  | (top, .header ["output"] :: rest) =>
    match topEntries rest with
    | (inside, []) =>
      if top.any (·.1.head? == some "output") then .error .redefined
      else .ok (top ++ inside.map fun (key, value) => ("output" :: key, value))
    | (_, .header ["output"] :: _) => .error .redefined
    | (_, .header key :: _) | (_, .itemHeader key :: _) => .error (.unknown key)
    | (_, .entry _ _ :: _) => .error .malformed
  | (_, .header key :: _) | (_, .itemHeader key :: _) => .error (.unknown key)
  | (_, .entry _ _ :: _) => .error .malformed

/-- The settings that a document states, with defaults for the others. -/
def ofStatements (statements : List Statement) : Except SettingsError Settings := do
  let entries ← entriesOf statements
  if independent (entries.map Prod.fst) then
    entries.foldlM (fun s (key, value) => s.withEntry key value) {}
  else .error .redefined

def parse (text : String) : Except SettingsError Settings :=
  match Toml.parse? text with
  | some statements => ofStatements statements
  | none => .error .malformed

end Settings

end TaskNetwork
