import TaskNetwork.Binary64.Basic
import TaskNetwork.Calendar

/-!
# TOML documents

A document is the list of its statements in order. A key is the list of the names on the way to
what it names.
-/

namespace TaskNetwork

namespace Toml

/-- A date, a time of the day or both; with both there may be an offset in minutes. -/
inductive Moment where
  | date (date : Date)
  | time (time : Time)
  | dateTime (date : Date) (time : Time) (offset : Option Int)
deriving DecidableEq

inductive Value where
  | str (s : String)
  | bool (b : Bool)
  | int (i : Int)
  | float (x : Binary64)
  | moment (m : Moment)
  | arr (items : List Value)
  | table (entries : List (List String × Value))

inductive Statement where
  | entry (key : List String) (value : Value)
  /-- The header of a table, to which the entries up to the next header belong. -/
  | header (key : List String)
  /-- The header of one more item of an array of tables. -/
  | itemHeader (key : List String)

/-- Does each key name something of its own, which is not inside what another one names? -/
def independent : List (List String) → Bool
  | [] => true
  | key :: rest =>
    rest.all (fun other => !key.isPrefixOf other && !other.isPrefixOf key) && independent rest

end Toml

end TaskNetwork
