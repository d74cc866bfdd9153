import TaskNetwork.Binary64.Basic

/-!
# JSON values

An object is a list of fields. `Json.object` and `Json.insert` keep the keys in increasing order and
without repeats, and everything that builds an object here does so through them or with its keys
written in order; `Json.Sorted` says so of a value at every level.
-/

namespace TaskNetwork

/-- A JSON value. Whole numbers are kept apart from floating ones. -/
inductive Json where
  | null
  | bool (b : Bool)
  | int (i : Int)
  | float (x : Binary64)
  | str (s : String)
  | arr (items : List Json)
  | obj (fields : List (String × Json))

namespace Json

instance : Inhabited Json := ⟨null⟩

/-- The fields with `key` set to `value`, in its place in the order. -/
def insert (key : String) (value : Json) : List (String × Json) → List (String × Json)
  | [] => [(key, value)]
  | (k, v) :: rest =>
    if key < k then (key, value) :: (k, v) :: rest
    else if key = k then (key, value) :: rest
    else (k, v) :: insert key value rest

/-- The object with these fields, of which the last one of a name counts. -/
def object (fields : List (String × Json)) : Json :=
  obj (fields.foldl (fun acc field => insert field.1 field.2 acc) [])

/-- The value under a key; nothing when there is no such key or the value is not an object. -/
def get? (key : String) : Json → Option Json
  | obj fields => fields.lookup key
  | _ => none

def str? : Json → Option String
  | str s => some s
  | _ => none

def arr? : Json → Option (List Json)
  | arr items => some items
  | _ => none

/-- An array of strings. -/
def strings (items : List String) : Json := arr (items.map str)

@[simp] theorem get?_obj (key : String) (fields : List (String × Json)) :
    get? key (obj fields) = fields.lookup key := rfl

theorem lookup_insert_self (key : String) (value : Json) (fields : List (String × Json)) :
    (insert key value fields).lookup key = some value := by
  induction fields with
  | nil => simp [insert]
  | cons field rest ih =>
    obtain ⟨k, v⟩ := field
    by_cases hlt : key < k
    · simp [insert, hlt]
    · by_cases heq : key = k
      · simp [insert, heq]
      · have hne : (key == k) = false := by simp [heq]
        simp [insert, hlt, heq, List.lookup_cons, hne, ih]

theorem lookup_insert_of_ne {key other : String} (h : other ≠ key) (value : Json)
    (fields : List (String × Json)) :
    (insert key value fields).lookup other = fields.lookup other := by
  have hne : (other == key) = false := by simp [h]
  induction fields with
  | nil => simp [insert, List.lookup_cons, hne]
  | cons field rest ih =>
    obtain ⟨k, v⟩ := field
    by_cases hlt : key < k
    · simp [insert, hlt, List.lookup_cons, hne]
    · by_cases heq : key = k
      · subst heq
        simp [insert, List.lookup_cons, hne]
      · simp [insert, hlt, heq, List.lookup_cons, ih]

theorem insert_insert (key : String) (value old : Json) (fields : List (String × Json)) :
    insert key value (insert key old fields) = insert key value fields := by
  induction fields with
  | nil => simp [insert]
  | cons field rest ih =>
    obtain ⟨k, v⟩ := field
    by_cases hlt : key < k
    · simp [insert, hlt]
    · by_cases heq : key = k
      · simp [insert, heq]
      · simp [insert, hlt, heq, ih]

mutual

/-- Every object in the value has its keys in increasing order, so each of them once. -/
def Sorted : Json → Prop
  | arr items => SortedItems items
  | obj fields => fields.Pairwise (fun a b => a.1 < b.1) ∧ SortedFields fields
  | _ => True

def SortedItems : List Json → Prop
  | [] => True
  | item :: rest => item.Sorted ∧ SortedItems rest

def SortedFields : List (String × Json) → Prop
  | [] => True
  | (_, value) :: rest => value.Sorted ∧ SortedFields rest

end

mutual

/-- How many levels of arrays and objects are inside one another. -/
def nesting : Json → Nat
  | arr items => nestingItems items + 1
  | obj fields => nestingFields fields + 1
  | _ => 0

def nestingItems : List Json → Nat
  | [] => 0
  | item :: rest => max item.nesting (nestingItems rest)

def nestingFields : List (String × Json) → Nat
  | [] => 0
  | (_, value) :: rest => max value.nesting (nestingFields rest)

end

end Json

end TaskNetwork
