import TaskNetwork.Proofs.Schema.Semantics
import TaskNetwork.Schema.DocumentFormat

/-!
# Nodes of the document format

What it takes for a value to be a node of the format: the keywords and references of the format are
opened here, so that later modules speak of fields and items only.
-/

namespace TaskNetwork

namespace DocumentFormat

open Schema

/-- How many references can follow one another from a definition on at one value. -/
def rank : String → Nat
  | "precondition" | "effect" => 2
  | "term" | "expression" | "effect_atom" | "task" => 1
  | _ => 0

theorem ranked : Ranked definitions rank := by
  constructor
  · intro name
    have : rank name ≤ 2 := by unfold rank; split <;> omega
    exact Nat.lt_of_le_of_lt this (by decide)
  · intro name schema h
    have below : definitions.all (fun d => d.2.refersBelow rank (rank d.1)) = true := by decide
    obtain ⟨_, _, heq, _⟩ := List.lookup_eq_some_iff.mp h
    exact List.all_eq_true.mp below (name, schema) (by simp [heq])

/-- The value satisfies a schema that may refer to the definitions of the format. -/
def Valid (v : Json) (s : Schema) : Prop := accepts definitions v s = true

theorem valid_root {v : Json} : Valid v root ↔ documentFormat.accepts v = true := Iff.rfl

variable {v : Json}

/-! ## Keywords -/

theorem valid_all {parts : List Schema} : Valid v (all parts) ↔ ∀ s ∈ parts, Valid v s := by
  simp [Valid, accepts_all]

theorem valid_assert {a : Assertion} : Valid v (assert a) ↔ a.holds v = true := by
  simp [Valid, accepts_assert]

theorem valid_anyOf {options : List Schema} :
    Valid v (anyOf options) ↔ ∃ s ∈ options, Valid v s := by
  simp [Valid, accepts_anyOf]

theorem valid_properties {fields : List (String × Schema)} :
    Valid v (properties fields) ↔
      ∀ field ∈ fields, ∀ w, v.get? field.1 = some w → Valid w field.2 := by
  simp [Valid, accepts_properties, Option.all_eq_true]

theorem valid_required {keys : List String} (h : ∀ key ∈ keys, (v.get? key).isSome) :
    Valid v (required keys) := by
  simpa [required, valid_assert, Assertion.holds, Json.mem_keys_iff] using Or.inr h

theorem valid_required_obj {members : List (String × Json)} {keys : List String} :
    Valid (.obj members) (required keys) ↔ ∀ key ∈ keys, (members.lookup key).isSome := by
  simp [required, valid_assert, Assertion.holds, Json.isObject, Json.mem_keys_iff]

theorem valid_closed {keys : List String} :
    Valid v (closed keys) ↔ ∀ key, (v.get? key).isSome → key ∈ keys := by
  simp [closed, valid_assert, Assertion.holds, DeclaredFields.contains, ← Json.mem_keys_iff]

theorem valid_items {values : List Json} {s : Schema} :
    Valid (.arr values) (items s) ↔ ∀ item ∈ values, Valid item s := by
  simp [Valid, accepts_items, Json.arr?]

/-- A name stands for its definition. -/
theorem valid_ref {name : String} {s : Schema} (h : definitions.lookup name = some s) :
    Valid v (ref name) ↔ Valid v s := by
  simp [Valid, accepts_ref ranked, h]

theorem valid_array : Valid v (type [.array]) ↔ ∃ values, v = .arr values := by
  cases v <;> simp [type, valid_assert, Assertion.holds, Json.hasKind]

theorem valid_minItems {values : List Json} {count : Nat} :
    Valid (.arr values) (minItems count) ↔ count ≤ values.length := by
  simp [minItems, valid_assert, Assertion.holds, Measure.of?]

theorem valid_maxItems {values : List Json} {count : Nat} :
    Valid (.arr values) (maxItems count) ↔ values.length ≤ count := by
  simp [maxItems, valid_assert, Assertion.holds, Measure.of?]

theorem same_str {s : String} : v.same (.str s) = true ↔ v = .str s := by
  cases v <;> simp [Json.same]

theorem valid_text : Valid v text ↔ ∃ s, v = .str s := by
  cases v <;> simp [text, type, valid_assert, Assertion.holds, Json.hasKind]

theorem valid_const {s : String} : Valid v (const (.str s)) ↔ v = .str s := by
  simp [const, valid_assert, Assertion.holds, same_str]

theorem valid_among {options : List String} :
    Valid v (among options) ↔ ∃ s ∈ options, v = .str s := by
  simp [among, valid_assert, Assertion.holds, same_str]

/-! ## Arrays and records -/

theorem valid_arrayOf {s : Schema} :
    Valid v (arrayOf s) ↔ ∃ values, v = .arr values ∧ ∀ item ∈ values, Valid item s := by
  simp only [arrayOf, valid_all, List.forall_mem_cons, valid_array]
  constructor
  · rintro ⟨⟨values, rfl⟩, h, -⟩
    exact ⟨values, rfl, valid_items.mp h⟩
  · rintro ⟨values, rfl, h⟩
    exact ⟨⟨values, rfl⟩, valid_items.mpr h, by simp⟩

theorem valid_nonemptyArrayOf {s : Schema} :
    Valid v (nonemptyArrayOf s) ↔
      ∃ values, v = .arr values ∧ values ≠ [] ∧ ∀ item ∈ values, Valid item s := by
  simp only [nonemptyArrayOf, valid_all, List.forall_mem_cons, valid_array]
  constructor
  · rintro ⟨⟨values, rfl⟩, least, h, -⟩
    exact ⟨values, rfl, List.length_pos_iff.mp (valid_minItems.mp least), valid_items.mp h⟩
  · rintro ⟨values, rfl, nonempty, h⟩
    exact ⟨⟨values, rfl⟩, valid_minItems.mpr (List.length_pos_iff.mpr nonempty),
      valid_items.mpr h, by simp⟩

/-- An object with some fields, and perhaps some optional ones, has nothing else. -/
theorem valid_recordWith {fields optional : List (String × Schema)} :
    Valid v (recordWith fields optional) ↔ ∃ members, v = .obj members ∧
      (∀ key ∈ fields.map Prod.fst, key ∈ members.map Prod.fst) ∧
      (∀ key ∈ members.map Prod.fst, key ∈ (fields ++ optional).map Prod.fst) ∧
      ∀ field ∈ fields ++ optional, ∀ w, members.lookup field.1 = some w → Valid w field.2 := by
  cases v <;> simp [recordWith, type, required, closed, valid_all, valid_assert, valid_properties,
    Assertion.holds, Json.hasKind, Json.isObject, Json.keys, DeclaredFields.contains]

theorem record_eq_recordWith (fields : List (String × Schema)) :
    record fields = recordWith fields [] := by
  simp [record, recordWith]

theorem valid_record {fields : List (String × Schema)} :
    Valid v (record fields) ↔ ∃ members, v = .obj members ∧
      (∀ key, key ∈ fields.map Prod.fst ↔ key ∈ members.map Prod.fst) ∧
      ∀ field ∈ fields, ∀ w, members.lookup field.1 = some w → Valid w field.2 := by
  simp only [record_eq_recordWith, valid_recordWith, List.append_nil, iff_iff_implies_and_implies,
    forall_and, and_assoc]

/-- The fields of a record may stand in any order. -/
theorem valid_record_of_perm {members : List (String × Json)} {fields : List (String × Schema)}
    (keys : (fields.map Prod.fst).isPerm (members.map Prod.fst) = true)
    (h : ∀ field ∈ fields, ∀ w, members.lookup field.1 = some w → Valid w field.2) :
    Valid (.obj members) (record fields) :=
  valid_record.mpr ⟨members, rfl, fun _ => (List.isPerm_iff.mp keys).mem_iff, h⟩

/-- One of the alternatives of a definition suffices. -/
theorem valid_of_mem {name : String} {options : List Schema} {s : Schema}
    (h : definitions.lookup name = some (anyOf options)) (mem : s ∈ options) (hv : Valid v s) :
    Valid v (ref name) :=
  (valid_ref h).mpr (valid_anyOf.mpr ⟨s, mem, hv⟩)

end DocumentFormat

end TaskNetwork
