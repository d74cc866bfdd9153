import Mathlib.Algebra.GroupWithZero.Nat
import Mathlib.Algebra.Order.BigOperators.Group.List
import Mathlib.Algebra.Order.Group.Nat
import TaskNetwork.Encoder
import TaskNetwork.Summary.Reader

/-!
# Counting error nodes

The error nodes of an array are those of its items, and the error nodes of an object are those of
its values and perhaps itself.
-/

namespace TaskNetwork

namespace Json

theorem errorCount_arr (items : List Json) :
    (arr items).errorCount = (items.map errorCount).sum := by
  rw [errorCount]
  induction items with
  | nil => rfl
  | cons item rest ih => simp [errorCountItems, ih]

theorem errorCount_obj (fields : List (String × Json)) :
    (obj fields).errorCount =
      (if (obj fields).isErrorNode then 1 else 0) +
        (fields.map fun (_, value) => value.errorCount).sum := by
  have values : errorCountFields fields = (fields.map fun (_, value) => value.errorCount).sum := by
    induction fields with
    | nil => rfl
    | cons field rest ih =>
      obtain ⟨key, value⟩ := field
      simp [errorCountFields, ih]
  rw [errorCount, values]

theorem errorCount_le_of_get? {v value : Json} {key : String} (h : v.get? key = some value) :
    value.errorCount ≤ v.errorCount := by
  cases v with
  | obj fields =>
    obtain ⟨front, back, rfl, -⟩ := List.lookup_eq_some_iff.mp h
    have hmem : (key, value) ∈ front ++ (key, value) :: back := by simp
    have hvalue : value.errorCount ≤
        ((front ++ (key, value) :: back).map fun (_, value) => value.errorCount).sum :=
      List.le_sum_of_mem (List.mem_map.mpr ⟨_, hmem, rfl⟩)
    rw [errorCount_obj]
    omega
  | _ => cases h

theorem errorCount_pos_of_isErrorNode {v : Json} (h : v.isErrorNode = true) :
    0 < v.errorCount := by
  cases v with
  | obj fields =>
    rw [errorCount_obj, if_pos h]
    omega
  | _ => cases h

theorem countP_isErrorNode_le (items : List Json) :
    items.countP isErrorNode ≤ (arr items).errorCount := by
  rw [errorCount_arr]
  induction items with
  | nil => simp
  | cons item rest ih =>
    rw [List.countP_cons, List.map_cons, List.sum_cons]
    split
    · have := errorCount_pos_of_isErrorNode ‹item.isErrorNode = true›
      omega
    · omega

/-- No part of the value is an error node. -/
def Faultless (v : Json) : Prop := v.errorCount = 0

theorem faultless_arr {items : List Json} :
    (arr items).Faultless ↔ ∀ item ∈ items, item.Faultless := by
  rw [Faultless, errorCount_arr, List.sum_eq_zero_iff_forall_eq_nat, List.forall_mem_map]
  rfl

theorem faultless_obj {fields : List (String × Json)} :
    (obj fields).Faultless ↔
      (obj fields).isErrorNode = false ∧ ∀ field ∈ fields, field.2.Faultless := by
  rw [Faultless, errorCount_obj, Nat.add_eq_zero_iff, List.sum_eq_zero_iff_forall_eq_nat,
    List.forall_mem_map]
  cases (obj fields).isErrorNode <;> simp [Faultless]

theorem Faultless.value {fields : List (String × Json)} (h : (obj fields).Faultless) (key : String)
    {value : Json} (hmem : (key, value) ∈ fields) : value.Faultless :=
  (faultless_obj.mp h).2 (key, value) hmem

theorem Faultless.items {fields : List (String × Json)} (h : (obj fields).Faultless) (key : String)
    {items : List Json} (hmem : (key, arr items) ∈ fields) : ∀ item ∈ items, item.Faultless :=
  faultless_arr.mp (h.value key hmem)

theorem Faultless.of_get? {v : Json} (h : v.Faultless) {key : String} {value : Json}
    (hget : v.get? key = some value) : value.Faultless :=
  Nat.eq_zero_of_le_zero (h ▸ errorCount_le_of_get? hget)

end Json

theorem Fault.not_faultless_node (fault : Fault) : ¬ fault.node.Faultless := by
  intro h
  have := (Json.faultless_obj.mp h).1
  cases this

end TaskNetwork
