import Mathlib.Data.List.Forall2
import TaskNetwork.Json.Basic

/-!
# Pruned values

A value is pruned by putting one and the same node in the place of some of the nodes in it. Names,
kinds, variables and whatever else is no node stays as it is, and so does the number and the order
of the nodes in a list. A pruned value without that node is the value itself.
-/

namespace TaskNetwork

namespace Json

/-- The keys under which there can be a node. -/
def nodeKeys : List String :=
  ["cost", "expression", "left", "preconditions", "predicate", "predicates", "right", "value"]

/-- The keys under which there can be a list of nodes. -/
def listKeys : List String :=
  ["arguments", "branches", "conjuncts", "disjuncts", "effect", "expression", "parameters",
    "predicates"]

mutual

/-- The first value is the second one with `cut` in the place of some nodes. -/
inductive Pruned (cut : Json) : Json → Json → Prop
  | cut (v : Json) : Pruned cut cut v
  | same (v : Json) : Pruned cut v v
  | arr {vs ws : List Json} (h : List.Forall₂ (Pruned cut) vs ws) : Pruned cut (arr vs) (arr ws)
  | obj {fields fields' : List (String × Json)}
      (h : List.Forall₂ (PrunedField cut) fields fields') : Pruned cut (obj fields) (obj fields')

inductive PrunedField (cut : Json) : String × Json → String × Json → Prop
  | same (field : String × Json) : PrunedField cut field field
  | node {key : String} {v w : Json} (hkey : key ∈ nodeKeys) (h : Pruned cut v w) :
      PrunedField cut (key, v) (key, w)
  | list {key : String} {vs ws : List Json} (hkey : key ∈ listKeys)
      (h : List.Forall₂ (Pruned cut) vs ws) : PrunedField cut (key, .arr vs) (key, .arr ws)

end

theorem Pruned.of_eq {cut v w : Json} (h : v = w) : Pruned cut v w := by
  rw [h]
  exact .same w

theorem Pruned.forall₂_map {α : Type} {cut : Json} {f g : α → Json} (xs : List α)
    (h : ∀ x ∈ xs, Pruned cut (f x) (g x)) : List.Forall₂ (Pruned cut) (xs.map f) (xs.map g) := by
  rw [List.forall₂_map_left_iff, List.forall₂_map_right_iff, List.forall₂_same]
  exact h

/-- The node is somewhere in the value. -/
inductive HasPart (node : Json) : Json → Prop
  | self : HasPart node node
  | item {items : List Json} {v : Json} (hmem : v ∈ items) (h : HasPart node v) :
      HasPart node (arr items)
  | field {fields : List (String × Json)} {field : String × Json} (hmem : field ∈ fields)
      (h : HasPart node field.2) : HasPart node (obj fields)

theorem HasPart.trans {u v w : Json} (h : HasPart u v) (h' : HasPart v w) : HasPart u w := by
  induction h' with
  | self => exact h
  | item hmem _ ih => exact .item hmem ih
  | field hmem _ ih => exact .field hmem ih

theorem not_hasPart_item {node : Json} {items : List Json} (h : ¬ HasPart node (arr items)) :
    ∀ item ∈ items, ¬ HasPart node item := fun _ hmem hpart => h (.item hmem hpart)

theorem not_hasPart_field {node : Json} {fields : List (String × Json)}
    (h : ¬ HasPart node (obj fields)) : ∀ field ∈ fields, ¬ HasPart node field.2 :=
  fun _ hmem hpart => h (.field hmem hpart)

/-- Only a value with the node in it differs from what was pruned. -/
theorem Pruned.eq_of_not_hasPart {cut v w : Json} (h : Pruned cut v w) :
    ¬ HasPart cut v → v = w := by
  refine Pruned.rec (motive_1 := fun v w _ => ¬ HasPart cut v → v = w)
    (motive_2 := fun field field' _ => ¬ HasPart cut field.2 → field = field')
    (motive_3 := fun vs ws _ => (∀ v ∈ vs, ¬ HasPart cut v) → vs = ws)
    (motive_4 := fun fields fields' _ =>
      (∀ field ∈ fields, ¬ HasPart cut field.2) → fields = fields')
    ?cut ?same ?arr ?obj ?sameField ?node ?list ?nil ?cons ?nilFields ?consFields h
  case cut =>
    intro v hfree
    exact absurd .self hfree
  case same | sameField =>
    intro _ _
    rfl
  case arr =>
    intro vs ws _ ih hfree
    rw [ih (not_hasPart_item hfree)]
  case obj =>
    intro fields fields' _ ih hfree
    rw [ih (not_hasPart_field hfree)]
  case node =>
    intro key v w _ _ ih hfree
    rw [ih hfree]
  case list =>
    intro key vs ws _ _ ih hfree
    rw [ih (not_hasPart_item hfree)]
  case nil | nilFields =>
    intro _
    rfl
  case cons | consFields =>
    intro _ _ _ _ _ _ ihhead ihtail hfree
    obtain ⟨hhead, htail⟩ := List.forall_mem_cons.mp hfree
    rw [ihhead hhead, ihtail htail]

theorem PrunedField.eq_of_not_hasPart {cut : Json} {field field' : String × Json}
    (h : PrunedField cut field field') (hfree : ¬ HasPart cut field.2) : field = field' := by
  cases h with
  | same => rfl
  | node hkey h => rw [h.eq_of_not_hasPart hfree]
  | list hkey h => rw [(Pruned.arr h).eq_of_not_hasPart hfree]

theorem HasPart.of_get? {node v w : Json} (key : String) (hget : v.get? key = some w)
    (h : HasPart node w) : HasPart node v := by
  cases v with
  | obj fields =>
    obtain ⟨front, back, rfl, -⟩ := List.lookup_eq_some_iff.mp hget
    have hmem : (key, w) ∈ front ++ (key, w) :: back := by simp
    exact .field hmem h
  | _ => cases hget

end Json

end TaskNetwork
