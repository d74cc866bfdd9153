import TaskNetwork.Term.Encoding

/-!
# Terms by their elements

An encoded list shows its elements and not its cells. So a fact about encodings is proved for terms
without elements, and for lists from their elements.
-/

namespace TaskNetwork

namespace Term

/-- Is the term `nil` or a chain of cells? -/
def isList : Term → Bool
  | cons _ _ | nil => true
  | _ => false

@[simp] theorem elements_nil : nil.elements = [] := rfl

@[simp] theorem elements_cons (head tail : Term) :
    (cons head tail).elements = head :: tail.elements := by
  simp [elements, heads, ending?]

theorem elements_of_isList_eq_false {t : Term} (h : t.isList = false) : t.elements = [t] := by
  cases t <;> simp_all [isList, elements, heads, ending?]

/-- A property of terms holds if lists have it whenever all of their elements do. -/
theorem elements_induction {P : Term → Prop} (leaf : ∀ t, t.isList = false → P t)
    (list : ∀ t, t.isList = true → (∀ e ∈ t.elements, P e) → P t) (t : Term) : P t := by
  -- The tail of a list is no element of it, so the induction carries its elements along.
  have single (t : Term) (h : t.isList = false) : P t ∧ ∀ e ∈ t.elements, P e := by
    rw [elements_of_isList_eq_false h]
    exact ⟨leaf t h, by simpa using leaf t h⟩
  suffices h : P t ∧ ∀ e ∈ t.elements, P e from h.1
  induction t using Term.rec (motive_2 := fun _ => True) with
  | var i => exact single _ rfl
  | const i => exact single _ rfl
  | num x => exact single _ rfl
  | call f args => exact single _ rfl
  | nil => exact ⟨list nil rfl (by simp), by simp⟩
  | cons head tail hhead htail =>
    have all : ∀ e ∈ (cons head tail).elements, P e := by
      simpa using ⟨hhead.1, htail.2⟩
    exact ⟨list _ rfl all, all⟩
  | _ => trivial

theorem encodeAt_of_isList {t : Term} (h : t.isList = true) (enc : Encoder) (depth : Nat) :
    t.encodeAt enc depth =
      if enc.allows depth then .arr (t.elements.map (encodeAt enc (depth + 1))) else enc.tooDeep := by
  cases t with
  | nil => rfl
  | cons head tail => simp [encodeAt, elementsAt_eq_map]
  | _ => cases h

theorem encodeAt_of_isList_eq_false {t : Term} (h : t.isList = false) (enc : Encoder)
    (depth : Nat) : t.encodeAt enc depth = t.leafAt enc depth := by
  cases t <;> simp_all [isList, encodeAt]

theorem parametersAt_eq (enc : Encoder) (depth : Nat) (t : Term) :
    t.parametersAt enc depth = .arr (t.elements.map (encodeAt enc (depth + 1))) := by
  rw [parametersAt, elementsAt_eq_map]

end Term

end TaskNetwork
