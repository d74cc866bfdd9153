/-!
# Walks with a stack

A walk visits the nodes of some trees one after the other and keeps those still to be visited on a
stack, so that memory alone bounds how deep the trees may be. Where a node is taken from the stack,
its parts are put.
-/

namespace TaskNetwork

/-- The sizes of some nodes together. -/
@[simp] def totalSize {ν : Type} (size : ν → Nat) : List ν → Nat
  | [] => 0
  | node :: rest => size node + totalSize size rest

section

variable {μ ν : Type} (size : ν → Nat)

theorem totalSize_append (xs ys : List ν) :
    totalSize size (xs ++ ys) = totalSize size xs + totalSize size ys := by
  induction xs with
  | nil => simp
  | cons node rest ih => simp [ih, Nat.add_assoc]

theorem totalSize_reverse (xs : List ν) : totalSize size xs.reverse = totalSize size xs := by
  induction xs with
  | nil => rfl
  | cons node rest ih => simp [totalSize_append, ih, Nat.add_comm]

theorem totalSize_map (f : μ → ν) (xs : List μ) :
    totalSize size (xs.map f) = totalSize (fun x => size (f x)) xs := by
  induction xs with
  | nil => rfl
  | cons x rest ih => simp [ih]

end

/-- How a walk treats nodes of type `ν` to find out something of type `α`. -/
structure Visitor (ν α : Type) where
  /-- What is found once a node is visited too. -/
  note : α → ν → α
  /-- The parts of a node, the one to be visited first at the head. -/
  parts : ν → List ν
  size : ν → Nat
  /-- All parts of a node together are smaller than the node. -/
  totalSize_parts_lt (node : ν) : totalSize size (parts node) < size node

/-- A walk under way: the nodes still to be visited, the next at the head, and what was found. -/
structure Walk (ν α : Type) where
  pending : List ν
  found : α

namespace Visitor

variable {ν α : Type}

/-- Visits the next node, if there is one. -/
def step (v : Visitor ν α) (w : Walk ν α) : Walk ν α :=
  match w.pending with
  | [] => w
  | node :: rest => ⟨v.parts node ++ rest, v.note w.found node⟩

/-- What is found when no node is left. -/
@[semireducible] def drain (v : Visitor ν α) : Walk ν α → α
  | ⟨[], found⟩ => found
  | ⟨node :: rest, found⟩ => v.drain ⟨v.parts node ++ rest, v.note found node⟩
termination_by w => totalSize v.size w.pending
decreasing_by
  have := v.totalSize_parts_lt node
  simp only [totalSize_append, totalSize]
  omega

end Visitor

end TaskNetwork
