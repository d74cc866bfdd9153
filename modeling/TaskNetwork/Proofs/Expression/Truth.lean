import Mathlib.Logic.Basic
import TaskNetwork.Proofs.Induction

/-!
# The truth of an expression

Connectives join expressions to a formula over leaves, whose truth is given: atoms, quantified
expressions, calls, assignments and what is only passed on. Joining operands by `conjunction` or
`disjunction` leaves no connective with less than two of them, and the formula keeps its truth. The
exception is a disjunction of no operand: it becomes `nil`, which is true.
-/

namespace TaskNetwork

namespace Expression

mutual

/-- The truth of an expression if `leaf` gives that of the leaves: these may say anything, but equal
ones say the same. -/
def holds (leaf : Expression → Bool) : Expression → Bool
  | and operands => allHold leaf operands
  | or operands => someHolds leaf operands
  | not e => !e.holds leaf
  | nil => true
  | e@(atom _) | e@(all _ _) | e@(call _ _) | e@(assign _ _) | e@(unknown _) => leaf e

def allHold (leaf : Expression → Bool) : List Expression → Bool
  | [] => true
  | e :: rest => e.holds leaf && allHold leaf rest

def someHolds (leaf : Expression → Bool) : List Expression → Bool
  | [] => false
  | e :: rest => e.holds leaf || someHolds leaf rest

end

mutual

/-- The expression with its connectives built anew from their operands. -/
def collapse : Expression → Expression
  | and operands => conjunction (collapseList operands)
  | or operands => disjunction (collapseList operands)
  | not e => not e.collapse
  | e => e

def collapseList : List Expression → List Expression
  | [] => []
  | e :: rest => e.collapse :: collapseList rest

end

mutual

/-- Every conjunction in the formula has at least `m` operands, and every disjunction `n`. -/
def joinsAtLeast (m n : Nat) : Expression → Bool
  | and operands => m ≤ operands.length && allJoinAtLeast m n operands
  | or operands => n ≤ operands.length && allJoinAtLeast m n operands
  | not e => e.joinsAtLeast m n
  | _ => true

def allJoinAtLeast (m n : Nat) : List Expression → Bool
  | [] => true
  | e :: rest => e.joinsAtLeast m n && allJoinAtLeast m n rest

end

theorem allHold_eq_all (leaf : Expression → Bool) (es : List Expression) :
    allHold leaf es = es.all (holds leaf) := by
  induction es with
  | nil => rfl
  | cons e rest ih => simp [allHold, ih]

theorem someHolds_eq_any (leaf : Expression → Bool) (es : List Expression) :
    someHolds leaf es = es.any (holds leaf) := by
  induction es with
  | nil => rfl
  | cons e rest ih => simp [someHolds, ih]

theorem collapseList_eq_map (es : List Expression) : collapseList es = es.map collapse := by
  induction es with
  | nil => rfl
  | cons e rest ih => simp [collapseList, ih]

theorem allJoinAtLeast_eq_all (m n : Nat) (es : List Expression) :
    allJoinAtLeast m n es = es.all (joinsAtLeast m n) := by
  induction es with
  | nil => rfl
  | cons e rest ih => simp [allJoinAtLeast, ih]

variable {leaf : Expression → Bool} {operands : List Expression} {m n : Nat}

theorem holds_and_iff : (and operands).holds leaf = true ↔ ∀ e ∈ operands, e.holds leaf = true := by
  rw [holds, allHold_eq_all, List.all_eq_true]

theorem holds_or_iff : (or operands).holds leaf = true ↔ ∃ e ∈ operands, e.holds leaf = true := by
  rw [holds, someHolds_eq_any, List.any_eq_true]

theorem joinsAtLeast_and_iff : (and operands).joinsAtLeast m n = true ↔
    m ≤ operands.length ∧ ∀ e ∈ operands, e.joinsAtLeast m n = true := by
  simp [joinsAtLeast, allJoinAtLeast_eq_all]

theorem joinsAtLeast_or_iff : (or operands).joinsAtLeast m n = true ↔
    n ≤ operands.length ∧ ∀ e ∈ operands, e.joinsAtLeast m n = true := by
  simp [joinsAtLeast, allJoinAtLeast_eq_all]

/-! ## Joined operands -/

theorem holds_conjunction_iff :
    (conjunction operands).holds leaf = true ↔ ∀ e ∈ operands, e.holds leaf = true := by
  match operands with
  | [] => simp [conjunction, holds]
  | [e] => simp [conjunction]
  | _ :: _ :: _ => exact holds_and_iff

theorem holds_disjunction_iff (h : operands ≠ []) :
    (disjunction operands).holds leaf = true ↔ ∃ e ∈ operands, e.holds leaf = true := by
  match operands with
  | [e] => simp [disjunction]
  | _ :: _ :: _ => exact holds_or_iff

theorem joinsAtLeast_conjunction (h : ∀ e ∈ operands, e.joinsAtLeast 2 2 = true) :
    (conjunction operands).joinsAtLeast 2 2 = true := by
  match operands with
  | [] => rfl
  | [e] => simpa [conjunction] using h
  | _ :: _ :: _ => exact joinsAtLeast_and_iff.mpr ⟨by simp, h⟩

theorem joinsAtLeast_disjunction (h : ∀ e ∈ operands, e.joinsAtLeast 2 2 = true) :
    (disjunction operands).joinsAtLeast 2 2 = true := by
  match operands with
  | [] => rfl
  | [e] => simpa [disjunction] using h
  | _ :: _ :: _ => exact joinsAtLeast_or_iff.mpr ⟨by simp, h⟩

/-! ## Whole formulas -/

/-- Building the connectives anew leaves none that lacks operands. -/
theorem joinsAtLeast_collapse (e : Expression) : e.collapse.joinsAtLeast 2 2 = true := by
  induction e with
  | and operands ih =>
    rw [collapse, collapseList_eq_map]
    exact joinsAtLeast_conjunction (List.forall_mem_map.mpr ih)
  | or operands ih =>
    rw [collapse, collapseList_eq_map]
    exact joinsAtLeast_disjunction (List.forall_mem_map.mpr ih)
  | not e ih => rwa [collapse, joinsAtLeast]
  | _ => rfl

/-- Building the connectives anew keeps the truth of a formula whose disjunctions have operands. -/
theorem holds_collapse {e : Expression} (h : e.joinsAtLeast 0 1 = true) :
    e.collapse.holds leaf = e.holds leaf := by
  induction e with
  | and operands ih =>
    obtain ⟨-, hoperands⟩ := joinsAtLeast_and_iff.mp h
    rw [collapse, collapseList_eq_map, Bool.eq_iff_iff, holds_conjunction_iff, holds_and_iff,
      List.forall_mem_map]
    exact forall₂_congr fun e he => by rw [ih e he (hoperands e he)]
  | or operands ih =>
    obtain ⟨hlength, hoperands⟩ := joinsAtLeast_or_iff.mp h
    -- Only the number of operands counts here: none of them is dropped.
    have hsome : operands.map collapse ≠ [] := by
      rw [← List.length_pos_iff, List.length_map]
      exact hlength
    rw [collapse, collapseList_eq_map, Bool.eq_iff_iff, holds_disjunction_iff hsome, holds_or_iff]
    simp only [List.mem_map, exists_exists_and_eq_and]
    exact exists_congr fun e => and_congr_right fun he => by rw [ih e he (hoperands e he)]
  | not e ih => rw [collapse, holds, holds, ih h]
  | _ => rfl

/-- A conjunction is true exactly if all of its operands are, and a disjunction exactly if one of
them is, unless it has none. So a whole formula that is built anew from the leaves up never lacks
operands, and it says what it said before if no disjunction in it was empty. -/
theorem truth_of_joined (leaf : Expression → Bool) :
    (∀ operands, (conjunction operands).holds leaf = true ↔
      ∀ e ∈ operands, e.holds leaf = true) ∧
    (∀ operands, ((disjunction operands).holds leaf = true ↔
      ∃ e ∈ operands, e.holds leaf = true) ↔ operands ≠ []) ∧
    ∀ e : Expression, e.collapse.joinsAtLeast 2 2 = true ∧
      (e.joinsAtLeast 0 1 = true → e.collapse.holds leaf = e.holds leaf) := by
  refine ⟨fun _ => holds_conjunction_iff, ?_, ?_⟩
  · intro operands
    refine ⟨?_, holds_disjunction_iff⟩
    -- Without operands the disjunction is `nil`, and none of them can be what makes it true.
    rintro hexact rfl
    obtain ⟨e, hmem, -⟩ := hexact.mp rfl
    cases hmem
  · intro e
    exact ⟨e.joinsAtLeast_collapse, holds_collapse⟩

/-- Two disjunctions of one operand, one of them under a negation, and a conjunction of none. -/
theorem truth_of_joined_nested :
    let a : Expression := .atom ⟨0, .nil⟩
    let b : Expression := .atom ⟨1, .nil⟩
    let leaf : Expression → Bool := fun
      | .atom p => p.head == 0
      | _ => false
    let e : Expression := and [or [a], not (and [or [b], and []])]
    e.joinsAtLeast 0 1 = true ∧ e.collapse = and [a, not (and [b, nil])] ∧
      e.collapse.holds leaf = e.holds leaf ∧ e.holds leaf = true := by
  intro a b leaf e
  obtain ⟨-, -, hwhole⟩ := truth_of_joined leaf
  have hdisjuncts : e.joinsAtLeast 0 1 = true := rfl
  exact ⟨hdisjuncts, rfl, (hwhole e).2 hdisjuncts, rfl⟩

/-- No operand is true, and still the disjunction is. -/
theorem disjunction_of_none_holds :
    (disjunction []).holds (fun _ => false) = true ∧
      ¬ ∃ e ∈ ([] : List Expression), e.holds (fun _ => false) = true :=
  ⟨rfl, by simp⟩

end Expression

end TaskNetwork
