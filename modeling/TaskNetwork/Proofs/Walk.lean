import Mathlib.Logic.Function.Iterate
import TaskNetwork.Walk

/-!
# Walks to their end

Every walk comes to an end, and what all of its steps keep is the same there as at the start.
-/

namespace TaskNetwork

namespace Visitor

variable {ν α : Type} (v : Visitor ν α)

/-- After some number of steps nothing is left to visit. -/
theorem exists_iterate_step (w : Walk ν α) : ∃ n, v.step^[n] w = ⟨[], v.drain w⟩ := by
  fun_induction v.drain w with
  | case1 found => exact ⟨0, rfl⟩
  | case2 node rest found ih =>
    obtain ⟨n, hn⟩ := ih
    exact ⟨n + 1, hn⟩

variable {v}

theorem apply_iterate_step {β : Sort*} {f : Walk ν α → β} (step : ∀ w, f (v.step w) = f w)
    (w : Walk ν α) (n : Nat) : f (v.step^[n] w) = f w := by
  induction n with
  | zero => rfl
  | succ n ih => rw [Function.iterate_succ_apply', step, ih]

/-- What a step does not change is the same at the end of a walk as at its start. -/
theorem apply_drain {β : Sort*} {f : Walk ν α → β} (step : ∀ w, f (v.step w) = f w)
    (w : Walk ν α) : f ⟨[], v.drain w⟩ = f w := by
  obtain ⟨n, hn⟩ := v.exists_iterate_step w
  rw [← hn, apply_iterate_step step]

end Visitor

end TaskNetwork
