import Mathlib.Data.List.Basic
import Mathlib.Data.List.Induction

/-!
# First uses

`xs.eraseDups` has the members of a list in the order of their first use. It is what is left of a
list that notes new members only, and it does not depend on how the members are named.
-/

namespace TaskNetwork

/-- A list that every step extends by what is new to it keeps what it had, and then holds each new
thing at its first use. -/
theorem view_foldl {σ α β : Type} [DecidableEq β] {P : σ → Prop} {step : σ → α → σ}
    (view : σ → List β) {new? : α → Option β} (keep : ∀ s x, P s → P (step s x))
    (grows : ∀ s x, P s → view (step s x) = view s ++ (new? x).toList.removeAll (view s))
    (xs : List α) {s : σ} (hs : P s) :
    view (xs.foldl step s) = view s ++ ((xs.filterMap new?).removeAll (view s)).eraseDups := by
  induction xs generalizing s with
  | nil => simp [List.removeAll]
  | cons x rest ih =>
    have hnew : ((x :: rest).filterMap new?).removeAll (view s) =
        (new? x).toList.removeAll (view s) ++ (rest.filterMap new?).removeAll (view s) := by
      cases h : new? x <;> simp [h, List.removeAll, List.filter_cons]
      split <;> rfl
    rw [List.foldl_cons, ih (keep s x hs), grows s x hs, hnew, List.eraseDups_append,
      ← List.append_assoc]
    cases new? x with
    | none => simp [List.removeAll]
    | some name =>
      by_cases h : name ∈ view s
      · simp [List.removeAll, h]
      · simp [List.removeAll, h, List.eraseDups_cons, List.filter_filter, Bool.and_comm]

/-- Repeats are left out at the same places when items are replaced one for one. -/
theorem eraseDups_map {α β : Type} [BEq α] [LawfulBEq α] [BEq β] [LawfulBEq β] {f : α → β}
    (h : Function.Injective f) (xs : List α) : (xs.map f).eraseDups = xs.eraseDups.map f := by
  induction xs using List.reverseRecOn with
  | nil => rfl
  | append_singleton xs x ih =>
    rw [List.map_append, List.eraseDups_append, List.eraseDups_append, List.map_append, ih]
    congr 1
    have hmem : f x ∈ xs.map f ↔ x ∈ xs := List.mem_map_of_injective h
    by_cases hx : x ∈ xs
    · have hfx := hmem.mpr hx
      simp only [List.map_cons, List.map_nil]
      simp [List.removeAll, hx, -List.mem_map, hfx]
    · have hfx := mt hmem.mp hx
      simp [List.removeAll, hx, -List.mem_map, hfx, List.eraseDups_cons]

/-- Of two members the one that is used earlier comes first. -/
theorem pairwise_idxOf_eraseDups {α : Type} [BEq α] [LawfulBEq α] (xs : List α) :
    xs.eraseDups.Pairwise fun a b => xs.idxOf a < xs.idxOf b := by
  induction xs using List.reverseRecOn with
  | nil => simp
  | append_singleton xs x ih =>
    have hold {a : α} (ha : a ∈ xs.eraseDups) : (xs ++ [x]).idxOf a = xs.idxOf a := by
      rw [List.idxOf_append, if_pos (List.mem_eraseDups.mp ha)]
    have hkept : xs.eraseDups.Pairwise fun a b => (xs ++ [x]).idxOf a < (xs ++ [x]).idxOf b := by
      refine ih.imp_of_mem ?_
      intro a b ha hb hlt
      rwa [hold ha, hold hb]
    rw [List.eraseDups_append]
    by_cases hx : x ∈ xs
    · simpa [List.removeAll, hx] using hkept
    · have hnew : ([x].removeAll xs).eraseDups = [x] := by
        simp [List.removeAll, hx, List.eraseDups_cons]
      rw [hnew]
      refine List.pairwise_append.mpr ⟨hkept, List.pairwise_singleton _ _, ?_⟩
      intro a ha b hb
      rw [List.mem_singleton.mp hb, hold ha, List.idxOf_append, if_neg hx]
      have := List.idxOf_lt_length_of_mem (List.mem_eraseDups.mp ha)
      omega

theorem nodup_eraseDups {α : Type} [BEq α] [LawfulBEq α] (xs : List α) : xs.eraseDups.Nodup := by
  refine (pairwise_idxOf_eraseDups xs).imp ?_
  intro a b hlt heq
  simp [heq] at hlt

end TaskNetwork
