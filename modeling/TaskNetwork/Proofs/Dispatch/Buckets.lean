import TaskNetwork.Dispatch

/-!
# What buckets hold

An index is asked for the items that were added under it, in the order in which they were added.
Below the bound this is so by the place of a bucket; above it, because the buckets are in order.
-/

namespace TaskNetwork

namespace Buckets

variable {α : Type}

/-! ## Buckets above the bound -/

/-- Every index has one bucket at most, and larger indices come later. -/
def Increasing (buckets : List (Nat × List α)) : Prop :=
  buckets.Pairwise fun a b => a.1 < b.1

theorem lookup_eq_none_of_lt {index : Nat} {buckets : List (Nat × List α)}
    (h : ∀ b ∈ buckets, index < b.1) : buckets.lookup index = none := by
  rw [List.lookup_eq_none_iff]
  intro b hb
  have := h b hb
  grind

theorem mem_addOverflow {index : Nat} {item : α} {buckets : List (Nat × List α)}
    {b : Nat × List α} (h : b ∈ addOverflow index item buckets) :
    b.1 = index ∨ ∃ old ∈ buckets, b.1 = old.1 := by
  induction buckets with
  | nil => simp_all [addOverflow]
  | cons first rest ih =>
    obtain ⟨i, bucket⟩ := first
    unfold addOverflow at h
    grind

theorem increasing_addOverflow (index : Nat) (item : α) {buckets : List (Nat × List α)}
    (h : Increasing buckets) : Increasing (addOverflow index item buckets) := by
  induction buckets with
  | nil => simp [addOverflow, Increasing]
  | cons first rest ih =>
    obtain ⟨i, bucket⟩ := first
    obtain ⟨hfirst, hrest⟩ := List.pairwise_cons.mp h
    unfold addOverflow
    split
    · rename_i hlt
      refine List.pairwise_cons.mpr ⟨?_, h⟩
      intro b hb
      rcases List.mem_cons.mp hb with rfl | hb
      · exact hlt
      · exact Nat.lt_trans hlt (hfirst b hb)
    · split
      · exact List.pairwise_cons.mpr ⟨hfirst, hrest⟩
      · refine List.pairwise_cons.mpr ⟨?_, ih hrest⟩
        intro b hb
        rcases mem_addOverflow hb with hb | ⟨old, hold, hb⟩
        · omega
        · rw [hb]
          exact hfirst old hold

theorem lookup_cons (i k : Nat) (bucket : List α) (rest : List (Nat × List α)) :
    ((k, bucket) :: rest).lookup i = if i = k then some bucket else rest.lookup i := by
  by_cases h : i = k
  · simp [h]
  · have hne : (i == k) = false := by simp [h]
    simp [List.lookup_cons, h, hne]

theorem lookup_addOverflow (index : Nat) (item : α) {buckets : List (Nat × List α)}
    (h : Increasing buckets) (i : Nat) :
    ((addOverflow index item buckets).lookup i).getD [] =
      (buckets.lookup i).getD [] ++ if i = index then [item] else [] := by
  induction buckets with
  | nil => by_cases hi : i = index <;> simp [addOverflow, lookup_cons, hi]
  | cons first rest ih =>
    obtain ⟨k, bucket⟩ := first
    obtain ⟨hfirst, hrest⟩ := List.pairwise_cons.mp h
    unfold addOverflow
    split
    · rename_i hlt
      by_cases hi : i = index
      · -- No bucket of a greater index holds anything for this one.
        have hnone : ((k, bucket) :: rest).lookup index = none := by
          refine lookup_eq_none_of_lt ?_
          intro b hb
          rcases List.mem_cons.mp hb with rfl | hb
          · exact hlt
          · exact Nat.lt_trans hlt (hfirst b hb)
        simp [hi, hnone]
      · simp [lookup_cons i index, hi]
    · split
      · rename_i heq
        by_cases hi : i = k <;> simp [lookup_cons, heq, hi]
      · rename_i hne
        by_cases hi : i = k
        · simp [hi, Ne.symm hne]
        · simp [lookup_cons, hi, ih hrest]

/-! ## All buckets -/

/-- An item goes to the end of the bucket of its index, and to no other. -/
theorem get_add {b : Buckets α} (h : Increasing b.overflow) (index : Nat) (item : α) (i : Nat) :
    (b.add index item).get i = b.get i ++ if i = index then [item] else [] := by
  unfold add
  split
  · rename_i hlt
    by_cases hi : i < b.dense.length
    · by_cases heq : i = index <;> simp [get, hi, heq, hlt, Ne.symm]
    · have hne : i ≠ index := by omega
      simp [get, hi, hne]
  · rename_i hge
    by_cases hi : i < b.dense.length
    · have hne : i ≠ index := by omega
      simp [get, hi, hne]
    · simp [get, hi, lookup_addOverflow index item h]

theorem increasing_add {b : Buckets α} (h : Increasing b.overflow) (index : Nat) (item : α) :
    Increasing (b.add index item).overflow := by
  unfold add
  split
  · exact h
  · exact increasing_addOverflow index item h

theorem get_foldl_add (key : α → Nat) (items : List α) {b : Buckets α}
    (h : Increasing b.overflow) (i : Nat) :
    (items.foldl (fun b item => b.add (key item) item) b).get i =
      b.get i ++ items.filter (key · == i) := by
  induction items generalizing b with
  | nil => simp
  | cons item rest ih =>
    rw [List.foldl_cons, ih (increasing_add h (key item) item), get_add h]
    by_cases hi : key item = i
    · simp [hi]
    · simp [hi, Ne.symm hi]

/-- An index gets the items of its key, in their order, wherever it lies. -/
theorem get_build (size : Nat) (key : α → Nat) (items : List α) (i : Nat) :
    (build size key items).get i = items.filter (key · == i) := by
  let start : Buckets α := { dense := List.replicate size [] }
  have hopen : Increasing start.overflow := List.Pairwise.nil
  have hempty : start.get i = [] := by
    by_cases hi : i < size <;> simp [start, get, hi]
  change (items.foldl (fun b item => b.add (key item) item) start).get i = _
  rw [get_foldl_add key items hopen, hempty, List.nil_append]

end Buckets

namespace DispatchTable

theorem operatorsFor_ofDomain (domain : Domain) (task : Nat) :
    (ofDomain domain).operatorsFor task = domain.operators.filter (·.head.head == task) :=
  Buckets.get_build _ _ _ _

theorem methodsFor_ofDomain (domain : Domain) (task : Nat) :
    (ofDomain domain).methodsFor task = domain.methods.filter (·.head.head == task) :=
  Buckets.get_build _ _ _ _

theorem axiomsFor_ofDomain (domain : Domain) (predicate : Nat) :
    (ofDomain domain).axiomsFor predicate = domain.axioms.filter (·.head.head == predicate) :=
  Buckets.get_build _ _ _ _

end DispatchTable

end TaskNetwork
