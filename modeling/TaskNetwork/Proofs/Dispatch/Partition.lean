import TaskNetwork.Proofs.Dispatch.Buckets

/-!
# Dispatch tables as partitions

A dispatch table puts every construct of a domain into one bucket, that of its head, and keeps the
order of declaration there. Buckets below the number of symbols exist whether they are used or not,
and the others only if they are.
-/

namespace TaskNetwork

namespace Buckets

variable {α : Type}

/-- The items of all buckets. -/
def items (b : Buckets α) : List α := b.dense.flatten ++ b.overflow.flatMap Prod.snd

/-- The buckets hold some items, each in one place: a bucket for every index below a size, and one
that is not empty for some of the others. -/
structure Partitions (b : Buckets α) (size : Nat) (items : List α) : Prop where
  length_dense : b.dense.length = size
  overflow : ∀ bucket ∈ b.overflow, size ≤ bucket.1 ∧ bucket.2 ≠ []
  increasing : Increasing b.overflow
  perm : b.items.Perm items

/-! ## Adding an item -/

theorem perm_flatten_modify {buckets : List (List α)} {index : Nat} (h : index < buckets.length)
    (item : α) : (buckets.modify index (· ++ [item])).flatten.Perm (item :: buckets.flatten) := by
  induction buckets generalizing index with
  | nil => simp at h
  | cons bucket rest ih =>
    cases index with
    | zero => simp
    | succ index =>
      have hrest := ih (Nat.lt_of_succ_lt_succ h)
      simpa using (hrest.append_left bucket).trans List.perm_middle

theorem perm_flatMap_addOverflow (index : Nat) (item : α) (buckets : List (Nat × List α)) :
    ((addOverflow index item buckets).flatMap Prod.snd).Perm
      (item :: buckets.flatMap Prod.snd) := by
  induction buckets with
  | nil => simp [addOverflow]
  | cons first rest ih =>
    obtain ⟨i, bucket⟩ := first
    unfold addOverflow
    split
    · simp
    · split
      · simp
      · simpa using (ih.append_left bucket).trans List.perm_middle

/-- What is true of a new bucket and kept by one that grows is true of all buckets. -/
theorem forall_mem_addOverflow {P : Nat × List α → Prop} {index : Nat} {item : α}
    (new : P (index, [item])) (grow : ∀ bucket, P (index, bucket) → P (index, bucket ++ [item]))
    {buckets : List (Nat × List α)} (h : ∀ b ∈ buckets, P b) :
    ∀ b ∈ addOverflow index item buckets, P b := by
  induction buckets with
  | nil => simpa [addOverflow] using new
  | cons first rest ih =>
    obtain ⟨i, bucket⟩ := first
    obtain ⟨hfirst, hrest⟩ := List.forall_mem_cons.mp h
    unfold addOverflow
    split
    · exact List.forall_mem_cons.mpr ⟨new, h⟩
    · split
      · rename_i heq
        subst heq
        exact List.forall_mem_cons.mpr ⟨grow bucket hfirst, hrest⟩
      · exact List.forall_mem_cons.mpr ⟨hfirst, ih hrest⟩

theorem perm_items_add (b : Buckets α) (index : Nat) (item : α) :
    (b.add index item).items.Perm (item :: b.items) := by
  unfold add
  split
  · rename_i hlt
    exact (perm_flatten_modify hlt item).append_right _
  · exact ((perm_flatMap_addOverflow index item b.overflow).append_left _).trans List.perm_middle

theorem Partitions.add {b : Buckets α} {size : Nat} {items : List α} (h : b.Partitions size items)
    (index : Nat) (item : α) : (b.add index item).Partitions size (items ++ [item]) where
  length_dense := by
    unfold Buckets.add
    split <;> simp [h.length_dense]
  overflow := by
    unfold Buckets.add
    split
    · exact h.overflow
    · rename_i hge
      rw [h.length_dense] at hge
      exact forall_mem_addOverflow ⟨by omega, by simp⟩ (fun _ hb => ⟨hb.1, by simp⟩) h.overflow
  increasing := increasing_add h.increasing index item
  perm := calc
    (b.add index item).items.Perm (item :: b.items) := b.perm_items_add index item
    _ |>.Perm (item :: items) := h.perm.cons item
    _ |>.Perm (items ++ [item]) := (List.perm_append_singleton item items).symm

theorem partitions_foldl_add (key : α → Nat) (new : List α) {b : Buckets α} {size : Nat}
    {items : List α} (h : b.Partitions size items) :
    (new.foldl (fun b item => b.add (key item) item) b).Partitions size (items ++ new) := by
  induction new generalizing b items with
  | nil => simpa using h
  | cons item rest ih => simpa using ih (h.add (key item) item)

theorem partitions_build (size : Nat) (key : α → Nat) (items : List α) :
    (build size key items).Partitions size items := by
  have start : Partitions { dense := List.replicate size ([] : List α) } size [] :=
    ⟨by simp, by simp, .nil, by simp [Buckets.items]⟩
  exact partitions_foldl_add key items start

/-! ## Finding a bucket -/

theorem lookup_of_mem {buckets : List (Nat × List α)} (h : Increasing buckets)
    {bucket : Nat × List α} (hmem : bucket ∈ buckets) :
    buckets.lookup bucket.1 = some bucket.2 := by
  obtain ⟨front, back, rfl⟩ := List.append_of_mem hmem
  refine List.lookup_eq_some_iff.mpr ⟨front, back, rfl, ?_⟩
  intro b hb
  have hlt : b.1 < bucket.1 := (List.pairwise_append.mp h).2.2 b hb bucket List.mem_cons_self
  simp
  omega

theorem Partitions.get_of_mem_overflow {b : Buckets α} {size : Nat} {items : List α}
    (h : b.Partitions size items) {bucket : Nat × List α} (hmem : bucket ∈ b.overflow) :
    b.get bucket.1 = bucket.2 := by
  have hnone : b.dense[bucket.1]? = none := by
    rw [List.getElem?_eq_none_iff, h.length_dense]
    exact (h.overflow bucket hmem).1
  simp [get, hnone, lookup_of_mem h.increasing hmem]

/-- The buckets hold some items, each in the bucket of its key and in the order of the items. -/
structure Sorts (b : Buckets α) (size : Nat) (key : α → Nat) (items : List α) : Prop
    extends b.Partitions size items where
  dense_eq : ∀ i bucket, b.dense[i]? = some bucket → bucket = items.filter (key · == i)
  overflow_eq : ∀ bucket ∈ b.overflow, bucket.2 = items.filter (key · == bucket.1)

theorem sorts_build (size : Nat) (key : α → Nat) (items : List α) :
    (build size key items).Sorts size key items where
  toPartitions := partitions_build size key items
  dense_eq := by
    intro i bucket h
    rw [← get_build size, get, h]
  overflow_eq := by
    intro bucket hmem
    rw [← get_build size, (partitions_build size key items).get_of_mem_overflow hmem]

end Buckets

namespace DispatchTable

/-- The table gives for every index the constructs whose head it is, in the order of declaration,
and every construct of the domain stands in one place of the table, in the bucket of its head. -/
theorem partition_ofDomain (domain : Domain) :
    let table := ofDomain domain
    (∀ i, table.operatorsFor i = domain.operators.filter (·.head.head == i)) ∧
      (∀ i, table.methodsFor i = domain.methods.filter (·.head.head == i)) ∧
      (∀ i, table.axiomsFor i = domain.axioms.filter (·.head.head == i)) ∧
      table.operators.Sorts (domain.symbols.size .primitiveTask) (·.head.head) domain.operators ∧
      table.methods.Sorts (domain.symbols.size .compoundTask) (·.head.head) domain.methods ∧
      table.axioms.Sorts (domain.symbols.size .constant) (·.head.head) domain.axioms := by
  refine ⟨?_, ?_, ?_, ?_, ?_, ?_⟩
  · exact operatorsFor_ofDomain domain
  · exact methodsFor_ofDomain domain
  · exact axiomsFor_ofDomain domain
  · exact Buckets.sorts_build _ _ _
  · exact Buckets.sorts_build _ _ _
  · exact Buckets.sorts_build _ _ _

end DispatchTable

end TaskNetwork
