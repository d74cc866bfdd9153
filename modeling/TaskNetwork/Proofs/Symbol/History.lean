import TaskNetwork.Proofs.Symbol.Run

/-!
# The history of a symbol table

What a run leaves in a table is told by the run itself. The names of a category are those that were
interned in it, by first use; a symbol keeps its name whatever follows; the constants of the domain
are those that were there when the table was frozen for the first time.
-/

namespace TaskNetwork

namespace SymbolTable

namespace Operation

/-- The name that an operation interns in a category. -/
def interned? (c : Category) : Operation → Option String
  | intern d name => if d = c then some name else none
  | freeze => none

def isFreeze : Operation → Bool
  | intern _ _ => false
  | freeze => true

end Operation

/-- The names interned in a category, in order and with repeats. -/
def interned (operations : List Operation) (c : Category) : List String :=
  operations.filterMap (Operation.interned? c)

/-! ## Names -/

/-- An operation leaves all names in their places and adds at most one at the end. -/
theorem names_apply {t : SymbolTable} (h : t.Coherent) (operation : Operation) (c : Category) :
    (t.apply operation).names c =
      t.names c ++ (operation.interned? c).toList.removeAll (t.names c) := by
  cases operation with
  | freeze => simp [apply, Operation.interned?, List.removeAll]
  | intern d name =>
    by_cases hcd : d = c
    · subst hcd
      have hnames := (h d).names_intern name
      simpa [apply, intern, names, Operation.interned?] using hnames
    · have hother := t.arena_setArena_of_ne (Ne.symm hcd) ((t.arena d).intern name).2
      simp [apply, intern, names, hother, Operation.interned?, hcd, List.removeAll]

/-- A table keeps its names, and after them come the others that are interned, each at its first
use. -/
theorem names_run_of_coherent {t : SymbolTable} (h : t.Coherent) (operations : List Operation)
    (c : Category) :
    (t.run operations).names c =
      t.names c ++ ((interned operations c).removeAll (t.names c)).eraseDups :=
  view_foldl (fun t => t.names c) coherent_apply
    (fun _ operation h => names_apply h operation c) operations h

/-- The names of a category are those interned in it, each at its first use; what happens to other
categories has no part in it. -/
theorem names_run (operations : List Operation) (c : Category) :
    (empty.run operations).names c = (interned operations c).eraseDups := by
  have hempty : empty.names c = [] := by cases c <;> rfl
  rw [names_run_of_coherent coherent_empty, hempty]
  simp [List.removeAll]

theorem names_prefix_apply (t : SymbolTable) (operation : Operation) (c : Category) :
    t.names c <+: (t.apply operation).names c := by
  rw [names, names]
  obtain hsame | ⟨name, -, hintern⟩ := t.arena_apply operation c
  · simp [hsame]
  · obtain ⟨i, -, hold⟩ | ⟨-, hnew⟩ := (t.arena c).intern_cases name
    · simp [hintern, hold]
    · simp [hintern, hnew]

theorem names_prefix_run (t : SymbolTable) (operations : List Operation) (c : Category) :
    t.names c <+: (t.run operations).names c := by
  refine run_induction (P := fun t' => t.names c <+: t'.names c) ?_ t operations List.prefix_rfl
  intro t' operation h
  exact h.trans (t'.names_prefix_apply operation c)

theorem size_le_size_run (t : SymbolTable) (operations : List Operation) (c : Category) :
    t.size c ≤ (t.run operations).size c :=
  (t.names_prefix_run operations c).length_le

/-! ## Indices -/

/-- A symbol keeps its name. -/
theorem name?_run {t : SymbolTable} {c : Category} {i : Nat} {name : String}
    (h : t.name? c i = some name) (later : List Operation) :
    (t.run later).name? c i = some name := by
  rw [name?, List.getElem?_eq_some_iff] at h ⊢
  obtain ⟨hi, hname⟩ := h
  have hgrow := t.names_prefix_run later c
  exact ⟨Nat.lt_of_lt_of_le hi hgrow.length_le, (hgrow.getElem hi).symm.trans hname⟩

theorem name?_intern {t : SymbolTable} (h : t.Coherent) (c : Category) (name : String) :
    (t.intern c name).2.name? c (t.intern c name).1 = some name := by
  rw [intern, name?, names, arena_setArena_self]
  obtain ⟨i, hfound, hold⟩ | ⟨-, hnew⟩ := (t.arena c).intern_cases name
  · rw [hold]
    exact (h c name i).mp hfound
  · simp [hnew]

theorem intern_of_name? {t : SymbolTable} (h : t.Coherent) {c : Category} {i : Nat} {name : String}
    (hname : t.name? c i = some name) : t.intern c name = (i, t) := by
  have hfound : (t.arena c).index? name = some i := (h c name i).mpr hname
  simp [intern, Arena.intern, hfound]

/-! ## Freezing -/

theorem frozenAt_intern (t : SymbolTable) (c : Category) (name : String) :
    (t.intern c name).2.frozenAt = t.frozenAt := by
  simp [intern]

theorem freeze_of_some {t : SymbolTable} {n : Nat} (h : t.frozenAt = some n) : t.freeze = t := by
  simp [freeze, h]

theorem frozenAt_run_of_some {t : SymbolTable} {n : Nat} (h : t.frozenAt = some n)
    (operations : List Operation) : (t.run operations).frozenAt = some n := by
  refine run_induction (P := fun t => t.frozenAt = some n) ?_ t operations h
  intro t' operation h'
  cases operation with
  | intern c name => rw [apply, frozenAt_intern, h']
  | freeze => rw [apply, freeze_of_some h', h']

/-- In a table that is open the constants of the domain are all those it has, up to the freezing. -/
theorem domainConstants_run_of_none {t : SymbolTable} (h : t.frozenAt = none)
    (operations : List Operation) :
    (t.run operations).domainConstants =
      (t.run (operations.takeWhile (!·.isFreeze))).size .constant := by
  induction operations generalizing t with
  | nil => simp [run, domainConstants, h, size, names]
  | cons operation rest ih =>
    cases operation with
    | intern c name => exact ih ((t.frozenAt_intern c name).trans h)
    | freeze =>
      have hfrozen : t.freeze.frozenAt = some (t.size .constant) := by
        simp [freeze, h, size, names]
      have hrun := frozenAt_run_of_some hfrozen rest
      change (t.freeze.run rest).domainConstants = t.size .constant
      rw [domainConstants, hrun, Option.getD_some]

/-- The constants of the domain are those interned before the first freezing, or all of them if the
table was never frozen. -/
theorem domainConstants_run (operations : List Operation) :
    (empty.run operations).domainConstants =
      (empty.run (operations.takeWhile (!·.isFreeze))).size .constant :=
  domainConstants_run_of_none rfl operations

theorem domainConstants_le_size (operations : List Operation) :
    (empty.run operations).domainConstants ≤ (empty.run operations).size .constant := by
  rw [domainConstants_run]
  conv_rhs => rw [← List.takeWhile_append_dropWhile (p := fun op : Operation => !op.isFreeze)
    (l := operations), run_append]
  exact size_le_size_run _ _ _

theorem getElem?_problemConstants (t : SymbolTable) (k : Nat) :
    t.problemConstants[k]? =
      (t.name? .constant (t.domainConstants + k)).map fun name => (t.domainConstants + k, name) := by
  simp [problemConstants, name?, names, List.getElem?_zipIdx, Option.map_map, Function.comp_def]

theorem map_snd_problemConstants (t : SymbolTable) :
    t.problemConstants.map Prod.snd = (t.names .constant).drop t.domainConstants := by
  simp [problemConstants, Function.comp_def]

/-- What a table holds after any operations. -/
theorem run_spec (operations : List Operation) :
    let t := empty.run operations
    (∀ c, t.names c = (interned operations c).eraseDups) ∧
      (∀ c name i, t.index? c name = some i ↔ t.name? c i = some name) ∧
      (∀ c name later,
        let i := (t.intern c name).1
        let t' := (t.intern c name).2.run later
        t'.resolve c i = name ∧ t'.intern c name = (i, t')) ∧
      t.domainConstants = (empty.run (operations.takeWhile (!·.isFreeze))).size .constant ∧
      t.domainConstants ≤ t.size .constant ∧
      ∀ k, t.problemConstants[k]? =
        (t.name? .constant (t.domainConstants + k)).map fun name =>
          (t.domainConstants + k, name) := by
  intro t
  refine ⟨names_run operations, ?_, ?_, domainConstants_run operations,
    domainConstants_le_size operations, t.getElem?_problemConstants⟩
  · intro c name i
    exact coherent_run operations c name i
  · intro c name later i t'
    have hname : t'.name? c i = some name :=
      name?_run (name?_intern (coherent_run operations) c name) later
    have hrun : t' = empty.run (operations ++ .intern c name :: later) := by
      rw [run_append]
      rfl
    refine ⟨by simp [resolve, hname], intern_of_name? ?_ hname⟩
    rw [hrun]
    exact coherent_run _

end SymbolTable

end TaskNetwork
