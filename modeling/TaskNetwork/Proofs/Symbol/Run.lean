import Mathlib.Data.List.Nodup
import TaskNetwork.Proofs.FirstUse
import TaskNetwork.Symbol

/-!
# Runs of a symbol table

A table is what the empty one becomes by any sequence of operations. In every such table the names
and the indices of a category agree: a name is found at the place where it stands. So the names of a
category are distinct, and a name that is shown stands for one index only.
-/

namespace TaskNetwork

/-! ## Arenas -/

namespace Arena

/-- A name has an index exactly if it stands there. -/
def Coherent (a : Arena) : Prop := ∀ name i, a.index? name = some i ↔ a.names[i]? = some name

theorem coherent_empty : Coherent {} := by
  simp [Coherent, index?]

theorem Coherent.nodup {a : Arena} (h : a.Coherent) : a.names.Nodup := by
  rw [List.nodup_iff_getElem?_ne_getElem?]
  intro i j hij hj hsame
  have hname : a.names[j]? = some a.names[j] := List.getElem?_eq_getElem hj
  have hi := (h a.names[j] i).mpr (hsame.trans hname)
  have hj := (h a.names[j] j).mpr hname
  rw [hi] at hj
  have := Option.some.inj hj
  omega

theorem Coherent.index?_eq_none_iff {a : Arena} (h : a.Coherent) {name : String} :
    a.index? name = none ↔ name ∉ a.names := by
  rw [← not_iff_not, not_not, ← ne_eq, Option.ne_none_iff_exists', List.mem_iff_getElem?]
  exact exists_congr fun i => h name i

/-- Interning leaves the arena as it is, or adds a name at the end, with its place as its index. -/
theorem intern_cases (a : Arena) (name : String) :
    (∃ i, a.index? name = some i ∧ a.intern name = (i, a)) ∨
      a.index? name = none ∧ a.intern name =
        (a.names.length, ⟨a.names ++ [name], (name, a.names.length) :: a.indices⟩) := by
  unfold intern
  cases h : a.index? name with
  | some i => exact .inl ⟨i, rfl, rfl⟩
  | none => exact .inr ⟨rfl, rfl⟩

theorem Coherent.names_intern {a : Arena} (h : a.Coherent) (name : String) :
    (a.intern name).2.names = a.names ++ [name].removeAll a.names := by
  obtain ⟨i, hfound, hold⟩ | ⟨hnone, hnew⟩ := a.intern_cases name
  · have hmem : name ∈ a.names := List.mem_of_getElem? ((h name i).mp hfound)
    simp [hold, List.removeAll, hmem]
  · have hfresh := h.index?_eq_none_iff.mp hnone
    simp [hnew, List.removeAll, hfresh]

theorem Coherent.intern {a : Arena} (h : a.Coherent) (name : String) :
    (a.intern name).2.Coherent := by
  obtain ⟨i, -, hold⟩ | ⟨hnone, hnew⟩ := a.intern_cases name
  · rw [hold]
    exact h
  · rw [hnew]
    have hfresh := h.index?_eq_none_iff.mp hnone
    intro other i
    by_cases hother : other = name
    · -- The new name stands at the end and nowhere else.
      subst hother
      have hends : (a.names ++ [other])[i]? = some other ↔ a.names.length = i := by
        grind
      simpa [index?] using hends.symm
    · have hkey : (other == name) = false := by simp [hother]
      have hold := h other i
      rw [index?] at hold ⊢
      simp only [List.lookup_cons, hkey, hold]
      grind

end Arena

namespace SymbolTable

/-- An operation on a table. -/
inductive Operation where
  | intern (c : Category) (name : String)
  | freeze

def apply (t : SymbolTable) : Operation → SymbolTable
  | .intern c name => (t.intern c name).2
  | .freeze => t.freeze

def run (t : SymbolTable) (operations : List Operation) : SymbolTable := operations.foldl apply t

theorem run_append (t : SymbolTable) (before after : List Operation) :
    t.run (before ++ after) = (t.run before).run after := by
  simp [run]

/-- What every operation keeps is kept by a run. -/
theorem run_induction {P : SymbolTable → Prop} (step : ∀ t operation, P t → P (t.apply operation))
    (t : SymbolTable) (operations : List Operation) (h : P t) : P (t.run operations) := by
  induction operations generalizing t with
  | nil => exact h
  | cons operation rest ih => exact ih (t.apply operation) (step t operation h)

/-- An operation interns a name in an arena or leaves it as it is. -/
theorem arena_apply (t : SymbolTable) (operation : Operation) (c : Category) :
    (t.apply operation).arena c = t.arena c ∨
      ∃ name, operation = .intern c name ∧
        (t.apply operation).arena c = ((t.arena c).intern name).2 := by
  cases operation with
  | intern d name =>
    by_cases h : c = d
    · subst h
      exact .inr ⟨name, rfl, t.arena_setArena_self c _⟩
    · exact .inl (t.arena_setArena_of_ne h _)
  | freeze => exact .inl (t.arena_freeze c)

/-- In every category the names and the indices agree. -/
def Coherent (t : SymbolTable) : Prop := ∀ c, (t.arena c).Coherent

theorem coherent_apply (t : SymbolTable) (operation : Operation) (h : t.Coherent) :
    (t.apply operation).Coherent := by
  intro c
  obtain hsame | ⟨name, -, hintern⟩ := t.arena_apply operation c
  · rw [hsame]
    exact h c
  · rw [hintern]
    exact (h c).intern name

theorem coherent_empty : empty.Coherent := by
  intro c
  cases c <;> exact Arena.coherent_empty

theorem coherent_run (operations : List Operation) : (empty.run operations).Coherent :=
  run_induction coherent_apply empty operations coherent_empty

theorem nodup_names_run (operations : List Operation) (c : Category) :
    ((empty.run operations).names c).Nodup :=
  (coherent_run operations c).nodup

theorem resolve_of_lt {t : SymbolTable} {c : Category} {i : Nat} (h : i < (t.names c).length) :
    t.resolve c i = (t.names c)[i] := by
  simp [resolve, name?, h]

/-- Two symbols of a category with the same name are the same. -/
theorem resolve_inj {t : SymbolTable} {c : Category} {i j : Nat} (distinct : (t.names c).Nodup)
    (hi : i < t.size c) (hj : j < t.size c) (h : t.resolve c i = t.resolve c j) : i = j := by
  rw [resolve_of_lt hi, resolve_of_lt hj] at h
  exact distinct.getElem_inj_iff.mp h

end SymbolTable

end TaskNetwork
