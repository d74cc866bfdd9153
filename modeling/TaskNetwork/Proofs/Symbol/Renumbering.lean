import Mathlib.Data.List.FinRange
import Mathlib.Logic.Equiv.Basic
import TaskNetwork.Encoder
import TaskNetwork.Proofs.Symbol.Run

/-!
# Renumbering symbols

The names of a table can be put into another order within each category. Every index then has
another one in its place, and an encoder that reads the new table at the new index writes what the
old one wrote at the old index.
-/

namespace TaskNetwork

/-- The arena that has these names in this order. -/
def Arena.ofNames (names : List String) : Arena := { names, indices := names.zipIdx }

theorem Arena.coherent_ofNames {names : List String} (distinct : names.Nodup) :
    (ofNames names).Coherent := by
  have hstands {name : String} {i : Nat} (h : (ofNames names).index? name = some i) :
      names[i]? = some name := by
    obtain ⟨front, back, hsplit, -⟩ := List.lookup_eq_some_iff.mp h
    have hmem : (name, i) ∈ names.zipIdx := by
      rw [← show (ofNames names).indices = names.zipIdx from rfl, hsplit]
      simp
    exact List.mem_zipIdx_iff_getElem?.mp hmem
  intro name i
  constructor
  · exact hstands
  · intro hname
    have hmem : (name, i) ∈ names.zipIdx := List.mem_zipIdx_iff_getElem?.mpr hname
    cases hfound : (ofNames names).index? name with
    | none =>
      have habsent := List.lookup_eq_none_iff.mp hfound (name, i) hmem
      simp at habsent
    | some j =>
      -- A name that stands at two places would be repeated.
      obtain ⟨hi, hi'⟩ := List.getElem?_eq_some_iff.mp hname
      obtain ⟨hj, hj'⟩ := List.getElem?_eq_some_iff.mp (hstands hfound)
      rw [distinct.getElem_inj_iff.mp (hj'.trans hi'.symm)]

namespace SymbolTable

/-- Another order of the names of each category: where each of them goes. -/
def Renumbering (t : SymbolTable) : Type := (c : Category) → Equiv.Perm (Fin (t.size c))

namespace Renumbering

variable {t : SymbolTable} (ρ : t.Renumbering)

/-- The new index for an old one; an index that the table does not have stays as it is. -/
def index (c : Category) (i : Nat) : Nat := if h : i < t.size c then ρ c ⟨i, h⟩ else i

/-- The names of a category in the new order. -/
def names (c : Category) : List String := List.ofFn fun j => (t.names c).get ((ρ c).symm j)

/-- The table in the new order. -/
def table : SymbolTable where
  constants := .ofNames (ρ.names .constant)
  primitiveTasks := .ofNames (ρ.names .primitiveTask)
  compoundTasks := .ofNames (ρ.names .compoundTask)
  vars := .ofNames (ρ.names .var)
  frozenAt := t.frozenAt

theorem names_table (c : Category) : ρ.table.names c = ρ.names c := by
  cases c <;> rfl

/-- Every category of the new table has the names that it had in the old one. -/
theorem perm_names (c : Category) : (ρ.table.names c).Perm (t.names c) := by
  rw [names_table]
  have hperm := Equiv.Perm.ofFn_comp_perm (ρ c).symm (t.names c).get
  exact hperm.trans (.of_eq (List.ofFn_get (t.names c)))

/-- The new table finds its names where they now stand. -/
theorem coherent_table (h : t.Coherent) : ρ.table.Coherent := by
  intro c
  have harena : ρ.table.arena c = .ofNames (ρ.names c) := by
    cases c <;> rfl
  have distinct : (ρ.table.names c).Nodup := (ρ.perm_names c).nodup_iff.mpr (h c).nodup
  rw [names_table] at distinct
  rw [harena]
  exact Arena.coherent_ofNames distinct

theorem index_of_lt {c : Category} {i : Nat} (h : i < t.size c) : ρ.index c i = ρ c ⟨i, h⟩ :=
  dif_pos h

theorem index_of_not_lt {c : Category} {i : Nat} (h : ¬ i < t.size c) : ρ.index c i = i := dif_neg h

theorem index_lt_iff (c : Category) (i : Nat) : ρ.index c i < t.size c ↔ i < t.size c := by
  by_cases h : i < t.size c
  · simp [ρ.index_of_lt h, h]
  · simp [ρ.index_of_not_lt h]

theorem index_injective (c : Category) : Function.Injective (ρ.index c) := by
  intro i j h
  have hiff : i < t.size c ↔ j < t.size c := by
    rw [← ρ.index_lt_iff c i, h, ρ.index_lt_iff c j]
  by_cases hi : i < t.size c
  · have hj := hiff.mp hi
    rw [ρ.index_of_lt hi, ρ.index_of_lt hj] at h
    have hfin := (ρ c).injective (Fin.ext h)
    exact congrArg Fin.val hfin
  · have hj : ¬ j < t.size c := fun hj => hi (hiff.mpr hj)
    rwa [ρ.index_of_not_lt hi, ρ.index_of_not_lt hj] at h

/-- The new table has at the new index the name that the old one has at the old index. -/
theorem name?_index (c : Category) (i : Nat) : ρ.table.name? c (ρ.index c i) = t.name? c i := by
  rw [name?, name?, names_table]
  by_cases h : i < t.size c
  · have hi : i < (t.names c).length := h
    simp [ρ.index_of_lt h, names, hi]
    rfl
  · have hi : (t.names c).length ≤ i := Nat.not_lt.mp h
    have hlength : (ρ.names c).length ≤ i := by simpa [names] using h
    simp [ρ.index_of_not_lt h, hi, hlength]

theorem resolve_index (c : Category) (i : Nat) :
    ρ.table.resolve c (ρ.index c i) = t.resolve c i := by
  rw [resolve, name?_index, resolve]
  by_cases h : i < t.size c
  · have hi : t.name? c i = some (t.names c)[i] := List.getElem?_eq_getElem h
    rw [hi, Option.getD_some, Option.getD_some]
  · rw [ρ.index_of_not_lt h]

end Renumbering

end SymbolTable

/-! ## Encoders -/

/-- The second encoder writes of a new index what the first one writes of the old one. -/
structure Encoder.Renumbered (index : Category → Nat → Nat) (enc enc' : Encoder) : Prop where
  injective : ∀ c, Function.Injective (index c)
  resolve : ∀ c i, enc'.symbols.resolve c (index c i) = enc.symbols.resolve c i
  options : enc'.options = enc.options

namespace Encoder.Renumbered

variable {index : Category → Nat → Nat} {enc enc' : Encoder} (h : enc.Renumbered index enc')

include h

theorem allows (depth : Nat) : enc'.allows depth = enc.allows depth := by
  rw [Encoder.allows, Encoder.allows, h.options]

theorem tooDeep : enc'.tooDeep = enc.tooDeep := by
  rw [Encoder.tooDeep, Encoder.tooDeep, h.options]

theorem symbolName (c : Category) (i : Nat) :
    enc'.symbolName c (index c i) = enc.symbolName c i := by
  simp only [Encoder.symbolName, h.resolve, h.options]

theorem variableName (i : Nat) : enc'.variableName (index .var i) = enc.variableName i := by
  simp only [Encoder.variableName, h.resolve]

theorem variableNodes (indices : List Nat) :
    enc'.variableNodes (indices.map (index .var)) = enc.variableNodes indices := by
  simp [Encoder.variableNodes, Function.comp_def, h.variableName]

end Encoder.Renumbered

end TaskNetwork
