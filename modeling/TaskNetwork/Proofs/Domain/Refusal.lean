import Mathlib.Data.List.Nodup
import TaskNetwork.Domain.Basic

/-!
# Refused constructs

A builder refuses a method or an axiom for the labels of its branches: there are none, or one of
them repeats one before it. The refusal names the first label that does.
-/

namespace TaskNetwork

/-- The label found is the first one that repeats one before it. -/
theorem firstRepeat?_eq_some_iff {before labels : List String} {label : String} :
    firstRepeat? before labels = some label ↔
      ∃ front back, labels = front ++ label :: back ∧ front.Nodup ∧ (∀ x ∈ front, x ∉ before) ∧
        (label ∈ before ∨ label ∈ front) := by
  induction labels generalizing before with
  | nil => simp [firstRepeat?]
  | cons first rest ih =>
    by_cases hfirst : first ∈ before
    · have hfound : firstRepeat? before (first :: rest) = some first := by
        simp [firstRepeat?, hfirst]
      rw [hfound]
      constructor
      · rintro ⟨⟩
        exact ⟨[], rest, rfl, List.nodup_nil, by simp, .inl hfirst⟩
      · rintro ⟨front, back, hsplit, -, hfresh, -⟩
        cases front with
        | nil =>
          obtain ⟨rfl, -⟩ := List.cons.inj hsplit
          rfl
        | cons x front =>
          obtain ⟨rfl, -⟩ := List.cons.inj hsplit
          exact absurd hfirst (hfresh first List.mem_cons_self)
    · have hnext : firstRepeat? before (first :: rest) = firstRepeat? (first :: before) rest := by
        simp [firstRepeat?, hfirst]
      rw [hnext, ih]
      constructor
      · rintro ⟨front, back, rfl, distinct, hfresh, hlabel⟩
        refine ⟨first :: front, back, rfl, ?_, ?_, ?_⟩
        · exact List.nodup_cons.mpr ⟨fun h => hfresh first h List.mem_cons_self, distinct⟩
        · grind
        · grind
      · rintro ⟨front, back, hsplit, distinct, hfresh, hlabel⟩
        cases front with
        | nil =>
          obtain ⟨rfl, -⟩ := List.cons.inj hsplit
          simp [hfirst] at hlabel
        | cons x front =>
          obtain ⟨rfl, rfl⟩ := List.cons.inj hsplit
          obtain ⟨hx, distinct⟩ := List.nodup_cons.mp distinct
          exact ⟨front, back, rfl, distinct, by grind, by grind⟩

/-- No label is found exactly if they are distinct. -/
theorem firstRepeat?_eq_none_iff {before labels : List String} :
    firstRepeat? before labels = none ↔ labels.Nodup ∧ ∀ x ∈ labels, x ∉ before := by
  induction labels generalizing before with
  | nil => simp [firstRepeat?]
  | cons first rest ih =>
    by_cases hfirst : first ∈ before
    · simp [firstRepeat?, hfirst]
    · have hnext : firstRepeat? before (first :: rest) = firstRepeat? (first :: before) rest := by
        simp [firstRepeat?, hfirst]
      rw [hnext, ih, List.nodup_cons]
      grind

/-- What is wrong with a construct whose branches have these labels: there are none, or a label
repeats one before it and no earlier one does. -/
inductive Refused (empty : BuildError) (construct name : String) : List String → BuildError → Prop
  | empty : Refused empty construct name [] empty
  | repeated {front back : List String} {label : String} (distinct : front.Nodup)
      (repeats : label ∈ front) :
      Refused empty construct name (front ++ label :: back) (.duplicateLabel construct name label)

/-- The reason to refuse a construct, from the labels of its branches. -/
def refusal? (empty : BuildError) (construct name : String) (labels : List String) :
    Option BuildError :=
  if labels.isEmpty then some empty
  else (firstRepeat? [] labels).map (.duplicateLabel construct name)

section

variable {empty : BuildError} {construct name : String} {labels : List String}

theorem refusal?_eq_some_iff {e : BuildError} :
    refusal? empty construct name labels = some e ↔ Refused empty construct name labels e := by
  constructor
  · intro h
    rw [refusal?] at h
    split at h
    · rename_i hempty
      obtain rfl := List.isEmpty_iff.mp hempty
      cases h
      exact .empty
    · obtain ⟨label, hlabel, rfl⟩ := Option.map_eq_some_iff.mp h
      obtain ⟨front, back, rfl, distinct, -, hmem⟩ := firstRepeat?_eq_some_iff.mp hlabel
      exact .repeated distinct (by simpa using hmem)
  · rintro (_ | ⟨distinct, repeats⟩)
    · rfl
    · rename_i front back label
      have hfound : firstRepeat? [] (front ++ label :: back) = some label :=
        firstRepeat?_eq_some_iff.mpr ⟨front, back, rfl, distinct, by simp, .inr repeats⟩
      simp [refusal?, hfound]

theorem refusal?_eq_none_iff :
    refusal? empty construct name labels = none ↔ labels ≠ [] ∧ labels.Nodup := by
  cases labels with
  | nil => simp [refusal?]
  | cons first rest => simp [refusal?, firstRepeat?_eq_none_iff]

/-- A construct is refused exactly if it has no branches or two of the same label. -/
theorem exists_refused_iff :
    (∃ e, Refused empty construct name labels e) ↔ labels = [] ∨ ¬ labels.Nodup := by
  simp only [← refusal?_eq_some_iff]
  rw [← Option.ne_none_iff_exists', ne_eq, refusal?_eq_none_iff]
  tauto

end

namespace DomainBuilder

theorem addMethod_eq (b : DomainBuilder) (head : Predicate) (branches : List MethodBranch) :
    b.addMethod head branches =
      let task := b.domain.symbols.resolve .compoundTask head.head
      match refusal? (.emptyMethod task) "method" task (branches.map MethodBranch.label) with
      | some e => .error e
      | none =>
        let id := b.domain.methods.length
        .ok (id, ⟨{ b.domain with methods := b.domain.methods ++ [⟨id, head, branches⟩] }⟩) := by
  cases branches with
  | nil => rfl
  | cons first rest =>
    simp only [addMethod, refusal?, List.isEmpty_cons, List.map_cons, Bool.false_eq_true, if_false]
    cases firstRepeat? [] (first.label :: rest.map MethodBranch.label) <;> rfl

theorem addAxiom_eq (b : DomainBuilder) (head : Predicate) (branches : List AxiomBranch) :
    b.addAxiom head branches =
      let predicate := b.domain.symbols.resolve .constant head.head
      match refusal? (.emptyAxiom predicate) "axiom" predicate (branches.map AxiomBranch.label) with
      | some e => .error e
      | none =>
        let id := b.domain.axioms.length
        .ok (id, ⟨{ b.domain with axioms := b.domain.axioms ++ [⟨id, head, branches⟩] }⟩) := by
  cases branches with
  | nil => rfl
  | cons first rest =>
    simp only [addAxiom, refusal?, List.isEmpty_cons, List.map_cons, Bool.false_eq_true, if_false]
    cases firstRepeat? [] (first.label :: rest.map AxiomBranch.label) <;> rfl

end DomainBuilder

end TaskNetwork
