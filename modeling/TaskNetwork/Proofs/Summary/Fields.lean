import Mathlib.Data.List.Forall2
import TaskNetwork.Summary.Reader

/-!
# Reading fields and sections

A reader is a sequence of steps over the fields of a value, so it succeeds exactly if each of them
does. What the steps ask of single fields is said here, and what the reader asks of a document.
-/

namespace TaskNetwork

section Steps

variable {ε α β : Type} {x : Except ε α} {read : α → Except ε β} {items : List α}

theorem bind_eq_ok_iff {b : β} : (x >>= read) = .ok b ↔ ∃ a, x = .ok a ∧ read a = .ok b := by
  cases x <;> simp [bind, Except.bind]

theorem pure_eq_ok_iff {a b : α} : (pure a : Except ε α) = .ok b ↔ a = b := by
  simp [pure, Except.pure]

/-- A list can be read exactly if all of its items can. -/
theorem exists_mapM_eq_ok_iff :
    (∃ values, items.mapM read = .ok values) ↔ ∀ item ∈ items, ∃ value, read item = .ok value := by
  induction items with
  | nil => simp [pure_eq_ok_iff]
  | cons item rest ih =>
    simp only [List.mapM_cons, List.forall_mem_cons, ← ih, bind_eq_ok_iff, pure_eq_ok_iff]
    grind

theorem mapM_eq_ok_iff {values : List β} :
    items.mapM read = .ok values ↔
      List.Forall₂ (fun item value => read item = .ok value) items values := by
  induction items generalizing values with
  | nil => cases values <;> simp [pure_eq_ok_iff]
  | cons item rest ih =>
    simp only [List.mapM_cons, bind_eq_ok_iff, pure_eq_ok_iff, List.forall₂_cons_left_iff, ← ih]
    grind

theorem exists_bind_eq_ok_iff :
    (∃ b, (x >>= read) = .ok b) ↔ ∃ a, x = .ok a ∧ ∃ b, read a = .ok b := by
  simp only [bind_eq_ok_iff]
  grind

/-- Where the rest of a reader asks for the same whatever a step gives, the step and the rest can be
looked at one by one. -/
theorem exists_step_iff {A P : Prop} (step : (∃ a, x = .ok a) ↔ A)
    (rest : ∀ a, (∃ b, read a = .ok b) ↔ P) : (∃ b, (x >>= read) = .ok b) ↔ A ∧ P := by
  simp only [exists_bind_eq_ok_iff, rest, ← step, exists_and_right]

/-- Two steps, of which the second one reads what the first one gives. -/
theorem exists_two_steps_iff {γ : Type} {next : β → Except ε γ} {A P : Prop}
    (steps : (∃ b, (x >>= read) = .ok b) ↔ A) (rest : ∀ b, (∃ c, next b = .ok c) ↔ P) :
    (∃ c, (x >>= fun a => read a >>= next) = .ok c) ↔ A ∧ P := by
  rw [← bind_assoc]
  exact exists_step_iff steps rest

theorem map_eq_ok_iff {f : α → β} {b : β} : x.map f = .ok b ↔ ∃ a, x = .ok a ∧ f a = b := by
  cases x <;> simp [Except.map]

theorem mapError_eq_ok_iff {δ : Type} {f : ε → δ} {a : α} : x.mapError f = .ok a ↔ x = .ok a := by
  cases x <;> simp [Except.mapError]

theorem exists_pure_iff (a : α) : (∃ b, (pure a : Except ε α) = .ok b) ↔ True :=
  iff_true_intro ⟨a, rfl⟩

end Steps

namespace Json

variable {field : String} {v : Json}

theorem required_eq_ok_iff {w : Json} : v.required field = .ok w ↔ v.get? field = some w := by
  rw [required]
  cases v.get? field <;> simp

theorem requiredString_eq_ok_iff {s : String} :
    v.requiredString field = .ok s ↔ v.get? field = some (str s) := by
  simp only [requiredString, bind_eq_ok_iff, required_eq_ok_iff]
  constructor
  · rintro ⟨w, hw, h⟩
    cases w <;> simp_all [pure_eq_ok_iff]
  · intro h
    exact ⟨str s, h, rfl⟩

theorem requiredArray_eq_ok_iff {items : List Json} :
    v.requiredArray field = .ok items ↔ v.get? field = some (arr items) := by
  simp only [requiredArray, bind_eq_ok_iff, required_eq_ok_iff]
  constructor
  · rintro ⟨w, hw, h⟩
    cases w <;> simp_all [pure_eq_ok_iff]
  · intro h
    exact ⟨arr items, h, rfl⟩

end Json

/-- A section is there if it is in the document, and is then what was read of it. -/
theorem readSection_eq_ok_iff {α : Type} {name : String} {read : Json → Except DocumentError α}
    {v : Json} {found : Option α} :
    readSection name read v = .ok found ↔
      (v.get? name = none ∧ found = none) ∨
        ∃ w a, v.get? name = some w ∧ read w = .ok a ∧ found = some a := by
  rw [readSection]
  cases v.get? name with
  | none => simp [eq_comm]
  | some w => simp [map_eq_ok_iff, @eq_comm _ found]

/-- A document is read exactly if its sections are, one of them at least is there, and so are the
requirements of a domain. -/
theorem Summary.read_eq_ok_iff {fields : List (String × Json)} {s : Summary} :
    Summary.read (.obj fields) = .ok s ↔
      readSection "domain" DomainSummary.read (.obj fields) = .ok s.domain ∧
        readSection "problem" ProblemSummary.read (.obj fields) = .ok s.problem ∧
        (s.domain.isSome ∨ s.problem.isSome) ∧
        readRequirements s.domain.isSome (.obj fields) = .ok s.requirements := by
  obtain ⟨requirements, domain, problem⟩ := s
  rw [Summary.read]
  cases hd : readSection "domain" DomainSummary.read (.obj fields) with
  | error e => simp [bind, Except.bind]
  | ok d =>
    cases hp : readSection "problem" ProblemSummary.read (.obj fields) with
    | error e => simp [bind, Except.bind]
    | ok p =>
      cases hr : readRequirements d.isSome (.obj fields) with
      | error e => cases d <;> cases p <;> simp [bind, Except.bind] <;> grind
      | ok r => cases d <;> cases p <;> simp [bind, Except.bind, pure, Except.pure] <;> grind

end TaskNetwork
