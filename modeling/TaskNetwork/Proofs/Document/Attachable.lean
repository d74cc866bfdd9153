import TaskNetwork.Proofs.Document.Attaching
import TaskNetwork.Proofs.Summary.Fields

/-!
# When a problem can be attached

Of any two values it is said here whether the problem of the second one goes into the first one, and
what comes of it. The question of a problem that is there already comes last, so a conflict is met
only where all else is in order. A problem that is attached leaves no trace of the ones before it.
-/

namespace TaskNetwork

/-! ## Conflicts -/

/-- The computation does not fail because of a section that is there already. -/
def NeverConflicts {α : Type} (x : Except DocumentError α) : Prop :=
  ∀ name, x ≠ .error (.conflictingSection name)

namespace NeverConflicts

variable {α β : Type} {x : Except DocumentError α} {read : α → Except DocumentError β}

theorem ok (a : α) : NeverConflicts (.ok a) := fun name h => by cases h

theorem missing (field : String) : NeverConflicts (.error (.missingField field) : Except _ α) :=
  fun name h => by cases h

theorem invalid (shape : ShapeError) : NeverConflicts (.error (.invalid shape) : Except _ α) :=
  fun name h => by cases h

theorem bind (hx : NeverConflicts x) (hread : ∀ a, NeverConflicts (read a)) :
    NeverConflicts (x >>= read) := by
  cases x with
  | error e =>
    intro name h
    exact hx name (congrArg Except.error (Except.error.inj h))
  | ok a => exact hread a

theorem mapM (h : ∀ item, NeverConflicts (read item)) (items : List α) :
    NeverConflicts (items.mapM read) := by
  induction items with
  | nil => exact ok []
  | cons item rest ih =>
    rw [List.mapM_cons]
    exact (h item).bind fun value => ih.bind fun values => ok (value :: values)

theorem required (field : String) (v : Json) : NeverConflicts (v.required field) := by
  rw [Json.required]
  split
  · exact ok _
  · exact missing field

theorem requiredString (field : String) (v : Json) : NeverConflicts (v.requiredString field) := by
  refine (required field v).bind fun w => ?_
  split
  · exact ok _
  · exact invalid _

theorem requiredArray (field : String) (v : Json) : NeverConflicts (v.requiredArray field) := by
  refine (required field v).bind fun w => ?_
  split
  · exact ok _
  · exact invalid _

theorem stringArray (field : String) (v : Json) : NeverConflicts (Json.stringArray field v) := by
  cases v with
  | arr items =>
    refine mapM (fun item => ?_) items
    split
    · exact ok _
    · exact invalid _
  | _ => exact invalid (.notArray field)

theorem readTask (v : Json) : NeverConflicts (TaskReference.read v) := by
  refine (requiredString "type" v).bind fun tag => ?_
  split
  · exact invalid _
  · refine (requiredString "name" v).bind fun name => ?_
    exact (required "parameters" v).bind fun _ => ok _

theorem readTasks (v : Json) : NeverConflicts (TaskReference.readAll v) := by
  cases v with
  | arr items => exact mapM readTask _
  | _ => exact invalid (.notArray "tasks")

theorem readFact (v : Json) : NeverConflicts (FactSummary.read v) := by
  refine (requiredString "predicate" v).bind fun predicate => ?_
  refine (required "parameters" v).bind fun w => ?_
  exact (stringArray "parameters" w).bind fun _ => ok _

theorem readProblem (v : Json) : NeverConflicts (ProblemSummary.read v) := by
  refine (requiredString "name" v).bind fun name => ?_
  refine (required "goal" v).bind fun goal => (required "tasks" goal).bind fun tasks => ?_
  refine (readTasks tasks).bind fun references => ?_
  refine (requiredArray "init" v).bind fun init => (mapM readFact init).bind fun facts => ?_
  refine (required "additional_constants" v).bind fun w => ?_
  exact (stringArray "additional_constants" w).bind fun _ => ok _

end NeverConflicts

/-! ## What is asked of the documents -/

/-- The computation succeeds, unless it fails because of a conflict. -/
def ConflictsAtMost {α : Type} (x : Except DocumentError α) : Prop :=
  ∀ e, x = .error e → ∃ name, e = .conflictingSection name

/-- A first step that never conflicts has succeeded then. -/
theorem NeverConflicts.exists_ok {α β : Type} {x : Except DocumentError α}
    {read : α → Except DocumentError β} (hx : NeverConflicts x)
    (h : ConflictsAtMost (x >>= read)) : ∃ a, x = .ok a ∧ ConflictsAtMost (read a) := by
  cases x with
  | error e =>
    obtain ⟨name, rfl⟩ := h e rfl
    exact absurd rfl (hx name)
  | ok a => exact ⟨a, rfl, h⟩

/-- A document of a domain, and another one with a problem that can be read and no domain. -/
structure Attachable (domainDoc problemDoc : Json) : Prop where
  isObject : ∃ fields, domainDoc = .obj fields
  hasDomain : (domainDoc.get? "domain").isSome
  hasRequirements : (domainDoc.get? "requirements").isSome
  noDomain : problemDoc.get? "domain" = none
  readable : ∃ problem summary, problemDoc.get? "problem" = some problem ∧
    ProblemSummary.read problem = .ok summary

/-- Whatever else is wrong with the documents comes before a conflict. -/
theorem attachable_of_conflictsAtMost {domainDoc problemDoc : Json} {replace : Bool}
    (h : ConflictsAtMost (attachSection domainDoc problemDoc replace)) :
    Attachable domainDoc problemDoc := by
  cases domainDoc with
  | obj fields =>
    obtain ⟨domain, hdomain, h⟩ := (NeverConflicts.required _ _).exists_ok h
    obtain ⟨requirements, hrequirements, h⟩ := (NeverConflicts.required _ _).exists_ok h
    rw [Json.required_eq_ok_iff] at hdomain hrequirements
    split at h
    · obtain ⟨name, h⟩ := h _ rfl
      cases h
    · rename_i hnone
      obtain ⟨problem, hproblem, h⟩ := (NeverConflicts.required _ _).exists_ok h
      obtain ⟨summary, hread, -⟩ := (NeverConflicts.readProblem problem).exists_ok h
      rw [Json.required_eq_ok_iff] at hproblem
      exact {
        isObject := ⟨fields, rfl⟩
        hasDomain := by rw [hdomain]; rfl
        hasRequirements := by rw [hrequirements]; rfl
        noDomain := by simpa using hnone
        readable := ⟨problem, summary, hproblem, hread⟩ }
  | _ =>
    obtain ⟨name, h⟩ := h _ rfl
    cases h

/-- Such documents are merged unless there is a problem that may not be replaced. -/
theorem Attachable.attachSection_eq {domainDoc problemDoc : Json}
    (h : Attachable domainDoc problemDoc) :
    ∃ fields problem, domainDoc = .obj fields ∧ problemDoc.get? "problem" = some problem ∧
      ∀ replace, attachSection domainDoc problemDoc replace =
        if (domainDoc.get? "problem").isSome && !replace then .error (.conflictingSection "problem")
        else .ok (.obj (Json.insert "problem" problem fields)) := by
  obtain ⟨fields, rfl⟩ := h.isObject
  obtain ⟨problem, summary, hproblem, hread⟩ := h.readable
  exact ⟨fields, problem, rfl, hproblem, TaskNetwork.attachSection_eq h.hasDomain h.hasRequirements
    h.noDomain hproblem hread⟩

theorem attachSection_eq_ok_iff {domainDoc problemDoc merged : Json} {replace : Bool} :
    attachSection domainDoc problemDoc replace = .ok merged ↔
      Attachable domainDoc problemDoc ∧ (domainDoc.get? "problem" = none ∨ replace = true) ∧
        ∃ fields problem, domainDoc = .obj fields ∧ problemDoc.get? "problem" = some problem ∧
          merged = .obj (Json.insert "problem" problem fields) := by
  constructor
  · intro h
    have hconflicts : ConflictsAtMost (attachSection domainDoc problemDoc replace) := by
      rw [h]
      exact fun e he => by cases he
    have hattachable := attachable_of_conflictsAtMost hconflicts
    obtain ⟨fields, problem, hfields, hproblem, heq⟩ := hattachable.attachSection_eq
    rw [heq] at h
    split at h
    · cases h
    · rename_i hfree
      refine ⟨hattachable, ?_, fields, problem, hfields, hproblem, (Except.ok.inj h).symm⟩
      cases hold : domainDoc.get? "problem" <;> cases replace <;> simp_all
  · rintro ⟨hattachable, hfree, fields, problem, rfl, hproblem, rfl⟩
    obtain ⟨fields', problem', hfields, hproblem', heq⟩ := hattachable.attachSection_eq
    cases hfields
    cases hproblem.symm.trans hproblem'
    rw [heq, if_neg]
    grind

theorem attachSection_eq_conflict_iff {domainDoc problemDoc : Json} {replace : Bool}
    {name : String} :
    attachSection domainDoc problemDoc replace = .error (.conflictingSection name) ↔
      Attachable domainDoc problemDoc ∧ (domainDoc.get? "problem").isSome ∧ replace = false ∧
        name = "problem" := by
  constructor
  · intro h
    have hconflicts : ConflictsAtMost (attachSection domainDoc problemDoc replace) := by
      rw [h]
      exact fun e he => ⟨name, (Except.error.inj he).symm⟩
    have hattachable := attachable_of_conflictsAtMost hconflicts
    obtain ⟨fields, problem, -, -, heq⟩ := hattachable.attachSection_eq
    rw [heq] at h
    split at h
    · grind
    · cases h
  · rintro ⟨hattachable, hsome, rfl, rfl⟩
    obtain ⟨fields, problem, -, -, heq⟩ := hattachable.attachSection_eq
    rw [heq, hsome]
    rfl

/-! ## One problem after another -/

/-- A problem that may be replaced does not matter. -/
theorem attachSection_insert_problem (fields : List (String × Json)) (old problemDoc : Json) :
    attachSection (.obj (Json.insert "problem" old fields)) problemDoc true =
      attachSection (.obj fields) problemDoc true := by
  have hold {key : String} (hkey : key ≠ "problem") :=
    Json.lookup_insert_of_ne hkey old fields
  simp only [attachSection, Json.required, Json.get?_obj, hold (by decide : "domain" ≠ "problem"),
    hold (by decide : "requirements" ≠ "problem"), Json.insert_insert, Bool.not_true,
    Bool.and_false]

theorem attachSection_of_eq_ok {domainDoc problemDoc merged : Json} {replace : Bool}
    (h : attachSection domainDoc problemDoc replace = .ok merged) (last : Json) :
    attachSection merged last true = attachSection domainDoc last true := by
  obtain ⟨-, -, fields, problem, rfl, -, rfl⟩ := attachSection_eq_ok_iff.mp h
  exact attachSection_insert_problem fields problem last

/-- Of several problems that replace one another only the last one counts. -/
theorem attachSection_of_foldlM {domainDoc reached : Json} {problemDocs : List Json}
    (h : problemDocs.foldlM (attachSection · · true) domainDoc = .ok reached) (last : Json) :
    attachSection reached last true = attachSection domainDoc last true := by
  induction problemDocs generalizing domainDoc with
  | nil =>
    cases h
    rfl
  | cons problemDoc rest ih =>
    rw [List.foldlM_cons, bind_eq_ok_iff] at h
    obtain ⟨next, hnext, hrest⟩ := h
    rw [ih hrest, attachSection_of_eq_ok hnext]

/-- Exactly which documents are merged and to what: of the domain document only the problem is
another one, so a second time nothing changes, and of several problems the last one is left. A
conflict is reported exactly if it is all that is wrong. -/
theorem attachSection_contract (domainDoc problemDoc : Json) (replace : Bool) :
    ((∃ merged, attachSection domainDoc problemDoc replace = .ok merged) ↔
        Attachable domainDoc problemDoc ∧
          (domainDoc.get? "problem" = none ∨ replace = true)) ∧
      (∀ merged, attachSection domainDoc problemDoc replace = .ok merged →
        (∃ fields problem, domainDoc = .obj fields ∧ problemDoc.get? "problem" = some problem ∧
          merged = .obj (Json.insert "problem" problem fields)) ∧
        merged.get? "problem" = problemDoc.get? "problem" ∧
        (∀ key, key ≠ "problem" → merged.get? key = domainDoc.get? key) ∧
        attachSection merged problemDoc true = .ok merged) ∧
      (∀ (problemDocs : List Json) (reached last : Json),
        problemDocs.foldlM (attachSection · · true) domainDoc = .ok reached →
          attachSection reached last true = attachSection domainDoc last true) ∧
      ∀ name, attachSection domainDoc problemDoc replace = .error (.conflictingSection name) ↔
        Attachable domainDoc problemDoc ∧ (domainDoc.get? "problem").isSome ∧ replace = false ∧
          name = "problem" := by
  refine ⟨?_, ?_, ?_, ?_⟩
  · constructor
    · rintro ⟨merged, h⟩
      obtain ⟨hattachable, hfree, -⟩ := attachSection_eq_ok_iff.mp h
      exact ⟨hattachable, hfree⟩
    · rintro ⟨hattachable, hfree⟩
      obtain ⟨fields, problem, hfields, hproblem, -⟩ := hattachable.attachSection_eq
      exact ⟨_, attachSection_eq_ok_iff.mpr
        ⟨hattachable, hfree, fields, problem, hfields, hproblem, rfl⟩⟩
  · intro merged h
    obtain ⟨hattachable, hfree, fields, problem, rfl, hproblem, rfl⟩ := attachSection_eq_ok_iff.mp h
    refine ⟨⟨fields, problem, rfl, hproblem, rfl⟩, ?_, ?_, ?_⟩
    · rw [hproblem]
      exact Json.lookup_insert_self "problem" problem fields
    · intro key hkey
      exact Json.lookup_insert_of_ne hkey problem fields
    · rw [attachSection_of_eq_ok h]
      exact attachSection_eq_ok_iff.mpr
        ⟨hattachable, .inr rfl, fields, problem, rfl, hproblem, rfl⟩
  · intro problemDocs reached last h
    exact attachSection_of_foldlM h last
  · intro name
    exact attachSection_eq_conflict_iff

/-- Of two problems that go into the document of a domain one after the other the second one stays,
and a field that the reader does not know stays with it. -/
theorem attachSection_twice :
    let problem (name : String) : Json := .obj [("additional_constants", .arr []),
      ("goal", .obj [("tasks", .arr [])]), ("init", .arr []), ("name", .str name)]
    let doc (name : String) : Json := .obj [("problem", problem name)]
    let domainDoc : Json := .obj [("domain", .null), ("requirements", .arr []), ("x", .bool true)]
    ∃ reached merged, [doc "first"].foldlM (attachSection · · true) domainDoc = .ok reached ∧
      attachSection reached (doc "second") false = .error (.conflictingSection "problem") ∧
      attachSection reached (doc "second") true = .ok merged ∧
      merged.get? "problem" = some (problem "second") ∧ merged.get? "x" = some (.bool true) := by
  intro problem doc domainDoc
  obtain ⟨hiff, hmerged, hlast, -⟩ := attachSection_contract domainDoc (doc "second") true
  have hattachable : Attachable domainDoc (doc "second") :=
    ⟨⟨_, rfl⟩, rfl, rfl, rfl, _, _, rfl, rfl⟩
  obtain ⟨merged, h⟩ := hiff.mpr ⟨hattachable, .inr rfl⟩
  obtain ⟨-, hproblem, hother, -⟩ := hmerged merged h
  refine ⟨_, merged, rfl, rfl, ?_, hproblem, hother "x" (by decide)⟩
  rw [hlast [doc "first"] _ (doc "second") rfl, h]

end TaskNetwork
