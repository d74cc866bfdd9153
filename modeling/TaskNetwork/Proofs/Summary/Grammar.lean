import Mathlib.Data.Option.Basic
import Mathlib.Tactic.MkIffOfInductiveProp
import TaskNetwork.Proofs.Summary.Fields

/-!
# What can be read

The reader takes a document apart by hand. Here is the grammar of what it accepts, as data: a form
for each kind of node, in which an object has some named fields and perhaps others. A value that
fits the form can be read and no other can, so fields without a name in the grammar do not matter.
-/

namespace TaskNetwork

/-- What a value must look like. -/
inductive Form where
  | any
  | text
  /-- This string. -/
  | word (s : String)
  | listOf (item : Form)
  /-- An object with these fields, and perhaps others. -/
  | record (fields : List (String × Form))
  | either (a b : Form)

namespace Form

mutual

def Fits : Form → Json → Prop
  | any, _ => True
  | text, v => ∃ s, v = .str s
  | word s, v => v = .str s
  | listOf item, v => ∃ items, v = .arr items ∧ ∀ x ∈ items, item.Fits x
  | record fields, v => FitFields fields v
  | either a b, v => a.Fits v ∨ b.Fits v

def FitFields : List (String × Form) → Json → Prop
  | [], _ => True
  | (key, form) :: rest, v => (∃ w, v.get? key = some w ∧ form.Fits w) ∧ FitFields rest v

end

mutual

/-- The values show the same as far as the form has names for it. -/
def Alike : Form → Json → Json → Prop
  | any, _, _ => True
  | text, v, w | word _, v, w => v = w
  | listOf item, v, w =>
    v = w ∨ ∃ items items', v = .arr items ∧ w = .arr items' ∧ List.Forall₂ item.Alike items items'
  | record fields, v, w => AlikeFields fields v w
  | either a b, v, w => a.Alike v w ∧ b.Alike v w

def AlikeFields : List (String × Form) → Json → Json → Prop
  | [], _, _ => True
  | (key, form) :: rest, v, w =>
    Option.Rel form.Alike (v.get? key) (w.get? key) ∧ AlikeFields rest v w

end

/-! ## The grammar -/

def errorNode : Form := record [("type", word "error")]

def reference : Form :=
  record [("type", either (word "predicate") (word "task")), ("name", text), ("parameters", any)]

/-- Of an error node among the tasks nothing else is asked. -/
def taskList : Form := listOf (either errorNode reference)

def operator : Form :=
  record [("name", text), ("parameters", listOf any), ("preconditions", any),
    ("effect", listOf any)]

def methodBranch : Form :=
  record [("name", text), ("preconditions", any), ("tasks", taskList)]

def method : Form :=
  record [("methods", listOf methodBranch), ("name", text), ("parameters", listOf any)]

def axiomRule : Form :=
  record [("branches", listOf (record [("name", text)])), ("name", text),
    ("parameters", listOf any)]

def domain : Form :=
  record [("name", text), ("primitive_tasks", listOf operator), ("compound_tasks", listOf method),
    ("axioms", listOf axiomRule), ("procedures", listOf text)]

def fact : Form := record [("predicate", text), ("parameters", listOf text)]

def problem : Form :=
  record [("name", text), ("goal", record [("tasks", taskList)]), ("init", listOf fact),
    ("additional_constants", listOf text)]

end Form

/-- A document of which the reader asks no more: its sections fit the grammar. -/
@[mk_iff]
structure Json.Readable (doc : Json) : Prop where
  /-- Only an object has fields at all. -/
  hasSection : (doc.get? "domain").isSome ∨ (doc.get? "problem").isSome
  domain : ∀ v, doc.get? "domain" = some v → Form.domain.Fits v
  problem : ∀ v, doc.get? "problem" = some v → Form.problem.Fits v
  requirements : ∀ v, doc.get? "requirements" = some v → (Form.listOf .text).Fits v
  /-- A domain does not come without its requirements. -/
  announced : (doc.get? "domain").isSome → (doc.get? "requirements").isSome

/-! ## Fields -/

section Fields

variable {v : Json} {key : String}

theorem exists_required_iff :
    (∃ w, v.required key = .ok w) ↔ ∃ w, v.get? key = some w ∧ Form.any.Fits w := by
  simp only [Json.required_eq_ok_iff, Form.Fits, and_true]

theorem exists_requiredString_iff :
    (∃ s, v.requiredString key = .ok s) ↔ ∃ w, v.get? key = some w ∧ Form.text.Fits w := by
  simp only [Json.requiredString_eq_ok_iff, Form.Fits]
  grind

theorem exists_requiredArray_iff :
    (∃ items, v.requiredArray key = .ok items) ↔
      ∃ w, v.get? key = some w ∧ (Form.listOf .any).Fits w := by
  simp only [Json.requiredArray_eq_ok_iff, Form.Fits]
  grind

theorem exists_arity_iff :
    (∃ n, v.arity = .ok n) ↔ ∃ w, v.get? "parameters" = some w ∧ (Form.listOf .any).Fits w :=
  (exists_step_iff exists_requiredArray_iff fun _ => exists_pure_iff _).trans (and_iff_left trivial)

theorem exists_field_iff {α : Type} {read : Json → Except DocumentError α} {form : Form}
    (value : ∀ w, (∃ a, read w = .ok a) ↔ form.Fits w) :
    (∃ a, (v.required key >>= read) = .ok a) ↔ ∃ w, v.get? key = some w ∧ form.Fits w := by
  simp only [bind_eq_ok_iff, Json.required_eq_ok_iff, ← value]
  grind

theorem exists_items_iff {α : Type} {read : Json → Except DocumentError α} {form : Form}
    (item : ∀ w, (∃ a, read w = .ok a) ↔ form.Fits w) :
    (∃ values, (v.requiredArray key >>= fun items => items.mapM read) = .ok values) ↔
      ∃ w, v.get? key = some w ∧ (Form.listOf form).Fits w := by
  simp only [bind_eq_ok_iff, Json.requiredArray_eq_ok_iff, Form.Fits, ← item,
    ← exists_mapM_eq_ok_iff]
  grind

theorem exists_stringArray_iff {field : String} :
    (∃ values, Json.stringArray field v = .ok values) ↔ (Form.listOf .text).Fits v := by
  cases v with
  | arr items =>
    simp only [Json.stringArray, exists_mapM_eq_ok_iff, Form.Fits, Json.arr.injEq, exists_eq_left']
    refine forall₂_congr fun item _ => ?_
    cases item <;> simp
  | _ => simp [Json.stringArray, Form.Fits]

end Fields

/-! ## Nodes -/

variable {v : Json}

theorem Json.isErrorNode_iff : v.isErrorNode = true ↔ Form.errorNode.Fits v := by
  cases h : v.get? "type" with
  | none => simp [isErrorNode, Form.errorNode, Form.Fits, Form.FitFields, h]
  | some w => cases w <;> simp [isErrorNode, Form.errorNode, Form.Fits, Form.FitFields, h, str?]

theorem TaskKind.exists_ofNodeType?_iff {tag : String} :
    (∃ kind, ofNodeType? tag = some kind) ↔ tag = "predicate" ∨ tag = "task" := by
  constructor
  · rintro ⟨kind, h⟩
    unfold ofNodeType? at h
    split at h <;> simp_all
  · rintro (rfl | rfl) <;> exact ⟨_, rfl⟩

theorem TaskReference.exists_read_iff : (∃ r, read v = .ok r) ↔ Form.reference.Fits v := by
  have rest (kind : TaskKind) :
      (∃ r, (v.requiredString "name" >>= fun name =>
          v.required "parameters" >>= fun params => pure (mk name kind params)) = .ok r) ↔
        Form.FitFields [("name", .text), ("parameters", .any)] v :=
    exists_step_iff exists_requiredString_iff fun name =>
      exists_step_iff exists_required_iff fun params => exists_pure_iff _
  simp only [read, exists_bind_eq_ok_iff, Json.requiredString_eq_ok_iff]
  constructor
  · rintro ⟨tag, htag, r, h⟩
    split at h
    · cases h
    · rename_i kind hkind
      refine ⟨⟨.str tag, htag, ?_⟩, (rest kind).mp ⟨r, h⟩⟩
      simpa [Form.Fits] using TaskKind.exists_ofNodeType?_iff.mp ⟨kind, hkind⟩
  · rintro ⟨⟨w, hw, hword⟩, hrest⟩
    obtain ⟨tag, rfl, htag⟩ : ∃ tag, w = .str tag ∧ (tag = "predicate" ∨ tag = "task") := by
      rcases hword with rfl | rfl <;> simp
    obtain ⟨kind, hkind⟩ := TaskKind.exists_ofNodeType?_iff.mpr htag
    refine ⟨tag, hw, ?_⟩
    rw [hkind]
    exact (rest kind).mpr hrest

theorem TaskReference.exists_readAll_iff : (∃ rs, readAll v = .ok rs) ↔ Form.taskList.Fits v := by
  cases v with
  | arr items =>
    simp only [readAll, exists_mapM_eq_ok_iff, exists_read_iff, Form.taskList, Form.Fits,
      ← Json.isErrorNode_iff, List.mem_filter, Json.arr.injEq, exists_eq_left']
    refine forall_congr' fun item => ?_
    cases item.isErrorNode <;> simp
  | _ => simp [readAll, Form.taskList, Form.Fits]

theorem OperatorSummary.exists_read_iff : (∃ s, read v = .ok s) ↔ Form.operator.Fits v := by
  refine exists_step_iff exists_requiredString_iff fun name => ?_
  refine exists_step_iff exists_arity_iff fun arity => ?_
  refine exists_step_iff exists_required_iff fun precondition => ?_
  exact exists_step_iff exists_requiredArray_iff fun effects => exists_pure_iff _

theorem BranchSummary.exists_read_iff : (∃ s, read v = .ok s) ↔ Form.methodBranch.Fits v := by
  refine exists_step_iff exists_requiredString_iff fun name => ?_
  refine exists_step_iff exists_required_iff fun precondition => ?_
  exact exists_two_steps_iff (exists_field_iff fun w => TaskReference.exists_readAll_iff)
    fun tasks => exists_pure_iff _

theorem MethodSummary.exists_read_iff : (∃ s, read v = .ok s) ↔ Form.method.Fits v := by
  refine exists_two_steps_iff (exists_items_iff fun w => BranchSummary.exists_read_iff)
    fun branches => ?_
  refine exists_step_iff exists_requiredString_iff fun name => ?_
  exact exists_step_iff exists_arity_iff fun arity => exists_pure_iff _

theorem AxiomSummary.exists_read_iff : (∃ s, read v = .ok s) ↔ Form.axiomRule.Fits v := by
  have label (w : Json) :
      (∃ s, w.requiredString "name" = .ok s) ↔ (Form.record [("name", .text)]).Fits w :=
    exists_requiredString_iff.trans (and_iff_left trivial).symm
  refine exists_two_steps_iff (exists_items_iff label) fun branches => ?_
  refine exists_step_iff exists_requiredString_iff fun name => ?_
  exact exists_step_iff exists_arity_iff fun arity => exists_pure_iff _

theorem DomainSummary.exists_read_iff : (∃ s, read v = .ok s) ↔ Form.domain.Fits v := by
  refine exists_step_iff exists_requiredString_iff fun name => ?_
  refine exists_two_steps_iff (exists_items_iff fun w => OperatorSummary.exists_read_iff)
    fun operators => ?_
  refine exists_two_steps_iff (exists_items_iff fun w => MethodSummary.exists_read_iff)
    fun methods => ?_
  refine exists_two_steps_iff (exists_items_iff fun w => AxiomSummary.exists_read_iff)
    fun axioms => ?_
  exact exists_two_steps_iff (exists_field_iff fun w => exists_stringArray_iff) fun procedures =>
    exists_pure_iff _

theorem FactSummary.exists_read_iff : (∃ s, read v = .ok s) ↔ Form.fact.Fits v := by
  refine exists_step_iff exists_requiredString_iff fun predicate => ?_
  exact exists_two_steps_iff (exists_field_iff fun w => exists_stringArray_iff) fun params =>
    exists_pure_iff _

theorem ProblemSummary.exists_read_iff : (∃ s, read v = .ok s) ↔ Form.problem.Fits v := by
  have tasks (w : Json) :
      (∃ rs, (w.required "tasks" >>= TaskReference.readAll) = .ok rs) ↔
        (Form.record [("tasks", .taskList)]).Fits w :=
    (exists_field_iff fun _ => TaskReference.exists_readAll_iff).trans (and_iff_left trivial).symm
  have goal :
      (∃ rs, (v.required "goal" >>= (·.required "tasks") >>= TaskReference.readAll) = .ok rs) ↔
        ∃ w, v.get? "goal" = some w ∧ (Form.record [("tasks", .taskList)]).Fits w := by
    rw [bind_assoc]
    exact exists_field_iff tasks
  refine exists_step_iff exists_requiredString_iff fun name => ?_
  rw [← bind_assoc]
  refine exists_two_steps_iff goal fun references => ?_
  refine exists_two_steps_iff (exists_items_iff fun w => FactSummary.exists_read_iff)
    fun facts => ?_
  exact exists_two_steps_iff (exists_field_iff fun w => exists_stringArray_iff) fun constants =>
    exists_pure_iff _

/-! ## Sections -/

theorem isSome_of_readSection {α : Type} {name : String} {read : Json → Except DocumentError α}
    {found : Option α} (h : readSection name read v = .ok found) :
    found.isSome = (v.get? name).isSome := by
  rw [readSection] at h
  cases hw : v.get? name with
  | none =>
    rw [hw] at h
    cases h
    rfl
  | some w =>
    rw [hw] at h
    obtain ⟨value, -, rfl⟩ := map_eq_ok_iff.mp h
    rfl

theorem exists_readSection_iff {α : Type} {name : String} {read : Json → Except DocumentError α}
    {form : Form} (value : ∀ w, (∃ a, read w = .ok a) ↔ form.Fits w) :
    (∃ found, readSection name read v = .ok found) ↔ ∀ w, v.get? name = some w → form.Fits w := by
  rw [readSection]
  cases v.get? name with
  | none => simp
  | some w => simp [← value, map_eq_ok_iff]

theorem exists_readRequirements_iff {hasDomain : Bool} :
    (∃ tags, readRequirements hasDomain v = .ok tags) ↔
      (∀ w, v.get? "requirements" = some w → (Form.listOf .text).Fits w) ∧
        (hasDomain = true → (v.get? "requirements").isSome) := by
  rw [readRequirements]
  cases v.get? "requirements" with
  | none => cases hasDomain <;> simp
  | some w => simp [exists_stringArray_iff]

theorem Summary.exists_read_iff_readable {doc : Json} :
    (∃ s, read doc = .ok s) ↔ doc.Readable := by
  cases doc with
  | obj fields =>
    simp only [read_eq_ok_iff]
    constructor
    · rintro ⟨s, hdomain, hproblem, hsection, hrequirements⟩
      rw [isSome_of_readSection hdomain] at hsection hrequirements
      rw [isSome_of_readSection hproblem] at hsection
      obtain ⟨hlist, hannounced⟩ := exists_readRequirements_iff.mp ⟨_, hrequirements⟩
      exact {
        hasSection := hsection
        domain := (exists_readSection_iff fun _ => DomainSummary.exists_read_iff).mp ⟨_, hdomain⟩
        problem := (exists_readSection_iff fun _ => ProblemSummary.exists_read_iff).mp ⟨_, hproblem⟩
        requirements := hlist
        announced := hannounced }
    · intro h
      obtain ⟨domain, hdomain⟩ :=
        (exists_readSection_iff fun _ => DomainSummary.exists_read_iff).mpr h.domain
      obtain ⟨problem, hproblem⟩ :=
        (exists_readSection_iff fun _ => ProblemSummary.exists_read_iff).mpr h.problem
      obtain ⟨tags, htags⟩ := exists_readRequirements_iff.mpr ⟨h.requirements, h.announced⟩
      refine ⟨⟨tags, domain, problem⟩, hdomain, hproblem, ?_, ?_⟩
      · rw [isSome_of_readSection hdomain, isSome_of_readSection hproblem]
        exact h.hasSection
      · rwa [isSome_of_readSection hdomain]
  | _ =>
    constructor
    · rintro ⟨s, h⟩
      cases h
    · rintro ⟨hsection, -⟩
      simp [Json.get?] at hsection

/-! ## Other fields -/

namespace Form

theorem exists_some_iff_of_rel {form : Form} {a b : Option Json}
    (congr : ∀ {v w}, form.Alike v w → (form.Fits v ↔ form.Fits w))
    (h : Option.Rel form.Alike a b) :
    (∃ v, a = some v ∧ form.Fits v) ↔ ∃ w, b = some w ∧ form.Fits w := by
  cases h with
  | none => simp
  | some h => simpa using congr h

mutual

/-- Whether a value fits depends only on what the form has names for. -/
theorem fits_congr : ∀ (form : Form) {v w : Json}, form.Alike v w → (form.Fits v ↔ form.Fits w)
  | any, _, _, _ => Iff.rfl
  | text, _, _, rfl | word _, _, _, rfl => Iff.rfl
  | listOf item, v, w, h => by
    rcases h with rfl | ⟨items, items', rfl, rfl, halike⟩
    · rfl
    · simp only [Fits, Json.arr.injEq, exists_eq_left']
      induction halike with
      | nil => simp
      | cons h _ ih => rw [List.forall_mem_cons, List.forall_mem_cons, fits_congr item h, ih]
  | record fields, _, _, h => fitFields_congr fields h
  | either a b, _, _, h => or_congr (fits_congr a h.1) (fits_congr b h.2)

theorem fitFields_congr : ∀ (fields : List (String × Form)) {v w : Json}, AlikeFields fields v w →
    (FitFields fields v ↔ FitFields fields w)
  | [], _, _, _ => Iff.rfl
  | (_, form) :: rest, _, _, h =>
    and_congr (exists_some_iff_of_rel (fits_congr form) h.1) (fitFields_congr rest h.2)

end

theorem forall_some_iff_of_rel {form : Form} {a b : Option Json} (h : Option.Rel form.Alike a b) :
    (∀ v, a = some v → form.Fits v) ↔ ∀ w, b = some w → form.Fits w := by
  cases h with
  | none => simp
  | some h => simpa using form.fits_congr h

theorem isSome_eq_of_rel {form : Form} {a b : Option Json} (h : Option.Rel form.Alike a b) :
    a.isSome = b.isSome := by
  cases h <;> rfl

/-- The sections of a document. -/
def sections : List (String × Form) :=
  [("domain", domain), ("problem", problem), ("requirements", listOf text)]

end Form

theorem Json.readable_congr {doc other : Json} (h : Form.AlikeFields Form.sections doc other) :
    doc.Readable ↔ other.Readable := by
  obtain ⟨hdomain, hproblem, hrequirements, -⟩ := h
  rw [readable_iff, readable_iff, Form.forall_some_iff_of_rel hdomain,
    Form.forall_some_iff_of_rel hproblem, Form.forall_some_iff_of_rel hrequirements,
    Form.isSome_eq_of_rel hdomain, Form.isSome_eq_of_rel hproblem,
    Form.isSome_eq_of_rel hrequirements]

/-- A document can be read exactly if it fits the grammar, at whatever level it has fields that the
grammar has no name for. -/
theorem Summary.reads_grammar (doc : Json) :
    ((∃ s, read doc = .ok s) ↔ doc.Readable) ∧
      ∀ other, Form.AlikeFields Form.sections doc other →
        ((∃ s, read other = .ok s) ↔ ∃ s, read doc = .ok s) := by
  refine ⟨exists_read_iff_readable, ?_⟩
  intro other h
  rw [exists_read_iff_readable, exists_read_iff_readable, Json.readable_congr h]

/-- A message in an error node, a remark at the goal and another section change nothing. -/
theorem Summary.reads_unnamed_fields :
    let node : Json := .obj [("type", .str "error")]
    let longer : Json := .obj [("message", .str "m"), ("type", .str "error")]
    let doc : Json := .obj [("problem", .obj [("additional_constants", .arr []),
      ("goal", .obj [("tasks", .arr [node])]), ("init", .arr []), ("name", .str "p")])]
    let other : Json := .obj [("date", .null), ("problem", .obj [("additional_constants", .arr []),
      ("goal", .obj [("remark", .str "r"), ("tasks", .arr [longer])]), ("init", .arr []),
      ("name", .str "p")])]
    Form.AlikeFields Form.sections doc other ∧
      (∃ s, read doc = .ok s) ∧ ∃ s, read other = .ok s := by
  intro node longer doc other
  have hnode : (Form.either .errorNode .reference).Alike node longer :=
    ⟨⟨.some rfl, trivial⟩, .some ⟨rfl, rfl⟩, .none, .none, trivial⟩
  have htasks : Form.taskList.Alike (.arr [node]) (.arr [longer]) :=
    .inr ⟨_, _, rfl, rfl, .cons hnode .nil⟩
  have hproblem : Form.AlikeFields Form.sections doc other :=
    ⟨.none, .some ⟨.some rfl, .some ⟨.some htasks, trivial⟩, .some (.inl rfl), .some (.inl rfl),
      trivial⟩, .none, trivial⟩
  have hdoc : ∃ s, read doc = .ok s := ⟨_, rfl⟩
  exact ⟨hproblem, hdoc, ((reads_grammar doc).2 other hproblem).mpr hdoc⟩

end TaskNetwork
