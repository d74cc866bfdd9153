import TaskNetwork.Proofs.Document.Validity
import TaskNetwork.Proofs.Summary.Grammar

/-!
# Reading valid documents

The reader and the format are two accounts of what a document is. Every section that satisfies its
definition in the format fits the grammar of the reader, node by node from tasks up to sections.
Whole documents differ in one point: a domain beside a problem is valid without requirements, which
the reader insists on.
-/

namespace TaskNetwork

namespace DocumentFormat

open Schema

variable {v : Json} {fields optional : List (String × Schema)} {s : Schema} {form : Form}

/-! ## Fields -/

/-- A record has all of its fields that are not optional. -/
theorem exists_get?_of_recordWith (h : Valid v (recordWith fields optional)) (key : String)
    (field : fields.lookup key = some s) : ∃ w, v.get? key = some w ∧ Valid w s := by
  obtain ⟨members, rfl, present, -, hfields⟩ := valid_recordWith.mp h
  have mem : (key, s) ∈ fields := by
    obtain ⟨front, back, rfl, -⟩ := List.lookup_eq_some_iff.mp field
    simp
  have hkey : key ∈ members.map Prod.fst := present key (List.mem_map_of_mem mem)
  obtain ⟨w, hw⟩ := Option.isSome_iff_exists.mp ((Json.mem_keys_iff (.obj members) key).mp hkey)
  exact ⟨w, hw, hfields (key, s) (List.mem_append_left _ mem) w hw⟩

/-- A field fits if all that is valid there does. -/
theorem fits_field (h : Valid v (recordWith fields optional)) (key : String)
    (field : fields.lookup key = some s) (fits : ∀ {w}, Valid w s → form.Fits w) :
    ∃ w, v.get? key = some w ∧ form.Fits w := by
  obtain ⟨w, hw, hvalid⟩ := exists_get?_of_recordWith h key field
  exact ⟨w, hw, fits hvalid⟩

theorem valid_record_iff {fields : List (String × Schema)} :
    Valid v (record fields) ↔ Valid v (recordWith fields []) := by
  rw [record_eq_recordWith]

theorem fits_any (_ : Valid v s) : Form.any.Fits v := trivial

theorem fits_text (h : Valid v text) : Form.text.Fits v := valid_text.mp h

theorem fits_arrayOf (h : Valid v (arrayOf s)) (fits : ∀ {w}, Valid w s → form.Fits w) :
    (Form.listOf form).Fits v := by
  obtain ⟨items, rfl, hitems⟩ := valid_arrayOf.mp h
  exact ⟨items, rfl, fun item hitem => fits (hitems item hitem)⟩

theorem fits_nonemptyArrayOf (h : Valid v (nonemptyArrayOf s))
    (fits : ∀ {w}, Valid w s → form.Fits w) : (Form.listOf form).Fits v := by
  obtain ⟨items, rfl, -, hitems⟩ := valid_nonemptyArrayOf.mp h
  exact ⟨items, rfl, fun item hitem => fits (hitems item hitem)⟩

theorem fits_texts (h : Valid v (arrayOf text)) : (Form.listOf .text).Fits v :=
  fits_arrayOf h fits_text

theorem fits_parameters (h : Valid v (ref "parameters")) : (Form.listOf .any).Fits v :=
  fits_arrayOf ((valid_ref rfl).mp h) fits_any

/-! ## Tasks -/

theorem fits_errorNode (h : Valid v (ref "error")) : Form.errorNode.Fits v := by
  have hrecord := valid_record_iff.mp ((valid_ref rfl).mp h)
  exact ⟨fits_field hrecord "type" rfl valid_const.mp, trivial⟩

theorem fits_kind (h : Valid v (among ["predicate", "task"])) :
    (Form.either (.word "predicate") (.word "task")).Fits v := by
  obtain ⟨tag, htag, rfl⟩ := valid_among.mp h
  simpa [Form.Fits] using htag

/-- A task is an error node, which the reader leaves out, or a reference. -/
theorem fits_task (h : Valid v (ref "task")) : (Form.either .errorNode .reference).Fits v := by
  obtain ⟨s, hs, hvalid⟩ := valid_anyOf.mp ((valid_ref rfl).mp h)
  obtain rfl | rfl := by simpa using hs
  · have hrecord := valid_record_iff.mp hvalid
    exact .inr ⟨fits_field hrecord "type" rfl fits_kind, fits_field hrecord "name" rfl fits_text,
      fits_field hrecord "parameters" rfl fits_any, trivial⟩
  · exact .inl (fits_errorNode hvalid)

theorem fits_tasks (h : Valid v (ref "tasks")) : Form.taskList.Fits v :=
  fits_arrayOf ((valid_ref rfl).mp h) fits_task

/-! ## Constructs -/

theorem fits_operator (h : Valid v (ref "operator")) : Form.operator.Fits v := by
  have hrecord : Valid v operator := (valid_ref rfl).mp h
  refine ⟨fits_field hrecord "name" rfl fits_text,
    fits_field hrecord "parameters" rfl fits_parameters,
    fits_field hrecord "preconditions" rfl fits_any, ?_, trivial⟩
  exact fits_field hrecord "effect" rfl fun heffects => fits_arrayOf heffects fits_any

theorem fits_methodBranch
    (h : Valid v (record [("name", text), ("preconditions", ref "precondition"),
      ("tasks", ref "tasks")])) : Form.methodBranch.Fits v := by
  have hrecord := valid_record_iff.mp h
  exact ⟨fits_field hrecord "name" rfl fits_text, fits_field hrecord "preconditions" rfl fits_any,
    fits_field hrecord "tasks" rfl fits_tasks, trivial⟩

theorem fits_method (h : Valid v (ref "method")) : Form.method.Fits v := by
  have hrecord := valid_record_iff.mp ((valid_ref rfl).mp h)
  refine ⟨?_, fits_field hrecord "name" rfl fits_text,
    fits_field hrecord "parameters" rfl fits_parameters, trivial⟩
  exact fits_field hrecord "methods" rfl fun hbranches =>
    fits_nonemptyArrayOf hbranches fits_methodBranch

theorem fits_axiomRule (h : Valid v (ref "axiom_rule")) : Form.axiomRule.Fits v := by
  have hrecord := valid_record_iff.mp ((valid_ref rfl).mp h)
  refine ⟨?_, fits_field hrecord "name" rfl fits_text,
    fits_field hrecord "parameters" rfl fits_parameters, trivial⟩
  refine fits_field hrecord "branches" rfl fun hbranches =>
    fits_nonemptyArrayOf hbranches fun hbranch => ?_
  exact ⟨fits_field (valid_record_iff.mp hbranch) "name" rfl fits_text, trivial⟩

/-! ## Sections -/

theorem fits_domain (h : Valid v (ref "domain")) : Form.domain.Fits v := by
  have hrecord := valid_record_iff.mp ((valid_ref rfl).mp h)
  refine ⟨fits_field hrecord "name" rfl fits_text, ?_, ?_, ?_,
    fits_field hrecord "procedures" rfl fits_texts, trivial⟩
  · exact fits_field hrecord "primitive_tasks" rfl fun hops => fits_arrayOf hops fits_operator
  · exact fits_field hrecord "compound_tasks" rfl fun hmethods => fits_arrayOf hmethods fits_method
  · exact fits_field hrecord "axioms" rfl fun hrules => fits_arrayOf hrules fits_axiomRule

theorem fits_fact (h : Valid v (record [("predicate", text), ("parameters", arrayOf text)])) :
    Form.fact.Fits v := by
  have hrecord := valid_record_iff.mp h
  exact ⟨fits_field hrecord "predicate" rfl fits_text,
    fits_field hrecord "parameters" rfl fits_texts, trivial⟩

theorem fits_problem (h : Valid v (ref "problem")) : Form.problem.Fits v := by
  have hrecord := valid_record_iff.mp ((valid_ref rfl).mp h)
  refine ⟨fits_field hrecord "name" rfl fits_text, ?_, ?_,
    fits_field hrecord "additional_constants" rfl fits_texts, trivial⟩
  · refine fits_field hrecord "goal" rfl fun hgoal => ?_
    exact ⟨fits_field (valid_record_iff.mp hgoal) "tasks" rfl fits_tasks, trivial⟩
  · exact fits_field hrecord "init" rfl fun hfacts => fits_arrayOf hfacts fits_fact

theorem exists_read_problem (h : Valid v (ref "problem")) :
    ∃ summary, ProblemSummary.read v = .ok summary :=
  ProblemSummary.exists_read_iff.mpr (fits_problem h)

theorem fits_requirements
    (h : Valid v (all [type [.array], assert .uniqueItems, items (ref "requirement")])) :
    (Form.listOf .text).Fits v := by
  simp only [valid_all, List.forall_mem_cons, valid_array] at h
  obtain ⟨⟨values, rfl⟩, -, hitems, -⟩ := h
  refine ⟨values, rfl, fun item hitem => ?_⟩
  have hrequirement : Valid item requirement :=
    (valid_ref rfl).mp (valid_items.mp hitems item hitem)
  obtain ⟨tag, -, htag⟩ := valid_among.mp hrequirement
  exact ⟨tag, htag⟩

/-! ## Documents -/

/-- What the format asks of the fields of a document. -/
structure ValidSections (fields : List (String × Json)) : Prop where
  declared : ∀ key, (fields.lookup key).isSome → key ∈ ["requirements", "domain", "problem"]
  complete : (fields.lookup "requirements").isSome ∧ (fields.lookup "domain").isSome ∨
    (fields.lookup "problem").isSome
  requirements : ∀ w, fields.lookup "requirements" = some w →
    Valid w (all [type [.array], assert .uniqueItems, items (ref "requirement")])
  domain : ∀ w, fields.lookup "domain" = some w → Valid w (ref "domain")
  problem : ∀ w, fields.lookup "problem" = some w → Valid w (ref "problem")

/-- A document is valid exactly if its sections are. -/
theorem validates_iff_sections {v : Json} :
    documentFormat.Validates v ↔ ∃ fields, v = .obj fields ∧ ValidSections fields := by
  have hobject : Valid v (type [.object]) ↔ ∃ fields, v = .obj fields := by
    cases v <;> simp [type, valid_assert, Assertion.holds, Json.hasKind]
  rw [SchemaDocument.validates_iff, ← valid_root, root, valid_all]
  simp only [List.forall_mem_cons, hobject, valid_closed, valid_anyOf]
  constructor
  · rintro ⟨⟨fields, rfl⟩, hdeclared, ⟨s, hs, hcomplete⟩, hsections, -⟩
    simp only [valid_properties, List.forall_mem_cons] at hsections
    obtain ⟨hrequirements, hdomain, hproblem, -⟩ := hsections
    refine ⟨fields, rfl, hdeclared, ?_, hrequirements, hdomain, hproblem⟩
    obtain rfl | rfl : s = required ["requirements", "domain"] ∨ s = required ["problem"] := by
      simpa using hs
    · have hboth := valid_required_obj.mp hcomplete
      exact .inl ⟨hboth "requirements" (by simp), hboth "domain" (by simp)⟩
    · exact .inr (valid_required_obj.mp hcomplete "problem" (by simp))
  · rintro ⟨fields, rfl, h⟩
    refine ⟨⟨fields, rfl⟩, h.declared, ?_, ?_, by simp⟩
    · rcases h.complete with ⟨hrequirements, hdomain⟩ | hproblem
      · refine ⟨required ["requirements", "domain"], by simp, valid_required_obj.mpr ?_⟩
        simpa only [List.forall_mem_cons] using ⟨hrequirements, hdomain, by simp⟩
      · refine ⟨required ["problem"], by simp, valid_required_obj.mpr ?_⟩
        simpa only [List.forall_mem_cons] using ⟨hproblem, by simp⟩
    · simp only [valid_properties, List.forall_mem_cons]
      exact ⟨h.requirements, h.domain, h.problem, by simp⟩

end DocumentFormat

open DocumentFormat in
theorem Summary.exists_read_iff {v : Json} (h : documentFormat.Validates v) :
    (∃ summary, Summary.read v = .ok summary) ↔
      ((v.get? "domain").isSome → (v.get? "requirements").isSome) := by
  obtain ⟨members, rfl, hvalid⟩ := validates_iff_sections.mp h
  rw [exists_read_iff_readable]
  constructor
  · exact Json.Readable.announced
  · intro hannounced
    exact {
      hasSection := hvalid.complete.imp_left And.right
      domain := fun w hw => fits_domain (hvalid.domain w hw)
      problem := fun w hw => fits_problem (hvalid.problem w hw)
      requirements := fun w hw => fits_requirements (hvalid.requirements w hw)
      announced := hannounced }

open DocumentFormat in
/-- A domain that is valid beside a problem is not read without requirements. -/
theorem Summary.read_of_no_requirements {v : Json} (h : documentFormat.Validates v)
    (hdomain : (v.get? "domain").isSome) (hnone : v.get? "requirements" = none) :
    Summary.read v = .error (.missingField "requirements") := by
  obtain ⟨members, rfl, hvalid⟩ := validates_iff_sections.mp h
  obtain ⟨domain, hreadDomain⟩ :
      ∃ domain, readSection "domain" DomainSummary.read (.obj members) = .ok domain :=
    (exists_readSection_iff fun _ => DomainSummary.exists_read_iff).mpr
      fun w hw => fits_domain (hvalid.domain w hw)
  obtain ⟨problem, hreadProblem⟩ :
      ∃ problem, readSection "problem" ProblemSummary.read (.obj members) = .ok problem :=
    (exists_readSection_iff fun _ => ProblemSummary.exists_read_iff).mpr
      fun w hw => fits_problem (hvalid.problem w hw)
  obtain ⟨summary, rfl⟩ : ∃ summary, domain = some summary := by
    rw [← Option.isSome_iff_exists, isSome_of_readSection hreadDomain]
    exact hdomain
  simp [Summary.read, hreadDomain, hreadProblem, readRequirements, hnone, bind, Except.bind]

/-- A valid document is refused for nothing else. -/
theorem Summary.eq_missingField_of_read {v : Json} (h : documentFormat.Validates v)
    {e : DocumentError} (he : Summary.read v = .error e) : e = .missingField "requirements" := by
  have hunread : ¬ ((v.get? "domain").isSome → (v.get? "requirements").isSome) := by
    intro hrequirements
    obtain ⟨summary, hsummary⟩ := (exists_read_iff h).mpr hrequirements
    rw [hsummary] at he
    cases he
  obtain ⟨hdomain, hnone⟩ := Classical.not_imp.mp hunread
  rw [read_of_no_requirements h hdomain (by simpa using hnone)] at he
  exact (Except.error.inj he).symm

/-! ## Documents without requirements -/

namespace Document

/-- A document of a domain and a problem, but without requirements. -/
def unannounced (domain : Domain) (problem : Problem) (options : EncoderOptions) : Document where
  domain := some (domain.encode options)
  problem := some (problem.encode options)

/-- Whatever was built, its document without requirements is valid and cannot be read. -/
theorem read_unannounced (name : String) (calls : List DomainBuilder.Call) (problem : Problem)
    (options : EncoderOptions) :
    let domain := ((DomainBuilder.new name).run calls).finish
    documentFormat.Validates (unannounced domain problem options).toJson ∧
      Summary.read (unannounced domain problem options).toJson =
        .error (.missingField "requirements") := by
  intro domain
  have hvalid : documentFormat.Validates (unannounced domain problem options).toJson := by
    refine SchemaDocument.validates_iff.mpr (DocumentFormat.accepts_document ?_ ?_ (.inr rfl))
    · rintro _ ⟨rfl⟩
      exact DocumentFormat.valid_domain options (DomainBuilder.hasBranches_finish name calls)
    · rintro _ ⟨rfl⟩
      exact DocumentFormat.valid_problem options problem
  exact ⟨hvalid, Summary.read_of_no_requirements hvalid (by simp [unannounced])
    (by simp [unannounced])⟩

end Document

/-- A problem section without facts and tasks. -/
def emptyProblem : Json :=
  .obj [("additional_constants", .arr []), ("goal", .obj [("tasks", .arr [])]), ("init", .arr []),
    ("name", .str "p")]

end TaskNetwork
