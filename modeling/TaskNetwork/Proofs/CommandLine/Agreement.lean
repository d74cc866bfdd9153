import TaskNetwork.Proofs.CommandLine.Answers
import TaskNetwork.Proofs.Summary.Acceptance

/-!
# Agreement of commands

The commands that look at one document end well on what it takes for them: validation on a valid
document, a summary on one that can be read. So a valid document is read, and a summary of its file
ends well, but for a domain without requirements.
-/

namespace TaskNetwork

namespace Command

/-- The exit code of a command that runs with the default settings. -/
def exitCode (command : Command) (output : OutputFormat) (quiet : Bool) (d : Directory)
    (host : Host := .ordinary) : Nat :=
  ((Invocation.run ⟨output, quiet, none, command⟩).run d host).1.exitCode

variable {output : OutputFormat} {quiet : Bool} {d : Directory} {host : Host} {file : String}

theorem exitCode_eq (command : Command) :
    command.exitCode output quiet d host = exitCodeOf ((command.run {}).on d host).1 := by
  have hreport : (Invocation.report ⟨output, quiet, none, command⟩).on d host =
      (command.run {}).on d host := by
    rw [Invocation.report, Action.on_bind]
    rfl
  rw [exitCode, Invocation.exitCode_run, hreport]

theorem exitCode_eq_zero_iff {command : Command} :
    command.exitCode output quiet d host = 0 ↔
      ∃ report, ((command.run {}).on d host).1 = .ok report ∧ report.exitCode = 0 := by
  rw [exitCode_eq]
  cases ((command.run {}).on d host).1 <;> simp [exitCodeOf]

/-! ## Validation -/

theorem exitCode_validate_eq_zero_iff :
    (validate file).exitCode output quiet d host = 0 ↔
      ∃ v, ((Action.readJson file).on d host).1 = .ok v ∧ documentFormat.Validates v := by
  rw [exitCode_eq_zero_iff]
  constructor
  · rintro ⟨report, hanswer, hcode⟩
    obtain ⟨schema, v, hschema, hread, ⟨hvalid, -⟩ | ⟨-, rfl⟩⟩ := answer_runValidate_iff.mp hanswer
    · obtain rfl := Action.on_pure_eq_ok_iff.mp hschema
      exact ⟨v, hread, hvalid⟩
    · cases hcode
  · rintro ⟨v, hread, hvalid⟩
    exact ⟨_, answer_runValidate_iff.mpr ⟨_, v, rfl, hread, .inl ⟨hvalid, rfl⟩⟩, rfl⟩

/-! ## Summaries -/

theorem exitCode_summary_eq_zero_iff :
    (summary file).exitCode output quiet d host = 0 ↔
      ∃ v, ((Action.readJson file).on d host).1 = .ok v ∧ ∃ s, Summary.read v = .ok s := by
  rw [exitCode_eq_zero_iff]
  constructor
  · rintro ⟨report, hanswer, -⟩
    obtain ⟨v, s, hread, hsummary, -⟩ := answer_runSummary_iff.mp hanswer
    exact ⟨v, hread, s, hsummary⟩
  · rintro ⟨v, hread, s, hsummary⟩
    exact ⟨_, answer_runSummary_iff.mpr ⟨v, s, hread, hsummary, rfl⟩, rfl⟩

end Command

/-! ## Validation and summaries -/

/-- A valid document can be read exactly if it has requirements or does without a domain, and no
other error is met. Validation of its file always ends well, and a summary if it can be read. -/
theorem Summary.readable_iff_of_validates {v : Json} (h : documentFormat.Validates v) :
    ((∃ summary, Summary.read v = .ok summary) ↔
        ((v.get? "domain").isSome → (v.get? "requirements").isSome)) ∧
      (∀ e, Summary.read v = .error e → e = .missingField "requirements") ∧
      ∀ d host file, ((Action.readJson file).on d host).1 = .ok v → ∀ output quiet,
        (Command.validate file).exitCode output quiet d host = 0 ∧
          ((Command.summary file).exitCode output quiet d host = 0 ↔
            ((v.get? "domain").isSome → (v.get? "requirements").isSome)) := by
  have hiff := exists_read_iff h
  refine ⟨hiff, fun e => eq_missingField_of_read h, fun d host file hread output quiet => ⟨?_, ?_⟩⟩
  · exact Command.exitCode_validate_eq_zero_iff.mpr ⟨v, hread, h⟩
  · rw [← hiff]
    simp [Command.exitCode_summary_eq_zero_iff, hread]

/-- The value in a file is there if it was printed into it. -/
theorem Action.readJson_printed {v : Json} (hv : v.Plain) (hfits : v.nesting ≤ Json.nestingLimit) :
    ((readJson "d.json").on ⟨[(["d.json"], v.compact.toUTF8)]⟩).1 = .ok v := by
  have hread : Directory.read ⟨[(["d.json"], v.compact.toUTF8)]⟩ "d.json" =
      .ok (v.render .compact).toUTF8 := by
    rw [Directory.read, Directory.place_eq]
    rfl
  rw [on_readJson_render hv hfits (by decide) hread]

theorem plain_emptyProblem : emptyProblem.Plain :=
  .obj (by grind) (by simpa using
    ⟨.arr (by simp), .obj (by grind) (by simpa using .arr (by simp)), .arr (by simp), .str _⟩)

theorem Summary.readable_emptyProblem :
    let v : Json := .obj [("problem", emptyProblem)]
    let d : Directory := ⟨[(["d.json"], v.compact.toUTF8)]⟩
    documentFormat.Validates v ∧ (∃ summary, Summary.read v = .ok summary) ∧
      (Command.validate "d.json").exitCode .text false d = 0 ∧
      (Command.summary "d.json").exitCode .text false d = 0 := by
  intro v d
  have hvalid : documentFormat.Validates v := SchemaDocument.validates_iff.mpr (by decide)
  have hplain : v.Plain := .obj (by grind) (by simpa using plain_emptyProblem)
  obtain ⟨hread, -, hcommands⟩ := readable_iff_of_validates hvalid
  obtain ⟨hvalidate, hsummary⟩ :=
    hcommands d .ordinary "d.json" (Action.readJson_printed hplain (by decide)) .text false
  exact ⟨hvalid, hread.mpr nofun, hvalidate, hsummary.mpr nofun⟩

/-- An empty domain beside the problem makes a document that is valid and cannot be read. -/
theorem Summary.not_readable_emptyDomain :
    let domain : Json := .obj [("axioms", .arr []), ("compound_tasks", .arr []), ("name", .str "d"),
      ("primitive_tasks", .arr []), ("procedures", .arr [])]
    let v : Json := .obj [("domain", domain), ("problem", emptyProblem)]
    let d : Directory := ⟨[(["d.json"], v.compact.toUTF8)]⟩
    documentFormat.Validates v ∧ Summary.read v = .error (.missingField "requirements") ∧
      (Command.validate "d.json").exitCode .text false d = 0 ∧
      (Command.summary "d.json").exitCode .text false d ≠ 0 := by
  intro domain v d
  have hvalid : documentFormat.Validates v := SchemaDocument.validates_iff.mpr (by decide)
  have hempty : (Json.arr []).Plain := .arr (by simp)
  have hdomain : domain.Plain := .obj (by grind) (by
    simpa only [List.forall_mem_cons] using ⟨hempty, hempty, .str _, hempty, hempty, by simp⟩)
  have hplain : v.Plain := .obj (by grind) (by simpa using ⟨hdomain, plain_emptyProblem⟩)
  have hread : ((Action.readJson "d.json").on d).1 = .ok v :=
    Action.readJson_printed hplain (by decide)
  refine ⟨hvalid, rfl, Command.exitCode_validate_eq_zero_iff.mpr ⟨v, hread, hvalid⟩, ?_⟩
  rw [ne_eq, Command.exitCode_summary_eq_zero_iff]
  rintro ⟨w, hw, summary, hsummary⟩
  obtain rfl := Except.ok.inj (hread.symm.trans hw)
  cases hsummary

end TaskNetwork
