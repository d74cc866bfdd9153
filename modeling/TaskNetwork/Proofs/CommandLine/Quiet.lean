import TaskNetwork.Proofs.CommandLine.Answers

/-!
# Quiet invocations

What is told quietly is a merged document that has no file to go to, and nothing else but the errors
of an invalid document in JSON, which are told all the same.
-/

namespace TaskNetwork

/-! ## Outcomes -/

theorem Report.stdout_quiet_ne_iff {r : Report} {output : OutputFormat} :
    r.stdout output true ≠ "" ↔ ∃ text, r = .merged text := by
  cases r with
  | merged text => simp [stdout]
  | _ => simp [stdout]

theorem Report.stderr_quiet_ne_iff {r : Report} {output : OutputFormat} :
    r.stderr output true ≠ "" ↔ output = .json ∧ ∃ errors, r = .invalid errors := by
  cases r with
  | invalid errors => cases output <;> simp [stderr]
  | _ => simp [stderr]

/-! ## Commands -/

namespace Command

open TaskNetwork.Action

variable {d : Directory} {host : Host} {settings : Settings}

/-- Only validation finds errors, and it does if the document is not valid. -/
theorem exists_invalid_iff {command : Command} :
    (∃ errors, ((command.run settings).on d host).1 = .ok (.invalid errors)) ↔
      ∃ file schema v, command = .validate file ∧ ((readSchema settings).on d host).1 = .ok schema ∧
        ((readJson file).on d host).1 = .ok v ∧ ¬ schema.Validates v := by
  cases command with
  | validate file => simp [run, answer_runValidate_iff]
  | summary file => simp [run, answer_runSummary_iff]
  | attach domain problem out replace =>
    cases out with
    | none => simp [run, answer_runAttach_none_iff]
    | some out =>
      refine iff_of_false ?_ (by simp)
      rintro ⟨errors, h⟩
      cases report_of_runAttach_some h

/-- Only attaching prints a document, and only without a file to write it to. -/
theorem answer_eq_merged_iff {command : Command} {text : String} :
    ((command.run settings).on d host).1 = .ok (.merged text) ↔
      ∃ domain problem replace merged, command = .attach domain problem none replace ∧
        d.Merges host domain problem replace merged ∧ text = merged.render settings.layout := by
  cases command with
  | validate file => simp [run, answer_runValidate_iff]
  | summary file => simp [run, answer_runSummary_iff]
  | attach domain problem out replace =>
    cases out with
    | none =>
      rw [run, answer_runAttach_none_iff]
      constructor
      · rintro ⟨merged, hmerges, hreport⟩
        exact ⟨domain, problem, replace, merged, rfl, hmerges, Report.merged.inj hreport⟩
      · rintro ⟨_, _, _, merged, hcommand, hmerges, rfl⟩
        cases hcommand
        exact ⟨merged, hmerges, rfl⟩
    | some out =>
      refine iff_of_false ?_ (by simp)
      intro h
      cases report_of_runAttach_some h

end Command

/-! ## Invocations -/

namespace Invocation

open TaskNetwork.Action

/-- The invocation finds that a document is not valid. -/
def Rejects (i : Invocation) (d : Directory) (host : Host) : Prop :=
  ∃ settings file schema v, ((readSettings i.config).on d host).1 = .ok settings ∧
    i.command = .validate file ∧ ((readSchema settings).on d host).1 = .ok schema ∧
    ((readJson file).on d host).1 = .ok v ∧ ¬ schema.Validates v

/-- The invocation makes a merged document that is to be printed as this text. -/
def Prints (i : Invocation) (d : Directory) (host : Host) (text : String) : Prop :=
  ∃ settings domain problem replace merged, ((readSettings i.config).on d host).1 = .ok settings ∧
    i.command = .attach domain problem none replace ∧ d.Merges host domain problem replace merged ∧
    text = merged.render settings.layout

variable {i : Invocation} {d : Directory} {host : Host}

theorem answer_report_iff {report : Report} :
    (i.report.on d host).1 = .ok report ↔
      ∃ settings, ((readSettings i.config).on d host).1 = .ok settings ∧
        ((i.command.run settings).on d host).1 = .ok report :=
  (readOnly_readSettings i.config).answer_bind_eq_ok_iff

theorem rejects_iff :
    i.Rejects d host ↔ ∃ errors, (i.report.on d host).1 = .ok (.invalid errors) := by
  constructor
  · rintro ⟨settings, file, schema, v, hsettings, hinvalid⟩
    obtain ⟨errors, hanswer⟩ := Command.exists_invalid_iff.mpr ⟨file, schema, v, hinvalid⟩
    exact ⟨errors, answer_report_iff.mpr ⟨settings, hsettings, hanswer⟩⟩
  · rintro ⟨errors, hanswer⟩
    obtain ⟨settings, hsettings, hanswer⟩ := answer_report_iff.mp hanswer
    obtain ⟨file, schema, v, hinvalid⟩ := Command.exists_invalid_iff.mp ⟨errors, hanswer⟩
    exact ⟨settings, file, schema, v, hsettings, hinvalid⟩

theorem prints_iff {text : String} :
    i.Prints d host text ↔ (i.report.on d host).1 = .ok (.merged text) := by
  simp only [answer_report_iff, Prints, Command.answer_eq_merged_iff, exists_and_left]

theorem stdout_run_ne_iff (hquiet : i.quiet = true) :
    (i.run.run d host).1.stdout ≠ "" ↔ ∃ text, i.Prints d host text := by
  simp only [outcome_run, prints_iff, hquiet]
  cases (i.report.on d host).1 with
  | error e => simp [CommandError.outcome]
  | ok report => simp [Report.outcome, Report.stdout_quiet_ne_iff]

theorem stdout_run_of_prints {text : String} (h : i.Prints d host text) :
    (i.run.run d host).1.stdout = text ++ "\n" := by
  rw [outcome_run, prints_iff.mp h]
  rfl

theorem stderr_run_ne_iff (hquiet : i.quiet = true) :
    (i.run.run d host).1.stderr ≠ "" ↔ i.output = .json ∧ i.Rejects d host := by
  simp only [outcome_run, rejects_iff, hquiet]
  cases (i.report.on d host).1 with
  | error e => simp [CommandError.outcome]
  | ok report => simp [Report.outcome, Report.stderr_quiet_ne_iff]

end Invocation

/-- Quietly nothing is told on standard output but a merged document that has no file to go to, and
nothing on standard error but the errors of an invalid document if the output is to be JSON. -/
theorem silent_of_quiet {arguments : List String} {i : Invocation}
    (h : Invocation.ofArguments arguments = .ok i) (hquiet : i.quiet = true) (d : Directory)
    (host : Host) :
    let r := ((runArguments arguments).run d host).1
    (r.stdout ≠ "" ↔ ∃ text, i.Prints d host text) ∧
      (∀ text, i.Prints d host text → r.stdout = text ++ "\n") ∧
      (r.stderr ≠ "" ↔ i.output = .json ∧ i.Rejects d host) := by
  intro r
  have hr : r = (i.run.run d host).1 := by rw [← runArguments_of_ok h]
  rw [hr]
  exact ⟨Invocation.stdout_run_ne_iff hquiet,
    fun _ hprints => Invocation.stdout_run_of_prints hprints,
    Invocation.stderr_run_ne_iff hquiet⟩

theorem silent_of_quiet_validate :
    let d : Directory := ⟨[(["d.json"], "[]".toUTF8)]⟩
    let i : Invocation := ⟨.text, true, none, .validate "d.json"⟩
    let r := ((runArguments ["--quiet", "validate", "d.json"]).run d).1
    Invocation.ofArguments ["--quiet", "validate", "d.json"] = .ok i ∧ i.quiet = true ∧
      r.stdout = "" ∧ r.stderr = "" := by
  intro d i r
  have h : Invocation.ofArguments ["--quiet", "validate", "d.json"] = .ok i := rfl
  obtain ⟨hstdout, -, hstderr⟩ := silent_of_quiet h rfl d .ordinary
  have hprints : ¬ ∃ text, i.Prints d .ordinary text := by
    rintro ⟨text, _, _, _, _, _, _, hcommand, _⟩
    cases hcommand
  have hjson : ¬ (i.output = .json ∧ i.Rejects d .ordinary) := fun hjson => nomatch hjson.1
  exact ⟨h, rfl, not_not.mp (mt hstdout.mp hprints), not_not.mp (mt hstderr.mp hjson)⟩

/-- The same document is not found invalid in silence if the output is to be JSON. -/
theorem json_errors_told_quietly :
    let d : Directory := ⟨[(["d.json"], "[]".toUTF8)]⟩
    let arguments := ["--quiet", "--output", "json", "validate", "d.json"]
    Invocation.ofArguments arguments = .ok ⟨.json, true, none, .validate "d.json"⟩ ∧
      ((runArguments arguments).run d).1.stderr ≠ "" := by
  intro d arguments
  have h : Invocation.ofArguments arguments = .ok ⟨.json, true, none, .validate "d.json"⟩ := rfl
  have hread : d.read "d.json" = .ok "[]".toUTF8 := by
    rw [Directory.read, Directory.place_eq]
    rfl
  have hvalue : ((Action.readJson "d.json").on d).1 = .ok (.arr []) := by
    rw [Action.on_readJson (by decide) hread]
    rfl
  have hinvalid : ¬ documentFormat.Validates (.arr []) := by
    rw [SchemaDocument.validates_iff]
    decide
  rw [runArguments_of_ok h]
  exact ⟨h, (Invocation.stderr_run_ne_iff rfl).mpr
    ⟨rfl, {}, "d.json", documentFormat, .arr [], rfl, rfl, rfl, hvalue, hinvalid⟩⟩

end TaskNetwork
