import TaskNetwork.CommandLine.Arguments
import TaskNetwork.Proofs.CommandLine.Files
import TaskNetwork.Proofs.CommandLine.Reading

/-!
# Effects of invocations

An invocation changes a file only by attaching a document to be written, and only if everything
before the writing went well. How its outcome is told has no part in that. What the writing leaves
behind is up to the host: a device keeps nothing, and a file whose writing breaks off is no longer
what it was.
-/

namespace TaskNetwork

namespace Action

variable {α β : Type} {a : Action α} {f : α → Action β} {d : Directory} {host : Host}

/-- An action that changes no file. -/
def ReadOnly (a : Action α) : Prop := ∀ d host, (a.on d host).2 = d

theorem ReadOnly.on_bind (ha : ReadOnly a) (f : α → Action β) (d : Directory) (host : Host) :
    (a >>= f).on d host =
      match (a.on d host).1 with
      | .ok x => (f x).on d host
      | .error e => (.error e, d) := by
  have hon := Action.on_bind a f d host
  rw [ha d host] at hon
  exact hon

theorem ReadOnly.on_bind_of_ok (ha : ReadOnly a) {x : α} (h : (a.on d host).1 = .ok x) :
    (a >>= f).on d host = (f x).on d host := by
  rw [ha.on_bind, h]

theorem ReadOnly.on_bind_of_error (ha : ReadOnly a) {e : CommandError}
    (h : (a.on d host).1 = .error e) : (a >>= f).on d host = (.error e, d) := by
  rw [ha.on_bind, h]

theorem ReadOnly.answer_bind_eq_ok_iff (ha : ReadOnly a) {y : β} :
    ((a >>= f).on d host).1 = .ok y ↔
      ∃ x, (a.on d host).1 = .ok x ∧ ((f x).on d host).1 = .ok y := by
  rw [ha.on_bind]
  cases (a.on d host).1 <;> simp

theorem ReadOnly.bind (ha : ReadOnly a) (hf : ∀ x, ReadOnly (f x)) : ReadOnly (a >>= f) := by
  intro d host
  rw [ha.on_bind]
  cases (a.on d host).1 with
  | ok x => exact hf x d host
  | error e => rfl

theorem readOnly_pure (x : α) : ReadOnly (pure x : Action α) := fun _ _ => rfl

theorem readOnly_check {ε : Type} (answer : Except ε α) (failed : ε → CommandError) :
    ReadOnly (check answer failed) := fun _ _ => rfl

theorem readOnly_readText (path : String) (failed : FileError → CommandError) :
    ReadOnly (readText path failed) := by
  intro d host
  have hprogram : ((Program.readText path).run d host).2 = d := by
    unfold Program.readText
    split <;> rfl
  have hrun : (readText path failed).run = do
      return (← Program.readText path).mapError failed := rfl
  rw [on, hrun, Program.run_bind]
  exact hprogram

theorem readOnly_readJson (path : String) : ReadOnly (readJson path) :=
  (readOnly_readText path _).bind fun _ => readOnly_check _ _

theorem readOnly_readSettings (path : Option String) : ReadOnly (readSettings path) := by
  cases path with
  | none => exact readOnly_pure _
  | some path => exact (readOnly_readText path _).bind fun _ => readOnly_check _ _

theorem readOnly_readSchema (settings : Settings) : ReadOnly (readSchema settings) := by
  unfold readSchema
  cases settings.schema with
  | none => exact readOnly_pure _
  | some path =>
    exact (readOnly_readText path _).bind fun _ => (readOnly_check _ _).bind fun _ =>
      readOnly_check _ _

/-- What comes after all else ends as the writing does, and leaves behind what that does. -/
theorem on_writeText_pure (path text : String) (x : α) (d : Directory) (host : Host) :
    (writeText path text >>= fun _ => (pure x : Action α)).on d host =
      (((d.write path text.toUTF8 host).1.mapError (.notWritable path)).map fun _ => x,
        (d.write path text.toUTF8 host).2) := by
  have hrun : (writeText path text).run = do
      return (← Program.writeText path text).mapError (.notWritable path) := rfl
  have hwrite : (writeText path text).on d host =
      ((d.write path text.toUTF8 host).1.mapError (.notWritable path),
        (d.write path text.toUTF8 host).2) := by
    rw [on, hrun, Program.run_bind]
    rfl
  rw [Action.on_bind, hwrite]
  cases (d.write path text.toUTF8 host).1 <;> rfl

theorem on_pure_eq_ok_iff {x y : α} : ((pure x : Action α).on d host).1 = .ok y ↔ y = x := by
  have hon : (pure x : Action α).on d host = (.ok x, d) := rfl
  rw [hon, Except.ok.injEq, eq_comm]

theorem on_check {ε : Type} (answer : Except ε α) (failed : ε → CommandError) :
    ((check answer failed).on d host).1 = answer.mapError failed := rfl

theorem on_check_eq_ok_iff {ε : Type} {answer : Except ε α} {failed : ε → CommandError} {x : α} :
    ((check answer failed).on d host).1 = .ok x ↔ answer = .ok x := by
  rw [on_check]
  cases answer <;> simp [Except.mapError]

end Action

/-- The documents in two files are there and make up the merged one. -/
def Directory.Merges (d : Directory) (host : Host) (domain problem : String) (replace : Bool)
    (merged : Json) : Prop :=
  ∃ domainDoc problemDoc, ((Action.readJson domain).on d host).1 = .ok domainDoc ∧
    ((Action.readJson problem).on d host).1 = .ok problemDoc ∧
    attachSection domainDoc problemDoc replace = .ok merged

namespace Command

open TaskNetwork.Action

variable {d : Directory} {host : Host} (settings : Settings)

theorem readOnly_runValidate (file : String) : ReadOnly (runValidate settings file) := by
  refine (readOnly_readSchema settings).bind fun schema => (readOnly_readJson file).bind fun v => ?_
  cases schema.errors v with
  | nil => exact readOnly_pure _
  | cons error errors => exact readOnly_pure _

theorem readOnly_runSummary (file : String) : ReadOnly (runSummary settings file) :=
  (readOnly_readJson file).bind fun _ => (readOnly_check _ _).bind fun _ => readOnly_pure _

section Attach

variable (domain problem : String) (replace : Bool)

theorem readOnly_runAttach : ReadOnly (runAttach settings domain problem none replace) :=
  (readOnly_readJson domain).bind fun _ => (readOnly_readJson problem).bind fun _ =>
    (readOnly_check _ _).bind fun _ => readOnly_pure _

variable (d host) in
/-- Attaching comes as far as to the merged document, or ends with everything as it was. -/
theorem merges_or_stops (out : Option String) :
    (∃ merged, d.Merges host domain problem replace merged) ∨
      ∃ e, (runAttach settings domain problem out replace).on d host = (.error e, d) := by
  cases hdomain : ((readJson domain).on d host).1 with
  | error e => exact .inr ⟨e, (readOnly_readJson domain).on_bind_of_error hdomain⟩
  | ok domainDoc =>
    rw [runAttach, (readOnly_readJson domain).on_bind_of_ok hdomain]
    cases hproblem : ((readJson problem).on d host).1 with
    | error e => exact .inr ⟨e, (readOnly_readJson problem).on_bind_of_error hproblem⟩
    | ok problemDoc =>
      rw [(readOnly_readJson problem).on_bind_of_ok hproblem]
      cases hmerged : attachSection domainDoc problemDoc replace with
      | ok merged => exact .inl ⟨merged, domainDoc, problemDoc, hdomain, hproblem, hmerged⟩
      | error e => exact .inr ⟨_, (readOnly_check _ _).on_bind_of_error rfl⟩

variable {domain problem replace}

/-- Once there is a merged document, all that is left is to write it. -/
theorem on_runAttach_of_merges {merged : Json} (h : d.Merges host domain problem replace merged)
    (out : String) :
    (runAttach settings domain problem (some out) replace).on d host =
      (writeText out (merged.render settings.layout ++ "\n") >>= fun _ =>
        (pure (.written out) : Action Report)).on d host := by
  obtain ⟨domainDoc, problemDoc, hdomain, hproblem, hmerged⟩ := h
  rw [runAttach, (readOnly_readJson domain).on_bind_of_ok hdomain,
    (readOnly_readJson problem).on_bind_of_ok hproblem,
    (readOnly_check _ _).on_bind_of_ok (on_check_eq_ok_iff.mpr hmerged)]

end Attach

end Command

namespace Invocation

open TaskNetwork.Action

/-- The invocation makes a merged document that is to be written to this path as this text. -/
def Writes (i : Invocation) (d : Directory) (host : Host) (out text : String) : Prop :=
  ∃ settings domain problem replace merged,
    ((readSettings i.config).on d host).1 = .ok settings ∧
    i.command = .attach domain problem (some out) replace ∧
    d.Merges host domain problem replace merged ∧ text = merged.render settings.layout ++ "\n"

variable {i : Invocation} {d : Directory} {host : Host} {out text : String}

theorem unchanged_of_readOnly {command : Command} (hcommand : i.command = command)
    (h : ∀ settings, ReadOnly (command.run settings)) : (i.run.run d host).2 = d := by
  have hreport : ReadOnly i.report := by
    rw [Invocation.report, hcommand]
    exact (readOnly_readSettings i.config).bind h
  rw [run_run_snd, hreport d host]

variable (d host) in
theorem writes_or_stops {domain problem : String} {replace : Bool}
    (hcommand : i.command = .attach domain problem (some out) replace) :
    (∃ text, i.Writes d host out text) ∨ ∃ e, i.report.on d host = (.error e, d) := by
  cases hsettings : ((readSettings i.config).on d host).1 with
  | error e => exact .inr ⟨e, (readOnly_readSettings i.config).on_bind_of_error hsettings⟩
  | ok settings =>
    rw [Invocation.report, (readOnly_readSettings i.config).on_bind_of_ok hsettings, hcommand,
      Command.run]
    refine (Command.merges_or_stops d host settings domain problem replace (some out)).imp_left ?_
    rintro ⟨merged, hmerged⟩
    exact ⟨_, settings, domain, problem, replace, merged, hsettings, hcommand, hmerged, rfl⟩

/-- An invocation that comes as far as to the writing ends as that does. -/
theorem run_of_writes (h : i.Writes d host out text) :
    ((i.run.run d host).1.exitCode = 0 ↔ (d.write out text.toUTF8 host).1 = .ok ()) ∧
      (i.run.run d host).2 = (d.write out text.toUTF8 host).2 := by
  obtain ⟨settings, domain, problem, replace, merged, hsettings, hcommand, hmerged, rfl⟩ := h
  rw [exitCode_run, run_run_snd, Invocation.report,
    (readOnly_readSettings i.config).on_bind_of_ok hsettings, hcommand, Command.run,
    Command.on_runAttach_of_merges settings hmerged, on_writeText_pure]
  refine ⟨?_, rfl⟩
  cases (d.write out (merged.render settings.layout ++ "\n").toUTF8 host).1 <;>
    simp [Except.mapError, Except.map, exitCodeOf, Report.exitCode]

/-- A device keeps nothing, though all went well. -/
theorem run_of_device (h : i.Writes d host out text) {device : Device}
    (hplace : d.place out host = .ok (.device device)) (houtput : device.output = .ok ()) :
    (i.run.run d host).1.exitCode = 0 ∧ (i.run.run d host).2 = d := by
  obtain ⟨hcode, hafter⟩ := run_of_writes h
  have hwrite : d.write out text.toUTF8 host = (.ok (), d) := by
    rw [Directory.write, hplace, ← houtput]
  rw [hcode, hafter, hwrite]
  exact ⟨rfl, rfl⟩

/-- A file whose writing breaks off is not what it was, though the exit code tells of a failure. -/
theorem run_of_broken (h : i.Writes d host out text) {found : Directory.Place}
    (hplace : d.place out host = .ok found) {names : List String}
    (hnames : found.names? = some names) {size : Nat} {e : SystemError}
    (hwriting : host.writing names text.toUTF8 = .broken size e) :
    (i.run.run d host).1.exitCode ≠ 0 ∧
      (i.run.run d host).2.file? names = some (text.toUTF8.extract 0 size) := by
  obtain ⟨hcode, hafter⟩ := run_of_writes h
  have hwrite : d.write out text.toUTF8 host =
      (.error e, d.setFile names (text.toUTF8.extract 0 size)) := by
    rw [Directory.write_of_names hplace hnames, hwriting, Directory.put]
  rw [ne_eq, hcode, hafter, hwrite]
  exact ⟨nofun, Directory.file?_setFile_self _ _ _⟩

/-- Documents that were printed into two files get as far as to the writing if they fit together. -/
theorem writes_of_printed {domainDoc problemDoc merged : Json} {domain problem : String}
    {layout : Json.Layout} (output : OutputFormat) (quiet replace : Bool)
    (hplain : domainDoc.Plain ∧ problemDoc.Plain)
    (hfits : domainDoc.nesting ≤ Json.nestingLimit ∧ problemDoc.nesting ≤ Json.nestingLimit)
    (hpaths : '\x00' ∉ domain.toList ∧ '\x00' ∉ problem.toList)
    (hread : d.read domain host = .ok (domainDoc.render layout).toUTF8 ∧
      d.read problem host = .ok (problemDoc.render layout).toUTF8)
    (hmerged : attachSection domainDoc problemDoc replace = .ok merged) (out : String) :
    Writes ⟨output, quiet, none, .attach domain problem (some out) replace⟩ d host out
      (merged.render .pretty ++ "\n") := by
  refine ⟨{}, domain, problem, replace, merged, rfl, rfl, ⟨domainDoc, problemDoc, ?_, ?_, hmerged⟩,
    rfl⟩
  · rw [on_readJson_render hplain.1 hfits.1 hpaths.1 hread.1]
  · rw [on_readJson_render hplain.2 hfits.2 hpaths.2 hread.2]

section Attach

variable {domain problem : String} {replace : Bool}
  (hcommand : i.command = .attach domain problem (some out) replace)

include hcommand

variable (d host) in
/-- To attach and write ends before the writing, with everything as it was, or as the writing
does. -/
theorem run_of_attach :
    ((i.run.run d host).1.exitCode = 1 ∧ (i.run.run d host).2 = d) ∨
      ∃ text result, i.Writes d host out text ∧ d.Wrote host out text.toUTF8 result ∧
        ((i.run.run d host).1.exitCode = 0 ↔ result.1 = .ok ()) ∧
        (i.run.run d host).2 = result.2 := by
  obtain ⟨text, hwrites⟩ | ⟨e, hstops⟩ := writes_or_stops d host hcommand
  · obtain ⟨hcode, hafter⟩ := run_of_writes hwrites
    exact .inr ⟨text, _, hwrites, d.wrote_write out text.toUTF8 host, hcode, hafter⟩
  · left
    rw [exitCode_run, run_run_snd, hstops]
    exact ⟨rfl, rfl⟩

/-- The merged document is in its file, unless it went to a device. -/
theorem rewritten_of_exitCode (hcode : (i.run.run d host).1.exitCode = 0) :
    ∃ text, i.Writes d host out text ∧
      ((∃ names, d.Rewritten host out names text.toUTF8 (i.run.run d host).2) ∨
        ((∃ device, d.place out host = .ok (.device device)) ∧ (i.run.run d host).2 = d)) := by
  obtain ⟨hone, -⟩ | ⟨text, result, hwrites, hwrote, hanswer, hafter⟩ :=
    run_of_attach d host hcommand
  · rw [hone] at hcode
    cases hcode
  · refine ⟨text, hwrites, ?_⟩
    rw [hanswer] at hcode
    rw [hafter]
    cases hwrote with
    | complete hrewritten => exact .inl ⟨_, hrewritten⟩
    | device hplace => exact .inr ⟨⟨_, hplace⟩, rfl⟩
    | broken | refused => cases hcode

/-- Nothing has changed, unless the file was opened and its writing broke off. -/
theorem unchanged_or_broken_of_exitCode (hcode : (i.run.run d host).1.exitCode ≠ 0) :
    (i.run.run d host).2 = d ∨ ∃ text names size e, i.Writes d host out text ∧
      host.writing names text.toUTF8 = .broken size e ∧
      d.Rewritten host out names (text.toUTF8.extract 0 size) (i.run.run d host).2 := by
  obtain ⟨-, hsame⟩ | ⟨text, result, hwrites, hwrote, hanswer, hafter⟩ :=
    run_of_attach d host hcommand
  · exact .inl hsame
  · rw [ne_eq, hanswer] at hcode
    rw [hafter]
    cases hwrote with
    | complete => exact absurd rfl hcode
    | broken hwriting hrewritten => exact .inr ⟨text, _, _, _, hwrites, hwriting, hrewritten⟩
    | device | refused => exact .inl rfl

end Attach

end Invocation

/-- Arguments that are accepted have the same exit code and leave the same files however the outcome
is to be told. No file changes unless a document was to be attached and written. If that went well,
the path leads to the text of the merged document and no other file has changed, but what was
written to a device is lost. If it did not, no file has changed, but for one whose writing broke
off: a beginning of the text is all that is left in it. -/
theorem effect_of_arguments {arguments : List String} {i : Invocation}
    (h : Invocation.ofArguments arguments = .ok i) (d : Directory) (host : Host) :
    let r := (runArguments arguments).run d host
    (∀ others j, Invocation.ofArguments others = .ok j → j.config = i.config →
      j.command = i.command → ((runArguments others).run d host).1.exitCode = r.1.exitCode ∧
        ((runArguments others).run d host).2 = r.2) ∧
      match i.command with
      | .attach _ _ (some out) _ =>
        (r.1.exitCode = 0 → ∃ text, i.Writes d host out text ∧
          ((∃ names, d.Rewritten host out names text.toUTF8 r.2) ∨
            ((∃ device, d.place out host = .ok (.device device)) ∧ r.2 = d))) ∧
        (r.1.exitCode ≠ 0 → r.2 = d ∨ ∃ text names size e, i.Writes d host out text ∧
          host.writing names text.toUTF8 = .broken size e ∧
          d.Rewritten host out names (text.toUTF8.extract 0 size) r.2)
      | _ => r.2 = d := by
  intro r
  have hr : r = i.run.run d host := by rw [← runArguments_of_ok h]
  rw [hr]
  refine ⟨?_, ?_⟩
  · intro others j hj hconfig hcommand
    have hreport : j.report = i.report := by
      rw [Invocation.report, hconfig, hcommand, ← Invocation.report]
    rw [runArguments_of_ok hj, Invocation.exitCode_run, Invocation.exitCode_run,
      Invocation.run_run_snd, Invocation.run_run_snd, hreport]
    exact ⟨rfl, rfl⟩
  · cases hcommand : i.command with
    | validate file =>
      exact Invocation.unchanged_of_readOnly hcommand fun settings =>
        Command.readOnly_runValidate settings file
    | summary file =>
      exact Invocation.unchanged_of_readOnly hcommand fun settings =>
        Command.readOnly_runSummary settings file
    | attach domain problem out replace =>
      cases out with
      | none =>
        exact Invocation.unchanged_of_readOnly hcommand fun settings =>
          Command.readOnly_runAttach settings domain problem replace
      | some out =>
        exact ⟨Invocation.rewritten_of_exitCode hcommand,
          Invocation.unchanged_or_broken_of_exitCode hcommand⟩

/-- The same document validated in two ways. -/
theorem effect_of_validate :
    let d : Directory := ⟨[(["d.json"], "[]".toUTF8)]⟩
    let r := (runArguments ["--quiet", "validate", "d.json"]).run d
    let s := (runArguments ["validate", "d.json", "--output=json"]).run d
    Invocation.ofArguments ["--quiet", "validate", "d.json"] =
        .ok ⟨.text, true, none, .validate "d.json"⟩ ∧
      s.1.exitCode = r.1.exitCode ∧ s.2 = r.2 ∧ r.2 = d := by
  intro d r s
  have h : Invocation.ofArguments ["--quiet", "validate", "d.json"] =
      .ok ⟨.text, true, none, .validate "d.json"⟩ := rfl
  obtain ⟨hsame, hunchanged⟩ := effect_of_arguments h d .ordinary
  obtain ⟨hcode, hfiles⟩ := hsame ["validate", "d.json", "--output=json"]
    ⟨.json, false, none, .validate "d.json"⟩ rfl rfl rfl
  exact ⟨h, hcode, hfiles, hunchanged⟩

/-- What is written to the null device is gone though all went well, and where no space is left the
document is gone that was to be replaced by the merged one. -/
theorem lost_in_writing :
    let domainDoc := Json.obj [("domain", .obj []), ("requirements", .arr [])]
    let problemDoc := Json.obj [("problem", .obj [("additional_constants", .arr []),
      ("goal", .obj [("tasks", .arr [])]), ("init", .arr []), ("name", .str "p")])]
    let d : Directory := ⟨[(["d.json"], domainDoc.compact.toUTF8),
      (["p.json"], problemDoc.compact.toUTF8)]⟩
    let crowded : Host := { Host.ordinary with writing := fun _ _ => .broken 0 .noSpace }
    let r := (runArguments ["attach", "d.json", "p.json", "--out", "/dev/null"]).run d
    let s := (runArguments ["attach", "d.json", "p.json", "--out", "d.json"]).run d crowded
    (r.1.exitCode = 0 ∧ ∀ text, r.2.read "/dev/null" ≠ .ok (text ++ "\n").toUTF8) ∧
      (s.1.exitCode ≠ 0 ∧ s.2.file? ["d.json"] ≠ d.file? ["d.json"]) := by
  intro domainDoc problemDoc d crowded r s
  have hempty : (Json.arr []).Plain := .arr (by simp)
  have hgoal : (Json.obj [("tasks", .arr [])]).Plain := .obj (by simp) (by simpa using hempty)
  have hplain : domainDoc.Plain ∧ problemDoc.Plain := by
    constructor
    · exact .obj (by grind) (by simpa using ⟨.obj (by simp) (by simp), hempty⟩)
    · have hproblem : (Json.obj [("additional_constants", .arr []),
          ("goal", .obj [("tasks", .arr [])]), ("init", .arr []), ("name", .str "p")]).Plain :=
        .obj (by grind) (by simpa using ⟨hempty, hgoal, hempty, .str _⟩)
      exact .obj (by simp) (by simpa using hproblem)
  have hfits : domainDoc.nesting ≤ Json.nestingLimit ∧ problemDoc.nesting ≤ Json.nestingLimit := by
    decide
  let attaching (out : String) : Invocation :=
    ⟨.text, false, none, .attach "d.json" "p.json" (some out) false⟩
  have hwrites {host : Host} (out : String)
      (hread : d.read "d.json" host = .ok (domainDoc.render .compact).toUTF8 ∧
        d.read "p.json" host = .ok (problemDoc.render .compact).toUTF8) :
      ∃ text, (attaching out).Writes d host out text :=
    ⟨_, Invocation.writes_of_printed .text false false hplain hfits (by decide) hread rfl out⟩
  constructor
  · have hrun : r = (attaching "/dev/null").run.run d := rfl
    have hread : d.read "d.json" = .ok domainDoc.compact.toUTF8 ∧
        d.read "p.json" = .ok problemDoc.compact.toUTF8 := by
      simp only [Directory.read, Directory.place_eq]
      exact ⟨rfl, rfl⟩
    have hdevice : d.place "/dev/null" = .ok (.device .null) := by
      rw [Directory.place_eq]
      rfl
    obtain ⟨text, hwritten⟩ := hwrites "/dev/null" hread
    obtain ⟨hcode, hafter⟩ := Invocation.run_of_device hwritten hdevice rfl
    have hnothing : d.read "/dev/null" = .ok .empty := by
      rw [Directory.read, hdevice]
      rfl
    rw [hrun, hafter, hnothing]
    refine ⟨hcode, fun text htext => ?_⟩
    have hsize := congrArg ByteArray.size (Except.ok.inj htext)
    have hnewline : "\n".utf8ByteSize = 1 := rfl
    simp [hnewline] at hsize
  · have hrun : s = (attaching "d.json").run.run d crowded := rfl
    have hread : d.read "d.json" crowded = .ok domainDoc.compact.toUTF8 ∧
        d.read "p.json" crowded = .ok problemDoc.compact.toUTF8 := by
      simp only [Directory.read, Directory.place_eq]
      exact ⟨rfl, rfl⟩
    have hplace : d.place "d.json" crowded = .ok (.file ["d.json"]) := by
      rw [Directory.place_eq]
      rfl
    obtain ⟨text, hwritten⟩ := hwrites "d.json" hread
    obtain ⟨hcode, hafter⟩ := Invocation.run_of_broken hwritten hplace rfl rfl
    have hbefore : d.file? ["d.json"] = some domainDoc.compact.toUTF8 := rfl
    rw [hrun, hafter, hbefore]
    refine ⟨hcode, fun hsame => ?_⟩
    have hsize := congrArg ByteArray.size (Option.some.inj hsame)
    have hpos : domainDoc.compact.utf8ByteSize = 31 := by decide
    simp [hpos] at hsize

end TaskNetwork
