import TaskNetwork.CommandLine.Commands
import TaskNetwork.Proofs.Json.RoundTrip

/-!
# Actions on a directory

What an action makes of a directory of some host, and what reading the value in a file comes to.
-/

namespace TaskNetwork

theorem fromUTF8?_toByteArray (s : String) : String.fromUTF8? s.toByteArray = some s := by
  rw [String.fromUTF8?, dif_pos s.isValidUTF8]
  rfl

namespace Action

variable {α β : Type} {d : Directory} {host : Host} {path : String}

/-- What an action makes of a directory. -/
def on (a : Action α) (d : Directory) (host : Host := .ordinary) :
    Except CommandError α × Directory :=
  a.run.run d host

theorem on_bind (a : Action α) (f : α → Action β) (d : Directory) (host : Host) :
    (a >>= f).on d host =
      match (a.on d host).1 with
      | .ok x => (f x).on (a.on d host).2 host
      | .error e => (.error e, (a.on d host).2) := by
  simp only [on, ExceptT.run_bind, Program.run_bind]
  cases (a.run.run d host).1 <;> rfl

/-! ## Files -/

theorem on_readText {text : String} (failed : FileError → CommandError)
    (hpath : '\x00' ∉ path.toList) (hread : d.read path host = .ok text.toUTF8) :
    (readText path failed).on d host = (.ok text, d) := by
  have hprogram : (Program.readText path).run d host = (.ok text, d) := by
    simp [Program.readText, hpath, Program.run, hread, fromUTF8?_toByteArray]
  have hrun : (readText path failed).run = do
      return (← Program.readText path).mapError failed := rfl
  rw [on, hrun, Program.run_bind, hprogram]
  rfl

/-- The value in a file is that of its text, if the text has one. -/
theorem on_readJson {text : String} (hpath : '\x00' ∉ path.toList)
    (hread : d.read path host = .ok text.toUTF8) :
    (readJson path).on d host = ((Json.parse text).mapError (.fileMalformed path), d) := by
  rw [readJson, on_bind, on_readText _ hpath hread]
  rfl

/-- A value that was printed into a file is read from it. -/
theorem on_readJson_render {v : Json} {layout : Json.Layout} (hv : v.Plain)
    (hfits : v.nesting ≤ Json.nestingLimit) (hpath : '\x00' ∉ path.toList)
    (hread : d.read path host = .ok (v.render layout).toUTF8) :
    (readJson path).on d host = (.ok v, d) := by
  have hparse : Json.parse (v.render layout) = .ok v := hv.parseWithin_render layout hfits
  rw [on_readJson hpath hread, hparse]
  rfl

end Action

/-! ## Invocations -/

/-- The exit code of a command with this answer: that of the report, and one if there is none. -/
def exitCodeOf : Except CommandError Report → Nat
  | .ok report => report.exitCode
  | .error _ => 1

/-- The outcome of an invocation is that of its report, or that of the error without one. -/
theorem Invocation.outcome_run (i : Invocation) (d : Directory) (host : Host) :
    (i.run.run d host).1 =
      match (i.report.on d host).1 with
      | .ok report => report.outcome i.output i.quiet
      | .error e => e.outcome i.output i.quiet := by
  rw [run, Program.run_bind, Action.on]
  cases (i.report.run.run d host).1 <;> rfl

/-- How the outcome is told has no part in the exit code. -/
theorem Invocation.exitCode_run (i : Invocation) (d : Directory) (host : Host) :
    (i.run.run d host).1.exitCode = exitCodeOf (i.report.on d host).1 := by
  rw [outcome_run]
  cases (i.report.on d host).1 <;> rfl

/-- Telling the outcome changes no file. -/
theorem Invocation.run_run_snd (i : Invocation) (d : Directory) (host : Host) :
    (i.run.run d host).2 = (i.report.on d host).2 := by
  rw [run, Program.run_bind, Action.on]
  cases (i.report.run.run d host).1 <;> rfl

/-- Arguments that are accepted are run as what they ask for. -/
theorem runArguments_of_ok {arguments : List String} {i : Invocation}
    (h : Invocation.ofArguments arguments = .ok i) : runArguments arguments = i.run := by
  rw [runArguments, h]

end TaskNetwork
