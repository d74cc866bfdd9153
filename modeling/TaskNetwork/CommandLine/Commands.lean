import TaskNetwork.CommandLine.Report
import TaskNetwork.Document.Merge
import TaskNetwork.Schema.DocumentFormat

/-!
# Commands

Each command is a program that ends in a report or in the reason why it failed. None of them knows
how its report will be told, and the only one that writes a file does so after everything that can
fail but the writing itself.
-/

namespace TaskNetwork

/-- A program that may fail. -/
abbrev Action (α : Type) := ExceptT CommandError Program α

namespace Action

/-- An answer that is there, or the reason why it is not. -/
def check {ε α : Type} (answer : Except ε α) (failed : ε → CommandError) : Action α :=
  ExceptT.mk (return answer.mapError failed)

/-- A text, with the given error where it cannot be read. -/
def readText (path : String) (failed : FileError → CommandError) : Action String :=
  ExceptT.mk do return (← Program.readText path).mapError failed

def writeText (path text : String) : Action Unit :=
  ExceptT.mk do return (← Program.writeText path text).mapError (.notWritable path)

/-- The JSON value in a file. -/
def readJson (path : String) : Action Json := do
  let text ← readText path (.fileUnreadable path)
  check (Json.parse text) (.fileMalformed path)

def readSettings : Option String → Action Settings
  | none => return {}
  | some path => do
    let text ← readText path (.settingsUnreadable path)
    check (Settings.parse text) (.settingsMalformed path)

/-- The schema in the file that the settings name, or else that of documents. -/
def readSchema (settings : Settings) : Action SchemaDocument :=
  match settings.schema with
  | none => return documentFormat
  | some path => do
    let text ← readText path (.schemaUnreadable path)
    let value ← check (Json.parse text) .schemaMalformed
    check (SchemaDocument.ofJson value) .schemaMeaningless

end Action

namespace Command

def runValidate (settings : Settings) (file : String) : Action Report := do
  let schema ← Action.readSchema settings
  let value ← Action.readJson file
  match schema.errors value with
  | [] => return .valid (.ofJson value)
  | errors => return .invalid errors

def runSummary (settings : Settings) (file : String) : Action Report := do
  let value ← Action.readJson file
  let summary ← Action.check (Summary.read value) (.documentUnreadable file)
  return .summary summary settings.layout

def runAttach (settings : Settings) (domain problem : String) (out : Option String)
    (replace : Bool) : Action Report := do
  let domainDoc ← Action.readJson domain
  let problemDoc ← Action.readJson problem
  let merged ←
    Action.check (attachSection domainDoc problemDoc replace) (.notAttachable problem domain)
  let text := merged.render settings.layout
  match out with
  | none => return .merged text
  | some path =>
    Action.writeText path (text ++ "\n")
    return .written path

def run (settings : Settings) : Command → Action Report
  | validate file => runValidate settings file
  | summary file => runSummary settings file
  | attach domain problem out replace => runAttach settings domain problem out replace

end Command

namespace Invocation

/-- The settings come first, so that nothing is done where they are wrong. -/
def report (i : Invocation) : Action Report := do
  let settings ← Action.readSettings i.config
  i.command.run settings

/-- The outcome of an invocation. -/
def run (i : Invocation) : Program Outcome := do
  match ← i.report.run with
  | .ok report => return report.outcome i.output i.quiet
  | .error error => return error.outcome i.output i.quiet

end Invocation

/-- The tool: the outcome of running it with these arguments. -/
def runArguments (arguments : List String) : Program Outcome :=
  match Invocation.ofArguments arguments with
  | .ok invocation => invocation.run
  | .error halt => return halt.outcome

end TaskNetwork
