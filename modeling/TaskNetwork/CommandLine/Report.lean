import TaskNetwork.CommandLine.Help
import TaskNetwork.CommandLine.Program
import TaskNetwork.CommandLine.Settings
import TaskNetwork.Schema.Reader
import TaskNetwork.Schema.Validation
import TaskNetwork.Summary.Codec
import TaskNetwork.Summary.Reader

/-!
# Reports

What a command found or why it failed, and how that is told: as text or as JSON, and in full or
quietly. How it is told decides nothing else.
-/

namespace TaskNetwork

/-- The sections of a valid document. -/
inductive DocumentKind where
  | domain
  | problem
  | both
deriving DecidableEq

namespace DocumentKind

def label : DocumentKind → String
  | domain => "domain"
  | problem => "problem"
  | both => "domain+problem"

/-- The kind of a valid document, which has a problem if it has no domain. -/
def ofJson (v : Json) : DocumentKind :=
  match (v.get? "domain").isSome, (v.get? "problem").isSome with
  | true, true => both
  | true, false => domain
  | false, _ => problem

end DocumentKind

/-- Why a command failed. -/
inductive CommandError where
  | settingsUnreadable (path : String) (cause : FileError)
  | settingsMalformed (path : String) (cause : SettingsError)
  | schemaUnreadable (path : String) (cause : FileError)
  | schemaMalformed (cause : Json.ParseError)
  | schemaMeaningless (cause : SchemaFault)
  | fileUnreadable (path : String) (cause : FileError)
  | fileMalformed (path : String) (cause : Json.ParseError)
  | documentUnreadable (path : String) (cause : DocumentError)
  | notAttachable (problem domain : String) (cause : DocumentError)
  | notWritable (path : String) (cause : SystemError)

def CommandError.message : CommandError → String
  | settingsUnreadable path cause => s!"could not read '{path}': {cause.message}"
  | settingsMalformed path cause => s!"could not parse '{path}': {cause.message}"
  | schemaUnreadable path cause => s!"error reading schema '{path}': {cause.message}"
  | schemaMalformed cause => s!"failed to parse IR schema: {cause.message}"
  | schemaMeaningless cause => s!"failed to compile IR schema: {cause.message}"
  | fileUnreadable path cause => s!"error reading file '{path}': {cause.message}"
  | fileMalformed path cause => s!"error parsing JSON in '{path}': {cause.message}"
  | documentUnreadable path cause => s!"error reading IR in '{path}': {cause.message}"
  | notAttachable problem domain cause =>
    s!"cannot attach '{problem}' to '{domain}': {cause.message}"
  | notWritable path cause => s!"error writing '{path}': {cause.message}"

/-- What a command found. -/
inductive Report where
  | valid (kind : DocumentKind)
  | invalid (errors : List SchemaError)
  | summary (summary : Summary) (layout : Json.Layout)
  /-- A merged document to print. -/
  | merged (text : String)
  /-- The path at which a merged document was written. -/
  | written (path : String)

/-- What a process leaves behind it, apart from files and from what went to devices. -/
structure Outcome where
  exitCode : Nat
  stdout : String := ""
  stderr : String := ""
deriving DecidableEq

/-- The text of a summary, with a line for each name and each count. -/
def Summary.text (s : Summary) : String :=
  s.domain.elim "" domainText ++ s.problem.elim "" problemText
where
  domainText (domain : DomainSummary) : String :=
    let tags := " ".intercalate s.requirements
    s!"domain: {domain.name}\n" ++
      s!"  requirements: {tags}\n" ++
      s!"  operators: {domain.operators.length}\n" ++
      s!"  methods: {domain.methods.length}\n" ++
      s!"  axioms: {domain.axioms.length}\n" ++
      s!"  procedures: {domain.procedures.length}\n" ++
      if domain.errorNodes = 0 then "" else s!"  error nodes: {domain.errorNodes}\n"
  problemText (problem : ProblemSummary) : String :=
    s!"problem: {problem.name}\n" ++
      s!"  facts: {problem.init.length}\n" ++
      s!"  goal tasks: {problem.goal.length}\n" ++
      s!"  additional constants: {problem.additionalConstants.length}\n"

namespace CommandError

/-- A failure, of which nothing is told quietly. -/
def outcome (e : CommandError) (output : OutputFormat) (quiet : Bool) : Outcome where
  exitCode := 1
  stderr :=
    if quiet then ""
    else
      match output with
      | .text => e.message ++ "\n"
      | .json => (Json.obj [("error", .str e.message)]).compact ++ "\n"

end CommandError

namespace Report

def exitCode : Report → Nat
  | invalid _ => 1
  | _ => 0

/-- What is told of a report apart from errors. A merged document is told however quietly. -/
def stdout (output : OutputFormat) (quiet : Bool) : Report → String
  | merged text => text ++ "\n"
  | invalid _ => ""
  | valid kind =>
    if quiet then ""
    else
      match output with
      | .text => s!"valid {kind.label} document\n"
      | .json => (Json.obj [("type", .str kind.label), ("valid", .bool true)]).compact ++ "\n"
  | summary s layout =>
    if quiet then ""
    else
      match output with
      | .text => s.text
      | .json => s.toJson.render layout ++ "\n"
  | written path =>
    if quiet then ""
    else
      match output with
      | .text => s!"wrote {path}\n"
      | .json => (Json.obj [("written", .str path)]).compact ++ "\n"

/-- What is told of errors. Errors in JSON are told however quietly. -/
def stderr (output : OutputFormat) (quiet : Bool) : Report → String
  | invalid errors =>
    let messages := errors.map SchemaError.message
    match output with
    | .text =>
      if quiet then ""
      else "invalid document\n" ++ String.join (messages.map fun message => s!"  - {message}\n")
    | .json =>
      (Json.obj [("errors", .strings messages), ("valid", .bool false)]).render .pretty ++ "\n"
  | _ => ""

def outcome (r : Report) (output : OutputFormat) (quiet : Bool) : Outcome :=
  ⟨r.exitCode, r.stdout output quiet, r.stderr output quiet⟩

end Report

namespace Halt

/-- What is told instead of running a command. -/
def outcome : Halt → Outcome
  | help topic => { exitCode := 0, stdout := Help.page topic }
  | helpOnHelp => { exitCode := 0, stdout := Help.pageOnHelp }
  | version => { exitCode := 0, stdout := Help.version }
  | usage .missingCommand => { exitCode := 2, stderr := Help.page none }
  | usage error =>
    { exitCode := 2
      stderr := s!"error: {error.message}\n\nFor more information, try '--help'.\n" }

end Halt

end TaskNetwork
