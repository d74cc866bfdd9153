/-!
# Invocations

What the command line tool can be asked for.
-/

namespace TaskNetwork

/-- The form of messages and results. -/
inductive OutputFormat where
  | text
  | json
deriving DecidableEq

def OutputFormat.ofName? : String → Option OutputFormat
  | "text" => some .text
  | "json" => some .json
  | _ => none

inductive CommandName where
  | validate
  | summary
  | attach
deriving DecidableEq

namespace CommandName

def label : CommandName → String
  | validate => "validate"
  | summary => "summary"
  | attach => "attach"

def all : List CommandName := [validate, summary, attach]

def ofLabel? (label : String) : Option CommandName := all.find? (·.label == label)

def description : CommandName → String
  | validate => "Validate an IR document against the formal JSON Schema"
  | summary => "Print requirements and construct counts of an IR document"
  | attach => "Attach a problem-only document to a domain document"

/-- The operands of a command in order, each with its description. -/
def operands : CommandName → List (String × String)
  | validate => [("FILE", "Path to the IR JSON document")]
  | summary => [("FILE", "Path to the IR JSON document")]
  | attach =>
    [("DOMAIN", "Path to the domain IR document"),
      ("PROBLEM", "Path to the problem-only IR document")]

end CommandName

/-- A command with the paths of its files. -/
inductive Command where
  | validate (file : String)
  | summary (file : String)
  /-- Where no output file is given, the merged document is printed. -/
  | attach (domain problem : String) (out : Option String) (replace : Bool)

structure Invocation where
  output : OutputFormat
  quiet : Bool
  /-- The path of the settings file. -/
  config : Option String
  command : Command

end TaskNetwork
