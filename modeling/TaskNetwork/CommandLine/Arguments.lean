import TaskNetwork.CommandLine.Invocation

/-!
# Reading arguments

The arguments are options, a command, and the options and operands of the command. Some options may
stand before the command as well as after it, and count there in the second place. An option has a
name that begins with two dashes, and its value stands after an equals sign or is the next argument,
which then does not begin with a dash. After two dashes alone every argument is an operand. The
first thing that is wrong, or that asks for help, decides.
-/

namespace TaskNetwork

inductive Switch where
  | output
  | quiet
  | config
  | out
  | replace
  | help
  | version
deriving DecidableEq

namespace Switch

def label : Switch → String
  | output => "output"
  | quiet => "quiet"
  | config => "config"
  | out => "out"
  | replace => "replace"
  | help => "help"
  | version => "version"

def takesValue : Switch → Bool
  | output | config | out => true
  | quiet | replace | help | version => false

/-- The letter that asks for the same after one dash. -/
def letter? : Switch → Option Char
  | help => some 'h'
  | version => some 'V'
  | _ => none

/-- The options before a command, or those of a command. -/
def known : Option CommandName → List Switch
  | none => [output, quiet, config, help, version]
  | some .attach => [out, replace, output, quiet, config, help]
  | some .validate | some .summary => [output, quiet, config, help]

def description : Switch → String
  | output => "Output format (text or json) [default: text] [possible values: text, json]"
  | quiet => "Suppress non-essential output"
  | config => "Path to a TOML configuration file"
  | out => "Write the merged document here instead of stdout"
  | replace => "Replace an existing problem section"
  | help => "Print help"
  | version => "Print version"

/-- Can the option have this value? -/
def admits : Switch → String → Bool
  | output, value => (OutputFormat.ofName? value).isSome
  | _, value => value ≠ ""

end Switch

inductive UsageError where
  | missingCommand
  | unknownCommand (name : String)
  | unexpectedArgument (argument : String)
  | repeatedOption (switch : Switch)
  | missingValue (switch : Switch)
  | unexpectedValue (switch : Switch) (value : String)
  | invalidValue (argument value : String)
  | missingOperand (name : String)

def UsageError.message : UsageError → String
  | missingCommand => "a command is required"
  | unknownCommand name => s!"unrecognized command '{name}'"
  | unexpectedArgument argument => s!"unexpected argument '{argument}' found"
  | repeatedOption switch => s!"the argument '--{switch.label}' cannot be used multiple times"
  | missingValue switch => s!"a value is required for '--{switch.label}' but none was supplied"
  | unexpectedValue switch value => s!"unexpected value '{value}' for '--{switch.label}' found"
  | invalidValue argument value => s!"invalid value '{value}' for '{argument}'"
  | missingOperand name => s!"the required argument <{name}> was not provided"

/-- Why arguments are not an invocation. -/
inductive Halt where
  | usage (error : UsageError)
  /-- A question about the tool or one of its commands. -/
  | help (topic : Option CommandName)
  /-- A question about how to ask. -/
  | helpOnHelp
  | version

/-- Options and operands as they were found. -/
structure Findings where
  options : List (Switch × String) := []
  operands : List String := []

namespace Findings

def has (f : Findings) (switch : Switch) : Bool := f.options.any (·.1 == switch)

def value? (f : Findings) (switch : Switch) : Option String := f.options.lookup switch

def addOption (f : Findings) (switch : Switch) (value : String) : Except Halt Findings :=
  if f.has switch then .error (.usage (.repeatedOption switch))
  else .ok { f with options := f.options ++ [(switch, value)] }

def addValue (f : Findings) (switch : Switch) (value : String) : Except Halt Findings :=
  if switch.admits value then f.addOption switch value
  else .error (.usage (.invalidValue s!"--{switch.label}" value))

def addOperand (f : Findings) (command : CommandName) (value : String) : Except Halt Findings :=
  match command.operands[f.operands.length]? with
  | none => .error (.usage (.unexpectedArgument value))
  | some (name, _) =>
    if value = "" then .error (.usage (.invalidValue s!"<{name}>" value))
    else .ok { f with operands := f.operands ++ [value] }

end Findings

/-- The kinds of arguments, by how they begin. -/
inductive Word where
  | operand
  | separator
  | long (name : String) (value : Option String)
  | short (letter : Char)

def Word.ofArgument (argument : String) : Word :=
  match argument.toList with
  | ['-', '-'] => .separator
  | '-' :: '-' :: rest =>
    let (name, value) := rest.span (· ≠ '=')
    .long (String.ofList name) (value.tail?.map String.ofList)
  | '-' :: letter :: _ => .short letter
  | _ => .operand

/-- What an option means that has no value. -/
def flagged (command : Option CommandName) (f : Findings) : Switch → Except Halt Findings
  | .help => .error (.help command)
  | .version => .error .version
  | switch => f.addOption switch ""

/-- Reads arguments up to the command, or all of those of a command. -/
def scan (command : Option CommandName) :
    Findings → List String → Except Halt (Findings × List String)
  | f, [] => .ok (f, [])
  | f, argument :: rest =>
    match Word.ofArgument argument with
    | .operand =>
      match command with
      | none => .ok (f, argument :: rest)
      | some name => do scan command (← f.addOperand name argument) rest
    | .separator =>
      match command, rest with
      | some name, rest => do return (← rest.foldlM (fun f value => f.addOperand name value) f, [])
      | none, [] => .ok (f, [])
      | none, operand :: _ => .error (.usage (.unexpectedArgument operand))
    | .short letter =>
      match (Switch.known command).find? (·.letter? == some letter) with
      | none => .error (.usage (.unexpectedArgument argument))
      | some switch => do scan command (← flagged command f switch) rest
    | .long name value =>
      match (Switch.known command).find? (·.label == name), value with
      | none, _ => .error (.usage (.unexpectedArgument argument))
      | some switch, some value =>
        if switch.takesValue then do scan command (← f.addValue switch value) rest
        else .error (.usage (.unexpectedValue switch value))
      | some switch, none =>
        if switch.takesValue then
          match rest with
          | [] => .error (.usage (.missingValue switch))
          | value :: rest =>
            match Word.ofArgument value with
            | .operand => do scan command (← f.addValue switch value) rest
            | _ => .error (.usage (.missingValue switch))
        else do scan command (← flagged command f switch) rest

/-- The command with the operands and options that were found. -/
def CommandName.command (name : CommandName) (f : Findings) : Except Halt Command :=
  match name, f.operands with
  | .validate, file :: _ => .ok (.validate file)
  | .summary, file :: _ => .ok (.summary file)
  | .attach, domain :: problem :: _ =>
    .ok (.attach domain problem (f.value? .out) (f.has .replace))
  | name, operands =>
    .error (.usage (.missingOperand (name.operands[operands.length]?.elim "" Prod.fst)))

/-- What the arguments after the word `help` ask for. -/
def helpOn : List String → Halt
  | [] => .help none
  | ["help"] => .helpOnHelp
  | name :: rest =>
    match CommandName.ofLabel? name, rest with
    | some command, [] => .help (some command)
    | some _, other :: _ => .usage (.unknownCommand other)
    | none, _ => .usage (.unknownCommand name)

/-- The invocation that the arguments describe. -/
def Invocation.ofArguments (arguments : List String) : Except Halt Invocation := do
  let (before, rest) ← scan none {} arguments
  match rest with
  | [] => .error (.usage .missingCommand)
  | "help" :: rest => .error (helpOn rest)
  | label :: rest =>
    match CommandName.ofLabel? label with
    | none => .error (.usage (.unknownCommand label))
    | some name =>
      let (after, _) ← scan (some name) {} rest
      let output := (after.value? .output <|> before.value? .output).bind OutputFormat.ofName?
      return {
        output := output.getD .text
        quiet := before.has .quiet || after.has .quiet
        config := after.value? .config <|> before.value? .config
        command := ← name.command after }

end TaskNetwork
