import TaskNetwork.CommandLine.Arguments

/-!
# Help

What the tool says of itself and of its commands, from the tables of options and operands.
-/

namespace TaskNetwork

namespace Help

/-- Rows of two columns, of which the second one begins at the same place in each row. -/
def table (rows : List (String × String)) : String :=
  let width := rows.foldl (fun width row => max width row.1.length) 0
  String.join (rows.map fun (left, right) =>
    let gap := String.ofList (List.replicate (width + 2 - left.length) ' ')
    s!"  {left}{gap}{right}\n")

/-- An option with its letter and the name of its value. -/
def optionRow (switch : Switch) : String × String :=
  let letter := switch.letter?.elim "    " fun letter => s!"-{letter}, "
  let value := if switch.takesValue then s!" <{switch.label.toUpper}>" else ""
  (s!"{letter}--{switch.label}{value}", switch.description)

def options (command : Option CommandName) : String :=
  "\nOptions:\n" ++ table ((Switch.known command).map optionRow)

/-- Help on the tool or on one of its commands. -/
def page : Option CommandName → String
  | none =>
    let rows := CommandName.all.map fun command => (command.label, command.description)
    "HTN planning IR toolchain\n\nUsage: htn [OPTIONS] <COMMAND>\n\nCommands:\n" ++
      table (rows ++ [("help", "Print this message or the help of the given subcommand(s)")]) ++
      options none
  | some command =>
    let operands := command.operands.map fun (name, description) => (s!"<{name}>", description)
    let usage := " ".intercalate (operands.map Prod.fst)
    s!"{command.description}\n\nUsage: htn {command.label} [OPTIONS] {usage}\n\nArguments:\n" ++
      table operands ++ options (some command)

def pageOnHelp : String :=
  "Print this message or the help of the given subcommand(s)\n\nUsage: htn help [COMMAND]...\n\n" ++
    "Arguments:\n" ++ table [("[COMMAND]...", "Print help for the subcommand(s)")]

def version : String := "htn 0.1.0\n"

end Help

end TaskNetwork
