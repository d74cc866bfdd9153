import TaskNetwork.CommandLine.Commands

/-!
# The command line tool

Runs a program on the files of the system.
-/

namespace TaskNetwork

/-- An error by the number that the system gives, which may be negated, and by its description
where the number is not known here. -/
def SystemError.ofNumber (number : UInt32) (description : String) : SystemError :=
  let code := if number < 0x80000000 then number.toNat else UInt32.size - number.toNat
  (SystemError.known.find? (·.code == code)).getD ⟨description, code⟩

def SystemError.ofReport : IO.Error → SystemError
  | .noFileOrDirectory _ number details | .alreadyExists _ number details
  | .inappropriateType _ number details | .permissionDenied _ number details
  | .invalidArgument _ number details | .resourceExhausted _ number details
  | .noSuchThing _ number details | .interrupted _ number details
  | .otherError number details | .resourceBusy number details
  | .resourceVanished number details | .unsupportedOperation number details
  | .hardwareFault number details | .unsatisfiedConstraints number details
  | .illegalOperation number details | .protocolError number details
  | .timeExpired number details => .ofNumber number details
  | .unexpectedEof => ⟨"unexpected end of file", 0⟩
  | .userError details => ⟨details, 0⟩

/-- Runs an operation on a file for its answer. -/
def attempt {α : Type} (operation : IO α) : BaseIO (Except SystemError α) := do
  match ← operation.toBaseIO with
  | .ok value => return .ok value
  | .error error => return .error (.ofReport error)

/-- The value of a program that runs on the files of the system. -/
def Program.runOnFiles {α : Type} : Program α → BaseIO α
  | .done value => return value
  | .read path next => do (next (← attempt (IO.FS.readBinFile path))).runOnFiles
  | .write path contents next => do
    (next (← attempt (IO.FS.writeBinFile path contents))).runOnFiles

end TaskNetwork

def main (arguments : List String) : IO UInt32 := do
  let outcome ← (TaskNetwork.runArguments arguments).runOnFiles
  (← IO.getStdout).putStr outcome.stdout
  (← IO.getStderr).putStr outcome.stderr
  return outcome.exitCode.toUInt32
