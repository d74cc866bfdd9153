import TaskNetwork.CommandLine.Directory

/-!
# Programs that read and write files

A program is the tree of its reads and writes, with a branch for everything that may come back. It
runs on the directory of a host without any effect outside of it, so what it leaves behind is a
value.
-/

namespace TaskNetwork

inductive Program (α : Type) where
  | done (value : α)
  | read (path : String) (next : Except SystemError ByteArray → Program α)
  | write (path : String) (contents : ByteArray) (next : Except SystemError Unit → Program α)

namespace Program

variable {α β : Type}

def bind : Program α → (α → Program β) → Program β
  | done value, f => f value
  | read path next, f => read path fun answer => (next answer).bind f
  | write path contents next, f => write path contents fun answer => (next answer).bind f

instance : Monad Program where
  pure := done
  bind := bind

/-- The value of a program on a host, and the directory after it. -/
def run (p : Program α) (d : Directory) (host : Host := .ordinary) : α × Directory :=
  match p with
  | done value => (value, d)
  | read path next => (next (d.read path host)).run d host
  | write path contents next =>
    let (answer, after) := d.write path contents host
    (next answer).run after host

@[simp] theorem run_pure (value : α) (d : Directory) (host : Host) :
    (pure value : Program α).run d host = (value, d) := rfl

@[simp] theorem run_bind (p : Program α) (f : α → Program β) (d : Directory) (host : Host) :
    (p >>= f).run d host = (f (p.run d host).1).run (p.run d host).2 host := by
  change (p.bind f).run d host = _
  induction p generalizing d with
  | done value => rfl
  | read path next ih => exact ih _ _
  | write path contents next ih => exact ih _ _

end Program

/-- Why the text of a file cannot be had. -/
inductive FileError where
  | system (error : SystemError)
  /-- The path has a character in it that ends a path. -/
  | invalidPath
  | invalidText

def FileError.message : FileError → String
  | system error => error.message
  | invalidPath => "file name contained an unexpected NUL byte"
  | invalidText => "stream did not contain valid UTF-8"

namespace Program

/-- The text of a file. -/
def readText (path : String) : Program (Except FileError String) :=
  if path.toList.contains '\x00' then done (.error .invalidPath)
  else
    read path fun answer => done <|
      match answer with
      | .error error => .error (.system error)
      | .ok contents =>
        match String.fromUTF8? contents with
        | some text => .ok text
        | none => .error .invalidText

def writeText (path text : String) : Program (Except SystemError Unit) :=
  write path text.toUTF8 done

end Program

end TaskNetwork
