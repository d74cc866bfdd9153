/-!
# Where files lie

Everything about the files of a system that is not in their names and contents: which directories
there are without files in them, which names belong to devices or lead on to other names, and how
reading and writing end. A program has no say in any of it, so it is given with the program.

Nothing else changes files while a program runs. A device answers every read alike, so a stream that
is used up by reading is none. What a program prints goes to streams that take all of it, and what
it writes to a device shows nowhere, not even among what it prints.
-/

namespace TaskNetwork

/-- An error of the system, with the number by which it is known. -/
structure SystemError where
  description : String
  code : Nat
deriving DecidableEq

namespace SystemError

def message (e : SystemError) : String := s!"{e.description} (os error {e.code})"

def notFound : SystemError := ⟨"No such file or directory", 2⟩

def noDevice : SystemError := ⟨"No such device or address", 6⟩

def outOfMemory : SystemError := ⟨"Cannot allocate memory", 12⟩

def notPermitted : SystemError := ⟨"Permission denied", 13⟩

def notDirectory : SystemError := ⟨"Not a directory", 20⟩

def isDirectory : SystemError := ⟨"Is a directory", 21⟩

def noSpace : SystemError := ⟨"No space left on device", 28⟩

def nameTooLong : SystemError := ⟨"File name too long", 36⟩

def tooManyLinks : SystemError := ⟨"Too many levels of symbolic links", 40⟩

def known : List SystemError :=
  [notFound, noDevice, outOfMemory, notPermitted, notDirectory, isDirectory, noSpace, nameTooLong,
    tooManyLinks]

end SystemError

/-- What is read and written like a file, but keeps nothing of what is written. -/
structure Device where
  /-- What comes of reading it to the end. -/
  input : Except SystemError ByteArray
  /-- How writing to it ends. -/
  output : Except SystemError Unit

namespace Device

def null : Device := ⟨.ok .empty, .ok ()⟩

/-- A device with no end to read to, so that the memory for what is read runs out. -/
def endless : Device := ⟨.error .outOfMemory, .ok ()⟩

def full : Device := { endless with output := .error .noSpace }

/-- A device with a name and nothing behind it. -/
def absent : Device := ⟨.error .noDevice, .error .noDevice⟩

end Device

/-- Where a name leads on to: the steps that are taken instead, from the directory at which they
start. This is a symbolic link, or another name of a file or of the working directory. -/
structure Link where
  start : List String
  steps : List String

/-- How the writing of a file ends. Once it is opened a file is empty, whatever becomes of the
writing. -/
inductive Writing where
  | complete
  /-- The file cannot be opened. -/
  | refused (error : SystemError)
  /-- No more than so many bytes get into the file. -/
  | broken (size : Nat) (error : SystemError)

/-- What is around the files of a directory. Names are given by the way to them. -/
structure Host where
  /-- Directories that are there without a file in them. -/
  directories : List (List String) := []
  devices : List (List String × Device) := []
  links : List (List String × Link) := []
  /-- Why a file that is there cannot be read. -/
  readFault? : List String → Option SystemError := fun _ => none
  /-- How the writing of a file with these contents ends. -/
  writing : List String → ByteArray → Writing := fun _ _ => .complete

namespace Host

def device? (host : Host) (names : List String) : Option Device := host.devices.lookup names

def link? (host : Host) (names : List String) : Option Link := host.links.lookup names

/-- Is there a directory on the way through these names? -/
def holds (host : Host) (names : List String) : Bool :=
  host.directories.contains names || host.devices.any (names.isPrefixOf ·.1) ||
    host.links.any (names.isPrefixOf ·.1)

/-- A system with the usual directories and devices and nothing else, for a user who may write
everywhere. No terminal is there, and the names of the standard streams lead to the null device. -/
def ordinary : Host where
  directories :=
    ["bin", "boot", "dev", "etc", "home", "lib", "media", "mnt", "opt", "proc", "root", "run",
      "sbin", "srv", "sys", "tmp", "usr", "var"].map (["/", ·]) ++
    ["pts", "shm"].map (["/", "dev", ·])
  devices :=
    [("null", Device.null), ("zero", .endless), ("full", .full), ("random", .endless),
      ("urandom", .endless), ("tty", .absent)].map fun (name, device) =>
        (["/", "dev", name], device)
  links := ["stdin", "stdout", "stderr"].map (["/", "dev", ·], ⟨["/", "dev"], ["null"]⟩)
  -- The system makes up what is in these two directories, and lets nobody add to it.
  writing names _ :=
    if ["/", "proc"].isPrefixOf names then .refused .notFound
    else if ["/", "sys"].isPrefixOf names then .refused .notPermitted
    else .complete

end Host

end TaskNetwork
