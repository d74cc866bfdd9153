import TaskNetwork.CommandLine.Host

/-!
# Files by name

The files in a working directory and below it, as far as a program can tell: which bytes a path
leads to, and what is there after writing. A path may pass through directories and links, and must
not pass through files, devices or names that are not there. Outside of the working directory there
are only the directories around it and what the host has, with the files that were put there.
-/

namespace TaskNetwork

/-- A directory, by the contents of the files under the names on the way to them. For a file outside
of the directory the way begins with two dots for each step out of it, or with a slash at the root
of the system. -/
structure Directory where
  files : List (List String × ByteArray)

namespace Directory

def file? (d : Directory) (names : List String) : Option ByteArray := d.files.lookup names

/-- Is there a directory or a file on the way through these names? -/
def holds (d : Directory) (names : List String) : Bool :=
  names.isEmpty || d.files.any fun (path, _) => names.isPrefixOf path

/-- The directory with a file set to these contents. -/
def setFile (d : Directory) (names : List String) (contents : ByteArray) : Directory :=
  ⟨set d.files⟩
where
  set : List (List String × ByteArray) → List (List String × ByteArray)
    | [] => [(names, contents)]
    | (path, old) :: rest =>
      if names = path then (names, contents) :: rest else (path, old) :: set rest

/-- What a path leads to. -/
inductive Place where
  | directory
  | file (names : List String)
  /-- A name that is not taken yet in a directory that is there. -/
  | free (names : List String)
  /-- Such a name, or that of a file, where the path goes on with a slash. -/
  | slashed (taken : Bool)
  | device (device : Device)

/-- The greatest size of a name in bytes. -/
def maxNameSize : Nat := 255

/-- The greatest size of a path in bytes. -/
def maxPathSize : Nat := 4095

/-- The greatest number of links on the way through a path. -/
def maxLinks : Nat := 40

/-- The way to the directory around the one that these names lead to. -/
def parent (here : List String) : List String :=
  if here = ["/"] then here
  else if here.all (· == "..") then ".." :: here
  else here.dropLast

/-- The place of a file or a device in front of further steps. -/
def taken (place : Place) (rest : List String) : Except SystemError Place :=
  if rest.isEmpty then .ok place
  else if rest.all (· == "") then .ok (.slashed true)
  else .error .notDirectory

/-- The place of a name that is not taken, in front of further steps. -/
def vacant (names rest : List String) : Except SystemError Place :=
  if rest.isEmpty then .ok (.free names)
  else if rest.all (· == "") then .ok (.slashed false)
  else .error .notFound

section Host

variable (d : Directory) (host : Host)

/-- The place that the steps of a path lead to from a directory, up to the first link. -/
def walk (follow : List String → List String → Except SystemError Place) :
    List String → List String → Except SystemError Place
  | _, [] => .ok .directory
  | here, name :: rest =>
    if name = "" ∨ name = "." then walk follow here rest
    else if name = ".." then walk follow (parent here) rest
    else if maxNameSize < name.utf8ByteSize then .error .nameTooLong
    else
      let way := here ++ [name]
      match host.link? way, host.device? way with
      | some link, _ => follow link.start (link.steps ++ rest)
      | none, some device => taken (.device device) rest
      | none, none =>
        if (d.file? way).isSome then taken (.file way) rest
        else if d.holds way || host.holds way then walk follow way rest
        else vacant way rest

/-- The place that the steps of a path lead to from a directory, through at most so many links. -/
def locate : Nat → List String → List String → Except SystemError Place
  | 0 => d.walk host fun _ _ => .error .tooManyLinks
  | links + 1 => d.walk host (locate links)

end Host

/-- The place that a path leads to. -/
def place (d : Directory) (path : String) (host : Host := .ordinary) : Except SystemError Place :=
  if path = "" then .error .notFound
  else if maxPathSize < path.utf8ByteSize then .error .nameTooLong
  else d.locate host maxLinks (if path.front = '/' then ["/"] else [])
    (path.splitToList (· == '/'))

/-- What reading comes to at a place. -/
def readAt (d : Directory) (host : Host) : Place → Except SystemError ByteArray
  | .file names =>
    match host.readFault? names, d.file? names with
    | some e, _ => .error e
    | none, some contents => .ok contents
    | none, none => .error .notFound
  | .device device => device.input
  | .directory => .error .isDirectory
  | .slashed true => .error .notDirectory
  | .free _ | .slashed false => .error .notFound

/-- The contents of the file at a path. -/
def read (d : Directory) (path : String) (host : Host := .ordinary) :
    Except SystemError ByteArray := do
  d.readAt host (← d.place path host)

/-- How the writing of a file ends, and the directory after it. -/
def put (d : Directory) (names : List String) (contents : ByteArray) :
    Writing → Except SystemError Unit × Directory
  | .complete => (.ok (), d.setFile names contents)
  | .refused e => (.error e, d)
  | .broken size e => (.error e, d.setFile names (contents.extract 0 size))

/-- How writing at a path ends, and the directory after it. -/
def write (d : Directory) (path : String) (contents : ByteArray) (host : Host := .ordinary) :
    Except SystemError Unit × Directory :=
  match d.place path host with
  | .ok (.file names) | .ok (.free names) => d.put names contents (host.writing names contents)
  | .ok (.device device) => (device.output, d)
  | .ok .directory | .ok (.slashed _) => (.error .isDirectory, d)
  | .error e => (.error e, d)

@[simp, grind =] theorem file?_setFile_self (d : Directory) (names : List String)
    (contents : ByteArray) : (d.setFile names contents).file? names = some contents := by
  have aux (files : List (List String × ByteArray)) :
      (setFile.set names contents files).lookup names = some contents := by
    induction files with
    | nil => simp [setFile.set]
    | cons entry rest ih =>
      obtain ⟨path, old⟩ := entry
      by_cases h : names = path
      · simp [setFile.set, h]
      · have hne : (names == path) = false := by simp [h]
        simp [setFile.set, h, List.lookup_cons, hne, ih]
  exact aux d.files

theorem file?_setFile_of_ne {names other : List String} (h : other ≠ names) (d : Directory)
    (contents : ByteArray) : (d.setFile names contents).file? other = d.file? other := by
  have hne : (other == names) = false := by simp [h]
  have aux (files : List (List String × ByteArray)) :
      (setFile.set names contents files).lookup other = files.lookup other := by
    induction files with
    | nil => simp [setFile.set, List.lookup_cons, hne]
    | cons entry rest ih =>
      obtain ⟨path, old⟩ := entry
      by_cases hp : names = path
      · subst hp
        simp [setFile.set, List.lookup_cons, hne]
      · simp [setFile.set, hp, List.lookup_cons, ih]
  exact aux d.files

end Directory

end TaskNetwork
