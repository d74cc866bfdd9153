import Mathlib.Data.String.Basic
import TaskNetwork.CommandLine.Directory

/-!
# Files after writing

A path leads to the same file before and after it is written there. So what was written is read
back, and every other file is as it was. A device keeps nothing, and a file whose writing breaks off
keeps what got there.
-/

namespace TaskNetwork

namespace Directory

/-- The place of a path by its characters. -/
theorem place_eq (d : Directory) (path : String) (host : Host) :
    d.place path host =
      if path = "" then .error .notFound
      else if maxPathSize < path.utf8ByteSize then .error .nameTooLong
      else d.locate host maxLinks (if path.front = '/' then ["/"] else [])
        ((path.toList.splitOnP (· == '/')).map String.ofList) := by
  rw [place, String.splitToList_of_valid]

/-- The names under which a file at the place is written. -/
@[grind] def Place.names? : Place → Option (List String)
  | file names | free names => some names
  | directory | slashed _ | device _ => none

attribute [local grind] taken vacant

variable {d after : Directory} {host : Host} {path : String} {names here steps : List String}
  {found : Place} {contents : ByteArray}

/-! ## The way to a file that is written -/

section Walk

variable {follow next : List String → List String → Except SystemError Place}

theorem holds_setFile (d : Directory) (names : List String) (contents : ByteArray)
    (other : List String) :
    (d.setFile names contents).holds other = (d.holds other || other.isPrefixOf names) := by
  have aux (files : List (List String × ByteArray)) :
      (setFile.set names contents files).any (other.isPrefixOf ·.1) =
        (files.any (other.isPrefixOf ·.1) || other.isPrefixOf names) := by
    induction files with
    | nil => simp [setFile.set]
    | cons entry rest ih =>
      obtain ⟨path, old⟩ := entry
      by_cases h : names = path
      · subst h
        simp [setFile.set, Bool.or_comm]
      · simp [setFile.set, h, ih, Bool.or_assoc]
  simp [holds, setFile, aux, Bool.or_assoc]

/-- No directory is in the way of a file with these names. -/
def Fits (d : Directory) (host : Host) (names : List String) : Prop :=
  (d.file? names).isSome ∨ (d.holds names || host.holds names) = false

theorem fits_of_walk
    (hfollow : ∀ here steps, follow here steps = .ok found → d.Fits host names)
    (h : d.walk host follow here steps = .ok found) (hnames : found.names? = some names) :
    d.Fits host names := by
  fun_induction walk d host follow here steps with
  | case5 => exact hfollow _ _ h
  | _ => grind [Fits]

/-- What a path leads to for writing is no directory. -/
theorem fits_of_locate {links : Nat} (h : d.locate host links here steps = .ok found)
    (hnames : found.names? = some names) : d.Fits host names := by
  induction links generalizing here steps with
  | zero =>
    rw [locate] at h
    exact fits_of_walk (by simp) h hnames
  | succ links ih =>
    rw [locate] at h
    exact fits_of_walk (fun _ _ => ih) h hnames

/-- The steps to a file that fits lead there after the file was set, if links do. -/
theorem walk_setFile (contents : ByteArray)
    (hnext : ∀ here steps, follow here steps = .ok found →
      next here steps = .ok (.file names))
    (hfits : d.Fits host names) (h : d.walk host follow here steps = .ok found)
    (hnames : found.names? = some names) :
    (d.setFile names contents).walk host next here steps = .ok (.file names) := by
  fun_induction walk d host follow here steps with
  | case1 | case4 => grind
  | case2 here name rest hdot ih => rw [walk, if_pos hdot, ih h]
  | case3 here rest hdot ih => rw [walk, if_neg hdot, if_pos rfl, ih h]
  | case5 here name rest hdot hup hsize way link hlink =>
    rw [walk, if_neg hdot, if_neg hup, if_neg hsize]
    simp only [way] at hlink
    simp only [hlink]
    exact hnext _ _ h
  | case6 | case7 | case9 => grind [walk]
  | case8 here name rest hdot hup hsize way hdevice hlink hfile hholds ih =>
    -- A directory on the way is not what is written, so it is still one.
    have hne : way ≠ names := by grind [Fits]
    have hfile' : ¬ ((d.setFile names contents).file? way).isSome := by
      rwa [file?_setFile_of_ne hne]
    have hholds' : ((d.setFile names contents).holds way || host.holds way) = true := by
      rw [holds_setFile]
      grind
    rw [walk, if_neg hdot, if_neg hup, if_neg hsize]
    simp only [way] at hlink hdevice hfile' hholds' ih
    simp only [hlink, hdevice, if_neg hfile', if_pos hholds', ih h]

/-- The steps that led to where a file is written lead to that file afterwards. -/
theorem locate_setFile (contents : ByteArray) {links : Nat}
    (h : d.locate host links here steps = .ok found) (hnames : found.names? = some names) :
    (d.setFile names contents).locate host links here steps = .ok (.file names) := by
  have hfits := fits_of_locate h hnames
  induction links generalizing here steps with
  | zero =>
    rw [locate] at h ⊢
    exact walk_setFile contents (by simp) hfits h hnames
  | succ links ih =>
    rw [locate] at h ⊢
    exact walk_setFile contents (fun _ _ => ih) hfits h hnames

end Walk

theorem place_setFile (contents : ByteArray) (h : d.place path host = .ok found)
    (hnames : found.names? = some names) :
    (d.setFile names contents).place path host = .ok (.file names) := by
  unfold Directory.place at h ⊢
  split at h
  · cases h
  · split at h
    · cases h
    · rw [if_neg ‹_›, if_neg ‹_›]
      exact locate_setFile contents h hnames

/-! ## What writing leaves behind -/

/-- The path led to a file or a free name, leads to a file with these contents afterwards, and every
other file is as it was. -/
structure Rewritten (d : Directory) (host : Host) (path : String) (names : List String)
    (contents : ByteArray) (after : Directory) : Prop where
  place_before : ∃ found, d.place path host = .ok found ∧ found.names? = some names
  place_after : after.place path host = .ok (.file names)
  file : after.file? names = some contents
  others : ∀ other, other ≠ names → after.file? other = d.file? other

theorem rewritten_setFile (contents : ByteArray) (h : d.place path host = .ok found)
    (hnames : found.names? = some names) :
    d.Rewritten host path names contents (d.setFile names contents) where
  place_before := ⟨found, h, hnames⟩
  place_after := place_setFile contents h hnames
  file := file?_setFile_self d names contents
  others _ hne := file?_setFile_of_ne hne d contents

/-- What is in the file is read back, if the file can be read. -/
theorem Rewritten.read_eq (h : d.Rewritten host path names contents after)
    (hread : host.readFault? names = none) : after.read path host = .ok contents := by
  rw [read, h.place_after]
  simp only [bind, Except.bind, readAt, hread, h.file]

/-- How the writing of a file ends is up to the host. -/
theorem write_of_names (h : d.place path host = .ok found) (hnames : found.names? = some names) :
    d.write path contents host = d.put names contents (host.writing names contents) := by
  rw [write, h]
  cases found with
  | file | free =>
    cases hnames
    rfl
  | directory | slashed | device => cases hnames

/-- How writing at a path may end, and what it leaves behind. -/
inductive Wrote (d : Directory) (host : Host) (path : String) (contents : ByteArray) :
    Except SystemError Unit × Directory → Prop where
  | complete {names : List String} {after : Directory}
    (h : d.Rewritten host path names contents after) : Wrote d host path contents (.ok (), after)
  | broken {names : List String} {size : Nat} {e : SystemError} {after : Directory}
    (hwriting : host.writing names contents = .broken size e)
    (h : d.Rewritten host path names (contents.extract 0 size) after) :
    Wrote d host path contents (.error e, after)
  | device {device : Device} (h : d.place path host = .ok (.device device)) :
    Wrote d host path contents (device.output, d)
  | refused (e : SystemError) : Wrote d host path contents (.error e, d)

theorem wrote_put (contents : ByteArray) (h : d.place path host = .ok found)
    (hnames : found.names? = some names) :
    d.Wrote host path contents (d.put names contents (host.writing names contents)) := by
  cases hwriting : host.writing names contents with
  | complete => exact .complete (rewritten_setFile contents h hnames)
  | refused e => exact .refused e
  | broken size e => exact .broken hwriting (rewritten_setFile _ h hnames)

theorem wrote_write (d : Directory) (path : String) (contents : ByteArray) (host : Host) :
    d.Wrote host path contents (d.write path contents host) := by
  rw [write]
  cases h : d.place path host with
  | error e => exact .refused e
  | ok found =>
    cases found with
    | file names => exact wrote_put contents h rfl
    | free names => exact wrote_put contents h rfl
    | device device => exact .device h
    | directory => exact .refused _
    | slashed taken => exact .refused _

end Directory

end TaskNetwork
