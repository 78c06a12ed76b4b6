import CodeGauge.Error
import Std.Data.ExtTreeMap

/-!
# Disks

A disk is a tree of directories and files below a home directory, which is also the directory that
relative paths start from. The home and the directories above it always exist. A path is walked name
by name: only a directory can be gone through, a name has at most 255 bytes, and `..` goes back up.

A file is known by a number, which it keeps when it is written again. What it holds outlives its
place: a file that was removed can still be read by who knows its number.
-/

open Std

namespace CodeGauge

/-- What a name in a directory stands for. -/
inductive DiskNode where
  | directory
  | file (number : Nat)
  deriving DecidableEq

/-- A tree of directories and files by their absolute paths, what the files hold, and how many
there were. -/
structure Disk where
  home : Path
  nodes : ExtTreeMap Path DiskNode := ∅
  contents : ExtTreeMap Nat ByteArray := ∅
  fileCount : Nat := 0

namespace Disk

/-- The most bytes that a name may have. -/
def maxNameBytes : Nat := 255

/-- The most bytes that a path may have. -/
def maxPathBytes : Nat := 4095

/-- The path without names from which an absolute path is walked; two slashes are no other place
than one. -/
def top : Path :=
  ⟨.slash, [], List.forall_mem_nil _⟩

/-- The directory from which a path is walked. -/
def start (d : Disk) (p : Path) : Path :=
  if p.isAbsolute then top else d.home

/-- What is at an absolute path without `..`. -/
def node? (d : Disk) (place : Path) : Option DiskNode :=
  if place.root = d.home.root ∧ place.names <+: d.home.names then some .directory
  else d.nodes[place]?

/-- What a file holds. -/
def contentOf (d : Disk) (number : Nat) : ByteArray :=
  d.contents[number]?.getD .empty

/-- The place of a name in a directory. -/
def inner (place : Path) (s : String) (h : IsName s) : Path :=
  place / ⟨.relative, [s], by simpa using h⟩

/-- One step of a walk: `place` is the directory reached, and a name goes up, in, or nowhere. -/
def step (d : Disk) (place : Path) (s : String) (h : IsName s) : Except DiskFault Path :=
  match d.node? place with
  | some .directory =>
    if s = ".." then .ok place.parent
    else if maxNameBytes < s.utf8ByteSize then .error .nameTooLong
    else if (d.node? (inner place s h)).isSome then .ok (inner place s h)
    else .error .missing
  | some (.file _) => .error .notADirectory
  | none => .error .missing

/-- The place that names lead to from `place`. -/
def walk (d : Disk) (place : Path) (names : List String) (h : ∀ s ∈ names, IsName s) :
    Except DiskFault Path :=
  match names with
  | [] => .ok place
  | s :: rest =>
    match d.step place s (h s (by simp)) with
    | .ok next => d.walk next rest fun t ht => h t (List.mem_cons_of_mem _ ht)
    | .error e => .error e

/-- Refuse a path that no place can have: one with a character NUL, or one that is too long. -/
def check (p : Path) : Except Error Unit :=
  if p.names.any (·.toList.contains '\x00') then .error .nulInPath
  else if maxPathBytes < p.toString.utf8ByteSize then .error (.disk .nameTooLong p)
  else .ok ()

/-- The place of a path, which must exist. -/
def locate (d : Disk) (p : Path) : Except Error Path := do
  check p
  match d.walk (d.start p) p.names p.isName_of_mem with
  | .ok place => .ok place
  | .error fault => .error (.disk fault p)

/-- The content of a file. -/
def read (d : Disk) (p : Path) : Except Error ByteArray := do
  match d.node? (← d.locate p) with
  | some (.file number) => .ok (d.contentOf number)
  | some .directory => .error (.disk .isADirectory p)
  | none => .error (.disk .missing p)

/-- Whether there is something at a path, as far as one can tell: a name that is too long is an
error. -/
def holds (d : Disk) (p : Path) : Except Error Bool :=
  match d.locate p with
  | .ok _ => .ok true
  | .error (.disk .nameTooLong p) => .error (.disk .nameTooLong p)
  | .error _ => .ok false

/-- The path of the first `n` names. -/
def ancestor (p : Path) (n : Nat) : Path :=
  ⟨p.root, p.names.take n, fun s h => p.isName_of_mem s (List.mem_of_mem_take h)⟩

/-- Make the directories that are missing on the way along `names` from `place`, which is `done`
names below the start of `p`. The path struck by a fault is the whole one until a directory was
made, and later the part of it that was next. -/
def makeAlong (d : Disk) (p : Path) (place : Path) (made : Bool) (done : Nat) (names : List String)
    (h : ∀ s ∈ names, IsName s) : Except Error Disk :=
  match names with
  | [] => .ok d
  | s :: rest =>
    let struck := if made then ancestor p (done + 1) else p
    let further (d : Disk) (next : Path) (made : Bool) : Except Error Disk :=
      d.makeAlong p next made (done + 1) rest fun t ht => h t (List.mem_cons_of_mem _ ht)
    match d.step place s (h s (by simp)) with
    | .ok next =>
      match d.node? next with
      | some (.file _) =>
        .error (.disk (if made || rest.isEmpty then .exists else .notADirectory) struck)
      | _ => further d next made
    | .error .missing =>
      let next := inner place s (h s (by simp))
      further { d with nodes := d.nodes.insert next .directory } next true
    | .error fault => .error (.disk fault struck)
termination_by structural names

/-- Make a directory and all that are missing above it. -/
def makeDirectory (d : Disk) (p : Path) : Except Error Disk := do
  check p
  d.makeAlong p (d.start p) false 0 p.names p.isName_of_mem

/-- Put a new file at a place and give its number. -/
def addFile (d : Disk) (place : Path) (content : ByteArray) : Disk × Nat :=
  ({ d with
     nodes := d.nodes.insert place (.file d.fileCount)
     contents := d.contents.insert d.fileCount content
     fileCount := d.fileCount + 1 }, d.fileCount)

/-- The place of a path whose last name is missing from an existing directory. -/
def vacancy (d : Disk) (p : Path) : Except Error Path := do
  let parent ← d.locate p.parent
  match d.node? parent with
  | some .directory => .ok (parent / Path.ofString p.name)
  | _ => .error (.disk .notADirectory p)

/-- Write a file, make the directories above it, and give its number. -/
def write (d : Disk) (p : Path) (content : ByteArray) : Except Error (Disk × Nat) := do
  let d ← d.makeDirectory p.parent
  match d.locate p with
  | .ok place =>
    match d.node? place with
    | some (.file number) => .ok ({ d with contents := d.contents.insert number content }, number)
    | _ => .error (.disk .isADirectory p)
  | .error (.disk .missing _) => return d.addFile (← d.vacancy p) content
  | .error e => .error e

/-- Remove a file. -/
def remove (d : Disk) (p : Path) : Except Error Disk := do
  let place ← d.locate p
  match d.node? place with
  | some (.file _) => .ok { d with nodes := d.nodes.erase place }
  | _ => .error (.disk .isADirectory p)

end Disk

end CodeGauge
