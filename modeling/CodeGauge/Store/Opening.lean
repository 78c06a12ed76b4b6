import CodeGauge.Store.Location
import CodeGauge.World

/-!
# Opening a database

A repository is opened when it is first needed. Its file is made with the directories above it, and
the tables that it lacks are made; a file that holds anything else is refused, and refuses every
statement afterwards. Follows section 10.1 of the specification.
-/

open Std

namespace CodeGauge

namespace Disk

/-- The most bytes that the absolute path of a database may have. -/
def maxDatabasePathBytes : Nat := 504

/-- The most bytes that the name of a database may have, so that there is room for a journal
beside it. -/
def maxDatabaseNameBytes : Nat := 247

/-- The file of a database by its absolute path without `..`, made if that is allowed, its place and
its number. -/
def databaseFile (d : Disk) (p : Path) (creates : Bool) :
    Except DatabaseFault (Disk × Path × Nat) :=
  if maxDatabasePathBytes < p.toString.utf8ByteSize then .error .cannotOpen
  else
    match d.locate p with
    | .ok place =>
      match d.node? place with
      | some (.file number) => .ok (d, place, number)
      | _ => .error .cannotOpen
    | .error (.disk .missing _) =>
      match creates, d.vacancy p with
      | true, .ok place =>
        let (d, number) := d.addFile place .empty
        .ok (d, place, number)
      | _, _ => .error .cannotOpen
    | .error _ => .error .cannotOpen

end Disk

namespace Action

variable {ω α : Type}

/-- Connect the repository to a file. -/
def connectTo (file : Nat) (place : Option Path) (writes : Bool) : Action ω Unit :=
  change fun w =>
    let connection : Connection := { serial := w.connections + 1, file, place, writes }
    { w with
      connections := w.connections + 1
      repository := { w.repository with connection := some connection } }

/-- Connect the repository to the database at a location. -/
def connectAt (path : Path) (location : Location) : Action ω Unit := do
  let disk := (← get).disk
  match location with
  | .memory =>
    change fun w => { w with
      disk := { w.disk with fileCount := w.disk.fileCount + 1 }
      databases := w.databases.insert w.disk.fileCount .bare }
    connectTo disk.fileCount none true
  | .file p opening =>
    if path.names.any (·.toList.contains '\x00') then throw .nulInPath
    match disk.databaseFile (disk.home / p).resolved opening.creates with
    | .error fault => throw (.database fault)
    | .ok (disk, place, number) =>
      change fun w => { w with disk }
      connectTo number (some place) opening.writes

/-- Make the tables that a connection's file lacks. -/
def makeTables (c : Connection) : Action ω Unit := do
  if (c.place.map (·.name.utf8ByteSize)).any (Disk.maxDatabaseNameBytes < ·) then
    throw (.database .cannotOpen)
  match (← get).committed c.file with
  | .error fault => throw (.database fault)
  | .ok db =>
    unless db.dropped.isEmpty do
      unless c.writes do throw (.database .readOnly)
      change fun w => { w with databases := w.databases.insert c.file db.withAllTables }

/-- The connection of the repository, which is opened if it is not. -/
def connection : Action ω Connection := do
  let repository := (← get).repository
  match repository.connection with
  | some c => return c
  | none =>
    let disk ← of ((← get).disk.makeDirectory repository.path.parent)
    change fun w => { w with disk }
    match Location.ofPath repository.path with
    | .error fault => throw (.database fault)
    | .ok location =>
      connectAt repository.path location
      match (← get).repository.connection with
      | some c =>
        makeTables c
        return c
      | none => throw .closedConnection

/-- Open the repository, unless it is open. -/
def openRepository : Action ω Unit := do
  let _ ← connection

/-- Run a body on the database that a path names, close it however the body ends, and go back to the
repository in use before. -/
def withRepository (path : Path) (body : Action ω α) : Action ω α := do
  let outer := (← get).repository
  change fun w => { w with repository := { path } }
  ending body fun w => { w with repository := outer }

end Action

end CodeGauge
