import CodeGauge.Disk
import CodeGauge.Store.Statement

/-!
# Worlds and actions

A world is what actions read and change: a disk, a clock, the databases by the numbers of their
files, and the repository in use, which is opened when it is first needed. An action gives a value
or an error together with the world it leaves; what was done before an error stays done.
-/

open Std

namespace CodeGauge

/-- A transaction that is open, with the tables as they are with its changes, if it made any. -/
structure Transaction where
  written : Option Database := none
  deriving DecidableEq

/-- An open database: the number of the connection and of the file, where the file was found,
whether it may be written, the transaction that is open, and what is remembered: the statements made
ready so far, and the fault of the last one if nothing has succeeded since. -/
structure Connection where
  serial : Nat
  file : Nat
  place : Option Path := none
  writes : Bool := true
  transaction : Option Transaction := none
  ready : List Statement := []
  fault : Option DatabaseFault := none
  deriving DecidableEq

/-- A database by the path that names it, and the connection to it while there is one. -/
structure Repository where
  path : Path
  connection : Option Connection := none
  deriving DecidableEq

/-- What actions read and change. `clock` is the time in seconds, or why it is not to be had;
`connections` counts those that were ever opened; `capacity` is that of the database library, which
no action changes; `others` belongs to the caller and is left alone. -/
structure World (ω : Type) where
  disk : Disk
  clock : Except Error Int
  stamp : String
  loads : Nat := 0
  databases : ExtTreeMap Nat Database := ∅
  repository : Repository
  connections : Nat := 0
  capacity : Capacity := .wide
  others : ω

namespace World

variable {ω : Type}

/-- The most bytes of a file in which there is nothing. -/
def emptyBytes : Nat := 1

/-- The tables that were committed to a file. An empty file has none, and any other that no table
was written to is no database. -/
def committed (w : World ω) (file : Nat) : Except DatabaseFault Database :=
  match w.databases[file]? with
  | some db => .ok db
  | none => if (w.disk.contentOf file).size ≤ emptyBytes then .ok .bare else .error .notADatabase

/-- The tables as a connection sees them. -/
def tables (w : World ω) (c : Connection) : Except DatabaseFault Database :=
  match c.transaction.bind (·.written) with
  | some db => .ok db
  | none => w.committed c.file

/-- Whether a connection's file is no longer where it was found. -/
def hasMoved (w : World ω) (c : Connection) : Bool :=
  match c.place with
  | some place => w.disk.node? place != some (.file c.file)
  | none => false

/-- The world with the connection changed, if there is one. -/
def onConnection (w : World ω) (f : Connection → Connection) : World ω :=
  { w with repository := { w.repository with connection := w.repository.connection.map f } }

/-- The world with the repository closed; what is pending on it is lost. -/
def closing (w : World ω) : World ω :=
  { w with repository := { w.repository with connection := none } }

/-- The world with a file written anew. What was a database is one no more. -/
def writing (w : World ω) (p : Path) (content : ByteArray) : Except Error (World ω) := do
  let (disk, number) ← w.disk.write p content
  return { w with disk, databases := w.databases.erase number }

end World

/-- A step that may fail and leaves a world in any case. -/
abbrev Action (ω : Type) (α : Type) : Type :=
  ExceptT Error (StateM (World ω)) α

namespace Action

variable {ω α : Type}

/-- Run an action in a world. -/
def runIn (action : Action ω α) (w : World ω) : Except Error α × World ω :=
  action.run.run w

/-- Change the world and nothing else. -/
def change (f : World ω → World ω) : Action ω Unit :=
  modify f

/-- A result computed without the world. -/
def of (r : Except Error α) : Action ω α :=
  match r with
  | .ok a => pure a
  | .error e => throw e

/-- Run an action and then change the world, however the action ended. -/
def ending (action : Action ω α) (f : World ω → World ω) : Action ω α :=
  ExceptT.mk fun w =>
    let (r, w) := action.runIn w
    (r, f w)

/-- The result of an action, its error included, as a value. -/
def outcome (action : Action ω α) : Action ω (Except Error α) :=
  ExceptT.mk fun w =>
    let (r, w) := action.runIn w
    (.ok r, w)

/-- The action with a fault of the database reported as a graph that could not be read. -/
def reportingGraphFaults (action : Action ω α) : Action ω α := do
  match ← action.outcome with
  | .ok a => return a
  | .error (.database fault) => throw (.graphUnreadable fault)
  | .error e => throw e

/-- Close the repository in use. -/
def close : Action ω Unit :=
  change World.closing

/-- Change the connection, if there is one. -/
def onConnection (f : Connection → Connection) : Action ω Unit :=
  change (·.onConnection f)

/-- Remember a fault and fail with it. -/
def refuse (fault : DatabaseFault) : Action ω α := do
  onConnection fun c => { c with fault := some fault }
  throw (.database fault)

end Action

end CodeGauge
