import CodeGauge.Lock.Key
import CodeGauge.Text.Quoted
import Std.Data.ExtTreeMap

/-!
# Lock tables

A lock table has an entry for each key that some block holds: the lock of the key, made when the
first block takes it, and the number of blocks that hold it; the entry goes when the last of them is
left. Blocks are nested, may hold keys again that an outer block holds, and give back what they took
however they are left. Within one thread a lock is never waited for, so what is left of holding is
the table. Follows sections 5 and 10.5 of the specification.
-/

open Std

namespace CodeGauge

/-- What a table has for a key: its lock and the number of its holders. -/
structure LockEntry where
  lock : Nat
  users : Nat
  deriving DecidableEq, Repr

/-- The keys in force, each with its entry. Locks are numbered in the order in which they are
made. -/
structure LockTable where
  entries : ExtTreeMap LockKey LockEntry := ∅
  made : Nat := 0

namespace LockTable

/-- The table in which no key is in force. -/
instance : EmptyCollection LockTable := ⟨{}⟩

/-- The number of keys in force. -/
def size (table : LockTable) : Nat :=
  table.entries.size

/-- One more holder of a key; the first one has the lock made. -/
def checkOut (table : LockTable) (key : LockKey) : LockTable :=
  match table.entries[key]? with
  | some entry =>
    { table with entries := table.entries.insert key { entry with users := entry.users + 1 } }
  | none =>
    { entries := table.entries.insert key { lock := table.made, users := 1 }
      made := table.made + 1 }

/-- One holder less of a key; the last one takes the entry along. There is no answer for a key
without an entry. -/
def checkIn (table : LockTable) (key : LockKey) : Option LockTable :=
  match table.entries[key]? with
  | some entry =>
    if entry.users ≤ 1 then some { table with entries := table.entries.erase key }
    else
      some { table with
        entries := table.entries.insert key { entry with users := entry.users - 1 } }
  | none => none

/-- Check keys in one after the other, up to the first that has no entry. -/
def checkInAll (table : LockTable) : List LockKey → Option LockKey × LockTable
  | [] => (none, table)
  | key :: rest =>
    match table.checkIn key with
    | some left => left.checkInAll rest
    | none => (some key, table)

/-- Take each of the keys once. -/
def enter (table : LockTable) (keys : ExtTreeSet LockKey) : LockTable :=
  keys.toList.foldl checkOut table

/-- Give each of the keys back once; a key that has no entry is told. -/
def leave (table : LockTable) (keys : ExtTreeSet LockKey) : Option LockKey × LockTable :=
  table.checkInAll keys.toList

end LockTable

/-- Blocks that hold keys around inner blocks and may fail after them, and blocks from which no
failure goes on outwards. -/
inductive LockBlock where
  | holding (keys : List LockKey) (inner : List LockBlock) (failure : Option String)
  | attempt (inner : List LockBlock)
  deriving Inhabited

/-- Why a block is left early: it failed itself, or a key to give back had no entry. -/
inductive LockFailure where
  | raised (reason : String)
  | missing (key : LockKey)
  deriving DecidableEq, Repr

/-- The text that a failure is shown by. -/
def LockFailure.text : LockFailure → String
  | .raised reason => reason
  | .missing key => s!"({Text.quoted key.kind}, {Text.quoted key.text})"

/-- What is seen from outside: the number of keys in force, or a failure that no block caught. -/
inductive LockEvent where
  | held (count : Nat)
  | raised (reason : String)
  deriving DecidableEq, Repr

/-- How a run of blocks ends: what was seen, the failure that goes on outwards, and the
table left. -/
structure LockRun where
  events : List LockEvent
  failure : Option LockFailure
  table : LockTable

mutual

/-- Enter a block, run what it holds its keys around, and leave it. A key that is missing when the
block is left replaces the failure on its way outwards. -/
def LockBlock.run (table : LockTable) : LockBlock → LockRun
  | .holding keys inner failure =>
    let keys := ExtTreeSet.ofList keys
    let entered := table.enter keys
    let body := LockBlock.runInner entered inner
    let (missed, left) := body.table.leave keys
    { events := .held entered.size :: body.events
      failure := missed.map .missing <|> body.failure <|> failure.map .raised
      table := left }
  | .attempt inner =>
    { LockBlock.runInner table inner with failure := none }

/-- Run the inner blocks one after the other up to the first that fails. -/
def LockBlock.runInner (table : LockTable) : List LockBlock → LockRun
  | [] => ⟨[], none, table⟩
  | block :: rest =>
    let first := block.run table
    match first.failure with
    | some failure => ⟨first.events, some failure, first.table⟩
    | none =>
      let others := LockBlock.runInner first.table rest
      ⟨first.events ++ .held first.table.size :: others.events, others.failure, others.table⟩

end

/-- Run top-level blocks; a failure is seen there and the next block runs. -/
def LockBlock.runAll (table : LockTable) : List LockBlock → List LockEvent
  | [] => []
  | block :: rest =>
    let first := block.run table
    first.events ++ (first.failure.map fun failure => .raised failure.text).toList ++
      .held first.table.size :: LockBlock.runAll first.table rest

end CodeGauge
