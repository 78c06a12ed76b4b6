import CodeGauge.Engine.Loader
import CodeGauge.Snapshot.Affected
import CodeGauge.Snapshot.Aggregate

/-!
# Recomputation

A recomputation keeps the metrics tables true to the graph after a change. It finds the affected
set, takes one snapshot of it, computes every row from that snapshot and writes them as one batch.
When the snapshot shows a larger affected set, the set grows and the round starts over; when a
content is not the one the graph was made from, the rows are discarded and a fresh snapshot is
tried, up to a number of retries.

How snapshots are loaded is given from outside, since others may change the graph between two loads.
Follows sections 5, 7 and 10.5 of the specification.
-/

open Std

namespace CodeGauge

/-- The two ways in which a recomputation loads a snapshot. -/
structure Loader (ω : Type) where
  part : Affected → Action ω Snapshot
  whole : Action ω Snapshot

/-- The loader that only reads. -/
def Loader.plain {ω : Type} (root : Path) : Loader ω :=
  ⟨fun wanted => Snapshot.loadPart wanted (some root), Snapshot.loadAll (some root)⟩

/-- A loader with the number of retries after an inconsistent snapshot and the number of rounds that
may go into growing. -/
structure Engine (ω : Type) where
  loader : Loader ω
  maxRetries : Nat
  patience : Nat

/-- What a finished recomputation did: the set it recomputed, the snapshot its rows come from, the
batch it wrote and the statistics. -/
structure Recomputation where
  affected : Affected
  snapshot : Snapshot
  batch : Batch
  stats : Stats

/-- The keys that were held while the batch was written. -/
def Recomputation.heldKeys (r : Recomputation) : List LockKey :=
  r.affected.lockKeys

/-- Where a round starts: the set to lock, what was connected before the change, a deletion that is
still to be done, and the retries so far. -/
structure Round (ω : Type) where
  affected : Affected
  prior : Affected
  deletion : Option (Action ω Unit)
  retries : Nat := 0

/-- How a round ends: another one follows, or the work is done. -/
inductive RoundEnd (ω α : Type) where
  | again (next : Round ω)
  | done (result : α)

/-- The paths of files that the graph no longer has. -/
def absentFiles (a : Aggregate) : List Path :=
  a.fileFailures.filterMap fun (path, e) => if e.isAbsence then some path else none

/-- The ids of symbols that the graph no longer has. -/
def absentSymbols (a : Aggregate) : List Int :=
  a.symbolFailures.filterMap fun (id, e) => if e.isAbsence then some id else none

/-- A message for each entity that keeps its previous row. -/
def keptRows (a : Aggregate) : List (String × String) :=
  (a.fileFailures.filterMap fun (path, e) =>
    if e.isAbsence then none else some (path.toString, e.message)) ++
  a.symbolFailures.filterMap fun (id, e) =>
    if e.isAbsence then none else some (toString id, e.message)

namespace Engine

variable {ω : Type}

/-- The ids of stored rows that are filed under a covered file without being one of its symbols. -/
def staleSymbols (g : Snapshot) (files : List Path) : Action ω (ExtTreeSet Int) :=
  files.foldlM (fun stale path => do
    if g.covers path then
      let live ← Action.of (g.symbolsInFile path)
      let stored ← MetricsStore.symbolIdsInFile path
      return stale ∪ (stored \ Snapshot.idSet live)
    else return stale) ∅

/-- The batch that an aggregate gives: its rows, and deletions of what is absent or stale. -/
def batchOf (a : Aggregate) (g : Snapshot) (affected : Affected) : Action ω Batch := do
  let stale ← staleSymbols g affected.files.toList
  return {
    fileRows := a.files
    symbolRows := a.symbols.map (·.draft)
    deletedFiles := .ofList (absentFiles a)
    deletedSymbols := .ofList (absentSymbols a) ∪ stale }

/-- The statistics of a written batch. -/
def statsOf (a : Aggregate) (batch : Batch) (retries : Nat) : Stats :=
  Stats.count { retries, errors := keptRows a } batch

/-- Whether a fresh snapshot is to be tried. -/
def shouldRetry (E : Engine ω) (a : Aggregate) (retries : Nat) : Bool :=
  a.isInconsistent && retries < E.maxRetries

/-- Run rounds until one is done; `rounds` bounds their number. -/
def runRounds {α : Type} (round : Round ω → Action ω (RoundEnd ω α)) :
    (rounds : Nat) → Round ω → Action ω α
  | 0, _ => throw .unsettled
  | rounds + 1, r => do
    match ← round r with
    | .again next => runRounds round rounds next
    | .done result => return result

/-- The number of rounds that an engine runs at most. -/
def maxRounds (E : Engine ω) : Nat :=
  E.maxRetries + E.patience + 1

/-! ## Recomputing what a change affects -/

/-- The part of a round that follows a deletion, if there was one: compute from one snapshot and
write. -/
def compute (E : Engine ω) (derive : Snapshot → Except Error Affected) (r : Round ω) :
    Action ω (RoundEnd ω Recomputation) := do
  let g ← E.loader.part r.affected
  let current := (← Action.of (derive g)) ∪ r.prior
  if ¬current ⊆ r.affected then
    return .again { r with affected := r.affected ∪ current }
  let now ← Action.of (← get).clock
  let a ← Action.of (g.aggregate r.affected.files.toList r.affected.symbols.toList now)
  if E.shouldRetry a r.retries then
    return .again { r with retries := r.retries + 1 }
  let batch ← batchOf a g r.affected
  MetricsStore.apply batch
  return .done { affected := r.affected, snapshot := g, batch, stats := statsOf a batch r.retries }

/-- One round. A deletion that is still to be done is done once the locked set covers its
surroundings. -/
def round (E : Engine ω) (derive : Snapshot → Except Error Affected) (r : Round ω) :
    Action ω (RoundEnd ω Recomputation) := do
  match r.deletion with
  | none => E.compute derive r
  | some deletion =>
    let before := (← Action.of (derive (← E.loader.part r.affected))) ∪ r.prior
    if ¬before ⊆ r.affected then
      return .again { r with affected := r.affected ∪ before }
    deletion
    E.compute derive { r with prior := before, deletion := none }

/-- Recompute the seed, what was connected before, and what is derived from the graph. -/
def recompute (E : Engine ω) (seed : Affected) (derive : Snapshot → Except Error Affected)
    (prior : Affected) (deletion : Option (Action ω Unit)) : Action ω Recomputation := do
  let first ← Action.of (derive (← E.loader.part seed))
  runRounds (E.round derive) E.maxRounds { affected := seed ∪ prior ∪ first, prior, deletion }

/-- Recompute a changed file, its symbols and their neighbors, and what was connected to it
before. -/
def refreshFile (E : Engine ω) (path : Path) (prior : Affected) : Action ω Recomputation :=
  E.recompute (.of [path] []) (·.affectedByFile path) prior none

/-- Recompute files one after the other and sum the statistics. -/
def refreshFiles (E : Engine ω) (paths : List Path) : Action ω Stats :=
  paths.foldlM (fun stats path => do return stats.merge (← E.refreshFile path ∅).stats) {}

/-- Recompute symbols whose edges changed, their neighbors and their files. -/
def refreshSymbols (E : Engine ω) (ids : ExtTreeSet Int) : Action ω Recomputation :=
  E.recompute ⟨∅, ids⟩ (·.affectedBySymbols ids) ∅ none

/-- Recompute the ends of edges that were added or removed. -/
def refreshEdges (E : Engine ω) (ends : List (Int × Int)) : Action ω Recomputation :=
  E.recompute (.of [] (ends.flatMap fun (caller, callee) => [caller, callee]))
    (fun g => .ok (g.affectedByEdges ends)) ∅ none

/-- Delete a file from the graph and recompute its former neighbors. -/
def removeFile (E : Engine ω) (path : Path) : Action ω Recomputation :=
  E.recompute (.of [path] []) (·.affectedByFile path) ∅ (some (Graph.deleteFile path))

/-- Delete a symbol from the graph and recompute its former neighbors. -/
def removeSymbol (E : Engine ω) (id : Int) : Action ω Recomputation :=
  E.recompute (.of [] [id]) (·.affectedBySymbols (.ofList [id])) ∅
    (some (Graph.deleteSymbolWithEdges id))

end Engine

end CodeGauge
