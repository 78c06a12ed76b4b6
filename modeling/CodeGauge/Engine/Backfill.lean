import CodeGauge.Engine.Recompute

/-!
# Backfill

A backfill recomputes every file and symbol of the graph and deletes the rows of all others. Follows
sections 4.2 and 10.5 of the specification.
-/

open Std

namespace CodeGauge.Engine

variable {ω : Type}

/-- The set with the entities of all stored rows added. -/
def withStored (affected : Affected) : Action ω Affected := do
  let files ← MetricsStore.files
  let symbols ← MetricsStore.symbols
  return affected ∪ .of (files.map (·.path)) (symbols.map (·.symbolId))

/-- Measure the given files in path order, all at one time. `notify` is told of each as soon as it
is done, out of how many. -/
def measuring (g : Snapshot) (files : List Path) (now : Int)
    (notify : Nat → Nat → Action ω Unit) : Action ω (List MeasuredFile) :=
  ((inPathOrder files).zipIdx 1).mapM fun (path, i) => do
    let m ← Action.of (g.measureFile now path)
    notify i files.length
    return m

/-- One round of a backfill. -/
def backfillRound (E : Engine ω) (notify : Nat → Nat → Action ω Unit) (r : Round ω) :
    Action ω (RoundEnd ω Recomputation) := do
  let g ← E.loader.whole
  let current ← withStored g.affectedByAll
  if ¬current ⊆ r.affected then
    return .again { r with affected := r.affected ∪ current }
  let now ← Action.of (← get).clock
  let files := g.files.keys
  let measured ← measuring g files now notify
  let a ← Action.of (g.aggregateFrom measured [] now)
  if E.shouldRetry a r.retries then
    return .again { r with retries := r.retries + 1 }
  let batch ← batchOf a g current
  let batch := { batch with
    deletedFiles := batch.deletedFiles ∪ (current.files \ .ofList files)
    deletedSymbols := batch.deletedSymbols ∪ (current.symbols \ g.complete) }
  MetricsStore.apply batch
  return .done { affected := r.affected, snapshot := g, batch, stats := statsOf a batch r.retries }

/-- Recompute everything. `notify` is told of each file that is done, out of how many. -/
def backfill (E : Engine ω) (notify : Nat → Nat → Action ω Unit := fun _ _ => pure ()) :
    Action ω Recomputation := do
  let affected ← withStored (← E.loader.whole).affectedByAll
  runRounds (E.backfillRound notify) E.maxRounds { affected, prior := ∅, deletion := none }

end CodeGauge.Engine
