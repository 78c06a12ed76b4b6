import CodeGauge.Engine.Backfill

/-!
# Composing and writing

A recomputation composes its batch before it writes anything to the metrics tables, and the write is
its last step. So it is the composition (`Engine.compose`, `Engine.composeBackfill`) followed by the
write (`Engine.write`), and what holds of a composed batch holds whether the write succeeds or not.
-/

open Std

namespace CodeGauge

variable {ω : Type}

/-- Write the composed batch of a recomputation. -/
def Engine.write (res : Recomputation) : Action ω Recomputation := do
  MetricsStore.apply res.batch
  return res

/-- Write the composed batch, if a round ended with one. -/
def RoundEnd.write : RoundEnd ω Recomputation → Action ω (RoundEnd ω Recomputation)
  | .again next => return .again next
  | .done res => do return .done (← Engine.write res)

namespace Engine

/-! ## Rounds that do not write -/

/-- The part of a round that follows a deletion, up to the write. -/
def composePart (E : Engine ω) (derive : Snapshot → Except Error Affected) (r : Round ω) :
    Action ω (RoundEnd ω Recomputation) := do
  let g ← E.loader.part r.affected
  let current := (← Action.of (derive g)) ∪ r.prior
  if ¬current ⊆ r.affected then
    return .again { r with affected := r.affected ∪ current }
  let now ← Action.of (← get).clock
  let a ← Action.of (g.aggregate r.affected.files.toList r.affected.symbols.toList now)
  if E.shouldRetry a r.retries then
    return .again { r with retries := r.retries + 1 }
  let batch ← batchOf a g r.affected
  return .done { affected := r.affected, snapshot := g, batch, stats := statsOf a batch r.retries }

/-- One round, up to the write. -/
def composeRound (E : Engine ω) (derive : Snapshot → Except Error Affected) (r : Round ω) :
    Action ω (RoundEnd ω Recomputation) := do
  match r.deletion with
  | none => E.composePart derive r
  | some deletion =>
    let before := (← Action.of (derive (← E.loader.part r.affected))) ∪ r.prior
    if ¬before ⊆ r.affected then
      return .again { r with affected := r.affected ∪ before }
    deletion
    E.composePart derive { r with prior := before, deletion := none }

/-- One round of a backfill, up to the write. -/
def composeAll (E : Engine ω) (notify : Nat → Nat → Action ω Unit) (r : Round ω) :
    Action ω (RoundEnd ω Recomputation) := do
  let g ← E.loader.whole
  let current ← withStored g.affectedByAll
  if ¬current ⊆ r.affected then
    return .again { r with affected := r.affected ∪ current }
  let now ← Action.of (← get).clock
  let files := g.files.keys
  let measured ← measuring g files now notify
  let a ← Action.of (g.aggregateFrom measured [] now)
  if E.shouldRetry a r.retries then
    return .again { r with retries := r.retries + 1 }
  let batch ← batchOf a g current
  let batch := { batch with
    deletedFiles := batch.deletedFiles ∪ (current.files \ .ofList files)
    deletedSymbols := batch.deletedSymbols ∪ (current.symbols \ g.complete) }
  return .done { affected := r.affected, snapshot := g, batch, stats := statsOf a batch r.retries }

/-! ## Calls that do not write -/

/-- A recomputation up to the write. -/
def compose (E : Engine ω) (seed : Affected) (derive : Snapshot → Except Error Affected)
    (prior : Affected) (deletion : Option (Action ω Unit)) : Action ω Recomputation := do
  let first ← Action.of (derive (← E.loader.part seed))
  runRounds (E.composeRound derive) E.maxRounds
    { affected := seed ∪ prior ∪ first, prior, deletion }

/-- A backfill up to the write. -/
def composeBackfill (E : Engine ω) (notify : Nat → Nat → Action ω Unit) :
    Action ω Recomputation := do
  let affected ← withStored (← E.loader.whole).affectedByAll
  runRounds (E.composeAll notify) E.maxRounds { affected, prior := ∅, deletion := none }

/-! ## The write is the last step -/

variable {E : Engine ω} {derive : Snapshot → Except Error Affected}
  {notify : Nat → Nat → Action ω Unit}

private theorem again_bind_write {c : Prop} [Decidable c] (next : Round ω)
    (x : Action ω (RoundEnd ω Recomputation)) :
    (if c then pure (.again next) else x) >>= RoundEnd.write =
      if c then pure (.again next) else x >>= RoundEnd.write := by
  split
  · rw [pure_bind, RoundEnd.write]
  · rfl

private theorem compute_eq (r : Round ω) :
    E.compute derive r = E.composePart derive r >>= RoundEnd.write := by
  simp only [compute, composePart, bind_assoc, again_bind_write, pure_bind, RoundEnd.write, write]

/-- A round composes a batch and then writes it. -/
theorem round_eq (r : Round ω) :
    E.round derive r = E.composeRound derive r >>= RoundEnd.write := by
  unfold round composeRound
  cases r.deletion with
  | none => exact compute_eq r
  | some deletion => simp only [compute_eq, bind_assoc, again_bind_write]

/-- A round of a backfill composes a batch and then writes it. -/
theorem backfillRound_eq (r : Round ω) :
    E.backfillRound notify r = E.composeAll notify r >>= RoundEnd.write := by
  simp only [backfillRound, composeAll, bind_assoc, again_bind_write, pure_bind, RoundEnd.write,
    write]

/-- Rounds that each write when they are done write once, after the last. -/
theorem runRounds_write (round : Round ω → Action ω (RoundEnd ω Recomputation)) (rounds : Nat)
    (r : Round ω) :
    runRounds (fun r => round r >>= RoundEnd.write) rounds r =
      runRounds round rounds r >>= write := by
  induction rounds generalizing r with
  | zero => rfl
  | succ rounds ih =>
    simp only [runRounds, bind_assoc]
    refine bind_congr fun e => ?_
    cases e with
    | again next => simp only [RoundEnd.write, pure_bind, ih]
    | done res => simp only [RoundEnd.write, bind_assoc, pure_bind, bind_pure]

/-- A recomputation composes and then writes. -/
theorem recompute_eq (seed prior : Affected) (deletion : Option (Action ω Unit)) :
    E.recompute seed derive prior deletion = E.compose seed derive prior deletion >>= write := by
  have rounds : E.round derive = fun r => E.composeRound derive r >>= RoundEnd.write :=
    funext round_eq
  simp only [recompute, compose, rounds, runRounds_write, bind_assoc]

/-- A backfill composes and then writes. -/
theorem backfill_eq : E.backfill notify = E.composeBackfill notify >>= write := by
  have rounds : E.backfillRound notify = fun r => E.composeAll notify r >>= RoundEnd.write :=
    funext backfillRound_eq
  simp only [backfill, composeBackfill, rounds, runRounds_write, bind_assoc]

end Engine

end CodeGauge
