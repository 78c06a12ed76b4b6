import CodeGauge.Engine.Recompute

/-!
# Updating a file

An indexer's update of one file runs as a block while the file's surroundings are held. When the
block is left, normally or by an error, what was connected to the file before or is connected to it
now is recomputed. Follows section 10.5 of the specification.
-/

namespace CodeGauge

/-- How an update ended: the block's own result and that of the recomputation that followed it. -/
structure Update (α : Type) where
  block : Except Error α
  refresh : Except Error Recomputation

namespace Update

variable {α : Type}

/-- The error that goes on outwards: the recomputation's if it failed, or else the block's. -/
def raised (u : Update α) : Option Error :=
  match u.refresh, u.block with
  | .error e, _ => some e
  | .ok _, .error e => some e
  | .ok _, .ok _ => none

/-- The statistics of the recomputation; there are none if it failed. -/
def stats (u : Update α) : Stats :=
  match u.refresh with
  | .ok r => r.stats
  | .error _ => {}

end Update

namespace Engine

variable {ω : Type}

/-- The file's surroundings, read again until a snapshot of them shows no more; `rounds` bounds the
reads. -/
def surroundings (E : Engine ω) (path : Path) : (rounds : Nat) → Affected → Action ω Affected
  | 0, _ => throw .unsettled
  | rounds + 1, affected => do
    let current ← Action.of ((← E.loader.part affected).affectedByFile path)
    if current ⊆ affected then return affected
    else E.surroundings path rounds (affected ∪ current)

/-- Run a block that updates a file, and recompute however the block ends. -/
def updatingFile {α : Type} (E : Engine ω) (path : Path) (block : Action ω α) :
    Action ω (Update α) := do
  let first ← Action.of ((← E.loader.part (.of [path] [])).affectedByFile path)
  let prior ← E.surroundings path E.maxRounds first
  let result ← block.outcome
  let refresh ← (E.refreshFile path prior).outcome
  return ⟨result, refresh⟩

end Engine

end CodeGauge
