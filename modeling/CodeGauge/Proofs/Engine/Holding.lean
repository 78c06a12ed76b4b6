import CodeGauge.Engine.Updating
import CodeGauge.Proofs.Action
import CodeGauge.Proofs.Engine.Guarding
import CodeGauge.Proofs.Lock.Balance

/-!
# Runs that hold their keys

Within one thread a lock is never waited for, so the actions of an engine leave the lock table out.
Here they are run once more beside one: each round holds the keys of the set that it works on, the
surroundings of an updated file are held while its block runs, and what the table has at a write or
around a block is noted in a ledger. The table changes nothing of what an action gives or of the
world that it leaves (`HeldAction.Follows`), it has its entries back however the action ends, and
whenever a batch is written it has one holder more of each of the keys of the recomputation
(`Engine.heldRecompute_follows`, `Engine.heldBackfill_follows`, `Engine.heldUpdating_follows`).
-/

open Std

namespace CodeGauge

/-- What was noted at one point of a run: the keys that are to be held there, and the table. -/
structure LockNotice where
  keys : List LockKey
  table : LockTable

/-- The lock table, and what has been noted so far. -/
structure LockLedger where
  table : LockTable
  notices : List LockNotice

/-- What goes on outwards from a block that holds keys: an error of the action inside of it, or a
key that had no entry any more when the block was left. -/
inductive HeldFailure where
  | error (e : Error)
  | missing (key : LockKey)

/-- A step that may fail and leaves a ledger and a world in any case. -/
abbrev HeldAction (ω α : Type) : Type :=
  ExceptT HeldFailure (StateM (LockLedger × World ω)) α

namespace HeldAction

variable {ω α β : Type}

/-- Run an action beside a ledger. -/
def runBeside (x : HeldAction ω α) (ledger : LockLedger) (w : World ω) :
    Except HeldFailure α × LockLedger × World ω :=
  x.run.run (ledger, w)

/-- An action that has nothing to do with the table. -/
def beside (x : Action ω α) : HeldAction ω α :=
  ExceptT.mk fun (ledger, w) =>
    let (r, w) := x.runIn w
    (r.mapError .error, ledger, w)

/-- Note the keys that are to be held now, and the table as it is. -/
def note (keys : List LockKey) : HeldAction ω Unit :=
  modify fun (ledger, w) =>
    ({ ledger with notices := ledger.notices ++ [⟨keys, ledger.table⟩] }, w)

/-- Run an action with keys held around it. They are given back however it ends, and a key that is
missing then replaces what goes on outwards. -/
def holding (keys : List LockKey) (x : HeldAction ω α) : HeldAction ω α :=
  ExceptT.mk fun (ledger, w) =>
    let keys := ExtTreeSet.ofList keys
    let (r, inside, w) := x.runBeside { ledger with table := ledger.table.enter keys } w
    let (missed, left) := inside.table.leave keys
    (missed.elim r fun key => .error (.missing key), { inside with table := left }, w)

/-- What goes on outwards when errors are values: a missing key only. -/
def asValue : Except HeldFailure α → Except HeldFailure (Except Error α)
  | .ok a => .ok (.ok a)
  | .error (.error e) => .ok (.error e)
  | .error (.missing key) => .error (.missing key)

/-- The result of an action, its error included, as a value. -/
def outcome (x : HeldAction ω α) : HeldAction ω (Except Error α) :=
  ExceptT.mk fun (ledger, w) =>
    let (r, ledger, w) := x.runBeside ledger w
    (asValue r, ledger, w)

private theorem runBeside_bind (x : HeldAction ω α) (f : α → HeldAction ω β) (ledger : LockLedger)
    (w : World ω) : (x >>= f).runBeside ledger w =
      match x.runBeside ledger w with
      | (.ok a, ledger, w) => (f a).runBeside ledger w
      | (.error e, ledger, w) => (.error e, ledger, w) := by
  change ExceptT.bindCont f (x.runBeside ledger w).1 (x.runBeside ledger w).2 = _
  rcases x.runBeside ledger w with ⟨r, ledger', w'⟩
  cases r with
  | error e => rfl
  | ok a => rfl

/-- Keys that are all found leave what is inside of them as it is. -/
theorem runBeside_holding {keys : List LockKey} {x : HeldAction ω α} {ledger inside : LockLedger}
    {w w' : World ω} {r : Except HeldFailure α} {left : LockTable}
    (run : x.runBeside { ledger with table := ledger.table.enter (.ofList keys) } w =
      (r, inside, w'))
    (found : inside.table.leave (.ofList keys) = (none, left)) :
    (holding keys x).runBeside ledger w = (r, { inside with table := left }, w') := by
  have unfolded : (holding keys x).runBeside ledger w =
      match x.runBeside { ledger with table := ledger.table.enter (.ofList keys) } w with
      | (r, inside, w) =>
        match inside.table.leave (.ofList keys) with
        | (missed, left) =>
          (missed.elim r fun key => .error (.missing key), { inside with table := left }, w) := rfl
  rw [unfolded, run]
  dsimp only
  rw [found]
  rfl

/-! ## Following a plain action -/

/-- Beside a table that counts the entered blocks, the action gives what the plain one gives and
leaves the same world. The table gets its entries back, and of the result and what was newly noted
`N` holds. -/
def Follows (x : HeldAction ω α) (y : Action ω α) (entered : List (ExtTreeSet LockKey))
    (N : Except Error α → List LockNotice → Prop) : Prop :=
  ∀ (ledger : LockLedger) (w : World ω), ledger.table.Counts entered → ∃ table new,
    x.runBeside ledger w =
      ((y.runIn w).1.mapError .error, ⟨table, ledger.notices ++ new⟩, (y.runIn w).2) ∧
    table.entries = ledger.table.entries ∧ N (y.runIn w).1 new

namespace Follows

variable {entered : List (ExtTreeSet LockKey)} {keys : List LockKey} {x : HeldAction ω α}
  {y : Action ω α} {N : Except Error α → List LockNotice → Prop}

/-- A plain action notes nothing. -/
theorem beside (noted : ∀ w, N (y.runIn w).1 []) : (beside y).Follows y entered N := by
  intro ledger w _
  refine ⟨ledger.table, [], ?_, rfl, noted w⟩
  rw [List.append_nil]
  rfl

private theorem pure {a : α} (noted : N (.ok a) []) :
    (Pure.pure a : HeldAction ω α).Follows (Pure.pure a) entered N := by
  intro ledger w _
  refine ⟨ledger.table, [], ?_, rfl, noted⟩
  rw [List.append_nil]
  rfl

private theorem throw {e : Error} (noted : N (.error e) []) :
    (MonadExcept.throw (.error e) : HeldAction ω α).Follows (MonadExcept.throw e) entered N := by
  intro ledger w _
  refine ⟨ledger.table, [], ?_, rfl, noted⟩
  rw [List.append_nil]
  rfl

/-- A sequence follows a sequence part by part, and notes what both parts note. -/
theorem bind {f : α → HeldAction ω β} {g : α → Action ω β}
    {M : Except Error β → List LockNotice → Prop} (h : x.Follows y entered N)
    (stop : ∀ e new, N (.error e) new → M (.error e) new)
    (rest : ∀ a new, N (.ok a) new →
      (f a).Follows (g a) entered fun r later => M r (new ++ later)) :
    (x >>= f).Follows (y >>= g) entered M := by
  intro ledger w counts
  obtain ⟨table, new, run, same, noted⟩ := h ledger w counts
  rw [runBeside_bind, run, Action.runIn_bind]
  rcases first : y.runIn w with ⟨r, w₁⟩
  rw [first] at noted
  cases r with
  | error e => exact ⟨table, new, rfl, same, stop e new noted⟩
  | ok a =>
    obtain ⟨table', later, run', same', noted'⟩ :=
      rest a new noted ⟨table, ledger.notices ++ new⟩ w₁ (counts.congr same)
    refine ⟨table', new ++ later, ?_, same'.trans same, noted'⟩
    rw [← List.append_assoc]
    exact run'

/-- What comes after a plain action notes all that is noted. -/
theorem after {z : Action ω β} {f : β → HeldAction ω α} {g : β → Action ω α}
    (stop : ∀ e, N (.error e) []) (rest : ∀ b, (f b).Follows (g b) entered N) :
    (HeldAction.beside z >>= f).Follows (z >>= g) entered N := by
  refine .bind (.beside (N := fun _ new => new = []) fun _ => rfl) ?_ ?_
  · rintro e _ rfl
    exact stop e
  · rintro b _ rfl
    exact rest b

/-- A note is of a table that counts the entered blocks. -/
theorem note {f : Unit → HeldAction ω α}
    (rest : ∀ table : LockTable, table.Counts entered →
      (f ()).Follows y entered fun r later => N r (⟨keys, table⟩ :: later)) :
    (HeldAction.note keys >>= f).Follows y entered N := by
  intro ledger w counts
  obtain ⟨table, later, run, same, noted⟩ :=
    rest ledger.table counts ⟨ledger.table, ledger.notices ++ [⟨keys, ledger.table⟩]⟩ w counts
  refine ⟨table, ⟨keys, ledger.table⟩ :: later, ?_, same, noted⟩
  rw [List.append_assoc] at run
  exact run

/-- Keys that are held around an action are counted inside of it and gone after it. -/
theorem holding (h : x.Follows y (.ofList keys :: entered) N) :
    (holding keys x).Follows y entered N := by
  intro ledger w counts
  obtain ⟨table, new, run, same, noted⟩ := h { ledger with
    table := ledger.table.enter (.ofList keys) } w (counts.enter _)
  obtain ⟨left, done, restored⟩ := LockTable.exists_leave_enter counts.used same
  exact ⟨left, new, runBeside_holding run done, restored, noted⟩

private theorem outcome {M : Except Error (Except Error α) → List LockNotice → Prop}
    (h : x.Follows y entered N) (noted : ∀ r new, N r new → M (.ok r) new) :
    x.outcome.Follows y.outcome entered M := by
  intro ledger w counts
  obtain ⟨table, new, run, same, told⟩ := h ledger w counts
  refine ⟨table, new, ?_, same, noted _ _ told⟩
  have unfolded : x.outcome.runBeside ledger w =
      (asValue (x.runBeside ledger w).1, (x.runBeside ledger w).2) := rfl
  rw [unfolded, run, Action.runIn_outcome]
  rcases y.runIn w with ⟨r, w₁⟩
  cases r with
  | error e => rfl
  | ok a => rfl

end Follows

end HeldAction

namespace Engine

open HeldAction

variable {ω α : Type}

/-! ## Engines that hold their keys -/

/-- Rounds of which each composes a batch and writes it while the keys of its set are held. -/
def heldRounds (compose : Round ω → Action ω (RoundEnd ω Recomputation)) :
    (rounds : Nat) → Round ω → HeldAction ω Recomputation
  | 0, _ => throw (.error .unsettled)
  | rounds + 1, r => do
    match ← holding r.affected.lockKeys (writing (compose r)) with
    | .again next => heldRounds compose rounds next
    | .done res => return res
where
  /-- Compose, and note what is held before the write. -/
  writing (compose : Action ω (RoundEnd ω Recomputation)) :
      HeldAction ω (RoundEnd ω Recomputation) := do
    match ← beside compose with
    | .again next => return .again next
    | .done res =>
      note res.heldKeys
      return .done (← beside (write res))

/-- A recomputation of which each round holds the keys of its set. -/
def heldRecompute (E : Engine ω) (seed : Affected) (derive : Snapshot → Except Error Affected)
    (prior : Affected) (deletion : Option (Action ω Unit)) : HeldAction ω Recomputation := do
  let first ← beside (E.loader.part seed >>= fun g => Action.of (derive g))
  heldRounds (E.composeRound derive) E.maxRounds
    { affected := seed ∪ prior ∪ first, prior, deletion }

/-- A backfill of which each round holds the keys of its set. -/
def heldBackfill (E : Engine ω) (notify : Nat → Nat → Action ω Unit) :
    HeldAction ω Recomputation := do
  let affected ← beside (E.loader.whole >>= fun g => withStored g.affectedByAll)
  heldRounds (E.composeAll notify) E.maxRounds { affected, prior := ∅, deletion := none }

/-- A block that runs while the keys of a file's surroundings are held, once a snapshot of them
shows no more. -/
def heldSurroundings (E : Engine ω) (path : Path) (block : Action ω α) :
    (rounds : Nat) → Affected → HeldAction ω (Affected × Except Error α)
  | 0, _ => throw (.error .unsettled)
  | rounds + 1, affected => do
    match ← holding affected.lockKeys (covered affected) with
    | .inl current => E.heldSurroundings path block rounds (affected ∪ current)
    | .inr ended => return ended
where
  /-- What a snapshot shows beyond the set, or how the block ended. -/
  covered (affected : Affected) : HeldAction ω (Affected ⊕ Affected × Except Error α) := do
    let current ← beside (E.loader.part affected >>= fun g => Action.of (g.affectedByFile path))
    if current ⊆ affected then
      note affected.lockKeys
      return .inr (affected, ← beside block.outcome)
    else return .inl current

/-- An update of a file with its surroundings held around the block, and the set of each round
around what follows. -/
def heldUpdating (E : Engine ω) (path : Path) (block : Action ω α) : HeldAction ω (Update α) := do
  let first ← beside
    (E.loader.part (.of [path] []) >>= fun g => Action.of (g.affectedByFile path))
  let (prior, result) ← E.heldSurroundings path block E.maxRounds first
  let refresh ← (E.heldRecompute (.of [path] []) (·.affectedByFile path) prior none).outcome
  return ⟨result, refresh⟩

/-! ## What is held at a write -/

/-- A recomputation that failed before it wrote noted nothing. One that wrote, or failed in that,
noted the keys that it held and a table with one holder of each beside the entered blocks. -/
inductive HoldsAtWrite (entered : List (ExtTreeSet LockKey)) :
    Except Error Recomputation → List LockNotice → Prop
  | unwritten (e : Error) : HoldsAtWrite entered (.error e) []
  | refused (e : Error) (res : Recomputation) (table : LockTable)
      (counts : table.Counts (.ofList res.heldKeys :: entered)) :
      HoldsAtWrite entered (.error e) [⟨res.heldKeys, table⟩]
  | written (res : Recomputation) (table : LockTable)
      (counts : table.Counts (.ofList res.heldKeys :: entered)) :
      HoldsAtWrite entered (.ok res) [⟨res.heldKeys, table⟩]

-- The same of one round, which may also go on to the next without a note.
private def RoundHolds (entered : List (ExtTreeSet LockKey)) :
    Except Error (RoundEnd ω Recomputation) → List LockNotice → Prop
  | .ok (.again _), new => new = []
  | .ok (.done res), new => HoldsAtWrite entered (.ok res) new
  | .error e, new => HoldsAtWrite entered (.error e) new

variable {E : Engine ω} {entered : List (ExtTreeSet LockKey)}
  {compose : Round ω → Action ω (RoundEnd ω Recomputation)}

/-- A batch is composed for the set that its round locked. -/
def OfLocked (compose : Round ω → Action ω (RoundEnd ω Recomputation)) : Prop :=
  ∀ r w, (compose r).Ensures w
    (RoundEnd.Meets (fun _ _ => True) fun res _ => res.affected = r.affected)

private theorem write_follows {res : Recomputation} {table : LockTable}
    (counts : table.Counts (.ofList res.heldKeys :: entered)) :
    (beside (write res) >>= fun res => pure (.done res) :
      HeldAction ω (RoundEnd ω Recomputation)).Follows (RoundEnd.write (.done res))
      (.ofList res.heldKeys :: entered)
      fun r later => RoundHolds entered r (⟨res.heldKeys, table⟩ :: later) := by
  have same (w : World ω) : (write res).Ensures w fun res' _ => res' = res :=
    .skip fun _ _ => .pure rfl
  refine .bind (.beside (N := fun r new => new = [] ∧ ∀ res', r = .ok res' → res' = res)
    fun w => ⟨rfl, fun res' gave => same w res' _ (Prod.ext gave rfl)⟩) ?_ ?_
  · rintro e new ⟨rfl, _⟩
    exact .refused e res table counts
  · rintro res' new ⟨rfl, own⟩
    cases own res' rfl
    exact .pure (.written res table counts)

private theorem writing_follows (set : OfLocked compose) (r : Round ω) :
    (holding r.affected.lockKeys (heldRounds.writing (compose r))).Follows
      (compose r >>= RoundEnd.write) entered (RoundHolds entered) := by
  refine .holding (.bind (.beside (N := fun e new => new = [] ∧ ∀ res, e = .ok (.done res) →
    res.affected = r.affected) fun w => ⟨rfl, fun res gave => ?_⟩) ?_ ?_)
  · exact set r w _ _ (Prod.ext gave rfl)
  · rintro e new ⟨rfl, _⟩
    exact .unwritten e
  · rintro e new ⟨rfl, own⟩
    cases e with
    | again next => exact .pure rfl
    | done res =>
      have keys : r.affected.lockKeys = res.heldKeys := by
        rw [Recomputation.heldKeys, own res rfl]
      rw [keys]
      exact .note fun table counts => write_follows counts

private theorem heldRounds_follows (set : OfLocked compose) (rounds : Nat) (r : Round ω) :
    (heldRounds compose rounds r).Follows
      (runRounds (fun r => compose r >>= RoundEnd.write) rounds r) entered
      (HoldsAtWrite entered) := by
  induction rounds generalizing r with
  | zero => exact .throw (.unwritten .unsettled)
  | succ rounds ih =>
    refine .bind (writing_follows set r) (fun e new holds => holds) fun e new holds => ?_
    cases e with
    | again next =>
      cases holds
      exact ih next
    | done res =>
      refine .pure ?_
      rw [List.append_nil]
      exact holds

/-! ## Calls -/

private theorem composePart_ofLocked (derive : Snapshot → Except Error Affected) :
    OfLocked (E.composePart derive) := by
  intro r w
  refine .skip fun g _ => .skip fun d _ => ?_
  dsimp only
  split
  · exact .pure trivial
  refine .skip fun _ _ => .skip fun now _ => .skip fun a _ => ?_
  split
  · exact .pure trivial
  · exact .skip fun batch _ => .pure rfl

private theorem composeRound_ofLocked (derive : Snapshot → Except Error Affected) :
    OfLocked (E.composeRound derive) := by
  intro r w
  unfold composeRound
  split
  · exact composePart_ofLocked derive r w
  · refine .skip fun g _ => .skip fun d _ => ?_
    dsimp only
    split
    · exact .pure trivial
    · exact .skip fun _ _ => composePart_ofLocked derive _ _

private theorem composeAll_ofLocked (notify : Nat → Nat → Action ω Unit) :
    OfLocked (E.composeAll notify) := by
  intro r w
  refine .skip fun g _ => .skip fun current _ => ?_
  dsimp only
  split
  · exact .pure trivial
  refine .skip fun _ _ => .skip fun now _ => .skip fun measured _ => .skip fun a _ => ?_
  split
  · exact .pure trivial
  · exact .skip fun batch _ => .pure rfl

/-- A recomputation that holds its keys gives what it gives without, and holds the key of every
file and symbol of its set at the write. -/
theorem heldRecompute_follows (seed : Affected) (derive : Snapshot → Except Error Affected)
    (prior : Affected) (deletion : Option (Action ω Unit)) :
    (E.heldRecompute seed derive prior deletion).Follows (E.recompute seed derive prior deletion)
      entered (HoldsAtWrite entered) := by
  have rounds : E.round derive = fun r => E.composeRound derive r >>= RoundEnd.write :=
    funext round_eq
  rw [recompute, rounds, ← bind_assoc]
  exact .after .unwritten fun first => heldRounds_follows (composeRound_ofLocked derive) _ _

/-- A backfill that holds its keys gives what it gives without, and holds the key of every file and
symbol of its set at the write. -/
theorem heldBackfill_follows (notify : Nat → Nat → Action ω Unit) :
    (E.heldBackfill notify).Follows (E.backfill notify) entered (HoldsAtWrite entered) := by
  have rounds : E.backfillRound notify = fun r => E.composeAll notify r >>= RoundEnd.write :=
    funext backfillRound_eq
  rw [backfill, rounds, ← bind_assoc]
  exact .after .unwritten fun affected => heldRounds_follows (composeAll_ofLocked notify) _ _

/-- An update noted the keys of the file's surroundings, and a table with one holder of each, before
its block ran, and then what the recomputation after it noted. -/
inductive HoldsInUpdate (entered : List (ExtTreeSet LockKey)) :
    Except Error (Update α) → List LockNotice → Prop
  | unentered (e : Error) : HoldsInUpdate entered (.error e) []
  | done (u : Update α) (prior : Affected) (table : LockTable) (later : List LockNotice)
      (counts : table.Counts (.ofList prior.lockKeys :: entered))
      (holds : HoldsAtWrite entered u.refresh later) :
      HoldsInUpdate entered (.ok u) (⟨prior.lockKeys, table⟩ :: later)

-- What is noted around the block.
private def BlockHolds (entered : List (ExtTreeSet LockKey)) :
    Except Error (Affected × Except Error α) → List LockNotice → Prop
  | .ok (prior, _), new => ∃ table : LockTable,
    new = [⟨prior.lockKeys, table⟩] ∧ table.Counts (.ofList prior.lockKeys :: entered)
  | .error _, new => new = []

section Updating

variable {path : Path} {block : Action ω α}

-- Run the block around which a set is held, if a snapshot shows no more.
private def covering (E : Engine ω) (path : Path) (block : Action ω α) (affected : Affected) :
    Action ω (Affected ⊕ Affected × Except Error α) := do
  let current ← E.loader.part affected >>= fun g => Action.of (g.affectedByFile path)
  if current ⊆ affected then return .inr (affected, ← block.outcome) else return .inl current

private theorem surroundings_bind_outcome (rounds : Nat) (affected : Affected) :
    (E.surroundings path (rounds + 1) affected >>= fun prior =>
      block.outcome >>= fun result => pure (prior, result)) =
    E.covering path block affected >>= fun
      | .inl current => E.surroundings path rounds (affected ∪ current) >>= fun prior =>
          block.outcome >>= fun result => pure (prior, result)
      | .inr ended => pure ended := by
  simp only [surroundings, covering, bind_assoc]
  refine bind_congr fun g => bind_congr fun current => ?_
  split
  · simp only [pure_bind, bind_assoc]
  · simp only [pure_bind]

private theorem covered_follows (affected : Affected) :
    (holding affected.lockKeys (heldSurroundings.covered E path block affected)).Follows
      (E.covering path block affected) entered fun
        | .ok (.inl _), new => new = []
        | .ok (.inr ended), new => BlockHolds entered (.ok ended) new
        | .error _, new => new = [] := by
  refine .holding (.after (fun e => rfl) fun current => ?_)
  split
  · refine .note fun table counts => ?_
    refine .bind (.beside (N := fun r new => new = [] ∧ ∃ result, r = .ok result)
      fun w => ⟨rfl, _, rfl⟩) ?_ ?_
    · rintro e new ⟨-, result, none⟩
      cases none
    · rintro result new ⟨rfl, -⟩
      exact .pure ⟨table, rfl, counts⟩
  · exact .pure rfl

private theorem heldSurroundings_follows (rounds : Nat) (affected : Affected) :
    (E.heldSurroundings path block rounds affected).Follows
      (E.surroundings path rounds affected >>= fun prior =>
        block.outcome >>= fun result => pure (prior, result)) entered (BlockHolds entered) := by
  induction rounds generalizing affected with
  | zero => exact .throw rfl
  | succ rounds ih =>
    rw [surroundings_bind_outcome]
    refine .bind (covered_follows affected) (fun _ _ noted => noted) fun e new noted => ?_
    cases e with
    | inl current =>
      cases noted
      exact ih (affected ∪ current)
    | inr ended =>
      refine .pure ?_
      rw [List.append_nil]
      exact noted

/-- An update that holds its keys gives what it gives without. The keys of the file's surroundings
are held while the block runs, and those of the set of the recomputation at its write. -/
theorem heldUpdating_follows :
    (E.heldUpdating path block).Follows (E.updatingFile path block) entered
      (HoldsInUpdate entered) := by
  have plain : E.updatingFile path block =
      (E.loader.part (.of [path] []) >>= fun g => Action.of (g.affectedByFile path)) >>=
        fun first => (E.surroundings path E.maxRounds first >>= fun prior =>
          block.outcome >>= fun result => pure (prior, result)) >>=
        fun ended => (E.recompute (.of [path] []) (·.affectedByFile path) ended.1 none).outcome >>=
          fun refresh => pure ⟨ended.2, refresh⟩ := by
    simp only [updatingFile, refreshFile, bind_assoc, pure_bind]
  rw [plain]
  refine .after .unentered fun first => ?_
  refine .bind (heldSurroundings_follows E.maxRounds first) ?_ ?_
  · rintro e _ rfl
    exact .unentered e
  rintro ⟨prior, result⟩ _ ⟨table, rfl, counts⟩
  refine .bind (N := fun r new => ∃ refresh, r = .ok refresh ∧ HoldsAtWrite entered refresh new)
    (.outcome (heldRecompute_follows _ _ _ _) fun r new holds => ⟨r, rfl, holds⟩) ?_ ?_
  · rintro e new ⟨refresh, none, -⟩
    cases none
  · rintro refresh new ⟨_, same, holds⟩
    cases same
    refine .pure (.done ⟨result, refresh⟩ prior table _ counts ?_)
    rw [List.append_nil]
    exact holds

end Updating

end Engine

/-! ## Rows and holders -/

/-- The table has a holder for each key of the innermost block. -/
theorem LockTable.Counts.users_pos {table : LockTable} {keys : List LockKey}
    {entered : List (ExtTreeSet LockKey)} (counts : table.Counts (.ofList keys :: entered))
    {key : LockKey} (mem : key ∈ keys) : 0 < table.users key := by
  rw [users_pos_iff counts.used, counts.mem_iff]
  refine ⟨_, List.mem_cons_self, ?_⟩
  rw [ExtTreeSet.mem_ofList, List.contains_iff_mem]
  exact mem

/-- While a guarded batch is written, there is a holder of the key of each file that it touches, of
the file of each symbol that it writes, and of the symbol or the file of each row that it
deletes. -/
theorem Recomputation.Guarded.users_pos {res : Recomputation} {tables : Database}
    (guarded : res.Guarded tables) {table : LockTable} {entered : List (ExtTreeSet LockKey)}
    (counts : table.Counts (.ofList res.heldKeys :: entered)) :
    (∀ path, res.batch.TouchesFile path → 0 < table.users (.ofFile path.toString)) ∧
      (∀ d ∈ res.batch.symbolRows, ∃ id symbol, d.symbolId = some id ∧
        tables.symbols[id]? = some symbol ∧ 0 < table.users (.ofFile symbol.file)) ∧
      ∀ id row, tables.symbolMetrics[id]? = some row → res.batch.DeletesSymbol id row →
        0 < table.users (.ofSymbol id) ∨ 0 < table.users (.ofFile row.path) := by
  refine ⟨fun path touched => counts.users_pos (guarded.file path touched), ?_, ?_⟩
  · intro d mem
    obtain ⟨id, symbol, own, stored, held⟩ := guarded.written d mem
    exact ⟨id, symbol, own, stored, counts.users_pos held⟩
  · intro id row stored deleted
    exact (guarded.deleted id row stored deleted).imp counts.users_pos counts.users_pos

end CodeGauge
