import CodeGauge.Proofs.Store.Opening
import CodeGauge.Store.Graph
import CodeGauge.Store.Metrics

/-!
# Actions that load no snapshot

Only loading a snapshot takes a number. Statements, readings and deletions leave the number of loads
as it is (`Action.LoadsNothing`), so the numbers of the snapshots of a run tell how many were loaded
before.
-/

open Std

namespace CodeGauge

variable {ω α β : Type}

namespace Action

/-- The action leaves the number of loads as it is. -/
def LoadsNothing (x : Action ω α) : Prop :=
  ∀ w : World ω, (x.runIn w).2.loads = w.loads

/-- What takes no notice of the number of loads leaves it as it is. -/
theorem Blind.loadsNothing {x : Action ω α} (hx : Blind x) : LoadsNothing x := by
  intro w
  have same := congrArg (fun r => r.2.loads) (hx w w.loads)
  exact same

namespace LoadsNothing

/-- An action that loads nothing leaves the number of loads. -/
theorem ensures {x : Action ω α} (hx : LoadsNothing x) (w : World ω) :
    x.Ensures w fun _ w' => w'.loads = w.loads := by
  intro a w' run
  have same := hx w
  rw [run] at same
  exact same

/-- To give a value loads nothing. -/
theorem pure (a : α) : LoadsNothing (Pure.pure a : Action ω α) :=
  fun _ => rfl

private theorem throw (e : Error) : LoadsNothing (MonadExcept.throw e : Action ω α) :=
  fun _ => rfl

private theorem get : LoadsNothing (MonadState.get : Action ω (World ω)) :=
  fun _ => rfl

private theorem change {f : World ω → World ω} (same : ∀ w, (f w).loads = w.loads) :
    LoadsNothing (Action.change f) :=
  same

private theorem onConnection (f : Connection → Connection) :
    LoadsNothing (Action.onConnection f : Action ω Unit) :=
  change fun _ => rfl

private theorem of (r : Except Error α) : LoadsNothing (Action.of r : Action ω α) := by
  intro w
  rw [runIn_of]

/-- A sequence loads nothing if neither of its parts does. -/
theorem bind {x : Action ω α} {f : α → Action ω β} (hx : LoadsNothing x)
    (hf : ∀ a, LoadsNothing (f a)) : LoadsNothing (x >>= f) := by
  intro w
  have first := hx w
  rw [runIn_bind]
  rcases run : x.runIn w with ⟨r, w₁⟩
  rw [run] at first
  cases r with
  | error e => exact first
  | ok a => exact (hf a w₁).trans first

private theorem ite {c : Prop} [Decidable c] {x y : Action ω α} (hx : LoadsNothing x)
    (hy : LoadsNothing y) : LoadsNothing (if c then x else y) := by
  by_cases h : c
  · rw [if_pos h]
    exact hx
  · rw [if_neg h]
    exact hy

/-- A check that fails or lets the rest go on. -/
theorem check {c : Prop} [Decidable c] {x : Action ω PUnit} {rest : PUnit → Action ω α}
    (hx : LoadsNothing x) (hr : LoadsNothing (rest ())) :
    LoadsNothing (if c then x >>= rest else rest ()) :=
  ite (bind hx fun _ => hr) hr

private theorem outcome {x : Action ω α} (hx : LoadsNothing x) : LoadsNothing x.outcome := by
  intro w
  rw [runIn_outcome]
  exact hx w

/-- How faults are reported makes no difference to what is loaded. -/
theorem reportingGraphFaults {x : Action ω α} (hx : LoadsNothing x) :
    LoadsNothing x.reportingGraphFaults := by
  refine hx.outcome.bind fun r => ?_
  split
  · exact pure _
  · exact throw _
  · exact throw _

end LoadsNothing

/-! ## Statements -/

private theorem connection_loadsNothing : LoadsNothing (connection : Action ω Connection) :=
  blind_connection.loadsNothing

private theorem refuse_loadsNothing (fault : DatabaseFault) :
    LoadsNothing (refuse fault : Action ω α) :=
  .bind (.onConnection _) fun _ => .throw _

private theorem tables_loadsNothing : LoadsNothing (tables : Action ω Database) := by
  refine .bind connection_loadsNothing fun c => .bind .get fun w => ?_
  split
  · exact .pure _
  · exact refuse_loadsNothing _

private theorem requireTables_loadsNothing (statement : Statement) :
    LoadsNothing (requireTables statement : Action ω Unit) := by
  refine .bind tables_loadsNothing fun db => ?_
  split
  · exact refuse_loadsNothing _
  · exact .pure _

private theorem requireListed_loadsNothing (statement : Statement) :
    LoadsNothing (requireListed statement : Action ω Unit) := by
  refine .bind .get fun w => ?_
  split
  · exact refuse_loadsNothing _
  · exact .pure _

private theorem prepare_loadsNothing (statement : Statement) :
    LoadsNothing (prepare statement : Action ω Unit) := by
  refine .bind connection_loadsNothing fun _ => .ite (.pure _) ?_
  refine .bind (requireListed_loadsNothing _) fun _ => ?_
  refine .bind (requireTables_loadsNothing _) fun _ => ?_
  split
  · exact .bind (refuse_loadsNothing _) fun _ => .onConnection _
  · exact .onConnection _

private theorem openTransaction_loadsNothing : LoadsNothing (openTransaction : Action ω Unit) :=
  .bind connection_loadsNothing fun _ => .ite (.onConnection _) (.pure _)

private theorem commit_loadsNothing : LoadsNothing (commit : Action ω Unit) := by
  refine .bind connection_loadsNothing fun c => ?_
  split
  · split
    · exact .bind (.change fun _ => rfl) fun _ => .onConnection _
    · exact .onConnection _
  · exact .pure _

private theorem rollback_loadsNothing : LoadsNothing (rollback : Action ω Unit) :=
  .bind connection_loadsNothing fun _ => .ite (.onConnection _) (.pure _)

private theorem bind_loadsNothing (values : List Value) :
    LoadsNothing (bind values : Action ω Unit) := by
  unfold Action.bind
  split
  · split
    · exact .pure _
    · exact .onConnection _
  · refine .bind connection_loadsNothing fun c => ?_
    split
    · exact .throw _
    · exact .throw _
  · exact .bind (.onConnection _) fun _ => .throw _

private theorem query_loadsNothing (statement : Statement) (values : List Value)
    (read : Database → α) :
    LoadsNothing (query statement values read : Action ω α) :=
  .bind (prepare_loadsNothing _) fun _ => .bind (bind_loadsNothing _) fun _ =>
    .bind (requireTables_loadsNothing _) fun _ => .bind (.onConnection _) fun _ =>
      .bind tables_loadsNothing fun _ => .pure _

private theorem perform_loadsNothing (statement : Statement) (values : List Value)
    (write : Database → Except DatabaseFault (α × Database)) :
    LoadsNothing (perform statement values write : Action ω α) := by
  refine .bind (bind_loadsNothing _) fun _ => .bind (requireTables_loadsNothing _) fun _ =>
    .bind connection_loadsNothing fun c => ?_
  refine .ite ?_ (.bind (refuse_loadsNothing _) fun _ => ?_)
  all_goals
    refine .bind tables_loadsNothing fun before => ?_
    split
    · exact .bind (.onConnection _) fun _ => refuse_loadsNothing _
    · exact refuse_loadsNothing _
    · exact .bind .get fun w => .check (refuse_loadsNothing _)
        (.bind (.onConnection _) fun _ => .pure _)

private theorem updateAndCommit_loadsNothing (statement : Statement) (values : List Value)
    (write : Database → Except DatabaseFault (α × Database)) :
    LoadsNothing (updateAndCommit statement values write : Action ω α) := by
  have updates : LoadsNothing (update statement values write : Action ω α) :=
    .bind (prepare_loadsNothing _) fun _ => .bind openTransaction_loadsNothing fun _ =>
      perform_loadsNothing _ _ _
  exact .bind updates fun _ => .bind commit_loadsNothing fun _ => .pure _

/-- A reading loads nothing but what its body does. -/
theorem LoadsNothing.reading {body : Action ω α} (hb : LoadsNothing body) :
    LoadsNothing (reading body) := by
  refine .bind connection_loadsNothing fun c => .bind commit_loadsNothing fun _ =>
    .bind openTransaction_loadsNothing fun _ => .bind hb.outcome fun r => .bind .get fun w => ?_
  split
  · split
    · exact .bind rollback_loadsNothing fun _ => .of _
    · exact .bind (.throw _) fun _ => .of _
  · exact .bind (.throw _) fun _ => .of _

end Action

/-! ## Readings and deletions -/

namespace Graph

open CodeGauge.Action

/-- To read symbols by their ids takes no snapshot. -/
theorem symbolsById_loadsNothing (ids : ExtTreeSet Int) :
    LoadsNothing (symbolsById ids : Action ω (List Symbol)) :=
  .ite (.pure _) (.bind (query_loadsNothing _ _ _) fun _ => .of _)

/-- To read symbols at ends takes no snapshot. -/
theorem symbolsAt_loadsNothing (ids : ExtTreeSet Int) (others : List Value) :
    LoadsNothing (symbolsAt ids others : Action ω (List Symbol)) :=
  .ite (symbolsById_loadsNothing _)
    (.check (.throw _) (.bind (query_loadsNothing _ _ _) fun _ => .of _))

/-- To read symbols by their files takes no snapshot. -/
theorem symbolsInFiles_loadsNothing (paths : List Path) :
    LoadsNothing (symbolsInFiles paths : Action ω (List Symbol)) :=
  .ite (.pure _) (.bind (query_loadsNothing _ _ _) fun _ => .of _)

/-- To read touching edges takes no snapshot. -/
theorem touching_loadsNothing (ids : ExtTreeSet Int) :
    LoadsNothing (touching ids : Action ω (List Edge)) :=
  .ite (.pure _) (.bind (query_loadsNothing _ _ _) fun _ => .of _)

/-- To read digests takes no snapshot. -/
theorem hashes_loadsNothing (paths : List Path) :
    LoadsNothing (hashes paths : Action ω (ExtTreeMap Path String)) :=
  .ite (.pure _) (.bind (query_loadsNothing _ _ _) fun _ => .pure _)

/-- To read all symbols takes no snapshot. -/
theorem allSymbols_loadsNothing : LoadsNothing (allSymbols : Action ω (List Symbol)) :=
  .bind (query_loadsNothing _ _ _) fun _ => .of _

/-- To read all edges takes no snapshot. -/
theorem allEdges_loadsNothing : LoadsNothing (allEdges : Action ω (List Edge)) :=
  .bind (query_loadsNothing _ _ _) fun _ => .of _

/-- To read the paths of files takes no snapshot. -/
theorem filePaths_loadsNothing : LoadsNothing (filePaths : Action ω (List Path)) :=
  .bind (query_loadsNothing _ _ _) fun _ => .pure _

/-- To delete a file takes no snapshot. -/
theorem deleteFile_loadsNothing (path : Path) :
    LoadsNothing (deleteFile path : Action ω Unit) :=
  .bind (updateAndCommit_loadsNothing _ _ _) fun _ =>
    .bind (updateAndCommit_loadsNothing _ _ _) fun _ => updateAndCommit_loadsNothing _ _ _

/-- To delete a symbol with its edges takes no snapshot. -/
theorem deleteSymbolWithEdges_loadsNothing (id : Int) :
    LoadsNothing (deleteSymbolWithEdges id : Action ω Unit) :=
  .bind (updateAndCommit_loadsNothing _ _ _) fun _ =>
    .bind (.bind (updateAndCommit_loadsNothing _ _ _) fun _ => .pure _) fun _ => .pure _

end Graph

/-! ## Opening -/

/-- A repository is opened without a snapshot being loaded. -/
theorem World.Open.loads_eq {w o : World ω} {db : Database} (h : o.Open db)
    (opened : Action.connection.runIn w = Action.connection.runIn o) : o.loads = w.loads := by
  obtain ⟨c, hc, -⟩ := h
  apply Action.loads_opened
  rw [opened, Action.runIn_connection hc]

/-- To read the rows of files takes no snapshot. -/
theorem MetricsStore.files_loadsNothing : (files : Action ω (List FileMetrics)).LoadsNothing :=
  .bind (Action.query_loadsNothing _ _ _) fun _ => .of _

/-- To read the rows of symbols takes no snapshot. -/
theorem MetricsStore.symbols_loadsNothing :
    (symbols : Action ω (List SymbolMetrics)).LoadsNothing :=
  .bind (Action.query_loadsNothing _ _ _) fun _ => .pure _

end CodeGauge
