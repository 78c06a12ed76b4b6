import CodeGauge.Proofs.Engine.Backfill
import CodeGauge.Proofs.Engine.Removal
import CodeGauge.Proofs.Engine.Updating
import CodeGauge.Proofs.Snapshot.Measures
import CodeGauge.Proofs.Store.Upholding

/-!
# Invariants of calls

Loading a snapshot only reads. So a call keeps an invariant of the repository, however it ends, if
the batches that it applies and the deletion that it makes keep it. What a batch may be relied on
for depends on the snapshot that its rows were measured in; therefore invariants come in families,
and after a load another member holds that fits the snapshot (`Loader.Upholds`).
-/

open Std

namespace CodeGauge

open CodeGauge.Action World

variable {ω : Type} {root : Path}

/-! ## Loading -/

section Loading

variable {I : World ω → Prop} (up : Upheld I)
include up

namespace Graph

private theorem symbolsInFiles_maintains (paths : List Path) :
    (symbolsInFiles paths : Action ω (List Symbol)).Maintains I :=
  .ite (.pure _) (.bind (up.query _ _ _) fun _ => .of _)

private theorem symbolsById_maintains (ids : ExtTreeSet Int) :
    (symbolsById ids : Action ω (List Symbol)).Maintains I :=
  .ite (.pure _) (.bind (up.query _ _ _) fun _ => .of _)

private theorem symbolsAt_maintains (ids : ExtTreeSet Int) (others : List Value) :
    (symbolsAt ids others : Action ω (List Symbol)).Maintains I :=
  .ite (symbolsById_maintains up ids)
    (.check (.throw _) (.bind (up.query _ _ _) fun _ => .of _))

private theorem touching_maintains (ids : ExtTreeSet Int) :
    (touching ids : Action ω (List Edge)).Maintains I :=
  .ite (.pure _) (.bind (up.query _ _ _) fun _ => .of _)

private theorem hashes_maintains (paths : List Path) :
    (hashes paths : Action ω (ExtTreeMap Path String)).Maintains I :=
  .ite (.pure _) (.bind (up.query _ _ _) fun _ => .pure _)

end Graph

namespace Snapshot

private theorem fresh_maintains : (fresh : Action ω Snapshot).Maintains I :=
  .bind (up.change (fun _ => rfl) fun _ => rfl) fun _ => .bind .get fun _ => .pure _

/-- To load a part of the graph keeps an invariant of the repository. -/
theorem loadPart_maintains (wanted : Affected) :
    (loadPart wanted (some root) : Action ω Snapshot).Maintains I := by
  refine .bind (fresh_maintains up) fun g => ?_
  refine .bind (.reportingGraphFaults (up.reading ?_)) fun _ => .bind .get fun _ => .of _
  exact .bind (Graph.symbolsInFiles_maintains up _) fun _ =>
    .bind (Graph.symbolsById_maintains up _) fun _ =>
      .bind (Graph.touching_maintains up _) fun _ =>
        .bind (Graph.symbolsAt_maintains up _ _) fun _ =>
          .bind (Graph.hashes_maintains up _) fun _ => .pure _

/-- To load the whole graph keeps an invariant of the repository. -/
theorem loadAll_maintains : (loadAll (some root) : Action ω Snapshot).Maintains I := by
  refine .bind (fresh_maintains up) fun g => ?_
  refine .bind (.reportingGraphFaults (up.reading ?_)) fun _ => .bind .get fun _ => .of _
  exact .bind (.bind (up.query _ _ _) fun _ => .of _) fun _ =>
    .bind (.bind (up.query _ _ _) fun _ => .of _) fun _ =>
      .bind (.bind (up.query _ _ _) fun _ => .pure _) fun _ =>
        .bind (Graph.hashes_maintains up _) fun _ => .pure _

end Snapshot

namespace Engine

private theorem staleSymbols_maintains (g : Snapshot) (files : List Path) :
    (staleSymbols g files : Action ω (ExtTreeSet Int)).Maintains I := by
  refine .foldlM (fun stale path => .ite ?_ (.pure _)) files ∅
  exact .bind (.of _) fun _ => .bind (.bind (up.query _ _ _) fun _ => .pure _) fun _ => .pure _

private theorem batchOf_maintains (a : Aggregate) (g : Snapshot) (affected : Affected) :
    (batchOf a g affected : Action ω Batch).Maintains I :=
  .bind (staleSymbols_maintains up g _) fun _ => .pure _

private theorem withStored_maintains (affected : Affected) :
    (withStored affected : Action ω Affected).Maintains I :=
  .bind (.bind (up.query _ _ _) fun _ => .of _) fun _ =>
    .bind (.bind (up.query _ _ _) fun _ => .pure _) fun _ => .pure _

end Engine

end Loading

/-- A family of invariants is kept by loading, after which a member holds that fits the snapshot and
implies the one before. -/
structure Loader.Upholds {ι : Type} (loader : Loader ω) (I : ι → World ω → Prop)
    (fits : ι → Snapshot → Prop) : Prop where
  part : ∀ i wanted, (loader.part wanted).Maintains (I i)
  whole : ∀ i, loader.whole.Maintains (I i)
  part_fits : ∀ i w wanted, I i w → (loader.part wanted).Ensures w fun g w' =>
    ∃ j, fits j g ∧ I j w' ∧ ∀ v, I j v → I i v
  whole_fits : ∀ i w, I i w → loader.whole.Ensures w fun g w' =>
    ∃ j, fits j g ∧ I j w' ∧ ∀ v, I j v → I i v

/-- The plain loader keeps any invariant of the repository. -/
theorem Loader.plain_upholds {I : World ω → Prop} (up : Upheld I) :
    (plain root : Loader ω).Upholds (fun _ : Unit => I) fun _ _ => True where
  part _ wanted := Snapshot.loadPart_maintains up wanted
  whole _ := Snapshot.loadAll_maintains up
  part_fits _ _ wanted h :=
    ((Snapshot.loadPart_maintains up wanted).ensures h).mono fun _ _ kept =>
      ⟨(), trivial, kept, fun _ => id⟩
  whole_fits _ _ h :=
    ((Snapshot.loadAll_maintains up).ensures h).mono fun _ _ kept =>
      ⟨(), trivial, kept, fun _ => id⟩

/-! ## Rows -/

/-- The symbol rows of the batch were measured in the snapshot. -/
def Batch.MeasuredIn (b : Batch) (g : Snapshot) : Prop :=
  ∀ d ∈ b.symbolRows, ∃ id now row, g.symbolMetrics id now = .ok row ∧ d = row.draft

/-- The symbol rows of an aggregate were measured. -/
theorem Batch.measuredIn_of_aggregate {g : Snapshot} {files : List Path} {symbols : List Int}
    {now : Int} {measured : List MeasuredFile} (hm : g.measureFiles files now = .ok measured)
    {a : Aggregate} (ha : g.aggregateFrom measured symbols now = .ok a) {b : Batch}
    (rows : b.symbolRows = a.symbols.map (·.draft)) : b.MeasuredIn g := by
  obtain ⟨_, symbolResults, _, answers, rfl⟩ := Snapshot.aggregateFrom_answers hm ha
  intro d mem
  rw [rows] at mem
  obtain ⟨row, among, rfl⟩ := List.mem_map.mp mem
  obtain ⟨id, _, tolerated⟩ := answers.of_row among
  exact ⟨id, now, row, (tolerateReported_eq_ok tolerated).1.symm, rfl⟩

/-! ## Rounds -/

namespace Engine

/-- The symbol rows of a batch are those of the aggregate. -/
theorem batchOf_symbolRows (a : Aggregate) (g : Snapshot) (affected : Affected) (w : World ω) :
    (batchOf a g affected).Ensures w fun b _ => b.symbolRows = a.symbols.map (·.draft) :=
  .skip fun _ _ => .pure rfl

variable {E : Engine ω}

private theorem compute_again (derive : Snapshot → Except Error Affected) (r : Round ω)
    (w : World ω) :
    (E.compute derive r).Ensures w
      (RoundEnd.Meets (fun next _ => next.deletion = r.deletion) fun _ _ => True) := by
  refine .skip fun g _ => .skip fun d _ => ?_
  dsimp only
  split
  · exact .pure rfl
  refine .skip fun w _ => .skip fun now _ => .skip fun a _ => ?_
  split
  · exact .pure rfl
  · exact .skip fun batch _ => .skip fun _ _ => .pure trivial

private theorem round_again (derive : Snapshot → Except Error Affected) (r : Round ω)
    (w : World ω) :
    (E.round derive r).Ensures w (RoundEnd.Meets
      (fun next _ => next.deletion = r.deletion ∨ next.deletion = none) fun _ _ => True) := by
  unfold round
  split
  · refine (compute_again derive r w).mono fun e _ met => ?_
    cases e with
    | again next => exact .inl met
    | done _ => trivial
  · refine .skip fun g _ => .skip fun d _ => ?_
    dsimp only
    split
    · exact .pure (.inl rfl)
    refine .skip fun _ w => (compute_again derive _ w).mono fun e _ met => ?_
    cases e with
    | again next => exact .inr met
    | done _ => trivial

/-- What every round keeps is kept by all rounds together. -/
theorem runRounds_maintains {α : Type} {I : World ω → Prop}
    {round : Round ω → Action ω (RoundEnd ω α)} {P : Round ω → Prop}
    (keeps : ∀ r, P r → (round r).Maintains I)
    (again : ∀ r w, P r →
      (round r).Ensures w (RoundEnd.Meets (fun next _ => P next) fun _ _ => True))
    (rounds : Nat) {r : Round ω} (h : P r) : (runRounds round rounds r).Maintains I := by
  induction rounds generalizing r with
  | zero => exact .throw _
  | succ rounds ih =>
    have next (w : World ω) : (round r).Ensures w fun e _ => ∀ next, e = .again next → P next := by
      refine (again r w h).mono fun e _ met next same => ?_
      subst same
      exact met
    refine (keeps r h).bind_ensured next fun e onward => ?_
    cases e with
    | again next => exact ih (onward next rfl)
    | done _ => exact .pure _

private theorem measuring_maintains {notify : Nat → Nat → Action ω Unit} {I : World ω → Prop}
    (told : ∀ m n, (notify m n).Maintains I) (g : Snapshot) (files : List Path) (now : Int) :
    (measuring g files now notify).Maintains I :=
  .mapM (fun _ => .bind (.of _) fun _ => .bind (told _ _) fun _ => .pure _) _

/-! ## Calls -/

section Calls

variable {ι : Type} {I : ι → World ω → Prop} {fits : ι → Snapshot → Prop}

private theorem after_load {α : Type} {x : Action ω Snapshot} {f : Snapshot → Action ω α} {i : ι}
    (keeps : x.Maintains (I i))
    (gives : ∀ w : World ω, I i w → x.Ensures w fun g w' =>
      ∃ j, fits j g ∧ I j w' ∧ ∀ v, I j v → I i v)
    (rest : ∀ g j, fits j g → (f g).Maintains (I j)) : (x >>= f).Maintains (I i) := by
  intro w h
  refine Maintains.bind_of_run (keeps w h) fun g w₁ run _ => ?_
  obtain ⟨j, fit, h₁, weaken⟩ := gives w h g w₁ run
  exact weaken _ (rest g j fit w₁ h₁)

variable (up : ∀ i, Upheld (I i)) (loads : E.loader.Upholds I fits)
  (applies : ∀ i g b, fits i g → b.MeasuredIn g →
    (MetricsStore.apply b : Action ω Unit).Maintains (I i))

section

include up loads applies

private theorem compute_maintains (derive : Snapshot → Except Error Affected) (r : Round ω)
    (i : ι) : (E.compute derive r).Maintains (I i) := by
  refine after_load (loads.part i _) (fun w => loads.part_fits i w _) fun g j fit => ?_
  refine .bind (.of _) fun d => ?_
  dsimp only
  refine .ite (.pure _) (.bind .get fun w => .bind (.of _) fun now => .given fun a ha => ?_)
  refine .ite (.pure _) ?_
  refine (batchOf_maintains (up j) a g r.affected).bind_ensured
    (batchOf_symbolRows a g r.affected) fun b rows => ?_
  obtain ⟨measured, hm, ha⟩ := Except.bind_eq_ok.mp ha
  exact .bind (applies j g b fit (Batch.measuredIn_of_aggregate hm ha rows)) fun _ => .pure _

private theorem round_maintains (derive : Snapshot → Except Error Affected) {r : Round ω} {i : ι}
    (deletes : ∀ x, r.deletion = some x → x.Maintains (I i)) :
    (E.round derive r).Maintains (I i) := by
  unfold round
  split
  · exact compute_maintains up loads applies derive r i
  next deletion hd =>
    refine .bind (loads.part i _) fun g => .bind (.of _) fun d => ?_
    dsimp only
    refine .ite (.pure _) (.bind (deletes deletion hd) fun _ => ?_)
    exact compute_maintains up loads applies derive _ i

/-- A recomputation keeps what its deletion keeps. -/
theorem recompute_maintains (seed : Affected) (derive : Snapshot → Except Error Affected)
    (prior : Affected) {deletion : Option (Action ω Unit)} {i : ι}
    (deletes : ∀ x, deletion = some x → x.Maintains (I i)) :
    (E.recompute seed derive prior deletion).Maintains (I i) := by
  refine .bind (loads.part i _) fun g => .bind (.of _) fun first => ?_
  refine runRounds_maintains (P := fun r => ∀ x, r.deletion = some x → x.Maintains (I i))
    (fun r => round_maintains up loads applies derive) (fun r w known => ?_) _ deletes
  refine (round_again derive r w).mono fun e _ met => ?_
  cases e with
  | again next =>
    intro x hx
    rcases met with same | none
    · exact known x (same ▸ hx)
    · rw [none] at hx
      cases hx
  | done _ => trivial

variable {notify : Nat → Nat → Action ω Unit} (told : ∀ i m n, (notify m n).Maintains (I i))
include told

private theorem backfillRound_maintains (r : Round ω) (i : ι) :
    (E.backfillRound notify r).Maintains (I i) := by
  refine after_load (loads.whole i) (fun w => loads.whole_fits i w) fun g j fit => ?_
  refine .bind (withStored_maintains (up j) _) fun current => ?_
  refine .ite (.pure _) (.bind .get fun w => .bind (.of _) fun now => ?_)
  refine .bind_ensured (measuring_maintains (told j) g g.files.keys now) (fun w =>
    (measuring_measures (I := fun _ => True) (fun _ _ _ _ _ _ _ => trivial) trivial).mono
      fun _ _ => And.left) fun measured hm => .given fun a ha => ?_
  refine .ite (.pure _) ?_
  refine (batchOf_maintains (up j) a g current).bind_ensured
    (batchOf_symbolRows a g current) fun b rows => ?_
  exact .bind (applies j g _ fit (Batch.measuredIn_of_aggregate hm ha rows)) fun _ => .pure _

/-- A backfill keeps what is kept whenever it tells how far it is. -/
theorem backfill_maintains (i : ι) : (E.backfill notify).Maintains (I i) := by
  refine .bind (loads.whole i) fun g => .bind (withStored_maintains (up i) _) fun affected => ?_
  refine runRounds_maintains (P := fun _ => True)
    (fun r _ => backfillRound_maintains up loads applies told r i) (fun r w _ => ?_) _ trivial
  intro e w' _
  cases e with
  | again next => trivial
  | done _ => trivial

end

include loads

private theorem surroundings_maintains (path : Path) (rounds : Nat) (affected : Affected) (i : ι) :
    (E.surroundings path rounds affected).Maintains (I i) := by
  induction rounds generalizing affected with
  | zero => exact .throw _
  | succ rounds ih =>
    refine .bind (loads.part i _) fun g => .bind (.of _) fun current => ?_
    exact .ite (.pure _) (ih _)

/-- To enter an update keeps the invariants that loading keeps. -/
theorem entering_maintains (path : Path) (i : ι) : (E.entering path).Maintains (I i) :=
  .bind (loads.part i _) fun _ => .bind (.of _) fun _ => surroundings_maintains loads path _ _ i

end Calls

end Engine

section Calls

variable {E : Engine ω} {ι : Type} {I : ι → World ω → Prop} {fits : ι → Snapshot → Prop}
  (up : ∀ i, Upheld (I i)) (loads : E.loader.Upholds I fits)
  (applies : ∀ i g b, fits i g → b.MeasuredIn g →
    (MetricsStore.apply b : Action ω Unit).Maintains (I i))
include up loads applies

/-- A refresh keeps the invariants that loading and writing keep. -/
theorem Refresh.run_maintains (refresh : Refresh) (i : ι) :
    (refresh.run E).Maintains (I i) := by
  rw [run_eq]
  exact Engine.recompute_maintains up loads applies _ _ _ nofun

/-- A removal keeps the invariants that loading, writing and its deletion keep. -/
theorem Removal.run_maintains (removal : Removal) {i : ι}
    (deletes : removal.deletion.Maintains (I i)) : (removal.run E).Maintains (I i) := by
  rw [run_eq]
  refine Engine.recompute_maintains up loads applies _ _ _ fun x hx => ?_
  cases hx
  exact deletes

end Calls

end CodeGauge
