import CodeGauge.Proofs.Engine.Completion
import CodeGauge.Proofs.Engine.Fidelity

/-!
# Runs

A run is a sequence of changes of the graph, of the disk and of the time, and of calls, each of
which may succeed or fail; while a call loads a snapshot or is told how far it is, others may go on
changing the graph. However a run from an empty database goes, each stored row of a stored symbol
has the symbol's name, kind, file and sizes. For an id keeps to the symbol that it was given to
(`Step.rows_describe`).
-/

open Std

namespace CodeGauge

open CodeGauge.Action

variable {ω : Type} {E : Engine ω} {R : Register} {root : Path}

/-! ## Changes from outside -/

/-- A change of the graph, of the disk or of the time. -/
inductive Edit where
  | insertSymbol (d : Symbol.Draft)
  | deleteSymbol (id : Int)
  | deleteSymbolsInFile (path : Path)
  | clearSymbols
  | insertEdge (d : Edge.Draft)
  | deleteEdge (id : Int)
  | deleteEdgesOfSymbol (id : Int)
  | deleteEdgesOfFile (path : Path)
  | clearEdges
  | recordFile (path : Path) (hash : Option String)
  | deleteFileRecord (path : Path)
  | clearFiles
  | deleteFile (path : Path)
  | deleteSymbolWithEdges (id : Int)
  | clearStore
  | disk (disk : Disk)
  | time (clock : Except Error Int) (stamp : String)

namespace Edit

/-- Make a change; what it gives does not matter here. -/
def run : Edit → Action ω Unit
  | insertSymbol d => do let _ ← Graph.insertSymbol d
  | deleteSymbol id => do let _ ← Graph.deleteSymbol id
  | deleteSymbolsInFile path => do let _ ← Graph.deleteSymbolsInFile path
  | clearSymbols => Graph.clearSymbols
  | insertEdge d => do let _ ← Graph.insertEdge d
  | deleteEdge id => do let _ ← Graph.deleteEdge id
  | deleteEdgesOfSymbol id => do let _ ← Graph.deleteEdgesOfSymbol id
  | deleteEdgesOfFile path => do let _ ← Graph.deleteEdgesOfFile path
  | clearEdges => Graph.clearEdges
  | recordFile path hash => Graph.recordFile path hash
  | deleteFileRecord path => Graph.deleteFileRecord path
  | clearFiles => Graph.clearFiles
  | deleteFile path => Graph.deleteFile path
  | deleteSymbolWithEdges id => Graph.deleteSymbolWithEdges id
  | clearStore => CodeGauge.clearStore
  | disk d => change fun w => { w with disk := d }
  | time clock stamp => change fun w => { w with clock, stamp }

/-- Make changes one after the other, also when some of them fail. -/
def runAll (edits : List Edit) : Action ω Unit :=
  edits.forM fun edit => do let _ ← edit.run.outcome

private theorem run_keeps (edit : Edit) : Keeps R (edit.run : Action ω Unit) := by
  cases edit with
  | insertSymbol d => exact .bind (Graph.insertSymbol_keeps d) fun _ => .pure _
  | deleteSymbol id => exact .bind (Graph.deleteSymbol_keeps id) fun _ => .pure _
  | deleteSymbolsInFile path =>
    exact .bind (Graph.deleteSymbolsInFile_keeps path) fun _ => .pure _
  | clearSymbols => exact Graph.clearSymbols_keeps
  | insertEdge d => exact .bind (Graph.insertEdge_keeps d) fun _ => .pure _
  | deleteEdge id => exact .bind (Graph.deleteEdge_keeps id) fun _ => .pure _
  | deleteEdgesOfSymbol id => exact .bind (Graph.deleteEdgesOfSymbol_keeps id) fun _ => .pure _
  | deleteEdgesOfFile path => exact .bind (Graph.deleteEdgesOfFile_keeps path) fun _ => .pure _
  | clearEdges => exact Graph.clearEdges_keeps
  | recordFile path hash => exact Graph.recordFile_keeps path hash
  | deleteFileRecord path => exact Graph.deleteFileRecord_keeps path
  | clearFiles => exact Graph.clearFiles_keeps
  | deleteFile path => exact Graph.deleteFile_keeps path
  | deleteSymbolWithEdges id => exact Graph.deleteSymbolWithEdges_keeps id
  | clearStore => exact clearStore_keeps
  | disk d => exact (World.Faithful.upheld R).change (fun _ => rfl) fun _ => rfl
  | time clock stamp => exact (World.Faithful.upheld R).change (fun _ => rfl) fun _ => rfl

private theorem runAll_keeps (edits : List Edit) : Keeps R (runAll edits : Action ω Unit) :=
  .forM fun edit _ => .bind edit.run_keeps.outcome fun _ => .pure _

end Edit

/-- The loader that reads while others change the graph: before and after each snapshot, depending
on how many there were. -/
def Loader.amid (root : Path) (before after : Nat → List Edit) : Loader ω where
  part wanted := do
    Edit.runAll (before (← get).loads)
    let g ← Snapshot.loadPart wanted (some root)
    Edit.runAll (after g.id)
    return g
  whole := do
    Edit.runAll (before (← get).loads)
    let g ← Snapshot.loadAll (some root)
    Edit.runAll (after g.id)
    return g

namespace Loader

variable {before after : Nat → List Edit}

/-- Nobody changes the graph while the plain loader reads. -/
theorem plain_eq_amid :
    (plain root : Loader ω) = amid root (fun _ => []) fun _ => [] := by
  have quiet (load : Action ω Snapshot) :
      load = (do
        Edit.runAll ((fun _ => []) (← get).loads)
        let g ← load
        Edit.runAll ((fun _ => []) g.id)
        return g) :=
    calc load = load >>= pure := (bind_pure load).symm
      _ = _ := rfl
  exact congrArg₂ Loader.mk (funext fun wanted => quiet _) (quiet _)

private theorem amid_draws {load : Action ω Snapshot}
    (draws : ∀ (R : Register) (w : World ω), w.Faithful R → load.Ensures w fun g w' =>
      ∃ R' : Register, R'.Extends R ∧ w'.Faithful R' ∧ g.DrawnFrom R')
    (w : World ω) (h : w.Faithful R) :
    Action.Ensures (do
      Edit.runAll (before (← get).loads)
      let g ← load
      Edit.runAll (after g.id)
      return g) w fun g w' =>
        ∃ R' : Register, R'.Extends R ∧ w'.Faithful R' ∧ g.DrawnFrom R' := by
  refine .after runIn_get ?_
  refine ((Edit.runAll_keeps _).ensures h).bind fun _ w₁ h₁ => ?_
  refine (draws R w₁ h₁).bind fun g w₂ ⟨R', more, h₂, drawn⟩ => ?_
  refine ((Edit.runAll_keeps _).ensures h₂).bind fun _ w₃ h₃ => ?_
  exact .pure ⟨R', more, h₃, drawn⟩

private theorem amid_faithful (root : Path) (before after : Nat → List Edit) :
    (amid root before after : Loader ω).Faithful := by
  constructor
  · refine fun R wanted => .bind .get fun w => .bind (Edit.runAll_keeps _) fun _ => ?_
    refine .bind (Snapshot.loadPart_maintains (World.Faithful.upheld R) wanted) fun g => ?_
    exact .bind (Edit.runAll_keeps _) fun _ => .pure g
  · refine fun R => .bind .get fun w => .bind (Edit.runAll_keeps _) fun _ => ?_
    refine .bind (Snapshot.loadAll_maintains (World.Faithful.upheld R)) fun g => ?_
    exact .bind (Edit.runAll_keeps _) fun _ => .pure g
  · exact fun R w wanted h => amid_draws (fun R w h => Snapshot.loadPart_draws h wanted) w h
  · exact fun R w h => amid_draws (fun R w h => Snapshot.loadAll_draws h) w h

end Loader

/-! ## Runs -/

/-- A step of a run: a change from outside, the closing of the repository, or a call. During a
backfill, `told i n` is done when the `i`-th of `n` files is. The block of an update is made of
changes; `enter` goes as far as the block, so that steps after it are in the middle of an update. -/
inductive Step where
  | edit (edit : Edit)
  | close
  | refresh (refresh : Refresh)
  | refreshFiles (paths : List Path)
  | removal (removal : Removal)
  | backfill (told : Nat → Nat → List Edit)
  | enter (path : Path)
  | update (path : Path) (block : List Edit)

/-- Make a step; what a call gives does not matter here. -/
def Step.run (E : Engine ω) : Step → Action ω Unit
  | edit e => e.run
  | close => Action.close
  | refresh r => do let _ ← r.run E
  | refreshFiles paths => do let _ ← E.refreshFiles paths
  | removal r => do let _ ← r.run E
  | backfill told => do let _ ← E.backfill fun i n => Edit.runAll (told i n)
  | enter path => do let _ ← E.entering path
  | update path block => do let _ ← E.updatingFile path (Edit.runAll block)

private theorem Step.run_keeps (faithful : E.loader.Faithful) (still : R.focus = none)
    (step : Step) :
    Keeps R (step.run E) := by
  cases step with
  | edit e => exact e.run_keeps
  | close =>
    intro w h
    refine ⟨h.path, h.stored, fun c db hc => ?_, fun n on => ?_⟩
    · cases hc
    · rw [still] at on
      cases on
  | refresh r => exact .bind (r.run_keeps faithful) fun _ => .pure _
  | refreshFiles paths =>
    refine .bind (.foldlM (fun stats path => ?_) paths _) fun _ => .pure _
    exact .bind ((Refresh.file path ∅).run_keeps faithful) fun _ => .pure _
  | removal r => exact .bind (r.run_keeps faithful) fun _ => .pure _
  | backfill told =>
    refine .bind (Engine.backfill_keeps faithful fun R i n => ?_) fun _ => .pure _
    exact Edit.runAll_keeps _
  | enter path => exact .bind (Engine.entering_keeps faithful path) fun _ => .pure _
  | update path block =>
    rw [run, Engine.updatingFile_eq]
    refine .bind (.bind (Engine.entering_keeps faithful path) fun prior => ?_) fun _ => .pure _
    exact .bind (Edit.runAll_keeps block).outcome fun _ =>
      .bind ((Refresh.file path prior).run_keeps faithful).outcome fun _ => .pure _

namespace World

/-- The world after steps, each of which may have succeeded or failed. -/
def through (E : Engine ω) (w : World ω) (steps : List Step) : World ω :=
  steps.foldl (fun w step => ((step.run E).runIn w).2) w

/-- There are neither symbols nor symbol rows, and no transaction is open. -/
structure Blank (w : World ω) : Prop where
  symbols : ∀ file, (w.stored file).symbols = ∅
  rows : ∀ file, (w.stored file).symbolMetrics = ∅
  idle : w.Idle

variable {w : World ω}

private theorem Faithful.through (h : w.Faithful R) (faithful : E.loader.Faithful)
    (still : R.focus = none) (steps : List Step) : (w.through E steps).Faithful R := by
  induction steps generalizing w with
  | nil => exact h
  | cons step steps ih => exact ih (step.run_keeps faithful still w h)

/-- Whatever tables there are, their rows describe the symbols of their ids. -/
theorem Faithful.holds (h : w.Faithful R) {db : Database} (held : w.Holds db) :
    ∃ given, db.Faithful given := by
  rcases held with ⟨file, rfl⟩ | ⟨c, hc, pending⟩
  · exact ⟨_, h.stored file⟩
  · exact ⟨_, h.pending c db hc pending⟩

/-- Where there is nothing, nothing is on record. -/
theorem Blank.faithful (blank : w.Blank) : w.Faithful (.blank w.repository.path) := by
  refine ⟨rfl, fun file => ?_, fun c db hc written => ?_, nofun⟩
  · exact .empty (fun _ _ => False.elim) (blank.symbols file) (blank.rows file)
  · rw [blank.idle c hc] at written
    cases written

end World

namespace Step

variable {w : World ω}

/-- However a run from an empty database goes, at its end each row of a stored symbol describes that
symbol. And no id is given to a second symbol: of a database on the disk, an id that a symbol has
after some steps has this very symbol after more steps, or none. -/
theorem rows_describe {before after : Nat → List Edit} (amid : E.loader = .amid root before after)
    (blank : w.Blank) (steps : List Step) :
    (∀ db, (w.through E steps).Holds db →
      ∀ (id : Int) (symbol : SymbolRow) (row : SymbolMetricsRow),
        db.symbols[id]? = some symbol → db.symbolMetrics[id]? = some row → row.Describes symbol) ∧
    (Location.ofPath w.repository.path ≠ .ok .memory →
      ∀ (more : List Step) (file : Nat) (id : Int) (symbol now : SymbolRow),
        ((w.through E steps).stored file).symbols[id]? = some symbol →
          ((w.through E (steps ++ more)).stored file).symbols[id]? = some now → now = symbol) := by
  have faithful : E.loader.Faithful := amid ▸ Loader.amid_faithful root before after
  have reached := blank.faithful.through faithful rfl steps
  refine ⟨fun db held id symbol row live stored => ?_, fun onDisk more file id symbol now => ?_⟩
  · obtain ⟨given, kept⟩ := reached.holds held
    exact (kept.rows id row stored).2 symbol live
  · intro first later
    let R : Register :=
      { path := w.repository.path
        given := fun file id symbol => ((w.through E steps).stored file).symbols[id]? = some symbol
        opens := fun _ memory => absurd memory onDisk }
    have recorded : (w.through E steps).Faithful R :=
      reached.record rfl (fun _ _ _ => .inr) nofun
    have kept := recorded.through faithful rfl more
    rw [World.through, List.foldl_append] at later
    exact ((kept.stored file).given id symbol first).2 now later

/-! A function is inserted into an empty repository, and then it is metered. -/

/-- The two steps of this run. -/
def sample : List Step :=
  [.edit (.insertSymbol (Sample.offered "f" "a")), .refresh (.symbols (.ofList [(1 : Int)]))]

/-- The tables at its end. -/
def sampleTables : Database :=
  ((Sample.world {}).through Sample.engine sample).stored 2

private theorem runIn_inserting
    (insert : Database → Except DatabaseFault (Int × Database)) :
    (updateAndCommit .insertSymbol (Sample.offered "f" "a").values insert).runIn
        (Sample.world {}) =
      (updateAndCommit .insertSymbol (Sample.offered "f" "a").values fun _ => insert {}).runIn
        (Sample.world {}) := rfl

private theorem sampleTables_metered :
    sampleTables.symbols[(1 : Int)]?.isSome ∧ sampleTables.symbolMetrics[(1 : Int)]?.isSome := by
  let first : World Unit := ((updateAndCommit .insertSymbol (Sample.offered "f" "a").values
    fun _ => .ok (1, Sample.inserted)).runIn (Sample.world {})).2
  have inserted : ((Step.run Sample.engine (.edit (.insertSymbol (Sample.offered "f" "a")))).runIn
      (Sample.world {})).2 = first := by
    have same : (Graph.insertSymbol (Sample.offered "f" "a")).runIn (Sample.world {}) =
        (updateAndCommit .insertSymbol (Sample.offered "f" "a").values
          fun _ => .ok (1, Sample.inserted)).runIn (Sample.world {}) := by
      rw [← Sample.insertSymbol_offered]
      exact runIn_inserting _
    change ((Graph.insertSymbol _ >>= fun _ => pure ()).runIn (Sample.world {})).2 = _
    rw [runIn_bind, same]
    rcases run : (updateAndCommit .insertSymbol (Sample.offered "f" "a").values
      fun _ => .ok (1, Sample.inserted)).runIn (Sample.world {}) with ⟨_ | id, w₁⟩
    · exact (congrArg Prod.snd run).symm
    · exact (congrArg Prod.snd run).symm
  rw [sampleTables, sample, World.through, List.foldl_cons, inserted]
  decide +kernel

/-- After a run from an empty graph a stored row describes its symbol. -/
theorem sample_rows_describe :
    Sample.engine.loader = .amid Sample.root (fun _ => []) (fun _ => []) ∧
      (Sample.world {}).Blank ∧
      ∃ symbol row, sampleTables.symbols[(1 : Int)]? = some symbol ∧
        sampleTables.symbolMetrics[(1 : Int)]? = some row ∧ row.Describes symbol := by
  have amid : Sample.engine.loader = .amid Sample.root (fun _ => []) (fun _ => []) :=
    Loader.plain_eq_amid
  have stored (file : Nat) : (Sample.world {}).stored file = {} ∨
      (Sample.world {}).stored file = .bare := by
    by_cases own : file = 2
    · exact .inl (by simp [World.stored, Sample.world, own])
    · exact .inr (by simp [World.stored, Sample.world, Ne.symm own])
  have blank : (Sample.world {}).Blank := by
    refine ⟨fun file => ?_, fun file => ?_, .of_connection rfl rfl⟩
    · rcases stored file with same | same
      · rw [same]
      · rw [same, Database.bare]
    · rcases stored file with same | same
      · rw [same]
      · rw [same, Database.bare]
  refine ⟨amid, blank, ?_⟩
  obtain ⟨symbol, live⟩ := Option.isSome_iff_exists.mp sampleTables_metered.1
  obtain ⟨row, measured⟩ := Option.isSome_iff_exists.mp sampleTables_metered.2
  exact ⟨symbol, row, live, measured,
    (rows_describe amid blank sample).1 _ (.inl ⟨2, rfl⟩) 1 symbol row live measured⟩

end Step

end CodeGauge
