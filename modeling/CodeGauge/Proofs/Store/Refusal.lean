import CodeGauge.Proofs.Metrics.Stored
import CodeGauge.Proofs.Store.Confined
import CodeGauge.Proofs.Store.Opening
import CodeGauge.Proofs.Store.Reading

/-!
# Batches that fail

A batch that the database refuses is rolled back and leaves no trace. A batch may also fail because
of what is in it: a number that no column can hold, or a score that cannot be computed. Then nothing
is rolled back, and the part of the batch that was written before stays pending until it is
committed or forgotten. In no case does a batch that fails commit anything itself.
-/

open Std

namespace CodeGauge

variable {ω α : Type}

namespace Batch

/-- A value that a statement is given for the batch. -/
def Binds (b : Batch) (v : Value) : Prop :=
  (∃ id ∈ b.deletedSymbols, v = .int id) ∨
  (∃ row ∈ b.fileRows, ∃ score, v ∈ row.values score) ∨
  ∃ d ∈ b.symbolRows, v = .ofInt? d.symbolId ∨ v ∈ d.values

/-- The batch cannot be written, whatever the tables: no column can hold one of its values, or a
score cannot be computed. -/
def Unstorable (b : Batch) (e : Error) : Prop :=
  (e = .beyondColumn ∧ ∃ v, b.Binds v ∧ Action.fits v = false) ∨
  ∃ row ∈ b.fileRows, row.score = .error e

private theorem Unstorable.ne_batchRefused {b : Batch} {e : Error} (h : b.Unstorable e)
    (fault : DatabaseFault) : e ≠ .batchRefused fault := by
  rintro rfl
  obtain ⟨no, _⟩ | ⟨row, _, failed⟩ := h
  · cases no
  · cases Unreported.score row _ failed

/-- The part has the first rows and some of the deletions of the batch, but not all. -/
structure ProperPart (part b : Batch) : Prop where
  fileRows : part.fileRows <+: b.fileRows
  symbolRows : part.symbolRows <+: b.symbolRows
  deletedFiles : ∀ path ∈ part.deletedFiles, path ∈ b.deletedFiles
  deletedSymbols : ∀ id ∈ part.deletedSymbols, id ∈ b.deletedSymbols
  ne : part ≠ b

/-- A part of the batch has been written, but not all of it. -/
def PartlyWrittenTo (b : Batch) (db db' : Database) : Prop :=
  ∃ part : Batch, part.ProperPart b ∧ part.WrittenTo db db'

namespace PartlyWrittenTo

variable {b : Batch} {db db₁ db₂ : Database}

private theorem hasIds_of_nil (none : b.symbolRows = []) :
    ∀ d ∈ b.symbolRows, ∃ id, d.symbolId = some id := by
  rw [none]
  exact fun _ mem => (List.not_mem_nil mem).elim

private theorem ids {done rest : List Int} {id : Int}
    (split : b.deletedSymbols.toList = done ++ id :: rest) :
    b.PartlyWrittenTo db (db.withoutIds done) := by
  have listed (k : Int) : k ∈ done ↔ k ∈ ExtTreeSet.ofList done := by
    rw [ExtTreeSet.mem_ofList, List.contains_iff_mem]
  refine ⟨{ deletedSymbols := .ofList done }, ⟨List.nil_prefix, List.nil_prefix, nofun, ?_, ?_⟩, ?_⟩
  · intro k mem
    rw [← ExtTreeSet.mem_toList, split]
    exact List.mem_append_left _ ((listed k).mpr mem)
  · intro same
    have mem : id ∈ b.deletedSymbols := by
      rw [← ExtTreeSet.mem_toList, split]
      exact List.mem_append_right _ List.mem_cons_self
    rw [← same, ← listed] at mem
    have once := nodup_toList b.deletedSymbols
    rw [split] at once
    exact (List.nodup_append.mp once).2.2 id mem id List.mem_cons_self rfl
  · have noFiles (p : Path) : p ∈ [] ↔ p ∈ (∅ : ExtTreeSet Path) :=
      ⟨nofun, fun mem => (ExtTreeSet.not_mem_empty mem).elim⟩
    apply Batch.Updates.writtenTo
    exact Database.updates (hasIds_of_nil rfl) listed noFiles rfl rfl rfl

private theorem deletions (rows : b.fileRows ≠ []) :
    b.PartlyWrittenTo db
      ((db.withoutIds b.deletedSymbols.toList).withoutFiles b.deletedFiles.toList) := by
  refine ⟨{ deletedFiles := b.deletedFiles, deletedSymbols := b.deletedSymbols },
    ⟨List.nil_prefix, List.nil_prefix, fun _ mem => mem, fun _ mem => mem, ?_⟩, ?_⟩
  · intro same
    rw [← same] at rows
    exact rows rfl
  · apply Batch.Updates.writtenTo
    exact Database.updates (hasIds_of_nil rfl) (fun _ => ExtTreeSet.mem_toList)
      (fun _ => ExtTreeSet.mem_toList) rfl rfl rfl

private theorem fileRows {scored done rest : List (FileMetrics × Binary64)}
    {x : FileMetrics × Binary64}
    (scores : (b.fileRows.mapM fun row => do return (row, ← row.score)) = .ok scored)
    (split : scored = done ++ x :: rest)
    (run : done.foldlM (fun db x => (db.putFileMetrics x.1 x.2).map (·.2))
      ((db.withoutIds b.deletedSymbols.toList).withoutFiles b.deletedFiles.toList) = .ok db₁) :
    b.PartlyWrittenTo db db₁ := by
  have rows : b.fileRows = done.map (·.1) ++ x.1 :: rest.map (·.1) := by
    rw [← Database.map_fst_scored scores, split, List.map_append, List.map_cons]
  have made : (done.map (·.1)).mapM (fun row => do return (row, ← row.score)) = .ok done := by
    refine mapM_map_eq_ok fun y mem => ?_
    have own : y ∈ scored := by
      rw [split]
      exact List.mem_append_left _ mem
    rw [((Database.mem_scored scores y).mp own).2]
    rfl
  refine ⟨{ b with fileRows := done.map (·.1), symbolRows := [] },
    ⟨⟨_, rows.symm⟩, List.nil_prefix, fun _ mem => mem, fun _ mem => mem, ?_⟩, ?_⟩
  · intro same
    rw [← same] at rows
    simp at rows
  · apply Batch.Updates.writtenTo
    exact Database.updates (hasIds_of_nil rfl) (fun _ => ExtTreeSet.mem_toList)
      (fun _ => ExtTreeSet.mem_toList) made run rfl

private theorem symbolRows {scored : List (FileMetrics × Binary64)}
    {done rest : List SymbolMetrics.Draft} {d : SymbolMetrics.Draft}
    (hasIds : ∀ d ∈ b.symbolRows, ∃ id, d.symbolId = some id)
    (scores : (b.fileRows.mapM fun row => do return (row, ← row.score)) = .ok scored)
    (files : scored.foldlM (fun db x => (db.putFileMetrics x.1 x.2).map (·.2))
      ((db.withoutIds b.deletedSymbols.toList).withoutFiles b.deletedFiles.toList) = .ok db₁)
    (split : b.symbolRows = done ++ d :: rest)
    (run : done.foldlM (fun db d => (db.putSymbolMetrics d).map (·.2)) db₁ = .ok db₂) :
    b.PartlyWrittenTo db db₂ := by
  refine ⟨{ b with symbolRows := done },
    ⟨List.prefix_rfl, ⟨_, split.symm⟩, fun _ mem => mem, fun _ mem => mem, ?_⟩, ?_⟩
  · intro same
    rw [← same] at split
    simp at split
  · have ids : ∀ d ∈ done, ∃ id, d.symbolId = some id := by
      intro d hd
      apply hasIds d
      rw [split]
      exact List.mem_append_left _ hd
    apply Batch.Updates.writtenTo
    exact Database.updates ids (fun _ => ExtTreeSet.mem_toList)
      (fun _ => ExtTreeSet.mem_toList) scores files run

end PartlyWrittenTo

/-- How a batch that failed with `e` left a repository that was open in `w`. Nothing was committed.
If the database refused the batch, only what the connection remembers tells that it was tried.
Otherwise it cannot be written to any tables, and a part of it is pending. -/
structure FailedWith (b : Batch) (e : Error) (w w' : World ω) : Prop where
  uncommitted : w.Uncommitted w'
  refused : ∀ fault, e = .batchRefused fault → w.Alike w'
  unstorable : (∀ fault, e ≠ .batchRefused fault) → b.Unstorable e ∧
    ∀ db, w.Open db → (∀ d ∈ b.symbolRows, ∃ id, d.symbolId = some id) →
      ∃ db', b.PartlyWrittenTo db db' ∧ w'.Open db'

/-- If the repository is closed next, whatever the cause, nothing is left of a batch that failed. -/
theorem FailedWith.closing {b : Batch} {e : Error} {w w' : World ω} (h : b.FailedWith e w w') :
    w'.closing = w.closing :=
  h.uncommitted.closing

end Batch

namespace MetricsStore

open CodeGauge.Action World

variable {w w' : World ω} {db : Database} {b : Batch}

private theorem updateEach_confined (statement : Statement) (rows : List α)
    (values : α → List Value)
    (write : Database → α → Except DatabaseFault (Unit × Database)) :
    (updateEach statement rows values write : Action ω Unit).Confined fun e =>
      e.IsFault ∨ e = .beyondColumn ∧ ∃ row ∈ rows, ∃ v ∈ values row, fits v = false := by
  refine .bind ((prepare_confined statement).mono fun _ => .inl) fun _ => ?_
  refine .bind openTransaction_confined fun _ => .forM fun row mem => ?_
  refine (perform_confined statement (values row) (write · row)).mono fun e stops => ?_
  exact stops.imp_right fun ⟨same, v, hv, unfit⟩ => ⟨same, row, mem, v, hv, unfit⟩

/-- No fault other than of the database stops the deletion of files. -/
theorem deletePaths_confined (paths : List Path) :
    (paths.forM fun path => do
      let file := path.toString
      let _ ← update .deleteSymbolMetricsInFile [.text file] fun db =>
        .ok (db.removeSymbolMetricsInFile file)
      update .deleteFileMetrics [.text file] fun db =>
        .ok ((), db.removeFileMetrics file) : Action ω Unit).Confined Error.IsFault := by
  have isFault (file : String) (e : Error) (stops : Stops [.text file] e) : e.IsFault := by
    refine stops.resolve_right fun ⟨_, v, hv, unfit⟩ => ?_
    rw [List.mem_singleton] at hv
    subst hv
    cases unfit
  refine .forM fun path _ => .bind ((update_confined _ _ _).mono (isFault _)) fun _ => ?_
  exact (update_confined _ _ _).mono (isFault _)

/-- The writes of a batch commit nothing, and only a fault of the database stops them unless the
batch cannot be written at all. -/
theorem writeBatch_confined (b : Batch) :
    (writeBatch b : Action ω Unit).Confined fun e => e.IsFault ∨ b.Unstorable e := by
  refine .bind (.forM fun id mem => ?_) fun _ =>
    .bind ((deletePaths_confined _).mono fun _ => .inl) fun _ =>
    .given (fun e failed => .inr (.inr ?_)) fun scored scores => .bind ?_ fun _ => ?_
  · refine .bind ((update_confined _ _ _).mono fun e stops => stops.imp_right ?_) fun _ => .pure ()
    intro ⟨same, v, hv, unfit⟩
    rw [List.mem_singleton] at hv
    exact .inl ⟨same, v, .inl ⟨id, ExtTreeSet.mem_toList.mp mem, hv⟩, unfit⟩
  · have ⟨row, mem, failed⟩ := exists_of_mapM_eq_error failed
    refine ⟨row, mem, (Except.bind_eq_error.mp failed).resolve_right ?_⟩
    intro ⟨score, _, no⟩
    cases no
  · refine (updateEach_confined _ _ _ _).mono fun e stops => stops.imp_right ?_
    intro ⟨same, (row, score), mem, v, hv, unfit⟩
    refine .inl ⟨same, v, .inr (.inl ⟨row, ((Database.mem_scored scores _).mp mem).1, score, ?_⟩),
      unfit⟩
    refine (List.mem_cons.mp hv).resolve_left fun text => ?_
    subst text
    cases unfit
  · refine (updateEach_confined _ _ _ _).mono fun e stops => stops.imp_right ?_
    intro ⟨same, d, mem, v, hv, unfit⟩
    exact .inl ⟨same, v, .inr (.inr ⟨d, mem, List.mem_cons.mp hv⟩), unfit⟩

/-! ## What a part of a batch has written -/

/-- Rows that are written one after the other stop at one of them, with those before it written. -/
theorem updateEach_fails (h : w.Open db) (statement : Statement) (rows : List α)
    (values : α → List Value) (write : Database → α → Except DatabaseFault (Unit × Database)) :
    (updateEach statement rows values write).Fails w fun e w' => e.IsFault ∨
      ∃ done row rest db', rows = done ++ row :: rest ∧
        done.foldlM (fun db a => (write db a).map (·.2)) db = .ok db' ∧ w'.Open db' := by
  have ⟨_, hc, _⟩ := h
  refine .bind (((prepare_confined statement).fails hc).mono fun _ _ => .inl)
    (prepare_ensures h statement) fun _ w₁ h₁ => ?_
  have ⟨_, hc₁, _⟩ := h₁.open h
  refine .bind ((openTransaction_confined.fails hc₁).mono fun _ _ => .inl)
    (openTransaction_ensures (h₁.open h)) fun _ w₂ h₂ => .forM fun done row rest w₃ split run => ?_
  have ⟨db', ran, h₃⟩ := performEach_ensures statement done values write h₂.isOpen _ _ run
  refine (perform_fails h₃.isOpen statement (values row) (write · row)).mono fun e w' failed => ?_
  exact failed.imp_right fun shown => ⟨done, row, rest, db', split, ran, shown⟩

/-- A batch that no fault of the database stops has been written in part. -/
theorem writeBatch_fails (hasIds : ∀ d ∈ b.symbolRows, ∃ id, d.symbolId = some id)
    (h : w.Open db) :
    (writeBatch b).Fails w fun e w' =>
      e.IsFault ∨ ∃ db', b.PartlyWrittenTo db db' ∧ w'.Open db' := by
  refine .bind (.forM fun done id rest w₁ split run => ?_)
    (deleteIds_ensures b.deletedSymbols.toList h) fun _ w₁ h₁ => ?_
  · have shown := (deleteIds_ensures done h _ _ run).isOpen
    refine .bind ((update_fails shown _ _ _).mono fun e w' failed => failed.imp_right ?_)
      (P := fun _ _ => True) (fun _ _ _ => trivial) fun _ _ _ => .never rfl
    exact fun shown' => ⟨_, .ids split, shown'⟩
  have ⟨_, hc₁, _⟩ := h₁.isOpen
  refine .bind (((deletePaths_confined _).fails hc₁).mono fun _ _ => .inl)
    (deletePaths_ensures b.deletedFiles.toList h₁.isOpen) fun _ w₂ h₂ => ?_
  cases scores : b.fileRows.mapM fun row => do return (row, ← row.score) with
  | error e =>
    have rows : b.fileRows ≠ [] := by
      intro none
      rw [none] at scores
      cases scores
    exact .stop (.throw (.inr ⟨_, .deletions rows, h₂.isOpen⟩)) (.throw e) _
  | ok scored =>
    refine .after (runIn_of _) ?_
    refine .bind ((updateEach_fails h₂.isOpen _ _ _ _).mono fun e w' failed => failed.imp_right ?_)
      (updateEach_ensures _ _ _ _ h₂.isOpen) ?_
    · intro ⟨done, x, rest, db', split, run, shown⟩
      exact ⟨db', .fileRows scores split run, shown⟩
    · intro _ w₃ ⟨db₃, files, h₃⟩
      refine (updateEach_fails h₃.isOpen _ _ _ _).mono fun e w' failed => failed.imp_right ?_
      intro ⟨done, d, rest, db', split, run, shown⟩
      exact ⟨db', .symbolRows hasIds scores files split run, shown⟩

/-! ## Rolling back -/

/-- An open repository can be committed. -/
theorem commit_fails {c : Connection} (hc : w.repository.connection = some c) :
    commit.Fails w fun _ _ => False := by
  refine .after (runIn_connection hc) ?_
  cases c.transaction with
  | none => exact .never rfl
  | some t =>
    dsimp only
    cases t.written with
    | none => exact .never (runIn_onConnection _)
    | some written => exact .after (runIn_change _) (.never (runIn_onConnection _))

/-- A rollback undoes what was not committed since no transaction was open. -/
theorem exists_runIn_rollback {c : Connection} (hc : w.repository.connection = some c)
    (idle : c.transaction = none) (h : w.Uncommitted w') :
    ∃ w'', rollback.runIn w' = (.ok (), w'') ∧ w.Alike w'' := by
  obtain ⟨transaction, ready, fault, rfl⟩ := h
  have undone (fault : Option DatabaseFault) :
      w.Alike (w.onConnection fun c => { c with transaction := none, ready, fault }) := by
    refine ⟨ready, fault, ?_⟩
    rw [World.onConnection, World.onConnection, hc, Option.map_some, Option.map_some, idle]
  have opened := connection_onConnection hc fun c => { c with transaction, ready, fault }
  rw [rollback, runIn_bind_of_ok (runIn_connection opened)]
  cases transaction with
  | none => exact ⟨_, rfl, undone fault⟩
  | some t =>
    refine ⟨_, rfl, ?_⟩
    simpa [World.onConnection, Option.map_map, Function.comp_def] using undone none

/-! ## Applying a batch -/

/-- Writing and committing a batch fails where the writing does, before the commit. -/
theorem writeAndCommit_fails {c : Connection} (hc : w.repository.connection = some c) :
    (do writeBatch b; commit : Action ω Unit).Fails w fun e w' =>
      w.Uncommitted w' ∧ (e.IsFault ∨ b.Unstorable e ∧
        ∀ db, w.Open db → (∀ d ∈ b.symbolRows, ∃ id, d.symbolId = some id) →
          e.IsFault ∨ ∃ db', b.PartlyWrittenTo db db' ∧ w'.Open db') := by
  have confined (w' : World ω) (r : Except Error Unit) (run : (writeBatch b).runIn w = (r, w')) :
      w.Uncommitted w' ∧ ∀ e, r = .error e → e.IsFault ∨ b.Unstorable e := by
    have both := writeBatch_confined b w ⟨c, hc⟩
    rw [run] at both
    exact both
  refine .bind (fun e w' run => ?_) (P := fun _ w' => w.Uncommitted w')
    (fun a w' run => (confined w' _ run).1) fun _ w' within => ?_
  · have ⟨within, cause⟩ := confined w' _ run
    refine ⟨within, (cause e rfl).imp_right fun unstorable => ⟨unstorable, ?_⟩⟩
    exact fun db shown hasIds => writeBatch_fails hasIds shown e w' run
  · have ⟨_, hc'⟩ := within.exists_connection ⟨c, hc⟩
    exact (commit_fails hc').mono fun _ _ no => no.elim

/-- A batch that fails while no transaction is open leaves no trace if the database refused it, and
commits nothing in any case. What it leaves pending otherwise is a part of it. -/
theorem apply_fails (idle : w.Idle) :
    (apply b).Fails w fun e w' =>
      (openRepository.runIn w = (.error e, w') ∧ w'.databases = w.databases ∧ w'.Idle) ∨
      ∃ o, openRepository.runIn w = (.ok (), o) ∧ o.Idle ∧ b.FailedWith e o w' := by
  unfold apply
  split
  · exact .never rfl
  refine .bind (fun e o run => .inl ⟨run, ?_⟩)
    (P := fun _ o => openRepository.runIn w = (.ok (), o)) (fun _ _ run => run) ?_
  · obtain run | ⟨_, _, _, done⟩ := runIn_bind_error.mp run
    · exact connection_fails e o run
    · cases done
  intro _ o opened
  have ⟨c, o', run, done⟩ := runIn_bind_ok.mp opened
  cases done
  have ⟨hc, fresh⟩ := connection_ensures_idle idle c o run
  have idle' : o.Idle := .of_connection hc fresh
  rcases ran : (do writeBatch b; commit : Action ω Unit).runIn o with ⟨r, w₁⟩
  refine .after (by rw [runIn_outcome, ran]) ?_
  cases r with
  | ok a => exact .never rfl
  | error e =>
    have ⟨within, cause⟩ := writeAndCommit_fails hc e w₁ ran
    split
    · cases ‹Except.error e = .ok ()›
    · next fault same =>
      have ⟨w₂, undo, alike⟩ := exists_runIn_rollback hc fresh within
      refine .after undo (.throw (.inr ⟨o, opened, idle', alike.uncommitted, ?_, ?_⟩))
      · exact fun _ _ => alike
      · exact fun other => (other fault rfl).elim
    · next e' other same =>
      cases same
      have noFault : ¬ e.IsFault := fun ⟨fault, same⟩ => other fault same
      have ⟨unstorable, left⟩ := cause.resolve_left noFault
      refine .throw (.inr ⟨o, opened, idle', within, ?_, fun _ => ⟨unstorable, ?_⟩⟩)
      · exact fun fault same => (unstorable.ne_batchRefused fault same).elim
      · exact fun db shown hasIds => (left db shown hasIds).resolve_left noFault

end MetricsStore

/-! ## A repository with one metrics row -/

namespace Sample

/-- The tables with the row of one symbol. -/
def oneRow : Database where
  symbolMetrics := .ofList [((1 : Int), (⟨"f", "function", "a", .int 1, .real ⟨0⟩, .int 0, .int 0,
    .int 1, .int 5⟩ : SymbolMetricsRow))]

/-- A world with a repository of these tables. -/
def oneRowWorld : World Unit where
  disk := { home := ⟨.slash, [], List.forall_mem_nil _⟩, fileCount := 1 }
  clock := .ok 100
  stamp := ""
  databases := .ofList [((0 : Nat), oneRow)]
  repository := ⟨.ofString "x.db", some { serial := 1, file := 0 }⟩
  connections := 1
  others := ()

/-- The row of another symbol. -/
def draft (name : Option String) (loc : Int) : SymbolMetrics.Draft where
  symbolId := some 2
  name
  kind := some "function"
  path := .ofString "a"
  loc := .int loc
  estimatedLoc := .int 1
  fanIn := .int 0
  fanOut := .int 0
  lastUpdated := .int 6
  cyclomatic := .int 1
  source := .placeholder

/-- The batch that deletes the row and writes that of another symbol. -/
def replacing (name : Option String) (loc : Int) : Batch where
  symbolRows := [draft name loc]
  deletedSymbols := .ofList [(1 : Int)]

/-- The world that is left after the batch. -/
def replaced (name : Option String) (loc : Int) : World Unit :=
  ((MetricsStore.apply (replacing name loc)).runIn oneRowWorld).2

/-- The error of the batch, if it fails. -/
def failure? (name : Option String) (loc : Int) : Option Error :=
  match ((MetricsStore.apply (replacing name loc)).runIn oneRowWorld).1 with
  | .ok _ => none
  | .error e => some e

private theorem runIn_replacing {name : Option String} {loc : Int} {e : Error}
    (h : failure? name loc = some e) :
    (MetricsStore.apply (replacing name loc)).runIn oneRowWorld =
      (.error e, replaced name loc) := by
  rw [failure?] at h
  split at h
  · cases h
  next e' failed =>
    cases h
    exact Prod.ext failed rfl

private theorem oneRowWorld_idle : oneRowWorld.Idle :=
  .of_connection rfl rfl

end Sample

namespace MetricsStore

open CodeGauge.Action Sample

/-- A row without a name is refused, and the deleted row is there as before. -/
theorem sample_apply_fails :
    (apply (replacing none 1)).runIn oneRowWorld =
        (.error (.batchRefused (.nullColumn "symbol_metrics" "symbol_name")), replaced none 1) ∧
      oneRowWorld.Alike (replaced none 1) := by
  have run := runIn_replacing (show failure? none 1 =
    some (.batchRefused (.nullColumn "symbol_metrics" "symbol_name")) by decide +kernel)
  refine ⟨run, ?_⟩
  have opened : (openRepository : Action Unit Unit).runIn oneRowWorld = (.ok (), oneRowWorld) :=
    runIn_openRepository rfl
  obtain ⟨failed, _⟩ | ⟨o, run', _, left⟩ := apply_fails oneRowWorld_idle _ _ run
  · rw [opened] at failed
    cases failed
  · rw [opened] at run'
    cases run'
    exact left.refused _ rfl

/-- After a batch with a number that no column can hold, the next reading transaction makes it
durable that a row is deleted. -/
theorem apply_leaves_trace :
    ¬ ∀ (w : World Unit) (b : Batch) (e : Error) (w' : World Unit), w.Idle →
      (apply b).runIn w = (.error e, w') →
      ((reading (pure ())).runIn w').2.databases = w.databases := by
  intro all
  have run := runIn_replacing (show failure? (some "s") (2 ^ 63) = some .beyondColumn by
    decide +kernel)
  have same := all _ _ _ _ oneRowWorld_idle run
  have sizes := congrArg (fun databases => databases[0]?.map (·.symbolMetrics.size)) same
  revert sizes
  decide +kernel

end MetricsStore

end CodeGauge
