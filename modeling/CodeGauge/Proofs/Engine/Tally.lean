import CodeGauge.Proofs.Engine.Isolation
import CodeGauge.Proofs.Engine.Updating

/-!
# What file rows count

The row of a file counts the symbols that the file had when the row was written, and then the same
symbols have rows that are filed under the file. Later calls keep the two in step except in two
cases, both after the file's symbols have changed: the file's content fails, so that its row is kept
while the rows of its symbols are renewed, or a symbol is recomputed without the file it is filed
under, as when its id is gone (`Deed.Disturbs`). Over a whole life of the tables, in which the graph
and the disk may change between the calls, this is what a stored count tells
(`Life.symbolCount_eq_filedCount`).
-/

open Std

namespace CodeGauge

variable {ω : Type} {E : Engine ω} {w : World ω} {db db' : Database} {disk disk' : Disk}
  {root : Path}

/-! ## Calls and what they leave -/

namespace Database

/-- The symbol lies in the file. -/
def LiesIn (db : Database) (file : String) (id : Int) : Prop :=
  ∃ symbol, db.symbols[id]? = some symbol ∧ symbol.file = file

/-- The symbol has a row that is filed under the file. -/
def FiledUnder (db : Database) (file : String) (id : Int) : Prop :=
  ∃ row, db.symbolMetrics[id]? = some row ∧ row.path = file

/-- The number of symbol rows that are filed under a file. -/
def filedCount (db : Database) (file : String) : Nat :=
  db.symbolMetrics.toList.countP fun (_, row) => row.path == file

end Database

/-- What a call did: the tables from which it computed rows, what it renewed, and its errors. -/
structure Deed where
  tables : Database
  scope : Scope
  errors : List (String × String)

namespace Deed

/-- The call wrote the row of the file: it recomputed the file, which had a symbol, and did not
report it. -/
def Writes (d : Deed) (file : String) : Prop :=
  d.scope.files file ∧ d.tables.symbolCount file ≠ 0 ∧ file ∉ d.errors.map (·.1)

/-- The call was made when the file had other symbols than `first` had found. It reported the file
and thus kept its row, or it recomputed a symbol that lay in the file or was filed under it without
recomputing the file. -/
def Disturbs (d first : Deed) (file : String) : Prop :=
  ¬(∀ id, d.tables.LiesIn file id ↔ first.tables.LiesIn file id) ∧
    (file ∈ d.errors.map (·.1) ∨ ¬d.scope.files file ∧
      ∃ id, d.scope.symbols id ∧ (d.tables.LiesIn file id ∨ d.tables.FiledUnder file id))

/-- The call left these tables: it renewed the rows of its scope, which has the symbols of each of
its files, and reported those of its files whose content fails. -/
structure Leaves (d : Deed) (db' : Database) (disk : Disk) (root : Path) : Prop where
  renewed : d.tables.RenewedIn db' disk root d.scope
  whole : ∀ file id, d.scope.files file → d.tables.LiesIn file id → d.scope.symbols id
  reported : ∀ file, d.scope.files file → d.tables.symbolCount file ≠ 0 →
    (file ∈ d.errors.map (·.1) ↔ ¬d.tables.isCurrent disk root file)

end Deed

/-- What a call that ended with this recomputation did to these tables. -/
def Work.deed (work : Work ω) (db : Database) (res : Recomputation) : Deed :=
  ⟨work.after db, work.scope db res.affected, res.stats.errors⟩

private theorem leaves_of_scope {A : Affected} {res : Recomputation} {first : Nat}
    (normal : db.Normal) (counted : res.Counted E db disk root (· ∈ A.files) first)
    (renewed : db.RenewedIn db' disk root (A.scope db)) :
    Deed.Leaves ⟨db, A.scope db, res.stats.errors⟩ db' disk root := by
  refine ⟨renewed, ?_, ?_⟩
  · rintro file id ⟨path, hpath, rfl⟩ ⟨symbol, hs, own⟩
    exact .inr ⟨symbol, hs, path, hpath, own.symm⟩
  · rintro file ⟨path, hpath, rfl⟩ some
    rw [counted.reported_iff normal hpath]
    exact and_iff_right some

/-- What a call that returns did is told by its recomputation. -/
theorem Work.run_leaves (plain : E.loader = .plain root) (shows : w.Shows db disk)
    (normal : db.Normal) (work : Work ω) :
    (work.run E).Ensures w fun res w' =>
      ∃ db', (work.deed db res).Leaves db' disk root ∧ w'.Shows db' disk := by
  refine (work.run_ensures plain shows normal).mono ?_
  rintro res w' ⟨first, db', _, counted, renewed, shows'⟩
  refine ⟨db', ?_, shows'⟩
  have normal' := normal_after normal work
  cases work with
  | refresh r => exact leaves_of_scope normal' counted renewed
  | removal r => exact leaves_of_scope normal' counted renewed
  | backfill notify quiet =>
    refine ⟨renewed, fun _ _ _ _ => trivial, fun file written some => ?_⟩
    obtain ⟨id, row, hr, own⟩ := Database.symbolCount_ne_zero.mp some
    have asked : db.HasFile (Path.ofString file) := ⟨id, row, hr, by rw [own]⟩
    have reported := counted.reported_iff normal' asked
    change (Path.ofString file).toString = file at written
    rw [written] at reported
    exact reported.trans (and_iff_right some)

/-! ## One call -/

namespace Deed.Leaves

variable {d : Deed} (leaves : d.Leaves db' disk root)
include leaves

/-- The rows of renewed symbols are filed where the symbols lie. -/
theorem filed_of_renewed {id : Int} (renewed : d.scope.symbols id) (file : String) :
    db'.FiledUnder file id ↔ d.tables.LiesIn file id := by
  have fresh := leaves.renewed.symbol_fresh id renewed
  rw [Database.symbolReference] at fresh
  constructor
  · rintro ⟨row, held, rfl⟩
    rw [held, Option.map_some] at fresh
    obtain ⟨symbol, hs, same⟩ := Option.map_eq_some_iff.mp fresh.symm
    exact ⟨symbol, hs, congrArg SymbolMetricsRow.path same⟩
  · rintro ⟨symbol, hs, rfl⟩
    rw [hs, Option.map_some] at fresh
    obtain ⟨row, held, same⟩ := Option.map_eq_some_iff.mp fresh
    exact ⟨row, held, congrArg SymbolMetricsRow.path same⟩

/-- The rows of other symbols stay, unless they are filed under a recomputed file by mistake. -/
theorem filed_of_other {id : Int} (other : ¬d.scope.symbols id) (file : String) :
    db'.FiledUnder file id ↔
      d.tables.FiledUnder file id ∧ (d.scope.files file → d.tables.LiesIn file id) := by
  by_cases misfiled : ∃ f, d.scope.files f ∧ d.tables.Misfiled id f
  · obtain ⟨f, held, filed, astray⟩ := misfiled
    have none := leaves.renewed.symbol_removed id f other held ⟨filed, astray⟩
    constructor
    · rintro ⟨row, now_held, _⟩
      rw [none] at now_held
      cases now_held
    · rintro ⟨⟨row, stored, rfl⟩, lies⟩
      obtain ⟨row', stored', rfl⟩ := filed
      rw [stored] at stored'
      cases stored'
      exact (astray (lies held)).elim
  · have kept := leaves.renewed.symbol_other id other fun f held astray =>
      misfiled ⟨f, held, astray⟩
    rw [Database.FiledUnder, kept]
    refine (and_iff_left_of_imp fun filed held => ?_).symm
    apply Classical.byContradiction
    intro astray
    exact misfiled ⟨file, held, filed, astray⟩

/-- After a call that wrote the row of a file, the rows filed under it are those of its symbols. -/
theorem filed_of_writes {file : String} (writes : d.Writes file) (id : Int) :
    db'.FiledUnder file id ↔ d.tables.LiesIn file id := by
  by_cases renewed : d.scope.symbols id
  · exact leaves.filed_of_renewed renewed file
  · rw [leaves.filed_of_other renewed]
    constructor
    · intro both
      exact both.2 writes.1
    · intro lies
      exact (renewed (leaves.whole file id writes.1 lies)).elim

/-- The row that a call wrote counts the symbols of the file. -/
theorem count_of_writes {file : String} (writes : d.Writes file) {row : FileMetricsRow}
    (held : db'.fileMetrics[file]? = some row) :
    row.symbolCount = .int (d.tables.symbolCount file) := by
  obtain ⟨asked, some, unreported⟩ := writes
  have current : d.tables.isCurrent disk root file := by
    apply Classical.byContradiction
    intro stale
    exact unreported ((leaves.reported file asked some).mpr stale)
  have fresh := leaves.renewed.file_fresh file asked fun _ => current
  rw [held, Option.map_some, Database.fileReference, if_neg some] at fresh
  obtain ⟨content, _, same⟩ := Option.map_eq_some_iff.mp fresh.symm
  exact (congrArg FileMetricsRow.symbolCount same).symm

/-- A call that did not write the row of a file kept it, if there still is one. -/
theorem kept_of_not_writes {file : String} (unwritten : ¬d.Writes file) {row : FileMetricsRow}
    (held : db'.fileMetrics[file]? = some row) : d.tables.fileMetrics[file]? = some row := by
  by_cases asked : d.scope.files file
  · by_cases none : d.tables.symbolCount file = 0
    · have fresh := leaves.renewed.file_fresh file asked fun some => (some none).elim
      rw [held, Database.fileReference, if_pos none] at fresh
      cases fresh
    · have stale : ¬d.tables.isCurrent disk root file := by
        rw [← leaves.reported file asked none]
        apply Classical.byContradiction
        intro unreported
        exact unwritten ⟨asked, none, unreported⟩
      rw [← leaves.renewed.file_kept file none stale]
      exact held
  · rw [← leaves.renewed.file_other file asked]
    exact held

end Deed.Leaves

/-! ## Standing rows -/

/-- The row of a file is the one that `d` wrote, and none of the calls after it wrote another. As
long as none of them disturbed it, the rows filed under the file are those of the symbols that `d`
found there. -/
structure Standing (db : Database) (file : String) (row : FileMetricsRow) (d : Deed)
    (after : List Deed) : Prop where
  wrote : d.Writes file
  last : ∀ e ∈ after, ¬e.Writes file
  count : row.symbolCount = .int (d.tables.symbolCount file)
  filed : (∀ e ∈ after, ¬e.Disturbs d file) →
    ∀ id, db.FiledUnder file id ↔ d.tables.LiesIn file id

/-- Each row of a file is one that a call wrote. -/
def Tallied (ds : List Deed) (db : Database) : Prop :=
  ∀ file row, db.fileMetrics[file]? = some row →
    ∃ before d after, ds = before ++ d :: after ∧ Standing db file row d after

variable {d e : Deed} {file : String} {row : FileMetricsRow} {after ds : List Deed}

private theorem filedUnder_congr (same : db'.symbolMetrics = db.symbolMetrics) (id : Int) :
    db'.FiledUnder file id ↔ db.FiledUnder file id := by
  rw [Database.FiledUnder, Database.FiledUnder, same]

private theorem Standing.of_rows (s : Standing db file row d after)
    (same : db'.symbolMetrics = db.symbolMetrics) : Standing db' file row d after := by
  refine ⟨s.wrote, s.last, s.count, fun undisturbed id => ?_⟩
  rw [filedUnder_congr same]
  exact s.filed undisturbed id

private theorem Standing.next (s : Standing db file row d after)
    (leaves : e.Leaves db' disk root) (same : e.tables.symbolMetrics = db.symbolMetrics)
    (unwritten : ¬e.Writes file) (held : db'.fileMetrics[file]? = some row) :
    Standing db' file row d (after ++ [e]) := by
  refine ⟨s.wrote, fun x mem => ?_, s.count, fun undisturbed id => ?_⟩
  · rcases List.mem_append.mp mem with mem | mem
    · exact s.last x mem
    · rw [List.mem_singleton.mp mem]
      exact unwritten
  have before := s.filed (fun x mem => undisturbed x (List.mem_append_left _ mem)) id
  rw [← filedUnder_congr same] at before
  have calm : ¬e.Disturbs d file := undisturbed e (by simp)
  by_cases unchanged : ∀ id, e.tables.LiesIn file id ↔ d.tables.LiesIn file id
  · by_cases renewed : e.scope.symbols id
    · rw [leaves.filed_of_renewed renewed]
      exact unchanged id
    · rw [leaves.filed_of_other renewed, before]
      exact and_iff_left_of_imp fun lies _ => (unchanged id).mpr lies
  · rw [Deed.Disturbs, not_and] at calm
    have calm := calm unchanged
    rw [not_or, not_and] at calm
    obtain ⟨unreported, untouched⟩ := calm
    -- the file was not recomputed, for then it would have been written or have lost its row
    have far : ¬e.scope.files file := by
      intro asked
      apply unwritten
      refine ⟨asked, fun none => ?_, unreported⟩
      have fresh := leaves.renewed.file_fresh file asked fun some => (some none).elim
      rw [held, Database.fileReference, if_pos none] at fresh
      cases fresh
    have untouched := untouched far
    by_cases renewed : e.scope.symbols id
    · have outside : ¬e.tables.LiesIn file id := fun lies => untouched ⟨id, renewed, .inl lies⟩
      have unfiled : ¬e.tables.FiledUnder file id := fun filed =>
        untouched ⟨id, renewed, .inr filed⟩
      rw [leaves.filed_of_renewed renewed, ← before]
      exact iff_of_false outside unfiled
    · rw [leaves.filed_of_other renewed, before]
      exact and_iff_left fun asked => (far asked).elim

/-- A call keeps account of the rows of files. -/
theorem Tallied.next (tallied : Tallied ds db) (leaves : e.Leaves db' disk root)
    (files : e.tables.fileMetrics = db.fileMetrics)
    (symbols : e.tables.symbolMetrics = db.symbolMetrics) : Tallied (ds ++ [e]) db' := by
  intro file row held
  by_cases writes : e.Writes file
  · refine ⟨ds, e, [], rfl, writes, by simp, leaves.count_of_writes writes held, fun _ id => ?_⟩
    exact leaves.filed_of_writes writes id
  · have stored := leaves.kept_of_not_writes writes held
    rw [files] at stored
    obtain ⟨before, d, after, rfl, standing⟩ := tallied file row stored
    refine ⟨before, d, after ++ [e], by simp, ?_⟩
    exact standing.next leaves symbols writes held

/-- Changes of the graph keep account of the rows of files. -/
theorem Tallied.of_rows (tallied : Tallied ds db) (files : db'.fileMetrics = db.fileMetrics)
    (symbols : db'.symbolMetrics = db.symbolMetrics) : Tallied ds db' := by
  intro file row held
  rw [files] at held
  obtain ⟨before, d, after, split, standing⟩ := tallied file row held
  exact ⟨before, d, after, split, standing.of_rows symbols⟩

/-! ## A life of the tables -/

/-- An update whose refresh returned ran it where the block had ended. -/
theorem Engine.refreshed_of_update {α : Type} {path : Path} {block : Action ω α} {prior : Affected}
    {u : Update α} {res : Recomputation} {w₁ w' : World ω}
    (entered : (E.entering path).runIn w = (.ok prior, w₁))
    (run : (E.updatingFile path block).runIn w = (.ok u, w')) (returned : u.refresh = .ok res) :
    ((Refresh.file path prior).run E).runIn (block.runIn w₁).2 = (.ok res, w') := by
  rw [updatingFile_eq, Action.runIn_bind_of_ok entered,
    Action.runIn_bind_of_ok (Action.runIn_outcome block)] at run
  rcases refreshed : ((Refresh.file path prior).run E).runIn (block.runIn w₁).2 with ⟨result, w₂⟩
  rw [Action.runIn_bind_of_ok (Action.runIn_outcome _), refreshed] at run
  cases run
  cases returned
  rfl

/-- The tables and the disk are led from the first to the last by changes of the graph and the disk,
which leave the metrics rows alone, and by calls that return, with or without errors. An update of a
file has a life of its own within its block, however the block ends, and is followed by the refresh
of the file. What the calls did is listed in their order. -/
inductive Life (E : Engine ω) : Database → Disk → List Deed → Database → Disk → Prop
  | start (db : Database) (disk : Disk) : Life E db disk [] db disk
  | edit {db₀ db db' : Database} {disk₀ disk : Disk} {ds : List Deed}
    (life : Life E db₀ disk₀ ds db disk) (files : db'.fileMetrics = db.fileMetrics)
    (symbols : db'.symbolMetrics = db.symbolMetrics) (normal : db'.Normal) (disk' : Disk) :
    Life E db₀ disk₀ ds db' disk'
  | work {db₀ db db' : Database} {disk₀ disk : Disk} {ds : List Deed} {w w' : World ω}
    {res : Recomputation} (life : Life E db₀ disk₀ ds db disk) (work : Work ω)
    (shows : w.Shows db disk) (run : (work.run E).runIn w = (.ok res, w'))
    (shows' : w'.Shows db' disk) : Life E db₀ disk₀ (ds ++ [work.deed db res]) db' disk
  | update {db₀ db₁ db₂ db' : Database} {disk₀ disk₁ disk₂ : Disk} {ds ds' : List Deed}
    {w w₁ w' : World ω} {α : Type} {path : Path} {block : Action ω α} {prior : Affected}
    {u : Update α} {res : Recomputation} (life : Life E db₀ disk₀ ds db₁ disk₁)
    (shows : w.Shows db₁ disk₁) (entered : (E.entering path).runIn w = (.ok prior, w₁))
    (within : Life E db₁ disk₁ ds' db₂ disk₂) (left : (block.runIn w₁).2.Shows db₂ disk₂)
    (run : (E.updatingFile path block).runIn w = (.ok u, w')) (returned : u.refresh = .ok res)
    (shows' : w'.Shows db' disk₂) :
    Life E db₀ disk₀
      (ds ++ ds' ++ [(Work.refresh (.file path prior) : Work ω).deed db₂ res]) db' disk₂

namespace Life

private theorem tallied_work (plain : E.loader = .plain root) (normal : db.Normal)
    (tallied : Tallied ds db) {w' : World ω} {res : Recomputation} (work : Work ω)
    (shows : w.Shows db disk) (run : (work.run E).runIn w = (.ok res, w'))
    (shows' : w'.Shows db' disk) : db'.Normal ∧ Tallied (ds ++ [work.deed db res]) db' := by
  obtain ⟨_, leaves, shown⟩ := work.run_leaves plain shows normal res w' run
  cases shown.unique shows'
  refine ⟨leaves.renewed.normal (Work.normal_after normal work), ?_⟩
  exact tallied.next leaves (Work.fileMetrics_after work) (Work.symbolMetrics_after work)

/-- A life keeps account of the rows of files. -/
theorem tallied (plain : E.loader = .plain root) {ds₀ : List Deed}
    (life : Life E db disk ds db' disk') (normal : db.Normal) (tallied : Tallied ds₀ db) :
    db'.Normal ∧ Tallied (ds₀ ++ ds) db' := by
  induction life generalizing ds₀ with
  | start db disk =>
    rw [List.append_nil]
    exact ⟨normal, tallied⟩
  | edit life files symbols normal' disk' ih =>
    obtain ⟨_, before⟩ := ih normal tallied
    exact ⟨normal', before.of_rows files symbols⟩
  | work life work shows run shows' ih =>
    obtain ⟨normal, before⟩ := ih normal tallied
    rw [← List.append_assoc]
    exact tallied_work plain normal before work shows run shows'
  | update life shows entered within left run returned shows' ih ih' =>
    obtain ⟨normal, before⟩ := ih normal tallied
    obtain ⟨normal, inside⟩ := ih' normal before
    rw [← List.append_assoc, ← List.append_assoc]
    exact tallied_work plain normal inside (.refresh (.file _ _)) left
      (Engine.refreshed_of_update entered run returned) shows'

/-- Of tables that started without rows of files, the row of a file is the one that the last call
wrote that wrote any, and counts the symbols that the file had then. It counts the symbol rows that
are filed under the file, unless a later call disturbed them: one that was made when the file had
other symbols, and that reported the file and kept its row, or recomputed a symbol which lay in the
file or was filed under it without recomputing the file. -/
theorem symbolCount_eq_filedCount (plain : E.loader = .plain root)
    (life : Life E db disk ds db' disk') (normal : db.Normal) (noFiles : db.fileMetrics = ∅)
    {file : String} {row : FileMetricsRow} (held : db'.fileMetrics[file]? = some row) :
    ∃ before d after, ds = before ++ d :: after ∧ d.Writes file ∧ (∀ e ∈ after, ¬e.Writes file) ∧
      row.symbolCount = .int (d.tables.symbolCount file) ∧
      ((∀ e ∈ after, ¬e.Disturbs d file) → row.symbolCount = .int (db'.filedCount file)) := by
  have none : Tallied [] db := by
    intro file row held
    rw [noFiles] at held
    cases held
  obtain ⟨_, tallied⟩ := life.tallied plain normal none
  obtain ⟨before, d, after, split, standing⟩ := tallied file row held
  refine ⟨before, d, after, split, standing.wrote, standing.last, standing.count,
    fun undisturbed => ?_⟩
  have same : db'.filedCount file = d.tables.symbolCount file := by
    apply Database.countP_toList_eq (p := fun row : SymbolMetricsRow => row.path == file)
      (q := fun row : SymbolRow => row.file == file)
    intro id
    simp only [beq_iff_eq]
    exact standing.filed undisturbed id
  rw [standing.count, same]

/-! A file with two symbols is metered. Then one of them is deleted from the graph, the content is
lost, and the file is refreshed. -/

/-- The tables with two functions in the first file. -/
def twoFunctions : Database where
  symbols := .ofList [((1 : Int), Sample.function "f" "a"), (2, Sample.function "g" "a")]

/-- A backfill that tells nobody of its progress. -/
def sampleBackfill : Work Unit :=
  .backfill (fun _ _ => pure ()) Engine.quiet_pure

/-- The tables that are met in a world. -/
def shown (w : World Unit) : Database :=
  (Action.tables.runIn w).1.toOption.getD {}

/-- The tables after the backfill. -/
def metered : Database :=
  shown ((sampleBackfill.run Sample.engine).runIn (Sample.world twoFunctions)).2

/-- The tables without the second function. -/
def withoutSecond (db : Database) : Database :=
  { db with symbols := db.symbols.erase 2 }

private theorem rows_withoutSecond (db : Database) :
    (withoutSecond db).fileMetrics = db.fileMetrics ∧
      (withoutSecond db).symbolMetrics = db.symbolMetrics :=
  ⟨rfl, rfl⟩

/-- The disk without the first file. -/
def lost : Disk :=
  { Sample.disk with nodes := Sample.disk.nodes.erase (Sample.root / .ofString "a") }

/-- The world with this disk. -/
def lostWorld : World Unit :=
  { Sample.world (withoutSecond metered) with disk := lost }

/-- The refresh of the first file. -/
def sampleRefresh : Work Unit :=
  .refresh (.file (.ofString "a") ∅)

/-- The tables after the refresh. -/
def refreshed : Database :=
  shown ((sampleRefresh.run Sample.engine).runIn lostWorld).2

private theorem exists_work {db₀ db : Database} {disk₀ disk : Disk} {ds : List Deed}
    {w : World Unit} (life : Life Sample.engine db₀ disk₀ ds db disk) (normal : db.Normal)
    (work : Work Unit) (shows : w.Shows db disk)
    (returns : ((work.run Sample.engine).runIn w).1.toOption.isSome = true) :
    ∃ d, Life Sample.engine db₀ disk₀ (ds ++ [d])
      (shown ((work.run Sample.engine).runIn w).2) disk := by
  rcases run : (work.run Sample.engine).runIn w with ⟨e | res, w'⟩
  · rw [run] at returns
    cases returns
  · obtain ⟨db', _, shows'⟩ := work.run_leaves rfl shows normal res w' run
    have same : shown w' = db' := by
      rw [shown, shows'.1]
      rfl
    rw [← same] at shows'
    exact ⟨_, life.work work shows run shows'⟩

private theorem sample_life :
    ∃ d e, Life Sample.engine twoFunctions Sample.disk [d, e] refreshed lost := by
  have normal : twoFunctions.Normal := by decide +kernel
  have fills : ((sampleBackfill.run Sample.engine).runIn
      (Sample.world twoFunctions)).1.toOption.isSome = true := by decide +kernel
  have returns : ((sampleRefresh.run Sample.engine).runIn lostWorld).1.toOption.isSome = true := by
    decide +kernel
  have left : (withoutSecond metered).Normal := by decide +kernel
  have shows : lostWorld.Shows (withoutSecond metered) lost := by
    apply World.Open.shows
    refine ⟨{ serial := 1, file := 2 }, rfl, ?_⟩
    simp [World.tables, World.committed, lostWorld, Sample.world]
  obtain ⟨d, life⟩ := exists_work (.start twoFunctions Sample.disk) normal sampleBackfill
    (Sample.world_shows twoFunctions) fills
  obtain ⟨files, symbols⟩ := rows_withoutSecond metered
  obtain ⟨e, life⟩ :=
    exists_work (life.edit files symbols left lost) left sampleRefresh shows returns
  exact ⟨d, e, life⟩

/-- A row's count is that of the derivation that wrote it last, though its file lost a symbol since.
-/
theorem sample_symbolCount :
    ∃ ds row before d after, Life Sample.engine twoFunctions Sample.disk ds refreshed lost ∧
      refreshed.fileMetrics["a"]? = some row ∧ row.symbolCount = .int 2 ∧
      ds = before ++ d :: after ∧ d.Writes "a" ∧ (∀ e ∈ after, ¬e.Writes "a") ∧
      row.symbolCount = .int (d.tables.symbolCount "a") ∧
      ((∀ e ∈ after, ¬e.Disturbs d "a") →
        row.symbolCount = .int (refreshed.filedCount "a")) := by
  have normal : twoFunctions.Normal := by decide +kernel
  have count : (refreshed.fileMetrics["a"]?).map (·.symbolCount) = some (.int 2) := by
    decide +kernel
  obtain ⟨d, e, life⟩ := sample_life
  obtain ⟨row, held, two⟩ := Option.map_eq_some_iff.mp count
  obtain ⟨before, d', after, standing⟩ := symbolCount_eq_filedCount rfl life normal rfl held
  exact ⟨[d, e], row, before, d', after, life, held, two, standing⟩

/-- A stored count is not always the number of the rows: the row of the file was kept, which counts
two symbols, while of the two symbol rows one was deleted. -/
theorem symbolCount_ne_filedCount :
    ∃ ds row, Life Sample.engine twoFunctions Sample.disk ds refreshed lost ∧
      twoFunctions.Normal ∧ twoFunctions.fileMetrics = ∅ ∧ twoFunctions.symbolMetrics = ∅ ∧
      refreshed.fileMetrics["a"]? = some row ∧
      row.symbolCount ≠ .int (refreshed.filedCount "a") := by
  have count : (refreshed.fileMetrics["a"]?).map (·.symbolCount) = some (.int 2) := by
    decide +kernel
  have rows : refreshed.filedCount "a" = 1 := by decide +kernel
  obtain ⟨d, e, life⟩ := sample_life
  obtain ⟨row, held, two⟩ := Option.map_eq_some_iff.mp count
  refine ⟨[d, e], row, life, by decide +kernel, rfl, rfl, held, ?_⟩
  rw [two, rows]
  decide

end Life

end CodeGauge
