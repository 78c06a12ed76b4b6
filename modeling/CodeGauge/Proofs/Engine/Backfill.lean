import CodeGauge.Engine.Backfill
import CodeGauge.Proofs.Engine.Exactness
import CodeGauge.Proofs.Engine.Refresh

/-!
# Backfills

A backfill makes the tables exact, whatever they held before. Its set holds every symbol, every file
with one, and the entity of every stored row, so that nothing outside of it has or ought to have a
row.
-/

open Std

namespace CodeGauge

variable {ω : Type} {db : Database} {disk : Disk} {root : Path} {now : Int}

/-! ## The entities of stored rows -/

/-- The files that have a row are read from the table; a row without a path fails the reading. -/
theorem MetricsStore.files_reads :
    (files : Action ω (List FileMetrics)).Reads db fun rows => db.pathlessMetrics = [] ∧
      ∀ path, path ∈ rows.map (·.path) ↔ ∃ file ∈ db.fileMetrics, Path.ofString file = path := by
  apply (Action.query_reads _ _ _).bind
  rintro _ rfl
  refine .of fun rows read => ⟨?_, fun path => ?_⟩
  · apply List.eq_nil_iff_forall_not_mem.mpr
    intro row mem
    have ⟨_, _, failed⟩ := exists_of_mapM_eq_ok read
      (List.mem_append_left _ (List.mem_map_of_mem mem))
    cases failed
  · rw [List.mem_map]
    constructor
    · rintro ⟨m, mem, rfl⟩
      have ⟨⟨file, row⟩, stored, made⟩ := (mem_of_mapM_eq_ok read m).mp mem
      rcases List.mem_append.mp stored with pathless | stored
      · have ⟨_, _, same⟩ := List.mem_map.mp pathless
        cases same
        cases made
      · have ⟨⟨file, row⟩, stored, same⟩ := List.mem_map.mp stored
        cases same
        cases made
        rw [ExtTreeMap.mem_toList_iff_getElem?_eq_some] at stored
        refine ⟨file, ?_, rfl⟩
        rw [ExtTreeMap.mem_iff_isSome_getElem?, stored]
        rfl
    · rintro ⟨file, stored, rfl⟩
      have ⟨row, hr⟩ := Option.isSome_iff_exists.mp (ExtTreeMap.mem_iff_isSome_getElem?.mp stored)
      have mem := ExtTreeMap.mem_toList_iff_getElem?_eq_some.mpr hr
      have ⟨m, mem, made⟩ := exists_of_mapM_eq_ok read
        (List.mem_append_right _ (List.mem_map_of_mem mem))
      cases made
      exact ⟨_, mem, rfl⟩

/-- The symbols that have a row are read from the table. -/
theorem MetricsStore.symbols_reads :
    (symbols : Action ω (List SymbolMetrics)).Reads db fun rows =>
      ∀ id, id ∈ rows.map (·.symbolId) ↔ id ∈ db.symbolMetrics := by
  apply (Action.query_reads _ _ _).bind
  rintro _ rfl
  refine .pure fun id => ?_
  have ids : (symbolMetricsOf db.symbolMetrics.toList).map (·.symbolId) =
      db.symbolMetrics.toList.map (·.1) := List.map_map
  rw [ids, ExtTreeMap.map_fst_toList_eq_keys, ExtTreeMap.mem_keys]

/-- The set holds what has or ought to have a row. -/
structure Affected.Everything (A : Affected) (db : Database) : Prop where
  symbols : ∀ (id : Int) (row : SymbolRow), db.symbols[id]? = some row →
    id ∈ A.symbols ∧ Path.ofString row.file ∈ A.files
  fileRows : ∀ file ∈ db.fileMetrics, Path.ofString file ∈ A.files
  symbolRows : ∀ id ∈ db.symbolMetrics, id ∈ A.symbols

namespace Affected.Everything

variable {A : Affected} (everything : A.Everything db)
include everything

/-- A file outside of the set has no row and ought to have none, if its row would be keyed as paths
are written. -/
theorem file_none (normal : db.Normal) {file : String}
    (key : file ∈ db.fileMetrics → (Path.ofString file).toString = file)
    (far : ∀ path ∈ A.files, path.toString ≠ file) :
    db.fileMetrics[file]? = none ∧ db.fileReference disk root file = none := by
  constructor
  · apply ExtTreeMap.getElem?_eq_none
    intro stored
    exact far _ (everything.fileRows file stored) (key stored)
  · apply Database.fileReference_eq_none
    intro mem
    have ⟨⟨id, row⟩, stored, own⟩ := List.mem_map.mp mem
    have hr := ExtTreeMap.mem_toList_iff_getElem?_eq_some.mp stored
    exact far _ (everything.symbols id row hr).2 ((normal id row hr).trans own)

/-- A symbol outside of the set has no row and ought to have none. -/
theorem symbol_none {id : Int} (far : id ∉ A.symbols) :
    db.symbolMetrics[id]? = none ∧ db.symbolReference id = none := by
  constructor
  · exact ExtTreeMap.getElem?_eq_none fun stored => far (everything.symbolRows id stored)
  · rw [Database.symbolReference_eq_none, Option.eq_none_iff_forall_ne_some]
    intro row hr
    exact far (everything.symbols id row hr).1

end Affected.Everything

namespace Engine

/-- The set with the entities of the stored rows added holds everything if it held the symbols. -/
theorem withStored_reads {g : Snapshot} (shows : g.ShowsAll db disk root) :
    (withStored g.affectedByAll : Action ω Affected).Reads db fun current =>
      db.pathlessMetrics = [] ∧ current.Everything db ∧ g.affectedByAll ⊆ current := by
  refine MetricsStore.files_reads.bind fun files ⟨pathless, paths⟩ => ?_
  refine MetricsStore.symbols_reads.bind fun symbols ids => ?_
  refine .pure ⟨pathless, ⟨fun id row hr => ?_, fun file stored => ?_, fun id stored => ?_⟩,
    Affected.subset_union_left _ _⟩
  · have covered := (shows.files _).mpr ⟨id, row, hr, rfl⟩
    have complete := (shows.complete id).mpr (by rw [hr]; rfl)
    rw [Affected.mem_symbols_union, Affected.mem_files_union]
    refine ⟨.inl complete, .inl ?_⟩
    rw [Snapshot.affectedByAll, ExtTreeSet.mem_ofList, List.contains_iff_mem, ExtTreeMap.mem_keys]
    exact covered
  · rw [Affected.mem_files_union, Affected.mem_files_of]
    exact .inr ((paths _).mpr ⟨file, stored, rfl⟩)
  · rw [Affected.mem_symbols_union, Affected.mem_symbols_of]
    exact .inr ((ids id).mpr stored)

/-! ## One round -/

/-- The action changes nothing but what belongs to the caller. -/
def Quiet (x : Action ω Unit) : Prop :=
  ∀ w : World ω, ∃ others, (x.runIn w).2 = { w with others }

/-- To tell nobody changes nothing. -/
theorem quiet_pure : ∀ _ _ : Nat, Quiet (pure () : Action ω Unit) :=
  fun _ _ w => ⟨w.others, rfl⟩

section Measuring

variable {g : Snapshot} {files : List Path} {notify : Nat → Nat → Action ω Unit}

/-- The files are measured in their order, whichever their positions are. -/
theorem mapM_zipIdx_measureFile :
    (((inPathOrder files).zipIdx 1).mapM fun x => g.measureFile now x.1) =
      g.measureFiles files now := by
  have paths := List.zipIdx_map_fst 1 (inPathOrder files)
  rw [Snapshot.measureFiles, ← paths, List.mapM_map, paths]
  rfl

/-- To measure files gives what the snapshot has of them, and keeps what is kept whenever a file is
told of. -/
theorem measuring_measures {I : World ω → Prop}
    (told : ∀ i n w, I w → (notify i n).Ensures w fun _ w' => I w') {w : World ω} (start : I w) :
    (measuring g files now notify).Ensures w fun measured w' =>
      g.measureFiles files now = .ok measured ∧ I w' := by
  rw [← mapM_zipIdx_measureFile]
  refine .mapM (fun x w kept => ?_) start
  exact .given fun m made => (told _ _ w kept).bind fun _ _ kept => .pure ⟨made, kept⟩

/-- To measure files changes nothing but what belongs to the caller. -/
theorem measuring_ensures (quiet : ∀ i n, Quiet (notify i n)) (w : World ω) :
    (measuring g files now notify).Ensures w fun measured w' =>
      g.measureFiles files now = .ok measured ∧ ∃ others, w' = { w with others } := by
  apply measuring_measures (I := fun w' => ∃ others, w' = { w with others }) _ ⟨w.others, rfl⟩
  rintro i n _ ⟨others, rfl⟩ _ w' run
  obtain ⟨others', same⟩ := quiet i n { w with others }
  rw [run] at same
  exact ⟨others', same⟩

end Measuring

private theorem mem_files_iff {g : Snapshot} (shows : g.ShowsAll db disk root) (normal : db.Normal)
    (path : Path) : path ∈ g.files ↔ db.symbolCount path.toString ≠ 0 := by
  rw [shows.files, Database.symbolCount_ne_zero]
  constructor
  · rintro ⟨id, row, hr, rfl⟩
    exact ⟨id, row, hr, (normal id row hr).symm⟩
  · intro ⟨id, row, hr, own⟩
    exact ⟨id, row, hr, by rw [own, Path.ofString_toString]⟩

/-- A snapshot of the whole graph measures every file with a symbol and every symbol. -/
theorem measures_of_all {g : Snapshot} (shows : g.ShowsAll db disk root)
    (normal : db.Normal) {measured : List MeasuredFile} {a : Aggregate}
    (hm : g.measureFiles g.files.keys now = .ok measured)
    (ha : g.aggregateFrom measured [] now = .ok a) :
    a.Measures db disk root (fun path => db.symbolCount path.toString ≠ 0)
      (fun id => (db.symbols[id]?).isSome) now := by
  have ids (id : Int) : (id ∈ ([] : List Int) ∨ ∃ row, db.symbols[id]? = some row ∧
      ∃ path : Path, db.symbolCount path.toString ≠ 0 ∧ path.toString = row.file) ↔
      (db.symbols[id]?).isSome := by
    rw [Option.isSome_iff_exists]
    constructor
    · rintro (none | ⟨row, hr, -⟩)
      · cases none
      · exact ⟨row, hr⟩
    · intro ⟨row, hr⟩
      have own := normal id row hr
      refine .inr ⟨row, hr, Path.ofString row.file, ?_, own⟩
      exact Database.symbolCount_ne_zero.mpr ⟨id, row, hr, own.symm⟩
  have m := shows.mirrors.measures normal (fun path hpath => ExtTreeMap.mem_keys.mp hpath)
    (fun _ none => (List.not_mem_nil none).elim) hm ha
  simp only [ExtTreeMap.mem_keys, mem_files_iff shows normal, ids] at m
  exact m

variable {A : Affected}

private theorem renews_of_everything (everything : A.Everything db)
    {a : Aggregate} (m : a.Measures db disk root (fun path => db.symbolCount path.toString ≠ 0)
      (fun id => (db.symbols[id]?).isSome) now) {b : Batch}
    (fileRows : b.fileRows = a.files) (symbolRows : b.symbolRows = a.symbols.map (·.draft))
    (deletedFiles : ∀ path, path ∈ b.deletedFiles ↔
      path ∈ A.files ∧ db.symbolCount path.toString = 0)
    (deletedSymbols : ∀ id, id ∈ b.deletedSymbols ↔ id ∈ A.symbols ∧ db.symbols[id]? = none ∨
      ∃ path ∈ A.files, db.symbolCount path.toString ≠ 0 ∧ db.Misfiled id path.toString) :
    b.Renews db disk root A now := by
  apply m.renews
  · intro path count
    have ⟨id, row, hr, own⟩ := Database.symbolCount_ne_zero.mp count
    have held := (everything.symbols id row hr).2
    rw [own, Path.ofString_toString] at held
    exact held
  · intro path _ count
    exact count
  · intro id stored
    have ⟨row, hr⟩ := Option.isSome_iff_exists.mp stored
    exact .inl (everything.symbols id row hr).1
  · intro id _ stored
    exact stored
  · exact fileRows
  · exact symbolRows
  · exact deletedFiles
  · intro id deleted
    rcases (deletedSymbols id).mp deleted with absent | ⟨path, hpath, _, misfiled⟩
    · exact .inl absent
    · exact .inr ⟨path, hpath, misfiled⟩
  · intro id own absent
    exact (deletedSymbols id).mpr (.inl ⟨own, absent⟩)
  · intro path hpath count id misfiled
    exact (deletedSymbols id).mpr (.inr ⟨path, hpath, count, misfiled⟩)

/-- The batch of all measured rows renews everything once the orphans are among the deletions. -/
theorem renews_with_orphans {g : Snapshot} (shows : g.ShowsAll db disk root)
    (normal : db.Normal) (everything : A.Everything db) {a : Aggregate}
    (m : a.Measures db disk root (fun path => db.symbolCount path.toString ≠ 0)
      (fun id => (db.symbols[id]?).isSome) now) {b : Batch}
    (fileRows : b.fileRows = a.files) (symbolRows : b.symbolRows = a.symbols.map (·.draft))
    (deletedFiles : ∀ path, path ∈ b.deletedFiles ↔ path ∈ absentFiles a)
    (deletedSymbols : ∀ id, id ∈ b.deletedSymbols ↔ id ∈ absentSymbols a ∨
      ∃ path ∈ A.files, path ∈ g.files ∧ db.Misfiled id path.toString) :
    ({ b with
      deletedFiles := b.deletedFiles ∪ (A.files \ .ofList g.files.keys)
      deletedSymbols := b.deletedSymbols ∪ (A.symbols \ g.complete) } : Batch).Renews db disk root
      A now := by
  apply renews_of_everything everything m
  · exact fileRows
  · exact symbolRows
  · intro path
    rw [ExtTreeSet.mem_union_iff, deletedFiles, m.file_absent, ExtTreeSet.mem_diff_iff,
      ExtTreeSet.mem_ofList, List.contains_iff_mem, ExtTreeMap.mem_keys,
      mem_files_iff shows normal, Classical.not_not]
    exact or_iff_right fun both => both.1 both.2
  · intro id
    simp only [ExtTreeSet.mem_union_iff, deletedSymbols, m.symbol_absent,
      ExtTreeSet.mem_diff_iff, shows.complete, mem_files_iff shows normal]
    constructor
    · rintro ((⟨stored, absent⟩ | misfiled) | ⟨own, absent⟩)
      · rw [absent] at stored
        cases stored
      · exact .inr misfiled
      · exact .inl ⟨own, Option.not_isSome_iff_eq_none.mp absent⟩
    · rintro (⟨own, absent⟩ | misfiled)
      · exact .inr ⟨own, Option.not_isSome_iff_eq_none.mpr absent⟩
      · exact .inl (.inr misfiled)

/-- What a backfill did: the tables were renewed for a set that holds everything. -/
structure Backfilled (res : Recomputation) (db db' : Database) (disk : Disk) (root : Path) :
    Prop where
  pathless : db.pathlessMetrics = []
  renewed : ∃ A now, A.Everything db ∧ db.Renewed db' disk root A now
  current : res.stats.errors = [] → ∀ path : Path, db.symbolCount path.toString ≠ 0 →
    db.isCurrent disk root path.toString

variable {E : Engine ω} {w : World ω} {notify : Nat → Nat → Action ω Unit}

private theorem backfillRound_ensures (plain : E.loader = .plain root) (h : w.Open db)
    (normal : db.Normal) (quiet : ∀ i n, Quiet (notify i n)) (r : Round ω) :
    (E.backfillRound notify r).Ensures w (RoundEnd.Meets (fun _ w' => w.Onward w' db)
      fun res w' => ∃ db', Backfilled res db db' w.disk root ∧ w.Onward w' db') := by
  unfold backfillRound
  rw [plain]
  refine (Snapshot.loadAll_ensures h normal).bind ?_
  intro g w₁ ⟨shows, h₁⟩
  refine .bind (withStored_reads shows w₁ h₁.isOpen) ?_
  rintro current w₂ ⟨⟨pathless, everything, covered⟩, alike⟩
  have h₂ : w.Onward w₂ db := h₁.trans (alike.onward h₁.isOpen)
  dsimp only
  split
  · exact .pure h₂
  refine .after Action.runIn_get ?_
  refine .given fun now _ => (measuring_ensures quiet w₂).bind ?_
  rintro measured _ ⟨hm, others, rfl⟩
  have h₃ : w.Onward { w₂ with others } db :=
    ⟨h₂.isOpen, h₂.same.disk, h₂.same.clock, h₂.same.capacity⟩
  refine .given fun a ha => ?_
  split
  · exact .pure h₃
  refine .bind (batchOf_reads shows.mirrors a current _ h₃.isOpen) ?_
  rintro b w₃ ⟨⟨fileRows, symbolRows, deletedFiles, deletedSymbols⟩, alike'⟩
  have h₄ : w.Onward w₃ db := h₃.trans (alike'.onward h₃.isOpen)
  have m := measures_of_all shows normal hm ha
  have renews := renews_with_orphans shows normal everything m fileRows symbolRows deletedFiles
    deletedSymbols
  refine (MetricsStore.apply_ensures (fun d hd => ?_) h₄.isOpen).bind ?_
  · have ⟨id, key, _⟩ := renews.symbol_row d hd
    exact ⟨id, key⟩
  intro _ w₄ ⟨db', written, h₅⟩
  exact .pure ⟨db', ⟨pathless, ⟨current, now, everything, renews.renewed written⟩,
    fun none path count => m.kept none path count count⟩, h₄.trans h₅⟩

/-! ## Exactness -/

/-- A renewal of everything makes the tables exact, if the rows are keyed as paths are written. -/
theorem Backfilled.exact {res : Recomputation} {db' : Database}
    (h : Backfilled res db db' disk root) (normal : db.Normal)
    (keys : ∀ file ∈ db.fileMetrics, (Path.ofString file).toString = file)
    (noErrors : res.stats.errors = []) : db.SameGraph db' ∧ db'.Exact disk root := by
  have ⟨A, now, everything, renewed⟩ := h.renewed
  refine ⟨renewed.graph, renewed.exact ?_ ?_ ?_ h.pathless⟩
  · intro path _ count
    exact h.current noErrors path count
  · intro file far
    have ⟨noRow, noReference⟩ : _ ∧ db.fileReference disk root file = none :=
      everything.file_none normal (keys file) far
    rw [noRow, noReference]
    rfl
  · intro id far
    have ⟨noRow, noReference⟩ := everything.symbol_none far
    rw [noRow, noReference]
    rfl

/-- A backfill opens the repository by loading its first snapshot. -/
theorem opens_backfill (plain : E.loader = .plain root) : (E.backfill notify).Opens := by
  unfold backfill
  rw [plain]
  exact Snapshot.opens_loadAll.bind _

/-- A backfill that gives a result has renewed the tables for a set that holds everything. -/
theorem backfill_ensures (plain : E.loader = .plain root) (shows : w.Shows db disk)
    (normal : db.Normal) (quiet : ∀ i n, Quiet (notify i n)) :
    (E.backfill notify).Ensures w fun res w' =>
      ∃ db', Backfilled res db db' disk root ∧ w'.Shows db' disk := by
  have ⟨o, isOpen, sameDisk, _, opened⟩ := shows.exists_open
  have whole : (E.backfill notify).Ensures o fun res w' =>
      ∃ db', Backfilled res db db' o.disk root ∧ o.Onward w' db' := by
    unfold backfill
    rw [plain]
    refine (Snapshot.loadAll_ensures isOpen normal).bind ?_
    intro g o₁ ⟨shows, h₁⟩
    refine .bind (withStored_reads shows o₁ h₁.isOpen) ?_
    rintro affected o₂ ⟨-, alike⟩
    refine runRounds_ensures (I := fun _ o₃ => o.Onward o₃ db) ?_ E.maxRounds
      (h₁.trans (alike.onward h₁.isOpen))
    intro r o₃ h₃
    refine (backfillRound_ensures plain h₃.isOpen normal quiet r).mono ?_
    rw [h₃.same.disk]
    intro e o₄ ended
    cases e with
    | again next => exact h₃.trans ended
    | done res =>
      have ⟨db', done, h₄⟩ := ended
      exact ⟨db', done, h₃.trans h₄⟩
  intro res w' run
  rw [opened _ (opens_backfill plain)] at run
  have ⟨db', done, onward⟩ := whole res w' run
  have shows' := onward.isOpen.shows
  rw [onward.same.disk] at shows'
  rw [sameDisk] at done shows'
  exact ⟨db', done, shows'⟩

/-- A backfill that returns without errors, while nothing else changes the tables or the disk,
leaves exact tables, whatever rows they held before. -/
theorem backfill_exact (plain : E.loader = .plain root) (shows : w.Shows db disk)
    (normal : db.Normal) (keys : ∀ file ∈ db.fileMetrics, (Path.ofString file).toString = file)
    (quiet : ∀ i n, Quiet (notify i n)) {r : Recomputation} {w' : World ω}
    (run : (E.backfill notify).runIn w = (.ok r, w')) (noErrors : r.stats.errors = []) :
    ∃ db', w'.Shows db' disk ∧ db.SameGraph db' ∧ db'.Exact disk root := by
  have ⟨db', done, shows'⟩ := backfill_ensures plain shows normal quiet r w' run
  exact ⟨db', shows', done.exact normal keys noErrors⟩

/-- Tables that are not exact are so after a backfill. -/
theorem sample_backfill_exact :
    ∃ r w' db', (Sample.engine.backfill).runIn (Sample.world Sample.tables) = (.ok r, w') ∧
      r.stats.errors = [] ∧ w'.Shows db' Sample.disk ∧ Sample.tables.SameGraph db' ∧
      db'.Exact Sample.disk Sample.root := by
  have returns : ((Sample.engine.backfill).runIn
      (Sample.world Sample.tables)).1.toOption.map (·.stats.errors) = some [] := by decide +kernel
  have normal : Sample.tables.Normal := by decide +kernel
  have keys : ∀ file ∈ Sample.tables.fileMetrics, (Path.ofString file).toString = file := by
    intro file mem
    exact (ExtTreeMap.not_mem_empty mem).elim
  have quiet : ∀ i n : Nat, Quiet (pure () : Action Unit Unit) := fun _ _ w => ⟨w.others, rfl⟩
  rcases run : (Sample.engine.backfill).runIn (Sample.world Sample.tables) with ⟨e | r, w'⟩
  · rw [run] at returns
    cases returns
  · rw [run] at returns
    have noErrors : r.stats.errors = [] := Option.some.inj returns
    have ⟨db', exact⟩ := backfill_exact rfl (Sample.world_shows Sample.tables) normal keys quiet run
      noErrors
    exact ⟨r, w', db', rfl, noErrors, exact⟩

end Engine

end CodeGauge
