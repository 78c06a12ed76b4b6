import CodeGauge.Proofs.Engine.Composing
import CodeGauge.Proofs.Engine.Isolation

/-!
# Rows and the keys that guard them

A recomputation holds a key for each file and each symbol of the set that it locks, and it writes
rows of symbols that it never locked, since it measures all symbols of the files in the set. What
covers these is that the set is filed (`Affected.Filed`): it has the file of each of its stored
symbols. Every derivation gives a filed set, and growth, deletion and the rounds of a recomputation
keep it filed. So while nothing else changes the graph, a key is held for each row that is written
or deleted (`Recomputation.Guarded`), and two calls on one graph that write the same row hold a key
in common.
-/

open Std

namespace CodeGauge

variable {ω α β : Type} {db db' tables : Database} {disk : Disk} {root : Path}

/-! ## The graph that a world has -/

/-- The repository shows tables with this graph. The rows in them and the disk may be any. -/
def World.HasGraph (w : World ω) (db : Database) : Prop :=
  ∃ tables disk, w.Shows tables disk ∧ db.SameGraph tables

/-- The action leaves the graph as it is, if it succeeds. -/
def Action.KeepsGraph (x : Action ω α) : Prop :=
  ∀ (w : World ω) (db : Database), db.Normal → w.HasGraph db →
    x.Ensures w fun _ w' => w'.HasGraph db

/-- Nothing changes the graph during a load, which gives a snapshot of that graph. Metrics rows,
disk and clock may change. -/
structure Loader.KeepsGraph (loader : Loader ω) (root : Path) : Prop where
  part : ∀ (A : Affected) (w : World ω) (db : Database), db.Normal → w.HasGraph db →
    (loader.part A).Ensures w fun g w' => w'.HasGraph db ∧ ∃ w₁ w₂ : World ω,
      w₁.HasGraph db ∧ (Snapshot.loadPart A (some root)).runIn w₁ = (.ok g, w₂)
  whole : ∀ (w : World ω) (db : Database), db.Normal → w.HasGraph db →
    loader.whole.Ensures w fun g w' => w'.HasGraph db ∧ ∃ w₁ w₂ : World ω,
      w₁.HasGraph db ∧ (Snapshot.loadAll (some root)).runIn w₁ = (.ok g, w₂)

private theorem Database.SameGraph.normal (graph : db.SameGraph db') (normal : db.Normal) :
    db'.Normal := by
  rw [SameGraph] at graph
  rw [graph]
  exact normal

private theorem Database.SameGraph.symbols_eq (graph : db.SameGraph db') :
    db'.symbols = db.symbols := by
  rw [SameGraph] at graph
  rw [graph]

/-- What is removed from a graph depends on the graph alone. -/
theorem Database.SameGraph.without (graph : db.SameGraph db') (removal : Removal) :
    (db.without removal).SameGraph (db'.without removal) := by
  rw [SameGraph] at graph ⊢
  rw [graph]
  cases removal <;> rfl

namespace Snapshot

variable {A : Affected} {w : World ω}

/-- What is loaded of a graph shows it. -/
theorem loadPart_graph (normal : db.Normal) (start : w.HasGraph db) (A : Affected) :
    (loadPart A (some root)).Ensures w fun g w' =>
      w'.HasGraph db ∧ ∃ disk, g.Shows A db disk root := by
  obtain ⟨tables, disk, shows, graph⟩ := start
  refine ((opens_loadPart A).ensures shows (P := fun g disk => g.Shows A tables disk root)
    fun o isOpen => loadPart_ensures isOpen (graph.normal normal) A).mono ?_
  intro g w' ⟨shown, shows'⟩
  exact ⟨⟨tables, disk, shows', graph⟩, disk, shown.of_sameGraph graph.symm⟩

private theorem loadAll_graph (normal : db.Normal) (start : w.HasGraph db) :
    (loadAll (some root)).Ensures w fun g w' =>
      w'.HasGraph db ∧ ∃ disk, g.ShowsAll db disk root := by
  obtain ⟨tables, disk, shows, graph⟩ := start
  refine (opens_loadAll.ensures shows (P := fun g disk => g.ShowsAll tables disk root)
    fun o isOpen => loadAll_ensures isOpen (graph.normal normal)).mono ?_
  intro g w' ⟨shown, shows'⟩
  exact ⟨⟨tables, disk, shows', graph⟩, disk, shown.of_sameGraph graph.symm⟩

end Snapshot

namespace Loader

variable {loader : Loader ω} {w : World ω}

/-- The loader that only reads keeps the graph. -/
theorem plain_keepsGraph : (plain root : Loader ω).KeepsGraph root := by
  constructor
  · intro A w db normal start g w' run
    have ⟨kept, _⟩ := Snapshot.loadPart_graph normal start A g w' run
    exact ⟨kept, w, w', start, run⟩
  · intro w db normal start g w' run
    have ⟨kept, _⟩ := Snapshot.loadAll_graph normal start g w' run
    exact ⟨kept, w, w', start, run⟩

private theorem KeepsGraph.part_shows (keeps : loader.KeepsGraph root) (normal : db.Normal)
    (start : w.HasGraph db) (A : Affected) :
    (loader.part A).Ensures w fun g w' =>
      w'.HasGraph db ∧ ∃ disk, g.Shows A db disk root := by
  refine (keeps.part A w db normal start).mono ?_
  intro g w' ⟨kept, w₁, w₂, moment, run⟩
  exact ⟨kept, (Snapshot.loadPart_graph normal moment A g w₂ run).2⟩

private theorem KeepsGraph.whole_shows (keeps : loader.KeepsGraph root) (normal : db.Normal)
    (start : w.HasGraph db) :
    loader.whole.Ensures w fun g w' =>
      w'.HasGraph db ∧ ∃ disk, g.ShowsAll db disk root := by
  refine (keeps.whole w db normal start).mono ?_
  intro g w' ⟨kept, w₁, w₂, moment, run⟩
  exact ⟨kept, (Snapshot.loadAll_graph normal moment g w₂ run).2⟩

end Loader

/-- A deletion leaves the graph without what it removes. -/
theorem Removal.deletion_graph (removal : Removal) {w : World ω} (start : w.HasGraph db) :
    removal.deletion.Ensures w fun _ w' => w'.HasGraph (db.without removal) := by
  obtain ⟨tables, disk, shows, graph⟩ := start
  refine (removal.deletion_shows shows).mono fun _ w' shows' => ?_
  exact ⟨tables.without removal, disk, shows', graph.without removal⟩

/-! ## Filed sets -/

/-- The set has the file of each of its stored symbols. -/
def Affected.Filed (A : Affected) (db : Database) : Prop :=
  ∀ id ∈ A.symbols, ∀ row, db.symbols[id]? = some row → ∃ path ∈ A.files, path.toString = row.file

namespace Affected.Filed

variable {A B : Affected}

private theorem empty (db : Database) : Affected.Filed ∅ db :=
  fun _ mem => (ExtTreeSet.not_mem_empty mem).elim

private theorem union (hA : A.Filed db) (hB : B.Filed db) : (A ∪ B).Filed db := by
  intro id mem row hr
  rcases mem_symbols_union.mp mem with own | own
  · obtain ⟨path, held, file⟩ := hA id own row hr
    exact ⟨path, mem_files_union.mpr (.inl held), file⟩
  · obtain ⟨path, held, file⟩ := hB id own row hr
    exact ⟨path, mem_files_union.mpr (.inr held), file⟩

/-- A set stays filed when symbols are removed. -/
theorem without (h : A.Filed db) (removal : Removal) : A.Filed (db.without removal) := by
  intro id mem row hr
  rw [Removal.symbols_without] at hr
  split at hr
  · cases hr
  · exact h id mem row hr

end Affected.Filed

namespace Snapshot

variable {g : Snapshot} {A d : Affected}

/-- A surrounded set is filed, when the symbols that it surrounds are complete if they are
stored. -/
theorem Mirrors.filed_surrounded (mirrors : g.Mirrors db disk root) (normal : db.Normal)
    {files : ExtTreeSet Path} {symbols : ExtTreeSet Int}
    (complete : ∀ id ∈ symbols, (db.symbols[id]?).isSome → id ∈ g.complete)
    (hd : g.surrounded files symbols = .ok d) : d.Filed db := by
  obtain ⟨members, paths⟩ := surrounded_eq_ok hd
  intro id mem row hr
  have stored : (db.symbols[id]?).isSome := by simp [hr]
  have known : (g.symbol? id).isSome := by
    rcases (members id).mp mem with own | next
    · exact mirrors.complete id (complete id own stored)
    · obtain ⟨e, he, t, -, joins⟩ := mem_neighbors.mp next
      exact mirrors.known_of_joins he joins stored
  obtain ⟨path, own, file⟩ := mirrors.exists_fileOf normal hr known
  exact ⟨path, (paths path).mpr (.inr ⟨id, mem, own⟩), file⟩

/-- A wanted symbol is complete if it is stored. -/
theorem Shows.complete_of_wanted (shows : g.Shows A db disk root) {id : Int}
    (wanted : id ∈ A.symbols) (stored : (db.symbols[id]?).isSome) : id ∈ g.complete := by
  obtain ⟨row, hr⟩ := Option.isSome_iff_exists.mp stored
  exact (shows.complete id).mpr ⟨row, hr, .inl wanted⟩

end Snapshot

namespace Refresh

variable {g : Snapshot} {A d : Affected}

/-- What a refresh derives is filed. -/
theorem filed (refresh : Refresh) (normal : db.Normal) (start : refresh.seed ⊆ A)
    (shows : g.Shows A db disk root) (hd : refresh.derive g = .ok d) : d.Filed db := by
  obtain ⟨files, symbols⟩ := Affected.subset_iff.mp start
  cases refresh with
  | file path prior =>
    obtain ⟨own, ho, hd⟩ := Except.bind_eq_ok.mp hd
    refine shows.mirrors.filed_surrounded normal (fun id mem _ => ?_) hd
    have covered := (shows.files path).mpr (files path (Affected.mem_files_of.mpr (by simp)))
    obtain ⟨file, hf⟩ := Option.isSome_iff_exists.mp
      (ExtTreeMap.mem_iff_isSome_getElem?.mp covered)
    apply (shows.mirrors.files path file hf).complete
    rw [← shows.mirrors.symbolsInFile_ids hf ho]
    simpa using mem
  | symbols ids =>
    apply shows.mirrors.filed_surrounded normal _ hd
    exact fun id mem stored => shows.complete_of_wanted (symbols id mem) stored
  | edges ends =>
    cases hd
    intro id mem row hr
    have complete := shows.complete_of_wanted (symbols id mem) (by simp [hr])
    obtain ⟨path, own, file⟩ :=
      shows.mirrors.exists_fileOf normal hr (shows.mirrors.complete id complete)
    exact ⟨path, Snapshot.mem_filesOf.mpr ⟨id, mem, own⟩, file⟩

/-- What a refresh derives has the symbols that it was asked for. -/
theorem asked_subset (refresh : Refresh) (hd : refresh.derive g = .ok d) :
    ∀ id ∈ refresh.seed.symbols, id ∈ d.symbols := by
  intro id mem
  cases refresh with
  | file path prior => simp [seed] at mem
  | symbols ids => exact ((Snapshot.surrounded_eq_ok hd).1 id).mpr (.inl mem)
  | edges ends =>
    cases hd
    exact mem

end Refresh

/-! ## Batches within a set -/

/-- The symbol has a row that is filed under the path. -/
def Database.HasRowIn (db : Database) (path : Path) (id : Int) : Prop :=
  ∃ row, db.symbolMetrics[id]? = some row ∧ row.path = path.toString

/-- What the batch writes or deletes lies in the set: each file, the file of each symbol that has a
row written, and of a stored row that is deleted the symbol or the file it is filed under. -/
structure Batch.Within (b : Batch) (A : Affected) (tables : Database) : Prop where
  file_written : ∀ row ∈ b.fileRows, row.path ∈ A.files
  file_deleted : ∀ path ∈ b.deletedFiles, path ∈ A.files
  symbol_written : ∀ d ∈ b.symbolRows, ∃ id symbol, d.symbolId = some id ∧
    tables.symbols[id]? = some symbol ∧ ∃ path ∈ A.files, path.toString = symbol.file
  symbol_deleted : ∀ id ∈ b.deletedSymbols, id ∈ A.symbols ∨
    ∃ path ∈ A.files, tables.HasRowIn path id

namespace Engine

variable {g : Snapshot} {A : Affected} {a : Aggregate} {now : Int}

/-- Stale symbols are those of rows that are filed under one of the files. -/
theorem staleSymbols_filed (g : Snapshot) (files : List Path) {w : World ω}
    (shows : w.Shows tables disk) :
    (staleSymbols g files).Ensures w fun stale w' => w'.Shows tables disk ∧ ∀ id ∈ stale,
      ∃ path ∈ files, tables.HasRowIn path id := by
  -- what was found before an accumulated set comes from files before the rest of the list
  have general (found : ExtTreeSet Int) (rest : List Path) (within : ∀ path ∈ rest, path ∈ files)
      (filed : ∀ id ∈ found, ∃ path ∈ files, tables.HasRowIn path id) {w : World ω}
      (shows : w.Shows tables disk) :
      (rest.foldlM (fun stale path => do
        if g.covers path then
          let live ← Action.of (g.symbolsInFile path)
          let stored ← MetricsStore.symbolIdsInFile path
          return stale ∪ (stored \ Snapshot.idSet live)
        else return stale) found : Action ω (ExtTreeSet Int)).Ensures w fun stale w' =>
          w'.Shows tables disk ∧ ∀ id ∈ stale, ∃ path ∈ files, tables.HasRowIn path id := by
    induction rest generalizing found w with
    | nil => exact .pure ⟨shows, filed⟩
    | cons path rest ih =>
      obtain ⟨own, within⟩ := List.forall_mem_cons.mp within
      rw [List.foldlM_cons]
      refine .bind (P := fun next w' => w'.Shows tables disk ∧ ∀ id ∈ next, ∃ path ∈ files,
        tables.HasRowIn path id) ?_
        fun next w' ⟨shows', filed'⟩ => ih next within filed' shows'
      split
      · refine .given fun live _ => ?_
        refine .bind ((Action.opens_query _ _ _).bind _ |>.ensures shows (P := fun ids _ =>
          ∀ id, id ∈ ids ↔ tables.HasRowIn path id) fun o isOpen =>
          (MetricsStore.symbolIdsInFile_reads path o isOpen).mono fun _ _ ⟨held, alike⟩ =>
            ⟨held, alike.onward isOpen⟩) fun stored w' ⟨held, shows'⟩ => ?_
        refine .pure ⟨shows', fun id mem => ?_⟩
        rcases ExtTreeSet.mem_union_iff.mp mem with old | new
        · exact filed id old
        · exact ⟨path, own, (held id).mp (ExtTreeSet.mem_diff_iff.mp new).1⟩
      · exact .pure ⟨shows, filed⟩
  exact general ∅ files (fun _ mem => mem) (fun _ mem => (ExtTreeSet.not_mem_empty mem).elim) shows

/-- What is not absent but deleted has a row that is filed under a file of the set. -/
theorem batchOf_filed (a : Aggregate) (g : Snapshot) (A : Affected) {w : World ω}
    (shows : w.Shows tables disk) :
    (batchOf a g A).Ensures w fun b w' => w'.Shows tables disk ∧
      b.fileRows = a.files ∧ b.symbolRows = a.symbols.map (·.draft) ∧
      (∀ path ∈ b.deletedFiles, path ∈ absentFiles a) ∧
      ∀ id ∈ b.deletedSymbols, id ∈ absentSymbols a ∨
        ∃ path ∈ A.files, tables.HasRowIn path id := by
  refine (staleSymbols_filed g _ shows).bind fun stale w' ⟨shows', filed⟩ => ?_
  refine .pure ⟨shows', rfl, rfl, fun path mem => ?_, fun id mem => ?_⟩
  · simpa using mem
  · simp only [ExtTreeSet.mem_union_iff, ExtTreeSet.mem_ofList, List.contains_iff_mem] at mem
    simpa only [ExtTreeSet.mem_toList] using mem.imp_right (filed id)

/-- The batch of a filed set lies in it. -/
theorem within_of_shows (normal : db.Normal) (graph : db.SameGraph tables)
    (shows : g.Shows A db disk root) (filed : A.Filed db)
    (ha : g.aggregate A.files.toList A.symbols.toList now = .ok a) {b : Batch}
    (fileRows : b.fileRows = a.files) (symbolRows : b.symbolRows = a.symbols.map (·.draft))
    (deletedFiles : ∀ path ∈ b.deletedFiles, path ∈ absentFiles a)
    (deletedSymbols : ∀ id ∈ b.deletedSymbols, id ∈ absentSymbols a ∨
      ∃ path ∈ A.files, tables.HasRowIn path id) :
    b.Within A tables := by
  have m := measures_of_shows shows normal ha
  constructor
  · intro row mem
    rw [fileRows] at mem
    exact (m.file_row row mem).1
  · intro path mem
    exact ((m.file_absent path).mp (deletedFiles path mem)).1
  · intro d mem
    rw [symbolRows] at mem
    obtain ⟨row, measured, rfl⟩ := List.mem_map.mp mem
    obtain ⟨covered, stored, -⟩ := m.symbol_row row measured
    obtain ⟨symbol, hs⟩ := Option.isSome_iff_exists.mp stored
    refine ⟨row.symbolId, symbol, rfl, graph.symbols_eq ▸ hs, ?_⟩
    rcases covered with own | ⟨symbol', hs', inFile⟩
    · exact filed row.symbolId own symbol hs
    · rw [hs] at hs'
      cases hs'
      exact inFile
  · intro id mem
    refine (deletedSymbols id mem).imp_left fun absent => ?_
    obtain ⟨covered, gone⟩ := (m.symbol_absent id).mp absent
    rcases covered with own | ⟨symbol, hs, -⟩
    · exact own
    · rw [gone] at hs
      cases hs

/-! ## Rounds -/

section Rounds

variable (refresh : Refresh) (db after : Database) (root : Path) (deletion : Option (Action ω Unit))

-- Where a round starts: its sets are filed in the graph that the world has, which is the one before
-- the deletion or the one after it.
private inductive Filing (r : Round ω) (w : World ω) : Prop
  | todo {action : Action ω Unit} (pending : r.deletion = some action)
    (asked : deletion = some action) (seeded : refresh.seed ⊆ r.affected)
    (affected : r.affected.Filed db) (prior : r.prior.Filed db) (graph : w.HasGraph db)
  | done (none : r.deletion = none) (seeded : refresh.seed ⊆ r.affected)
    (affected : r.affected.Filed after) (prior : r.prior.Filed after) (graph : w.HasGraph after)

-- What the rounds end with: a batch that lies in the set, while the world has the graph.
private def Composed (after : Database) (res : Recomputation) (w : World ω) : Prop :=
  ∃ tables disk, w.Shows tables disk ∧ after.SameGraph tables ∧
    res.batch.Within res.affected tables

variable {refresh db after root deletion} {E : Engine ω}

private theorem composePart_filing (keeps : E.loader.KeepsGraph root) (normal : after.Normal)
    {r : Round ω} {w : World ω} (none : r.deletion = none) (seeded : refresh.seed ⊆ r.affected)
    (affected : r.affected.Filed after) (prior : r.prior.Filed after) (graph : w.HasGraph after) :
    (E.composePart refresh.derive r).Ensures w
      (RoundEnd.Meets (Filing refresh db after deletion) (Composed after)) := by
  unfold composePart
  refine (keeps.part_shows normal graph r.affected).bind ?_
  intro g w₁ ⟨graph₁, disk, shows⟩
  refine .given fun d hd => ?_
  dsimp only
  split
  · refine .pure (.done none ?_ ?_ prior graph₁)
    · exact Affected.subset_trans seeded (Affected.subset_union_left _ _)
    · exact affected.union ((refresh.filed normal seeded shows hd).union prior)
  refine .after Action.runIn_get ?_
  refine .given fun now _ => .given fun a ha => ?_
  split
  · exact .pure (.done none seeded affected prior graph₁)
  obtain ⟨tables, disk', shows₁, same⟩ := graph₁
  refine (batchOf_filed a g r.affected shows₁).bind ?_
  intro b w₂ ⟨shows₂, fileRows, symbolRows, deletedFiles, deletedSymbols⟩
  exact .pure ⟨tables, disk', shows₂, same, within_of_shows normal same shows affected ha fileRows
    symbolRows deletedFiles deletedSymbols⟩

private theorem composeRound_filing (keeps : E.loader.KeepsGraph root) (normal : db.Normal)
    (normal' : after.Normal) (fewer : ∀ A : Affected, A.Filed db → A.Filed after)
    (deletes : ∀ action, deletion = some action → ∀ w : World ω, w.HasGraph db →
      action.Ensures w fun _ w' => w'.HasGraph after)
    {r : Round ω} {w : World ω} (filing : Filing refresh db after deletion r w) :
    (E.composeRound refresh.derive r).Ensures w
      (RoundEnd.Meets (Filing refresh db after deletion) (Composed after)) := by
  unfold composeRound
  cases filing with
  | done none seeded affected prior graph =>
    rw [none]
    exact composePart_filing keeps normal' none seeded affected prior graph
  | todo pending asked seeded affected prior graph =>
    rw [pending]
    refine (keeps.part_shows normal graph r.affected).bind ?_
    intro g w₁ ⟨graph₁, disk, shows⟩
    refine .given fun d hd => ?_
    have before := (refresh.filed normal seeded shows hd).union prior
    dsimp only
    split
    · refine .pure (.todo rfl asked ?_ (affected.union before) prior graph₁)
      exact Affected.subset_trans seeded (Affected.subset_union_left _ _)
    · refine (deletes _ asked w₁ graph₁).bind fun _ w₂ graph₂ => ?_
      exact composePart_filing keeps normal' rfl seeded (fewer _ affected) (fewer _ before) graph₂

/-- While nothing else changes the graph, the batch that a recomputation composes lies in the set
that it locks. -/
theorem compose_within (keeps : E.loader.KeepsGraph root) (normal : db.Normal)
    (normal' : after.Normal) (fewer : ∀ A : Affected, A.Filed db → A.Filed after)
    (kept : deletion = none → after = db)
    (deletes : ∀ action, deletion = some action → ∀ w : World ω, w.HasGraph db →
      action.Ensures w fun _ w' => w'.HasGraph after)
    {prior : Affected} (filed : prior.Filed db) {w : World ω} (start : w.HasGraph db) :
    (E.compose refresh.seed refresh.derive prior deletion).Ensures w fun res w' =>
      ∃ tables disk, w'.Shows tables disk ∧ after.SameGraph tables ∧
        res.batch.Within res.affected tables := by
  unfold compose
  refine (keeps.part_shows normal start refresh.seed).bind ?_
  intro g w₁ ⟨graph₁, disk, shows⟩
  refine .given fun first hd => ?_
  have derived := refresh.filed normal (Affected.subset_refl _) shows hd
  have held : (refresh.seed ∪ prior ∪ first).Filed db := by
    intro id mem row hr
    simp only [Affected.mem_symbols_union] at mem
    rcases mem with (asked | given) | own
    · obtain ⟨path, held, file⟩ := derived id (refresh.asked_subset hd id asked) row hr
      exact ⟨path, by simp [held], file⟩
    · obtain ⟨path, held, file⟩ := filed id given row hr
      exact ⟨path, by simp [held], file⟩
    · obtain ⟨path, held, file⟩ := derived id own row hr
      exact ⟨path, by simp [held], file⟩
  have seeded : refresh.seed ⊆ refresh.seed ∪ prior ∪ first :=
    (Affected.union_subset_iff.mp (Affected.subset_union_left _ _)).1
  refine runRounds_ensures (I := Filing refresh db after deletion)
    (fun r w₂ filing => composeRound_filing keeps normal normal' fewer deletes filing)
    E.maxRounds ?_
  cases asked : deletion with
  | none =>
    cases kept asked
    exact .done rfl seeded held filed graph₁
  | some action => exact .todo rfl rfl seeded held filed graph₁

end Rounds

/-! ## Rounds of a backfill -/

/-- The set with the entities of stored rows is found without a change of the tables. -/
theorem withStored_shows (shown : g.ShowsAll tables disk root) {w : World ω} {disk' : Disk}
    (shows : w.Shows tables disk') :
    (withStored g.affectedByAll).Ensures w fun current w' =>
      current.Everything tables ∧ w'.Shows tables disk' := by
  have opens : (withStored g.affectedByAll : Action ω Affected).Opens :=
    ((Action.opens_query _ _ _).bind _).bind _
  apply opens.ensures shows (P := fun current _ => current.Everything tables)
  intro o isOpen
  refine (withStored_reads shown o isOpen).mono ?_
  exact fun current _ ⟨⟨_, everything, _⟩, alike⟩ => ⟨everything, alike.onward isOpen⟩

/-- The batch of a backfill lies in a set that has the files of all symbols. -/
theorem within_of_all (normal : tables.Normal)
    (held : ∀ (id : Int) (symbol : SymbolRow), tables.symbols[id]? = some symbol →
      Path.ofString symbol.file ∈ A.files)
    (m : a.Measures tables disk root (fun path => tables.symbolCount path.toString ≠ 0)
      (fun id => (tables.symbols[id]?).isSome) now) {b : Batch}
    (fileRows : b.fileRows = a.files) (symbolRows : b.symbolRows = a.symbols.map (·.draft))
    (deletedFiles : ∀ path ∈ b.deletedFiles, path ∈ absentFiles a ∨ path ∈ A.files)
    (deletedSymbols : ∀ id ∈ b.deletedSymbols, id ∈ absentSymbols a ∨ id ∈ A.symbols ∨
      ∃ path ∈ A.files, tables.HasRowIn path id) :
    b.Within A tables := by
  constructor
  · intro row mem
    rw [fileRows] at mem
    obtain ⟨id, symbol, hs, file⟩ := Database.symbolCount_ne_zero.mp (m.file_row row mem).1
    have own := held id symbol hs
    rwa [file, Path.ofString_toString] at own
  · intro path mem
    rcases deletedFiles path mem with absent | held
    · obtain ⟨counted, none⟩ := (m.file_absent path).mp absent
      exact (counted none).elim
    · exact held
  · intro d mem
    rw [symbolRows] at mem
    obtain ⟨row, measured, rfl⟩ := List.mem_map.mp mem
    obtain ⟨symbol, hs⟩ := Option.isSome_iff_exists.mp (m.symbol_row row measured).1
    exact ⟨row.symbolId, symbol, rfl, hs, _, held _ symbol hs, normal _ symbol hs⟩
  · intro id mem
    rcases deletedSymbols id mem with absent | held
    · obtain ⟨stored, gone⟩ := (m.symbol_absent id).mp absent
      simp [gone] at stored
    · exact held

end Engine

/-- What lies in a set lies in a larger one. -/
theorem Batch.Within.mono {b : Batch} {A B : Affected} (h : b.Within A tables) (sub : A ⊆ B) :
    b.Within B tables := by
  rw [Affected.subset_iff] at sub
  refine ⟨fun row mem => sub.1 _ (h.file_written row mem),
    fun path mem => sub.1 _ (h.file_deleted path mem), fun d mem => ?_, fun id mem => ?_⟩
  · obtain ⟨id, symbol, own, hs, path, held, file⟩ := h.symbol_written d mem
    exact ⟨id, symbol, own, hs, path, sub.1 path held, file⟩
  · rcases h.symbol_deleted id mem with own | ⟨path, held, row⟩
    · exact .inl (sub.2 id own)
    · exact .inr ⟨path, sub.1 path held, row⟩

namespace Engine

variable {E : Engine ω} {notify : Nat → Nat → Action ω Unit}

private theorem composeAll_within (keeps : E.loader.KeepsGraph root) (normal : db.Normal)
    (quiet : ∀ i n, (notify i n).KeepsGraph) (r : Round ω) {w : World ω} (start : w.HasGraph db) :
    (E.composeAll notify r).Ensures w
      (RoundEnd.Meets (fun _ w' => w'.HasGraph db) (Composed db)) := by
  unfold composeAll
  refine (keeps.whole_shows normal start).bind ?_
  intro g w₁ ⟨⟨tables, disk, shows₁, same⟩, disk₁, shown⟩
  refine (withStored_shows (shown.of_sameGraph same) shows₁).bind ?_
  intro current w₂ ⟨everything, shows₂⟩
  dsimp only
  split
  · exact .pure ⟨tables, disk, shows₂, same⟩
  next covered =>
  rw [Classical.not_not] at covered
  refine .after Action.runIn_get ?_
  refine .given fun now _ => ?_
  refine (measuring_measures (I := (·.HasGraph db)) (fun i n w graph => quiet i n w db normal graph)
    ⟨tables, disk, shows₂, same⟩).bind ?_
  intro measured w₃ ⟨hm, graph₃⟩
  refine .given fun a ha => ?_
  split
  · exact .pure graph₃
  -- the rows may have changed in the meantime, the graph has not
  obtain ⟨tables₃, disk₃, shows₃, same₃⟩ := graph₃
  refine (batchOf_filed a g current shows₃).bind ?_
  intro b w₄ ⟨shows₄, fileRows, symbolRows, deletedFiles, deletedSymbols⟩
  have m := measures_of_all (shown.of_sameGraph same₃) (same₃.normal normal) hm ha
  have within := within_of_all (A := current) (b := { b with
      deletedFiles := b.deletedFiles ∪ (current.files \ .ofList g.files.keys)
      deletedSymbols := b.deletedSymbols ∪ (current.symbols \ g.complete) })
    (same₃.normal normal) (fun id symbol hs => ?_) m fileRows symbolRows (fun path mem => ?_)
    fun id mem => ?_
  · exact .pure ⟨tables₃, disk₃, shows₄, same₃, within.mono covered⟩
  · rw [same₃.symbols_eq, ← same.symbols_eq] at hs
    exact (everything.symbols id symbol hs).2
  · rw [ExtTreeSet.mem_union_iff, ExtTreeSet.mem_diff_iff] at mem
    exact mem.imp (deletedFiles path) And.left
  · rw [ExtTreeSet.mem_union_iff, ExtTreeSet.mem_diff_iff] at mem
    rcases mem with deleted | ⟨held, _⟩
    · exact (deletedSymbols id deleted).imp_right .inr
    · exact .inr (.inl held)

/-- While nothing else changes the graph, the batch that a backfill composes lies in the set that it
locks. -/
theorem composeBackfill_within (keeps : E.loader.KeepsGraph root) (normal : db.Normal)
    (quiet : ∀ i n, (notify i n).KeepsGraph) {w : World ω} (start : w.HasGraph db) :
    (E.composeBackfill notify).Ensures w fun res w' =>
      ∃ tables disk, w'.Shows tables disk ∧ db.SameGraph tables ∧
        res.batch.Within res.affected tables := by
  unfold composeBackfill
  refine (keeps.whole_shows normal start).bind ?_
  intro g w₁ ⟨⟨tables, disk, shows₁, same⟩, disk₁, shown⟩
  refine (withStored_shows (shown.of_sameGraph same) shows₁).bind ?_
  intro affected w₂ ⟨_, shows₂⟩
  exact runRounds_ensures (I := fun _ w' => w'.HasGraph db)
    (fun r w' graph => composeAll_within keeps normal quiet r graph) E.maxRounds
    ⟨tables, disk, shows₂, same⟩

end Engine

/-! ## Keys -/

/-- The batch writes the row of the file or deletes it. -/
def Batch.TouchesFile (b : Batch) (path : Path) : Prop :=
  (∃ row ∈ b.fileRows, row.path = path) ∨ path ∈ b.deletedFiles

/-- The batch writes the row of the symbol. -/
def Batch.WritesSymbol (b : Batch) (id : Int) : Prop :=
  ∃ d ∈ b.symbolRows, d.symbolId = some id

/-- The batch deletes the stored row of the symbol, by its id or with the file that it is filed
under. -/
def Batch.DeletesSymbol (b : Batch) (id : Int) (row : SymbolMetricsRow) : Prop :=
  id ∈ b.deletedSymbols ∨ ∃ path ∈ b.deletedFiles, path.toString = row.path

namespace Recomputation

/-- Every row that is written or deleted is guarded by a key that is held: that of its file, that of
the file its symbol lies in, and for a row that is deleted that of the symbol or of the file it is
filed under. -/
structure Guarded (res : Recomputation) (tables : Database) : Prop where
  file : ∀ path, res.batch.TouchesFile path → .ofFile path.toString ∈ res.heldKeys
  written : ∀ d ∈ res.batch.symbolRows, ∃ id symbol, d.symbolId = some id ∧
    tables.symbols[id]? = some symbol ∧ .ofFile symbol.file ∈ res.heldKeys
  deleted : ∀ id row, tables.symbolMetrics[id]? = some row → res.batch.DeletesSymbol id row →
    .ofSymbol id ∈ res.heldKeys ∨ .ofFile row.path ∈ res.heldKeys

/-- Both write or delete the row of one file, or both write the row of one symbol. -/
def Share (res res' : Recomputation) : Prop :=
  (∃ path, res.batch.TouchesFile path ∧ res'.batch.TouchesFile path) ∨
    ∃ id, res.batch.WritesSymbol id ∧ res'.batch.WritesSymbol id

variable {res res' : Recomputation}

private theorem fileKey_mem {path : Path} (held : path ∈ res.affected.files) :
    .ofFile path.toString ∈ res.heldKeys :=
  Affected.mem_lockKeys.mpr (.inl ⟨path, held, rfl⟩)

private theorem symbolKey_mem {id : Int} (held : id ∈ res.affected.symbols) :
    .ofSymbol id ∈ res.heldKeys :=
  Affected.mem_lockKeys.mpr (.inr ⟨id, held, rfl⟩)

/-- The keys of a set guard a batch that lies in it. -/
theorem guarded_of_within (within : res.batch.Within res.affected tables) :
    res.Guarded tables := by
  constructor
  · rintro path (⟨row, mem, rfl⟩ | mem)
    · exact fileKey_mem (within.file_written row mem)
    · exact fileKey_mem (within.file_deleted path mem)
  · intro d mem
    obtain ⟨id, symbol, own, hs, path, held, file⟩ := within.symbol_written d mem
    exact ⟨id, symbol, own, hs, file ▸ fileKey_mem held⟩
  · rintro id row hr (mem | ⟨path, mem, filed⟩)
    · rcases within.symbol_deleted id mem with own | ⟨path, held, row', hr', filed⟩
      · exact .inl (symbolKey_mem own)
      · rw [hr] at hr'
        cases hr'
        exact .inr (filed ▸ fileKey_mem held)
    · exact .inr (filed ▸ fileKey_mem (within.file_deleted path mem))

/-- Two guarded calls that share a row hold a key in common, if they were made on tables that have
no symbol in two different files. -/
theorem Guarded.common_key {tables' : Database} (h : res.Guarded tables)
    (h' : res'.Guarded tables')
    (agree : ∀ (id : Int) (symbol symbol' : SymbolRow), tables.symbols[id]? = some symbol →
      tables'.symbols[id]? = some symbol' → symbol = symbol')
    (shared : res.Share res') : ∃ key ∈ res.heldKeys, key ∈ res'.heldKeys := by
  rcases shared with ⟨path, own, own'⟩ | ⟨id, ⟨d, mem, key⟩, d', mem', key'⟩
  · exact ⟨_, h.file path own, h'.file path own'⟩
  · obtain ⟨i, symbol, hi, hs, held⟩ := h.written d mem
    obtain ⟨i', symbol', hi', hs', held'⟩ := h'.written d' mem'
    rw [key] at hi
    rw [key'] at hi'
    cases hi
    cases hi'
    cases agree id symbol symbol' hs hs'
    exact ⟨_, held, held'⟩

end Recomputation

/-! ## Calls -/

/-- A call that recomputes: a refresh, a removal, or a backfill that tells of its progress and
leaves the graph alone. -/
inductive Job (ω : Type) where
  | refresh (refresh : Refresh)
  | removal (removal : Removal)
  | backfill (notify : Nat → Nat → Action ω Unit) (keeps : ∀ i n, (notify i n).KeepsGraph)

namespace Job

/-- Make the call. -/
def run (E : Engine ω) : Job ω → Action ω Recomputation
  | refresh r => r.run E
  | removal r => r.run E
  | backfill notify _ => E.backfill notify

/-- Make the call up to the write. -/
def compose (E : Engine ω) : Job ω → Action ω Recomputation
  | refresh r => E.compose r.seed r.derive r.prior none
  | removal r => E.compose r.refresh.seed r.refresh.derive ∅ (some r.deletion)
  | backfill notify _ => E.composeBackfill notify

/-- The graph that the call leaves: without what it removes. -/
def after (db : Database) : Job ω → Database
  | refresh _ => db
  | removal r => db.without r
  | backfill _ _ => db

/-- What was connected before, as far as the call is told. -/
def prior : Job ω → Affected
  | refresh r => r.prior
  | removal _ => ∅
  | backfill _ _ => ∅

/-- A call composes a batch and then writes it. -/
theorem run_eq (job : Job ω) (E : Engine ω) : job.run E = job.compose E >>= Engine.write := by
  cases job with
  | refresh r =>
    rw [run, Refresh.run_eq, Engine.recompute_eq]
    rfl
  | removal r =>
    cases r with
    | file path => exact Engine.recompute_eq _ _ _
    | symbol id => exact Engine.recompute_eq _ _ _
  | backfill notify keeps => exact Engine.backfill_eq

/-- A symbol that a call leaves is one of the graph that it started with. -/
theorem symbol_of_after (job : Job ω) {id : Int} {symbol : SymbolRow}
    (hs : (job.after db).symbols[id]? = some symbol) : db.symbols[id]? = some symbol := by
  cases job with
  | refresh r => exact hs
  | removal r =>
    rw [after, Removal.symbols_without] at hs
    split at hs
    · cases hs
    · exact hs
  | backfill notify keeps => exact hs

variable {E : Engine ω} {w : World ω}

/-- When a call is about to write, it holds keys that guard every row of its batch. -/
theorem compose_guarded (job : Job ω) (keeps : E.loader.KeepsGraph root) (normal : db.Normal)
    (filed : job.prior.Filed db) (start : w.HasGraph db) :
    (job.compose E).Ensures w fun res w' => ∃ tables disk, w'.Shows tables disk ∧
      (job.after db).SameGraph tables ∧ res.Guarded tables := by
  have within : (job.compose E).Ensures w fun res w' => ∃ tables disk, w'.Shows tables disk ∧
      (job.after db).SameGraph tables ∧ res.batch.Within res.affected tables := by
    cases job with
    | refresh r =>
      apply Engine.compose_within keeps normal normal (fun _ filed => filed) (fun _ => rfl) _ filed
        start
      intro action asked
      cases asked
    | removal r =>
      apply Engine.compose_within keeps normal (Removal.normal_without normal r)
        (fun _ filed => filed.without r) _ _ (.empty db) start
      · intro none
        cases none
      · intro action asked w' start'
        cases asked
        exact r.deletion_graph start'
    | backfill notify quiet => exact Engine.composeBackfill_within keeps normal quiet start
  refine within.mono ?_
  intro res w' ⟨tables, disk, shows, graph, within⟩
  exact ⟨tables, disk, shows, graph, Recomputation.guarded_of_within within⟩

/-- A call composes its batch and then writes it. When it is about to write, while nothing else has
changed the graph, it holds keys that guard every row of the batch. Hence two calls on one graph
that share a row hold a key in common. Of what was connected before a call may be told nothing, or
a set that is filed. -/
theorem rows_guarded (job : Job ω) (keeps : E.loader.KeepsGraph root) (normal : db.Normal)
    (filed : job.prior.Filed db) (start : w.HasGraph db) {res : Recomputation} {w' : World ω}
    (composed : (job.compose E).runIn w = (.ok res, w')) :
    job.run E = job.compose E >>= Engine.write ∧
    (∃ tables disk, w'.Shows tables disk ∧ (job.after db).SameGraph tables ∧
      res.Guarded tables) ∧
    ∀ {ω' : Type} (job' : Job ω') {E' : Engine ω'} {root' : Path} {v v' : World ω'}
      {res' : Recomputation}, E'.loader.KeepsGraph root' → job'.prior.Filed db → v.HasGraph db →
      (job'.compose E').runIn v = (.ok res', v') → res.Share res' →
      ∃ key ∈ res.heldKeys, key ∈ res'.heldKeys := by
  obtain ⟨tables, disk, shows, graph, guarded⟩ :=
    job.compose_guarded keeps normal filed start res w' composed
  refine ⟨job.run_eq E, ⟨tables, disk, shows, graph, guarded⟩, ?_⟩
  intro ω' job' E' root' v v' res' keeps' filed' start' composed' shared
  obtain ⟨tables', disk', -, graph', guarded'⟩ :=
    job'.compose_guarded keeps' normal filed' start' res' v' composed'
  refine guarded.common_key guarded' (fun id symbol symbol' hs hs' => ?_) shared
  rw [graph.symbols_eq] at hs
  rw [graph'.symbols_eq] at hs'
  have same := (job.symbol_of_after hs).symm.trans (job'.symbol_of_after hs')
  exact Option.some.inj same

/-! The file `a` has a second function, which no edge touches. -/

/-- The tables of the small repository with a second function in the first file. -/
def sampleTables : Database :=
  { Sample.tables with symbols := Sample.tables.symbols.insert 3 (Sample.function "h" "a") }

/-- The refresh of the edge between the two files. -/
def sampleEdge : Job Unit := .refresh (.edges [(1, 2)])

/-- The removal of the callee. -/
def sampleRemoval : Job Unit := .removal (.symbol 2)

/-- The keys that a call holds and the ids whose rows it writes. -/
def sampleTrace (job : Job Unit) : Option (List LockKey × List (Option Int)) :=
  ((job.compose Sample.engine).runIn (Sample.world sampleTables)).1.toOption.map fun res =>
    (res.heldKeys, res.batch.symbolRows.map (·.symbolId))

/-- Both calls write the row of the third symbol, and neither holds the key of that symbol. -/
theorem sample_rows_guarded :
    ∃ res w' res' v', (sampleEdge.compose Sample.engine).runIn (Sample.world sampleTables) =
        (.ok res, w') ∧
      (sampleRemoval.compose Sample.engine).runIn (Sample.world sampleTables) = (.ok res', v') ∧
      res.batch.WritesSymbol 3 ∧ .ofSymbol 3 ∉ res.heldKeys ∧
      res'.batch.WritesSymbol 3 ∧ .ofSymbol 3 ∉ res'.heldKeys ∧
      (∃ tables disk, w'.Shows tables disk ∧ sampleTables.SameGraph tables ∧
        res.Guarded tables) ∧ ∃ key ∈ res.heldKeys, key ∈ res'.heldKeys := by
  have normal : sampleTables.Normal := by decide +kernel
  have keeps : Sample.engine.loader.KeepsGraph Sample.root := Loader.plain_keepsGraph
  have start : (Sample.world sampleTables).HasGraph sampleTables :=
    ⟨sampleTables, Sample.disk, Sample.world_shows _, .refl _⟩
  have edge : sampleTrace sampleEdge = some ([.ofFile "a", .ofFile "b", .ofSymbol 1, .ofSymbol 2],
    [some 1, some 2, some 3]) := by decide +kernel
  have removal : sampleTrace sampleRemoval = some ([.ofFile "a", .ofFile "b", .ofSymbol 1,
    .ofSymbol 2], [some 1, some 3]) := by decide +kernel
  unfold sampleTrace at edge removal
  rcases run : (sampleEdge.compose Sample.engine).runIn (Sample.world sampleTables) with
    ⟨e | res, w'⟩
  · rw [run] at edge
    cases edge
  rcases run' : (sampleRemoval.compose Sample.engine).runIn (Sample.world sampleTables) with
    ⟨e | res', v'⟩
  · rw [run'] at removal
    cases removal
  rw [run] at edge
  rw [run'] at removal
  obtain ⟨keys, rows⟩ := Prod.mk.inj (Option.some.inj edge)
  obtain ⟨keys', rows'⟩ := Prod.mk.inj (Option.some.inj removal)
  have writes : res.batch.WritesSymbol 3 := by
    have mem : some 3 ∈ res.batch.symbolRows.map (·.symbolId) := by simp [rows]
    exact List.mem_map.mp mem
  have writes' : res'.batch.WritesSymbol 3 := by
    have mem : some 3 ∈ res'.batch.symbolRows.map (·.symbolId) := by simp [rows']
    exact List.mem_map.mp mem
  obtain ⟨-, guarded, common⟩ := rows_guarded sampleEdge keeps normal (.empty _) start run
  refine ⟨res, w', res', v', rfl, rfl, writes, ?_, writes', ?_, guarded, ?_⟩
  · rw [keys]
    decide +kernel
  · rw [keys']
    decide +kernel
  · exact common sampleRemoval keeps (.empty _) start run' (.inr ⟨3, writes, writes'⟩)

end Job

end CodeGauge
