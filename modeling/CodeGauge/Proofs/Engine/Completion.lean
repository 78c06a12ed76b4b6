import CodeGauge.Proofs.Engine.Isolation
import CodeGauge.Proofs.Snapshot.Delivery

/-!
# Backfills that return

Of tables that were written by statements, a backfill returns exactly when the whole graph can be
metered (`Engine.backfill_returns_iff`): no path of a file has a character NUL, every symbol has
lines and bytes whose differences a column can hold, and one statement can list all files. Nothing
else in the tables or on the disk keeps it from returning, for a file without a content is only
reported. But one symbol that cannot be metered fails it as a whole.
-/

open Std

namespace CodeGauge

variable {ω : Type} {E : Engine ω} {w : World ω} {db : Database} {disk : Disk} {root : Path}
  {now : Int} {capacity : Capacity}

/-! ## Stored rows -/

namespace MetricsStore

open CodeGauge.Action (Replies query_replies queryAll_replies query_reads)

/-- The file rows can be read if each has a path. -/
theorem files_replies (pathless : db.pathlessMetrics = []) :
    (files : Action ω (List FileMetrics)).Replies db capacity := by
  refine (queryAll_replies ⟨rfl, rfl⟩ _).bind (query_reads _ _ _) ?_
  rintro _ rfl
  apply Replies.of
  apply exists_mapM_eq_ok
  rintro ⟨path, row⟩ mem
  rw [Database.fileMetricsRows, pathless, List.map_nil, List.nil_append] at mem
  obtain ⟨⟨file, row'⟩, _, same⟩ := List.mem_map.mp mem
  cases same
  exact ⟨_, rfl⟩

private theorem symbols_replies :
    (symbols : Action ω (List SymbolMetrics)).Replies db capacity := by
  refine (queryAll_replies ⟨rfl, rfl⟩ _).bind (query_reads _ _ _) ?_
  intro _ _
  exact .pure _

private theorem symbolIdsInFile_replies (path : Path) :
    (symbolIdsInFile path : Action ω (ExtTreeSet Int)).Replies db capacity := by
  refine (query_replies ⟨rfl, rfl⟩ ?_ _).bind (query_reads _ _ _) ?_
  · intro v mem
    rw [List.mem_singleton.mp mem]
    rfl
  · intro _ _
    exact .pure _

end MetricsStore

/-- A set that is the whole one holds everything. -/
theorem Affected.Whole.everything {A : Affected} (whole : A.Whole db) : A.Everything db := by
  refine ⟨fun id row stored => ⟨?_, ?_⟩, fun file stored => ?_, fun id stored => ?_⟩
  · exact (whole.symbols id).mpr (.inl (by rw [stored]; rfl))
  · exact (whole.files _).mpr (.inl ⟨id, row, stored, rfl⟩)
  · exact (whole.files _).mpr (.inr ⟨file, stored, rfl⟩)
  · exact (whole.symbols id).mpr (.inr stored)

/-- The symbol rows that are deleted to renew the whole set have ids that a column can hold. -/
theorem Batch.Renews.inColumn_of_deleted {b : Batch} {A : Affected}
    (renews : b.Renews db disk root A now) (whole : A.Whole db) (sound : db.Sound) {id : Int}
    (deleted : id ∈ b.deletedSymbols) : inColumn id = true := by
  have known : (db.symbols[id]?).isSome ∨ id ∈ db.symbolMetrics := by
    rcases renews.symbol_deleted id deleted with ⟨own, _⟩ | ⟨_, _, ⟨row, held, _⟩, _⟩
    · exact (whole.symbols id).mp own
    · right
      rw [ExtTreeMap.mem_iff_isSome_getElem?, held]
      rfl
  rcases known with stored | held
  · obtain ⟨row, stored⟩ := Option.isSome_iff_exists.mp stored
    exact (sound.symbol id row stored).1.2
  · exact sound.symbolRow id held

namespace Engine

open CodeGauge.Action World

/-! ## Reading in a round -/

private theorem withStored_replies (sound : db.Sound) (A : Affected) :
    (withStored A : Action ω Affected).Replies db capacity := by
  refine (MetricsStore.files_replies sound.pathless).bind MetricsStore.files_reads fun _ _ => ?_
  refine MetricsStore.symbols_replies.bind MetricsStore.symbols_reads fun _ _ => ?_
  exact .pure _

private theorem staleSymbols_replies {g : Snapshot} (h : g.Mirrors db disk root)
    (files : List Path) :
    (staleSymbols g files : Action ω (ExtTreeSet Int)).Replies db capacity := by
  apply Replies.foldlM
  · intro found path _
    split
    · next covered =>
      obtain ⟨file, hf⟩ := Option.isSome_iff_exists.mp
        (ExtTreeMap.mem_iff_isSome_getElem?.mp (ExtTreeMap.contains_iff_mem.mp covered))
      refine (Replies.of (h.exists_symbolsInFile hf)).bind
        (P := fun _ => True) (.of fun _ _ => trivial) fun live _ => ?_
      refine (MetricsStore.symbolIdsInFile_replies path).bind
        (MetricsStore.symbolIdsInFile_reads path) fun stored _ => ?_
      exact .pure _
    · exact .pure _
  · intro found path _
    split
    · refine Reads.bind (P := fun _ => True) (.of fun _ _ => trivial) fun live _ => ?_
      exact (MetricsStore.symbolIdsInFile_reads path).bind fun stored _ => .pure trivial
    · exact .pure trivial

/-- The batch is made by reads that an open repository answers. -/
theorem batchOf_replies {g : Snapshot} (h : g.Mirrors db disk root) (a : Aggregate)
    (A : Affected) : (batchOf a g A : Action ω Batch).Replies db capacity :=
  (staleSymbols_replies h _).bind (staleSymbols_reads h _) fun _ _ => .pure _

/-! ## Rounds that go on -/

/-- The action gives a value, and changes nothing but what belongs to the caller. -/
def Steady (x : Action ω Unit) : Prop :=
  ∀ w : World ω, ∃ others, x.runIn w = (.ok (), { w with others })

private theorem Steady.quiet {x : Action ω Unit} (steady : Steady x) : Quiet x := by
  intro w
  obtain ⟨others, run⟩ := steady w
  exact ⟨others, by rw [run]⟩

/-- Files are measured if the snapshot has all their results. -/
theorem measuring_succeeds {notify : Nat → Nat → Action ω Unit}
    (steady : ∀ i n, Steady (notify i n)) {g : Snapshot} {files : List Path}
    {measured : List MeasuredFile} (hm : g.measureFiles files now = .ok measured) (w : World ω) :
    (measuring g files now notify).Succeeds w fun measured' w' =>
      measured' = measured ∧ ∃ others, w' = { w with others } := by
  rw [← mapM_zipIdx_measureFile] at hm
  apply Succeeds.mapM (I := fun w' => ∃ others, w' = { w with others }) hm _ ⟨w.others, rfl⟩
  rintro x m _ made ⟨others, rfl⟩
  obtain ⟨others', run⟩ := steady x.2 files.length { w with others }
  exact .given made (.after run (.pure ⟨rfl, others', rfl⟩))

/-- Rounds that each end with a result or with one more retry end with a result, if there are enough
of them for as many retries as there may be. -/
theorem runRounds_succeeds {α : Type} {round : Round ω → Action ω (RoundEnd ω α)}
    {I : Round ω → World ω → Prop} {most : Nat} (few : ∀ r w, I r w → r.retries ≤ most)
    (step : ∀ r w, I r w → (round r).Succeeds w (RoundEnd.Meets
      (fun next w' => I next w' ∧ next.retries = r.retries + 1) fun _ _ => True))
    (rounds : Nat) {r : Round ω} {w : World ω} (h : I r w) (enough : most < r.retries + rounds) :
    (runRounds round rounds r).Succeeds w fun _ _ => True := by
  induction rounds generalizing r w with
  | zero =>
    have within := few r w h
    omega
  | succ rounds ih =>
    refine (step r w h).bind fun e w' ended => ?_
    cases e with
    | again next =>
      obtain ⟨kept, more⟩ := ended
      exact ih kept (by omega)
    | done a => exact .pure trivial

section Backfill

variable (E) (db : Database) (w : World ω)

-- Where a round of a backfill starts that is to return.
private structure Ongoing (r : Round ω) (w₁ : World ω) : Prop where
  whole : r.affected.Whole db
  few : r.retries ≤ E.maxRetries
  ready : w₁.Ready db
  onward : w.Onward w₁ db

variable {E db w} {notify : Nat → Nat → Action ω Unit}

private theorem backfillRound_succeeds (plain : E.loader = .plain root) (clock : w.clock = .ok now)
    (dated : inColumn now = true) (sound : db.Sound) (sized : w.disk.Sized)
    (steady : ∀ i n, Steady (notify i n)) (meterable : db.Meterable root w.capacity)
    {r : Round ω} {w₁ : World ω} (b : Ongoing E db w r w₁) :
    (E.backfillRound notify r).Succeeds w₁ (RoundEnd.Meets
      (fun next w₂ => Ongoing E db w next w₂ ∧ next.retries = r.retries + 1)
      fun _ _ => True) := by
  have normal := sound.normal
  have within : db.Meterable root w₁.capacity := b.onward.same.capacity ▸ meterable
  unfold backfillRound
  rw [plain]
  refine ((Snapshot.loadAll_succeeds b.ready sound within).ensured
    (Snapshot.loadAll_ensures b.onward.isOpen normal)).bind ?_
  rintro g w₂ ⟨ready₂, shows, h₂⟩
  rw [b.onward.same.disk] at shows
  refine ((withStored_replies sound _).reads (withStored_whole shows) ready₂).bind ?_
  rintro current w₃ ⟨whole, alike⟩
  have h₃ : w.Onward w₃ db := (b.onward.trans h₂).trans (alike.onward h₂.isOpen)
  rw [if_neg (not_not_intro (whole.unique b.whole ▸ Affected.subset_refl _))]
  refine .after runIn_get ?_
  obtain ⟨measured, a, hm, ha, files, symbols⟩ := shows.delivers sound dated sized meterable.symbol
  refine .given (h₃.same.clock.trans clock) ?_
  refine (measuring_succeeds steady hm w₃).bind ?_
  rintro _ _ ⟨rfl, others, rfl⟩
  have ready₃ := alike.ready ready₂
  have ready₄ : World.Ready { w₃ with others } db :=
    ⟨ready₃.whole, ready₃.isOpen, ready₃.writable⟩
  have h₄ : w.Onward { w₃ with others } db :=
    ⟨h₃.isOpen, h₃.same.disk, h₃.same.clock, h₃.same.capacity⟩
  refine .given ha ?_
  split
  · next retry =>
    rw [shouldRetry, Bool.and_eq_true, decide_eq_true_eq] at retry
    exact .pure ⟨⟨b.whole, retry.2, ready₄, h₄⟩, rfl⟩
  refine ((batchOf_replies shows.mirrors a current).reads
    (batchOf_reads shows.mirrors a current) ready₄).bind ?_
  rintro batch w₅ ⟨⟨fileRows, symbolRows, deletedFiles, deletedSymbols⟩, alike'⟩
  have renews := renews_with_orphans shows normal whole.everything
    (measures_of_all shows normal hm ha) fileRows symbolRows deletedFiles deletedSymbols
  refine (MetricsStore.apply_succeeds (alike'.ready ready₄) ⟨?_, ?_, ?_⟩).bind ?_
  · intro id deleted
    exact renews.inColumn_of_deleted whole sound deleted
  · intro row mem
    change row ∈ batch.fileRows at mem
    rw [fileRows] at mem
    exact files row mem
  · intro d mem
    change d ∈ batch.symbolRows at mem
    rw [symbolRows] at mem
    obtain ⟨row, measured, rfl⟩ := List.mem_map.mp mem
    exact symbols row measured
  · intro _ w₆ _
    exact .pure trivial

/-- A backfill returns if the graph can be metered. -/
theorem backfill_succeeds (plain : E.loader = .plain root) (serves : w.Serves db disk)
    (clock : w.clock = .ok now) (dated : inColumn now = true) (sound : db.Sound)
    (sized : disk.Sized) (steady : ∀ i n, Steady (notify i n))
    (meterable : db.Meterable root w.capacity) :
    (E.backfill notify).Succeeds w fun _ _ => True := by
  obtain ⟨c, o, opened, ready, rfl⟩ := serves
  rw [Succeeds, opens_backfill plain w o c opened]
  obtain ⟨_, sameClock, sameCapacity⟩ := connection_ensures c o opened
  have onTime : o.clock = .ok now := sameClock.trans clock
  rw [← sameCapacity] at meterable
  have whole : (E.backfill notify).Succeeds o fun _ _ => True := by
    unfold backfill
    rw [plain]
    refine ((Snapshot.loadAll_succeeds ready sound meterable).ensured
      (Snapshot.loadAll_ensures ready.isOpen sound.normal)).bind ?_
    rintro g o₁ ⟨ready₁, shows, h₁⟩
    refine ((withStored_replies sound _).reads (withStored_whole shows) ready₁).bind ?_
    rintro affected o₂ ⟨whole, alike⟩
    refine runRounds_succeeds (I := Ongoing E db o) (fun _ _ b => b.few)
      (fun r o₃ b => backfillRound_succeeds plain onTime dated sound sized steady meterable b)
      E.maxRounds ?_ ?_
    · exact ⟨whole, Nat.zero_le _, alike.ready ready₁, h₁.trans (alike.onward h₁.isOpen)⟩
    · dsimp only
      rw [maxRounds]
      omega
  exact whole

/-! ## Rounds that return -/

private theorem backfillRound_meters (plain : E.loader = .plain root) (isOpen : w.Open db)
    (sound : db.Sound) (clock : w.clock = .ok now) (dated : inColumn now = true)
    (quiet : ∀ i n, Quiet (notify i n)) (r : Round ω) :
    (E.backfillRound notify r).Ensures w (RoundEnd.Meets (fun _ w' => w.Onward w' db)
      fun _ _ => ∀ (id : Int) (row : SymbolRow), db.symbols[id]? = some row →
        row.Meterable root) := by
  unfold backfillRound
  rw [plain]
  refine (Snapshot.loadAll_ensures isOpen sound.normal).bind ?_
  rintro g w₁ ⟨shows, h₁⟩
  refine .bind (withStored_reads shows w₁ h₁.isOpen) ?_
  rintro current w₂ ⟨_, alike⟩
  have h₂ : w.Onward w₂ db := h₁.trans (alike.onward h₁.isOpen)
  dsimp only
  split
  · exact .pure h₂
  refine .after runIn_get ?_
  refine .given fun now' onTime => ?_
  rw [h₂.same.clock, clock] at onTime
  cases onTime
  refine (measuring_ensures quiet w₂).bind ?_
  rintro measured _ ⟨hm, others, rfl⟩
  have h₃ : w.Onward { w₂ with others } db :=
    ⟨h₂.isOpen, h₂.same.disk, h₂.same.clock, h₂.same.capacity⟩
  refine .given fun a ha => ?_
  split
  · exact .pure h₃
  refine .bind (batchOf_reads shows.mirrors a current _ h₃.isOpen) ?_
  rintro batch w₃ ⟨⟨_, symbolRows, _⟩, _⟩
  refine (MetricsStore.apply_accepts w₃ _).bind fun _ _ storable => .pure ?_
  intro id row stored
  refine shows.meterable sound dated hm ha (fun m mem => ?_) stored
  apply storable.symbolRows
  change m.draft ∈ batch.symbolRows
  rw [symbolRows]
  exact List.mem_map_of_mem mem

private theorem backfill_meters (plain : E.loader = .plain root) (serves : w.Serves db disk)
    (few : w.ListsFew) (sound : db.Sound) (clock : w.clock = .ok now) (dated : inColumn now = true)
    (quiet : ∀ i n, Quiet (notify i n)) :
    (E.backfill notify).Ensures w fun _ _ => db.Meterable root w.capacity := by
  obtain ⟨c, o, opened, ready, _⟩ := serves
  obtain ⟨_, sameClock, sameCapacity⟩ := connection_ensures c o opened
  have isOpen := ready.isOpen
  rw [← sameCapacity]
  have whole : (E.backfill notify).Ensures o fun _ _ => db.Meterable root o.capacity := by
    unfold backfill
    rw [plain]
    refine ((Snapshot.loadAll_ensures isOpen sound.normal).and
      (Snapshot.loadAll_lists isOpen (connection_listsFew few c o opened) sound.normal)).bind ?_
    rintro g o₁ ⟨⟨shows, h₁⟩, within⟩
    refine .bind (withStored_reads shows o₁ h₁.isOpen) ?_
    rintro affected o₂ ⟨_, alike⟩
    refine runRounds_ensures (I := fun _ o₃ => o.Onward o₃ db) ?_ E.maxRounds
      (h₁.trans (alike.onward h₁.isOpen))
    intro r o₃ h₃
    refine (backfillRound_meters plain h₃.isOpen sound
      (h₃.same.clock.trans (sameClock.trans clock)) dated quiet r).mono ?_
    intro e o₄ ended
    cases e with
    | again next => exact h₃.trans ended
    | done res => exact ⟨ended, within⟩
  intro res w' run
  rw [opens_backfill plain w o c opened] at run
  exact whole res w' run

end Backfill

end Engine

/-! ## Backfills -/

/-- The files that are reported are those with a symbol whose content fails. Their rows are kept,
and all other rows are as they ought to be, apart from the times. -/
structure Recomputation.Completes (res : Recomputation) (db db' : Database) (disk : Disk)
    (root : Path) : Prop where
  graph : db.SameGraph db'
  reported : ∀ file, file ∈ res.stats.errors.map (·.1) ↔
    db.symbolCount file ≠ 0 ∧ ¬db.isCurrent disk root file
  kept : ∀ file ∈ res.stats.errors.map (·.1), db'.fileMetrics[file]? = db.fileMetrics[file]?
  file_fresh : ∀ file ∉ res.stats.errors.map (·.1),
    (db'.fileMetrics[file]?).map (·.undated) = db.fileReference disk root file
  symbol_fresh : ∀ id : Int, (db'.symbolMetrics[id]?).map (·.undated) = db.symbolReference id

private theorem Recomputation.Counted.mem_errors_iff {res : Recomputation} {first : Nat}
    (counted : res.Counted E db disk root db.HasFile first) (normal : db.Normal) (file : String) :
    file ∈ res.stats.errors.map (·.1) ↔
      db.symbolCount file ≠ 0 ∧ ¬db.isCurrent disk root file := by
  constructor
  · intro mem
    obtain ⟨path, asked, rfl⟩ := counted.exists_asked mem
    exact (counted.reported_iff normal asked).mp mem
  · rintro ⟨some, stale⟩
    obtain ⟨id, row, stored, rfl⟩ := Database.symbolCount_ne_zero.mp some
    have written := normal id row stored
    have reported := counted.reported_iff normal ⟨id, row, stored, rfl⟩
    rw [written] at reported
    exact reported.mpr ⟨some, stale⟩

namespace Engine

variable {notify : Nat → Nat → Action ω Unit}

private theorem backfill_completes (plain : E.loader = .plain root) (shows : w.Shows db disk)
    (sound : db.Sound) (quiet : ∀ i n, Quiet (notify i n)) :
    (E.backfill notify).Ensures w fun res w' =>
      ∃ db', w'.Shows db' disk ∧ res.Completes db db' disk root := by
  have normal := sound.normal
  refine ((backfill_ensures plain shows normal quiet).and
    (backfill_counts plain shows normal quiet)).mono ?_
  rintro res w' ⟨⟨db', filled, shows'⟩, _, counted⟩
  obtain ⟨A, now, everything, renewed⟩ := filled.renewed
  have rows := renewed.renewedIn_everything everything normal sound.fileRow
  have reported := counted.mem_errors_iff normal
  refine ⟨db', shows', rows.graph, reported, fun file mem => ?_, fun file unreported => ?_,
    fun id => rows.symbol_fresh id trivial⟩
  · obtain ⟨some, stale⟩ := (reported file).mp mem
    exact rows.file_kept file some stale
  · apply rows.file_fresh file trivial
    intro some
    apply Classical.byContradiction
    intro stale
    exact unreported ((reported file).mpr ⟨some, stale⟩)

/-- A backfill of tables that were written by statements returns if and only if the graph can be
metered, whatever the rest of the tables and the disk hold. Then it has reported the files whose
content fails, kept the rows of these, and made all other rows what they ought to be. So a file
whose content cannot be read fails only its own row, but a symbol whose file has a path with a
character NUL, or whose span has no length that a column can hold, fails the whole backfill. -/
theorem backfill_returns_iff (plain : E.loader = .plain root) (serves : w.Serves db disk)
    (few : w.ListsFew) (clock : w.clock = .ok now) (dated : inColumn now = true)
    (reached : db.Reached) (sized : disk.Sized) (steady : ∀ i n, Steady (notify i n)) :
    ((∃ res w', (E.backfill notify).runIn w = (.ok res, w')) ↔ db.Meterable root w.capacity) ∧
    ∀ res w', (E.backfill notify).runIn w = (.ok res, w') →
      ∃ db', w'.Shows db' disk ∧ res.Completes db db' disk root := by
  have sound := reached.sound
  have quiet (i n : Nat) := (steady i n).quiet
  refine ⟨⟨?_, fun meterable => ?_⟩, ?_⟩
  · rintro ⟨res, w', run⟩
    exact backfill_meters plain serves few sound clock dated quiet res w' run
  · obtain ⟨res, w', run, _⟩ :=
      backfill_succeeds plain serves clock dated sound sized steady meterable
    exact ⟨res, w', run⟩
  · exact backfill_completes plain serves.shows sound quiet

end Engine

/-! ## A repository with another file

The first file of the small repository has a function, and so has a file that is not on the disk. -/

namespace Sample

/-- A function of four lines, as offered for insertion. -/
def offered (name file : String) : Symbol.Draft where
  name := some name
  qualifiedName := some name
  file := .ofString file
  line := .int 1
  endLine := .int 4
  kind := .function

/-- The tables with the function of the first file. -/
def inserted : Database where
  symbols := (∅ : ExtTreeMap Int SymbolRow).insert 1 (function "f" "a")
  lastSymbol := 1

/-- The tables with another function in the given file. -/
def insertedIn (file : String) : Database where
  symbols := inserted.symbols.insert 2 (function "g" file)
  lastSymbol := 2

/-- The values that are offered to the sample fit into columns. -/
theorem fits_offered (name file : String) :
    ∀ v ∈ (offered name file).values, Action.fits v = true := by
  simp only [offered, Symbol.Draft.values, List.forall_mem_cons]
  exact ⟨rfl, rfl, rfl, rfl, rfl, rfl, rfl, rfl, rfl, List.forall_mem_nil _⟩

/-- The function of the first file gets the first id. -/
theorem insertSymbol_offered :
    ({} : Database).insertSymbol (offered "f" "a").values = .ok (1, inserted) := by
  have id : Database.nextId ({} : Database).symbols 0 = .ok 1 := by
    apply Database.nextId_of_le (by decide) _ (by decide)
    intro id mem
    exact (ExtTreeMap.not_mem_empty mem).elim
  have row : StoredRow.admit SymbolRow (offered "f" "a").values = .ok (function "f" "a") := by
    decide +kernel
  exact Except.bind_eq_ok.mpr ⟨1, id, Except.bind_eq_ok.mpr ⟨_, row, rfl⟩⟩

/-- What is inserted after it gets the next id. -/
theorem insertSymbol_second {d : Symbol.Draft} {row : SymbolRow}
    (admitted : StoredRow.admit SymbolRow d.values = .ok row) :
    inserted.insertSymbol d.values =
      .ok (2, { symbols := inserted.symbols.insert 2 row, lastSymbol := 2 }) := by
  have id : Database.nextId inserted.symbols 1 = .ok 2 := by
    apply Database.nextId_of_le (by decide) _ (by decide)
    intro id mem
    rcases ExtTreeMap.mem_insert.mp mem with same | none
    · rw [LawfulEqOrd.compare_eq_iff_eq] at same
      omega
    · exact (ExtTreeMap.not_mem_empty none).elim
  exact Except.bind_eq_ok.mpr ⟨2, id, Except.bind_eq_ok.mpr ⟨_, admitted, rfl⟩⟩

/-- So does the other function. -/
theorem insertSymbol_next {file : String}
    (admitted : StoredRow.admit SymbolRow (offered "g" file).values = .ok (function "g" file)) :
    inserted.insertSymbol (offered "g" file).values = .ok (2, insertedIn file) :=
  insertSymbol_second admitted

/-- Tables with an inserted symbol can be reached. -/
theorem insertedIn_reached {file : String}
    (admitted : StoredRow.admit SymbolRow (offered "g" file).values =
      .ok (function "g" file)) : (insertedIn file).Reached :=
  .symbol (.symbol .empty _ (fits_offered "f" "a") insertSymbol_offered) _
    (fits_offered "g" file) (insertSymbol_next admitted)

/-- The world of the sample is ready for the tables in it. -/
theorem world_ready {db : Database} (none : db.dropped = []) : (world db).Ready db := by
  refine ⟨none, ⟨{ serial := 1, file := 2 }, rfl, ?_⟩, { serial := 1, file := 2 }, rfl, rfl, rfl⟩
  simp [World.tables, World.committed, world]

/-- The world of the sample serves the tables in it. -/
theorem world_serves {db : Database} (none : db.dropped = []) :
    (world db).Serves db Sample.disk :=
  (world_ready none).serves

/-- The statements of the sample list few values. -/
theorem world_listsFew (db : Database) : (world db).ListsFew := by
  intro c hc s mem
  cases hc
  cases mem

/-- The files of the sample have sizes that a column holds. -/
theorem disk_sized : Sample.disk.Sized := by decide +kernel

end Sample

namespace Engine

/-- A backfill returns though the content of the only file is missing, and reports it. -/
theorem sample_backfill_returns :
    ∃ res w' db',
      Sample.engine.backfill.runIn (Sample.world (Sample.insertedIn "c")) = (.ok res, w') ∧
      w'.Shows db' Sample.disk ∧
      res.Completes (Sample.insertedIn "c") db' Sample.disk Sample.root ∧
      "c" ∈ res.stats.errors.map (·.1) := by
  have reached : (Sample.insertedIn "c").Reached := Sample.insertedIn_reached (by decide +kernel)
  have steady : ∀ i n : Nat, Steady (pure () : Action Unit Unit) := fun _ _ w => ⟨w.others, rfl⟩
  obtain ⟨returns, completes⟩ :=
    backfill_returns_iff (E := Sample.engine) rfl (Sample.world_serves rfl)
      (Sample.world_listsFew _) rfl rfl reached Sample.disk_sized steady
  obtain ⟨res, w', run⟩ := returns.mpr (by decide +kernel)
  obtain ⟨db', shows, done⟩ := completes res w' run
  refine ⟨res, w', db', run, shows, done, (done.reported "c").mpr ?_⟩
  decide +kernel

/-- A path with a character NUL, which may be inserted, fails the backfill, and the file that can be
metered has no row. -/
theorem sample_backfill_fails :
    (Sample.insertedIn "b\x00c").Reached ∧
      (Sample.world (Sample.insertedIn "b\x00c")).Serves (Sample.insertedIn "b\x00c")
        Sample.disk ∧
      ((Sample.insertedIn "b\x00c").fileReference Sample.disk Sample.root "a").isSome ∧
      ∃ w', Sample.engine.backfill.runIn (Sample.world (Sample.insertedIn "b\x00c")) =
          (.error .nulInPath, w') ∧
        (Action.tables.runIn w').1 = .ok (Sample.insertedIn "b\x00c") := by
  have reached : (Sample.insertedIn "b\x00c").Reached :=
    Sample.insertedIn_reached (by decide +kernel)
  refine ⟨reached, Sample.world_serves rfl, by decide +kernel, ?_⟩
  have fails : ((Sample.engine.backfill.runIn
      (Sample.world (Sample.insertedIn "b\x00c"))).1.map fun _ => ()) =
      .error .nulInPath := by decide +kernel
  have left : (Action.tables.runIn (Sample.engine.backfill.runIn
      (Sample.world (Sample.insertedIn "b\x00c"))).2).1 =
      .ok (Sample.insertedIn "b\x00c") := by decide +kernel
  rcases run : Sample.engine.backfill.runIn (Sample.world (Sample.insertedIn "b\x00c")) with
    ⟨e | res, w'⟩
  · rw [run] at fails left
    cases fails
    exact ⟨w', rfl, left⟩
  · rw [run] at fails
    cases fails

end Engine

end CodeGauge
