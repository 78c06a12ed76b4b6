import CodeGauge.Proofs.Engine.Growth
import CodeGauge.Proofs.Engine.Order
import CodeGauge.Proofs.Engine.Removal
import Mathlib.Data.List.Basic

/-!
# A file that fails

A file whose content cannot be read or is not the recorded one disturbs no other entity. Two runs of
a call on disks that differ in this file alone go through the same stages and recompute the same set
(`Work.Reaches.unique`). They end with the same rows of all other files and of all symbols, apart
from the times. The failing file keeps its row, and its report is all that is added to the errors
(`Work.isolated`).
-/

open Std

namespace CodeGauge

variable {ω : Type} {E : Engine ω} {w : World ω} {db : Database} {disk disk' : Disk}
  {root p : Path}

/-! ## Disks that differ in one file -/

/-- Apart from one file, the disks hold the same of every file with a symbol. -/
def Database.AlikeBut (db : Database) (disk disk' : Disk) (root p : Path) : Prop :=
  ∀ q : Path, q ≠ p → db.symbolCount q.toString ≠ 0 →
    disk'.read (root / q) = disk.read (root / q)

namespace Database

private theorem AlikeBut.readContent_eq (alike : db.AlikeBut disk disk' root p) {q : Path}
    (other : q ≠ p)
    (counted : db.symbolCount q.toString ≠ 0) :
    readContent disk (some root) q = readContent disk' (some root) q := by
  have same := alike q other counted
  rw [readContent, readContent]
  dsimp only [diskPath, Option.elim]
  rw [same]

private theorem AlikeBut.contentOf?_eq (alike : db.AlikeBut disk disk' root p) {q : Path}
    (other : q ≠ p)
    (some : db.symbolCount q.toString ≠ 0) :
    contentOf? disk' root q.toString = contentOf? disk root q.toString := by
  rw [contentOf?, contentOf?, Path.ofString_toString, alike q other some]

/-- A content that is current is not other than recorded. -/
theorem isCurrent.not_altered (current : db.isCurrent disk root p.toString) :
    ¬db.Altered disk root p := by
  obtain ⟨content, readable, recorded⟩ := current
  rintro ⟨_, content', record, readable', hr, differs⟩
  rw [readable] at readable'
  cases readable'
  exact differs (recorded record hr)

private theorem AlikeBut.altered (alike : db.AlikeBut disk disk' root p) {q : Path} (other : q ≠ p)
    (altered : db.Altered disk root q) : db.Altered disk' root q := by
  obtain ⟨some, content, record, readable, rest⟩ := altered
  refine ⟨some, content, record, ?_, rest⟩
  rw [alike.contentOf?_eq other some]
  exact readable

end Database

/-! ## The reports of two runs -/

private theorem filterMap_perm_cons {α β : Type} [DecidableEq α] {f g : α → Option β} {xs : List α}
    {a : α} {b : β} (nodup : xs.Nodup) (mem : a ∈ xs) (lost : f a = none) (gained : g a = some b)
    (others : ∀ x ∈ xs, x ≠ a → g x = f x) : (xs.filterMap g).Perm (b :: xs.filterMap f) := by
  have split : xs.Perm (a :: xs.erase a) := List.perm_cons_erase mem
  have rest : (xs.erase a).filterMap g = (xs.erase a).filterMap f := by
    apply List.filterMap_congr
    intro x hx
    rw [nodup.mem_erase_iff] at hx
    exact others x hx.2 hx.1
  have before := split.filterMap f
  rw [List.filterMap_cons_none lost] at before
  have after := split.filterMap g
  rw [List.filterMap_cons_some gained, rest] at after
  exact after.trans (before.symm.cons b)

namespace Recomputation.Counted

variable {res res' : Recomputation} {asked : Path → Prop} {first : Nat}

private theorem report?_eq (h : res.Counted E db disk root asked first)
    (h' : res'.Counted E db disk' root asked first) (normal : db.Normal)
    (alike : db.AlikeBut disk disk' root p) (current : db.isCurrent disk root p.toString)
    {now now' : Int} {q : Path} (wanted : asked q) (other : q ≠ p)
    (tolerated : ∃ r, tolerateReported (res.snapshot.fileMetrics q now) = .ok r)
    (tolerated' : ∃ r, tolerateReported (res'.snapshot.fileMetrics q now') = .ok r) :
    res'.snapshot.report? now' q = res.snapshot.report? now q := by
  obtain ⟨_, tolerated⟩ := tolerated
  obtain ⟨_, tolerated'⟩ := tolerated'
  refine h.mirrors.report?_eq h'.mirrors normal (h.covered q wanted) (h'.covered q wanted) tolerated
    tolerated' (fun some => alike.readContent_eq other some) ?_
  by_cases altered : ∃ path, asked path ∧ db.Altered disk root path
  · obtain ⟨path, held, changed⟩ := altered
    have elsewhere : path ≠ p := by
      rintro rfl
      exact current.not_altered changed
    obtain ⟨retries, number, most, _⟩ := h.number
    obtain ⟨retries', number', most', _⟩ := h'.number
    left
    rw [number, number', most ⟨path, held, changed⟩,
      most' ⟨path, held, alike.altered elsewhere changed⟩]
  · right
    rw [h.mirrors.mismatches_iff h.wellFormed (h.covered q wanted)]
    exact fun changed => altered ⟨q, wanted, changed⟩

/-- Whatever is reported is a file that was asked for. -/
theorem exists_asked (h : res.Counted E db disk root asked first) {key : String}
    (mem : key ∈ res.stats.errors.map (·.1)) : ∃ path, asked path ∧ path.toString = key := by
  obtain ⟨now, files, _, listed, _, errors⟩ := h.reports
  obtain ⟨report, made, rfl⟩ := List.mem_map.mp mem
  obtain ⟨path, own, reported⟩ := List.mem_filterMap.mp (errors.mem_iff.mp made)
  exact ⟨path, (listed path).mp own, (Snapshot.fst_of_report? reported).symm⟩

/-- A file that was asked for is reported if it has a symbol and its content fails. -/
theorem reported_iff (h : res.Counted E db disk root asked first) (normal : db.Normal) {path : Path}
    (wanted : asked path) : path.toString ∈ res.stats.errors.map (·.1) ↔
      db.symbolCount path.toString ≠ 0 ∧ ¬db.isCurrent disk root path.toString := by
  obtain ⟨now, files, _, listed, tolerated, errors⟩ := h.reports
  obtain ⟨_, made⟩ := tolerated path wanted
  rw [← h.mirrors.isSome_report? normal (h.covered path wanted) made, Option.isSome_iff_exists]
  constructor
  · intro mem
    obtain ⟨report, mem, own⟩ := List.mem_map.mp mem
    obtain ⟨q, _, reported⟩ := List.mem_filterMap.mp (errors.mem_iff.mp mem)
    rw [Snapshot.fst_of_report? reported] at own
    rw [Path.toString_injective own] at reported
    exact ⟨report, reported⟩
  · rintro ⟨report, reported⟩
    rw [← Snapshot.fst_of_report? reported]
    apply List.mem_map_of_mem
    rw [errors.mem_iff]
    exact List.mem_filterMap.mpr ⟨path, (listed path).mpr wanted, reported⟩

/-- On two disks that differ in a file that is current on the first alone, the errors differ in one
report on this file. -/
theorem errors_perm (h : res.Counted E db disk root asked first)
    (h' : res'.Counted E db disk' root asked first) (normal : db.Normal)
    (alike : db.AlikeBut disk disk' root p) (wanted : asked p)
    (some : db.symbolCount p.toString ≠ 0) (current : db.isCurrent disk root p.toString)
    (stale : ¬db.isCurrent disk' root p.toString) :
    p.toString ∉ res.stats.errors.map (·.1) ∧
      ∃ message, res'.stats.errors.Perm ((p.toString, message) :: res.stats.errors) := by
  constructor
  · rw [h.reported_iff normal wanted]
    exact fun both => both.2 current
  obtain ⟨now, files, nodup, listed, tolerated, errors⟩ := h.reports
  obtain ⟨now', files', nodup', listed', tolerated', errors'⟩ := h'.reports
  have silent : res.snapshot.report? now p = none := by
    obtain ⟨_, made⟩ := tolerated p wanted
    rw [← Option.not_isSome_iff_eq_none, h.mirrors.isSome_report? normal (h.covered p wanted) made]
    exact fun both => both.2 current
  obtain ⟨report, reported⟩ : ∃ report, res'.snapshot.report? now' p = .some report := by
    obtain ⟨_, made⟩ := tolerated' p wanted
    rw [← Option.isSome_iff_exists, h'.mirrors.isSome_report? normal (h'.covered p wanted) made]
    exact ⟨some, stale⟩
  have same : files'.Perm files := by
    apply (List.perm_ext_iff_of_nodup nodup' nodup).mpr
    intro path
    rw [listed', listed]
  have others : ∀ q ∈ files, q ≠ p →
      res'.snapshot.report? now' q = res.snapshot.report? now q := by
    intro q mem other
    have held := (listed q).mp mem
    exact h.report?_eq h' normal alike current held other (tolerated q held) (tolerated' q held)
  refine ⟨report.2, ?_⟩
  rw [← Snapshot.fst_of_report? reported]
  have gained := filterMap_perm_cons nodup ((listed p).mpr wanted) silent reported others
  exact (errors'.trans (same.filterMap _)).trans (gained.trans (errors.symm.cons report))

end Recomputation.Counted

/-! ## Rounds of a backfill -/

/-- The file has a symbol in the graph. -/
def Database.HasFile (db : Database) (path : Path) : Prop :=
  ∃ (id : Int) (row : SymbolRow), db.symbols[id]? = some row ∧ Path.ofString row.file = path

/-- The set holds the files and the symbols of the graph and those of stored rows, and no others. -/
structure Affected.Whole (A : Affected) (db : Database) : Prop where
  files : ∀ path, path ∈ A.files ↔
    db.HasFile path ∨ ∃ file ∈ db.fileMetrics, Path.ofString file = path
  symbols : ∀ id, id ∈ A.symbols ↔ (db.symbols[id]?).isSome ∨ id ∈ db.symbolMetrics

/-- There is one set of all that the tables have. -/
theorem Affected.Whole.unique {A B : Affected} (h : A.Whole db) (k : B.Whole db) : A = B := by
  apply Affected.subset_antisymm
  · rw [Affected.subset_iff]
    exact ⟨fun path mem => (k.files path).mpr ((h.files path).mp mem),
      fun id mem => (k.symbols id).mpr ((h.symbols id).mp mem)⟩
  · rw [Affected.subset_iff]
    exact ⟨fun path mem => (h.files path).mpr ((k.files path).mp mem),
      fun id mem => (h.symbols id).mpr ((k.symbols id).mp mem)⟩

/-- A snapshot of the whole graph is well-formed. -/
theorem Snapshot.ShowsAll.wellFormed {g : Snapshot} (shows : g.ShowsAll db disk root)
    (normal : db.Normal) : g.WellFormed := by
  constructor
  · intro id s hs
    obtain ⟨row, _, made⟩ := shows.mirrors.known id s hs
    exact (SymbolRow.symbol_eq_ok made).1
  · intro path file hf _ none
    have covered : path ∈ g.files := by
      rw [ExtTreeMap.mem_iff_isSome_getElem?, hf]
      rfl
    obtain ⟨id, row, hr, rfl⟩ := (shows.files path).mp covered
    have own := ((shows.mirrors.files _ file hf).symbols id).mpr ⟨row, hr, (normal id row hr).symm⟩
    rw [none] at own
    cases own

namespace Engine

/-- The set with the entities of the stored rows added is the whole one. -/
theorem withStored_whole {g : Snapshot} (shows : g.ShowsAll db disk root) :
    (withStored g.affectedByAll : Action ω Affected).Reads db fun current => current.Whole db := by
  refine MetricsStore.files_reads.bind fun files ⟨_, paths⟩ => ?_
  refine MetricsStore.symbols_reads.bind fun symbols ids => ?_
  refine .pure ⟨fun path => ?_, fun id => ?_⟩
  · rw [Affected.mem_files_union, Affected.mem_files_of, paths, Snapshot.affectedByAll,
      ExtTreeSet.mem_ofList, List.contains_iff_mem, ExtTreeMap.mem_keys, shows.files]
    rfl
  · rw [Affected.mem_symbols_union, Affected.mem_symbols_of, ids, Snapshot.affectedByAll,
      shows.complete]

private theorem withStored_loadsNothing (A : Affected) :
    (withStored A : Action ω Affected).LoadsNothing :=
  .bind MetricsStore.files_loadsNothing fun _ =>
    .bind MetricsStore.symbols_loadsNothing fun _ => .pure _

section Backfill

variable {notify : Nat → Nat → Action ω Unit}

/-- A round of a backfill with the whole set goes on to the next one, since a content is not the
recorded one, or ends. -/
theorem backfillRound_turns (plain : E.loader = .plain root) (isOpen : w.Open db)
    (normal : db.Normal) (quiet : ∀ i n, Quiet (notify i n)) {r : Round ω}
    (whole : r.affected.Whole db) :
    (E.backfillRound notify r).Ensures w (RoundEnd.Meets
      (fun next w' => w.Onward w' db ∧ w'.loads = w.loads + 1 ∧
        (∃ path, db.HasFile path ∧ db.Altered w.disk root path) ∧ r.retries < E.maxRetries ∧
        next = { r with retries := r.retries + 1 })
      fun res _ => res.affected = r.affected ∧
        res.Concludes E db w.disk root db.HasFile r.retries (w.loads + 1)) := by
  unfold backfillRound
  rw [plain]
  refine ((Snapshot.loadAll_ensures isOpen normal).and Snapshot.loadAll_numbered).bind ?_
  rintro g w₁ ⟨⟨shows, h₁⟩, number, loads⟩
  refine (Action.Ensures.and (withStored_whole shows w₁ h₁.isOpen)
    ((withStored_loadsNothing _).ensures w₁)).bind ?_
  rintro current w₂ ⟨⟨same, alike⟩, kept⟩
  have h₂ : w.Onward w₂ db := h₁.trans (alike.onward h₁.isOpen)
  rw [if_neg (not_not_intro (same.unique whole ▸ Affected.subset_refl _))]
  refine .after Action.runIn_get ?_
  refine .given fun now _ => (measuring_ensures quiet w₂).bind ?_
  rintro measured _ ⟨hm, others, rfl⟩
  have h₃ : w.Onward { w₂ with others } db :=
    ⟨h₂.isOpen, h₂.same.disk, h₂.same.clock, h₂.same.capacity⟩
  refine .given fun a ha => ?_
  have wellFormed := shows.wellFormed normal
  have listed (path : Path) : path ∈ g.files.keys ↔ db.HasFile path := by
    rw [ExtTreeMap.mem_keys, shows.files]
    rfl
  have within : ∀ path, db.HasFile path → path ∈ g.files := fun path => (shows.files path).mpr
  split
  · next retry =>
    obtain ⟨altered, more⟩ :=
      (shouldRetry_iff shows.mirrors wellFormed listed within hm ha).mp retry
    exact .pure ⟨h₃, kept.trans loads, altered, more, rfl⟩
  next enough =>
  refine .skip fun batch _ => ?_
  refine .skip fun _ _ => ?_
  refine .pure ⟨rfl, ?_⟩
  rw [← number]
  have nodup : g.files.keys.Nodup := ExtTreeMap.nodup_keys
  exact concludes shows.mirrors wellFormed nodup listed within hm ha rfl rfl enough

variable (E) (db : Database) (root : Path) (w : World ω)

-- Where a round of a backfill starts: with the whole set, after two snapshots and some retries.
private structure Backfilling (r : Round ω) (w₁ : World ω) : Prop where
  whole : r.affected.Whole db
  loads : w₁.loads = w.loads + 1 + r.retries
  few : r.retries ≤ E.maxRetries
  retried : r.retries ≠ 0 → ∃ path, db.HasFile path ∧ db.Altered w.disk root path
  onward : w.Onward w₁ db

variable {E db root w}

private theorem backfillRound_counts (plain : E.loader = .plain root) (normal : db.Normal)
    (quiet : ∀ i n, Quiet (notify i n)) {r : Round ω} {w₁ : World ω}
    (b : Backfilling E db root w r w₁) :
    (E.backfillRound notify r).Ensures w₁ (RoundEnd.Meets (Backfilling E db root w)
      fun res _ => res.affected.Whole db ∧
        res.Counted E db w.disk root db.HasFile (w.loads + 2)) := by
  refine (backfillRound_turns plain b.onward.isOpen normal quiet b.whole).mono ?_
  rw [b.onward.same.disk, b.loads]
  intro e w₂ turn
  cases e with
  | again next =>
    obtain ⟨h₂, loads, altered, more, rfl⟩ := turn
    exact ⟨b.whole, loads, more, fun _ => altered, b.onward.trans h₂⟩
  | done res =>
    obtain ⟨affected, concludes⟩ := turn
    rw [Nat.add_right_comm] at concludes
    refine ⟨?_, concludes.counted b.few b.retried⟩
    rw [affected]
    exact b.whole

/-- A backfill recomputes the whole set and reports from a snapshot whose number is that of the
retries after the first two. -/
theorem backfill_counts (plain : E.loader = .plain root) (shows : w.Shows db disk)
    (normal : db.Normal) (quiet : ∀ i n, Quiet (notify i n)) :
    (E.backfill notify).Ensures w fun res _ => res.affected.Whole db ∧
      res.Counted E db disk root db.HasFile (w.loads + 2) := by
  obtain ⟨o, isOpen, sameDisk, _, opened⟩ := shows.exists_open
  have same : o.loads = w.loads := isOpen.loads_eq (opened _ Action.opens_connection)
  rw [← same, ← sameDisk]
  have whole : (E.backfill notify).Ensures o fun res _ => res.affected.Whole db ∧
      res.Counted E db o.disk root db.HasFile (o.loads + 2) := by
    unfold backfill
    rw [plain]
    refine ((Snapshot.loadAll_ensures isOpen normal).and Snapshot.loadAll_numbered).bind ?_
    rintro g o₁ ⟨⟨shows, h₁⟩, _, loads⟩
    refine (Action.Ensures.and (withStored_whole shows o₁ h₁.isOpen)
      ((withStored_loadsNothing _).ensures o₁)).bind ?_
    rintro affected o₂ ⟨⟨whole, alike⟩, same⟩
    refine runRounds_ensures (I := Backfilling E db root o)
      (fun r o₃ b => backfillRound_counts plain normal quiet b) E.maxRounds ?_
    exact ⟨whole, same.trans loads, Nat.zero_le _, fun no => (no rfl).elim,
      h₁.trans (alike.onward h₁.isOpen)⟩
  intro res w' run
  rw [opened _ (opens_backfill plain)] at run
  exact whole res w' run

end Backfill

end Engine

/-! ## Calls -/

/-- A refresh goes through the stages to a final one, and reports from the snapshot after it. -/
theorem Refresh.run_counts (plain : E.loader = .plain root) (shows : w.Shows db disk)
    (normal : db.Normal) (refresh : Refresh) :
    (refresh.run E).Ensures w fun res _ =>
      ∃ stage : Stage, stage.Reached refresh db db refresh.prior false (w.loads + 1) ∧
        res.affected = stage.affected ∧
        res.Counted E db disk root (· ∈ res.affected.files) (stage.loads + 1) := by
  rw [run_eq]
  apply Engine.recompute_counts_of_shows plain shows normal normal
  · intro _
    rfl
  · intro action none
    cases none

/-- The refresh that a removal makes of what it deletes. -/
def Removal.refresh : Removal → Refresh
  | file path => .file path ∅
  | symbol id => .symbols (.ofList [id])

/-- A removal is a recomputation of what the refresh derives, with a deletion. -/
theorem Removal.run_eq_recompute (removal : Removal) :
    removal.run E = E.recompute removal.refresh.seed removal.refresh.derive removal.refresh.prior
      (some removal.deletion) := by
  cases removal with
  | file path => rfl
  | symbol id => rfl

private theorem Removal.prior_refresh (removal : Removal) : removal.refresh.prior = ∅ := by
  cases removal with
  | file path => rfl
  | symbol id => rfl

/-- A removal goes through the stages to a final one, and reports from the snapshot after it. -/
theorem Removal.run_counts (plain : E.loader = .plain root) (shows : w.Shows db disk)
    (normal : db.Normal) (removal : Removal) :
    (removal.run E).Ensures w fun res _ =>
      ∃ stage : Stage,
        stage.Reached removal.refresh db (db.without removal) ∅ true (w.loads + 1) ∧
        res.affected = stage.affected ∧
        res.Counted E (db.without removal) disk root (· ∈ res.affected.files)
          (stage.loads + 1) := by
  rw [removal.run_eq_recompute, removal.prior_refresh]
  apply Engine.recompute_counts_of_shows plain shows normal (normal_without normal removal)
  · intro none
    cases none
  · intro action same
    cases same
    constructor
    · cases removal with
      | file path => exact Graph.deleteFile_loadsNothing path
      | symbol id => exact Graph.deleteSymbolWithEdges_loadsNothing id
    · exact fun w₁ isOpen => removal.deletion_ensures isOpen

/-- A call that recomputes: a refresh, a removal, or a backfill that tells of its progress. -/
inductive Work (ω : Type) where
  | refresh (refresh : Refresh)
  | removal (removal : Removal)
  | backfill (notify : Nat → Nat → Action ω Unit) (quiet : ∀ i n, Engine.Quiet (notify i n))

namespace Work

/-- Make the call. -/
def run (E : Engine ω) : Work ω → Action ω Recomputation
  | refresh r => r.run E
  | removal r => r.run E
  | backfill notify _ => E.backfill notify

/-- The tables from which the rows are computed: without what the call removes. -/
def after (db : Database) : Work ω → Database
  | refresh _ => db
  | removal r => db.without r
  | backfill _ _ => db

/-- The set that the call recomputes after so many snapshots, and the number of the snapshot that it
takes its rows from if it does not retry. -/
def Reaches (db : Database) (loads : Nat) : Work ω → Affected → Nat → Prop
  | refresh r, A, first => ∃ stage : Stage, stage.Reached r db db r.prior false (loads + 1) ∧
      A = stage.affected ∧ first = stage.loads + 1
  | removal r, A, first => ∃ stage : Stage,
      stage.Reached r.refresh db (db.without r) ∅ true (loads + 1) ∧
      A = stage.affected ∧ first = stage.loads + 1
  | backfill _ _, A, first => A.Whole db ∧ first = loads + 2

/-- The files that the call reports on. -/
def Asks (db : Database) (A : Affected) : Work ω → Path → Prop
  | refresh _, path => path ∈ A.files
  | removal _, path => path ∈ A.files
  | backfill _ _, path => db.HasFile path

/-- The files and the symbols whose rows the call renews. -/
def scope (db : Database) (A : Affected) : Work ω → Scope
  | refresh _ => A.scope db
  | removal r => A.scope (db.without r)
  | backfill _ _ => ⟨fun file => (Path.ofString file).toString = file, fun _ => True⟩

/-- What a call leaves of a graph with normal paths has normal paths. -/
theorem normal_after (normal : db.Normal) (work : Work ω) : (work.after db).Normal := by
  cases work with
  | refresh r => exact normal
  | removal r => exact Removal.normal_without normal r
  | backfill notify quiet => exact normal

/-- What a call does to the graph leaves the rows of files alone. -/
theorem fileMetrics_after (work : Work ω) : (work.after db).fileMetrics = db.fileMetrics := by
  cases work with
  | refresh r => rfl
  | removal r => rfl
  | backfill notify quiet => rfl

/-- What a call does to the graph leaves the rows of symbols alone. -/
theorem symbolMetrics_after (work : Work ω) :
    (work.after db).symbolMetrics = db.symbolMetrics := by
  cases work with
  | refresh r => rfl
  | removal r => rfl
  | backfill notify quiet => rfl

/-- The graph and the call determine the set and the number. -/
theorem Reaches.unique {work : Work ω} {loads first first' : Nat} {A B : Affected}
    (h : work.Reaches db loads A first) (k : work.Reaches db loads B first') :
    A = B ∧ first = first' := by
  cases work with
  | refresh r =>
    obtain ⟨stage, reached, rfl, rfl⟩ := h
    obtain ⟨stage', reached', rfl, rfl⟩ := k
    rw [reached.unique reached']
    exact ⟨rfl, rfl⟩
  | removal r =>
    obtain ⟨stage, reached, rfl, rfl⟩ := h
    obtain ⟨stage', reached', rfl, rfl⟩ := k
    rw [reached.unique reached']
    exact ⟨rfl, rfl⟩
  | backfill notify quiet => exact ⟨h.1.unique k.1, h.2.trans k.2.symm⟩

/-- A file with a symbol that the call recomputes is reported on if its content fails. -/
theorem asks_of_mem {work : Work ω} {A : Affected} (recomputed : p ∈ A.files)
    (some : (work.after db).symbolCount p.toString ≠ 0) : work.Asks db A p := by
  cases work with
  | refresh r => exact recomputed
  | removal r => exact recomputed
  | backfill notify quiet =>
    obtain ⟨id, row, hr, own⟩ := Database.symbolCount_ne_zero.mp some
    exact ⟨id, row, hr, by rw [own, Path.ofString_toString]⟩

/-- A call that returns has recomputed the set that it reaches: it reports on the files that fail,
and renews the rows. -/
theorem run_ensures (plain : E.loader = .plain root) (shows : w.Shows db disk) (normal : db.Normal)
    (work : Work ω) :
    (work.run E).Ensures w fun res w' => ∃ first db', work.Reaches db w.loads res.affected first ∧
      res.Counted E (work.after db) disk root (work.Asks db res.affected) first ∧
      (work.after db).RenewedIn db' disk root (work.scope db res.affected) ∧
      w'.Shows db' disk := by
  intro res w' run
  cases work with
  | refresh r =>
    obtain ⟨_, db', _, _, _, made, shows'⟩ := r.run_ensures plain shows normal res w' run
    obtain ⟨now, _, renewed⟩ := made.renewed
    obtain ⟨stage, reached, affected, counted⟩ := r.run_counts plain shows normal res w' run
    exact ⟨_, db', ⟨stage, reached, affected, rfl⟩, counted, renewed.renewedIn, shows'⟩
  | removal r =>
    obtain ⟨db', _, _, made, shows'⟩ := r.run_ensures plain shows normal res w' run
    obtain ⟨now, _, renewed⟩ := made.renewed
    obtain ⟨stage, reached, affected, counted⟩ := r.run_counts plain shows normal res w' run
    exact ⟨_, db', ⟨stage, reached, affected, rfl⟩, counted, renewed.renewedIn, shows'⟩
  | backfill notify quiet =>
    obtain ⟨db', done, shows'⟩ := Engine.backfill_ensures plain shows normal quiet res w' run
    obtain ⟨A, now, everything, renewed⟩ := done.renewed
    obtain ⟨whole, counted⟩ := Engine.backfill_counts plain shows normal quiet res w' run
    exact ⟨_, db', ⟨whole, rfl⟩, counted, renewed.renewedIn_written everything normal, shows'⟩

/-- A file that cannot be metered disturbs no other entity. Of two runs from the same tables, with
as many snapshots taken before, let the disk of the second differ from that of the first in one file
with a symbol that is recomputed: it is current on the first disk, but on the second it cannot be
read or is not the recorded one. If both runs return, they end with the same rows of all other files
and of all symbols, apart from the times. The second leaves the row of the file as it was, and has
the errors of the first and one more, which is on this file. -/
theorem isolated (plain : E.loader = .plain root) {w₁ w₂ w₁' w₂' : World ω} {disk₁ disk₂ : Disk}
    (shows₁ : w₁.Shows db disk₁) (shows₂ : w₂.Shows db disk₂) (loads : w₁.loads = w₂.loads)
    (normal : db.Normal) (work : Work ω)
    (alike : (work.after db).AlikeBut disk₁ disk₂ root p)
    (some : (work.after db).symbolCount p.toString ≠ 0)
    (current : (work.after db).isCurrent disk₁ root p.toString)
    (stale : ¬(work.after db).isCurrent disk₂ root p.toString) {r₁ r₂ : Recomputation}
    (run₁ : (work.run E).runIn w₁ = (.ok r₁, w₁'))
    (run₂ : (work.run E).runIn w₂ = (.ok r₂, w₂')) (recomputed : p ∈ r₁.affected.files) :
    ∃ db₁ db₂, w₁'.Shows db₁ disk₁ ∧ w₂'.Shows db₂ disk₂ ∧ r₂.affected = r₁.affected ∧
      db₁.SameGraph db₂ ∧
      (∀ file, file ≠ p.toString →
        (db₁.fileMetrics[file]?).map (·.undated) = (db₂.fileMetrics[file]?).map (·.undated)) ∧
      (∀ id : Int,
        (db₁.symbolMetrics[id]?).map (·.undated) = (db₂.symbolMetrics[id]?).map (·.undated)) ∧
      db₂.fileMetrics[p.toString]? = db.fileMetrics[p.toString]? ∧
      p.toString ∉ r₁.stats.errors.map (·.1) ∧
      ∃ message, r₂.stats.errors.Perm ((p.toString, message) :: r₁.stats.errors) := by
  obtain ⟨first, db₁, reaches₁, counted₁, renewed₁, shows₁'⟩ :=
    work.run_ensures plain shows₁ normal r₁ w₁' run₁
  obtain ⟨first', db₂, reaches₂, counted₂, renewed₂, shows₂'⟩ :=
    work.run_ensures plain shows₂ normal r₂ w₂' run₂
  have normal' := normal_after normal work
  rw [← loads] at reaches₂
  obtain ⟨affected, rfl⟩ := reaches₂.unique reaches₁
  rw [affected] at counted₂ renewed₂
  obtain ⟨graph, files, symbols⟩ := renewed₁.agree_of_content renewed₂
  refine ⟨db₁, db₂, shows₁', shows₂', affected, graph, fun file other => ?_, symbols, ?_, ?_⟩
  · apply files
    intro counted
    obtain ⟨id, row, hr, rfl⟩ := Database.symbolCount_ne_zero.mp counted
    have written := normal' id row hr
    have elsewhere : Path.ofString row.file ≠ p := by
      rintro rfl
      exact other written.symm
    rw [← written] at counted ⊢
    exact alike.contentOf?_eq elsewhere counted
  · rw [renewed₂.file_kept _ some stale, fileMetrics_after]
  · exact counted₁.errors_perm counted₂ normal' alike (asks_of_mem recomputed some) some current
      stale

/-! The second file of the small repository is edited after its digest was recorded. -/

/-- The tables with the digest of the second file. -/
def recorded : Database :=
  { Sample.tables with
    files := .ofList [("b", (⟨"de7d1b721a1e0632b7cf04edf5032c8ecffa9f9a08492152b926f1a5a7e765d7",
      .null⟩ : FileRow))] }

/-- The disk with another content of the second file. -/
def edited : Disk :=
  { Sample.disk with contents := Sample.disk.contents.insert 1 ⟨#[106]⟩ }

/-- The world with this disk. -/
def editedWorld : World Unit :=
  { Sample.world recorded with disk := edited }

/-- The world with an edited file shows the recorded tables. -/
theorem editedWorld_shows : editedWorld.Shows recorded edited := by
  apply World.Open.shows
  refine ⟨{ serial := 1, file := 2 }, rfl, ?_⟩
  simp [World.tables, World.committed, editedWorld, Sample.world]

/-- The refresh of the first file. -/
def sample : Work Unit :=
  .refresh Refresh.sample

/-- A file with an edited content leaves the rows of the others as they would be. -/
theorem sample_isolated :
    ∃ r₁ r₂ w₁ w₂ db₁ db₂ message,
      (sample.run Sample.engine).runIn (Sample.world recorded) = (.ok r₁, w₁) ∧
      (sample.run Sample.engine).runIn editedWorld = (.ok r₂, w₂) ∧
      r₁.stats.errors = [] ∧ r₂.stats.retries = 2 ∧
      w₁.Shows db₁ Sample.disk ∧ w₂.Shows db₂ edited ∧
      (∀ file, file ≠ "b" →
        (db₁.fileMetrics[file]?).map (·.undated) = (db₂.fileMetrics[file]?).map (·.undated)) ∧
      (∀ id : Int,
        (db₁.symbolMetrics[id]?).map (·.undated) = (db₂.symbolMetrics[id]?).map (·.undated)) ∧
      db₂.fileMetrics["b"]? = recorded.fileMetrics["b"]? ∧
      r₂.stats.errors.Perm [("b", message)] := by
  have first : ((sample.run Sample.engine).runIn (Sample.world recorded)).1.toOption.map
      (fun r => (r.stats.errors, decide (Path.ofString "b" ∈ r.affected.files))) =
      some ([], true) := by decide +kernel
  have second : ((sample.run Sample.engine).runIn editedWorld).1.toOption.map
      (·.stats.retries) = some 2 := by decide +kernel
  have normal : recorded.Normal := by decide +kernel
  have alike : (sample.after recorded).AlikeBut Sample.disk edited Sample.root (.ofString "b") := by
    intro q other counted
    obtain ⟨id, row, hr, own⟩ := Database.symbolCount_ne_zero.mp counted
    have files : ∀ x ∈ recorded.symbols.toList,
        Path.ofString x.2.file = .ofString "b" ∨ x.2.file = "a" := by decide +kernel
    rcases files (id, row) (ExtTreeMap.mem_toList_iff_getElem?_eq_some.mpr hr) with same | same
    · rw [own, Path.ofString_toString] at same
      exact (other same).elim
    · have this : q = Path.ofString "a" := by rw [← Path.ofString_toString q, ← own, same]
      rw [this]
      decide +kernel
  have counted : (sample.after recorded).symbolCount (Path.ofString "b").toString ≠ 0 := by
    decide +kernel
  have current : (sample.after recorded).isCurrent Sample.disk Sample.root
      (Path.ofString "b").toString := by decide +kernel
  have stale : ¬(sample.after recorded).isCurrent edited Sample.root
      (Path.ofString "b").toString := by decide +kernel
  rcases run₁ : (sample.run Sample.engine).runIn (Sample.world recorded) with ⟨e | r₁, w₁⟩
  · rw [run₁] at first
    cases first
  rcases run₂ : (sample.run Sample.engine).runIn editedWorld with ⟨e | r₂, w₂⟩
  · rw [run₂] at second
    cases second
  rw [run₁] at first
  rw [run₂] at second
  obtain ⟨none, recomputed⟩ := Prod.mk.inj (Option.some.inj first)
  obtain ⟨db₁, db₂, shows₁, shows₂, _, _, files, symbols, kept, _, message, errors⟩ :=
    isolated rfl (Sample.world_shows recorded) editedWorld_shows rfl normal sample alike counted
      current stale run₁ run₂ (of_decide_eq_true recomputed)
  rw [none] at errors
  exact ⟨r₁, r₂, w₁, w₂, db₁, db₂, message, rfl, rfl, none, Option.some.inj second, shows₁, shows₂,
    files, symbols, kept, errors⟩

end Work

end CodeGauge
