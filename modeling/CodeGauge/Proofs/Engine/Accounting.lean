import CodeGauge.Proofs.Engine.Tally
import CodeGauge.Proofs.Snapshot.Pointwise
import Mathlib.Data.Set.Card

/-!
# What the statistics count

The statistics of a refresh or a removal account for each entity of the set that was recomputed
once, however often the set grew and however many snapshots were discarded before the one that was
written from (`Recomputation.Accounts`). A file was updated, was deleted, or is reported; a symbol
was updated, or its row was deleted, and no symbol is reported.
-/

open Std

namespace CodeGauge

variable {ω : Type} {E : Engine ω} {w : World ω} {db after : Database} {disk : Disk} {root : Path}

/-! ## Counts -/

section Counts

variable {κ : Type} {P : κ → Prop}

/-- The keys with a property are as many as a list has that names each of them once. -/
theorem ncard_eq_length [DecidableEq κ] {keys : List κ} (nodup : keys.Nodup)
    (mem : ∀ key, key ∈ keys ↔ P key) : {key | P key}.ncard = keys.length := by
  have same : {key | P key} = (keys.toFinset : Set κ) := by
    ext key
    simp [mem]
  rw [same, Set.ncard_coe_finset, List.toFinset_card_of_nodup nodup]

/-- The keys with a property are as many as the set of them has. -/
theorem ncard_eq_size [Ord κ] [TransOrd κ] [LawfulEqOrd κ] [DecidableEq κ] {keys : ExtTreeSet κ}
    (mem : ∀ key, key ∈ keys ↔ P key) : {key | P key}.ncard = keys.size := by
  rw [← ExtTreeSet.length_toList]
  exact ncard_eq_length (nodup_toList keys) fun key => ExtTreeSet.mem_toList.trans (mem key)

/-- A list consists of what lacks a first property, and of what has it with and without a second
one. -/
theorem length_eq_filters (P Q : κ → Prop) [DecidablePred P] [DecidablePred Q] (keys : List κ) :
    keys.length = (keys.filter fun key => P key ∧ Q key).length +
      (keys.filter fun key => ¬P key).length +
      (keys.filter fun key => P key ∧ ¬Q key).length := by
  induction keys with
  | nil => rfl
  | cons key keys ih =>
    by_cases first : P key
    · by_cases second : Q key
      · simp [first, second] at ih ⊢
        omega
      · simp [first, second] at ih ⊢
        omega
    · simp [first] at ih ⊢
      omega

end Counts

/-! ## Accounts -/

/-- The files of the set that have a symbol, but no content that is to be trusted. -/
def Affected.failing (A : Affected) (db : Database) (disk : Disk) (root : Path) : List Path :=
  A.files.toList.filter fun path =>
    db.symbolCount path.toString ≠ 0 ∧ ¬db.isCurrent disk root path.toString

/-- The statistics account for the set that was recomputed. The graph is that of `graph`, and the
rows that were stored before are those of `stored`. -/
structure Recomputation.Accounts (res : Recomputation) (stored graph : Database) (disk : Disk)
    (root : Path) : Prop where
  filesUpdated : res.stats.filesUpdated = {path | path ∈ res.affected.files ∧
    graph.symbolCount path.toString ≠ 0 ∧ graph.isCurrent disk root path.toString}.ncard
  filesDeleted : res.stats.filesDeleted = {path | path ∈ res.affected.files ∧
    graph.symbolCount path.toString = 0}.ncard
  errors : ∃ error : Path → Error,
    (∀ path ∈ res.affected.failing graph disk root, ∀ now,
      res.snapshot.fileMetrics path now = .error (error path)) ∧
    res.stats.errors.Perm ((res.affected.failing graph disk root).map fun path =>
      (path.toString, (error path).message))
  symbolsUpdated : res.stats.symbolsUpdated = {id | graph.Covers res.affected id ∧
    (graph.symbols[id]?).isSome}.ncard
  symbolsDeleted : res.stats.symbolsDeleted = {id |
    id ∈ res.affected.symbols ∧ graph.symbols[id]? = none ∨
      ∃ path ∈ res.affected.files, stored.FiledUnder path.toString id ∧
        ¬graph.LiesIn path.toString id}.ncard

namespace Recomputation.Accounts

variable {res : Recomputation} {stored graph stored' graph' : Database}

/-- Only the graph and the symbol rows that were stored count. -/
theorem congr (h : res.Accounts stored graph disk root)
    (rows : stored'.symbolMetrics = stored.symbolMetrics) (same : graph.SameGraph graph') :
    res.Accounts stored' graph' disk root := by
  rw [Database.SameGraph] at same
  have filed (file : String) (id : Int) :
      stored'.FiledUnder file id ↔ stored.FiledUnder file id := by
    rw [Database.FiledUnder, Database.FiledUnder, rows]
  rw [same]
  obtain ⟨filesUpdated, filesDeleted, errors, symbolsUpdated, symbolsDeleted⟩ := h
  refine ⟨filesUpdated, filesDeleted, errors, symbolsUpdated, ?_⟩
  simp only [filed]
  exact symbolsDeleted

/-- Each file was updated, was deleted or is reported. -/
theorem files_total (h : res.Accounts stored graph disk root) :
    res.stats.filesUpdated + res.stats.filesDeleted + res.stats.errors.length =
      res.affected.files.size := by
  obtain ⟨_, _, errors⟩ := h.errors
  have updated : {path | path ∈ res.affected.files ∧ graph.symbolCount path.toString ≠ 0 ∧
      graph.isCurrent disk root path.toString}.ncard =
      (res.affected.files.toList.filter fun path => graph.symbolCount path.toString ≠ 0 ∧
        graph.isCurrent disk root path.toString).length :=
    ncard_eq_length ((nodup_toList _).filter _) (by simp [List.mem_filter])
  have deleted : {path | path ∈ res.affected.files ∧ graph.symbolCount path.toString = 0}.ncard =
      (res.affected.files.toList.filter fun path =>
        ¬graph.symbolCount path.toString ≠ 0).length :=
    ncard_eq_length ((nodup_toList _).filter _) (by simp [List.mem_filter])
  have reported := errors.length_eq
  rw [List.length_map, Affected.failing] at reported
  have total := length_eq_filters (fun path : Path => graph.symbolCount path.toString ≠ 0)
    (fun path => graph.isCurrent disk root path.toString) res.affected.files.toList
  rw [h.filesUpdated, h.filesDeleted, updated, deleted, reported, ← ExtTreeSet.length_toList,
    total]
  push_cast
  rfl

end Recomputation.Accounts

/-! ## The batch of a snapshot -/

/-- A snapshot that shows a set has what is asked for when the set is computed. -/
theorem Snapshot.Shows.contains {g : Snapshot} {A : Affected} (shows : g.Shows A db disk root) :
    g.Contains A.files.toList A.symbols.toList := by
  constructor
  · intro path asked
    have covered := (shows.files path).mpr (ExtTreeSet.mem_toList.mp asked)
    obtain ⟨file, hf⟩ := Option.isSome_iff_exists.mp
      (ExtTreeMap.mem_iff_isSome_getElem?.mp covered)
    refine ⟨file, hf, fun id own => ?_⟩
    have complete := (shows.mirrors.files path file hf).complete id own
    exact ⟨shows.mirrors.complete id complete, complete⟩
  · intro id asked
    cases hs : g.symbol? id with
    | none => exact .inr rfl
    | some s =>
      obtain ⟨row, held, _⟩ := shows.mirrors.known id s hs
      exact .inl ((shows.complete id).mpr ⟨row, held, .inl (ExtTreeSet.mem_toList.mp asked)⟩)

/-- A file that is reported fails with an error whose message is in the report. -/
theorem Snapshot.exists_error_of_report? {g : Snapshot} {now : Int} {path : Path}
    (reported : (g.report? now path).isSome) :
    ∃ e, g.report? now path = some (path.toString, e.message) ∧
      ∀ now', g.fileMetrics path now' = .error e := by
  rw [report?] at reported ⊢
  cases made : g.fileMetrics path now with
  | ok row =>
    rw [made] at reported
    cases reported
  | error e =>
    rw [made] at reported
    dsimp only at reported ⊢
    split at reported
    · cases reported
    · next kept =>
      refine ⟨e, if_neg kept, fun now' => ?_⟩
      rw [g.fileMetrics_redated path now now', made]
      rfl

namespace Engine

variable {g : Snapshot} {A : Affected} {now : Int} {a : Aggregate}

/-- The messages of an aggregate are the errors of the failing files. -/
theorem keptRows_of_shows (shows : g.Shows A db disk root) (normal : db.Normal)
    (made : g.aggregate A.files.toList A.symbols.toList now = .ok a) :
    ∃ error : Path → Error,
      (∀ path ∈ A.failing db disk root, ∀ now, g.fileMetrics path now = .error (error path)) ∧
      (keptRows a).Perm ((A.failing db disk root).map fun path =>
        (path.toString, (error path).message)) := by
  obtain ⟨measured, hm, ha⟩ := Except.bind_eq_ok.mp made
  have reported (path : Path) (asked : path ∈ A.files.toList) : (g.report? now path).isSome ↔
      db.symbolCount path.toString ≠ 0 ∧ ¬db.isCurrent disk root path.toString := by
    obtain ⟨r, tolerated⟩ := Snapshot.exists_tolerated_of_measureFiles hm asked
    have covered := (shows.files path).mpr (ExtTreeSet.mem_toList.mp asked)
    exact shows.mirrors.isSome_report? normal covered tolerated
  have failed : ∀ path ∈ A.failing db disk root, ∃ e,
      g.report? now path = some (path.toString, e.message) ∧
        ∀ now', g.fileMetrics path now' = .error e := by
    intro path mem
    obtain ⟨asked, fails⟩ := List.mem_filter.mp mem
    exact Snapshot.exists_error_of_report? ((reported path asked).mpr (of_decide_eq_true fails))
  have : Nonempty Error := ⟨.unsettled⟩
  choose! error report failed using failed
  refine ⟨error, failed, (keptRows_perm hm ha (nodup_toList _)).trans (.of_eq ?_)⟩
  rw [Affected.failing, ← List.filterMap_eq_map, List.filterMap_filter]
  refine List.filterMap_congr fun path asked => ?_
  split
  · next fails => exact report path (List.mem_filter.mpr ⟨asked, fails⟩)
  · next fine =>
    rw [← Option.not_isSome_iff_eq_none, reported path asked]
    exact fun fails => fine (decide_eq_true fails)

/-- The files with a row in an aggregate of a set are those of the set that can be measured. -/
theorem ncard_measuredFiles (pointwise : a.IsPointwise g A.files.toList A.symbols.toList now)
    (m : a.Measures db disk root (· ∈ A.files) (db.Covers A) now) :
    {path | path ∈ A.files ∧ db.symbolCount path.toString ≠ 0 ∧
      db.isCurrent disk root path.toString}.ncard = a.files.length := by
  obtain ⟨paths, perm, _, rows⟩ := pointwise.fileRows
  have nodup : (a.files.map (·.path)).Nodup := by
    rw [rows]
    exact nodup_rows (fun _ _ => Snapshot.path_of_fileMetrics)
      (perm.nodup_iff.mpr (nodup_toList _))
  rw [ncard_eq_length nodup, List.length_map]
  intro path
  rw [List.mem_map]
  constructor
  · rintro ⟨row, mem, rfl⟩
    obtain ⟨asked, some, current, _⟩ := m.file_row row mem
    exact ⟨asked, some, current⟩
  · rintro ⟨asked, some, current⟩
    exact m.file_measured path asked some current

/-- The symbols with a row in an aggregate of a set are those that the set covers. -/
theorem ncard_measuredSymbols (keyed : g.Keyed)
    (pointwise : a.IsPointwise g A.files.toList A.symbols.toList now)
    (m : a.Measures db disk root (· ∈ A.files) (db.Covers A) now) :
    {id | db.Covers A id ∧ (db.symbols[id]?).isSome}.ncard = a.symbols.length := by
  obtain ⟨ids, ascending, _, rows⟩ := pointwise.symbolRows
  have nodup : (a.symbols.map (·.symbolId)).Nodup := by
    rw [rows]
    exact nodup_rows (fun _ _ => Snapshot.id_of_symbolMetrics keyed)
      (ascending.imp fun less => Int.ne_of_lt less)
  rw [ncard_eq_length nodup, List.length_map]
  intro id
  rw [List.mem_map]
  constructor
  · rintro ⟨row, mem, rfl⟩
    obtain ⟨covered, present, _⟩ := m.symbol_row row mem
    exact ⟨covered, present⟩
  · rintro ⟨covered, present⟩
    exact m.symbol_measured id covered present

/-- The statistics of the batch of a set from a snapshot that shows it account for the set. -/
theorem accounts_of_shows {res : Recomputation} {retries : Nat}
    (shows : res.snapshot.Shows res.affected db disk root) (keyed : res.snapshot.Keyed)
    (normal : db.Normal)
    (made : res.snapshot.aggregate res.affected.files.toList res.affected.symbols.toList now =
      .ok a)
    (fileRows : res.batch.fileRows = a.files)
    (symbolRows : res.batch.symbolRows = a.symbols.map (·.draft))
    (deletedFiles : ∀ path, path ∈ res.batch.deletedFiles ↔ path ∈ absentFiles a)
    (deletedSymbols : ∀ id, id ∈ res.batch.deletedSymbols ↔ id ∈ absentSymbols a ∨
      ∃ path ∈ res.affected.files, path ∈ res.snapshot.files ∧ db.Misfiled id path.toString)
    (stats : res.stats = statsOf a res.batch retries) : res.Accounts db db disk root := by
  have m := measures_of_shows shows normal made
  have pointwise := keyed.isPointwise shows.contains made
  have dropped (path : Path) := (deletedFiles path).trans (m.file_absent path)
  have removed (id : Int) := (deletedSymbols id).trans (absent_or_misfiled_iff shows m id)
  rw [statsOf, Stats.count, fileRows, symbolRows, List.length_map] at stats
  constructor
  · rw [stats, ncard_measuredFiles pointwise m]
    exact Int.zero_add _
  · rw [stats, ncard_eq_size dropped]
    exact Int.zero_add _
  · rw [stats]
    exact keptRows_of_shows shows normal made
  · rw [stats, ncard_measuredSymbols keyed pointwise m]
    exact Int.zero_add _
  · -- what is filed under a file without lying in it is what is misfiled
    rw [stats]
    exact (Int.zero_add _).trans (congrArg _ (ncard_eq_size removed).symm)

/-! ## Recomputations -/

variable {derive : Snapshot → Except Error Affected}

/-- Computing from one snapshot ends with statistics that account for the set, if it ends. -/
theorem compute_accounts (plain : E.loader = .plain root) (isOpen : w.Open db) (normal : db.Normal)
    (derive : Snapshot → Except Error Affected) (r : Round ω) :
    (E.compute derive r).Ensures w (RoundEnd.Meets (fun _ _ => True)
      fun res _ => res.Accounts db db w.disk root) := by
  unfold compute
  rw [plain]
  refine ((Snapshot.loadPart_ensures isOpen normal r.affected).and
    (Snapshot.loadPart_wellFormed r.affected)).bind ?_
  rintro g w₁ ⟨⟨shows, onward⟩, wellFormed⟩
  refine .given fun d _ => ?_
  dsimp only
  split
  · exact .pure trivial
  refine .after Action.runIn_get ?_
  refine .given fun now _ => .given fun a made => ?_
  split
  · exact .pure trivial
  refine .bind (batchOf_reads shows.mirrors a r.affected w₁ onward.isOpen) ?_
  rintro b _ ⟨⟨fileRows, symbolRows, deletedFiles, deletedSymbols⟩, _⟩
  refine .skip fun _ _ => .pure ?_
  exact accounts_of_shows shows wellFormed.keyed normal made fileRows symbolRows deletedFiles
    deletedSymbols rfl

section Rounds

variable (w : World ω) (db after : Database) (deletion : Option (Action ω Unit))

-- Where a round starts: the deletion, which leads from `db` to `after`, is to be done, or there is
-- none any more.
private def Deleting (r : Round ω) (w₁ : World ω) : Prop :=
  (r.deletion = none ∧ w.Onward w₁ after) ∨
    ((r.deletion.isSome ∧ r.deletion = deletion) ∧ w.Onward w₁ db)

variable {w db after deletion} {Q : Recomputation → Prop}

private theorem compute_gives (plain : E.loader = .plain root) (normal : after.Normal)
    (computed : ∀ r w₁, w.Onward w₁ after →
      (E.compute derive r).Ensures w₁ (RoundEnd.Meets (fun _ _ => True) fun res _ => Q res))
    {r : Round ω} {w₁ : World ω} (none : r.deletion = none) (onward : w.Onward w₁ after) :
    (E.compute derive r).Ensures w₁ (RoundEnd.Meets (Deleting w db after deletion)
      fun res _ => Q res) := by
  refine ((compute_ensures plain onward.isOpen normal r).and (computed r w₁ onward)).mono ?_
  rintro e w₂ ⟨ended, gives⟩
  cases e with
  | again next =>
    obtain ⟨same, _, _, h₂⟩ := ended
    exact .inl ⟨same.trans none, onward.trans h₂⟩
  | done res => exact gives

private theorem round_gives (plain : E.loader = .plain root) (normal : db.Normal)
    (normal' : after.Normal)
    (deletes : ∀ action, deletion = some action → ∀ w₁ : World ω, w₁.Open db →
      action.Ensures w₁ fun _ w' => w₁.Onward w' after)
    (computed : ∀ r w₁, w.Onward w₁ after →
      (E.compute derive r).Ensures w₁ (RoundEnd.Meets (fun _ _ => True) fun res _ => Q res))
    {r : Round ω} {w₁ : World ω} (kept : Deleting w db after deletion r w₁) :
    (E.round derive r).Ensures w₁ (RoundEnd.Meets (Deleting w db after deletion)
      fun res _ => Q res) := by
  unfold round
  obtain ⟨none, onward⟩ | ⟨⟨pending, asked⟩, onward⟩ := kept
  · rw [none]
    exact compute_gives plain normal' computed none onward
  obtain ⟨action, same⟩ := Option.isSome_iff_exists.mp pending
  rw [same, plain]
  refine (Snapshot.loadPart_ensures onward.isOpen normal r.affected).bind ?_
  rintro g w₂ ⟨_, h₂⟩
  refine .given fun d _ => ?_
  dsimp only
  split
  · exact .pure (.inr ⟨⟨rfl, same.symm.trans asked⟩, onward.trans h₂⟩)
  refine (deletes action (asked.symm.trans same) w₂ h₂.isOpen).bind fun _ w₃ h₃ => ?_
  exact compute_gives plain normal' computed rfl ((onward.trans h₂).trans h₃)

/-- What a computation gives from the tables as they are after the deletion, if there is one, a
recomputation gives. -/
theorem recompute_gives (plain : E.loader = .plain root) (isOpen : w.Open db) (normal : db.Normal)
    (normal' : after.Normal) (seed prior : Affected) (kept : deletion = none → after = db)
    (deletes : ∀ action, deletion = some action → ∀ w₁ : World ω, w₁.Open db →
      action.Ensures w₁ fun _ w' => w₁.Onward w' after)
    (computed : ∀ r w₁, w.Onward w₁ after →
      (E.compute derive r).Ensures w₁ (RoundEnd.Meets (fun _ _ => True) fun res _ => Q res)) :
    (E.recompute seed derive prior deletion).Ensures w fun res _ => Q res := by
  unfold recompute
  rw [plain]
  refine (Snapshot.loadPart_ensures isOpen normal seed).bind ?_
  rintro g w₁ ⟨_, h₁⟩
  refine .given fun first _ => ?_
  refine runRounds_ensures (I := Deleting w db after deletion)
    (fun r w₂ kept => round_gives plain normal normal' deletes computed kept) E.maxRounds ?_
  cases deletion with
  | none =>
    rw [kept rfl]
    exact .inl ⟨rfl, h₁⟩
  | some action => exact .inr ⟨⟨rfl, rfl⟩, h₁⟩

end Rounds

/-- A recomputation without a deletion, or with one that leads from `db` to `after`, ends with
statistics that account for the set that it recomputed. -/
theorem recompute_accounts (plain : E.loader = .plain root) (shows : w.Shows db disk)
    (normal : db.Normal) (normal' : after.Normal) (seed prior : Affected)
    {deletion : Option (Action ω Unit)} (kept : deletion = none → after = db)
    (deletes : ∀ action, deletion = some action → ∀ w₁ : World ω, w₁.Open db →
      action.Ensures w₁ fun _ w' => w₁.Onward w' after) :
    (E.recompute seed derive prior deletion).Ensures w fun res _ =>
      res.Accounts after after disk root := by
  obtain ⟨o, isOpen, sameDisk, _, opened⟩ := shows.exists_open
  intro res w' run
  rw [opened _ (opens_recompute plain _ _ _)] at run
  refine recompute_gives (Q := fun res => res.Accounts after after disk root) plain isOpen normal
    normal' seed prior kept deletes ?_ res w' run
  intro r o₁ onward
  have accounts := compute_accounts plain onward.isOpen normal' derive r
  rwa [onward.same.disk, sameDisk] at accounts

end Engine

/-! ## Calls -/

namespace Work

/-- The call is a refresh or a removal. -/
def IsPartial : Work ω → Prop
  | refresh _ => True
  | removal _ => True
  | backfill _ _ => False

private theorem run_accounts (plain : E.loader = .plain root) (shows : w.Shows db disk)
    (normal : db.Normal) {work : Work ω} (isPartial : work.IsPartial) :
    (work.run E).Ensures w fun res _ =>
      res.Accounts (work.after db) (work.after db) disk root := by
  have normal' := normal_after normal work
  cases work with
  | refresh r =>
    rw [run, r.run_eq]
    apply Engine.recompute_accounts plain shows normal normal'
    · intro _
      rfl
    · intro action none
      cases none
  | removal r =>
    rw [run, r.run_eq]
    apply Engine.recompute_accounts plain shows normal normal'
    · intro none
      cases none
    · intro action same w₁ isOpen
      cases same
      exact r.deletion_ensures isOpen
  | backfill notify quiet => exact isPartial.elim

/-- A refresh or a removal that returns while nothing else changes the tables or the disk accounts
for the set that it recomputed. Of the files of the set those are counted as updated that have a
symbol in the graph at the end and a content that can be read and is the recorded one, and those as
deleted that have no symbol; each of the others is reported once, and no symbol is. The symbols of
the graph that are in the set or in a file of the set are counted as updated. Those ids are counted
as deleted, each once, that are in the set and not in the graph, or were stored before under a file
of the set without being one of its symbols. -/
theorem accounts (plain : E.loader = .plain root) (shows : w.Shows db disk) (normal : db.Normal)
    {work : Work ω} (isPartial : work.IsPartial) {res : Recomputation} {w' : World ω}
    (run : (work.run E).runIn w = (.ok res, w')) :
    ∃ db', w'.Shows db' disk ∧ (work.after db).SameGraph db' ∧ res.Accounts db db' disk root ∧
      res.stats.filesUpdated + res.stats.filesDeleted + res.stats.errors.length =
        res.affected.files.size := by
  obtain ⟨_, db', _, _, renewed, shows'⟩ := work.run_ensures plain shows normal res w' run
  have accounts := work.run_accounts plain shows normal isPartial res w' run
  exact ⟨db', shows', renewed.graph, accounts.congr (symbolMetrics_after work).symm renewed.graph,
    accounts.files_total⟩

/-- The refresh of the first file, told that a file and two symbols were connected to it that the
graph does not have. Of one of these symbols there is a row that is filed under the first file. -/
def sampleTold : Work Unit :=
  .refresh (.file (.ofString "a") (.of [.ofString "c"] [7, 9]))

/-- The statistics of this refresh without the errors. -/
def sampleStats : Stats where
  filesUpdated := 1
  symbolsUpdated := 2
  filesDeleted := 1
  symbolsDeleted := 2
  retries := 2

/-- A refresh of one symbol is accounted for where one of its three files cannot be metered. -/
theorem sample_accounts :
    ∃ res w' db', (sampleTold.run Sample.engine).runIn editedWorld = (.ok res, w') ∧
      w'.Shows db' edited ∧ recorded.SameGraph db' ∧ res.Accounts recorded db' edited Sample.root ∧
      res.affected.files.size = 3 ∧ res.stats.errors.map (·.1) = ["b"] ∧
      { res.stats with errors := [] } = sampleStats := by
  have counts : ((sampleTold.run Sample.engine).runIn editedWorld).1.toOption.map (fun res =>
      (res.affected.files.size, res.stats.errors.map (·.1), { res.stats with errors := [] })) =
      some (3, ["b"], sampleStats) := by decide +kernel
  have normal : recorded.Normal := by decide +kernel
  rcases run : (sampleTold.run Sample.engine).runIn editedWorld with ⟨e | res, w'⟩
  · rw [run] at counts
    cases counts
  · rw [run] at counts
    obtain ⟨size, rest⟩ := Prod.mk.inj (Option.some.inj counts)
    obtain ⟨db', shows', graph, accounted, _⟩ :=
      accounts rfl editedWorld_shows normal (show sampleTold.IsPartial from trivial) run
    exact ⟨res, w', db', rfl, shows', graph, accounted, size, Prod.mk.inj rest⟩

end Work

end CodeGauge
