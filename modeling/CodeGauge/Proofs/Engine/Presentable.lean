import CodeGauge.Proofs.Engine.Invariance
import CodeGauge.Proofs.Store.Ranking

/-!
# Tables that can be reported

Nothing stops the report of a file row whose score can be computed, and the statistics have no
trouble with times that are texts. Tables of such rows and times (`Database.Presentable`) stay so
whatever the engine does and whatever rows are written (`Engine.Reaches`). A file row is refused
before it is written if its score cannot be computed, and a column keeps the time at which a file is
recorded as a text, unless it spells a number (`World.IsDated`).
-/

open Std

namespace CodeGauge

open CodeGauge.Action World

variable {ω : Type} {E : Engine ω} {w : World ω} {root : Path}

/-- Every file row has a path and a score that can be computed, and every record of a file has a
path and a text for the time at which it was made. -/
structure Database.Presentable (db : Database) : Prop where
  pathed : db.pathlessMetrics = [] ∧ db.pathlessFiles = []
  scored : ∀ (file : String) (row : FileMetricsRow), db.fileMetrics[file]? = some row →
    ∃ score, (row.metrics file).score = .ok score
  timed : ∀ (file : String) (row : FileRow), db.files[file]? = some row →
    ∃ stamp, row.indexedAt = .text stamp

/-- The time that is recorded does not spell a number. -/
def World.IsDated (w : World ω) : Prop :=
  Text.readNumber? w.stamp = none

/-! ## Rows -/

private theorem exists_toBinary64_kept {v : Value} {x : Binary64} (made : v.toBinary64 = .ok x)
    (some : Affinity.integer.kept v ≠ .null) :
    ∃ y, (Affinity.integer.kept v).toBinary64 = .ok y := by
  cases v with
  | null => cases made
  | text s => cases made
  | int n => exact ⟨x, made⟩
  | real x =>
    have kept : Affinity.integer.kept (.real x) = .ofReal x := by
      by_cases no : x.isNaN = true
      · simp [Affinity.kept, Value.numeric, Value.bound, no] at some
      · simp [Affinity.kept, Value.numeric, Value.bound, no]
    rw [kept, Value.ofReal]
    split
    next whole =>
      refine ⟨_, toBinary64_int ?_⟩
      simp only [Bool.and_eq_true, inColumn_iff] at whole ⊢
      omega
    · exact ⟨x, rfl⟩

/-- The score of a row that is stored can be computed again. -/
theorem FileMetrics.StoredAs.exists_score {row : FileMetrics} {stored : FileMetricsRow}
    (h : row.StoredAs stored) :
    ∃ score, (stored.metrics row.path.toString).score = .ok score := by
  rw [h.metrics_eq]
  obtain ⟨score, made, admitted⟩ := h
  have required := (StoredRow.exists_admit_iff.mp ⟨stored, admitted⟩).1
  obtain ⟨_, lines, made⟩ := Except.bind_eq_ok.mp made
  obtain ⟨_, into, made⟩ := Except.bind_eq_ok.mp made
  obtain ⟨_, out, _⟩ := Except.bind_eq_ok.mp made
  obtain ⟨_, lines, _⟩ := Except.bind_eq_ok.mp lines
  obtain ⟨_, into, _⟩ := Except.bind_eq_ok.mp into
  obtain ⟨_, out, _⟩ := Except.bind_eq_ok.mp out
  obtain ⟨_, lines⟩ := exists_toBinary64_kept lines
    (required (⟨"loc", .integer, true⟩, row.loc) (List.mem_of_getElem? (i := 1) rfl) rfl)
  obtain ⟨_, into⟩ := exists_toBinary64_kept into
    (required (⟨"fan_in", .integer, true⟩, row.fanIn) (List.mem_of_getElem? (i := 3) rfl) rfl)
  obtain ⟨_, out⟩ := exists_toBinary64_kept out
    (required (⟨"fan_out", .integer, true⟩, row.fanOut) (List.mem_of_getElem? (i := 4) rfl) rfl)
  rw [FileMetrics.score, complexity, readBack, weighted, weighted, weighted, lines, into, out]
  exact ⟨_, rfl⟩

/-- A time that spells no number is recorded as it is. -/
theorem FileRow.indexedAt_of_admit {stamp : String} {hash : Option String} {row : FileRow}
    (dated : Text.readNumber? stamp = none)
    (admitted : StoredRow.admit FileRow [.ofText? hash, .text stamp] = .ok row) :
    row.indexedAt = .text stamp := by
  have own : Affinity.numeric.kept (.text stamp) = .text stamp := by
    simp [Affinity.kept, Value.numeric, Value.bound, dated]
  have kept := StoredRow.kept_of_admit admitted
  change StoredRow.ofValues? [Affinity.text.kept _, Affinity.numeric.kept (.text stamp)] = _ at kept
  rw [own] at kept
  cases hash with
  | none => cases kept
  | some digest =>
    cases kept
    rfl

/-! ## Tables -/

namespace Database

variable {db db' : Database}

/-- The second tables have no file row and no record of a file but those of the first. -/
structure Trims (db db' : Database) : Prop where
  pathless : db'.pathlessMetrics ⊆ db.pathlessMetrics ∧ db'.pathlessFiles ⊆ db.pathlessFiles
  metrics : ∀ (file : String) (row : FileMetricsRow), db'.fileMetrics[file]? = some row →
    db.fileMetrics[file]? = some row
  files : ∀ (file : String) (row : FileRow), db'.files[file]? = some row →
    db.files[file]? = some row

namespace Trims

/-- The other tables do not matter. -/
theorem of_others (db : Database) {symbols edges lastSymbol lastEdge symbolMetrics dropped} :
    db.Trims { db with symbols, edges, lastSymbol, lastEdge, symbolMetrics, dropped } :=
  ⟨⟨fun _ => id, fun _ => id⟩, fun _ _ => id, fun _ _ => id⟩

private theorem of_getElem?_erase {β : Type} {table : ExtTreeMap String β} {file other : String}
    {b : β} (held : (table.erase file)[other]? = some b) : table[other]? = some b := by
  rw [ExtTreeMap.getElem?_erase] at held
  split at held
  · cases held
  · exact held

private theorem removeFileMetrics (db : Database) (file : String) :
    db.Trims (db.removeFileMetrics file) :=
  ⟨⟨fun _ => id, fun _ => id⟩, fun _ _ => of_getElem?_erase, fun _ _ => id⟩

private theorem eraseFile (db : Database) (file : String) :
    db.Trims { db with files := db.files.erase file } :=
  ⟨⟨fun _ => id, fun _ => id⟩, fun _ _ => id, fun _ _ => of_getElem?_erase⟩

private theorem clearFileMetrics (db : Database) :
    db.Trims { db with fileMetrics := ∅, pathlessMetrics := [] } :=
  ⟨⟨List.nil_subset _, fun _ => id⟩, fun _ _ held => by simp at held, fun _ _ => id⟩

private theorem clearFiles (db : Database) : db.Trims { db with files := ∅, pathlessFiles := [] } :=
  ⟨⟨fun _ => id, List.nil_subset _⟩, fun _ _ => id, fun _ _ held => by simp at held⟩

end Trims

namespace Presentable

/-- Rows and records may go. -/
theorem trims (h : db.Presentable) (trims : db.Trims db') : db'.Presentable where
  pathed := ⟨List.eq_nil_of_subset_nil (h.pathed.1 ▸ trims.pathless.1),
    List.eq_nil_of_subset_nil (h.pathed.2 ▸ trims.pathless.2)⟩
  scored file row held := h.scored file row (trims.metrics file row held)
  timed file row held := h.timed file row (trims.files file row held)

/-- Tables without rows and records can be presented. -/
theorem of_empty (pathed : db.pathlessMetrics = [] ∧ db.pathlessFiles = [])
    (metrics : db.fileMetrics = ∅) (files : db.files = ∅) : db.Presentable := by
  refine ⟨pathed, fun file row held => ?_, fun file row held => ?_⟩
  · simp [metrics] at held
  · simp [files] at held

private theorem putFileMetrics (h : db.Presentable) {row : FileMetrics} {score : Binary64}
    (made : row.score = .ok score) (put : db.putFileMetrics row score = .ok ((), db')) :
    db'.Presentable := by
  obtain ⟨stored, admitted, put⟩ := Except.bind_eq_ok.mp put
  cases put
  have computed := FileMetrics.StoredAs.exists_score ⟨score, made, admitted⟩
  exact ⟨h.pathed, forall_insert computed h.scored, h.timed⟩

private theorem recordFile (h : db.Presentable) {path stamp : String} {hash : Option String}
    (dated : Text.readNumber? stamp = none)
    (recorded : db.recordFile path stamp hash = .ok ((), db')) : db'.Presentable := by
  obtain ⟨stored, admitted, recorded⟩ := Except.bind_eq_ok.mp recorded
  cases recorded
  have text := FileRow.indexedAt_of_admit dated admitted
  exact ⟨h.pathed, h.scored, forall_insert ⟨stamp, text⟩ h.timed⟩

/-- What can be presented stays so in every use of the repository. -/
theorem upheld : Upheld (Throughout Presentable : World ω → Prop) :=
  Throughout.upheld (.of_empty ⟨rfl, rfl⟩ rfl rfl) fun db h => h.trims (.of_others db)

private theorem admits (trims : db.Trims db') :
    Admits (Throughout Presentable : World ω → Prop) db db' :=
  Throughout.admits fun h => h.trims trims

end Presentable

end Database

open Database

/-! ## Metrics rows -/

namespace MetricsStore

private theorem presentable_sheds : Sheds (Throughout Presentable : World ω → Prop) where
  symbol db _ := Presentable.admits (.of_others db)
  symbols db _ := Presentable.admits (.of_others db)
  file db file := Presentable.admits (.removeFileMetrics db file)

private theorem apply_presentable (b : Batch) :
    (apply b : Action ω Unit).Maintains (Throughout Presentable) := by
  refine apply_maintains Presentable.upheld presentable_sheds
    (fun row _ score before after made put => ?_) fun d _ before after put => ?_
  · exact Throughout.admits fun h => h.putFileMetrics made put
  · obtain ⟨_, _, put⟩ := Except.bind_eq_ok.mp put
    cases put
    exact Presentable.admits (.of_others before)

private theorem Write.run_presentable (write : Write) :
    (write.run : Action ω Unit).Maintains (Throughout Presentable) :=
  write.run_maintains Presentable.upheld presentable_sheds
    (fun db => ⟨Presentable.admits (.of_others db), Presentable.admits (.clearFileMetrics db)⟩)
    fun b _ => apply_presentable b

end MetricsStore

private theorem Database.Presentable.kept : Kept (Throughout Presentable : World ω → Prop) :=
  ⟨Presentable.upheld, MetricsStore.apply_presentable⟩

/-! ## Changes -/

namespace Edit

/-- A file is recorded at a time that is no number. -/
def Dated (w : World ω) : Edit → Prop
  | recordFile _ _ => w.IsDated
  | _ => True

private theorem Writes.presentable {edit : Edit} {before after : Database}
    (writes : edit.Writes w.stamp before after) (dated : edit.Dated w) (h : before.Presentable) :
    after.Presentable := by
  cases writes with
  | insertSymbol inserted =>
    obtain ⟨_, _, inserted⟩ := Except.bind_eq_ok.mp inserted
    obtain ⟨_, _, inserted⟩ := Except.bind_eq_ok.mp inserted
    cases inserted
    exact h.trims (.of_others before)
  | insertEdge inserted =>
    obtain ⟨_, _, inserted⟩ := Except.bind_eq_ok.mp inserted
    obtain ⟨_, _, inserted⟩ := Except.bind_eq_ok.mp inserted
    cases inserted
    exact h.trims (.of_others before)
  | recordFile recorded => exact h.recordFile dated recorded
  | eraseFile file => exact h.trims (.eraseFile before file)
  | clearFiles => exact h.trims (.clearFiles before)
  | clearFileMetrics => exact h.trims (.clearFileMetrics before)
  | removeSymbols | clearSymbols | removeEdges | clearEdges | clearSymbolMetrics =>
    exact h.trims (.of_others before)

private theorem run_presentable {edit : Edit} (h : w.Throughout Presentable)
    (dated : edit.Dated w) :
    (edit.run.runIn w).2.Throughout Presentable :=
  run_writes Presentable.upheld h fun _ _ writes =>
    Throughout.admits fun h => writes.presentable dated h

end Edit

private theorem Removal.deletion_presentable (removal : Removal) :
    (removal.deletion : Action ω Unit).Maintains (Throughout Presentable) := by
  intro w h
  rw [removal.deletion_eq]
  refine Edit.run_presentable h ?_
  cases removal with
  | file path => trivial
  | symbol id => trivial

/-! ## Whatever is done -/

/-- What a world can become by steps of the engine, writes of metrics rows and the use of other
repositories, where files are recorded at times that are no numbers. -/
inductive Engine.Reaches (E : Engine ω) (w : World ω) : World ω → Prop
  | start : Reaches E w w
  | step {v : World ω} (step : Step) : Reaches E w v → step.Each Edit.Dated E v →
      Reaches E w ((step.run E).runIn v).2
  | write {v : World ω} (write : MetricsStore.Write) : Reaches E w v →
      Reaches E w (write.run.runIn v).2
  | use {v : World ω} (path : Path) : Reaches E w v →
      Reaches E w { v with repository := { path } }

/-- Whatever is done, tables that can be reported stay so. -/
theorem Engine.Reaches.presentable (plain : E.loader = .plain root) {v : World ω}
    (reached : E.Reaches w v) (h : w.Throughout Presentable) : v.Throughout Presentable := by
  induction reached with
  | start => exact h
  | step step _ dated ih =>
    exact step.run_each (fun _ edit h dated => edit.run_presentable h dated) Presentable.kept plain
      (fun _ h db held => h db (.of_closing held)) Removal.deletion_presentable ih dated
  | write write _ ih => exact write.run_presentable _ ih
  | use path _ ih =>
    rintro db (stored | ⟨c, hc, _⟩)
    · exact ih db (.inl stored)
    · cases hc

end CodeGauge
