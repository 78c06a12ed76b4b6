import CodeGauge.Proofs.Results
import CodeGauge.Proofs.Store.Session
import CodeGauge.Store.Metrics

/-!
# What a batch writes

A batch that is applied changes the metrics tables and no other (`Batch.Updates`). A key that its
rows have holds what the last of them is stored as. Every other key holds what it held, unless the
batch deletes it or, in the case of a symbol, the file that its row is filed under. Where it does
not matter which of several rows of a key is stored, `Batch.WrittenTo` says the same of some row.
-/

open Std

namespace CodeGauge

variable {ω α : Type}

/-- The file row is stored as these column values, which hold the score of its own fields. -/
def FileMetrics.StoredAs (row : FileMetrics) (stored : FileMetricsRow) : Prop :=
  ∃ score, row.score = .ok score ∧ StoredRow.admit FileMetricsRow (row.values score) = .ok stored

/-- The symbol row is stored as these column values. -/
def SymbolMetrics.Draft.StoredAs (d : SymbolMetrics.Draft) (stored : SymbolMetricsRow) : Prop :=
  StoredRow.admit SymbolMetricsRow d.values = .ok stored

/-- The databases differ at most in the metrics of files that have a path and of symbols. -/
def Database.SameGraph (db db' : Database) : Prop :=
  db' = { db with fileMetrics := db'.fileMetrics, symbolMetrics := db'.symbolMetrics }

/-- The last of the batch's file rows for a path. -/
def Batch.fileRow? (b : Batch) (file : String) : Option FileMetrics :=
  b.fileRows.findRev? (·.path.toString == file)

/-- The last of the batch's symbol rows with an id. -/
def Batch.symbolRow? (b : Batch) (id : Int) : Option SymbolMetrics.Draft :=
  b.symbolRows.findRev? (·.symbolId == some id)

/-- `db'` is what the batch makes of `db`, key by key. -/
structure Batch.Updates (b : Batch) (db db' : Database) : Prop where
  graph : db.SameGraph db'
  file : ∀ f : String,
    (∃ row, b.fileRow? f = some row ∧
      ∃ stored, row.StoredAs stored ∧ db'.fileMetrics[f]? = some stored) ∨
    b.fileRow? f = none ∧
      ∀ old, db'.fileMetrics[f]? = some old ↔
        db.fileMetrics[f]? = some old ∧ ∀ p ∈ b.deletedFiles, p.toString ≠ f
  symbol : ∀ id : Int,
    (∃ d, b.symbolRow? id = some d ∧
      ∃ stored, d.StoredAs stored ∧ db'.symbolMetrics[id]? = some stored) ∨
    b.symbolRow? id = none ∧
      ∀ old, db'.symbolMetrics[id]? = some old ↔
        db.symbolMetrics[id]? = some old ∧ id ∉ b.deletedSymbols ∧
          ∀ p ∈ b.deletedFiles, p.toString ≠ old.path

/-- `db'` is what the batch makes of `db`, if any of several rows of a key is stored. -/
structure Batch.WrittenTo (b : Batch) (db db' : Database) : Prop where
  graph : db.SameGraph db'
  file : ∀ f : String,
    (∃ row ∈ b.fileRows, row.path.toString = f ∧
      ∃ stored, row.StoredAs stored ∧ db'.fileMetrics[f]? = some stored) ∨
    (∀ row ∈ b.fileRows, row.path.toString ≠ f) ∧
      ∀ old, db'.fileMetrics[f]? = some old ↔
        db.fileMetrics[f]? = some old ∧ ∀ p ∈ b.deletedFiles, p.toString ≠ f
  symbol : ∀ id : Int,
    (∃ d ∈ b.symbolRows, d.symbolId = some id ∧
      ∃ stored, d.StoredAs stored ∧ db'.symbolMetrics[id]? = some stored) ∨
    (∀ d ∈ b.symbolRows, d.symbolId ≠ some id) ∧
      ∀ old, db'.symbolMetrics[id]? = some old ↔
        db.symbolMetrics[id]? = some old ∧ id ∉ b.deletedSymbols ∧
          ∀ p ∈ b.deletedFiles, p.toString ≠ old.path

namespace Database

variable {db db₁ db₂ : Database}

/-- Tables have the graph that they have. -/
theorem SameGraph.refl (db : Database) : db.SameGraph db := rfl

/-- Tables that have one graph have it both ways round. -/
theorem SameGraph.symm (h : db.SameGraph db₁) : db₁.SameGraph db := by
  rw [SameGraph] at h ⊢
  rw [h]

/-- Tables that have one graph with the same tables have it with each other. -/
theorem SameGraph.trans (h : db.SameGraph db₁) (k : db₁.SameGraph db₂) : db.SameGraph db₂ := by
  rw [SameGraph] at h k ⊢
  rw [h] at k
  exact k

/-! ## Deleting -/

/-- The tables without the symbol rows of these ids. -/
def withoutIds (db : Database) (ids : List Int) : Database :=
  ids.foldl (fun db id => (db.removeSymbolMetrics id).2) db

/-- The tables without the rows of these files and the symbol rows filed under them. -/
def withoutFiles (db : Database) (paths : List Path) : Database :=
  paths.foldl (fun db path =>
    (db.removeSymbolMetricsInFile path.toString).2.removeFileMetrics path.toString) db

/-- The entries that are left are those that the condition does not hold of. -/
theorem removeWhere_eq_some {κ α : Type} [Ord κ] [TransOrd κ] [LawfulEqOrd κ]
    {table : ExtTreeMap κ α} {p : κ → α → Bool} {k : κ} {a : α} :
    (removeWhere table p).2[k]? = some a ↔ table[k]? = some a ∧ p k a = false := by
  change (table.filter fun k a => !p k a)[k]? = some a ↔ _
  rw [ExtTreeMap.getElem?_filter', Option.filter_eq_some_iff]
  simp

private theorem removeSymbolMetrics_eq_some (db : Database) (id k : Int) (row : SymbolMetricsRow) :
    (db.removeSymbolMetrics id).2.symbolMetrics[k]? = some row ↔
      db.symbolMetrics[k]? = some row ∧ k ≠ id := by
  refine removeWhere_eq_some.trans (and_congr_right fun _ => ?_)
  simp

private theorem removeSymbolMetricsInFile_eq_some (db : Database) (file : String) (k : Int)
    (row : SymbolMetricsRow) :
    (db.removeSymbolMetricsInFile file).2.symbolMetrics[k]? = some row ↔
      db.symbolMetrics[k]? = some row ∧ file ≠ row.path := by
  refine removeWhere_eq_some.trans (and_congr_right fun _ => ?_)
  simp [ne_comm]

private theorem removeFileMetrics_eq_some (db : Database) (file f : String)
    (row : FileMetricsRow) :
    (db.removeFileMetrics file).fileMetrics[f]? = some row ↔
      db.fileMetrics[f]? = some row ∧ file ≠ f := by
  change (db.fileMetrics.erase file)[f]? = some row ↔ _
  rw [ExtTreeMap.getElem?_erase]
  by_cases h : file = f
  · simp [h]
  · simp [h]

private theorem withoutIds_symbol (ids : List Int) (db : Database) (k : Int)
    (row : SymbolMetricsRow) :
    (db.withoutIds ids).symbolMetrics[k]? = some row ↔
      db.symbolMetrics[k]? = some row ∧ k ∉ ids := by
  induction ids generalizing db with
  | nil => simp [withoutIds]
  | cons id ids ih =>
    change ((db.removeSymbolMetrics id).2.withoutIds ids).symbolMetrics[k]? = some row ↔ _
    rw [ih, removeSymbolMetrics_eq_some, List.mem_cons, not_or, and_assoc]

private theorem withoutIds_same (ids : List Int) (db : Database) :
    db.SameGraph (db.withoutIds ids) ∧ (db.withoutIds ids).fileMetrics = db.fileMetrics := by
  induction ids generalizing db with
  | nil => exact ⟨.refl db, rfl⟩
  | cons id ids ih =>
    have first : db.SameGraph (db.removeSymbolMetrics id).2 := rfl
    have ⟨rest, files⟩ := ih (db.removeSymbolMetrics id).2
    exact ⟨first.trans rest, files⟩

private theorem withoutFiles_symbol (paths : List Path) (db : Database) (k : Int)
    (row : SymbolMetricsRow) :
    (db.withoutFiles paths).symbolMetrics[k]? = some row ↔
      db.symbolMetrics[k]? = some row ∧ ∀ p ∈ paths, p.toString ≠ row.path := by
  induction paths generalizing db with
  | nil => simp [withoutFiles]
  | cons p paths ih =>
    apply (ih ((db.removeSymbolMetricsInFile p.toString).2.removeFileMetrics p.toString)).trans
    change (db.removeSymbolMetricsInFile p.toString).2.symbolMetrics[k]? = some row ∧ _ ↔ _
    rw [removeSymbolMetricsInFile_eq_some, List.forall_mem_cons, and_assoc]

private theorem withoutFiles_file (paths : List Path) (db : Database) (f : String)
    (row : FileMetricsRow) :
    (db.withoutFiles paths).fileMetrics[f]? = some row ↔
      db.fileMetrics[f]? = some row ∧ ∀ p ∈ paths, p.toString ≠ f := by
  induction paths generalizing db with
  | nil => simp [withoutFiles]
  | cons p paths ih =>
    apply (ih ((db.removeSymbolMetricsInFile p.toString).2.removeFileMetrics p.toString)).trans
    rw [removeFileMetrics_eq_some, List.forall_mem_cons, and_assoc]
    rfl

private theorem withoutFiles_same (paths : List Path) (db : Database) :
    db.SameGraph (db.withoutFiles paths) := by
  induction paths generalizing db with
  | nil => exact .refl db
  | cons p paths ih =>
    have first : db.SameGraph
        ((db.removeSymbolMetricsInFile p.toString).2.removeFileMetrics p.toString) := rfl
    exact first.trans (ih _)

/-! ## Inserting -/

private theorem findRev?_cons (p : α → Bool) (a : α) (rows : List α) :
    (a :: rows).findRev? p = (rows.findRev? p).or (if p a then some a else none) := by
  rw [List.findRev?]
  cases rows.findRev? p with
  | none => rfl
  | some b => rfl

private theorem foldlM_put {κ β γ ε : Type} [DecidableEq κ] [Ord κ] [TransOrd κ] [LawfulEqOrd κ]
    (key : α → Option κ) (stored : α → β → Prop) (table : Database → ExtTreeMap κ β)
    (other : Database → γ) (put : Database → α → Except ε Database) (rows : List α)
    (put_ok : ∀ a ∈ rows, ∀ {db db' : Database}, put db a = .ok db' →
      db.SameGraph db' ∧ other db' = other db ∧
        ∃ k b, key a = some k ∧ stored a b ∧ table db' = (table db).insert k b)
    {db db' : Database} (run : rows.foldlM put db = .ok db') :
    db.SameGraph db' ∧ other db' = other db ∧ ∀ k,
      (∃ a, rows.findRev? (key · == some k) = some a ∧
        ∃ b, stored a b ∧ (table db')[k]? = some b) ∨
      rows.findRev? (key · == some k) = none ∧ (table db')[k]? = (table db)[k]? := by
  induction rows generalizing db with
  | nil =>
    cases run
    exact ⟨.refl _, rfl, fun k => .inr ⟨rfl, rfl⟩⟩
  | cons a rows ih =>
    rw [List.foldlM_cons] at run
    have ⟨db₁, step, run⟩ := Except.bind_eq_ok.mp run
    have ⟨same, hold, own, b, hk, hb, ht⟩ := put_ok a List.mem_cons_self step
    have ⟨same', hold', holds⟩ := ih (fun a ha => put_ok a (List.mem_cons_of_mem _ ha)) run
    refine ⟨same.trans same', hold'.trans hold, fun k => ?_⟩
    rw [findRev?_cons]
    obtain ⟨last, found, rest⟩ | ⟨none, kept⟩ := holds k
    · exact .inl ⟨last, by rw [found]; rfl, rest⟩
    rw [none, hk, Option.none_or, Option.some_beq_some]
    rw [ht] at kept
    by_cases same : own = k
    · subst same
      rw [ExtTreeMap.getElem?_insert_self] at kept
      rw [beq_self_eq_true]
      exact .inl ⟨a, rfl, b, hb, kept⟩
    · rw [ExtTreeMap.getElem?_insert, if_neg (by simpa using same)] at kept
      rw [beq_eq_false_iff_ne.mpr same]
      exact .inr ⟨rfl, kept⟩

private theorem putFileMetrics_ok {db db' : Database} {row : FileMetrics} {score : Binary64}
    (h : (db.putFileMetrics row score).map (·.2) = .ok db') :
    db.SameGraph db' ∧ db'.symbolMetrics = db.symbolMetrics ∧
      ∃ file stored, some row.path.toString = some file ∧
        StoredRow.admit FileMetricsRow (row.values score) = .ok stored ∧
        db'.fileMetrics = db.fileMetrics.insert file stored := by
  obtain ⟨⟨_, db₁⟩, put, rfl⟩ := Except.map_eq_ok.mp h
  have ⟨stored, hs, made⟩ := Except.bind_eq_ok.mp put
  cases made
  exact ⟨rfl, rfl, _, stored, rfl, hs, rfl⟩

private theorem putSymbolMetrics_ok {db db' : Database} {d : SymbolMetrics.Draft} {id : Int}
    (hasId : d.symbolId = some id) (h : (db.putSymbolMetrics d).map (·.2) = .ok db') :
    db.SameGraph db' ∧ db'.fileMetrics = db.fileMetrics ∧
      ∃ id stored, d.symbolId = some id ∧ d.StoredAs stored ∧
        db'.symbolMetrics = db.symbolMetrics.insert id stored := by
  obtain ⟨⟨_, db₁⟩, put, rfl⟩ := Except.map_eq_ok.mp h
  have ⟨stored, hs, made⟩ := Except.bind_eq_ok.mp put
  rw [hasId] at made ⊢
  cases made
  exact ⟨rfl, rfl, id, stored, rfl, hs, rfl⟩

/-- The file rows with their scores. -/
theorem mem_scored {rows : List FileMetrics} {scored : List (FileMetrics × Binary64)}
    (scores : (rows.mapM fun row => do return (row, ← row.score)) = .ok scored)
    (x : FileMetrics × Binary64) : x ∈ scored ↔ x.1 ∈ rows ∧ x.1.score = .ok x.2 := by
  rw [mem_of_mapM_eq_ok scores]
  simp only [Except.bind_eq_ok]
  constructor
  · intro ⟨row, mem, score, hs, same⟩
    cases same
    exact ⟨mem, hs⟩
  · intro ⟨mem, hs⟩
    exact ⟨x.1, mem, x.2, hs, rfl⟩

/-- The scored rows are the rows. -/
theorem map_fst_scored {rows : List FileMetrics} {scored : List (FileMetrics × Binary64)}
    (scores : (rows.mapM fun row => do return (row, ← row.score)) = .ok scored) :
    scored.map (·.1) = rows := by
  have same : scored.map (·.1) = rows.map id := by
    refine map_eq_of_mapM_eq_ok scores fun row _ x made => ?_
    have ⟨_, _, same⟩ := Except.bind_eq_ok.mp made
    cases same
    rfl
  rw [same, List.map_id]

private theorem findRev?_scored {rows : List FileMetrics} {scored : List (FileMetrics × Binary64)}
    (scores : (rows.mapM fun row => do return (row, ← row.score)) = .ok scored) (file : String) :
    (scored.findRev? (some ·.1.path.toString == some file)).map (·.1) =
      rows.findRev? (·.path.toString == file) := by
  rw [List.findRev?_eq_find?_reverse, List.findRev?_eq_find?_reverse, ← map_fst_scored scores,
    ← List.map_reverse, List.find?_map]
  rfl

/-- Deletions, then file rows with their scores, then symbol rows: this is what a batch does. -/
theorem updates {b : Batch} {ids : List Int} {paths : List Path}
    {scored : List (FileMetrics × Binary64)}
    (hasIds : ∀ d ∈ b.symbolRows, ∃ id, d.symbolId = some id)
    (mem_ids : ∀ id, id ∈ ids ↔ id ∈ b.deletedSymbols)
    (mem_paths : ∀ p, p ∈ paths ↔ p ∈ b.deletedFiles)
    (scores : (b.fileRows.mapM fun row => do return (row, ← row.score)) = .ok scored)
    (files : scored.foldlM (fun db x => (db.putFileMetrics x.1 x.2).map (·.2))
      ((db.withoutIds ids).withoutFiles paths) = .ok db₁)
    (symbols : b.symbolRows.foldlM (fun db d => (db.putSymbolMetrics d).map (·.2)) db₁ =
      .ok db₂) :
    b.Updates db db₂ := by
  have ⟨same₁, symbols₁, file⟩ := foldlM_put (fun x => some x.1.path.toString)
    (fun x stored => StoredRow.admit FileMetricsRow (x.1.values x.2) = .ok stored)
    (·.fileMetrics) (·.symbolMetrics) _ scored (fun _ _ => putFileMetrics_ok) files
  have ⟨same₂, files₂, symbol⟩ := foldlM_put (·.symbolId)
    SymbolMetrics.Draft.StoredAs (·.symbolMetrics) (·.fileMetrics) _ b.symbolRows
    (fun d hd => (hasIds d hd).elim fun id hasId => putSymbolMetrics_ok hasId) symbols
  have ⟨same, filesKept⟩ := withoutIds_same ids db
  refine ⟨same.trans ((withoutFiles_same _ _).trans (same₁.trans same₂)), fun f => ?_,
    fun id => ?_⟩
  · have last := findRev?_scored scores f
    rw [files₂, Batch.fileRow?, ← last]
    obtain ⟨x, found, stored, hs, held⟩ | ⟨none, kept⟩ := file f
    · have mem : x ∈ scored := by
        rw [List.findRev?_eq_find?_reverse] at found
        exact List.mem_reverse.mp (List.mem_of_find?_eq_some found)
      have score := ((mem_scored scores x).mp mem).2
      exact .inl ⟨x.1, by rw [found]; rfl, stored, ⟨x.2, score, hs⟩, held⟩
    · refine .inr ⟨by rw [none]; rfl, fun old => ?_⟩
      rw [kept, withoutFiles_file, filesKept]
      simp only [mem_paths]
  · obtain written | ⟨none, kept⟩ := symbol id
    · exact .inl written
    · refine .inr ⟨none, fun old => ?_⟩
      rw [kept, symbols₁, withoutFiles_symbol, withoutIds_symbol, and_assoc]
      simp only [mem_ids, mem_paths]

end Database

namespace Batch

variable {b : Batch} {db db' : Database}

/-- The row that a batch has for a file is one of its rows, and of that file. -/
theorem fileRow?_eq_some {file : String} {row : FileMetrics} (h : b.fileRow? file = some row) :
    row ∈ b.fileRows ∧ row.path.toString = file := by
  rw [fileRow?, List.findRev?_eq_find?_reverse] at h
  exact ⟨List.mem_reverse.mp (List.mem_of_find?_eq_some h), by simpa using List.find?_some h⟩

/-- The row that a batch has for an id is one of its rows, and of that id. -/
theorem symbolRow?_eq_some {id : Int} {d : SymbolMetrics.Draft} (h : b.symbolRow? id = some d) :
    d ∈ b.symbolRows ∧ d.symbolId = some id := by
  rw [symbolRow?, List.findRev?_eq_find?_reverse] at h
  exact ⟨List.mem_reverse.mp (List.mem_of_find?_eq_some h), by simpa using List.find?_some h⟩

private theorem fileRow?_eq_none {file : String} :
    b.fileRow? file = none ↔ ∀ row ∈ b.fileRows, row.path.toString ≠ file := by
  simp [fileRow?, List.findRev?_eq_find?_reverse]

private theorem symbolRow?_eq_none {id : Int} :
    b.symbolRow? id = none ↔ ∀ d ∈ b.symbolRows, d.symbolId ≠ some id := by
  simp [symbolRow?, List.findRev?_eq_find?_reverse]

/-- The last row of a key is one of its rows. -/
theorem Updates.writtenTo (updates : b.Updates db db') : b.WrittenTo db db' := by
  refine ⟨updates.graph, fun f => ?_, fun id => ?_⟩
  · obtain ⟨row, found, stored⟩ | ⟨none, kept⟩ := updates.file f
    · have ⟨mem, own⟩ := fileRow?_eq_some found
      exact .inl ⟨row, mem, own, stored⟩
    · exact .inr ⟨fileRow?_eq_none.mp none, kept⟩
  · obtain ⟨d, found, stored⟩ | ⟨none, kept⟩ := updates.symbol id
    · have ⟨mem, own⟩ := symbolRow?_eq_some found
      exact .inl ⟨d, mem, own, stored⟩
    · exact .inr ⟨symbolRow?_eq_none.mp none, kept⟩

/-- A batch without rows and deletions changes nothing. -/
theorem Updates.of_isEmpty (h : b.isEmpty) (db : Database) : b.Updates db db := by
  simp only [isEmpty, Bool.and_eq_true, List.isEmpty_iff, ExtTreeSet.isEmpty_iff] at h
  have ⟨⟨⟨files, symbols⟩, noFiles⟩, noSymbols⟩ := h
  refine ⟨.refl db, fun f => .inr ⟨fileRow?_eq_none.mpr ?_, ?_⟩,
    fun id => .inr ⟨symbolRow?_eq_none.mpr ?_, ?_⟩⟩
  · simp [files]
  · simp [noFiles]
  · simp [symbols]
  · simp [noFiles, noSymbols]

end Batch

/-- File rows that are keyed as paths are written remain so. -/
theorem Batch.WrittenTo.file_normal {b : Batch} {db db' : Database} (written : b.WrittenTo db db')
    (keys : ∀ file ∈ db.fileMetrics, (Path.ofString file).toString = file) :
    ∀ file ∈ db'.fileMetrics, (Path.ofString file).toString = file := by
  intro file mem
  rcases written.file file with ⟨row, _, own, _⟩ | ⟨_, kept⟩
  · rw [← own, Path.ofString_toString]
  · have ⟨old, held⟩ := Option.isSome_iff_exists.mp (ExtTreeMap.mem_iff_isSome_getElem?.mp mem)
    apply keys
    rw [ExtTreeMap.mem_iff_isSome_getElem?, ((kept old).mp held).1]
    rfl

namespace MetricsStore

open CodeGauge.Action World

variable {w : World ω} {db : Database}

/-! ## Running a batch -/

/-- Running one step after another is running them on the tables. -/
theorem forM_ensures {ε : Type} {f : α → Action ω Unit}
    (step : Database → α → Except ε Database)
    (each : ∀ (a : α) (db : Database) (w : World ω), w.Open db →
      (f a).Ensures w fun _ w' => ∃ db', step db a = .ok db' ∧ w.Onward w' db')
    (as : List α) (h : w.Open db) :
    (as.forM f).Ensures w fun _ w' => ∃ db', as.foldlM step db = .ok db' ∧ w.Onward w' db' := by
  induction as generalizing w db with
  | nil => exact .pure ⟨db, rfl, h, .refl w⟩
  | cons a as ih =>
    refine (each a db w h).bind ?_
    intro _ w₁ ⟨db₁, hs, h₁⟩
    refine (ih h₁.isOpen).mono ?_
    intro _ w' ⟨db', run, h'⟩
    refine ⟨db', ?_, h₁.trans h'⟩
    rw [List.foldlM_cons, hs]
    exact run

/-- The deletion of symbol rows, one after the other. -/
theorem deleteIds_ensures (ids : List Int) (h : w.Open db) :
    (ids.forM fun id => do
      let _ ← update .deleteSymbolMetrics [.int id] fun db =>
        .ok (db.removeSymbolMetrics id) : Action ω Unit).Ensures w fun _ w' =>
      w.Onward w' (db.withoutIds ids) := by
  refine (forM_ensures (ε := Error) (fun db id => pure (db.removeSymbolMetrics id).2) ?_
    ids h).mono ?_
  · intro id db w h
    refine (update_ensures h _ _ _).bind ?_
    intro _ w' ⟨db', hw, h'⟩
    cases hw
    exact .pure ⟨_, rfl, h'⟩
  · intro _ w' ⟨db', run, h'⟩
    rw [List.foldlM_pure] at run
    cases run
    exact h'

/-- The deletion of file rows and the symbol rows filed under them, one file after the other. -/
theorem deletePaths_ensures (paths : List Path) (h : w.Open db) :
    (paths.forM fun path => do
      let file := path.toString
      let _ ← update .deleteSymbolMetricsInFile [.text file] fun db =>
        .ok (db.removeSymbolMetricsInFile file)
      update .deleteFileMetrics [.text file] fun db =>
        .ok ((), db.removeFileMetrics file) : Action ω Unit).Ensures w fun _ w' =>
      w.Onward w' (db.withoutFiles paths) := by
  refine (forM_ensures (ε := Error) (fun db path => pure
    ((db.removeSymbolMetricsInFile path.toString).2.removeFileMetrics path.toString)) ?_
    paths h).mono ?_
  · intro path db w h
    refine (update_ensures h _ _ _).bind ?_
    intro _ w' ⟨db', hw, h'⟩
    cases hw
    refine (update_ensures h'.isOpen _ _ _).mono ?_
    intro _ w'' ⟨db'', hw, h''⟩
    cases hw
    exact ⟨_, rfl, h'.trans h''⟩
  · intro _ w' ⟨db', run, h'⟩
    rw [List.foldlM_pure] at run
    cases run
    exact h'

/-- A statement that is run once for each row. -/
theorem performEach_ensures (statement : Statement) (rows : List α) (values : α → List Value)
    (write : Database → α → Except DatabaseFault (Unit × Database)) (h : w.Open db) :
    (rows.forM fun row => perform statement (values row) (write · row)).Ensures w fun _ w' =>
      ∃ db', rows.foldlM (fun db a => (write db a).map (·.2)) db = .ok db' ∧ w.Onward w' db' := by
  refine forM_ensures (fun db a => (write db a).map (·.2)) ?_ rows h
  intro a db w h
  refine (perform_ensures h statement (values a) (write · a)).mono ?_
  intro _ w' ⟨db', hw, h'⟩
  exact ⟨db', by rw [hw]; rfl, h'⟩

/-- An update for each row makes its changes one after the other. -/
theorem updateEach_ensures (statement : Statement) (rows : List α)
    (values : α → List Value) (write : Database → α → Except DatabaseFault (Unit × Database))
    (h : w.Open db) :
    (updateEach statement rows values write).Ensures w fun _ w' =>
      ∃ db', rows.foldlM (fun db a => (write db a).map (·.2)) db = .ok db' ∧ w.Onward w' db' := by
  refine (prepare_ensures h statement).bind fun _ w₁ h₁ => ?_
  refine (openTransaction_ensures (h₁.open h)).bind fun _ w₂ h₂ => ?_
  refine (performEach_ensures statement rows values write h₂.isOpen).mono ?_
  intro _ w' ⟨db', run, h'⟩
  exact ⟨db', run, ((h₁.onward h).trans h₂).trans h'⟩

/-- The writes of a batch whose symbol rows have ids are what it makes of the tables. -/
theorem writeBatch_ensures {b : Batch} (hasIds : ∀ d ∈ b.symbolRows, ∃ id, d.symbolId = some id)
    (h : w.Open db) :
    (writeBatch b).Ensures w fun _ w' => ∃ db', b.Updates db db' ∧ w.Onward w' db' := by
  refine (deleteIds_ensures b.deletedSymbols.toList h).bind fun _ w₁ h₁ => ?_
  refine (deletePaths_ensures b.deletedFiles.toList h₁.isOpen).bind fun _ w₂ h₂ => ?_
  refine .given fun scored scores => ?_
  refine (updateEach_ensures _ _ _ _ h₂.isOpen).bind ?_
  intro _ w₃ ⟨db₃, files, h₃⟩
  refine (updateEach_ensures _ _ _ _ h₃.isOpen).mono ?_
  intro _ w₄ ⟨db₄, symbols, h₄⟩
  exact ⟨db₄, Database.updates hasIds (fun _ => ExtTreeSet.mem_toList)
    (fun _ => ExtTreeSet.mem_toList) scores files symbols, ((h₁.trans h₂).trans h₃).trans h₄⟩

/-- An applied batch whose symbol rows have ids leaves what it makes of the tables. -/
theorem apply_updates {b : Batch} (hasIds : ∀ d ∈ b.symbolRows, ∃ id, d.symbolId = some id)
    (h : w.Open db) :
    (apply b).Ensures w fun _ w' => ∃ db', b.Updates db db' ∧ w.Onward w' db' := by
  unfold apply
  split
  case isTrue empty => exact .pure ⟨db, .of_isEmpty empty db, h, .refl w⟩
  have ⟨_, isOpen, _⟩ := h
  refine .after (runIn_openRepository isOpen) ?_
  rcases run : (do writeBatch b; commit : Action ω Unit).runIn w with ⟨r, w₁⟩
  refine .after (by rw [runIn_outcome, run]) ?_
  cases r with
  | error e =>
    split
    · cases ‹Except.error e = .ok ()›
    · exact .skip fun _ _ => .throw _
    · exact .throw _
  | ok a =>
    have ⟨_, w₂, written, committed⟩ := runIn_bind_ok.mp run
    have ⟨db', hb, h₂⟩ := writeBatch_ensures hasIds h _ w₂ written
    have ⟨c, hc, ht⟩ := h₂.isOpen
    have ⟨settled, same⟩ := commit_ensures hc ht _ w₁ committed
    exact .pure ⟨db', hb, settled.open, h₂.same.trans same⟩

/-- A batch of rows with ids is written to the tables that an open repository has. -/
theorem apply_ensures {b : Batch} (hasIds : ∀ d ∈ b.symbolRows, ∃ id, d.symbolId = some id)
    (h : w.Open db) :
    (apply b).Ensures w fun _ w' => ∃ db', b.WrittenTo db db' ∧ w.Onward w' db' := by
  refine (apply_updates hasIds h).mono ?_
  intro _ _ ⟨db', updates, onward⟩
  exact ⟨db', updates.writtenTo, onward⟩

end MetricsStore

end CodeGauge
