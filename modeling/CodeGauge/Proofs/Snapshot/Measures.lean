import CodeGauge.Engine.Recompute
import CodeGauge.Proofs.Snapshot.Loading
import CodeGauge.Proofs.Snapshot.Rows

/-!
# What an aggregate says of the tables

An aggregate of files and symbols that were asked for says of each what the tables demand: its
reference row, that it is absent, or that its content fails (`Aggregate.Measures`).
-/

open Std

namespace CodeGauge

variable {db : Database} {disk : Disk} {root : Path} {now : Int}

/-- The aggregate says of the files and symbols that were asked for what the tables demand. -/
structure Aggregate.Measures (a : Aggregate) (db : Database) (disk : Disk) (root : Path)
    (files : Path → Prop) (symbols : Int → Prop) (now : Int) : Prop where
  file_row : ∀ row ∈ a.files, files row.path ∧ db.symbolCount row.path.toString ≠ 0 ∧
    db.isCurrent disk root row.path.toString ∧ ∀ stored, row.StoredAs stored →
      (db.fileReference disk root row.path.toString).map (·.dated now) = some stored
  file_measured : ∀ path, files path → db.symbolCount path.toString ≠ 0 →
    db.isCurrent disk root path.toString → ∃ row ∈ a.files, row.path = path
  file_absent : ∀ path, path ∈ absentFiles a ↔ files path ∧ db.symbolCount path.toString = 0
  symbol_row : ∀ row ∈ a.symbols, symbols row.symbolId ∧ (db.symbols[row.symbolId]?).isSome ∧
    ∀ stored, row.draft.StoredAs stored →
      (db.symbolReference row.symbolId).map (·.dated now) = some stored
  symbol_measured : ∀ id, symbols id → (db.symbols[id]?).isSome →
    ∃ row ∈ a.symbols, row.symbolId = id
  symbol_absent : ∀ id, id ∈ absentSymbols a ↔ symbols id ∧ db.symbols[id]? = none
  kept : keptRows a = [] → ∀ path, files path → db.symbolCount path.toString ≠ 0 →
    db.isCurrent disk root path.toString

/-! ## Rows and failures among results -/

section Results

variable {κ α : Type}

/-- The rows among results are those that some key has. -/
theorem mem_rowsOf {results : List (κ × Except Error α)} {row : α} :
    row ∈ rowsOf results ↔ ∃ key, (key, .ok row) ∈ results := by
  rw [rowsOf, List.mem_filterMap]
  constructor
  · intro ⟨⟨key, r⟩, mem, h⟩
    cases r with
    | error e => cases h
    | ok a =>
      cases h
      exact ⟨key, mem⟩
  · intro ⟨key, mem⟩
    exact ⟨(key, .ok row), mem, rfl⟩

private theorem mem_absent {failures : List (κ × Error)} {key : κ} :
    key ∈ (failures.filterMap fun x => if x.2.isAbsence then some x.1 else none) ↔
      ∃ e, (key, e) ∈ failures ∧ e.isAbsence = true := by
  rw [List.mem_filterMap]
  constructor
  · intro ⟨⟨k, e⟩, mem, h⟩
    dsimp only at h
    split at h
    · next absence =>
      cases h
      exact ⟨e, mem, absence⟩
    · cases h
  · intro ⟨e, mem, absence⟩
    exact ⟨(key, e), mem, if_pos absence⟩

/-- The results are of the keys that were asked for, at least one for each, and say of each what may
become of it. -/
structure Answers (asked : κ → Prop) (outcome : κ → Except Error α → Prop)
    (results : List (κ × Except Error α)) : Prop where
  outcomes : ∀ key r, (key, r) ∈ results → asked key ∧ outcome key r
  complete : ∀ key, asked key → ∃ r, (key, r) ∈ results

/-- Keys that were asked for may be described otherwise, and what may become of them weakened. -/
theorem Answers.imp {asked asked' : κ → Prop} {outcome outcome' : κ → Except Error α → Prop}
    {results : List (κ × Except Error α)} (h : Answers asked outcome results)
    (same : ∀ key, asked key ↔ asked' key)
    (weaker : ∀ key r, asked key → outcome key r → outcome' key r) :
    Answers asked' outcome' results := by
  constructor
  · intro key r mem
    have ⟨known, made⟩ := h.outcomes key r mem
    exact ⟨(same key).mp known, weaker key r known made⟩
  · intro key known
    exact h.complete key ((same key).mpr known)

/-- A row among the answers was computed for something that was asked for. -/
theorem Answers.of_row {asked : κ → Prop} {outcome : κ → Except Error α → Prop}
    {results : List (κ × Except Error α)} (h : Answers asked outcome results) {row : α}
    (mem : row ∈ rowsOf results) : ∃ key, asked key ∧ outcome key (.ok row) := by
  have ⟨key, mem⟩ := mem_rowsOf.mp mem
  exact ⟨key, h.outcomes key _ mem⟩

variable [BEq κ]

/-- The step that adds a failure whose key is new. -/
def addFailure (failures : List (κ × Error)) (result : κ × Except Error α) :
    List (κ × Error) :=
  match result.2 with
  | .ok _ => failures
  | .error e =>
    if failures.any (·.1 == result.1) then failures else failures ++ [(result.1, e)]

private theorem mem_addFailure {failures : List (κ × Error)} {result : κ × Except Error α}
    {x : κ × Error} (h : x ∈ addFailure failures result) :
    x ∈ failures ∨ result = (x.1, .error x.2) := by
  rcases result with ⟨key, r⟩
  cases r with
  | ok a => exact .inl h
  | error e =>
    rw [addFailure] at h
    dsimp only at h
    split at h
    · exact .inl h
    · rcases List.mem_append.mp h with old | new
      · exact .inl old
      · rw [List.mem_singleton] at new
        subst new
        exact .inr rfl

private theorem keys_addFailure [LawfulBEq κ] (failures : List (κ × Error)) (key : κ)
    (r : Except Error α) :
    (∀ k ∈ failures.map (·.1), k ∈ (addFailure failures (key, r)).map (·.1)) ∧
      ∀ e, r = .error e → key ∈ (addFailure failures (key, r)).map (·.1) := by
  rw [addFailure]
  dsimp only
  split
  · exact ⟨fun _ h => h, nofun⟩
  · split
    · next known =>
      have ⟨x, mem, same⟩ := List.any_eq_true.mp known
      exact ⟨fun _ h => h, fun _ _ => List.mem_map.mpr ⟨x, mem, eq_of_beq same⟩⟩
    · rw [List.map_append]
      exact ⟨fun _ h => List.mem_append_left _ h, fun _ _ => List.mem_append_right _ (by simp)⟩

/-- Failures are collected one by one. -/
theorem failuresOf_eq (results : List (κ × Except Error α)) :
    failuresOf results = results.foldl addFailure [] := rfl

/-- A failure that is told is among the results. -/
theorem mem_of_mem_failuresOf {results : List (κ × Except Error α)} {key : κ} {e : Error}
    (h : (key, e) ∈ failuresOf results) : (key, .error e) ∈ results := by
  have general (results : List (κ × Except Error α)) (failures : List (κ × Error))
      (h : (key, e) ∈ results.foldl addFailure failures) :
      (key, e) ∈ failures ∨ (key, .error e) ∈ results := by
    induction results generalizing failures with
    | nil => exact .inl h
    | cons result results ih =>
      rcases ih _ h with old | later
      · rcases mem_addFailure old with old | rfl
        · exact .inl old
        · exact .inr List.mem_cons_self
      · exact .inr (List.mem_cons_of_mem _ later)
  rw [failuresOf_eq] at h
  exact (general results [] h).resolve_left List.not_mem_nil

/-- A key with a failing result has a failure that is told. -/
theorem exists_mem_failuresOf [LawfulBEq κ] {results : List (κ × Except Error α)} {key : κ}
    {e : Error} (h : (key, .error e) ∈ results) : ∃ e', (key, e') ∈ failuresOf results := by
  have general (results : List (κ × Except Error α)) (failures : List (κ × Error))
      (h : key ∈ failures.map (·.1) ∨ (key, .error e) ∈ results) :
      key ∈ (results.foldl addFailure failures).map (·.1) := by
    induction results generalizing failures with
    | nil => exact h.resolve_right List.not_mem_nil
    | cons result results ih =>
      have ⟨old, new⟩ := keys_addFailure failures result.1 result.2
      apply ih _
      rcases h with h | h
      · exact .inl (old key h)
      · rcases List.mem_cons.mp h with same | h
        · refine .inl ?_
          rw [← same] at new ⊢
          exact new e rfl
        · exact .inr h
  obtain ⟨⟨k, e'⟩, mem, rfl⟩ := List.mem_map.mp (general results [] (.inr h))
  exact ⟨e', mem⟩

namespace Answers

variable {asked : κ → Prop} {outcome : κ → Except Error α → Prop}
  {results : List (κ × Except Error α)} (h : Answers asked outcome results) {key : κ}
include h

/-- A failure among the answers is that of something that was asked for. -/
theorem of_failure {e : Error} (mem : (key, e) ∈ failuresOf results) :
    asked key ∧ outcome key (.error e) :=
  h.outcomes key _ (mem_of_mem_failuresOf mem)

/-- A key that was asked for has a row or a failure. -/
theorem row_or_failure [LawfulBEq κ] (known : asked key) :
    (∃ row ∈ rowsOf results, outcome key (.ok row)) ∨
      ∃ e, (key, e) ∈ failuresOf results ∧ outcome key (.error e) := by
  have ⟨r, mem⟩ := h.complete key known
  cases r with
  | ok row => exact .inl ⟨row, mem_rowsOf.mpr ⟨key, mem⟩, (h.outcomes key _ mem).2⟩
  | error e =>
    have ⟨e', failed⟩ := exists_mem_failuresOf mem
    exact .inr ⟨e', failed, (h.of_failure failed).2⟩

end Answers

end Results

/-- A file is absent if its failure says so. -/
theorem mem_absentFiles {a : Aggregate} {path : Path} :
    path ∈ absentFiles a ↔ ∃ e, (path, e) ∈ a.fileFailures ∧ e.isAbsence = true :=
  mem_absent

/-- A symbol is absent if its failure says so. -/
theorem mem_absentSymbols {a : Aggregate} {id : Int} :
    id ∈ absentSymbols a ↔ ∃ e, (id, e) ∈ a.symbolFailures ∧ e.isAbsence = true :=
  mem_absent

/-- Without a message, every file that failed is absent. -/
theorem isAbsence_of_keptRows {a : Aggregate} (h : keptRows a = []) {path : Path} {e : Error}
    (mem : (path, e) ∈ a.fileFailures) : e.isAbsence = true := by
  obtain ⟨files, -⟩ := List.append_eq_nil_iff.mp h
  have no := List.filterMap_eq_nil_iff.mp files (path, e) mem
  dsimp only at no
  split at no
  · next absence => exact absence
  · cases no

/-! ## The aggregate of a mirroring snapshot -/

section Outcomes

variable {files : Path → Prop} {symbols : Int → Prop}
  {fileResults : List (Path × Except Error FileMetrics)}
  {symbolResults : List (Int × Except Error SymbolMetrics)}

private theorem fileAbsent_iff (h : Answers files (FileOutcome db disk root · now) fileResults)
    {path : Path} :
    (∃ e, (path, e) ∈ failuresOf fileResults ∧ e.isAbsence = true) ↔
      files path ∧ db.symbolCount path.toString = 0 := by
  constructor
  · intro ⟨e, mem, absence⟩
    have ⟨asked, outcome⟩ := h.of_failure mem
    cases outcome with
    | absent none => exact ⟨asked, none⟩
    | failed _ _ report =>
      rw [absence] at report
      cases report
  · rintro ⟨asked, none⟩
    rcases h.row_or_failure asked with ⟨row, _, outcome⟩ | ⟨e, mem, outcome⟩
    · cases outcome with
      | measured count => exact (count none).elim
    · cases outcome with
      | absent _ absence => exact ⟨e, mem, absence⟩
      | failed count => exact (count none).elim

private theorem fileRow_or_report (h : Answers files (FileOutcome db disk root · now) fileResults)
    {path : Path} (asked : files path) (count : db.symbolCount path.toString ≠ 0) :
    (db.isCurrent disk root path.toString ∧ ∃ row ∈ rowsOf fileResults, row.path = path) ∨
      ¬ db.isCurrent disk root path.toString ∧
        ∃ e, (path, e) ∈ failuresOf fileResults ∧ e.isAbsence = false := by
  rcases h.row_or_failure asked with ⟨row, mem, outcome⟩ | ⟨e, mem, outcome⟩
  · cases outcome with
    | measured _ current own => exact .inl ⟨current, row, mem, own⟩
  · cases outcome with
    | absent none => exact (count none).elim
    | failed _ stale report => exact .inr ⟨stale, e, mem, report⟩

private theorem symbolAbsent_iff (h : Answers symbols (SymbolOutcome db · now) symbolResults)
    {id : Int} :
    (∃ e, (id, e) ∈ failuresOf symbolResults ∧ e.isAbsence = true) ↔
      symbols id ∧ db.symbols[id]? = none := by
  constructor
  · intro ⟨e, mem, _⟩
    have ⟨asked, outcome⟩ := h.of_failure mem
    cases outcome with
    | absent missing => exact ⟨asked, missing⟩
  · intro ⟨asked, missing⟩
    rcases h.row_or_failure asked with ⟨row, _, outcome⟩ | ⟨e, mem, outcome⟩
    · cases outcome with
      | measured present =>
        rw [missing] at present
        cases present
    · cases outcome with
      | absent _ absence => exact ⟨e, mem, absence⟩

private theorem exists_symbolRow (h : Answers symbols (SymbolOutcome db · now) symbolResults)
    {id : Int} (asked : symbols id) (present : (db.symbols[id]?).isSome) :
    ∃ row ∈ rowsOf symbolResults, row.symbolId = id := by
  rcases h.row_or_failure asked with ⟨row, mem, outcome⟩ | ⟨e, _, outcome⟩
  · cases outcome with
    | measured _ own => exact ⟨row, mem, own⟩
  · cases outcome with
    | absent missing =>
      rw [missing] at present
      cases present

/-- Results of which each is what may become of its key say of the keys what the tables demand. -/
theorem measures_of_answers (hf : Answers files (FileOutcome db disk root · now) fileResults)
    (hs : Answers symbols (SymbolOutcome db · now) symbolResults) (snapshot : Nat) :
    Aggregate.Measures {
      snapshot
      files := rowsOf fileResults
      symbols := rowsOf symbolResults
      fileFailures := failuresOf fileResults
      symbolFailures := failuresOf symbolResults } db disk root files symbols now where
  file_row := by
    intro row mem
    have ⟨path, asked, outcome⟩ := hf.of_row mem
    cases outcome with
    | measured count current own reference =>
      subst own
      exact ⟨asked, count, current, reference⟩
  file_measured := by
    intro path asked count current
    rcases fileRow_or_report hf asked count with ⟨_, row⟩ | ⟨stale, _⟩
    · exact row
    · exact (stale current).elim
  file_absent path := mem_absentFiles.trans (fileAbsent_iff hf)
  symbol_row := by
    intro row mem
    have ⟨id, asked, outcome⟩ := hs.of_row mem
    cases outcome with
    | measured present own reference =>
      subst own
      exact ⟨asked, present, reference⟩
  symbol_measured := by
    intro id asked present
    exact exists_symbolRow hs asked present
  symbol_absent id := mem_absentSymbols.trans (symbolAbsent_iff hs)
  kept := by
    intro kept path asked count
    rcases fileRow_or_report hf asked count with ⟨current, _⟩ | ⟨_, e, mem, report⟩
    · exact current
    · rw [isAbsence_of_keptRows kept mem] at report
      cases report

end Outcomes

namespace Snapshot

variable {g : Snapshot} {files : List Path} {symbols : List Int} {measured : List MeasuredFile}

/-- The symbol is registered for one of the files. -/
def Lists (g : Snapshot) (files : List Path) (id : Int) : Prop :=
  ∃ path ∈ files, ∃ own, g.symbolsInFile path = .ok own ∧ id ∈ own.map (·.id)

private theorem measuredFile (hm : g.measureFiles files now = .ok measured) {m : MeasuredFile}
    (mem : m ∈ measured) :
    m.path ∈ files ∧ tolerateReported (g.fileMetrics m.path now) = .ok m.row ∧
      ∃ own, g.symbolsInFile m.path = .ok own ∧ m.symbols = own.map (·.id) := by
  have ⟨path, asked, made⟩ := (mem_of_mapM_eq_ok hm m).mp mem
  have ⟨own, hs, made⟩ := Except.bind_eq_ok.mp made
  have ⟨row, hr, made⟩ := Except.bind_eq_ok.mp made
  cases made
  exact ⟨mem_sortedBy.mp asked, hr, own, hs, rfl⟩

private theorem exists_measuredFile (hm : g.measureFiles files now = .ok measured) {path : Path}
    (asked : path ∈ files) : ∃ m ∈ measured, m.path = path := by
  have ⟨m, mem, made⟩ := exists_of_mapM_eq_ok hm (mem_sortedBy.mpr asked)
  have ⟨own, _, made⟩ := Except.bind_eq_ok.mp made
  have ⟨row, _, made⟩ := Except.bind_eq_ok.mp made
  cases made
  exact ⟨_, mem, rfl⟩

/-- A measured file has symbols that are found. -/
theorem exists_symbolsInFile_of_measureFiles (hm : g.measureFiles files now = .ok measured)
    {path : Path} (asked : path ∈ files) : ∃ own, g.symbolsInFile path = .ok own := by
  have ⟨m, mem, same⟩ := exists_measuredFile hm asked
  subst same
  have ⟨_, _, own, hs, _⟩ := measuredFile hm mem
  exact ⟨own, hs⟩

/-- What becomes of a measured file is a row or a report. -/
theorem exists_tolerated_of_measureFiles (hm : g.measureFiles files now = .ok measured)
    {path : Path} (asked : path ∈ files) :
    ∃ r, tolerateReported (g.fileMetrics path now) = .ok r := by
  have ⟨m, mem, same⟩ := exists_measuredFile hm asked
  subst same
  exact ⟨m.row, (measuredFile hm mem).2.1⟩

/-- Files are measured in path order, each by the row that the snapshot has of it alone. -/
theorem map_of_measureFiles (hm : g.measureFiles files now = .ok measured) :
    (measured.map fun m => (m.path, m.row)) =
      (inPathOrder files).map fun path => (path, g.fileMetrics path now) := by
  refine map_eq_of_mapM_eq_ok hm fun path _ m made => ?_
  obtain ⟨own, _, made⟩ := Except.bind_eq_ok.mp made
  obtain ⟨row, hrow, made⟩ := Except.bind_eq_ok.mp made
  cases made
  rw [(tolerateReported_eq_ok hrow).1]

/-- The symbols that are measured are those that were asked for and those of the measured files. -/
theorem mem_measuredSymbols (hm : g.measureFiles files now = .ok measured) {id : Int} :
    id ∈ ExtTreeSet.ofList (symbols ++ measured.flatMap (·.symbols)) ↔
      id ∈ symbols ∨ g.Lists files id := by
  rw [ExtTreeSet.mem_ofList, List.contains_iff_mem, List.mem_append, List.mem_flatMap]
  apply or_congr_right
  constructor
  · intro ⟨m, mem, hid⟩
    have ⟨asked, _, own, hs, ids⟩ := measuredFile hm mem
    rw [ids] at hid
    exact ⟨m.path, asked, own, hs, hid⟩
  · intro ⟨path, asked, own, hs, hid⟩
    have ⟨m, mem, same⟩ := exists_measuredFile hm asked
    subst same
    have ⟨_, _, own', hs', ids⟩ := measuredFile hm mem
    rw [hs] at hs'
    cases hs'
    rw [← ids] at hid
    exact ⟨m, mem, hid⟩

/-- An aggregate consists of what becomes of the files, of their symbols, and of the further
symbols that were asked for. -/
theorem aggregateFrom_answers (hm : g.measureFiles files now = .ok measured) {a : Aggregate}
    (ha : g.aggregateFrom measured symbols now = .ok a) :
    ∃ fileResults symbolResults,
      Answers (· ∈ files) (fun path r => tolerateReported (g.fileMetrics path now) = .ok r)
        fileResults ∧
      Answers (fun id => id ∈ symbols ∨ g.Lists files id)
        (fun id r => tolerateReported (g.symbolMetrics id now) = .ok r) symbolResults ∧
      a = {
        snapshot := g.id
        files := rowsOf fileResults
        symbols := rowsOf symbolResults
        fileFailures := failuresOf fileResults
        symbolFailures := failuresOf symbolResults } := by
  have ⟨results, hr, made⟩ := Except.bind_eq_ok.mp ha
  cases made
  refine ⟨_, results, ⟨?_, ?_⟩, ⟨?_, ?_⟩, rfl⟩
  · intro path r mem
    have ⟨m, hmem, same⟩ := List.mem_map.mp mem
    cases same
    have ⟨asked, hrow, _⟩ := measuredFile hm hmem
    exact ⟨asked, hrow⟩
  · intro path asked
    have ⟨m, mem, own⟩ := exists_measuredFile hm asked
    subst own
    exact ⟨m.row, List.mem_map.mpr ⟨m, mem, rfl⟩⟩
  · intro id r mem
    have ⟨id', mem', made⟩ := (mem_of_mapM_eq_ok hr (id, r)).mp mem
    have ⟨row, hrow, made⟩ := Except.bind_eq_ok.mp made
    cases made
    exact ⟨(mem_measuredSymbols hm).mp (ExtTreeSet.mem_toList.mp mem'), hrow⟩
  · intro id asked
    have ⟨x, mem, made⟩ := exists_of_mapM_eq_ok hr
      (ExtTreeSet.mem_toList.mpr ((mem_measuredSymbols hm).mpr asked))
    have ⟨row, _, made⟩ := Except.bind_eq_ok.mp made
    cases made
    exact ⟨row, mem⟩

/-- Files are measured where their symbols are found and only reports come in place of rows. -/
theorem exists_measureFiles (known : ∀ path ∈ files, (∃ own, g.symbolsInFile path = .ok own) ∧
    ∃ r, tolerateReported (g.fileMetrics path now) = .ok r) :
    ∃ measured, g.measureFiles files now = .ok measured := by
  apply exists_mapM_eq_ok
  intro path mem
  obtain ⟨⟨own, hs⟩, r, hr⟩ := known path (mem_sortedBy.mp mem)
  exact ⟨⟨own.map (·.id), path, r⟩, by rw [measureFile, hs, Except.ok_bind, hr]; rfl⟩

/-- An aggregate is made where only reports come in place of the rows of symbols. -/
theorem exists_aggregateFrom (hm : g.measureFiles files now = .ok measured)
    (known : ∀ id, id ∈ symbols ∨ g.Lists files id →
      ∃ r, tolerateReported (g.symbolMetrics id now) = .ok r) :
    ∃ a, g.aggregateFrom measured symbols now = .ok a := by
  refine Except.exists_bind_eq_ok (exists_mapM_eq_ok fun id mem => ?_) fun results _ => ⟨_, rfl⟩
  obtain ⟨r, hr⟩ := known id ((mem_measuredSymbols hm).mp (ExtTreeSet.mem_toList.mp mem))
  exact ⟨(id, r), by rw [hr]; rfl⟩

/-- The symbols that a mirroring snapshot registers for covered files are those that the tables have
there. -/
theorem Mirrors.lists_iff (h : g.Mirrors db disk root)
    (covered : ∀ path ∈ files, path ∈ g.files) {id : Int} :
    g.Lists files id ↔
      ∃ row, db.symbols[id]? = some row ∧ ∃ path ∈ files, path.toString = row.file := by
  have known (path : Path) (asked : path ∈ files) : ∃ file, g.files[path]? = some file :=
    Option.isSome_iff_exists.mp (ExtTreeMap.mem_iff_isSome_getElem?.mp (covered path asked))
  constructor
  · intro ⟨path, asked, own, hs, hid⟩
    have ⟨file, hf⟩ := known path asked
    rw [h.symbolsInFile_ids hf hs] at hid
    have ⟨row, hrow, hfile⟩ := ((h.files path file hf).symbols id).mp hid
    exact ⟨row, hrow, path, asked, hfile.symm⟩
  · intro ⟨row, hrow, path, asked, hfile⟩
    have ⟨file, hf⟩ := known path asked
    have ⟨own, hs⟩ := h.exists_symbolsInFile hf
    refine ⟨path, asked, own, hs, ?_⟩
    rw [h.symbolsInFile_ids hf hs]
    exact ((h.files path file hf).symbols id).mpr ⟨row, hrow, hfile.symm⟩

/-- What a mirroring snapshot gives for covered files, their symbols and further symbols, which are
complete if they are stored, is what the tables demand. -/
theorem Mirrors.measures (h : g.Mirrors db disk root) (normal : db.Normal)
    (covered : ∀ path ∈ files, path ∈ g.files)
    (whole : ∀ id ∈ symbols, (db.symbols[id]?).isSome → id ∈ g.complete)
    (hm : g.measureFiles files now = .ok measured) {a : Aggregate}
    (ha : g.aggregateFrom measured symbols now = .ok a) :
    a.Measures db disk root (· ∈ files) (fun id => id ∈ symbols ∨
      ∃ row, db.symbols[id]? = some row ∧ ∃ path ∈ files, path.toString = row.file) now := by
  obtain ⟨fileResults, symbolResults, fileAnswers, symbolAnswers, rfl⟩ :=
    aggregateFrom_answers hm ha
  refine measures_of_answers (fileAnswers.imp (fun _ => .rfl) fun path r asked made => ?_)
    (symbolAnswers.imp (fun id => or_congr_right (h.lists_iff covered))
      fun id r asked made => ?_) g.id
  · have ⟨file, hf⟩ := Option.isSome_iff_exists.mp
      (ExtTreeMap.mem_iff_isSome_getElem?.mp (covered path asked))
    exact h.fileOutcome normal hf made
  · refine h.symbolOutcome normal (fun present => ?_) made
    rcases asked with further | ⟨path, inFiles, own, hs, hid⟩
    · exact whole id further present
    · have ⟨file, hf⟩ := Option.isSome_iff_exists.mp
        (ExtTreeMap.mem_iff_isSome_getElem?.mp (covered path inFiles))
      rw [h.symbolsInFile_ids hf hs] at hid
      exact (h.files path file hf).complete id hid

end Snapshot

end CodeGauge
