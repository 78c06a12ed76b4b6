import CodeGauge.Proofs.Snapshot.Measures

/-!
# What an aggregate says of its snapshot

Whatever a well-formed snapshot shows, its aggregate says of each file and symbol that was asked for
what has become of it: the row that the snapshot gives, that the snapshot does not have it, or why
it keeps its row (`Aggregate.Settles`). The aggregate is inconsistent exactly when the snapshot has
of one of the files a content that is not the recorded one.
-/

open Std

namespace CodeGauge

variable {g : Snapshot} {files : List Path} {symbols : List Int} {now : Int}

/-- The snapshot has a content of the file that is not the recorded one. -/
def Snapshot.Mismatches (g : Snapshot) (path : Path) : Prop :=
  ∃ file content hash, g.files[path]? = some file ∧ file.content = some content ∧
    file.recordedHash = some hash ∧ hash ≠ Digest.contentHash content

/-- The aggregate has a row of the snapshot, a report or nothing to say but absence for each file
and symbol that was asked for. -/
structure Aggregate.Settles (a : Aggregate) (g : Snapshot) (files : List Path)
    (symbols : List Int) (now : Int) : Prop where
  file_row : ∀ row ∈ a.files, g.fileMetrics row.path now = .ok row
  symbol_row : ∀ row ∈ a.symbols, g.symbolMetrics row.symbolId now = .ok row
  file : ∀ path ∈ files, (∃ row ∈ a.files, row.path = path) ∨ path ∈ absentFiles a ∨
    ∃ message, (path.toString, message) ∈ keptRows a
  symbol : ∀ id ∈ symbols, (∃ row ∈ a.symbols, row.symbolId = id) ∨ id ∈ absentSymbols a ∨
    ∃ message, (toString id, message) ∈ keptRows a
  inconsistent : a.isInconsistent = true ↔ ∃ path ∈ files, g.Mismatches path

private theorem Error.isReported_of_isInconsistency {e : Error} (h : e.isInconsistency = true) :
    e.isReported = true := by
  cases e with
  | contentChanged path snapshot => rfl
  | _ => cases h

namespace Snapshot

/-! ## Rows and errors of one file -/

/-- The row of a file is filed under it. -/
theorem path_of_fileMetrics {path : Path} {row : FileMetrics}
    (h : g.fileMetrics path now = .ok row) : row.path = path := by
  rw [fileMetrics] at h
  split at h
  · cases h
  · obtain ⟨own, _, h⟩ := Except.bind_eq_ok.mp h
    split at h
    · cases h
    · obtain ⟨content, _, h⟩ := Except.bind_eq_ok.mp h
      obtain ⟨estimated, _, h⟩ := Except.bind_eq_ok.mp h
      cases h
      rfl

private theorem unreported_symbolsInFile (path : Path) : Unreported (g.symbolsInFile path) := by
  rw [symbolsInFile]
  refine .mapM fun id => ?_
  split
  · exact .ok _
  · intro e same
    cases same
    rfl

/-- A content fails the check as changed only if it is not the recorded one. -/
theorem mismatches_of_checkedContent {path : Path} {file : CoveredFile} {e : Error}
    (hf : g.files[path]? = some file) (h : g.checkedContent path file = .error e)
    (inconsistency : e.isInconsistency = true) : g.Mismatches path := by
  rw [checkedContent] at h
  split at h
  · split at h
    · cases h
      cases inconsistency
    · cases h
      cases inconsistency
  · next content hc =>
    split at h
    · cases h
    · next differs =>
      cases hh : file.recordedHash with
      | none =>
        rw [hh] at differs
        exact (differs rfl).elim
      | some hash =>
        rw [hh, Option.all_some, beq_iff_eq] at differs
        exact ⟨file, content, hash, hf, hc, hh, differs⟩

/-- A file fails as changed only if its content is not the recorded one. -/
theorem mismatches_of_fileMetrics {path : Path} {e : Error}
    (h : g.fileMetrics path now = .error e) (inconsistency : e.isInconsistency = true) :
    g.Mismatches path := by
  have reported := Error.isReported_of_isInconsistency inconsistency
  rw [fileMetrics] at h
  split at h
  · cases h
    cases reported
  next file hf =>
  rcases Except.bind_eq_error.mp h with failed | ⟨own, _, h⟩
  · rw [unreported_symbolsInFile path e failed] at reported
    cases reported
  split at h
  · cases h
    cases inconsistency
  rcases Except.bind_eq_error.mp h with failed | ⟨content, _, h⟩
  · exact mismatches_of_checkedContent hf failed inconsistency
  rcases Except.bind_eq_error.mp h with failed | ⟨estimated, _, h⟩
  · rw [Unreported.estimateLines _ e failed] at reported
    cases reported
  · cases h

/-- A file whose content is not the recorded one fails as changed. -/
theorem WellFormed.fileMetrics_of_mismatches (h : g.WellFormed) {path : Path}
    (mismatches : g.Mismatches path) {own : List Symbol} (hs : g.symbolsInFile path = .ok own) :
    g.fileMetrics path now = .error (.contentChanged path g.id) := by
  have ⟨file, content, hash, hf, hc, hh, differs⟩ := mismatches
  have some_symbol : own.isEmpty = false := by
    have length : own.length = file.symbols.length := by
      rw [symbolsInFile, hf] at hs
      exact length_of_mapM_eq_ok hs
    have listed := h.read path file hf (by rw [hc]; rfl)
    rw [List.isEmpty_eq_false_iff, ← List.length_pos_iff, length, List.length_pos_iff]
    exact listed
  have checked : g.checkedContent path file = .error (.contentChanged path g.id) := by
    rw [checkedContent, hc, hh]
    dsimp only
    rw [Option.all_some, if_neg]
    exact fun same => differs (eq_of_beq same)
  rw [g.fileMetrics_of_covered hf hs, some_symbol, if_neg Bool.false_ne_true, checked]
  rfl

/-! ## Rows and errors of one symbol -/

/-- The row of a symbol is under its id, if symbols are. -/
theorem id_of_symbolMetrics (keyed : ∀ id s, g.symbol? id = some s → s.id = id) {id : Int}
    {row : SymbolMetrics} (made : g.symbolMetrics id now = .ok row) : row.symbolId = id := by
  rw [symbolMetrics] at made
  split at made
  · cases made
  next s hs =>
  split at made
  · obtain ⟨lines, _, made⟩ := Except.bind_eq_ok.mp made
    obtain ⟨bytes, _, made⟩ := Except.bind_eq_ok.mp made
    obtain ⟨estimated, _, made⟩ := Except.bind_eq_ok.mp made
    cases made
    exact keyed id s hs
  · cases made

private theorem WellFormed.id_of_symbolMetrics (h : g.WellFormed) {id : Int} {row : SymbolMetrics}
    (made : g.symbolMetrics id now = .ok row) : row.symbolId = id :=
  Snapshot.id_of_symbolMetrics h.keyed made

/-- A symbol that fails with a report is absent. -/
theorem isAbsence_of_symbolMetrics {id : Int} {e : Error}
    (failed : g.symbolMetrics id now = .error e) (reported : e.isReported = true) :
    e.isAbsence = true := by
  rw [symbolMetrics] at failed
  split at failed
  · cases failed
    rfl
  split at failed
  · rcases Except.bind_eq_error.mp failed with failed | ⟨lines, _, failed⟩
    · rw [Unreported.lineCount _ e failed] at reported
      cases reported
    rcases Except.bind_eq_error.mp failed with failed | ⟨bytes, _, failed⟩
    · rw [Unreported.byteCount _ e failed] at reported
      cases reported
    rcases Except.bind_eq_error.mp failed with failed | ⟨estimated, _, failed⟩
    · rw [Unreported.estimateLines _ e failed] at reported
      cases reported
    · cases failed
  · cases failed
    cases reported

/-- A symbol never fails as changed. -/
theorem isInconsistency_of_symbolMetrics {id : Int} {e : Error}
    (failed : g.symbolMetrics id now = .error e) : e.isInconsistency = false := by
  rw [Bool.eq_false_iff]
  intro inconsistency
  have reported := Error.isReported_of_isInconsistency inconsistency
  have absence := isAbsence_of_symbolMetrics failed reported
  cases e with
  | contentChanged path snapshot => cases absence
  | _ => cases inconsistency

/-! ## Aggregates -/

/-- A failure that is no absence is reported. -/
theorem mem_keptRows_of_file {a : Aggregate} {path : Path} {e : Error}
    (mem : (path, e) ∈ a.fileFailures) (report : e.isAbsence = false) :
    (path.toString, e.message) ∈ keptRows a := by
  refine List.mem_append_left _ (List.mem_filterMap.mpr ⟨(path, e), mem, ?_⟩)
  dsimp only
  rw [report, if_neg Bool.false_ne_true]

private theorem mem_keptRows_of_symbol {a : Aggregate} {id : Int} {e : Error}
    (mem : (id, e) ∈ a.symbolFailures) (report : e.isAbsence = false) :
    (toString id, e.message) ∈ keptRows a := by
  refine List.mem_append_right _ (List.mem_filterMap.mpr ⟨(id, e), mem, ?_⟩)
  dsimp only
  rw [report, if_neg Bool.false_ne_true]

/-- What the aggregate of a well-formed snapshot says of the files and symbols asked for. -/
theorem WellFormed.settles (h : g.WellFormed) {a : Aggregate}
    (ha : g.aggregate files symbols now = .ok a) : a.Settles g files symbols now := by
  have ⟨measured, hm, ha⟩ := Except.bind_eq_ok.mp ha
  obtain ⟨fileResults, symbolResults, fileAnswers, symbolAnswers, rfl⟩ :=
    aggregateFrom_answers hm ha
  refine ⟨fun row mem => ?_, fun row mem => ?_, fun path asked => ?_, fun id asked => ?_, ?_⟩
  · have ⟨path, _, made⟩ := fileAnswers.of_row mem
    have value := (tolerateReported_eq_ok made).1.symm
    rw [path_of_fileMetrics value]
    exact value
  · have ⟨id, _, made⟩ := symbolAnswers.of_row mem
    have value := (tolerateReported_eq_ok made).1.symm
    rw [h.id_of_symbolMetrics value]
    exact value
  · rcases fileAnswers.row_or_failure asked with ⟨row, mem, made⟩ | ⟨e, mem, _⟩
    · exact .inl ⟨row, mem, path_of_fileMetrics (tolerateReported_eq_ok made).1.symm⟩
    · cases absence : e.isAbsence with
      | true => exact .inr (.inl (mem_absentFiles.mpr ⟨e, mem, absence⟩))
      | false => exact .inr (.inr ⟨e.message, mem_keptRows_of_file mem absence⟩)
  · rcases symbolAnswers.row_or_failure (.inl asked) with ⟨row, mem, made⟩ | ⟨e, mem, _⟩
    · exact .inl ⟨row, mem, h.id_of_symbolMetrics (tolerateReported_eq_ok made).1.symm⟩
    · cases absence : e.isAbsence with
      | true => exact .inr (.inl (mem_absentSymbols.mpr ⟨e, mem, absence⟩))
      | false => exact .inr (.inr ⟨e.message, mem_keptRows_of_symbol mem absence⟩)
  · rw [Aggregate.isInconsistent, Bool.or_eq_true, List.any_eq_true, List.any_eq_true]
    constructor
    · rintro (⟨⟨path, e⟩, mem, inconsistency⟩ | ⟨⟨id, e⟩, mem, inconsistency⟩)
      · have ⟨asked, made⟩ := fileAnswers.of_failure mem
        have failed := (tolerateReported_eq_ok made).1.symm
        exact ⟨path, asked, mismatches_of_fileMetrics failed inconsistency⟩
      · have ⟨_, made⟩ := symbolAnswers.of_failure mem
        have failed := (tolerateReported_eq_ok made).1.symm
        rw [isInconsistency_of_symbolMetrics failed] at inconsistency
        cases inconsistency
    · intro ⟨path, asked, mismatches⟩
      have ⟨own, hs⟩ := exists_symbolsInFile_of_measureFiles hm asked
      have failed : g.fileMetrics path now = .error (.contentChanged path g.id) :=
        h.fileMetrics_of_mismatches mismatches hs
      rcases fileAnswers.row_or_failure asked with ⟨row, _, made⟩ | ⟨e, mem, made⟩
      · rw [failed] at made
        cases (tolerateReported_eq_ok made).1
      · rw [failed] at made
        cases (tolerateReported_eq_ok made).1
        exact .inl ⟨_, mem, rfl⟩

end Snapshot

end CodeGauge
