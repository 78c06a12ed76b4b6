import CodeGauge.Proofs.Store.Batch
import CodeGauge.Proofs.Store.Serving

/-!
# Batches that are accepted

A repository that is ready accepts a batch exactly when the batch can be stored: the scores of its
file rows can be computed, and no column refuses a value or cannot hold it (`apply_returns_iff`).
-/

open Std

namespace CodeGauge

variable {ω α : Type}

/-- The row can be stored: its score can be computed, and the columns take its values. -/
def FileMetrics.Storable (row : FileMetrics) : Prop :=
  ∃ score, row.score = .ok score ∧
    (∃ stored, StoredRow.admit FileMetricsRow (row.values score) = .ok stored) ∧
    ∀ v ∈ row.values score, Action.fits v = true

/-- The row can be stored: the columns take its values. -/
def SymbolMetrics.Draft.Storable (d : SymbolMetrics.Draft) : Prop :=
  (∃ stored, d.StoredAs stored) ∧ ∀ v ∈ Value.ofInt? d.symbolId :: d.values, Action.fits v = true

/-- The batch can be stored, whatever the tables hold. -/
structure Batch.Storable (b : Batch) : Prop where
  deletedSymbols : ∀ id ∈ b.deletedSymbols, inColumn id = true
  fileRows : ∀ row ∈ b.fileRows, row.Storable
  symbolRows : ∀ d ∈ b.symbolRows, d.Storable

namespace MetricsStore

open CodeGauge.Action World

variable {w : World ω} {db : Database} {b : Batch}

/-! ## What can be stored is -/

/-- A text is no number that a column cannot hold. -/
theorem fits_text (s : String) : ∀ v ∈ [Value.text s], fits v = true := by
  intro v mem
  rw [List.mem_singleton.mp mem]
  rfl

private theorem updateEach_succeeds {statement : Statement} {rows : List α}
    {values : α → List Value}
    {write : Database → α → Except DatabaseFault (Unit × Database)}
    (ordinary : statement.Ordinary)
    (accepted : ∀ row ∈ rows, (∀ v ∈ values row, fits v = true) ∧
      ∀ db, ∃ db', write db row = .ok ((), db') ∧ db'.dropped = db.dropped)
    (h : ∃ db, w.Ready db) :
    (updateEach statement rows values write).Succeeds w fun _ w' => ∃ db', w'.Ready db' := by
  obtain ⟨db, ready⟩ := h
  have there := ready.missing statement
  refine (prepare_succeeds ready.isOpen there (ordinary.few _) ordinary.known).bind
    fun _ w₁ alike => ?_
  refine (openTransaction_succeeds (alike.ready ready)).bind fun _ w₂ ready₂ => ?_
  apply Succeeds.forM (I := fun w => ∃ db, w.Ready db) _ ⟨db, ready₂⟩
  rintro row mem w₃ ⟨db₃, ready₃⟩
  obtain ⟨fit, written⟩ := accepted row mem
  obtain ⟨db', hw, kept⟩ := written db₃
  exact (perform_succeeds ready₃ fit hw kept).mono fun _ _ ready' => ⟨db', ready'⟩

/-- The deletion of symbol rows whose ids a column can hold. -/
theorem deleteIds_succeeds {ids : List Int} (fit : ∀ id ∈ ids, inColumn id = true)
    (h : ∃ db, w.Ready db) :
    (ids.forM fun id => do
      let _ ← update .deleteSymbolMetrics [.int id] fun db =>
        .ok (db.removeSymbolMetrics id) : Action ω Unit).Succeeds w fun _ w' =>
      ∃ db', w'.Ready db' := by
  apply Succeeds.forM (I := fun w => ∃ db, w.Ready db) _ h
  rintro id mem w ⟨db, ready⟩
  have fits : ∀ v ∈ [Value.int id], fits v = true := by
    intro v own
    rw [List.mem_singleton.mp own]
    exact fit id mem
  have written : Except.ok (db.removeSymbolMetrics id) =
      (.ok (db.removeSymbolMetrics id) : Except DatabaseFault (Nat × Database)) := rfl
  refine (update_succeeds ready ⟨rfl, rfl⟩ fits written rfl).bind ?_
  intro _ _ done
  exact .pure ⟨_, done⟩

/-- The deletion of file rows and the symbol rows filed under them. -/
theorem deletePaths_succeeds (paths : List Path) (h : ∃ db, w.Ready db) :
    (paths.forM fun path => do
      let file := path.toString
      let _ ← update .deleteSymbolMetricsInFile [.text file] fun db =>
        .ok (db.removeSymbolMetricsInFile file)
      update .deleteFileMetrics [.text file] fun db =>
        .ok ((), db.removeFileMetrics file) : Action ω Unit).Succeeds w fun _ w' =>
      ∃ db', w'.Ready db' := by
  apply Succeeds.forM (I := fun w => ∃ db, w.Ready db) _ h
  rintro path _ w ⟨db, ready⟩
  have written : Except.ok (db.removeSymbolMetricsInFile path.toString) =
      (.ok (db.removeSymbolMetricsInFile path.toString) :
        Except DatabaseFault (Nat × Database)) := rfl
  refine (update_succeeds ready ⟨rfl, rfl⟩ (fits_text _) written rfl).bind ?_
  intro _ w' ready'
  generalize (db.removeSymbolMetricsInFile path.toString).2 = next at ready'
  refine (update_succeeds ready' ⟨rfl, rfl⟩ (fits_text _) rfl rfl).mono ?_
  intro _ _ done
  exact ⟨_, done⟩

private theorem writeBatch_succeeds (h : w.Ready db) (storable : b.Storable) :
    (writeBatch b).Succeeds w fun _ w' => ∃ db', w'.Ready db' := by
  have fit : ∀ id ∈ b.deletedSymbols.toList, inColumn id = true := fun id mem =>
    storable.deletedSymbols id (ExtTreeSet.mem_toList.mp mem)
  refine (deleteIds_succeeds fit ⟨db, h⟩).bind fun _ w₁ ready₁ => ?_
  refine (deletePaths_succeeds b.deletedFiles.toList ready₁).bind fun _ w₂ ready₂ => ?_
  obtain ⟨scored, scores⟩ : ∃ scored,
      (b.fileRows.mapM fun row => do return (row, ← row.score)) = .ok scored := by
    refine exists_mapM_eq_ok fun row mem => ?_
    obtain ⟨score, made, _⟩ := storable.fileRows row mem
    exact ⟨(row, score), by rw [made]; rfl⟩
  refine .given scores ?_
  refine (updateEach_succeeds ⟨rfl, rfl⟩ ?_ ready₂).bind fun _ w₃ ready₃ => ?_
  · rintro ⟨row, score⟩ mem
    obtain ⟨own, made⟩ := (Database.mem_scored scores (row, score)).mp mem
    obtain ⟨score', made', ⟨stored, admitted⟩, fit⟩ := storable.fileRows row own
    dsimp only at made
    rw [made] at made'
    cases made'
    refine ⟨List.forall_mem_cons.mpr ⟨rfl, fit⟩, fun db => ?_⟩
    refine ⟨{ db with fileMetrics := db.fileMetrics.insert row.path.toString stored }, ?_, rfl⟩
    exact Except.bind_eq_ok.mpr ⟨stored, admitted, rfl⟩
  · apply updateEach_succeeds ⟨rfl, rfl⟩ _ ready₃
    intro d mem
    obtain ⟨⟨stored, admitted⟩, fit⟩ := storable.symbolRows d mem
    exact ⟨fit, fun db => ⟨_, Except.bind_eq_ok.mpr ⟨stored, admitted, rfl⟩, rfl⟩⟩

/-- A batch that columns hold is written where the repository is ready. -/
theorem apply_succeeds (h : w.Ready db) (storable : b.Storable) :
    (apply b).Succeeds w fun _ w' => ∃ db', w'.Ready db' := by
  unfold apply
  split
  · exact .pure ⟨db, h⟩
  obtain ⟨c, hc, _⟩ := h.isOpen
  refine .after (runIn_openRepository hc) ?_
  obtain ⟨_, w₁, run, ready⟩ :
      (do writeBatch b; commit : Action ω Unit).Succeeds w fun _ w' => ∃ db', w'.Ready db' := by
    refine (writeBatch_succeeds h storable).bind ?_
    rintro _ w₁ ⟨db', ready⟩
    exact (commit_succeeds ready).mono fun _ _ ready => ⟨db', ready⟩
  refine .after (by rw [runIn_outcome, run]) ?_
  exact .pure ready

/-! ## What is stored could be -/

private theorem updateEach_accepts (w : World ω) (statement : Statement) (rows : List α)
    (values : α → List Value) (write : Database → α → Except DatabaseFault (Unit × Database)) :
    (updateEach statement rows values write).Ensures w fun _ _ => ∀ row ∈ rows,
      (∀ v ∈ values row, fits v = true) ∧ ∃ before done, write before row = .ok done :=
  .skip fun _ _ => .skip fun _ _ =>
    .forM fun row _ w => perform_accepts w statement (values row) (write · row)

private theorem writeBatch_accepts (w : World ω) (b : Batch) :
    (writeBatch b).Ensures w fun _ _ => b.Storable := by
  refine .bind (Ensures.forM (P := fun id => inColumn id = true) fun id _ w => ?_)
    fun _ w₁ ids => ?_
  · refine (update_accepts w _ _ _).bind fun _ _ accepted => .pure ?_
    exact accepted.1 _ (List.mem_singleton.mpr rfl)
  refine .skip fun _ w₂ => ?_
  refine .given fun scored scores => ?_
  refine (updateEach_accepts w₂ _ _ _ _).bind fun _ w₃ files => ?_
  refine (updateEach_accepts w₃ _ _ _ _).mono fun _ _ symbols => ?_
  refine ⟨fun id mem => ids id (ExtTreeSet.mem_toList.mpr mem), fun row mem => ?_,
    fun d mem => ?_⟩
  · obtain ⟨x, own, made⟩ := exists_of_mapM_eq_ok scores mem
    obtain ⟨score, hs, same⟩ := Except.bind_eq_ok.mp made
    cases same
    obtain ⟨fit, before, done, written⟩ := files (row, score) own
    obtain ⟨stored, admitted, _⟩ := Except.bind_eq_ok.mp written
    exact ⟨score, hs, ⟨stored, admitted⟩, (List.forall_mem_cons.mp fit).2⟩
  · obtain ⟨fit, before, done, written⟩ := symbols d mem
    obtain ⟨stored, admitted, _⟩ := Except.bind_eq_ok.mp written
    exact ⟨⟨stored, admitted⟩, fit⟩

/-- Only a batch that columns hold is written. -/
theorem apply_accepts (w : World ω) (b : Batch) : (apply b).Ensures w fun _ _ => b.Storable := by
  unfold apply
  split
  next empty =>
    refine .pure ?_
    simp only [Batch.isEmpty, Bool.and_eq_true, List.isEmpty_iff, ExtTreeSet.isEmpty_iff] at empty
    obtain ⟨⟨⟨files, symbols⟩, _⟩, ids⟩ := empty
    refine ⟨?_, ?_, ?_⟩
    · rw [ids]
      exact fun _ mem => (ExtTreeSet.not_mem_empty mem).elim
    · simp [files]
    · simp [symbols]
  refine .skip fun _ w₁ => ?_
  rcases run : (do writeBatch b; commit : Action ω Unit).runIn w₁ with ⟨r, w₂⟩
  refine .after (by rw [runIn_outcome, run]) ?_
  cases r with
  | ok _ =>
    obtain ⟨_, _, wrote, _⟩ := runIn_bind_ok.mp run
    exact .pure (writeBatch_accepts w₁ b _ _ wrote)
  | error e =>
    split
    · cases ‹Except.error e = .ok _›
    · exact .skip fun _ _ => .throw _
    · exact .throw _

/-- A repository that is ready accepts a batch exactly when it can be stored. -/
theorem apply_returns_iff (h : w.Ready db) :
    (∃ w', (apply b).runIn w = (.ok (), w')) ↔ b.Storable := by
  constructor
  · rintro ⟨w', run⟩
    exact apply_accepts w b () w' run
  · intro storable
    obtain ⟨_, w', run, _⟩ := apply_succeeds h storable
    exact ⟨w', run⟩

end MetricsStore

end CodeGauge
