import CodeGauge.Proofs.Snapshot.Mirror

/-!
# Rows computed from a mirroring snapshot

When a snapshot mirrors the tables, a covered file and a symbol that was asked for have one of few
outcomes: the reference row, the report that the tables do not have the entity, or, for a file
whose content fails, another report.
-/

open Std

namespace CodeGauge

variable {db : Database} {disk : Disk} {root : Path} {now : Int}

/-- What may become of a file that is asked for. -/
inductive FileOutcome (db : Database) (disk : Disk) (root path : Path) (now : Int) :
    Except Error FileMetrics → Prop where
  | absent {e : Error} (symbols : db.symbolCount path.toString = 0) (report : e.isAbsence = true) :
      FileOutcome db disk root path now (.error e)
  | failed {e : Error} (symbols : db.symbolCount path.toString ≠ 0)
      (stale : ¬db.isCurrent disk root path.toString) (report : e.isAbsence = false) :
      FileOutcome db disk root path now (.error e)
  | measured {row : FileMetrics} (symbols : db.symbolCount path.toString ≠ 0)
      (current : db.isCurrent disk root path.toString) (own : row.path = path)
      (reference : ∀ stored, row.StoredAs stored →
        (db.fileReference disk root path.toString).map (·.dated now) = some stored) :
      FileOutcome db disk root path now (.ok row)

/-- What may become of a symbol that is asked for. -/
inductive SymbolOutcome (db : Database) (id : Int) (now : Int) :
    Except Error SymbolMetrics → Prop where
  | absent {e : Error} (missing : db.symbols[id]? = none) (report : e.isAbsence = true) :
      SymbolOutcome db id now (.error e)
  | measured {row : SymbolMetrics} (present : (db.symbols[id]?).isSome) (own : row.symbolId = id)
      (reference : ∀ stored, row.draft.StoredAs stored →
        (db.symbolReference id).map (·.dated now) = some stored) :
      SymbolOutcome db id now (.ok row)

/-- A result that is tolerated is the result, and an error among these is a reported one. -/
theorem tolerateReported_eq_ok {α : Type} {x r : Except Error α}
    (h : tolerateReported x = .ok r) : r = x ∧ ∀ e, x = .error e → e.isReported = true := by
  cases x with
  | ok a =>
    cases h
    exact ⟨rfl, nofun⟩
  | error e =>
    rw [tolerateReported] at h
    split at h
    · next reported =>
      cases h
      exact ⟨rfl, fun _ same => by cases same; exact reported⟩
    · cases h

/-- A report is let through. -/
theorem tolerateReported_error {α : Type} {e : Error} (reported : e.isReported = true) :
    tolerateReported (.error e : Except Error α) = .ok (.error e) :=
  if_pos reported

/-- The content that was read is that of the disk. -/
theorem contentOf?_of_readContent {path : Path} {content : Option ByteArray}
    {readError : Option String} (h : readContent disk (some root) path = .ok (content, readError)) :
    Database.contentOf? disk root path.toString = content ∧
      (content.isSome → readError = none) := by
  rw [Database.contentOf?, Path.ofString_toString]
  simp only [readContent, diskPath, Option.elim_some] at h
  cases hr : disk.read (root / path) with
  | ok c =>
    rw [hr] at h
    cases h
    exact ⟨rfl, fun _ => rfl⟩
  | error e =>
    rw [hr] at h
    split at h
    · next same => cases same
    · cases h
      exact ⟨rfl, nofun⟩
    · cases h

/-- What the check of a content fails with is a report. -/
theorem Snapshot.isReported_of_checkedContent {g : Snapshot} {path : Path} {file : CoveredFile}
    {e : Error} (failed : g.checkedContent path file = .error e) : e.isReported = true := by
  rw [checkedContent] at failed
  split at failed
  · split at failed
    · cases failed
      rfl
    · cases failed
      rfl
  · split at failed
    · cases failed
    · cases failed
      rfl

/-- The row of a covered file whose symbols are known. -/
theorem Snapshot.fileMetrics_of_covered (g : Snapshot) {path : Path} {file : CoveredFile}
    (hf : g.files[path]? = some file) {symbols : List Symbol}
    (hs : g.symbolsInFile path = .ok symbols) (now : Int) :
    g.fileMetrics path now =
      if symbols.isEmpty then .error (.fileWithoutSymbols path)
      else do
        let content ← g.checkedContent path file
        let estimated ← estimateLines (.int content.size)
        return {
          path
          symbolCount := .int symbols.length
          loc := .int (countLines content)
          estimatedLoc := .real estimated
          fanIn := .int (g.fileFanIn path symbols)
          fanOut := .int (g.fileFanOut path symbols)
          lastUpdated := .int now } := by
  rw [fileMetrics, hf]
  dsimp only
  rw [hs]
  rfl

/-- The row of a complete symbol. -/
theorem Snapshot.symbolMetrics_of_complete (g : Snapshot) {id : Int} {s : Symbol}
    (hs : g.symbol? id = some s) (complete : id ∈ g.complete) (now : Int) :
    g.symbolMetrics id now = do
      let lines ← s.lineCount
      let bytes ← s.byteCount
      let estimated ← estimateLines bytes
      return {
        symbolId := s.id
        name := s.name
        kind := Vocabulary.text s.kind
        path := s.file
        loc := lines
        estimatedLoc := .real estimated
        fanIn := .int ((g.incoming id).countP fun e => g.isOther id e.caller)
        fanOut := .int ((g.outgoing id).countP fun e => g.isOther id e.callee)
        lastUpdated := .int now
        cyclomatic := .int placeholderComplexity
        source := .placeholder } := by
  have whole : g.isComplete id = true := ExtTreeSet.contains_iff_mem.mpr complete
  rw [symbolMetrics, hs]
  dsimp only
  rw [if_pos whole]

namespace Snapshot.Mirrors

variable {g : Snapshot}

/-- A content passes the check exactly when it can be read and is the recorded one. -/
theorem checkedContent_cases (h : g.Mirrors db disk root) {path : Path} {file : CoveredFile}
    (hf : g.files[path]? = some file) (some_symbol : file.symbols ≠ []) :
    (∃ content, g.checkedContent path file = .ok content ∧
      Database.contentOf? disk root path.toString = some content ∧
      db.isCurrent disk root path.toString) ∨
    ∃ e, g.checkedContent path file = .error e ∧ e.isAbsence = false ∧
      ¬db.isCurrent disk root path.toString := by
  obtain ⟨-, -, -, read, hash⟩ := h.files path file hf
  obtain ⟨content, -⟩ := contentOf?_of_readContent (read some_symbol)
  rw [checkedContent]
  cases hc : file.content with
  | none =>
    rw [hc] at content
    have stale : ¬db.isCurrent disk root path.toString := by
      rintro ⟨c, readable, -⟩
      rw [content] at readable
      cases readable
    dsimp only
    split
    · exact .inr ⟨_, rfl, rfl, stale⟩
    · exact .inr ⟨_, rfl, rfl, stale⟩
  | some c =>
    rw [hc] at content
    dsimp only
    split
    · next same =>
      refine .inl ⟨c, rfl, content, c, content, fun record hr => ?_⟩
      rw [hash, hr, Option.map_some, Option.all_some, beq_iff_eq] at same
      exact same
    · next differs =>
      refine .inr ⟨_, rfl, rfl, ?_⟩
      intro ⟨c', readable, same⟩
      rw [content] at readable
      cases readable
      apply differs
      rw [hash]
      cases hr : db.files[path.toString]? with
      | none => rfl
      | some record => simp [same record hr]

/-- What becomes of a covered file. -/
theorem fileOutcome (h : g.Mirrors db disk root) (normal : db.Normal) {path : Path}
    {file : CoveredFile} (hf : g.files[path]? = some file) {r : Except Error FileMetrics}
    (hr : tolerateReported (g.fileMetrics path now) = .ok r) :
    FileOutcome db disk root path now r := by
  obtain ⟨rfl, reported⟩ := tolerateReported_eq_ok hr
  have ⟨symbols, hs⟩ := h.exists_symbolsInFile hf
  have value := g.fileMetrics_of_covered hf hs now
  have length : symbols.length = db.symbolCount path.toString := by
    rw [← h.length_symbols hf, ← h.symbolsInFile_ids hf hs, List.length_map]
  by_cases empty : symbols.isEmpty
  · rw [if_pos empty] at value
    rw [value]
    rw [List.isEmpty_iff.mp empty] at length
    exact .absent length.symm rfl
  rw [if_neg empty] at value
  have count : db.symbolCount path.toString ≠ 0 := by
    rw [← length]
    simpa using empty
  have symbols_ne : file.symbols ≠ [] := by
    rw [← h.length_symbols hf] at count
    exact fun none => count (by rw [none]; rfl)
  obtain ⟨content, checked, readable, current⟩ | ⟨e, checked, report, stale⟩ :=
    h.checkedContent_cases hf symbols_ne
  · rw [checked, Except.ok_bind] at value
    cases he : estimateLines (.int content.size) with
    | error e =>
      have unreported := reported e (by rw [value, he]; rfl)
      rw [Unreported.estimateLines _ e he] at unreported
      cases unreported
    | ok estimated =>
      rw [he, Except.ok_bind] at value
      rw [value]
      refine .measured count current rfl fun stored held => ?_
      rw [held.eq_dated he, Database.fileReference, if_neg count, readable, length,
        h.fileFanIn_eq normal hf hs, h.fileFanOut_eq normal hf hs]
      rfl
  · rw [checked] at value
    rw [value]
    exact .failed count stale report

/-- What becomes of a symbol that is complete if the tables have it. -/
theorem symbolOutcome (h : g.Mirrors db disk root) (normal : db.Normal) {id : Int}
    (whole : (db.symbols[id]?).isSome → id ∈ g.complete) {r : Except Error SymbolMetrics}
    (hr : tolerateReported (g.symbolMetrics id now) = .ok r) : SymbolOutcome db id now r := by
  obtain ⟨rfl, reported⟩ := tolerateReported_eq_ok hr
  cases hrow : db.symbols[id]? with
  | none =>
    have value : g.symbolMetrics id now = .error (.noSymbol id) := by
      cases hs : g.symbol? id with
      | none => rw [symbolMetrics, hs]
      | some s =>
        obtain ⟨row, hr, -⟩ := h.known id s hs
        rw [hrow] at hr
        cases hr
    rw [value]
    exact .absent hrow rfl
  | some row =>
    have complete : id ∈ g.complete := whole (by rw [hrow]; rfl)
    have ⟨s, hs⟩ := Option.isSome_iff_exists.mp (h.complete id complete)
    have ⟨row', hr, described⟩ := h.known id s hs
    rw [hrow] at hr
    cases hr
    have value := g.symbolMetrics_of_complete hs complete now
    cases hl : s.lineCount with
    | error e =>
      have unreported := reported e (by rw [value, hl]; rfl)
      rw [Unreported.lineCount _ e hl] at unreported
      cases unreported
    | ok lines =>
    rw [hl, Except.ok_bind] at value
    cases hb : s.byteCount with
    | error e =>
      have unreported := reported e (by rw [value, hb]; rfl)
      rw [Unreported.byteCount _ e hb] at unreported
      cases unreported
    | ok bytes =>
    rw [hb, Except.ok_bind] at value
    cases he : estimateLines bytes with
    | error e =>
      have unreported := reported e (by rw [value, he]; rfl)
      rw [Unreported.estimateLines _ e he] at unreported
      cases unreported
    | ok estimated =>
    rw [he, Except.ok_bind] at value
    rw [value]
    obtain ⟨own, file, name, kind, line, endLine, byteStart, byteEnd⟩ :=
      SymbolRow.symbol_eq_ok described
    refine .measured (by rw [hrow]; rfl) own fun stored held => ?_
    rw [SymbolMetrics.StoredAs.eq_dated hl hb he held, Database.symbolReference, hrow,
      h.countP_incoming normal complete, h.countP_outgoing normal complete, name, kind, file,
      normal id row hrow, line, endLine, byteStart, byteEnd]
    rfl

end Snapshot.Mirrors

end CodeGauge
