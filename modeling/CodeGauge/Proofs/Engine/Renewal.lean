import CodeGauge.Affected
import CodeGauge.Proofs.Metrics.Stored

/-!
# Renewing the rows of a set

A batch renews the rows of a set of files and symbols when it writes the reference row of each of
them that has one, keeps the row of a file whose content fails, and deletes the rows of all others
and those filed under one of the files by mistake (`Batch.Renews`). What such a batch makes of the
tables is described key by key (`Database.Renewed`): inside the set the rows are the reference rows,
outside of it they are as they were.
-/

open Std

namespace CodeGauge

/-- The symbol is one of the set's, or lies in one of the set's files. -/
def Database.Covers (db : Database) (A : Affected) (id : Int) : Prop :=
  id ∈ A.symbols ∨ ∃ symbol, db.symbols[id]? = some symbol ∧ ∃ p ∈ A.files, p.toString = symbol.file

/-- The symbol row is filed under a file of which the symbol is none. -/
def Database.Misfiled (db : Database) (id : Int) (file : String) : Prop :=
  (∃ row, db.symbolMetrics[id]? = some row ∧ row.path = file) ∧
    ¬∃ symbol, db.symbols[id]? = some symbol ∧ symbol.file = file

/-- The batch writes and deletes what has to be for the rows of a set to be the reference rows. -/
structure Batch.Renews (b : Batch) (db : Database) (disk : Disk) (root : Path) (A : Affected)
    (now : Int) : Prop where
  file_row : ∀ row ∈ b.fileRows, row.path ∈ A.files ∧ db.symbolCount row.path.toString ≠ 0 ∧
    db.isCurrent disk root row.path.toString ∧ ∀ stored, row.StoredAs stored →
      (db.fileReference disk root row.path.toString).map (·.dated now) = some stored
  file_renewed : ∀ p ∈ A.files, db.symbolCount p.toString ≠ 0 →
    db.isCurrent disk root p.toString → ∃ row ∈ b.fileRows, row.path = p
  file_deleted : ∀ p, p ∈ b.deletedFiles ↔ p ∈ A.files ∧ db.symbolCount p.toString = 0
  symbol_row : ∀ d ∈ b.symbolRows, ∃ id, d.symbolId = some id ∧ db.Covers A id ∧
    ∀ stored, d.StoredAs stored → (db.symbolReference id).map (·.dated now) = some stored
  symbol_renewed : ∀ id, db.Covers A id → (db.symbols[id]?).isSome →
    ∃ d ∈ b.symbolRows, d.symbolId = some id
  symbol_deleted : ∀ id ∈ b.deletedSymbols,
    id ∈ A.symbols ∧ db.symbols[id]? = none ∨ ∃ p ∈ A.files, db.Misfiled id p.toString
  symbol_absent : ∀ id ∈ A.symbols, db.symbols[id]? = none → id ∈ b.deletedSymbols
  symbol_misfiled : ∀ p ∈ A.files, db.symbolCount p.toString ≠ 0 →
    ∀ id, db.Misfiled id p.toString → id ∈ b.deletedSymbols

/-- `after` has the graph of `before`, and its metrics rows are those of `before` except for the
files and symbols of a set, which have been renewed. -/
structure Database.Renewed (before after : Database) (disk : Disk) (root : Path) (A : Affected)
    (now : Int) : Prop where
  graph : before.SameGraph after
  file_fresh : ∀ p ∈ A.files, before.symbolCount p.toString ≠ 0 →
    before.isCurrent disk root p.toString →
    ∃ row, before.fileReference disk root p.toString = some row ∧
      after.fileMetrics[p.toString]? = some (row.dated now)
  file_kept : ∀ p ∈ A.files, before.symbolCount p.toString ≠ 0 →
    ¬before.isCurrent disk root p.toString →
    after.fileMetrics[p.toString]? = before.fileMetrics[p.toString]?
  file_dropped : ∀ p ∈ A.files, before.symbolCount p.toString = 0 →
    after.fileMetrics[p.toString]? = none
  file_other : ∀ f, (∀ p ∈ A.files, p.toString ≠ f) →
    after.fileMetrics[f]? = before.fileMetrics[f]?
  symbol_fresh : ∀ id, before.Covers A id → (before.symbols[id]?).isSome →
    ∃ row, before.symbolReference id = some row ∧
      after.symbolMetrics[id]? = some (row.dated now)
  symbol_dropped : ∀ id ∈ A.symbols, before.symbols[id]? = none → after.symbolMetrics[id]? = none
  symbol_filed : ∀ p ∈ A.files, ∀ id, ¬after.Misfiled id p.toString
  symbol_removed : ∀ id, ¬before.Covers A id → ∀ p ∈ A.files, before.Misfiled id p.toString →
    after.symbolMetrics[id]? = none
  symbol_other : ∀ id, ¬before.Covers A id → (∀ p ∈ A.files, ¬before.Misfiled id p.toString) →
    after.symbolMetrics[id]? = before.symbolMetrics[id]?

variable {db db' : Database} {disk : Disk} {root : Path} {A : Affected} {now : Int} {b : Batch}

/-- There ought to be no row exactly for what is no symbol. -/
theorem Database.symbolReference_eq_none {id : Int} :
    db.symbolReference id = none ↔ db.symbols[id]? = none := by
  rw [symbolReference, Option.map_eq_none_iff]

/-- A symbol of a file is counted. -/
theorem Database.symbolCount_ne_zero {file : String} :
    db.symbolCount file ≠ 0 ↔ ∃ (id : Int) (row : SymbolRow), db.symbols[id]? = some row ∧
      row.file = file := by
  rw [symbolCount, ← Nat.pos_iff_ne_zero, List.countP_pos_iff]
  simp only [Prod.exists, ExtTreeMap.mem_toList_iff_getElem?_eq_some, beq_iff_eq]

/-- The reference row of a symbol is filed under its file. -/
theorem Database.path_of_symbolReference {id : Int} {row : SymbolMetricsRow}
    (h : db.symbolReference id = some row) :
    ∃ symbol, db.symbols[id]? = some symbol ∧ symbol.file = row.path := by
  obtain ⟨symbol, hs, rfl⟩ := Option.map_eq_some_iff.mp h
  exact ⟨symbol, hs, rfl⟩

namespace Batch

variable (renews : b.Renews db disk root A now) (written : b.WrittenTo db db')
include renews written

private theorem Renews.file_fresh {p : Path} (hp : p ∈ A.files)
    (count : db.symbolCount p.toString ≠ 0) (current : db.isCurrent disk root p.toString) :
    ∃ row, db.fileReference disk root p.toString = some row ∧
      db'.fileMetrics[p.toString]? = some (row.dated now) := by
  obtain ⟨row, mem, rfl⟩ := renews.file_renewed p hp count current
  obtain ⟨row', mem', path, stored, hs, held⟩ | ⟨unwritten, -⟩ :=
    written.file row.path.toString
  · obtain ⟨-, -, -, reference⟩ := renews.file_row row' mem'
    have same := reference stored hs
    rw [path] at same
    obtain ⟨fresh, hf, rfl⟩ := Option.map_eq_some_iff.mp same
    exact ⟨fresh, hf, held⟩
  · exact (unwritten row mem rfl).elim

private theorem Renews.file_dropped {p : Path} (hp : p ∈ A.files)
    (none : db.symbolCount p.toString = 0) : db'.fileMetrics[p.toString]? = .none := by
  obtain ⟨row, mem, path, -⟩ | ⟨-, kept⟩ := written.file p.toString
  · have count := (renews.file_row row mem).2.1
    rw [path] at count
    exact (count none).elim
  · rw [Option.eq_none_iff_forall_ne_some]
    intro old held
    exact ((kept old).mp held).2 p ((renews.file_deleted p).mpr ⟨hp, none⟩) rfl

private theorem Renews.file_same {f : String}
    (other : ∀ p ∈ A.files, p.toString = f →
      db.symbolCount f ≠ 0 ∧ ¬db.isCurrent disk root f) :
    db'.fileMetrics[f]? = db.fileMetrics[f]? := by
  obtain ⟨row, mem, path, -⟩ | ⟨-, kept⟩ := written.file f
  · obtain ⟨hp, -, current, -⟩ := renews.file_row row mem
    rw [path] at current
    exact ((other row.path hp path).2 current).elim
  · refine Option.ext fun old => (kept old).trans (and_iff_left fun p deleted path => ?_)
    obtain ⟨hp, none⟩ := (renews.file_deleted p).mp deleted
    rw [path] at none
    exact (other p hp path).1 none

omit written in
private theorem Renews.symbol_written {id : Int} {stored : SymbolMetricsRow}
    (h : ∃ d ∈ b.symbolRows, d.symbolId = some id ∧
      ∃ stored, d.StoredAs stored ∧ db'.symbolMetrics[id]? = some stored)
    (held : db'.symbolMetrics[id]? = some stored) :
    db.Covers A id ∧ ∃ row, db.symbolReference id = some row ∧ stored = row.dated now := by
  have ⟨d, mem, key, stored', hs, held'⟩ := h
  rw [held] at held'
  cases held'
  have ⟨id', key', covered, reference⟩ := renews.symbol_row d mem
  rw [key] at key'
  cases key'
  have ⟨fresh, hf, same⟩ := Option.map_eq_some_iff.mp (reference stored hs)
  exact ⟨covered, fresh, hf, same.symm⟩

omit written in
private theorem Renews.not_kept {p : Path} (hp : p ∈ A.files) {id : Int}
    (misfiled : db.Misfiled id p.toString) {old : SymbolMetricsRow}
    (held : db.symbolMetrics[id]? = some old)
    (kept : id ∉ b.deletedSymbols ∧ ∀ p ∈ b.deletedFiles, p.toString ≠ old.path) : False := by
  have ⟨⟨row, held', path⟩, _⟩ := misfiled
  rw [held] at held'
  cases held'
  by_cases count : db.symbolCount p.toString = 0
  · exact kept.2 p ((renews.file_deleted p).mpr ⟨hp, count⟩) path.symm
  · exact kept.1 (renews.symbol_misfiled p hp count id misfiled)

/-- What a batch that renews the rows of a set makes of the tables. -/
theorem Renews.renewed : db.Renewed db' disk root A now := by
  have symbols : db'.symbols = db.symbols := by
    rw [written.graph]
  refine ⟨written.graph, fun p hp => renews.file_fresh written hp,
    fun p hp count stale => renews.file_same written fun _ _ _ => ⟨count, stale⟩,
    fun p hp => renews.file_dropped written hp,
    fun f other => renews.file_same written fun p hp path => (other p hp path).elim,
    fun id covered present => ?_, fun id hid missing => ?_, fun p hp id misfiled => ?_,
    fun id uncovered p hp misfiled => ?_, fun id uncovered filed => ?_⟩
  · have ⟨d, mem, key⟩ := renews.symbol_renewed id covered present
    obtain h | ⟨unwritten, -⟩ := written.symbol id
    · have ⟨_, _, _, stored, _, held⟩ := h
      obtain ⟨-, fresh, hr, rfl⟩ := renews.symbol_written h held
      exact ⟨fresh, hr, held⟩
    · exact (unwritten d mem key).elim
  · rw [Option.eq_none_iff_forall_ne_some]
    intro old held
    obtain h | ⟨-, kept⟩ := written.symbol id
    · obtain ⟨-, row, hr, -⟩ := renews.symbol_written h held
      rw [Database.symbolReference_eq_none.mpr missing] at hr
      cases hr
    · exact ((kept old).mp held).2.1 (renews.symbol_absent id hid missing)
  · obtain ⟨⟨row, held, path⟩, none⟩ := misfiled
    rw [symbols] at none
    obtain h | ⟨-, kept⟩ := written.symbol id
    · obtain ⟨-, fresh, hr, rfl⟩ := renews.symbol_written h held
      have ⟨symbol, hs, file⟩ := Database.path_of_symbolReference hr
      exact none ⟨symbol, hs, file.trans path⟩
    · have ⟨old, kept⟩ := (kept row).mp held
      exact renews.not_kept hp ⟨⟨row, old, path⟩, none⟩ old kept
  · rw [Option.eq_none_iff_forall_ne_some]
    intro old now_held
    obtain h | ⟨-, kept⟩ := written.symbol id
    · exact uncovered (renews.symbol_written h now_held).1
    · have ⟨held, kept⟩ := (kept old).mp now_held
      exact renews.not_kept hp misfiled held kept
  · obtain h | ⟨-, kept⟩ := written.symbol id
    · have ⟨_, _, _, stored, _, held⟩ := h
      exact (uncovered (renews.symbol_written h held).1).elim
    · refine Option.ext fun old => (kept old).trans (and_iff_left_of_imp fun held => ⟨?_, ?_⟩)
      · intro deleted
        rcases renews.symbol_deleted id deleted with ⟨hid, -⟩ | ⟨p, hp, misfiled⟩
        · exact uncovered (.inl hid)
        · exact filed p hp misfiled
      · intro p deleted path
        obtain ⟨hp, none⟩ := (renews.file_deleted p).mp deleted
        refine filed p hp ⟨⟨old, held, path.symm⟩, ?_⟩
        intro ⟨symbol, hs, file⟩
        exact Database.symbolCount_ne_zero.mpr ⟨id, symbol, hs, file⟩ none

end Batch

end CodeGauge
