import CodeGauge.Proofs.Engine.Restriction
import CodeGauge.Proofs.Metrics.Measurable
import Mathlib.Algebra.GroupWithZero.Nat

/-!
# Conservation of edges

Every edge that is counted leaves one symbol and enters another. So in a snapshot of the whole graph
the edges into the symbols are as many as the edges out of them, and both are the stored edges that
join two different symbols. The same is so of files and of the edges that join symbols of two
different files.
-/

open Std

namespace CodeGauge

variable {ω : Type} {db : Database} {disk : Disk}

/-- The sum of values, from left to right. -/
def Value.sum (values : List Value) : Except Error Value :=
  values.foldlM Value.plus (.int 0)

/-- An integer that a column can hold. -/
def Value.IsInteger (v : Value) : Prop :=
  ∃ n, v = .int n ∧ inColumn n = true

/-- The span is made of integers; only where the symbol begins must be known. -/
structure SymbolRow.Integral (row : SymbolRow) : Prop where
  line : row.line.IsInteger
  endLine : row.endLine = .null ∨ row.endLine.IsInteger
  byteStart : row.byteStart = .null ∨ row.byteStart.IsInteger
  byteEnd : row.byteEnd = .null ∨ row.byteEnd.IsInteger

namespace Database

/-- The edge joins two different stored symbols. -/
def joinsSymbols (db : Database) (e : EdgeRow) : Bool :=
  e.caller.id? != e.callee.id? && (db.fileOf? e.caller).isSome && (db.fileOf? e.callee).isSome

/-- The edge joins stored symbols of two different files. -/
def joinsFiles (db : Database) (e : EdgeRow) : Bool :=
  db.fileOf? e.caller != db.fileOf? e.callee && (db.fileOf? e.caller).isSome &&
    (db.fileOf? e.callee).isSome

/-! ## Counting twice -/

/-- Edges that are counted under one of several keys are counted once. -/
theorem sum_edgeCount {κ : Type} [BEq κ] [LawfulBEq κ] {keys : List κ}
    (nodup : keys.Nodup) (key? : EdgeRow → Option κ) (p : EdgeRow → Bool)
    {counted : κ → EdgeRow → Bool} (filed : ∀ k e, counted k e = (p e && key? e == some k)) :
    (keys.map fun k => db.edgeCount (counted k)).sum =
      db.edgeCount fun e => p e && (key? e).any keys.contains := by
  have each (k : κ) : db.edgeCount (counted k) =
      (db.edges.toList.filter fun x => key? x.2 == some k).countP fun x => p x.2 := by
    rw [List.countP_filter, edgeCount]
    simp only [filed]
  simp only [each]
  have once := countP_flatMap_filter nodup (fun x : Int × EdgeRow => key? x.2) (fun x => p x.2)
    db.edges.toList
  rw [List.countP_flatMap] at once
  exact once

section Symbols

variable {ids : List Int} (nodup : ids.Nodup)
include nodup

/-- The edges into some symbols are the edges from other stored symbols that end at one of them. -/
theorem sum_entersSymbol_among :
    (ids.map fun id => db.edgeCount (db.entersSymbol id)).sum = db.edgeCount fun e =>
      e.caller.id? != e.callee.id? && (db.fileOf? e.caller).isSome &&
        (e.callee.id?).any ids.contains := by
  refine sum_edgeCount nodup (fun e => e.callee.id?)
    (fun e => e.caller.id? != e.callee.id? && (db.fileOf? e.caller).isSome) fun id e => ?_
  rw [entersSymbol, Bool.eq_iff_iff]
  simp only [Bool.and_eq_true, beq_iff_eq, bne_iff_ne]
  grind

/-- The edges out of some symbols are the edges to other stored symbols that begin at one of
them. -/
theorem sum_leavesSymbol_among :
    (ids.map fun id => db.edgeCount (db.leavesSymbol id)).sum = db.edgeCount fun e =>
      e.caller.id? != e.callee.id? && (db.fileOf? e.callee).isSome &&
        (e.caller.id?).any ids.contains := by
  refine sum_edgeCount nodup (fun e => e.caller.id?)
    (fun e => e.caller.id? != e.callee.id? && (db.fileOf? e.callee).isSome) fun id e => ?_
  rw [leavesSymbol, Bool.eq_iff_iff]
  simp only [Bool.and_eq_true, beq_iff_eq, bne_iff_ne]
  grind

variable (all : ∀ id, id ∈ ids ↔ (db.symbols[id]?).isSome)
include all

omit nodup in
private theorem any_contains_ids (v : Value) :
    (v.id?).any ids.contains = (db.fileOf? v).isSome := by
  rw [Bool.eq_iff_iff, isSome_fileOf?_iff, Option.any_eq_true]
  simp only [List.contains_iff_mem, all, Option.isSome_iff_exists, exists_and_left]

/-- The edges into all symbols are the edges that join two of them. -/
theorem sum_entersSymbol :
    (ids.map fun id => db.edgeCount (db.entersSymbol id)).sum = db.edgeCount db.joinsSymbols := by
  rw [sum_entersSymbol_among nodup]
  simp only [any_contains_ids all]
  rfl

/-- The edges out of all symbols are the edges that join two of them. -/
theorem sum_leavesSymbol :
    (ids.map fun id => db.edgeCount (db.leavesSymbol id)).sum = db.edgeCount db.joinsSymbols := by
  rw [sum_leavesSymbol_among nodup]
  simp only [any_contains_ids all]
  refine congrArg db.edgeCount (funext fun e => ?_)
  rw [joinsSymbols, Bool.and_right_comm]

end Symbols

section Files

variable {files : List String}
  (all : ∀ (id : Int) (row : SymbolRow), db.symbols[id]? = some row → row.file ∈ files)
include all

private theorem any_contains_files (v : Value) :
    (db.fileOf? v).any files.contains = (db.fileOf? v).isSome := by
  rw [Bool.eq_iff_iff, Option.any_eq_true, Option.isSome_iff_exists]
  refine ⟨fun ⟨file, held, _⟩ => ⟨file, held⟩, fun ⟨file, held⟩ => ⟨file, held, ?_⟩⟩
  obtain ⟨id, row, _, stored, rfl⟩ := fileOf?_eq_some_iff.mp held
  exact List.contains_iff_mem.mpr (all id row stored)

variable (nodup : files.Nodup)
include nodup

/-- The edges into all files are the edges that join two of them. -/
theorem sum_entersFile :
    (files.map fun file => db.edgeCount (db.entersFile file)).sum =
      db.edgeCount db.joinsFiles := by
  rw [sum_edgeCount nodup (fun e => db.fileOf? e.callee)
    fun e => db.fileOf? e.caller != db.fileOf? e.callee && (db.fileOf? e.caller).isSome]
  · simp only [any_contains_files all]
    rfl
  · intro file e
    rw [entersFile, Bool.eq_iff_iff]
    simp only [Bool.and_eq_true, beq_iff_eq, bne_iff_ne, Option.any_eq_true,
      Option.isSome_iff_exists]
    grind

/-- The edges out of all files are the edges that join two of them. -/
theorem sum_leavesFile :
    (files.map fun file => db.edgeCount (db.leavesFile file)).sum =
      db.edgeCount db.joinsFiles := by
  rw [sum_edgeCount nodup (fun e => db.fileOf? e.caller)
    fun e => db.fileOf? e.caller != db.fileOf? e.callee && (db.fileOf? e.callee).isSome]
  · simp only [any_contains_files all]
    refine congrArg db.edgeCount (funext fun e => ?_)
    rw [joinsFiles, Bool.and_right_comm]
  · intro file e
    rw [leavesFile, Bool.eq_iff_iff]
    simp only [Bool.and_eq_true, beq_iff_eq, bne_iff_ne, Option.any_eq_true,
      Option.isSome_iff_exists]
    grind

end Files

end Database

/-! ## Spans of integers -/

/-- Integers have a number of lines. -/
theorem SymbolRow.Integral.exists_lineCount {row : SymbolRow} (integral : row.Integral) {s : Symbol}
    (line : s.line = row.line) (endLine : s.endLine = row.endLine) :
    ∃ lines, s.lineCount = .ok lines := by
  obtain ⟨first, hf, _⟩ := integral.line
  rw [Symbol.lineCount, line, endLine, hf]
  rcases integral.endLine with unknown | ⟨last, hl, _⟩
  · rw [unknown]
    exact ⟨_, rfl⟩
  · have ordered : (Value.int last).orderOfLike (.int first) = .ok (compare last first) := rfl
    rw [hl, ordered, Except.ok_bind]
    split
    · exact ⟨_, rfl⟩
    split
    · exact ⟨_, rfl⟩
    · exact ⟨_, rfl⟩

/-- Integers have a cheap size. -/
theorem SymbolRow.Integral.exists_byteCount {row : SymbolRow} (integral : row.Integral) {s : Symbol}
    (byteStart : s.byteStart = row.byteStart) (byteEnd : s.byteEnd = row.byteEnd) :
    ∃ bytes size, s.byteCount = .ok bytes ∧ estimateLines bytes = .ok size := by
  have fits_of {v : Value} (h : v = .null ∨ v.IsInteger) : Action.fits v = true := by
    rcases h with rfl | ⟨n, rfl, fit⟩
    · rfl
    · exact fit
  have fit : BytesFit s.byteStart s.byteEnd := by
    rw [byteStart, byteEnd]
    rcases integral.byteStart with unknown | ⟨start, hs, _⟩
    · rw [unknown]
      exact ⟨.inl rfl, nofun⟩
    rcases integral.byteEnd with unknown | ⟨stop, he, _⟩
    · rw [unknown]
      refine ⟨.inr (.inl rfl), ?_⟩
      rw [hs]
      exact nofun
    · rw [hs, he]
      exact ⟨.inr (.inr ⟨rfl, Nat.one_ne_zero⟩), nofun⟩
  obtain ⟨bytes, size, counted, estimated, _⟩ := (exists_byteCount_iff
    (byteStart ▸ fits_of integral.byteStart) (byteEnd ▸ fits_of integral.byteEnd)).mpr fit
  exact ⟨bytes, size, counted, estimated⟩

/-! ## Sums over the rows of a snapshot -/

/-- The sum of counts is a count. -/
theorem Value.sum_counts (counts : List Nat) :
    Value.sum (counts.map fun n : Nat => .int n) = .ok (.int counts.sum) := by
  have from_total (total : Int) :
      (counts.map fun n : Nat => Value.int n).foldlM Value.plus (.int total) =
        .ok (.int (total + counts.sum)) := by
    induction counts generalizing total with
    | nil =>
      rw [List.sum_nil, Int.natCast_zero, Int.add_zero]
      rfl
    | cons n counts ih =>
      rw [List.map_cons, List.foldlM_cons, List.sum_cons, Int.natCast_add, ← Int.add_assoc]
      exact ih _
  rw [Value.sum, from_total, Int.zero_add]

/-- The sum over rows that have the counts of their keys is the sum of these. -/
theorem Value.sum_of_mapM {κ α : Type} {f : κ → Except Error α} {keys : List κ} {rows : List α}
    (made : keys.mapM f = .ok rows) {field : α → Value} {count : κ → Nat}
    (same : ∀ k ∈ keys, ∀ row, f k = .ok row → field row = .int (count k)) :
    Value.sum (rows.map field) = .ok (.int (keys.map count).sum) := by
  have total := Value.sum_counts (keys.map count)
  rw [List.map_map] at total
  rw [map_eq_of_mapM_eq_ok made same]
  exact total

namespace Snapshot

/-- The snapshot has all symbols of the graph, and the edges that are counted at them and at its
files are counted once on either side. -/
structure Conserves (g : Snapshot) (db : Database) (now : Int) : Prop where
  all : ∀ id, id ∈ g.symbols ↔ (db.symbols[id]?).isSome
  computed : (∀ (id : Int) (row : SymbolRow), db.symbols[id]? = some row → row.Integral) →
    ∃ rows, (g.symbols.keys.mapM fun id => g.symbolMetrics id now) = .ok rows
  symbols : ∀ rows, (g.symbols.keys.mapM fun id => g.symbolMetrics id now) = .ok rows →
    Value.sum (rows.map (·.fanIn)) = .ok (.int (db.edgeCount db.joinsSymbols)) ∧
      Value.sum (rows.map (·.fanOut)) = .ok (.int (db.edgeCount db.joinsSymbols))
  files : ∀ rows, (g.files.keys.mapM fun path => g.fileMetrics path now) = .ok rows →
    Value.sum (rows.map (·.fanIn)) = .ok (.int (db.edgeCount db.joinsFiles)) ∧
      Value.sum (rows.map (·.fanOut)) = .ok (.int (db.edgeCount db.joinsFiles))

variable {root : Path} {g : Snapshot} {now : Int}

namespace Mirrors

variable (h : g.Mirrors db disk root)
include h

/-- The row of a complete symbol has the counts of the tables. -/
theorem fans_of_symbolMetrics (normal : db.Normal) {id : Int} (complete : id ∈ g.complete)
    {row : SymbolMetrics} (made : g.symbolMetrics id now = .ok row) :
    row.fanIn = .int (db.edgeCount (db.entersSymbol id)) ∧
      row.fanOut = .int (db.edgeCount (db.leavesSymbol id)) := by
  obtain ⟨s, hs⟩ := Option.isSome_iff_exists.mp (h.complete id complete)
  rw [g.symbolMetrics_of_complete hs complete, h.countP_incoming normal complete,
    h.countP_outgoing normal complete] at made
  obtain ⟨lines, _, made⟩ := Except.bind_eq_ok.mp made
  obtain ⟨bytes, _, made⟩ := Except.bind_eq_ok.mp made
  obtain ⟨size, _, made⟩ := Except.bind_eq_ok.mp made
  cases made
  exact ⟨rfl, rfl⟩

/-- The row of a complete symbol can be computed if its span is made of integers. -/
theorem exists_symbolMetrics {id : Int} (complete : id ∈ g.complete)
    (integral : ∀ row, db.symbols[id]? = some row → row.Integral) :
    ∃ row, g.symbolMetrics id now = .ok row := by
  obtain ⟨s, hs⟩ := Option.isSome_iff_exists.mp (h.complete id complete)
  obtain ⟨row, stored, described⟩ := h.known id s hs
  obtain ⟨_, _, _, _, line, endLine, byteStart, byteEnd⟩ := SymbolRow.symbol_eq_ok described
  obtain ⟨lines, hl⟩ := (integral row stored).exists_lineCount line endLine
  obtain ⟨bytes, size, hb, he⟩ := (integral row stored).exists_byteCount byteStart byteEnd
  rw [g.symbolMetrics_of_complete hs complete, hl, Except.ok_bind, hb, Except.ok_bind, he]
  exact ⟨_, rfl⟩

/-- The row of a covered file has the counts of the tables. -/
theorem fans_of_fileMetrics (normal : db.Normal) {path : Path} (covered : path ∈ g.files)
    {row : FileMetrics} (made : g.fileMetrics path now = .ok row) :
    row.fanIn = .int (db.edgeCount (db.entersFile path.toString)) ∧
      row.fanOut = .int (db.edgeCount (db.leavesFile path.toString)) := by
  obtain ⟨file, hf⟩ := Option.isSome_iff_exists.mp (ExtTreeMap.mem_iff_isSome_getElem?.mp covered)
  obtain ⟨symbols, hs⟩ := h.exists_symbolsInFile hf
  rw [g.fileMetrics_of_covered hf hs, h.fileFanIn_eq normal hf hs,
    h.fileFanOut_eq normal hf hs] at made
  split at made
  · cases made
  obtain ⟨content, _, made⟩ := Except.bind_eq_ok.mp made
  obtain ⟨size, _, made⟩ := Except.bind_eq_ok.mp made
  cases made
  exact ⟨rfl, rfl⟩

end Mirrors

/-- A snapshot that shows all of the tables conserves the edges. -/
theorem ShowsAll.conserves (shows : g.ShowsAll db disk root) (normal : db.Normal) (now : Int) :
    g.Conserves db now := by
  have whole {id : Int} (mem : id ∈ g.symbols) : id ∈ g.complete := by
    obtain ⟨s, hs⟩ := Option.isSome_iff_exists.mp (ExtTreeMap.mem_iff_isSome_getElem?.mp mem)
    obtain ⟨row, stored, _⟩ := shows.mirrors.known id s hs
    rw [shows.complete, stored]
    rfl
  have all (id : Int) : id ∈ g.symbols ↔ (db.symbols[id]?).isSome := by
    refine ⟨fun mem => (shows.complete id).mp (whole mem), fun stored => ?_⟩
    exact ExtTreeMap.mem_iff_isSome_getElem?.mpr
      (shows.mirrors.complete id ((shows.complete id).mpr stored))
  have ids (id : Int) : id ∈ g.symbols.keys ↔ (db.symbols[id]?).isSome := by
    rw [ExtTreeMap.mem_keys, all]
  have files (id : Int) (row : SymbolRow) (stored : db.symbols[id]? = some row) :
      row.file ∈ g.files.keys.map (·.toString) := by
    refine List.mem_map.mpr ⟨.ofString row.file, ?_, normal id row stored⟩
    exact ExtTreeMap.mem_keys.mpr ((shows.files _).mpr ⟨id, row, stored, rfl⟩)
  have nodup : (g.files.keys.map (·.toString)).Nodup :=
    List.Pairwise.map _ (fun _ _ differ same => differ (Path.toString_injective same))
      ExtTreeMap.nodup_keys
  refine ⟨all, fun integral => ?_, fun rows made => ?_, fun rows made => ?_⟩
  · refine exists_mapM_eq_ok fun id mem => ?_
    exact shows.mirrors.exists_symbolMetrics (whole (ExtTreeMap.mem_keys.mp mem)) (integral id)
  · have fans (id : Int) (mem : id ∈ g.symbols.keys) (row : SymbolMetrics)
        (computed : g.symbolMetrics id now = .ok row) :=
      shows.mirrors.fans_of_symbolMetrics normal (whole (ExtTreeMap.mem_keys.mp mem)) computed
    rw [Value.sum_of_mapM made fun id mem row computed => (fans id mem row computed).1,
      Value.sum_of_mapM made fun id mem row computed => (fans id mem row computed).2,
      Database.sum_entersSymbol ExtTreeMap.nodup_keys ids,
      Database.sum_leavesSymbol ExtTreeMap.nodup_keys ids]
    exact ⟨rfl, rfl⟩
  · have fans (path : Path) (mem : path ∈ g.files.keys) (row : FileMetrics)
        (computed : g.fileMetrics path now = .ok row) :=
      shows.mirrors.fans_of_fileMetrics normal (ExtTreeMap.mem_keys.mp mem) computed
    have enters : (g.files.keys.map fun path => db.edgeCount (db.entersFile path.toString)).sum =
        db.edgeCount db.joinsFiles := by
      rw [← Database.sum_entersFile files nodup, List.map_map]
      rfl
    have leaves : (g.files.keys.map fun path => db.edgeCount (db.leavesFile path.toString)).sum =
        db.edgeCount db.joinsFiles := by
      rw [← Database.sum_leavesFile files nodup, List.map_map]
      rfl
    rw [Value.sum_of_mapM made fun path mem row computed => (fans path mem row computed).1,
      Value.sum_of_mapM made fun path mem row computed => (fans path mem row computed).2,
      enters, leaves]
    exact ⟨rfl, rfl⟩

/-- The snapshot of the whole graph conserves the edges. -/
theorem loadAll_conserves {w w' : World ω} (shows : w.Shows db disk) (normal : db.Normal)
    (root : Option Path) (run : (loadAll root).runIn w = (.ok g, w')) (now : Int) :
    g.Conserves db now := by
  have rooted {root : Path} (run : (loadAll (some root)).runIn w = (.ok g, w')) :
      g.Conserves db now := by
    obtain ⟨o, isOpen, _, _, opened⟩ := shows.exists_open
    rw [opened _ opens_loadAll] at run
    obtain ⟨whole, _⟩ := loadAll_ensures isOpen normal g w' run
    exact whole.conserves normal now
  cases root with
  | some root => exact rooted run
  | none =>
    rw [loadAll_none] at run
    exact rooted run

/-- In the small repository one edge joins the two symbols and the two files. -/
theorem sample_conserves :
    ∃ g w', (loadAll (some Sample.root)).runIn (Sample.world Sample.tables) = (.ok g, w') ∧
      g.Conserves Sample.tables 100 ∧
      Sample.tables.edgeCount Sample.tables.joinsSymbols = 1 ∧
      Sample.tables.edgeCount Sample.tables.joinsFiles = 1 := by
  have returns : ((loadAll (some Sample.root)).runIn
      (Sample.world Sample.tables)).1.toOption.isSome = true := by decide +kernel
  have normal : Sample.tables.Normal := by decide +kernel
  rcases run : (loadAll (some Sample.root)).runIn (Sample.world Sample.tables) with ⟨e | g, w'⟩
  · rw [run] at returns
    cases returns
  · exact ⟨g, w', rfl, loadAll_conserves (Sample.world_shows Sample.tables) normal _ run 100,
      by decide +kernel, by decide +kernel⟩

end Snapshot

end CodeGauge
