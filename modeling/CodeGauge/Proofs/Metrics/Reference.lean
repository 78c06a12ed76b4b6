import CodeGauge.Digest.Hex
import CodeGauge.Store.Metrics

/-!
# Reference metrics

What the metrics tables ought to hold is a function of the graph tables and the disk alone. A path
with a symbol has one file row, and a symbol has one symbol row. A file's edges are counted when
they join one of its symbols to a stored symbol of another file, a symbol's when they join it to
another stored symbol. Tables that hold these rows and no others are exact (`Database.Exact`); the
times at which rows were written are left out of the comparison.
-/

open Std

namespace CodeGauge

/-! ## Sizes -/

/-- The lines of a span, or one line when the last is unknown or before the first. Columns that hold
something else than integers are subtracted as numbers. -/
def linesOf (first last : Value) : Value :=
  match first, last with
  | _, .null => .int 1
  | .int m, .int n => .int (if n < m then 1 else n - m + 1)
  | first, last =>
    if last.order first = .lt then .int 1
    else (((last.minus first).bind (·.plus (.int 1))).toOption.getD .null).numeric

/-- The bytes of a span, or one byte when it is unknown or empty. -/
def bytesOf (start stop : Value) : Value :=
  match start, stop with
  | .null, _ => .int 1
  | _, .null => .int 1
  | .int m, .int n => .int (if m < n then n - m else 1)
  | start, stop =>
    if stop.order start = .gt then (stop.minus start).toOption.getD .null else .int 1

/-- The cheap size of so many bytes: a fortieth of them. -/
def estimateOf (bytes : Int) : Binary64 :=
  (Binary64.ofInt bytes).divNat bytesPerLine

/-- The cheap size of what columns give as a number of bytes. -/
def estimateOfValue : Value → Value
  | .int n => .real (estimateOf n)
  | .real x => Affinity.real.kept (.real (x.divNat bytesPerLine))
  | _ => .null

/-- The score of so many lines, edges in and edges out. -/
def scoreOf (lines fanIn fanOut : Int) : Binary64 :=
  Binary64.ofInt lines * lineWeight + Binary64.ofInt fanIn * fanInWeight +
    Binary64.ofInt fanOut * fanOutWeight

/-! ## Counts -/

namespace Database

/-- The file of the stored symbol that the end of an edge is, if it is one. -/
def fileOf? (db : Database) (v : Value) : Option String :=
  (v.id?).bind fun id => (db.symbols[id]?).map (·.file)

/-- An end lies in a file exactly when it is the id of a stored symbol of the file. -/
theorem fileOf?_eq_some_iff {db : Database} {v : Value} {file : String} :
    db.fileOf? v = some file ↔
      ∃ (id : Int) (row : SymbolRow), v.id? = some id ∧ db.symbols[id]? = some row ∧
        row.file = file := by
  simp only [fileOf?, Option.bind_eq_some_iff, Option.map_eq_some_iff]
  constructor
  · rintro ⟨id, hid, row, hr, file⟩
    exact ⟨id, row, hid, hr, file⟩
  · rintro ⟨id, row, hid, hr, file⟩
    exact ⟨id, hid, row, hr, file⟩

/-- An end lies in some file exactly when it is the id of a stored symbol. -/
theorem isSome_fileOf?_iff {db : Database} {v : Value} :
    (db.fileOf? v).isSome ↔
      ∃ (id : Int) (row : SymbolRow), v.id? = some id ∧ db.symbols[id]? = some row := by
  rw [Option.isSome_iff_exists]
  simp only [fileOf?_eq_some_iff]
  constructor
  · rintro ⟨_, id, row, hid, hr, -⟩
    exact ⟨id, row, hid, hr⟩
  · intro ⟨id, row, hid, hr⟩
    exact ⟨row.file, id, row, hid, hr, rfl⟩

/-- The number of symbols of a file. -/
def symbolCount (db : Database) (file : String) : Nat :=
  db.symbols.toList.countP fun (_, row) => row.file == file

/-- The number of edges that a condition holds of. -/
def edgeCount (db : Database) (p : EdgeRow → Bool) : Nat :=
  db.edges.toList.countP fun (_, row) => p row

/-- The edge leads from a stored symbol of another file to a symbol of this one. -/
def entersFile (db : Database) (file : String) (e : EdgeRow) : Bool :=
  db.fileOf? e.callee == some file && (db.fileOf? e.caller).any (· != file)

/-- The edge leads from a symbol of this file to a stored symbol of another one. -/
def leavesFile (db : Database) (file : String) (e : EdgeRow) : Bool :=
  db.fileOf? e.caller == some file && (db.fileOf? e.callee).any (· != file)

/-- The edge leads from another stored symbol to this one. -/
def entersSymbol (db : Database) (id : Int) (e : EdgeRow) : Bool :=
  e.callee.id? == some id && e.caller.id? != some id && (db.fileOf? e.caller).isSome

/-- The edge leads from this symbol to another stored one. -/
def leavesSymbol (db : Database) (id : Int) (e : EdgeRow) : Bool :=
  e.caller.id? == some id && e.callee.id? != some id && (db.fileOf? e.callee).isSome

/-! ## Rows -/

/-- What the disk holds at a file's path below the root. -/
def contentOf? (disk : Disk) (root : Path) (file : String) : Option ByteArray :=
  (disk.read (root / Path.ofString file)).toOption

/-- The file's content can be read and is the one that was recorded, if one was. -/
def isCurrent (db : Database) (disk : Disk) (root : Path) (file : String) : Prop :=
  ∃ content, contentOf? disk root file = some content ∧
    ∀ record, db.files[file]? = some record → record.hash = Digest.contentHash content

/-- The row that a file ought to have: one if it has a symbol and a content. -/
def fileReference (db : Database) (disk : Disk) (root : Path) (file : String) :
    Option FileMetricsRow :=
  if db.symbolCount file = 0 then none
  else (contentOf? disk root file).map fun content =>
    let loc := countLines content
    let fanIn := db.edgeCount (db.entersFile file)
    let fanOut := db.edgeCount (db.leavesFile file)
    { symbolCount := .int (db.symbolCount file)
      loc := .int loc
      estimatedLoc := .real (estimateOf content.size)
      fanIn := .int fanIn
      fanOut := .int fanOut
      score := .real (scoreOf loc fanIn fanOut)
      lastUpdated := .null }

/-- The row that a symbol ought to have. -/
def symbolReference (db : Database) (id : Int) : Option SymbolMetricsRow :=
  (db.symbols[id]?).map fun symbol =>
    { name := symbol.name
      kind := symbol.kind
      path := symbol.file
      loc := linesOf symbol.line symbol.endLine
      estimatedLoc := estimateOfValue (bytesOf symbol.byteStart symbol.byteEnd)
      fanIn := .int (db.edgeCount (db.entersSymbol id))
      fanOut := .int (db.edgeCount (db.leavesSymbol id))
      cyclomatic := .int placeholderComplexity
      lastUpdated := .null }

end Database

/-- The row without the time at which it was written. -/
def FileMetricsRow.undated (row : FileMetricsRow) : FileMetricsRow :=
  { row with lastUpdated := .null }

/-- The row as written at a time. -/
def FileMetricsRow.dated (row : FileMetricsRow) (now : Int) : FileMetricsRow :=
  { row with lastUpdated := .int now }

/-- The row without the time at which it was written. -/
def SymbolMetricsRow.undated (row : SymbolMetricsRow) : SymbolMetricsRow :=
  { row with lastUpdated := .null }

/-- The row as written at a time. -/
def SymbolMetricsRow.dated (row : SymbolMetricsRow) (now : Int) : SymbolMetricsRow :=
  { row with lastUpdated := .int now }

/-- The metrics tables hold the rows that they ought to, apart from the times, and no others. -/
structure Database.Exact (db : Database) (disk : Disk) (root : Path) : Prop where
  files : ∀ file, (db.fileMetrics[file]?).map (·.undated) = db.fileReference disk root file
  symbols : ∀ id, (db.symbolMetrics[id]?).map (·.undated) = db.symbolReference id
  pathless : db.pathlessMetrics = []

/-- The files of the symbols are written as paths are, which is how the store writes them. -/
def Database.Normal (db : Database) : Prop :=
  ∀ (id : Int) (row : SymbolRow), db.symbols[id]? = some row →
    (Path.ofString row.file).toString = row.file

/-! ## Deciding -/

namespace Database

/-- Whether paths are normal is decided row by row. -/
instance (db : Database) : Decidable db.Normal :=
  decidable_of_iff (∀ x ∈ db.symbols.toList, (Path.ofString x.2.file).toString = x.2.file) <| by
    simp only [Normal, Prod.forall, ExtTreeMap.mem_toList_iff_getElem?_eq_some]

variable {db : Database} {disk : Disk} {root : Path}

/-- Whether a content is current is decided on the record and the disk. -/
instance (db : Database) (disk : Disk) (root : Path) (file : String) :
    Decidable (db.isCurrent disk root file) :=
  decidable_of_iff ((contentOf? disk root file).any fun content =>
      (db.files[file]?).all fun record => record.hash == Digest.contentHash content) <| by
    simp only [isCurrent, Option.any_eq_true, Option.all_eq_true, beq_iff_eq]

/-- A file without symbols ought to have no row. -/
theorem fileReference_eq_none {file : String} (h : file ∉ db.symbols.toList.map (·.2.file)) :
    db.fileReference disk root file = none := by
  apply if_pos
  rw [symbolCount, List.countP_eq_zero]
  intro x mem own
  exact h (List.mem_map.mpr ⟨x, mem, eq_of_beq own⟩)

/-- Tables are exact if they are at the keys of their own rows and of the symbols. -/
theorem exact_iff : db.Exact disk root ↔
    (∀ file ∈ db.fileMetrics.keys ++ db.symbols.toList.map (·.2.file),
      (db.fileMetrics[file]?).map (·.undated) = db.fileReference disk root file) ∧
    (∀ id ∈ db.symbolMetrics.keys ++ db.symbols.keys,
      (db.symbolMetrics[id]?).map (·.undated) = db.symbolReference id) ∧
    db.pathlessMetrics = [] := by
  constructor
  · intro exact
    exact ⟨fun file _ => exact.files file, fun id _ => exact.symbols id, exact.pathless⟩
  · intro ⟨files, symbols, pathless⟩
    refine ⟨fun file => ?_, fun id => ?_, pathless⟩
    · by_cases mem : file ∈ db.fileMetrics.keys ++ db.symbols.toList.map (·.2.file)
      · exact files file mem
      · rw [List.mem_append, not_or, ExtTreeMap.mem_keys] at mem
        rw [ExtTreeMap.getElem?_eq_none mem.1, fileReference_eq_none mem.2]
        rfl
    · by_cases mem : id ∈ db.symbolMetrics.keys ++ db.symbols.keys
      · exact symbols id mem
      · rw [List.mem_append, not_or, ExtTreeMap.mem_keys, ExtTreeMap.mem_keys] at mem
        rw [ExtTreeMap.getElem?_eq_none mem.1, symbolReference, ExtTreeMap.getElem?_eq_none mem.2]
        rfl

/-- Whether tables are exact is decided row by row. -/
instance (db : Database) (disk : Disk) (root : Path) : Decidable (db.Exact disk root) :=
  decidable_of_iff _ exact_iff.symm

end Database

end CodeGauge
