import CodeGauge.Store.Graph

/-!
# The stored metrics

Metrics rows are written whole and deleted whole, and reading computes nothing but a file's score,
which always comes from the row's own fields. The stored score only ranks files.

A batch deletes before it inserts, so an entity that it both deletes and writes keeps the written
row. When the database refuses a write, nothing of the batch is kept. Follows sections 4.3 and 10.6
of the specification.
-/

open Std

namespace CodeGauge

/-- The values a file row is written with, after its path, in the order of the columns. -/
def FileMetrics.values (row : FileMetrics) (score : Binary64) : List Value :=
  [row.symbolCount, row.loc, row.estimatedLoc, row.fanIn, row.fanOut, .real score, row.lastUpdated]

/-- The values a symbol row is written with, after its id, in the order of the columns. -/
def SymbolMetrics.Draft.values (d : SymbolMetrics.Draft) : List Value :=
  [.ofText? d.name, .ofText? d.kind, .text d.path.toString, d.loc, d.estimatedLoc, d.fanIn,
    d.fanOut, d.cyclomatic, d.lastUpdated]

namespace Database

/-- Write a file row over any that is there. -/
def putFileMetrics (db : Database) (row : FileMetrics) (score : Binary64) :
    Except DatabaseFault (Unit × Database) := do
  let stored ← StoredRow.admit FileMetricsRow (row.values score)
  return ((), { db with fileMetrics := db.fileMetrics.insert row.path.toString stored })

/-- Write a symbol row over any that is there; without an id it gets the one after the largest. -/
def putSymbolMetrics (db : Database) (d : SymbolMetrics.Draft) :
    Except DatabaseFault (Unit × Database) := do
  let stored ← StoredRow.admit SymbolMetricsRow d.values
  let id := d.symbolId.getD ((db.symbolMetrics.maxKey?).elim 1 (· + 1))
  return ((), { db with symbolMetrics := db.symbolMetrics.insert id stored })

/-- Remove the symbol rows that are filed under a path and count them. -/
def removeSymbolMetricsInFile (db : Database) (file : String) : Nat × Database :=
  let (count, symbolMetrics) := removeWhere db.symbolMetrics fun _ row => row.path == file
  (count, { db with symbolMetrics })

/-- Remove the symbol row of an id and count it. -/
def removeSymbolMetrics (db : Database) (id : Int) : Nat × Database :=
  let (count, symbolMetrics) := removeWhere db.symbolMetrics fun k _ => k == id
  (count, { db with symbolMetrics })

/-- Remove the file row of a path. -/
def removeFileMetrics (db : Database) (file : String) : Database :=
  { db with fileMetrics := db.fileMetrics.erase file }

end Database

/-- Which hotspots are asked for: how many, and the least values of three measures. -/
structure HotspotQuery where
  limit : Value
  minLoc : Option Value := none
  minFanIn : Option Value := none
  minFanOut : Option Value := none
  deriving DecidableEq

/-- Whether what a column holds reaches a threshold; nothing reaches null. -/
def reaches (v least : Value) : Bool :=
  let least := least.numeric
  !least.isNull && (least.order v).isLE

/-- The number of rows that a limit stands for: a negative one is no limit, and what is no integer
is refused. -/
def limitOf (limit : Value) : Except DatabaseFault (Option Nat) :=
  match limit.numeric with
  | .int n => .ok (if n < 0 then none else some n.toNat)
  | _ => .error .mismatch

/-- The file rows with their paths, those without one first. -/
def Database.fileMetricsRows (db : Database) : List (Option String × FileMetricsRow) :=
  db.pathlessMetrics.map (none, ·) ++ db.fileMetrics.toList.map fun (path, row) => (some path, row)

/-- The file rows that reach all thresholds, the highest stored score first and equal ones
by path. -/
def Database.hotspots (db : Database) (q : HotspotQuery) : List (Option String × FileMetricsRow) :=
  let wanted := db.fileMetricsRows.filter fun (_, row) =>
    q.minLoc.all (reaches row.loc) && q.minFanIn.all (reaches row.fanIn) &&
      q.minFanOut.all (reaches row.fanOut)
  sortedBy (fun a b => (b.2.score.order a.2.score).isLE) wanted

namespace MetricsStore

variable {ω : Type}

/-! ## Writing -/

/-- Run a writing statement once for each row of values, inside a transaction that stays open. -/
def updateEach {α : Type} (statement : Statement) (rows : List α) (values : α → List Value)
    (write : Database → α → Except DatabaseFault (Unit × Database)) : Action ω Unit := do
  Action.prepare statement
  Action.openTransaction
  rows.forM fun row => Action.perform statement (values row) (write · row)

/-- The writes of a batch, one after the other, with the transaction left open. All scores are
computed before the first file row is written. -/
def writeBatch (b : Batch) : Action ω Unit := do
  b.deletedSymbols.toList.forM fun id => do
    let _ ← Action.update .deleteSymbolMetrics [.int id] fun db => .ok (db.removeSymbolMetrics id)
  b.deletedFiles.toList.forM fun path => do
    let file := path.toString
    let _ ← Action.update .deleteSymbolMetricsInFile [.text file] fun db =>
      .ok (db.removeSymbolMetricsInFile file)
    Action.update .deleteFileMetrics [.text file] fun db => .ok ((), db.removeFileMetrics file)
  let scored ← Action.of (b.fileRows.mapM fun row => do return (row, ← row.score))
  updateEach .upsertFileMetrics scored
    (fun (row, score) => .text row.path.toString :: row.values score)
    fun db (row, score) => db.putFileMetrics row score
  updateEach .upsertSymbolMetrics b.symbolRows (fun d => .ofInt? d.symbolId :: d.values)
    fun db d => db.putSymbolMetrics d

/-- Apply a batch to the repository, which is opened first. If the database refuses a write,
everything pending is rolled back. -/
def apply (b : Batch) : Action ω Unit := do
  unless b.isEmpty do
    Action.openRepository
    match ← (do writeBatch b; Action.commit : Action ω Unit).outcome with
    | .ok () => pure ()
    | .error (.database fault) =>
      Action.rollback
      throw (.batchRefused fault)
    | .error e => throw e

/-- Write one file row. -/
def putFile (row : FileMetrics) : Action ω Unit :=
  apply { fileRows := [row] }

/-- Write one symbol row. -/
def putSymbol (d : SymbolMetrics.Draft) : Action ω Unit :=
  apply { symbolRows := [d] }

/-- Delete a file's row and the symbol rows filed under it, and count the latter. -/
def deleteFile (path : Path) : Action ω Nat := do
  let file := path.toString
  let count ← Action.update .deleteSymbolMetricsInFile [.text file] fun db =>
    .ok (db.removeSymbolMetricsInFile file)
  Action.updateAndCommit .deleteFileMetrics [.text file] fun db =>
    .ok ((), db.removeFileMetrics file)
  return count

/-- Delete a symbol's row and say whether it was there. -/
def deleteSymbol (id : Int) : Action ω Bool := do
  let count ← Action.updateAndCommit .deleteSymbolMetrics [.int id] fun db =>
    .ok (db.removeSymbolMetrics id)
  return 0 < count

/-- Delete every metrics row. -/
def clear : Action ω Unit := do
  Action.update .clearSymbolMetrics [] fun db => .ok ((), { db with symbolMetrics := ∅ })
  Action.updateAndCommit .clearFileMetrics [] fun db =>
    .ok ((), { db with fileMetrics := ∅, pathlessMetrics := [] })

/-! ## Reading -/

/-- The metrics that file rows hold; each must have a path. -/
def fileMetricsOf (rows : List (Option String × FileMetricsRow)) :
    Except Error (List FileMetrics) :=
  rows.mapM fun (path, row) => path.elim (.error .wrongKind) fun path => .ok (row.metrics path)

/-- The metrics that symbol rows hold. -/
def symbolMetricsOf (rows : List (Int × SymbolMetricsRow)) : List SymbolMetrics :=
  rows.map fun (id, row) => row.metrics id

/-- The metrics of a file, if it has been metered. -/
def file? (path : Path) : Action ω (Option FileMetrics) := do
  let file := path.toString
  let row ← Action.query .fileMetricsByPath [.text file] (·.fileMetrics[file]?)
  return row.map (·.metrics file)

/-- The metrics of a symbol, if it has been metered. -/
def symbol? (id : Int) : Action ω (Option SymbolMetrics) := do
  let row ← Action.query .symbolMetricsById [.int id] (·.symbolMetrics[id]?)
  return row.map (·.metrics id)

/-- The metrics of all files, by path. -/
def files : Action ω (List FileMetrics) := do
  Action.of (fileMetricsOf (← Action.query .allFileMetrics [] (·.fileMetricsRows)))

/-- What a prefix of a path is compared with: the path up to a character NUL. -/
def comparedPath (path : String) : List Char :=
  path.toList.takeWhile (· != '\x00')

/-- The metrics of the files whose path begins with a text, by path. -/
def filesWithPrefix (start : String) : Action ω (List FileMetrics) := do
  let chars := start.toList
  let rows ← Action.query .fileMetricsByPrefix [.int chars.length, .text start] fun db =>
    db.fileMetrics.toList.filter fun (path, _) => (comparedPath path).take chars.length == chars
  return rows.map fun (path, row) => row.metrics path

/-- The metrics of all symbols, by id. -/
def symbols : Action ω (List SymbolMetrics) := do
  return symbolMetricsOf (← Action.query .allSymbolMetrics [] (·.symbolMetrics.toList))

/-- The metrics of the symbols filed under a path, by id. -/
def symbolsInFile (path : Path) : Action ω (List SymbolMetrics) := do
  let file := path.toString
  let rows ← Action.query .symbolMetricsInFile [.text file] fun db =>
    db.symbolMetrics.toList.filter fun (_, row) => row.path == file
  return symbolMetricsOf rows

/-- The ids of the symbol rows filed under a path. -/
def symbolIdsInFile (path : Path) : Action ω (ExtTreeSet Int) := do
  let file := path.toString
  let ids ← Action.query .symbolIdsInFile [.text file] fun db =>
    (db.symbolMetrics.toList.filter fun (_, row) => row.path == file).map (·.1)
  return .ofList ids

/-- The values a query for hotspots is run with: the thresholds that are given, then the limit. -/
def hotspotValues (q : HotspotQuery) : List Value :=
  q.minLoc.toList ++ q.minFanIn.toList ++ q.minFanOut.toList ++ [q.limit]

/-- The files with the highest stored scores among those that reach the thresholds. -/
def hotspots (q : HotspotQuery) : Action ω (List FileMetrics) := do
  let statement := Statement.hotspots q.minLoc.isSome q.minFanIn.isSome q.minFanOut.isSome
  let rows ← Action.query statement (hotspotValues q) (·.hotspots q)
  match limitOf q.limit with
  | .error fault => Action.refuse fault
  | .ok none => Action.of (fileMetricsOf rows)
  | .ok (some n) => Action.of (fileMetricsOf (rows.take n))

/-- The numbers of file rows and of symbol rows. -/
def counts : Action ω (Nat × Nat) := do
  let files ← Action.query .countFileMetrics [] (·.fileMetricsRows.length)
  let symbols ← Action.query .countSymbolMetrics [] (·.symbolMetrics.size)
  return (files, symbols)

end MetricsStore

/-- The sizes of the tables and when a file was last recorded. -/
structure StoreStats where
  files : Nat
  symbols : Nat
  edges : Nat
  fileMetrics : Nat
  symbolMetrics : Nat
  lastIndexed : Option String
  deriving DecidableEq, Repr

/-- The greatest of stored times. -/
def latest (values : List Value) : Value :=
  values.foldl (fun greatest v => if greatest.order v = .lt then v else greatest) .null

/-- The statistics of the whole database. -/
def storeStats {ω : Type} : Action ω StoreStats := do
  let files ← Action.query .countGraphFiles [] fun db =>
    (ExtTreeSet.ofList (db.symbols.toList.map (·.2.file))).size
  let symbols ← Action.query .countSymbols [] (·.symbols.size)
  let edges ← Action.query .countEdges [] (·.edges.size)
  let last ← Action.query .lastIndexed [] fun db =>
    latest ((db.pathlessFiles ++ db.files.toList.map (·.2)).map (·.indexedAt))
  let (fileMetrics, symbolMetrics) ← MetricsStore.counts
  let lastIndexed ← match last with
    | .null | .text "" | .int 0 => pure none
    | .text s => do
      Action.of (checkIndexedAt (.text s))
      pure (some s)
    | v => do
      Action.of (checkIndexedAt v)
      pure none
  return { files, symbols, edges, fileMetrics, symbolMetrics, lastIndexed }

/-- Delete everything that is stored. -/
def clearStore {ω : Type} : Action ω Unit := do
  MetricsStore.clear
  Graph.clearEdges
  Graph.clearSymbols
  Graph.clearFiles

end CodeGauge
