import CodeGauge.Graph.Symbol
import CodeGauge.Metrics.Row
import CodeGauge.Store.Schema
import Std.Data.ExtTreeMap

/-!
# Databases

Five tables: the symbols, edges and indexed files of the graph, and the metrics rows of files and
symbols. Rows hold what the columns hold, which is more general than what the graph means: a path is
kept as its text and a kind as its word, a number may be any value, and reading a row may find that
it makes no sense. The path of a file's record or row may even be null; such rows have no key and
are kept apart. Ids of symbols and edges are never given out twice while their table lives. Follows
sections 6, 10.1 and 10.6 of the specification.
-/

open Std

namespace CodeGauge

/-- A stored symbol, apart from its id. -/
structure SymbolRow where
  name : String
  qualifiedName : String
  file : String
  line : Value
  endLine : Value
  byteStart : Value
  byteEnd : Value
  kind : String
  parent : Value
  deriving DecidableEq

/-- A stored edge, apart from its id. -/
structure EdgeRow where
  caller : Value
  callee : Value
  line : Value
  kind : Option String
  deriving DecidableEq

/-- The stored record of an indexed file, apart from its path. -/
structure FileRow where
  hash : String
  indexedAt : Value
  deriving DecidableEq

/-- The stored metrics of a file, apart from its path, with the score they had when they were
written. -/
structure FileMetricsRow where
  symbolCount : Value
  loc : Value
  estimatedLoc : Value
  fanIn : Value
  fanOut : Value
  score : Value
  lastUpdated : Value
  deriving DecidableEq

/-- The stored metrics of a symbol, apart from its id. -/
structure SymbolMetricsRow where
  name : String
  kind : String
  path : String
  loc : Value
  estimatedLoc : Value
  fanIn : Value
  fanOut : Value
  cyclomatic : Value
  lastUpdated : Value
  deriving DecidableEq

/-- A row as the values in the columns of its table. -/
class StoredRow (α : Type) where
  table : TableName
  values : α → List Value
  ofValues? : List Value → Option α

/-- Rows of symbols as they are kept. -/
instance : StoredRow SymbolRow where
  table := .symbols
  values r := [.text r.name, .text r.qualifiedName, .text r.file, r.line, r.endLine, r.byteStart,
    r.byteEnd, .text r.kind, r.parent]
  ofValues?
    | [.text name, .text qualifiedName, .text file, line, endLine, byteStart, byteEnd, .text kind,
        parent] =>
      some { name, qualifiedName, file, line, endLine, byteStart, byteEnd, kind, parent }
    | _ => none

/-- Rows of edges as they are kept. -/
instance : StoredRow EdgeRow where
  table := .edges
  values r := [r.caller, r.callee, r.line, .ofText? r.kind]
  ofValues?
    | [caller, callee, line, .text kind] => some { caller, callee, line, kind }
    | [caller, callee, line, .null] => some { caller, callee, line, kind := none }
    | _ => none

/-- Records of files as they are kept. -/
instance : StoredRow FileRow where
  table := .files
  values r := [.text r.hash, r.indexedAt]
  ofValues?
    | [.text hash, indexedAt] => some { hash, indexedAt }
    | _ => none

/-- Rows of file metrics as they are kept. -/
instance : StoredRow FileMetricsRow where
  table := .fileMetrics
  values r := [r.symbolCount, r.loc, r.estimatedLoc, r.fanIn, r.fanOut, r.score, r.lastUpdated]
  ofValues?
    | [symbolCount, loc, estimatedLoc, fanIn, fanOut, score, lastUpdated] =>
      some { symbolCount, loc, estimatedLoc, fanIn, fanOut, score, lastUpdated }
    | _ => none

/-- Rows of symbol metrics as they are kept. -/
instance : StoredRow SymbolMetricsRow where
  table := .symbolMetrics
  values r := [.text r.name, .text r.kind, .text r.path, r.loc, r.estimatedLoc, r.fanIn, r.fanOut,
    r.cyclomatic, r.lastUpdated]
  ofValues?
    | [.text name, .text kind, .text path, loc, estimatedLoc, fanIn, fanOut, cyclomatic,
        lastUpdated] =>
      some { name, kind, path, loc, estimatedLoc, fanIn, fanOut, cyclomatic, lastUpdated }
    | _ => none

/-- The row that values make, each kept as its column keeps it. The first column that must have a
value and has none is refused. -/
def StoredRow.admit (α : Type) [StoredRow α] (given : List Value) : Except DatabaseFault α := do
  let table := StoredRow.table α
  let kept ← (table.columns.zip given).mapM fun (column, v) => column.admit table v
  (StoredRow.ofValues? kept).elim (.error .mismatch) .ok

/-- The tables with the largest ids ever given out, the rows whose path is null, and the tables that
are missing. -/
structure Database where
  symbols : ExtTreeMap Int SymbolRow := ∅
  edges : ExtTreeMap Int EdgeRow := ∅
  files : ExtTreeMap String FileRow := ∅
  fileMetrics : ExtTreeMap String FileMetricsRow := ∅
  symbolMetrics : ExtTreeMap Int SymbolMetricsRow := ∅
  pathlessFiles : List FileRow := []
  pathlessMetrics : List FileMetricsRow := []
  lastSymbol : Int := 0
  lastEdge : Int := 0
  dropped : List TableName := []
  deriving DecidableEq

/-- The symbol that a row describes, if its kind is a word for one. -/
def SymbolRow.symbol (row : SymbolRow) (id : Int) : Except Error Symbol := do
  let kind ← Vocabulary.read (.text row.kind)
  return {
    id, kind, name := row.name, qualifiedName := row.qualifiedName, file := .ofString row.file,
    line := row.line, endLine := row.endLine, byteStart := row.byteStart, byteEnd := row.byteEnd,
    parent := row.parent }

/-- The row that describes a symbol. -/
def Symbol.row (s : Symbol) : SymbolRow :=
  { name := s.name, qualifiedName := s.qualifiedName, file := s.file.toString, line := s.line,
    endLine := s.endLine, byteStart := s.byteStart, byteEnd := s.byteEnd,
    kind := Vocabulary.text s.kind, parent := s.parent }

/-- The edge that a row describes, if its kind is a word for one. -/
def EdgeRow.edge (row : EdgeRow) (id : Int) : Except Error Edge := do
  let kind ← Vocabulary.read (row.kind.elim .nothing .text)
  return { id, kind, caller := row.caller, callee := row.callee, line := row.line }

/-- The metrics that a row holds, apart from the score. -/
def FileMetricsRow.metrics (row : FileMetricsRow) (path : String) : FileMetrics :=
  { path := .ofString path, symbolCount := row.symbolCount, loc := row.loc,
    estimatedLoc := row.estimatedLoc, fanIn := row.fanIn, fanOut := row.fanOut,
    lastUpdated := row.lastUpdated }

/-- The metrics that a row holds; their source is not stored. -/
def SymbolMetricsRow.metrics (row : SymbolMetricsRow) (id : Int) : SymbolMetrics :=
  { symbolId := id, name := row.name, kind := row.kind, path := .ofString row.path, loc := row.loc,
    estimatedLoc := row.estimatedLoc, fanIn := row.fanIn, fanOut := row.fanOut,
    lastUpdated := row.lastUpdated, cyclomatic := row.cyclomatic, source := .placeholder }

namespace Database

/-- The id after the largest that was given out or is in use. When that is the largest of all, there
is no room for another row. -/
def nextId {α : Type} (table : ExtTreeMap Int α) (last : Int) : Except DatabaseFault Int :=
  let id := max last ((table.maxKey?).getD 0) + 1
  if inColumn id then .ok id else .error .full

/-- A database without tables. -/
def bare : Database :=
  { dropped := [.symbols, .edges, .files, .fileMetrics, .symbolMetrics] }

/-- Make the tables that are missing. -/
def withAllTables (db : Database) : Database :=
  { db with dropped := [] }

/-- Drop a table with its rows and the memory of its ids. -/
def drop (db : Database) (table : TableName) : Database :=
  let db := { db with dropped := table :: db.dropped }
  match table with
  | .symbols => { db with symbols := ∅, lastSymbol := 0 }
  | .edges => { db with edges := ∅, lastEdge := 0 }
  | .files => { db with files := ∅, pathlessFiles := [] }
  | .fileMetrics => { db with fileMetrics := ∅, pathlessMetrics := [] }
  | .symbolMetrics => { db with symbolMetrics := ∅ }

/-- The first of the tables that is missing. -/
def missing? (db : Database) (tables : List TableName) : Option TableName :=
  tables.find? db.dropped.contains

end Database

end CodeGauge
