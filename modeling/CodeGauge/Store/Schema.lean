import CodeGauge.Store.Affinity

/-!
# Tables and their columns

Each table has a key and columns, and each column a kind. Columns are named in letters of either
case. The integer key of a table, and in the other tables a number that nothing shows, has three
further names.
-/

namespace CodeGauge

/-- The tables. -/
inductive TableName where
  | symbols
  | edges
  | files
  | fileMetrics
  | symbolMetrics
  deriving DecidableEq, Repr

/-- The name of a table. -/
def TableName.text : TableName → String
  | .symbols => "symbols"
  | .edges => "edges"
  | .files => "files"
  | .fileMetrics => "file_metrics"
  | .symbolMetrics => "symbol_metrics"

/-- A column besides the key: its name, its kind and whether it must have a value. -/
structure Column where
  name : String
  affinity : Affinity
  required : Bool := true
  deriving DecidableEq, Repr

/-- What a column keeps of a value; one that must have a value does not take null. -/
def Column.admit (column : Column) (table : TableName) (v : Value) : Except DatabaseFault Value :=
  let kept := column.affinity.kept v
  if column.required && kept.isNull then .error (.nullColumn table.text column.name) else .ok kept

namespace TableName

/-- All tables. -/
def all : List TableName :=
  [.symbols, .edges, .files, .fileMetrics, .symbolMetrics]

/-- A name in small letters. -/
def small (name : String) : String :=
  name.map Char.toLower

/-- The table with a name. -/
def ofText? (name : String) : Option TableName :=
  all.find? (·.text == small name)

/-- The name of the key. -/
def key : TableName → String
  | .symbols | .edges => "id"
  | .files => "path"
  | .fileMetrics => "file_path"
  | .symbolMetrics => "symbol_id"

/-- Whether the key is an integer; otherwise it is a text. -/
def hasIntegerKey : TableName → Bool
  | .symbols | .edges | .symbolMetrics => true
  | .files | .fileMetrics => false

/-- The columns besides the key. -/
def columns : TableName → List Column
  | .symbols => [
      ⟨"name", .text, true⟩, ⟨"qualified_name", .text, true⟩, ⟨"file", .text, true⟩,
      ⟨"line", .integer, true⟩, ⟨"end_line", .integer, false⟩, ⟨"byte_start", .integer, false⟩,
      ⟨"byte_end", .integer, false⟩, ⟨"type", .text, true⟩, ⟨"parent_id", .integer, false⟩]
  | .edges => [
      ⟨"caller_id", .integer, true⟩, ⟨"callee_id", .integer, true⟩, ⟨"call_line", .integer, true⟩,
      ⟨"call_type", .text, false⟩]
  | .files => [⟨"hash", .text, true⟩, ⟨"indexed_at", .numeric, false⟩]
  | .fileMetrics => [
      ⟨"symbol_count", .integer, true⟩, ⟨"loc", .integer, true⟩, ⟨"estimated_loc", .real, true⟩,
      ⟨"fan_in", .integer, true⟩, ⟨"fan_out", .integer, true⟩, ⟨"complexity_score", .real, true⟩,
      ⟨"last_updated", .integer, true⟩]
  | .symbolMetrics => [
      ⟨"symbol_name", .text, true⟩, ⟨"kind", .text, true⟩, ⟨"file_path", .text, true⟩,
      ⟨"loc", .integer, true⟩, ⟨"estimated_loc", .real, true⟩, ⟨"fan_in", .integer, true⟩,
      ⟨"fan_out", .integer, true⟩, ⟨"cyclomatic_complexity", .integer, true⟩,
      ⟨"last_updated", .integer, true⟩]

end TableName

/-- What a name stands for in a table: its key, the number that nothing shows, or the column at a
place. -/
inductive ColumnRole where
  | key
  | number
  | field (place : Nat) (column : Column)
  deriving DecidableEq, Repr

/-- The names that every table's number has. -/
def numberNames : List String :=
  ["rowid", "_rowid_", "oid"]

/-- What a name stands for. -/
def TableName.role? (table : TableName) (name : String) : Option ColumnRole :=
  let name := small name
  if name = table.key then some .key
  else if name ∈ numberNames then some (if table.hasIntegerKey then .key else .number)
  else
    let place := table.columns.findIdx (·.name == name)
    (table.columns[place]?).map (.field place)

end CodeGauge
