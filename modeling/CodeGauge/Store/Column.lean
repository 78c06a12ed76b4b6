import CodeGauge.Store.Execution

/-!
# Writing single columns

One column of one row can be set directly, past everything that the library checks: only what the
column itself keeps, whether it may be null, and whether a key is free are looked at. A path can be
set to null, which takes the row out of reach; an id cannot.
-/

open Std

namespace CodeGauge

namespace Database

/-- A row with the column at a place set. -/
def setField {α : Type} [StoredRow α] (row : α) (place : Nat) (column : Column) (v : Value) :
    Except DatabaseFault α := do
  let kept ← column.admit (StoredRow.table α) v
  (StoredRow.ofValues? ((StoredRow.values row).set place kept)).elim (.error .mismatch) .ok

/-- A table with the row of a key moved to another key, which must be free. -/
def moveRow {κ α : Type} [Ord κ] [TransOrd κ] [LawfulEqOrd κ] [DecidableEq κ] (table : TableName)
    (rows : ExtTreeMap κ α) (key target : κ) (row : α) : Except DatabaseFault (ExtTreeMap κ α) :=
  if target ≠ key ∧ rows.contains target then .error (.duplicateKey table.text table.key)
  else .ok ((rows.erase key).insert target row)

/-- A table of rows with integer keys with a column of the row of a key set, and how many rows there
were to set. -/
def setByNumber {α : Type} [StoredRow α] (rows : ExtTreeMap Int α) (key : Value) (role : ColumnRole)
    (v : Value) : Except DatabaseFault (Nat × ExtTreeMap Int α) := do
  match (key.key?).bind fun id => (rows[id]?).map (id, ·) with
  | none => return (0, rows)
  | some (id, row) =>
    match role with
    | .field place column => return (1, rows.insert id (← setField row place column v))
    | _ =>
      match v.numeric with
      | .int target => return (1, ← moveRow (StoredRow.table α) rows id target row)
      | _ => .error .mismatch

/-- A table of rows with text keys, and its rows without a key, with a column of the row of a key
set, and how many rows there were to set. -/
def setByPath {α : Type} [StoredRow α] (rows : ExtTreeMap String α) (pathless : List α)
    (key : Value) (role : ColumnRole) (v : Value) :
    Except DatabaseFault (Nat × ExtTreeMap String α × List α) := do
  match (key.columnText?).bind fun path => (rows[path]?).map (path, ·) with
  | none => return (0, rows, pathless)
  | some (path, row) =>
    match role with
    | .field place column => return (1, rows.insert path (← setField row place column v), pathless)
    | .number =>
      match v.numeric with
      | .int _ => return (1, rows, pathless)
      | _ => .error .mismatch
    | .key =>
      match v.columnText? with
      | some target => return (1, ← moveRow (StoredRow.table α) rows path target row, pathless)
      | none => return (1, rows.erase path, pathless ++ [row])

/-- Set a column of the row with a primary key, and count the rows changed. -/
def setColumn (db : Database) (table : TableName) (key : Value) (role : ColumnRole) (v : Value) :
    Except DatabaseFault (Nat × Database) := do
  match table with
  | .symbols =>
    let (count, symbols) ← setByNumber db.symbols key role v
    return (count, { db with symbols })
  | .edges =>
    let (count, edges) ← setByNumber db.edges key role v
    return (count, { db with edges })
  | .files =>
    let (count, files, pathlessFiles) ← setByPath db.files db.pathlessFiles key role v
    return (count, { db with files, pathlessFiles })
  | .fileMetrics =>
    let (count, fileMetrics, pathlessMetrics) ←
      setByPath db.fileMetrics db.pathlessMetrics key role v
    return (count, { db with fileMetrics, pathlessMetrics })
  | .symbolMetrics =>
    let (count, symbolMetrics) ← setByNumber db.symbolMetrics key role v
    return (count, { db with symbolMetrics })

end Database

/-- The tables in which a database keeps its own records; none of them can be dropped. -/
def ownTables : List (String × String) := [
  ("sqlite_sequence", "sqlite_sequence"),
  ("sqlite_master", "sqlite_master"), ("sqlite_schema", "sqlite_master"),
  ("sqlite_temp_master", "sqlite_temp_master"), ("sqlite_temp_schema", "sqlite_temp_master")]

namespace Action

variable {ω : Type}

/-- Set a column of the row with a primary key, commit, and count the rows changed. -/
def setColumn (table : TableName) (key : Value) (column : String) (v : Value) : Action ω Nat :=
  updateAndCommit (.setColumn table column) [v, key] fun db =>
    match table.role? column with
    | some role => db.setColumn table key role v
    | none => .error (.noColumn column)

/-- Drop the table with a name and commit. -/
def dropTable (tableName : String) : Action ω Unit := do
  let db ← tables
  match TableName.ofText? tableName with
  | none =>
    match ownTables.lookup (TableName.small tableName) with
    | some own => refuse (.undroppable own)
    | none => refuse (.noTable tableName)
  | some table =>
    if db.dropped.contains table then refuse (.noTable tableName)
    let c ← connection
    if !c.writes || (← get).hasMoved c then refuse .readOnly
    succeed
    if c.transaction.isSome then
      onConnection fun c => { c with transaction := some ⟨some (db.drop table)⟩ }
    else change fun w => { w with databases := w.databases.insert c.file (db.drop table) }
    commit

end Action

end CodeGauge
