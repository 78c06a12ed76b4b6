import CodeGauge.Digest.Hex
import CodeGauge.Store.Database
import CodeGauge.Text.Quoted

/-!
# Databases as text

A database is kept in a file as text, one row a line: the table's name and the fields, with tabs
between them. A field begins with a letter for its kind, and within a text the tab, the line feed
and the backslash are written by two characters each. Two lines more keep the largest ids ever
given out.
-/

open Std

namespace CodeGauge

/-- A character of a field. -/
def saveChar (c : Char) : List Char :=
  if c == '\t' then ['\\', 't']
  else if c == '\n' then ['\\', 'n']
  else if c == '\\' then ['\\', '\\']
  else [c]

/-- The characters that a field holds. -/
def loadChars? : List Char → Option (List Char)
  | [] => some []
  | '\\' :: 't' :: rest => (loadChars? rest).map ('\t' :: ·)
  | '\\' :: 'n' :: rest => (loadChars? rest).map ('\n' :: ·)
  | '\\' :: '\\' :: rest => (loadChars? rest).map ('\\' :: ·)
  | '\\' :: _ => none
  | c :: rest => (loadChars? rest).map (c :: ·)

/-- A value as a field. -/
def Value.save : Value → String
  | .null => "-"
  | .int n => s!"i{n}"
  | .real x => "r" ++ String.ofList (Text.hexDigits x.bits.toNat 16)
  | .text s => String.ofList ('t' :: s.toList.flatMap saveChar)

/-- The value of a field. -/
def Value.load? (field : String) : Option Value :=
  match field.toList with
  | ['-'] => some .null
  | 'i' :: digits => (String.ofList digits).toInt?.map .int
  | 'r' :: digits =>
    (Digest.unhex? digits).map fun bytes => .real ⟨bytes.foldl (fun n b => n * 256 + b.toUInt64) 0⟩
  | 't' :: cs => (loadChars? cs).map fun cs => .text (String.ofList cs)
  | _ => none

/-- What one line of a saved database says: a word and its fields. -/
structure SavedLine where
  word : String
  fields : List Value

namespace SavedLine

/-- The text of a line. -/
def save (l : SavedLine) : String :=
  String.intercalate "\t" (l.word :: l.fields.map Value.save)

/-- The line of a text. -/
def load? (line : String) : Option SavedLine := do
  match line.splitOn "\t" with
  | [] => none
  | word :: fields => return ⟨word, ← fields.mapM Value.load?⟩

end SavedLine

namespace Database

/-- The word that a table's rows are saved under. -/
def rowWord (table : TableName) (hasKey : Bool) : String :=
  if hasKey then table.text else table.text ++ " without path"

/-- The lines of rows with their keys. -/
def rowLines {κ α : Type} [StoredRow α] (key : κ → Value) (rows : List (κ × α)) : List SavedLine :=
  rows.map fun (k, row) =>
    ⟨rowWord (StoredRow.table α) true, key k :: StoredRow.values row⟩

/-- The lines of rows without keys. -/
def pathlessLines {α : Type} [StoredRow α] (rows : List α) : List SavedLine :=
  rows.map fun row => ⟨rowWord (StoredRow.table α) false, StoredRow.values row⟩

/-- The lines that a database is saved as. -/
def savedLines (db : Database) : List SavedLine :=
  rowLines .int db.symbols.toList ++ rowLines .int db.edges.toList ++
  rowLines .text db.files.toList ++ rowLines .text db.fileMetrics.toList ++
  rowLines .int db.symbolMetrics.toList ++
  pathlessLines db.pathlessFiles ++ pathlessLines db.pathlessMetrics ++
  [⟨"last symbol", [.int db.lastSymbol]⟩, ⟨"last edge", [.int db.lastEdge]⟩]

/-- The database with a row that has an integer key or a text for one. -/
def withRow? (db : Database) (table : TableName) (key : Value) (values : List Value) :
    Option Database := do
  match table, key with
  | .symbols, .int id =>
    return { db with symbols := db.symbols.insert id (← StoredRow.ofValues? values) }
  | .edges, .int id => return { db with edges := db.edges.insert id (← StoredRow.ofValues? values) }
  | .files, .text path =>
    return { db with files := db.files.insert path (← StoredRow.ofValues? values) }
  | .fileMetrics, .text path =>
    return { db with fileMetrics := db.fileMetrics.insert path (← StoredRow.ofValues? values) }
  | .symbolMetrics, .int id =>
    return { db with symbolMetrics := db.symbolMetrics.insert id (← StoredRow.ofValues? values) }
  | _, _ => none

/-- The database with the row of a line. -/
def withLine? (db : Database) (l : SavedLine) : Option Database := do
  match TableName.all.find? (rowWord · true == l.word) with
  | some table =>
    match l.fields with
    | key :: values => db.withRow? table key values
    | [] => none
  | none =>
    if l.word = rowWord .files false then
      return { db with pathlessFiles := db.pathlessFiles ++ [← StoredRow.ofValues? l.fields] }
    else if l.word = rowWord .fileMetrics false then
      return { db with pathlessMetrics := db.pathlessMetrics ++ [← StoredRow.ofValues? l.fields] }
    else
      match l.word, l.fields with
      | "last symbol", [.int n] => return { db with lastSymbol := n }
      | "last edge", [.int n] => return { db with lastEdge := n }
      | _, _ => none

/-- The text that a database is saved as. -/
def save (db : Database) : String :=
  String.join (db.savedLines.map fun l => l.save ++ "\n")

/-- The database that a text is the saved form of. -/
def load? (text : String) : Option Database :=
  ((text.splitOn "\n").filter (· ≠ "")).foldlM (fun db line => do
    db.withLine? (← SavedLine.load? line)) {}

end Database

end CodeGauge
