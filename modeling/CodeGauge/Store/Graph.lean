import CodeGauge.Sorting
import CodeGauge.Store.Execution
import CodeGauge.Text.Timestamp
import Std.Data.ExtTreeSet

/-!
# The stored graph

Symbols, edges and the records of indexed files in the database. A symbol or edge gets the next id
when it is inserted. Listings are by file text, then line, then id, or by id where no file is
concerned. Follows section 10.1 of the specification.
-/

open Std

namespace CodeGauge

/-- A symbol as offered for insertion; a missing name or line is refused by the store. -/
structure Symbol.Draft where
  name : Option String
  qualifiedName : Option String
  file : Path
  line : Value
  kind : SymbolKind
  endLine : Value := .null
  byteStart : Value := .null
  byteEnd : Value := .null
  parent : Value := .null
  deriving DecidableEq

/-- The values a symbol is inserted with, in the order of the columns. -/
def Symbol.Draft.values (d : Symbol.Draft) : List Value :=
  [.ofText? d.name, .ofText? d.qualifiedName, .text d.file.toString, d.line, d.endLine, d.byteStart,
    d.byteEnd, .text (Vocabulary.text d.kind), d.parent]

/-- An edge as offered for insertion; a missing end or line is refused by the store. -/
structure Edge.Draft where
  caller : Value
  callee : Value
  line : Value
  kind : EdgeKind
  deriving DecidableEq

/-- The values an edge is inserted with, in the order of the columns. -/
def Edge.Draft.values (d : Edge.Draft) : List Value :=
  [d.caller, d.callee, d.line, .text (Vocabulary.text d.kind)]

namespace Database

/-- Take the entries out that a condition holds of, and count them. -/
def removeWhere {κ α : Type} [Ord κ] [TransOrd κ] (table : ExtTreeMap κ α) (p : κ → α → Bool) :
    Nat × ExtTreeMap κ α :=
  let kept := table.filter fun k a => !p k a
  (table.size - kept.size, kept)

/-- The symbols that a condition holds of, by file text, line and id. -/
def symbolsWhere (db : Database) (p : Int → SymbolRow → Bool) : List (Int × SymbolRow) :=
  sortedBy (fun a b => ((compare a.2.file b.2.file).then (a.2.line.order b.2.line)).isLE)
    (db.symbols.toList.filter fun (id, row) => p id row)

/-- The edges that a condition holds of, by id. -/
def edgesWhere (db : Database) (p : EdgeRow → Bool) : List (Int × EdgeRow) :=
  db.edges.toList.filter fun (_, row) => p row

/-- Insert a symbol under the next id. -/
def insertSymbol (db : Database) (values : List Value) : Except DatabaseFault (Int × Database) := do
  let id ← nextId db.symbols db.lastSymbol
  let row ← StoredRow.admit SymbolRow values
  return (id, { db with symbols := db.symbols.insert id row, lastSymbol := id })

/-- Insert an edge under the next id. -/
def insertEdge (db : Database) (values : List Value) : Except DatabaseFault (Int × Database) := do
  let id ← nextId db.edges db.lastEdge
  let row ← StoredRow.admit EdgeRow values
  return (id, { db with edges := db.edges.insert id row, lastEdge := id })

/-- Remove symbols and count them. -/
def removeSymbols (db : Database) (p : Int → SymbolRow → Bool) : Nat × Database :=
  let (count, symbols) := removeWhere db.symbols p
  (count, { db with symbols })

/-- Remove edges and count them. -/
def removeEdges (db : Database) (p : Int → EdgeRow → Bool) : Nat × Database :=
  let (count, edges) := removeWhere db.edges p
  (count, { db with edges })

/-- Whether the end of an edge is a stored symbol of the file. -/
def isSymbolOf (db : Database) (file : String) (v : Value) : Bool :=
  ((v.id?).bind (db.symbols[·]?)).any (·.file == file)

/-- Record the digest of a file and when it was recorded. -/
def recordFile (db : Database) (path stamp : String) (hash : Option String) :
    Except DatabaseFault (Unit × Database) := do
  let row ← StoredRow.admit FileRow [.ofText? hash, .text stamp]
  return ((), { db with files := db.files.insert path row })

end Database

/-- The symbols that rows describe. -/
def symbolsOf (rows : List (Int × SymbolRow)) : Except Error (List Symbol) :=
  rows.mapM fun (id, row) => row.symbol id

/-- The edges that rows describe. -/
def edgesOf (rows : List (Int × EdgeRow)) : Except Error (List Edge) :=
  rows.mapM fun (id, row) => row.edge id

/-- Check that a stored value is a point in time. -/
def checkIndexedAt : Value → Except Error Unit
  | .text s =>
    match Text.checkTimestamp s with
    | .ok () => .ok ()
    | .error .malformed => .error (.notADate s)
    | .error (.outOfRange reason) => .error (.datePart reason)
  | _ => .error .wrongKind

namespace Graph

variable {ω : Type}

/-- The texts of paths, each once, in order. -/
def textsOf (paths : List Path) : List String :=
  (ExtTreeSet.ofList (paths.map Path.toString)).toList

/-! ## Symbols -/

/-- Insert a symbol and give its id. -/
def insertSymbol (d : Symbol.Draft) : Action ω Int :=
  Action.updateAndCommit .insertSymbol d.values (·.insertSymbol d.values)

/-- The symbol with an id. -/
def symbol (id : Int) : Action ω Symbol := do
  match ← Action.query .symbolById [.int id] (·.symbols[id]?) with
  | some row => Action.of (row.symbol id)
  | none => throw (.noSymbol id)

/-- The stored symbols among the given ids, by id. -/
def symbolsById (ids : ExtTreeSet Int) : Action ω (List Symbol) := do
  if ids.isEmpty then return []
  let rows ← Action.query (.symbolsByIds ids.size) (ids.toList.map .int) fun db =>
    ids.toList.filterMap fun id => (db.symbols[id]?).map (id, ·)
  Action.of (symbolsOf rows)

/-- The stored symbols among the given ids and other ends of edges, which are none, by id. Only ends
of like kind can be asked for together. -/
def symbolsAt (ids : ExtTreeSet Int) (others : List Value) : Action ω (List Symbol) := do
  if others.isEmpty then return ← symbolsById ids
  let ranks := (others.map Value.rank).eraseDups
  if 1 < (if ids.isEmpty then ranks else (Value.int 0).rank :: ranks).eraseDups.length then
    throw .wrongKind
  let values := ids.toList.map .int ++ others
  let rows ← Action.query (.symbolsByIds values.length) values fun db =>
    ids.toList.filterMap fun id => (db.symbols[id]?).map (id, ·)
  Action.of (symbolsOf rows)

/-- The symbols of a file, by line. -/
def symbolsInFile (path : Path) : Action ω (List Symbol) := do
  let file := path.toString
  let rows ← Action.query .symbolsInFile [.text file] (·.symbolsWhere fun _ row => row.file == file)
  Action.of (symbolsOf rows)

/-- The symbols of any of the files, by file and line. -/
def symbolsInFiles (paths : List Path) : Action ω (List Symbol) := do
  let files := textsOf paths
  if files.isEmpty then return []
  let rows ← Action.query (.symbolsInFiles files.length) (files.map .text)
    (·.symbolsWhere fun _ row => files.contains row.file)
  Action.of (symbolsOf rows)

/-- Every symbol, by file and line. -/
def allSymbols : Action ω (List Symbol) := do
  Action.of (symbolsOf (← Action.query .allSymbols [] (·.symbolsWhere fun _ _ => true)))

/-- The files that have a symbol, by their texts. -/
def filePaths : Action ω (List Path) := do
  let texts ← Action.query .symbolFiles [] fun db =>
    (ExtTreeSet.ofList (db.symbols.toList.map (·.2.file))).toList
  return texts.map .ofString

/-- Delete a symbol and say whether it was there. -/
def deleteSymbol (id : Int) : Action ω Bool := do
  let count ← Action.updateAndCommit .deleteSymbol [.int id] fun db =>
    .ok (db.removeSymbols fun k _ => k == id)
  return 0 < count

/-- Delete the symbols of a file and count them. -/
def deleteSymbolsInFile (path : Path) : Action ω Nat :=
  let file := path.toString
  Action.updateAndCommit .deleteSymbolsInFile [.text file] fun db =>
    .ok (db.removeSymbols fun _ row => row.file == file)

/-- Delete every symbol. -/
def clearSymbols : Action ω Unit :=
  Action.updateAndCommit .clearSymbols [] fun db => .ok ((), { db with symbols := ∅ })

/-! ## Edges -/

/-- Insert an edge and give its id. -/
def insertEdge (d : Edge.Draft) : Action ω Int :=
  Action.updateAndCommit .insertEdge d.values (·.insertEdge d.values)

/-- The edges from a symbol. -/
def outgoing (id : Int) : Action ω (List Edge) := do
  let rows ← Action.query .outgoingEdges [.int id] (·.edgesWhere (·.caller.id? == some id))
  Action.of (edgesOf rows)

/-- The edges to a symbol. -/
def incoming (id : Int) : Action ω (List Edge) := do
  let rows ← Action.query .incomingEdges [.int id] (·.edgesWhere (·.callee.id? == some id))
  Action.of (edgesOf rows)

/-- The edges that have an end among the given ids. -/
def touching (ids : ExtTreeSet Int) : Action ω (List Edge) := do
  if ids.isEmpty then return []
  let values := ids.toList.map Value.int
  let rows ← Action.query (.touchingEdges ids.size) (values ++ values)
    (·.edgesWhere fun row => (row.caller.id?).any ids.contains || (row.callee.id?).any ids.contains)
  Action.of (edgesOf rows)

/-- Every edge. -/
def allEdges : Action ω (List Edge) := do
  Action.of (edgesOf (← Action.query .allEdges [] (·.edgesWhere fun _ => true)))

/-- Delete an edge and say whether it was there. -/
def deleteEdge (id : Int) : Action ω Bool := do
  let count ← Action.updateAndCommit .deleteEdge [.int id] fun db =>
    .ok (db.removeEdges fun k _ => k == id)
  return 0 < count

/-- Delete the edges that touch a symbol and count them. -/
def deleteEdgesOfSymbol (id : Int) : Action ω Nat :=
  Action.updateAndCommit .deleteEdgesOfSymbol [.int id, .int id] fun db =>
    .ok (db.removeEdges fun _ row => row.caller.id? == some id || row.callee.id? == some id)

/-- Delete the edges that touch a symbol of a file and count them. -/
def deleteEdgesOfFile (path : Path) : Action ω Nat :=
  let file := path.toString
  Action.updateAndCommit .deleteEdgesOfFile [.text file, .text file] fun db =>
    .ok (db.removeEdges fun _ row => db.isSymbolOf file row.caller || db.isSymbolOf file row.callee)

/-- Delete every edge. -/
def clearEdges : Action ω Unit :=
  Action.updateAndCommit .clearEdges [] fun db => .ok ((), { db with edges := ∅ })

/-! ## Indexed files -/

/-- Record the digest of a file. -/
def recordFile (path : Path) (hash : Option String) : Action ω Unit := do
  let stamp := (← get).stamp
  Action.updateAndCommit .upsertFile [.text path.toString, .ofText? hash, .ofText? hash]
    (·.recordFile path.toString stamp hash)

/-- The record of a file, if there is one; the time of recording must be one. -/
def indexedFile (path : Path) : Action ω (Option IndexedFile) := do
  match ← Action.query .fileByPath [.text path.toString] (·.files[path.toString]?) with
  | none => return none
  | some row =>
    Action.of (checkIndexedAt row.indexedAt)
    return some ⟨path, row.hash⟩

/-- The recorded digests of those of the files that have one. -/
def hashes (paths : List Path) : Action ω (ExtTreeMap Path String) := do
  let files := textsOf paths
  if files.isEmpty then return ∅
  let found ← Action.query (.hashesOfFiles files.length) (files.map .text) fun db =>
    files.filterMap fun file => (db.files[file]?).map fun row => (Path.ofString file, row.hash)
  return .ofList found

/-- Delete the record of a file. -/
def deleteFileRecord (path : Path) : Action ω Unit :=
  Action.updateAndCommit .deleteFile [.text path.toString] fun db =>
    .ok ((), { db with files := db.files.erase path.toString })

/-- Delete every record. -/
def clearFiles : Action ω Unit :=
  Action.updateAndCommit .clearFiles [] fun db =>
    .ok ((), { db with files := ∅, pathlessFiles := [] })

/-! ## Several tables at once -/

/-- Delete a file with its symbols and the edges that touch them. -/
def deleteFile (path : Path) : Action ω Unit := do
  let _ ← deleteEdgesOfFile path
  let _ ← deleteSymbolsInFile path
  deleteFileRecord path

/-- Delete a symbol with the edges that touch it. -/
def deleteSymbolWithEdges (id : Int) : Action ω Unit := do
  let _ ← deleteEdgesOfSymbol id
  let _ ← deleteSymbol id

end Graph

end CodeGauge
