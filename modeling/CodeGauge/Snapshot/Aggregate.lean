import CodeGauge.Metrics.Row
import CodeGauge.Snapshot.Basic
import CodeGauge.Sorting

/-!
# Rows computed from a snapshot

Every row is a function of one snapshot and a time. A file's edges are counted when their other end
is a known symbol of another file, a symbol's when it is a known symbol other than itself. When rows
of many entities are asked for, a reported error of one of them is part of the result and the others
go on. Follows sections 4.1 and 10.3 of the specification.
-/

open Std

namespace CodeGauge

namespace Snapshot

/-- Whether the end of an edge is a known symbol outside the file. -/
def isOutside (g : Snapshot) (path : Path) (v : Value) : Bool :=
  ((v.id?).bind g.symbol?).any (·.file != path)

/-- Whether the end of an edge is a known symbol other than `self`. -/
def isOther (g : Snapshot) (self : Int) (v : Value) : Bool :=
  v.id? != some self && ((v.id?).bind g.symbol?).isSome

/-- The edges from other files into the given symbols of a file. -/
def fileFanIn (g : Snapshot) (path : Path) (symbols : List Symbol) : Nat :=
  (symbols.flatMap fun s => g.incoming s.id).countP fun e => g.isOutside path e.caller

/-- The edges from the given symbols of a file into other files. -/
def fileFanOut (g : Snapshot) (path : Path) (symbols : List Symbol) : Nat :=
  (symbols.flatMap fun s => g.outgoing s.id).countP fun e => g.isOutside path e.callee

/-- The content of a covered file. It must have been read and be the one that was recorded. -/
def checkedContent (g : Snapshot) (path : Path) (file : CoveredFile) : Except Error ByteArray :=
  match file.content with
  | none =>
    match file.readError.filter (· ≠ "") with
    | some reason => .error (.unreadable reason)
    | none => .error (.noContent path)
  | some content =>
    if file.recordedHash.all (· == Digest.contentHash content) then .ok content
    else .error (.contentChanged path g.id)

/-- The row of a file at a time. -/
def fileMetrics (g : Snapshot) (path : Path) (now : Int) : Except Error FileMetrics := do
  match g.files[path]? with
  | none => .error (.fileNotCovered g.id path)
  | some file =>
    let symbols ← g.symbolsInFile path
    if symbols.isEmpty then .error (.fileWithoutSymbols path)
    else
      let content ← g.checkedContent path file
      let estimated ← estimateLines (.int content.size)
      return {
        path
        symbolCount := .int symbols.length
        loc := .int (countLines content)
        estimatedLoc := .real estimated
        fanIn := .int (g.fileFanIn path symbols)
        fanOut := .int (g.fileFanOut path symbols)
        lastUpdated := .int now }

/-- The row of a symbol at a time. -/
def symbolMetrics (g : Snapshot) (id : Int) (now : Int) : Except Error SymbolMetrics :=
  match g.symbol? id with
  | none => .error (.noSymbol id)
  | some s =>
    if g.isComplete id then do
      let lines ← s.lineCount
      let estimated ← estimateLines (← s.byteCount)
      return {
        symbolId := s.id
        name := s.name
        kind := Vocabulary.text s.kind
        path := s.file
        loc := lines
        estimatedLoc := .real estimated
        fanIn := .int ((g.incoming id).countP fun e => g.isOther id e.caller)
        fanOut := .int ((g.outgoing id).countP fun e => g.isOther id e.callee)
        lastUpdated := .int now
        cyclomatic := .int placeholderComplexity
        source := .placeholder }
    else .error (.symbolNotCovered g.id id)

end Snapshot

/-- Let a reported error be a result and pass every other one on. -/
def tolerateReported {α : Type} (r : Except Error α) : Except Error (Except Error α) :=
  match r with
  | .ok a => .ok (.ok a)
  | .error e => if e.isReported then .ok (.error e) else .error e

/-- The rows computed from one snapshot and the entities that failed, each once. -/
structure Aggregate where
  snapshot : Nat
  files : List FileMetrics
  symbols : List SymbolMetrics
  fileFailures : List (Path × Error)
  symbolFailures : List (Int × Error)

/-- The rows among results that belong to keys. -/
def rowsOf {κ α : Type} (results : List (κ × Except Error α)) : List α :=
  results.filterMap fun (_, r) => r.toOption

/-- The keys whose results failed with their errors, each key once. -/
def failuresOf {κ α : Type} [BEq κ] (results : List (κ × Except Error α)) : List (κ × Error) :=
  results.foldl (fun failures (key, r) =>
    match r with
    | .ok _ => failures
    | .error e => if failures.any (·.1 == key) then failures else failures ++ [(key, e)]) []

namespace Aggregate

/-- Whether some content was not the one that the graph was made from. -/
def isInconsistent (a : Aggregate) : Bool :=
  a.fileFailures.any (·.2.isInconsistency) || a.symbolFailures.any (·.2.isInconsistency)

end Aggregate

/-- What became of one of the files asked for: the ids of its symbols, and its row or the error. -/
structure MeasuredFile where
  symbols : List Int
  path : Path
  row : Except Error FileMetrics

/-- What becomes of one of the files asked for. -/
def Snapshot.measureFile (g : Snapshot) (now : Int) (path : Path) : Except Error MeasuredFile := do
  let own ← g.symbolsInFile path
  let row ← tolerateReported (g.fileMetrics path now)
  return ⟨own.map (·.id), path, row⟩

/-- The order in which files are measured: by path, repetitions included. -/
def inPathOrder (files : List Path) : List Path :=
  sortedBy (fun p q => (compare p q).isLE) files

/-- The rows of the given files in path order, all at one time. -/
def Snapshot.measureFiles (g : Snapshot) (files : List Path) (now : Int) :
    Except Error (List MeasuredFile) :=
  (inPathOrder files).mapM (g.measureFile now)

/-- The rows of measured files, and of their symbols and the further ones in order of id, all at
one time. -/
def Snapshot.aggregateFrom (g : Snapshot) (measured : List MeasuredFile) (symbols : List Int)
    (now : Int) : Except Error Aggregate := do
  let wanted := ExtTreeSet.ofList (symbols ++ measured.flatMap (·.symbols))
  let symbolResults ← wanted.toList.mapM fun id => do
    let row ← tolerateReported (g.symbolMetrics id now)
    return (id, row)
  let perFile := measured.map fun m => (m.path, m.row)
  return {
    snapshot := g.id
    files := rowsOf perFile
    symbols := rowsOf symbolResults
    fileFailures := failuresOf perFile
    symbolFailures := failuresOf symbolResults }

/-- The rows of the given files in path order, repetitions included, and of their symbols and the
further ones in order of id, all at one time. -/
def Snapshot.aggregate (g : Snapshot) (files : List Path) (symbols : List Int) (now : Int) :
    Except Error Aggregate := do
  g.aggregateFrom (← g.measureFiles files now) symbols now

end CodeGauge
