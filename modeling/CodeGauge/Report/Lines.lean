import CodeGauge.Console.Print
import CodeGauge.Store.Metrics

/-!
# Reports in lines

What is shown of metrics rows, statistics and the database to a reader of text. Estimated lines have
one decimal place and scores two.
-/

namespace CodeGauge

/-- What is shown of a recomputation. -/
def Stats.shown (s : Stats) : List (Except Error Shown) :=
  [shownLine "[green]Done![/green]", shownLine s!"  Files updated: {s.filesUpdated}",
    shownLine s!"  Symbols updated: {s.symbolsUpdated}"] ++
  (if s.filesDeleted = 0 ∧ s.symbolsDeleted = 0 then []
    else [shownLine s!"  [dim]Deleted: {s.filesDeleted} files, {s.symbolsDeleted} symbols[/]"]) ++
  (if s.retries = 0 then [] else [shownLine s!"  [dim]Snapshot retries: {s.retries}[/]"]) ++
  (if s.errors.isEmpty then [] else
    shownLine s!"  [red]Errors: {s.errors.length}[/red]" ::
      s.errors.map fun (key, message) => shownLine s!"    {key}: {message}")

/-- What is shown of two sizes, the exact one and the estimated one. -/
def shownSize (loc estimatedLoc : Value) : Except Error Shown := do
  return .line s!"  LOC: {loc.shown} [dim](estimated {← estimatedLoc.tenths})[/]"

/-- What is shown of a file's row. -/
def FileMetrics.shown (row : FileMetrics) : List (Except Error Shown) := [
  shownLine s!"[bold cyan]{row.path}[/]",
  shownSize row.loc row.estimatedLoc,
  shownLine s!"  Symbols: {row.symbolCount.shown}",
  shownLine s!"  Fan-in: {row.fanIn.shown}  Fan-out: {row.fanOut.shown}",
  row.score.map fun score => .line s!"  Complexity score: [yellow]{score.toFixed 2}[/]"]

/-- What is shown of a symbol's row. -/
def SymbolMetrics.shown (row : SymbolMetrics) : List (Except Error Shown) := [
  shownLine s!"[bold cyan]{row.name}[/] ({row.kind})",
  shownLine s!"  [dim]{row.path}[/]",
  shownSize row.loc row.estimatedLoc,
  shownLine s!"  Fan-in: {row.fanIn.shown}  Fan-out: {row.fanOut.shown}",
  shownLine (s!"  Cyclomatic complexity: {row.cyclomatic.shown} " ++
    s!"[dim]({Vocabulary.text row.source})[/]")]

/-- The table of a file's symbols. The star says that the complexity is not measured. -/
def symbolTable (rows : List SymbolMetrics) : TextTable where
  header := ["id", "name", "kind", "loc", "fan-in", "fan-out", "cc"]
  rows := rows.map fun row =>
    [toString row.symbolId, row.name, row.kind, row.loc.shown, row.fanIn.shown,
      row.fanOut.shown, s!"{row.cyclomatic.shown}*"]

/-- What is shown of a file's symbols, if it has any. -/
def shownSymbols (rows : List SymbolMetrics) : List (Except Error Shown) :=
  if rows.isEmpty then []
  else [.ok (.table (symbolTable rows)),
    shownLine "[dim]* cyclomatic complexity is a placeholder, not measured[/]"]

/-- The table of files by score. -/
def hotspotTable (rows : List FileMetrics) : Except Error TextTable := do
  let cells ← rows.mapM fun row => do
    let score ← row.score
    return [row.path.toString, score.toFixed 2, row.loc.shown, row.fanIn.shown,
      row.fanOut.shown, row.symbolCount.shown]
  return ⟨["file", "score", "loc", "fan-in", "fan-out", "symbols"], cells⟩

/-- What is shown of files by score. -/
def shownHotspots (rows : List FileMetrics) : List (Except Error Shown) :=
  if rows.isEmpty then [shownLine "No metered files match"]
  else [(hotspotTable rows).map .table]

/-- What is shown of the database. -/
def StoreStats.shown (s : StoreStats) : List (Except Error Shown) :=
  [shownLine s!"Files: {s.files}", shownLine s!"Symbols: {s.symbols}",
    shownLine s!"Edges: {s.edges}", shownLine s!"File metrics rows: {s.fileMetrics}",
    shownLine s!"Symbol metrics rows: {s.symbolMetrics}"] ++
  (s.lastIndexed.map fun t => shownLine s!"Last indexed: {t}").toList

end CodeGauge
