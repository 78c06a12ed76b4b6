import CodeGauge.Report.Json
import CodeGauge.Store.Metrics

/-!
# Reports as documents
-/

namespace CodeGauge

/-- The document of rows of files. -/
def fileRowsReport (rows : List FileMetrics) : Except Error Json := do
  return .list (← rows.mapM (·.report))

/-- The document of rows of symbols. -/
def symbolRowsReport (rows : List SymbolMetrics) : Json :=
  .list (rows.map (·.draft.report))

/-- The document of a file's row, or null if it has none. -/
def fileRowReport (row : Option FileMetrics) : Except Error Json :=
  match row with
  | some row => row.report
  | none => .ok .null

/-- The document of a symbol's row, or null if it has none. -/
def symbolRowReport (row : Option SymbolMetrics) : Json :=
  .ofOption (·.draft.report) row

/-- The document of the database's statistics. -/
def StoreStats.report (s : StoreStats) : Json :=
  .object [
    ("files", .int s.files), ("symbols", .int s.symbols), ("edges", .int s.edges),
    ("file_metrics", .int s.fileMetrics), ("symbol_metrics", .int s.symbolMetrics),
    ("last_indexed", .ofOption .text s.lastIndexed)]

end CodeGauge
