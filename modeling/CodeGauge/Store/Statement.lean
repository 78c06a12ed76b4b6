import CodeGauge.Store.Database

/-!
# Statements

The statements that are run on a database. A statement names the tables it needs, in the order in
which they are missed. Those that take a list of values are different statements for lists of
different lengths.
-/

namespace CodeGauge

/-- The most values that a statement may list. It is settled when the database library is built, and
no usual build allows fewer than 999, which is more than any statement takes that lists none. -/
structure Capacity where
  listed : Nat
  ample : 999 ≤ listed

/-- The capacity of builds that allow long lists. -/
def Capacity.wide : Capacity :=
  ⟨250000, by decide⟩

/-- A statement, apart from the values it is run with. -/
inductive Statement where
  | insertSymbol
  | symbolById
  | symbolsByIds (count : Nat)
  | symbolsInFile
  | symbolsInFiles (count : Nat)
  | allSymbols
  | symbolFiles
  | deleteSymbol
  | deleteSymbolsInFile
  | clearSymbols
  | insertEdge
  | outgoingEdges
  | incomingEdges
  | touchingEdges (count : Nat)
  | allEdges
  | deleteEdge
  | deleteEdgesOfSymbol
  | deleteEdgesOfFile
  | clearEdges
  | upsertFile
  | fileByPath
  | hashesOfFiles (count : Nat)
  | deleteFile
  | clearFiles
  | upsertFileMetrics
  | upsertSymbolMetrics
  | deleteFileMetrics
  | deleteSymbolMetrics
  | deleteSymbolMetricsInFile
  | fileMetricsByPath
  | symbolMetricsById
  | allFileMetrics
  | fileMetricsByPrefix
  | allSymbolMetrics
  | symbolMetricsInFile
  | symbolIdsInFile
  | hotspots (byLines byFanIn byFanOut : Bool)
  | countFileMetrics
  | countSymbolMetrics
  | clearFileMetrics
  | clearSymbolMetrics
  | countGraphFiles
  | countSymbols
  | countEdges
  | lastIndexed
  | setColumn (table : TableName) (column : String)
  deriving DecidableEq, Repr

namespace Statement

/-- The tables that a statement needs, in the order in which they are missed. -/
def tables : Statement → List TableName
  | insertSymbol | symbolById | symbolsByIds _ | symbolsInFile | symbolsInFiles _ | allSymbols
  | symbolFiles | deleteSymbol | deleteSymbolsInFile | clearSymbols | countGraphFiles
  | countSymbols => [.symbols]
  | insertEdge | outgoingEdges | incomingEdges | touchingEdges _ | allEdges | deleteEdge
  | deleteEdgesOfSymbol | clearEdges | countEdges => [.edges]
  | deleteEdgesOfFile => [.edges, .symbols]
  | upsertFile | fileByPath | hashesOfFiles _ | deleteFile | clearFiles | lastIndexed => [.files]
  | upsertFileMetrics | deleteFileMetrics | fileMetricsByPath | allFileMetrics | fileMetricsByPrefix
  | hotspots .. | countFileMetrics | clearFileMetrics => [.fileMetrics]
  | upsertSymbolMetrics | deleteSymbolMetrics | deleteSymbolMetricsInFile | symbolMetricsById
  | allSymbolMetrics | symbolMetricsInFile | symbolIdsInFile | countSymbolMetrics
  | clearSymbolMetrics => [.symbolMetrics]
  | setColumn table _ => [table]

/-- How many values a statement that takes a list of them is run with. -/
def listed : Statement → Nat
  | symbolsByIds count | symbolsInFiles count | hashesOfFiles count => count
  | touchingEdges count => 2 * count
  | _ => 0

/-- The column that a statement names and its table lacks, if there is one. -/
def unknownColumn? : Statement → Option String
  | setColumn table column => if (table.role? column).isNone then some column else none
  | _ => none

/-- Whether a statement writes to the file even when it leaves the tables as they are. -/
def alwaysWrites : Statement → Bool
  | clearSymbols | clearEdges | clearFiles | clearFileMetrics | clearSymbolMetrics
  | upsertFileMetrics | upsertSymbolMetrics => true
  | _ => false

end Statement

end CodeGauge
