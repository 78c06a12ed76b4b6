import CodeGauge.Binary64
import CodeGauge.Metrics.Row

/-!
# JSON documents

Reports are documents: members keep the order in which they are written, and a number is an integer
of any size or a binary64 number.
-/

namespace CodeGauge

/-- A document. -/
inductive Json where
  | null
  | bool (b : Bool)
  | int (n : Int)
  | real (x : Binary64)
  | text (s : String)
  | list (items : List Json)
  | object (members : List (String × Json))
  deriving Inhabited

namespace Json

/-- A value of a column. -/
def ofValue : Value → Json
  | .null => .null
  | .int n => .int n
  | .real x => .real x
  | .text s => .text s

/-- A value that may be missing. -/
def ofOption {α : Type} (f : α → Json) : Option α → Json
  | some a => f a
  | none => .null

/-- Whether a value counts as said: null, false, zero and whatever is empty do not. -/
def isSaid : Json → Bool
  | .null => false
  | .bool b => b
  | .int n => n != 0
  | .real x => x.orderKey != 0
  | .text s => s != ""
  | .list l => !l.isEmpty
  | .object l => !l.isEmpty

end Json

/-- The document of a file row; its score is computed from its own fields. -/
def FileMetrics.report (row : FileMetrics) : Except Error Json := do
  let score ← row.score
  return .object [
    ("file_path", .text row.path.toString),
    ("symbol_count", .ofValue row.symbolCount),
    ("loc", .ofValue row.loc),
    ("estimated_loc", .ofValue row.estimatedLoc),
    ("fan_in", .ofValue row.fanIn),
    ("fan_out", .ofValue row.fanOut),
    ("complexity_score", .real score),
    ("last_updated", .ofValue row.lastUpdated)]

/-- The document of a symbol row. -/
def SymbolMetrics.Draft.report (row : SymbolMetrics.Draft) : Json :=
  .object [
    ("symbol_id", .ofOption .int row.symbolId),
    ("symbol_name", .ofOption .text row.name),
    ("kind", .ofOption .text row.kind),
    ("file_path", .text row.path.toString),
    ("loc", .ofValue row.loc),
    ("estimated_loc", .ofValue row.estimatedLoc),
    ("fan_in", .ofValue row.fanIn),
    ("fan_out", .ofValue row.fanOut),
    ("cyclomatic_complexity", .ofValue row.cyclomatic),
    ("complexity_source", .text (Vocabulary.text row.source)),
    ("last_updated", .ofValue row.lastUpdated)]

end CodeGauge
