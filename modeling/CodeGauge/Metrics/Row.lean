import CodeGauge.Graph.Symbol
import CodeGauge.Metrics.Measure
import Std.Data.ExtTreeSet

/-!
# Metrics rows, batches and statistics

A row holds the precomputed measures of one file or one symbol, each as a value: a row that a caller
offers may lack some, and the store decides what it takes. A batch is everything one recomputation
writes, and the statistics count what it did. Follows sections 3 and 10.5 of the specification.
-/

open Std

namespace CodeGauge

/-- Where a symbol's cyclomatic complexity came from. -/
inductive ComplexitySource where
  | placeholder
  | measured
  deriving DecidableEq, Repr

/-- The words for the sources of a complexity. -/
instance : Vocabulary ComplexitySource where
  title := "ComplexitySource"
  values := [.placeholder, .measured]
  text
    | .placeholder => "placeholder"
    | .measured => "measured"

/-- The cyclomatic complexity that stands for a measured one. -/
def placeholderComplexity : Int := 1

/-- The measures of one file. -/
structure FileMetrics where
  path : Path
  symbolCount : Value
  loc : Value
  estimatedLoc : Value
  fanIn : Value
  fanOut : Value
  lastUpdated : Value
  deriving DecidableEq

/-- The measures of one symbol. -/
structure SymbolMetrics where
  symbolId : Int
  name : String
  kind : String
  path : Path
  loc : Value
  estimatedLoc : Value
  fanIn : Value
  fanOut : Value
  lastUpdated : Value
  cyclomatic : Value
  source : ComplexitySource
  deriving DecidableEq

/-- A symbol row as offered: the store chooses an id that is not given, and refuses a row without a
name or kind. -/
structure SymbolMetrics.Draft where
  symbolId : Option Int
  name : Option String
  kind : Option String
  path : Path
  loc : Value
  estimatedLoc : Value
  fanIn : Value
  fanOut : Value
  lastUpdated : Value
  cyclomatic : Value
  source : ComplexitySource
  deriving DecidableEq

/-- A complete row offered as it is. -/
def SymbolMetrics.draft (row : SymbolMetrics) : SymbolMetrics.Draft :=
  { symbolId := row.symbolId, name := row.name, kind := row.kind, path := row.path, loc := row.loc,
    estimatedLoc := row.estimatedLoc, fanIn := row.fanIn, fanOut := row.fanOut,
    lastUpdated := row.lastUpdated, cyclomatic := row.cyclomatic, source := row.source }

/-- The score that the row's own fields give. -/
def FileMetrics.score (row : FileMetrics) : Except Error Binary64 :=
  complexity row.loc row.fanIn row.fanOut

/-- All writes of one recomputation. -/
structure Batch where
  fileRows : List FileMetrics := []
  symbolRows : List SymbolMetrics.Draft := []
  deletedFiles : ExtTreeSet Path := ∅
  deletedSymbols : ExtTreeSet Int := ∅
  deriving DecidableEq

/-- Whether the batch writes nothing. -/
def Batch.isEmpty (b : Batch) : Bool :=
  b.fileRows.isEmpty && b.symbolRows.isEmpty && b.deletedFiles.isEmpty && b.deletedSymbols.isEmpty

/-- What a recomputation did, with a message for each entity that kept its previous row. -/
structure Stats where
  filesUpdated : Int := 0
  symbolsUpdated : Int := 0
  filesDeleted : Int := 0
  symbolsDeleted : Int := 0
  retries : Int := 0
  errors : List (String × String) := []
  deriving DecidableEq, Repr

namespace Stats

/-- Count by count the sum of two statistics, the errors of the first before those of the second. -/
def merge (s t : Stats) : Stats :=
  { filesUpdated := s.filesUpdated + t.filesUpdated
    symbolsUpdated := s.symbolsUpdated + t.symbolsUpdated
    filesDeleted := s.filesDeleted + t.filesDeleted
    symbolsDeleted := s.symbolsDeleted + t.symbolsDeleted
    retries := s.retries + t.retries
    errors := s.errors ++ t.errors }

/-- What writing a batch adds to the statistics. -/
def count (s : Stats) (b : Batch) : Stats :=
  { s with
    filesUpdated := s.filesUpdated + b.fileRows.length
    symbolsUpdated := s.symbolsUpdated + b.symbolRows.length
    filesDeleted := s.filesDeleted + b.deletedFiles.size
    symbolsDeleted := s.symbolsDeleted + b.deletedSymbols.size }

/-- The one-line text of the statistics. -/
def summary (s : Stats) : String :=
  s!"RecomputeStats(files_updated={s.filesUpdated}, symbols_updated={s.symbolsUpdated}, " ++
    s!"files_deleted={s.filesDeleted}, symbols_deleted={s.symbolsDeleted}, " ++
    s!"retries={s.retries}, errors={s.errors.length})"

end Stats

end CodeGauge
