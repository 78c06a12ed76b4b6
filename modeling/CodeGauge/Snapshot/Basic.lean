import CodeGauge.Graph.Symbol
import Std.Data.ExtTreeMap
import Std.Data.ExtTreeSet

/-!
# Graph snapshots

A snapshot is the part of the graph that one recomputation reads, taken at one moment. Its symbols
are *complete* when every edge that touches them was loaded, and known as context only when they are
merely the other end of such an edge. A file is covered when all its symbols and its content, or the
reason why it has none, were loaded. Edges are kept in order of arrival, each id once. Follows
section 10.2 of the specification.
-/

open Std

namespace CodeGauge

/-- What a snapshot has of a covered file. -/
structure CoveredFile where
  symbols : List Int
  content : Option ByteArray
  readError : Option String
  recordedHash : Option String

/-- A part of the graph at one moment. -/
structure Snapshot where
  id : Nat
  symbols : ExtTreeMap Int Symbol := ∅
  complete : ExtTreeSet Int := ∅
  edges : List Edge := []
  files : ExtTreeMap Path CoveredFile := ∅

namespace Snapshot

/-- Add or replace a symbol. What was complete stays so. -/
def addSymbol (g : Snapshot) (s : Symbol) (complete : Bool := true) : Snapshot :=
  { g with
    symbols := g.symbols.insert s.id s
    complete := if complete then g.complete.insert s.id else g.complete }

/-- Add an edge, unless one with its id arrived before. -/
def addEdge (g : Snapshot) (e : Edge) : Snapshot :=
  if g.edges.any (·.id == e.id) then g else { g with edges := g.edges ++ [e] }

/-- Cover a file. What is not given anew is kept from an earlier covering, apart from the
symbols. -/
def addFile (g : Snapshot) (path : Path) (file : CoveredFile) : Snapshot :=
  let old := g.files[path]?
  { g with
    files := g.files.insert path
      { symbols := file.symbols
        content := file.content <|> old.bind (·.content)
        readError := file.readError <|> old.bind (·.readError)
        recordedHash := file.recordedHash <|> old.bind (·.recordedHash) } }

/-- The symbol with an id. -/
def symbol? (g : Snapshot) (id : Int) : Option Symbol :=
  g.symbols[id]?

/-- Whether every edge that touches the symbol was loaded. -/
def isComplete (g : Snapshot) (id : Int) : Bool :=
  g.complete.contains id

/-- Whether the file is covered. -/
def covers (g : Snapshot) (path : Path) : Bool :=
  g.files.contains path

/-- The edges from a symbol, in order of arrival. -/
def outgoing (g : Snapshot) (id : Int) : List Edge :=
  g.edges.filter (·.caller.id? == some id)

/-- The edges to a symbol, in order of arrival. -/
def incoming (g : Snapshot) (id : Int) : List Edge :=
  g.edges.filter (·.callee.id? == some id)

/-- The symbols registered for a file, in the order of registration; an id must have its symbol. -/
def symbolsInFile (g : Snapshot) (path : Path) : Except Error (List Symbol) :=
  ((g.files[path]?).elim [] (·.symbols)).mapM fun id =>
    match g.symbol? id with
    | some s => .ok s
    | none => .error (.unknownId id)

/-- The file a known symbol lies in. -/
def fileOf (g : Snapshot) (id : Int) : Option Path :=
  (g.symbol? id).map (·.file)

/-- The ends that an edge joins to one of the given ids. -/
def ends (g : Snapshot) (ids : ExtTreeSet Int) : List Value :=
  g.edges.flatMap fun e =>
    (if (e.caller.id?).any ids.contains then [e.callee] else []) ++
      if (e.callee.id?).any ids.contains then [e.caller] else []

/-- The ids that an edge joins to one of the given ids. -/
def neighbors (g : Snapshot) (ids : ExtTreeSet Int) : ExtTreeSet Int :=
  .ofList ((g.ends ids).filterMap Value.id?)

/-- The one-line text of a snapshot. -/
def summary (g : Snapshot) : String :=
  s!"GraphSnapshot(id={g.id}, nodes={g.symbols.size}, edges={g.edges.length}, files={g.files.size})"

end Snapshot

end CodeGauge
