import CodeGauge.Snapshot.Basic

/-!
# Indexed snapshots

A snapshot is asked again and again for the edges at one symbol, so these are not looked for among
all edges. Callers and callees each have a table of lists, an entry of which is made when its key
first occurs, with a symbol or with an edge; and the ids of the edges that arrived are a set. What
there is of a file is in four tables. `Snapshot` is what all of these say together. Follows section
10.2 of the specification.
-/

open Std

namespace CodeGauge

/-- What edges are filed under at one of their ends: the id that the end is, or the end itself. -/
inductive EndKey where
  | id (n : Int)
  | other (v : Value)
  deriving DecidableEq

/-- The key of an end. -/
def Value.endKey (v : Value) : EndKey :=
  v.id?.elim (.other v) .id

/-! ## Tables of edges -/

/-- Lists of edges under keys. Each key has one entry, in the order in which entries were made. -/
structure Adjacency where
  entries : List (EndKey × List Edge)
  nodup : (entries.map (·.1)).Nodup

namespace Adjacency

/-- The table without an entry. -/
def empty : Adjacency :=
  ⟨[], List.nodup_nil⟩

/-- The keys that have an entry. -/
def keys (a : Adjacency) : List EndKey :=
  a.entries.map (·.1)

/-- The list under a key. A key without an entry has none of its own and counts as empty. -/
def get (a : Adjacency) (key : EndKey) : List Edge :=
  (a.entries.lookup key).getD []

/-- The number of edges in all lists. -/
def total (a : Adjacency) : Nat :=
  (a.entries.flatMap (·.2)).length

/-- Make an empty entry unless the key has one. -/
def ensure (a : Adjacency) (key : EndKey) : Adjacency :=
  if absent : key ∉ a.keys then
    { entries := a.entries ++ [(key, [])]
      nodup := by
        rw [List.map_append, List.nodup_append]
        refine ⟨a.nodup, List.pairwise_singleton _ _, ?_⟩
        rintro k mem _ last rfl
        cases List.mem_singleton.mp last
        exact absent mem }
  else a

/-- Put an edge at the end of the list that a key has, if it has one. -/
def append (a : Adjacency) (key : EndKey) (e : Edge) : Adjacency where
  entries := a.entries.map fun x => (x.1, if x.1 = key then x.2 ++ [e] else x.2)
  nodup := by
    rw [List.map_map]
    exact a.nodup

/-- Put an edge at the end of the list under a key, of a new one if there is none. -/
def file (a : Adjacency) (key : EndKey) (e : Edge) : Adjacency :=
  (a.ensure key).append key e

end Adjacency

/-! ## Snapshots -/

/-- A part of the graph at one moment, with its edges filed at both ends. -/
structure IndexedSnapshot where
  id : Nat
  out : Adjacency := .empty
  into : Adjacency := .empty
  symbols : ExtTreeMap Int Symbol := ∅
  edgeIds : ExtTreeSet Int := ∅
  complete : ExtTreeSet Int := ∅
  fileSymbols : ExtTreeMap Path (List Int) := ∅
  contents : ExtTreeMap Path ByteArray := ∅
  readErrors : ExtTreeMap Path String := ∅
  hashes : ExtTreeMap Path String := ∅

namespace IndexedSnapshot

/-- Add or replace a symbol, and make it an entry at both ends. -/
def addSymbol (x : IndexedSnapshot) (s : Symbol) (complete : Bool := true) : IndexedSnapshot :=
  { x with
    symbols := x.symbols.insert s.id s
    out := x.out.ensure (.id s.id)
    into := x.into.ensure (.id s.id)
    complete := if complete then x.complete.insert s.id else x.complete }

/-- Add an edge at both ends, unless one with its id arrived before. -/
def addEdge (x : IndexedSnapshot) (e : Edge) : IndexedSnapshot :=
  if e.id ∈ x.edgeIds then x
  else
    { x with
      edgeIds := x.edgeIds.insert e.id
      out := x.out.file e.caller.endKey e
      into := x.into.file e.callee.endKey e }

/-- Cover a file. What is not given leaves its table as it is. -/
def addFile (x : IndexedSnapshot) (path : Path) (file : CoveredFile) : IndexedSnapshot :=
  { x with
    fileSymbols := x.fileSymbols.insert path file.symbols
    contents := file.content.elim x.contents (x.contents.insert path)
    readErrors := file.readError.elim x.readErrors (x.readErrors.insert path)
    hashes := file.recordedHash.elim x.hashes (x.hashes.insert path) }

/-- The symbol with an id. -/
def symbol? (x : IndexedSnapshot) (id : Int) : Option Symbol :=
  x.symbols[id]?

/-- Whether every edge that touches the symbol was loaded. -/
def isComplete (x : IndexedSnapshot) (id : Int) : Bool :=
  x.complete.contains id

/-- Whether the file is covered. -/
def covers (x : IndexedSnapshot) (path : Path) : Bool :=
  x.fileSymbols.contains path

/-- The edges from a symbol, in order of arrival. -/
def outgoing (x : IndexedSnapshot) (id : Int) : List Edge :=
  x.out.get (.id id)

/-- The edges to a symbol, in order of arrival. -/
def incoming (x : IndexedSnapshot) (id : Int) : List Edge :=
  x.into.get (.id id)

/-- The symbols registered for a file, in the order of registration; an id must have its symbol. -/
def symbolsInFile (x : IndexedSnapshot) (path : Path) : Except Error (List Symbol) :=
  ((x.fileSymbols[path]?).getD []).mapM fun id =>
    match x.symbol? id with
    | some s => .ok s
    | none => .error (.unknownId id)

/-- The file a known symbol lies in. -/
def fileOf (x : IndexedSnapshot) (id : Int) : Option Path :=
  (x.symbol? id).map (·.file)

/-- What was read of a file. -/
def content (x : IndexedSnapshot) (path : Path) : Option ByteArray :=
  x.contents[path]?

/-- The reason why a file could not be read. -/
def readError (x : IndexedSnapshot) (path : Path) : Option String :=
  x.readErrors[path]?

/-- The digest that was recorded of a file. -/
def recordedHash (x : IndexedSnapshot) (path : Path) : Option String :=
  x.hashes[path]?

/-- The ends that an edge joins to one of the given ids, id by id. -/
def ends (x : IndexedSnapshot) (ids : ExtTreeSet Int) : List Value :=
  ids.toList.flatMap fun id =>
    (x.outgoing id).map (·.callee) ++ (x.incoming id).map (·.caller)

/-- The ids that an edge joins to one of the given ids. -/
def neighbors (x : IndexedSnapshot) (ids : ExtTreeSet Int) : ExtTreeSet Int :=
  .ofList ((x.ends ids).filterMap Value.id?)

/-- The covered files, in order. -/
def files (x : IndexedSnapshot) : List Path :=
  x.fileSymbols.keys

/-- The number of symbols. -/
def numNodes (x : IndexedSnapshot) : Nat :=
  x.symbols.size

/-- The number of edges. -/
def numEdges (x : IndexedSnapshot) : Nat :=
  x.edgeIds.size

/-- The one-line text of a snapshot. -/
def summary (x : IndexedSnapshot) : String :=
  s!"GraphSnapshot(id={x.id}, nodes={x.numNodes}, edges={x.numEdges}, files={x.files.length})"

end IndexedSnapshot

end CodeGauge
