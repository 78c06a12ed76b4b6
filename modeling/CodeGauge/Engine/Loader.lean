import CodeGauge.Affected
import CodeGauge.Snapshot.Basic
import CodeGauge.Store.Metrics

/-!
# Loading snapshots

A snapshot is read inside one transaction: the symbols of the requested files and the requested
symbols, which are complete, every edge that touches them, and the symbols at the other ends as
context. Contents come from the disk afterwards; one that cannot be read leaves the reason in its
place. Follows section 10.2 of the specification.
-/

open Std

namespace CodeGauge

/-- Where a file of the graph lies on the disk: relative to the root, if there is one. -/
def diskPath (root : Option Path) (path : Path) : Path :=
  root.elim path (· / path)

/-- The content of a file, or the reason why it cannot be read. -/
def readContent (disk : Disk) (root : Option Path) (path : Path) :
    Except Error (Option ByteArray × Option String) :=
  let place := diskPath root path
  match disk.read place with
  | .ok content => .ok (some content, none)
  | .error (.disk fault _) => .ok (none, some s!"Cannot read {place}: {fault.message place}")
  | .error e => .error e

/-- The ids of those of the symbols that lie in a file. -/
def idsIn (symbols : List Symbol) (path : Path) : List Int :=
  (symbols.filter (·.file == path)).map (·.id)

namespace Snapshot

/-- An empty snapshot with a fresh number; the number is used up even if the loading fails. -/
def fresh {ω : Type} : Action ω Snapshot := do
  Action.change fun w => { w with loads := w.loads + 1 }
  return { id := (← get).loads }

/-- The ends of edges. -/
def endsOf (edges : List Edge) : List Value :=
  edges.flatMap fun e => [e.caller, e.callee]

/-- The set of the ids of symbols. -/
def idSet (symbols : List Symbol) : ExtTreeSet Int :=
  .ofList (symbols.map (·.id))

/-- Cover a file: its ids, its content unless it has no symbol and is left unread, and its
digest. -/
def cover (g : Snapshot) (disk : Disk) (root : Option Path) (path : Path) (ids : List Int)
    (hash : Option String) (unread : Bool) : Except Error Snapshot := do
  let (content, readError) ← if unread then .ok (none, none) else readContent disk root path
  return g.addFile path { symbols := ids, content, readError, recordedHash := hash }

/-- The snapshot that covers the given files and has the given symbols complete. -/
def loadPart {ω : Type} (wanted : Affected) (root : Option Path) : Action ω Snapshot := do
  let g ← fresh
  let files := wanted.files.toList
  let (core, edges, context, hashes) ← Action.reportingGraphFaults <|
    Action.reading do
      let inFiles ← Graph.symbolsInFiles files
      let further ← Graph.symbolsById (wanted.symbols \ idSet inFiles)
      let core := inFiles ++ further
      let edges ← Graph.touching (idSet core)
      let ends := endsOf edges
      let others := (ends.filter (·.id?.isNone)).eraseDups
      let context ← Graph.symbolsAt (.ofList (ends.filterMap Value.id?) \ idSet core) others
      let hashes ← Graph.hashes files
      return (core, edges, context, hashes)
  let g := core.foldl (·.addSymbol ·) g
  let g := context.foldl (fun g s => g.addSymbol s false) g
  let g := edges.foldl (·.addEdge ·) g
  let disk := (← get).disk
  Action.of <| files.foldlM (fun g path =>
    let ids := sortedBy (fun i j => decide (i ≤ j)) (idsIn core path)
    g.cover disk root path ids hashes[path]? ids.isEmpty) g

/-- The snapshot of the whole graph, every file and symbol complete. -/
def loadAll {ω : Type} (root : Option Path) : Action ω Snapshot := do
  let g ← fresh
  let (symbols, edges, files, hashes) ← Action.reportingGraphFaults <|
    Action.reading do
      let symbols ← Graph.allSymbols
      let edges ← Graph.allEdges
      let files ← Graph.filePaths
      let hashes ← Graph.hashes files
      return (symbols, edges, files, hashes)
  let g := symbols.foldl (·.addSymbol ·) g
  let g := edges.foldl (·.addEdge ·) g
  let disk := (← get).disk
  Action.of <| (ExtTreeSet.ofList files).toList.foldlM (fun g path =>
    g.cover disk root path (idsIn symbols path) hashes[path]? false) g

end Snapshot

end CodeGauge
