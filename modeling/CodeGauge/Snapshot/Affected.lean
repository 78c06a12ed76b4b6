import CodeGauge.Affected
import CodeGauge.Snapshot.Basic

/-!
# What a change affects

Edge counts reach one edge far, so the entities whose rows a change can alter lie at most one edge
away from what changed. Each of them is guarded by a key with its id in it, so an edge that joins
them to something that is no id cannot be followed. Follows sections 4.2, 9 and 10.4 of the
specification.
-/

open Std

namespace CodeGauge.Snapshot

/-- The files of those ids that the snapshot knows. -/
def filesOf (g : Snapshot) (ids : ExtTreeSet Int) : ExtTreeSet Path :=
  .ofList (ids.toList.filterMap g.fileOf)

/-- The error of an end that is no id, if it is none. -/
def endFault? : Value → Option Error
  | .text _ => some (.unsuitedFormat 'd' "str")
  | .real _ => some (.unsuitedFormat 'd' "float")
  | _ => none

/-- The given symbols, their neighbors, and the given files with those of all these symbols. -/
def surrounded (g : Snapshot) (files : ExtTreeSet Path) (symbols : ExtTreeSet Int) :
    Except Error Affected :=
  match (g.ends symbols).findSome? endFault? with
  | some e => .error e
  | none =>
    let all := symbols ∪ g.neighbors symbols
    .ok ⟨files ∪ g.filesOf all, all⟩

/-- A file, its symbols, and what lies one edge away from them. -/
def affectedByFile (g : Snapshot) (path : Path) : Except Error Affected := do
  let own ← g.symbolsInFile path
  g.surrounded (.ofList [path]) (.ofList (own.map (·.id)))

/-- Symbols, their files, and what lies one edge away. Ids without a symbol are kept. -/
def affectedBySymbols (g : Snapshot) (ids : ExtTreeSet Int) : Except Error Affected :=
  g.surrounded ∅ ids

/-- Both ends of every given edge and their files; no other count can change. -/
def affectedByEdges (g : Snapshot) (ends : List (Int × Int)) : Affected :=
  let ids := ExtTreeSet.ofList (ends.flatMap fun (caller, callee) => [caller, callee])
  ⟨g.filesOf ids, ids⟩

/-- Every covered file and every complete symbol. -/
def affectedByAll (g : Snapshot) : Affected :=
  ⟨.ofList g.files.keys, g.complete⟩

end CodeGauge.Snapshot
