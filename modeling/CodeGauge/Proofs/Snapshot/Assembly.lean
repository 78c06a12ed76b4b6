import CodeGauge.Proofs.Snapshot.Loading

/-!
# Assembled snapshots

Every snapshot is put together from a new one by adding symbols, edges and files in some order. What
one addition keeps, every assembled snapshot has: its symbols are filed under their ids
(`Snapshot.Assembled.keyed`).
-/

open Std

namespace CodeGauge.Snapshot

/-- A single thing that is added to a snapshot. -/
inductive Addition where
  | symbol (s : Symbol) (complete : Bool)
  | edge (e : Edge)
  | file (path : Path) (file : CoveredFile)

/-- Add one thing. -/
def add (g : Snapshot) : Addition → Snapshot
  | .symbol s complete => g.addSymbol s complete
  | .edge e => g.addEdge e
  | .file path file => g.addFile path file

/-- The snapshot of a number that is put together from additions. -/
def assemble (number : Nat) (additions : List Addition) : Snapshot :=
  additions.foldl add { id := number }

/-- The snapshot is put together from additions. -/
def Assembled (g : Snapshot) : Prop :=
  ∃ number additions, assemble number additions = g

/-- The snapshot has its symbols under their ids. -/
def Keyed (g : Snapshot) : Prop :=
  ∀ id s, g.symbol? id = some s → s.id = id

/-- An edge leaves the symbols as they are. -/
theorem symbols_addEdge {g : Snapshot} (e : Edge) : (g.addEdge e).symbols = g.symbols := by
  rw [addEdge]
  split
  · rfl
  · rfl

/-- An addition files a symbol under its id, or leaves the symbols as they are. -/
theorem Keyed.add {g : Snapshot} (keyed : g.Keyed) (addition : Addition) :
    (g.add addition).Keyed := by
  cases addition with
  | symbol s complete =>
    intro id s' held
    change (g.addSymbol s complete).symbol? id = some s' at held
    rw [symbol?_addSymbol] at held
    split at held
    · next own =>
      cases held
      exact own
    · exact keyed id s' held
  | edge e =>
    intro id s held
    change (g.addEdge e).symbols[id]? = some s at held
    rw [symbols_addEdge] at held
    exact keyed id s held
  | file path file => exact keyed

/-- An assembled snapshot has its symbols under their ids. -/
theorem Assembled.keyed {g : Snapshot} (assembled : g.Assembled) : g.Keyed := by
  obtain ⟨number, additions, rfl⟩ := assembled
  have general (additions : List Addition) (g : Snapshot) (keyed : g.Keyed) :
      (additions.foldl Snapshot.add g).Keyed := by
    induction additions generalizing g with
    | nil => exact keyed
    | cons addition additions ih => exact ih _ (keyed.add addition)
  apply general
  intro id s held
  change (∅ : ExtTreeMap Int Symbol)[id]? = some s at held
  rw [ExtTreeMap.getElem?_empty] at held
  cases held

end CodeGauge.Snapshot
