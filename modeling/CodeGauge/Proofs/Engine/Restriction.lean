import CodeGauge.Proofs.Engine.Refresh
import CodeGauge.Proofs.Snapshot.Agreement

/-!
# A part of the graph and the whole of it

A snapshot of a part of the graph restricts that of the whole (`Snapshot.Restricts`): it covers the
files and has the complete symbols that were asked for, with all their edges, and what is computed
from it is what the whole would give. So it is enough to load what a change affects.
-/

open Std

namespace CodeGauge.Snapshot

/-- The snapshot of a part of the graph restricts that of the whole to the wanted files and symbols:
it covers these files, and has complete the stored ones among these symbols and those of these
files. A complete symbol has all its stored edges, each once and as in the whole, with their stored
ends; what else is known is context. So rows are the same, and errors up to the number of the
snapshot. -/
structure Restricts (part whole : Snapshot) (wanted : Affected) (db : Database) : Prop where
  files : ∀ path, part.covers path = true ↔ path ∈ wanted.files
  complete : ∀ id, part.isComplete id = true ↔ ∃ row, db.symbols[id]? = some row ∧
    (id ∈ wanted.symbols ∨ Path.ofString row.file ∈ wanted.files)
  known : ∀ id, part.isComplete id = true → (part.symbol? id).isSome
  incoming : ∀ id, part.isComplete id = true →
    part.incoming id = whole.incoming id ∧
      edgesOf (db.edgesWhere fun e => e.callee.id? == some id) = .ok (part.incoming id)
  outgoing : ∀ id, part.isComplete id = true →
    part.outgoing id = whole.outgoing id ∧
      edgesOf (db.edgesWhere fun e => e.caller.id? == some id) = .ok (part.outgoing id)
  ends : ∀ id, part.isComplete id = true → ∀ e ∈ part.incoming id ++ part.outgoing id,
    ∀ v, v = e.caller ∨ v = e.callee → ∀ n, v.id? = some n →
      (db.symbols[n]?).isSome → (part.symbol? n).isSome
  context : ∀ id s, part.symbol? id = some s → whole.symbol? id = some s ∧
    (¬(id ∈ wanted.symbols ∨ s.file ∈ wanted.files) → part.isComplete id = false)
  symbolRows : ∀ id, part.isComplete id = true → ∀ now,
    part.symbolMetrics id now = whole.symbolMetrics id now
  fileRows : ∀ path ∈ wanted.files, db.symbolCount path.toString ≠ 0 → ∀ now,
    whole.fileMetrics path now =
      (part.fileMetrics path now).mapError (·.renumbered whole.id)

variable {g g' : Snapshot} {wanted : Affected} {db : Database} {disk : Disk} {root : Path}

/-- What shows a part of the tables restricts what shows all of them. -/
theorem Shows.restricts (part : g.Shows wanted db disk root) (whole : g'.ShowsAll db disk root)
    (normal : db.Normal) : g.Restricts g' wanted db := by
  have complete (id : Int) : g.isComplete id = true ↔ id ∈ g.complete :=
    ExtTreeSet.contains_iff_mem
  have inWhole {id : Int} (hc : id ∈ g.complete) : id ∈ g'.complete := by
    obtain ⟨row, hr, _⟩ := (part.complete id).mp hc
    rw [whole.complete, hr]
    rfl
  constructor
  · intro path
    rw [covers, ExtTreeMap.contains_iff_mem]
    exact part.files path
  · intro id
    rw [complete]
    exact part.complete id
  · intro id hc
    exact part.mirrors.complete id ((complete id).mp hc)
  · intro id hc
    rw [complete] at hc
    exact ⟨part.mirrors.incoming_eq whole.mirrors hc (inWhole hc), part.mirrors.edgesOf_incoming hc⟩
  · intro id hc
    rw [complete] at hc
    exact ⟨part.mirrors.outgoing_eq whole.mirrors hc (inWhole hc), part.mirrors.edgesOf_outgoing hc⟩
  · intro id _ e he v hv n hn stored
    have loaded : e ∈ g.edges := by
      rcases List.mem_append.mp he with he | he
      · exact (List.mem_filter.mp he).1
      · exact (List.mem_filter.mp he).1
    exact part.mirrors.ends e loaded v hv n hn stored
  · intro id s hs
    obtain ⟨row, hr, made⟩ := part.mirrors.known id s hs
    have present : id ∈ g'.complete := by
      rw [whole.complete, hr]
      rfl
    obtain ⟨s', hs'⟩ := Option.isSome_iff_exists.mp (whole.mirrors.complete id present)
    obtain rfl := part.mirrors.symbol?_eq whole.mirrors hs hs'
    refine ⟨hs', fun unwanted => ?_⟩
    rw [Bool.eq_false_iff, ne_eq, complete, part.complete]
    rintro ⟨row', hr', asked⟩
    rw [hr] at hr'
    cases hr'
    rw [← (SymbolRow.symbol_eq_ok made).2.1] at asked
    exact unwanted asked
  · intro id hc now
    rw [complete] at hc
    exact part.mirrors.symbolMetrics_eq whole.mirrors normal hc (inWhole hc) now
  · intro path asked some_symbol now
    have covered : path ∈ g'.files := by
      rw [whole.files]
      rw [Database.symbolCount, ← Nat.pos_iff_ne_zero, List.countP_pos_iff] at some_symbol
      obtain ⟨⟨id, row⟩, stored, own⟩ := some_symbol
      refine ⟨id, row, ExtTreeMap.mem_toList_iff_getElem?_eq_some.mp stored, ?_⟩
      rw [eq_of_beq own, Path.ofString_toString]
    exact part.mirrors.fileMetrics_eq whole.mirrors normal ((part.files path).mpr asked) covered
      some_symbol rfl now

/-! ## Loading without a root -/

/-- Without a root, files lie where they would below the directory one is in. -/
theorem diskPath_none (path : Path) : diskPath none path = diskPath (some .here) path := by
  change path = Path.join .here path
  rw [Path.join]
  cases hr : path.root with
  | relative => exact Path.ext hr rfl
  | slash => rfl
  | twoSlashes => rfl

private theorem readContent_none (disk : Disk) (path : Path) :
    readContent disk none path = readContent disk (some .here) path := by
  rw [readContent, readContent, diskPath_none]

variable {ω : Type}

/-- Without a root a part is loaded as with the current directory. -/
theorem loadPart_none (wanted : Affected) :
    (loadPart wanted none : Action ω Snapshot) = loadPart wanted (some .here) := by
  unfold loadPart cover
  simp only [readContent_none]

/-- Without a root the whole graph is loaded as with the current directory. -/
theorem loadAll_none : (loadAll none : Action ω Snapshot) = loadAll (some .here) := by
  unfold loadAll cover
  simp only [readContent_none]

/-- What is loaded as a part of the graph shows that part. -/
theorem shows_of_loadPart {w v : World ω} (shows : w.Shows db disk) (normal : db.Normal)
    (root : Option Path) (part : (loadPart wanted root).runIn w = (.ok g, v)) :
    g.Shows wanted db disk (root.getD .here) := by
  have rooted {root : Path} (part : (loadPart wanted (some root)).runIn w = (.ok g, v)) :
      g.Shows wanted db disk root := by
    obtain ⟨o, isOpen, sameDisk, _, opened⟩ := shows.exists_open
    rw [opened _ (opens_loadPart wanted)] at part
    rw [← sameDisk]
    exact (loadPart_ensures isOpen normal wanted g v part).1
  cases root with
  | some root => exact rooted part
  | none =>
    rw [loadPart_none] at part
    exact rooted part

/-- What is loaded as the whole of the graph shows all of it. -/
theorem shows_of_loadAll {w v : World ω} (shows : w.Shows db disk) (normal : db.Normal)
    (root : Option Path) (whole : (loadAll root).runIn w = (.ok g, v)) :
    g.ShowsAll db disk (root.getD .here) := by
  have rooted {root : Path} (whole : (loadAll (some root)).runIn w = (.ok g, v)) :
      g.ShowsAll db disk root := by
    obtain ⟨o, isOpen, sameDisk, _, opened⟩ := shows.exists_open
    rw [opened _ opens_loadAll] at whole
    rw [← sameDisk]
    exact (loadAll_ensures isOpen normal g v whole).1
  cases root with
  | some root => exact rooted whole
  | none =>
    rw [loadAll_none] at whole
    exact rooted whole

/-- If a part of the graph and the whole of it are both loaded from the same tables and disk, the
first snapshot restricts the second. -/
theorem loadPart_restricts {w w' v v' : World ω} (shows : w.Shows db disk)
    (shows' : w'.Shows db disk) (normal : db.Normal) (root : Option Path)
    (part : (loadPart wanted root).runIn w = (.ok g, v))
    (whole : (loadAll root).runIn w' = (.ok g', v')) : g.Restricts g' wanted db :=
  (shows_of_loadPart shows normal root part).restricts (shows_of_loadAll shows' normal root whole)
    normal

/-- Of the small repository, the part at its first symbol and the whole. -/
theorem sample_restricts :
    ∃ g g' v v', (loadPart (.of [] [1]) (some Sample.root)).runIn (Sample.world Sample.tables) =
        (.ok g, v) ∧
      (loadAll (some Sample.root)).runIn (Sample.world Sample.tables) = (.ok g', v') ∧
      g.Restricts g' (.of [] [1]) Sample.tables := by
  have normal : Sample.tables.Normal := by decide +kernel
  have shows := Sample.world_shows Sample.tables
  have part_returns : ((loadPart (.of [] [1]) (some Sample.root)).runIn
      (Sample.world Sample.tables)).1.toOption.isSome = true := by decide +kernel
  have whole_returns : ((loadAll (some Sample.root)).runIn
      (Sample.world Sample.tables)).1.toOption.isSome = true := by decide +kernel
  rcases part : (loadPart (.of [] [1]) (some Sample.root)).runIn
      (Sample.world Sample.tables) with ⟨e | g, v⟩
  · rw [part] at part_returns
    cases part_returns
  rcases whole : (loadAll (some Sample.root)).runIn
      (Sample.world Sample.tables) with ⟨e | g', v'⟩
  · rw [whole] at whole_returns
    cases whole_returns
  exact ⟨g, g', v, v', rfl, rfl,
    loadPart_restricts shows shows normal (some Sample.root) part whole⟩

end CodeGauge.Snapshot
