import CodeGauge.Proofs.Snapshot.Surroundings
import CodeGauge.Proofs.Store.Coping

/-!
# Parts of the graph that can be loaded and measured

Of an orderly graph (`Database.Orderly`) any part can be loaded, unless a statement would have to
list too many values. Each row of the part can then be computed and stored, or there is a report in
its place.
-/

open Std

namespace CodeGauge

variable {ω : Type} {db : Database} {disk : Disk} {root : Path} {now : Int}

/-- The tables are sound, every edge joins ids that a column can hold, and every symbol can be
metered. -/
structure Database.Orderly (db : Database) (root : Path) : Prop where
  sound : db.Sound
  wired : db.Wired
  meterable : ∀ (id : Int) (row : SymbolRow), db.symbols[id]? = some row → row.Meterable root

/-- A column can hold the ids of the set. -/
def Affected.Fits (A : Affected) : Prop :=
  ∀ id ∈ A.symbols, inColumn id = true

/-- What fits into columns does so together. -/
theorem Affected.Fits.union {A B : Affected} (hA : A.Fits) (hB : B.Fits) : (A ∪ B).Fits := by
  intro id mem
  exact (mem_symbols_union.mp mem).elim (hA id) (hB id)

/-- The ends of edges that were read are ids that a column can hold. -/
theorem Database.Wired.fit_of_ends (wired : db.Wired) {p : EdgeRow → Bool} {edges : List Edge}
    (he : edgesOf (db.edgesWhere p) = .ok edges) {v : Value} (mem : v ∈ Snapshot.endsOf edges) :
    ∃ id, v = .int id ∧ inColumn id = true := by
  obtain ⟨e, own, isEnd⟩ := List.mem_flatMap.mp mem
  obtain ⟨⟨n, row⟩, stored, read⟩ := (mem_of_mapM_eq_ok he e).mp own
  obtain ⟨_, caller, callee⟩ := EdgeRow.edge_eq_ok read
  have held := ExtTreeMap.mem_toList_iff_getElem?_eq_some.mp (List.mem_filter.mp stored).1
  apply wired n row held
  rw [← caller, ← callee]
  simpa using isEnd

namespace Snapshot

open CodeGauge.Action World

variable {w : World ω} {A : Affected} {g : Snapshot}

/-! ## Loading -/

private theorem no_others {edges : List Edge}
    (ids : ∀ v ∈ endsOf edges, ∃ id, v = .int id ∧ inColumn id = true) :
    ((endsOf edges).filter (·.id?.isNone)).eraseDups = [] := by
  have none : (endsOf edges).filter (·.id?.isNone) = [] := by
    rw [List.filter_eq_nil_iff]
    intro v mem
    obtain ⟨id, rfl, _⟩ := ids v mem
    simp [Value.id?]
  rw [none, List.eraseDups_nil]

-- What a part of the graph is read with, inside one transaction.
private def readPart (wanted : Affected) :
    Action ω (List Symbol × List Edge × List Symbol × ExtTreeMap Path String) := do
  let inFiles ← Graph.symbolsInFiles wanted.files.toList
  let further ← Graph.symbolsById (wanted.symbols \ idSet inFiles)
  let core := inFiles ++ further
  let edges ← Graph.touching (idSet core)
  let ends := endsOf edges
  let others := (ends.filter (·.id?.isNone)).eraseDups
  let context ← Graph.symbolsAt (.ofList (ends.filterMap Value.id?) \ idSet core) others
  let hashes ← Graph.hashes wanted.files.toList
  return (core, edges, context, hashes)

-- The symbols were read from rows of the tables.
private def Described (db : Database) (symbols : List Symbol) : Prop :=
  ∀ s ∈ symbols, ∃ row, db.symbols[s.id]? = some row ∧ row.symbol s.id = .ok s

private theorem described_core {inFiles further : List Symbol} {p : Int → SymbolRow → Bool}
    {ids : ExtTreeSet Int} (hi : symbolsOf (db.symbolsWhere p) = .ok inFiles)
    (hf : symbolsOf (db.symbolsAmong ids) = .ok further) : Described db (inFiles ++ further) := by
  intro s mem
  rcases List.mem_append.mp mem with own | own
  · exact (symbolsOf_rows (fun x hx => (Database.mem_symbolsWhere.mp hx).1) hi).1 s own
  · exact (symbolsOf_rows (fun x hx => (Database.mem_symbolsAmong.mp hx).1) hf).1 s own

private theorem readPart_tries (orderly : db.Orderly root) (fit : A.Fits) :
    (readPart A : Action ω _).Tries db := by
  have sound := orderly.sound
  refine (Graph.symbolsInFiles_tries sound _).bind (Graph.symbolsInFiles_reads _)
    fun inFiles hi => ?_
  refine (Graph.symbolsById_tries sound fun id mem => ?_).bind (Graph.symbolsById_reads _)
    fun further hf => ?_
  · exact fit id (ExtTreeSet.mem_diff_iff.mp mem).1
  refine (Graph.touching_tries sound fun id mem => ?_).bind (Graph.touching_reads _)
    fun edges he => ?_
  · obtain ⟨s, own, rfl⟩ := List.mem_map.mp (mem_idSet.mp mem)
    obtain ⟨row, stored, _⟩ := described_core hi hf s own
    exact (sound.symbol s.id row stored).1.2
  have ids := fun v => orderly.wired.fit_of_ends (v := v) he
  dsimp only
  rw [no_others ids]
  refine (Graph.symbolsAt_tries sound fun id mem => ?_).bind (Graph.symbolsAt_reads _ _)
    fun context _ => ?_
  · have own := (ExtTreeSet.mem_diff_iff.mp mem).1
    rw [ExtTreeSet.mem_ofList, List.contains_iff_mem] at own
    obtain ⟨v, isEnd, hv⟩ := List.mem_filterMap.mp own
    obtain ⟨id', rfl, held⟩ := ids v isEnd
    cases hv
    exact held
  exact (Graph.hashes_tries _).bind (Graph.hashes_reads _) fun _ _ => .pure _

private theorem readPart_reads (A : Affected) :
    (readPart A : Action ω _).Reads db fun x => Described db x.1 := by
  refine (Graph.symbolsInFiles_reads _).bind fun inFiles hi => ?_
  refine (Graph.symbolsById_reads _).bind fun further hf => ?_
  refine (Graph.touching_reads _).bind fun edges _ => ?_
  refine (Graph.symbolsAt_reads _ _).bind fun context _ => ?_
  exact (Graph.hashes_reads _).bind fun hashes _ => .pure (described_core hi hf)

private theorem nameable_of_described (orderly : db.Orderly root) {core : List Symbol}
    (described : Described db core) {path : Path} {id : Int} (mem : id ∈ idsIn core path) :
    (root / path).Nameable := by
  obtain ⟨s, own, rfl⟩ := List.mem_map.mp mem
  obtain ⟨inCore, lies⟩ := List.mem_filter.mp own
  obtain ⟨row, held, read⟩ := described s inCore
  obtain ⟨_, file, _⟩ := SymbolRow.symbol_eq_ok read
  have place := (orderly.meterable s.id row held).place
  rw [← file, eq_of_beq lies] at place
  exact place

/-- Part of an orderly graph is loaded, unless a statement would have to list too many values. -/
theorem loadPart_copes (ready : w.Ready db) (orderly : db.Orderly root) (fit : A.Fits) :
    (loadPart A (some root)).Copes w fun g w' =>
      w'.Ready db ∧ g.Shows A db w.disk root ∧ w.Onward w' db := by
  have loaded : (loadPart A (some root)).Copes w fun _ w' => w'.Ready db := by
    unfold loadPart
    refine .after (runIn_fresh w) ?_
    have ready₁ : World.Ready { w with loads := w.loads + 1 } db :=
      ⟨ready.whole, ready.isOpen, ready.writable⟩
    refine (Copes.reportingGraphFaults
      (reading_tries ready₁ (readPart_tries orderly fit) (readPart_reads A))).bind ?_
    rintro ⟨core, edges, context, hashes⟩ w₁ ⟨⟨described, _⟩, ready₂⟩
    refine .after runIn_get ?_
    have places : ∀ path ∈ A.files.toList,
        (sortedBy (fun i j : Int => decide (i ≤ j)) (idsIn core path)).isEmpty = false →
          (root / path).Nameable := by
      intro path _ some
      obtain ⟨id, mem⟩ := List.isEmpty_eq_false_iff_exists_mem.mp some
      exact nameable_of_described orderly described (mem_sortedBy.mp mem)
    obtain ⟨g, made⟩ := exists_foldlM_cover w₁.disk _ places _
    exact .of_succeeds (.of made ready₂)
  exact loaded.ensured (loadPart_ensures ready.isOpen orderly.sound.normal A)

/-- The whole of an orderly graph is loaded, unless a statement would have to list too many
values. -/
theorem loadAll_copes (ready : w.Ready db) (orderly : db.Orderly root) :
    (loadAll (some root)).Copes w fun _ w' => w'.Ready db := by
  have tries : (readWhole : Action ω _).Tries db := by
    have symbols := Tries.of_replies fun _ => Graph.allSymbols_replies (ω := ω) orderly.sound
    have edges := Tries.of_replies fun _ => Graph.allEdges_replies (ω := ω) orderly.sound
    have files : (Graph.filePaths : Action ω (List Path)).Tries db :=
      .of_replies fun _ => Graph.filePaths_replies
    refine symbols.bind Graph.allSymbols_reads fun _ _ => ?_
    refine edges.bind Graph.allEdges_reads fun _ _ => ?_
    refine files.bind Graph.filePaths_reads fun _ _ => ?_
    exact (Graph.hashes_tries _).bind (Graph.hashes_reads _) fun _ _ => .pure _
  unfold loadAll
  refine .after (runIn_fresh w) ?_
  have ready₁ : World.Ready { w with loads := w.loads + 1 } db :=
    ⟨ready.whole, ready.isOpen, ready.writable⟩
  refine (Copes.reportingGraphFaults (reading_tries ready₁ tries readWhole_reads)).bind ?_
  rintro ⟨symbols, edges, paths, hashes⟩ w₁ ⟨⟨listed, _⟩, ready₂⟩
  refine .after runIn_get ?_
  obtain ⟨g, made⟩ :=
    exists_foldlM_cover_files w₁.disk (fun p => (listed p).mp) orderly.meterable _
  exact .of_succeeds (.of made ready₂)

/-! ## Rows -/

/-- The rows of a part of an orderly graph can be computed and stored, or there are reports in
their place. -/
theorem Shows.delivers (shows : g.Shows A db disk root) (orderly : db.Orderly root)
    (dated : inColumn now = true) (sized : disk.Sized) :
    ∃ a, g.aggregate A.files.toList A.symbols.toList now = .ok a ∧
      (∀ row ∈ a.files, row.Storable) ∧ ∀ row ∈ a.symbols, row.draft.Storable := by
  have covered : ∀ path ∈ A.files.toList, path ∈ g.files := by
    intro path mem
    exact (shows.files path).mpr (ExtTreeSet.mem_toList.mp mem)
  have complete : ∀ id ∈ A.symbols.toList, (db.symbols[id]?).isSome → id ∈ g.complete := by
    intro id mem stored
    obtain ⟨row, hr⟩ := Option.isSome_iff_exists.mp stored
    exact (shows.complete id).mpr ⟨row, hr, .inl (ExtTreeSet.mem_toList.mp mem)⟩
  obtain ⟨measured, a, hm, ha, files, symbols⟩ := shows.mirrors.delivers orderly.sound dated sized
    covered complete orderly.meterable
  exact ⟨a, Except.bind_eq_ok.mpr ⟨measured, hm, ha⟩, files, symbols⟩

/-! ## Derived sets -/

/-- Of a snapshot of an orderly graph a set is derived for any symbols, and a column can hold the
ids in it. -/
theorem Mirrors.exists_surrounded (h : g.Mirrors db disk root) (wired : db.Wired)
    (files : ExtTreeSet Path) {symbols : ExtTreeSet Int}
    (fit : ∀ id ∈ symbols, inColumn id = true) :
    ∃ d, g.surrounded files symbols = .ok d ∧ d.Fits := by
  have ends {e : Edge} (he : e ∈ g.edges) {v : Value} (isEnd : v = e.caller ∨ v = e.callee) :
      ∃ id, v = .int id ∧ inColumn id = true := by
    obtain ⟨n, row, held, read⟩ := h.stored_edge he
    obtain ⟨_, caller, callee⟩ := EdgeRow.edge_eq_ok read
    rw [caller, callee] at isEnd
    exact wired n row held v isEnd
  have sound : (g.ends symbols).findSome? endFault? = none := by
    rw [List.findSome?_eq_none_iff]
    intro v mem
    obtain ⟨e, he, own⟩ := List.mem_flatMap.mp mem
    have isEnd : v = e.caller ∨ v = e.callee := by
      simp only [List.mem_append, List.mem_ite_nil_right, List.mem_singleton] at own
      exact own.elim (fun callee => .inr callee.2) fun caller => .inl caller.2
    obtain ⟨id, rfl, _⟩ := ends he isEnd
    rfl
  refine ⟨_, by rw [surrounded, sound], fun id mem => ?_⟩
  rcases ExtTreeSet.mem_union_iff.mp mem with own | next
  · exact fit id own
  · obtain ⟨e, he, t, _, ⟨_, isEnd⟩ | ⟨isEnd, _⟩⟩ := mem_neighbors.mp next
    · obtain ⟨id', same, held⟩ := ends he (.inr rfl)
      rw [same] at isEnd
      cases isEnd
      exact held
    · obtain ⟨id', same, held⟩ := ends he (.inl rfl)
      rw [same] at isEnd
      cases isEnd
      exact held

end Snapshot

end CodeGauge
