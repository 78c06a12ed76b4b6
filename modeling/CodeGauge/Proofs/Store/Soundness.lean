import CodeGauge.Proofs.Metrics.Measurable
import CodeGauge.Proofs.Store.Acceptance
import Mathlib.Data.Int.Interval

/-!
# Tables that were written by statements

Tables that began empty and were written by insertions, recordings and batches alone are sound: what
their rows hold can be read, and no id is beyond what a column can hold (`Database.Reached.sound`).
So no table has more rows than there are ids, and whatever is counted is an integer that a column
can hold.
-/

open Std

namespace CodeGauge

open CodeGauge.Action (fits)

variable {ω : Type} {db db' : Database}

/-- The tables were empty and then written by insertions of symbols and edges, by recordings of
files, and by batches whose symbol rows have ids. No statement was given what no column can hold. -/
inductive Database.Reached : Database → Prop
  | empty : Reached {}
  | symbol {db db' : Database} {id : Int} (reached : Reached db) (d : Symbol.Draft)
    (fit : ∀ v ∈ d.values, fits v = true)
    (inserted : db.insertSymbol d.values = .ok (id, db')) : Reached db'
  | edge {db db' : Database} {id : Int} (reached : Reached db) (d : Edge.Draft)
    (inserted : db.insertEdge d.values = .ok (id, db')) : Reached db'
  | file {db db' : Database} (reached : Reached db) (path : Path) (stamp : String)
    (hash : Option String) (recorded : db.recordFile path.toString stamp hash = .ok ((), db')) :
    Reached db'
  | batch {db db' : Database} (reached : Reached db) (b : Batch)
    (ids : ∀ d ∈ b.symbolRows, ∃ id, d.symbolId = some id ∧ inColumn id = true)
    (written : b.WrittenTo db db') : Reached db'

/-- The id is one that can be given out. -/
def Proper (id : Int) : Prop :=
  0 < id ∧ inColumn id = true

/-- The row describes a symbol: its file is written as paths are, its kind is a word for one, and a
column can hold where its bytes begin and end. -/
structure SymbolRow.Sound (row : SymbolRow) : Prop where
  file : (Path.ofString row.file).toString = row.file
  kind : ∃ kind : SymbolKind, row.kind = Vocabulary.text kind
  byteStart : fits row.byteStart = true
  byteEnd : fits row.byteEnd = true

/-- Symbols and edges can be read, ids can be given out, and rows of metrics are under keys that
there may be. -/
structure Database.Sound (db : Database) : Prop where
  symbol : ∀ (id : Int) (row : SymbolRow), db.symbols[id]? = some row → Proper id ∧ row.Sound
  edge : ∀ (n : Int) (e : EdgeRow), db.edges[n]? = some e →
    Proper n ∧ ∃ kind : EdgeKind, e.kind = some (Vocabulary.text kind)
  lastSymbol : 0 ≤ db.lastSymbol
  lastEdge : 0 ≤ db.lastEdge
  fileRow : ∀ file ∈ db.fileMetrics, (Path.ofString file).toString = file
  symbolRow : ∀ id ∈ db.symbolMetrics, inColumn id = true
  pathless : db.pathlessMetrics = []

/-! ## What is admitted -/

/-- A word for a kind of symbols is read as this kind. -/
theorem SymbolKind.read_text (kind : SymbolKind) :
    (Vocabulary.read (.text (Vocabulary.text kind)) : Except Error SymbolKind) = .ok kind := by
  cases kind <;> decide

/-- A word for a kind of edges is read as this kind. -/
theorem EdgeKind.read_text (kind : EdgeKind) :
    (Vocabulary.read (.text (Vocabulary.text kind)) : Except Error EdgeKind) = .ok kind := by
  cases kind <;> decide

/-- A stored symbol has the file and the kind that it was offered with, and of its bytes and its
parent what a column of integers keeps. -/
theorem SymbolRow.eq_of_admit {d : Symbol.Draft} {row : SymbolRow}
    (h : StoredRow.admit SymbolRow d.values = .ok row) :
    row.file = d.file.toString ∧ row.kind = Vocabulary.text d.kind ∧
      row.byteStart = d.byteStart.numeric ∧ row.byteEnd = d.byteEnd.numeric ∧
      row.parent = d.parent.numeric := by
  have kept := StoredRow.kept_of_admit h
  unfold StoredRow.ofValues? instStoredRowSymbolRow at kept
  dsimp only at kept
  split at kept
  · next columns =>
    cases kept
    have file := congrArg (·[2]?) columns
    have start := congrArg (·[5]?) columns
    have stop := congrArg (·[6]?) columns
    have kind := congrArg (·[7]?) columns
    have parent := congrArg (·[8]?) columns
    cases file
    cases kind
    exact ⟨rfl, rfl, (Option.some.inj start).symm, (Option.some.inj stop).symm,
      (Option.some.inj parent).symm⟩
  · cases kept

private theorem SymbolRow.sound_of_admit {d : Symbol.Draft} {row : SymbolRow}
    (fit : ∀ v ∈ d.values, fits v = true) (h : StoredRow.admit SymbolRow d.values = .ok row) :
    row.Sound := by
  obtain ⟨file, kind, start, stop, _⟩ := eq_of_admit h
  refine ⟨?_, ⟨d.kind, kind⟩, ?_, ?_⟩
  · rw [file, Path.ofString_toString]
  · rw [start, fits_numeric]
    exact fit _ (by simp [Symbol.Draft.values])
  · rw [stop, fits_numeric]
    exact fit _ (by simp [Symbol.Draft.values])

/-- A stored edge has the ends and the kind that it was offered with. -/
theorem EdgeRow.eq_of_admit {d : Edge.Draft} {row : EdgeRow}
    (h : StoredRow.admit EdgeRow d.values = .ok row) :
    row.caller = d.caller.numeric ∧ row.callee = d.callee.numeric ∧
      row.kind = some (Vocabulary.text d.kind) := by
  have kept := StoredRow.kept_of_admit h
  unfold StoredRow.ofValues? instStoredRowEdgeRow at kept
  dsimp only at kept
  split at kept
  · next columns =>
    cases kept
    have caller := congrArg (·[0]?) columns
    have callee := congrArg (·[1]?) columns
    have kind := congrArg (·[3]?) columns
    cases kind
    exact ⟨(Option.some.inj caller).symm, (Option.some.inj callee).symm, rfl⟩
  · next columns =>
    have kind := congrArg (·[3]?) columns
    cases kind
  · cases kept

/-- A symbol whose row is sound can be read. -/
theorem SymbolRow.Sound.exists_symbol {row : SymbolRow} (h : row.Sound) (id : Int) :
    ∃ s, row.symbol id = .ok s := by
  obtain ⟨kind, word⟩ := h.kind
  rw [SymbolRow.symbol, word, SymbolKind.read_text]
  exact ⟨_, rfl⟩

namespace Database

/-- The next id is one that can be given out. -/
theorem proper_of_nextId {β : Type} {table : ExtTreeMap Int β} {last id : Int}
    (h : nextId table last = .ok id) (last_nonneg : 0 ≤ last) : Proper id := by
  rw [nextId] at h
  split at h
  next fit =>
    cases h
    exact ⟨by omega, fit⟩
  · cases h

/-- The next id is the one after the last, if no later one is stored. -/
theorem nextId_of_le {β : Type} {table : ExtTreeMap Int β} {last : Int} (nonneg : 0 ≤ last)
    (le : ∀ id ∈ table, id ≤ last) (room : inColumn (last + 1) = true) :
    nextId table last = .ok (last + 1) := by
  have most : max last ((table.maxKey?).getD 0) = last := by
    cases h : table.maxKey? with
    | none => exact max_eq_left nonneg
    | some id => exact max_eq_left (le id (ExtTreeMap.maxKey?_mem h))
  rw [nextId, most]
  exact if_pos room

/-- The next id is above all that are stored. -/
theorem lt_of_nextId {β : Type} {table : ExtTreeMap Int β} {last id k : Int}
    (h : nextId table last = .ok id) (mem : k ∈ table) : k < id := by
  rw [nextId] at h
  split at h
  · cases h
    obtain ⟨most, hm⟩ := Option.isSome_iff_exists.mp (ExtTreeMap.isSome_maxKey?_of_mem mem)
    have le := (ExtTreeMap.maxKey?_eq_some_iff_mem_and_forall.mp hm).2 k mem
    rw [Int.isLE_compare] at le
    rw [hm, Option.getD_some]
    omega
  · cases h

/-! ## Soundness -/

/-- What holds of each entry of a table holds after one was inserted of which it holds. -/
theorem forall_insert {κ β : Type} [Ord κ] [TransOrd κ] [LawfulEqOrd κ] {P : κ → β → Prop}
    {table : ExtTreeMap κ β} {k : κ} {b : β} (new : P k b)
    (old : ∀ (i : κ) (b : β), table[i]? = some b → P i b) :
    ∀ (i : κ) (b' : β), (table.insert k b)[i]? = some b' → P i b' := by
  intro i b' held
  rw [ExtTreeMap.getElem?_insert] at held
  split at held
  next same =>
    rw [LawfulEqCmp.compare_eq_iff_eq] at same
    cases held
    exact same ▸ new
  · exact old i b' held

namespace Sound

/-- Empty tables are sound. -/
theorem empty : Sound {} := by
  constructor
  · intro id row held
    simp at held
  · intro n e held
    simp at held
  · exact Int.le_refl 0
  · exact Int.le_refl 0
  · intro file mem
    exact (ExtTreeMap.not_mem_empty mem).elim
  · intro id mem
    exact (ExtTreeMap.not_mem_empty mem).elim
  · rfl

/-- To insert a symbol with values that fit leaves sound tables sound. -/
theorem insertSymbol (h : db.Sound) {id : Int} {d : Symbol.Draft}
    (fit : ∀ v ∈ d.values, fits v = true) (inserted : db.insertSymbol d.values = .ok (id, db')) :
    db'.Sound := by
  obtain ⟨next, given, inserted⟩ := Except.bind_eq_ok.mp inserted
  obtain ⟨row, admitted, inserted⟩ := Except.bind_eq_ok.mp inserted
  cases inserted
  have proper := proper_of_nextId given h.lastSymbol
  have symbol := forall_insert ⟨proper, SymbolRow.sound_of_admit fit admitted⟩ h.symbol
  exact ⟨symbol, h.edge, Int.le_of_lt proper.1, h.lastEdge, h.fileRow, h.symbolRow, h.pathless⟩

/-- To insert an edge leaves sound tables sound. -/
theorem insertEdge (h : db.Sound) {id : Int} {d : Edge.Draft}
    (inserted : db.insertEdge d.values = .ok (id, db')) : db'.Sound := by
  obtain ⟨next, given, inserted⟩ := Except.bind_eq_ok.mp inserted
  obtain ⟨row, admitted, inserted⟩ := Except.bind_eq_ok.mp inserted
  cases inserted
  have proper := proper_of_nextId given h.lastEdge
  have edge := forall_insert ⟨proper, d.kind, (EdgeRow.eq_of_admit admitted).2.2⟩ h.edge
  exact ⟨h.symbol, edge, h.lastSymbol, Int.le_of_lt proper.1, h.fileRow, h.symbolRow, h.pathless⟩

private theorem recordFile (h : db.Sound) {file stamp : String} {hash : Option String}
    (recorded : db.recordFile file stamp hash = .ok ((), db')) : db'.Sound := by
  obtain ⟨row, _, recorded⟩ := Except.bind_eq_ok.mp recorded
  cases recorded
  exact ⟨h.symbol, h.edge, h.lastSymbol, h.lastEdge, h.fileRow, h.symbolRow, h.pathless⟩

private theorem writtenTo (h : db.Sound) {b : Batch}
    (ids : ∀ d ∈ b.symbolRows, ∃ id, d.symbolId = some id ∧ inColumn id = true)
    (written : b.WrittenTo db db') : db'.Sound := by
  have fileRow := written.file_normal h.fileRow
  have symbolRow : ∀ id ∈ db'.symbolMetrics, inColumn id = true := by
    intro id mem
    obtain ⟨stored, held⟩ := Option.isSome_iff_exists.mp (ExtTreeMap.mem_iff_isSome_getElem?.mp mem)
    obtain ⟨d, offered, own, _⟩ | ⟨_, kept⟩ := written.symbol id
    · obtain ⟨id', own', fit⟩ := ids d offered
      rw [own] at own'
      cases own'
      exact fit
    · apply h.symbolRow
      rw [ExtTreeMap.mem_iff_isSome_getElem?, ((kept stored).mp held).1]
      rfl
  have graph := written.graph
  rw [SameGraph] at graph
  rw [graph]
  exact ⟨h.symbol, h.edge, h.lastSymbol, h.lastEdge, fileRow, symbolRow, h.pathless⟩

/-- Sound tables have normal paths. -/
theorem normal (h : db.Sound) : db.Normal :=
  fun id row held => (h.symbol id row held).2.file

/-- Stored symbols can be read. -/
theorem exists_symbolsOf (h : db.Sound) {rows : List (Int × SymbolRow)}
    (stored : ∀ x ∈ rows, db.symbols[x.1]? = some x.2) :
    ∃ symbols, symbolsOf rows = .ok symbols := by
  apply exists_mapM_eq_ok
  intro x mem
  exact (h.symbol x.1 x.2 (stored x mem)).2.exists_symbol x.1

/-- Stored edges can be read. -/
theorem exists_edgesOf (h : db.Sound) (p : EdgeRow → Bool) :
    ∃ edges, edgesOf (db.edgesWhere p) = .ok edges := by
  apply exists_mapM_eq_ok
  rintro ⟨n, e⟩ mem
  have stored := ExtTreeMap.mem_toList_iff_getElem?_eq_some.mp (List.mem_filter.mp mem).1
  obtain ⟨_, kind, word⟩ := h.edge n e stored
  dsimp only
  rw [EdgeRow.edge.eq_def, word]
  dsimp only [Option.elim_some]
  rw [EdgeKind.read_text]
  exact ⟨_, rfl⟩

end Sound

/-- Tables that can be reached are sound. -/
theorem Reached.sound (h : db.Reached) : db.Sound := by
  induction h with
  | empty => exact .empty
  | symbol _ d fit inserted ih => exact ih.insertSymbol fit inserted
  | edge _ d inserted ih => exact ih.insertEdge inserted
  | file _ path stamp hash recorded ih => exact ih.recordFile recorded
  | batch _ b ids written ih => exact ih.writtenTo ids written

/-! ## Counts -/

/-- A table has no more rows than there are ids that can be given out. -/
theorem size_lt_of_proper {β : Type} {table : ExtTreeMap Int β} (proper : ∀ id ∈ table, Proper id) :
    table.size < 0x8000000000000000 := by
  have within : table.keys.toFinset ⊆ Finset.Icc 1 (0x7fffffffffffffff : Int) := by
    intro id mem
    rw [List.mem_toFinset, ExtTreeMap.mem_keys] at mem
    obtain ⟨positive, fit⟩ := proper id mem
    rw [inColumn_iff] at fit
    rw [Finset.mem_Icc]
    omega
  have few := Finset.card_le_card within
  rw [Int.card_Icc, List.toFinset_card_of_nodup ExtTreeMap.nodup_keys,
    ExtTreeMap.length_keys] at few
  omega

namespace Sound

variable (h : db.Sound)
include h

/-- A column can hold the number of symbols of a file. -/
theorem inColumn_symbolCount (file : String) : inColumn (db.symbolCount file) = true := by
  have few : db.symbols.size < 0x8000000000000000 := by
    apply size_lt_of_proper
    intro id mem
    obtain ⟨row, held⟩ := Option.isSome_iff_exists.mp (ExtTreeMap.mem_iff_isSome_getElem?.mp mem)
    exact (h.symbol id row held).1
  have counted : db.symbolCount file ≤ db.symbols.toList.length := List.countP_le_length
  rw [ExtTreeMap.length_toList] at counted
  rw [inColumn_iff]
  omega

/-- A column can hold a number of edges. -/
theorem inColumn_edgeCount (p : EdgeRow → Bool) : inColumn (db.edgeCount p) = true := by
  have few : db.edges.size < 0x8000000000000000 := by
    apply size_lt_of_proper
    intro n mem
    obtain ⟨e, held⟩ := Option.isSome_iff_exists.mp (ExtTreeMap.mem_iff_isSome_getElem?.mp mem)
    exact (h.edge n e held).1
  have counted : db.edgeCount p ≤ db.edges.toList.length := List.countP_le_length
  rw [ExtTreeMap.length_toList] at counted
  rw [inColumn_iff]
  omega

end Sound

end Database

/-! ## Statements -/

namespace Action

/-- A statement that was committed was given what columns can hold. -/
theorem updateAndCommit_fits {α : Type} (w : World ω) (statement : Statement) (values : List Value)
    (write : Database → Except DatabaseFault (α × Database)) :
    (updateAndCommit statement values write).Ensures w fun _ _ =>
      ∀ v ∈ values, fits v = true := by
  refine (update_accepts w statement values write).bind fun _ _ accepted => ?_
  exact .skip fun _ _ => .pure accepted.1

end Action

variable {w : World ω}

/-- The insertion of a symbol leads from tables that were reached to others. -/
theorem Graph.insertSymbol_reached (h : w.Open db) (reached : db.Reached) (d : Symbol.Draft) :
    (insertSymbol d).Ensures w fun _ w' => ∃ db', db'.Reached ∧ w.Onward w' db' := by
  refine ((Action.updateAndCommit_ensures h _ _ _).and
    (Action.updateAndCommit_fits w _ _ _)).mono ?_
  rintro _ w' ⟨⟨db', inserted, onward⟩, fit⟩
  exact ⟨db', reached.symbol d fit inserted, onward⟩

/-- The insertion of an edge leads from tables that were reached to others. -/
theorem Graph.insertEdge_reached (h : w.Open db) (reached : db.Reached) (d : Edge.Draft) :
    (insertEdge d).Ensures w fun _ w' => ∃ db', db'.Reached ∧ w.Onward w' db' := by
  refine (Action.updateAndCommit_ensures h _ _ _).mono ?_
  rintro _ w' ⟨db', inserted, onward⟩
  exact ⟨db', reached.edge d inserted, onward⟩

/-- The recording of a file leads from tables that were reached to others. -/
theorem Graph.recordFile_reached (h : w.Open db) (reached : db.Reached) (path : Path)
    (hash : Option String) :
    (recordFile path hash).Ensures w fun _ w' => ∃ db', db'.Reached ∧ w.Onward w' db' := by
  refine .after Action.runIn_get ?_
  refine (Action.updateAndCommit_ensures h _ _ _).mono ?_
  rintro _ w' ⟨db', recorded, onward⟩
  exact ⟨db', reached.file path w.stamp hash recorded, onward⟩

private theorem MetricsStore.apply_writes (h : w.Open db) {b : Batch}
    (hasIds : ∀ d ∈ b.symbolRows, ∃ id, d.symbolId = some id) :
    (apply b).Ensures w fun _ w' => ∃ db', b.WrittenTo db db' ∧ w.Onward w' db' ∧
      ∀ d ∈ b.symbolRows, ∃ id, d.symbolId = some id ∧ inColumn id = true := by
  refine ((apply_ensures hasIds h).and (apply_accepts w b)).mono ?_
  rintro _ w' ⟨⟨db', written, onward⟩, storable⟩
  refine ⟨db', written, onward, fun d mem => ?_⟩
  obtain ⟨id, own⟩ := hasIds d mem
  have fit := (storable.symbolRows d mem).2 _ List.mem_cons_self
  rw [own] at fit
  exact ⟨id, own, fit⟩

/-- A batch whose symbol rows have ids leads from tables that were reached to others. -/
theorem MetricsStore.apply_reached (h : w.Open db) (reached : db.Reached) {b : Batch}
    (hasIds : ∀ d ∈ b.symbolRows, ∃ id, d.symbolId = some id) :
    (apply b).Ensures w fun _ w' => ∃ db', db'.Reached ∧ w.Onward w' db' := by
  refine (apply_writes h hasIds).mono ?_
  rintro _ w' ⟨db', written, onward, ids⟩
  exact ⟨db', reached.batch b ids written, onward⟩

/-- A batch whose symbol rows have ids leads from sound tables to sound ones of the same graph. -/
theorem MetricsStore.apply_sound (h : w.Open db) (sound : db.Sound) {b : Batch}
    (hasIds : ∀ d ∈ b.symbolRows, ∃ id, d.symbolId = some id) :
    (apply b).Ensures w fun _ w' => ∃ db', db'.Sound ∧ db.SameGraph db' ∧ w.Onward w' db' := by
  refine (apply_writes h hasIds).mono ?_
  rintro _ w' ⟨db', written, onward, ids⟩
  exact ⟨db', sound.writtenTo ids written, written.graph, onward⟩

end CodeGauge
