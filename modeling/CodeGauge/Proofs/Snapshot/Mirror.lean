import CodeGauge.Engine.Loader
import CodeGauge.Proofs.Metrics.Stored
import CodeGauge.Snapshot.Aggregate

/-!
# Snapshots that mirror the tables

A snapshot mirrors the tables when its symbols are the stored ones, every edge that touches a
complete symbol is among its edges, both ends of an edge are known if they are stored, and each
covered file has all its symbols, its content and its record (`Snapshot.Mirrors`). What is computed
from such a snapshot for a covered file or a complete symbol is its reference row.
-/

open Std

namespace CodeGauge

variable {db : Database} {disk : Disk} {root : Path}

/-- The snapshot has of a file what the tables and the disk have of it. A content is not needed
where there is no symbol. -/
structure CoveredFile.Mirrors (file : CoveredFile) (complete : ExtTreeSet Int) (db : Database)
    (disk : Disk) (root path : Path) : Prop where
  nodup : file.symbols.Nodup
  symbols : ∀ id, id ∈ file.symbols ↔
    ∃ row, db.symbols[id]? = some row ∧ row.file = path.toString
  complete : ∀ id ∈ file.symbols, id ∈ complete
  content : file.symbols ≠ [] →
    readContent disk (some root) path = .ok (file.content, file.readError)
  hash : file.recordedHash = (db.files[path.toString]?).map (·.hash)

/-- The snapshot shows a part of these tables and this disk, and has whole what it has as
complete. -/
structure Snapshot.Mirrors (g : Snapshot) (db : Database) (disk : Disk) (root : Path) : Prop where
  known : ∀ id s, g.symbol? id = some s →
    ∃ row, db.symbols[id]? = some row ∧ row.symbol id = .ok s
  complete : ∀ id ∈ g.complete, (g.symbol? id).isSome
  edges : ∃ p, edgesOf (db.edgesWhere p) = .ok g.edges ∧
    ∀ id ∈ g.complete, ∀ e, e.caller.id? = some id ∨ e.callee.id? = some id → p e = true
  ends : ∀ e ∈ g.edges, ∀ v, v = e.caller ∨ v = e.callee → ∀ id, v.id? = some id →
    (db.symbols[id]?).isSome → (g.symbol? id).isSome
  files : ∀ (path : Path) (file : CoveredFile), g.files[path]? = some file →
    file.Mirrors g.complete db disk root path

/-! ## Rows and what they describe -/

/-- A symbol that is read has the fields of its row. -/
theorem SymbolRow.symbol_eq_ok {row : SymbolRow} {id : Int} {s : Symbol}
    (h : row.symbol id = .ok s) :
    s.id = id ∧ s.file = .ofString row.file ∧ s.name = row.name ∧
      Vocabulary.text s.kind = row.kind ∧ s.line = row.line ∧ s.endLine = row.endLine ∧
      s.byteStart = row.byteStart ∧ s.byteEnd = row.byteEnd := by
  have ⟨kind, hk, made⟩ := Except.bind_eq_ok.mp h
  cases made
  refine ⟨rfl, rfl, rfl, ?_, rfl, rfl, rfl, rfl⟩
  change (List.find? _ _).elim _ _ = _ at hk
  cases hf : (Vocabulary.values (α := SymbolKind)).find? (Vocabulary.text · == row.kind) with
  | none => rw [hf] at hk; cases hk
  | some found =>
    rw [hf] at hk
    cases hk
    simpa using List.find?_some hf

/-- An edge that is read has the ends of its row. -/
theorem EdgeRow.edge_eq_ok {row : EdgeRow} {id : Int} {e : Edge} (h : row.edge id = .ok e) :
    e.id = id ∧ e.caller = row.caller ∧ e.callee = row.callee := by
  have ⟨kind, _, made⟩ := Except.bind_eq_ok.mp h
  cases made
  exact ⟨rfl, rfl, rfl⟩

/-- What is filed under one of several keys is counted once. -/
theorem countP_flatMap_filter {α κ : Type} [BEq κ] [LawfulBEq κ] {keys : List κ}
    (nodup : keys.Nodup) (key? : α → Option κ) (p : α → Bool) (as : List α) :
    (keys.flatMap fun k => as.filter fun a => key? a == some k).countP p =
      as.countP fun a => p a && (key? a).any keys.contains := by
  induction keys with
  | nil =>
    rw [List.flatMap_nil, List.countP_nil, eq_comm, List.countP_eq_zero]
    intro a _
    cases key? a <;> simp
  | cons k keys ih =>
    rw [List.nodup_cons] at nodup
    rw [List.flatMap_cons, List.countP_append, List.countP_filter, ih nodup.2]
    clear ih
    induction as with
    | nil => rfl
    | cons a as ih =>
      rw [List.countP_cons, List.countP_cons, List.countP_cons, ← ih]
      have step : (if (p a && key? a == some k) = true then 1 else 0) +
          (if (p a && (key? a).any keys.contains) = true then 1 else 0) =
          if (p a && (key? a).any (k :: keys).contains) = true then 1 else 0 := by
        cases hp : p a with
        | false => rfl
        | true =>
          cases hk : key? a with
          | none => simp
          | some k' =>
            by_cases same : k' = k
            · subst same
              simp [nodup.1]
            · simp [same]
      omega

namespace Snapshot

variable {g : Snapshot}

/-- The file of the known symbol that the end of an edge is, if it is one. -/
def endFile? (g : Snapshot) (v : Value) : Option Path :=
  ((v.id?).bind g.symbol?).map (·.file)

private theorem isOutside_eq (g : Snapshot) (path : Path) (v : Value) :
    g.isOutside path v = (g.endFile? v).any (· != path) := by
  rw [isOutside, endFile?, Option.any_map]

private theorem isOther_eq (g : Snapshot) (id : Int) (v : Value) :
    g.isOther id v = (v.id? != some id && (g.endFile? v).isSome) := by
  rw [isOther, endFile?, Option.isSome_map]

namespace Mirrors

/-- The file of a known symbol is that of its row. -/
theorem file_of_symbol (h : g.Mirrors db disk root) (normal : db.Normal) {id : Int} {s : Symbol}
    (hs : g.symbol? id = some s) : (db.symbols[id]?).map (·.file) = some s.file.toString := by
  have ⟨row, hr, made⟩ := h.known id s hs
  rw [hr, (SymbolRow.symbol_eq_ok made).2.1, normal id row hr]
  rfl

/-- The end of a loaded edge lies in the same file for the snapshot as for the tables. -/
theorem endFile?_eq (h : g.Mirrors db disk root) (normal : db.Normal) {e : Edge} (he : e ∈ g.edges)
    {v : Value} (hv : v = e.caller ∨ v = e.callee) :
    (g.endFile? v).map (·.toString) = db.fileOf? v := by
  rw [endFile?, Database.fileOf?]
  cases hid : v.id? with
  | none => rfl
  | some id =>
    rw [Option.bind_some, Option.bind_some]
    cases hs : g.symbol? id with
    | some s =>
      rw [h.file_of_symbol normal hs]
      rfl
    | none =>
      cases hr : db.symbols[id]? with
      | none => rfl
      | some row =>
        have known := h.ends e he v hv id hid (by rw [hr]; rfl)
        rw [hs] at known
        cases known

/-- Counting loaded edges is counting stored ones, for a condition on ends that implies that the
edge was loaded. -/
theorem countP_edges (h : g.Mirrors db disk root) {p : Edge → Bool} {q : EdgeRow → Bool}
    (agree : ∀ e ∈ g.edges, ∀ row : EdgeRow, e.caller = row.caller → e.callee = row.callee →
      p e = q row)
    (touches : ∀ row, q row = true →
      ∃ id ∈ g.complete, row.caller.id? = some id ∨ row.callee.id? = some id) :
    g.edges.countP p = db.edgeCount q := by
  have ⟨loaded, made, whole⟩ := h.edges
  have same : g.edges.map p = (db.edgesWhere loaded).map fun x => q x.2 := by
    refine map_eq_of_mapM_eq_ok made fun x hx e he => ?_
    have mem : e ∈ g.edges := (mem_of_mapM_eq_ok made e).mpr ⟨x, hx, he⟩
    obtain ⟨-, caller, callee⟩ := EdgeRow.edge_eq_ok he
    exact agree e mem x.2 caller callee
  calc g.edges.countP p
      = (g.edges.map p).countP (fun b => b) := by rw [List.countP_map]; rfl
    _ = (db.edgesWhere loaded).countP fun x => q x.2 := by rw [same, List.countP_map]; rfl
    _ = db.edges.toList.countP fun x => q x.2 && loaded x.2 := List.countP_filter
    _ = db.edgeCount q := by
      refine List.countP_congr fun x _ => ?_
      rw [Bool.and_eq_true]
      refine ⟨And.left, fun hq => ⟨hq, ?_⟩⟩
      have ⟨id, hc, touch⟩ := touches x.2 hq
      exact whole id hc x.2 touch

/-- An end of a loaded edge is another stored symbol for the snapshot as for the tables. -/
theorem isOther_iff (h : g.Mirrors db disk root) (normal : db.Normal) {e : Edge} (he : e ∈ g.edges)
    {v : Value} (hv : v = e.caller ∨ v = e.callee) (id : Int) :
    g.isOther id v = (v.id? != some id && (db.fileOf? v).isSome) := by
  rw [isOther_eq, ← h.endFile?_eq normal he hv, Option.isSome_map]

/-- An end of a loaded edge lies in another file for the snapshot as for the tables. -/
theorem isOutside_iff (h : g.Mirrors db disk root) (normal : db.Normal) {e : Edge}
    (he : e ∈ g.edges) {v : Value} (hv : v = e.caller ∨ v = e.callee) (path : Path) :
    g.isOutside path v = (db.fileOf? v).any (· != path.toString) := by
  rw [isOutside_eq, ← h.endFile?_eq normal he hv, Option.any_map]
  congr 1
  funext p
  rw [Bool.eq_iff_iff, bne_iff_ne, bne_iff_ne]
  exact not_congr ⟨congrArg _, Path.toString_injective⟩

/-- The edges into a complete symbol are counted as the tables have them. -/
theorem countP_incoming (h : g.Mirrors db disk root) (normal : db.Normal) {id : Int}
    (hc : id ∈ g.complete) :
    (g.incoming id).countP (fun e => g.isOther id e.caller) =
      db.edgeCount (db.entersSymbol id) := by
  rw [incoming, List.countP_filter]
  refine h.countP_edges (fun e he row caller callee => ?_) fun row enters => ⟨id, hc, .inr ?_⟩
  · rw [h.isOther_iff normal he (.inl rfl), caller, callee, Database.entersSymbol,
      Bool.and_comm, Bool.and_assoc]
  · simp only [Database.entersSymbol, Bool.and_eq_true, beq_iff_eq] at enters
    exact enters.1.1

/-- The edges from a complete symbol are counted as the tables have them. -/
theorem countP_outgoing (h : g.Mirrors db disk root) (normal : db.Normal) {id : Int}
    (hc : id ∈ g.complete) :
    (g.outgoing id).countP (fun e => g.isOther id e.callee) =
      db.edgeCount (db.leavesSymbol id) := by
  rw [outgoing, List.countP_filter]
  refine h.countP_edges (fun e he row caller callee => ?_) fun row leaves => ⟨id, hc, .inl ?_⟩
  · rw [h.isOther_iff normal he (.inr rfl), caller, callee, Database.leavesSymbol,
      Bool.and_comm, Bool.and_assoc]
  · simp only [Database.leavesSymbol, Bool.and_eq_true, beq_iff_eq] at leaves
    exact leaves.1.1

/-- The symbols of a covered file are all known. -/
theorem exists_symbolsInFile (h : g.Mirrors db disk root) {path : Path} {file : CoveredFile}
    (hf : g.files[path]? = some file) : ∃ symbols, g.symbolsInFile path = .ok symbols := by
  rw [symbolsInFile, hf]
  refine exists_mapM_eq_ok fun id hid => ?_
  have ⟨s, hs⟩ := Option.isSome_iff_exists.mp
    (h.complete id ((h.files path file hf).complete id hid))
  exact ⟨s, by rw [hs]⟩

/-- The symbols of a covered file are found, each once. -/
theorem symbolsInFile_ids (h : g.Mirrors db disk root) {path : Path} {file : CoveredFile}
    (hf : g.files[path]? = some file) {symbols : List Symbol}
    (hs : g.symbolsInFile path = .ok symbols) : symbols.map (·.id) = file.symbols := by
  rw [symbolsInFile, hf] at hs
  have ids := map_eq_of_mapM_eq_ok (g := (·.id)) (k := fun i => i) hs fun i _ s made => by
    split at made
    · next s' found =>
      cases made
      have ⟨row, _, hrow⟩ := h.known i s found
      exact (SymbolRow.symbol_eq_ok hrow).1
    · cases made
  rw [ids]
  exact List.map_id _

/-- The number of symbols of a covered file is that of the tables. -/
theorem length_symbols (h : g.Mirrors db disk root) {path : Path} {file : CoveredFile}
    (hf : g.files[path]? = some file) : file.symbols.length = db.symbolCount path.toString := by
  obtain ⟨nodup, mem, -⟩ := h.files path file hf
  have filtered := nodup_keys_filter db.symbols fun x => x.2.file == path.toString
  have perm := (List.perm_ext_iff_of_nodup nodup filtered).mpr fun id => by
    rw [mem]
    simp [ExtTreeMap.mem_toList_iff_getElem?_eq_some]
  rw [perm.length_eq, List.length_map, ← List.countP_eq_length_filter]
  rfl

/-- A value is the id of a symbol of a covered file exactly when the tables have it there. -/
theorem fileOf?_eq_some (h : g.Mirrors db disk root) {path : Path} {file : CoveredFile}
    (hf : g.files[path]? = some file) (v : Value) :
    (db.fileOf? v == some path.toString) = (v.id?).any file.symbols.contains := by
  rw [Bool.eq_iff_iff, beq_iff_eq, Option.any_eq_true]
  simp only [List.contains_iff_mem, (h.files path file hf).symbols, Database.fileOf?,
    Option.bind_eq_some_iff, Option.map_eq_some_iff]

/-- The edges into a covered file are counted as the tables have them. -/
theorem fileFanIn_eq (h : g.Mirrors db disk root) (normal : db.Normal) {path : Path}
    {file : CoveredFile} (hf : g.files[path]? = some file) {symbols : List Symbol}
    (hs : g.symbolsInFile path = .ok symbols) :
    g.fileFanIn path symbols = db.edgeCount (db.entersFile path.toString) := by
  obtain ⟨nodup, -, complete, -⟩ := h.files path file hf
  have keys : g.fileFanIn path symbols =
      ((symbols.map (·.id)).flatMap fun id =>
        g.edges.filter fun e => e.callee.id? == some id).countP fun e =>
          g.isOutside path e.caller := by
    rw [List.flatMap_map]
    rfl
  rw [keys, h.symbolsInFile_ids hf hs, countP_flatMap_filter nodup (fun e : Edge => e.callee.id?)]
  refine h.countP_edges (fun e he row caller callee => ?_) fun row enters => ?_
  · rw [h.isOutside_iff normal he (.inl rfl), ← h.fileOf?_eq_some hf, caller, callee,
      Database.entersFile, Bool.and_comm]
  · rw [Database.entersFile, h.fileOf?_eq_some hf, Bool.and_eq_true, Option.any_eq_true] at enters
    obtain ⟨⟨id, hid, mem⟩, -⟩ := enters
    exact ⟨id, complete id (List.contains_iff_mem.mp mem), .inr hid⟩

/-- The edges from a covered file are counted as the tables have them. -/
theorem fileFanOut_eq (h : g.Mirrors db disk root) (normal : db.Normal) {path : Path}
    {file : CoveredFile} (hf : g.files[path]? = some file) {symbols : List Symbol}
    (hs : g.symbolsInFile path = .ok symbols) :
    g.fileFanOut path symbols = db.edgeCount (db.leavesFile path.toString) := by
  obtain ⟨nodup, -, complete, -⟩ := h.files path file hf
  have keys : g.fileFanOut path symbols =
      ((symbols.map (·.id)).flatMap fun id =>
        g.edges.filter fun e => e.caller.id? == some id).countP fun e =>
          g.isOutside path e.callee := by
    rw [List.flatMap_map]
    rfl
  rw [keys, h.symbolsInFile_ids hf hs, countP_flatMap_filter nodup (fun e : Edge => e.caller.id?)]
  refine h.countP_edges (fun e he row caller callee => ?_) fun row leaves => ?_
  · rw [h.isOutside_iff normal he (.inr rfl), ← h.fileOf?_eq_some hf, caller, callee,
      Database.leavesFile, Bool.and_comm]
  · rw [Database.leavesFile, h.fileOf?_eq_some hf, Bool.and_eq_true, Option.any_eq_true] at leaves
    obtain ⟨⟨id, hid, mem⟩, -⟩ := leaves
    exact ⟨id, complete id (List.contains_iff_mem.mp mem), .inl hid⟩

end Mirrors

end Snapshot

end CodeGauge
