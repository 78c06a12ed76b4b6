import CodeGauge.Proofs.Results
import CodeGauge.Proofs.Store.Session
import CodeGauge.Store.Metrics

/-!
# What is read of the graph

Each reading of the stored graph gives what the rows describe that it asks for. The rows of a table
have different keys, so what is read has different ids.
-/

open Std

namespace CodeGauge

variable {ω : Type} {db : Database}

/-- The texts of paths are those of the listed ones. -/
theorem Graph.mem_textsOf {paths : List Path} {t : String} :
    t ∈ Graph.textsOf paths ↔ ∃ p ∈ paths, p.toString = t := by
  rw [Graph.textsOf, ExtTreeSet.mem_toList, ExtTreeSet.mem_ofList, List.contains_iff_mem,
    List.mem_map]

/-- A text in normal form is among those of paths when its path is among them. -/
theorem Graph.mem_textsOf_of_normal {paths : List Path} {t : String}
    (normal : (Path.ofString t).toString = t) :
    t ∈ Graph.textsOf paths ↔ Path.ofString t ∈ paths := by
  rw [mem_textsOf]
  constructor
  · rintro ⟨p, hp, rfl⟩
    rw [Path.ofString_toString]
    exact hp
  · intro mem
    exact ⟨_, mem, normal⟩

/-- The stored symbols among ids, with their ids. -/
def Database.symbolsAmong (db : Database) (ids : ExtTreeSet Int) : List (Int × SymbolRow) :=
  ids.toList.filterMap fun id => (db.symbols[id]?).map (id, ·)

/-- Whether an end of the edge is among the ids. -/
def EdgeRow.touches (e : EdgeRow) (ids : ExtTreeSet Int) : Bool :=
  (e.caller.id?).any ids.contains || (e.callee.id?).any ids.contains

/-- An edge touches some ids if one of its ends is one of them. -/
theorem EdgeRow.touches_iff {e : EdgeRow} {ids : ExtTreeSet Int} :
    e.touches ids = true ↔
      ∃ id ∈ ids, e.caller.id? = some id ∨ e.callee.id? = some id := by
  rw [touches, Bool.or_eq_true, Option.any_eq_true, Option.any_eq_true]
  simp only [ExtTreeSet.contains_iff_mem]
  constructor
  · rintro (⟨id, caller, mem⟩ | ⟨id, callee, mem⟩)
    · exact ⟨id, mem, .inl caller⟩
    · exact ⟨id, mem, .inr callee⟩
  · rintro ⟨id, mem, caller | callee⟩
    · exact .inl ⟨id, caller, mem⟩
    · exact .inr ⟨id, callee, mem⟩

namespace Database

/-! ## Rows that are read -/

/-- The symbols with a property are those stored that have it. -/
theorem mem_symbolsWhere {p : Int → SymbolRow → Bool} {x : Int × SymbolRow} :
    x ∈ db.symbolsWhere p ↔ db.symbols[x.1]? = some x.2 ∧ p x.1 x.2 = true := by
  rw [symbolsWhere, mem_sortedBy, List.mem_filter, ExtTreeMap.mem_toList_iff_getElem?_eq_some]

/-- The symbols among some ids are those stored under one of them. -/
theorem mem_symbolsAmong {ids : ExtTreeSet Int} {x : Int × SymbolRow} :
    x ∈ db.symbolsAmong ids ↔ db.symbols[x.1]? = some x.2 ∧ x.1 ∈ ids := by
  rw [symbolsAmong, List.mem_filterMap]
  simp only [ExtTreeSet.mem_toList, Option.map_eq_some_iff]
  constructor
  · rintro ⟨id, mem, row, hr, rfl⟩
    exact ⟨hr, mem⟩
  · intro ⟨hr, mem⟩
    exact ⟨x.1, mem, x.2, hr, rfl⟩

/-- The ids of symbols with a property are those of a stored row that has it. -/
theorem mem_keys_symbolsWhere {p : Int → SymbolRow → Bool} {id : Int} :
    id ∈ (db.symbolsWhere p).map (·.1) ↔ ∃ row, db.symbols[id]? = some row ∧ p id row = true := by
  simp only [List.mem_map, Prod.exists, mem_symbolsWhere, exists_and_right, exists_eq_right]

/-- The ids of symbols among some ids are those of them that are stored. -/
theorem mem_keys_symbolsAmong {ids : ExtTreeSet Int} {id : Int} :
    id ∈ (db.symbolsAmong ids).map (·.1) ↔ (∃ row, db.symbols[id]? = some row) ∧ id ∈ ids := by
  simp only [List.mem_map, Prod.exists, mem_symbolsAmong, exists_and_right, exists_eq_right]

/-- The symbols with a property are listed once. -/
theorem nodup_symbolsWhere (p : Int → SymbolRow → Bool) :
    ((db.symbolsWhere p).map (·.1)).Nodup := by
  rw [symbolsWhere, ((sortedBy_perm _ _).map _).nodup_iff]
  exact nodup_keys_filter db.symbols _

/-- The symbols among some ids are listed once. -/
theorem nodup_symbolsAmong (ids : ExtTreeSet Int) : ((db.symbolsAmong ids).map (·.1)).Nodup := by
  have keys : ((db.symbolsAmong ids).map (·.1)).Sublist ids.toList := by
    rw [symbolsAmong]
    induction ids.toList with
    | nil => exact .slnil
    | cons id rest ih =>
      rw [List.filterMap_cons]
      cases db.symbols[id]? with
      | none => exact ih.cons _
      | some row => exact ih.cons_cons _
  exact (nodup_toList ids).sublist keys

/-- The edges with a property are listed once. -/
theorem nodup_edgesWhere (p : EdgeRow → Bool) : ((db.edgesWhere p).map (·.1)).Nodup :=
  nodup_keys_filter db.edges _

end Database

namespace Graph

/-! ## Readings -/

/-- The symbols of files are read as they are stored. -/
theorem symbolsInFiles_reads (paths : List Path) :
    (symbolsInFiles paths : Action ω (List Symbol)).Reads db fun symbols =>
      symbolsOf (db.symbolsWhere fun _ row => (textsOf paths).contains row.file) =
        .ok symbols := by
  unfold symbolsInFiles
  dsimp only
  split
  · next empty =>
    refine .pure ?_
    rw [List.isEmpty_iff.mp empty, Database.symbolsWhere, List.filter_eq_nil_iff.mpr (by simp)]
    rfl
  · apply (Action.query_reads _ _ _).bind
    rintro _ rfl
    exact .of fun symbols same => same

/-- Symbols are read by their ids as they are stored. -/
theorem symbolsById_reads (ids : ExtTreeSet Int) :
    (symbolsById ids : Action ω (List Symbol)).Reads db fun symbols =>
      symbolsOf (db.symbolsAmong ids) = .ok symbols := by
  unfold symbolsById
  split
  · next empty =>
    refine .pure ?_
    rw [ExtTreeSet.isEmpty_iff.mp empty]
    rfl
  · apply (Action.query_reads _ _ _).bind
    rintro _ rfl
    exact .of fun symbols same => same

/-- The symbols at ends are read as they are stored under the ids among the ends. -/
theorem symbolsAt_reads (ids : ExtTreeSet Int) (others : List Value) :
    (symbolsAt ids others : Action ω (List Symbol)).Reads db fun symbols =>
      symbolsOf (db.symbolsAmong ids) = .ok symbols := by
  have asks (statement : Statement) (values : List Value) :
      (do
        let rows ← Action.query statement values (·.symbolsAmong ids)
        Action.of (symbolsOf rows) : Action ω (List Symbol)).Reads db fun symbols =>
          symbolsOf (db.symbolsAmong ids) = .ok symbols := by
    apply (Action.query_reads _ _ _).bind
    rintro _ rfl
    exact .of fun symbols same => same
  unfold symbolsAt
  split
  · exact symbolsById_reads ids
  dsimp only
  generalize List.length _ = kinds
  split
  · exact (Action.Reads.throw (P := fun _ => False) _).bind fun _ no => no.elim
  · exact asks _ _

/-- The edges that touch some ids are read as they are stored. -/
theorem touching_reads (ids : ExtTreeSet Int) :
    (touching ids : Action ω (List Edge)).Reads db fun edges =>
      edgesOf (db.edgesWhere (·.touches ids)) = .ok edges := by
  unfold touching
  split
  · next empty =>
    refine .pure ?_
    have none (o : Option Int) : o.any (∅ : ExtTreeSet Int).contains = false := by
      cases o with
      | none => rfl
      | some id => exact ExtTreeSet.contains_empty
    rw [ExtTreeSet.isEmpty_iff.mp empty, Database.edgesWhere,
      List.filter_eq_nil_iff.mpr (by simp [EdgeRow.touches, none])]
    rfl
  · apply (Action.query_reads _ _ _).bind
    rintro _ rfl
    exact .of fun edges same => same

private theorem getElem?_hashesOf {paths : List Path} {p : Path} (hp : p ∈ paths) :
    (ExtTreeMap.ofList ((textsOf paths).filterMap fun file =>
        (db.files[file]?).map fun row => (Path.ofString file, row.hash)))[p]? =
      (db.files[p.toString]?).map (·.hash) := by
  cases hr : db.files[p.toString]? with
  | none =>
    refine ExtTreeMap.getElem?_ofList_of_contains_eq_false ?_
    rw [← Bool.not_eq_true, List.contains_iff_mem]
    simp only [List.mem_map, List.mem_filterMap, Option.map_eq_some_iff, Prod.exists,
      Prod.mk.injEq]
    rintro ⟨_, _, ⟨file, mem, row, hrow, rfl, -⟩, own⟩
    obtain ⟨q, -, rfl⟩ := mem_textsOf.mp mem
    rw [Path.ofString_toString] at own
    rw [own, hr] at hrow
    cases hrow
  | some row =>
    refine ExtTreeMap.getElem?_ofList_of_mem (k := p) ReflCmp.compare_self ?_ ?_
    · rw [List.pairwise_filterMap]
      refine (nodup_toList _).imp_of_mem fun ha hb differs x hx y hy same => ?_
      obtain ⟨q, -, rfl⟩ := mem_textsOf.mp ha
      obtain ⟨q', -, rfl⟩ := mem_textsOf.mp hb
      obtain ⟨_, _, rfl⟩ := Option.map_eq_some_iff.mp hx
      obtain ⟨_, _, rfl⟩ := Option.map_eq_some_iff.mp hy
      rw [Path.ofString_toString, Path.ofString_toString] at same
      exact differs (congrArg _ (LawfulEqCmp.eq_of_compare same))
    · rw [List.mem_filterMap]
      exact ⟨p.toString, mem_textsOf.mpr ⟨p, hp, rfl⟩, by
        rw [hr, Option.map_some, Path.ofString_toString]⟩

/-- The digest of each file is read as it is recorded. -/
theorem hashes_reads (paths : List Path) :
    (hashes paths : Action ω (ExtTreeMap Path String)).Reads db fun found =>
      ∀ p ∈ paths, found[p]? = (db.files[p.toString]?).map (·.hash) := by
  unfold hashes
  dsimp only
  split
  · next empty =>
    refine .pure fun p hp => ?_
    have mem : p.toString ∈ textsOf paths := mem_textsOf.mpr ⟨p, hp, rfl⟩
    rw [List.isEmpty_iff.mp empty] at mem
    cases mem
  · apply (Action.query_reads _ _ _).bind
    rintro _ rfl
    exact .pure fun p hp => getElem?_hashesOf hp

/-- All symbols are read as they are stored. -/
theorem allSymbols_reads :
    (allSymbols : Action ω (List Symbol)).Reads db fun symbols =>
      symbolsOf (db.symbolsWhere fun _ _ => true) = .ok symbols := by
  apply (Action.query_reads _ _ _).bind
  rintro _ rfl
  exact .of fun symbols same => same

/-- All edges are read as they are stored. -/
theorem allEdges_reads :
    (allEdges : Action ω (List Edge)).Reads db fun edges =>
      edgesOf (db.edgesWhere fun _ => true) = .ok edges := by
  apply (Action.query_reads _ _ _).bind
  rintro _ rfl
  exact .of fun edges same => same

/-- The paths of the files of all symbols are read. -/
theorem filePaths_reads :
    (filePaths : Action ω (List Path)).Reads db fun paths =>
      ∀ p, p ∈ paths ↔ ∃ (id : Int) (row : SymbolRow), db.symbols[id]? = some row ∧
        Path.ofString row.file = p := by
  apply (Action.query_reads _ _ _).bind
  rintro _ rfl
  refine .pure fun p => ?_
  simp only [List.mem_map, ExtTreeSet.mem_toList, ExtTreeSet.mem_ofList, List.contains_iff_mem,
    Prod.exists, ExtTreeMap.mem_toList_iff_getElem?_eq_some]
  constructor
  · rintro ⟨_, ⟨id, row, hr, rfl⟩, rfl⟩
    exact ⟨id, row, hr, rfl⟩
  · rintro ⟨id, row, hr, rfl⟩
    exact ⟨row.file, ⟨id, row, hr, rfl⟩, rfl⟩

end Graph

end CodeGauge
