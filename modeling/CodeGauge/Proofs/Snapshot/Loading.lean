import CodeGauge.Proofs.Snapshot.Mirror
import CodeGauge.Proofs.Store.Blocked
import CodeGauge.Proofs.Store.Opening
import CodeGauge.Proofs.Store.Reading

/-!
# Loaded snapshots mirror the tables

Both ways of loading put together the same parts: complete symbols, symbols known as context, edges
and covered files. When the parts are what the tables have, the snapshot mirrors the tables; its
complete symbols and its covered files are those that were asked for.
-/

open Std

namespace CodeGauge

variable {ω : Type} {db : Database} {disk : Disk} {root : Path}

namespace Snapshot

/-! ## Symbols and edges -/

-- `g'` is `g` with these symbols added.
private structure Adds (symbols : List Symbol) (complete : Bool) (g g' : Snapshot) : Prop where
  edges : g'.edges = g.edges
  files : g'.files = g.files
  whole : ∀ id, id ∈ g'.complete ↔
    id ∈ g.complete ∨ complete = true ∧ id ∈ symbols.map (·.id)
  known : ∀ id s, g'.symbol? id = some s → g.symbol? id = some s ∨ s ∈ symbols ∧ s.id = id
  present : ∀ id, (g'.symbol? id).isSome ↔ (g.symbol? id).isSome ∨ id ∈ symbols.map (·.id)

/-- A symbol that is added is found under its id, and all others as before. -/
theorem symbol?_addSymbol (g : Snapshot) (s : Symbol) (complete : Bool) (id : Int) :
    (g.addSymbol s complete).symbol? id = if s.id = id then some s else g.symbol? id := by
  change (g.symbols.insert s.id s)[id]? = _
  rw [ExtTreeMap.getElem?_insert]
  simp only [LawfulEqOrd.compare_eq_iff_eq]
  rfl

private theorem mem_complete_addSymbol (g : Snapshot) (s : Symbol) (complete : Bool) (id : Int) :
    id ∈ (g.addSymbol s complete).complete ↔ id ∈ g.complete ∨ complete = true ∧ id = s.id := by
  cases complete with
  | false => simp [addSymbol]
  | true =>
    change id ∈ g.complete.insert s.id ↔ _
    rw [ExtTreeSet.mem_insert, LawfulEqOrd.compare_eq_iff_eq]
    simp [or_comm, eq_comm]

private theorem adds_foldl (symbols : List Symbol) (complete : Bool) (g : Snapshot) :
    Adds symbols complete g (symbols.foldl (fun g s => g.addSymbol s complete) g) := by
  induction symbols generalizing g with
  | nil => exact ⟨rfl, rfl, by simp, fun _ _ => .inl, by simp⟩
  | cons s symbols ih =>
    have ⟨edges, files, whole, known, present⟩ := ih (g.addSymbol s complete)
    refine ⟨edges, files, fun id => ?_, fun id s' held => ?_, fun id => ?_⟩
    · rw [List.foldl_cons, whole, mem_complete_addSymbol, List.map_cons, List.mem_cons,
        and_or_left, or_assoc]
    · rcases known id s' held with held | ⟨mem, own⟩
      · rw [symbol?_addSymbol] at held
        split at held
        · next own =>
          cases held
          exact .inr ⟨List.mem_cons_self, own⟩
        · exact .inl held
      · exact .inr ⟨List.mem_cons_of_mem _ mem, own⟩
    · rw [List.foldl_cons, present, symbol?_addSymbol, List.map_cons, List.mem_cons]
      split
      · next own => simp [own]
      · next other => simp [Ne.symm other]

private theorem foldl_addEdge (edges : List Edge) (g : Snapshot)
    (distinct : ((g.edges ++ edges).map (·.id)).Nodup) :
    edges.foldl (·.addEdge ·) g = { g with edges := g.edges ++ edges } := by
  induction edges generalizing g with
  | nil => simp
  | cons e edges ih =>
    have new : g.edges.any (·.id == e.id) = false := by
      rw [List.map_append, List.nodup_append] at distinct
      rw [List.any_eq_false]
      intro e' he' same
      exact distinct.2.2 e'.id (List.mem_map_of_mem he') e.id
        (List.mem_map_of_mem List.mem_cons_self) (by simpa using same)
    have added : g.addEdge e = { g with edges := g.edges ++ [e] } := by
      rw [addEdge, new]
      rfl
    rw [List.foldl_cons, added, ih]
    · simp
    · simpa using distinct

private theorem foldl_addEdge_others (edges : List Edge) (g : Snapshot) :
    (edges.foldl (·.addEdge ·) g).symbols = g.symbols ∧
      (edges.foldl (·.addEdge ·) g).complete = g.complete ∧
      (edges.foldl (·.addEdge ·) g).files = g.files := by
  induction edges generalizing g with
  | nil => exact ⟨rfl, rfl, rfl⟩
  | cons e edges ih =>
    have ⟨symbols, complete, files⟩ := ih (g.addEdge e)
    rw [List.foldl_cons, symbols, complete, files, addEdge]
    split
    · exact ⟨rfl, rfl, rfl⟩
    · exact ⟨rfl, rfl, rfl⟩

/-! ## Files -/

-- What covering files does to a snapshot that has none of them.
private structure Covers (ids : Path → List Int) (hash : Path → Option String)
    (unread : Path → Bool) (disk : Disk) (root : Path) (paths : List Path) (g g' : Snapshot) :
    Prop where
  symbols : g'.symbols = g.symbols
  complete : g'.complete = g.complete
  edges : g'.edges = g.edges
  covered : ∀ path ∈ paths, ∃ content readError,
    g'.files[path]? = some ⟨ids path, content, readError, hash path⟩ ∧
    (unread path = false → readContent disk (some root) path = .ok (content, readError)) ∧
    (unread path = true → content = none)
  others : ∀ path ∉ paths, g'.files[path]? = g.files[path]?

private theorem cover_eq_ok {g g' : Snapshot} {path : Path} {ids : List Int}
    {hash : Option String} {unread : Bool} (new : g.files[path]? = none)
    (h : g.cover disk (some root) path ids hash unread = .ok g') :
    ∃ content readError,
      g' = { g with files := g.files.insert path ⟨ids, content, readError, hash⟩ } ∧
      (unread = false → readContent disk (some root) path = .ok (content, readError)) ∧
      (unread = true → content = none) := by
  have added (content : Option ByteArray) (readError : Option String) :
      g.addFile path ⟨ids, content, readError, hash⟩ =
        { g with files := g.files.insert path ⟨ids, content, readError, hash⟩ } := by
    simp [addFile, new]
  rw [cover] at h
  split at h
  · next skipped =>
    cases h
    refine ⟨none, none, added _ _, fun whole => ?_, fun _ => rfl⟩
    rw [whole] at skipped
    cases skipped
  · next whole =>
    have ⟨⟨content, readError⟩, read, made⟩ := Except.bind_eq_ok.mp h
    cases made
    exact ⟨content, readError, added _ _, fun _ => read, fun skipped => (whole skipped).elim⟩

private theorem covers_foldlM {ids : Path → List Int} {hash : Path → Option String}
    {unread : Path → Bool} {paths : List Path} (nodup : paths.Nodup) {g g' : Snapshot}
    (new : ∀ path ∈ paths, g.files[path]? = none)
    (run : paths.foldlM (fun g path =>
      g.cover disk (some root) path (ids path) (hash path) (unread path)) g = .ok g') :
    Covers ids hash unread disk root paths g g' := by
  induction paths generalizing g with
  | nil =>
    cases run
    exact ⟨rfl, rfl, rfl, nofun, fun _ _ => rfl⟩
  | cons path paths ih =>
    rw [List.foldlM_cons] at run
    have ⟨g₁, step, run⟩ := Except.bind_eq_ok.mp run
    obtain ⟨content, readError, rfl, read⟩ := cover_eq_ok (new path List.mem_cons_self) step
    rw [List.nodup_cons] at nodup
    have held (q : Path) : (g.files.insert path ⟨ids path, content, readError, hash path⟩)[q]? =
        if path = q then some ⟨ids path, content, readError, hash path⟩ else g.files[q]? := by
      rw [ExtTreeMap.getElem?_insert]
      simp only [LawfulEqOrd.compare_eq_iff_eq]
    have ⟨symbols, complete, edges, covered, others⟩ := ih nodup.2 (fun q hq => by
      change (g.files.insert path _)[q]? = none
      rw [held, if_neg]
      · exact new q (List.mem_cons_of_mem _ hq)
      · rintro rfl
        exact nodup.1 hq) run
    refine ⟨symbols, complete, edges, fun q hq => ?_, fun q hq => ?_⟩
    · rcases List.mem_cons.mp hq with rfl | hq
      · refine ⟨content, readError, ?_, read⟩
        rw [others q nodup.1]
        exact (held q).trans (if_pos rfl)
      · exact covered q hq
    · rw [List.mem_cons, not_or] at hq
      rw [others q hq.2]
      exact (held q).trans (if_neg (Ne.symm hq.1))

/-! ## A snapshot put together -/

/-- The parts of a snapshot as the tables have them: the symbols that are complete, those that are
known as context, the edges, and the files. -/
structure Parts (db : Database) (core context : List Symbol) (edges : List Edge)
    (paths : List Path) (ids : Path → List Int) (hash : Path → Option String)
    (unread : Path → Bool) : Prop where
  known : ∀ s ∈ core ++ context, ∃ row, db.symbols[s.id]? = some row ∧ row.symbol s.id = .ok s
  loaded : ∃ p, edgesOf (db.edgesWhere p) = .ok edges ∧
    ∀ s ∈ core, ∀ e, e.caller.id? = some s.id ∨ e.callee.id? = some s.id → p e = true
  ends : ∀ e ∈ edges, ∀ v, v = e.caller ∨ v = e.callee → ∀ id, v.id? = some id →
    (db.symbols[id]?).isSome → id ∈ (core ++ context).map (·.id)
  nodup : paths.Nodup
  ids_nodup : ∀ path ∈ paths, (ids path).Nodup
  ids_mem : ∀ path ∈ paths, ∀ id, id ∈ ids path ↔
    ∃ row, db.symbols[id]? = some row ∧ row.file = path.toString
  ids_core : ∀ path ∈ paths, ∀ id ∈ ids path, id ∈ core.map (·.id)
  hashes : ∀ path ∈ paths, hash path = (db.files[path.toString]?).map (·.hash)
  read : ∀ path ∈ paths, ids path ≠ [] → unread path = false

-- A new snapshot with complete symbols, symbols known as context, and edges.
private def withParts (n : Nat) (core context : List Symbol) (edges : List Edge) : Snapshot :=
  let g : Snapshot := { id := n }
  let g := core.foldl (·.addSymbol ·) g
  let g := context.foldl (fun g s => g.addSymbol s false) g
  edges.foldl (·.addEdge ·) g

-- The snapshot has these complete symbols and symbols known as context, and no files.
private structure Holds (core context : List Symbol) (g : Snapshot) : Prop where
  noFiles : ∀ path : Path, g.files[path]? = none
  complete : ∀ id, id ∈ g.complete ↔ id ∈ core.map (·.id)
  known : ∀ id s, g.symbol? id = some s → s ∈ core ++ context ∧ s.id = id
  present : ∀ id, (g.symbol? id).isSome ↔ id ∈ (core ++ context).map (·.id)

private theorem withParts_holds (n : Nat) (core context : List Symbol) (edges : List Edge) :
    Holds core context (withParts n core context edges) := by
  have inCore := adds_foldl core true { id := n }
  rw [withParts]
  generalize core.foldl (fun (g : Snapshot) s => g.addSymbol s) { id := n } = g₁ at inCore ⊢
  have inContext := adds_foldl context false g₁
  generalize context.foldl (fun g s => g.addSymbol s false) g₁ = g₂ at inContext ⊢
  have ⟨symbols, complete, files⟩ := foldl_addEdge_others edges g₂
  have symbol? (id : Int) : (edges.foldl (·.addEdge ·) g₂).symbol? id = g₂.symbol? id := by
    rw [Snapshot.symbol?, symbols]
    rfl
  constructor
  · intro path
    rw [files, inContext.files, inCore.files]
    exact ExtTreeMap.getElem?_empty
  · intro id
    rw [complete, inContext.whole, inCore.whole]
    simp
  · intro id s hs
    rw [symbol?] at hs
    rcases inContext.known id s hs with hs | ⟨mem, own⟩
    · rcases inCore.known id s hs with hs | ⟨mem, own⟩
      · simp [Snapshot.symbol?] at hs
      · exact ⟨List.mem_append_left _ mem, own⟩
    · exact ⟨List.mem_append_right _ mem, own⟩
  · intro id
    rw [symbol?, inContext.present, inCore.present, List.map_append, List.mem_append]
    simp [Snapshot.symbol?]

private theorem edges_withParts (n : Nat) (core context : List Symbol) {edges : List Edge}
    (distinct : (edges.map (·.id)).Nodup) : (withParts n core context edges).edges = edges := by
  have inCore := adds_foldl core true { id := n }
  rw [withParts]
  generalize core.foldl (fun (g : Snapshot) s => g.addSymbol s) { id := n } = g₁ at inCore ⊢
  have inContext := adds_foldl context false g₁
  generalize context.foldl (fun g s => g.addSymbol s false) g₁ = g₂ at inContext ⊢
  have noEdges : g₂.edges = [] := inContext.edges.trans inCore.edges
  rw [foldl_addEdge edges g₂ (by rw [noEdges]; exact distinct), noEdges, List.nil_append]

/-- A snapshot that is put together from the parts that the tables have mirrors the tables. -/
theorem Parts.mirrors {core context : List Symbol} {edges : List Edge} {paths : List Path}
    {ids : Path → List Int} {hash : Path → Option String} {unread : Path → Bool} {n : Nat}
    {g : Snapshot} (parts : Parts db core context edges paths ids hash unread)
    (run : paths.foldlM (fun g path =>
      g.cover disk (some root) path (ids path) (hash path) (unread path))
      (withParts n core context edges) = .ok g) :
    g.Mirrors db disk root ∧ g.edges = edges ∧
      (∀ id, id ∈ g.complete ↔ id ∈ core.map (·.id)) ∧ ∀ path, path ∈ g.files ↔ path ∈ paths := by
  have ⟨p, made, touched⟩ := parts.loaded
  have distinct : (edges.map (·.id)).Nodup := by
    rw [map_eq_of_mapM_eq_ok made fun _ _ _ he => (EdgeRow.edge_eq_ok he).1]
    exact Database.nodup_edgesWhere p
  have start := withParts_holds n core context edges
  have covers := covers_foldlM parts.nodup (fun path _ => start.noFiles path) run
  have sameEdges : g.edges = edges := covers.edges.trans (edges_withParts n core context distinct)
  have symbol? (id : Int) : g.symbol? id = (withParts n core context edges).symbol? id := by
    rw [Snapshot.symbol?, covers.symbols]
    rfl
  have complete (id : Int) : id ∈ g.complete ↔ id ∈ core.map (·.id) := by
    rw [covers.complete]
    exact start.complete id
  have file {path : Path} {file : CoveredFile} (hf : g.files[path]? = some file) :
      path ∈ paths := by
    by_cases mem : path ∈ paths
    · exact mem
    · rw [covers.others path mem, start.noFiles] at hf
      cases hf
  refine ⟨?_, sameEdges, complete, fun path => ⟨fun held => ?_, fun mem => ?_⟩⟩
  · constructor
    · intro id s hs
      rw [symbol?] at hs
      have ⟨mem, own⟩ := start.known id s hs
      subst own
      exact parts.known s mem
    · intro id hid
      rw [symbol?, start.present, List.map_append, List.mem_append]
      exact .inl ((complete id).mp hid)
    · refine ⟨p, ?_, fun id hid e touch => ?_⟩
      · rw [sameEdges]
        exact made
      · have ⟨s, mem, own⟩ := List.mem_map.mp ((complete id).mp hid)
        subst own
        exact touched s mem e touch
    · intro e he v hv id hid stored
      rw [sameEdges] at he
      rw [symbol?, start.present]
      exact parts.ends e he v hv id hid stored
    · intro path covered hf
      have mem := file hf
      have ⟨content, readError, held, read, _⟩ := covers.covered path mem
      rw [held] at hf
      cases hf
      exact ⟨parts.ids_nodup path mem, parts.ids_mem path mem,
        fun id hid => (complete id).mpr (parts.ids_core path mem id hid),
        fun some_symbol => read (parts.read path mem some_symbol), parts.hashes path mem⟩
  · have ⟨_, hf⟩ := Option.isSome_iff_exists.mp (ExtTreeMap.mem_iff_isSome_getElem?.mp held)
    exact file hf
  · have ⟨_, _, held, _⟩ := covers.covered path mem
    rw [ExtTreeMap.mem_iff_isSome_getElem?, held]
    rfl

/-! ## What is loaded -/

/-- Symbols that were read from rows of the table are those of the rows, in their order. -/
theorem symbolsOf_rows {rows : List (Int × SymbolRow)} {symbols : List Symbol}
    (stored : ∀ x ∈ rows, db.symbols[x.1]? = some x.2) (h : symbolsOf rows = .ok symbols) :
    (∀ s ∈ symbols, ∃ row, db.symbols[s.id]? = some row ∧ row.symbol s.id = .ok s) ∧
      symbols.map (·.id) = rows.map (·.1) := by
  refine ⟨fun s hs => ?_, map_eq_of_mapM_eq_ok h fun x _ s made => (SymbolRow.symbol_eq_ok made).1⟩
  have ⟨x, mem, made⟩ := (mem_of_mapM_eq_ok h s).mp hs
  rw [(SymbolRow.symbol_eq_ok made).1]
  exact ⟨x.2, stored x mem, made⟩

private theorem mem_idsIn {symbols : List Symbol} (normal : db.Normal)
    (stored : ∀ s ∈ symbols, ∃ row, db.symbols[s.id]? = some row ∧ row.symbol s.id = .ok s)
    {path : Path} {id : Int} :
    id ∈ idsIn symbols path ↔ id ∈ symbols.map (·.id) ∧
      ∃ row, db.symbols[id]? = some row ∧ row.file = path.toString := by
  rw [idsIn, List.mem_map, List.mem_map]
  simp only [List.mem_filter, beq_iff_eq]
  constructor
  · rintro ⟨s, ⟨mem, rfl⟩, rfl⟩
    obtain ⟨row, hr, made⟩ := stored s mem
    refine ⟨⟨s, mem, rfl⟩, row, hr, ?_⟩
    rw [(SymbolRow.symbol_eq_ok made).2.1]
    exact (normal s.id row hr).symm
  · rintro ⟨⟨s, mem, rfl⟩, row, hr, file⟩
    obtain ⟨row', hr', made⟩ := stored s mem
    rw [hr] at hr'
    cases hr'
    refine ⟨s, ⟨mem, ?_⟩, rfl⟩
    rw [(SymbolRow.symbol_eq_ok made).2.1, file, Path.ofString_toString]

private theorem nodup_idsIn {symbols : List Symbol} (nodup : (symbols.map (·.id)).Nodup)
    (path : Path) : (idsIn symbols path).Nodup :=
  nodup.sublist (List.filter_sublist.map _)

/-- The id set of symbols has their ids. -/
theorem mem_idSet {symbols : List Symbol} {id : Int} :
    id ∈ idSet symbols ↔ id ∈ symbols.map (·.id) := by
  rw [idSet, ExtTreeSet.mem_ofList, List.contains_iff_mem]

/-- The snapshot shows the wanted part of the tables: the stored ones among the wanted symbols and
those of the wanted files are complete, the edges are those that touch a complete symbol, and the
wanted files are covered. -/
structure Shows (g : Snapshot) (wanted : Affected) (db : Database) (disk : Disk) (root : Path) :
    Prop where
  mirrors : g.Mirrors db disk root
  complete : ∀ id, id ∈ g.complete ↔ ∃ row, db.symbols[id]? = some row ∧
    (id ∈ wanted.symbols ∨ Path.ofString row.file ∈ wanted.files)
  touching : ∀ e ∈ g.edges, ∃ id ∈ g.complete, e.caller.id? = some id ∨ e.callee.id? = some id
  files : ∀ path, path ∈ g.files ↔ path ∈ wanted.files

-- The ids of the symbols of a file, in order.
private def sortedIds (symbols : List Symbol) (path : Path) : List Int :=
  sortedBy (fun i j => decide (i ≤ j)) (idsIn symbols path)

section Part

variable {wanted : Affected} {inFiles further context : List Symbol} {edges : List Edge}

private theorem mem_core (normal : db.Normal)
    (hi : symbolsOf (db.symbolsWhere fun _ row =>
      (Graph.textsOf wanted.files.toList).contains row.file) = .ok inFiles)
    (hf : symbolsOf (db.symbolsAmong (wanted.symbols \ idSet inFiles)) = .ok further) (id : Int) :
    id ∈ (inFiles ++ further).map (·.id) ↔ ∃ row, db.symbols[id]? = some row ∧
      (id ∈ wanted.symbols ∨ Path.ofString row.file ∈ wanted.files) := by
  have ⟨_, idsIn⟩ := symbolsOf_rows (fun x hx => (Database.mem_symbolsWhere.mp hx).1) hi
  have ⟨_, idsFurther⟩ := symbolsOf_rows (fun x hx => (Database.mem_symbolsAmong.mp hx).1) hf
  have inFile : id ∈ inFiles.map (·.id) ↔ ∃ row, db.symbols[id]? = some row ∧
      Path.ofString row.file ∈ wanted.files := by
    rw [idsIn, Database.mem_keys_symbolsWhere]
    refine exists_congr fun row => and_congr_right fun hr => ?_
    rw [List.contains_iff_mem, Graph.mem_textsOf_of_normal (normal id row hr),
      ExtTreeSet.mem_toList]
  rw [List.map_append, List.mem_append, idsFurther, Database.mem_keys_symbolsAmong,
    ExtTreeSet.mem_diff_iff, mem_idSet]
  by_cases mem : id ∈ inFiles.map (·.id)
  · have ⟨row, hr, file⟩ := inFile.mp mem
    exact iff_of_true (.inl mem) ⟨row, hr, .inr file⟩
  · constructor
    · rintro (no | ⟨⟨row, hr⟩, asked, -⟩)
      · exact (mem no).elim
      · exact ⟨row, hr, .inl asked⟩
    · rintro ⟨row, hr, asked | file⟩
      · exact .inr ⟨⟨row, hr⟩, asked, mem⟩
      · exact (mem (inFile.mpr ⟨row, hr, file⟩)).elim

private theorem nodup_core {p : Int → SymbolRow → Bool}
    (hi : symbolsOf (db.symbolsWhere p) = .ok inFiles)
    (hf : symbolsOf (db.symbolsAmong (wanted.symbols \ idSet inFiles)) = .ok further) :
    ((inFiles ++ further).map (·.id)).Nodup := by
  have ⟨_, idsIn⟩ := symbolsOf_rows (fun x hx => (Database.mem_symbolsWhere.mp hx).1) hi
  have ⟨_, idsFurther⟩ := symbolsOf_rows (fun x hx => (Database.mem_symbolsAmong.mp hx).1) hf
  rw [List.map_append, List.nodup_append, idsFurther]
  refine ⟨?_, Database.nodup_symbolsAmong _, fun id hid id' hid' same => ?_⟩
  · rw [idsIn]
    exact Database.nodup_symbolsWhere _
  · subst same
    have other := (Database.mem_keys_symbolsAmong.mp hid').2
    rw [ExtTreeSet.mem_diff_iff, mem_idSet] at other
    exact other.2 hid

private theorem mem_of_end {core : List Symbol}
    (hc : symbolsOf (db.symbolsAmong (.ofList ((endsOf edges).filterMap Value.id?) \
      idSet core)) = .ok context) {e : Edge} (he : e ∈ edges) {v : Value}
    (hv : v = e.caller ∨ v = e.callee) {id : Int} (hid : v.id? = some id)
    (present : (db.symbols[id]?).isSome) : id ∈ (core ++ context).map (·.id) := by
  have ⟨_, idsContext⟩ := symbolsOf_rows (fun x hx => (Database.mem_symbolsAmong.mp hx).1) hc
  rw [List.map_append, List.mem_append]
  by_cases inCore : id ∈ core.map (·.id)
  · exact .inl inCore
  · refine .inr ?_
    rw [idsContext, Database.mem_keys_symbolsAmong, ExtTreeSet.mem_diff_iff, mem_idSet,
      ExtTreeSet.mem_ofList, List.contains_iff_mem, List.mem_filterMap]
    refine ⟨Option.isSome_iff_exists.mp present, ⟨v, ?_, hid⟩, inCore⟩
    exact List.mem_flatMap.mpr ⟨e, he, by simpa using hv⟩

private theorem parts_of_part (normal : db.Normal) {hashes : ExtTreeMap Path String}
    (hi : symbolsOf (db.symbolsWhere fun _ row =>
      (Graph.textsOf wanted.files.toList).contains row.file) = .ok inFiles)
    (hf : symbolsOf (db.symbolsAmong (wanted.symbols \ idSet inFiles)) = .ok further)
    (he : edgesOf (db.edgesWhere (·.touches (idSet (inFiles ++ further)))) = .ok edges)
    (hc : symbolsOf (db.symbolsAmong (.ofList ((endsOf edges).filterMap Value.id?) \
      idSet (inFiles ++ further))) = .ok context)
    (hh : ∀ p ∈ wanted.files.toList, hashes[p]? = (db.files[p.toString]?).map (·.hash)) :
    Parts db (inFiles ++ further) context edges wanted.files.toList
        (sortedIds (inFiles ++ further)) (fun path => hashes[path]?)
        (fun path => (sortedIds (inFiles ++ further) path).isEmpty) := by
  have ⟨storedIn, _⟩ := symbolsOf_rows (fun x hx => (Database.mem_symbolsWhere.mp hx).1) hi
  have ⟨storedFurther, _⟩ := symbolsOf_rows (fun x hx => (Database.mem_symbolsAmong.mp hx).1) hf
  have ⟨storedContext, _⟩ := symbolsOf_rows (fun x hx => (Database.mem_symbolsAmong.mp hx).1) hc
  have core := mem_core normal hi hf
  have stored : ∀ s ∈ inFiles ++ further,
      ∃ row, db.symbols[s.id]? = some row ∧ row.symbol s.id = .ok s := by
    intro s hs
    exact (List.mem_append.mp hs).elim (storedIn s) (storedFurther s)
  have mem_sorted (path : Path) (id : Int) :
      id ∈ sortedIds (inFiles ++ further) path ↔ id ∈ (inFiles ++ further).map (·.id) ∧
        ∃ row, db.symbols[id]? = some row ∧ row.file = path.toString := by
    rw [sortedIds, mem_sortedBy, mem_idsIn normal stored]
  constructor
  · intro s hs
    exact (List.mem_append.mp hs).elim (stored s) (storedContext s)
  · refine ⟨_, he, fun s hs e touch => ?_⟩
    have mem : s.id ∈ idSet (inFiles ++ further) := mem_idSet.mpr (List.mem_map_of_mem hs)
    rw [EdgeRow.touches_iff]
    exact ⟨s.id, mem, touch⟩
  · intro e mem v hv id hid present
    exact mem_of_end hc mem hv hid present
  · exact nodup_toList _
  · intro path _
    exact (sortedBy_perm _ _).nodup_iff.mpr (nodup_idsIn (nodup_core hi hf) path)
  · intro path hpath id
    rw [mem_sorted, core]
    apply and_iff_right_of_imp
    intro ⟨row, hr, file⟩
    refine ⟨row, hr, .inr ?_⟩
    rw [file, Path.ofString_toString]
    exact ExtTreeSet.mem_toList.mp hpath
  · intro path _ id hid
    exact ((mem_sorted path id).mp hid).1
  · exact hh
  · intro path _ some_symbol
    rw [List.isEmpty_eq_false_iff]
    exact some_symbol

private theorem touches_of_mem {core : List Symbol}
    (he : edgesOf (db.edgesWhere (·.touches (idSet core))) = .ok edges) {e : Edge}
    (mem : e ∈ edges) :
    ∃ id ∈ core.map (·.id), e.caller.id? = some id ∨ e.callee.id? = some id := by
  have ⟨x, stored, made⟩ := (mem_of_mapM_eq_ok he e).mp mem
  have ⟨_, caller, callee⟩ := EdgeRow.edge_eq_ok made
  have ⟨id, hid, touch⟩ := EdgeRow.touches_iff.mp (List.mem_filter.mp stored).2
  rw [← caller, ← callee] at touch
  exact ⟨id, mem_idSet.mp hid, touch⟩

end Part

private theorem parts_of_whole (normal : db.Normal) {symbols : List Symbol} {edges : List Edge}
    {paths : List Path} {hashes : ExtTreeMap Path String}
    (hs : symbolsOf (db.symbolsWhere fun _ _ => true) = .ok symbols)
    (he : edgesOf (db.edgesWhere fun _ => true) = .ok edges)
    (hh : ∀ p ∈ paths, hashes[p]? = (db.files[p.toString]?).map (·.hash)) :
    Parts db symbols [] edges (ExtTreeSet.ofList paths).toList (idsIn symbols)
        (fun path => hashes[path]?) (fun _ => false) ∧
      ∀ id, id ∈ symbols.map (·.id) ↔ (db.symbols[id]?).isSome := by
  have ⟨stored, ids⟩ := symbolsOf_rows (fun x hx => (Database.mem_symbolsWhere.mp hx).1) hs
  have core (id : Int) : id ∈ symbols.map (·.id) ↔ (db.symbols[id]?).isSome := by
    rw [ids, Database.mem_keys_symbolsWhere, Option.isSome_iff_exists]
    simp only [and_true]
  have nodup : (symbols.map (·.id)).Nodup := by
    rw [ids]
    exact Database.nodup_symbolsWhere _
  have listed (path : Path) : path ∈ (ExtTreeSet.ofList paths).toList ↔ path ∈ paths := by
    rw [ExtTreeSet.mem_toList, ExtTreeSet.mem_ofList, List.contains_iff_mem]
  refine ⟨⟨?_, ⟨_, he, fun _ _ _ _ => rfl⟩, ?_, nodup_toList _, ?_, ?_, ?_, ?_,
    fun _ _ _ => rfl⟩, core⟩
  · intro s hs
    rw [List.append_nil] at hs
    exact stored s hs
  · intro e mem v hv id hid present
    rw [List.append_nil]
    exact (core id).mpr present
  · intro path _
    exact nodup_idsIn nodup path
  · intro path _ id
    rw [mem_idsIn normal stored, core]
    apply and_iff_right_of_imp
    rintro ⟨row, hr, -⟩
    rw [hr]
    rfl
  · intro path _ id hid
    exact ((mem_idsIn normal stored).mp hid).1
  · intro path hpath
    exact hh path ((listed path).mp hpath)

/-- The snapshot shows all of the tables: every symbol is complete, and every file with a symbol is
covered. -/
structure ShowsAll (g : Snapshot) (db : Database) (disk : Disk) (root : Path) : Prop where
  mirrors : g.Mirrors db disk root
  complete : ∀ id, id ∈ g.complete ↔ (db.symbols[id]?).isSome
  files : ∀ path, path ∈ g.files ↔ ∃ (id : Int) (row : SymbolRow), db.symbols[id]? = some row ∧
    Path.ofString row.file = path

open CodeGauge.Action World

variable {w : World ω}

/-- What a loading of the whole graph reads: symbols, edges, paths and hashes. -/
def ReadsWhole (db : Database) :
    List Symbol × List Edge × List Path × ExtTreeMap Path String → Prop
  | (symbols, edges, paths, hashes) =>
    (Parts db symbols [] edges (ExtTreeSet.ofList paths).toList (idsIn symbols)
        (fun path => hashes[path]?) (fun _ => false) ∧
      ∀ id, id ∈ symbols.map (·.id) ↔ (db.symbols[id]?).isSome) ∧
    ∀ p, p ∈ paths ↔ ∃ (id : Int) (row : SymbolRow), db.symbols[id]? = some row ∧
      Path.ofString row.file = p

/-- What a loading of a part of the graph reads: the symbols that are wanted, the edges at them, the
symbols at the other ends, and hashes. -/
def ReadsPart (db : Database) (wanted : Affected) :
    List Symbol × List Edge × List Symbol × ExtTreeMap Path String → Prop
  | (core, edges, context, hashes) =>
    Parts db core context edges wanted.files.toList (sortedIds core) (fun path => hashes[path]?)
        (fun path => (sortedIds core path).isEmpty) ∧
      (∀ id, id ∈ core.map (·.id) ↔ ∃ row, db.symbols[id]? = some row ∧
        (id ∈ wanted.symbols ∨ Path.ofString row.file ∈ wanted.files)) ∧
      ∀ e ∈ edges, ∃ id ∈ core.map (·.id), e.caller.id? = some id ∨ e.callee.id? = some id

/-- A fresh snapshot uses up a number. -/
theorem runIn_fresh (w : World ω) :
    fresh.runIn w = (.ok { id := w.loads + 1 }, { w with loads := w.loads + 1 }) := rfl

/-- Loading the whole graph gives a snapshot that shows all of the tables. -/
theorem loadAll_ensures (h : w.Open db) (normal : db.Normal) :
    (loadAll (some root)).Ensures w fun g w' =>
      g.ShowsAll db w.disk root ∧ w.Onward w' db := by
  unfold loadAll
  refine .after (runIn_fresh w) ?_
  have hw : World.Open { w with loads := w.loads + 1 } db := h
  refine (Ensures.reportingGraphFaults (reading_ensures hw (P := ReadsWhole db) ?_)).bind ?_
  · refine Graph.allSymbols_reads.bind fun symbols hs => ?_
    refine Graph.allEdges_reads.bind fun edges he => ?_
    refine Graph.filePaths_reads.bind fun paths hp => ?_
    refine (Graph.hashes_reads _).bind fun hashes hh => ?_
    exact .pure ⟨parts_of_whole normal hs he hh, hp⟩
  intro ⟨symbols, edges, paths, hashes⟩ w₁ ⟨⟨⟨parts, whole⟩, listed⟩, h₁⟩
  refine .after runIn_get ?_
  refine .of fun g run => ?_
  rw [h₁.same.disk] at run
  obtain ⟨mirrors, -, complete, files⟩ := parts.mirrors run
  refine ⟨⟨mirrors, fun id => (complete id).trans (whole id), fun path => ?_⟩, h₁.isOpen,
    h₁.same.disk, h₁.same.clock, h₁.same.capacity⟩
  rw [files, ExtTreeSet.mem_toList, ExtTreeSet.mem_ofList, List.contains_iff_mem, listed]

/-- Loading a part of the graph gives a snapshot that shows this part of the tables. -/
theorem loadPart_ensures (h : w.Open db) (normal : db.Normal) (wanted : Affected) :
    (loadPart wanted (some root)).Ensures w fun g w' =>
      g.Shows wanted db w.disk root ∧ w.Onward w' db := by
  unfold loadPart
  refine .after (runIn_fresh w) ?_
  have hw : World.Open { w with loads := w.loads + 1 } db := h
  refine (Ensures.reportingGraphFaults (reading_ensures hw (P := ReadsPart db wanted) ?_)).bind ?_
  · refine (Graph.symbolsInFiles_reads _).bind fun inFiles hi => ?_
    refine (Graph.symbolsById_reads _).bind fun further hf => ?_
    refine (Graph.touching_reads _).bind fun edges he => ?_
    refine (Graph.symbolsAt_reads _ _).bind fun context hc => ?_
    refine (Graph.hashes_reads _).bind fun hashes hh => ?_
    exact .pure ⟨parts_of_part normal hi hf he hc hh, mem_core normal hi hf,
      fun _ mem => touches_of_mem he mem⟩
  intro ⟨core, edges, context, hashes⟩ w₁ ⟨⟨parts, wholes, touching⟩, h₁⟩
  refine .after runIn_get ?_
  refine .of fun g run => ?_
  rw [h₁.same.disk] at run
  have ⟨mirrors, same, complete, files⟩ := parts.mirrors run
  refine ⟨⟨mirrors, fun id => (complete id).trans (wholes id), fun e he => ?_, fun path => ?_⟩,
    h₁.isOpen, h₁.same.disk, h₁.same.clock, h₁.same.capacity⟩
  · rw [same] at he
    have ⟨id, inCore, touch⟩ := touching e he
    exact ⟨id, (complete id).mpr inCore, touch⟩
  · rw [files, ExtTreeSet.mem_toList]

/-! ## Snapshots of whatever was there -/

/-- The snapshot has symbols under their ids, and contents only of files with a symbol. -/
structure WellFormed (g : Snapshot) : Prop where
  keyed : ∀ id s, g.symbol? id = some s → s.id = id
  read : ∀ (path : Path) (file : CoveredFile), g.files[path]? = some file → file.content.isSome →
    file.symbols ≠ []

/-- Loading a part of the graph gives a well-formed snapshot, whatever the tables hold. -/
theorem loadPart_wellFormed (wanted : Affected) :
    (loadPart wanted (some root)).Ensures w fun g _ => g.WellFormed := by
  unfold loadPart
  refine .after (runIn_fresh w) ?_
  refine .bind (P := fun _ _ => True) (fun _ _ _ => trivial) ?_
  intro ⟨core, edges, context, hashes⟩ w₁ _
  refine .after runIn_get ?_
  refine .of fun g run => ?_
  have start := withParts_holds (w.loads + 1) core context edges
  have covers : Covers (sortedIds core) (fun path => hashes[path]?)
      (fun path => (sortedIds core path).isEmpty) w₁.disk root wanted.files.toList _ g :=
    covers_foldlM (nodup_toList wanted.files) (fun path _ => start.noFiles path) run
  constructor
  · intro id s hs
    rw [symbol?, covers.symbols] at hs
    exact (start.known id s hs).2
  · intro path file hf readable
    by_cases mem : path ∈ wanted.files.toList
    · have ⟨content, readError, held, _, unread⟩ := covers.covered path mem
      rw [held] at hf
      cases hf
      intro none
      rw [unread (List.isEmpty_iff.mpr none)] at readable
      cases readable
    · rw [covers.others path mem, start.noFiles] at hf
      cases hf

private theorem mem_of_run {core context : List Symbol} {edges : List Edge} {paths : List Path}
    {ids : Path → List Int} {hash : Path → Option String} {unread : Path → Bool} {n : Nat}
    (nodup : paths.Nodup) {g : Snapshot}
    (run : paths.foldlM (fun g path =>
      g.cover disk (some root) path (ids path) (hash path) (unread path))
      (withParts n core context edges) = .ok g) {id : Int} {s : Symbol}
    (hs : g.symbol? id = some s) : s ∈ core ++ context := by
  have start := withParts_holds n core context edges
  have covers := covers_foldlM nodup (fun path _ => start.noFiles path) run
  rw [symbol?, covers.symbols] at hs
  exact (start.known id s hs).1

/-- A part that was loaded where the tables cannot be had has no symbol. -/
theorem loadPart_blocked (h : w.Blocked) (wanted : Affected) :
    (loadPart wanted (some root)).Ensures w fun g _ => ∀ id s, g.symbol? id ≠ some s := by
  unfold loadPart
  refine .after (runIn_fresh w) ?_
  have hw : World.Blocked { w with loads := w.loads + 1 } := h
  refine Ensures.bind (P := fun read _ => read.1 = [] ∧ read.2.2.1 = []) ?_ ?_
  · refine .reportingGraphFaults (reading_blocked hw fun w h => ?_)
    refine (Graph.symbolsInFiles_blocked h _).bind ?_
    rintro _ w₁ ⟨rfl, h₁⟩
    refine (Graph.symbolsById_blocked h₁ _).bind ?_
    rintro _ w₂ ⟨rfl, h₂⟩
    refine (Graph.touching_blocked h₂ _).bind ?_
    rintro _ w₃ ⟨rfl, h₃⟩
    refine (Graph.symbolsAt_blocked h₃ _ _).bind ?_
    rintro _ w₄ ⟨rfl, _⟩
    exact .skip fun _ _ => .pure ⟨rfl, rfl⟩
  rintro ⟨_, edges, _, hashes⟩ w₁ ⟨rfl, rfl⟩
  refine .skip fun w₂ w₃ => .of fun g run id s hs => ?_
  have none : s ∈ ([] : List Symbol) ++ [] := mem_of_run (nodup_toList wanted.files) run hs
  exact absurd none List.not_mem_nil

/-- The whole graph is not loaded where the tables cannot be had. -/
theorem loadAll_blocked (h : w.Blocked) :
    (loadAll (some root)).Ensures w fun _ _ => False := by
  unfold loadAll
  refine .after (runIn_fresh w) ?_
  have hw : World.Blocked { w with loads := w.loads + 1 } := h
  refine .never (.reportingGraphFaults ?_) _
  refine reading_blocked hw (P := fun _ => False) fun w h => ?_
  exact .never (.never (query_blocked h _ _ _) _) _

/-! ## Loading opens the repository -/

private theorem opens_fresh {α : Type} {f : Snapshot → Action ω α} (hf : ∀ g, Opens (f g)) :
    Opens (fresh >>= f) := by
  intro w o c run
  rw [runIn_bind_of_ok (runIn_fresh w), runIn_bind_of_ok (runIn_fresh o), loads_opened run]
  apply hf _ _ _ c
  rw [blind_connection w, run]

/-- To load the whole graph begins by opening the repository. -/
theorem opens_loadAll : Opens (loadAll (some root) : Action ω Snapshot) :=
  opens_fresh fun _ => (opens_reading _).reportingGraphFaults.bind _

/-- To load a part of the graph begins by opening the repository. -/
theorem opens_loadPart (wanted : Affected) :
    Opens (loadPart wanted (some root) : Action ω Snapshot) :=
  opens_fresh fun _ => (opens_reading _).reportingGraphFaults.bind _

end Snapshot

end CodeGauge
