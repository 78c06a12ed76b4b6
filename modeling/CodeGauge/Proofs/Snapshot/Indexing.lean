import CodeGauge.Proofs.Snapshot.Assembly
import CodeGauge.Proofs.Snapshot.Surroundings
import CodeGauge.Snapshot.Indexed

/-!
# Tables and lists of edges

An indexed snapshot and a snapshot that get the same additions stay in step (`Indexes.add`): each
list of a table is what the snapshot's edges have at that key, in the same order, the lists of each
end have as many edges together as the snapshot has, and the set has their ids. So whatever is
looked up in the tables is what the snapshot gives. Every loaded snapshot is put together by
additions and has an indexed one in step with it (`Snapshot.Assembled.exists_indexes`).
-/

open Std

namespace CodeGauge

/-- An end is filed under an id exactly when it is that id. -/
theorem Value.endKey_eq_id {v : Value} {n : Int} : v.endKey = .id n ↔ v.id? = some n := by
  rw [endKey]
  cases v.id? with
  | none => exact ⟨nofun, nofun⟩
  | some m => exact ⟨fun same => by cases same; rfl, fun same => by cases same; rfl⟩

/-! ## Tables -/

namespace Adjacency

variable {a : Adjacency} {key key' : EndKey} {e : Edge}

private theorem lookup_map {entries : List (EndKey × List Edge)}
    {f : EndKey → List Edge → List Edge} :
    (entries.map fun x => (x.1, f x.1 x.2)).lookup key = (entries.lookup key).map (f key) := by
  induction entries with
  | nil => rfl
  | cons x entries ih =>
    rw [List.map_cons, List.lookup_cons, List.lookup_cons, ih]
    split
    · next same => rw [beq_iff_eq.mp same]; rfl
    · rfl

private theorem length_flatMap_append {entries : List (EndKey × List Edge)}
    (nodup : (entries.map (·.1)).Nodup) (mem : key ∈ entries.map (·.1)) :
    ((entries.map fun x => (x.1, if x.1 = key then x.2 ++ [e] else x.2)).flatMap (·.2)).length =
      (entries.flatMap (·.2)).length + 1 := by
  induction entries with
  | nil => cases mem
  | cons x entries ih =>
    rw [List.map_cons, List.nodup_cons] at nodup
    rw [List.map_cons, List.flatMap_cons, List.flatMap_cons, List.length_append,
      List.length_append]
    by_cases same : x.1 = key
    · have others : (entries.map fun x => (x.1, if x.1 = key then x.2 ++ [e] else x.2)) =
          entries := by
        rw [← same]
        refine (List.map_congr_left fun y mem => ?_).trans (List.map_id entries)
        have different : y.1 ≠ x.1 := fun equal => nodup.1 (equal ▸ List.mem_map_of_mem mem)
        rw [if_neg different, id]
      rw [others, if_pos same, List.length_append, List.length_singleton]
      omega
    · have later : key ∈ entries.map (·.1) := by
        simpa [Ne.symm same] using mem
      rw [ih nodup.2 later, if_neg same, Nat.add_assoc]

/-- To make an entry changes no list. -/
theorem get_ensure : (a.ensure key).get key' = a.get key' := by
  rw [ensure]
  split
  · rw [get, get, List.lookup_append]
    cases a.entries.lookup key' with
    | some es => rfl
    | none =>
      rw [Option.none_or, List.lookup_cons]
      split
      · rfl
      · rfl
  · rfl

private theorem mem_keys_ensure : key' ∈ (a.ensure key).keys ↔ key' = key ∨ key' ∈ a.keys := by
  rw [ensure]
  split
  · simp [keys, or_comm]
  · next held =>
    rw [Classical.not_not] at held
    constructor
    · exact .inr
    · rintro (rfl | mem)
      · exact held
      · exact mem

private theorem total_ensure : (a.ensure key).total = a.total := by
  rw [ensure]
  split
  · simp [total]
  · rfl

private theorem keys_append : (a.append key e).keys = a.keys := by
  simp [append, keys]

private theorem get_append (held : key ∈ a.keys) :
    (a.append key e).get key' = if key' = key then a.get key' ++ [e] else a.get key' := by
  rw [get, append, lookup_map (f := fun k es => if k = key then es ++ [e] else es), get]
  split
  · next same =>
    subst same
    cases found : a.entries.lookup key' with
    | some es => rfl
    | none =>
      rw [List.lookup_eq_none_iff] at found
      obtain ⟨x, mem, same⟩ := List.mem_map.mp held
      simpa [same] using found x mem
  · cases a.entries.lookup key' with
    | some es => rfl
    | none => rfl

private theorem total_append (held : key ∈ a.keys) : (a.append key e).total = a.total + 1 :=
  length_flatMap_append a.nodup held

/-- The table has every edge of the snapshot once, under the key of its end on one side and in
order of arrival, and an entry for every symbol besides. -/
structure Indexes (a : Adjacency) (side : Edge → Value) (g : Snapshot) : Prop where
  get : ∀ key, a.get key = g.edges.filter fun e => (side e).endKey = key
  keys : ∀ key, key ∈ a.keys ↔
    (∃ id ∈ g.symbols, key = .id id) ∨ ∃ e ∈ g.edges, (side e).endKey = key
  total : a.total = g.edges.length

namespace Indexes

variable {side : Edge → Value} {g : Snapshot}

/-- The lists under all keys together have the edges of the snapshot. -/
theorem exists_mem_get_iff (h : a.Indexes side g) : (∃ key, e ∈ a.get key) ↔ e ∈ g.edges := by
  simp only [h.get, List.mem_filter, decide_eq_true_eq, exists_and_left, exists_eq', and_true]

/-- Under an id are the edges of which it is the end. -/
theorem get_id (h : a.Indexes side g) (id : Int) :
    a.get (.id id) = g.edges.filter fun e => (side e).id? == some id := by
  rw [h.get]
  refine List.filter_congr fun e _ => ?_
  rw [Bool.eq_iff_iff, decide_eq_true_iff, beq_iff_eq, Value.endKey_eq_id]

/-- The empty table has the edges of an empty snapshot. -/
theorem empty (number : Nat) : Adjacency.empty.Indexes side { id := number } where
  get _ := rfl
  keys key := by
    simp [Adjacency.keys, Adjacency.empty]
  total := rfl

/-- A symbol gets its entry. -/
theorem addSymbol (h : a.Indexes side g) (s : Symbol) (complete : Bool) :
    (a.ensure (.id s.id)).Indexes side (g.addSymbol s complete) where
  get key := get_ensure.trans (h.get key)
  keys key := by
    rw [mem_keys_ensure, h.keys, Snapshot.addSymbol, ← or_assoc]
    apply or_congr_left
    constructor
    · rintro (rfl | ⟨id, known, rfl⟩)
      · exact ⟨s.id, ExtTreeMap.mem_insert_self, rfl⟩
      · exact ⟨id, ExtTreeMap.mem_insert.mpr (.inr known), rfl⟩
    · rintro ⟨id, known, rfl⟩
      rcases ExtTreeMap.mem_insert.mp known with own | known
      · exact .inl (by rw [LawfulEqOrd.compare_eq_iff_eq.mp own])
      · exact .inr ⟨id, known, rfl⟩
  total := total_ensure.trans h.total

/-- An edge is put at the end of its list. -/
theorem addEdge (h : a.Indexes side g) (e : Edge) :
    (a.file (side e).endKey e).Indexes side { g with edges := g.edges ++ [e] } := by
  have held : (side e).endKey ∈ (a.ensure (side e).endKey).keys := mem_keys_ensure.mpr (.inl rfl)
  constructor
  case get =>
    intro key
    rw [file, get_append held, get_ensure, h.get, List.filter_append]
    split
    · next same => simp [same]
    · next other => simp [Ne.symm other]
  case keys =>
    intro key
    rw [file, keys_append, mem_keys_ensure, h.keys, or_left_comm]
    apply or_congr_right
    simp only [List.mem_append, List.mem_singleton, or_and_right, exists_or, exists_eq_left]
    rw [or_comm, eq_comm]
  case total =>
    rw [file, total_append held, total_ensure, h.total, List.length_append, List.length_singleton]

end Indexes

end Adjacency

/-! ## Snapshots -/

namespace IndexedSnapshot

open Snapshot (Addition)

/-- Add one thing. -/
def add (x : IndexedSnapshot) : Addition → IndexedSnapshot
  | .symbol s complete => x.addSymbol s complete
  | .edge e => x.addEdge e
  | .file path file => x.addFile path file

/-- The snapshot of a number that is put together from additions. -/
def assemble (number : Nat) (additions : List Addition) : IndexedSnapshot :=
  additions.foldl add { id := number }

/-- The tables say together what the snapshot says. -/
structure Indexes (x : IndexedSnapshot) (g : Snapshot) : Prop where
  id : x.id = g.id
  symbols : x.symbols = g.symbols
  complete : x.complete = g.complete
  out : x.out.Indexes Edge.caller g
  into : x.into.Indexes Edge.callee g
  edgeIds : ∀ id, id ∈ x.edgeIds ↔ ∃ e ∈ g.edges, e.id = id
  numEdges : x.numEdges = g.edges.length
  fileSymbols : ∀ path : Path, x.fileSymbols[path]? = (g.files[path]?).map CoveredFile.symbols
  content : ∀ path, x.content path = (g.files[path]?).bind CoveredFile.content
  readError : ∀ path, x.readError path = (g.files[path]?).bind CoveredFile.readError
  recordedHash : ∀ path, x.recordedHash path = (g.files[path]?).bind CoveredFile.recordedHash

namespace Indexes

variable {x : IndexedSnapshot} {g : Snapshot}

/-- An empty snapshot is in step with the empty one of its number. -/
theorem empty (number : Nat) :
    IndexedSnapshot.Indexes { id := number } { id := number } where
  id := rfl
  symbols := rfl
  complete := rfl
  out := .empty number
  into := .empty number
  edgeIds _ := by simp
  numEdges := rfl
  fileSymbols _ := by simp
  content _ := by simp [IndexedSnapshot.content]
  readError _ := by simp [IndexedSnapshot.readError]
  recordedHash _ := by simp [IndexedSnapshot.recordedHash]

private theorem addSymbol (h : x.Indexes g) (s : Symbol) (complete : Bool) :
    (x.addSymbol s complete).Indexes (g.addSymbol s complete) where
  id := h.id
  symbols := by rw [IndexedSnapshot.addSymbol, Snapshot.addSymbol, h.symbols]
  complete := by rw [IndexedSnapshot.addSymbol, Snapshot.addSymbol, h.complete]
  out := h.out.addSymbol s complete
  into := h.into.addSymbol s complete
  edgeIds := h.edgeIds
  numEdges := h.numEdges
  fileSymbols := h.fileSymbols
  content := h.content
  readError := h.readError
  recordedHash := h.recordedHash

/-- An edge arrives at both ends, or at neither since its id is known. -/
theorem addEdge (h : x.Indexes g) (e : Edge) : (x.addEdge e).Indexes (g.addEdge e) := by
  have known : (g.edges.any (·.id == e.id)) = true ↔ e.id ∈ x.edgeIds := by
    simp [h.edgeIds]
  rw [IndexedSnapshot.addEdge, Snapshot.addEdge]
  split
  · next held =>
    rw [if_pos (known.mpr held)]
    exact h
  next new =>
  rw [if_neg (mt known.mp new)]
  exact {
    id := h.id
    symbols := h.symbols
    complete := h.complete
    out := h.out.addEdge e
    into := h.into.addEdge e
    edgeIds := by
      intro id
      simp only [ExtTreeSet.mem_insert, h.edgeIds, LawfulEqOrd.compare_eq_iff_eq, List.mem_append,
        List.mem_singleton, or_and_right, exists_or, exists_eq_left]
      exact or_comm
    numEdges := by
      have absent : ¬x.edgeIds.contains e.id = true := new
      rw [IndexedSnapshot.numEdges, ExtTreeSet.size_insert, if_neg absent, List.length_append,
        List.length_singleton]
      exact congrArg (· + 1) h.numEdges
    fileSymbols := h.fileSymbols
    content := h.content
    readError := h.readError
    recordedHash := h.recordedHash }

private theorem getElem?_file {α : Type} {table : ExtTreeMap Path α} {given : Option α}
    {part : CoveredFile → Option α} {path : Path} {file : CoveredFile}
    (before : ∀ path : Path, table[path]? = (g.files[path]?).bind part)
    (now : part file = (given <|> (g.files[path]?).bind part)) (path' : Path) :
    (given.elim table (table.insert path))[path']? =
      ((g.files.insert path file)[path']?).bind part := by
  rw [ExtTreeMap.getElem?_insert]
  split
  · next same =>
    cases LawfulEqOrd.compare_eq_iff_eq.mp same
    rw [Option.bind_some, now]
    cases given with
    | none => exact before path
    | some a => exact ExtTreeMap.getElem?_insert_self
  · next other =>
    rw [← before]
    cases given with
    | none => rfl
    | some a => exact (ExtTreeMap.getElem?_insert).trans (if_neg other)

private theorem addFile (h : x.Indexes g) (path : Path) (file : CoveredFile) :
    (x.addFile path file).Indexes (g.addFile path file) where
  id := h.id
  symbols := h.symbols
  complete := h.complete
  out := ⟨h.out.get, h.out.keys, h.out.total⟩
  into := ⟨h.into.get, h.into.keys, h.into.total⟩
  edgeIds := h.edgeIds
  numEdges := h.numEdges
  fileSymbols path' := by
    rw [IndexedSnapshot.addFile, Snapshot.addFile, ExtTreeMap.getElem?_insert,
      ExtTreeMap.getElem?_insert, h.fileSymbols]
    split
    · rfl
    · rfl
  content := getElem?_file h.content rfl
  readError := getElem?_file h.readError rfl
  recordedHash := getElem?_file h.recordedHash rfl

/-- One addition keeps the two in step. -/
theorem add (h : x.Indexes g) (addition : Addition) :
    (x.add addition).Indexes (g.add addition) := by
  cases addition with
  | symbol s complete => exact h.addSymbol s complete
  | edge e => exact h.addEdge e
  | file path file => exact h.addFile path file

end Indexes

/-- The same additions put together an indexed snapshot and a snapshot that are in step. -/
theorem assemble_indexes (number : Nat) (additions : List Addition) :
    (assemble number additions).Indexes (Snapshot.assemble number additions) := by
  have general {x : IndexedSnapshot} {g : Snapshot} (h : x.Indexes g) :
      (additions.foldl add x).Indexes (additions.foldl Snapshot.add g) := by
    induction additions generalizing x g with
    | nil => exact h
    | cons addition additions ih => exact ih (h.add addition)
  exact general (.empty number)

/-! ## Lookups -/

namespace Indexes

variable {x : IndexedSnapshot} {g : Snapshot}

/-- The list of a symbol's outgoing edges has those of the snapshot, in order of arrival. -/
theorem outgoing (h : x.Indexes g) (id : Int) : x.outgoing id = g.outgoing id :=
  h.out.get_id id

/-- The list of a symbol's incoming edges has those of the snapshot, in order of arrival. -/
theorem incoming (h : x.Indexes g) (id : Int) : x.incoming id = g.incoming id :=
  h.into.get_id id

/-- An id has the same symbol. -/
theorem symbol? (h : x.Indexes g) (id : Int) : x.symbol? id = g.symbol? id := by
  rw [IndexedSnapshot.symbol?, h.symbols, Snapshot.symbol?]

/-- The same symbols are complete. -/
theorem isComplete (h : x.Indexes g) (id : Int) : x.isComplete id = g.isComplete id := by
  rw [IndexedSnapshot.isComplete, h.complete, Snapshot.isComplete]

/-- A symbol lies in the same file. -/
theorem fileOf (h : x.Indexes g) (id : Int) : x.fileOf id = g.fileOf id := by
  rw [IndexedSnapshot.fileOf, h.symbol?, Snapshot.fileOf]

private theorem mem_fileSymbols (h : x.Indexes g) (path : Path) :
    path ∈ x.fileSymbols ↔ path ∈ g.files := by
  rw [ExtTreeMap.mem_iff_isSome_getElem?, ExtTreeMap.mem_iff_isSome_getElem?, h.fileSymbols,
    Option.isSome_map]

/-- The same files are covered. -/
theorem covers (h : x.Indexes g) (path : Path) : x.covers path = g.covers path :=
  Bool.eq_iff_iff.mpr (h.mem_fileSymbols path)

/-- The symbols of a file are found, or missed, as in the snapshot. -/
theorem symbolsInFile (h : x.Indexes g) (path : Path) :
    x.symbolsInFile path = g.symbolsInFile path := by
  rw [IndexedSnapshot.symbolsInFile, Snapshot.symbolsInFile, h.fileSymbols]
  simp only [h.symbol?]
  cases g.files[path]? with
  | none => rfl
  | some file => rfl

/-- The covered files are the same, in the same order. -/
theorem files (h : x.Indexes g) : x.files = g.files.keys := by
  have perm : x.files.Perm g.files.keys := by
    rw [IndexedSnapshot.files,
      List.perm_ext_iff_of_nodup ExtTreeMap.nodup_keys ExtTreeMap.nodup_keys]
    simp only [ExtTreeMap.mem_keys, h.mem_fileSymbols, implies_true]
  refine perm.eq_of_pairwise ?_ ExtTreeMap.ordered_keys ExtTreeMap.ordered_keys
  exact fun p q _ _ lt gt => (OrientedCmp.not_lt_of_lt lt gt).elim

/-- The ends next to some ids are those of the snapshot. -/
theorem mem_ends (h : x.Indexes g) {ids : ExtTreeSet Int} {v : Value} :
    v ∈ x.ends ids ↔ v ∈ g.ends ids := by
  simp only [IndexedSnapshot.ends, Snapshot.ends, h.outgoing, h.incoming, Snapshot.outgoing,
    Snapshot.incoming, List.mem_flatMap, List.mem_append, List.mem_map, List.mem_filter,
    ExtTreeSet.mem_toList, beq_iff_eq, List.mem_ite_nil_right, List.mem_singleton,
    Option.any_eq_true, ExtTreeSet.contains_iff_mem]
  constructor
  · rintro ⟨id, mem, ⟨e, ⟨he, isEnd⟩, rfl⟩ | ⟨e, ⟨he, isEnd⟩, rfl⟩⟩
    · exact ⟨e, he, .inl ⟨⟨id, isEnd, mem⟩, rfl⟩⟩
    · exact ⟨e, he, .inr ⟨⟨id, isEnd, mem⟩, rfl⟩⟩
  · rintro ⟨e, he, ⟨⟨id, isEnd, mem⟩, rfl⟩ | ⟨⟨id, isEnd, mem⟩, rfl⟩⟩
    · exact ⟨id, mem, .inl ⟨e, ⟨he, isEnd⟩, rfl⟩⟩
    · exact ⟨id, mem, .inr ⟨e, ⟨he, isEnd⟩, rfl⟩⟩

/-- The neighbors of some ids are those of the snapshot. -/
theorem neighbors (h : x.Indexes g) (ids : ExtTreeSet Int) :
    x.neighbors ids = g.neighbors ids := by
  apply ExtTreeSet.ext_mem
  intro id
  simp only [IndexedSnapshot.neighbors, Snapshot.neighbors, ExtTreeSet.mem_ofList,
    List.contains_iff_mem, List.mem_filterMap, h.mem_ends]

/-- Both count the same symbols, edges and files. -/
theorem summary (h : x.Indexes g) : x.summary = g.summary := by
  have nodes : x.numNodes = g.symbols.size := by rw [numNodes, h.symbols]
  have files : x.files.length = g.files.size := by rw [h.files, ExtTreeMap.length_keys]
  unfold IndexedSnapshot.summary Snapshot.summary
  rw [h.id, nodes, h.numEdges, files]

end Indexes

end IndexedSnapshot

/-! ## Loaded snapshots -/

namespace Snapshot

variable {ω : Type} {g : Snapshot}

/-- Of every assembled snapshot there is an indexed one that was put together alike. -/
theorem Assembled.exists_indexes (assembled : g.Assembled) : ∃ number additions,
    g = assemble number additions ∧ (IndexedSnapshot.assemble number additions).Indexes g := by
  obtain ⟨number, additions, rfl⟩ := assembled
  exact ⟨number, additions, rfl, IndexedSnapshot.assemble_indexes number additions⟩

private theorem Assembled.add (assembled : g.Assembled) (addition : Addition) :
    (g.add addition).Assembled := by
  obtain ⟨number, additions, rfl⟩ := assembled
  exact ⟨number, additions ++ [addition], by rw [assemble, List.foldl_append]; rfl⟩

private theorem Assembled.foldl {α : Type} (assembled : g.Assembled) (addition : α → Addition)
    (added : List α) : (added.foldl (fun g a => g.add (addition a)) g).Assembled := by
  induction added generalizing g with
  | nil => exact assembled
  | cons a added ih => exact ih (assembled.add (addition a))

private theorem Assembled.cover (assembled : g.Assembled) {disk : Disk} {root : Option Path}
    {ids : Path → List Int} {hash : Path → Option String} {unread : Path → Bool}
    {files : List Path} {g' : Snapshot}
    (run : files.foldlM (fun g path => g.cover disk root path (ids path) (hash path)
      (unread path)) g = .ok g') : g'.Assembled := by
  induction files generalizing g with
  | nil =>
    cases run
    exact assembled
  | cons path files ih =>
    rw [List.foldlM_cons, Except.bind_eq_ok] at run
    obtain ⟨g₁, first, rest⟩ := run
    rw [Snapshot.cover] at first
    split at first
    · cases first
      exact ih (assembled.add (.file path _)) rest
    · obtain ⟨read, _, covered⟩ := Except.bind_eq_ok.mp first
      cases covered
      exact ih (assembled.add (.file path _)) rest

private theorem assembled_fresh (w : World ω) :
    (fresh : Action ω Snapshot).Ensures w fun g _ => g.Assembled :=
  .after rfl (.pure ⟨_, [], rfl⟩)

/-- A part of the graph is loaded by additions. -/
theorem loadPart_assembled (wanted : Affected) (root : Option Path) (w : World ω) :
    (loadPart wanted root).Ensures w fun g _ => g.Assembled := by
  refine (assembled_fresh w).bind fun g w₁ start => ?_
  refine .skip fun ⟨core, edges, context, hashes⟩ _ => .skip fun _ _ => .of fun g' run => ?_
  have symbols := start.foldl (fun s => .symbol s true) core
  have further := symbols.foldl (fun s => .symbol s false) context
  exact (further.foldl .edge edges).cover run

/-- The whole graph is loaded by additions. -/
theorem loadAll_assembled (root : Option Path) (w : World ω) :
    (loadAll root).Ensures w fun g _ => g.Assembled := by
  refine (assembled_fresh w).bind fun g w₁ start => ?_
  refine .skip fun ⟨symbols, edges, files, hashes⟩ _ => .skip fun _ _ => .of fun g' run => ?_
  have known := start.foldl (fun s => .symbol s true) symbols
  exact (known.foldl .edge edges).cover run

end Snapshot

end CodeGauge
