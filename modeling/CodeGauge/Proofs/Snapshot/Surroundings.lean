import CodeGauge.Proofs.Affected
import CodeGauge.Proofs.Snapshot.Loading
import CodeGauge.Snapshot.Affected

/-!
# What derived sets surround

The set that is derived from a snapshot of some symbols surrounds them: it has each of them that is
stored, each stored symbol that an edge joins to one of them, and the files of all these
(`Affected.Surrounds`). A snapshot of a larger set shows more edges, so what is derived grows with
the set.
-/

open Std

namespace CodeGauge

variable {db : Database} {disk : Disk} {root : Path}

/-- The ends of an edge are these two ids, in one order or the other. -/
def Joins (caller callee : Value) (i j : Int) : Prop :=
  caller.id? = some i ∧ callee.id? = some j ∨ caller.id? = some j ∧ callee.id? = some i

/-- An edge that joins two ids joins them the other way round. -/
theorem Joins.symm {caller callee : Value} {i j : Int} (h : Joins caller callee i j) :
    Joins caller callee j i :=
  Or.symm h

/-- The symbol is one of these, or an edge joins it to a stored one of these. -/
def Database.Near (db : Database) (T : Int → Prop) (id : Int) : Prop :=
  T id ∨ ∃ (t n : Int) (e : EdgeRow), T t ∧ (db.symbols[t]?).isSome ∧ db.edges[n]? = some e ∧
    Joins e.caller e.callee t id

/-- The id is that of a stored symbol of the file. -/
def Database.HasSymbol (db : Database) (path : Path) (id : Int) : Prop :=
  ∃ row, db.symbols[id]? = some row ∧ row.file = path.toString

/-- The set has the stored symbols among and next to these, and their files. -/
def Affected.Surrounds (A : Affected) (db : Database) (T : Int → Prop) : Prop :=
  ∀ (id : Int) (row : SymbolRow), db.symbols[id]? = some row → db.Near T id →
    id ∈ A.symbols ∧ ∃ path ∈ A.files, path.toString = row.file

/-- What is surrounded by a set is surrounded by a larger one. -/
theorem Affected.Surrounds.mono {A A' : Affected} {T : Int → Prop} (h : A.Surrounds db T)
    (sub : A ⊆ A') : A'.Surrounds db T := by
  rw [subset_iff] at sub
  intro id row hr near
  have ⟨own, path, hpath, file⟩ := h id row hr near
  exact ⟨sub.2 id own, path, sub.1 path hpath, file⟩

/-- Only stored symbols matter for what is surrounded. -/
theorem Affected.Surrounds.of_stored {A : Affected} {T T' : Int → Prop} (h : A.Surrounds db T)
    (imp : ∀ (id : Int) (row : SymbolRow), db.symbols[id]? = some row → T' id → T id) :
    A.Surrounds db T' := by
  intro id row hr near
  apply h id row hr
  rcases near with own | ⟨t, n, e, ht, stored, he, joins⟩
  · exact .inl (imp id row hr own)
  · have ⟨row', hr'⟩ := Option.isSome_iff_exists.mp stored
    exact .inr ⟨t, n, e, imp t row' hr' ht, stored, he, joins⟩

namespace Snapshot

variable {g g' : Snapshot} {A A' d d' : Affected}

/-! ## Derived sets -/

/-- The files of ids are those that a known one of these lies in. -/
theorem mem_filesOf {ids : ExtTreeSet Int} {path : Path} :
    path ∈ g.filesOf ids ↔ ∃ id ∈ ids, g.fileOf id = some path := by
  rw [filesOf, ExtTreeSet.mem_ofList, List.contains_iff_mem, List.mem_filterMap]
  simp only [ExtTreeSet.mem_toList]

/-- An id is a neighbor of some ids if an edge joins it to one of these. -/
theorem mem_neighbors {ids : ExtTreeSet Int} {x : Int} :
    x ∈ g.neighbors ids ↔ ∃ e ∈ g.edges, ∃ t ∈ ids, Joins e.caller e.callee t x := by
  rw [neighbors, ExtTreeSet.mem_ofList, List.contains_iff_mem]
  simp only [ends, List.mem_filterMap, List.mem_flatMap, List.mem_append, List.mem_ite_nil_right,
    List.mem_singleton, Option.any_eq_true, ExtTreeSet.contains_iff_mem]
  constructor
  · rintro ⟨v, ⟨e, he, ⟨⟨t, ht, mem⟩, rfl⟩ | ⟨⟨t, ht, mem⟩, rfl⟩⟩, hv⟩
    · exact ⟨e, he, t, mem, .inl ⟨ht, hv⟩⟩
    · exact ⟨e, he, t, mem, .inr ⟨hv, ht⟩⟩
  · rintro ⟨e, he, t, mem, ⟨ht, hv⟩ | ⟨hv, ht⟩⟩
    · exact ⟨e.callee, ⟨e, he, .inl ⟨⟨t, ht, mem⟩, rfl⟩⟩, hv⟩
    · exact ⟨e.caller, ⟨e, he, .inr ⟨⟨t, ht, mem⟩, rfl⟩⟩, hv⟩

/-- A surrounded set has the given symbols, their neighbors, and the given files with those of
these symbols. -/
theorem surrounded_eq_ok {files : ExtTreeSet Path} {symbols : ExtTreeSet Int}
    (h : g.surrounded files symbols = .ok d) :
    (∀ id, id ∈ d.symbols ↔ id ∈ symbols ∨ id ∈ g.neighbors symbols) ∧
      ∀ path, path ∈ d.files ↔ path ∈ files ∨ ∃ id ∈ d.symbols, g.fileOf id = some path := by
  rw [surrounded] at h
  split at h
  · cases h
  · cases h
    constructor
    · intro id
      exact ExtTreeSet.mem_union_iff
    · intro path
      rw [ExtTreeSet.mem_union_iff, mem_filesOf]

/-! ## Edges and files that a snapshot shows -/

/-- A stored edge that touches a complete symbol was loaded. -/
theorem Mirrors.exists_edge (h : g.Mirrors db disk root) {n id : Int} {row : EdgeRow}
    (stored : db.edges[n]? = some row) (complete : id ∈ g.complete)
    (touch : row.caller.id? = some id ∨ row.callee.id? = some id) :
    ∃ e ∈ g.edges, row.edge n = .ok e := by
  have ⟨p, made, whole⟩ := h.edges
  have mem : (n, row) ∈ db.edgesWhere p := by
    rw [Database.edgesWhere, List.mem_filter, ExtTreeMap.mem_toList_iff_getElem?_eq_some]
    exact ⟨stored, whole id complete row touch⟩
  exact exists_of_mapM_eq_ok made mem

/-- A stored edge that joins a complete symbol to another id was loaded and joins the same. -/
theorem Mirrors.exists_joining (h : g.Mirrors db disk root) {n t id : Int} {row : EdgeRow}
    (stored : db.edges[n]? = some row) (complete : t ∈ g.complete)
    (joins : Joins row.caller row.callee t id) :
    ∃ e ∈ g.edges, Joins e.caller e.callee t id := by
  obtain ⟨e, he, read⟩ := h.exists_edge stored complete (joins.imp And.left And.right)
  obtain ⟨-, caller, callee⟩ := EdgeRow.edge_eq_ok read
  rw [← caller, ← callee] at joins
  exact ⟨e, he, joins⟩

/-- A loaded edge is stored. -/
theorem Mirrors.stored_edge (h : g.Mirrors db disk root) {e : Edge} (he : e ∈ g.edges) :
    ∃ (n : Int) (row : EdgeRow), db.edges[n]? = some row ∧ row.edge n = .ok e := by
  have ⟨p, made, _⟩ := h.edges
  have ⟨⟨n, row⟩, mem, read⟩ := (mem_of_mapM_eq_ok made e).mp he
  rw [Database.edgesWhere, List.mem_filter, ExtTreeMap.mem_toList_iff_getElem?_eq_some] at mem
  exact ⟨n, row, mem.1, read⟩

/-- The file of a stored symbol that is known is that of its row. -/
theorem Mirrors.exists_fileOf (h : g.Mirrors db disk root) (normal : db.Normal) {id : Int}
    {row : SymbolRow} (hr : db.symbols[id]? = some row) (known : (g.symbol? id).isSome) :
    ∃ path, g.fileOf id = some path ∧ path.toString = row.file := by
  cases hs : g.symbol? id with
  | none =>
    rw [hs] at known
    cases known
  | some s =>
    have own := h.file_of_symbol normal hs
    rw [hr] at own
    refine ⟨s.file, ?_, (Option.some.inj own).symm⟩
    rw [fileOf, hs]
    rfl

/-- Both ends of a loaded edge are known if they are stored. -/
theorem Mirrors.known_of_joins (h : g.Mirrors db disk root) {e : Edge} (he : e ∈ g.edges)
    {t id : Int} (joins : Joins e.caller e.callee t id) (stored : (db.symbols[id]?).isSome) :
    (g.symbol? id).isSome := by
  rcases joins with ⟨-, callee⟩ | ⟨caller, -⟩
  · exact h.ends e he e.callee (.inr rfl) id callee stored
  · exact h.ends e he e.caller (.inl rfl) id caller stored

/-! ## Derived sets surround their symbols -/

/-- Complete symbols and their neighbors are these and those that stored edges join to them. -/
theorem Mirrors.near_iff (h : g.Mirrors db disk root) {T : Int → Prop} {symbols : ExtTreeSet Int}
    (own : ∀ id, id ∈ symbols ↔ T id) (stored : ∀ id, T id → (db.symbols[id]?).isSome)
    (complete : ∀ id, T id → id ∈ g.complete) (id : Int) :
    id ∈ symbols ∨ id ∈ g.neighbors symbols ↔ db.Near T id := by
  rw [own, Database.Near, mem_neighbors]
  apply or_congr_right
  constructor
  · rintro ⟨e, he, t, mem, joins⟩
    obtain ⟨n, row, held, read⟩ := h.stored_edge he
    obtain ⟨-, caller, callee⟩ := EdgeRow.edge_eq_ok read
    rw [caller, callee] at joins
    have taken := (own t).mp mem
    exact ⟨t, n, row, taken, stored t taken, held, joins⟩
  · rintro ⟨t, n, row, taken, -, held, joins⟩
    obtain ⟨e, he, joins⟩ := h.exists_joining held (complete t taken) joins
    exact ⟨e, he, t, (own t).mpr taken, joins⟩

/-- What surrounds complete symbols are these and those that stored edges join to them. -/
theorem Mirrors.mem_surrounded (h : g.Mirrors db disk root) {T : Int → Prop}
    {files : ExtTreeSet Path} {symbols : ExtTreeSet Int} (own : ∀ id, id ∈ symbols ↔ T id)
    (stored : ∀ id, T id → (db.symbols[id]?).isSome) (complete : ∀ id, T id → id ∈ g.complete)
    (hd : g.surrounded files symbols = .ok d) (id : Int) : id ∈ d.symbols ↔ db.Near T id :=
  ((surrounded_eq_ok hd).1 id).trans (h.near_iff own stored complete id)

/-- A stored symbol among or next to complete ones is known. -/
theorem Mirrors.known_of_near (h : g.Mirrors db disk root) {T : Int → Prop} {id : Int}
    (complete : ∀ t, T t → (db.symbols[t]?).isSome → t ∈ g.complete) (near : db.Near T id)
    (present : (db.symbols[id]?).isSome) : (g.symbol? id).isSome := by
  obtain own | ⟨t, n, e, ht, stored, held, joins⟩ := near
  · exact h.complete id (complete id own present)
  · obtain ⟨e', he', joins⟩ := h.exists_joining held (complete t ht stored) joins
    exact h.known_of_joins he' joins present

/-- A surrounded set surrounds symbols of which the stored ones are among the given ones and
complete. -/
theorem Mirrors.surrounds (h : g.Mirrors db disk root) (normal : db.Normal) {T : Int → Prop}
    {files : ExtTreeSet Path} {symbols : ExtTreeSet Int}
    (within : ∀ id, T id → (db.symbols[id]?).isSome → id ∈ symbols ∧ id ∈ g.complete)
    (hd : g.surrounded files symbols = .ok d) : d.Surrounds db T := by
  have ⟨members, paths⟩ := surrounded_eq_ok hd
  intro id row hr near
  have stored : (db.symbols[id]?).isSome := by
    rw [hr]
    rfl
  have known := h.known_of_near (fun t ht present => (within t ht present).2) near stored
  have mem : id ∈ d.symbols := by
    rw [members]
    rcases near with own | ⟨t, n, e, ht, present, he, joins⟩
    · exact .inl (within id own stored).1
    · have ⟨mem, complete⟩ := within t ht present
      have ⟨e', he', joins⟩ := h.exists_joining he complete joins
      exact .inr (mem_neighbors.mpr ⟨e', he', t, mem, joins⟩)
  have ⟨path, hpath, file⟩ := h.exists_fileOf normal hr known
  exact ⟨mem, path, (paths path).mpr (.inr ⟨id, mem, hpath⟩), file⟩

/-- The ids of the symbols of a covered file are those that the tables have there. -/
theorem Shows.mem_ownIds (shows : g.Shows A db disk root) {path : Path}
    (hpath : path ∈ A.files) {own : List Symbol} (ho : g.symbolsInFile path = .ok own) (id : Int) :
    id ∈ ExtTreeSet.ofList (own.map (·.id)) ↔
      ∃ row, db.symbols[id]? = some row ∧ row.file = path.toString := by
  have covered := (shows.files path).mpr hpath
  have ⟨file, hf⟩ := Option.isSome_iff_exists.mp (ExtTreeMap.mem_iff_isSome_getElem?.mp covered)
  rw [ExtTreeSet.mem_ofList, List.contains_iff_mem, shows.mirrors.symbolsInFile_ids hf ho]
  exact (shows.mirrors.files path file hf).symbols id

private theorem Shows.complete_of_file (shows : g.Shows A db disk root) {path : Path}
    (hpath : path ∈ A.files) {id : Int} {row : SymbolRow} (hr : db.symbols[id]? = some row)
    (file : row.file = path.toString) : id ∈ g.complete := by
  refine (shows.complete id).mpr ⟨row, hr, .inr ?_⟩
  rw [file, Path.ofString_toString]
  exact hpath

/-- What is derived for a file holds the file. -/
theorem mem_of_affectedByFile {path : Path} (hd : g.affectedByFile path = .ok d) :
    path ∈ d.files := by
  have ⟨own, _, hd⟩ := Except.bind_eq_ok.mp hd
  refine ((surrounded_eq_ok hd).2 path).mpr (.inl ?_)
  rw [ExtTreeSet.mem_ofList, List.contains_iff_mem]
  exact List.mem_cons_self

/-- What is derived for a file surrounds its symbols. -/
theorem Shows.surrounds_file (shows : g.Shows A db disk root) (normal : db.Normal) {path : Path}
    (hpath : path ∈ A.files) (hd : g.affectedByFile path = .ok d) :
    d.Surrounds db (db.HasSymbol path) := by
  have ⟨own, ho, hd⟩ := Except.bind_eq_ok.mp hd
  refine shows.mirrors.surrounds normal ?_ hd
  intro id inFile _
  have ⟨row, hr, file⟩ := inFile
  exact ⟨(shows.mem_ownIds hpath ho id).mpr inFile, shows.complete_of_file hpath hr file⟩

/-- What is derived for symbols surrounds them. -/
theorem Shows.surrounds_symbols (shows : g.Shows A db disk root) (normal : db.Normal)
    {ids : ExtTreeSet Int} (hids : ∀ id ∈ ids, id ∈ A.symbols)
    (hd : g.affectedBySymbols ids = .ok d) : d.Surrounds db (· ∈ ids) := by
  refine shows.mirrors.surrounds normal ?_ hd
  intro id mem stored
  have ⟨row, hr⟩ := Option.isSome_iff_exists.mp stored
  exact ⟨mem, (shows.complete id).mpr ⟨row, hr, .inl (hids id mem)⟩⟩

/-! ## Derived sets grow

What is derived depends on the tables alone, so the two snapshots may be of different disks. -/

variable {disk' : Disk} {root' : Path} (shows : g.Shows A db disk root)
  (shows' : g'.Shows A' db disk' root') (sub : A ⊆ A')
include shows shows' sub

private theorem Shows.complete_mono {id : Int} (h : id ∈ g.complete) : id ∈ g'.complete := by
  rw [Affected.subset_iff] at sub
  have ⟨row, hr, asked⟩ := (shows.complete id).mp h
  exact (shows'.complete id).mpr ⟨row, hr, asked.imp (sub.2 id) (sub.1 _)⟩

private theorem Shows.edges_mono {e : Edge} (he : e ∈ g.edges) : e ∈ g'.edges := by
  have ⟨n, row, stored, read⟩ := shows.mirrors.stored_edge he
  have ⟨_, caller, callee⟩ := EdgeRow.edge_eq_ok read
  have ⟨id, complete, touch⟩ := shows.touching e he
  rw [caller, callee] at touch
  have ⟨e', he', read'⟩ :=
    shows'.mirrors.exists_edge stored (shows.complete_mono shows' sub complete) touch
  rw [read] at read'
  cases read'
  exact he'

omit sub in
private theorem Shows.fileOf_mono {id : Int} {path : Path} (h : g.fileOf id = some path)
    (known : (db.symbols[id]?).isSome → (g'.symbol? id).isSome) : g'.fileOf id = some path := by
  have ⟨s, hs, own⟩ := Option.map_eq_some_iff.mp h
  have ⟨row, hr, read⟩ := shows.mirrors.known id s hs
  have ⟨s', hs'⟩ := Option.isSome_iff_exists.mp (known (by rw [hr]; rfl))
  have ⟨row', hr', read'⟩ := shows'.mirrors.known id s' hs'
  rw [hr] at hr'
  cases hr'
  rw [read] at read'
  cases read'
  rw [fileOf, hs']
  exact congrArg some own

private theorem Shows.surrounded_mono {files : ExtTreeSet Path} {symbols symbols' : ExtTreeSet Int}
    (more : ∀ id ∈ symbols, id ∈ symbols' ∧ ((db.symbols[id]?).isSome → id ∈ g'.complete))
    (hd : g.surrounded files symbols = .ok d) (hd' : g'.surrounded files symbols' = .ok d') :
    d ⊆ d' := by
  have ⟨members, paths⟩ := surrounded_eq_ok hd
  have ⟨members', paths'⟩ := surrounded_eq_ok hd'
  have grown (id : Int) (h : id ∈ d.symbols) :
      id ∈ d'.symbols ∧ ((db.symbols[id]?).isSome → (g'.symbol? id).isSome) := by
    rcases (members id).mp h with own | next
    · have ⟨own', complete⟩ := more id own
      refine ⟨(members' id).mpr (.inl own'), fun stored => ?_⟩
      exact shows'.mirrors.complete id (complete stored)
    · have ⟨e, he, t, ht, joins⟩ := mem_neighbors.mp next
      have he' := shows.edges_mono shows' sub he
      refine ⟨(members' id).mpr (.inr ?_), shows'.mirrors.known_of_joins he' joins⟩
      exact mem_neighbors.mpr ⟨e, he', t, (more t ht).1, joins⟩
  rw [Affected.subset_iff]
  constructor
  · intro path hpath
    rw [paths']
    rcases (paths path).mp hpath with given | ⟨id, mem, own⟩
    · exact .inl given
    · have ⟨mem', known⟩ := grown id mem
      exact .inr ⟨id, mem', shows.fileOf_mono shows' own known⟩
  · intro id mem
    exact (grown id mem).1

/-- What is derived for a shown file grows with the set. -/
theorem Shows.affectedByFile_mono {path : Path} (hpath : path ∈ A.files)
    (hd : g.affectedByFile path = .ok d) (hd' : g'.affectedByFile path = .ok d') : d ⊆ d' := by
  have ⟨own, ho, hd⟩ := Except.bind_eq_ok.mp hd
  have ⟨own', ho', hd'⟩ := Except.bind_eq_ok.mp hd'
  have hpath' := (Affected.subset_iff.mp sub).1 path hpath
  refine shows.surrounded_mono shows' sub (fun id mem => ?_) hd hd'
  have inFile := (shows.mem_ownIds hpath ho id).mp mem
  have ⟨row, hr, file⟩ := inFile
  refine ⟨(shows'.mem_ownIds hpath' ho' id).mpr inFile, fun _ => ?_⟩
  exact shows'.complete_of_file hpath' hr file

/-- What is derived for wanted symbols grows with the set. -/
theorem Shows.affectedBySymbols_mono {ids : ExtTreeSet Int} (hids : ∀ id ∈ ids, id ∈ A'.symbols)
    (hd : g.affectedBySymbols ids = .ok d) (hd' : g'.affectedBySymbols ids = .ok d') : d ⊆ d' := by
  refine shows.surrounded_mono shows' sub (fun id mem => ⟨mem, fun stored => ?_⟩) hd hd'
  have ⟨row, hr⟩ := Option.isSome_iff_exists.mp stored
  exact (shows'.complete id).mpr ⟨row, hr, .inl (hids id mem)⟩

omit sub in
/-- What is derived for the ends of edges grows with the set. -/
theorem Shows.affectedByEdges_mono {ends : List (Int × Int)}
    (hends : ∀ pair ∈ ends, pair.1 ∈ A'.symbols ∧ pair.2 ∈ A'.symbols) :
    g.affectedByEdges ends ⊆ g'.affectedByEdges ends := by
  rw [Affected.subset_iff]
  constructor
  · intro path hpath
    have ⟨id, mem, own⟩ := mem_filesOf.mp hpath
    refine mem_filesOf.mpr ⟨id, mem, shows.fileOf_mono shows' own fun stored => ?_⟩
    have ⟨row, hr⟩ := Option.isSome_iff_exists.mp stored
    refine shows'.mirrors.complete id ((shows'.complete id).mpr ⟨row, hr, .inl ?_⟩)
    rw [ExtTreeSet.mem_ofList, List.contains_iff_mem, List.mem_flatMap] at mem
    have ⟨pair, hpair, mem⟩ := mem
    simp only [List.mem_cons, List.not_mem_nil, or_false] at mem
    rcases mem with rfl | rfl
    · exact (hends pair hpair).1
    · exact (hends pair hpair).2
  · intro id mem
    exact mem

end Snapshot

end CodeGauge
