import CodeGauge.Proofs.Engine.Restriction
import CodeGauge.Proofs.Engine.Rewiring

/-!
# Derived sets are one hop

What is derived from a snapshot for a file or for symbols is what one stored edge reaches from them,
with the files of the stored symbols among it (`Snapshot.Hops`); for the ends of edges it is these
ends and their files. A part of the graph that was loaded for the file or the symbols gives the same
set as the whole of it (`Snapshot.AgreesOnHops`), so what is recomputed does not depend on how much
was loaded.
-/

open Std

namespace CodeGauge

variable {db : Database} {disk disk' : Disk} {root root' : Path}

/-- The value is at the other end of a stored edge at one of these symbols. -/
def Database.Adjoins (db : Database) (T : Int → Prop) (v : Value) : Prop :=
  ∃ (t n : Int) (e : EdgeRow), T t ∧ db.edges[n]? = some e ∧
    (e.caller.id? = some t ∧ e.callee = v ∨ e.callee.id? = some t ∧ e.caller = v)

namespace Snapshot

variable {g g' : Snapshot} {wanted : Affected}

/-- The derived set has these symbols, what a stored edge joins to one of them, the given files, and
those of the stored symbols among it. It is there unless an edge joins one of these symbols to
something that no key can be made of. -/
structure Hops (derived : Except Error Affected) (db : Database) (T : Int → Prop)
    (given : Path → Prop) : Prop where
  symbols : ∀ A, derived = .ok A → ∀ id, id ∈ A.symbols ↔ db.Near T id
  files : ∀ A, derived = .ok A → ∀ path, path ∈ A.files ↔
    given path ∨ ∃ id, db.Near T id ∧ db.HasSymbol path id
  returns : (∃ A, derived = .ok A) ↔ ∀ v, db.Adjoins T v → endFault? v = none

/-- Sets are derived from a part of the graph as from the whole of it, for the files and symbols
that the part was loaded for: those around a file, around stored symbols, and at the ends of
edges. -/
structure AgreesOnHops (part whole : Snapshot) (wanted : Affected) (db : Database) : Prop where
  file : ∀ path ∈ wanted.files, part.affectedByFile path = whole.affectedByFile path ∧
    Hops (part.affectedByFile path) db (db.HasSymbol path) (· = path)
  symbols : ∀ ids : ExtTreeSet Int, (∀ id ∈ ids, ∃ row, db.symbols[id]? = some row ∧
      (id ∈ wanted.symbols ∨ Path.ofString row.file ∈ wanted.files)) →
    part.affectedBySymbols ids = whole.affectedBySymbols ids ∧
      Hops (part.affectedBySymbols ids) db (· ∈ ids) fun _ => False
  edges : ∀ ends : List (Int × Int),
      (∀ pair ∈ ends, pair.1 ∈ wanted.symbols ∧ pair.2 ∈ wanted.symbols) →
    part.affectedByEdges ends = whole.affectedByEdges ends ∧
      (∀ id, id ∈ (part.affectedByEdges ends).symbols ↔ IsEnd ends id) ∧
      ∀ path, path ∈ (part.affectedByEdges ends).files ↔
        ∃ id, IsEnd ends id ∧ db.HasSymbol path id

/-! ## Ends of the edges at complete symbols -/

-- Whether the edge touches one of the ids.
private def touchesAny (ids : ExtTreeSet Int) (caller callee : Value) : Bool :=
  (caller.id?).any ids.contains || (callee.id?).any ids.contains

private theorem touchesAny_iff {ids : ExtTreeSet Int} {caller callee : Value} :
    touchesAny ids caller callee = true ↔
      ∃ id ∈ ids, caller.id? = some id ∨ callee.id? = some id := by
  simp only [touchesAny, Bool.or_eq_true, Option.any_eq_true, ExtTreeSet.contains_iff_mem]
  constructor
  · rintro (⟨id, hid, mem⟩ | ⟨id, hid, mem⟩)
    · exact ⟨id, mem, .inl hid⟩
    · exact ⟨id, mem, .inr hid⟩
  · rintro ⟨id, mem, hid | hid⟩
    · exact .inl ⟨id, hid, mem⟩
    · exact .inr ⟨id, hid, mem⟩

private theorem ends_eq_flatMap_filter (ids : ExtTreeSet Int) :
    g.ends ids = (g.edges.filter (fun e => touchesAny ids e.caller e.callee)).flatMap fun e =>
      (if (e.caller.id?).any ids.contains then [e.callee] else []) ++
        if (e.callee.id?).any ids.contains then [e.caller] else [] := by
  rw [ends]
  induction g.edges with
  | nil => rfl
  | cons e edges ih =>
    rw [List.flatMap_cons, ih]
    by_cases touch : touchesAny ids e.caller e.callee = true
    · rw [List.filter_cons, if_pos touch, List.flatMap_cons]
    · rw [List.filter_cons, if_neg touch]
      rw [touchesAny, Bool.or_eq_true, not_or] at touch
      simp [touch]

namespace Mirrors

/-- The ends next to symbols that are complete in both snapshots are the same, in the same order. -/
theorem ends_eq (h : g.Mirrors db disk root) (h' : g'.Mirrors db disk' root')
    {ids : ExtTreeSet Int} (complete : ∀ id ∈ ids, id ∈ g.complete)
    (complete' : ∀ id ∈ ids, id ∈ g'.complete) : g.ends ids = g'.ends ids := by
  have stored {g : Snapshot} {disk : Disk} {root : Path} (h : g.Mirrors db disk root)
      (complete : ∀ id ∈ ids, id ∈ g.complete) :
      edgesOf (db.edgesWhere fun row => touchesAny ids row.caller row.callee) =
        .ok (g.edges.filter fun e => touchesAny ids e.caller e.callee) := by
    apply h.edgesOf_filter
    · intro row e caller callee
      rw [caller, callee]
    · intro row touch
      obtain ⟨id, mem, touch⟩ := touchesAny_iff.mp touch
      exact ⟨id, complete id mem, touch⟩
  have same := (stored h complete).symm.trans (stored h' complete')
  rw [ends_eq_flatMap_filter, ends_eq_flatMap_filter, Except.ok.inj same]

/-- The ends next to complete symbols are those that stored edges have there. -/
theorem mem_ends (h : g.Mirrors db disk root) {ids : ExtTreeSet Int}
    (complete : ∀ id ∈ ids, id ∈ g.complete) (v : Value) :
    v ∈ g.ends ids ↔ db.Adjoins (· ∈ ids) v := by
  simp only [Snapshot.ends, List.mem_flatMap, List.mem_append, List.mem_ite_nil_right,
    List.mem_singleton, Option.any_eq_true, ExtTreeSet.contains_iff_mem]
  constructor
  · rintro ⟨e, he, next⟩
    obtain ⟨n, row, held, read⟩ := h.stored_edge he
    obtain ⟨-, caller, callee⟩ := EdgeRow.edge_eq_ok read
    rw [caller, callee] at next
    obtain ⟨⟨t, ht, mem⟩, rfl⟩ | ⟨⟨t, ht, mem⟩, rfl⟩ := next
    · exact ⟨t, n, row, mem, held, .inl ⟨ht, rfl⟩⟩
    · exact ⟨t, n, row, mem, held, .inr ⟨ht, rfl⟩⟩
  · rintro ⟨t, n, row, mem, held, next⟩
    obtain ⟨e, he, read⟩ := h.exists_edge held (complete t mem) (next.imp And.left And.left)
    obtain ⟨-, caller, callee⟩ := EdgeRow.edge_eq_ok read
    refine ⟨e, he, ?_⟩
    rw [caller, callee]
    obtain ⟨ht, rfl⟩ | ⟨ht, rfl⟩ := next
    · exact .inl ⟨⟨t, ht, mem⟩, rfl⟩
    · exact .inr ⟨⟨t, ht, mem⟩, rfl⟩

/-! ## Sets around complete symbols -/

/-- The file of an id that is known if it is stored is the one that the tables have. -/
theorem fileOf_eq_some_iff (h : g.Mirrors db disk root) (normal : db.Normal) {id : Int}
    (known : (db.symbols[id]?).isSome → (g.symbol? id).isSome) {path : Path} :
    g.fileOf id = some path ↔ db.HasSymbol path id := by
  constructor
  · intro own
    obtain ⟨s, hs, rfl⟩ := Option.map_eq_some_iff.mp own
    exact Option.map_eq_some_iff.mp (h.file_of_symbol normal hs)
  · rintro ⟨row, held, file⟩
    obtain ⟨own, known, same⟩ := h.exists_fileOf normal held (known (by rw [held]; rfl))
    rw [known, Path.toString_injective (same.trans file)]

/-- What surrounds stored symbols that are complete is one hop from them. -/
theorem hops_surrounded (h : g.Mirrors db disk root) (normal : db.Normal)
    {files : ExtTreeSet Path} {symbols : ExtTreeSet Int} {T : Int → Prop} {given : Path → Prop}
    (own : ∀ id, id ∈ symbols ↔ T id) (asked : ∀ path, path ∈ files ↔ given path)
    (stored : ∀ id, T id → (db.symbols[id]?).isSome) (complete : ∀ id, T id → id ∈ g.complete) :
    Hops (g.surrounded files symbols) db T given := by
  have members (A : Affected) (hd : g.surrounded files symbols = .ok A) (id : Int) :
      id ∈ A.symbols ↔ db.Near T id := h.mem_surrounded own stored complete hd id
  refine ⟨members, fun A hd path => ?_, ?_⟩
  · rw [(surrounded_eq_ok hd).2, asked]
    apply or_congr_right
    apply exists_congr
    intro id
    rw [members A hd]
    apply and_congr_right
    intro near
    exact h.fileOf_eq_some_iff normal (h.known_of_near (fun t ht _ => complete t ht) near)
  · obtain rfl : T = (· ∈ symbols) := funext fun id => propext (own id).symm
    rw [surrounded]
    simp only [← h.mem_ends complete, ← List.findSome?_eq_none_iff]
    split
    · next e failed => simp [failed]
    · next fine => simp [fine]

/-- The files of ids that both snapshots know if they are stored are the same. -/
theorem filesOf_eq (h : g.Mirrors db disk root) (h' : g'.Mirrors db disk' root')
    (normal : db.Normal) {ids : ExtTreeSet Int}
    (known : ∀ id ∈ ids, (db.symbols[id]?).isSome →
      (g.symbol? id).isSome ∧ (g'.symbol? id).isSome) :
    g.filesOf ids = g'.filesOf ids := by
  apply ExtTreeSet.ext_mem
  intro path
  rw [mem_filesOf, mem_filesOf]
  apply exists_congr
  intro id
  apply and_congr_right
  intro mem
  rw [h.fileOf_eq_some_iff normal fun stored => (known id mem stored).1,
    h'.fileOf_eq_some_iff normal fun stored => (known id mem stored).2]

/-- Around stored symbols that are complete in both snapshots the same is derived. -/
theorem surrounded_eq (h : g.Mirrors db disk root) (h' : g'.Mirrors db disk' root')
    (normal : db.Normal) {files : ExtTreeSet Path} {symbols : ExtTreeSet Int}
    (stored : ∀ id ∈ symbols, (db.symbols[id]?).isSome)
    (complete : ∀ id ∈ symbols, id ∈ g.complete) (complete' : ∀ id ∈ symbols, id ∈ g'.complete) :
    g.surrounded files symbols = g'.surrounded files symbols := by
  have same := h.ends_eq h' complete complete'
  have neighbors : g.neighbors symbols = g'.neighbors symbols := by
    rw [Snapshot.neighbors, Snapshot.neighbors, same]
  have files : g.filesOf (symbols ∪ g.neighbors symbols) =
      g'.filesOf (symbols ∪ g.neighbors symbols) := by
    apply h.filesOf_eq h' normal
    intro id mem present
    have near := (h.near_iff (fun _ => .rfl) stored complete id).mp
      (ExtTreeSet.mem_union_iff.mp mem)
    exact ⟨h.known_of_near (fun t ht _ => complete t ht) near present,
      h'.known_of_near (fun t ht _ => complete' t ht) near present⟩
  rw [surrounded, surrounded, same]
  dsimp only
  rw [files, neighbors]

/-- The symbols of a file that is covered if it has any are found, and are those of the tables. -/
theorem exists_ownIds (h : g.Mirrors db disk root) {path : Path}
    (covered : ∀ id, db.HasSymbol path id → path ∈ g.files) :
    ∃ own, g.symbolsInFile path = .ok own ∧
      ∀ id, id ∈ ExtTreeSet.ofList (own.map (·.id)) ↔ db.HasSymbol path id := by
  cases hf : g.files[path]? with
  | some file =>
    obtain ⟨own, found⟩ := h.exists_symbolsInFile hf
    refine ⟨own, found, fun id => ?_⟩
    rw [ExtTreeSet.mem_ofList, List.contains_iff_mem, h.symbolsInFile_ids hf found]
    exact (h.files path file hf).symbols id
  | none =>
    refine ⟨[], by rw [symbolsInFile, hf]; rfl, fun id => ⟨fun mem => ?_, fun has => ?_⟩⟩
    · simp at mem
    · have := covered id has
      rw [ExtTreeMap.mem_iff_isSome_getElem?, hf] at this
      cases this

end Mirrors

/-! ## Parts and the whole -/

private theorem mem_files_affectedByEdges {ends : List (Int × Int)} {path : Path} :
    path ∈ (g.affectedByEdges ends).files ↔ ∃ id, IsEnd ends id ∧ g.fileOf id = some path :=
  mem_filesOf.trans
    (exists_congr fun _ => and_congr_left fun _ => mem_affectedByEdges (g := g))

/-- Around stored symbols that the part was loaded for, both derive the same one hop. -/
theorem Shows.surrounded_hops (part : g.Shows wanted db disk root)
    (whole : g'.ShowsAll db disk' root') (normal : db.Normal) {files : ExtTreeSet Path}
    {symbols : ExtTreeSet Int} {T : Int → Prop} {given : Path → Prop}
    (own : ∀ id, id ∈ symbols ↔ T id) (asked : ∀ path, path ∈ files ↔ given path)
    (wants : ∀ id, T id → ∃ row, db.symbols[id]? = some row ∧
      (id ∈ wanted.symbols ∨ Path.ofString row.file ∈ wanted.files)) :
    g.surrounded files symbols = g'.surrounded files symbols ∧
      Hops (g.surrounded files symbols) db T given := by
  have complete (id : Int) (has : T id) : id ∈ g.complete := (part.complete id).mpr (wants id has)
  have stored (id : Int) (has : T id) : (db.symbols[id]?).isSome := by
    obtain ⟨row, held, _⟩ := wants id has
    rw [held]
    rfl
  constructor
  · apply part.mirrors.surrounded_eq whole.mirrors normal
    · exact fun id mem => stored id ((own id).mp mem)
    · exact fun id mem => complete id ((own id).mp mem)
    · exact fun id mem => (whole.complete id).mpr (stored id ((own id).mp mem))
  · exact part.mirrors.hops_surrounded normal own asked stored complete

/-- What shows a part of the tables and what shows all of them agree on what is one hop from the
part. -/
theorem Shows.agreesOnHops (part : g.Shows wanted db disk root) (whole : g'.ShowsAll db disk' root')
    (normal : db.Normal) : g.AgreesOnHops g' wanted db := by
  constructor
  · intro path asked
    obtain ⟨own, found, ids⟩ := part.mirrors.exists_ownIds fun _ _ => (part.files path).mpr asked
    obtain ⟨own', found', ids'⟩ := whole.mirrors.exists_ownIds
      fun id (⟨row, held, file⟩ : db.HasSymbol path id) =>
        (whole.files path).mpr ⟨id, row, held, by rw [file, Path.ofString_toString]⟩
    have sameIds : ExtTreeSet.ofList (own'.map (·.id)) = ExtTreeSet.ofList (own.map (·.id)) :=
      ExtTreeSet.ext_mem fun id => (ids' id).trans (ids id).symm
    have single (p : Path) : p ∈ ExtTreeSet.ofList [path] ↔ p = path := by
      rw [ExtTreeSet.mem_ofList, List.contains_iff_mem, List.mem_singleton]
    rw [affectedByFile, affectedByFile, found, found', Except.ok_bind, Except.ok_bind, sameIds]
    apply part.surrounded_hops whole normal ids single
    rintro id ⟨row, held, file⟩
    exact ⟨row, held, .inr (by rw [file, Path.ofString_toString]; exact asked)⟩
  · intro ids asked
    exact part.surrounded_hops whole normal (fun _ => .rfl) (by simp) asked
  · intro ends asked
    have known (id : Int) (isEnd : IsEnd ends id) (present : (db.symbols[id]?).isSome) :
        (g.symbol? id).isSome ∧ (g'.symbol? id).isSome := by
      obtain ⟨row, held⟩ := Option.isSome_iff_exists.mp present
      obtain ⟨pair, mem, own⟩ := isEnd
      have wants : id ∈ wanted.symbols := by
        obtain rfl | rfl := own
        · exact (asked pair mem).1
        · exact (asked pair mem).2
      exact ⟨part.mirrors.complete id ((part.complete id).mpr ⟨row, held, .inl wants⟩),
        whole.mirrors.complete id ((whole.complete id).mpr present)⟩
    refine ⟨?_, fun id => mem_affectedByEdges, fun path => ?_⟩
    · rw [affectedByEdges, affectedByEdges]
      dsimp only
      congr 1
      apply part.mirrors.filesOf_eq whole.mirrors normal
      exact fun id mem => known id ((mem_affectedByEdges (g := g)).mp mem)
    · rw [mem_files_affectedByEdges]
      apply exists_congr
      intro id
      apply and_congr_right
      intro isEnd
      exact part.mirrors.fileOf_eq_some_iff normal fun present => (known id isEnd present).1

variable {ω : Type}

/-- Whatever was loaded, what is derived for a wanted file, for stored symbols that are wanted or
lie in a wanted file, and for the ends of edges that are all wanted, is one hop, and the same as
from the whole graph. -/
theorem loadPart_agreesOnHops {w w' v v' : World ω} (shows : w.Shows db disk)
    (shows' : w'.Shows db disk') (normal : db.Normal) (root root' : Option Path)
    (part : (loadPart wanted root).runIn w = (.ok g, v))
    (whole : (loadAll root').runIn w' = (.ok g', v')) : g.AgreesOnHops g' wanted db :=
  (shows_of_loadPart shows normal root part).agreesOnHops
    (shows_of_loadAll shows' normal root' whole) normal

/-- Of the small repository, the part at its first symbol and the whole. -/
theorem sample_agreesOnHops :
    ∃ g g' v v', (loadPart (.of [.ofString "a"] [1]) (some Sample.root)).runIn
        (Sample.world Sample.tables) = (.ok g, v) ∧
      (loadAll none).runIn (Sample.world Sample.tables) = (.ok g', v') ∧
      g.AgreesOnHops g' (.of [.ofString "a"] [1]) Sample.tables := by
  have normal : Sample.tables.Normal := by decide +kernel
  have shows := Sample.world_shows Sample.tables
  obtain ⟨g, v, part⟩ := Action.exists_runIn_of_isSome
    (show ((loadPart (.of [.ofString "a"] [1]) (some Sample.root)).runIn
      (Sample.world Sample.tables)).1.toOption.isSome by decide +kernel)
  obtain ⟨g', v', whole⟩ := Action.exists_runIn_of_isSome
    (show ((loadAll none).runIn (Sample.world Sample.tables)).1.toOption.isSome by decide +kernel)
  exact ⟨g, g', v, v', part, whole,
    loadPart_agreesOnHops shows shows normal (some Sample.root) none part whole⟩

end Snapshot

end CodeGauge
