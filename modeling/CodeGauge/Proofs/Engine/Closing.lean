import CodeGauge.Proofs.Engine.Guarding
import CodeGauge.Proofs.Snapshot.Provision

/-!
# Recomputations that grow at most once

While nothing else changes the graph, the set of a recomputation grows at most once after it was
first derived. What a later snapshot shows in addition is joined to a symbol that is asked for and
is not in the graph, and it lies in a file of the set (`Refresh.nearlyCloses`). So what is derived
from the set that has grown is what was derived before (`Refresh.Derives.closes`). After a deletion
there is nothing left to be derived but what was deleted (`Removal.closes`).
-/

open Std

namespace CodeGauge

variable {db : Database} {disk : Disk} {root : Path}

namespace Snapshot

variable {g : Snapshot} {A d : Affected}

/-- A known symbol is stored with the file it is known by. -/
theorem Mirrors.row_of_fileOf (h : g.Mirrors db disk root) {id : Int} {path : Path}
    (own : g.fileOf id = some path) :
    ∃ row, db.symbols[id]? = some row ∧ Path.ofString row.file = path := by
  obtain ⟨s, hs, rfl⟩ := Option.map_eq_some_iff.mp own
  obtain ⟨row, stored, read⟩ := h.known id s hs
  exact ⟨row, stored, (SymbolRow.symbol_eq_ok read).2.1.symm⟩

/-- A neighbor of symbols that an edge joins to a stored one is near them. -/
theorem Mirrors.near_of_joins (h : g.Mirrors db disk root) {T : Int → Prop} {e : Edge}
    (he : e ∈ g.edges) {t id : Int} (joins : Joins e.caller e.callee t id) (own : T t)
    (stored : (db.symbols[t]?).isSome) : db.Near T id := by
  obtain ⟨n, row, held, read⟩ := h.stored_edge he
  obtain ⟨_, caller, callee⟩ := EdgeRow.edge_eq_ok read
  rw [caller, callee] at joins
  exact .inr ⟨t, n, row, own, stored, held, joins⟩

/-- An edge from or to a symbol that is missing was loaded for its other end. -/
theorem Shows.asked_of_joins (h : g.Shows A db disk root) {e : Edge} (he : e ∈ g.edges) {t id : Int}
    (joins : Joins e.caller e.callee t id) (missing : db.symbols[t]? = none) :
    ∃ row, db.symbols[id]? = some row ∧
      (id ∈ A.symbols ∨ Path.ofString row.file ∈ A.files) := by
  obtain ⟨k, complete, touch⟩ := h.touching e he
  obtain ⟨row, held, asked⟩ := (h.complete k).mp complete
  have other : k ≠ t := by
    rintro rfl
    rw [held] at missing
    cases missing
  have same : k = id := by
    rcases joins with ⟨caller, callee⟩ | ⟨caller, callee⟩
    · rw [caller, callee] at touch
      simp only [Option.some.injEq] at touch
      exact (touch.resolve_left other.symm).symm
    · rw [caller, callee] at touch
      simp only [Option.some.injEq] at touch
      exact (touch.resolve_right other.symm).symm
  rw [← same]
  exact ⟨row, held, asked⟩

end Snapshot

/-- A filed set has the file of each of its stored symbols. -/
theorem Affected.Filed.file_mem {A : Affected} (filed : A.Filed db) {id : Int}
    (mem : id ∈ A.symbols) {row : SymbolRow} (stored : db.symbols[id]? = some row) :
    Path.ofString row.file ∈ A.files := by
  obtain ⟨path, own, file⟩ := filed id mem row stored
  rw [← file, Path.ofString_toString]
  exact own

namespace Refresh

variable {refresh : Refresh} {A d first : Affected}

/-- All files that are derived from the set lie in it. -/
def NearlyCloses (refresh : Refresh) (db : Database) (A : Affected) : Prop :=
  ∀ d, refresh.Derives db A d → ∀ path ∈ d.files, path ∈ A.files

/-- All that is derived from the set lies in it. -/
def Closes (refresh : Refresh) (db : Database) (A : Affected) : Prop :=
  ∀ d, refresh.Derives db A d → d ⊆ A

/-- A set that closes nearly does so. -/
theorem Closes.nearly (h : refresh.Closes db A) : refresh.NearlyCloses db A :=
  fun d derives => (Affected.subset_iff.mp (h d derives)).1

private theorem nearlyCloses_file (normal : db.Normal) {path : Path} {prior : Affected}
    (derives : (Refresh.file path prior).Derives db (Refresh.file path prior).seed first)
    (start : first ⊆ A) : (Refresh.file path prior).NearlyCloses db A := by
  obtain ⟨_, _, _, g₀, shows₀, hfirst⟩ := derives
  have seeded : path ∈ (Refresh.file path prior).seed.files :=
    Affected.mem_files_of.mpr List.mem_cons_self
  have surrounds := (shows₀.surrounds_file normal seeded hfirst).mono start
  rintro d ⟨wanted, disk, root, g, shows, hd⟩ path' mem
  obtain ⟨own, ho, hd⟩ := Except.bind_eq_ok.mp hd
  have asked := (Affected.subset_iff.mp wanted).1 path seeded
  have lies (id : Int) : id ∈ ExtTreeSet.ofList (own.map (·.id)) → db.HasSymbol path id :=
    (shows.mem_ownIds asked ho id).mp
  obtain ⟨members, paths⟩ := Snapshot.surrounded_eq_ok hd
  rcases (paths path').mp mem with given | ⟨id, inSet, file⟩
  · rw [ExtTreeSet.mem_ofList, List.contains_iff_mem, List.mem_singleton] at given
    rw [given]
    exact asked
  obtain ⟨row, stored, rfl⟩ := shows.mirrors.row_of_fileOf file
  have near : db.Near (db.HasSymbol path) id := by
    rcases (members id).mp inSet with own | next
    · exact .inl (lies id own)
    · obtain ⟨e, he, t, ht, joins⟩ := Snapshot.mem_neighbors.mp next
      obtain ⟨row, hr, _⟩ := lies t ht
      exact shows.mirrors.near_of_joins he joins (lies t ht) (by rw [hr]; rfl)
  obtain ⟨_, path', inFiles, same⟩ := surrounds id row stored near
  rw [← same, Path.ofString_toString]
  exact inFiles

private theorem nearlyCloses_symbols (normal : db.Normal) {ids : ExtTreeSet Int}
    (derives : (Refresh.symbols ids).Derives db (Refresh.symbols ids).seed first)
    (start : first ⊆ A) (filed : A.Filed db) : (Refresh.symbols ids).NearlyCloses db A := by
  obtain ⟨_, _, _, g₀, shows₀, hfirst⟩ := derives
  have surrounds := (shows₀.surrounds_symbols normal (fun _ mem => mem) hfirst).mono start
  rintro d ⟨wanted, disk, root, g, shows, hd⟩ path' mem
  obtain ⟨members, paths⟩ := Snapshot.surrounded_eq_ok hd
  rcases (paths path').mp mem with none | ⟨id, inSet, file⟩
  · exact (ExtTreeSet.not_mem_empty none).elim
  obtain ⟨row, stored, rfl⟩ := shows.mirrors.row_of_fileOf file
  rcases (members id).mp inSet with own | next
  · exact filed.file_mem ((Affected.subset_iff.mp wanted).2 id own) stored
  obtain ⟨e, he, t, ht, joins⟩ := Snapshot.mem_neighbors.mp next
  cases present : db.symbols[t]? with
  | some _ =>
    have near := shows.mirrors.near_of_joins (T := (· ∈ ids)) he joins ht (by rw [present]; rfl)
    obtain ⟨_, path', inFiles, same⟩ := surrounds id row stored near
    rw [← same, Path.ofString_toString]
    exact inFiles
  | none =>
    obtain ⟨row', held, asked⟩ := shows.asked_of_joins he joins present
    rw [stored] at held
    cases held
    exact asked.elim (fun own => filed.file_mem own stored) fun own => own

private theorem nearlyCloses_edges {ends : List (Int × Int)} (filed : A.Filed db) :
    (Refresh.edges ends).NearlyCloses db A := by
  rintro d ⟨wanted, disk, root, g, shows, hd⟩ path mem
  cases hd
  obtain ⟨id, own, file⟩ := Snapshot.mem_filesOf.mp mem
  obtain ⟨row, stored, rfl⟩ := shows.mirrors.row_of_fileOf file
  exact filed.file_mem ((Affected.subset_iff.mp wanted).2 id own) stored

/-- Once the first set was derived, no further file is. -/
theorem nearlyCloses (refresh : Refresh) (normal : db.Normal)
    (derives : refresh.Derives db refresh.seed first) :
    refresh.NearlyCloses db (refresh.seed ∪ refresh.prior ∪ first) := by
  have start := Affected.subset_union_right (refresh.seed ∪ refresh.prior) first
  obtain ⟨_, _, _, g, shows, hd⟩ := id derives
  have filed := refresh.filed normal (Affected.subset_refl _) shows hd
  have asked := refresh.asked_subset hd
  have whole (none : refresh.prior = ∅) : (refresh.seed ∪ refresh.prior ∪ first).Filed db := by
    intro id mem row stored
    have own : id ∈ first.symbols := by
      rw [none] at mem
      rcases Affected.mem_symbols_union.mp mem with before | own
      · rcases Affected.mem_symbols_union.mp before with wanted | none
        · exact asked id wanted
        · exact (ExtTreeSet.not_mem_empty none).elim
      · exact own
    obtain ⟨path, held, file⟩ := filed id own row stored
    exact ⟨path, Affected.mem_files_union.mpr (.inr held), file⟩
  cases refresh with
  | file path prior => exact nearlyCloses_file normal derives start
  | symbols ids => exact nearlyCloses_symbols normal derives start (whole rfl)
  | edges ends => exact nearlyCloses_edges (whole rfl)

/-- A set that grows by what is derived from it grows by no file, and nothing more is derived from
the set that has grown. -/
theorem Derives.closes (derives : refresh.Derives db A d) (normal : db.Normal)
    (nearly : refresh.NearlyCloses db A) {prior : Affected} (held : prior ⊆ A) :
    refresh.Closes db (A ∪ (d ∪ prior)) := by
  rintro d' ⟨_, disk', root', g', shows', hd'⟩
  obtain ⟨start, disk, root, g, shows, hd⟩ := id derives
  have filed := refresh.filed normal start shows hd
  have files := nearly d derives
  have before := Affected.subset_iff.mp held
  have sameFiles (path : Path) :
      path ∈ (A ∪ (d ∪ prior)).files ↔ path ∈ A.files := by
    simp only [Affected.mem_files_union]
    constructor
    · rintro (own | next | old)
      · exact own
      · exact files path next
      · exact before.1 path old
    · exact .inl
  have shown : g'.Shows A db disk' root' := by
    refine ⟨shows'.mirrors, fun id => (shows'.complete id).trans ?_, shows'.touching,
      fun path => (shows'.files path).trans (sameFiles path)⟩
    refine exists_congr fun row => and_congr_right fun stored => ?_
    rw [sameFiles]
    simp only [Affected.mem_symbols_union]
    constructor
    · rintro ((own | next | old) | file)
      · exact .inl own
      · exact .inr (files _ (filed.file_mem next stored))
      · exact .inl (before.2 id old)
      · exact .inr file
    · exact Or.imp_left .inl
  rw [← derives.unique ⟨start, disk', root', g', shown, hd'⟩]
  exact Affected.subset_trans (Affected.subset_union_left _ _) (Affected.subset_union_right _ _)

end Refresh

/-! ## After a deletion -/

namespace Removal

private theorem not_takes_of_stored {removal : Removal} {id : Int} {row : SymbolRow}
    (stored : (db.without removal).symbols[id]? = some row) : ¬removal.takes db id = true := by
  intro taken
  rw [symbols_without, if_pos taken] at stored
  cases stored

private theorem closes_file {path : Path} {A : Affected} (start : path ∈ A.files) :
    (Refresh.file path ∅).Closes (db.without (.file path)) A := by
  rintro d ⟨_, disk, root, g, shows, hd⟩
  obtain ⟨own, ho, hd⟩ := Except.bind_eq_ok.mp hd
  have none (id : Int) : id ∉ ExtTreeSet.ofList (own.map (·.id)) := by
    intro mem
    obtain ⟨row, stored, file⟩ := (shows.mem_ownIds start ho id).mp mem
    apply not_takes_of_stored stored
    rw [symbols_without] at stored
    split at stored
    · cases stored
    · rw [takes, stored, Option.any_some, file, beq_self_eq_true]
  obtain ⟨members, paths⟩ := Snapshot.surrounded_eq_ok hd
  have empty (id : Int) : id ∉ d.symbols := by
    intro mem
    rcases (members id).mp mem with own | next
    · exact none id own
    · obtain ⟨_, _, t, ht, _⟩ := Snapshot.mem_neighbors.mp next
      exact none t ht
  refine Affected.subset_iff.mpr ⟨fun path' mem => ?_, fun id mem => (empty id mem).elim⟩
  rcases (paths path').mp mem with given | ⟨id, mem, _⟩
  · rw [ExtTreeSet.mem_ofList, List.contains_iff_mem, List.mem_singleton] at given
    rw [given]
    exact start
  · exact (empty id mem).elim

private theorem closes_symbol {own : Int} {A : Affected} (start : own ∈ A.symbols) :
    (Refresh.symbols (.ofList [own])).Closes (db.without (.symbol own)) A := by
  rintro d ⟨_, disk, root, g, shows, hd⟩
  have only (id : Int) : id ∈ ExtTreeSet.ofList [own] ↔ id = own := by
    rw [ExtTreeSet.mem_ofList, List.contains_iff_mem, List.mem_singleton]
  obtain ⟨members, paths⟩ := Snapshot.surrounded_eq_ok hd
  have alone (id : Int) (mem : id ∈ d.symbols) : id = own := by
    rcases (members id).mp mem with given | next
    · exact (only id).mp given
    · obtain ⟨e, he, t, ht, joins⟩ := Snapshot.mem_neighbors.mp next
      obtain ⟨n, row, held, read⟩ := shows.mirrors.stored_edge he
      obtain ⟨_, caller, callee⟩ := EdgeRow.edge_eq_ok read
      obtain ⟨_, noCaller, noCallee⟩ := (edges_without _ n row).mp held
      rw [caller, callee, (only t).mp ht] at joins
      rcases joins with ⟨touch, _⟩ | ⟨_, touch⟩
      · simp [takesEnd, takes, touch] at noCaller
      · simp [takesEnd, takes, touch] at noCallee
  refine Affected.subset_iff.mpr ⟨fun path mem => ?_, fun id mem => ?_⟩
  · rcases (paths path).mp mem with none | ⟨id, inSet, file⟩
    · exact (ExtTreeSet.not_mem_empty none).elim
    · obtain ⟨row, stored, _⟩ := shows.mirrors.row_of_fileOf file
      rw [alone id inSet] at stored
      exact (not_takes_of_stored stored (by simp [takes])).elim
  · rw [alone id mem]
    exact start

/-- After a deletion only what was deleted is derived. -/
theorem closes (removal : Removal) {A : Affected} (start : removal.refresh.seed ⊆ A) :
    removal.refresh.Closes (db.without removal) A := by
  obtain ⟨files, symbols⟩ := Affected.subset_iff.mp start
  cases removal with
  | file path => exact closes_file (files path (Affected.mem_files_of.mpr List.mem_cons_self))
  | symbol own =>
    apply closes_symbol
    apply symbols own
    change own ∈ ExtTreeSet.ofList [own]
    simp

end Removal

end CodeGauge
