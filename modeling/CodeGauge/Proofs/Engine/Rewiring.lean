import CodeGauge.Proofs.Engine.Exactness
import CodeGauge.Proofs.Engine.Refresh
import Mathlib.Logic.Relation

/-!
# Edits of edges

An edit of edges inserts and deletes edges between listed pairs of symbols and leaves everything
else (`Database.Rewired`). Unlike an edit of a file it is not followed by a refresh of the
surroundings: an edge is counted for its two ends and for their files, and nowhere else, so only
these can have other rows than before.
-/

open Std

namespace CodeGauge

variable {ω : Type} {db db' db'' : Database} {disk : Disk} {root : Path}
  {ends : List (Int × Int)}

/-! ## Edges between listed pairs -/

/-- The edge leads from the first to the second id of one of the pairs. -/
def EdgeRow.IsAmong (e : EdgeRow) (ends : List (Int × Int)) : Prop :=
  ∃ pair ∈ ends, e.caller.id? = some pair.1 ∧ e.callee.id? = some pair.2

/-- The id is one of a pair. -/
def IsEnd (ends : List (Int × Int)) (id : Int) : Prop :=
  ∃ pair ∈ ends, id = pair.1 ∨ id = pair.2

/-- The file has a symbol that is one of a pair. -/
def Database.HasEnd (db : Database) (ends : List (Int × Int)) (file : String) : Prop :=
  ∃ (id : Int) (row : SymbolRow), IsEnd ends id ∧ db.symbols[id]? = some row ∧ row.file = file

/-- The databases have the same symbols, the same metrics rows, and the same edges apart from those
between listed pairs. -/
structure Database.Rewired (db db' : Database) (ends : List (Int × Int)) : Prop where
  symbols : db'.symbols = db.symbols
  edges : ∀ (n : Int) (e : EdgeRow), ¬e.IsAmong ends →
    (db'.edges[n]? = some e ↔ db.edges[n]? = some e)
  fileMetrics : db'.fileMetrics = db.fileMetrics
  symbolMetrics : db'.symbolMetrics = db.symbolMetrics
  pathless : db'.pathlessMetrics = db.pathlessMetrics

/-- A single write of an edit of edges: an edge between a listed pair is inserted or deleted. -/
inductive Database.Wire (ends : List (Int × Int)) (db : Database) : Database → Prop
  | insert (n : Int) (e : EdgeRow) (last : Int) (new : db.edges[n]? = none)
    (listed : e.IsAmong ends) :
    Wire ends db { db with edges := db.edges.insert n e, lastEdge := last }
  | delete (n : Int) (e : EdgeRow) (held : db.edges[n]? = some e) (listed : e.IsAmong ends) :
    Wire ends db { db with edges := db.edges.erase n }

private theorem EdgeRow.IsAmong.isEnd {e : EdgeRow} {i j : Int} (h : e.IsAmong ends)
    (joins : Joins e.caller e.callee i j) : IsEnd ends i := by
  have ⟨pair, mem, caller, callee⟩ := h
  refine ⟨pair, mem, ?_⟩
  rcases joins with ⟨own, -⟩ | ⟨-, own⟩
  · rw [caller] at own
    exact .inl (Option.some.inj own).symm
  · rw [callee] at own
    exact .inr (Option.some.inj own).symm

namespace Database.Rewired

private theorem refl (db : Database) (ends : List (Int × Int)) : db.Rewired db ends :=
  ⟨rfl, fun _ _ _ => .rfl, rfl, rfl, rfl⟩

private theorem symm (h : db.Rewired db' ends) : db'.Rewired db ends :=
  ⟨h.symbols.symm, fun n e other => (h.edges n e other).symm, h.fileMetrics.symm,
    h.symbolMetrics.symm, h.pathless.symm⟩

private theorem trans (h : db.Rewired db' ends) (k : db'.Rewired db'' ends) :
    db.Rewired db'' ends :=
  ⟨k.symbols.trans h.symbols, fun n e other => (k.edges n e other).trans (h.edges n e other),
    k.fileMetrics.trans h.fileMetrics, k.symbolMetrics.trans h.symbolMetrics,
    k.pathless.trans h.pathless⟩

/-- A single write is an edit of edges. -/
theorem of_wire (h : db.Wire ends db') : db.Rewired db' ends := by
  cases h with
  | insert n e last new listed =>
    refine ⟨rfl, fun k e' other => ?_, rfl, rfl, rfl⟩
    exact getElem?_insert_eq_some new k fun same => other (same ▸ listed)
  | delete n e held listed =>
    refine ⟨rfl, fun k e' other => ?_, rfl, rfl, rfl⟩
    exact getElem?_erase_eq_some held k fun same => other (same ▸ listed)

/-- Any number of writes are an edit of edges. -/
theorem of_wires (h : Relation.ReflTransGen (Wire ends) db db') : db.Rewired db' ends := by
  induction h with
  | refl => exact refl db ends
  | tail _ wire ih => exact ih.trans (of_wire wire)

private theorem hasEnd_iff (h : db.Rewired db' ends) {file : String} :
    db'.HasEnd ends file ↔ db.HasEnd ends file := by
  rw [HasEnd, HasEnd, h.symbols]

private theorem normal (h : db.Rewired db' ends) (normal : db.Normal) : db'.Normal := by
  rw [Normal, h.symbols]
  exact normal

/-- An edit of edges keeps what is outside of a set that holds the stored ends and their files. -/
theorem keepsOutside (h : db.Rewired db' ends) {A : Affected}
    (holds : ∀ (id : Int) (row : SymbolRow), IsEnd ends id → db.symbols[id]? = some row →
      id ∈ A.symbols ∧ ∃ path ∈ A.files, path.toString = row.file) : db.KeepsOutside db' A := by
  constructor
  · intro id row hr _
    rw [h.symbols]
    exact hr
  · intro n i j e row other he joins hi hj far
    have unlisted : ¬e.IsAmong ends := fun listed => far (holds i row (listed.isEnd joins) hi)
    rw [h.symbols]
    exact ⟨(h.edges n e unlisted).mpr he, hj⟩

end Database.Rewired

/-! ## What is recomputed for edges -/

namespace Snapshot

variable {g : Snapshot} {A : Affected}

/-- The symbols affected by edges are their ends. -/
theorem mem_affectedByEdges {id : Int} :
    id ∈ (g.affectedByEdges ends).symbols ↔ IsEnd ends id := by
  rw [affectedByEdges, ExtTreeSet.mem_ofList, List.contains_iff_mem]
  simp only [List.mem_flatMap, List.mem_cons, List.not_mem_nil, or_false, IsEnd]

/-- What a refresh of edges is asked for is part of what it derives. -/
theorem seed_union_affectedByEdges :
    (Refresh.edges ends).seed ∪ (Refresh.edges ends).prior ∪ g.affectedByEdges ends =
      g.affectedByEdges ends := by
  refine Affected.subset_antisymm ?_ (Affected.subset_union_right _ _)
  rw [Affected.union_subset_iff, Affected.union_subset_iff]
  refine ⟨⟨?_, Affected.empty_subset _⟩, Affected.subset_refl _⟩
  rw [Affected.subset_iff]
  constructor
  · intro path hpath
    cases Affected.mem_files_of.mp hpath
  · intro id hid
    exact hid

variable (shows : g.Shows A db disk root) (normal : db.Normal)
include shows normal

/-- The set that is derived for edges holds the stored ends and their files. -/
theorem Shows.holds_end (wanted : ∀ id, IsEnd ends id → id ∈ A.symbols) {id : Int}
    {row : SymbolRow} (isEnd : IsEnd ends id) (hr : db.symbols[id]? = some row) :
    id ∈ (g.affectedByEdges ends).symbols ∧
      ∃ path ∈ (g.affectedByEdges ends).files, path.toString = row.file := by
  have mem : id ∈ (g.affectedByEdges ends).symbols := mem_affectedByEdges.mpr isEnd
  have complete : id ∈ g.complete :=
    (shows.complete id).mpr ⟨row, hr, .inl (wanted id isEnd)⟩
  have ⟨path, own, file⟩ :=
    shows.mirrors.exists_fileOf normal hr (shows.mirrors.complete id complete)
  exact ⟨mem, path, mem_filesOf.mpr ⟨id, mem, own⟩, file⟩

/-- The set that is derived for edges holds no files but those of the stored ends. -/
theorem Shows.hasEnd {path : Path} (hpath : path ∈ (g.affectedByEdges ends).files) :
    db.HasEnd ends path.toString := by
  have ⟨id, mem, own⟩ := mem_filesOf.mp hpath
  have ⟨s, hs, file⟩ := Option.map_eq_some_iff.mp own
  have ⟨row, hr, filed⟩ := Option.map_eq_some_iff.mp (shows.mirrors.file_of_symbol normal hs)
  rw [file] at filed
  exact ⟨id, row, (mem_affectedByEdges (g := g)).mp mem, hr, filed⟩

end Snapshot

/-! ## Exactness -/

namespace Engine

variable {E : Engine ω} {w : World ω}

/-- A refresh of edges that returns without errors, while nothing else changes the tables or the
disk, makes tables exact again that were exact before edges between the listed pairs were edited. It
leaves the rows of all files and symbols as they are, apart from the pairs' symbols, their files,
and the symbols of these files. -/
theorem refreshEdges_exact (plain : E.loader = .plain root) (shows : w.Shows db' disk)
    (normal : db.Normal) (rewired : db.Rewired db' ends) (exact : db.Exact disk root)
    {r : Recomputation} {w' : World ω} (run : (E.refreshEdges ends).runIn w = (.ok r, w'))
    (noErrors : r.stats.errors = []) :
    ∃ after, w'.Shows after disk ∧ db'.SameGraph after ∧ after.Exact disk root ∧
      (∀ file, ¬db.HasEnd ends file → after.fileMetrics[file]? = db.fileMetrics[file]?) ∧
      ∀ id, ¬IsEnd ends id →
        (∀ row, db.symbols[id]? = some row → ¬db.HasEnd ends row.file) →
        after.symbolMetrics[id]? = db.symbolMetrics[id]? := by
  have normal' := rewired.normal normal
  have ⟨derived, after, hd, affected, _, made, shows'⟩ :=
    Refresh.run_ensures plain shows normal' (.edges ends) r w' run
  have ⟨now, _, renewed⟩ := made.renewed
  cases hd
  rw [Snapshot.seed_union_affectedByEdges] at affected
  have symbols (id : Int) : id ∈ r.affected.symbols ↔ IsEnd ends id := by
    rw [affected]
    exact Snapshot.mem_affectedByEdges
  have files (path : Path) (mem : path ∈ r.affected.files) : db.HasEnd ends path.toString := by
    rw [affected] at mem
    rw [← rewired.hasEnd_iff]
    exact made.snapshot.hasEnd normal' mem
  have holds (id : Int) (row : SymbolRow) (isEnd : IsEnd ends id)
      (hr : db'.symbols[id]? = some row) :
      id ∈ r.affected.symbols ∧ ∃ path ∈ r.affected.files, path.toString = row.file := by
    rw [affected]
    exact made.snapshot.holds_end normal' (fun k => (symbols k).mpr) isEnd hr
  have back : db'.KeepsOutside db r.affected := rewired.symm.keepsOutside holds
  have keeps : db.KeepsOutside db' r.affected := by
    apply rewired.keepsOutside
    rw [← rewired.symbols]
    exact holds
  refine ⟨after, shows', renewed.graph, ?_, fun file far => ?_, fun id far apart => ?_⟩
  · exact keeps.exact back rewired.fileMetrics rewired.symbolMetrics rewired.pathless exact renewed
      (fun _ _ => rfl) (made.current noErrors)
  · rw [← rewired.fileMetrics]
    apply renewed.file_other
    intro path mem same
    exact far (same ▸ files path mem)
  · have missed : id ∉ r.affected.symbols := fun own => far ((symbols id).mp own)
    rw [← rewired.symbolMetrics]
    apply renewed.symbol_other
    · rintro (own | ⟨row, hr, path, mem, file⟩)
      · exact missed own
      · exact apart row (rewired.symbols ▸ hr) (file ▸ files path mem)
    · intro path _
      refine Database.not_misfiled ?_ path.toString
      rw [rewired.symbolMetrics, exact.symbols, keeps.symbolReference_eq back missed]

/-- Pairs with a symbol paired with itself and an id without a symbol. -/
def sampleEnds : List (Int × Int) :=
  [(1, 2), (2, 2), (2, 1), (1, 9)]

/-- A call in the third line. -/
def sampleCall (caller callee : Int) : EdgeRow :=
  ⟨.int caller, .int callee, .int 3, some "call"⟩

/-- The tables of the small repository without the call of the second function, and with a call in
the other direction, one of a function by itself and one of a symbol that there is not. -/
def sampleRewired : Database :=
  { Sample.metered with
    edges := (((Sample.metered.edges.erase 1).insert 2 (sampleCall 2 2)).insert 3
      (sampleCall 2 1)).insert 4 (sampleCall 1 9)
    lastEdge := 4 }

private theorem sample_rewired : Sample.metered.Rewired sampleRewired sampleEnds := by
  have delete : Sample.metered.Rewired _ sampleEnds :=
    .of_wire (.delete 1 ⟨.int 1, .int 2, .int 1, some "call"⟩ (by decide +kernel)
      ⟨(1, 2), by decide, rfl, rfl⟩)
  have itself := delete.trans <|
    .of_wire (.insert 2 (sampleCall 2 2) 2 (by decide +kernel) ⟨(2, 2), by decide, rfl, rfl⟩)
  have back := itself.trans <|
    .of_wire (.insert 3 (sampleCall 2 1) 3 (by decide +kernel) ⟨(2, 1), by decide, rfl, rfl⟩)
  exact back.trans <|
    .of_wire (.insert 4 (sampleCall 1 9) 4 (by decide +kernel) ⟨(1, 9), by decide, rfl, rfl⟩)

/-- Tables from before an edge was added and another taken away are exact after a refresh of the
ends. -/
theorem sample_refreshEdges_exact :
    ∃ r w' after, (Sample.engine.refreshEdges sampleEnds).runIn (Sample.world sampleRewired) =
        (.ok r, w') ∧
      r.stats.errors = [] ∧ w'.Shows after Sample.disk ∧ sampleRewired.SameGraph after ∧
      after.Exact Sample.disk Sample.root := by
  have returns : ((Sample.engine.refreshEdges sampleEnds).runIn
      (Sample.world sampleRewired)).1.toOption.map (·.stats.errors) = some [] := by
    decide +kernel
  have normal : Sample.metered.Normal := by decide +kernel
  have exact : Sample.metered.Exact Sample.disk Sample.root := by decide +kernel
  rcases run : (Sample.engine.refreshEdges sampleEnds).runIn (Sample.world sampleRewired) with
    ⟨e | r, w'⟩
  · rw [run] at returns
    cases returns
  · rw [run] at returns
    have noErrors : r.stats.errors = [] := Option.some.inj returns
    have ⟨after, shows, graph, still, _⟩ := refreshEdges_exact rfl
      (Sample.world_shows sampleRewired) normal sample_rewired exact run noErrors
    exact ⟨r, w', after, rfl, noErrors, shows, graph, still⟩

end Engine

end CodeGauge
