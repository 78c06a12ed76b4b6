import CodeGauge.Engine.Updating
import CodeGauge.Proofs.Engine.Exactness
import CodeGauge.Proofs.Engine.Refresh
import CodeGauge.Proofs.Store.Soundness
import Mathlib.Logic.Relation

/-!
# Updates of a file

An update runs a block that edits one file of the graph, and recomputes when the block is left,
however it ends. Edits of a file are single writes one after the other, and what they do together is
known without knowing them: the symbols of other files are as they were, and so are the edges
between these (`Database.Edited`). What surrounded the file before the block is recomputed together
with what surrounds it afterwards, and thus exact tables are exact again.
-/

open Std

namespace CodeGauge

variable {ω α : Type} {db db' db'' : Database} {disk disk' : Disk} {root path : Path}

/-! ## Edits of a file -/

/-- The edge joins stored symbols of other files. -/
def Database.JoinsOthers (db : Database) (path : Path) (e : EdgeRow) : Prop :=
  (∃ file ≠ path.toString, db.fileOf? e.caller = some file) ∧
    ∃ file ≠ path.toString, db.fileOf? e.callee = some file

/-- The databases have the same metrics rows, the same symbols of other files, and the same edges
between these. -/
structure Database.Edited (db db' : Database) (path : Path) : Prop where
  symbols : ∀ (id : Int) (row : SymbolRow), row.file ≠ path.toString →
    (db'.symbols[id]? = some row ↔ db.symbols[id]? = some row)
  edges : ∀ (n : Int) (e : EdgeRow), db.JoinsOthers path e →
    (db'.edges[n]? = some e ↔ db.edges[n]? = some e)
  fileMetrics : db'.fileMetrics = db.fileMetrics
  symbolMetrics : db'.symbolMetrics = db.symbolMetrics
  pathless : db'.pathlessMetrics = db.pathlessMetrics

/-- A single write of an edit: a symbol of the file or an edge that does not join symbols of other
files is inserted or deleted, or the file's record is changed. -/
inductive Database.Write (path : Path) (db : Database) : Database → Prop
  | insertSymbol (id : Int) (row : SymbolRow) (last : Int) (new : db.symbols[id]? = none)
    (own : row.file = path.toString) :
    Write path db { db with symbols := db.symbols.insert id row, lastSymbol := last }
  | deleteSymbol (id : Int) (row : SymbolRow) (held : db.symbols[id]? = some row)
    (own : row.file = path.toString) :
    Write path db { db with symbols := db.symbols.erase id }
  | insertEdge (n : Int) (e : EdgeRow) (last : Int) (new : db.edges[n]? = none)
    (own : ¬db.JoinsOthers path e) :
    Write path db { db with edges := db.edges.insert n e, lastEdge := last }
  | deleteEdge (n : Int) (e : EdgeRow) (held : db.edges[n]? = some e)
    (own : ¬db.JoinsOthers path e) :
    Write path db { db with edges := db.edges.erase n }
  | record (files : ExtTreeMap String FileRow)
    (others : ∀ file, file ≠ path.toString → files[file]? = db.files[file]?) :
    Write path db { db with files }

namespace Database

namespace Edited

private theorem refl (db : Database) (path : Path) : db.Edited db path :=
  ⟨fun _ _ _ => .rfl, fun _ _ _ => .rfl, rfl, rfl, rfl⟩

/-- A symbol lies in another file before exactly when it does after. -/
theorem fileOf?_iff (h : db.Edited db' path) {v : Value} {file : String}
    (other : file ≠ path.toString) : db'.fileOf? v = some file ↔ db.fileOf? v = some file := by
  simp only [fileOf?_eq_some_iff]
  constructor
  · rintro ⟨id, row, hid, hr, rfl⟩
    exact ⟨id, row, hid, (h.symbols id row other).mp hr, rfl⟩
  · rintro ⟨id, row, hid, hr, rfl⟩
    exact ⟨id, row, hid, (h.symbols id row other).mpr hr, rfl⟩

private theorem joinsOthers_iff (h : db.Edited db' path) {e : EdgeRow} :
    db'.JoinsOthers path e ↔ db.JoinsOthers path e := by
  have same (v : Value) : (∃ file ≠ path.toString, db'.fileOf? v = some file) ↔
      ∃ file ≠ path.toString, db.fileOf? v = some file :=
    exists_congr fun _ => and_congr_right fun other => h.fileOf?_iff other
  rw [JoinsOthers, JoinsOthers, same, same]

private theorem trans (h : db.Edited db' path) (k : db'.Edited db'' path) :
    db.Edited db'' path := by
  refine ⟨fun id row other => ?_, fun n e joins => ?_, k.fileMetrics.trans h.fileMetrics,
    k.symbolMetrics.trans h.symbolMetrics, k.pathless.trans h.pathless⟩
  · exact (k.symbols id row other).trans (h.symbols id row other)
  · exact (k.edges n e (h.joinsOthers_iff.mpr joins)).trans (h.edges n e joins)

/-- A single write is an edit. -/
theorem of_write (h : db.Write path db') : db.Edited db' path := by
  cases h with
  | insertSymbol id row last new own =>
    refine ⟨fun i row' other => ?_, fun _ _ _ => .rfl, rfl, rfl, rfl⟩
    exact getElem?_insert_eq_some new i fun same => other (same ▸ own)
  | deleteSymbol id row held own =>
    refine ⟨fun i row' other => ?_, fun _ _ _ => .rfl, rfl, rfl, rfl⟩
    exact getElem?_erase_eq_some held i fun same => other (same ▸ own)
  | insertEdge n e last new own =>
    refine ⟨fun _ _ _ => .rfl, fun i e' joins => ?_, rfl, rfl, rfl⟩
    exact getElem?_insert_eq_some new i fun same => own (same ▸ joins)
  | deleteEdge n e held own =>
    refine ⟨fun _ _ _ => .rfl, fun i e' joins => ?_, rfl, rfl, rfl⟩
    exact getElem?_erase_eq_some held i fun same => own (same ▸ joins)
  | record files others => exact ⟨fun _ _ _ => .rfl, fun _ _ _ => .rfl, rfl, rfl, rfl⟩

/-- Any number of writes are an edit. -/
theorem of_writes (h : Relation.ReflTransGen (Write path) db db') : db.Edited db' path := by
  induction h with
  | refl => exact refl db path
  | tail _ write ih => exact ih.trans (of_write write)

private theorem normal (h : db.Edited db' path) (normal : db.Normal) : db'.Normal := by
  intro id row hr
  by_cases own : row.file = path.toString
  · rw [own, Path.ofString_toString]
  · exact normal id row ((h.symbols id row own).mp hr)

/-- The id is not that of a stored symbol of another file. -/
def Own (db : Database) (path : Path) (id : Int) : Prop :=
  ∀ row : SymbolRow, db.symbols[id]? = some row → row.file = path.toString

/-- An edit touches nothing but ids that may be those of the file's symbols. -/
theorem agreesOutside (h : db.Edited db' path) : db.AgreesOutside db' (Own db path) := by
  have others {id : Int} (other : ¬Own db path id) :
      ∃ row : SymbolRow, db.symbols[id]? = some row ∧ row.file ≠ path.toString := by
    rw [Own, Classical.not_forall] at other
    have ⟨row, differ⟩ := other
    rw [Classical.not_imp] at differ
    exact ⟨row, differ⟩
  refine ⟨fun id other => ?_, fun n e i j hi hj oi oj _ _ => ?_, h.fileMetrics, h.symbolMetrics,
    h.pathless⟩
  · have ⟨row, hr, differ⟩ := others other
    rw [hr]
    exact (h.symbols id row differ).mpr hr
  · have ⟨row, hr, differ⟩ := others oi
    have ⟨row', hr', differ'⟩ := others oj
    apply h.edges n e
    exact ⟨⟨row.file, differ, fileOf?_eq_some_iff.mpr ⟨i, row, hi, hr, rfl⟩⟩,
      row'.file, differ', fileOf?_eq_some_iff.mpr ⟨j, row', hj, hr', rfl⟩⟩

/-- What surrounds the symbols of the file surrounds all ids that may be theirs, before an edit. -/
theorem surrounds_before {A : Affected}
    (near : A.Surrounds db (db.HasSymbol path)) : A.Surrounds db (Own db path) :=
  near.of_stored fun _ row hr own => ⟨row, hr, own row hr⟩

/-- What surrounds the symbols of the file surrounds all ids that may be theirs, after an edit. -/
theorem surrounds_after (h : db.Edited db' path) {A : Affected}
    (near : A.Surrounds db' (db'.HasSymbol path)) : A.Surrounds db' (Own db path) := by
  refine near.of_stored fun id row hr own => ⟨row, hr, ?_⟩
  by_cases mine : row.file = path.toString
  · exact mine
  · exact own row ((h.symbols id row mine).mp hr)

end Edited

/-! ## Insertions -/

/-- The next id is not in use. -/
theorem getElem?_nextId {β : Type} {table : ExtTreeMap Int β} {last id : Int}
    (h : nextId table last = .ok id) : table[id]? = none := by
  rw [nextId] at h
  split at h
  · cases h
    apply ExtTreeMap.getElem?_eq_none
    intro mem
    cases top : table.maxKey? with
    | none =>
      rw [ExtTreeMap.maxKey?_eq_none_iff] at top
      subst top
      exact ExtTreeMap.not_mem_empty mem
    | some k =>
      have below := (ExtTreeMap.maxKey?_eq_some_iff_mem_and_forall.mp top).2 _ mem
      rw [top, Option.getD_some, Int.isLE_compare] at below
      omega
  · cases h

end Database

/-- To insert a symbol is a write of an edit of its file. -/
theorem Graph.insertSymbol_ensures {w : World ω} (h : w.Open db) (d : Symbol.Draft) :
    (Graph.insertSymbol d).Ensures w fun _ w' => ∃ db', db.Write d.file db' ∧ w.Onward w' db' := by
  refine (Action.updateAndCommit_ensures h _ _ _).mono ?_
  intro _ w' ⟨db', write, onward⟩
  have ⟨id, next, write⟩ := Except.bind_eq_ok.mp write
  have ⟨row, admitted, write⟩ := Except.bind_eq_ok.mp write
  cases write
  exact ⟨_, .insertSymbol _ row _ (Database.getElem?_nextId next)
    (SymbolRow.eq_of_admit admitted).1, onward⟩

/-- Files of inserted symbols are written as paths are. -/
theorem Graph.insertSymbol_normal {w : World ω} (h : w.Open db) (normal : db.Normal)
    (d : Symbol.Draft) :
    (Graph.insertSymbol d).Ensures w fun _ w' => ∃ db', db'.Normal ∧ w.Onward w' db' := by
  refine (insertSymbol_ensures h d).mono ?_
  intro _ w' ⟨db', write, onward⟩
  exact ⟨db', (Database.Edited.of_write write).normal normal, onward⟩

/-! ## Entering and leaving -/

namespace Engine

variable {E : Engine ω} {w : World ω}

/-- What an update does before its block: it finds the surroundings of the file. -/
def entering (E : Engine ω) (path : Path) : Action ω Affected := do
  let first ← Action.of ((← E.loader.part (.of [path] [])).affectedByFile path)
  E.surroundings path E.maxRounds first

/-- An update finds the surroundings, runs the block, and refreshes the file. -/
theorem updatingFile_eq (E : Engine ω) (path : Path) (block : Action ω α) :
    E.updatingFile path block = (do
      let prior ← E.entering path
      let result ← block.outcome
      let refresh ← ((Refresh.file path prior).run E).outcome
      return ⟨result, refresh⟩) := by
  simp only [updatingFile, entering, bind_assoc]
  rfl

private theorem surroundings_ensures (plain : E.loader = .plain root) (normal : db.Normal)
    (rounds : Nat) {A : Affected} (held : path ∈ A.files) (h : w.Open db) :
    (E.surroundings path rounds A).Ensures w fun prior w' =>
      prior.Surrounds db (db.HasSymbol path) ∧ w.Onward w' db := by
  induction rounds generalizing A w with
  | zero => exact .throw _
  | succ rounds ih =>
    unfold surroundings
    rw [plain]
    refine (Snapshot.loadPart_ensures h normal A).bind ?_
    intro g w₁ ⟨shows, h₁⟩
    refine .given fun current hd => ?_
    have near := shows.surrounds_file normal held hd
    split
    · next within => exact .pure ⟨near.mono within, h₁⟩
    · refine (ih ?_ h₁.isOpen).mono ?_
      · rw [Affected.mem_files_union]
        exact .inl held
      · intro prior w₂ ⟨near, h₂⟩
        exact ⟨near, h₁.trans h₂⟩

private theorem opens_entering (plain : E.loader = .plain root) (path : Path) :
    (E.entering path).Opens := by
  unfold entering
  rw [plain]
  exact (Snapshot.opens_loadPart _).bind _

private theorem entering_ensures_open (plain : E.loader = .plain root) (normal : db.Normal)
    (h : w.Open db) :
    (E.entering path).Ensures w fun prior w' =>
      prior.Surrounds db (db.HasSymbol path) ∧ w.Onward w' db := by
  unfold entering
  rw [plain]
  refine (Snapshot.loadPart_ensures h normal _).bind ?_
  intro g w₁ ⟨_, h₁⟩
  refine .given fun first hd => ?_
  have held := Snapshot.mem_of_affectedByFile hd
  refine (surroundings_ensures plain normal E.maxRounds held h₁.isOpen).mono ?_
  intro prior w₂ ⟨near, h₂⟩
  exact ⟨near, h₁.trans h₂⟩

/-- Before the block the tables are as they were, and what is found surrounds the symbols of the
file. -/
theorem entering_ensures (plain : E.loader = .plain root) (shows : w.Shows db disk)
    (normal : db.Normal) :
    (E.entering path).Ensures w fun prior w' =>
      prior.Surrounds db (db.HasSymbol path) ∧ w'.Open db ∧ w'.disk = disk := by
  have ⟨o, isOpen, sameDisk, _, opened⟩ := shows.exists_open
  intro prior w' run
  rw [opened _ (opens_entering plain path)] at run
  have ⟨near, onward⟩ := entering_ensures_open plain normal isOpen prior w' run
  exact ⟨near, onward.isOpen, onward.same.disk.trans sameDisk⟩

end Engine

namespace Update

/-- The error that goes on outwards when the recomputation gave a value is the block's own. -/
theorem raised_of_refresh {u : Update α} {r : Recomputation} (returned : u.refresh = .ok r)
    (e : Error) : u.raised = some e ↔ u.block = .error e := by
  rw [raised, returned]
  cases u.block with
  | ok a => simp
  | error e' => simp

end Update

namespace Engine

variable {E : Engine ω} {w w' w₁ : World ω}

/-- An update keeps exact tables exact, however its block ends, if the block left the disk and the
tables with nothing but an edit of the file made, and the recomputation that follows returns without
errors. The block's own error goes on outwards. -/
theorem updatingFile_exact (plain : E.loader = .plain root) (shows : w.Shows db disk)
    (normal : db.Normal) (exact : db.Exact disk root) {block : Action ω α} {prior : Affected}
    (entered : (E.entering path).runIn w = (.ok prior, w₁))
    (left : (block.runIn w₁).2.Shows db' disk') (edited : db.Edited db' path)
    (contents : ∀ file, file ≠ path.toString →
      Database.contentOf? disk' root file = Database.contentOf? disk root file)
    {u : Update α} (run : (E.updatingFile path block).runIn w = (.ok u, w'))
    {r : Recomputation} (returned : u.refresh = .ok r) (noErrors : r.stats.errors = []) :
    ∃ db'', w'.Shows db'' disk' ∧ db'.SameGraph db'' ∧ db''.Exact disk' root ∧
      u.block = (block.runIn w₁).1 ∧
      ∀ e, u.raised = some e ↔ (block.runIn w₁).1 = .error e := by
  rw [updatingFile_eq, Action.runIn_bind_of_ok entered,
    Action.runIn_bind_of_ok (Action.runIn_outcome block)] at run
  rcases refreshed : ((Refresh.file path prior).run E).runIn (block.runIn w₁).2 with ⟨result, w₂⟩
  rw [Action.runIn_bind_of_ok (Action.runIn_outcome _), refreshed] at run
  cases run
  cases returned
  have ⟨derived, db'', hd, affected, _, made, shows'⟩ :=
    Refresh.run_ensures plain left (edited.normal normal) _ r w₂ refreshed
  have ⟨now, _, renewed⟩ := made.renewed
  have whole : Affected.of [path] [] ∪ prior ∪ derived ⊆ r.affected := by
    rw [affected]
    exact Affected.subset_refl _
  rw [Affected.union_subset_iff, Affected.union_subset_iff] at whole
  have ⟨⟨seed, known⟩, found⟩ := whole
  have mem : path ∈ r.affected.files :=
    (Affected.subset_iff.mp seed).1 path (Affected.mem_files_of.mpr List.mem_cons_self)
  have before := Database.Edited.surrounds_before
    (entering_ensures plain shows normal prior w₁ entered).1
  have after := edited.surrounds_after
    (made.snapshot.surrounds_file (edited.normal normal) mem hd)
  refine ⟨db'', shows', renewed.graph, ?_, rfl, Update.raised_of_refresh rfl⟩
  refine edited.agreesOutside.exact (before.mono known) (after.mono found) exact renewed ?_
    (made.current noErrors)
  intro file far
  exact contents file fun own => far path mem own.symm

/-- A block that deletes the symbols of a file without their edges, and then fails. -/
def sampleBlock (path : Path) : Action Unit Unit := do
  let _ ← Graph.deleteSymbolsInFile path
  throw .unsettled

/-- The tables that the block leaves of the small repository. -/
def sampleEdited : Database :=
  { Sample.metered with symbols := Sample.metered.symbols.erase 1 }

/-- An update whose block fails halfway leaves exact tables and passes the block's error on. -/
theorem sample_updatingFile_exact :
    ∃ u w' r db'', (Sample.engine.updatingFile (.ofString "a") (sampleBlock (.ofString "a"))).runIn
        (Sample.world Sample.metered) = (.ok u, w') ∧
      u.refresh = .ok r ∧ r.stats.errors = [] ∧ u.raised = some .unsettled ∧
      w'.Shows db'' Sample.disk ∧ sampleEdited.SameGraph db'' ∧
      db''.Exact Sample.disk Sample.root := by
  let path := Path.ofString "a"
  have enters : ((Sample.engine.entering path).runIn
      (Sample.world Sample.metered)).1.toOption.isSome = true := by decide +kernel
  have deletes : ((Graph.deleteSymbolsInFile path).runIn ((Sample.engine.entering path).runIn
      (Sample.world Sample.metered)).2).1.toOption.isSome = true := by decide +kernel
  have returns : ((Sample.engine.updatingFile path (sampleBlock path)).runIn
      (Sample.world Sample.metered)).1.toOption.bind
      (·.refresh.toOption.map (·.stats.errors)) = some [] := by decide +kernel
  have normal : Sample.metered.Normal := by decide +kernel
  have exact : Sample.metered.Exact Sample.disk Sample.root := by decide +kernel
  have shows := Sample.world_shows Sample.metered
  rcases entered : (Sample.engine.entering path).runIn (Sample.world Sample.metered) with
    ⟨e | prior, w₁⟩
  · rw [entered] at enters
    cases enters
  rw [entered] at deletes
  have ⟨_, isOpen, sameDisk⟩ := entering_ensures rfl shows normal prior w₁ entered
  rcases deleted : (Graph.deleteSymbolsInFile path).runIn w₁ with ⟨e | n, w₂⟩
  · rw [deleted] at deletes
    cases deletes
  have block : (sampleBlock path).runIn w₁ = (.error .unsettled, w₂) :=
    Action.runIn_bind_of_ok deleted _
  have ⟨db', written, onward⟩ := Action.updateAndCommit_ensures isOpen _ _ _ n w₂ deleted
  have same : db' = sampleEdited := by
    cases written
    decide +kernel
  have left : ((sampleBlock path).runIn w₁).2.Shows sampleEdited Sample.disk := by
    have shows' := onward.isOpen.shows
    rw [onward.same.disk, sameDisk, same] at shows'
    rw [block]
    exact shows'
  have edited : Sample.metered.Edited sampleEdited path := by
    apply Database.Edited.of_write
    exact .deleteSymbol 1 (Sample.function "f" "a") (by decide +kernel) (by decide +kernel)
  rcases run : (Sample.engine.updatingFile path (sampleBlock path)).runIn
    (Sample.world Sample.metered) with ⟨e | u, w'⟩
  · rw [run] at returns
    cases returns
  rw [run] at returns
  change u.refresh.toOption.map (·.stats.errors) = some [] at returns
  cases returned : u.refresh with
  | error e =>
    rw [returned] at returns
    cases returns
  | ok r =>
    rw [returned] at returns
    have noErrors : r.stats.errors = [] := Option.some.inj returns
    have ⟨db'', shows', graph, still, _, raised⟩ := updatingFile_exact rfl shows normal exact
      entered left edited (fun _ _ => rfl) run returned noErrors
    rw [block] at raised
    exact ⟨u, w', r, db'', rfl, returned, noErrors, (raised .unsettled).mpr rfl, shows', graph,
      still⟩

end Engine

end CodeGauge
