import CodeGauge.Proofs.Engine.Exactness
import CodeGauge.Proofs.Engine.Refresh

/-!
# Removals

A removal of a file or a symbol keeps exact tables exact. What surrounds the removed symbols is
found before the deletion and recomputed after it; after the deletion there is nothing left that the
removed symbols are connected to.
-/

open Std

namespace CodeGauge

variable {ω : Type} {E : Engine ω} {w : World ω} {db : Database} {disk : Disk} {root : Path}

/-- The removal of a file or of a symbol. -/
inductive Removal where
  | file (path : Path)
  | symbol (id : Int)

namespace Removal

/-- Run a removal. -/
def run (E : Engine ω) : Removal → Action ω Recomputation
  | file path => E.removeFile path
  | symbol id => E.removeSymbol id

/-- What a removal is asked for. -/
def seed : Removal → Affected
  | file path => .of [path] []
  | symbol id => .of [] [id]

/-- What a removal derives from a snapshot. -/
def derive : Removal → Snapshot → Except Error Affected
  | file path => (·.affectedByFile path)
  | symbol id => (·.affectedBySymbols (.ofList [id]))

/-- The deletion from the graph. -/
def deletion : Removal → Action ω Unit
  | file path => Graph.deleteFile path
  | symbol id => Graph.deleteSymbolWithEdges id

/-- Whether a removal takes the id away: that of a symbol of the file, or the symbol's own. -/
def takes (db : Database) : Removal → Int → Bool
  | file path, id => (db.symbols[id]?).any (·.file == path.toString)
  | symbol own, id => id == own

/-- Whether a removal takes the end of an edge away. -/
def takesEnd (db : Database) (removal : Removal) (v : Value) : Bool :=
  (v.id?).any (removal.takes db)

end Removal

/-- The graph without what a removal takes away, the edges that touch it, and the file's record. -/
def Database.without (db : Database) (removal : Removal) : Database :=
  { db with
    symbols := db.symbols.filter fun id _ => !removal.takes db id
    edges := db.edges.filter fun _ e =>
      !(removal.takesEnd db e.caller || removal.takesEnd db e.callee)
    files := match removal with
      | .file path => db.files.erase path.toString
      | .symbol _ => db.files }

namespace Removal

/-- A removal is a recomputation with its deletion. -/
theorem run_eq (removal : Removal) :
    removal.run E = E.recompute removal.seed removal.derive ∅ (some removal.deletion) := by
  cases removal with
  | file path => rfl
  | symbol id => rfl

/-! ## The graph without what was removed -/

/-- A removal takes the symbols that it is made for and leaves the others. -/
theorem symbols_without (removal : Removal) (id : Int) :
    (db.without removal).symbols[id]? = if removal.takes db id then none else db.symbols[id]? := by
  change (db.symbols.filter fun id _ => !removal.takes db id)[id]? = _
  rw [ExtTreeMap.getElem?_filter']
  cases db.symbols[id]? with
  | none => simp
  | some row => cases removal.takes db id <;> rfl

/-- A removal takes the edges with an end that it takes and leaves the others. -/
theorem edges_without (removal : Removal) (n : Int) (e : EdgeRow) :
    (db.without removal).edges[n]? = some e ↔ db.edges[n]? = some e ∧
      removal.takesEnd db e.caller = false ∧ removal.takesEnd db e.callee = false := by
  change (db.edges.filter fun _ e =>
    !(removal.takesEnd db e.caller || removal.takesEnd db e.callee))[n]? = some e ↔ _
  rw [ExtTreeMap.getElem?_filter', Option.filter_eq_some_iff]
  simp

/-- A removal leaves normal paths normal. -/
theorem normal_without (normal : db.Normal) (removal : Removal) : (db.without removal).Normal := by
  intro id row hr
  rw [symbols_without] at hr
  split at hr
  · cases hr
  · exact normal id row hr

/-- Nothing is changed that is not connected to what is removed. -/
theorem agreesOutside (removal : Removal) :
    db.AgreesOutside (db.without removal) (fun id => removal.takes db id = true) := by
  refine ⟨fun id kept => ?_, fun n e i j hi hj ti tj _ _ => ?_, rfl, rfl, rfl⟩
  · rw [symbols_without, if_neg kept]
  · rw [edges_without, takesEnd, takesEnd, hi, hj]
    simp only [Option.any_some, Bool.not_eq_true] at ti tj ⊢
    exact and_iff_left ⟨ti, tj⟩

/-- What is removed has no surroundings any more. -/
theorem surrounds_without (removal : Removal) (A : Affected) :
    A.Surrounds (db.without removal) (fun id => removal.takes db id = true) := by
  intro id row hr near
  rcases near with taken | ⟨t, _, _, taken, stored, _⟩
  · rw [symbols_without, if_pos taken] at hr
    cases hr
  · rw [symbols_without, if_pos taken] at stored
    cases stored

/-- What is derived for a removal surrounds what it takes away. -/
theorem surrounds (removal : Removal) (normal : db.Normal) {A : Affected}
    (held : Engine.HoldsSurroundings db disk root removal.derive removal.seed A) :
    A.Surrounds db (fun id => removal.takes db id = true) := by
  have ⟨g, B, d, start, shows, hd, within⟩ := held
  have ⟨files, ids⟩ := Affected.subset_iff.mp start
  refine Affected.Surrounds.mono ?_ within
  cases removal with
  | file path =>
    have wanted : path ∈ B.files := files path (Affected.mem_files_of.mpr List.mem_cons_self)
    have surrounds := shows.surrounds_file normal wanted hd
    simp only [takes, Option.any_eq_true, beq_iff_eq]
    exact surrounds
  | symbol id =>
    have mem (k : Int) : k ∈ ExtTreeSet.ofList [id] ↔ k = id := by
      rw [ExtTreeSet.mem_ofList, List.contains_iff_mem, List.mem_singleton]
    have wanted : ∀ k ∈ ExtTreeSet.ofList [id], k ∈ B.symbols := by
      intro k hk
      rw [mem] at hk
      exact ids k (Affected.mem_symbols_of.mpr (hk ▸ List.mem_cons_self))
    have surrounds := shows.surrounds_symbols normal wanted hd
    simp only [mem] at surrounds
    simp only [takes, beq_iff_eq]
    exact surrounds

/-! ## The deletion -/

private theorem isSymbolOf_eq (db : Database) (path : Path) (v : Value) :
    db.isSymbolOf path.toString v = (file path).takesEnd db v := by
  rw [Database.isSymbolOf, takesEnd]
  cases v.id? with
  | none => rfl
  | some id => rfl

/-- The removal of a symbol takes the ends that are its id. -/
theorem takesEnd_symbol (db : Database) (id : Int) (v : Value) :
    (symbol id).takesEnd db v = (v.id? == some id) := by
  rw [takesEnd]
  cases v.id? with
  | none => rfl
  | some k => rfl

/-- A deletion begins by opening the repository. -/
theorem opens_deletion (removal : Removal) : (removal.deletion : Action ω Unit).Opens := by
  cases removal with
  | file path => exact (Action.opens_updateAndCommit _ _ _).bind _
  | symbol id => exact (Action.opens_updateAndCommit _ _ _).bind _

/-- The deletion leaves the graph without what is removed. -/
theorem deletion_ensures (removal : Removal) {w : World ω} (h : w.Open db) :
    removal.deletion.Ensures w fun _ w' => w.Onward w' (db.without removal) := by
  cases removal with
  | file path =>
    refine (Action.updateAndCommit_ensures h _ _ _).bind ?_
    intro _ w₁ ⟨db₁, edges, h₁⟩
    refine (Action.updateAndCommit_ensures h₁.isOpen _ _ _).bind ?_
    intro _ w₂ ⟨db₂, symbols, h₂⟩
    refine (Action.updateAndCommit_ensures h₂.isOpen _ _ _).mono ?_
    intro _ w₃ ⟨db₃, files, h₃⟩
    cases edges
    cases symbols
    cases files
    have whole := (h₁.trans h₂).trans h₃
    have kept : (db.symbols.filter fun _ row => !(row.file == path.toString)) =
        db.symbols.filter fun id _ => !(file path).takes db id := by
      apply ExtTreeMap.ext_getElem?
      intro id
      rw [ExtTreeMap.getElem?_filter', ExtTreeMap.getElem?_filter', takes]
      cases db.symbols[id]? with
      | none => rfl
      | some row => rfl
    simp only [isSymbolOf_eq, kept] at whole
    exact whole
  | symbol own =>
    refine (Action.updateAndCommit_ensures h _ _ _).bind ?_
    intro _ w₁ ⟨db₁, edges, h₁⟩
    refine .bind (P := fun _ w' => w.Onward w' (db.without (symbol own))) ?_
      fun _ _ onward => .pure onward
    refine (Action.updateAndCommit_ensures h₁.isOpen _ _ _).bind ?_
    intro _ w₂ ⟨db₂, symbols, h₂⟩
    cases edges
    cases symbols
    have whole := h₁.trans h₂
    simp only [← takesEnd_symbol db] at whole
    exact .pure whole

/-- What is shown after the deletion is the graph without what is removed. -/
theorem deletion_shows (removal : Removal) (shows : w.Shows db disk) :
    removal.deletion.Ensures w fun _ w' => w'.Shows (db.without removal) disk := by
  refine (removal.opens_deletion.ensures shows (P := fun _ _ => True) fun o isOpen => ?_).mono
    fun _ _ left => left.2
  exact (removal.deletion_ensures isOpen).mono fun _ _ onward => ⟨trivial, onward⟩

/-- A removal that gives a value has renewed rows from the graph without what it took away. -/
theorem run_ensures (plain : E.loader = .plain root) (shows : w.Shows db disk) (normal : db.Normal)
    (removal : Removal) :
    (removal.run E).Ensures w fun r w' => ∃ db' prior,
      Engine.HoldsSurroundings db disk root removal.derive removal.seed prior ∧
      r.MadeFrom (db.without removal) db' disk root w.clock removal.derive prior ∧
      w'.Shows db' disk := by
  have ⟨o, isOpen, sameDisk, sameClock, opened⟩ := shows.exists_open
  intro r w' run
  rw [run_eq, opened _ (Engine.opens_recompute plain _ _ _)] at run
  have ⟨db', prior, held, made, onward⟩ := Engine.recompute_deletion_ensures plain isOpen normal
    (normal_without normal removal) (fun _ h => removal.deletion_ensures h) r w' run
  have shows' := onward.isOpen.shows
  rw [onward.same.disk] at shows'
  rw [sameDisk] at held made shows'
  rw [sameClock] at made
  exact ⟨db', prior, held, made, shows'⟩

/-! ## Exactness -/

/-- A removal that returns without errors, while nothing else changes the tables or the disk, takes
the file or the symbol out of the graph and leaves exact tables exact. -/
theorem run_exact (plain : E.loader = .plain root) (shows : w.Shows db disk) (normal : db.Normal)
    (exact : db.Exact disk root) (removal : Removal) {r : Recomputation} {w' : World ω}
    (run : (removal.run E).runIn w = (.ok r, w')) (noErrors : r.stats.errors = []) :
    ∃ db', w'.Shows db' disk ∧ (db.without removal).SameGraph db' ∧ db'.Exact disk root := by
  have ⟨o, isOpen, sameDisk, _, opened⟩ := shows.exists_open
  rw [run_eq, opened _ (Engine.opens_recompute plain _ _ _)] at run
  have ⟨db', prior, held, made, onward⟩ := Engine.recompute_deletion_ensures plain isOpen normal
    (normal_without normal removal) (fun _ h => removal.deletion_ensures h) r w' run
  have shows' := onward.isOpen.shows
  rw [onward.same.disk] at shows'
  rw [sameDisk] at held made shows'
  have ⟨_, _, within⟩ := made.derived
  have ⟨now, _, renewed⟩ := made.renewed
  have near := (removal.surrounds normal held).mono (Affected.union_subset_iff.mp within).2
  refine ⟨db', shows', renewed.graph, ?_⟩
  exact removal.agreesOutside.exact near (removal.surrounds_without _) exact renewed
    (fun _ _ => rfl) (made.current noErrors)

/-- Exact tables are exact after a file is removed. -/
theorem sample_exact :
    ∃ r w' db', ((Removal.file (.ofString "a")).run Sample.engine).runIn
        (Sample.world Sample.metered) = (.ok r, w') ∧ r.stats.errors = [] ∧
      w'.Shows db' Sample.disk ∧
      (Sample.metered.without (.file (.ofString "a"))).SameGraph db' ∧
      db'.Exact Sample.disk Sample.root := by
  have returns : (((Removal.file (.ofString "a")).run Sample.engine).runIn
      (Sample.world Sample.metered)).1.toOption.map (·.stats.errors) = some [] := by
    decide +kernel
  have normal : Sample.metered.Normal := by decide +kernel
  have exact : Sample.metered.Exact Sample.disk Sample.root := by decide +kernel
  rcases run : ((Removal.file (.ofString "a")).run Sample.engine).runIn
    (Sample.world Sample.metered) with ⟨e | r, w'⟩
  · rw [run] at returns
    cases returns
  · rw [run] at returns
    have noErrors : r.stats.errors = [] := Option.some.inj returns
    have ⟨db', still⟩ := run_exact rfl (Sample.world_shows Sample.metered) normal exact
      (.file (.ofString "a")) run noErrors
    exact ⟨r, w', db', rfl, noErrors, still⟩

end Removal

end CodeGauge
