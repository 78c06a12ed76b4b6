import CodeGauge.Proofs.Engine.Invariance
import CodeGauge.Proofs.Engine.Reporting

/-!
# Edges that keep their ends

Tables are anchored when both ends of every edge are stored symbols. No column refers to another, so
this is left to the operations: edges are inserted between stored symbols, and symbols are deleted
after the edges that touch them. Each step of a run keeps it, also where it fails half-way
(`Step.anchored`). And a deletion takes away the symbols that it is asked for, the edges that touch
them and the record of the file, and nothing else (`Removal.Leaves`).
-/

open Std

namespace CodeGauge

open CodeGauge.Action World

variable {ω : Type} {E : Engine ω} {w : World ω} {root : Path}

/-! ## Anchored tables -/

namespace Database

/-- Both ends of every edge are stored symbols. -/
def Anchored (db : Database) : Prop :=
  ∀ (n : Int) (e : EdgeRow), db.edges[n]? = some e →
    (db.fileOf? e.caller).isSome ∧ (db.fileOf? e.callee).isSome

variable {db db' : Database}

private theorem isSome_fileOf?_iff_mem {v : Value} :
    (db.fileOf? v).isSome ↔ ∃ id, v.id? = some id ∧ id ∈ db.symbols := by
  rw [isSome_fileOf?_iff]
  simp only [ExtTreeMap.mem_iff_isSome_getElem?, Option.isSome_iff_exists, exists_and_left]

namespace Anchored

private theorem of_edges_empty (none : db.edges = ∅) : db.Anchored := by
  intro n e held
  simp [none] at held

/-- Edges may go, and symbols may come; and symbols may go that no edge has as its end. -/
theorem of_le (h : db.Anchored)
    (edges : ∀ (n : Int) (e : EdgeRow), db'.edges[n]? = some e → db.edges[n]? = some e)
    (symbols : ∀ (n : Int) (e : EdgeRow), db'.edges[n]? = some e → ∀ v ∈ [e.caller, e.callee],
      ∀ id, v.id? = some id → id ∈ db.symbols → id ∈ db'.symbols) : db'.Anchored := by
  intro n e held
  have left (v : Value) (isEnd : v ∈ [e.caller, e.callee]) (stored : (db.fileOf? v).isSome) :
      (db'.fileOf? v).isSome := by
    obtain ⟨id, own, mem⟩ := isSome_fileOf?_iff_mem.mp stored
    exact isSome_fileOf?_iff_mem.mpr ⟨id, own, symbols n e held v isEnd id own mem⟩
  obtain ⟨caller, callee⟩ := h n e (edges n e held)
  exact ⟨left e.caller (by simp) caller, left e.callee (by simp) callee⟩

private theorem insertSymbol (h : db.Anchored) {values : List Value} {id : Int}
    (inserted : db.insertSymbol values = .ok (id, db')) : db'.Anchored := by
  obtain ⟨next, _, inserted⟩ := Except.bind_eq_ok.mp inserted
  obtain ⟨row, _, inserted⟩ := Except.bind_eq_ok.mp inserted
  cases inserted
  exact h.of_le (fun _ _ held => held) fun _ _ _ _ _ _ _ mem => ExtTreeMap.mem_insert.mpr (.inr mem)

/-- An edge is inserted between stored symbols. -/
theorem insertEdge (h : db.Anchored) {d : Edge.Draft} {id : Int}
    (caller : (db.fileOf? d.caller.numeric).isSome) (callee : (db.fileOf? d.callee.numeric).isSome)
    (inserted : db.insertEdge d.values = .ok (id, db')) : db'.Anchored := by
  obtain ⟨next, _, inserted⟩ := Except.bind_eq_ok.mp inserted
  obtain ⟨row, admitted, inserted⟩ := Except.bind_eq_ok.mp inserted
  cases inserted
  obtain ⟨own, other, _⟩ := EdgeRow.eq_of_admit admitted
  exact forall_insert ⟨own ▸ caller, other ▸ callee⟩ h

private theorem removeEdges (h : db.Anchored) (p : Int → EdgeRow → Bool) :
    (db.removeEdges p).2.Anchored :=
  h.of_le (fun _ _ held => (removeWhere_eq_some.mp held).1) fun _ _ _ _ _ _ _ mem => mem

/-- Symbols are removed that no edge has as its end. -/
theorem removeSymbols (h : db.Anchored) {p : Int → SymbolRow → Bool}
    (loose : ∀ (n : Int) (e : EdgeRow), db.edges[n]? = some e → ∀ v ∈ [e.caller, e.callee],
      ∀ (id : Int) (row : SymbolRow), v.id? = some id → db.symbols[id]? = some row →
        p id row = false) : (db.removeSymbols p).2.Anchored := by
  refine h.of_le (fun _ _ held => held) fun n e held v isEnd id own mem => ?_
  obtain ⟨row, stored⟩ := Option.isSome_iff_exists.mp (ExtTreeMap.mem_iff_isSome_getElem?.mp mem)
  rw [ExtTreeMap.mem_iff_isSome_getElem?, Option.isSome_iff_exists]
  exact ⟨row, removeWhere_eq_some.mpr ⟨stored, loose n e held v isEnd id row own stored⟩⟩

end Anchored

end Database

/-- Other tables do not matter. -/
theorem Database.Anchored.ofGraph : Database.OfGraph Database.Anchored where
  bare := .of_edges_empty rfl
  same _ _ h symbols edges :=
    h.of_le (fun _ _ held => edges ▸ held) fun _ _ _ _ _ _ _ mem => symbols ▸ mem

/-! ## Operations -/

namespace Graph

private theorem insertSymbol_anchored (d : Symbol.Draft) :
    (insertSymbol d : Action ω Int).Maintains (Throughout Database.Anchored) :=
  Database.Anchored.ofGraph.updateAndCommit _ _ fun _ _ _ h inserted => h.insertSymbol inserted

private theorem insertEdge_anchored (h : w.Throughout Database.Anchored) {d : Edge.Draft}
    {db : Database}
    {disk : Disk} (shows : w.Shows db disk) (caller : (db.fileOf? d.caller.numeric).isSome)
    (callee : (db.fileOf? d.callee.numeric).isSome) :
    ((insertEdge d).runIn w).2.Throughout Database.Anchored := by
  refine Database.Anchored.ofGraph.upheld.updateAndCommit_from _ _ h
    fun db id after shown inserted => ?_
  rw [shows.1] at shown
  cases shown
  exact Throughout.admits fun h => h.insertEdge caller callee inserted

private theorem removeEdges_anchored (statement : Statement) (values : List Value)
    (p : Database → Int → EdgeRow → Bool) :
    (updateAndCommit statement values fun db => .ok (db.removeEdges (p db)) :
      Action ω Nat).Maintains (Throughout Database.Anchored) := by
  refine Database.Anchored.ofGraph.updateAndCommit _ _ fun db _ db' h removed => ?_
  cases removed
  exact h.removeEdges (p db)

private theorem clearEdges_anchored :
    (clearEdges : Action ω Unit).Maintains (Throughout Database.Anchored) := by
  refine Database.Anchored.ofGraph.updateAndCommit _ _ fun db _ db' _ cleared => ?_
  cases cleared
  exact .of_edges_empty rfl

private theorem anchored_after {α β : Type} {first next : Statement} {values values' : List Value}
    {before : Database → α × Database} {write : Database → β × Database} {a : α} {w₁ : World ω}
    (run : (updateAndCommit first values fun db => .ok (before db)).runIn w = (.ok a, w₁))
    (h : w₁.Throughout Database.Anchored)
    (keeps : ∀ db, (before db).2.Anchored → (write (before db).2).2.Anchored) :
    ((updateAndCommit next values' fun db => .ok (write db)).runIn w₁).2.Throughout
      Database.Anchored := by
  obtain ⟨db, left, _, made, isOpen⟩ := updateAndCommit_leaves _ _ _ _ a w₁ run
  obtain rfl : (before db).2 = left := congrArg Prod.snd (Except.ok.inj made)
  refine Database.Anchored.ofGraph.upheld.updateAndCommit_from _ _ h
    fun shown b after isShown written => ?_
  rw [runIn_tables isOpen] at isShown
  cases isShown
  obtain rfl : (write (before db).2).2 = after := congrArg Prod.snd (Except.ok.inj written)
  exact Throughout.admits (keeps db)

/-- The edges that touch symbols of the file are deleted before its symbols. -/
theorem deleteFile_anchored (path : Path) :
    (deleteFile path : Action ω Unit).Maintains (Throughout Database.Anchored) := by
  intro w h
  refine Maintains.bind_of_run (removeEdges_anchored _ _ _ w h) fun _ w₁ run h₁ => ?_
  refine Maintains.bind_of_run (anchored_after run h₁ fun db h => ?_) fun _ w₂ _ =>
    deleteFileRecord_maintains Database.Anchored.ofGraph path w₂
  refine h.removeSymbols fun n e held v isEnd id row own stored => ?_
  obtain ⟨_, untouched⟩ := Database.removeWhere_eq_some.mp held
  rw [Bool.or_eq_false_iff] at untouched
  have none : db.isSymbolOf path.toString v = false := by
    rcases List.mem_pair.mp isEnd with rfl | rfl
    · exact untouched.1
    · exact untouched.2
  have same : db.symbols[id]? = some row := stored
  rw [Database.isSymbolOf, own, Option.bind_some, same] at none
  exact none

/-- The edges that touch the symbol are deleted before it. -/
theorem deleteSymbolWithEdges_anchored (id : Int) :
    (deleteSymbolWithEdges id : Action ω Unit).Maintains (Throughout Database.Anchored) := by
  intro w h
  refine Maintains.bind_of_run (removeEdges_anchored _ _ _ w h) fun _ w₁ run h₁ => ?_
  refine Maintains.bind_of_run (Maintains.bind_of_run (anchored_after run h₁ fun db h => ?_)
    fun _ _ _ h => h) fun _ _ _ h => h
  refine h.removeSymbols fun n e held v isEnd k row own _ => ?_
  obtain ⟨_, untouched⟩ := Database.removeWhere_eq_some.mp held
  rw [Bool.or_eq_false_iff] at untouched
  have other : (v.id? == some id) = false := by
    rcases List.mem_pair.mp isEnd with rfl | rfl
    · exact untouched.1
    · exact untouched.2
  rw [own] at other
  exact other

end Graph

/-- The edges are cleared before the symbols. -/
theorem clearStore_anchored :
    (clearStore : Action ω Unit).Maintains (Throughout Database.Anchored) := by
  refine .bind (MetricsStore.clear_maintains Database.Anchored.ofGraph) fun _ w h => ?_
  refine Maintains.bind_of_run (Graph.clearEdges_anchored w h) fun _ w₁ run h₁ => ?_
  refine Maintains.bind_of_run (Graph.anchored_after run h₁ fun db _ => ?_) fun _ w₂ _ =>
    Graph.clearFiles_maintains Database.Anchored.ofGraph w₂
  exact .of_edges_empty rfl

/-! ## Runs -/

/-- The change inserts no edge but one between symbols that are stored, and deletes no symbol but
together with the edges that touch it. -/
def Edit.Grounded (w : World ω) : Edit → Prop
  | insertEdge d => ∃ db disk, w.Shows db disk ∧
      (db.fileOf? d.caller.numeric).isSome ∧ (db.fileOf? d.callee.numeric).isSome
  | deleteSymbol _ | deleteSymbolsInFile _ | clearSymbols => False
  | _ => True

/-- Each of the changes is so where those before it lead to. -/
def Edit.AllGrounded (w : World ω) : List Edit → Prop
  | [] => True
  | edit :: edits => edit.Grounded w ∧ AllGrounded (edit.run.runIn w).2 edits

/-- The changes that a step makes are so. -/
def Step.Grounded (E : Engine ω) (w : World ω) : Step → Prop
  | edit e => e.Grounded w
  | backfill told => ∀ i n (v : World ω), Edit.AllGrounded v (told i n)
  | update path block => ∀ prior v, (E.entering path).runIn w = (.ok prior, v) →
      Edit.AllGrounded v block
  | close | refresh _ | refreshFiles _ | removal _ | enter _ => True

/-- The changes of each of the steps are so where the steps before it lead to. -/
def Step.AllGrounded (E : Engine ω) (w : World ω) : List Step → Prop
  | [] => True
  | step :: steps => step.Grounded E w ∧ AllGrounded E ((step.run E).runIn w).2 steps

private theorem Edit.run_anchored {edit : Edit} (h : w.Throughout Database.Anchored)
    (grounded : edit.Grounded w) : (edit.run.runIn w).2.Throughout Database.Anchored := by
  cases edit with
  | insertSymbol d => exact Maintains.bind (Graph.insertSymbol_anchored d) (fun _ => .pure _) w h
  | insertEdge d =>
    obtain ⟨db, disk, shows, caller, callee⟩ := grounded
    exact Maintains.bind_of_run (Graph.insertEdge_anchored h shows caller callee)
      fun _ _ _ h => h
  | deleteSymbol id => exact grounded.elim
  | deleteSymbolsInFile path => exact grounded.elim
  | clearSymbols => exact grounded.elim
  | deleteEdge id =>
    refine Maintains.bind (.bind (Graph.removeEdges_anchored _ _ _) fun _ => ?_) (fun _ => ?_) w h
    · exact .pure _
    · exact .pure _
  | deleteEdgesOfSymbol id =>
    exact Maintains.bind (Graph.removeEdges_anchored _ _ _) (fun _ => .pure _) w h
  | deleteEdgesOfFile path =>
    exact Maintains.bind (Graph.removeEdges_anchored _ _ _) (fun _ => .pure _) w h
  | clearEdges => exact Graph.clearEdges_anchored w h
  | recordFile path hash => exact Graph.recordFile_maintains Database.Anchored.ofGraph path hash w h
  | deleteFileRecord path =>
    exact Graph.deleteFileRecord_maintains Database.Anchored.ofGraph path w h
  | clearFiles => exact Graph.clearFiles_maintains Database.Anchored.ofGraph w h
  | deleteFile path => exact Graph.deleteFile_anchored path w h
  | deleteSymbolWithEdges id => exact Graph.deleteSymbolWithEdges_anchored id w h
  | clearStore => exact clearStore_anchored w h
  | disk d => exact Database.Anchored.ofGraph.upheld.same _ _ rfl rfl h
  | time clock stamp => exact Database.Anchored.ofGraph.upheld.same _ _ rfl rfl h

private theorem Edit.each_of_allGrounded {edits : List Edit} (grounded : AllGrounded w edits) :
    Each Grounded w edits := by
  induction edits generalizing w with
  | nil => trivial
  | cons edit edits ih => exact ⟨grounded.1, ih grounded.2⟩

/-- The deletion of a removal is made of the edges first. -/
theorem Removal.deletion_anchored (removal : Removal) :
    (removal.deletion : Action ω Unit).Maintains (Throughout Database.Anchored) := by
  cases removal with
  | file path => exact Graph.deleteFile_anchored path
  | symbol id => exact Graph.deleteSymbolWithEdges_anchored id

namespace Step

private theorem each_of_grounded {step : Step} (grounded : step.Grounded E w) :
    step.Each Edit.Grounded E w := by
  cases step with
  | edit e => exact grounded
  | backfill told => exact fun i n v => Edit.each_of_allGrounded (grounded i n v)
  | update path block =>
    exact fun prior v entered => Edit.each_of_allGrounded (grounded prior v entered)
  | close | refresh _ | refreshFiles _ | removal _ | enter _ => trivial

private theorem run_anchored (plain : E.loader = .plain root) {step : Step}
    (h : w.Throughout Database.Anchored) (grounded : step.Grounded E w) :
    ((step.run E).runIn w).2.Throughout Database.Anchored :=
  run_each (fun _ edit h grounded => edit.run_anchored h grounded) Database.Anchored.ofGraph.kept
    plain (fun _ h db held => h db (.of_closing held)) Removal.deletion_anchored h
    (each_of_grounded grounded)

end Step

/-- What such steps lead to is anchored again. -/
theorem World.Throughout.through (plain : E.loader = .plain root)
    (h : w.Throughout Database.Anchored) {steps : List Step}
    (grounded : Step.AllGrounded E w steps) :
    (w.through E steps).Throughout Database.Anchored := by
  induction steps generalizing w with
  | nil => exact h
  | cons step steps ih => exact ih (step.run_anchored plain h grounded.1) grounded.2

/-! ## What a deletion takes -/

/-- The text of the file whose record a removal takes away. -/
def Removal.record? : Removal → Option String
  | file path => some path.toString
  | symbol _ => none

/-- Of the tables are left all symbols but those that the removal takes away, all edges but those
that touch one of these, all records but that of the file, and everything else. -/
structure Removal.Leaves (removal : Removal) (db db' : Database) : Prop where
  symbols : ∀ id : Int, db'.symbols[id]? = if removal.takes db id then none else db.symbols[id]?
  edges : ∀ n : Int, db'.edges[n]? = (db.edges[n]?).filter fun e =>
    !(removal.takesEnd db e.caller || removal.takesEnd db e.callee)
  files : ∀ text : String,
    db'.files[text]? = if removal.record? = some text then none else db.files[text]?
  others : db' = { db with symbols := db'.symbols, edges := db'.edges, files := db'.files }

namespace Removal

private theorem leaves_without (removal : Removal) (db : Database) :
    removal.Leaves db (db.without removal) := by
  refine ⟨symbols_without removal, fun n => ExtTreeMap.getElem?_filter', fun text => ?_, rfl⟩
  cases removal with
  | file path =>
    change (db.files.erase path.toString)[text]? = _
    rw [ExtTreeMap.getElem?_erase]
    simp [record?]
  | symbol id => rfl

variable {db : Database} {disk : Disk}

/-- A deletion that gives a value leaves all but what it takes away. -/
theorem deletion_leaves (removal : Removal) (shows : w.Shows db disk) :
    removal.deletion.Ensures w fun _ w' => ∃ db', w'.Shows db' disk ∧ removal.Leaves db db' :=
  (removal.deletion_shows shows).mono fun _ _ left => ⟨_, left, removal.leaves_without db⟩

/-- A deletion gives a value where the tables may be written and a column can hold the id. -/
theorem deletion_returns (removal : Removal) (serves : w.Serves db disk) (fits : removal.Fits) :
    removal.deletion.Succeeds w fun _ _ => True := by
  obtain ⟨c, o, opened, ready, _⟩ := serves
  rw [Action.Succeeds, removal.opens_deletion w o c opened]
  exact (removal.deletion_succeeds fits ready).mono fun _ _ _ => trivial

end Removal

namespace Step

/-- However a run of such steps from a graph without edges goes, all tables that there are at its
end are anchored. And a deletion that gives a value leaves all but what it takes away; it gives one
where the tables may be written and a column can hold the id. -/
theorem anchored (plain : E.loader = .plain root) (empty : ∀ db, w.Holds db → db.edges = ∅)
    {steps : List Step} (grounded : AllGrounded E w steps) :
    (∀ db, (w.through E steps).Holds db → db.Anchored) ∧
    ∀ (removal : Removal) (v : World ω) (db : Database) (disk : Disk), v.Shows db disk →
      (removal.deletion.Ensures v fun _ v' => ∃ db', v'.Shows db' disk ∧ removal.Leaves db db') ∧
      (v.Serves db disk → removal.Fits → removal.deletion.Succeeds v fun _ _ => True) := by
  have start : w.Throughout Database.Anchored := fun db held => .of_edges_empty (empty db held)
  refine ⟨start.through plain grounded, fun removal v db disk shows => ⟨?_, ?_⟩⟩
  · exact removal.deletion_leaves shows
  · exact removal.deletion_returns

end Step

namespace Step

/-! Two functions are inserted into an empty repository, and then a call between them. -/

/-- The three steps of this run. -/
def sampleLinking : List Step :=
  [.edit (.insertSymbol (Sample.offered "f" "a")), .edit (.insertSymbol (Sample.offered "g" "c")),
    .edit (.insertEdge Sample.offeredCall)]

/-- A statement that is run for its effect leaves the tables that its write makes. -/
theorem ready_after {values : List Value} {statement : Statement} {id : Int}
    {write : Database → Except DatabaseFault (Int × Database)} {db db' : Database}
    (ready : w.Ready db) (ordinary : statement.Ordinary) (fit : ∀ v ∈ values, fits v = true)
    (written : write db = .ok (id, db')) (kept : db'.dropped = db.dropped) :
    ((do let _ ← updateAndCommit statement values write : Action ω Unit).runIn w).2.Ready db' := by
  obtain ⟨_, w', run, left⟩ := updateAndCommit_succeeds ready ordinary fit written kept
  rw [runIn_bind_of_ok run]
  exact left

private theorem sampleLinking_grounded :
    AllGrounded Sample.engine (Sample.world {}) sampleLinking ∧
      ((Sample.world {}).through Sample.engine sampleLinking).Ready Sample.linked := by
  have admitted : StoredRow.admit SymbolRow (Sample.offered "g" "c").values =
      .ok (Sample.function "g" "c") := by decide +kernel
  have first : (((Step.edit (.insertSymbol (Sample.offered "f" "a"))).run Sample.engine).runIn
      (Sample.world {})).2.Ready Sample.inserted :=
    ready_after (Sample.world_ready rfl) ⟨rfl, rfl⟩ (Sample.fits_offered "f" "a")
      Sample.insertSymbol_offered rfl
  have second : (((Step.edit (.insertSymbol (Sample.offered "g" "c"))).run Sample.engine).runIn
      (((Step.edit (.insertSymbol (Sample.offered "f" "a"))).run Sample.engine).runIn
        (Sample.world {})).2).2.Ready (Sample.insertedIn "c") :=
    ready_after first ⟨rfl, rfl⟩ (Sample.fits_offered "g" "c")
      (Sample.insertSymbol_next admitted) rfl
  refine ⟨⟨trivial, trivial, ⟨_, _, second.isOpen.shows, ?_, ?_⟩, trivial⟩, ?_⟩
  · decide +kernel
  · decide +kernel
  · exact ready_after second ⟨rfl, rfl⟩ (by decide) Sample.insertEdge_offered rfl

private theorem sampleLinking_empty : ∀ db, (Sample.world {}).Holds db → db.edges = ∅ := by
  intro db held
  rcases Sample.eq_of_holds held with rfl | rfl
  · rfl
  · rfl

/-- Linked symbols and an edge are stored by a run, and a deletion takes away what leads to its
symbol. -/
theorem sample_anchored :
    Sample.linked.edges[(1 : Int)]?.isSome ∧ Sample.linked.Anchored ∧
      ∃ v' db' disk, (Removal.symbol 1).deletion.runIn
          ((Sample.world {}).through Sample.engine sampleLinking) = (.ok (), v') ∧
        v'.Shows db' disk ∧ (Removal.symbol 1).Leaves Sample.linked db' := by
  obtain ⟨grounded, ready⟩ := sampleLinking_grounded
  obtain ⟨kept, deletes⟩ := anchored (E := Sample.engine) rfl sampleLinking_empty grounded
  obtain ⟨c, hc, tables⟩ := ready.isOpen
  obtain ⟨leaves, returns⟩ := deletes (.symbol 1) _ _ _ ready.isOpen.shows
  obtain ⟨_, v', run, _⟩ := returns ready.serves Sample.removal_fits
  obtain ⟨db', shows, left⟩ := leaves _ v' run
  exact ⟨by decide +kernel, kept _ (.of_tables hc tables), v', db', _, run, shows, left⟩

end Step

end CodeGauge
