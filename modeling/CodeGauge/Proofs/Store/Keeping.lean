import CodeGauge.Proofs.Store.Faithful

/-!
# Statements keep tables true to their ids

Every statement leaves the tables true to the ids on record, the committed ones and the pending
ones, whether it succeeds or fails (`Action.Keeps`). Of a writing statement it must be known that
its write does so (`Action.Spares`): a change of the graph does anyway, and a batch does if each of
its symbol rows describes the symbol that its id was given to.
-/

open Std

namespace CodeGauge

variable {ω α : Type}

/-- Being true to the ids on record is an invariant of a repository. -/
theorem World.Faithful.upheld (R : Register) : Upheld fun w : World ω => w.Faithful R where
  same _ _ databases repository h := h.of_same databases repository
  memory w file closed memory h := by
    have still : R.focus = none := h.focus_eq_none closed
    have bare : Database.bare.Faithful (R.given file) :=
      .empty (R.opens still (h.path ▸ memory) file) rfl rfl
    refine h.insert file bare fun c db hc => ?_
    rw [closed] at hc
    cases hc
  connects w c closed fresh h := by
    refine ⟨h.path, h.stored, fun c' db hc written => ?_, fun file on => ?_⟩
    · cases hc
      rw [fresh] at written
      cases written
    · rw [h.focus_eq_none closed] at on
      cases on
  completes w file db committed h := by
    have faithful := h.stored file
    rw [World.stored_of_committed committed] at faithful
    refine h.insert file ⟨faithful.given, faithful.symbols, faithful.rows⟩ ?_
    intro c db' hc written same
    have old := h.pending c db' hc written
    rw [same, World.stored_of_committed committed] at old
    exact old
  remembers _ _ file transaction h := h.onConnection file transaction
  commits w c db hc written h := by
    have faithful := (h.pending c db hc written).mono fun _ _ => .inl
    refine h.insert c.file faithful fun c' db' hc' written' _ => ?_
    rw [hc] at hc'
    cases hc'
    rw [written] at written'
    cases written'
    exact faithful.own

namespace Action

variable {R : Register}

/-- However it ends, the action leaves all tables true to the ids on record. -/
def Keeps (R : Register) (x : Action ω α) : Prop :=
  x.Maintains fun w => w.Faithful R

/-! ## Writing statements -/

/-- The write leaves tables true to the ids, if they were so to those on record. -/
def Spares (R : Register) (write : Database → Except DatabaseFault (α × Database)) : Prop :=
  ∀ (given : Int → SymbolRow → Prop) (db db' : Database) (a : α),
    (∀ id symbol, R.known id symbol → given id symbol) → db.Faithful given →
      write db = .ok (a, db') → db'.Faithful given

/-- A change of the graph may be written. -/
theorem Spares.of_later {write : Database → Except DatabaseFault (α × Database)}
    (later : ∀ db db' a, write db = .ok (a, db') → db.Later db') : Spares R write :=
  fun _ db db' a _ h run => h.later (later db db' a run)

/-- What such a write makes may become pending. -/
theorem Spares.admits {write : Database → Except DatabaseFault (α × Database)}
    (spares : Spares R write) {before after : Database} {a : α}
    (written : write before = .ok (a, after)) :
    World.Admits (fun w : World ω => w.Faithful R) before after := by
  intro w c hc shown h
  refine h.write hc (spares _ before after a (fun id symbol told => ?_) (h.tables hc shown) written)
    none
  obtain ⟨file, on, given⟩ := told
  obtain ⟨c', hc', rfl⟩ := h.focus file on
  rw [hc] at hc'
  cases hc'
  exact .inl given

private theorem update_keeps (statement : Statement) (values : List Value)
    {write : Database → Except DatabaseFault (α × Database)} (spares : Spares R write) :
    Keeps R (update statement values write : Action ω α) :=
  (World.Faithful.upheld R).update _ _ fun _ _ _ => spares.admits

private theorem updateAndCommit_keeps (statement : Statement) (values : List Value)
    {write : Database → Except DatabaseFault (α × Database)} (spares : Spares R write) :
    Keeps R (updateAndCommit statement values write : Action ω α) :=
  (World.Faithful.upheld R).updateAndCommit _ _ fun _ _ _ => spares.admits

end Action

open CodeGauge.Action

variable {R : Register}

/-! ## The graph -/

namespace Graph

/-- To insert a symbol keeps the rows faithful, since its id is new. -/
theorem insertSymbol_keeps (d : Symbol.Draft) : Keeps R (insertSymbol d : Action ω Int) :=
  updateAndCommit_keeps _ _ (.of_later fun _ _ _ inserted => .insertSymbol inserted)

/-- To insert an edge keeps the rows faithful. -/
theorem insertEdge_keeps (d : Edge.Draft) : Keeps R (insertEdge d : Action ω Int) := by
  refine updateAndCommit_keeps _ _ (.of_later fun db db' a inserted => ?_)
  obtain ⟨_, _, inserted⟩ := Except.bind_eq_ok.mp inserted
  obtain ⟨_, _, inserted⟩ := Except.bind_eq_ok.mp inserted
  cases inserted
  exact .of_same rfl rfl fun _ _ held => held

/-- To record a file keeps the rows faithful. -/
theorem recordFile_keeps (path : Path) (hash : Option String) :
    Keeps R (recordFile path hash : Action ω Unit) := by
  refine .bind .get fun w => updateAndCommit_keeps _ _ (.of_later fun db db' a recorded => ?_)
  obtain ⟨_, _, recorded⟩ := Except.bind_eq_ok.mp recorded
  cases recorded
  exact .of_same rfl rfl fun _ _ held => held

private theorem removing_keeps (statement : Statement) (values : List Value)
    (p : Database → Int → SymbolRow → Bool) :
    Keeps R (updateAndCommit statement values fun db => .ok (db.removeSymbols (p db)) :
      Action ω Nat) := by
  refine updateAndCommit_keeps _ _ (.of_later fun db db' a removed => ?_)
  cases removed
  exact .removeSymbols _

private theorem sparing_keeps (statement : Statement) (values : List Value)
    {write : Database → α × Database} (last : ∀ db, (write db).2.lastSymbol = db.lastSymbol)
    (symbols : ∀ db, (write db).2.symbols = db.symbols)
    (rows : ∀ db, (write db).2.symbolMetrics = db.symbolMetrics) :
    Keeps R (updateAndCommit statement values fun db => .ok (write db) : Action ω α) := by
  refine updateAndCommit_keeps _ _ (.of_later fun db db' a written => ?_)
  have made : write db = (a, db') := Except.ok.inj written
  have same : (write db).2 = db' := by rw [made]
  rw [← same]
  exact .of_same (last db) (symbols db) fun id row held => rows db ▸ held

/-- To delete a symbol keeps the rows faithful. -/
theorem deleteSymbol_keeps (id : Int) : Keeps R (deleteSymbol id : Action ω Bool) :=
  .bind (removing_keeps _ _ _) fun _ => .pure _

/-- To delete a file's symbols keeps the rows faithful. -/
theorem deleteSymbolsInFile_keeps (path : Path) :
    Keeps R (deleteSymbolsInFile path : Action ω Nat) :=
  removing_keeps _ _ _

/-- To clear the symbols keeps the rows faithful. -/
theorem clearSymbols_keeps : Keeps R (clearSymbols : Action ω Unit) := by
  refine updateAndCommit_keeps _ _ (.of_later fun db db' a cleared => ?_)
  cases cleared
  exact .clearSymbols

/-- To delete an edge keeps the rows faithful. -/
theorem deleteEdge_keeps (id : Int) : Keeps R (deleteEdge id : Action ω Bool) :=
  .bind (sparing_keeps _ _ (fun _ => rfl) (fun _ => rfl) fun _ => rfl) fun _ => .pure _

/-- To delete a symbol's edges keeps the rows faithful. -/
theorem deleteEdgesOfSymbol_keeps (id : Int) :
    Keeps R (deleteEdgesOfSymbol id : Action ω Nat) :=
  sparing_keeps _ _ (fun _ => rfl) (fun _ => rfl) fun _ => rfl

/-- To delete a file's edges keeps the rows faithful. -/
theorem deleteEdgesOfFile_keeps (path : Path) :
    Keeps R (deleteEdgesOfFile path : Action ω Nat) :=
  sparing_keeps _ _ (fun _ => rfl) (fun _ => rfl) fun _ => rfl

/-- To clear the edges keeps the rows faithful. -/
theorem clearEdges_keeps : Keeps R (clearEdges : Action ω Unit) :=
  sparing_keeps _ _ (fun _ => rfl) (fun _ => rfl) fun _ => rfl

/-- To forget a file's record keeps the rows faithful. -/
theorem deleteFileRecord_keeps (path : Path) :
    Keeps R (deleteFileRecord path : Action ω Unit) :=
  sparing_keeps _ _ (fun _ => rfl) (fun _ => rfl) fun _ => rfl

/-- To forget all records keeps the rows faithful. -/
theorem clearFiles_keeps : Keeps R (clearFiles : Action ω Unit) :=
  sparing_keeps _ _ (fun _ => rfl) (fun _ => rfl) fun _ => rfl

/-- To delete a file keeps the rows faithful. -/
theorem deleteFile_keeps (path : Path) : Keeps R (deleteFile path : Action ω Unit) :=
  .bind (deleteEdgesOfFile_keeps path) fun _ => .bind (deleteSymbolsInFile_keeps path) fun _ =>
    deleteFileRecord_keeps path

/-- To delete a symbol with its edges keeps the rows faithful. -/
theorem deleteSymbolWithEdges_keeps (id : Int) :
    Keeps R (deleteSymbolWithEdges id : Action ω Unit) :=
  .bind (deleteEdgesOfSymbol_keeps id) fun _ => .bind (deleteSymbol_keeps id) fun _ => .pure _

end Graph

/-! ## The metrics -/

namespace MetricsStore

private theorem sheds : World.Sheds fun w : World ω => w.Faithful R := by
  have admits {before after : Database} (later : before.Later after) :
      World.Admits (fun w : World ω => w.Faithful R) before after := by
    intro w c hc shown h
    exact h.write hc ((h.tables hc shown).later later) none
  constructor
  · exact fun db id => admits (.removeSymbolMetrics id)
  · exact fun db file => admits (.removeSymbolMetricsInFile file)
  · exact fun db file => admits (.of_same rfl rfl fun _ _ held => held)

/-- A batch may be applied if each of its symbol rows describes the symbol that its id was given
to. -/
theorem apply_keeps {b : Batch} (tells : ∀ d ∈ b.symbolRows, d.Tells R.known) :
    Keeps R (apply b : Action ω Unit) := by
  refine apply_maintains (World.Faithful.upheld R) sheds ?_ ?_
  · intro row _ score before after _ put
    have later : Spares R fun db => db.putFileMetrics row score := by
      refine .of_later fun db db' a put => ?_
      obtain ⟨_, _, put⟩ := Except.bind_eq_ok.mp put
      cases put
      exact .of_same rfl rfl fun _ _ held => held
    exact later.admits put
  · intro d mem before after put
    have described : Spares R fun db => db.putSymbolMetrics d := by
      intro given db db' a known h put
      obtain ⟨id, symbol, hid, told, describes⟩ := tells d mem
      exact h.putSymbolMetrics ⟨id, symbol, hid, known id symbol told, describes⟩ put
    exact described.admits put

private theorem clear_keeps : Keeps R (clear : Action ω Unit) := by
  refine .bind (update_keeps _ _ ?_) fun _ => updateAndCommit_keeps _ _ ?_
  · refine .of_later fun db db' a cleared => ?_
    cases cleared
    refine .of_same rfl rfl fun id row held => ?_
    simp at held
  · refine .of_later fun db db' a cleared => ?_
    cases cleared
    exact .of_same rfl rfl fun _ _ held => held

end MetricsStore

/-- To clear the store keeps the rows faithful. -/
theorem clearStore_keeps : Keeps R (clearStore : Action ω Unit) :=
  .bind MetricsStore.clear_keeps fun _ => .bind Graph.clearEdges_keeps fun _ =>
    .bind Graph.clearSymbols_keeps fun _ => Graph.clearFiles_keeps

end CodeGauge
