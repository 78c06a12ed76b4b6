import CodeGauge.Proofs.Engine.Anchoring

/-!
# Parents and orphans

The parent of a symbol is an older symbol. Its column refers to the table of symbols, but the
reference is not enforced, and no deletion looks for the children of what it takes away. So in a run
a parent can only get lost in one way: a deletion took it and left its child (`Step.linked`). A
deletion leaves no orphan exactly if it takes the children of all symbols that it takes.
-/

open Std

namespace CodeGauge

open CodeGauge.Action World

variable {ω : Type} {E : Engine ω} {w : World ω} {root : Path}

/-! ## Parents -/

namespace Database

/-- A symbol has no parent, or an older one that is stored, unless it is lost. -/
def LinkedBut (lost : Int → Int → Prop) (db : Database) : Prop :=
  ∀ (id : Int) (row : SymbolRow), db.symbols[id]? = some row →
    row.parent = .null ∨ ∃ p < id, row.parent.id? = some p ∧ (p ∈ db.symbols ∨ lost id p)

/-- A symbol has no parent, or an older one that is stored. -/
def Linked (db : Database) : Prop :=
  db.LinkedBut fun _ _ => False

/-- The symbol has the other one as its parent. -/
def IsChild (db : Database) (id p : Int) : Prop :=
  ∃ row, db.symbols[id]? = some row ∧ row.parent.id? = some p

variable {db db' : Database} {lost lost' : Int → Int → Prop}

namespace LinkedBut

private theorem of_symbols_empty (none : db.symbols = ∅) : db.LinkedBut lost := by
  intro id row stored
  simp [none] at stored

private theorem mono (h : db.LinkedBut lost) (le : ∀ id p, lost id p → lost' id p) :
    db.LinkedBut lost' := fun id row stored =>
  (h id row stored).imp_right fun ⟨p, older, own, there⟩ =>
    ⟨p, older, own, there.imp_right (le id p)⟩

/-- A symbol is inserted that has no parent, or one that is stored. -/
theorem insertSymbol (h : db.LinkedBut lost) {d : Symbol.Draft} {id : Int}
    (parent : d.parent = .null ∨ ∃ p, d.parent.numeric.id? = some p ∧ p ∈ db.symbols)
    (inserted : db.insertSymbol d.values = .ok (id, db')) : db'.LinkedBut lost := by
  obtain ⟨next, given, inserted⟩ := Except.bind_eq_ok.mp inserted
  obtain ⟨row, admitted, inserted⟩ := Except.bind_eq_ok.mp inserted
  cases inserted
  have kept : row.parent = d.parent.numeric := (SymbolRow.eq_of_admit admitted).2.2.2.2
  have still {p : Int} (mem : p ∈ db.symbols) : p ∈ db.symbols.insert id row :=
    ExtTreeMap.mem_insert.mpr (.inr mem)
  refine forall_insert ?_ fun k other stored => ?_
  · rw [kept]
    rcases parent with none | ⟨p, own, mem⟩
    · rw [none]
      exact .inl rfl
    · exact .inr ⟨p, lt_of_nextId given mem, own, .inl (still mem)⟩
  · exact (h k other stored).imp_right fun ⟨p, older, own, there⟩ =>
      ⟨p, older, own, there.imp_left still⟩

end LinkedBut

end Database

/-! ## What a deletion leaves -/

/-- Of the tables `db` the removal takes the stored parent `p` of the symbol `id` away and leaves
the symbol, and so it is with what is left of them. -/
structure Removal.Orphans (removal : Removal) (db db' : Database) (id p : Int) : Prop where
  child : db.IsChild id p
  parent : p ∈ db.symbols
  taken : removal.takes db p = true
  spared : removal.takes db id = false
  left : db'.IsChild id p
  lost : p ∉ db'.symbols

namespace Database

variable {db db' : Database} {lost : Int → Int → Prop}

/-- Of the symbols are left none, all, or all but those that the removal takes away. -/
def LeftBy (gone : Option Removal) (db db' : Database) : Prop :=
  db'.symbols = ∅ ∨ db'.symbols = db.symbols ∨
    ∀ id : Int, db'.symbols[id]? =
      if gone.any (·.takes db id) then none else db.symbols[id]?

/-- Whether a symbol is taken depends on nothing but the symbol. -/
theorem takes_congr {id : Int} (same : db'.symbols[id]? = db.symbols[id]?) (removal : Removal) :
    removal.takes db' id = removal.takes db id := by
  cases removal with
  | file path => rw [Removal.takes, Removal.takes, same]
  | symbol own => rfl

namespace LeftBy

variable {gone : Option Removal} {mid : Database}

private theorem refl (db : Database) : LeftBy gone db db :=
  .inr (.inl rfl)

private theorem of_symbols (same : db'.symbols = db.symbols) : LeftBy gone db db' :=
  .inr (.inl same)

private theorem trans (first : LeftBy gone db mid) (next : LeftBy gone mid db') :
    LeftBy gone db db' := by
  rcases next with none | same | left
  · exact .inl none
  · rw [LeftBy, same]
    exact first
  rcases first with none | same | before
  · refine .inl (ExtTreeMap.ext_getElem? fun id => ?_)
    rw [left, none]
    simp
  · refine .inr (.inr fun id => ?_)
    rw [left, same]
    simp only [takes_congr (congrArg (·[id]?) same)]
  · refine .inr (.inr fun id => ?_)
    rw [left, before]
    by_cases taken : gone.any (·.takes db id)
    · simp [taken]
    · have kept : mid.symbols[id]? = db.symbols[id]? := by rw [before, if_neg taken]
      simp only [takes_congr kept, taken]
      rfl

/-- Symbols are removed on one condition. -/
theorem removeSymbols (removal : Removal) {p : Int → SymbolRow → Bool}
    (takes : ∀ id row, db.symbols[id]? = some row → p id row = removal.takes db id) :
    LeftBy (some removal) db (db.removeSymbols p).2 := by
  refine .inr (.inr fun id => ?_)
  change (db.symbols.filter fun k a => !p k a)[id]? = _
  rw [ExtTreeMap.getElem?_filter', Option.any_some]
  cases stored : db.symbols[id]? with
  | none => simp
  | some row =>
    rw [← takes id row stored, Option.filter_some]
    cases p id row with
    | true => rfl
    | false => rfl

/-- Nobody loses a parent but the orphans that the removal makes. -/
theorem linkedBut (left : LeftBy gone db db') (h : db.LinkedBut lost)
    (orphans : ∀ removal id p, gone = some removal → removal.Orphans db db' id p → lost id p) :
    db'.LinkedBut lost := by
  rcases left with none | same | left
  · exact .of_symbols_empty none
  · rw [LinkedBut, same]
    exact h
  intro id row still
  have kept := left id
  rw [still] at kept
  split at kept
  · cases kept
  next spared =>
  refine (h id row kept.symm).imp_right ?_
  rintro ⟨p, older, own, there⟩
  refine ⟨p, older, own, there.elim (fun mem => ?_) .inr⟩
  have away := left p
  split at away
  next taken =>
    obtain ⟨removal, rfl, takes⟩ := (Option.any_eq_true _ _).mp taken
    refine .inr (orphans removal id p rfl
      ⟨⟨row, kept.symm, own⟩, mem, takes, by simpa using spared, ⟨row, still, own⟩, ?_⟩)
    rw [ExtTreeMap.mem_iff_isSome_getElem?, away]
    simp
  · refine .inl ?_
    rw [ExtTreeMap.mem_iff_isSome_getElem?, away]
    exact ExtTreeMap.mem_iff_isSome_getElem?.mp mem

end LeftBy

end Database

/-! ## Actions that spare symbols -/

/-- Empty tables have the property, and all tables keep it when no symbols go but all at once, or
those that the removal takes away. -/
structure Database.Sparing (gone : Option Removal) (J : Database → Prop) : Prop where
  bare : J .bare
  left : ∀ db db', J db → LeftBy gone db db' → J db'

section Sparing

variable {J : Database → Prop} {gone : Option Removal}

private theorem Database.Sparing.ofGraph (h : Sparing gone J) : OfGraph J :=
  ⟨h.bare, fun db db' held symbols _ => h.left db db' held (.of_symbols symbols)⟩

/-- A change other than an insertion takes no symbols away but all, or those that it deletes. -/
theorem Edit.Writes.leftBy {edit : Edit} {stamp : String} {before after : Database}
    (writes : edit.Writes stamp before after) (old : ∀ d, edit ≠ .insertSymbol d) :
    before.LeftBy edit.removal? after := by
  cases writes with
  | insertSymbol => exact absurd rfl (old _)
  | insertEdge inserted =>
    obtain ⟨_, _, inserted⟩ := Except.bind_eq_ok.mp inserted
    obtain ⟨_, _, inserted⟩ := Except.bind_eq_ok.mp inserted
    cases inserted
    exact .of_symbols rfl
  | recordFile recorded =>
    obtain ⟨_, _, recorded⟩ := Except.bind_eq_ok.mp recorded
    cases recorded
    exact .of_symbols rfl
  | removeSymbols own takes => exact own ▸ .removeSymbols _ takes
  | clearSymbols => exact .inl rfl
  | removeEdges | clearEdges | eraseFile | clearFiles | clearFileMetrics | clearSymbolMetrics =>
    exact .of_symbols rfl

private theorem Edit.run_spares {edit : Edit} (h : Database.Sparing edit.removal? J)
    (old : ∀ d, edit ≠ insertSymbol d) : (edit.run : Action ω Unit).Maintains (Throughout J) :=
  fun _ held => run_writes h.ofGraph.upheld held fun before after writes =>
    Throughout.admits fun held => h.left before after held (writes.leftBy old)

/-- The deletion of a removal takes no symbols away but those that the removal takes. -/
theorem Removal.deletion_spares (removal : Removal) (h : Database.Sparing (some removal) J) :
    (removal.deletion : Action ω Unit).Maintains (Throughout J) := by
  have own : removal.edit.removal? = some removal := by cases removal <;> rfl
  have old (d : Symbol.Draft) : removal.edit ≠ .insertSymbol d := by cases removal <;> nofun
  rw [removal.deletion_eq]
  exact Edit.run_spares (own ▸ h) old

/-! ## Runs -/

/-- The deletion of symbols that a step is. -/
def Step.removal? : Step → Option Removal
  | edit e => e.removal?
  | removal r => some r
  | _ => none

/-- A symbol is inserted without a parent or with a stored one. -/
def Edit.Kin (w : World ω) : Edit → Prop
  | insertSymbol d => d.parent = .null ∨ ∃ db disk p, w.Shows db disk ∧
      d.parent.numeric.id? = some p ∧ p ∈ db.symbols
  | _ => True

/-- So it is in a step, in the course of which nobody else changes the graph. -/
def Step.Kin (w : World ω) : Step → Prop
  | edit e => e.Kin w
  | backfill _ | update _ _ => False
  | _ => True

/-- Each of the steps is so where the steps before it lead to. -/
def Step.AllKin (E : Engine ω) (w : World ω) : List Step → Prop
  | [] => True
  | step :: steps => step.Kin w ∧ AllKin E ((step.run E).runIn w).2 steps

/-- The step is a deletion that takes the parent of a symbol away and leaves the symbol. -/
def Step.Orphans (E : Engine ω) (w : World ω) (step : Step) (id p : Int) : Prop :=
  ∃ removal db db', step.removal? = some removal ∧ w.Holds db ∧
    ((step.run E).runIn w).2.Holds db' ∧ removal.Orphans db db' id p

/-- One of the steps is, where the steps before it lead to. -/
def Step.Orphaned (E : Engine ω) (w : World ω) : List Step → Int → Int → Prop
  | [], _, _ => False
  | step :: steps, id, p =>
    step.Orphans E w id p ∨ Orphaned E ((step.run E).runIn w).2 steps id p

/-- A step other than an insertion takes no symbols away but all, or those that it deletes. -/
theorem Step.run_spares (plain : E.loader = .plain root) {step : Step}
    (h : Database.Sparing step.removal? J) (kin : step.Kin w)
    (old : ∀ d, step ≠ edit (.insertSymbol d)) : (step.run E).Maintains (Throughout J) := by
  cases step with
  | edit e => exact Edit.run_spares h fun d same => old d (congrArg edit same)
  | close => exact fun w held db there => held db (.of_closing there)
  | refresh r => exact .bind (r.run_kept h.ofGraph.kept plain) fun _ => .pure _
  | refreshFiles paths =>
    exact .bind (Engine.refreshFiles_kept h.ofGraph.kept plain paths) fun _ => .pure _
  | removal r =>
    exact .bind (r.run_kept h.ofGraph.kept plain (r.deletion_spares h)) fun _ => .pure _
  | backfill told => exact kin.elim
  | enter path => exact .bind (Engine.entering_kept h.ofGraph.kept plain path) fun _ => .pure _
  | update path block => exact kin.elim

end Sparing

/-! ## Links in a run -/

section Links

variable {lost : Int → Int → Prop}

private theorem Database.LinkedBut.upheld :
    Upheld (Throughout (Database.LinkedBut lost) : World ω → Prop) :=
  Throughout.upheld (.of_symbols_empty rfl) fun _ h => h

/-- The tables come of some that the world holds, but for what a removal takes away. -/
theorem World.sparing_left (w : World ω) (gone : Option Removal) :
    Database.Sparing gone fun db => ∃ base, w.Holds base ∧ base.LeftBy gone db where
  bare := ⟨w.stored 0, .inl ⟨0, rfl⟩, .inl rfl⟩
  left _ _ := fun ⟨base, held, left⟩ more => ⟨base, held, left.trans more⟩

/-- A step leaves no orphans but those that it makes. -/
theorem Step.run_linkedBut (plain : E.loader = .plain root) {step : Step}
    (h : w.Throughout (Database.LinkedBut lost)) (kin : step.Kin w) :
    ((step.run E).runIn w).2.Throughout
      (Database.LinkedBut fun id p => lost id p ∨ step.Orphans E w id p) := by
  by_cases new : ∃ d, step = .edit (.insertSymbol d)
  · obtain ⟨d, rfl⟩ := new
    have inserted : ((Graph.insertSymbol d).runIn w).2.Throughout (Database.LinkedBut lost) := by
      refine Database.LinkedBut.upheld.updateAndCommit_from _ _ h
        fun db id after shown inserted => ?_
      refine Throughout.admits fun h => h.insertSymbol (kin.imp_right ?_) inserted
      rintro ⟨other, disk, p, shows, own, mem⟩
      rw [shows.1] at shown
      cases shown
      exact ⟨p, own, mem⟩
    have run := Maintains.bind_of_run (f := fun _ => (pure () : Action ω Unit)) inserted
      fun _ _ _ h => h
    exact fun db held => (run db held).mono fun _ _ => .inl
  · have old (d : Symbol.Draft) (same : step = .edit (.insertSymbol d)) : False := new ⟨d, same⟩
    have left := Step.run_spares plain (w.sparing_left step.removal?) kin old w
      fun db held => ⟨db, held, .refl db⟩
    intro db held
    obtain ⟨base, there, left⟩ := left db held
    refine left.linkedBut ((h base there).mono fun _ _ => .inl) ?_
    exact fun removal id p same orphans => .inr ⟨removal, base, db, same, there, held, orphans⟩

/-- Steps leave no orphans but those that they make. -/
theorem Step.through_linkedBut (plain : E.loader = .plain root)
    (h : w.Throughout (Database.LinkedBut lost)) {steps : List Step} (kin : AllKin E w steps) :
    (w.through E steps).Throughout
      (Database.LinkedBut fun id p => lost id p ∨ Orphaned E w steps id p) := by
  induction steps generalizing w lost with
  | nil => exact fun db held => (h db held).mono fun _ _ => .inl
  | cons step steps ih =>
    have after := ih (step.run_linkedBut plain h kin.1) kin.2
    exact fun db held => (after db held).mono fun _ _ => or_assoc.mp

end Links

/-- A deletion of linked tables leaves them linked exactly if it takes the children of all symbols
that it takes. -/
theorem Removal.linked_iff {removal : Removal} {db db' : Database} (h : db.Linked)
    (left : ∀ id : Int,
      db'.symbols[id]? = if removal.takes db id then none else db.symbols[id]?) :
    db'.Linked ↔ ∀ id p, db.IsChild id p → removal.takes db p = true →
      removal.takes db id = true := by
  constructor
  · rintro linked id p ⟨row, stored, own⟩ taken
    by_contra spared
    have still : db'.symbols[id]? = some row := by rw [left, if_neg spared, stored]
    rcases linked id row still with none | ⟨q, _, own', there | lost⟩
    · rw [none] at own
      cases own
    · rw [own] at own'
      cases own'
      rw [ExtTreeMap.mem_iff_isSome_getElem?, left, if_pos taken] at there
      cases there
    · exact lost
  · intro whole
    have leftBy : db.LeftBy (some removal) db' := .inr (.inr left)
    refine leftBy.linkedBut h fun other id p same orphans => ?_
    cases same
    have taken := whole id p orphans.child orphans.taken
    rw [orphans.spared] at taken
    cases taken

namespace Step

/-- However a run from a graph without symbols goes in which symbols are inserted without a parent
or with a stored one, at its end each link of each symbol leads to an older symbol that is stored,
or to one that a deletion of the run took away without its child. And a deletion that gives a value
leaves linked tables linked exactly if it takes the children of all symbols that it takes; it gives
one where the tables may be written and a column can hold the id. -/
theorem linked (plain : E.loader = .plain root) (empty : ∀ db, w.Holds db → db.symbols = ∅)
    {steps : List Step} (kin : AllKin E w steps) :
    (∀ db, (w.through E steps).Holds db → db.LinkedBut (Orphaned E w steps)) ∧
    ∀ (removal : Removal) (v : World ω) (db : Database) (disk : Disk), v.Shows db disk →
      db.Linked →
      (removal.deletion.Ensures v fun _ v' => ∃ db', v'.Shows db' disk ∧
        (db'.Linked ↔ ∀ id p, db.IsChild id p → removal.takes db p = true →
          removal.takes db id = true)) ∧
      (v.Serves db disk → removal.Fits → removal.deletion.Succeeds v fun _ _ => True) := by
  have start : w.Throughout Database.Linked := fun db held => .of_symbols_empty (empty db held)
  refine ⟨fun db held => ?_, fun removal v db disk shows linked => ⟨?_, ?_⟩⟩
  · exact (through_linkedBut plain start kin db held).mono fun _ _ => (Or.resolve_left · id)
  · exact (removal.deletion_leaves shows).mono fun _ _ ⟨db', shows', left⟩ =>
      ⟨db', shows', removal.linked_iff linked left.symbols⟩
  · exact removal.deletion_returns

/-! A function is inserted, and then another with the first as its parent. The first is deleted. -/

end Step

namespace Sample

/-- A function of the third file, with the function of the first file as its parent. -/
def offeredChild : Symbol.Draft :=
  { offered "g" "c" with parent := .int 1 }

/-- The tables with both functions. -/
def family : Database where
  symbols := inserted.symbols.insert 2 { function "g" "c" with parent := .int 1 }
  lastSymbol := 2

private theorem insertSymbol_offeredChild :
    inserted.insertSymbol offeredChild.values = .ok (2, family) :=
  insertSymbol_second (by decide +kernel)

end Sample

namespace Step

/-- The three steps of this run. -/
def sampleOrphaning : List Step :=
  [.edit (.insertSymbol (Sample.offered "f" "a")), .edit (.insertSymbol Sample.offeredChild),
    .edit (.deleteSymbolWithEdges 1)]

private theorem sampleOrphaning_kin :
    AllKin Sample.engine (Sample.world {}) sampleOrphaning ∧
      ((Sample.world {}).through Sample.engine sampleOrphaning).Holds
        (Sample.family.without (.symbol 1)) := by
  have first : (((Step.edit (.insertSymbol (Sample.offered "f" "a"))).run Sample.engine).runIn
      (Sample.world {})).2.Ready Sample.inserted :=
    ready_after (Sample.world_ready rfl) ⟨rfl, rfl⟩ (Sample.fits_offered "f" "a")
      Sample.insertSymbol_offered rfl
  have second : (((Step.edit (.insertSymbol Sample.offeredChild)).run Sample.engine).runIn
      (((Step.edit (.insertSymbol (Sample.offered "f" "a"))).run Sample.engine).runIn
        (Sample.world {})).2).2.Ready Sample.family :=
    ready_after first ⟨rfl, rfl⟩ (by decide) Sample.insertSymbol_offeredChild rfl
  refine ⟨⟨.inl rfl, .inr ⟨_, _, 1, first.isOpen.shows, rfl, ?_⟩, trivial, trivial⟩, ?_⟩
  · exact ExtTreeMap.mem_insert_self
  · obtain ⟨_, w', run, ready, _⟩ :=
      Removal.deletion_succeeds (.symbol 1) Sample.removal_fits second
    obtain ⟨c, hc, tables⟩ := ready.isOpen
    have last : (Sample.world {}).through Sample.engine sampleOrphaning = w' :=
      congrArg Prod.snd run
    rw [last]
    exact .of_tables hc tables

private theorem sampleOrphaning_empty :
    ∀ db, (Sample.world {}).Holds db → db.symbols = ∅ := by
  intro db held
  rcases Sample.eq_of_holds held with rfl | rfl
  · rfl
  · rfl

private theorem family_without :
    (Sample.family.without (.symbol 1)).symbols[(2 : Int)]? =
        some { Sample.function "g" "c" with parent := .int 1 } ∧
      (1 : Int) ∉ (Sample.family.without (.symbol 1)).symbols := by
  decide +kernel

private theorem family_linked : Sample.family.Linked := by
  have none : ({} : Database).Linked := .of_symbols_empty rfl
  have first : Sample.inserted.Linked := none.insertSymbol (.inl rfl) Sample.insertSymbol_offered
  refine first.insertSymbol (.inr ⟨1, rfl, ?_⟩) Sample.insertSymbol_offeredChild
  exact ExtTreeMap.mem_insert_self

private theorem family_childless (id : Int) : ¬Sample.family.IsChild id 2 := by
  rintro ⟨row, stored, own⟩
  have childless : ∀ (k : Int) (row : SymbolRow), Sample.family.symbols[k]? = some row →
      row.parent.id? ≠ some 2 :=
    Database.forall_insert (by decide) (Database.forall_insert (by decide) (by simp))
  exact childless id row stored own

/-- A symbol that is deleted before its child orphans it, and a deletion of the child mends the
links. -/
theorem sample_linked :
    Orphaned Sample.engine (Sample.world {}) sampleOrphaning 2 1 ∧
      ∃ v' db' disk, (Removal.symbol 2).deletion.runIn (Sample.world Sample.family) = (.ok (), v') ∧
        v'.Shows db' disk ∧ db'.Linked := by
  obtain ⟨kin, held⟩ := sampleOrphaning_kin
  obtain ⟨stored, lost⟩ := family_without
  obtain ⟨kept, deletes⟩ := linked (E := Sample.engine) rfl sampleOrphaning_empty kin
  constructor
  · rcases kept _ held 2 _ stored with none | ⟨p, _, own, there⟩
    · cases none
    · cases own
      exact there.resolve_left lost
  · obtain ⟨leaves, returns⟩ := deletes (.symbol 2) _ _ _ (Sample.world_shows _) family_linked
    obtain ⟨_, v', run, _⟩ := returns (Sample.world_serves rfl) (Removal.fits_symbol rfl)
    obtain ⟨db', shows, linked⟩ := leaves _ v' run
    refine ⟨v', db', _, run, shows, linked.mpr fun id p child taken => ?_⟩
    obtain rfl : p = 2 := by simpa [Removal.takes] using taken
    exact absurd child (family_childless id)

/-- Such a run can leave a link to a symbol that is not stored. -/
theorem exists_lost_parent :
    ∃ steps, AllKin Sample.engine (Sample.world {}) steps ∧
      (∀ db, (Sample.world {}).Holds db → db.symbols = ∅) ∧
      ∃ (db : Database) (id p : Int) (row : SymbolRow),
        ((Sample.world {}).through Sample.engine steps).Holds db ∧
          db.symbols[id]? = some row ∧ row.parent = .int p ∧ p ∉ db.symbols := by
  obtain ⟨kin, held⟩ := sampleOrphaning_kin
  obtain ⟨stored, lost⟩ := family_without
  exact ⟨sampleOrphaning, kin, sampleOrphaning_empty, _, 2, 1, _, held, stored, rfl, lost⟩

end Step

end CodeGauge
