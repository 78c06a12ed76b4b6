import CodeGauge.Proofs.Engine.Drift

/-!
# Invariants that calls keep

While nobody else writes, the calls of the engine write nothing but batches, apart from the deletion
that a removal makes. So they keep every invariant of the repository that all batches keep
(`World.Kept`). What else a step does to the tables is to make changes of its own, so a step keeps
such an invariant if these do (`Step.run_each`), and a change does if each of its writes may be made
(`Edit.run_writes`). A property of tables that depends on nothing but
their symbols and edges, and that empty tables have (`Database.OfGraph`), is such an invariant, and
it is kept by whatever writes to the other tables.
-/

open Std

namespace CodeGauge

open CodeGauge.Action World

variable {ω : Type} {E : Engine ω} {root : Path}

/-! ## Calls -/

/-- An invariant of the repository that every batch keeps. -/
structure World.Kept (I : World ω → Prop) : Prop where
  upheld : Upheld I
  applies : ∀ b, (MetricsStore.apply b : Action ω Unit).Maintains I

section Calls

variable {I : World ω → Prop} (kept : Kept I) (plain : E.loader = .plain root)
include kept plain

private theorem Loader.plain_kept : E.loader.Upholds (fun _ : Unit => I) fun _ _ => True :=
  plain ▸ Loader.plain_upholds kept.upheld

/-- A refresh keeps an invariant that every batch keeps. -/
theorem Refresh.run_kept (refresh : Refresh) : (refresh.run E).Maintains I :=
  refresh.run_maintains (fun _ => kept.upheld) (Loader.plain_kept kept plain)
    (fun _ _ b _ _ => kept.applies b) ()

/-- A removal keeps the invariant if its deletion does. -/
theorem Removal.run_kept (removal : Removal)
    (deletes : (removal.deletion : Action ω Unit).Maintains I) : (removal.run E).Maintains I :=
  removal.run_maintains (fun _ => kept.upheld) (Loader.plain_kept kept plain)
    (fun _ _ b _ _ => kept.applies b) (i := ()) deletes

namespace Engine

/-- Refreshes one after the other keep an invariant that every batch keeps. -/
theorem refreshFiles_kept (paths : List Path) : (E.refreshFiles paths).Maintains I :=
  .foldlM (fun _ path => .bind ((Refresh.file path ∅).run_kept kept plain) fun _ => .pure _) paths _

/-- To enter an update keeps an invariant of the repository. -/
theorem entering_kept (path : Path) : (E.entering path).Maintains I :=
  entering_maintains (Loader.plain_kept kept plain) path ()

/-- A backfill keeps the invariant if whoever it tells how far it is does. -/
theorem backfill_kept {notify : Nat → Nat → Action ω Unit}
    (told : ∀ m n, (notify m n).Maintains I) : (E.backfill notify).Maintains I :=
  backfill_maintains (fun _ => kept.upheld) (Loader.plain_kept kept plain)
    (fun _ _ b _ _ => kept.applies b) (fun _ => told) ()

end Engine

end Calls

/-! ## Changes -/

namespace Edit

/-- The deletion of symbols that a change is, with or without their edges. -/
def removal? : Edit → Option Removal
  | deleteSymbol id | deleteSymbolWithEdges id => some (.symbol id)
  | deleteSymbolsInFile path | deleteFile path => some (.file path)
  | _ => none

/-- What a write of the change may make of tables. A file is recorded at the time `stamp`. -/
inductive Writes (stamp : String) (before : Database) : Edit → Database → Prop
  | insertSymbol {d : Symbol.Draft} {id : Int} {after : Database}
    (inserted : before.insertSymbol d.values = .ok (id, after)) :
    Writes stamp before (insertSymbol d) after
  | insertEdge {d : Edge.Draft} {id : Int} {after : Database}
    (inserted : before.insertEdge d.values = .ok (id, after)) :
    Writes stamp before (insertEdge d) after
  | recordFile {path : Path} {hash : Option String} {after : Database}
    (recorded : before.recordFile path.toString stamp hash = .ok ((), after)) :
    Writes stamp before (recordFile path hash) after
  | removeSymbols {edit : Edit} {removal : Removal} {p : Int → SymbolRow → Bool}
    (own : edit.removal? = some removal)
    (takes : ∀ id row, before.symbols[id]? = some row → p id row = removal.takes before id) :
    Writes stamp before edit (before.removeSymbols p).2
  | clearSymbols {edit : Edit} : Writes stamp before edit { before with symbols := ∅ }
  | removeEdges {edit : Edit} (p : Int → EdgeRow → Bool) :
    Writes stamp before edit (before.removeEdges p).2
  | clearEdges {edit : Edit} : Writes stamp before edit { before with edges := ∅ }
  | eraseFile {edit : Edit} (file : String) :
    Writes stamp before edit { before with files := before.files.erase file }
  | clearFiles {edit : Edit} :
    Writes stamp before edit { before with files := ∅, pathlessFiles := [] }
  | clearFileMetrics {edit : Edit} :
    Writes stamp before edit { before with fileMetrics := ∅, pathlessMetrics := [] }
  | clearSymbolMetrics {edit : Edit} : Writes stamp before edit { before with symbolMetrics := ∅ }

section Writes

variable {I : World ω → Prop} {edit : Edit} {stamp : String} (up : Upheld I)
  (admits : ∀ before after, edit.Writes stamp before after → Admits I before after)
include up admits

private theorem updates {α : Type} (statement : Statement) (values : List Value)
    {write : Database → Except DatabaseFault (α × Database)}
    (writes : ∀ before a after, write before = .ok (a, after) → edit.Writes stamp before after) :
    (updateAndCommit statement values write : Action ω α).Maintains I :=
  up.updateAndCommit _ _ fun before a after written =>
    admits before after (writes before a after written)

private theorem updatesTo {α : Type} (statement : Statement) (values : List Value)
    {write : Database → α × Database}
    (writes : ∀ before, edit.Writes stamp before (write before).2) :
    (updateAndCommit statement values fun db => .ok (write db) : Action ω α).Maintains I := by
  refine updates up admits _ _ fun before a after written => ?_
  have same : (write before).2 = after := congrArg Prod.snd (Except.ok.inj written)
  exact same ▸ writes before

private theorem removesEdges (statement : Statement) (values : List Value)
    (p : Database → Int → EdgeRow → Bool) :
    (updateAndCommit statement values fun db => .ok (db.removeEdges (p db)) :
      Action ω Nat).Maintains I :=
  updatesTo up admits _ _ fun before => .removeEdges (p before)

private theorem removesSymbol {id : Int} (own : edit.removal? = some (.symbol id)) :
    (Graph.deleteSymbol id : Action ω Bool).Maintains I :=
  .bind (updatesTo up admits _ _ fun _ => .removeSymbols own fun _ _ _ => rfl) fun _ => .pure _

private theorem removesSymbols {path : Path} (own : edit.removal? = some (.file path)) :
    (Graph.deleteSymbolsInFile path : Action ω Nat).Maintains I := by
  refine updatesTo up admits _ _ fun before => .removeSymbols own fun id row stored => ?_
  rw [Removal.takes, stored, Option.any_some]

private theorem erasesFile (path : Path) :
    (Graph.deleteFileRecord path : Action ω Unit).Maintains I :=
  updatesTo up admits _ _ fun _ => .eraseFile _

private theorem clearsEdges : (Graph.clearEdges : Action ω Unit).Maintains I :=
  updatesTo up admits _ _ fun _ => .clearEdges

private theorem clearsSymbols : (Graph.clearSymbols : Action ω Unit).Maintains I :=
  updatesTo up admits _ _ fun _ => .clearSymbols

private theorem clearsFiles : (Graph.clearFiles : Action ω Unit).Maintains I :=
  updatesTo up admits _ _ fun _ => .clearFiles

private theorem clearsMetrics : (MetricsStore.clear : Action ω Unit).Maintains I := by
  refine .bind (up.update _ _ fun before _ after cleared => admits before after ?_) fun _ =>
    updatesTo up admits _ _ fun _ => .clearFileMetrics
  cases cleared
  exact .clearSymbolMetrics

end Writes

/-- A change keeps an invariant of the repository if each of its writes may be made. -/
theorem run_writes {I : World ω → Prop} (up : Upheld I) {edit : Edit} {w : World ω} (h : I w)
    (admits : ∀ before after, edit.Writes w.stamp before after → Admits I before after) :
    I (edit.run.runIn w).2 := by
  cases edit with
  | insertSymbol d =>
    exact Maintains.bind (updates up admits _ _ fun _ _ _ => .insertSymbol) (fun _ => .pure _) w h
  | insertEdge d =>
    exact Maintains.bind (updates up admits _ _ fun _ _ _ => .insertEdge) (fun _ => .pure _) w h
  | deleteSymbol id => exact Maintains.bind (removesSymbol up admits rfl) (fun _ => .pure _) w h
  | deleteSymbolsInFile path =>
    exact Maintains.bind (removesSymbols up admits rfl) (fun _ => .pure _) w h
  | clearSymbols => exact clearsSymbols up admits w h
  | deleteEdge id =>
    exact Maintains.bind (.bind (removesEdges up admits _ _ _) fun _ => .pure _)
      (fun _ => .pure _) w h
  | deleteEdgesOfSymbol id =>
    exact Maintains.bind (removesEdges up admits _ _ _) (fun _ => .pure _) w h
  | deleteEdgesOfFile path =>
    exact Maintains.bind (removesEdges up admits _ _ _) (fun _ => .pure _) w h
  | clearEdges => exact clearsEdges up admits w h
  | recordFile path hash =>
    refine Maintains.bind_of_run (x := get) h fun v _ got _ => ?_
    cases got
    exact updates up admits _ _ (fun _ _ _ => .recordFile) w h
  | deleteFileRecord path => exact erasesFile up admits path w h
  | clearFiles => exact clearsFiles up admits w h
  | deleteFile path =>
    exact Maintains.bind (removesEdges up admits _ _ _) (fun _ =>
      .bind (removesSymbols up admits rfl) fun _ => erasesFile up admits path) w h
  | deleteSymbolWithEdges id =>
    exact Maintains.bind (removesEdges up admits _ _ _) (fun _ =>
      .bind (removesSymbol up admits rfl) fun _ => .pure _) w h
  | clearStore =>
    exact Maintains.bind (clearsMetrics up admits) (fun _ =>
      .bind (clearsEdges up admits) fun _ => .bind (clearsSymbols up admits) fun _ =>
        clearsFiles up admits) w h
  | disk d => exact up.same w _ rfl rfl h
  | time clock stamp => exact up.same w _ rfl rfl h

end Edit

/-- The deletion of a removal as a change. -/
def Removal.edit : Removal → Edit
  | file path => .deleteFile path
  | symbol id => .deleteSymbolWithEdges id

/-- The deletion of a removal is an edit. -/
theorem Removal.deletion_eq (removal : Removal) :
    (removal.deletion : Action ω Unit) = removal.edit.run := by
  cases removal with
  | file path => rfl
  | symbol id => rfl

/-! ## Steps -/

section Steps

variable {P : World ω → Edit → Prop} {w : World ω}

/-- Each of the changes is as it has to be where those before it lead to. -/
def Edit.Each (P : World ω → Edit → Prop) (w : World ω) : List Edit → Prop
  | [] => True
  | edit :: edits => P w edit ∧ Each P (edit.run.runIn w).2 edits

/-- So are the changes that a step makes. -/
def Step.Each (P : World ω → Edit → Prop) (E : Engine ω) (w : World ω) : Step → Prop
  | edit e => P w e
  | backfill told => ∀ i n (v : World ω), Edit.Each P v (told i n)
  | update path block => ∀ prior v, (E.entering path).runIn w = (.ok prior, v) →
      Edit.Each P v block
  | close | refresh _ | refreshFiles _ | removal _ | enter _ => True

variable {I : World ω → Prop} (edits : ∀ w edit, I w → P w edit → I (edit.run.runIn w).2)
include edits

/-- Changes that are as they have to be keep the invariant one after the other. -/
theorem Edit.runAll_each {all : List Edit} (h : I w) (each : Edit.Each P w all) :
    I ((Edit.runAll all).runIn w).2 := by
  induction all generalizing w with
  | nil => exact h
  | cons edit all ih => exact ih (edits w edit h each.1) each.2

/-- A step keeps the invariant if closing, the deletion of a removal and the changes that it makes
do. -/
theorem Step.run_each (kept : Kept I) (plain : E.loader = .plain root)
    (closes : ∀ w, I w → I w.closing)
    (deletes : ∀ removal : Removal, (removal.deletion : Action ω Unit).Maintains I) {step : Step}
    (h : I w) (each : step.Each P E w) : I ((step.run E).runIn w).2 := by
  cases step with
  | edit e => exact edits w e h each
  | close => exact closes w h
  | refresh r => exact Maintains.bind (r.run_kept kept plain) (fun _ => .pure _) w h
  | refreshFiles paths =>
    exact Maintains.bind (Engine.refreshFiles_kept kept plain paths) (fun _ => .pure _) w h
  | removal r => exact Maintains.bind (r.run_kept kept plain (deletes r)) (fun _ => .pure _) w h
  | backfill told =>
    refine Maintains.bind (Engine.backfill_kept kept plain fun i n v h => ?_) (fun _ => .pure _) w h
    exact Edit.runAll_each edits h (each i n v)
  | enter path =>
    exact Maintains.bind (Engine.entering_kept kept plain path) (fun _ => .pure _) w h
  | update path block =>
    rw [run, Engine.updatingFile_eq]
    refine Maintains.bind_of_run (Maintains.bind_of_run (Engine.entering_kept kept plain path w h)
      fun prior v entered h => ?_) fun _ _ _ h => h
    have blocked : I ((Edit.runAll block).outcome.runIn v).2 := by
      rw [runIn_outcome]
      exact Edit.runAll_each edits h (each prior v entered)
    refine Maintains.bind_of_run blocked fun _ v' _ => ?_
    exact Maintains.bind ((Refresh.file path prior).run_kept kept plain).outcome
      (fun _ => .pure _) v'

end Steps

/-! ## Properties of the graph alone -/

variable {J : Database → Prop}

/-- Empty tables have the property, and all tables with the symbols and edges of some that have
it. -/
structure Database.OfGraph (J : Database → Prop) : Prop where
  bare : J .bare
  same : ∀ db db', J db → db'.symbols = db.symbols → db'.edges = db.edges → J db'

variable (ofGraph : Database.OfGraph J)
include ofGraph

namespace Database.OfGraph

/-- All tables having the property is an invariant of a repository. -/
theorem upheld : Upheld (Throughout J : World ω → Prop) :=
  Throughout.upheld ofGraph.bare fun db h => ofGraph.same db _ h rfl rfl

/-- A statement keeps the property if its write does, whatever the tables are. -/
theorem updateAndCommit {α : Type} (statement : Statement) (values : List Value)
    {write : Database → Except DatabaseFault (α × Database)}
    (keeps : ∀ db a db', J db → write db = .ok (a, db') → J db') :
    (updateAndCommit statement values write : Action ω α).Maintains (Throughout J) :=
  ofGraph.upheld.updateAndCommit _ _ fun before a after written =>
    Throughout.admits fun h => keeps before a after h written

end Database.OfGraph

namespace Graph

/-- To record a file keeps a property of the graph. -/
theorem recordFile_maintains (path : Path) (hash : Option String) :
    (recordFile path hash : Action ω Unit).Maintains (Throughout J) := by
  refine .bind .get fun v => ofGraph.updateAndCommit _ _ fun db _ db' h recorded => ?_
  obtain ⟨_, _, recorded⟩ := Except.bind_eq_ok.mp recorded
  cases recorded
  exact ofGraph.same db _ h rfl rfl

/-- To forget a file's record keeps a property of the graph. -/
theorem deleteFileRecord_maintains (path : Path) :
    (deleteFileRecord path : Action ω Unit).Maintains (Throughout J) := by
  refine ofGraph.updateAndCommit _ _ fun db _ db' h deleted => ?_
  cases deleted
  exact ofGraph.same db _ h rfl rfl

/-- To forget all records keeps a property of the graph. -/
theorem clearFiles_maintains : (clearFiles : Action ω Unit).Maintains (Throughout J) := by
  refine ofGraph.updateAndCommit _ _ fun db _ db' h cleared => ?_
  cases cleared
  exact ofGraph.same db _ h rfl rfl

end Graph

namespace MetricsStore

/-- A batch writes to tables of metrics only. -/
theorem apply_maintains_graph (b : Batch) :
    (apply b : Action ω Unit).Maintains (Throughout J) := by
  have admits {before after : Database} (symbols : after.symbols = before.symbols)
      (edges : after.edges = before.edges) : Admits (Throughout J : World ω → Prop) before after :=
    Throughout.admits fun h => ofGraph.same before after h symbols edges
  refine apply_maintains ofGraph.upheld ⟨?_, ?_, ?_⟩ ?_ ?_
  · exact fun _ _ => admits rfl rfl
  · exact fun _ _ => admits rfl rfl
  · exact fun _ _ => admits rfl rfl
  · intro row _ score before after _ put
    obtain ⟨_, _, put⟩ := Except.bind_eq_ok.mp put
    cases put
    exact admits rfl rfl
  · intro d _ before after put
    obtain ⟨_, _, put⟩ := Except.bind_eq_ok.mp put
    cases put
    exact admits rfl rfl

/-- To clear the metrics keeps a property of the graph. -/
theorem clear_maintains : (clear : Action ω Unit).Maintains (Throughout J) := by
  refine .bind (ofGraph.upheld.update _ _ ?_) fun _ => ofGraph.updateAndCommit _ _ ?_
  · intro before a after cleared
    cases cleared
    exact Throughout.admits fun h => ofGraph.same before _ h rfl rfl
  · intro db a db' h cleared
    cases cleared
    exact ofGraph.same db _ h rfl rfl

end MetricsStore

/-- A property of the graph is kept by every batch. -/
theorem Database.OfGraph.kept : Kept (Throughout J : World ω → Prop) :=
  ⟨ofGraph.upheld, MetricsStore.apply_maintains_graph ofGraph⟩

omit ofGraph in
/-- There are the tables of the one file of this world, and nothing is pending. -/
theorem Sample.eq_of_holds {db other : Database} (held : (Sample.world db).Holds other) :
    other = db ∨ other = .bare := by
  rcases held with ⟨file, rfl⟩ | ⟨c, hc, written⟩
  · by_cases own : file = 2
    · exact .inl (by simp [World.stored, Sample.world, own])
    · exact .inr (by simp [World.stored, Sample.world, Ne.symm own])
  · cases hc
    cases written

end CodeGauge
