import CodeGauge.Proofs.Engine.Upholding
import CodeGauge.Proofs.Store.Keeping

/-!
# Rows that never drift

A symbol row describes the symbol of its id for as long as that symbol is stored, whatever is done
to the graph and however the calls end.
-/

open Std

namespace CodeGauge

open CodeGauge.Action

variable {ω : Type} {w : World ω} {R : Register} {root : Path}

/-! ## Loading -/

/-- A reading opens the repository, and no transaction stays open after it. -/
theorem Action.reading_ensures_idle {α : Type} (body : Action ω α) (w : World ω) :
    (reading body).Ensures w fun _ w' =>
      (∃ c o, connection.runIn w = (Except.ok c, o)) ∧
        ∃ c, w'.repository.connection = some c ∧ c.transaction = none := by
  refine .bind (P := fun c o => connection.runIn w = (.ok c, o)) (fun _ _ run => run) ?_
  intro c o opened
  refine .skip fun _ w₁ => .skip fun _ w₂ => .skip fun r w₃ => .after runIn_get ?_
  split
  next now hnow =>
    split
    · have ended : rollback.Ensures w₃ fun _ w' =>
          ∃ c, w'.repository.connection = some c ∧ c.transaction = none := by
        refine .after (runIn_connection hnow) ?_
        split
        · exact .change ⟨_, World.connection_onConnection hnow _, rfl⟩
        next none => exact .pure ⟨now, hnow, by simpa using none⟩
      exact ended.bind fun _ w₄ idle => .of fun _ _ => ⟨⟨c, o, opened⟩, idle⟩
    · exact .never (.throw _) _
  · exact .never (.throw _) _

namespace Snapshot

/-- The snapshot knows, under their ids, only symbols that these ids were given to. -/
def DrawnFrom (g : Snapshot) (R : Register) : Prop :=
  ∀ id s, g.symbol? id = some s → ∃ symbol, R.known id symbol ∧ symbol.symbol id = .ok s

private theorem ensures_idle {α : Type} {body : Action ω α} {f : Snapshot → α → Action ω Snapshot}
    (last : ∀ g a (w : World ω), (f g a).Ensures w fun _ w' => w' = w) :
    (do let g ← fresh; let a ← (reading body).reportingGraphFaults; f g a).Ensures w fun _ w' =>
      (∃ c o, connection.runIn w = (Except.ok c, o)) ∧
        ∃ c, w'.repository.connection = some c ∧ c.transaction = none := by
  refine .after (runIn_fresh w) ?_
  refine (reading_ensures_idle body _).reportingGraphFaults.bind ?_
  rintro a w₁ ⟨⟨c, o, opened⟩, idle⟩
  refine (last _ a w₁).mono ?_
  rintro g w₂ rfl
  rw [blind_connection w] at opened
  have first : (connection.runIn w).1 = .ok c := congrArg Prod.fst opened
  exact ⟨⟨c, _, Prod.ext first rfl⟩, idle⟩

private theorem draws_of_load (root : Path) {x : Action ω Snapshot} (keeps : Keeps R x)
    (opens : x.Opens)
    (idle : x.Ensures w fun _ w' => (∃ c o, connection.runIn w = (Except.ok c, o)) ∧
      ∃ c, w'.repository.connection = some c ∧ c.transaction = none)
    (shown : ∀ (o : World ω) (db : Database), o.Open db → db.Normal →
      x.Ensures o fun g w' => g.Mirrors db o.disk root ∧ w'.Open db)
    (blocked : ∀ o : World ω, o.Blocked → x.Ensures o fun g _ => ∀ id s, g.symbol? id ≠ some s)
    (h : w.Faithful R) :
    x.Ensures w fun g w' => ∃ R' : Register, R'.Extends R ∧ w'.Faithful R' ∧ g.DrawnFrom R' := by
  intro g w' run
  have kept := keeps.ensures h g w' run
  obtain ⟨⟨c₀, o, opened⟩, c, hc, ended⟩ := idle g w' run
  obtain ⟨hc₀, _⟩ := connection_ensures c₀ o opened
  have h₀ := (World.Faithful.upheld R).connection.ensures h c₀ o opened
  obtain ⟨R', extends_, recorded, known⟩ := kept.exists_record hc
  refine ⟨R', extends_, recorded, fun id s hs => ?_⟩
  rw [opens w o c₀ opened] at run
  rcases World.open_or_blocked hc₀ with ⟨db, isOpen⟩ | none
  · have ⟨c₁, hc₁, tables⟩ := isOpen
    have normal : db.Normal := fun id row held => ((h₀.tables hc₁ tables).symbols id row held).2
    obtain ⟨mirrors, c', hc', tables'⟩ := shown o db isOpen normal g w' run
    rw [hc] at hc'
    cases hc'
    rw [World.tables, ended] at tables'
    obtain ⟨symbol, held, made⟩ := mirrors.known id s hs
    refine ⟨symbol, known id symbol ?_, made⟩
    rw [World.stored_of_committed tables']
    exact held
  · exact absurd hs (blocked o none g w' run id s)

/-- A part of the graph is drawn from the register as it is at the load. -/
theorem loadPart_draws (h : w.Faithful R) (wanted : Affected) :
    (loadPart wanted (some root)).Ensures w fun g w' =>
      ∃ R' : Register, R'.Extends R ∧ w'.Faithful R' ∧ g.DrawnFrom R' := by
  refine draws_of_load root (loadPart_maintains (World.Faithful.upheld R) wanted)
    (opens_loadPart wanted) ?_ ?_ ?_ h
  · exact ensures_idle fun _ _ w => .after runIn_get (.of fun _ _ => rfl)
  · exact fun o db isOpen normal => (loadPart_ensures isOpen normal wanted).mono
      fun g w' ⟨shows, onward⟩ => ⟨shows.mirrors, onward.isOpen⟩
  · exact fun o none => loadPart_blocked none wanted

/-- The whole graph is drawn from the register as it is at the load. -/
theorem loadAll_draws (h : w.Faithful R) :
    (loadAll (some root)).Ensures w fun g w' =>
      ∃ R' : Register, R'.Extends R ∧ w'.Faithful R' ∧ g.DrawnFrom R' := by
  refine draws_of_load root (loadAll_maintains (World.Faithful.upheld R)) opens_loadAll ?_ ?_ ?_ h
  · exact ensures_idle fun _ _ w => .after runIn_get (.of fun _ _ => rfl)
  · exact fun o db isOpen normal => (loadAll_ensures isOpen normal).mono
      fun g w' ⟨shows, onward⟩ => ⟨shows.mirrors, onward.isOpen⟩
  · exact fun o none => (loadAll_blocked none).mono fun _ _ => False.elim

/-! ## Rows -/

variable {g : Snapshot}

/-- A row that is computed from such a snapshot describes the symbol that its id was given to. -/
theorem DrawnFrom.tells (h : g.DrawnFrom R) {id now : Int} {row : SymbolMetrics}
    (made : g.symbolMetrics id now = .ok row) : row.draft.Tells R.known := by
  rw [symbolMetrics] at made
  split at made
  · cases made
  next s hs =>
    split at made
    case isFalse => cases made
    obtain ⟨lines, hl, made⟩ := Except.bind_eq_ok.mp made
    obtain ⟨bytes, hb, made⟩ := Except.bind_eq_ok.mp made
    obtain ⟨size, he, made⟩ := Except.bind_eq_ok.mp made
    cases made
    obtain ⟨symbol, known, read⟩ := h id s hs
    obtain ⟨own, file, name, kind, line, endLine, start, stop⟩ := SymbolRow.symbol_eq_ok read
    refine ⟨id, symbol, congrArg some own, known, fun stored held normal => ?_⟩
    rw [SymbolMetrics.StoredAs.eq_dated hl hb he held]
    constructor
    · exact name
    · exact kind
    · exact (congrArg Path.toString file).trans normal
    · exact congrArg₂ linesOf line endLine
    · exact congrArg estimateOfValue (congrArg₂ bytesOf start stop)

end Snapshot

/-! ## Calls -/

/-- Loading keeps what is on record, and the symbols of a loaded snapshot can be put there. -/
structure Loader.Faithful (loader : Loader ω) : Prop where
  part : ∀ (R : Register) (wanted : Affected), Keeps R (loader.part wanted)
  whole : ∀ R : Register, Keeps R loader.whole
  part_draws : ∀ (R : Register) (w : World ω) (wanted : Affected), w.Faithful R →
    (loader.part wanted).Ensures w fun g w' =>
      ∃ R' : Register, R'.Extends R ∧ w'.Faithful R' ∧ g.DrawnFrom R'
  whole_draws : ∀ (R : Register) (w : World ω), w.Faithful R →
    loader.whole.Ensures w fun g w' =>
      ∃ R' : Register, R'.Extends R ∧ w'.Faithful R' ∧ g.DrawnFrom R'

/-- Being true to the ids is a family of invariants, and the symbols of a snapshot can be put on
record. -/
theorem Loader.Faithful.upholds {loader : Loader ω} (faithful : loader.Faithful) :
    loader.Upholds (fun R w => w.Faithful R) fun R g => g.DrawnFrom R where
  part := faithful.part
  whole := faithful.whole
  part_fits R w wanted h :=
    (faithful.part_draws R w wanted h).mono fun _ _ ⟨R', more, kept, drawn⟩ =>
      ⟨R', drawn, kept, fun _ recorded => recorded.weaken more⟩
  whole_fits R w h :=
    (faithful.whole_draws R w h).mono fun _ _ ⟨R', more, kept, drawn⟩ =>
      ⟨R', drawn, kept, fun _ recorded => recorded.weaken more⟩

private theorem apply_keeps_of_drawn (R : Register) (g : Snapshot) (b : Batch)
    (drawn : g.DrawnFrom R) (measured : b.MeasuredIn g) :
    Keeps R (MetricsStore.apply b : Action ω Unit) := by
  refine MetricsStore.apply_keeps fun d mem => ?_
  obtain ⟨id, now, row, made, rfl⟩ := measured d mem
  exact drawn.tells made

section Calls

variable {E : Engine ω} (faithful : E.loader.Faithful)
include faithful

/-- A backfill keeps the rows faithful to what was registered. -/
theorem Engine.backfill_keeps {notify : Nat → Nat → Action ω Unit}
    (told : ∀ (R : Register) (i n : Nat), Keeps R (notify i n)) : Keeps R (E.backfill notify) :=
  backfill_maintains World.Faithful.upheld faithful.upholds apply_keeps_of_drawn told R

/-- Entering an update keeps the rows faithful to what was registered. -/
theorem Engine.entering_keeps (path : Path) : Keeps R (E.entering path) :=
  entering_maintains faithful.upholds path R

/-- A refresh keeps the rows faithful to what was registered. -/
theorem Refresh.run_keeps (refresh : Refresh) : Keeps R (refresh.run E) :=
  refresh.run_maintains World.Faithful.upheld faithful.upholds apply_keeps_of_drawn R

/-- A removal keeps the rows faithful to what was registered. -/
theorem Removal.run_keeps (removal : Removal) : Keeps R (removal.run E) := by
  refine removal.run_maintains World.Faithful.upheld faithful.upholds apply_keeps_of_drawn ?_
  cases removal with
  | file path => exact Graph.deleteFile_keeps path
  | symbol id => exact Graph.deleteSymbolWithEdges_keeps id

end Calls

end CodeGauge
