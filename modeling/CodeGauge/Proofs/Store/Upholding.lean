import CodeGauge.Proofs.Store.Batch
import CodeGauge.Proofs.Store.Blocked
import CodeGauge.Proofs.Store.Opening

/-!
# Invariants of a repository

Apart from writing, a repository does little to a world: it is opened, it remembers statements and
faults, and what is pending on it is committed or forgotten. An invariant that all this keeps
(`World.Upheld`) is kept by every statement that only reads. A writing statement keeps it, however
it ends, if the tables that its write makes may become pending (`World.Admits`). That is asked only
of the tables that the repository shows where the statement begins, since all that comes before the
write leaves them alone (`Action.Still`).
-/

open Std

namespace CodeGauge

variable {ω α β : Type}

namespace World

/-- The invariant holds on after anything that a repository does apart from writing. The first file
of a database in memory is an empty one, and a new connection has no transaction. -/
structure Upheld (I : World ω → Prop) : Prop where
  same : ∀ w w' : World ω, w'.databases = w.databases → w'.repository = w.repository → I w → I w'
  memory : ∀ (w : World ω) (file : Nat), w.repository.connection = none →
    Location.ofPath w.repository.path = .ok .memory → I w →
      I { w with databases := w.databases.insert file .bare }
  connects : ∀ (w : World ω) (c : Connection), w.repository.connection = none →
    c.transaction = none → I w →
      I { w with repository := { w.repository with connection := some c } }
  completes : ∀ (w : World ω) (file : Nat) (db : Database), w.committed file = .ok db → I w →
    I { w with databases := w.databases.insert file db.withAllTables }
  remembers : ∀ (w : World ω) (f : Connection → Connection), (∀ c, (f c).file = c.file) →
    (∀ c, (f c).transaction.bind (·.written) = none ∨ (f c).transaction = c.transaction) →
      I w → I (w.onConnection f)
  commits : ∀ (w : World ω) (c : Connection) (db : Database), w.repository.connection = some c →
    c.transaction.bind (·.written) = some db → I w →
      I { w with databases := w.databases.insert c.file db }

/-- Where the repository shows the tables `before`, the tables `after` may become pending. -/
def Admits (I : World ω → Prop) (before after : Database) : Prop :=
  ∀ (w : World ω) (c : Connection), w.repository.connection = some c → w.tables c = .ok before →
    I w → I (w.onConnection fun c => { c with transaction := some ⟨some after⟩, fault := none })

end World

namespace Action

open World

/-! ## What comes before a write -/

/-- Where the action gives a value, the tables that the repository shows are those that it showed
before. -/
def Still (x : Action ω α) : Prop :=
  ∀ w : World ω, x.Ensures w fun _ w' => (tables.runIn w').1 = (tables.runIn w).1

namespace Still

private theorem bind {x : Action ω α} {f : α → Action ω β} (hx : Still x) (hf : ∀ a, Still (f a)) :
    Still (x >>= f) :=
  fun w => (hx w).bind fun a w₁ same => (hf a w₁).mono fun _ _ same' => same'.trans same

private theorem pure (a : α) : Still (Pure.pure a : Action ω α) :=
  fun _ => .pure rfl

private theorem throw (e : Error) : Still (MonadExcept.throw e : Action ω α) :=
  fun _ => .throw e

private theorem refuse (fault : DatabaseFault) : Still (Action.refuse fault : Action ω α) :=
  fun _ => .refuse fault

end Still

/-- What a connection remembers does not show, nor does a transaction that has written the same. -/
theorem tables_onConnection {w : World ω} {f : Connection → Connection}
    (same : ∀ c, w.repository.connection = some c → (f c).file = c.file ∧
      (f c).transaction.bind (·.written) = c.transaction.bind (·.written)) :
    (tables.runIn (w.onConnection f)).1 = (tables.runIn w).1 := by
  cases hc : w.repository.connection with
  | none =>
    have still : w.onConnection f = w := by
      rcases w with
        ⟨disk, clock, stamp, loads, databases, ⟨path, connection⟩, connections, capacity, others⟩
      cases hc
      rfl
    rw [still]
  | some c =>
    obtain ⟨file, written⟩ := same c hc
    have shown : (w.onConnection f).tables (f c) = w.tables c := by
      rw [World.tables, World.tables, written, file, committed_onConnection]
    unfold tables
    rw [runIn_bind_of_ok (runIn_connection hc), runIn_bind_of_ok runIn_get,
      runIn_bind_of_ok (runIn_connection (connection_onConnection hc f)),
      runIn_bind_of_ok runIn_get, shown]
    cases w.tables c with
    | ok db => rfl
    | error fault => rfl

private theorem connection_still : Still (connection : Action ω Connection) := by
  intro w c o run
  exact congrArg Prod.fst (opens_connection.bind _ w o c run).symm

private theorem tables_still : Still (tables : Action ω Database) := by
  refine connection_still.bind fun c w => .after runIn_get ?_
  split
  · exact .pure rfl
  · exact .refuse _

private theorem requireTables_still (statement : Statement) :
    Still (requireTables statement : Action ω Unit) := by
  refine tables_still.bind fun db => ?_
  split
  · exact .refuse _
  · exact .pure _

private theorem requireListed_still (statement : Statement) :
    Still (requireListed statement : Action ω Unit) := by
  intro w
  refine .after runIn_get ?_
  split
  · exact .refuse _
  · exact .pure rfl

private theorem remember_still (ready : Connection → List Statement) :
    Still (onConnection fun c => { c with ready := ready c, fault := none } : Action ω Unit) :=
  fun _ => .change (tables_onConnection fun _ _ => ⟨rfl, rfl⟩)

private theorem succeed_still : Still (succeed : Action ω Unit) :=
  remember_still (·.ready)

private theorem prepare_still (statement : Statement) :
    Still (prepare statement : Action ω Unit) := by
  refine connection_still.bind fun c => ?_
  split
  · exact .pure _
  refine .bind (requireListed_still _) fun _ => ?_
  refine .bind (requireTables_still _) fun _ => ?_
  split
  · exact fun _ => .never (.refuse _) _
  · exact remember_still _

private theorem openTransaction_still : Still (openTransaction : Action ω Unit) := by
  intro w
  refine Ensures.bind (P := fun c w₁ => w₁.repository.connection = some c ∧
    (tables.runIn w₁).1 = (tables.runIn w).1) ?_ ?_
  · exact fun c o run => ⟨(connection_ensures c o run).1, connection_still w c o run⟩
  rintro c w₁ ⟨hc, shown⟩
  split
  next fresh =>
    have began : (tables.runIn (w₁.onConnection fun c =>
        { c with transaction := some {}, fault := none })).1 = (tables.runIn w₁).1 := by
      refine tables_onConnection fun c' hc' => ⟨rfl, ?_⟩
      rw [hc] at hc'
      cases hc'
      rw [Option.isNone_iff_eq_none.mp fresh]
      rfl
    exact .change (began.trans shown)
  · exact .pure shown

private theorem bind_still (values : List Value) : Still (bind values : Action ω Unit) := by
  unfold Action.bind
  split
  · split
    · exact .pure _
    · exact succeed_still
  · refine connection_still.bind fun c => ?_
    split
    · exact .throw _
    · exact .throw _
  · exact .bind succeed_still fun _ => .throw _

/-- A writing statement that gives a value leaves the tables that its write made of those that were
shown before. -/
theorem updateAndCommit_leaves (w : World ω) (statement : Statement) (values : List Value)
    (write : Database → Except DatabaseFault (α × Database)) :
    (updateAndCommit statement values write).Ensures w fun a w' =>
      ∃ before after, (tables.runIn w).1 = .ok before ∧ write before = .ok (a, after) ∧
        w'.Open after := by
  rcases opened : connection.runIn w with ⟨r, o⟩
  cases r with
  | error e =>
    have closed : connection.Ensures w fun _ _ => False := by
      intro c w' run
      rw [opened] at run
      cases run
    exact .never (.never (.never closed _) _) _
  | ok c =>
    intro a w' run
    rw [opens_updateAndCommit _ _ _ w o c opened] at run
    rcases open_or_blocked (connection_ensures c o opened).1 with ⟨db, isOpen⟩ | blocked
    · obtain ⟨after, written, onward⟩ := updateAndCommit_ensures isOpen _ _ _ a w' run
      refine ⟨db, after, ?_, written, onward.isOpen⟩
      rw [← connection_still w c o opened, runIn_tables isOpen]
    · exact (updateAndCommit_blocked blocked _ _ _ a w' run).elim

/-- A sequence whose first part keeps the invariant and leaves the tables that are shown. -/
theorem Maintains.bind_of_still {I : World ω → Prop} {w : World ω} {x : Action ω α}
    {f : α → Action ω β} (hx : x.Maintains I) (still : Still x) (h : I w)
    (hf : ∀ a w₁, I w₁ → (tables.runIn w₁).1 = (tables.runIn w).1 → I ((f a).runIn w₁).2) :
    I ((x >>= f).runIn w).2 :=
  bind_of_run (hx w h) fun a w₁ run kept => hf a w₁ kept (still w a w₁ run)

end Action

namespace World.Upheld

open CodeGauge.Action

variable {I : World ω → Prop} {w : World ω}

/-! ## Opening -/

/-- A change of what has nothing to do with the database. -/
theorem change (up : Upheld I) {f : World ω → World ω}
    (databases : ∀ w, (f w).databases = w.databases)
    (repository : ∀ w, (f w).repository = w.repository) : (Action.change f).Maintains I :=
  fun w => up.same w (f w) (databases w) (repository w)

/-- A change of what the connection remembers. -/
theorem onConnection (up : Upheld I) {f : Connection → Connection}
    (file : ∀ c, (f c).file = c.file)
    (transaction : ∀ c, (f c).transaction.bind (·.written) = none ∨
      (f c).transaction = c.transaction) : (Action.onConnection f).Maintains I :=
  fun w => up.remembers w f file transaction

private theorem connectTo (up : Upheld I) (closed : w.repository.connection = none) (h : I w)
    (file : Nat) (place : Option Path) (writes : Bool) :
    I ((Action.connectTo file place writes).runIn w).2 :=
  let c : Connection := { serial := w.connections + 1, file, place, writes }
  up.same { w with repository := { w.repository with connection := some c } } _ rfl rfl
    (up.connects w c closed rfl h)

private theorem connectAt (up : Upheld I) (closed : w.repository.connection = none) (h : I w)
    {location : Location} (at_ : Location.ofPath w.repository.path = .ok location) :
    I ((Action.connectAt w.repository.path location).runIn w).2 := by
  unfold Action.connectAt
  rw [runIn_bind_of_ok runIn_get]
  cases location with
  | memory =>
    dsimp only
    rw [runIn_bind_of_ok (runIn_change _)]
    have made := up.memory w w.disk.fileCount closed at_ h
    exact up.connectTo (w := { w with
      disk := { w.disk with fileCount := w.disk.fileCount + 1 }
      databases := w.databases.insert w.disk.fileCount .bare }) closed
      (up.same { w with databases := w.databases.insert w.disk.fileCount .bare } _ rfl rfl made)
      _ _ _
  | file p opening =>
    dsimp only
    split
    · rw [runIn_bind]
      exact h
    split
    · exact h
    next disk place number made =>
      rw [runIn_bind_of_ok (runIn_change _)]
      exact up.connectTo (w := { w with disk }) closed (up.same w _ rfl rfl h) _ _ _

private theorem makeTables (up : Upheld I) (c : Connection) :
    (Action.makeTables c : Action ω Unit).Maintains I := by
  refine .check (.throw _) fun w h => ?_
  rw [runIn_bind_of_ok runIn_get]
  split
  · exact h
  next db committed =>
    by_cases none : db.dropped.isEmpty
    · rw [if_pos none]
      exact h
    · rw [if_neg none]
      by_cases writes : c.writes
      · rw [if_pos writes]
        exact up.completes w c.file db committed h
      · rw [if_neg writes]
        exact h

/-- Opening a repository keeps the invariant, also where it fails. -/
theorem connection (up : Upheld I) : (Action.connection : Action ω Connection).Maintains I := by
  intro w h
  unfold Action.connection
  rw [runIn_bind_of_ok runIn_get]
  dsimp only
  split
  · exact h
  next closed =>
    rw [runIn_bind_of_ok runIn_get]
    refine Maintains.bind_of_run (Maintains.of _ w h) fun disk w₁ run _ => ?_
    rw [runIn_of] at run
    obtain rfl : w = w₁ := congrArg Prod.snd run
    rw [runIn_bind_of_ok (runIn_change _)]
    have h₁ : I { w with disk } := up.same w _ rfl rfl h
    split
    · exact h₁
    next location at_ =>
      refine Maintains.bind_of_run (up.connectAt (w := { w with disk }) closed h₁ at_)
        fun _ w₂ _ h₂ => ?_
      rw [runIn_bind_of_ok runIn_get]
      split
      · exact Maintains.bind (up.makeTables _) (fun _ => .pure _) w₂ h₂
      · exact h₂

/-! ## Statements -/

private theorem refuse (up : Upheld I) (fault : DatabaseFault) :
    (Action.refuse fault : Action ω α).Maintains I :=
  .bind (up.onConnection (fun _ => rfl) fun _ => .inr rfl) fun _ => .throw _

private theorem succeed (up : Upheld I) : (Action.succeed : Action ω Unit).Maintains I :=
  up.onConnection (fun _ => rfl) fun _ => .inr rfl

private theorem tables (up : Upheld I) : (Action.tables : Action ω Database).Maintains I := by
  refine .bind up.connection fun c => .bind .get fun w => ?_
  split
  · exact .pure _
  · exact up.refuse _

private theorem requireTables (up : Upheld I) (statement : Statement) :
    (Action.requireTables statement : Action ω Unit).Maintains I := by
  refine .bind up.tables fun db => ?_
  split
  · exact up.refuse _
  · exact .pure _

private theorem requireListed (up : Upheld I) (statement : Statement) :
    (Action.requireListed statement : Action ω Unit).Maintains I := by
  refine .bind .get fun w => ?_
  split
  · exact up.refuse _
  · exact .pure _

private theorem prepare (up : Upheld I) (statement : Statement) :
    (Action.prepare statement : Action ω Unit).Maintains I := by
  have ready : (Action.onConnection fun c =>
      { c with ready := statement :: c.ready, fault := none } : Action ω Unit).Maintains I :=
    up.onConnection (fun _ => rfl) fun _ => .inr rfl
  refine .bind up.connection fun _ => .ite (.pure _) ?_
  refine .bind (up.requireListed _) fun _ => .bind (up.requireTables _) fun _ => ?_
  split
  · exact .bind (up.refuse _) fun _ => ready
  · exact ready

private theorem openTransaction (up : Upheld I) :
    (Action.openTransaction : Action ω Unit).Maintains I :=
  .bind up.connection fun _ =>
    .ite (up.onConnection (fun _ => rfl) fun _ => .inl rfl) (.pure _)

private theorem rollback (up : Upheld I) : (Action.rollback : Action ω Unit).Maintains I :=
  .bind up.connection fun _ =>
    .ite (up.onConnection (fun _ => rfl) fun _ => .inl rfl) (.pure _)

/-- What is pending becomes what is committed. -/
theorem commit (up : Upheld I) : (Action.commit : Action ω Unit).Maintains I := by
  have ended : (Action.onConnection fun c =>
      { c with transaction := none, fault := none } : Action ω Unit).Maintains I :=
    up.onConnection (fun _ => rfl) fun _ => .inl rfl
  intro w h
  refine Maintains.bind_of_run (up.connection w h) fun c w₁ run h₁ => ?_
  have ⟨hc, _⟩ := connection_ensures c w₁ run
  split
  next t began =>
    split
    next db written =>
      rw [runIn_bind_of_ok (runIn_change _)]
      refine ended _ (up.commits w₁ c db hc ?_ h₁)
      rw [began]
      exact written
    · exact ended w₁ h₁
  · exact h₁

private theorem bind (up : Upheld I) (values : List Value) :
    (Action.bind values : Action ω Unit).Maintains I := by
  unfold Action.bind
  split
  · split
    · exact .pure _
    · exact up.succeed
  · refine .bind up.connection fun c => ?_
    split
    · exact .throw _
    · exact .throw _
  · exact .bind up.succeed fun _ => .throw _

/-- A query keeps an invariant of the repository. -/
theorem query (up : Upheld I) (statement : Statement) (values : List Value)
    (read : Database → α) : (Action.query statement values read : Action ω α).Maintains I :=
  .bind (up.prepare _) fun _ => .bind (up.bind _) fun _ => .bind (up.requireTables _) fun _ =>
    .bind up.succeed fun _ => .bind up.tables fun _ => .pure _

/-- A reading keeps what its body keeps. -/
theorem reading (up : Upheld I) {body : Action ω α} (hb : body.Maintains I) :
    (Action.reading body).Maintains I := by
  refine .bind up.connection fun c => .bind up.commit fun _ =>
    .bind up.openTransaction fun _ => .bind hb.outcome fun r => .bind .get fun w => ?_
  split
  · split
    · exact .bind up.rollback fun _ => .of _
    · exact .bind (.throw _) fun _ => .of _
  · exact .bind (.throw _) fun _ => .of _

/-! ## Writing statements -/

section Writing

variable {write : Database → Except DatabaseFault (α × Database)}

/-- A writing statement keeps the invariant if its write may be made of the tables that are
shown. -/
theorem perform_from (up : Upheld I) (statement : Statement) (values : List Value) (h : I w)
    (admits : ∀ before a after, (Action.tables.runIn w).1 = .ok before →
      write before = .ok (a, after) → Admits I before after) :
    I ((perform statement values write).runIn w).2 := by
  refine (up.bind values).bind_of_still (bind_still values) h fun _ w₁ h₁ same₁ => ?_
  refine (up.requireTables statement).bind_of_still (requireTables_still statement) h₁
    fun _ w₂ h₂ same₂ => ?_
  refine Maintains.bind_of_run (up.connection w₂ h₂) fun c w₃ run h₃ => ?_
  have ⟨hc, _⟩ := connection_ensures c w₃ run
  have same := ((connection_still w₂ c w₃ run).trans same₂).trans same₁
  -- What would follow a refusal is not run.
  have refused {γ δ : Type} (fault : DatabaseFault) (f : γ → Action ω δ) :
      I ((Action.refuse fault >>= f).runIn w₃).2 := by
    refine Maintains.bind_of_run (up.refuse fault w₃ h₃) fun a w₄ run _ => ?_
    exact ((Ensures.refuse fault : (Action.refuse fault).Ensures w₃ fun _ _ => False) a w₄ run).elim
  dsimp only
  split
  case isFalse => exact refused _ _
  refine Maintains.bind_of_run (up.tables w₃ h₃) fun before w₄ run _ => ?_
  obtain ⟨rfl, shown⟩ : w₄ = w₃ ∧ w₃.tables c = .ok before := by
    rw [Action.tables, runIn_bind_of_ok (runIn_connection hc), runIn_bind_of_ok runIn_get] at run
    split at run
    next shown =>
      cases run
      exact ⟨rfl, shown⟩
    · exact ((Ensures.refuse _ : (Action.refuse _).Ensures w₃ fun _ _ => False) _ _ run).elim
  split
  · refine Maintains.bind ?_ (fun _ => up.refuse _) w₄ h₃
    exact up.onConnection (fun _ => rfl) fun _ => .inl rfl
  · exact up.refuse _ w₄ h₃
  next a after written =>
    rw [runIn_bind_of_ok runIn_get]
    split
    · exact refused _ _
    · rw [runIn_bind_of_ok (runIn_onConnection _)]
      refine admits before a after ?_ written w₄ c hc shown h₃
      rw [← same, runIn_tables ⟨c, hc, shown⟩]

private theorem update_from (up : Upheld I) (statement : Statement) (values : List Value) (h : I w)
    (admits : ∀ before a after, (Action.tables.runIn w).1 = .ok before →
      write before = .ok (a, after) → Admits I before after) :
    I ((update statement values write).runIn w).2 := by
  refine (up.prepare statement).bind_of_still (prepare_still statement) h fun _ w₁ h₁ same₁ => ?_
  refine up.openTransaction.bind_of_still openTransaction_still h₁ fun _ w₂ h₂ same₂ => ?_
  refine up.perform_from statement values h₂ fun before a after shown => admits before a after ?_
  rw [← same₁, ← same₂, shown]

/-- A committed update keeps an invariant that admits its change. -/
theorem updateAndCommit_from (up : Upheld I) (statement : Statement) (values : List Value) (h : I w)
    (admits : ∀ before a after, (Action.tables.runIn w).1 = .ok before →
      write before = .ok (a, after) → Admits I before after) :
    I ((updateAndCommit statement values write).runIn w).2 :=
  Maintains.bind_of_run (up.update_from statement values h admits) fun _ w₁ _ =>
    Maintains.bind up.commit (fun _ => .pure _) w₁

variable (up : Upheld I) (statement : Statement) (values : List Value)
  (admits : ∀ before a after, write before = .ok (a, after) → Admits I before after)
include up admits

/-- A writing statement keeps the invariant if its write may be made of any tables. -/
theorem perform : (Action.perform statement values write).Maintains I :=
  fun _ h => up.perform_from statement values h fun before a after _ => admits before a after

/-- An update keeps an invariant that admits its changes. -/
theorem update : (Action.update statement values write).Maintains I :=
  fun _ h => up.update_from statement values h fun before a after _ => admits before a after

/-- A committed update keeps an invariant that admits its changes. -/
theorem updateAndCommit : (Action.updateAndCommit statement values write).Maintains I :=
  fun _ h => up.updateAndCommit_from statement values h fun before a after _ =>
    admits before a after

end Writing

end World.Upheld

/-! ## Metrics rows -/

/-- Metrics rows may be deleted. -/
structure World.Sheds (I : World ω → Prop) : Prop where
  symbol : ∀ (db : Database) (id : Int), Admits I db (db.removeSymbolMetrics id).2
  symbols : ∀ (db : Database) (file : String), Admits I db (db.removeSymbolMetricsInFile file).2
  file : ∀ (db : Database) (file : String), Admits I db (db.removeFileMetrics file)

namespace MetricsStore

open World CodeGauge.Action

variable {I : World ω → Prop}

private theorem updateEach_maintains (up : Upheld I) (statement : Statement) {rows : List α}
    {values : α → List Value} {write : Database → α → Except DatabaseFault (Unit × Database)}
    (admits : ∀ row ∈ rows, ∀ before a after, write before row = .ok (a, after) →
      Admits I before after) :
    (updateEach statement rows values write : Action ω Unit).Maintains I :=
  .bind (up.prepare _) fun _ => .bind up.openTransaction fun _ =>
    .forM fun row mem => up.perform _ _ (admits row mem)

section Batch

variable {b : Batch} (up : Upheld I) (sheds : Sheds I)
  (putFile : ∀ row ∈ b.fileRows, ∀ score before after, row.score = .ok score →
    before.putFileMetrics row score = .ok ((), after) → Admits I before after)
  (putSymbol : ∀ d ∈ b.symbolRows, ∀ before after,
    before.putSymbolMetrics d = .ok ((), after) → Admits I before after)
include up sheds putFile putSymbol

private theorem writeBatch_maintains : (writeBatch b : Action ω Unit).Maintains I := by
  refine .bind (.forM fun id _ => .bind (up.update _ _ ?_) fun _ => .pure _) fun _ =>
    .bind (.forM fun path _ => .bind (up.update _ _ ?_) fun _ => up.update _ _ ?_) fun _ =>
      .given fun scored made => .bind (updateEach_maintains up _ fun x among => ?_) fun _ =>
        updateEach_maintains up _ fun d among => ?_
  · intro before a after removed
    cases removed
    exact sheds.symbol before id
  · intro before a after removed
    cases removed
    exact sheds.symbols before path.toString
  · intro before a after removed
    cases removed
    exact sheds.file before path.toString
  · intro before a after put
    obtain ⟨mem, scored⟩ := (Database.mem_scored made x).mp among
    exact putFile x.1 mem x.2 before after scored put
  · exact fun before _ after put => putSymbol d among before after put

/-- A batch keeps the invariant, however it ends, if its rows may be written. -/
theorem apply_maintains : (apply b : Action ω Unit).Maintains I := by
  have write : (do writeBatch b; commit : Action ω Unit).Maintains I :=
    .bind (writeBatch_maintains up sheds putFile putSymbol) fun _ => up.commit
  refine .ite (.pure _) (.bind (.bind up.connection fun _ => .pure _) fun _ => ?_)
  refine .bind write.outcome fun r => ?_
  split
  · exact .pure _
  · exact .bind up.rollback fun _ => .throw _
  · exact .throw _

end Batch

end MetricsStore

end CodeGauge
