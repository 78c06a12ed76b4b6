import CodeGauge.Proofs.Action
import CodeGauge.Store.Execution

/-!
# Sessions with a repository

An open repository shows tables: those with the pending changes, or else the committed ones. Each
way of running a statement has one law here. A query leaves all but what the connection remembers
as it was, a writing statement leaves the tables that its write gives, and a commit or a reading
transaction leaves the tables as they were shown before.
-/

open Std

namespace CodeGauge

variable {ω α β : Type}

namespace World

/-- The repository in use is open and shows these tables. -/
def Open (w : World ω) (db : Database) : Prop :=
  ∃ c, w.repository.connection = some c ∧ w.tables c = .ok db

/-- The worlds differ at most in the statements and the fault that the connection remembers. -/
def Alike (w w' : World ω) : Prop :=
  ∃ ready fault, w' = w.onConnection fun c => { c with ready, fault }

/-- The connection of this number is open, nothing is pending on it, and these are its tables. -/
def Settled (w : World ω) (serial : Nat) (db : Database) : Prop :=
  ∃ c, w.repository.connection = some c ∧ c.serial = serial ∧
    c.transaction.bind (·.written) = none ∧ w.committed c.file = .ok db

/-- No transaction is open. -/
def Idle (w : World ω) : Prop :=
  ∀ c, w.repository.connection = some c → c.transaction = none

/-- The disk, the clock and the capacity of statements are the same. -/
structure SameSurroundings (w w' : World ω) : Prop where
  disk : w'.disk = w.disk
  clock : w'.clock = w.clock
  capacity : w'.capacity = w.capacity

/-- `w'` goes on from `w`, open and showing these tables. -/
structure Onward (w w' : World ω) (db : Database) : Prop where
  isOpen : w'.Open db
  same : w.SameSurroundings w'

variable {w w₁ w₂ : World ω} {db : Database} {serial : Nat}

/-- A world has its own surroundings. -/
theorem SameSurroundings.refl (w : World ω) : w.SameSurroundings w := ⟨rfl, rfl, rfl⟩

/-- Surroundings that stay the same twice stay the same. -/
theorem SameSurroundings.trans (h : w.SameSurroundings w₁) (k : w₁.SameSurroundings w₂) :
    w.SameSurroundings w₂ :=
  ⟨k.disk.trans h.disk, k.clock.trans h.clock, k.capacity.trans h.capacity⟩

/-- A connection without a transaction is idle. -/
theorem Idle.of_connection {c : Connection} (hc : w.repository.connection = some c)
    (fresh : c.transaction = none) : w.Idle := by
  intro c' hc'
  rw [hc] at hc'
  cases hc'
  exact fresh

/-- A change of the connection commits nothing. -/
@[simp] theorem committed_onConnection (f : Connection → Connection) (file : Nat) :
    (w.onConnection f).committed file = w.committed file := rfl

/-- A change of the connection is seen on it. -/
theorem connection_onConnection {c : Connection} (h : w.repository.connection = some c)
    (f : Connection → Connection) : (w.onConnection f).repository.connection = some (f c) := by
  rw [onConnection, h, Option.map_some]

/-- Statements that were made ready, and a fault that was forgotten, are only remembered. -/
theorem alike_onConnection (w : World ω) (ready : Connection → List Statement) :
    w.Alike (w.onConnection fun c => { c with ready := ready c, fault := none }) := by
  rcases w with
    ⟨disk, clock, stamp, loads, databases, ⟨path, connection⟩, connections, capacity, others⟩
  cases connection with
  | none => exact ⟨[], none, rfl⟩
  | some c => exact ⟨ready c, none, rfl⟩

/-- A world is alike to itself. -/
theorem Alike.refl (w : World ω) : w.Alike w := by
  rcases w with
    ⟨disk, clock, stamp, loads, databases, ⟨path, connection⟩, connections, capacity, others⟩
  cases connection with
  | none => exact ⟨[], none, rfl⟩
  | some c => exact ⟨c.ready, c.fault, rfl⟩

private theorem Alike.trans (h : w.Alike w₁) (k : w₁.Alike w₂) : w.Alike w₂ := by
  obtain ⟨ready, fault, rfl⟩ := h
  obtain ⟨ready', fault', rfl⟩ := k
  refine ⟨ready', fault', ?_⟩
  simp [onConnection, Option.map_map, Function.comp_def]

/-- Alike worlds have the same surroundings. -/
theorem Alike.sameSurroundings (h : w.Alike w₁) : w.SameSurroundings w₁ := by
  obtain ⟨ready, fault, rfl⟩ := h
  exact ⟨rfl, rfl, rfl⟩

/-- Of alike worlds both are open with the same tables. -/
theorem Alike.open (h : w.Alike w₁) (ho : w.Open db) : w₁.Open db := by
  have ⟨c, hc, ht⟩ := ho
  obtain ⟨ready, fault, rfl⟩ := h
  exact ⟨_, connection_onConnection hc _, ht⟩

/-- To read leads onward with the tables that are open. -/
theorem Alike.onward (h : w.Alike w₁) (ho : w.Open db) : w.Onward w₁ db :=
  ⟨h.open ho, h.sameSurroundings⟩

/-- Of alike worlds both have settled. -/
theorem Alike.settled (h : w.Alike w₁) (hs : w.Settled serial db) : w₁.Settled serial db := by
  have ⟨c, hc, hn, ht, hd⟩ := hs
  obtain ⟨ready, fault, rfl⟩ := h
  exact ⟨_, connection_onConnection hc _, hn, ht, hd⟩

/-- A settled repository is open. -/
theorem Settled.open (h : w.Settled serial db) : w.Open db := by
  obtain ⟨c, hc, -, ht, hd⟩ := h
  refine ⟨c, hc, ?_⟩
  rw [tables, ht]
  exact hd

/-- What leads onward twice leads onward. -/
theorem Onward.trans {db' : Database} (h : w.Onward w₁ db) (k : w₁.Onward w₂ db') :
    w.Onward w₂ db' :=
  ⟨k.isOpen, h.same.trans k.same⟩

end World

namespace Action

open World

variable {w : World ω} {db : Database} {serial : Nat} {Q : α → World ω → Prop}

/-! ## Bookkeeping -/

/-- A refusal gives no value. -/
theorem Ensures.refuse (fault : DatabaseFault) : (refuse fault : Action ω α).Ensures w Q := by
  refine .bind (P := fun _ _ => True) (.change trivial) fun _ _ _ => ?_
  exact .throw _

/-- An open connection is used as it is. -/
theorem runIn_connection {c : Connection} (h : w.repository.connection = some c) :
    connection.runIn w = (.ok c, w) := by
  rw [connection, runIn_bind_of_ok runIn_get]
  dsimp only
  rw [h]
  rfl

/-- Opening an open repository does nothing. -/
theorem runIn_openRepository {c : Connection} (h : w.repository.connection = some c) :
    openRepository.runIn w = (.ok (), w) := by
  rw [openRepository, runIn_bind_of_ok (runIn_connection h)]
  rfl

/-- The tables of an open repository are those that it shows. -/
theorem runIn_tables (h : w.Open db) : tables.runIn w = (.ok db, w) := by
  have ⟨c, hc, ht⟩ := h
  rw [tables, runIn_bind_of_ok (runIn_connection hc), runIn_bind_of_ok runIn_get, ht]
  rfl

private theorem succeed_ensures (w : World ω) : succeed.Ensures w fun _ w' => w.Alike w' := by
  exact .change (alike_onConnection w (·.ready))

/-- To look for the tables of a statement changes nothing. -/
theorem requireTables_ensures (h : w.Open db) (statement : Statement) :
    (requireTables statement).Ensures w fun _ w' => w' = w := by
  refine .after (runIn_tables h) ?_
  split
  · exact .refuse _
  · exact .pure rfl

/-- To count the listed values changes nothing, and there are not too many. -/
theorem requireListed_ensures (w : World ω) (statement : Statement) :
    (requireListed statement).Ensures w fun _ w' =>
      w' = w ∧ statement.listed ≤ w.capacity.listed := by
  refine .after runIn_get ?_
  split
  · exact .refuse _
  next within => exact .pure ⟨rfl, Nat.not_lt.mp within⟩

/-- To make a statement ready leaves an alike world. -/
theorem prepare_ensures (h : w.Open db) (statement : Statement) :
    (prepare statement).Ensures w fun _ w' => w.Alike w' := by
  have ⟨c, hc, ht⟩ := h
  refine .after (runIn_connection hc) ?_
  split
  · exact .pure (Alike.refl _)
  refine (requireListed_ensures w statement).bind ?_
  rintro _ _ ⟨rfl, _⟩
  refine (requireTables_ensures ⟨_, hc, ht⟩ statement).bind ?_
  rintro _ _ rfl
  split
  · exact .never (.refuse _) _
  · exact .change (alike_onConnection _ (statement :: ·.ready))

/-- To check values leaves an alike world. -/
theorem bind_ensures (w : World ω) (values : List Value) :
    (bind values).Ensures w fun _ w' => w.Alike w' := by
  unfold Action.bind
  split
  · split
    · exact .pure (Alike.refl w)
    · exact succeed_ensures w
  · refine .skip fun c _ => ?_
    split
    · exact .throw _
    · exact .throw _
  · refine .skip fun c _ => ?_
    exact .throw _

/-! ## Reading and writing -/

/-- A query gives what it reads from the tables. -/
theorem query_ensures (h : w.Open db) (statement : Statement) (values : List Value)
    (read : Database → α) :
    (query statement values read).Ensures w fun a w' => a = read db ∧ w.Alike w' := by
  refine (prepare_ensures h statement).bind fun _ w₁ h₁ => ?_
  refine (bind_ensures w₁ values).bind fun _ w₂ h₂ => ?_
  have ho : w₂.Open db := h₂.open (h₁.open h)
  refine (requireTables_ensures ho statement).bind fun _ w₁' same => ?_
  subst same
  refine (succeed_ensures _).bind fun _ w₃ h₃ => ?_
  refine .after (runIn_tables (h₃.open ho)) ?_
  exact .pure ⟨rfl, (h₁.trans h₂).trans h₃⟩

/-- A writing statement leaves the tables that its write gives. -/
theorem perform_ensures (h : w.Open db) (statement : Statement) (values : List Value)
    (write : Database → Except DatabaseFault (α × Database)) :
    (perform statement values write).Ensures w fun a w' =>
      ∃ db', write db = .ok (a, db') ∧ w.Onward w' db' := by
  refine (bind_ensures w values).bind fun _ w₁ h₁ => ?_
  have ho : w₁.Open db := h₁.open h
  refine (requireTables_ensures ho statement).bind fun _ w₁' same => ?_
  subst same
  have ⟨c, hc, ht⟩ := ho
  refine .after (runIn_connection hc) ?_
  dsimp only
  split
  case isFalse => exact .never (.refuse _) _
  refine .after (runIn_tables ⟨c, hc, ht⟩) ?_
  split
  · exact .after (runIn_onConnection _) (.refuse _)
  · exact .refuse _
  next a after hw =>
    refine .after runIn_get ?_
    split
    · exact .never (.refuse _) _
    refine .after (runIn_onConnection _) (.pure ?_)
    refine ⟨after, hw, ?_, h₁.sameSurroundings.trans ⟨rfl, rfl, rfl⟩⟩
    exact ⟨_, connection_onConnection hc _, rfl⟩

/-- To open a transaction leads onward with the same tables. -/
theorem openTransaction_ensures (h : w.Open db) :
    openTransaction.Ensures w fun _ w' => w.Onward w' db := by
  have ⟨c, hc, ht⟩ := h
  refine .after (runIn_connection hc) ?_
  split
  next hn =>
    refine .change ⟨⟨_, connection_onConnection hc _, ?_⟩, rfl, rfl, rfl⟩
    rw [Option.isNone_iff_eq_none] at hn
    rw [World.tables, hn] at ht
    exact ht
  · exact .pure ⟨⟨c, hc, ht⟩, .refl w⟩

/-- An update leads onward with the tables that it writes. -/
theorem update_ensures (h : w.Open db) (statement : Statement) (values : List Value)
    (write : Database → Except DatabaseFault (α × Database)) :
    (update statement values write).Ensures w fun a w' =>
      ∃ db', write db = .ok (a, db') ∧ w.Onward w' db' := by
  refine (prepare_ensures h statement).bind fun _ w₁ h₁ => ?_
  refine (openTransaction_ensures (h₁.open h)).bind fun _ w₂ h₂ => ?_
  refine (perform_ensures h₂.isOpen statement values write).mono ?_
  intro a w' ⟨db', hw, h₃⟩
  exact ⟨db', hw, (h₁.onward h).trans (h₂.trans h₃)⟩

/-- A commit leaves nothing pending and the tables as they were shown. -/
theorem commit_ensures {c : Connection} (hc : w.repository.connection = some c)
    (ht : w.tables c = .ok db) :
    commit.Ensures w fun _ w' => w'.Settled c.serial db ∧ w.SameSurroundings w' := by
  refine .after (runIn_connection hc) ?_
  rw [World.tables] at ht
  cases hx : c.transaction with
  | none =>
    rw [hx] at ht
    exact .pure ⟨⟨c, hc, rfl, by rw [hx]; rfl, ht⟩, .refl w⟩
  | some t =>
    rw [hx, Option.bind_some] at ht
    dsimp only
    cases hw : t.written with
    | none =>
      rw [hw] at ht
      exact .change ⟨⟨_, connection_onConnection hc _, rfl, rfl, ht⟩, rfl, rfl, rfl⟩
    | some written =>
      rw [hw] at ht
      cases ht
      refine .after (runIn_change _) ?_
      refine .change ⟨⟨_, connection_onConnection hc _, rfl, rfl, ?_⟩, rfl, rfl, rfl⟩
      rw [committed_onConnection, World.committed]
      simp only [ExtTreeMap.getElem?_insert_self]

/-- A committed update leads onward with the tables that it writes. -/
theorem updateAndCommit_ensures (h : w.Open db) (statement : Statement) (values : List Value)
    (write : Database → Except DatabaseFault (α × Database)) :
    (updateAndCommit statement values write).Ensures w fun a w' =>
      ∃ db', write db = .ok (a, db') ∧ w.Onward w' db' := by
  refine (update_ensures h statement values write).bind ?_
  intro a w₁ ⟨db', hw, h₁⟩
  have ⟨c, hc, ht⟩ := h₁.isOpen
  refine (commit_ensures hc ht).bind ?_
  intro _ w₂ ⟨h₂, same⟩
  exact .pure ⟨db', hw, h₂.open, h₁.same.trans same⟩

/-- A rollback of nothing leaves the tables as they are. -/
theorem rollback_ensures (h : w.Settled serial db) :
    rollback.Ensures w fun _ w' => w'.Settled serial db ∧ w.SameSurroundings w' := by
  have ⟨c, hc, hn, ht, hd⟩ := h
  refine .after (runIn_connection hc) ?_
  split
  · exact .change ⟨⟨_, connection_onConnection hc _, hn, rfl, hd⟩, rfl, rfl, rfl⟩
  · exact .pure ⟨⟨c, hc, hn, ht, hd⟩, .refl w⟩

/-- A transaction that is opened while nothing is pending has written nothing. -/
theorem openTransaction_ensures_settled (h : w.Settled serial db) :
    openTransaction.Ensures w fun _ w' => w'.Settled serial db ∧ w.SameSurroundings w' := by
  have ⟨c, hc, hn, ht, hd⟩ := h
  refine .after (runIn_connection hc) ?_
  split
  · exact .change ⟨⟨_, connection_onConnection hc _, hn, rfl, hd⟩, rfl, rfl, rfl⟩
  · exact .pure ⟨⟨c, hc, hn, ht, hd⟩, .refl w⟩

/-- A value of which `P` holds is read from these tables, and nothing else is done than that the
connection remembers it. -/
def Reads (x : Action ω α) (db : Database) (P : α → Prop) : Prop :=
  ∀ w : World ω, w.Open db → x.Ensures w fun a w' => P a ∧ w.Alike w'

/-- A sequence reads what its second part does after what the first reads. -/
theorem Reads.bind {x : Action ω α} {f : α → Action ω β} {P : α → Prop} {R : β → Prop}
    (hx : x.Reads db P) (hf : ∀ a, P a → (f a).Reads db R) : (x >>= f).Reads db R := by
  intro w h
  refine (hx w h).bind ?_
  intro a w₁ ⟨ha, h₁⟩
  refine (hf a ha w₁ (h₁.open h)).mono ?_
  intro b w₂ ⟨hb, h₂⟩
  exact ⟨hb, h₁.trans h₂⟩

/-- To give a value is to read it. -/
theorem Reads.pure {a : α} {P : α → Prop} (ha : P a) :
    (Pure.pure a : Action ω α).Reads db P :=
  fun w _ => .pure ⟨ha, .refl w⟩

/-- To fail is to read nothing. -/
theorem Reads.throw (e : Error) {P : α → Prop} :
    (MonadExcept.throw e : Action ω α).Reads db P :=
  fun _ _ => .throw e

/-- A result computed without the world is read as it is. -/
theorem Reads.of {r : Except Error α} {P : α → Prop} (h : ∀ a, r = .ok a → P a) :
    (Action.of r : Action ω α).Reads db P :=
  fun w _ => .of fun a same => ⟨h a same, .refl w⟩

/-- A query reads what the tables give. -/
theorem query_reads (statement : Statement) (values : List Value) (read : Database → α) :
    (query statement values read : Action ω α).Reads db fun a => a = read db :=
  fun _ h => query_ensures h statement values read

/-- Reading inside one transaction gives what the body reads from the tables. -/
theorem reading_ensures {body : Action ω α} {P : α → Prop} (h : w.Open db)
    (reads : body.Reads db P) :
    (reading body).Ensures w fun a w' => P a ∧ w.Onward w' db := by
  have ⟨c, hc, ht⟩ := h
  refine .after (runIn_connection hc) ?_
  refine (commit_ensures hc ht).bind ?_
  intro _ w₁ ⟨h₁, same₁⟩
  refine (openTransaction_ensures_settled h₁).bind ?_
  intro _ w₂ ⟨h₂, same₂⟩
  rcases run : body.runIn w₂ with ⟨r, w₃⟩
  refine .after (by rw [runIn_outcome, run]) ?_
  refine .after runIn_get ?_
  dsimp only
  cases r with
  | error e =>
    split
    · split
      · exact .skip fun _ _ => .of nofun
      · exact .never (.throw _) _
    · exact .never (.throw _) _
  | ok a =>
    have ⟨ha, alike⟩ := reads w₂ h₂.open a w₃ run
    split
    · split
      · refine (rollback_ensures (alike.settled h₂)).bind ?_
        intro _ w₄ ⟨h₄, same₄⟩
        refine .of fun _ same => ?_
        cases same
        exact ⟨ha, h₄.open, same₁.trans (same₂.trans (alike.sameSurroundings.trans same₄))⟩
      · exact .never (.throw _) _
    · exact .never (.throw _) _

end Action

end CodeGauge
