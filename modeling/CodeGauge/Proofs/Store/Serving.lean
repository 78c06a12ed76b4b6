import CodeGauge.Proofs.Store.Opening

/-!
# Statements that succeed

A repository serves its tables when it can be opened, none of the tables is missing, and the file
may be written and is still in its place (`World.Serves`). Then a query gives a value if it does not
list too many values and a column can hold each of them, and a writing statement does if, besides,
its write is not refused. What is given, and where that leads to, is told by the laws of sessions.
-/

open Std

namespace CodeGauge

variable {ω α β : Type}

/-- Where no table is missing, no statement misses one. -/
theorem Database.missing?_of_whole {db : Database} (whole : db.dropped = [])
    (tables : List TableName) : db.missing? tables = none := by
  simp [missing?, whole]

namespace World

/-- The repository is open on these tables, none of which is missing, and they may be written to a
file that is still in its place. -/
structure Ready (w : World ω) (db : Database) : Prop where
  whole : db.dropped = []
  isOpen : w.Open db
  writable : ∃ c, w.repository.connection = some c ∧ c.writes = true ∧ w.hasMoved c = false

/-- The repository can be opened, and is then ready with these tables on this disk. -/
def Serves (w : World ω) (db : Database) (disk : Disk) : Prop :=
  ∃ c o, Action.connection.runIn w = (.ok c, o) ∧ o.Ready db ∧ o.disk = disk

variable {w w₁ : World ω} {db db' : Database} {disk : Disk}

/-- A repository that is ready is ready with the tables that it shows. -/
theorem Ready.of_open (h : w.Ready db) (isOpen : w.Open db') : w.Ready db' := by
  obtain ⟨c, hc, shown⟩ := h.isOpen
  obtain ⟨c', hc', shown'⟩ := isOpen
  rw [hc] at hc'
  cases hc'
  rw [shown] at shown'
  cases shown'
  exact h

/-- A ready repository misses no table of a statement. -/
theorem Ready.missing (h : w.Ready db) (statement : Statement) :
    db.missing? statement.tables = none :=
  Database.missing?_of_whole h.whole _

/-- A repository that is ready serves its tables and the disk. -/
theorem Ready.serves (h : w.Ready db) : w.Serves db w.disk := by
  obtain ⟨c, hc, _⟩ := h.writable
  exact ⟨c, w, Action.runIn_connection hc, h, rfl⟩

/-- Tables that are served are shown. -/
theorem Serves.shows (h : w.Serves db disk) : w.Shows db disk := by
  obtain ⟨c, o, opened, ready, same⟩ := h
  obtain ⟨c', hc, tables⟩ := ready.isOpen
  obtain ⟨hc', _⟩ := Action.connection_ensures c o opened
  rw [hc] at hc'
  cases hc'
  rw [Shows, Action.tables, Action.runIn_bind_of_ok opened,
    Action.runIn_bind_of_ok Action.runIn_get, tables]
  exact ⟨rfl, same⟩

private theorem Ready.onConnection {f : Connection → Connection} (h : w.Ready db)
    (same : ∀ c, (f c).writes = c.writes ∧ (f c).place = c.place ∧ (f c).file = c.file)
    (shown : (w.onConnection f).Open db) : (w.onConnection f).Ready db := by
  obtain ⟨c, hc, writes, unmoved⟩ := h.writable
  obtain ⟨writes', place, file⟩ := same c
  refine ⟨h.whole, shown, f c, connection_onConnection hc f, writes'.trans writes, ?_⟩
  rw [hasMoved, place, file]
  exact unmoved

/-- To read leaves a repository ready. -/
theorem Alike.ready (alike : w.Alike w₁) (h : w.Ready db) : w₁.Ready db := by
  have shown := alike.open h.isOpen
  obtain ⟨ready, fault, rfl⟩ := alike
  exact h.onConnection (fun _ => ⟨rfl, rfl, rfl⟩) shown

end World

/-- The statement lists no values, and names no column that its table lacks. -/
structure Statement.Ordinary (statement : Statement) : Prop where
  listed : statement.listed = 0
  known : statement.unknownColumn? = none

/-- What lists no values is within every capacity. -/
theorem Statement.Ordinary.few {statement : Statement} (ordinary : statement.Ordinary)
    (capacity : Capacity) : statement.listed ≤ capacity.listed := by
  rw [ordinary.listed]
  exact Nat.zero_le _

namespace Action

open World

variable {w : World ω} {db : Database} {statement : Statement} {values : List Value}
  {capacity : Capacity}

/-! ## Bookkeeping -/

/-- Nothing happens where no table of the statement is missing. -/
theorem runIn_requireTables (isOpen : w.Open db) (there : db.missing? statement.tables = none) :
    (requireTables statement).runIn w = (.ok (), w) := by
  rw [requireTables, runIn_bind_of_ok (runIn_tables isOpen), there]
  rfl

/-- Nothing happens where the statement lists no more values than it may. -/
theorem runIn_requireListed (few : statement.listed ≤ w.capacity.listed) :
    (requireListed statement).runIn w = (.ok (), w) := by
  rw [requireListed, runIn_bind_of_ok runIn_get, if_neg (Nat.not_lt.mpr few)]
  rfl

/-- A statement is made ready if its tables and columns are there and it lists few values. -/
theorem prepare_succeeds (isOpen : w.Open db) (there : db.missing? statement.tables = none)
    (few : statement.listed ≤ w.capacity.listed) (known : statement.unknownColumn? = none) :
    (prepare statement).Succeeds w fun _ w' => w.Alike w' := by
  have made : (prepare statement).Succeeds w fun _ _ => True := by
    obtain ⟨c, hc, _⟩ := id isOpen
    refine .after (runIn_connection hc) ?_
    split
    · exact .pure trivial
    refine .after (runIn_requireListed few) (.after (runIn_requireTables isOpen there) ?_)
    rw [known]
    exact .change trivial
  exact (made.ensured (prepare_ensures isOpen statement)).mono fun _ _ both => both.2

private theorem bind_succeeds (w : World ω) (fit : ∀ v ∈ values, fits v = true) :
    (bind values).Succeeds w fun _ w' => w.Alike w' := by
  have none : values.findIdx? (!fits ·) = none := by
    rw [List.findIdx?_eq_none_iff]
    intro v mem
    rw [fit v mem]
    rfl
  have made : (bind values).Succeeds w fun _ _ => True := by
    unfold Action.bind
    rw [none]
    dsimp only
    split
    · exact .pure trivial
    · exact .change trivial
  exact (made.ensured (bind_ensures w values)).mono fun _ _ both => both.2

/-! ## Reading -/

/-- Of a repository that is ready with these tables the action gives a value, if statements have
this capacity. -/
def Replies (x : Action ω α) (db : Database) (capacity : Capacity) : Prop :=
  ∀ w : World ω, w.Ready db → w.capacity = capacity → x.Succeeds w fun _ _ => True

/-- A reply is what is read, and leaves the repository ready. -/
theorem Replies.reads {x : Action ω α} {P : α → Prop} (replies : x.Replies db w.capacity)
    (reads : x.Reads db P) (h : w.Ready db) : x.Succeeds w fun a w' => P a ∧ w.Alike w' :=
  ((replies w h rfl).ensured (reads w h.isOpen)).mono fun _ _ both => both.2

/-- What begins by opening the repository gives what is read from the tables that it serves. -/
theorem Replies.reads_of_serves {x : Action ω α} {P : α → Prop} {disk : Disk}
    (replies : x.Replies db w.capacity) (reads : x.Reads db P) (opens : x.Opens)
    (h : w.Serves db disk) : ∃ a, (x.runIn w).1 = .ok a ∧ P a := by
  obtain ⟨c, o, opened, ready, _⟩ := h
  rw [← (connection_ensures c o opened).2.2] at replies
  obtain ⟨a, w', run, holds, _⟩ := replies.reads reads ready
  exact ⟨a, by rw [opens w o c opened, run], holds⟩

/-- A sequence replies if its first part does, and its second after what that reads. -/
theorem Replies.bind {x : Action ω α} {f : α → Action ω β} {P : α → Prop}
    (hx : x.Replies db capacity) (reads : x.Reads db P)
    (hf : ∀ a, P a → (f a).Replies db capacity) : (x >>= f).Replies db capacity := by
  rintro w h rfl
  refine (hx.reads reads h).bind ?_
  rintro a w₁ ⟨holds, alike⟩
  exact hf a holds w₁ (alike.ready h) alike.sameSurroundings.capacity

/-- To give a value is to reply. -/
theorem Replies.pure (a : α) : (Pure.pure a : Action ω α).Replies db capacity :=
  fun _ _ _ => .pure trivial

/-- A result computed without the world is a reply if it is a value. -/
theorem Replies.of {r : Except Error α} (h : ∃ a, r = .ok a) :
    (Action.of r : Action ω α).Replies db capacity := by
  obtain ⟨a, made⟩ := h
  exact fun _ _ _ => .of made trivial

/-- A loop that accumulates a value has a reply if its body has, whatever was accumulated. -/
theorem Replies.foldlM {f : β → α → Action ω β} {as : List α}
    (replies : ∀ b, ∀ a ∈ as, (f b a).Replies db capacity)
    (reads : ∀ b, ∀ a ∈ as, (f b a).Reads db fun _ => True) (b : β) :
    (as.foldlM f b).Replies db capacity := by
  induction as generalizing b with
  | nil => exact .pure b
  | cons a as ih =>
    rw [List.foldlM_cons]
    refine (replies b a List.mem_cons_self).bind (reads b a List.mem_cons_self) fun next _ => ?_
    exact ih (fun b a' mem => replies b a' (List.mem_cons_of_mem _ mem))
      (fun b a' mem => reads b a' (List.mem_cons_of_mem _ mem)) next

private theorem ask_succeeds (isOpen : w.Open db) (there : db.missing? statement.tables = none)
    (fit : ∀ v ∈ values, fits v = true) (read : Database → α) :
    (do bind values; requireTables statement; succeed; return read (← tables) :
      Action ω α).Succeeds w fun _ _ => True := by
  refine (bind_succeeds w fit).bind fun _ w₁ alike => ?_
  have isOpen₁ : w₁.Open db := alike.open isOpen
  refine .after (runIn_requireTables isOpen₁ there) ?_
  refine .after (runIn_onConnection _) ?_
  have isOpen₂ := (alike_onConnection w₁ (·.ready)).open isOpen₁
  exact .after (runIn_tables isOpen₂) (.pure trivial)

/-- A query needs no more than an open repository, the tables of its statement, and values that are
not too many. -/
theorem query_succeeds (isOpen : w.Open db) (there : db.missing? statement.tables = none)
    (few : statement.listed ≤ w.capacity.listed) (known : statement.unknownColumn? = none)
    (fit : ∀ v ∈ values, fits v = true) (read : Database → α) :
    (query statement values read).Succeeds w fun a w' => a = read db ∧ w.Alike w' := by
  have made : (query statement values read).Succeeds w fun _ _ => True :=
    (prepare_succeeds isOpen there few known).bind fun _ _ alike =>
      ask_succeeds (alike.open isOpen) there fit read
  exact (made.ensured (query_ensures isOpen statement values read)).mono fun _ _ both => both.2

/-- Once its statement is ready, a query has a reply. -/
theorem ask_replies (fit : ∀ v ∈ values, fits v = true) (statement : Statement)
    (read : Database → α) :
    (do bind values; requireTables statement; succeed; return read (← tables) :
      Action ω α).Replies db capacity :=
  fun _ h _ => ask_succeeds h.isOpen (h.missing statement) fit read

/-- A query that lists as many values as fit is answered. -/
theorem queryListed_replies (few : statement.listed ≤ capacity.listed)
    (known : statement.unknownColumn? = none) (fit : ∀ v ∈ values, fits v = true)
    (read : Database → α) : (query statement values read : Action ω α).Replies db capacity := by
  rintro w h rfl
  exact (query_succeeds h.isOpen (h.missing statement) few known fit read).mono
    fun _ _ _ => trivial

/-- An ordinary query with values that fit is answered. -/
theorem query_replies (ordinary : statement.Ordinary) (fit : ∀ v ∈ values, fits v = true)
    (read : Database → α) : (query statement values read : Action ω α).Replies db capacity :=
  queryListed_replies (ordinary.few capacity) ordinary.known fit read

/-- A query that is given no values has a reply. -/
theorem queryAll_replies (ordinary : statement.Ordinary) (read : Database → α) :
    (query statement [] read : Action ω α).Replies db capacity :=
  query_replies ordinary (fun _ none => (List.not_mem_nil none).elim) read

/-! ## Transactions -/

/-- A commit leaves the repository ready. -/
theorem commit_succeeds (h : w.Ready db) : commit.Succeeds w fun _ w' => w'.Ready db := by
  obtain ⟨c, hc, tables⟩ := h.isOpen
  obtain ⟨c', hc', writes, unmoved⟩ := h.writable
  rw [hc] at hc'
  cases hc'
  have made : commit.Succeeds w fun _ w' =>
      ∃ c, w'.repository.connection = some c ∧ c.writes = true ∧ w'.hasMoved c = false := by
    refine .after (runIn_connection hc) ?_
    cases c.transaction with
    | none => exact .pure ⟨c, hc, writes, unmoved⟩
    | some t =>
      dsimp only
      cases t.written with
      | none => exact .change ⟨_, connection_onConnection hc _, writes, unmoved⟩
      | some written =>
        refine .after (runIn_change _) (.change ⟨_, connection_onConnection hc _, writes, ?_⟩)
        exact unmoved
  refine (made.ensured (commit_ensures hc tables)).mono ?_
  rintro _ w' ⟨writable, settled, _⟩
  exact ⟨h.whole, settled.open, writable⟩

/-- A transaction is opened where the repository is ready. -/
theorem openTransaction_succeeds (h : w.Ready db) :
    openTransaction.Succeeds w fun _ w' => w'.Ready db := by
  have made : openTransaction.Succeeds w fun _ w' => w'.Open db → w'.Ready db := by
    obtain ⟨c, hc, _⟩ := h.isOpen
    refine .after (runIn_connection hc) ?_
    split
    · exact .change fun shown => h.onConnection (fun _ => ⟨rfl, rfl, rfl⟩) shown
    · exact .pure fun _ => h
  refine (made.ensured (openTransaction_ensures h.isOpen)).mono ?_
  rintro _ w' ⟨ready, onward⟩
  exact ready onward.isOpen

private theorem rollback_succeeds {serial : Nat} (h : w.Ready db) (settled : w.Settled serial db) :
    rollback.Succeeds w fun _ w' => w'.Ready db := by
  have made : rollback.Succeeds w fun _ w' => w'.Open db → w'.Ready db := by
    obtain ⟨c, hc, _⟩ := h.isOpen
    refine .after (runIn_connection hc) ?_
    split
    · exact .change fun shown => h.onConnection (fun _ => ⟨rfl, rfl, rfl⟩) shown
    · exact .pure fun _ => h
  refine (made.ensured (rollback_ensures settled)).mono ?_
  rintro _ w' ⟨ready, settled', _⟩
  exact ready settled'.open

/-- How a reading ends: with the transaction, and with what the body gave. -/
def endReading (serial : Nat) (r : Except Error α) : Action ω α := do
  match (← get).repository.connection with
  | some now => if now.serial = serial then rollback else throw .closedConnection
  | none => throw .closedConnection
  of r

/-- Reading inside one transaction is to run the body where nothing is pending, and then to end the
transaction. -/
theorem exists_begun (h : w.Ready db) (body : Action ω α) :
    ∃ serial, ∃ w₁ : World ω, w₁.Ready db ∧ w₁.Settled serial db ∧ w.SameSurroundings w₁ ∧
      (reading body).runIn w = (body.outcome >>= endReading serial).runIn w₁ := by
  obtain ⟨c, hc, tables⟩ := h.isOpen
  obtain ⟨_, w₁, committed, ready₁, settled₁, same₁⟩ :=
    (commit_succeeds h).ensured (commit_ensures hc tables)
  obtain ⟨_, w₂, opened, ready₂, settled₂, same₂⟩ :=
    (openTransaction_succeeds ready₁).ensured (openTransaction_ensures_settled settled₁)
  refine ⟨c.serial, w₂, ready₂, settled₂, same₁.trans same₂, ?_⟩
  rw [reading, runIn_bind_of_ok (runIn_connection hc), runIn_bind_of_ok committed,
    runIn_bind_of_ok opened]
  rfl

/-- A read transaction ends where the repository is ready. -/
theorem endReading_succeeds {serial : Nat} (h : w.Ready db) (settled : w.Settled serial db)
    (a : α) : (endReading serial (.ok a)).Succeeds w fun _ w' => w'.Ready db := by
  obtain ⟨now, hnow, same, _⟩ := id settled
  refine .after runIn_get ?_
  rw [hnow]
  dsimp only
  rw [if_pos same]
  refine (rollback_succeeds h settled).bind ?_
  intro _ w₁ ready
  exact .of rfl ready

/-- Reading inside one transaction succeeds where the body does. -/
theorem reading_succeeds {body : Action ω α} {P : α → Prop} (h : w.Ready db)
    (replies : body.Replies db w.capacity) (reads : body.Reads db P) :
    (reading body).Succeeds w fun a w' => (P a ∧ w.Onward w' db) ∧ w'.Ready db := by
  have made : (reading body).Succeeds w fun _ w' => w'.Ready db := by
    obtain ⟨serial, w₁, ready, settled, same, begun⟩ := exists_begun h body
    rw [← same.capacity] at replies
    obtain ⟨a, w₂, run, _, alike⟩ := replies.reads reads ready
    rw [Succeeds, begun]
    refine Succeeds.after (by rw [runIn_outcome, run]) ?_
    exact endReading_succeeds (alike.ready ready) (alike.settled settled) a
  exact (made.ensured (reading_ensures h.isOpen reads)).mono fun _ _ both => ⟨both.2, both.1⟩

/-! ## Writing -/

/-- A writing statement that is ready succeeds if a column can hold each of its values and its write
is not refused. -/
theorem perform_succeeds {write : Database → Except DatabaseFault (α × Database)}
    {done : α × Database} (h : w.Ready db) (fit : ∀ v ∈ values, fits v = true)
    (written : write db = .ok done) (kept : done.2.dropped = db.dropped) :
    (perform statement values write).Succeeds w fun _ w' => w'.Ready done.2 := by
  refine (bind_succeeds w fit).bind fun _ w₁ alike => ?_
  have ready := alike.ready h
  refine .after (runIn_requireTables ready.isOpen (ready.missing statement)) ?_
  obtain ⟨c, hc, writes, unmoved⟩ := ready.writable
  refine .after (runIn_connection hc) ?_
  dsimp only
  rw [if_pos writes]
  refine .after (runIn_tables ready.isOpen) ?_
  rw [written]
  refine .after runIn_get ?_
  rw [unmoved, Bool.false_and, if_neg Bool.false_ne_true]
  refine .after (runIn_onConnection _) (.pure ⟨kept.trans h.whole, ?_, ?_⟩)
  · exact ⟨_, connection_onConnection hc _, rfl⟩
  · exact ⟨_, connection_onConnection hc _, writes, unmoved⟩

/-- An ordinary update is made where it can be written and drops no table. -/
theorem update_succeeds {write : Database → Except DatabaseFault (α × Database)}
    {done : α × Database} (h : w.Ready db) (ordinary : statement.Ordinary)
    (fit : ∀ v ∈ values, fits v = true) (written : write db = .ok done)
    (kept : done.2.dropped = db.dropped) :
    (update statement values write).Succeeds w fun _ w' => w'.Ready done.2 := by
  refine (prepare_succeeds h.isOpen (h.missing statement) (ordinary.few _) ordinary.known).bind
    fun _ w₁ alike => ?_
  refine (openTransaction_succeeds (alike.ready h)).bind fun _ w₂ ready => ?_
  exact perform_succeeds ready fit written kept

/-- An ordinary update is made and committed where it can be written and drops no table. -/
theorem updateAndCommit_succeeds {write : Database → Except DatabaseFault (α × Database)}
    {done : α × Database} (h : w.Ready db) (ordinary : statement.Ordinary)
    (fit : ∀ v ∈ values, fits v = true) (written : write db = .ok done)
    (kept : done.2.dropped = db.dropped) :
    (updateAndCommit statement values write).Succeeds w fun _ w' => w'.Ready done.2 :=
  (update_succeeds h ordinary fit written kept).bind fun _ _ ready =>
    (commit_succeeds ready).bind fun _ _ ready => .pure ready

/-- A value that a statement is given is one that a column can hold. -/
theorem bind_fits (w : World ω) (values : List Value) :
    (bind values).Ensures w fun _ _ => ∀ v ∈ values, fits v = true := by
  unfold Action.bind
  split
  next none =>
    rw [List.findIdx?_eq_none_iff] at none
    intro _ _ _ v mem
    simpa using none v mem
  · refine .skip fun c _ => ?_
    split
    · exact .throw _
    · exact .throw _
  · refine .skip fun c _ => ?_
    exact .throw _

/-- A writing statement that gave a value had values that columns can hold, and its write was not
refused. -/
theorem perform_accepts (w : World ω) (statement : Statement) (values : List Value)
    (write : Database → Except DatabaseFault (α × Database)) :
    (perform statement values write).Ensures w fun _ _ =>
      (∀ v ∈ values, fits v = true) ∧ ∃ before done, write before = .ok done := by
  refine (bind_fits w values).bind fun _ w₁ fit => ?_
  refine .skip fun _ w₂ => .skip fun c w₃ => ?_
  dsimp only
  split
  case isFalse => exact .never (.refuse _) _
  refine .skip fun before w₄ => ?_
  split
  · exact .skip fun _ _ => .refuse _
  · exact .refuse _
  next written => exact fun _ _ _ => ⟨fit, before, _, written⟩

/-- An update that is made had values that fit, and could be written. -/
theorem update_accepts (w : World ω) (statement : Statement) (values : List Value)
    (write : Database → Except DatabaseFault (α × Database)) :
    (update statement values write).Ensures w fun _ _ =>
      (∀ v ∈ values, fits v = true) ∧ ∃ before done, write before = .ok done :=
  .skip fun _ _ => .skip fun _ w₂ => perform_accepts w₂ statement values write

end Action

end CodeGauge
