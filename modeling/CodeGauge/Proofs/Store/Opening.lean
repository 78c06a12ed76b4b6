import CodeGauge.Proofs.Store.Session

/-!
# Opening before the first statement

A repository that is not open is opened by the first statement that needs it. Hence an action that
begins with such a statement runs as it does after opening (`Opens`), and what it meets is what the
repository shows once it is open (`World.Shows`). The number of a snapshot is taken before the
repository is opened, which makes no difference to the opening (`Blind`).
-/

namespace CodeGauge

variable {ω α β : Type}

/-- The tables and the disk that actions on the repository in use meet, once it is open. -/
def World.Shows (w : World ω) (db : Database) (disk : Disk) : Prop :=
  (Action.tables.runIn w).1 = .ok db ∧ (Action.tables.runIn w).2.disk = disk

/-- An open repository shows its tables. -/
theorem World.Open.shows {w : World ω} {db : Database} (h : w.Open db) : w.Shows db w.disk := by
  rw [Shows, Action.runIn_tables h]
  exact ⟨rfl, rfl⟩

namespace Action

open World

variable {w : World ω}

/-! ## What opening ensures -/

/-- To make the tables leaves the repository, the clock and the capacity as they are. -/
theorem makeTables_ensures (c : Connection) :
    (makeTables c).Ensures w fun _ w' =>
      w'.repository = w.repository ∧ w'.clock = w.clock ∧ w'.capacity = w.capacity := by
  unfold makeTables
  dsimp only
  split
  · exact .never (.throw _) _
  refine .after runIn_get ?_
  split
  · exact .throw _
  split
  · exact .pure ⟨rfl, rfl, rfl⟩
  split
  · exact .change ⟨rfl, rfl, rfl⟩
  · exact .never (.throw _) _

private theorem connectAt_ensures (path : Path) (location : Location) :
    (connectAt path location).Ensures w fun _ w' =>
      w'.clock = w.clock ∧ w'.capacity = w.capacity := by
  unfold connectAt
  refine .after runIn_get ?_
  dsimp only
  split
  · refine .after (runIn_change _) (.change ⟨rfl, rfl⟩)
  split
  · exact .never (.throw _) _
  split
  · exact .throw _
  · exact .after (runIn_change _) (.change ⟨rfl, rfl⟩)

/-- The connection that is given is the one in use afterwards. -/
theorem connection_ensures :
    connection.Ensures w fun c w' =>
      w'.repository.connection = some c ∧ w'.clock = w.clock ∧ w'.capacity = w.capacity := by
  refine .after runIn_get ?_
  dsimp only
  split
  next c hc => exact .pure ⟨hc, rfl, rfl⟩
  refine .after runIn_get ?_
  refine .bind (P := fun _ w₁ => w₁ = w) (.of fun _ _ => rfl) fun disk _ same => ?_
  subst same
  refine .after (runIn_change _) ?_
  split
  · exact .throw _
  refine (connectAt_ensures _ _).bind fun _ w₂ ⟨clock, capacity⟩ => ?_
  refine .after runIn_get ?_
  split
  next c hc =>
    refine (makeTables_ensures c).bind fun _ w₃ ⟨same, clock', capacity'⟩ => ?_
    exact .pure ⟨same ▸ hc, clock'.trans clock, capacity'.trans capacity⟩
  · exact .throw _

/-! ## Opening and transactions -/

private theorem connectAt_ensures_idle (path : Path) (location : Location) :
    (connectAt path location).Ensures w fun _ w' =>
      ∃ c, w'.repository.connection = some c ∧ c.transaction = none ∧
        (w'.databases = w.databases ∨
          c.place = none ∧ c.writes = true ∧ w'.databases[c.file]? = some .bare) := by
  unfold connectAt
  refine .after runIn_get ?_
  dsimp only
  split
  · refine .after (runIn_change _) (.change ⟨_, rfl, rfl, .inr ⟨rfl, rfl, ?_⟩⟩)
    exact Std.ExtTreeMap.getElem?_insert_self
  split
  · exact .never (.throw _) _
  split
  · exact .throw _
  · exact .after (runIn_change _) (.change ⟨_, rfl, rfl, .inl rfl⟩)

private theorem connectAt_fails (path : Path) (location : Location) :
    (connectAt path location).Fails w fun _ w' => w' = w := by
  unfold connectAt
  refine .after runIn_get ?_
  dsimp only
  split
  · refine .after (runIn_change _) (.never (runIn_change _))
  split
  · exact .stop (.throw rfl) (.throw _) _
  split
  · exact .throw rfl
  · exact .after (runIn_change _) (.never (runIn_change _))

private theorem makeTables_fails (c : Connection) :
    (makeTables c).Fails w fun _ w' => w' = w ∧
      ¬(c.place = none ∧ c.writes = true ∧ w.databases[c.file]? = some .bare) := by
  unfold makeTables
  dsimp only
  split
  · next long =>
    refine .stop (.throw ⟨rfl, fun ⟨nowhere, _⟩ => ?_⟩) (.throw _) _
    rw [nowhere] at long
    cases long
  refine .after runIn_get ?_
  split
  · next fault unread =>
    refine .throw ⟨rfl, fun ⟨_, _, bare⟩ => ?_⟩
    rw [committed, bare] at unread
    cases unread
  split
  · exact .never rfl
  split
  · exact .never (runIn_change _)
  · next fixed => exact .stop (.throw ⟨rfl, fun ⟨_, writes, _⟩ => fixed writes⟩) (.throw _) _

private theorem makeTables_ensures_whole (c : Connection) :
    (makeTables c).Ensures w fun _ w' => ∃ db, w'.committed c.file = .ok db ∧ db.dropped = [] := by
  unfold makeTables
  dsimp only
  split
  · exact .never (.throw _) _
  refine .after runIn_get ?_
  split
  · exact .throw _
  next db shown =>
  split
  next whole => exact .pure ⟨db, shown, List.isEmpty_iff.mp whole⟩
  split
  · refine .change ⟨db.withAllTables, ?_, rfl⟩
    rw [committed, Std.ExtTreeMap.getElem?_insert_self]
  · exact .never (.throw _) _

/-- If no transaction is open, none is once the repository is open. -/
theorem connection_ensures_idle (idle : w.Idle) :
    connection.Ensures w fun c w' =>
      w'.repository.connection = some c ∧ c.transaction = none := by
  refine .after runIn_get ?_
  dsimp only
  split
  next c hc => exact .pure ⟨hc, idle c hc⟩
  refine .after runIn_get ?_
  refine .given fun disk _ => .after (runIn_change _) ?_
  split
  · exact .throw _
  refine (connectAt_ensures_idle _ _).bind ?_
  intro _ w₁ ⟨c, hc, fresh, _⟩
  refine .after runIn_get ?_
  rw [hc]
  refine (makeTables_ensures c).bind fun _ w₂ same => ?_
  exact .pure ⟨same.1 ▸ hc, fresh⟩

/-- A repository that is opened shows all tables. -/
theorem connection_ensures_whole (closed : w.repository.connection = none) :
    connection.Ensures w fun c w' => ∃ db, w'.tables c = .ok db ∧ db.dropped = [] := by
  refine .after runIn_get ?_
  dsimp only
  rw [closed]
  refine .after runIn_get ?_
  refine .given fun disk _ => .after (runIn_change _) ?_
  split
  · exact .throw _
  refine (connectAt_ensures_idle _ _).bind ?_
  intro _ w₁ ⟨c, hc, fresh, _⟩
  refine .after runIn_get ?_
  rw [hc]
  refine (makeTables_ensures_whole c).bind fun _ w₂ ⟨db, shown, whole⟩ => .pure ⟨db, ?_, whole⟩
  rw [World.tables, fresh]
  exact shown

/-- A repository that cannot be opened has its databases as they were, with no transaction open. -/
theorem connection_fails :
    connection.Fails w fun _ w' => w'.databases = w.databases ∧ w'.Idle := by
  refine .after runIn_get ?_
  dsimp only
  split
  · exact .never rfl
  next closed =>
    have idle : w.Idle := by
      intro c hc
      rw [closed] at hc
      cases hc
    refine .after runIn_get ?_
    refine .bind (P := fun _ w₁ => w₁ = w) (.of fun _ _ => ⟨rfl, idle⟩) (.of fun _ _ => rfl) ?_
    rintro disk _ rfl
    refine .after (runIn_change _) ?_
    split
    · exact .throw ⟨rfl, idle⟩
    refine .bind ((connectAt_fails _ _).mono ?_) (connectAt_ensures_idle _ _) ?_
    · rintro e _ rfl
      exact ⟨rfl, idle⟩
    intro _ w₁ ⟨c, hc, fresh, kept⟩
    refine .after runIn_get ?_
    rw [hc]
    refine .bind ((makeTables_fails c).mono ?_) (makeTables_ensures c) fun _ _ _ => .never rfl
    rintro e _ ⟨rfl, onDisk⟩
    exact ⟨kept.resolve_right onDisk, .of_connection hc fresh⟩

/-! ## Actions that take no notice of how many snapshots were loaded -/

/-- The number of loads so far neither changes the run nor is changed by it. -/
def Blind (x : Action ω α) : Prop :=
  ∀ (w : World ω) (n : Nat),
    x.runIn { w with loads := n } = ((x.runIn w).1, { (x.runIn w).2 with loads := n })

namespace Blind

private theorem bind {x : Action ω α} {f : α → Action ω β} (hx : Blind x) (hf : ∀ a, Blind (f a)) :
    Blind (x >>= f) := by
  intro w n
  rw [runIn_bind, runIn_bind, hx w n]
  rcases x.runIn w with ⟨r, w₁⟩
  cases r with
  | error e => rfl
  | ok a => exact hf a w₁ n

private theorem get {k : World ω → Action ω β} (same : ∀ w n, k { w with loads := n } = k w)
    (hk : ∀ w, Blind (k w)) : Blind (MonadState.get >>= k) := by
  intro w n
  rw [runIn_bind_of_ok runIn_get, runIn_bind_of_ok runIn_get, same w n]
  exact hk w w n

private theorem pure (a : α) : Blind (Pure.pure a : Action ω α) :=
  fun _ _ => rfl

private theorem throw (e : Error) : Blind (MonadExcept.throw e : Action ω α) :=
  fun _ _ => rfl

private theorem of (r : Except Error α) : Blind (Action.of r : Action ω α) := by
  intro w n
  rw [runIn_of, runIn_of]

private theorem change {f : World ω → World ω}
    (same : ∀ w n, f { w with loads := n } = { f w with loads := n }) :
    Blind (Action.change f) := by
  intro w n
  rw [runIn_change, runIn_change, same]

/-- A check that fails or lets the rest go on. -/
theorem check {c : Prop} [Decidable c] {e : Error} {x : Action ω α} (hx : Blind x) :
    Blind (if c then MonadExcept.throw e >>= fun _ : PUnit => x else x) := by
  split
  · exact bind (throw _) fun _ => hx
  · exact hx

end Blind

private theorem blind_makeTables (c : Connection) : Blind (makeTables c : Action ω Unit) := by
  unfold makeTables
  dsimp only
  refine .check (.get (fun _ _ => rfl) fun w => ?_)
  split
  · exact .throw _
  split
  · exact .pure _
  split
  · exact .change fun _ _ => rfl
  · exact .bind (.throw _) fun _ => .change fun _ _ => rfl

private theorem blind_connectAt (path : Path) (location : Location) :
    Blind (connectAt path location : Action ω Unit) := by
  unfold connectAt
  refine .get (fun _ _ => rfl) fun w => ?_
  dsimp only
  split
  · exact .bind (.change fun _ _ => rfl) fun _ => .change fun _ _ => rfl
  refine .check ?_
  split
  · exact .throw _
  · exact .bind (.change fun _ _ => rfl) fun _ => .change fun _ _ => rfl

/-- To open the repository takes no notice of how many snapshots were loaded. -/
theorem blind_connection : Blind (connection : Action ω Connection) := by
  refine .get (fun _ _ => rfl) fun w => ?_
  dsimp only
  split
  · exact .pure _
  refine .get (fun _ _ => rfl) fun w => ?_
  refine .bind (.of _) fun disk => .bind (.change fun _ _ => rfl) fun _ => ?_
  split
  · exact .throw _
  refine .bind (blind_connectAt _ _) fun _ => .get (fun _ _ => rfl) fun w => ?_
  split
  · exact .bind (blind_makeTables _) fun _ => .pure _
  · exact .throw _

/-! ## Actions that begin by opening the repository -/

/-- The action runs as it does once the repository is open. -/
def Opens (x : Action ω α) : Prop :=
  ∀ (w o : World ω) (c : Connection), connection.runIn w = (.ok c, o) → x.runIn w = x.runIn o

/-- Opening once more changes nothing. -/
theorem runIn_connection_opened {o : World ω} {c : Connection}
    (run : connection.runIn w = (.ok c, o)) : connection.runIn o = (.ok c, o) :=
  runIn_connection (connection_ensures c o run).1

/-- The number of loads is the same once the repository is open. -/
theorem loads_opened {o : World ω} {c : Connection} (run : connection.runIn w = (.ok c, o)) :
    o.loads = w.loads := by
  have same := congrArg (fun r => r.2.loads) (blind_connection w w.loads)
  simp only at same
  rw [show { w with loads := w.loads } = w from rfl, run] at same
  exact same

/-- A sequence begins by opening the repository if its first part does. -/
theorem Opens.bind {x : Action ω α} (hx : Opens x) (f : α → Action ω β) : Opens (x >>= f) := by
  intro w o c run
  rw [runIn_bind, runIn_bind, hx w o c run]

/-- To ask for the connection begins by opening the repository. -/
theorem opens_connection : Opens (connection : Action ω Connection) := by
  intro w o c run
  rw [run, runIn_connection_opened run]

/-- A read transaction begins by opening the repository. -/
theorem opens_reading (body : Action ω α) : Opens (reading body) :=
  opens_connection.bind _

/-- A query begins by opening the repository. -/
theorem opens_query (statement : Statement) (values : List Value) (read : Database → α) :
    Opens (query statement values read : Action ω α) :=
  (opens_connection.bind _).bind _

/-- A committed update begins by opening the repository. -/
theorem opens_updateAndCommit (statement : Statement) (values : List Value)
    (write : Database → Except DatabaseFault (α × Database)) :
    Opens (updateAndCommit statement values write : Action ω α) :=
  ((opens_connection.bind _).bind _).bind _

private theorem Opens.outcome {x : Action ω α} (hx : Opens x) : Opens x.outcome := by
  intro w o c run
  rw [runIn_outcome, runIn_outcome, hx w o c run]

/-- How faults are reported makes no difference to how an action begins. -/
theorem Opens.reportingGraphFaults {x : Action ω α} (hx : Opens x) :
    Opens x.reportingGraphFaults :=
  hx.outcome.bind _

end Action

/-- What is shown is what the repository has once it is open. -/
theorem World.Shows.exists_open {w : World ω} {db : Database} {disk : Disk}
    (h : w.Shows db disk) :
    ∃ o : World ω, o.Open db ∧ o.disk = disk ∧ o.clock = w.clock ∧
      ∀ {α : Type} (x : Action ω α), x.Opens → x.runIn w = x.runIn o := by
  rcases run : Action.connection.runIn w with ⟨r, o⟩
  cases r with
  | error e =>
    rw [Shows, Action.tables, Action.runIn_bind, run] at h
    cases h.1
  | ok c =>
    obtain ⟨hc, clock, _⟩ := Action.connection_ensures c o run
    rw [Shows, Action.tables, Action.runIn_bind_of_ok run,
      Action.runIn_bind_of_ok Action.runIn_get] at h
    refine ⟨o, ⟨c, hc, ?_⟩, ?_, clock, fun x opens => opens w o c run⟩
    · cases ht : o.tables c with
      | error fault =>
        rw [ht] at h
        cases h.1
      | ok shown =>
        rw [ht] at h
        have same : (.ok shown : Except Error Database) = .ok db := h.1
        cases same
        rfl
    · cases ht : o.tables c with
      | error fault =>
        rw [ht] at h
        cases h.1
      | ok shown =>
        rw [ht] at h
        exact h.2

/-- A repository that is not open yet shows all tables. -/
theorem World.Shows.whole {w : World ω} {db : Database} {disk : Disk} (h : w.Shows db disk)
    (closed : w.repository.connection = none) : db.dropped = [] := by
  rcases run : Action.connection.runIn w with ⟨r, o⟩
  cases r with
  | error e =>
    rw [Shows, Action.tables, Action.runIn_bind, run] at h
    cases h.1
  | ok c =>
    obtain ⟨shown, tables, whole⟩ := Action.connection_ensures_whole closed c o run
    rw [Shows, Action.tables, Action.runIn_bind_of_ok run,
      Action.runIn_bind_of_ok Action.runIn_get, tables] at h
    cases h.1
    exact whole

/-- What an action that begins by opening the repository ensures when it is open, it ensures
whenever the repository shows the tables. -/
theorem Action.Opens.ensures {x : Action ω α} (hx : x.Opens) {w : World ω} {db db' : Database}
    {disk : Disk} (shows : w.Shows db disk) {P : α → Disk → Prop}
    (h : ∀ o : World ω, o.Open db → x.Ensures o fun a w' => P a o.disk ∧ o.Onward w' db') :
    x.Ensures w fun a w' => P a disk ∧ w'.Shows db' disk := by
  have ⟨o, isOpen, sameDisk, _, opened⟩ := shows.exists_open
  intro a w' run
  rw [opened _ hx] at run
  have ⟨holds, onward⟩ := h o isOpen a w' run
  have shows' := onward.isOpen.shows
  rw [sameDisk] at holds
  rw [onward.same.disk, sameDisk] at shows'
  exact ⟨holds, shows'⟩

end CodeGauge
