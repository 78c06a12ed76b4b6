import CodeGauge.Proofs.Store.Session

/-!
# Statements that fail

A statement that fails may have opened a transaction, and what was pending before it stays pending
or, if the database is full, is lost. It commits nothing. What a statement can do at all, and with
which errors it can fail, is told without regard to the tables (`Action.Confined`). A statement that
is stopped by something other than a fault of the database has left the tables alone.
-/

namespace CodeGauge

variable {ω α β : Type}

/-- The database refused a statement. -/
def Error.IsFault (e : Error) : Prop :=
  ∃ fault, e = .database fault

namespace World

/-- The worlds differ at most in what is pending on the connection and what it remembers. -/
def Uncommitted (w w' : World ω) : Prop :=
  ∃ transaction ready fault, w' = w.onConnection fun c => { c with transaction, ready, fault }

variable {w w₁ w₂ : World ω}

/-- What was not committed is gone once the repository is closed. -/
theorem Uncommitted.closing (h : w.Uncommitted w₁) : w₁.closing = w.closing := by
  obtain ⟨transaction, ready, fault, rfl⟩ := h
  rfl

/-- Two changes that commit nothing commit nothing together. -/
theorem Uncommitted.trans (h : w.Uncommitted w₁) (k : w₁.Uncommitted w₂) : w.Uncommitted w₂ := by
  obtain ⟨transaction, ready, fault, rfl⟩ := h
  obtain ⟨transaction', ready', fault', rfl⟩ := k
  refine ⟨transaction', ready', fault', ?_⟩
  simp [onConnection, Option.map_map, Function.comp_def]

/-- A change of what a connection remembers commits nothing. -/
theorem uncommitted_onConnection (w : World ω) {f : Connection → Connection}
    (hf : ∀ c, ∃ transaction ready fault, f c = { c with transaction, ready, fault }) :
    w.Uncommitted (w.onConnection f) := by
  rcases w with
    ⟨disk, clock, stamp, loads, databases, ⟨path, connection⟩, connections, capacity, others⟩
  cases connection with
  | none => exact ⟨none, [], none, rfl⟩
  | some c =>
    have ⟨transaction, ready, fault, same⟩ := hf c
    refine ⟨transaction, ready, fault, ?_⟩
    simp only [onConnection, Option.map_some, same]

/-- Reading commits nothing. -/
theorem Alike.uncommitted (h : w.Alike w₁) : w.Uncommitted w₁ := by
  obtain ⟨ready, fault, rfl⟩ := h
  exact uncommitted_onConnection w fun c => ⟨c.transaction, ready, fault, rfl⟩

private theorem Uncommitted.refl (w : World ω) : w.Uncommitted w :=
  (Alike.refl w).uncommitted

/-- A repository that was open stays so as long as nothing is committed. -/
theorem Uncommitted.exists_connection (h : w.Uncommitted w₁)
    (isOpen : ∃ c, w.repository.connection = some c) :
    ∃ c, w₁.repository.connection = some c := by
  obtain ⟨c, hc⟩ := isOpen
  obtain ⟨transaction, ready, fault, rfl⟩ := h
  exact ⟨_, connection_onConnection hc _⟩

end World

namespace Action

open World

variable {w : World ω} {db : Database} {C D : Error → Prop}

/-! ## What an action can do at all -/

/-- On an open repository the action changes at most what is pending and what is remembered, and
all its errors are of one kind. -/
def Confined (C : Error → Prop) (x : Action ω α) : Prop :=
  ∀ w : World ω, (∃ c, w.repository.connection = some c) →
    w.Uncommitted (x.runIn w).2 ∧ ∀ e, (x.runIn w).1 = .error e → C e

namespace Confined

/-- The errors that an action is confined to may be more than it has. -/
theorem mono {x : Action ω α} (h : x.Confined C) (imp : ∀ e, C e → D e) : x.Confined D :=
  fun w isOpen => ⟨(h w isOpen).1, fun e failed => imp e ((h w isOpen).2 e failed)⟩

/-- A confined action fails within its confines. -/
theorem fails {x : Action ω α} (h : x.Confined C) {c : Connection}
    (hc : w.repository.connection = some c) : x.Fails w fun e _ => C e :=
  fun e _ run => (h w ⟨c, hc⟩).2 e (congrArg Prod.fst run)

/-- A sequence is confined if its second part is, wherever the first gave it a value. -/
theorem bind_of_run {x : Action ω α} {f : α → Action ω β} (hx : x.Confined C)
    (hf : ∀ w a w₁, x.runIn w = (.ok a, w₁) → (f a).Confined C) : (x >>= f).Confined C := by
  intro w isOpen
  have ⟨first, fails⟩ := hx w isOpen
  rw [runIn_bind]
  rcases run : x.runIn w with ⟨r, w₁⟩
  rw [run] at first fails
  cases r with
  | error e =>
    refine ⟨first, fun e' same => ?_⟩
    cases same
    exact fails e rfl
  | ok a =>
    have ⟨second, fails'⟩ := hf w a w₁ run w₁ (first.exists_connection isOpen)
    exact ⟨first.trans second, fails'⟩

/-- A sequence is confined if both its parts are. -/
theorem bind {x : Action ω α} {f : α → Action ω β} (hx : x.Confined C)
    (hf : ∀ a, (f a).Confined C) : (x >>= f).Confined C :=
  hx.bind_of_run fun _ a _ _ => hf a

/-- What would follow a failing action is not run. -/
theorem never {x : Action ω α} (hx : x.Confined C) (no : ∀ w, x.Ensures w fun _ _ => False)
    (f : α → Action ω β) : (x >>= f).Confined C :=
  hx.bind_of_run fun w a w₁ run => (no w a w₁ run).elim

/-- To give a value is confined. -/
theorem pure (a : α) : (Pure.pure a : Action ω α).Confined C :=
  fun w _ => ⟨.refl w, nofun⟩

private theorem get : (MonadState.get : Action ω (World ω)).Confined C :=
  fun w _ => ⟨.refl w, nofun⟩

private theorem throw {e : Error} (h : C e) : (MonadExcept.throw e : Action ω α).Confined C := by
  refine fun w _ => ⟨.refl w, fun e' same => ?_⟩
  cases same
  exact h

private theorem onConnection {f : Connection → Connection}
    (hf : ∀ c, ∃ transaction ready fault, f c = { c with transaction, ready, fault }) :
    (Action.onConnection f : Action ω Unit).Confined C :=
  fun w _ => ⟨uncommitted_onConnection w hf, nofun⟩

/-- A result computed without the world, and what follows if there is one. -/
theorem given {r : Except Error α} {f : α → Action ω β} (fails : ∀ e, r = .error e → C e)
    (rest : ∀ a, r = .ok a → (f a).Confined C) : (Action.of r >>= f).Confined C := by
  cases r with
  | error e => exact never (throw (fails e rfl)) (fun _ => .throw e) f
  | ok a =>
    refine bind_of_run (pure a) fun _ a' _ run => ?_
    cases run
    exact rest a rfl

/-- A loop is confined if its body is for each element. -/
theorem forM {as : List α} {f : α → Action ω Unit} (h : ∀ a ∈ as, (f a).Confined C) :
    (as.forM f).Confined C := by
  induction as with
  | nil => exact pure ()
  | cons a as ih =>
    refine bind (h a List.mem_cons_self) fun _ => ?_
    exact ih fun a ha => h a (List.mem_cons_of_mem _ ha)

end Confined

private theorem refuse_confined (fault : DatabaseFault) :
    (refuse fault : Action ω α).Confined Error.IsFault :=
  .bind (.onConnection fun _ => ⟨_, _, _, rfl⟩) fun _ => .throw ⟨fault, rfl⟩

private theorem connection_confined : (connection : Action ω Connection).Confined C := by
  intro w ⟨c, hc⟩
  rw [runIn_connection hc]
  exact ⟨.refl w, nofun⟩

private theorem tables_confined : (tables : Action ω Database).Confined Error.IsFault := by
  refine .bind connection_confined fun c => .bind .get fun w => ?_
  split
  · exact .pure _
  · exact refuse_confined _

private theorem requireTables_confined (statement : Statement) :
    (requireTables statement : Action ω Unit).Confined Error.IsFault := by
  refine .bind tables_confined fun db => ?_
  split
  · exact refuse_confined _
  · exact .pure _

private theorem requireListed_confined (statement : Statement) :
    (requireListed statement : Action ω Unit).Confined Error.IsFault := by
  refine .bind .get fun w => ?_
  split
  · exact refuse_confined _
  · exact .pure _

/-- To make a statement ready fails by a fault of the database alone. -/
theorem prepare_confined (statement : Statement) :
    (prepare statement : Action ω Unit).Confined Error.IsFault := by
  refine .bind connection_confined fun c => ?_
  split
  · exact .pure _
  refine .bind (requireListed_confined statement) fun _ => ?_
  refine .bind (requireTables_confined statement) fun _ => ?_
  split
  · exact .never (refuse_confined _) (fun _ => .refuse _) _
  · exact .onConnection fun _ => ⟨_, _, _, rfl⟩

/-- To open a transaction is confined, whatever the errors. -/
theorem openTransaction_confined : (openTransaction : Action ω Unit).Confined C := by
  refine .bind connection_confined fun c => ?_
  split
  · exact .onConnection fun _ => ⟨_, _, _, rfl⟩
  · exact .pure _

/-- A statement that is given its values or run fails because of a fault of the database, or because
no column can hold one of the values. -/
def Stops (values : List Value) (e : Error) : Prop :=
  e.IsFault ∨ e = .beyondColumn ∧ ∃ v ∈ values, fits v = false

private theorem exists_unfit {values : List Value} {i : Nat}
    (found : values.findIdx? (!fits ·) = some i) : ∃ v ∈ values, fits v = false := by
  have any : values.any (!fits ·) = true := by
    rw [← List.findIdx?_isSome, found]
    rfl
  simpa using any

private theorem bind_confined (values : List Value) :
    (bind values : Action ω Unit).Confined (Stops values) := by
  unfold Action.bind
  split
  · split
    · exact .pure _
    · exact .onConnection fun _ => ⟨_, _, _, rfl⟩
  next found =>
    refine .bind connection_confined fun c => ?_
    split
    · exact .throw (.inl ⟨_, rfl⟩)
    · exact .throw (.inr ⟨rfl, exists_unfit found⟩)
  next found =>
    refine .bind (.onConnection fun _ => ⟨_, _, _, rfl⟩) fun _ => ?_
    exact .throw (.inr ⟨rfl, exists_unfit found⟩)

/-- A value that no column can hold cannot be given. -/
theorem bind_never {values : List Value} (unfit : ∃ v ∈ values, fits v = false) :
    (bind values).Ensures w fun _ _ => False := by
  unfold Action.bind
  split
  next none =>
    obtain ⟨v, mem, unfit⟩ := unfit
    have fit := List.findIdx?_eq_none_iff.mp none v mem
    simp [unfit] at fit
  · refine .skip fun c _ => ?_
    split
    · exact .throw _
    · exact .throw _
  · exact .skip fun _ _ => .throw _

/-- A query fails by a fault or by a value that no column holds. -/
theorem query_confined (statement : Statement) (values : List Value) (read : Database → α) :
    (query statement values read : Action ω α).Confined (Stops values) := by
  refine .bind ((prepare_confined statement).mono fun _ => .inl) fun _ =>
    .bind (bind_confined values) fun _ => .mono ?_ fun _ => .inl
  exact .bind (requireTables_confined statement) fun _ =>
    .bind (.onConnection fun _ => ⟨_, _, _, rfl⟩) fun _ => .bind tables_confined fun _ => .pure _

/-- Once a writing statement has its values, only a fault of the database can stop it. -/
theorem exists_perform_eq (statement : Statement) (values : List Value)
    (write : Database → Except DatabaseFault (α × Database)) :
    ∃ rest : Action ω α, perform statement values write = (do bind values; rest) ∧
      rest.Confined Error.IsFault := by
  refine ⟨_, rfl, ?_⟩
  refine .bind (requireTables_confined statement) fun _ => .bind connection_confined fun c => ?_
  dsimp only
  split
  case isFalse => exact .never (refuse_confined _) (fun _ => .refuse _) _
  refine .bind tables_confined fun before => ?_
  split
  · exact .bind (.onConnection fun _ => ⟨_, _, _, rfl⟩) fun _ => refuse_confined _
  · exact refuse_confined _
  refine .bind .get fun w => ?_
  split
  · exact .never (refuse_confined _) (fun _ => .refuse _) _
  · exact .bind (.onConnection fun _ => ⟨_, _, _, rfl⟩) fun _ => .pure _

/-- To perform a statement fails by a fault or by a value that no column holds. -/
theorem perform_confined (statement : Statement) (values : List Value)
    (write : Database → Except DatabaseFault (α × Database)) :
    (perform statement values write : Action ω α).Confined (Stops values) := by
  have ⟨rest, eq, confined⟩ := exists_perform_eq (ω := ω) statement values write
  rw [eq]
  exact .bind (bind_confined values) fun _ => confined.mono fun _ => .inl

/-- An update fails by a fault or by a value that no column holds. -/
theorem update_confined (statement : Statement) (values : List Value)
    (write : Database → Except DatabaseFault (α × Database)) :
    (update statement values write : Action ω α).Confined (Stops values) :=
  .bind ((prepare_confined statement).mono fun _ => .inl) fun _ =>
    .bind openTransaction_confined fun _ => perform_confined statement values write

/-! ## What an action shows where it failed -/

/-- Values are given without touching the tables. -/
theorem bind_fails (h : w.Open db) (values : List Value) :
    (bind values).Fails w fun _ w' => w'.Open db := by
  have ⟨c, hc, ht⟩ := h
  unfold Action.bind
  split
  · split
    · exact .never rfl
    · exact .never (runIn_onConnection _)
  · refine .after (runIn_connection hc) ?_
    split
    · exact .throw h
    · exact .throw h
  · exact .after (runIn_onConnection _) (.throw ((alike_onConnection w (·.ready)).open h))

/-- A writing statement that no fault of the database stopped has changed nothing. -/
theorem perform_fails (h : w.Open db) (statement : Statement) (values : List Value)
    (write : Database → Except DatabaseFault (α × Database)) :
    (perform statement values write).Fails w fun e w' => e.IsFault ∨ w'.Open db := by
  have ⟨rest, eq, confined⟩ := exists_perform_eq (ω := ω) statement values write
  rw [eq]
  refine .bind ((bind_fails h values).mono fun _ _ => .inr) (bind_ensures w values) ?_
  intro _ w₁ h₁
  have ⟨_, hc, _⟩ := h₁.open h
  exact (confined.fails hc).mono fun _ _ => .inl

/-- An update that fails without a fault leaves the repository open as it was. -/
theorem update_fails (h : w.Open db) (statement : Statement) (values : List Value)
    (write : Database → Except DatabaseFault (α × Database)) :
    (update statement values write).Fails w fun e w' => e.IsFault ∨ w'.Open db := by
  have ⟨c, hc, ht⟩ := h
  refine .bind (((prepare_confined statement).fails hc).mono fun _ _ => .inl)
    (prepare_ensures h statement) fun _ w₁ h₁ => ?_
  have ⟨_, hc₁, _⟩ := h₁.open h
  refine .bind ((openTransaction_confined.fails hc₁).mono fun _ _ => .inl)
    (openTransaction_ensures (h₁.open h)) fun _ w₂ h₂ => ?_
  exact perform_fails h₂.isOpen statement values write

end Action

end CodeGauge
