import CodeGauge.Proofs.Store.Session
import CodeGauge.Store.Graph

/-!
# Tables that cannot be had

A repository may be open on a file that holds no database. Then no query succeeds, and what is read
without asking for anything is empty.
-/

open Std

namespace CodeGauge

variable {ω α β : Type}

namespace World

/-- The repository is open, but the file has no tables that could be had. -/
def Blocked (w : World ω) : Prop :=
  ∃ c, w.repository.connection = some c ∧ c.transaction.bind (·.written) = none ∧
    ∀ db, w.committed c.file ≠ .ok db

variable {w w' : World ω}

/-- A repository with a connection shows tables, or none can be had of its file. -/
theorem open_or_blocked {c : Connection} (hc : w.repository.connection = some c) :
    (∃ db, w.Open db) ∨ w.Blocked := by
  cases pending : c.transaction.bind (·.written) with
  | some db => exact .inl ⟨db, c, hc, by rw [tables, pending]⟩
  | none =>
    cases shown : w.committed c.file with
    | ok db => exact .inl ⟨db, c, hc, by rw [tables, pending, shown]⟩
    | error fault =>
      refine .inr ⟨c, hc, pending, fun db same => ?_⟩
      rw [shown] at same
      cases same

/-- What the connection remembers makes no difference, nor whether a transaction is open. -/
theorem Blocked.onConnection (h : w.Blocked) {f : Connection → Connection}
    (file : ∀ c, (f c).file = c.file)
    (transaction : ∀ c, (f c).transaction.bind (·.written) = none ∨
      (f c).transaction = c.transaction) : (w.onConnection f).Blocked := by
  obtain ⟨c, hc, pending, none⟩ := h
  refine ⟨f c, connection_onConnection hc f, ?_, fun db => ?_⟩
  · rcases transaction c with gone | same
    · exact gone
    · rw [same, pending]
  · rw [file]
    exact none db

private theorem Alike.blocked (alike : w.Alike w') (h : w.Blocked) : w'.Blocked := by
  obtain ⟨ready, fault, rfl⟩ := alike
  exact h.onConnection (fun _ => rfl) fun _ => .inr rfl

end World

namespace Action

variable {w : World ω}

private theorem tables_blocked (h : w.Blocked) : tables.Ensures w fun _ _ => False := by
  obtain ⟨c, hc, pending, none⟩ := h
  refine .after (runIn_connection hc) (.after runIn_get ?_)
  rw [World.tables, pending]
  split
  next db shown => exact absurd shown (none db)
  · exact .refuse _

private theorem requireTables_blocked (h : w.Blocked) (statement : Statement) :
    (requireTables statement).Ensures w fun _ _ => False :=
  .never (tables_blocked h) _

private theorem prepare_blocked (h : w.Blocked) (statement : Statement) :
    (prepare statement).Ensures w fun _ w' => w' = w := by
  obtain ⟨c, hc, _⟩ := id h
  refine .after (runIn_connection hc) ?_
  split
  · exact .pure rfl
  refine (requireListed_ensures w statement).bind ?_
  rintro _ _ ⟨rfl, _⟩
  exact .never (requireTables_blocked h statement) _

private theorem openTransaction_blocked (h : w.Blocked) :
    openTransaction.Ensures w fun _ w' => w'.Blocked := by
  obtain ⟨c, hc, _⟩ := id h
  refine .after (runIn_connection hc) ?_
  split
  · exact .change (h.onConnection (fun _ => rfl) fun _ => .inl rfl)
  · exact .pure h

/-- No query succeeds where the tables cannot be had. -/
theorem query_blocked (h : w.Blocked) (statement : Statement) (values : List Value)
    (read : Database → α) : (query statement values read).Ensures w fun _ _ => False := by
  refine (prepare_blocked h statement).bind fun _ w₁ same => ?_
  subst same
  refine (bind_ensures w₁ values).bind fun _ w₂ alike => ?_
  exact .never (requireTables_blocked (alike.blocked h) statement) _

/-- Nor does a writing statement. -/
theorem updateAndCommit_blocked (h : w.Blocked) (statement : Statement) (values : List Value)
    (write : Database → Except DatabaseFault (α × Database)) :
    (updateAndCommit statement values write).Ensures w fun _ _ => False := by
  refine .never (.bind (prepare_blocked h statement) fun _ w₁ same => ?_) _
  subst same
  refine (openTransaction_blocked h).bind fun _ w₂ h₂ => ?_
  refine (bind_ensures w₂ values).bind fun _ w₃ alike => ?_
  exact .never (requireTables_blocked (alike.blocked h₂) statement) _

/-- A reading gives what its body gives where the tables cannot be had. -/
theorem reading_blocked {body : Action ω α} {P : α → Prop} (h : w.Blocked)
    (gives : ∀ w : World ω, w.Blocked → body.Ensures w fun a _ => P a) :
    (reading body).Ensures w fun a _ => P a := by
  have committed : commit.Ensures w fun _ w' => w'.Blocked := by
    obtain ⟨c, hc, pending, _⟩ := id h
    refine .after (runIn_connection hc) ?_
    split
    next t ht =>
      rw [ht, Option.bind_some] at pending
      rw [pending]
      exact .change (h.onConnection (fun _ => rfl) fun _ => .inl rfl)
    · exact .pure h
  obtain ⟨c, hc, _⟩ := id h
  refine .after (runIn_connection hc) (committed.bind fun _ w₁ h₁ => ?_)
  refine (openTransaction_blocked h₁).bind fun _ w₂ h₂ => ?_
  have ran : body.outcome.Ensures w₂ fun r _ => ∀ a, r = .ok a → P a := by
    intro r w₃ run a same
    rw [runIn_outcome] at run
    cases run
    exact gives w₂ h₂ a _ (Prod.ext same rfl)
  refine ran.bind fun r w₃ holds => .after runIn_get ?_
  split
  · split
    · exact .skip fun _ _ => .of holds
    · exact .skip fun _ _ => .of holds
  · exact .skip fun _ _ => .of holds

end Action

/-! ## Readings -/

namespace Graph

open CodeGauge.Action

variable {w : World ω}

/-- While no tables can be had, no symbols are read by their files. -/
theorem symbolsInFiles_blocked (h : w.Blocked) (paths : List Path) :
    (symbolsInFiles paths).Ensures w fun symbols w' => symbols = [] ∧ w'.Blocked := by
  unfold symbolsInFiles
  dsimp only
  split
  · exact .pure ⟨rfl, h⟩
  · exact .never (query_blocked h _ _ _) _

/-- While no tables can be had, no symbols are read by their ids. -/
theorem symbolsById_blocked (h : w.Blocked) (ids : ExtTreeSet Int) :
    (symbolsById ids).Ensures w fun symbols w' => symbols = [] ∧ w'.Blocked := by
  unfold symbolsById
  split
  · exact .pure ⟨rfl, h⟩
  · exact .never (query_blocked h _ _ _) _

/-- While no tables can be had, no symbols are read at ends. -/
theorem symbolsAt_blocked (h : w.Blocked) (ids : ExtTreeSet Int) (others : List Value) :
    (symbolsAt ids others).Ensures w fun symbols w' => symbols = [] ∧ w'.Blocked := by
  unfold symbolsAt
  split
  · exact symbolsById_blocked h ids
  dsimp only
  split
  all_goals
    split
    · exact .never (.throw _) _
    · exact .never (query_blocked h _ _ _) _

/-- While no tables can be had, no edges are read. -/
theorem touching_blocked (h : w.Blocked) (ids : ExtTreeSet Int) :
    (touching ids).Ensures w fun edges w' => edges = [] ∧ w'.Blocked := by
  unfold touching
  split
  · exact .pure ⟨rfl, h⟩
  · exact .never (query_blocked h _ _ _) _

end Graph

end CodeGauge
