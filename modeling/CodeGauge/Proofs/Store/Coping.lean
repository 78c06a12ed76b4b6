import CodeGauge.Proofs.Snapshot.Delivery
import CodeGauge.Proofs.Store.Confined

/-!
# Readings that fail only for being too large

A repository that is ready refuses a statement that lists more values than it may, and otherwise
gives what is read if a column can hold each value. So whatever reads the graph either gives a value
or is refused for listing too many (`Action.Tries`), and what loads a snapshot reports that
(`Action.Copes`).
-/

open Std

namespace CodeGauge

variable {ω α β : Type}

/-- Each end of each edge is an id that a column can hold. -/
def Database.Wired (db : Database) : Prop :=
  ∀ (n : Int) (e : EdgeRow), db.edges[n]? = some e → ∀ v, v = e.caller ∨ v = e.callee →
    ∃ id, v = .int id ∧ inColumn id = true

namespace Database.Wired

variable {db db' : Database}

/-- Empty tables are wired. -/
theorem empty : Wired {} := by
  intro n e held
  simp at held

/-- An edge between integers that were accepted joins ids that a column can hold. -/
theorem insertEdge (h : db.Wired) {id : Int} {d : Edge.Draft} {caller callee : Int}
    (own : d.caller = .int caller) (other : d.callee = .int callee)
    (fit : ∀ v ∈ d.values, Action.fits v = true)
    (inserted : db.insertEdge d.values = .ok (id, db')) : db'.Wired := by
  obtain ⟨next, _, inserted⟩ := Except.bind_eq_ok.mp inserted
  obtain ⟨row, admitted, inserted⟩ := Except.bind_eq_ok.mp inserted
  cases inserted
  obtain ⟨callerKept, calleeKept, _⟩ := EdgeRow.eq_of_admit admitted
  have fitCaller : Action.fits (.int caller) = true := own ▸ fit _ (by simp [Edge.Draft.values])
  have fitCallee : Action.fits (.int callee) = true := other ▸ fit _ (by simp [Edge.Draft.values])
  refine forall_insert (P := fun _ (e : EdgeRow) => ∀ v, v = e.caller ∨ v = e.callee →
    ∃ id, v = .int id ∧ inColumn id = true) (fun v isEnd => ?_) h
  rw [callerKept, calleeKept, own, other] at isEnd
  rcases isEnd with rfl | rfl
  · exact ⟨caller, rfl, fitCaller⟩
  · exact ⟨callee, rfl, fitCallee⟩

end Database.Wired

namespace Action

open World

variable {w : World ω} {db : Database}

/-! ## Runs that report at worst that too many values were to be listed -/

/-- The run gives a value, and ends in a value and a world of which `Q` holds, or else it reports
that a statement was to list too many values. -/
def Copes (x : Action ω α) (w : World ω) (Q : α → World ω → Prop) : Prop :=
  x.Ensures w Q ∧ x.Fails w fun e _ => e = .graphUnreadable .tooManyValues

namespace Copes

variable {P Q : α → World ω → Prop} {R : β → World ω → Prop}

/-- What holds after coping may be weakened. -/
theorem mono {x : Action ω α} (h : x.Copes w P) (imp : ∀ a w', P a w' → Q a w') : x.Copes w Q :=
  ⟨h.1.mono imp, h.2⟩

/-- What is ensured of a value holds of the one that is given. -/
theorem ensured {x : Action ω α} (h : x.Copes w P) (k : x.Ensures w Q) :
    x.Copes w fun a w' => P a w' ∧ Q a w' :=
  ⟨h.1.and k, h.2⟩

/-- A sequence copes if its first part does and its second part does after what holds then. -/
theorem bind {x : Action ω α} {f : α → Action ω β} (h : x.Copes w P)
    (rest : ∀ a w₁, P a w₁ → (f a).Copes w₁ R) : (x >>= f).Copes w R :=
  ⟨h.1.bind fun a w₁ holds => (rest a w₁ holds).1,
    .bind h.2 h.1 fun a w₁ holds => (rest a w₁ holds).2⟩

/-- A sequence whose first part is known to give a value goes on from there. -/
theorem after {x : Action ω α} {f : α → Action ω β} {a : α} {w' : World ω}
    (run : x.runIn w = (.ok a, w')) (rest : (f a).Copes w' R) : (x >>= f).Copes w R :=
  ⟨.after run rest.1, .after run rest.2⟩

/-- A sequence whose first part is a result computed without the world goes on in the same world. -/
theorem given {r : Except Error α} {f : α → Action ω β} {a : α} (made : r = .ok a)
    (rest : (f a).Copes w R) : (Action.of r >>= f).Copes w R := by
  rw [made]
  exact rest

/-- A run that gives a value has nothing to report. -/
theorem of_succeeds {x : Action ω α} (h : x.Succeeds w Q) : x.Copes w Q := by
  obtain ⟨a, w', run, holds⟩ := h
  refine ⟨fun b w'' same => ?_, .never run⟩
  rw [run] at same
  cases same
  exact holds

/-- Giving a value leaves the world alone. -/
theorem pure {a : α} (h : Q a w) : (Pure.pure a : Action ω α).Copes w Q :=
  of_succeeds (.pure h)

/-- An action copes where it copes after the repository was opened. -/
theorem of_opens {x : Action ω α} (opens : x.Opens) {c : Connection} {o : World ω}
    (opened : connection.runIn w = (.ok c, o)) (h : x.Copes o Q) : x.Copes w Q := by
  have same := opens w o c opened
  constructor
  · intro a w' run
    exact h.1 a w' (same.symm.trans run)
  · intro e w' run
    exact h.2 e w' (same.symm.trans run)

end Copes

/-! ## Readings that are refused at worst for listing too many values -/

/-- Of a repository that is ready with these tables the action gives a value, or else it is refused
for listing too many values, and nothing is committed. -/
def Tries (x : Action ω α) (db : Database) : Prop :=
  ∀ w : World ω, w.Ready db →
    x.Fails w fun e w' => e = .database .tooManyValues ∧ w.Uncommitted w'

/-- What is given whatever the capacity of statements is not refused. -/
theorem Tries.of_replies {x : Action ω α} (h : ∀ capacity, x.Replies db capacity) :
    x.Tries db := by
  intro w ready
  obtain ⟨_, _, run, _⟩ := h w.capacity w ready rfl
  exact .never run

/-- A sequence tries if its first part does, and its second after what that reads. -/
theorem Tries.bind {x : Action ω α} {f : α → Action ω β} {P : α → Prop} (hx : x.Tries db)
    (reads : x.Reads db P) (hf : ∀ a, P a → (f a).Tries db) : (x >>= f).Tries db := by
  intro w ready
  refine .bind (hx w ready) (reads w ready.isOpen) ?_
  rintro a w₁ ⟨holds, alike⟩
  refine (hf a holds w₁ (alike.ready ready)).mono ?_
  rintro e w' ⟨same, kept⟩
  exact ⟨same, alike.uncommitted.trans kept⟩

/-- To give a value is to try. -/
theorem Tries.pure (a : α) : (Pure.pure a : Action ω α).Tries db :=
  of_replies fun _ => .pure a

private theorem Tries.of {r : Except Error α} (h : ∃ a, r = .ok a) :
    (Action.of r : Action ω α).Tries db :=
  of_replies fun _ => .of h

variable {statement : Statement} {values : List Value}

private theorem prepare_tries (known : statement.unknownColumn? = none) :
    (prepare statement : Action ω Unit).Tries db := by
  intro w ready
  by_cases few : statement.listed ≤ w.capacity.listed
  · obtain ⟨_, _, run, _⟩ :=
      prepare_succeeds ready.isOpen (ready.missing statement) few known
    exact .never run
  · obtain ⟨c, hc, _⟩ := ready.isOpen
    refine .after (runIn_connection hc) ?_
    split
    · exact .never rfl
    refine .stop ?_ ((requireListed_ensures w statement).mono fun _ _ kept => few kept.2) _
    refine .after runIn_get ?_
    rw [if_pos (Nat.lt_of_not_le few)]
    refine .after (runIn_onConnection _) (.throw ⟨rfl, ?_⟩)
    exact w.uncommitted_onConnection fun c => ⟨_, _, _, rfl⟩

private theorem query_tries (known : statement.unknownColumn? = none)
    (fit : ∀ v ∈ values, fits v = true)
    (read : Database → α) : (query statement values read : Action ω α).Tries db := by
  have prepared : (prepare statement : Action ω Unit).Reads db fun _ => True := by
    intro w isOpen
    exact (prepare_ensures isOpen statement).mono fun _ _ alike => ⟨trivial, alike⟩
  exact (prepare_tries known).bind prepared fun _ _ =>
    .of_replies fun _ => ask_replies fit statement read

private theorem endReading_refused {serial : Nat} {w₁ : World ω} (settled : w.Settled serial db)
    (kept : w.Uncommitted w₁) (e : Error) :
    ∃ w', (endReading serial (.error e) : Action ω α).runIn w₁ = (.error e, w') := by
  obtain ⟨c, hc, same, _⟩ := settled
  obtain ⟨transaction, remembered, fault, rfl⟩ := kept
  have hc₁ := connection_onConnection hc fun c =>
    { c with transaction, ready := remembered, fault }
  obtain ⟨_, w₂, ended, _⟩ : rollback.Succeeds (w.onConnection fun c =>
      { c with transaction, ready := remembered, fault }) fun _ _ => True := by
    refine .after (runIn_connection hc₁) ?_
    split
    · exact .change trivial
    · exact .pure trivial
  refine ⟨w₂, ?_⟩
  rw [endReading, runIn_bind_of_ok runIn_get, hc₁]
  dsimp only
  rw [if_pos same, runIn_bind_of_ok ended]
  rfl

/-- Reading inside one transaction is refused where the body is. -/
theorem reading_tries {body : Action ω α} {P : α → Prop} (ready : w.Ready db)
    (tries : body.Tries db) (reads : body.Reads db P) :
    (reading body).Ensures w (fun a w' => (P a ∧ w.Onward w' db) ∧ w'.Ready db) ∧
      (reading body).Fails w fun e _ => e = .database .tooManyValues := by
  obtain ⟨serial, w₁, ready₁, settled, _, begun⟩ := exists_begun ready body
  rcases run : body.runIn w₁ with ⟨r, w₂⟩
  have ran : body.outcome.runIn w₁ = (.ok r, w₂) := by rw [runIn_outcome, run]
  rw [runIn_bind_of_ok ran] at begun
  cases r with
  | ok a =>
    obtain ⟨_, alike⟩ := reads w₁ ready₁.isOpen a w₂ run
    obtain ⟨a', w', ended, ready'⟩ :=
      endReading_succeeds (alike.ready ready₁) (alike.settled settled) a
    have whole := begun.trans ended
    refine ⟨fun b w'' same => ?_, .never whole⟩
    have read := reading_ensures ready.isOpen reads b w'' same
    rw [whole] at same
    cases same
    exact ⟨read, ready'⟩
  | error e =>
    obtain ⟨rfl, kept⟩ := tries w₁ ready₁ e w₂ run
    obtain ⟨w', ended⟩ := endReading_refused (α := α) settled kept (.database .tooManyValues)
    have whole := begun.trans ended
    constructor
    · intro b w'' same
      rw [whole] at same
      cases same
    · intro e w'' same
      rw [whole] at same
      cases same
      rfl

/-- A reading that is refused is reported. -/
theorem Copes.reportingGraphFaults {x : Action ω α} {Q : α → World ω → Prop}
    (h : x.Ensures w Q ∧ x.Fails w fun e _ => e = .database .tooManyValues) :
    x.reportingGraphFaults.Copes w Q := by
  refine ⟨.reportingGraphFaults h.1, ?_⟩
  rcases run : x.runIn w with ⟨r, w₁⟩
  refine .after (by rw [runIn_outcome, run]) ?_
  cases r with
  | ok a => exact .never rfl
  | error e =>
    cases h.2 e w₁ run
    exact .throw rfl

end Action

/-! ## Readings of the graph -/

namespace Graph

open CodeGauge.Action

variable {db : Database}

private theorem fits_ids {ids : ExtTreeSet Int} (fit : ∀ id ∈ ids, inColumn id = true) :
    ∀ v ∈ ids.toList.map Value.int, fits v = true := by
  intro v mem
  obtain ⟨id, own, rfl⟩ := List.mem_map.mp mem
  exact fit id (ExtTreeSet.mem_toList.mp own)

private theorem fits_texts (files : List String) : ∀ v ∈ files.map Value.text, fits v = true := by
  intro v mem
  obtain ⟨file, _, rfl⟩ := List.mem_map.mp mem
  rfl

/-- The symbols of files are read, unless they are too many to list. -/
theorem symbolsInFiles_tries (sound : db.Sound) (paths : List Path) :
    (symbolsInFiles paths : Action ω (List Symbol)).Tries db := by
  unfold symbolsInFiles
  dsimp only
  split
  · exact .pure _
  refine (query_tries rfl (fits_texts _) _).bind (query_reads _ _ _) ?_
  rintro _ rfl
  exact .of (sound.exists_symbolsOf fun _ mem => (Database.mem_symbolsWhere.mp mem).1)

/-- Symbols are read by ids that fit, unless they are too many to list. -/
theorem symbolsById_tries (sound : db.Sound) {ids : ExtTreeSet Int}
    (fit : ∀ id ∈ ids, inColumn id = true) :
    (symbolsById ids : Action ω (List Symbol)).Tries db := by
  unfold symbolsById
  split
  · exact .pure _
  refine (query_tries rfl (fits_ids fit) _).bind (query_reads _ _ _) ?_
  rintro _ rfl
  exact .of (sound.exists_symbolsOf fun _ mem => (Database.mem_symbolsAmong.mp mem).1)

/-- Ends of edges are looked up if all of them are ids. -/
theorem symbolsAt_tries (sound : db.Sound) {ids : ExtTreeSet Int}
    (fit : ∀ id ∈ ids, inColumn id = true) :
    (symbolsAt ids [] : Action ω (List Symbol)).Tries db :=
  symbolsById_tries sound fit

/-- The edges at ids that fit are read, unless they are too many to list. -/
theorem touching_tries (sound : db.Sound) {ids : ExtTreeSet Int}
    (fit : ∀ id ∈ ids, inColumn id = true) :
    (touching ids : Action ω (List Edge)).Tries db := by
  unfold touching
  split
  · exact .pure _
  refine (query_tries rfl ?_ _).bind (query_reads _ _ _) ?_
  · intro v mem
    exact fits_ids fit v ((List.mem_append.mp mem).elim id id)
  · rintro _ rfl
    exact .of (sound.exists_edgesOf _)

/-- The digests of files are read, unless they are too many to list. -/
theorem hashes_tries (paths : List Path) :
    (hashes paths : Action ω (ExtTreeMap Path String)).Tries db := by
  unfold hashes
  dsimp only
  split
  · exact .pure _
  refine (query_tries rfl (fits_texts _) _).bind (query_reads _ _ _) ?_
  intro _ _
  exact .pure _

end Graph

end CodeGauge
