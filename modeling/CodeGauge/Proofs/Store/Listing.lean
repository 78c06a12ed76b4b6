import CodeGauge.Proofs.Store.Reading
import CodeGauge.Proofs.Store.Serving

/-!
# Statements that list too many values

A statement that lists more values than it may is refused, unless it was ready before. So if none of
the statements that are ready lists too many values, none ever does (`World.ListsFew`), and whatever
reads the tables has listed no more values than a statement may (`Action.Lists`).
-/

open Std

namespace CodeGauge

variable {ω α β : Type}

/-- No statement that is ready lists more values than it may. -/
def World.ListsFew (w : World ω) : Prop :=
  ∀ c, w.repository.connection = some c → ∀ s ∈ c.ready, s.listed ≤ w.capacity.listed

namespace Action

open World

variable {w : World ω} {db : Database}

private theorem listsFew_onConnection (few : w.ListsFew) {f : Connection → Connection}
    (same : ∀ c, (f c).ready = c.ready) : (w.onConnection f).ListsFew := by
  intro c' hc'
  obtain ⟨c, hc, rfl⟩ := Option.map_eq_some_iff.mp hc'
  rw [same]
  exact few c hc

/-! ## Opening -/

private theorem connectAt_listsFew (path : Path) (location : Location) :
    (connectAt path location).Ensures w fun _ w' => w'.ListsFew := by
  -- nothing is ready on a new connection
  have new {w : World ω} {c : Connection} (hc : w.repository.connection = some c)
      (none : c.ready = []) : w.ListsFew := by
    intro c' hc' s mem
    rw [hc] at hc'
    cases hc'
    rw [none] at mem
    cases mem
  unfold connectAt
  refine .after runIn_get ?_
  dsimp only
  split
  · exact .after (runIn_change _) (.change (new rfl rfl))
  split
  · exact .never (.throw _) _
  split
  · exact .throw _
  · exact .after (runIn_change _) (.change (new rfl rfl))

/-- To open the repository leaves the remembered statements as few as they were. -/
theorem connection_listsFew (few : w.ListsFew) :
    connection.Ensures w fun _ w' => w'.ListsFew := by
  refine .after runIn_get ?_
  dsimp only
  split
  · exact .pure few
  refine .after runIn_get (.given fun disk _ => .after (runIn_change _) ?_)
  split
  · exact .throw _
  refine (connectAt_listsFew _ _).bind fun _ w₁ few₁ => ?_
  refine .after runIn_get ?_
  split
  · refine (makeTables_ensures _).bind fun _ w₂ same => .pure ?_
    rw [ListsFew, same.1, same.2.2]
    exact few₁
  · exact .throw _

/-! ## Transactions -/

private theorem commit_listsFew (isOpen : w.Open db) (few : w.ListsFew) :
    commit.Ensures w fun _ w' => w'.ListsFew := by
  obtain ⟨c, hc, _⟩ := isOpen
  refine .after (runIn_connection hc) ?_
  cases c.transaction with
  | none => exact .pure few
  | some t =>
    dsimp only
    cases t.written with
    | none => exact .change (listsFew_onConnection few fun _ => rfl)
    | some written =>
      refine .after (runIn_change _) (.change (listsFew_onConnection ?_ fun _ => rfl))
      exact few

private theorem openTransaction_listsFew (isOpen : w.Open db) (few : w.ListsFew) :
    openTransaction.Ensures w fun _ w' => w'.ListsFew := by
  obtain ⟨c, hc, _⟩ := isOpen
  refine .after (runIn_connection hc) ?_
  split
  · exact .change (listsFew_onConnection few fun _ => rfl)
  · exact .pure few

/-! ## Reading -/

private theorem prepare_listsFew (isOpen : w.Open db) (few : w.ListsFew) (statement : Statement) :
    (prepare statement).Ensures w fun _ w' =>
      statement.listed ≤ w.capacity.listed ∧ w'.ListsFew := by
  obtain ⟨c, hc, _⟩ := id isOpen
  refine .after (runIn_connection hc) ?_
  split
  next ready => exact .pure ⟨few c hc _ (List.contains_iff_mem.mp ready), few⟩
  refine (requireListed_ensures w statement).bind ?_
  rintro _ _ ⟨rfl, within⟩
  refine (requireTables_ensures isOpen statement).bind ?_
  rintro _ _ rfl
  split
  · exact .never (.refuse _) _
  refine .change ⟨within, ?_⟩
  intro c' hc' s mem
  obtain ⟨c, hc, rfl⟩ := Option.map_eq_some_iff.mp hc'
  rcases List.mem_cons.mp mem with rfl | mem
  · exact within
  · exact few c hc s mem

private theorem bind_listsFew (few : w.ListsFew) (values : List Value) :
    (bind values).Ensures w fun _ w' => w'.ListsFew := by
  unfold Action.bind
  split
  · split
    · exact .pure few
    · exact .change (listsFew_onConnection few fun _ => rfl)
  · refine .skip fun c _ => ?_
    split
    · exact .throw _
    · exact .throw _
  · exact .skip fun c _ => .throw _

/-- On these tables, where statements have this capacity, the action gives a value of which `P`
holds, and makes no statement ready that lists too many values. -/
def Lists (x : Action ω α) (db : Database) (capacity : Capacity) (P : α → Prop) : Prop :=
  ∀ w : World ω, w.Open db → w.capacity = capacity → w.ListsFew → x.Ensures w fun a w' =>
    P a ∧ w'.Open db ∧ w'.capacity = capacity ∧ w'.ListsFew

namespace Lists

variable {P Q : α → Prop} {R : β → Prop} {capacity : Capacity}

/-- A sequence lists what fits if both its parts do. -/
theorem bind {x : Action ω α} {f : α → Action ω β} (hx : x.Lists db capacity P)
    (hf : ∀ a, P a → (f a).Lists db capacity R) : (x >>= f).Lists db capacity R := by
  intro w isOpen same few
  refine (hx w isOpen same few).bind ?_
  rintro a w₁ ⟨holds, isOpen₁, same₁, few₁⟩
  exact hf a holds w₁ isOpen₁ same₁ few₁

/-- To give a value lists nothing. -/
theorem pure {a : α} (holds : P a) : (Pure.pure a : Action ω α).Lists db capacity P :=
  fun _ isOpen same few => .pure ⟨holds, isOpen, same, few⟩

/-- A result computed without the world lists nothing. -/
theorem of {r : Except Error α} (holds : ∀ a, r = .ok a → P a) :
    (Action.of r : Action ω α).Lists db capacity P :=
  fun _ isOpen same few => .of fun a made => ⟨holds a made, isOpen, same, few⟩

/-- What is read is known besides. -/
theorem reads {x : Action ω α} (h : x.Lists db capacity P) (reads : x.Reads db Q) :
    x.Lists db capacity fun a => P a ∧ Q a := by
  intro w isOpen same few
  refine ((h w isOpen same few).and (reads w isOpen)).mono ?_
  rintro a w' ⟨⟨holds, rest⟩, read, _⟩
  exact ⟨⟨holds, read⟩, rest⟩

end Lists

/-- A query that gave a value has listed no more values than it may. -/
theorem query_lists {capacity : Capacity} (statement : Statement) (values : List Value)
    (read : Database → α) : (query statement values read : Action ω α).Lists db capacity fun _ =>
      statement.listed ≤ capacity.listed := by
  rintro w isOpen rfl few
  have made : (query statement values read).Ensures w fun _ w' =>
      statement.listed ≤ w.capacity.listed ∧ w'.ListsFew := by
    refine ((prepare_listsFew isOpen few statement).and (prepare_ensures isOpen statement)).bind ?_
    rintro _ w₁ ⟨⟨within, few₁⟩, alike₁⟩
    refine ((bind_listsFew few₁ values).and (bind_ensures w₁ values)).bind ?_
    rintro _ w₂ ⟨few₂, alike₂⟩
    have isOpen₂ : w₂.Open db := alike₂.open (alike₁.open isOpen)
    refine (requireTables_ensures isOpen₂ statement).bind ?_
    rintro _ w₃ rfl
    refine .after (runIn_onConnection _) ?_
    have isOpen₃ := (alike_onConnection w₃ (·.ready)).open isOpen₂
    exact .after (runIn_tables isOpen₃) (.pure ⟨within, listsFew_onConnection few₂ fun _ => rfl⟩)
  refine (made.and (query_ensures isOpen statement values read)).mono ?_
  rintro a w' ⟨⟨within, few'⟩, _, alike⟩
  exact ⟨within, alike.open isOpen, alike.sameSurroundings.capacity, few'⟩

/-- What holds of each value of the body holds of a reading. -/
theorem reading_lists {body : Action ω α} {P : α → Prop} (isOpen : w.Open db) (few : w.ListsFew)
    (lists : body.Lists db w.capacity P) : (reading body).Ensures w fun a _ => P a := by
  obtain ⟨c, hc, tables⟩ := id isOpen
  refine .after (runIn_connection hc) ?_
  refine ((commit_listsFew isOpen few).and (commit_ensures hc tables)).bind ?_
  rintro _ w₁ ⟨few₁, settled₁, same₁⟩
  refine ((openTransaction_listsFew settled₁.open few₁).and
    (openTransaction_ensures settled₁.open)).bind ?_
  rintro _ w₂ ⟨few₂, onward₂⟩
  rcases run : body.runIn w₂ with ⟨r, w₃⟩
  refine .after (by rw [runIn_outcome, run]) ?_
  refine .after runIn_get ?_
  have ended (w : World ω) : (Action.of r).Ensures w fun a _ => P a := by
    apply Ensures.of
    rintro a rfl
    have same₂ := onward₂.same.capacity.trans same₁.capacity
    exact (lists w₂ onward₂.isOpen same₂ few₂ a w₃ run).1
  split
  · split
    · exact .skip fun _ w₄ => ended w₄
    · exact .never (.throw _) _
  · exact .never (.throw _) _

end Action

end CodeGauge
