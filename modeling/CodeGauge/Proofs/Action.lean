import CodeGauge.Proofs.Results
import CodeGauge.World

/-!
# What runs of actions ensure

`action.Ensures w Q` says that whatever value a run of the action from `w` gives, and whatever world
it leaves with it, satisfy `Q`. It says nothing of runs that fail; `action.Fails w Q` says the same
of the error and the world that those end in. `action.Succeeds w Q` says that the run does give a
value. And `action.Maintains I` says that every run keeps the invariant `I`, however it ends. The
rules below take a composed action apart, so that each operation needs one statement of each kind.
-/

namespace CodeGauge.Action

variable {ω α β : Type} {w w' : World ω}

/-- A run that gives a value ends in a value and a world of which `Q` holds. -/
def Ensures (action : Action ω α) (w : World ω) (Q : α → World ω → Prop) : Prop :=
  ∀ a w', action.runIn w = (.ok a, w') → Q a w'

/-- A run that fails ends in an error and a world of which `Q` holds. -/
def Fails (action : Action ω α) (w : World ω) (Q : Error → World ω → Prop) : Prop :=
  ∀ e w', action.runIn w = (.error e, w') → Q e w'

/-- The run gives a value, and ends in a value and a world of which `Q` holds. -/
def Succeeds (action : Action ω α) (w : World ω) (Q : α → World ω → Prop) : Prop :=
  ∃ a w', action.runIn w = (.ok a, w') ∧ Q a w'

/-- However a run ends, what held of the world before it holds of the world after it. -/
def Maintains (I : World ω → Prop) (action : Action ω α) : Prop :=
  ∀ w, I w → I (action.runIn w).2

/-! ## Runs of the basic actions -/

/-- To give a value leaves the world as it is. -/
@[simp] theorem runIn_pure (a : α) : (pure a : Action ω α).runIn w = (.ok a, w) := rfl

/-- To fail leaves the world as it is. -/
@[simp] theorem runIn_throw (e : Error) : (throw e : Action ω α).runIn w = (.error e, w) := rfl

/-- To look at the world leaves it as it is. -/
@[simp] theorem runIn_get : (get : Action ω (World ω)).runIn w = (.ok w, w) := rfl

/-- A change of the world gives no value. -/
@[simp] theorem runIn_change (f : World ω → World ω) :
    (change f : Action ω Unit).runIn w = (.ok (), f w) := rfl

/-- A change of the connection is one of the world. -/
@[simp] theorem runIn_onConnection (f : Connection → Connection) :
    (onConnection f : Action ω Unit).runIn w = (.ok (), w.onConnection f) := rfl

/-- A result that was computed before leaves the world as it is. -/
@[simp] theorem runIn_of (r : Except Error α) : (of r : Action ω α).runIn w = (r, w) := by
  cases r with
  | error e => rfl
  | ok a => rfl

/-- A result as a value is the one that the action ends with, in the world that it leaves. -/
@[simp] theorem runIn_outcome (action : Action ω α) :
    action.outcome.runIn w = (.ok (action.runIn w).1, (action.runIn w).2) := rfl

/-- A run that has a value ends in one. -/
theorem exists_runIn_of_isSome {action : Action ω α}
    (returns : (action.runIn w).1.toOption.isSome) : ∃ a w', action.runIn w = (.ok a, w') := by
  rcases run : action.runIn w with ⟨e | a, w'⟩
  · rw [run] at returns
    cases returns
  · exact ⟨a, w', rfl⟩

/-- A sequence goes on where its first part gave a value, and ends where that failed. -/
theorem runIn_bind (x : Action ω α) (f : α → Action ω β) :
    (x >>= f).runIn w =
      match x.runIn w with
      | (.ok a, w') => (f a).runIn w'
      | (.error e, w') => (.error e, w') := by
  change ExceptT.bindCont f (x.runIn w).1 (x.runIn w).2 = _
  rcases x.runIn w with ⟨r, w'⟩
  cases r with
  | error e => rfl
  | ok a => rfl

/-- A sequence whose first part gave a value is what follows it. -/
theorem runIn_bind_of_ok {x : Action ω α} {a : α} (h : x.runIn w = (.ok a, w'))
    (f : α → Action ω β) : (x >>= f).runIn w = (f a).runIn w' := by
  rw [runIn_bind, h]

/-- A sequence gives a value exactly when both parts do, the second from where the first ended. -/
theorem runIn_bind_ok {x : Action ω α} {f : α → Action ω β} {b : β} :
    (x >>= f).runIn w = (.ok b, w') ↔
      ∃ a w₁, x.runIn w = (.ok a, w₁) ∧ (f a).runIn w₁ = (.ok b, w') := by
  rw [runIn_bind]
  rcases x.runIn w with ⟨r, w₁⟩
  cases r with
  | error e => simp
  | ok a =>
    constructor
    · intro run
      exact ⟨a, w₁, rfl, run⟩
    · intro ⟨_, _, h, run⟩
      cases h
      exact run

/-- A sequence fails exactly when its first part does, or its second part does from where the first
ended. -/
theorem runIn_bind_error {x : Action ω α} {f : α → Action ω β} {e : Error} :
    (x >>= f).runIn w = (.error e, w') ↔
      x.runIn w = (.error e, w') ∨
        ∃ a w₁, x.runIn w = (.ok a, w₁) ∧ (f a).runIn w₁ = (.error e, w') := by
  rw [runIn_bind]
  rcases x.runIn w with ⟨r, w₁⟩
  cases r with
  | error e' => simp
  | ok a =>
    constructor
    · intro run
      exact .inr ⟨a, w₁, rfl, run⟩
    · rintro (run | ⟨_, _, h, run⟩)
      · cases run
      · cases h
        exact run

/-! ## Rules -/

namespace Ensures

variable {P Q : α → World ω → Prop} {R : β → World ω → Prop}

/-- What is ensured may be weakened. -/
theorem mono {x : Action ω α} (h : x.Ensures w P) (imp : ∀ a w', P a w' → Q a w') :
    x.Ensures w Q :=
  fun a w' run => imp a w' (h a w' run)

/-- What is ensured twice holds together. -/
theorem and {x : Action ω α} (h : x.Ensures w P) (k : x.Ensures w Q) :
    x.Ensures w fun a w' => P a w' ∧ Q a w' :=
  fun a w' run => ⟨h a w' run, k a w' run⟩

/-- A sequence ensures what its second part does after what the first ensures. -/
theorem bind {x : Action ω α} {f : α → Action ω β} (h : x.Ensures w P)
    (rest : ∀ a w₁, P a w₁ → (f a).Ensures w₁ R) : (x >>= f).Ensures w R := by
  intro b w' run
  have ⟨a, w₁, first, second⟩ := runIn_bind_ok.mp run
  exact rest a w₁ (h a w₁ first) b w' second

/-- A sequence ensures what its second part does wherever the first part leads. -/
theorem skip {x : Action ω α} {f : α → Action ω β} (rest : ∀ a w₁, (f a).Ensures w₁ R) :
    (x >>= f).Ensures w R :=
  .bind (P := fun _ _ => True) (fun _ _ _ => trivial) fun a w₁ _ => rest a w₁

/-- A sequence whose first part is known to give a value ensures what follows does. -/
theorem after {x : Action ω α} {f : α → Action ω β} {a : α} (run : x.runIn w = (.ok a, w'))
    (rest : (f a).Ensures w' R) : (x >>= f).Ensures w R := by
  intro b w'' whole
  rw [runIn_bind_of_ok run] at whole
  exact rest b w'' whole

/-- A sequence whose first part never gives a value gives none. -/
theorem never {x : Action ω α} (h : x.Ensures w fun _ _ => False) (f : α → Action ω β) :
    (x >>= f).Ensures w R :=
  h.bind fun _ _ no => no.elim

/-- Giving a value leaves the world alone. -/
theorem pure {a : α} (h : Q a w) : (Pure.pure a : Action ω α).Ensures w Q := by
  intro b w' run
  cases run
  exact h

/-- A failing action gives no value. -/
theorem throw (e : Error) : (MonadExcept.throw e : Action ω α).Ensures w Q := by
  intro b w' run
  cases run

/-- A change is made. -/
theorem change {f : World ω → World ω} {Q : Unit → World ω → Prop} (h : Q () (f w)) :
    (Action.change f).Ensures w Q := by
  intro b w' run
  cases run
  exact h

/-- A result computed without the world leaves it alone. -/
theorem of {r : Except Error α} (h : ∀ a, r = .ok a → Q a w) : (Action.of r).Ensures w Q := by
  intro b w' run
  rw [runIn_of] at run
  cases run
  exact h b rfl

/-- A sequence whose first part is a result computed without the world goes on in the same world. -/
theorem given {r : Except Error α} {f : α → Action ω β}
    (rest : ∀ a, r = .ok a → (f a).Ensures w R) : (Action.of r >>= f).Ensures w R := by
  cases r with
  | error e => exact .never (.throw e) f
  | ok a => exact .after (runIn_of _) (rest a rfl)

/-- A loop that gives a value has given one for each element. -/
theorem forM {f : α → Action ω Unit} {as : List α} {P : α → Prop}
    (body : ∀ a ∈ as, ∀ w, (f a).Ensures w fun _ _ => P a) :
    (as.forM f).Ensures w fun _ _ => ∀ a ∈ as, P a := by
  induction as generalizing w with
  | nil => exact .pure nofun
  | cons a as ih =>
    refine (body a List.mem_cons_self w).bind fun _ w₁ first => ?_
    refine (ih fun a' mem => body a' (List.mem_cons_of_mem _ mem)).mono fun _ _ rest => ?_
    exact List.forall_mem_cons.mpr ⟨first, rest⟩

/-- Running over a list gives the results of its elements if each run gives that of its element and
keeps the invariant. -/
theorem mapM {I : World ω → Prop} {f : α → Action ω β} {k : α → Except Error β} {as : List α}
    (body : ∀ a w, I w → (f a).Ensures w fun b w' => k a = .ok b ∧ I w') (start : I w) :
    (as.mapM f).Ensures w fun bs w' => as.mapM k = .ok bs ∧ I w' := by
  induction as generalizing w with
  | nil => exact .pure ⟨rfl, start⟩
  | cons a as ih =>
    rw [List.mapM_cons]
    refine (body a w start).bind fun b w₁ ⟨made, kept⟩ => ?_
    refine (ih kept).bind fun bs w₂ ⟨rest, kept⟩ => ?_
    exact .pure ⟨mapM_cons_eq_ok.mpr ⟨b, bs, made, rest, rfl⟩, kept⟩

/-- How faults are reported makes no difference to an action that gave a value. -/
theorem reportingGraphFaults {x : Action ω α} (h : x.Ensures w Q) :
    x.reportingGraphFaults.Ensures w Q := by
  rcases run : x.runIn w with ⟨r, w₁⟩
  refine .after (by rw [runIn_outcome, run]) ?_
  cases r with
  | ok a => exact .pure (h a w₁ run)
  | error e =>
    split
    · cases ‹Except.error e = .ok _›
    · exact .throw _
    · exact .throw _

end Ensures

/-! ## Rules for runs that fail -/

namespace Fails

variable {Q R : Error → World ω → Prop}

/-- What holds of the failing runs may be weakened. -/
theorem mono {x : Action ω α} (h : x.Fails w Q) (imp : ∀ e w', Q e w' → R e w') : x.Fails w R :=
  fun e w' run => imp e w' (h e w' run)

/-- A sequence fails as its first part does, or as its second part after what the first ensures. -/
theorem bind {x : Action ω α} {f : α → Action ω β} {P : α → World ω → Prop} (h : x.Fails w Q)
    (first : x.Ensures w P) (rest : ∀ a w₁, P a w₁ → (f a).Fails w₁ Q) : (x >>= f).Fails w Q := by
  intro e w' run
  rcases runIn_bind_error.mp run with run | ⟨a, w₁, run, second⟩
  · exact h e w' run
  · exact rest a w₁ (first a w₁ run) e w' second

/-- A sequence whose first part never gives a value fails as that does. -/
theorem stop {x : Action ω α} (h : x.Fails w Q) (no : x.Ensures w fun _ _ => False)
    (f : α → Action ω β) : (x >>= f).Fails w Q :=
  h.bind no fun _ _ no => no.elim

/-- A sequence whose first part is known to give a value fails as what follows does. -/
theorem after {x : Action ω α} {f : α → Action ω β} {a : α} (run : x.runIn w = (.ok a, w'))
    (rest : (f a).Fails w' Q) : (x >>= f).Fails w Q := by
  intro e w'' whole
  rw [runIn_bind_of_ok run] at whole
  exact rest e w'' whole

/-- An action that is known to give a value does not fail. -/
theorem never {x : Action ω α} {a : α} (run : x.runIn w = (.ok a, w')) : x.Fails w Q := by
  intro e w'' failed
  rw [run] at failed
  cases failed

/-- A failing action fails with its error where it is. -/
theorem throw {e : Error} (h : Q e w) : (MonadExcept.throw e : Action ω α).Fails w Q := by
  intro e' w' run
  cases run
  exact h

/-- A result computed without the world fails where it is. -/
theorem of {r : Except Error α} (h : ∀ e, r = .error e → Q e w) : (Action.of r).Fails w Q := by
  intro e w' run
  rw [runIn_of] at run
  cases run
  exact h e rfl

/-- A loop fails as its body does for one of the elements, after the body was run for all before. -/
theorem forM {f : α → Action ω Unit} {as : List α}
    (body : ∀ done a rest w₁, as = done ++ a :: rest → (done.forM f).runIn w = (.ok (), w₁) →
      (f a).Fails w₁ Q) : (as.forM f).Fails w Q := by
  induction as generalizing w with
  | nil => exact .never rfl
  | cons a as ih =>
    refine .bind (body [] a as w rfl rfl) (P := fun _ w₁ => (f a).runIn w = (.ok (), w₁))
      (fun _ _ run => run) fun _ w₁ first => ih fun done a' rest w₂ split run => ?_
    refine body (a :: done) a' rest w₂ (by rw [split]; rfl) ?_
    exact (runIn_bind_of_ok first _).trans run

end Fails

/-! ## Rules for runs that give a value -/

namespace Succeeds

variable {P Q : α → World ω → Prop} {R : β → World ω → Prop}

/-- What holds of the run may be weakened. -/
theorem mono {x : Action ω α} (h : x.Succeeds w P) (imp : ∀ a w', P a w' → Q a w') :
    x.Succeeds w Q := by
  obtain ⟨a, w', run, holds⟩ := h
  exact ⟨a, w', run, imp a w' holds⟩

/-- What is ensured of a value holds of the one that is given. -/
theorem ensured {x : Action ω α} (h : x.Succeeds w P) (k : x.Ensures w Q) :
    x.Succeeds w fun a w' => P a w' ∧ Q a w' := by
  obtain ⟨a, w', run, holds⟩ := h
  exact ⟨a, w', run, holds, k a w' run⟩

/-- A sequence gives a value if its first part does and its second part after what holds then. -/
theorem bind {x : Action ω α} {f : α → Action ω β} (h : x.Succeeds w P)
    (rest : ∀ a w₁, P a w₁ → (f a).Succeeds w₁ R) : (x >>= f).Succeeds w R := by
  obtain ⟨a, w₁, run, holds⟩ := h
  obtain ⟨b, w', second, goal⟩ := rest a w₁ holds
  exact ⟨b, w', runIn_bind_ok.mpr ⟨a, w₁, run, second⟩, goal⟩

/-- A sequence whose first part is known to give a value goes on from there. -/
theorem after {x : Action ω α} {f : α → Action ω β} {a : α} (run : x.runIn w = (.ok a, w'))
    (rest : (f a).Succeeds w' R) : (x >>= f).Succeeds w R := by
  rw [Succeeds, runIn_bind_of_ok run]
  exact rest

/-- Giving a value leaves the world alone. -/
theorem pure {a : α} (h : Q a w) : (Pure.pure a : Action ω α).Succeeds w Q :=
  ⟨a, w, rfl, h⟩

/-- A change is made. -/
theorem change {f : World ω → World ω} {Q : Unit → World ω → Prop} (h : Q () (f w)) :
    (Action.change f).Succeeds w Q :=
  ⟨(), f w, rfl, h⟩

/-- A result that was computed without the world is given where it is. -/
theorem of {r : Except Error α} {a : α} (made : r = .ok a) (h : Q a w) :
    (Action.of r).Succeeds w Q := by
  rw [made]
  exact .pure h

/-- A sequence whose first part is a result computed without the world goes on in the same world. -/
theorem given {r : Except Error α} {f : α → Action ω β} {a : α} (made : r = .ok a)
    (rest : (f a).Succeeds w R) : (Action.of r >>= f).Succeeds w R := by
  rw [made]
  exact rest

/-- A loop gives a value if its body does for each element and keeps the invariant. -/
theorem forM {I : World ω → Prop} {f : α → Action ω Unit} {as : List α}
    (body : ∀ a ∈ as, ∀ w, I w → (f a).Succeeds w fun _ w' => I w') (start : I w) :
    (as.forM f).Succeeds w fun _ w' => I w' := by
  induction as generalizing w with
  | nil => exact .pure start
  | cons a as ih =>
    refine .bind (body a List.mem_cons_self w start) fun _ w₁ kept => ?_
    exact ih (fun a' mem => body a' (List.mem_cons_of_mem _ mem)) kept

/-- Running over a list gives the results of its elements if they are all there. -/
theorem mapM {I : World ω → Prop} {f : α → Action ω β} {k : α → Except Error β} {as : List α}
    {bs : List β} (made : as.mapM k = .ok bs)
    (body : ∀ a b w, k a = .ok b → I w → (f a).Succeeds w fun b' w' => b' = b ∧ I w')
    (start : I w) : (as.mapM f).Succeeds w fun bs' w' => bs' = bs ∧ I w' := by
  induction as generalizing w bs with
  | nil =>
    cases made
    exact .pure ⟨rfl, start⟩
  | cons a as ih =>
    obtain ⟨b, rest, first, others, rfl⟩ := mapM_cons_eq_ok.mp made
    rw [List.mapM_cons]
    refine (body a b w first start).bind ?_
    rintro _ w₁ ⟨rfl, kept⟩
    refine (ih others kept).bind ?_
    rintro _ w₂ ⟨rfl, kept⟩
    exact .pure ⟨rfl, kept⟩

/-- How faults are reported makes no difference to an action that gives a value. -/
theorem reportingGraphFaults {x : Action ω α} (h : x.Succeeds w Q) :
    x.reportingGraphFaults.Succeeds w Q := by
  obtain ⟨a, w₁, run, holds⟩ := h
  refine .after (by rw [runIn_outcome, run]) ?_
  exact .pure holds

end Succeeds

/-! ## Rules for invariants -/

namespace Maintains

variable {I : World ω → Prop}

/-- Wherever the action gives a value, the invariant holds. -/
theorem ensures {x : Action ω α} (hx : x.Maintains I) (h : I w) : x.Ensures w fun _ w' => I w' := by
  intro a w' run
  have kept := hx w h
  rw [run] at kept
  exact kept

/-- To give a value keeps everything. -/
theorem pure (a : α) : (Pure.pure a : Action ω α).Maintains I :=
  fun _ h => h

/-- To fail keeps everything. -/
theorem throw (e : Error) : (MonadExcept.throw e : Action ω α).Maintains I :=
  fun _ h => h

/-- To look at the world keeps everything. -/
theorem get : (MonadState.get : Action ω (World ω)).Maintains I :=
  fun _ h => h

/-- A result computed without the world keeps everything. -/
theorem of (r : Except Error α) : (Action.of r : Action ω α).Maintains I := by
  intro w h
  rw [runIn_of]
  exact h

/-- A sequence keeps what its first part keeps, if wherever that gave a value the rest keeps it. -/
theorem bind_of_run {x : Action ω α} {f : α → Action ω β} (hx : I (x.runIn w).2)
    (hf : ∀ a w₁, x.runIn w = (.ok a, w₁) → I w₁ → I ((f a).runIn w₁).2) :
    I ((x >>= f).runIn w).2 := by
  rw [runIn_bind]
  rcases run : x.runIn w with ⟨r, w₁⟩
  rw [run] at hx
  cases r with
  | error e => exact hx
  | ok a => exact hf a w₁ run hx

/-- A sequence of which the second part need keep only what the values of the first ask for. -/
theorem bind_ensured {x : Action ω α} {f : α → Action ω β} {P : α → Prop} (hx : x.Maintains I)
    (gives : ∀ w, x.Ensures w fun a _ => P a) (hf : ∀ a, P a → (f a).Maintains I) :
    (x >>= f).Maintains I := by
  intro w h
  exact bind_of_run (hx w h) fun a w₁ run => hf a (gives w a w₁ run) w₁

/-- A sequence keeps what both its parts keep. -/
theorem bind {x : Action ω α} {f : α → Action ω β} (hx : x.Maintains I)
    (hf : ∀ a, (f a).Maintains I) : (x >>= f).Maintains I :=
  hx.bind_ensured (fun _ _ _ _ => trivial) fun a _ => hf a

/-- A value computed without the world, and what follows if there is one. -/
theorem given {r : Except Error α} {f : α → Action ω β}
    (hf : ∀ a, r = .ok a → (f a).Maintains I) : (Action.of r >>= f).Maintains I :=
  (of r).bind_ensured (fun _ => .of fun _ made => made) hf

/-- A choice keeps what both alternatives keep. -/
theorem ite {c : Prop} [Decidable c] {x y : Action ω α} (hx : x.Maintains I)
    (hy : y.Maintains I) : (if c then x else y).Maintains I := by
  by_cases h : c
  · rw [if_pos h]
    exact hx
  · rw [if_neg h]
    exact hy

/-- A check that fails or lets the rest go on. -/
theorem check {c : Prop} [Decidable c] {x : Action ω PUnit} {rest : PUnit → Action ω α}
    (hx : x.Maintains I) (hr : (rest ()).Maintains I) :
    (if c then x >>= rest else rest ()).Maintains I :=
  ite (bind hx fun _ => hr) hr

/-- To have the result as a value keeps what the action keeps. -/
theorem outcome {x : Action ω α} (hx : x.Maintains I) : x.outcome.Maintains I := by
  intro w h
  rw [runIn_outcome]
  exact hx w h

/-- How faults are reported makes no difference to what is kept. -/
theorem reportingGraphFaults {x : Action ω α} (hx : x.Maintains I) :
    x.reportingGraphFaults.Maintains I := by
  refine hx.outcome.bind fun r => ?_
  split
  · exact pure _
  · exact throw _
  · exact throw _

/-- A loop keeps what its body keeps for each element. -/
theorem forM {f : α → Action ω Unit} {as : List α} (hf : ∀ a ∈ as, (f a).Maintains I) :
    (as.forM f).Maintains I := by
  induction as with
  | nil => exact pure ()
  | cons a as ih =>
    refine bind (hf a List.mem_cons_self) fun _ => ?_
    exact ih fun a ha => hf a (List.mem_cons_of_mem _ ha)

/-- Running over a list keeps what each run keeps. -/
theorem mapM {f : α → Action ω β} (hf : ∀ a, (f a).Maintains I) (as : List α) :
    (as.mapM f).Maintains I := by
  induction as with
  | nil => exact pure _
  | cons a as ih =>
    rw [List.mapM_cons]
    exact bind (hf a) fun _ => bind ih fun _ => pure _

/-- A fold keeps what each of its steps keeps. -/
theorem foldlM {f : β → α → Action ω β} (hf : ∀ b a, (f b a).Maintains I) (as : List α) (b : β) :
    (as.foldlM f b).Maintains I := by
  induction as generalizing b with
  | nil => exact pure b
  | cons a as ih => exact bind (hf b a) ih

end Maintains

end CodeGauge.Action
