import CodeGauge.Proofs.Engine.Closing

/-!
# How many rounds a call takes

The rounds of a call follow one another until one of them ends (`Engine.Loop`), and nothing but the
rounds themselves bounds their number. While nothing else changes the graph or the disk, they do
end: a refresh of symbols grows its set at most once and every other call not at all, since what it
derives is joined to stored symbols that the first snapshot has complete (`Refresh.closes`). All
other rounds but the last are retries. A call retries as often as it may if a content is not the
recorded one, and never otherwise (`Work.ends_within`).
-/

open Std

namespace CodeGauge

variable {ω α : Type}

/-! ## Rounds without a bound -/

namespace Engine

/-- Rounds follow one another from a start until one gives a result or fails. So many of those
before it grew the set, and so many were retries with the same set. -/
inductive Loop (round : Round ω → Action ω (RoundEnd ω α)) :
    (grown retried : Nat) → Round ω → World ω → Except Error α → World ω → Prop
  | ends {r : Round ω} {w w' : World ω} {a : α} (run : (round r).runIn w = (.ok (.done a), w')) :
    Loop round 0 0 r w (.ok a) w'
  | fails {r : Round ω} {w w' : World ω} {e : Error} (run : (round r).runIn w = (.error e, w')) :
    Loop round 0 0 r w (.error e) w'
  | grows {g n : Nat} {r next : Round ω} {w w₁ w' : World ω} {result : Except Error α}
    (run : (round r).runIn w = (.ok (.again next), w₁)) (more : ¬next.affected ⊆ r.affected)
    (same : next.retries = r.retries) (rest : Loop round g n next w₁ result w') :
    Loop round (g + 1) n r w result w'
  | retries {g n : Nat} {r next : Round ω} {w w₁ w' : World ω} {result : Except Error α}
    (run : (round r).runIn w = (.ok (.again next), w₁)) (same : next.affected = r.affected)
    (counted : next.retries = r.retries + 1) (rest : Loop round g n next w₁ result w') :
    Loop round g (n + 1) r w result w'

variable {round : Round ω → Action ω (RoundEnd ω α)} {I : Nat → Nat → Round ω → World ω → Prop}
  {Q : Nat → α → Prop}

/-- A bound on the number of rounds makes no difference if there are fewer. -/
theorem Loop.runRounds_eq {g n : Nat} {r : Round ω} {w w' : World ω} {result : Except Error α}
    (loop : Loop round g n r w result w') {rounds : Nat} (enough : g + n < rounds) :
    (runRounds round rounds r).runIn w = (result, w') := by
  induction loop generalizing rounds with
  | ends run =>
    obtain ⟨rounds, rfl⟩ := Nat.exists_eq_add_one_of_ne_zero (Nat.ne_zero_of_lt enough)
    exact Action.runIn_bind_of_ok run _
  | fails run =>
    obtain ⟨rounds, rfl⟩ := Nat.exists_eq_add_one_of_ne_zero (Nat.ne_zero_of_lt enough)
    exact Action.runIn_bind_error.mpr (.inl run)
  | grows run _ _ _ ih =>
    obtain ⟨rounds, rfl⟩ := Nat.exists_eq_add_one_of_ne_zero (Nat.ne_zero_of_lt enough)
    exact (Action.runIn_bind_of_ok run _).trans (ih (by omega))
  | retries run _ _ _ ih =>
    obtain ⟨rounds, rfl⟩ := Nat.exists_eq_add_one_of_ne_zero (Nat.ne_zero_of_lt enough)
    exact (Action.runIn_bind_of_ok run _).trans (ih (by omega))

/-- From a round of which `I g n` holds to a next one, of which it holds with a smaller bound: on
the rounds that grow the set if this one did, on the retries if this one was one. -/
inductive Goes (I : Nat → Nat → Round ω → World ω → Prop) (r : Round ω) :
    (g n : Nat) → Round ω → World ω → Prop
  | grows {g n : Nat} {next : Round ω} {w : World ω} (more : ¬next.affected ⊆ r.affected)
    (same : next.retries = r.retries) (kept : I g n next w) : Goes I r (g + 1) n next w
  | retries {g n : Nat} {next : Round ω} {w : World ω} (same : next.affected = r.affected)
    (counted : next.retries = r.retries + 1) (kept : I g n next w) : Goes I r g (n + 1) next w

/-- Rounds that each end or go on with a smaller bound come to an end within the bounds. -/
theorem exists_loop
    (step : ∀ g n r w, I g n r w →
      (round r).Ensures w (RoundEnd.Meets (Goes I r g n) fun a _ => Q r.retries a))
    {g n : Nat} {r : Round ω} {w : World ω} (start : I g n r w) :
    ∃ grown retried result w', Loop round grown retried r w result w' ∧ grown ≤ g ∧ retried ≤ n ∧
      ∀ a, result = .ok a → Q (r.retries + retried) a := by
  -- each round lowers the sum of the two bounds
  induction total : g + n using Nat.strong_induction_on generalizing g n r w with
  | _ total ih =>
    subst total
    rcases run : (round r).runIn w with ⟨e | (next | a), w₁⟩
    · exact ⟨0, 0, _, w₁, .fails run, Nat.zero_le _, Nat.zero_le _, nofun⟩
    · cases step g n r w start _ w₁ run with
      | @grows g n next w₁ more same kept =>
        obtain ⟨grown, retried, result, w', loop, few, fewer, ends⟩ := ih _ (by omega) kept rfl
        rw [same] at ends
        exact ⟨grown + 1, retried, result, w', .grows run more same loop, by omega, fewer, ends⟩
      | @retries g n next w₁ same counted kept =>
        obtain ⟨grown, retried, result, w', loop, few, fewer, ends⟩ := ih _ (by omega) kept rfl
        rw [counted, Nat.add_assoc, Nat.add_comm 1] at ends
        exact ⟨grown, retried + 1, result, w', .retries run same counted loop, few, by omega, ends⟩
    · refine ⟨0, 0, _, w₁, .ends run, Nat.zero_le _, Nat.zero_le _, fun _ same => ?_⟩
      cases same
      exact step g n r w start _ w₁ run

end Engine

/-! ## Sets that do not grow -/

section Sets

variable {db : Database} {disk : Disk} {root : Path} {g : Snapshot} {A A' d d' first : Affected}

namespace Refresh

variable {refresh : Refresh}

/-- The symbols that a refresh starts from are all stored, as those of a file are. -/
def Rooted (db : Database) : Refresh → Prop
  | symbols ids => ∀ id ∈ ids, (db.symbols[id]?).isSome
  | _ => True

/-- The symbols that are derived for stored ones do not depend on the set. -/
theorem Derives.symbols_subset (rooted : refresh.Rooted db) (h : refresh.Derives db A d)
    (h' : refresh.Derives db A' d') : ∀ id ∈ d.symbols, id ∈ d'.symbols := by
  obtain ⟨start, _, _, g, shows, hd⟩ := h
  obtain ⟨start', _, _, g', shows', hd'⟩ := h'
  cases refresh with
  | file path prior =>
    have near {A d : Affected} {g : Snapshot} {disk : Disk} {root : Path}
        (start : (Refresh.file path prior).seed ⊆ A) (shows : g.Shows A db disk root)
        (hd : g.affectedByFile path = .ok d) (id : Int) :
        id ∈ d.symbols ↔ db.Near (db.HasSymbol path) id := by
      have asked := (Affected.subset_iff.mp start).1 path (Affected.mem_files_of.mpr (by simp))
      obtain ⟨own, ho, hd⟩ := Except.bind_eq_ok.mp hd
      apply shows.mirrors.mem_surrounded (shows.mem_ownIds asked ho) _ _ hd
      · rintro id ⟨row, hr, -⟩
        rw [hr]
        rfl
      · rintro id ⟨row, hr, file⟩
        refine (shows.complete id).mpr ⟨row, hr, .inr ?_⟩
        rw [file, Path.ofString_toString]
        exact asked
    intro id mem
    exact (near start' shows' hd' id).mpr ((near start shows hd id).mp mem)
  | symbols ids =>
    have near {A d : Affected} {g : Snapshot} {disk : Disk} {root : Path}
        (start : (Refresh.symbols ids).seed ⊆ A) (shows : g.Shows A db disk root)
        (hd : g.affectedBySymbols ids = .ok d) (id : Int) :
        id ∈ d.symbols ↔ db.Near (· ∈ ids) id := by
      have asked := (Affected.subset_iff.mp start).2
      exact shows.mirrors.mem_surrounded (fun _ => .rfl) rooted
        (fun id own => shows.complete_of_wanted (asked id own) (rooted id own)) hd id
    intro id mem
    exact (near start' shows' hd' id).mpr ((near start shows hd id).mp mem)
  | edges ends =>
    cases hd
    cases hd'
    exact fun _ mem => mem

/-- Once the first set was derived from stored symbols, nothing more is. -/
theorem closes (normal : db.Normal) (rooted : refresh.Rooted db)
    (derives : refresh.Derives db refresh.seed first) :
    refresh.Closes db (refresh.seed ∪ refresh.prior ∪ first) := by
  intro d derives'
  refine Affected.subset_iff.mpr ⟨refresh.nearlyCloses normal derives d derives', fun id mem => ?_⟩
  exact Affected.mem_symbols_union.mpr (.inr (derives'.symbols_subset rooted derives id mem))

/-- Nothing is derived from symbols of which none is stored. -/
theorem closes_of_missing {ids : ExtTreeSet Int} (missing : ∀ id ∈ ids, db.symbols[id]? = none)
    (derives : (symbols ids).Derives db (symbols ids).seed first) :
    (symbols ids).Closes db ((symbols ids).seed ∪ (symbols ids).prior ∪ first) := by
  have within : first ⊆ (symbols ids).seed := by
    obtain ⟨_, _, _, g, shows, hd⟩ := id derives
    have noEdge (e : Edge) : e ∉ g.edges := by
      intro he
      obtain ⟨id, complete, -⟩ := shows.touching e he
      obtain ⟨row, stored, own | none⟩ := (shows.complete id).mp complete
      · rw [missing id own] at stored
        cases stored
      · exact ExtTreeSet.not_mem_empty none
    obtain ⟨members, paths⟩ := Snapshot.surrounded_eq_ok hd
    have own (id : Int) (mem : id ∈ first.symbols) : id ∈ ids := by
      refine ((members id).mp mem).resolve_right fun next => ?_
      obtain ⟨e, he, _⟩ := Snapshot.mem_neighbors.mp next
      exact noEdge e he
    refine Affected.subset_iff.mpr ⟨fun path mem => ?_, own⟩
    rcases (paths path).mp mem with none | ⟨id, inSet, file⟩
    · exact (ExtTreeSet.not_mem_empty none).elim
    · obtain ⟨row, stored, _⟩ := shows.mirrors.row_of_fileOf file
      rw [missing id (own id inSet)] at stored
      cases stored
  have same : (symbols ids).seed ∪ (symbols ids).prior ∪ first = (symbols ids).seed := by
    apply Affected.subset_antisymm
    · rw [Affected.union_subset_iff, Affected.union_subset_iff]
      exact ⟨⟨Affected.subset_refl _, Affected.empty_subset _⟩, within⟩
    · exact Affected.subset_trans (Affected.subset_union_left _ _) (Affected.subset_union_left _ _)
  intro d derives'
  rw [same] at derives' ⊢
  rw [derives'.unique derives]
  exact within

/-- How often the set of a refresh may grow: symbols that are not stored can be joined to symbols
that only a larger set shows. -/
def growth : Refresh → Nat
  | symbols _ => 1
  | _ => 0

end Refresh

/-- Before a deletion nothing more is derived than at first. -/
theorem Removal.closes_before (removal : Removal) (normal : db.Normal)
    (derives : removal.refresh.Derives db removal.refresh.seed first) :
    removal.refresh.Closes db (removal.refresh.seed ∪ removal.refresh.prior ∪ first) := by
  cases removal with
  | file path => exact Refresh.closes normal trivial derives
  | symbol own =>
    have only (id : Int) (mem : id ∈ ExtTreeSet.ofList [own]) : id = own := by
      rwa [ExtTreeSet.mem_ofList, List.contains_iff_mem, List.mem_singleton] at mem
    cases stored : db.symbols[own]? with
    | some row =>
      refine Refresh.closes normal (fun id mem => ?_) derives
      rw [only id mem, stored]
      rfl
    | none =>
      refine Refresh.closes_of_missing (fun id mem => ?_) derives
      rw [only id mem, stored]

end Sets

/-! ## Rounds with a pace -/

/-- The recomputation counts so many retries. They are used up if a recomputed file has a symbol and
a content that is not the recorded one, and there are none if no file has. -/
structure Recomputation.Retried (res : Recomputation) (E : Engine ω) (db : Database) (disk : Disk)
    (root : Path) (retried : Nat) : Prop where
  counted : res.stats.retries = retried
  altered : (∃ path ∈ res.affected.files, db.Altered disk root path) → retried = E.maxRetries
  unaltered : (∀ path ∈ res.affected.files, ¬db.Altered disk root path) → retried = 0

variable {db after : Database} {disk : Disk} {root : Path}

/-- An altered file has a symbol. -/
theorem Database.Altered.hasFile {path : Path} (h : db.Altered disk root path) :
    db.HasFile path := by
  obtain ⟨id, row, hr, own⟩ := Database.symbolCount_ne_zero.mp h.1
  exact ⟨id, row, hr, by rw [own, Path.ofString_toString]⟩

namespace Engine

section Rounds

variable (E : Engine ω) (refresh : Refresh) (db after : Database) (root : Path) (w : World ω)
  (deletion : Option (Action ω Unit))

-- The tables that a round meets: those before the deletion, while it is pending.
private def metBy (r : Round ω) : Database :=
  if r.deletion.isSome then db else after

-- Where a round starts that at most `g` rounds that grow the set and `n` retries follow.
private structure Paced (g n : Nat) (r : Round ω) (w₁ : World ω) : Prop where
  seeded : refresh.seed ⊆ r.affected
  held : r.prior ⊆ r.affected
  nearly : refresh.NearlyCloses (metBy db after r) r.affected
  few : g ≤ 1
  closes : g = 0 → refresh.Closes (metBy db after r) r.affected
  left : r.retries + n = E.maxRetries
  reason : r.retries ≠ 0 → ∃ path ∈ r.affected.files, after.Altered w.disk root path
  asked : r.deletion = none ∨ r.deletion = deletion
  onward : w.Onward w₁ (metBy db after r)

-- Where a round of a backfill starts that at most `n` retries follow.
private structure BackfillPaced (n : Nat) (r : Round ω) (w₁ : World ω) : Prop where
  whole : r.affected.Whole db
  left : r.retries + n = E.maxRetries
  reason : r.retries ≠ 0 → ∃ path, db.HasFile path ∧ db.Altered w.disk root path
  onward : w.Onward w₁ db

variable {E refresh db after root w deletion}

private theorem Paced.grow {g n : Nat} {r : Round ω} {w₁ w₂ : World ω}
    (u : Paced E refresh db after root w deletion g n r w₁) (normal : (metBy db after r).Normal)
    {snapshot : Snapshot} {d : Affected}
    (shows : snapshot.Shows r.affected (metBy db after r) w.disk root)
    (hd : refresh.derive snapshot = .ok d) (lacks : ¬d ∪ r.prior ⊆ r.affected)
    (onward : w.Onward w₂ (metBy db after r)) :
    Goes (Paced E refresh db after root w deletion) r g n
      { r with affected := r.affected ∪ (d ∪ r.prior) } w₂ := by
  have derives : refresh.Derives (metBy db after r) r.affected d :=
    ⟨u.seeded, _, _, snapshot, shows, hd⟩
  have wider := Affected.subset_union_left r.affected (d ∪ r.prior)
  cases g with
  | zero =>
    exact (lacks (Affected.union_subset_iff.mpr ⟨u.closes rfl d derives, u.held⟩)).elim
  | succ g =>
    have closes := derives.closes normal u.nearly u.held
    have few := u.few
    refine .grows (fun within => lacks ?_) rfl ⟨Affected.subset_trans u.seeded wider,
      Affected.subset_trans u.held wider, closes.nearly, by omega, fun _ => closes, u.left,
      fun some => ?_, u.asked, onward⟩
    · exact (Affected.union_subset_iff.mp within).2
    · obtain ⟨path, mem, altered⟩ := u.reason some
      exact ⟨path, (Affected.subset_iff.mp wider).1 path mem, altered⟩

private theorem compute_paced (plain : E.loader = .plain root) (normal : after.Normal) {g n : Nat}
    {r : Round ω} {w₁ : World ω} (u : Paced E refresh db after root w deletion g n r w₁)
    (done : r.deletion = none) :
    (E.compute refresh.derive r).Ensures w₁ (RoundEnd.Meets
      (Goes (Paced E refresh db after root w deletion) r g n)
      fun res _ => res.Retried E after w.disk root r.retries) := by
  have met : metBy db after r = after := by rw [metBy, done]; rfl
  have isOpen := u.onward.isOpen
  rw [met] at isOpen
  refine (compute_turns plain isOpen normal r).mono ?_
  rw [u.onward.same.disk]
  intro e w₂ turn
  cases e with
  | again next =>
    obtain ⟨onward, -, turn⟩ := turn
    rw [← met] at onward normal
    cases turn with
    | grows shows hd lacks =>
      rw [← met] at shows
      exact u.grow normal shows hd lacks (u.onward.trans onward)
    | retries altered more =>
      have left := u.left
      obtain ⟨n, rfl⟩ := Nat.exists_eq_add_one_of_ne_zero (show n ≠ 0 by omega)
      refine .retries rfl rfl ⟨u.seeded, u.held, u.nearly, u.few, u.closes, ?_, fun _ => altered,
        u.asked, u.onward.trans onward⟩
      exact (Nat.add_assoc _ _ _).trans ((congrArg _ (Nat.add_comm _ _)).trans left)
  | done res =>
    obtain ⟨affected, d, -, -, -, concludes⟩ := turn
    have few : r.retries ≤ E.maxRetries := u.left ▸ Nat.le_add_right _ _
    obtain ⟨most, none⟩ := concludes.exhausted few u.reason
    rw [← affected] at most none
    exact ⟨concludes.retried, most, none⟩

private theorem round_paced (plain : E.loader = .plain root) (normal : db.Normal)
    (normal' : after.Normal)
    (deletes : ∀ action, deletion = some action → (∀ A, refresh.seed ⊆ A → refresh.Closes after A) ∧
      ∀ w₁ : World ω, w₁.Open db → action.Ensures w₁ fun _ w' => w₁.Onward w' after)
    {g n : Nat} {r : Round ω} {w₁ : World ω}
    (u : Paced E refresh db after root w deletion g n r w₁) :
    (E.round refresh.derive r).Ensures w₁ (RoundEnd.Meets
      (Goes (Paced E refresh db after root w deletion) r g n)
      fun res _ => res.Retried E after w.disk root r.retries) := by
  unfold round
  cases hd : r.deletion with
  | none => exact compute_paced plain normal' u hd
  | some action =>
    obtain ⟨closes, deletes⟩ := deletes action (by rw [← u.asked.resolve_left (by simp [hd]), hd])
    have met : metBy db after r = db := by rw [metBy, hd]; rfl
    have isOpen := u.onward.isOpen
    rw [met] at isOpen
    rw [plain]
    refine (Snapshot.loadPart_ensures isOpen normal r.affected).bind ?_
    rintro snapshot w₂ ⟨shows, onward⟩
    rw [u.onward.same.disk] at shows
    refine .given fun d derived => ?_
    dsimp only
    split
    · next lacks =>
      rw [← met] at shows onward normal
      rw [← hd]
      exact .pure (u.grow normal shows derived lacks (u.onward.trans onward))
    next covered =>
    rw [Classical.not_not] at covered
    refine (deletes w₂ onward.isOpen).bind fun _ w₃ deleted => ?_
    have closed := closes r.affected u.seeded
    have next : Paced E refresh db after root w deletion g n
        { r with prior := d ∪ r.prior, deletion := none } w₃ :=
      ⟨u.seeded, covered, closed.nearly, u.few, fun _ => closed, u.left, u.reason, .inl rfl,
        (u.onward.trans onward).trans deleted⟩
    refine (compute_paced plain normal' next rfl).mono fun e w₄ turn => ?_
    cases e with
    | done res => exact turn
    | again next =>
      cases turn with
      | grows more same kept => exact .grows more same kept
      | retries same counted kept => exact .retries same counted kept

private theorem backfillRound_paced (plain : E.loader = .plain root) (normal : db.Normal)
    {notify : Nat → Nat → Action ω Unit} (quiet : ∀ i n, Quiet (notify i n)) {g n : Nat}
    {r : Round ω} {w₁ : World ω} (u : BackfillPaced E db root w n r w₁) :
    (E.backfillRound notify r).Ensures w₁ (RoundEnd.Meets
      (Goes (fun _ => BackfillPaced E db root w) r g n)
      fun res _ => res.Retried E db w.disk root r.retries) := by
  refine (backfillRound_turns plain u.onward.isOpen normal quiet u.whole).mono ?_
  rw [u.onward.same.disk]
  intro e w₂ turn
  cases e with
  | again next =>
    obtain ⟨onward, -, altered, more, rfl⟩ := turn
    have left := u.left
    obtain ⟨n, rfl⟩ := Nat.exists_eq_add_one_of_ne_zero (show n ≠ 0 by omega)
    refine .retries rfl rfl ⟨u.whole, ?_, fun _ => altered, u.onward.trans onward⟩
    exact (Nat.add_assoc _ _ _).trans ((congrArg _ (Nat.add_comm _ _)).trans left)
  | done res =>
    obtain ⟨affected, concludes⟩ := turn
    have few : r.retries ≤ E.maxRetries := u.left ▸ Nat.le_add_right _ _
    obtain ⟨most, none⟩ := concludes.exhausted few u.reason
    refine ⟨concludes.retried, ?_, ?_⟩
    · rintro ⟨path, -, altered⟩
      exact most ⟨path, altered.hasFile, altered⟩
    · intro unaltered
      refine none fun path own => unaltered path ?_
      rw [affected]
      exact (u.whole.files path).mpr (.inl own)

end Rounds

/-! ## Beginnings -/

/-- What comes before the rounds of a recomputation: the first set is derived. -/
def beginning (E : Engine ω) (refresh : Refresh) (deletion : Option (Action ω Unit)) :
    Action ω (Round ω) := do
  let first ← Action.of (refresh.derive (← E.loader.part refresh.seed))
  return { affected := refresh.seed ∪ refresh.prior ∪ first, prior := refresh.prior, deletion }

/-- What comes before the rounds of a backfill: the set of everything. -/
def backfillBeginning (E : Engine ω) : Action ω (Round ω) := do
  let affected ← withStored (← E.loader.whole).affectedByAll
  return { affected, prior := ∅, deletion := none }

variable {E : Engine ω} {refresh : Refresh} {w : World ω}

/-- From what is derived at first the rounds of a recomputation come to an end, if the set needs to
grow once at most. -/
theorem beginning_loops (plain : E.loader = .plain root) (isOpen : w.Open db) (normal : db.Normal)
    (normal' : after.Normal) {deletion : Option (Action ω Unit)} {g : Nat} (few : g ≤ 1)
    (closes : g = 0 → ∀ first, refresh.Derives db refresh.seed first →
      refresh.Closes db (refresh.seed ∪ refresh.prior ∪ first))
    (kept : deletion = none → after = db)
    (deletes : ∀ action, deletion = some action → (∀ A, refresh.seed ⊆ A → refresh.Closes after A) ∧
      ∀ w₁ : World ω, w₁.Open db → action.Ensures w₁ fun _ w' => w₁.Onward w' after) :
    (E.beginning refresh deletion).Ensures w fun r w₁ => ∃ grown retried result w',
      Loop (E.round refresh.derive) grown retried r w₁ result w' ∧ grown ≤ g ∧
        retried ≤ E.maxRetries ∧
          ∀ res, result = .ok res → res.Retried E after w.disk root retried := by
  unfold beginning
  rw [plain]
  refine (Snapshot.loadPart_ensures isOpen normal refresh.seed).bind ?_
  rintro snapshot w₁ ⟨shows, onward⟩
  refine .given fun first hfirst => .pure ?_
  have derives : refresh.Derives db refresh.seed first :=
    ⟨Affected.subset_refl _, _, _, snapshot, shows, hfirst⟩
  have start := Affected.subset_union_left (refresh.seed ∪ refresh.prior) first
  have met (affected prior : Affected) :
      metBy db after { affected, prior, deletion : Round ω } = db := by
    rw [metBy]
    cases deletion with
    | none => exact kept rfl
    | some action => rfl
  have paced : Paced E refresh db after root w deletion g E.maxRetries
      { affected := refresh.seed ∪ refresh.prior ∪ first, prior := refresh.prior, deletion }
      w₁ := by
    refine ⟨Affected.subset_trans (Affected.subset_union_left _ _) start,
      Affected.subset_trans (Affected.subset_union_right _ _) start, ?_, few, ?_, Nat.zero_add _,
      fun no => (no rfl).elim, .inr rfl, ?_⟩
    · rw [met]
      exact refresh.nearlyCloses normal derives
    · rw [met]
      exact fun none => closes none first derives
    · rw [met]
      exact onward
  simpa only [Nat.zero_add] using
    exists_loop (g := g) (I := Paced E refresh db after root w deletion)
      (fun g n r w₂ u => round_paced plain normal normal' deletes u) paced

/-- The rounds of a backfill come to an end, and its set never grows. -/
theorem backfillBeginning_loops (plain : E.loader = .plain root) (isOpen : w.Open db)
    (normal : db.Normal) {notify : Nat → Nat → Action ω Unit} (quiet : ∀ i n, Quiet (notify i n)) :
    E.backfillBeginning.Ensures w fun r w₁ => ∃ grown retried result w',
      Loop (E.backfillRound notify) grown retried r w₁ result w' ∧ grown ≤ 0 ∧
        retried ≤ E.maxRetries ∧
          ∀ res, result = .ok res → res.Retried E db w.disk root retried := by
  unfold backfillBeginning
  rw [plain]
  refine (Snapshot.loadAll_ensures isOpen normal).bind ?_
  rintro snapshot w₁ ⟨shows, onward⟩
  refine (withStored_whole shows w₁ onward.isOpen).bind ?_
  rintro affected w₂ ⟨whole, alike⟩
  refine .pure ?_
  have paced : BackfillPaced E db root w E.maxRetries
      { affected, prior := ∅, deletion := none } w₂ :=
    ⟨whole, Nat.zero_add _, fun no => (no rfl).elim, onward.trans (alike.onward onward.isOpen)⟩
  simpa only [Nat.zero_add] using
    exists_loop (g := 0) (I := fun _ => BackfillPaced E db root w)
      (fun g n r w₃ u => backfillRound_paced plain normal quiet u) paced

end Engine

/-! ## Calls -/

namespace Work

/-- What comes before the rounds of a call. -/
def beginning (E : Engine ω) : Work ω → Action ω (Round ω)
  | refresh r => E.beginning r none
  | removal r => E.beginning r.refresh (some r.deletion)
  | backfill _ _ => E.backfillBeginning

/-- One round of a call. -/
def round (E : Engine ω) : Work ω → Round ω → Action ω (RoundEnd ω Recomputation)
  | refresh r => E.round r.derive
  | removal r => E.round r.refresh.derive
  | backfill notify _ => E.backfillRound notify

/-- How often the set of a call may grow. -/
def growth : Work ω → Nat
  | refresh r => r.growth
  | _ => 0

/-- A call is its beginning and then its rounds. -/
theorem run_eq (work : Work ω) (E : Engine ω) :
    work.run E = work.beginning E >>= Engine.runRounds (work.round E) E.maxRounds := by
  have recompute (refresh : Refresh) (deletion : Option (Action ω Unit)) :
      E.recompute refresh.seed refresh.derive refresh.prior deletion =
        E.beginning refresh deletion >>= Engine.runRounds (E.round refresh.derive) E.maxRounds := by
    simp only [Engine.recompute, Engine.beginning, bind_assoc, pure_bind]
  cases work with
  | refresh r => exact r.run_eq.trans (recompute r none)
  | removal r => exact r.run_eq_recompute.trans (recompute r.refresh (some r.deletion))
  | backfill notify quiet =>
    change E.backfill notify = E.backfillBeginning >>= _
    simp only [Engine.backfill, Engine.backfillBeginning, bind_assoc, pure_bind]
    rfl

/-- How a call runs while nothing bounds the number of its rounds: what it gives, where it ends, how
many rounds grew the set and how many were retries. One round more is the last. -/
inductive Takes (E : Engine ω) (work : Work ω) (w : World ω) :
    (grown retried : Nat) → Except Error Recomputation → World ω → Prop
  | fails {e : Error} {w' : World ω} (run : (work.beginning E).runIn w = (.error e, w')) :
    Takes E work w 0 0 (.error e) w'
  | loops {r : Round ω} {w₁ w' : World ω} {grown retried : Nat}
    {result : Except Error Recomputation} (run : (work.beginning E).runIn w = (.ok r, w₁))
    (loop : Engine.Loop (work.round E) grown retried r w₁ result w') :
    Takes E work w grown retried result w'

variable {E : Engine ω} {w : World ω}

/-- A call runs as it does without a bound on its rounds if it takes fewer. -/
theorem Takes.run_eq {work : Work ω} {grown retried : Nat} {result : Except Error Recomputation}
    {w' : World ω} (takes : Takes E work w grown retried result w')
    (enough : grown + retried < E.maxRounds) : (work.run E).runIn w = (result, w') := by
  rw [work.run_eq]
  cases takes with
  | fails run => exact Action.runIn_bind_error.mpr (.inl run)
  | loops run loop => exact (Action.runIn_bind_of_ok run _).trans (loop.runRounds_eq enough)

/-- A call opens the repository by loading its first snapshot. -/
theorem opens_beginning (plain : E.loader = .plain root) (work : Work ω) :
    (work.beginning E).Opens := by
  cases work with
  | refresh r =>
    rw [beginning, Engine.beginning, plain]
    exact (Snapshot.opens_loadPart _).bind _
  | removal r =>
    rw [beginning, Engine.beginning, plain]
    exact (Snapshot.opens_loadPart _).bind _
  | backfill notify quiet =>
    rw [beginning, Engine.backfillBeginning, plain]
    exact Snapshot.opens_loadAll.bind _

/-- From its beginning a call comes to an end. -/
theorem beginning_loops (plain : E.loader = .plain root) (isOpen : w.Open db) (normal : db.Normal)
    (work : Work ω) :
    (work.beginning E).Ensures w fun r w₁ => ∃ grown retried result w',
      Engine.Loop (work.round E) grown retried r w₁ result w' ∧ grown ≤ work.growth ∧
        retried ≤ E.maxRetries ∧
        ∀ res, result = .ok res → res.Retried E (work.after db) w.disk root retried := by
  cases work with
  | refresh r =>
    apply Engine.beginning_loops plain isOpen normal normal
    · cases r <;> simp [growth, Refresh.growth]
    · intro none first derives
      apply Refresh.closes normal _ derives
      cases r with
      | symbols ids => cases none
      | file path prior => trivial
      | edges ends => trivial
    · exact fun _ => rfl
    · exact nofun
  | removal r =>
    apply Engine.beginning_loops plain isOpen normal (Removal.normal_without normal r)
      (Nat.zero_le 1)
    · exact fun _ first derives => r.closes_before normal derives
    · exact nofun
    · intro action same
      cases same
      exact ⟨fun A start => r.closes start, fun w₁ isOpen => r.deletion_ensures isOpen⟩
  | backfill notify quiet => exact Engine.backfillBeginning_loops plain isOpen normal quiet

/-- A call comes to an end, though nothing bounds the number of its rounds, while nothing else
changes the tables or the disk. At most one round grows the set, and none does but in a refresh of
symbols; all others but the last are retries. If it returns, the retries that it counts are all that
there may be if a recomputed file has a symbol and a content that is not the recorded one, and zero
otherwise. An engine with patience for one round that grows the set never runs out of rounds. -/
theorem ends_within (plain : E.loader = .plain root) (shows : w.Shows db disk)
    (normal : db.Normal) (work : Work ω) :
    ∃ grown retried result w', work.Takes E w grown retried result w' ∧
      grown ≤ work.growth ∧ retried ≤ E.maxRetries ∧
      (work.growth ≤ E.patience → (work.run E).runIn w = (result, w')) ∧
      ∀ res, result = .ok res → res.Retried E (work.after db) disk root retried := by
  obtain ⟨o, isOpen, sameDisk, -, opened⟩ := shows.exists_open
  have begun := opened _ (opens_beginning plain work)
  rcases run : (work.beginning E).runIn o with ⟨e | r, w₁⟩
  · rw [run] at begun
    have takes := Takes.fails begun
    exact ⟨0, 0, _, w₁, takes, Nat.zero_le _, Nat.zero_le _,
      fun _ => takes.run_eq (Nat.succ_pos _), nofun⟩
  · rw [run] at begun
    obtain ⟨grown, retried, result, w', loop, few, fewer, ends⟩ :=
      beginning_loops plain isOpen normal work r w₁ run
    rw [sameDisk] at ends
    have takes := Takes.loops begun loop
    refine ⟨grown, retried, result, w', takes, few, fewer, fun patient => takes.run_eq ?_, ends⟩
    rw [Engine.maxRounds]
    omega

/-! A third function of the small repository, in the first file, calls a symbol that is not stored.
Only a snapshot of the whole file shows this call. -/

/-- The tables with the third function and its call. -/
def loose : Database :=
  { recorded with
    symbols := recorded.symbols.insert 3 (Sample.function "h" "a")
    edges := recorded.edges.insert 2 ⟨.int 3, .int 9, .int 1, some "call"⟩ }

/-- The world with these tables, in which the second file was edited. -/
def looseWorld : World Unit :=
  { Sample.world loose with disk := edited }

/-- The refresh of the first function and of the symbol that is not stored. -/
def looseSample : Work Unit :=
  .refresh (.symbols (.ofList [(1 : Int), 9]))

/-- A call takes one growth and two retries, and reaches a symbol that its set did not have at
first. -/
theorem sample_ends_within :
    ∃ grown res w', looseSample.Takes Sample.engine looseWorld grown 2 (.ok res) w' ∧ grown ≤ 1 ∧
      (looseSample.run Sample.engine).runIn looseWorld = (.ok res, w') ∧
      res.stats.retries = 2 ∧ 3 ∈ res.affected.symbols := by
  have returns : ((looseSample.run Sample.engine).runIn looseWorld).1.toOption.map
      (fun res => (res.stats.retries, res.affected.symbols.contains 3)) = some (2, true) := by
    decide +kernel
  have normal : loose.Normal := by decide +kernel
  have shows : looseWorld.Shows loose edited := by
    apply World.Open.shows
    refine ⟨{ serial := 1, file := 2 }, rfl, ?_⟩
    simp [World.tables, World.committed, looseWorld, Sample.world]
  obtain ⟨grown, retried, result, w', takes, few, -, runs, ends⟩ :=
    ends_within (E := Sample.engine) rfl shows normal looseSample
  have run := runs (by decide)
  rw [run] at returns
  cases result with
  | error e => cases returns
  | ok res =>
    obtain ⟨two, grew⟩ := Prod.mk.inj (Option.some.inj returns)
    have same : retried = 2 := by
      have counted := (ends res rfl).counted
      rw [two] at counted
      omega
    subst same
    exact ⟨grown, res, w', takes, few, run, two, ExtTreeSet.contains_iff_mem.mp grew⟩

end Work

end CodeGauge
