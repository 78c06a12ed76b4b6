import CodeGauge.Proofs.Engine.Refresh
import CodeGauge.Proofs.Snapshot.Reports
import CodeGauge.Proofs.Store.Loads
import Mathlib.Logic.Relation

/-!
# How a recomputation grows

What a recomputation derives from a snapshot depends on the graph and on the set that the snapshot
shows, not on the contents of the files. So the set grows through the same stages whatever the disk
holds (`Stage.Step.rightUnique`), and ends at the same one (`Stage.Final.unique`). A content that is
not the recorded one makes the recomputation try fresh snapshots at this last stage, as often as it
may. Hence the number of the snapshot that it writes from is the number of stages and of retries
(`Recomputation.Counted`).
-/

open Std

namespace CodeGauge

variable {ω : Type}

/-! ## Numbers of snapshots -/

namespace Snapshot

private theorem id_foldl {α : Type} {f : Snapshot → α → Snapshot}
    (kept : ∀ g a, (f g a).id = g.id) (as : List α) (g : Snapshot) : (as.foldl f g).id = g.id := by
  induction as generalizing g with
  | nil => rfl
  | cons a as ih => rw [List.foldl_cons, ih, kept]

private theorem id_foldlM {α : Type} {f : Snapshot → α → Except Error Snapshot}
    (kept : ∀ g a g', f g a = .ok g' → g'.id = g.id) {as : List α} {g g' : Snapshot}
    (run : as.foldlM f g = .ok g') : g'.id = g.id := by
  induction as generalizing g with
  | nil =>
    cases run
    rfl
  | cons a as ih =>
    rw [List.foldlM_cons, Except.bind_eq_ok] at run
    obtain ⟨g₁, first, run⟩ := run
    rw [ih run, kept g a g₁ first]

private theorem id_addSymbol (complete : Bool) (g : Snapshot) (s : Symbol) :
    (g.addSymbol s complete).id = g.id := rfl

private theorem id_addEdge (g : Snapshot) (e : Edge) : (g.addEdge e).id = g.id := by
  rw [addEdge]
  split
  · rfl
  · rfl

private theorem id_of_cover {g g' : Snapshot} {disk : Disk} {root : Option Path} {path : Path}
    {ids : List Int} {hash : Option String} {unread : Bool}
    (made : g.cover disk root path ids hash unread = .ok g') : g'.id = g.id := by
  rw [cover] at made
  split at made
  · cases made
    rfl
  · obtain ⟨read, _, made⟩ := Except.bind_eq_ok.mp made
    cases made
    rfl

variable {w : World ω} {root : Option Path}

/-- A snapshot of a part has the next number. -/
theorem loadPart_numbered (wanted : Affected) :
    (loadPart wanted root).Ensures w fun g w' =>
      g.id = w.loads + 1 ∧ w'.loads = w.loads + 1 := by
  unfold loadPart
  refine .after (runIn_fresh w) ?_
  refine .bind (P := fun _ w' => w'.loads = w.loads + 1) (Action.LoadsNothing.ensures ?_ _) ?_
  · refine .reportingGraphFaults (.reading ?_)
    refine .bind (Graph.symbolsInFiles_loadsNothing _) fun _ => ?_
    refine .bind (Graph.symbolsById_loadsNothing _) fun _ => ?_
    refine .bind (Graph.touching_loadsNothing _) fun _ => ?_
    refine .bind (Graph.symbolsAt_loadsNothing _ _) fun _ => ?_
    exact .bind (Graph.hashes_loadsNothing _) fun _ => .pure _
  rintro ⟨core, edges, context, hashes⟩ w₁ loads
  refine .after Action.runIn_get ?_
  refine .of fun g run => ⟨?_, loads⟩
  rw [id_foldlM (fun _ _ _ => id_of_cover) run, id_foldl id_addEdge,
    id_foldl (id_addSymbol false), id_foldl (id_addSymbol true)]

/-- A snapshot of the whole graph has the next number. -/
theorem loadAll_numbered :
    (loadAll root).Ensures w fun g w' => g.id = w.loads + 1 ∧ w'.loads = w.loads + 1 := by
  unfold loadAll
  refine .after (runIn_fresh w) ?_
  refine .bind (P := fun _ w' => w'.loads = w.loads + 1) (Action.LoadsNothing.ensures ?_ _) ?_
  · refine .reportingGraphFaults (.reading ?_)
    refine .bind Graph.allSymbols_loadsNothing fun _ => ?_
    refine .bind Graph.allEdges_loadsNothing fun _ => ?_
    refine .bind Graph.filePaths_loadsNothing fun _ => ?_
    exact .bind (Graph.hashes_loadsNothing _) fun _ => .pure _
  rintro ⟨symbols, edges, files, hashes⟩ w₁ loads
  refine .after Action.runIn_get ?_
  refine .of fun g run => ⟨?_, loads⟩
  rw [id_foldlM (fun _ _ _ => id_of_cover) run, id_foldl id_addEdge,
    id_foldl (id_addSymbol true)]

end Snapshot

/-! ## Stages -/

/-- What a refresh derives for a set of at least what it was asked for, on whatever disk. -/
def Refresh.Derives (refresh : Refresh) (db : Database) (A d : Affected) : Prop :=
  refresh.seed ⊆ A ∧ ∃ disk root, ∃ g : Snapshot, g.Shows A db disk root ∧ refresh.derive g = .ok d

/-- The graph and the set determine what is derived. -/
theorem Refresh.Derives.unique {refresh : Refresh} {db : Database} {A d d' : Affected}
    (h : refresh.Derives db A d) (h' : refresh.Derives db A d') : d = d' := by
  obtain ⟨start, _, _, g, shows, hd⟩ := h
  obtain ⟨_, _, _, g', shows', hd'⟩ := h'
  apply Affected.subset_antisymm
  · exact refresh.derive_mono start (Affected.subset_refl A) shows shows' hd hd'
  · exact refresh.derive_mono start (Affected.subset_refl A) shows' shows hd' hd

/-- How far a recomputation has come: its set, what was connected before, whether a deletion is
still to be done, and how many snapshots it took. -/
structure Stage where
  affected : Affected
  prior : Affected
  pending : Bool
  loads : Nat

namespace Stage

/-- From one stage to the next: the set grows by what it lacks, or the deletion, which leads from
`db` to `after`, is done. -/
inductive Step (refresh : Refresh) (db after : Database) : Stage → Stage → Prop
  | grow {s : Stage} {d : Affected}
    (derives : refresh.Derives (if s.pending then db else after) s.affected d)
    (lacks : ¬d ∪ s.prior ⊆ s.affected) :
    Step refresh db after s
      { s with affected := s.affected ∪ (d ∪ s.prior), loads := s.loads + 1 }
  | delete {s : Stage} {d : Affected} (pending : s.pending = true)
    (derives : refresh.Derives db s.affected d) (covered : d ∪ s.prior ⊆ s.affected) :
    Step refresh db after s { s with prior := d ∪ s.prior, pending := false, loads := s.loads + 1 }

/-- The deletion is done and the set lacks nothing. -/
def Final (refresh : Refresh) (after : Database) (s : Stage) : Prop :=
  s.pending = false ∧ ∃ d, refresh.Derives after s.affected d ∧ d ∪ s.prior ⊆ s.affected

variable {refresh : Refresh} {db after : Database} {s t u : Stage}

/-- There is but one next stage. -/
theorem Step.rightUnique : Relator.RightUnique (Step refresh db after) := by
  intro s t u first second
  cases first with
  | grow derives lacks =>
    cases second with
    | grow derives' _ => rw [derives.unique derives']
    | delete pending derives' covered =>
      rw [pending, if_pos rfl] at derives
      rw [derives.unique derives'] at lacks
      exact (lacks covered).elim
  | delete pending derives covered =>
    cases second with
    | grow derives' lacks =>
      rw [pending, if_pos rfl] at derives'
      rw [derives'.unique derives] at lacks
      exact (lacks covered).elim
    | delete _ derives' _ => rw [derives.unique derives']

/-- Nothing follows a final stage. -/
theorem Final.no_step (final : s.Final refresh after) : ¬Step refresh db after s t := by
  obtain ⟨done, d, derives, covered⟩ := final
  intro step
  cases step with
  | grow derives' lacks =>
    rw [done, if_neg Bool.false_ne_true] at derives'
    rw [derives'.unique derives] at lacks
    exact lacks covered
  | delete pending _ _ =>
    rw [done] at pending
    cases pending

/-- From one stage there is but one final stage. -/
theorem Final.unique (ht : t.Final refresh after) (hu : u.Final refresh after)
    (first : Relation.ReflTransGen (Step refresh db after) s t)
    (second : Relation.ReflTransGen (Step refresh db after) s u) : t = u := by
  have stuck {a b : Stage} (final : a.Final refresh after)
      (steps : Relation.ReflTransGen (Step refresh db after) a b) : a = b := by
    rcases steps.cases_head with same | ⟨c, step, _⟩
    · exact same
    · exact (final.no_step step).elim
  rcases Relation.ReflTransGen.total_of_right_unique Step.rightUnique first second
    with steps | steps
  · exact stuck ht steps
  · exact (stuck hu steps).symm

/-- The final stage of a recomputation that had loaded this many snapshots once it had a first set:
what it was asked for, what was connected before, and what is derived from that. -/
def Reached (refresh : Refresh) (db after : Database) (prior : Affected) (pending : Bool)
    (loads : Nat) (s : Stage) : Prop :=
  ∃ first, refresh.Derives db refresh.seed first ∧
    Relation.ReflTransGen (Step refresh db after)
      ⟨refresh.seed ∪ prior ∪ first, prior, pending, loads⟩ s ∧
    s.Final refresh after

/-- The graph and what a recomputation was asked for determine its final stage. -/
theorem Reached.unique {prior : Affected} {pending : Bool} {loads : Nat}
    (hs : s.Reached refresh db after prior pending loads)
    (ht : t.Reached refresh db after prior pending loads) : s = t := by
  obtain ⟨first, derives, steps, final⟩ := hs
  obtain ⟨first', derives', steps', final'⟩ := ht
  rw [derives'.unique derives] at steps'
  exact final.unique final' steps steps'

end Stage

/-! ## Reports and retries -/

/-- What a recomputation reports on the files it was asked for, and which snapshot it reports from.
The snapshot mirrors the tables and the disk, its reports on the files are the errors, and its
number is the first one unless the content of one of the files is not the recorded one, when the
retries are used up. -/
structure Recomputation.Counted (res : Recomputation) (E : Engine ω) (db : Database) (disk : Disk)
    (root : Path) (asked : Path → Prop) (first : Nat) : Prop where
  mirrors : res.snapshot.Mirrors db disk root
  wellFormed : res.snapshot.WellFormed
  covered : ∀ path, asked path → path ∈ res.snapshot.files
  reports : ∃ now, ∃ files : List Path, files.Nodup ∧ (∀ path, path ∈ files ↔ asked path) ∧
    (∀ path, asked path → ∃ r, tolerateReported (res.snapshot.fileMetrics path now) = .ok r) ∧
    res.stats.errors.Perm (files.filterMap (res.snapshot.report? now))
  number : ∃ retries, res.snapshot.id = first + retries ∧
    ((∃ path, asked path ∧ db.Altered disk root path) → retries = E.maxRetries) ∧
    ((∀ path, asked path → ¬db.Altered disk root path) → retries = 0)

/-- How a recomputation ends after so many retries. It reports on the files it was asked for from
the snapshot with this number, and the retries are used up if the content of one of the files is not
the recorded one. -/
structure Recomputation.Concludes (res : Recomputation) (E : Engine ω) (db : Database) (disk : Disk)
    (root : Path) (asked : Path → Prop) (retries number : Nat) : Prop where
  mirrors : res.snapshot.Mirrors db disk root
  wellFormed : res.snapshot.WellFormed
  covered : ∀ path, asked path → path ∈ res.snapshot.files
  reports : ∃ now, ∃ files : List Path, files.Nodup ∧ (∀ path, path ∈ files ↔ asked path) ∧
    (∀ path, asked path → ∃ r, tolerateReported (res.snapshot.fileMetrics path now) = .ok r) ∧
    res.stats.errors.Perm (files.filterMap (res.snapshot.report? now))
  number : res.snapshot.id = number
  retried : res.stats.retries = retries
  enough : (∃ path, asked path ∧ db.Altered disk root path) → E.maxRetries ≤ retries

namespace Recomputation.Concludes

variable {res : Recomputation} {E : Engine ω} {db : Database} {disk : Disk} {root : Path}
  {asked : Path → Prop} {retries number first : Nat}

/-- If there were not too many retries and none without a reason, they are used up or there are
none. -/
theorem exhausted (h : res.Concludes E db disk root asked retries number)
    (few : retries ≤ E.maxRetries)
    (reason : retries ≠ 0 → ∃ path, asked path ∧ db.Altered disk root path) :
    ((∃ path, asked path ∧ db.Altered disk root path) → retries = E.maxRetries) ∧
      ((∀ path, asked path → ¬db.Altered disk root path) → retries = 0) := by
  refine ⟨fun altered => Nat.le_antisymm few (h.enough altered), fun unaltered => ?_⟩
  apply Classical.byContradiction
  intro some
  obtain ⟨path, wanted, altered⟩ := reason some
  exact unaltered path wanted altered

/-- The retries count the snapshots after the first. -/
theorem counted (h : res.Concludes E db disk root asked retries (first + retries))
    (few : retries ≤ E.maxRetries)
    (reason : retries ≠ 0 → ∃ path, asked path ∧ db.Altered disk root path) :
    res.Counted E db disk root asked first :=
  ⟨h.mirrors, h.wellFormed, h.covered, h.reports, retries, h.number, h.exhausted few reason⟩

end Recomputation.Concludes

namespace Engine

variable {E : Engine ω} {db after : Database} {disk : Disk} {root : Path} {g : Snapshot}
  {files : List Path} {symbols : List Int} {now : Int} {measured : List MeasuredFile}
  {a : Aggregate} {retries : Nat} {asked : Path → Prop}

/-- A fresh snapshot is to be tried while there are retries and a content is not the recorded
one. -/
theorem shouldRetry_iff (mirrors : g.Mirrors db disk root) (wellFormed : g.WellFormed)
    (listed : ∀ path, path ∈ files ↔ asked path) (covered : ∀ path, asked path → path ∈ g.files)
    (hm : g.measureFiles files now = .ok measured)
    (ha : g.aggregateFrom measured symbols now = .ok a) :
    E.shouldRetry a retries = true ↔
      (∃ path, asked path ∧ db.Altered disk root path) ∧ retries < E.maxRetries := by
  have settled := wellFormed.settles (Except.bind_eq_ok.mpr ⟨measured, hm, ha⟩)
  rw [shouldRetry, Bool.and_eq_true, decide_eq_true_eq, settled.inconsistent]
  apply and_congr_left'
  apply exists_congr
  intro path
  rw [listed]
  apply and_congr_right
  intro asked
  exact mirrors.mismatches_iff wellFormed (covered path asked)

/-- What is written without a further retry reports on the files. -/
theorem concludes {res : Recomputation}
    (mirrors : res.snapshot.Mirrors db disk root) (wellFormed : res.snapshot.WellFormed)
    (nodup : files.Nodup) (listed : ∀ path, path ∈ files ↔ asked path)
    (covered : ∀ path, asked path → path ∈ res.snapshot.files)
    (hm : res.snapshot.measureFiles files now = .ok measured)
    (ha : res.snapshot.aggregateFrom measured symbols now = .ok a)
    (errors : res.stats.errors = keptRows a) (counted : res.stats.retries = retries)
    (enough : ¬E.shouldRetry a retries) :
    res.Concludes E db disk root asked retries res.snapshot.id := by
  rw [shouldRetry_iff mirrors wellFormed listed covered hm ha] at enough
  refine ⟨mirrors, wellFormed, covered, ⟨now, files, nodup, listed, fun path wanted => ?_, ?_⟩,
    rfl, counted, fun altered => Nat.not_lt.mp fun more => enough ⟨altered, more⟩⟩
  · exact Snapshot.exists_tolerated_of_measureFiles hm ((listed path).mpr wanted)
  · rw [errors]
    exact keptRows_perm hm ha nodup

/-! ## Rounds -/

/-- How a round goes on to the next one: with a larger set, since it lacks something that a snapshot
of it shows, or with the same set once more, since a content is not the recorded one. -/
inductive Turns (E : Engine ω) (derive : Snapshot → Except Error Affected) (db : Database)
    (disk : Disk) (root : Path) (r : Round ω) : Round ω → Prop
  | grows {g : Snapshot} {d : Affected} (shows : g.Shows r.affected db disk root)
    (derived : derive g = .ok d) (lacks : ¬d ∪ r.prior ⊆ r.affected) :
    Turns E derive db disk root r { r with affected := r.affected ∪ (d ∪ r.prior) }
  | retries (altered : ∃ path ∈ r.affected.files, db.Altered disk root path)
    (more : r.retries < E.maxRetries) :
    Turns E derive db disk root r { r with retries := r.retries + 1 }

/-- Computing from one snapshot goes on to the next round or ends. -/
theorem compute_turns {derive : Snapshot → Except Error Affected} {w : World ω}
    (plain : E.loader = .plain root) (isOpen : w.Open db) (normal : db.Normal) (r : Round ω) :
    (E.compute derive r).Ensures w (RoundEnd.Meets
      (fun next w' => w.Onward w' db ∧ w'.loads = w.loads + 1 ∧
        Turns E derive db w.disk root r next)
      fun res _ => res.affected = r.affected ∧
        ∃ d, res.snapshot.Shows r.affected db w.disk root ∧ derive res.snapshot = .ok d ∧
          d ∪ r.prior ⊆ r.affected ∧
          res.Concludes E db w.disk root (· ∈ r.affected.files) r.retries (w.loads + 1)) := by
  unfold compute
  rw [plain]
  refine (((Snapshot.loadPart_ensures isOpen normal r.affected).and
    (Snapshot.loadPart_wellFormed r.affected)).and
    (Snapshot.loadPart_numbered r.affected)).bind ?_
  rintro g w₁ ⟨⟨⟨shows, onward⟩, wellFormed⟩, number, loads⟩
  refine .given fun d hd => ?_
  dsimp only
  split
  · next lacks => exact .pure ⟨onward, loads, .grows shows hd lacks⟩
  next covered =>
  rw [Classical.not_not] at covered
  refine .after Action.runIn_get ?_
  refine .given fun now _ => .given fun a aggregated => ?_
  obtain ⟨measured, hm, ha⟩ := Except.bind_eq_ok.mp aggregated
  have listed (path : Path) : path ∈ r.affected.files.toList ↔ path ∈ r.affected.files :=
    ExtTreeSet.mem_toList
  have within : ∀ path ∈ r.affected.files, path ∈ g.files := fun path => (shows.files path).mpr
  split
  · next retry =>
    obtain ⟨altered, more⟩ :=
      (shouldRetry_iff shows.mirrors wellFormed listed within hm ha).mp retry
    exact .pure ⟨onward, loads, .retries altered more⟩
  next enough =>
  refine .skip fun b _ => ?_
  refine .skip fun _ _ => ?_
  refine .pure ⟨rfl, d, shows, hd, covered, ?_⟩
  rw [← number]
  exact concludes shows.mirrors wellFormed (nodup_toList _) listed within hm ha rfl rfl enough

section Rounds

variable (E) (refresh : Refresh) (db after : Database) (root : Path) (start : Stage) (w : World ω)
  (deletion : Option (Action ω Unit))

-- Where a round starts: at a stage, after some retries, of which there are none unless the content
-- of one of the files is not the recorded one.
private structure Underway (r : Round ω) (w₁ : World ω) : Prop where
  seeded : refresh.seed ⊆ r.affected
  stage : ∃ n, Relation.ReflTransGen (Stage.Step refresh db after) start
    ⟨r.affected, r.prior, r.deletion.isSome, n⟩ ∧ w₁.loads = n + r.retries
  few : r.retries ≤ E.maxRetries
  retried : r.retries ≠ 0 → ∃ path ∈ r.affected.files, after.Altered w.disk root path
  asked : r.deletion = none ∨ r.deletion = deletion
  onward : w.Onward w₁ (if r.deletion.isSome then db else after)

-- What the rounds end with: the set of a final stage, and a snapshot that was loaded after it.
private def Ended (res : Recomputation) (_ : World ω) : Prop :=
  ∃ stage, Relation.ReflTransGen (Stage.Step refresh db after) start stage ∧
    stage.Final refresh after ∧ res.affected = stage.affected ∧
    res.Counted E after w.disk root (· ∈ res.affected.files) (stage.loads + 1)

variable {E refresh db after root start w deletion}

private theorem Underway.grow {r : Round ω} {w₁ w₂ : World ω}
    (u : Underway E refresh db after root start w deletion r w₁) {g : Snapshot} {d : Affected}
    (shows : g.Shows r.affected (if r.deletion.isSome then db else after) w.disk root)
    (hd : refresh.derive g = .ok d) (lacks : ¬d ∪ r.prior ⊆ r.affected)
    (loads : w₂.loads = w₁.loads + 1)
    (onward : w.Onward w₂ (if r.deletion.isSome then db else after)) :
    Underway E refresh db after root start w deletion
      { r with affected := r.affected ∪ (d ∪ r.prior) } w₂ := by
  obtain ⟨n, steps, before⟩ := u.stage
  have wider : r.affected ⊆ r.affected ∪ (d ∪ r.prior) := Affected.subset_union_left _ _
  refine ⟨Affected.subset_trans u.seeded wider, ⟨n + 1, ?_, ?_⟩, u.few, fun some => ?_, u.asked,
    onward⟩
  · exact steps.tail (.grow (s := ⟨r.affected, r.prior, r.deletion.isSome, n⟩)
      ⟨u.seeded, _, _, g, shows, hd⟩ lacks)
  · rw [loads, before]
    exact Nat.add_right_comm _ _ _
  · obtain ⟨path, mem, altered⟩ := u.retried some
    exact ⟨path, (Affected.subset_iff.mp wider).1 path mem, altered⟩

private theorem Underway.delete {r : Round ω} {w₁ w₂ : World ω}
    (u : Underway E refresh db after root start w deletion r w₁)
    (pending : r.deletion.isSome = true)
    {g : Snapshot} {d : Affected} (shows : g.Shows r.affected db w.disk root)
    (hd : refresh.derive g = .ok d) (covered : d ∪ r.prior ⊆ r.affected)
    (loads : w₂.loads = w₁.loads + 1) (onward : w.Onward w₂ after) :
    Underway E refresh db after root start w deletion
      { r with prior := d ∪ r.prior, deletion := none } w₂ := by
  obtain ⟨n, steps, before⟩ := u.stage
  refine ⟨u.seeded, ⟨n + 1, ?_, ?_⟩, u.few, u.retried, .inl rfl, onward⟩
  · exact steps.tail (.delete (s := ⟨r.affected, r.prior, r.deletion.isSome, n⟩) pending
      ⟨u.seeded, _, _, g, shows, hd⟩ covered)
  · rw [loads, before]
    exact Nat.add_right_comm _ _ _

private theorem compute_counts (plain : E.loader = .plain root) (normal : after.Normal)
    {r : Round ω} {w₁ : World ω} (u : Underway E refresh db after root start w deletion r w₁)
    (done : r.deletion = none) :
    (E.compute refresh.derive r).Ensures w₁
      (RoundEnd.Meets (Underway E refresh db after root start w deletion)
        (Ended E refresh db after root start w)) := by
  have onward := u.onward
  have notPending : r.deletion.isSome = false := by rw [done]; rfl
  rw [notPending, if_neg Bool.false_ne_true] at onward
  obtain ⟨n, steps, before⟩ := u.stage
  refine (compute_turns plain onward.isOpen normal r).mono ?_
  rw [onward.same.disk]
  intro e w₂ turn
  cases e with
  | again next =>
    obtain ⟨h₂, loads, turn⟩ := turn
    have onward₂ : w.Onward w₂ (if r.deletion.isSome then db else after) := by
      rw [notPending, if_neg Bool.false_ne_true]
      exact onward.trans h₂
    cases turn with
    | grows shows hd lacks =>
      refine u.grow ?_ hd lacks loads onward₂
      rw [notPending, if_neg Bool.false_ne_true]
      exact shows
    | retries altered more =>
      refine ⟨u.seeded, ⟨n, steps, ?_⟩, more, fun _ => altered, u.asked, onward₂⟩
      rw [loads, before]
      rfl
  | done res =>
    obtain ⟨affected, d, shows, hd, covered, concludes⟩ := turn
    refine ⟨_, steps, ⟨notPending, d, ⟨u.seeded, _, _, _, shows, hd⟩, covered⟩, affected, ?_⟩
    rw [before, Nat.add_right_comm] at concludes
    rw [affected]
    exact concludes.counted u.few u.retried

private theorem round_counts (plain : E.loader = .plain root) (normal : db.Normal)
    (normal' : after.Normal)
    (deletes : ∀ action, deletion = some action → action.LoadsNothing ∧
      ∀ w₁ : World ω, w₁.Open db → action.Ensures w₁ fun _ w' => w₁.Onward w' after)
    {r : Round ω} {w₁ : World ω} (u : Underway E refresh db after root start w deletion r w₁) :
    (E.round refresh.derive r).Ensures w₁
      (RoundEnd.Meets (Underway E refresh db after root start w deletion)
        (Ended E refresh db after root start w)) := by
  unfold round
  cases hd : r.deletion with
  | none => exact compute_counts plain normal' u hd
  | some action =>
    obtain ⟨quiet, deletes⟩ := deletes action (by rw [← u.asked.resolve_left (by simp [hd]), hd])
    have pending : r.deletion.isSome = true := by rw [hd]; rfl
    have onward := u.onward
    rw [pending, if_pos rfl] at onward
    rw [plain]
    refine ((Snapshot.loadPart_ensures onward.isOpen normal r.affected).and
      (Snapshot.loadPart_numbered r.affected)).bind ?_
    rintro g w₂ ⟨⟨shows, h₂⟩, -, loads⟩
    rw [onward.same.disk] at shows
    refine .given fun d derived => ?_
    dsimp only
    split
    · next lacks =>
      rw [← hd]
      refine .pure (u.grow ?_ derived lacks loads ?_)
      · rw [pending, if_pos rfl]
        exact shows
      · rw [pending, if_pos rfl]
        exact onward.trans h₂
    · next covered =>
      rw [Classical.not_not] at covered
      refine ((deletes w₂ h₂.isOpen).and (quiet.ensures w₂)).bind ?_
      rintro _ w₃ ⟨h₃, same⟩
      have next := u.delete pending shows derived covered (same.trans loads)
        ((onward.trans h₂).trans h₃)
      exact compute_counts plain normal' next rfl

/-- A recomputation without a deletion, or with one that leads from `db` to `after`, goes through
the stages from what it derives at first to a final one, and reports from a snapshot whose number is
that of the stages and the retries. -/
theorem recompute_counts (plain : E.loader = .plain root) (isOpen : w.Open db) (normal : db.Normal)
    (normal' : after.Normal) (prior : Affected) (kept : deletion = none → after = db)
    (deletes : ∀ action, deletion = some action → action.LoadsNothing ∧
      ∀ w₁ : World ω, w₁.Open db → action.Ensures w₁ fun _ w' => w₁.Onward w' after) :
    (E.recompute refresh.seed refresh.derive prior deletion).Ensures w fun res _ =>
      ∃ stage : Stage, stage.Reached refresh db after prior deletion.isSome (w.loads + 1) ∧
        res.affected = stage.affected ∧
        res.Counted E after w.disk root (· ∈ res.affected.files) (stage.loads + 1) := by
  unfold recompute
  rw [plain]
  refine ((Snapshot.loadPart_ensures isOpen normal refresh.seed).and
    (Snapshot.loadPart_numbered refresh.seed)).bind ?_
  rintro g w₁ ⟨⟨shows, h₁⟩, -, loads⟩
  refine .given fun first hfirst => ?_
  have derives : refresh.Derives db refresh.seed first :=
    ⟨Affected.subset_refl _, _, _, g, shows, hfirst⟩
  have seeded : refresh.seed ⊆ refresh.seed ∪ prior ∪ first :=
    Affected.subset_trans (Affected.subset_union_left _ _) (Affected.subset_union_left _ _)
  refine (runRounds_ensures (I := Underway E refresh db after root
    ⟨refresh.seed ∪ prior ∪ first, prior, deletion.isSome, w.loads + 1⟩ w deletion)
    (fun r w₂ u => round_counts plain normal normal' deletes u) E.maxRounds ?_).mono ?_
  · refine ⟨seeded, ⟨_, .refl, loads⟩, Nat.zero_le _, fun no => (no rfl).elim, .inr rfl, ?_⟩
    cases deletion with
    | none =>
      rw [kept rfl]
      exact h₁
    | some action => exact h₁
  · rintro res w' ⟨stage, steps, final, affected, counted⟩
    exact ⟨stage, ⟨first, derives, steps, final⟩, affected, counted⟩

/-- The same where the repository may still have to be opened. -/
theorem recompute_counts_of_shows (plain : E.loader = .plain root) (shows : w.Shows db disk)
    (normal : db.Normal) (normal' : after.Normal) (prior : Affected)
    (kept : deletion = none → after = db)
    (deletes : ∀ action, deletion = some action → action.LoadsNothing ∧
      ∀ w₁ : World ω, w₁.Open db → action.Ensures w₁ fun _ w' => w₁.Onward w' after) :
    (E.recompute refresh.seed refresh.derive prior deletion).Ensures w fun res _ =>
      ∃ stage : Stage, stage.Reached refresh db after prior deletion.isSome (w.loads + 1) ∧
        res.affected = stage.affected ∧
        res.Counted E after disk root (· ∈ res.affected.files) (stage.loads + 1) := by
  obtain ⟨o, isOpen, sameDisk, _, opened⟩ := shows.exists_open
  have loads : o.loads = w.loads := isOpen.loads_eq (opened _ Action.opens_connection)
  intro res w' run
  rw [opened _ (opens_recompute plain _ _ _)] at run
  have counts := recompute_counts plain isOpen normal normal' prior kept deletes res w' run
  rw [loads, sameDisk] at counts
  exact counts

end Rounds

end Engine

end CodeGauge
