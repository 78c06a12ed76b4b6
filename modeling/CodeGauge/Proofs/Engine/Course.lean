import CodeGauge.Proofs.Engine.Refresh
import CodeGauge.Proofs.Snapshot.Settling

/-!
# The course of a recomputation

Others may change the graph and the disk between the loads of a recomputation, so that each load may
show something else. Nothing is known of the loader but that it gives what was there at some moment
(`Loader.Reads`). Until it writes, a recomputation does nothing but to load snapshots and to delete
what is to be deleted (`Course`). What each round keeps of this (`Progress`) tells how a
recomputation that returns has gone, whatever others did (`Recomputation.Went`). All refreshes and
removals are recomputations (`Refresh.run_eq`, `Removal.run_eq`).
-/

open Std

namespace CodeGauge

variable {ω : Type} {root : Path}

/-- Every snapshot that the loader gives shows what was there at some moment. What others do before
and afterwards is left open. -/
def Loader.Reads (loader : Loader ω) (root : Path) : Prop :=
  ∀ A w g w', (loader.part A).runIn w = (.ok g, w') →
    ∃ w₁ w₂ : World ω, (Snapshot.loadPart A (some root)).runIn w₁ = (.ok g, w₂)

/-- What a recomputation does before it writes: it loads a snapshot of a set, or it deletes. -/
inductive Event where
  | load (wanted : Affected) (g : Snapshot)
  | delete

/-- The snapshot that was loaded has of one of the wanted files a content that is not the recorded
one. -/
def Event.Mismatches : Event → Prop
  | load wanted g => ∃ path ∈ wanted.files, g.Mismatches path
  | delete => False

/-- The events, one after the other and with nothing between them, lead from the first world to the
last. -/
inductive Course (E : Engine ω) (deletion : Option (Action ω Unit)) (w : World ω) :
    List Event → World ω → Prop
  | start : Course E deletion w [] w
  | load {es : List Event} {w₁ w₂ : World ω} {wanted : Affected} {g : Snapshot}
    (course : Course E deletion w es w₁) (run : (E.loader.part wanted).runIn w₁ = (.ok g, w₂)) :
    Course E deletion w (es ++ [.load wanted g]) w₂
  | delete {es : List Event} {w₁ w₂ : World ω} {action : Action ω Unit}
    (course : Course E deletion w es w₁) (asked : deletion = some action)
    (run : action.runIn w₁ = (.ok (), w₂)) : Course E deletion w (es ++ [.delete]) w₂

/-- The deletion, if there is one, was done exactly once, right after a load from which nothing was
derived that the set lacks. -/
def DeletedOnce (derive : Snapshot → Except Error Affected) (A : Affected)
    (deletion : Option (Action ω Unit)) (es : List Event) : Prop :=
  match deletion with
  | none => .delete ∉ es
  | some _ => ∃ before after wanted g d, es = before ++ .load wanted g :: .delete :: after ∧
    .delete ∉ before ∧ .delete ∉ after ∧ derive g = .ok d ∧ d ⊆ A

/-- At least so many of the events loaded a snapshot with a content that is not the recorded one. -/
def Discarded (n : Nat) (es : List Event) : Prop :=
  ∃ discarded : List Event, discarded.Sublist es ∧ discarded.length = n ∧
    ∀ e ∈ discarded, e.Mismatches

/-- How a recomputation has gone that started in `w`, wrote in `w₁` and ended in `w'`. -/
structure Recomputation.Went (r : Recomputation) (E : Engine ω)
    (derive : Snapshot → Except Error Affected) (start : Affected)
    (deletion : Option (Action ω Unit)) (w : World ω) (es : List Event) (w₁ : World ω) (now : Int)
    (w' : World ω) : Prop where
  course : Course E deletion w (es ++ [.load r.affected r.snapshot]) w₁
  clock : w₁.clock = .ok now
  written : ∃ a w₂,
    r.snapshot.aggregate r.affected.files.toList r.affected.symbols.toList now = .ok a ∧
    (Engine.batchOf a r.snapshot r.affected).runIn w₁ = (.ok r.batch, w₂) ∧
    (MetricsStore.apply r.batch).runIn w₂ = (.ok (), w')
  file_row : ∀ row ∈ r.batch.fileRows, r.snapshot.fileMetrics row.path now = .ok row
  symbol_row : ∀ d ∈ r.batch.symbolRows, ∃ row,
    r.snapshot.symbolMetrics row.symbolId now = .ok row ∧ d = row.draft
  started : start ⊆ r.affected
  derived : ∃ d, derive r.snapshot = .ok d ∧ d ⊆ r.affected
  deleted : DeletedOnce derive r.affected deletion es
  file : ∀ path ∈ r.affected.files, (∃ row ∈ r.batch.fileRows, row.path = path) ∨
    path ∈ r.batch.deletedFiles ∨ ∃ message, (path.toString, message) ∈ r.stats.errors
  symbol : ∀ id ∈ r.affected.symbols, (∃ d ∈ r.batch.symbolRows, d.symbolId = some id) ∨
    id ∈ r.batch.deletedSymbols ∨ ∃ message, (toString id, message) ∈ r.stats.errors
  retried : (Event.load r.affected r.snapshot).Mismatches →
    r.stats.retries = E.maxRetries ∧ Discarded E.maxRetries es

/-! ## Events that follow -/

variable {derive : Snapshot → Except Error Affected} {A B : Affected}
  {deletion : Option (Action ω Unit)} {es : List Event}

private theorem DeletedOnce.load (h : DeletedOnce derive A deletion es) (sub : A ⊆ B)
    (wanted : Affected)
    (g : Snapshot) : DeletedOnce derive B deletion (es ++ [.load wanted g]) := by
  cases deletion with
  | none =>
    intro mem
    rcases List.mem_append.mp mem with mem | mem
    · exact h mem
    · cases List.mem_singleton.mp mem
  | some action =>
    obtain ⟨before, after, wanted', g', d, rfl, noneBefore, noneAfter, hd, within⟩ := h
    refine ⟨before, after ++ [.load wanted g], wanted', g', d, ?_, noneBefore, ?_, hd,
      Affected.subset_trans within sub⟩
    · rw [List.append_assoc, List.cons_append, List.cons_append]
    · intro mem
      rcases List.mem_append.mp mem with mem | mem
      · exact noneAfter mem
      · cases List.mem_singleton.mp mem

private theorem Discarded.append {n : Nat} (h : Discarded n es) (es' : List Event) :
    Discarded n (es ++ es') := by
  have ⟨discarded, sub, length, mismatch⟩ := h
  exact ⟨discarded, sub.trans (List.sublist_append_left _ _), length, mismatch⟩

private theorem Discarded.succ {n : Nat} (h : Discarded n es) {e : Event}
    (mismatch : e.Mismatches) :
    Discarded (n + 1) (es ++ [e]) := by
  have ⟨discarded, sub, length, mismatches⟩ := h
  refine ⟨discarded ++ [e], sub.append (List.Sublist.refl _), ?_, fun e' mem => ?_⟩
  · rw [List.length_append, length]
    rfl
  · rcases List.mem_append.mp mem with mem | mem
    · exact mismatches e' mem
    · rw [List.mem_singleton.mp mem]
      exact mismatch

namespace Engine

-- The rows of the batch are those of the snapshot, and each file and symbol of the set is written,
-- deleted or reported.
private structure Accounts (b : Batch) (a : Aggregate) (g : Snapshot) (A : Affected) (now : Int) :
    Prop where
  file_row : ∀ row ∈ b.fileRows, g.fileMetrics row.path now = .ok row
  symbol_row : ∀ d ∈ b.symbolRows, ∃ row, g.symbolMetrics row.symbolId now = .ok row ∧ d = row.draft
  file : ∀ path ∈ A.files, (∃ row ∈ b.fileRows, row.path = path) ∨
    path ∈ b.deletedFiles ∨ ∃ message, (path.toString, message) ∈ keptRows a
  symbol : ∀ id ∈ A.symbols, (∃ d ∈ b.symbolRows, d.symbolId = some id) ∨
    id ∈ b.deletedSymbols ∨ ∃ message, (toString id, message) ∈ keptRows a

private theorem batchOf_accounts {a : Aggregate} {g : Snapshot} {now : Int}
    (settles : a.Settles g A.files.toList A.symbols.toList now) (w : World ω) :
    (batchOf a g A).Ensures w fun b _ => Accounts b a g A now := by
  refine .skip fun stale _ => .pure ?_
  constructor
  · exact settles.file_row
  · intro draft mem
    have ⟨row, measured, same⟩ := List.mem_map.mp mem
    exact ⟨row, settles.symbol_row row measured, same.symm⟩
  · intro path mem
    have settled := settles.file path (ExtTreeSet.mem_toList.mpr mem)
    rw [ExtTreeSet.mem_ofList, List.contains_iff_mem]
    exact settled
  · intro id mem
    rw [ExtTreeSet.mem_union_iff, ExtTreeSet.mem_ofList, List.contains_iff_mem]
    rcases settles.symbol id (ExtTreeSet.mem_toList.mpr mem) with ⟨row, measured, own⟩ | settled
    · exact .inl ⟨row.draft, List.mem_map_of_mem measured, congrArg some own⟩
    · exact .inr (settled.imp_left .inl)

/-! ## Rounds -/

variable {E : Engine ω} {w w₁ : World ω} {start : Affected}

-- Where a round starts after these events.
private structure Progress (E : Engine ω) (derive : Snapshot → Except Error Affected)
    (start : Affected) (deletion : Option (Action ω Unit)) (w : World ω) (es : List Event)
    (r : Round ω) (w₁ : World ω) : Prop where
  course : Course E deletion w es w₁
  started : start ⊆ r.affected
  done : r.deletion = none → DeletedOnce derive r.affected deletion es
  todo : ∀ action, r.deletion = some action → deletion = some action ∧ .delete ∉ es
  few : r.retries ≤ E.maxRetries
  retries : Discarded r.retries es

private theorem Progress.load {r : Round ω} (p : Progress E derive start deletion w es r w₁)
    {g : Snapshot} {w₂ : World ω} (run : (E.loader.part r.affected).runIn w₁ = (.ok g, w₂))
    {next : Round ω} (same : next.deletion = r.deletion) (sub : r.affected ⊆ next.affected)
    (few : next.retries ≤ E.maxRetries)
    (retries : Discarded next.retries (es ++ [.load r.affected g])) :
    Progress E derive start deletion w (es ++ [.load r.affected g]) next w₂ := by
  refine ⟨p.course.load run, Affected.subset_trans p.started sub, fun none => ?_,
    fun action pending => ?_, few, retries⟩
  · exact (p.done (same ▸ none)).load sub _ _
  · have ⟨asked, noDelete⟩ := p.todo action (same ▸ pending)
    refine ⟨asked, fun mem => ?_⟩
    rcases List.mem_append.mp mem with mem | mem
    · exact noDelete mem
    · cases List.mem_singleton.mp mem

private theorem Progress.delete {r : Round ω} (p : Progress E derive start deletion w es r w₁)
    {g : Snapshot} {w₂ w₃ : World ω} {action : Action ω Unit} {d : Affected}
    (run : (E.loader.part r.affected).runIn w₁ = (.ok g, w₂)) (hd : derive g = .ok d)
    (within : d ⊆ r.affected) (pending : r.deletion = some action)
    (deleted : action.runIn w₂ = (.ok (), w₃)) (prior : Affected) :
    Progress E derive start deletion w (es ++ [.load r.affected g] ++ [.delete])
      { r with prior, deletion := none } w₃ := by
  have ⟨asked, noDelete⟩ := p.todo action pending
  refine ⟨(p.course.load run).delete asked deleted, p.started, fun _ => ?_, nofun, p.few,
    (p.retries.append _).append _⟩
  subst asked
  refine ⟨es, [], r.affected, g, d, ?_, noDelete, List.not_mem_nil, hd, within⟩
  rw [List.append_assoc]
  rfl

private theorem compute_went (reads : E.loader.Reads root) {r : Round ω}
    (p : Progress E derive start deletion w es r w₁) (none : r.deletion = none) :
    (E.compute derive r).Ensures w₁ (RoundEnd.Meets
      (fun next w₂ => ∃ es', Progress E derive start deletion w es' next w₂)
      (fun res w' => ∃ es' w₂ now, res.Went E derive start deletion w es' w₂ now w')) := by
  unfold compute
  refine .bind (P := fun g w₂ => (E.loader.part r.affected).runIn w₁ = (.ok g, w₂))
    (fun _ _ run => run) fun g w₂ loaded => ?_
  have ⟨_, _, run⟩ := reads _ _ _ _ loaded
  have wellFormed : g.WellFormed := Snapshot.loadPart_wellFormed _ g _ run
  refine .given fun d hd => ?_
  dsimp only
  split
  · refine .pure ⟨_, p.load loaded rfl (Affected.subset_union_left _ _) p.few
      (p.retries.append _)⟩
  next covered =>
  rw [Classical.not_not, Affected.union_subset_iff] at covered
  refine .after Action.runIn_get ?_
  refine .given fun now clock => .given fun a ha => ?_
  have settles := wellFormed.settles ha
  split
  · next retry =>
    rw [shouldRetry, Bool.and_eq_true, decide_eq_true_eq] at retry
    refine .pure ⟨_, p.load loaded rfl (Affected.subset_refl _) retry.2 ?_⟩
    have ⟨path, hpath, mismatches⟩ := settles.inconsistent.mp retry.1
    exact p.retries.succ ⟨path, ExtTreeSet.mem_toList.mp hpath, mismatches⟩
  next enough =>
  refine .bind (P := fun b w₃ => (batchOf a g r.affected).runIn w₂ = (.ok b, w₃))
    (fun _ _ run => run) fun b w₃ built => ?_
  have accounts := batchOf_accounts settles w₂ b w₃ built
  refine .bind (P := fun _ w' => (MetricsStore.apply b).runIn w₃ = (.ok (), w'))
    (fun _ _ run => run) fun _ w' applied => .pure ⟨es, w₂, now, ?_⟩
  constructor
  · exact p.course.load loaded
  · exact clock
  · exact ⟨a, w₃, ha, built, applied⟩
  · exact accounts.file_row
  · exact accounts.symbol_row
  · exact p.started
  · exact ⟨d, hd, covered.1⟩
  · exact p.done none
  · exact accounts.file
  · exact accounts.symbol
  · intro ⟨path, hpath, mismatches⟩
    have inconsistent : a.isInconsistent = true :=
      settles.inconsistent.mpr ⟨path, ExtTreeSet.mem_toList.mpr hpath, mismatches⟩
    rw [shouldRetry, inconsistent, Bool.true_and, decide_eq_true_eq, Nat.not_lt] at enough
    have used : r.retries = E.maxRetries := Nat.le_antisymm p.few enough
    rw [← used]
    exact ⟨rfl, p.retries⟩

private theorem round_went (reads : E.loader.Reads root) {r : Round ω}
    (p : Progress E derive start deletion w es r w₁) :
    (E.round derive r).Ensures w₁ (RoundEnd.Meets
      (fun next w₂ => ∃ es', Progress E derive start deletion w es' next w₂)
      (fun res w' => ∃ es' w₂ now, res.Went E derive start deletion w es' w₂ now w')) := by
  unfold round
  cases pending : r.deletion with
  | none => exact compute_went reads p pending
  | some action =>
    refine .bind (P := fun g w₂ => (E.loader.part r.affected).runIn w₁ = (.ok g, w₂))
      (fun _ _ run => run) fun g w₂ loaded => ?_
    refine .given fun d hd => ?_
    dsimp only
    split
    · exact .pure ⟨_, p.load loaded pending.symm (Affected.subset_union_left _ _) p.few
        (p.retries.append _)⟩
    next covered =>
    rw [Classical.not_not, Affected.union_subset_iff] at covered
    refine .bind (P := fun _ w₃ => action.runIn w₂ = (.ok (), w₃)) (fun _ _ run => run)
      fun _ w₃ deleted => ?_
    exact compute_went reads (p.delete loaded hd covered.1 pending deleted _) rfl

/-- However others change the graph and the disk between the loads, a recomputation that returns has
written nothing but rows computed from its last snapshot. Each file and symbol that it was asked
for, that was given, that is derived from this snapshot or was derived from the last one before a
deletion is among those that were written, deleted or reported. The deletion was done exactly once,
and rows come from a snapshot with a content that is not the recorded one only after all
retries. -/
theorem recompute_went (reads : E.loader.Reads root) (seed prior : Affected)
    {r : Recomputation} {w' : World ω}
    (run : (E.recompute seed derive prior deletion).runIn w = (.ok r, w')) :
    ∃ es w₁ now, r.Went E derive (seed ∪ prior) deletion w es w₁ now w' := by
  have ensures : (E.recompute seed derive prior deletion).Ensures w fun res w' =>
      ∃ es w₁ now, res.Went E derive (seed ∪ prior) deletion w es w₁ now w' := by
    unfold recompute
    refine .bind (P := fun g w₂ => (E.loader.part seed).runIn w = (.ok g, w₂))
      (fun _ _ run => run) fun g w₂ loaded => ?_
    refine .given fun first _ => ?_
    refine runRounds_ensures (I := fun r w₁ =>
      ∃ es, Progress E derive (seed ∪ prior) deletion w es r w₁) ?_ E.maxRounds ?_
    · intro r w₁ ⟨es, p⟩
      exact round_went reads p
    · refine ⟨[.load seed g], .load .start loaded, Affected.subset_union_left _ _, fun none => ?_,
        fun action pending => ⟨pending, ?_⟩, Nat.zero_le _, [], List.nil_sublist _, rfl, nofun⟩
      · subst none
        intro mem
        cases List.mem_singleton.mp mem
      · intro mem
        cases List.mem_singleton.mp mem
  exact ensures r w' run

/-- The tables of the small repository with a third function, in a file that is not on the disk,
which calls the second one. -/
def sampleGrown : Database :=
  { Sample.metered with
    symbols := Sample.metered.symbols.insert 3 (Sample.function "h" "c")
    edges := Sample.metered.edges.insert 2 ⟨.int 3, .int 2, .int 1, some "call"⟩ }

/-- An engine of which others change the graph before the second load. -/
def sampleDisturbed : Engine Unit where
  loader.part wanted := do
    Action.change fun w =>
      if w.loads = 1 then { w with databases := w.databases.insert 2 sampleGrown } else w
    Snapshot.loadPart wanted (some Sample.root)
  loader.whole := Snapshot.loadAll (some Sample.root)
  maxRetries := 2
  patience := 4

/-- A removal goes its course while the graph is disturbed between its loads. -/
theorem sample_recompute_went :
    ∃ r w' es w₁ now,
      (sampleDisturbed.removeFile (.ofString "b")).runIn (Sample.world Sample.metered) =
        (.ok r, w') ∧
      3 ∈ r.affected.symbols ∧
      r.Went sampleDisturbed (·.affectedByFile (.ofString "b")) (.of [.ofString "b"] [] ∪ ∅)
        (some (Graph.deleteFile (.ofString "b"))) (Sample.world Sample.metered) es w₁ now w' := by
  have reads : sampleDisturbed.loader.Reads Sample.root := by
    intro A w g w' run
    exact ⟨_, w', run⟩
  have returns : ((sampleDisturbed.removeFile (.ofString "b")).runIn
      (Sample.world Sample.metered)).1.toOption.map (decide <| 3 ∈ ·.affected.symbols) =
        some true := by
    decide +kernel
  rcases run : (sampleDisturbed.removeFile (.ofString "b")).runIn (Sample.world Sample.metered) with
    ⟨e | r, w'⟩
  · rw [run] at returns
    cases returns
  · rw [run] at returns
    have grown : 3 ∈ r.affected.symbols := of_decide_eq_true (Option.some.inj returns)
    have ⟨es, w₁, now, went⟩ := recompute_went reads (.of [.ofString "b"] []) ∅ run
    exact ⟨r, w', es, w₁, now, rfl, grown, went⟩

end Engine

end CodeGauge
