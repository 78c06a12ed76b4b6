import CodeGauge.Proofs.Affected
import CodeGauge.Proofs.Engine.Renewal
import CodeGauge.Proofs.Snapshot.Measures
import CodeGauge.Proofs.Store.Batch
import CodeGauge.Proofs.Store.Opening

/-!
# Rounds of a recomputation

A round loads a snapshot of the set so far. Either another round follows, with a set that has grown
by what the snapshot shows, or the batch of the snapshot is written, which renews the rows of the
set (`Engine.compute_ensures`). What the rounds keep true of the set is therefore true of the set
that a recomputation ends with.
-/

open Std

namespace CodeGauge

variable {ω : Type} {db : Database} {disk : Disk} {root : Path} {now : Int}

/-! ## The batch of an aggregate -/

/-- The ids of the stored rows that are filed under a file are read. -/
theorem MetricsStore.symbolIdsInFile_reads (path : Path) :
    (symbolIdsInFile path : Action ω (ExtTreeSet Int)).Reads db fun ids =>
      ∀ id, id ∈ ids ↔ ∃ row : SymbolMetricsRow,
        db.symbolMetrics[id]? = some row ∧ row.path = path.toString := by
  apply (Action.query_reads _ _ _).bind
  rintro _ rfl
  refine .pure fun id => ?_
  rw [ExtTreeSet.mem_ofList, List.contains_iff_mem]
  simp only [List.mem_map, List.mem_filter, beq_iff_eq, Prod.exists,
    ExtTreeMap.mem_toList_iff_getElem?_eq_some]
  constructor
  · rintro ⟨_, row, held, rfl⟩
    exact ⟨row, held⟩
  · rintro ⟨row, held⟩
    exact ⟨id, row, held, rfl⟩

namespace Engine

/-- The stale symbols are those whose rows are misfiled under a covered file. -/
theorem staleSymbols_reads {g : Snapshot} (h : g.Mirrors db disk root) (files : List Path) :
    (staleSymbols g files : Action ω (ExtTreeSet Int)).Reads db fun stale =>
      ∀ id, id ∈ stale ↔ ∃ path ∈ files, path ∈ g.files ∧ db.Misfiled id path.toString := by
  have general (found : ExtTreeSet Int) :
      (files.foldlM (fun stale path => do
        if g.covers path then
          let live ← Action.of (g.symbolsInFile path)
          let stored ← MetricsStore.symbolIdsInFile path
          return stale ∪ (stored \ Snapshot.idSet live)
        else return stale) found : Action ω (ExtTreeSet Int)).Reads db fun stale =>
      ∀ id, id ∈ stale ↔ id ∈ found ∨
        ∃ path ∈ files, path ∈ g.files ∧ db.Misfiled id path.toString := by
    induction files generalizing found with
    | nil => exact .pure fun id => by simp
    | cons path files ih =>
      rw [List.foldlM_cons]
      refine Action.Reads.bind (P := fun next => ∀ id, id ∈ next ↔ id ∈ found ∨
        path ∈ g.files ∧ db.Misfiled id path.toString) ?_ fun next step => ?_
      · split
        · next covered =>
          have ⟨file, hf⟩ := Option.isSome_iff_exists.mp
            (ExtTreeMap.mem_iff_isSome_getElem?.mp (ExtTreeMap.contains_iff_mem.mp covered))
          refine Action.Reads.bind (P := fun live => live.map (·.id) = file.symbols)
            (.of fun live hl => h.symbolsInFile_ids hf hl) fun live ids => ?_
          refine (MetricsStore.symbolIdsInFile_reads path).bind fun stored held => ?_
          refine .pure fun id => ?_
          rw [ExtTreeSet.mem_union_iff, ExtTreeSet.mem_diff_iff, held, Snapshot.mem_idSet, ids,
            (h.files path file hf).symbols]
          exact or_congr_right
            (and_iff_right (ExtTreeMap.contains_iff_mem.mp covered)).symm
        · next uncovered =>
          refine .pure fun id => (or_iff_left fun no => uncovered ?_).symm
          exact ExtTreeMap.contains_iff_mem.mpr no.1
      · intro w hw
        refine (ih next w hw).mono ?_
        intro stale w' ⟨mem, alike⟩
        refine ⟨fun id => ?_, alike⟩
        rw [mem, step, or_assoc]
        simp only [List.mem_cons, or_and_right, exists_or, exists_eq_left]
  intro w hw
  refine (general ∅ w hw).mono ?_
  intro stale w' ⟨mem, alike⟩
  refine ⟨fun id => ?_, alike⟩
  rw [mem]
  exact or_iff_right ExtTreeSet.not_mem_empty

/-- What the batch of an aggregate consists of. -/
theorem batchOf_reads {g : Snapshot} (h : g.Mirrors db disk root) (a : Aggregate)
    (A : Affected) :
    (batchOf a g A : Action ω Batch).Reads db fun b =>
      b.fileRows = a.files ∧ b.symbolRows = a.symbols.map (·.draft) ∧
      (∀ path, path ∈ b.deletedFiles ↔ path ∈ absentFiles a) ∧
      ∀ id, id ∈ b.deletedSymbols ↔ id ∈ absentSymbols a ∨
        ∃ path ∈ A.files, path ∈ g.files ∧ db.Misfiled id path.toString := by
  refine (staleSymbols_reads h _).bind fun stale mem => ?_
  refine .pure ⟨rfl, rfl, fun path => ?_, fun id => ?_⟩
  · rw [ExtTreeSet.mem_ofList, List.contains_iff_mem]
  · rw [ExtTreeSet.mem_union_iff, ExtTreeSet.mem_ofList, List.contains_iff_mem, mem]
    simp only [ExtTreeSet.mem_toList]

end Engine

/-- A batch with the rows of an aggregate renews the rows of a set when the aggregate is of the
set's entities, apart from absent ones, and the batch deletes what is absent or misfiled. -/
theorem Aggregate.Measures.renews {a : Aggregate} {b : Batch} {A : Affected}
    {files : Path → Prop} {symbols : Int → Prop} (m : a.Measures db disk root files symbols now)
    (filesIn : ∀ path, files path → path ∈ A.files)
    (filesAsked : ∀ path ∈ A.files, db.symbolCount path.toString ≠ 0 → files path)
    (symbolsIn : ∀ id, symbols id → db.Covers A id)
    (symbolsAsked : ∀ id, db.Covers A id → (db.symbols[id]?).isSome → symbols id)
    (fileRows : b.fileRows = a.files) (symbolRows : b.symbolRows = a.symbols.map (·.draft))
    (fileDeleted : ∀ path, path ∈ b.deletedFiles ↔
      path ∈ A.files ∧ db.symbolCount path.toString = 0)
    (symbolDeleted : ∀ id ∈ b.deletedSymbols,
      id ∈ A.symbols ∧ db.symbols[id]? = none ∨ ∃ path ∈ A.files, db.Misfiled id path.toString)
    (symbolAbsent : ∀ id ∈ A.symbols, db.symbols[id]? = none → id ∈ b.deletedSymbols)
    (symbolMisfiled : ∀ path ∈ A.files, db.symbolCount path.toString ≠ 0 →
      ∀ id, db.Misfiled id path.toString → id ∈ b.deletedSymbols) :
    b.Renews db disk root A now := by
  refine ⟨fun row hrow => ?_, fun path hpath count current => ?_, fileDeleted, fun d hd => ?_,
    fun id covered present => ?_, symbolDeleted, symbolAbsent, symbolMisfiled⟩
  · rw [fileRows] at hrow
    have ⟨asked, rest⟩ := m.file_row row hrow
    exact ⟨filesIn _ asked, rest⟩
  · rw [fileRows]
    exact m.file_measured path (filesAsked path hpath count) count current
  · rw [symbolRows] at hd
    obtain ⟨row, mem, rfl⟩ := List.mem_map.mp hd
    obtain ⟨asked, -, reference⟩ := m.symbol_row row mem
    exact ⟨row.symbolId, rfl, symbolsIn _ asked, reference⟩
  · rw [symbolRows]
    obtain ⟨row, mem, rfl⟩ := m.symbol_measured id (symbolsAsked id covered present) present
    exact ⟨row.draft, List.mem_map_of_mem mem, rfl⟩

/-! ## Rounds -/

/-- How a round ended: with a next one of which `next` holds, or with a result of which `result`
does. -/
def RoundEnd.Meets {α : Type} (next : Round ω → World ω → Prop) (result : α → World ω → Prop) :
    RoundEnd ω α → World ω → Prop
  | .again r => next r
  | .done a => result a

/-- What each round keeps true holds when the last one ends with a result. -/
theorem Engine.runRounds_ensures {α : Type} {round : Round ω → Action ω (RoundEnd ω α)}
    {I : Round ω → World ω → Prop} {result : α → World ω → Prop}
    (step : ∀ r w, I r w → (round r).Ensures w (RoundEnd.Meets I result))
    (rounds : Nat) {r : Round ω} {w : World ω} (h : I r w) :
    (runRounds round rounds r).Ensures w result := by
  induction rounds generalizing r w with
  | zero => exact .throw _
  | succ rounds ih =>
    refine (step r w h).bind fun e w' kept => ?_
    cases e with
    | again next => exact ih kept
    | done a => exact .pure kept

/-- The recomputation was made from these tables: its snapshot shows the set, which holds what is
derived from the snapshot and what was given, and the rows of the set have been renewed. -/
structure Recomputation.MadeFrom (res : Recomputation) (db db' : Database) (disk : Disk)
    (root : Path) (clock : Except Error Int) (derive : Snapshot → Except Error Affected)
    (prior : Affected) : Prop where
  snapshot : res.snapshot.Shows res.affected db disk root
  derived : ∃ d, derive res.snapshot = .ok d ∧ d ∪ prior ⊆ res.affected
  renewed : ∃ now, clock = .ok now ∧ db.Renewed db' disk root res.affected now
  current : res.stats.errors = [] → ∀ path ∈ res.affected.files,
    db.symbolCount path.toString ≠ 0 → db.isCurrent disk root path.toString

namespace Engine

variable {E : Engine ω} {w : World ω} {derive : Snapshot → Except Error Affected} {A : Affected}

/-- The aggregate of a set from a snapshot that shows it is of the set's entities. -/
theorem measures_of_shows {g : Snapshot} (shows : g.Shows A db disk root)
    (normal : db.Normal) {a : Aggregate}
    (ha : g.aggregate A.files.toList A.symbols.toList now = .ok a) :
    a.Measures db disk root (· ∈ A.files) (db.Covers A) now := by
  have ⟨measured, hm, ha⟩ := Except.bind_eq_ok.mp ha
  have covered : ∀ path ∈ A.files.toList, path ∈ g.files := by
    intro path hpath
    exact (shows.files path).mpr (ExtTreeSet.mem_toList.mp hpath)
  have whole : ∀ id ∈ A.symbols.toList, (db.symbols[id]?).isSome → id ∈ g.complete := by
    intro id hid present
    have ⟨row, hr⟩ := Option.isSome_iff_exists.mp present
    exact (shows.complete id).mpr ⟨row, hr, .inl (ExtTreeSet.mem_toList.mp hid)⟩
  have m := shows.mirrors.measures normal covered whole hm ha
  simp only [ExtTreeSet.mem_toList] at m
  exact m

/-- What is absent from an aggregate of a set, or misfiled under one of its files, are the ids of
the set without a symbol and the misfiled ones. -/
theorem absent_or_misfiled_iff {g : Snapshot} (shows : g.Shows A db disk root) {a : Aggregate}
    (m : a.Measures db disk root (· ∈ A.files) (db.Covers A) now) (id : Int) :
    (id ∈ absentSymbols a ∨ ∃ path ∈ A.files, path ∈ g.files ∧ db.Misfiled id path.toString) ↔
      id ∈ A.symbols ∧ db.symbols[id]? = none ∨ ∃ path ∈ A.files, db.Misfiled id path.toString := by
  rw [m.symbol_absent]
  apply or_congr
  · constructor
    · rintro ⟨asked | ⟨row, held, _⟩, missing⟩
      · exact ⟨asked, missing⟩
      · rw [missing] at held
        cases held
    · rintro ⟨asked, missing⟩
      exact ⟨.inl asked, missing⟩
  · apply exists_congr
    intro path
    apply and_congr_right
    intro asked
    exact and_iff_right ((shows.files path).mpr asked)

/-- The batch of a set from a snapshot that shows it renews the rows of the set. -/
theorem renews_of_shows {g : Snapshot} (shows : g.Shows A db disk root)
    {a : Aggregate} (m : a.Measures db disk root (· ∈ A.files) (db.Covers A) now) {b : Batch}
    (fileRows : b.fileRows = a.files) (symbolRows : b.symbolRows = a.symbols.map (·.draft))
    (deletedFiles : ∀ path, path ∈ b.deletedFiles ↔ path ∈ absentFiles a)
    (deletedSymbols : ∀ id, id ∈ b.deletedSymbols ↔ id ∈ absentSymbols a ∨
      ∃ path ∈ A.files, path ∈ g.files ∧ db.Misfiled id path.toString) :
    b.Renews db disk root A now := by
  have deleted (id : Int) : id ∈ b.deletedSymbols ↔
      id ∈ A.symbols ∧ db.symbols[id]? = none ∨ ∃ path ∈ A.files, db.Misfiled id path.toString :=
    (deletedSymbols id).trans (absent_or_misfiled_iff shows m id)
  refine m.renews (fun _ asked => asked) (fun _ asked _ => asked) (fun _ asked => asked)
    (fun _ asked _ => asked) fileRows symbolRows (fun path => ?_) (fun id => (deleted id).mp)
    (fun id asked missing => ?_) fun path hpath _ id misfiled => ?_
  · rw [deletedFiles, m.file_absent]
  · exact (deleted id).mpr (.inl ⟨asked, missing⟩)
  · exact (deleted id).mpr (.inr ⟨path, hpath, misfiled⟩)

/-- Computing from one snapshot keeps the tables for another round, or renews the rows. -/
theorem compute_ensures (plain : E.loader = .plain root) (h : w.Open db) (normal : db.Normal)
    (r : Round ω) :
    (E.compute derive r).Ensures w (RoundEnd.Meets
      (fun next w' => next.deletion = r.deletion ∧ next.prior = r.prior ∧
        (next.affected = r.affected ∨ ∃ g d, g.Shows r.affected db w.disk root ∧
          derive g = .ok d ∧ next.affected = r.affected ∪ (d ∪ r.prior)) ∧
        w.Onward w' db)
      (fun res w' => res.affected = r.affected ∧
        ∃ db', res.MadeFrom db db' w.disk root w.clock derive r.prior ∧ w.Onward w' db')) := by
  unfold compute
  rw [plain]
  refine (Snapshot.loadPart_ensures h normal r.affected).bind ?_
  intro g w₁ ⟨shows, h₁⟩
  refine .given fun d hd => ?_
  dsimp only
  split
  · exact .pure ⟨rfl, rfl, .inr ⟨g, d, shows, hd, rfl⟩, h₁⟩
  next covered =>
  rw [Classical.not_not] at covered
  refine .after Action.runIn_get ?_
  refine .given fun now clock => .given fun a ha => ?_
  split
  · exact .pure ⟨rfl, rfl, .inl rfl, h₁⟩
  refine .bind (batchOf_reads shows.mirrors a r.affected w₁ h₁.isOpen) ?_
  rintro b w₂ ⟨⟨fileRows, symbolRows, deletedFiles, deletedSymbols⟩, alike⟩
  have h₂ : w₁.Onward w₂ db := alike.onward h₁.isOpen
  have m := measures_of_shows shows normal ha
  have renews := renews_of_shows shows m fileRows symbolRows deletedFiles deletedSymbols
  refine (MetricsStore.apply_ensures (fun d hd => ?_) h₂.isOpen).bind ?_
  · obtain ⟨id, key, -⟩ := renews.symbol_row d hd
    exact ⟨id, key⟩
  intro _ w₃ ⟨db', written, h₃⟩
  refine .pure ⟨rfl, db', ⟨shows, ⟨d, hd, covered⟩, ⟨now, ?_, renews.renewed written⟩, m.kept⟩,
    (h₁.trans h₂).trans h₃⟩
  rw [← h₁.same.clock]
  exact clock

/-! ## Recomputations -/

/-- A recomputation opens the repository by loading its first snapshot. -/
theorem opens_recompute (plain : E.loader = .plain root) (seed prior : Affected)
    (deletion : Option (Action ω Unit)) : (E.recompute seed derive prior deletion).Opens := by
  unfold recompute
  rw [plain]
  exact (Snapshot.opens_loadPart seed).bind _

section Refresh

variable (db : Database) (disk : Disk) (root : Path) (derive : Snapshot → Except Error Affected)
  (seed prior : Affected)

/-- What is derived from a snapshot of at least the seed grows with the set that it shows. -/
def Grows : Prop :=
  ∀ A A' g g' d d', seed ⊆ A → A ⊆ A' → g.Shows A db disk root → g'.Shows A' db disk root →
    derive g = .ok d → derive g' = .ok d' → d ⊆ d'

/-- The set holds the seed and what was given, and what is derived from a snapshot of the set. -/
def Closed (B : Affected) : Prop :=
  seed ∪ prior ⊆ B ∧ ∃ g d, g.Shows B db disk root ∧ derive g = .ok d ∧ d ⊆ B

/-- The set is the least that is closed. -/
def Least (A : Affected) : Prop :=
  Closed db disk root derive seed prior A ∧
    ∀ B, Closed db disk root derive seed prior B → A ⊆ B

-- The set holds the seed and what was given, and otherwise nothing but what is derived from any
-- snapshot that shows it, nor anything that a closed set lacks.
private structure Grown (A : Affected) : Prop where
  start : seed ∪ prior ⊆ A
  reach : ∀ g d, g.Shows A db disk root → derive g = .ok d → A ⊆ seed ∪ prior ∪ d
  below : ∀ B, Closed db disk root derive seed prior B → A ⊆ B

variable {db disk root derive seed prior}

private theorem Grown.step (grows : Grows db disk root derive seed) {A d : Affected}
    (grown : Grown db disk root derive seed prior A) {g : Snapshot}
    (shows : g.Shows A db disk root) (hd : derive g = .ok d) :
    Grown db disk root derive seed prior (A ∪ (d ∪ prior)) := by
  have wider : A ⊆ A ∪ (d ∪ prior) := Affected.subset_union_left _ _
  have seeded : seed ⊆ A := (Affected.union_subset_iff.mp grown.start).1
  refine ⟨Affected.subset_trans grown.start wider, fun g' d' shows' hd' => ?_,
    fun B closed => ?_⟩
  · have more : d ⊆ d' := grows A _ g g' d d' seeded wider shows shows' hd hd'
    have given : seed ∪ prior ⊆ seed ∪ prior ∪ d' := Affected.subset_union_left _ _
    have derived : d ⊆ seed ∪ prior ∪ d' :=
      Affected.subset_trans more (Affected.subset_union_right _ _)
    have old : A ⊆ seed ∪ prior ∪ d' := Affected.subset_trans (grown.reach g d shows hd)
      (Affected.union_subset_iff.mpr ⟨given, derived⟩)
    rw [Affected.union_subset_iff, Affected.union_subset_iff]
    exact ⟨old, derived, (Affected.union_subset_iff.mp given).2⟩
  · have ⟨start, g', d', shows', hd', within⟩ := closed
    have old : A ⊆ B := grown.below B closed
    have more : d ⊆ d' := grows A B g g' d d' seeded old shows shows' hd hd'
    rw [Affected.union_subset_iff, Affected.union_subset_iff]
    exact ⟨old, Affected.subset_trans more within, (Affected.union_subset_iff.mp start).2⟩

private theorem Grown.first (grows : Grows db disk root derive seed) {g : Snapshot} {d : Affected}
    (shows : g.Shows seed db disk root) (hd : derive g = .ok d) :
    Grown db disk root derive seed prior (seed ∪ prior ∪ d) := by
  have start : seed ∪ prior ⊆ seed ∪ prior ∪ d := Affected.subset_union_left _ _
  refine ⟨start, fun g' d' shows' hd' => ?_, fun B closed => ?_⟩
  · have more : d ⊆ d' := grows seed _ g g' d d' (Affected.subset_refl _)
      (Affected.union_subset_iff.mp start).1 shows shows' hd hd'
    rw [Affected.union_subset_iff]
    exact ⟨Affected.subset_union_left _ _,
      Affected.subset_trans more (Affected.subset_union_right _ _)⟩
  · have ⟨start, g', d', shows', hd', within⟩ := closed
    have more : d ⊆ d' := grows seed B g g' d d' (Affected.subset_refl _)
      (Affected.union_subset_iff.mp start).1 shows shows' hd hd'
    rw [Affected.union_subset_iff]
    exact ⟨start, Affected.subset_trans more within⟩

/-- A recomputation without a deletion renews the rows of what it started with, what was given and
what is derived from its snapshot, which is the least closed set. -/
theorem recompute_ensures (plain : E.loader = .plain root) (h : w.Open db) (normal : db.Normal)
    (grows : Grows db w.disk root derive seed) :
    (E.recompute seed derive prior none).Ensures w fun res w' =>
      ∃ d db', derive res.snapshot = .ok d ∧ res.affected = seed ∪ prior ∪ d ∧
        Least db w.disk root derive seed prior res.affected ∧
        res.MadeFrom db db' w.disk root w.clock derive prior ∧ w.Onward w' db' := by
  unfold recompute
  rw [plain]
  refine (Snapshot.loadPart_ensures h normal seed).bind ?_
  intro g w₁ ⟨shows, h₁⟩
  refine .given fun first hfirst => ?_
  refine runRounds_ensures (I := fun r w₂ => r.deletion = none ∧ r.prior = prior ∧
    Grown db w.disk root derive seed prior r.affected ∧ w.Onward w₂ db) ?_ E.maxRounds
    ⟨rfl, rfl, Grown.first grows shows hfirst, h₁⟩
  rintro r w₂ ⟨none, rfl, grown, h₂⟩
  unfold round
  rw [none]
  refine (compute_ensures plain h₂.isOpen normal r).mono ?_
  rw [h₂.same.disk, h₂.same.clock]
  intro e w₃ ended
  cases e with
  | again next =>
    have ⟨deletion, prior, larger, h₃⟩ := ended
    refine ⟨deletion.trans none, prior, ?_, h₂.trans h₃⟩
    rcases larger with same | ⟨g, d, shows, hd, larger⟩
    · rw [same]
      exact grown
    · rw [larger]
      exact grown.step grows shows hd
  | done res =>
    have ⟨affected, db', made, h₃⟩ := ended
    have ⟨d, hd, held⟩ := made.derived
    have grown : Grown db w.disk root derive seed r.prior res.affected := affected ▸ grown
    have ⟨derived, _⟩ := Affected.union_subset_iff.mp held
    refine ⟨d, db', hd, ?_, ⟨⟨grown.start, res.snapshot, d, made.snapshot, hd, derived⟩,
      grown.below⟩, made, h₂.trans h₃⟩
    apply Affected.subset_antisymm
    · exact grown.reach _ d made.snapshot hd
    · rw [Affected.union_subset_iff]
      exact ⟨grown.start, derived⟩

end Refresh

/-! A deletion changes the tables from `db` to `removed` in the course of the rounds. Before it, the
set grows to hold what is derived from `db`, which is carried on to the rounds that follow it. -/

section Removal

variable (w : World ω) (db removed : Database) (root : Path)
  (derive : Snapshot → Except Error Affected) (seed : Affected) (deletion : Action ω Unit)

/-- The set holds what was derived from a snapshot that shows at least the seed. -/
def HoldsSurroundings (db : Database) (disk : Disk) (root : Path)
    (derive : Snapshot → Except Error Affected) (seed held : Affected) : Prop :=
  ∃ g A d, seed ⊆ A ∧ g.Shows A db disk root ∧ derive g = .ok d ∧ d ⊆ held

-- Where a round starts: the deletion is to be done, or it was done after the set had grown.
private inductive Removing (r : Round ω) (w₁ : World ω) : Prop
  | todo (pending : r.deletion = some deletion) (start : seed ⊆ r.affected)
    (onward : w.Onward w₁ db)
  | done (none : r.deletion = none)
    (held : HoldsSurroundings db w.disk root derive seed r.prior)
    (onward : w.Onward w₁ removed)

-- What the rounds end with.
private def Removed (res : Recomputation) (w' : World ω) : Prop :=
  ∃ db' prior, HoldsSurroundings db w.disk root derive seed prior ∧
    res.MadeFrom removed db' w.disk root w.clock derive prior ∧ w.Onward w' db'

variable {w db removed root derive seed deletion}

private theorem compute_removing (plain : E.loader = .plain root) (normal : removed.Normal)
    {r : Round ω} {w₁ : World ω} (none : r.deletion = none)
    (held : HoldsSurroundings db w.disk root derive seed r.prior) (onward : w.Onward w₁ removed) :
    (E.compute derive r).Ensures w₁ (RoundEnd.Meets
      (Removing w db removed root derive seed deletion)
      (Removed w db removed root derive seed)) := by
  refine (compute_ensures plain onward.isOpen normal r).mono ?_
  rw [onward.same.disk, onward.same.clock]
  intro e w₂ ended
  cases e with
  | again next =>
    obtain ⟨same, prior, -, h₂⟩ := ended
    refine .done (same.trans none) ?_ (onward.trans h₂)
    rw [prior]
    exact held
  | done res =>
    obtain ⟨-, db', made, h₂⟩ := ended
    exact ⟨db', r.prior, held, made, onward.trans h₂⟩

private theorem round_removing (plain : E.loader = .plain root) (normal : db.Normal)
    (normal' : removed.Normal)
    (deletes : ∀ w₁ : World ω, w₁.Open db →
      deletion.Ensures w₁ fun _ w' => w₁.Onward w' removed)
    {r : Round ω} {w₁ : World ω} (kept : Removing w db removed root derive seed deletion r w₁) :
    (E.round derive r).Ensures w₁ (RoundEnd.Meets
      (Removing w db removed root derive seed deletion)
      (Removed w db removed root derive seed)) := by
  unfold round
  cases kept with
  | done none held onward =>
    rw [none]
    exact compute_removing plain normal' none held onward
  | todo pending start onward =>
    rw [pending, plain]
    refine (Snapshot.loadPart_ensures onward.isOpen normal r.affected).bind ?_
    intro g w₂ ⟨shows, h₂⟩
    rw [onward.same.disk] at shows
    refine .given fun d hd => ?_
    dsimp only
    split
    · refine .pure (.todo rfl ?_ (onward.trans h₂))
      exact Affected.subset_trans start (Affected.subset_union_left _ _)
    · refine (deletes w₂ h₂.isOpen).bind fun _ w₃ h₃ => ?_
      refine compute_removing plain normal' rfl ?_ ((onward.trans h₂).trans h₃)
      exact ⟨g, r.affected, d, start, shows, hd, Affected.subset_union_left _ _⟩

/-- A recomputation with a deletion renews the rows of a set that holds what was derived from the
tables before the deletion. -/
theorem recompute_deletion_ensures (plain : E.loader = .plain root) (h : w.Open db)
    (normal : db.Normal) (normal' : removed.Normal)
    (deletes : ∀ w₁ : World ω, w₁.Open db →
      deletion.Ensures w₁ fun _ w' => w₁.Onward w' removed) :
    (E.recompute seed derive ∅ (some deletion)).Ensures w fun res w' =>
      ∃ db' prior, HoldsSurroundings db w.disk root derive seed prior ∧
        res.MadeFrom removed db' w.disk root w.clock derive prior ∧ w.Onward w' db' := by
  unfold recompute
  rw [plain]
  refine (Snapshot.loadPart_ensures h normal seed).bind ?_
  rintro g w₁ ⟨-, h₁⟩
  refine .given fun first _ => ?_
  refine runRounds_ensures (I := Removing w db removed root derive seed deletion)
    (fun r w₂ kept => round_removing plain normal normal' deletes kept) E.maxRounds ?_
  refine .todo rfl ?_ h₁
  exact (Affected.union_subset_iff.mp (Affected.subset_union_left _ _)).1

end Removal

end Engine

end CodeGauge
