import CodeGauge.Proofs.Engine.Backfill

/-!
# The order of calls

While the graph and the disk stay as they are, refreshes and backfills may be made in any order and
any number of times. Which rows a call renews depends on the graph, the disk and the call, but not
on the rows (`Part.scope`). Renewals that follow each other renew what any of them does
(`Database.RenewedIn.trans`), and the rows before together with what was renewed determine the rows
afterwards, apart from the times (`Database.RenewedIn.agree`).
-/

open Std

namespace CodeGauge

variable {ω : Type} {db db' db'' : Database} {disk : Disk} {root : Path}

/-! ## Scopes -/

/-- The files and the symbols whose rows are renewed. -/
structure Scope where
  files : String → Prop
  symbols : Int → Prop

/-- What is in the scope of either. -/
instance : Union Scope where
  union s t := ⟨fun file => s.files file ∨ t.files file, fun id => s.symbols id ∨ t.symbols id⟩

/-- `after` has the graph of `before`, and its metrics rows are those of `before` except for the
scope's. These are as they ought to be, apart from the times, except that a file keeps its row where
its content fails. -/
structure Database.RenewedIn (before after : Database) (disk : Disk) (root : Path) (s : Scope) :
    Prop where
  graph : before.SameGraph after
  file_fresh : ∀ file, s.files file →
    (before.symbolCount file ≠ 0 → before.isCurrent disk root file) →
    (after.fileMetrics[file]?).map (·.undated) = before.fileReference disk root file
  file_kept : ∀ file, before.symbolCount file ≠ 0 → ¬before.isCurrent disk root file →
    after.fileMetrics[file]? = before.fileMetrics[file]?
  file_other : ∀ file, ¬s.files file → after.fileMetrics[file]? = before.fileMetrics[file]?
  symbol_fresh : ∀ id, s.symbols id →
    (after.symbolMetrics[id]?).map (·.undated) = before.symbolReference id
  symbol_removed : ∀ id file, ¬s.symbols id → s.files file → before.Misfiled id file →
    after.symbolMetrics[id]? = none
  symbol_other : ∀ id, ¬s.symbols id → (∀ file, s.files file → ¬before.Misfiled id file) →
    after.symbolMetrics[id]? = before.symbolMetrics[id]?

/-- The databases differ at most in the times of metrics rows. -/
structure Database.AgreeUndated (db db' : Database) : Prop where
  graph : db.SameGraph db'
  files : ∀ file : String,
    (db.fileMetrics[file]?).map (·.undated) = (db'.fileMetrics[file]?).map (·.undated)
  symbols : ∀ id : Int,
    (db.symbolMetrics[id]?).map (·.undated) = (db'.symbolMetrics[id]?).map (·.undated)

namespace Database

/-- A row that stays where symbols stay is misfiled afterwards if it was before. -/
theorem SameGraph.misfiled_iff (graph : db.SameGraph db') {id : Int}
    (kept : db'.symbolMetrics[id]? = db.symbolMetrics[id]?) (file : String) :
    db'.Misfiled id file ↔ db.Misfiled id file := by
  rw [SameGraph] at graph
  rw [Misfiled, Misfiled, kept, graph]

/-- An id without a row has none that is misfiled. -/
theorem not_misfiled_of_none {id : Int} (none : db.symbolMetrics[id]? = none) (file : String) :
    ¬db.Misfiled id file := by
  intro ⟨⟨row, held, _⟩, _⟩
  rw [none] at held
  cases held

/-- A file of which two disks hold the same is current on both or on neither. -/
theorem isCurrent_congr {disk' : Disk} {file : String}
    (same : contentOf? disk' root file = contentOf? disk root file) :
    db.isCurrent disk' root file ↔ db.isCurrent disk root file := by
  rw [isCurrent, isCurrent, same]

namespace RenewedIn

variable {s t : Scope}

/-- Nothing is renewed in a scope with neither a file nor a symbol. -/
theorem refl (db : Database) : db.RenewedIn db disk root ⟨fun _ => False, fun _ => False⟩ :=
  ⟨.refl db, fun _ no => no.elim, fun _ _ _ => rfl, fun _ _ => rfl, fun _ no => no.elim,
    fun _ _ _ no => no.elim, fun _ _ _ => rfl⟩

/-- Renewals that follow each other renew what either does. -/
theorem trans (h : db.RenewedIn db' disk root s) (k : db'.RenewedIn db'' disk root t) :
    db.RenewedIn db'' disk root (s ∪ t) := by
  have count := h.graph.symbolCount_eq
  have current (file : String) : db'.isCurrent disk root file ↔ db.isCurrent disk root file :=
    h.graph.isCurrent_iff file
  refine ⟨h.graph.trans k.graph, ?_, ?_, ?_, ?_, ?_, ?_⟩
  · intro file held trusted
    by_cases later : t.files file
    · rw [← h.graph.fileReference_eq]
      apply k.file_fresh file later
      rw [count, current]
      exact trusted
    · rw [k.file_other file later]
      exact h.file_fresh file (held.resolve_right later) trusted
  · intro file some stale
    rw [← h.file_kept file some stale]
    apply k.file_kept
    · rw [count]
      exact some
    · rw [current]
      exact stale
  · intro file far
    rw [k.file_other file fun later => far (.inr later)]
    exact h.file_other file fun earlier => far (.inl earlier)
  · intro id held
    by_cases later : t.symbols id
    · rw [← h.graph.symbolReference_eq]
      exact k.symbol_fresh id later
    · have fresh := h.symbol_fresh id (held.resolve_right later)
      -- a row that is as it ought to be is not filed anywhere by mistake
      rw [k.symbol_other id later fun file _ => ?_]
      · exact fresh
      · apply not_misfiled
        rw [fresh, h.graph.symbolReference_eq]
  · intro id file far held misfiled
    by_cases removed : ∃ file, s.files file ∧ db.Misfiled id file
    · have ⟨file', held', misfiled'⟩ := removed
      have none := h.symbol_removed id file' (fun own => far (.inl own)) held' misfiled'
      rw [k.symbol_other id (fun own => far (.inr own)) fun _ _ => not_misfiled_of_none none _]
      exact none
    · have kept := h.symbol_other id (fun own => far (.inl own)) fun file held misfiled =>
        removed ⟨file, held, misfiled⟩
      have later : t.files file := held.resolve_left fun held => removed ⟨file, held, misfiled⟩
      apply k.symbol_removed id file (fun own => far (.inr own)) later
      rw [h.graph.misfiled_iff kept]
      exact misfiled
  · intro id far filed
    have kept := h.symbol_other id (fun own => far (.inl own))
      fun file held => filed file (.inl held)
    rw [← kept]
    apply k.symbol_other id fun own => far (.inr own)
    intro file held
    rw [h.graph.misfiled_iff kept]
    exact filed file (.inr held)

/-- The rows before, the scope and what a disk holds of a file determine the rows afterwards, apart
from the times. -/
theorem agree_of_content {disk' : Disk} (h : db.RenewedIn db' disk root s)
    (k : db.RenewedIn db'' disk' root s) : db'.SameGraph db'' ∧
      (∀ file, (db.symbolCount file ≠ 0 → contentOf? disk' root file = contentOf? disk root file) →
        (db'.fileMetrics[file]?).map (·.undated) = (db''.fileMetrics[file]?).map (·.undated)) ∧
      ∀ id : Int,
        (db'.symbolMetrics[id]?).map (·.undated) = (db''.symbolMetrics[id]?).map (·.undated) := by
  refine ⟨h.graph.symm.trans k.graph, fun file same => ?_, fun id => ?_⟩
  · by_cases held : s.files file
    · by_cases trusted : db.symbolCount file ≠ 0 → db.isCurrent disk root file
      · have reference : db.fileReference disk' root file = db.fileReference disk root file := by
          rw [fileReference, fileReference]
          split
          · rfl
          · next some => rw [same some]
        rw [h.file_fresh file held trusted, ← reference]
        apply (k.file_fresh file held fun some => ?_).symm
        rw [isCurrent_congr (same some)]
        exact trusted some
      · rw [Classical.not_imp] at trusted
        obtain ⟨some, stale⟩ := trusted
        rw [h.file_kept file some stale, k.file_kept file some]
        rw [isCurrent_congr (same some)]
        exact stale
    · rw [h.file_other file held, k.file_other file held]
  · by_cases held : s.symbols id
    · rw [h.symbol_fresh id held, k.symbol_fresh id held]
    · by_cases removed : ∃ file, s.files file ∧ db.Misfiled id file
      · obtain ⟨file, own, misfiled⟩ := removed
        rw [h.symbol_removed id file held own misfiled, k.symbol_removed id file held own misfiled]
      · have filed : ∀ file, s.files file → ¬db.Misfiled id file :=
          fun file own misfiled => removed ⟨file, own, misfiled⟩
        rw [h.symbol_other id held filed, k.symbol_other id held filed]

/-- The rows before and the scope determine the rows afterwards, apart from the times. -/
theorem agree (h : db.RenewedIn db' disk root s) (k : db.RenewedIn db'' disk root s) :
    db'.AgreeUndated db'' := by
  have ⟨graph, files, symbols⟩ := h.agree_of_content k
  exact ⟨graph, fun file => files file fun _ => rfl, symbols⟩

/-- Renewed rows leave the paths of the graph normal. -/
theorem normal (h : db.RenewedIn db' disk root s) (normal : db.Normal) : db'.Normal := by
  have graph := h.graph
  rw [SameGraph] at graph
  rw [graph]
  exact normal

/-- Rows are keyed as paths are written if they were before. -/
theorem keys (h : db.RenewedIn db' disk root s) (normal : db.Normal)
    (keys : ∀ file ∈ db.fileMetrics, (Path.ofString file).toString = file) :
    ∀ file ∈ db'.fileMetrics, (Path.ofString file).toString = file := by
  intro file stored
  by_cases count : db.symbolCount file = 0
  · apply keys
    by_cases held : s.files file
    · have none : db.fileReference disk root file = none := by
        rw [fileReference, if_pos count]
      have fresh := h.file_fresh file held fun some => (some count).elim
      rw [none, Option.map_eq_none_iff] at fresh
      rw [ExtTreeMap.mem_iff_isSome_getElem?, fresh] at stored
      cases stored
    · rw [ExtTreeMap.mem_iff_isSome_getElem?, ← h.file_other file held]
      exact ExtTreeMap.mem_iff_isSome_getElem?.mp stored
  · obtain ⟨id, row, hr, own⟩ := symbolCount_ne_zero.mp count
    rw [← own]
    exact normal id row hr

end RenewedIn

end Database

/-! ## What a set renews -/

/-- The files and the symbols that a set covers. -/
def Affected.scope (A : Affected) (db : Database) : Scope :=
  ⟨fun file => ∃ path ∈ A.files, path.toString = file, db.Covers A⟩

/-- A larger set covers more. -/
theorem Affected.scope_mono {A B : Affected} (sub : A ⊆ B) (db : Database) :
    (∀ file, (A.scope db).files file → (B.scope db).files file) ∧
      ∀ id, (A.scope db).symbols id → (B.scope db).symbols id := by
  have ⟨files, symbols⟩ := Affected.subset_iff.mp sub
  constructor
  · rintro file ⟨path, hpath, own⟩
    exact ⟨path, files path hpath, own⟩
  · rintro id (own | ⟨row, hr, path, hpath, file⟩)
    · exact .inl (symbols id own)
    · exact .inr ⟨row, hr, path, files path hpath, file⟩

namespace Database.Renewed

variable {A : Affected} {now : Int}

/-- To renew the rows of a set is to renew them in the scope of what the set covers. -/
theorem renewedIn (h : db.Renewed db' disk root A now) :
    db.RenewedIn db' disk root (A.scope db) := by
  refine ⟨h.graph, ?_, ?_, ?_, fun id covered => h.symbol_undated covered, ?_, ?_⟩
  · rintro _ ⟨path, hpath, rfl⟩ trusted
    exact h.file_undated hpath trusted
  · intro file some stale
    by_cases held : ∃ path ∈ A.files, path.toString = file
    · obtain ⟨path, hpath, rfl⟩ := held
      exact h.file_kept path hpath some stale
    · exact h.file_other file fun path hpath own => held ⟨path, hpath, own⟩
  · intro file far
    exact h.file_other file fun path hpath own => far ⟨path, hpath, own⟩
  · rintro id _ far ⟨path, hpath, rfl⟩ misfiled
    exact h.symbol_removed id far path hpath misfiled
  · intro id far filed
    exact h.symbol_other id far fun path hpath => filed _ ⟨path, hpath, rfl⟩

/-- To renew the rows of a set that holds everything is to renew them in the scope of all symbols
and of all files that are written as paths are. -/
theorem renewedIn_written (h : db.Renewed db' disk root A now) (everything : A.Everything db)
    (normal : db.Normal) :
    db.RenewedIn db' disk root
      ⟨fun file => (Path.ofString file).toString = file, fun _ => True⟩ := by
  have part := h.renewedIn
  refine ⟨h.graph, ?_, part.file_kept, ?_, ?_, fun _ _ far => (far trivial).elim,
    fun _ far => (far trivial).elim⟩
  · intro file written trusted
    by_cases held : (A.scope db).files file
    · exact part.file_fresh file held trusted
    · have far : ∀ path ∈ A.files, path.toString ≠ file :=
        fun path hpath own => held ⟨path, hpath, own⟩
      have ⟨noRow, noReference⟩ : _ ∧ db.fileReference disk root file = none :=
        everything.file_none normal (fun _ => written) far
      rw [part.file_other file held, noRow, noReference]
      rfl
  · intro file unwritten
    apply part.file_other
    rintro ⟨path, _, rfl⟩
    exact unwritten (congrArg Path.toString (Path.ofString_toString path))
  · intro id _
    by_cases held : db.Covers A id
    · exact part.symbol_fresh id held
    · have ⟨noRow, noReference⟩ := everything.symbol_none fun own => held (.inl own)
      rw [part.symbol_other id held fun file _ => not_misfiled_of_none noRow file, noRow,
        noReference]
      rfl

/-- If rows are keyed as paths are written, this is the scope of all files and symbols. -/
theorem renewedIn_everything (h : db.Renewed db' disk root A now) (everything : A.Everything db)
    (normal : db.Normal) (keys : ∀ file ∈ db.fileMetrics, (Path.ofString file).toString = file) :
    db.RenewedIn db' disk root ⟨fun _ => True, fun _ => True⟩ := by
  have part := h.renewedIn_written everything normal
  refine ⟨h.graph, fun file _ trusted => ?_, part.file_kept, fun _ far => (far trivial).elim,
    part.symbol_fresh, fun _ _ far => (far trivial).elim, fun _ far => (far trivial).elim⟩
  by_cases written : (Path.ofString file).toString = file
  · exact part.file_fresh file written trusted
  · have noRow : db.fileMetrics[file]? = none :=
      ExtTreeMap.getElem?_eq_none fun stored => written (keys file stored)
    have none : db.symbolCount file = 0 := by
      apply Classical.byContradiction
      intro some
      obtain ⟨id, row, hr, own⟩ := symbolCount_ne_zero.mp some
      rw [← own] at written
      exact written (normal id row hr)
    rw [part.file_other file written, noRow, fileReference, if_pos none]
    rfl

end Database.Renewed

/-! ## Snapshots of the graph -/

/-- A snapshot mirrors tables with the same graph too. -/
theorem Snapshot.Mirrors.of_sameGraph {g : Snapshot} (graph : db.SameGraph db')
    (mirrors : g.Mirrors db disk root) : g.Mirrors db' disk root := by
  rw [Database.SameGraph] at graph
  rw [graph]
  refine ⟨mirrors.known, mirrors.complete, mirrors.edges, mirrors.ends, ?_⟩
  intro path file hf
  have covered := mirrors.files path file hf
  exact ⟨covered.nodup, covered.symbols, covered.complete, covered.content, covered.hash⟩

/-- A snapshot shows a set of tables with the same graph too. -/
theorem Snapshot.Shows.of_sameGraph {g : Snapshot} {A : Affected} (graph : db.SameGraph db')
    (shows : g.Shows A db disk root) : g.Shows A db' disk root := by
  have mirrors := shows.mirrors.of_sameGraph graph
  rw [Database.SameGraph] at graph
  rw [graph] at mirrors ⊢
  exact ⟨mirrors, shows.complete, shows.touching, shows.files⟩

/-- A snapshot shows all of tables with the same graph too. -/
theorem Snapshot.ShowsAll.of_sameGraph {g : Snapshot} (graph : db.SameGraph db')
    (shows : g.ShowsAll db disk root) : g.ShowsAll db' disk root := by
  have mirrors := shows.mirrors.of_sameGraph graph
  rw [Database.SameGraph] at graph
  rw [graph] at mirrors ⊢
  exact ⟨mirrors, shows.complete, shows.files⟩

/-! ## Calls -/

/-- What a call consists of: a refresh, or the renewal of everything. -/
inductive Part where
  | refresh (refresh : Refresh)
  | everything

/-- What a part renews, by the graph and the disk. A refresh renews what all the sets cover that
hold what it is asked for and what is derived from a snapshot of them. -/
def Part.scope (db : Database) (disk : Disk) (root : Path) : Part → Scope
  | refresh r =>
    let Closed := Engine.Closed db disk root r.derive r.seed r.prior
    ⟨fun file => ∀ A, Closed A → (A.scope db).files file,
      fun id => ∀ A, Closed A → (A.scope db).symbols id⟩
  | everything => ⟨fun _ => True, fun _ => True⟩

/-- What any of several parts renews. -/
def scopeOf (db : Database) (disk : Disk) (root : Path) (parts : List Part) : Scope :=
  ⟨fun file => ∃ part ∈ parts, (part.scope db disk root).files file,
    fun id => ∃ part ∈ parts, (part.scope db disk root).symbols id⟩

/-- Which parts there are determines what is renewed; their order and their number do not matter. -/
theorem scopeOf_congr {parts parts' : List Part} (same : ∀ part, part ∈ parts ↔ part ∈ parts') :
    scopeOf db disk root parts = scopeOf db disk root parts' := by
  simp only [scopeOf, same]

private theorem scopeOf_nil : scopeOf db disk root [] = ⟨fun _ => False, fun _ => False⟩ := by
  simp only [scopeOf, List.not_mem_nil, false_and, exists_false]

private theorem scopeOf_append (parts parts' : List Part) :
    scopeOf db disk root (parts ++ parts') =
      scopeOf db disk root parts ∪ scopeOf db disk root parts' := by
  simp only [scopeOf, List.mem_append, or_and_right, exists_or]
  rfl

private theorem scopeOf_singleton (part : Part) :
    scopeOf db disk root [part] = part.scope db disk root := by
  simp only [scopeOf, List.mem_singleton, exists_eq_left]

/-- The rows play no part in which sets are closed. -/
theorem Database.SameGraph.closed_iff (graph : db.SameGraph db')
    {derive : Snapshot → Except Error Affected} {seed prior A : Affected} :
    Engine.Closed db' disk root derive seed prior A ↔
      Engine.Closed db disk root derive seed prior A := by
  constructor
  · intro ⟨start, g, d, shows, hd, within⟩
    exact ⟨start, g, d, shows.of_sameGraph graph.symm, hd, within⟩
  · intro ⟨start, g, d, shows, hd, within⟩
    exact ⟨start, g, d, shows.of_sameGraph graph, hd, within⟩

/-- The rows play no part in what is renewed. -/
theorem Database.SameGraph.scopeOf_eq (graph : db.SameGraph db') (parts : List Part) :
    scopeOf db' disk root parts = scopeOf db disk root parts := by
  have covered (A : Affected) : A.scope db' = A.scope db := by
    rw [SameGraph] at graph
    rw [graph]
    rfl
  have same (part : Part) : part.scope db' disk root = part.scope db disk root := by
    cases part with
    | refresh r => simp only [Part.scope, graph.closed_iff, covered]
    | everything => rfl
  simp only [scopeOf, same]

/-- The least closed set covers what a refresh renews. -/
theorem Engine.Least.scope_eq {refresh : Refresh} {A : Affected}
    (least : Least db disk root refresh.derive refresh.seed refresh.prior A) :
    (Part.refresh refresh).scope db disk root = A.scope db := by
  have below (B : Affected)
      (closed : Closed db disk root refresh.derive refresh.seed refresh.prior B) :=
    Affected.scope_mono (least.2 B closed) db
  have files (file : String) : ((Part.refresh refresh).scope db disk root).files file ↔
      (A.scope db).files file :=
    ⟨fun all => all A least.1, fun own B closed => (below B closed).1 file own⟩
  have symbols (id : Int) : ((Part.refresh refresh).scope db disk root).symbols id ↔
      (A.scope db).symbols id :=
    ⟨fun all => all A least.1, fun own B closed => (below B closed).2 id own⟩
  rcases h : (Part.refresh refresh).scope db disk root with ⟨f, i⟩
  rw [h] at files symbols
  rw [show f = _ from funext fun file => propext (files file),
    show i = _ from funext fun id => propext (symbols id)]

/-- A refresh, a refresh of several files, or a backfill whose progress is told to something that
changes neither the tables nor the disk. -/
inductive Call (ω : Type) where
  | refresh (refresh : Refresh)
  | files (paths : List Path)
  | backfill (notify : Nat → Nat → Action ω Unit) (quiet : ∀ i n, Engine.Quiet (notify i n))

namespace Call

/-- Make a call. -/
def run (E : Engine ω) : Call ω → Action ω Unit
  | refresh r => do
    let _ ← r.run E
  | files paths => do
    let _ ← E.refreshFiles paths
  | backfill notify _ => do
    let _ ← E.backfill notify

/-- What a call consists of. -/
def parts : Call ω → List Part
  | refresh r => [.refresh r]
  | files paths => paths.map fun path => .refresh (.file path ∅)
  | backfill _ _ => [.everything]

end Call

variable {E : Engine ω} {w : World ω}

/-- A refresh that gives a value has renewed what it renews by the graph and the disk. -/
theorem Refresh.run_renewedIn (plain : E.loader = .plain root) (shows : w.Shows db disk)
    (normal : db.Normal) (refresh : Refresh) :
    (refresh.run E).Ensures w fun _ w' => ∃ db',
      db.RenewedIn db' disk root (scopeOf db disk root [.refresh refresh]) ∧
        w'.Shows db' disk := by
  refine (refresh.run_ensures plain shows normal).mono ?_
  rintro r w' ⟨derived, db', _, _, least, made, shows'⟩
  have ⟨now, _, renewed⟩ := made.renewed
  refine ⟨db', ?_, shows'⟩
  rw [scopeOf_singleton, least.scope_eq]
  exact renewed.renewedIn

private theorem Engine.foldlM_refreshFile_renewedIn (plain : E.loader = .plain root)
    (paths : List Path) (stats : Stats) (shows : w.Shows db disk) (normal : db.Normal) :
    (paths.foldlM (fun (stats : Stats) path => do
      return stats.merge (← E.refreshFile path ∅).stats) stats).Ensures w fun _ w' => ∃ db',
        db.RenewedIn db' disk root
          (scopeOf db disk root (paths.map fun path => .refresh (.file path ∅))) ∧
          w'.Shows db' disk := by
  induction paths generalizing w db stats with
  | nil =>
    refine .pure ⟨db, ?_, shows⟩
    rw [List.map_nil, scopeOf_nil]
    exact .refl db
  | cons path paths ih =>
    rw [List.foldlM_cons, bind_assoc]
    refine ((Refresh.file path ∅).run_renewedIn plain shows normal).bind ?_
    intro r w₁ ⟨db₁, first, shows₁⟩
    rw [pure_bind]
    refine (ih _ shows₁ (first.normal normal)).mono ?_
    intro _ w₂ ⟨db₂, rest, shows₂⟩
    rw [first.graph.scopeOf_eq] at rest
    refine ⟨db₂, ?_, shows₂⟩
    rw [List.map_cons, ← List.singleton_append, scopeOf_append]
    exact first.trans rest

/-- A call that gives a value has renewed what its parts renew. -/
theorem Call.run_renewedIn (plain : E.loader = .plain root) (shows : w.Shows db disk)
    (normal : db.Normal) (keys : ∀ file ∈ db.fileMetrics, (Path.ofString file).toString = file)
    (call : Call ω) :
    (call.run E).Ensures w fun _ w' => ∃ db',
      db.RenewedIn db' disk root (scopeOf db disk root call.parts) ∧ w'.Shows db' disk := by
  cases call with
  | refresh r =>
    exact (r.run_renewedIn plain shows normal).bind fun _ _ renewed => .pure renewed
  | files paths =>
    exact (Engine.foldlM_refreshFile_renewedIn plain paths {} shows normal).bind
      fun _ _ renewed => .pure renewed
  | backfill notify quiet =>
    refine (Engine.backfill_ensures plain shows normal quiet).bind ?_
    intro r w' ⟨db', done, shows'⟩
    have ⟨A, now, everything, renewed⟩ := done.renewed
    refine .pure ⟨db', ?_, shows'⟩
    rw [parts, scopeOf_singleton]
    exact renewed.renewedIn_everything everything normal keys

/-! ## Sequences of calls -/

/-- The calls, made one after the other, take the tables from the first to the last. Each is made in
a world with the tables that the one before left, and with the same disk; the clock may have gone
on, and the repository may have been opened anew. -/
inductive Runs (E : Engine ω) (disk : Disk) : Database → List (Call ω) → Database → Prop
  | nil (db : Database) : Runs E disk db [] db
  | cons {db db' db'' : Database} {call : Call ω} {calls : List (Call ω)} {w w' : World ω}
    (shows : w.Shows db disk) (run : (call.run E).runIn w = (.ok (), w'))
    (shows' : w'.Shows db' disk) (rest : Runs E disk db' calls db'') :
    Runs E disk db (call :: calls) db''

/-- A world shows one set of tables. -/
theorem World.Shows.unique (h : w.Shows db disk) (k : w.Shows db' disk) : db' = db := by
  have same := h.1.symm.trans k.1
  cases same
  rfl

namespace Runs

/-- Calls renew what their parts renew. -/
theorem renewedIn (plain : E.loader = .plain root) {calls : List (Call ω)}
    (runs : Runs E disk db calls db') (normal : db.Normal)
    (keys : ∀ file ∈ db.fileMetrics, (Path.ofString file).toString = file) :
    db.RenewedIn db' disk root (scopeOf db disk root (calls.flatMap Call.parts)) := by
  induction runs with
  | nil db =>
    rw [List.flatMap_nil, scopeOf_nil]
    exact .refl db
  | cons shows run shows' _ ih =>
    have ⟨db₁, first, shows₁⟩ := Call.run_renewedIn plain shows normal keys _ () _ run
    cases shows'.unique shows₁
    have rest := ih (first.normal normal) (first.keys normal keys)
    rw [first.graph.scopeOf_eq] at rest
    rw [List.flatMap_cons, scopeOf_append]
    exact first.trans rest

/-- Calls that are made one after the other in one world. -/
theorem of_forM (plain : E.loader = .plain root) (shows : w.Shows db disk) (normal : db.Normal)
    (keys : ∀ file ∈ db.fileMetrics, (Path.ofString file).toString = file)
    (calls : List (Call ω)) :
    (calls.forM (Call.run E)).Ensures w fun _ w' => ∃ db', Runs E disk db calls db' ∧
      w'.Shows db' disk := by
  induction calls generalizing w db with
  | nil => exact .pure ⟨db, .nil db, shows⟩
  | cons call calls ih =>
    intro _ w' run
    have ⟨_, w₁, first, rest⟩ := Action.runIn_bind_ok.mp run
    have ⟨db₁, renewed, shows₁⟩ := call.run_renewedIn plain shows normal keys () w₁ first
    have ⟨db', runs, shows'⟩ :=
      ih shows₁ (renewed.normal normal) (renewed.keys normal keys) () w' rest
    exact ⟨db', .cons shows first shows₁ runs, shows'⟩

/-- Sequences that contain the same refreshes and backfills, in whatever order and however often,
leave the same tables, apart from the times at which rows were written. A file with symbols whose
content cannot be read or is not the recorded one keeps its row. -/
theorem agree_of_same_calls (plain : E.loader = .plain root) (normal : db.Normal)
    (keys : ∀ file ∈ db.fileMetrics, (Path.ofString file).toString = file)
    {calls calls' : List (Call ω)}
    (same : ∀ part, part ∈ calls.flatMap Call.parts ↔ part ∈ calls'.flatMap Call.parts)
    (runs : Runs E disk db calls db') (runs' : Runs E disk db calls' db'') :
    db'.AgreeUndated db'' ∧
      ∀ file, db.symbolCount file ≠ 0 → ¬db.isCurrent disk root file →
        db'.fileMetrics[file]? = db.fileMetrics[file]? ∧
          db''.fileMetrics[file]? = db.fileMetrics[file]? := by
  have renewed := runs.renewedIn plain normal keys
  have renewed' := runs'.renewedIn plain normal keys
  rw [← scopeOf_congr same] at renewed'
  refine ⟨renewed.agree renewed', fun file some stale => ?_⟩
  exact ⟨renewed.file_kept file some stale, renewed'.file_kept file some stale⟩

/-- The tables of the small repository with a symbol in a third file, which has a row, but is not on
the disk. -/
def sampleTables : Database :=
  { Sample.tables with
    symbols := Sample.tables.symbols.insert 3 (Sample.function "h" "c")
    fileMetrics := .ofList [("c", (⟨.int 9, .int 9, .null, .int 9, .int 9, .null, .int 1⟩ :
      FileMetricsRow))] }

/-- A backfill that tells nobody of its progress. -/
def sampleBackfill : Call Unit :=
  .backfill (fun _ _ => pure ()) fun _ _ w => ⟨w.others, rfl⟩

/-- A backfill and a refresh of the first file. -/
def sampleCalls : List (Call Unit) :=
  [sampleBackfill, .refresh (.file (.ofString "a") ∅)]

/-- The same calls in the other order, with repetitions. -/
def sampleOtherCalls : List (Call Unit) :=
  [.files [.ofString "a", .ofString "a"], sampleBackfill]

/-- Two orders of the same calls leave the same rows but for their times. -/
theorem sample_same_calls :
    ∃ db' db'', Runs Sample.engine Sample.disk sampleTables sampleCalls db' ∧
      Runs Sample.engine Sample.disk sampleTables sampleOtherCalls db'' ∧
      db'.AgreeUndated db'' := by
  have normal : sampleTables.Normal := by decide +kernel
  have keys : ∀ file ∈ sampleTables.fileMetrics, (Path.ofString file).toString = file := by
    have all : ∀ file ∈ sampleTables.fileMetrics.keys, (Path.ofString file).toString = file := by
      decide +kernel
    intro file stored
    exact all file (ExtTreeMap.mem_keys.mpr stored)
  have same : ∀ part, part ∈ sampleCalls.flatMap Call.parts ↔
      part ∈ sampleOtherCalls.flatMap Call.parts := by
    intro part
    simp only [sampleCalls, sampleOtherCalls, sampleBackfill, Call.parts, List.flatMap_cons,
      List.flatMap_nil, List.map_cons, List.map_nil, List.mem_append, List.mem_cons,
      List.not_mem_nil, or_false]
    grind
  have shows := Sample.world_shows sampleTables
  have returns : ((sampleCalls.forM (Call.run Sample.engine)).runIn
      (Sample.world sampleTables)).1.toOption.isSome = true := by decide +kernel
  have returns' : ((sampleOtherCalls.forM (Call.run Sample.engine)).runIn
      (Sample.world sampleTables)).1.toOption.isSome = true := by decide +kernel
  rcases run : (sampleCalls.forM (Call.run Sample.engine)).runIn (Sample.world sampleTables) with
    ⟨e | r, w'⟩
  · rw [run] at returns
    cases returns
  rcases run' : (sampleOtherCalls.forM (Call.run Sample.engine)).runIn
    (Sample.world sampleTables) with ⟨e | r', w''⟩
  · rw [run'] at returns'
    cases returns'
  have ⟨db', runs, _⟩ := of_forM rfl shows normal keys sampleCalls () w' run
  have ⟨db'', runs', _⟩ := of_forM rfl shows normal keys sampleOtherCalls () w'' run'
  exact ⟨db', db'', runs, runs', (agree_of_same_calls rfl normal keys same runs runs').1⟩

end Runs

end CodeGauge
