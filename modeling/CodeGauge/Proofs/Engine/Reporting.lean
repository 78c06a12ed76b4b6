import CodeGauge.Proofs.Engine.Closing
import CodeGauge.Proofs.Engine.Completion

/-!
# Calls that return or report

Of an orderly graph each call of the engine gives statistics or a report, whatever the disk holds
(`Operation.returns_or_reports`). The rounds of a call come to an end, since the set grows at most
once and each other round that is not the last is a retry. Insertions and calls keep a graph
orderly. But an id that no column can hold fails a call in another way.
-/

open Std

namespace CodeGauge

variable {ω : Type} {E : Engine ω} {w : World ω} {db db' : Database} {disk : Disk} {root : Path}
  {now : Int}

/-! ## Orderly tables -/

namespace Database.Orderly

/-- Of tables with an orderly graph a batch makes others. -/
theorem of_sameGraph (h : db.Orderly root) (sound : db'.Sound) (graph : db.SameGraph db') :
    db'.Orderly root := by
  rw [SameGraph] at graph
  refine ⟨sound, ?_, ?_⟩
  · rw [graph]
    exact h.wired
  · rw [graph]
    exact h.meterable

/-- A graph stays orderly when a symbol is inserted that can be metered. -/
theorem insertSymbol (h : db.Orderly root) {id : Int} {d : Symbol.Draft}
    (meterable : ∀ row, StoredRow.admit SymbolRow d.values = .ok row → row.Meterable root)
    (fit : ∀ v ∈ d.values, Action.fits v = true)
    (inserted : db.insertSymbol d.values = .ok (id, db')) : db'.Orderly root := by
  have sound := h.sound.insertSymbol fit inserted
  obtain ⟨next, _, inserted⟩ := Except.bind_eq_ok.mp inserted
  obtain ⟨row, admitted, inserted⟩ := Except.bind_eq_ok.mp inserted
  cases inserted
  exact ⟨sound, h.wired, forall_insert (meterable row admitted) h.meterable⟩

/-- A graph stays orderly when integers are joined by an edge. -/
theorem insertEdge (h : db.Orderly root) {id : Int} {d : Edge.Draft} {caller callee : Int}
    (own : d.caller = .int caller) (other : d.callee = .int callee)
    (fit : ∀ v ∈ d.values, Action.fits v = true)
    (inserted : db.insertEdge d.values = .ok (id, db')) : db'.Orderly root := by
  have symbols : db'.symbols = db.symbols := by
    obtain ⟨next, _, inserted⟩ := Except.bind_eq_ok.mp inserted
    obtain ⟨row, _, inserted⟩ := Except.bind_eq_ok.mp inserted
    cases inserted
    rfl
  refine ⟨h.sound.insertEdge inserted, h.wired.insertEdge own other fit inserted, ?_⟩
  rw [symbols]
  exact h.meterable

/-- A graph stays orderly when symbols are removed. -/
theorem without (h : db.Orderly root) (removal : Removal) : (db.without removal).Orderly root := by
  have stored {id : Int} {row : SymbolRow} (hr : (db.without removal).symbols[id]? = some row) :
      db.symbols[id]? = some row := by
    rw [Removal.symbols_without] at hr
    split at hr
    · cases hr
    · exact hr
  have held {n : Int} {e : EdgeRow} (he : (db.without removal).edges[n]? = some e) :
      db.edges[n]? = some e :=
    ((Removal.edges_without removal n e).mp he).1
  refine ⟨⟨?_, ?_, h.sound.lastSymbol, h.sound.lastEdge, h.sound.fileRow, h.sound.symbolRow,
    h.sound.pathless⟩, ?_, ?_⟩
  · exact fun id row hr => h.sound.symbol id row (stored hr)
  · exact fun n e he => h.sound.edge n e (held he)
  · exact fun n e he => h.wired n e (held he)
  · exact fun id row hr => h.meterable id row (stored hr)

end Database.Orderly

/-! ## Deletions -/

namespace Action

variable {α : Type} {statement : Statement} {values : List Value}

/-- A write that is never refused leaves the repository ready. -/
theorem changeAndCommit_succeeds {change : Database → α × Database} (h : ∃ db, w.Ready db)
    (ordinary : statement.Ordinary) (fit : ∀ v ∈ values, fits v = true)
    (kept : ∀ db, (change db).2.dropped = db.dropped) :
    (updateAndCommit statement values fun db => .ok (change db)).Succeeds w fun _ w' =>
      ∃ db', w'.Ready db' := by
  obtain ⟨db, ready⟩ := h
  exact (updateAndCommit_succeeds ready ordinary fit rfl (kept db)).mono fun _ _ ready => ⟨_, ready⟩

end Action

/-- The ids that the removal is asked for are ones that a column can hold. -/
def Removal.Fits (removal : Removal) : Prop :=
  removal.seed.Fits

/-- The removal of a symbol can be asked for if a column holds its id. -/
theorem Removal.fits_symbol {id : Int} (held : inColumn id = true) : (symbol id).Fits := by
  intro other mem
  obtain rfl : other = id := List.mem_singleton.mp (Affected.mem_symbols_of.mp mem)
  exact held

/-- The deletion of a removal succeeds in a repository that is ready. -/
theorem Removal.deletion_succeeds (removal : Removal) (fits : removal.Fits) (h : w.Ready db) :
    removal.deletion.Succeeds w fun _ w' =>
      w'.Ready (db.without removal) ∧ w.SameSurroundings w' := by
  have deleted : removal.deletion.Succeeds w fun _ w' => ∃ db', w'.Ready db' := by
    cases removal with
    | file path =>
      have text : ∀ v ∈ [Value.text path.toString], Action.fits v = true := by simp [Action.fits]
      have texts : ∀ v ∈ [Value.text path.toString, .text path.toString],
          Action.fits v = true := by simp [Action.fits]
      refine (Action.changeAndCommit_succeeds ⟨db, h⟩ ⟨rfl, rfl⟩ texts fun _ => rfl).bind
        fun _ w₁ ready₁ => ?_
      refine (Action.changeAndCommit_succeeds ready₁ ⟨rfl, rfl⟩ text fun _ => rfl).bind
        fun _ w₂ ready₂ => ?_
      exact Action.changeAndCommit_succeeds ready₂ ⟨rfl, rfl⟩ text fun _ => rfl
    | symbol id =>
      have held : inColumn id = true := fits id (Affected.mem_symbols_of.mpr List.mem_cons_self)
      have one : ∀ v ∈ [Value.int id], Action.fits v = true := by simpa [Action.fits] using held
      have two : ∀ v ∈ [Value.int id, .int id], Action.fits v = true := by
        simpa [Action.fits] using held
      refine (Action.changeAndCommit_succeeds ⟨db, h⟩ ⟨rfl, rfl⟩ two fun _ => rfl).bind
        fun _ w₁ ready₁ => ?_
      have last : (Graph.deleteSymbol id).Succeeds w₁ fun _ w' => ∃ db', w'.Ready db' :=
        (Action.changeAndCommit_succeeds ready₁ ⟨rfl, rfl⟩ one fun _ => rfl).bind
          fun _ _ ready₂ => .pure ready₂
      exact last.bind fun _ _ ready => .pure ready
  refine (deleted.ensured (removal.deletion_ensures h.isOpen)).mono ?_
  rintro _ w' ⟨⟨db', ready⟩, onward⟩
  exact ⟨ready.of_open onward.isOpen, onward.same⟩

/-! ## Derivations -/

/-- A column can hold the ids that the refresh is asked for, and those that were connected
before. -/
structure Refresh.Fits (refresh : Refresh) : Prop where
  seed : refresh.seed.Fits
  prior : refresh.prior.Fits

/-- Of a snapshot of an orderly graph a refresh derives a set whose ids a column can hold. -/
theorem Refresh.exists_derived (refresh : Refresh) (fits : refresh.Fits)
    (orderly : db.Orderly root) {A : Affected} {g : Snapshot} (shows : g.Shows A db disk root) :
    ∃ d, refresh.derive g = .ok d ∧ d.Fits := by
  have mirrors := shows.mirrors
  cases refresh with
  | file path prior =>
    obtain ⟨own, ho, fit⟩ : ∃ own, g.symbolsInFile path = .ok own ∧
        ∀ id ∈ own.map (·.id), inColumn id = true := by
      cases hf : g.files[path]? with
      | none => exact ⟨[], by rw [Snapshot.symbolsInFile, hf]; rfl, by simp⟩
      | some file =>
        obtain ⟨own, ho⟩ := mirrors.exists_symbolsInFile hf
        refine ⟨own, ho, fun id mem => ?_⟩
        rw [mirrors.symbolsInFile_ids hf ho] at mem
        obtain ⟨row, stored, _⟩ := ((mirrors.files path file hf).symbols id).mp mem
        exact (orderly.sound.symbol id row stored).1.2
    have fitSet : ∀ id ∈ ExtTreeSet.ofList (own.map (·.id)), inColumn id = true := by
      intro id mem
      exact fit id (List.contains_iff_mem.mp (ExtTreeSet.mem_ofList.mp mem))
    obtain ⟨d, hd, fitted⟩ := mirrors.exists_surrounded orderly.wired (.ofList [path]) fitSet
    exact ⟨d, Except.bind_eq_ok.mpr ⟨own, ho, hd⟩, fitted⟩
  | symbols ids => exact mirrors.exists_surrounded orderly.wired ∅ fits.seed
  | edges ends => exact ⟨_, rfl, fits.seed⟩

namespace Engine

open CodeGauge.Action World

/-! ## Rounds that come to an end -/

/-- Rounds that each end with a result or with a smaller bound on those that follow come to an end,
if there are more of them than the first bound. -/
theorem runRounds_copes {α : Type} {round : Round ω → Action ω (RoundEnd ω α)}
    {I : Nat → Round ω → World ω → Prop} {result : α → World ω → Prop}
    (step : ∀ n r w, I n r w →
      (round r).Copes w (RoundEnd.Meets (fun next w' => ∃ m < n, I m next w') result))
    (rounds : Nat) {n : Nat} {r : Round ω} {w : World ω} (h : I n r w) (enough : n < rounds) :
    (runRounds round rounds r).Copes w result := by
  induction rounds generalizing n r w with
  | zero => omega
  | succ rounds ih =>
    refine (step n r w h).bind fun e w' ended => ?_
    cases e with
    | again next =>
      obtain ⟨m, less, kept⟩ := ended
      exact ih kept (by omega)
    | done a => exact .pure ended

private theorem batchOf_storable {g : Snapshot} {A : Affected} (ready : w.Ready db)
    (orderly : db.Orderly root) (fit : A.Fits) (shows : g.Shows A db disk root) {a : Aggregate}
    (ha : g.aggregate A.files.toList A.symbols.toList now = .ok a)
    (files : ∀ row ∈ a.files, row.Storable) (symbols : ∀ row ∈ a.symbols, row.draft.Storable) :
    (batchOf a g A).Succeeds w fun batch w' => batch.Storable ∧
      (∀ d ∈ batch.symbolRows, ∃ id, d.symbolId = some id) ∧ w.Alike w' := by
  refine ((batchOf_replies shows.mirrors a A).reads (batchOf_reads shows.mirrors a A) ready).mono ?_
  rintro batch w₁ ⟨⟨fileRows, symbolRows, deletedFiles, deletedSymbols⟩, alike⟩
  have measures := measures_of_shows shows orderly.sound.normal ha
  have renews := renews_of_shows shows measures fileRows symbolRows deletedFiles deletedSymbols
  refine ⟨⟨fun id deleted => ?_, fun row mem => ?_, fun d mem => ?_⟩, fun d mem => ?_, alike⟩
  · rcases renews.symbol_deleted id deleted with ⟨asked, _⟩ | ⟨_, _, ⟨row, held, _⟩, _⟩
    · exact fit id asked
    · apply orderly.sound.symbolRow
      rw [ExtTreeMap.mem_iff_isSome_getElem?, held]
      rfl
  · rw [fileRows] at mem
    exact files row mem
  · rw [symbolRows] at mem
    obtain ⟨row, measured, rfl⟩ := List.mem_map.mp mem
    exact symbols row measured
  · obtain ⟨id, own, _⟩ := renews.symbol_row d mem
    exact ⟨id, own⟩

private theorem apply_orderly (ready : w.Ready db) (orderly : db.Orderly root) {batch : Batch}
    (storable : batch.Storable) (hasIds : ∀ d ∈ batch.symbolRows, ∃ id, d.symbolId = some id) :
    (MetricsStore.apply batch).Succeeds w fun _ w' =>
      ∃ db', w'.Ready db' ∧ db'.Orderly root ∧ w.SameSurroundings w' := by
  refine ((MetricsStore.apply_succeeds ready storable).ensured
    (MetricsStore.apply_sound ready.isOpen orderly.sound hasIds)).mono ?_
  rintro _ w' ⟨⟨_, ready'⟩, db', sound, graph, onward⟩
  exact ⟨db', ready'.of_open onward.isOpen, orderly.of_sameGraph sound graph, onward.same⟩

section Rounds

variable (E) (refresh : Refresh) (db after : Database) (root : Path) (w : World ω)
  (deletion : Option (Action ω Unit))

-- The tables that a round starts with: those before the deletion, while it is pending.
private def tablesOf (r : Round ω) : Database :=
  if r.deletion.isSome then db else after

-- Where a round starts that at most `n` more follow: the set closes, or it may grow once more, and
-- there are retries left.
private structure Nearing (n : Nat) (r : Round ω) (w₁ : World ω) : Prop where
  seeded : refresh.seed ⊆ r.affected
  held : r.prior ⊆ r.affected
  fit : r.affected.Fits
  nearly : refresh.NearlyCloses (tablesOf db after r) r.affected
  closes : E.maxRetries - r.retries < n ∨ refresh.Closes (tablesOf db after r) r.affected
  bound : E.maxRetries - r.retries ≤ n
  asked : r.deletion = none ∨ r.deletion = deletion
  ready : w₁.Ready (tablesOf db after r)
  same : w.SameSurroundings w₁

-- What the rounds end with: orderly tables.
private def Concluded (_ : Recomputation) (w' : World ω) : Prop :=
  ∃ db', w'.Ready db' ∧ db'.Orderly root ∧ w.SameSurroundings w'

variable {E refresh db after root w deletion}

private theorem Nearing.grow {n : Nat} {r : Round ω} {w₁ w₂ : World ω}
    (u : Nearing E refresh db after w deletion n r w₁) {tables : Database}
    (own : tablesOf db after r = tables) (normal : tables.Normal) {d : Affected}
    (derives : refresh.Derives tables r.affected d) (fit : d.Fits)
    (lacks : ¬d ∪ r.prior ⊆ r.affected) (ready : w₂.Ready tables) (same : w.SameSurroundings w₂) :
    ∃ m < n, Nearing E refresh db after w deletion m
      { r with affected := r.affected ∪ (d ∪ r.prior) } w₂ := by
  subst own
  have open? : E.maxRetries - r.retries < n := by
    refine u.closes.resolve_right fun closes => lacks ?_
    exact Affected.union_subset_iff.mpr ⟨closes d derives, u.held⟩
  have closes := derives.closes normal u.nearly u.held
  have wider : r.affected ⊆ r.affected ∪ (d ∪ r.prior) := Affected.subset_union_left _ _
  have held : r.prior.Fits := fun id mem => u.fit id ((Affected.subset_iff.mp u.held).2 id mem)
  refine ⟨n - 1, by omega, Affected.subset_trans u.seeded wider, Affected.subset_trans u.held wider,
    u.fit.union (fit.union held), closes.nearly, .inr closes, ?_, u.asked, ready, same⟩
  change E.maxRetries - r.retries ≤ n - 1
  omega

private theorem compute_copes (plain : E.loader = .plain root) (clock : w.clock = .ok now)
    (dated : inColumn now = true) (sized : w.disk.Sized) (orderly : after.Orderly root)
    (fits : refresh.Fits) {n : Nat} {r : Round ω} {w₁ : World ω}
    (u : Nearing E refresh db after w deletion n r w₁) (done : r.deletion = none) :
    (E.compute refresh.derive r).Copes w₁ (RoundEnd.Meets
      (fun next w' => ∃ m < n, Nearing E refresh db after w deletion m next w')
      (Concluded root w)) := by
  have notPending : tablesOf db after r = after := by rw [tablesOf, done]; rfl
  have ready := u.ready
  rw [notPending] at ready
  unfold compute
  rw [plain]
  refine (Snapshot.loadPart_copes ready orderly u.fit).bind ?_
  rintro g w₂ ⟨ready₂, shows, onward⟩
  rw [u.same.disk] at shows
  have same := u.same.trans onward.same
  obtain ⟨d, hd, fit⟩ := refresh.exists_derived fits orderly shows
  refine .given hd ?_
  dsimp only
  split
  · next lacks =>
    exact .pure (u.grow notPending orderly.sound.normal ⟨u.seeded, w.disk, root, g, shows, hd⟩ fit
      lacks ready₂ same)
  refine .after runIn_get (.given (same.clock.trans clock) ?_)
  obtain ⟨a, ha, files, symbols⟩ := shows.delivers orderly dated sized
  refine .given ha ?_
  split
  · next retry =>
    rw [shouldRetry, Bool.and_eq_true, decide_eq_true_eq] at retry
    have bound := u.bound
    refine .pure ⟨n - 1, by omega, u.seeded, u.held, u.fit, u.nearly, ?_, ?_, u.asked, ?_, same⟩
    · refine u.closes.imp_left fun more => ?_
      change E.maxRetries - (r.retries + 1) < n - 1
      omega
    · change E.maxRetries - (r.retries + 1) ≤ n - 1
      omega
    · change w₂.Ready (tablesOf db after r)
      rw [notPending]
      exact ready₂
  refine .of_succeeds
    ((batchOf_storable ready₂ orderly u.fit shows ha files symbols).bind ?_)
  rintro batch w₃ ⟨storable, hasIds, alike⟩
  refine (apply_orderly (alike.ready ready₂) orderly storable hasIds).bind ?_
  rintro _ w₄ ⟨db', ready', orderly', same'⟩
  exact .pure ⟨db', ready', orderly', (same.trans alike.sameSurroundings).trans same'⟩

private theorem round_copes (plain : E.loader = .plain root) (clock : w.clock = .ok now)
    (dated : inColumn now = true) (sized : w.disk.Sized) (orderly : db.Orderly root)
    (orderly' : after.Orderly root) (fits : refresh.Fits)
    (deletes : ∀ action, deletion = some action → (∀ A, refresh.seed ⊆ A → refresh.Closes after A) ∧
      ∀ w₁ : World ω, w₁.Ready db → action.Succeeds w₁ fun _ w' =>
        w'.Ready after ∧ w₁.SameSurroundings w')
    {n : Nat} {r : Round ω} {w₁ : World ω} (u : Nearing E refresh db after w deletion n r w₁) :
    (E.round refresh.derive r).Copes w₁ (RoundEnd.Meets
      (fun next w' => ∃ m < n, Nearing E refresh db after w deletion m next w')
      (Concluded root w)) := by
  unfold round
  cases hd : r.deletion with
  | none => exact compute_copes plain clock dated sized orderly' fits u hd
  | some action =>
    have pending : tablesOf db after r = db := by rw [tablesOf, hd]; rfl
    obtain ⟨closes, deletes⟩ := deletes action (by rw [← u.asked.resolve_left (by simp [hd]), hd])
    have ready := u.ready
    rw [pending] at ready
    rw [plain]
    refine (Snapshot.loadPart_copes ready orderly u.fit).bind ?_
    rintro g w₂ ⟨ready₂, shows, onward⟩
    rw [u.same.disk] at shows
    have same := u.same.trans onward.same
    obtain ⟨d, derived, fit⟩ := refresh.exists_derived fits orderly shows
    refine .given derived ?_
    dsimp only
    split
    · next lacks =>
      rw [← hd]
      exact .pure (u.grow pending orderly.sound.normal
        ⟨u.seeded, w.disk, root, g, shows, derived⟩ fit lacks ready₂ same)
    next covered =>
    rw [Classical.not_not] at covered
    refine (Copes.of_succeeds (deletes w₂ ready₂)).bind ?_
    rintro _ w₃ ⟨ready₃, same₃⟩
    have closed := closes r.affected u.seeded
    have next : Nearing E refresh db after w deletion n
        { r with prior := d ∪ r.prior, deletion := none } w₃ :=
      ⟨u.seeded, covered, u.fit, closed.nearly, .inr closed, u.bound, .inl rfl, ready₃,
        same.trans same₃⟩
    exact compute_copes plain clock dated sized orderly' fits next rfl

/-- A recomputation comes to an end, unless a statement would have to list too many values. -/
theorem recompute_copes (plain : E.loader = .plain root) (patient : 1 ≤ E.patience)
    (clock : w.clock = .ok now) (dated : inColumn now = true) (sized : w.disk.Sized)
    (orderly : db.Orderly root) (orderly' : after.Orderly root) (fits : refresh.Fits)
    (kept : deletion = none → after = db)
    (deletes : ∀ action, deletion = some action → (∀ A, refresh.seed ⊆ A → refresh.Closes after A) ∧
      ∀ w₁ : World ω, w₁.Ready db → action.Succeeds w₁ fun _ w' =>
        w'.Ready after ∧ w₁.SameSurroundings w')
    (ready : w.Ready db) :
    (E.recompute refresh.seed refresh.derive refresh.prior deletion).Copes w fun _ w' =>
      ∃ db', w'.Ready db' ∧ db'.Orderly root ∧ w.SameSurroundings w' := by
  have tables (affected prior : Affected) :
      tablesOf db after { affected, prior, deletion : Round ω } = db := by
    rw [tablesOf]
    cases deletion with
    | none => exact kept rfl
    | some action => rfl
  unfold recompute
  rw [plain]
  refine (Snapshot.loadPart_copes ready orderly fits.seed).bind ?_
  rintro g w₁ ⟨ready₁, shows, onward⟩
  obtain ⟨first, hfirst, fit⟩ := refresh.exists_derived fits orderly shows
  refine .given hfirst ?_
  have derives : refresh.Derives db refresh.seed first :=
    ⟨Affected.subset_refl _, _, _, g, shows, hfirst⟩
  have start := Affected.subset_union_left (refresh.seed ∪ refresh.prior) first
  refine runRounds_copes (fun n r w₂ u => round_copes plain clock dated sized orderly orderly' fits
    deletes u) E.maxRounds (n := E.maxRetries + 1) ?_ ?_
  · refine ⟨Affected.subset_trans (Affected.subset_union_left _ _) start,
      Affected.subset_trans (Affected.subset_union_right _ _) start,
      (fits.seed.union fits.prior).union fit, ?_, .inl (Nat.lt_succ_self _), Nat.le_succ _,
      .inr rfl, ?_, onward.same⟩
    · rw [tables]
      exact refresh.nearlyCloses orderly.sound.normal derives
    · rw [tables]
      exact ready₁
  · rw [maxRounds]
    omega

end Rounds

end Engine

/-! ## Calls -/

/-- A repository that serves tables of an orderly graph, at a time that a column can hold. -/
structure World.Orderly (w : World ω) (disk : Disk) (root : Path) (now : Int) : Prop where
  serves : ∃ db, w.Serves db disk ∧ db.Orderly root
  clock : w.clock = .ok now
  dated : inColumn now = true
  sized : disk.Sized

private theorem World.Orderly.updateAndCommit {α : Type} {statement : Statement}
    {values : List Value} {write : Database → Except DatabaseFault (α × Database)}
    (h : w.Orderly disk root now) (ordinary : statement.Ordinary)
    (kept : ∀ (db db' : Database) (a : α), db.Orderly root → (∀ v ∈ values, Action.fits v = true) →
      write db = .ok (a, db') → db'.Orderly root ∧ db'.dropped = db.dropped) :
    (Action.updateAndCommit statement values write).Ensures w fun _ w' =>
      w'.Orderly disk root now := by
  obtain ⟨⟨db, ⟨c, o, opened, ready, rfl⟩, orderly⟩, clock, dated, sized⟩ := h
  intro a w' run
  rw [Action.opens_updateAndCommit _ _ _ w o c opened] at run
  obtain ⟨db', written, onward⟩ := Action.updateAndCommit_ensures ready.isOpen _ _ _ a w' run
  have fit := Action.updateAndCommit_fits o _ _ _ a w' run
  obtain ⟨orderly', whole⟩ := kept db db' a orderly fit written
  obtain ⟨_, _, run', ready'⟩ := Action.updateAndCommit_succeeds ready ordinary fit written whole
  rw [run] at run'
  cases run'
  refine ⟨⟨db', ?_, orderly'⟩, ?_, dated, sized⟩
  · rw [← onward.same.disk]
    exact ready'.serves
  · exact onward.same.clock.trans ((Action.connection_ensures c o opened).2.1.trans clock)

/-- A repository stays orderly when a symbol is inserted that can be metered. -/
theorem Graph.insertSymbol_orderly (h : w.Orderly disk root now) (d : Symbol.Draft)
    (meterable : ∀ row, StoredRow.admit SymbolRow d.values = .ok row → row.Meterable root) :
    (insertSymbol d).Ensures w fun _ w' => w'.Orderly disk root now := by
  refine h.updateAndCommit ⟨rfl, rfl⟩ fun db db' id orderly fit inserted => ?_
  refine ⟨orderly.insertSymbol meterable fit inserted, ?_⟩
  obtain ⟨next, _, inserted⟩ := Except.bind_eq_ok.mp inserted
  obtain ⟨row, _, inserted⟩ := Except.bind_eq_ok.mp inserted
  cases inserted
  rfl

/-- A repository stays orderly when integers are joined by an edge, whether they are ids of stored
symbols or not. -/
theorem Graph.insertEdge_orderly (h : w.Orderly disk root now) (d : Edge.Draft)
    {caller callee : Int} (own : d.caller = .int caller) (other : d.callee = .int callee) :
    (insertEdge d).Ensures w fun _ w' => w'.Orderly disk root now := by
  refine h.updateAndCommit ⟨rfl, rfl⟩ fun db db' id orderly fit inserted => ?_
  refine ⟨orderly.insertEdge own other fit inserted, ?_⟩
  obtain ⟨next, _, inserted⟩ := Except.bind_eq_ok.mp inserted
  obtain ⟨row, _, inserted⟩ := Except.bind_eq_ok.mp inserted
  cases inserted
  rfl

/-- A call of the engine. -/
inductive Operation where
  | refresh (refresh : Refresh)
  | refreshFiles (paths : List Path)
  | removal (removal : Removal)
  | backfill

namespace Operation

/-- Make the call, which gives statistics. -/
def run (E : Engine ω) : Operation → Action ω Stats
  | refresh r => do return (← r.run E).stats
  | refreshFiles paths => E.refreshFiles paths
  | removal r => do return (← r.run E).stats
  | backfill => do return (← E.backfill).stats

/-- A column can hold the ids that the call is given. -/
def Fits : Operation → Prop
  | refresh r => r.Fits
  | refreshFiles _ => True
  | removal r => r.Fits
  | backfill => True

end Operation

open CodeGauge.Action (Copes)

private theorem Engine.recompute_orderly (plain : E.loader = .plain root)
    (patient : 1 ≤ E.patience) (h : w.Orderly disk root now) (refresh : Refresh)
    (fits : refresh.Fits) (deletion : Option Removal)
    (deletes : ∀ removal, deletion = some removal → removal.Fits ∧ removal.refresh = refresh) :
    (E.recompute refresh.seed refresh.derive refresh.prior (deletion.map (·.deletion))).Copes w
      fun _ w' => w'.Orderly disk root now := by
  obtain ⟨⟨db, ⟨c, o, opened, ready, rfl⟩, orderly⟩, clock, dated, sized⟩ := h
  have onTime : o.clock = .ok now := (Action.connection_ensures c o opened).2.1.trans clock
  refine .of_opens (opens_recompute plain _ _ _) opened ?_
  have orderly' : (deletion.elim db db.without).Orderly root := by
    cases deletion with
    | none => exact orderly
    | some removal => exact orderly.without removal
  refine (recompute_copes plain patient onTime dated sized orderly orderly' fits ?_ ?_
    ready).mono ?_
  · intro none
    rw [Option.map_eq_none_iff.mp none]
    rfl
  · intro action same
    obtain ⟨removal, rfl, rfl⟩ := Option.map_eq_some_iff.mp same
    obtain ⟨held, rfl⟩ := deletes removal rfl
    exact ⟨fun A start => removal.closes start,
      fun w₁ ready => removal.deletion_succeeds held ready⟩
  · rintro _ w' ⟨db', ready', orderly, same⟩
    refine ⟨⟨db', ?_, orderly⟩, same.clock.trans onTime, dated, sized⟩
    rw [← same.disk]
    exact ready'.serves

section Calls

variable (plain : E.loader = .plain root) (patient : 1 ≤ E.patience)
  (h : w.Orderly disk root now)
include plain patient h

private theorem Refresh.run_copes (refresh : Refresh) (fits : refresh.Fits) :
    (refresh.run E).Copes w fun _ w' => w'.Orderly disk root now := by
  rw [Refresh.run_eq]
  exact Engine.recompute_orderly plain patient h refresh fits none nofun

private theorem Removal.run_copes (removal : Removal) (fits : removal.Fits) :
    (removal.run E).Copes w fun _ w' => w'.Orderly disk root now := by
  have fits' : removal.refresh.Fits := by
    cases removal with
    | file path => exact ⟨fits, nofun⟩
    | symbol id => exact ⟨fits, nofun⟩
  rw [removal.run_eq_recompute]
  refine Engine.recompute_orderly plain patient h removal.refresh fits' (some removal) ?_
  intro _ same
  cases same
  exact ⟨fits, rfl⟩

private theorem Engine.refreshFiles_copes (paths : List Path) :
    (E.refreshFiles paths).Copes w fun _ w' => w'.Orderly disk root now := by
  have folded (stats : Stats) : (paths.foldlM (fun (stats : Stats) path => do
      return stats.merge (← E.refreshFile path ∅).stats) stats).Copes w
        fun _ w' => w'.Orderly disk root now := by
    induction paths generalizing w stats with
    | nil => exact .pure h
    | cons path paths ih =>
      rw [List.foldlM_cons, bind_assoc]
      have fits : (Refresh.file path ∅).Fits := ⟨nofun, nofun⟩
      refine ((Refresh.file path ∅).run_copes plain patient h fits).bind fun r w₁ h₁ => ?_
      rw [pure_bind]
      exact ih h₁ _
  exact folded {}

omit patient in
private theorem Engine.backfill_copes (few : w.ListsFew) : E.backfill.Copes w fun _ _ => True := by
  obtain ⟨⟨db, serves, orderly⟩, clock, dated, sized⟩ := h
  by_cases small : db.fileCount ≤ w.capacity.listed
  · have steady : ∀ i n : Nat, Steady (pure () : Action ω Unit) := fun _ _ w => ⟨w.others, rfl⟩
    exact .of_succeeds (backfill_succeeds plain serves clock dated orderly.sound sized steady
      ⟨orderly.meterable, small⟩)
  · obtain ⟨c, o, opened, ready, _⟩ := serves
    refine .of_opens (opens_backfill plain) opened ?_
    rw [← (Action.connection_ensures c o opened).2.2] at small
    unfold backfill
    rw [plain]
    refine ((Snapshot.loadAll_copes ready orderly).ensured (Snapshot.loadAll_lists ready.isOpen
      (Action.connection_listsFew few c o opened) orderly.sound.normal)).bind ?_
    rintro g o₁ ⟨_, within⟩
    exact absurd within small

end Calls

namespace Operation

/-- On a repository with an orderly graph, with ids that a column can hold, a call gives statistics,
or else it gives a report: the graph could not be read, since a statement would have to list too
many values. It never fails otherwise. -/
theorem returns_or_reports (plain : E.loader = .plain root) (patient : 1 ≤ E.patience)
    (few : w.ListsFew) (h : w.Orderly disk root now) (operation : Operation)
    (fits : operation.Fits) :
    (∃ stats, ((operation.run E).runIn w).1 = .ok stats) ∨
      ∃ e, ((operation.run E).runIn w).1 = .error e ∧ e.isReported = true ∧
        e = .graphUnreadable .tooManyValues := by
  have copes : (operation.run E).Copes w fun _ _ => True := by
    cases operation with
    | refresh r => exact (r.run_copes plain patient h fits).bind fun _ _ _ => .pure trivial
    | refreshFiles paths =>
      exact (Engine.refreshFiles_copes plain patient h paths).mono fun _ _ _ => trivial
    | removal r => exact (r.run_copes plain patient h fits).bind fun _ _ _ => .pure trivial
    | backfill => exact (Engine.backfill_copes plain h few).bind fun _ _ _ => .pure trivial
  rcases run : (operation.run E).runIn w with ⟨r, w'⟩
  cases r with
  | ok stats => exact .inl ⟨stats, rfl⟩
  | error e =>
    have same := copes.2 e w' run
    exact .inr ⟨e, rfl, by rw [same]; rfl, same⟩

end Operation

/-! ## A graph with an edge

The first function of the small repository calls one in a file that is not on the disk. -/

namespace Sample

/-- The call, as offered for insertion. -/
def offeredCall : Edge.Draft := ⟨.int 1, .int 2, .int 1, .call⟩

/-- The tables with both functions and the call. -/
def linked : Database :=
  { insertedIn "c" with
    edges := (∅ : ExtTreeMap Int EdgeRow).insert 1 ⟨.int 1, .int 2, .int 1, some "call"⟩
    lastEdge := 1 }

/-- The call gets the first id. -/
theorem insertEdge_offered :
    (insertedIn "c").insertEdge offeredCall.values = .ok (1, linked) := by
  have id : Database.nextId (insertedIn "c").edges 0 = .ok 1 := by
    apply Database.nextId_of_le (by decide) _ (by decide)
    intro id mem
    exact (ExtTreeMap.not_mem_empty mem).elim
  have row : StoredRow.admit EdgeRow offeredCall.values =
      .ok ⟨.int 1, .int 2, .int 1, some "call"⟩ := by decide +kernel
  exact Except.bind_eq_ok.mpr ⟨1, id, Except.bind_eq_ok.mpr ⟨_, row, rfl⟩⟩

private theorem linked_orderly : linked.Orderly Sample.root := by
  have reached : (insertedIn "c").Reached := insertedIn_reached (by decide +kernel)
  have meterable : (insertedIn "c").Meterable Sample.root ⟨999, Nat.le_refl 999⟩ := by
    decide +kernel
  have before : (insertedIn "c").Orderly Sample.root := ⟨reached.sound, .empty, meterable.symbol⟩
  exact before.insertEdge rfl rfl (by decide) insertEdge_offered

private theorem world_orderly {db : Database} (none : db.dropped = [])
    (orderly : db.Orderly Sample.root) : (world db).Orderly Sample.disk Sample.root 100 :=
  ⟨⟨db, world_serves none, orderly⟩, rfl, by decide, disk_sized⟩

/-- The removal of the sample can be asked for. -/
theorem removal_fits : (Removal.symbol 1).Fits :=
  Removal.fits_symbol rfl

end Sample

namespace Operation

/-- The removal of a stored symbol gives statistics or a reported error. -/
theorem sample_returns_or_reports :
    (∃ stats, (((removal (.symbol 1)).run Sample.engine).runIn (Sample.world Sample.linked)).1 =
        .ok stats) ∨
      ∃ e, (((removal (.symbol 1)).run Sample.engine).runIn (Sample.world Sample.linked)).1 =
        .error e ∧ e.isReported = true ∧ e = .graphUnreadable .tooManyValues :=
  returns_or_reports rfl (by decide) (Sample.world_listsFew _)
    (Sample.world_orderly rfl Sample.linked_orderly) (removal (.symbol 1)) Sample.removal_fits

/-- The first id that no column can hold fails a refresh of symbols with an error that is no report,
and it does so in a repository without a symbol, file or edge. -/
theorem sample_unreported :
    (Sample.world {}).Orderly Sample.disk Sample.root 100 ∧
      (((refresh (.symbols (ExtTreeSet.ofList [(0x8000000000000000 : Int)]))).run
        Sample.engine).runIn (Sample.world {})).1 = .error .beyondColumn ∧
      Error.isReported .beyondColumn = false := by
  have orderly : ({} : Database).Orderly Sample.root := by
    refine ⟨.empty, .empty, fun id row stored => ?_⟩
    simp at stored
  exact ⟨Sample.world_orderly rfl orderly, by decide +kernel, rfl⟩

end Operation

end CodeGauge
