import CodeGauge.Proofs.Engine.Removal

/-!
# What the removal of a symbol takes away

The removal of a symbol takes away the symbol and every edge that has it as an end. So each count of
a row that ought to be there shrinks by the number of edges that it had in common with the symbol:
of another symbol by those that join the two, of another file by those that join the symbol to one
of the file's, and of the symbol's own file by those that join the symbol to a stored one elsewhere.
Exact tables are exact again after a removal, so their rows shrink by just these numbers.
-/

open Std

namespace CodeGauge

variable {ω : Type} {E : Engine ω} {w w' : World ω} {db db' : Database} {disk : Disk} {root : Path}

/-! ## Lowered rows -/

/-- The second row has so many edges less than the first, and may have another time. -/
structure SymbolMetricsRow.Lowered (fanIn fanOut : Nat) (before after : SymbolMetricsRow) :
    Prop where
  fanIn : ∃ n : Int, before.fanIn = .int n ∧ after.fanIn = .int (n - fanIn)
  fanOut : ∃ n : Int, before.fanOut = .int n ∧ after.fanOut = .int (n - fanOut)
  rest : { after with
    fanIn := before.fanIn, fanOut := before.fanOut, lastUpdated := before.lastUpdated } = before

/-- The second row has so many symbols and edges less than the first and the score of its own
fields, and may have another time. -/
structure FileMetricsRow.Lowered (symbols fanIn fanOut : Nat) (before after : FileMetricsRow) :
    Prop where
  symbolCount : ∃ n : Int, before.symbolCount = .int n ∧ after.symbolCount = .int (n - symbols)
  fanIn : ∃ n : Int, before.fanIn = .int n ∧ after.fanIn = .int (n - fanIn)
  fanOut : ∃ n : Int, before.fanOut = .int n ∧ after.fanOut = .int (n - fanOut)
  score : ∃ lines into out : Int, after.loc = .int lines ∧ after.fanIn = .int into ∧
    after.fanOut = .int out ∧ after.score = .real (scoreOf lines into out)
  rest : { after with
    symbolCount := before.symbolCount, fanIn := before.fanIn, fanOut := before.fanOut,
    score := before.score, lastUpdated := before.lastUpdated } = before

private theorem SymbolMetricsRow.Lowered.of_undated {fanIn fanOut : Nat}
    {before after : SymbolMetricsRow}
    (h : Lowered fanIn fanOut before.undated after.undated) :
    Lowered fanIn fanOut before after := by
  refine ⟨h.fanIn, h.fanOut, ?_⟩
  have rest := h.rest
  cases before
  cases after
  simp_all [undated]

private theorem FileMetricsRow.Lowered.of_undated {symbols fanIn fanOut : Nat}
    {before after : FileMetricsRow}
    (h : Lowered symbols fanIn fanOut before.undated after.undated) :
    Lowered symbols fanIn fanOut before after := by
  refine ⟨h.symbolCount, h.fanIn, h.fanOut, h.score, ?_⟩
  have rest := h.rest
  cases before
  cases after
  simp_all [undated]

/-- What is so of rows without their times is so of the rows, if the times make no difference. -/
theorem rel_of_map {α : Type} {u : α → α} {R : α → α → Prop} (drop : ∀ a b, R (u a) (u b) → R a b)
    {o o' : Option α} (h : Option.Rel R (o.map u) (o'.map u)) : Option.Rel R o o' := by
  cases o with
  | none =>
    cases o' with
    | none => exact .none
    | some b => cases h
  | some a =>
    cases o' with
    | none => cases h
    | some b =>
      cases h with
      | some both => exact .some (drop a b both)

/-- A file ought to have a row with so many symbols and edges less as it has lost, if it has not
lost all of its symbols. -/
theorem Database.fileReference_lowered {file : String} {symbols into out : Nat}
    (left : db.symbolCount file = 0 ↔ db'.symbolCount file = 0)
    (count : db'.symbolCount file + symbols = db.symbolCount file)
    (enters : db'.edgeCount (db'.entersFile file) + into = db.edgeCount (db.entersFile file))
    (leaves : db'.edgeCount (db'.leavesFile file) + out = db.edgeCount (db.leavesFile file)) :
    Option.Rel (FileMetricsRow.Lowered symbols into out) (db.fileReference disk root file)
      (db'.fileReference disk root file) := by
  rw [fileReference, fileReference]
  by_cases none : db.symbolCount file = 0
  · rw [if_pos none, if_pos (left.mp none)]
    exact .none
  rw [if_neg none, if_neg (mt left.mpr none)]
  cases contentOf? disk root file with
  | none => exact .none
  | some content =>
    refine .some ⟨⟨_, rfl, ?_⟩, ⟨_, rfl, ?_⟩, ⟨_, rfl, ?_⟩, ⟨_, _, _, rfl, rfl, rfl, rfl⟩, rfl⟩
    · rw [Value.int.injEq, ← count]
      omega
    · rw [Value.int.injEq, ← enters]
      omega
    · rw [Value.int.injEq, ← leaves]
      omega

/-! ## What is counted -/

/-- The edge leads from the one symbol to the other. -/
def EdgeRow.leads (i j : Int) (e : EdgeRow) : Bool :=
  e.caller.id? == some i && e.callee.id? == some j

namespace Database

/-- The edge leads from the symbol to a symbol of the file. -/
def leadsInto (db : Database) (id : Int) (file : String) (e : EdgeRow) : Bool :=
  e.caller.id? == some id && db.fileOf? e.callee == some file

/-- The edge leads from a symbol of the file to the symbol. -/
def leadsFrom (db : Database) (file : String) (id : Int) (e : EdgeRow) : Bool :=
  db.fileOf? e.caller == some file && e.callee.id? == some id

/-- The edge leads to the symbol from a stored symbol outside of the file. -/
def arrives (db : Database) (id : Int) (file : String) (e : EdgeRow) : Bool :=
  e.callee.id? == some id && (db.fileOf? e.caller).any (· != file)

/-- The edge leads from the symbol to a stored symbol outside of the file. -/
def departs (db : Database) (id : Int) (file : String) (e : EdgeRow) : Bool :=
  e.caller.id? == some id && (db.fileOf? e.callee).any (· != file)

end Database

namespace Removal

variable {removal : Removal}

/-- Whether a removal takes an end of the edge away. -/
def takesEdge (db : Database) (removal : Removal) (e : EdgeRow) : Bool :=
  removal.takesEnd db e.caller || removal.takesEnd db e.callee

/-- The end of an edge that is left lies where it was. -/
theorem fileOf?_without (v : Value) :
    (db.without removal).fileOf? v = if removal.takesEnd db v then none else db.fileOf? v := by
  rw [Database.fileOf?, Database.fileOf?, takesEnd]
  cases v.id? with
  | none => rfl
  | some id =>
    rw [Option.bind_some, Option.bind_some, symbols_without, Option.any_some]
    split <;> rfl

/-- The edges that are counted after a removal and those that were lost are those that were counted
before, if the lost ones are what was counted among the edges that are taken away. -/
theorem edgeCount_without {p q lost : EdgeRow → Bool}
    (taken : ∀ e, lost e = (removal.takesEdge db e && p e))
    (kept : ∀ e, removal.takesEdge db e = false → q e = p e) :
    (db.without removal).edgeCount q + db.edgeCount lost = db.edgeCount p := by
  have left : (db.without removal).edgeCount q =
      db.edgeCount fun e => !removal.takesEdge db e && p e := by
    apply Database.countP_toList_eq (p := q) (q := fun e => !removal.takesEdge db e && p e)
    refine fun n => exists_congr fun e => ?_
    rw [edges_without, Bool.and_eq_true, Bool.not_eq_true', takesEdge, Bool.or_eq_false_iff]
    constructor
    · rintro ⟨⟨held, ends⟩, counted⟩
      rw [kept e (Bool.or_eq_false_iff.mpr ends)] at counted
      exact ⟨held, ends, counted⟩
    · rintro ⟨held, ends, counted⟩
      rw [← kept e (Bool.or_eq_false_iff.mpr ends)] at counted
      exact ⟨⟨held, ends⟩, counted⟩
  rw [left, Nat.add_comm]
  simp only [Database.edgeCount, taken]
  rw [List.countP_eq_countP_filter_add (db.edges.toList) (fun x => p x.2)
    fun x => removal.takesEdge db x.2, List.countP_filter, List.countP_filter]
  simp only [Bool.and_comm]

/-! ## What is counted without a symbol -/

section Symbol

variable {s : Int} {own : SymbolRow} (stored : db.symbols[s]? = some own)
include stored

private theorem fileOf?_of_id {v : Value} (hv : v.id? = some s) :
    db.fileOf? v = some own.file := by
  rw [Database.fileOf?, hv, Option.bind_some, stored, Option.map_some]

private theorem edgeCount_without_symbol {P : Option String → Option String → EdgeRow → Bool}
    {lost : EdgeRow → Bool}
    (taken : ∀ e, (e.caller.id? = some s → db.fileOf? e.caller = some own.file) →
      (e.callee.id? = some s → db.fileOf? e.callee = some own.file) →
      (lost e ↔ (e.caller.id? = some s ∨ e.callee.id? = some s) ∧
        P (db.fileOf? e.caller) (db.fileOf? e.callee) e)) :
    ((db.without (symbol s)).edgeCount fun e => P ((db.without (symbol s)).fileOf? e.caller)
        ((db.without (symbol s)).fileOf? e.callee) e) + db.edgeCount lost =
      db.edgeCount fun e => P (db.fileOf? e.caller) (db.fileOf? e.callee) e := by
  refine edgeCount_without (fun e => ?_) fun e left => ?_
  · rw [Bool.eq_iff_iff, taken e (fileOf?_of_id stored) (fileOf?_of_id stored), takesEdge,
      takesEnd_symbol, takesEnd_symbol]
    simp
  · obtain ⟨caller, callee⟩ := Bool.or_eq_false_iff.mp left
    rw [fileOf?_without, fileOf?_without, caller, callee]
    rfl

/-- Another symbol loses the edges into it that come from the symbol. -/
theorem entersSymbol_without {t : Int} (other : t ≠ s) :
    (db.without (symbol s)).edgeCount ((db.without (symbol s)).entersSymbol t) +
      db.edgeCount (EdgeRow.leads s t) = db.edgeCount (db.entersSymbol t) := by
  refine edgeCount_without_symbol stored (P := fun caller _ e =>
    e.callee.id? == some t && e.caller.id? != some t && caller.isSome) fun e caller callee => ?_
  simp only [EdgeRow.leads, Bool.and_eq_true, beq_iff_eq, bne_iff_ne]
  grind

/-- Another symbol loses the edges from it that lead to the symbol. -/
theorem leavesSymbol_without {t : Int} (other : t ≠ s) :
    (db.without (symbol s)).edgeCount ((db.without (symbol s)).leavesSymbol t) +
      db.edgeCount (EdgeRow.leads t s) = db.edgeCount (db.leavesSymbol t) := by
  refine edgeCount_without_symbol stored (P := fun _ callee e =>
    e.caller.id? == some t && e.callee.id? != some t && callee.isSome) fun e caller callee => ?_
  simp only [EdgeRow.leads, Bool.and_eq_true, beq_iff_eq, bne_iff_ne]
  grind

/-- Another file loses the edges into it that come from the symbol. -/
theorem entersFile_without {file : String} (other : file ≠ own.file) :
    (db.without (symbol s)).edgeCount ((db.without (symbol s)).entersFile file) +
      db.edgeCount (db.leadsInto s file) = db.edgeCount (db.entersFile file) := by
  refine edgeCount_without_symbol stored (P := fun caller callee _ =>
    callee == some file && caller.any (· != file)) fun e caller callee => ?_
  simp only [Database.leadsInto, Bool.and_eq_true, beq_iff_eq, bne_iff_ne, Option.any_eq_true]
  grind

/-- Another file loses the edges from it that lead to the symbol. -/
theorem leavesFile_without {file : String} (other : file ≠ own.file) :
    (db.without (symbol s)).edgeCount ((db.without (symbol s)).leavesFile file) +
      db.edgeCount (db.leadsFrom file s) = db.edgeCount (db.leavesFile file) := by
  refine edgeCount_without_symbol stored (P := fun caller callee _ =>
    caller == some file && callee.any (· != file)) fun e caller callee => ?_
  simp only [Database.leadsFrom, Bool.and_eq_true, beq_iff_eq, bne_iff_ne, Option.any_eq_true]
  grind

/-- The symbol's own file loses the edges into the symbol that come from elsewhere. -/
theorem entersFile_without_own :
    (db.without (symbol s)).edgeCount ((db.without (symbol s)).entersFile own.file) +
      db.edgeCount (db.arrives s own.file) = db.edgeCount (db.entersFile own.file) := by
  refine edgeCount_without_symbol stored (P := fun caller callee _ =>
    callee == some own.file && caller.any (· != own.file)) fun e caller callee => ?_
  simp only [Database.arrives, Bool.and_eq_true, beq_iff_eq, bne_iff_ne, Option.any_eq_true]
  grind

/-- The symbol's own file loses the edges from the symbol that lead elsewhere. -/
theorem leavesFile_without_own :
    (db.without (symbol s)).edgeCount ((db.without (symbol s)).leavesFile own.file) +
      db.edgeCount (db.departs s own.file) = db.edgeCount (db.leavesFile own.file) := by
  refine edgeCount_without_symbol stored (P := fun caller callee _ =>
    caller == some own.file && callee.any (· != own.file)) fun e caller callee => ?_
  simp only [Database.departs, Bool.and_eq_true, beq_iff_eq, bne_iff_ne, Option.any_eq_true]
  grind

/-- The symbol's own file loses one symbol, and every other file none. -/
theorem symbolCount_without (file : String) :
    (db.without (symbol s)).symbolCount file + (if own.file = file then 1 else 0) =
      db.symbolCount file := by
  have perm : db.symbols.toList.Perm ((s, own) :: (db.without (symbol s)).symbols.toList) := by
    refine (List.perm_ext_iff_of_nodup (nodup_entries _)
      (List.nodup_cons.mpr ⟨?_, nodup_entries _⟩)).mpr ?_
    · rw [ExtTreeMap.mem_toList_iff_getElem?_eq_some, symbols_without, takes, if_pos (by simp)]
      exact fun absent => Option.some_ne_none own absent.symm
    · rintro ⟨id, row⟩
      rw [List.mem_cons, ExtTreeMap.mem_toList_iff_getElem?_eq_some,
        ExtTreeMap.mem_toList_iff_getElem?_eq_some, symbols_without, takes]
      by_cases same : id = s
      · subst same
        rw [stored]
        simp [eq_comm]
      · simp [same]
  rw [Database.symbolCount, Database.symbolCount, perm.countP_eq, List.countP_cons]
  simp only [beq_iff_eq]

/-! ## Rows that ought to be there -/

/-- Another symbol ought to have a row with the edges less that join it to the symbol. -/
theorem symbolReference_without {t : Int} (other : t ≠ s) :
    Option.Rel (SymbolMetricsRow.Lowered (db.edgeCount (EdgeRow.leads s t))
        (db.edgeCount (EdgeRow.leads t s)))
      (db.symbolReference t) ((db.without (symbol s)).symbolReference t) := by
  have same : (db.without (symbol s)).symbols[t]? = db.symbols[t]? := by
    rw [symbols_without, takes, if_neg (by simpa using other)]
  rw [Database.symbolReference, Database.symbolReference, same]
  cases db.symbols[t]? with
  | none => exact .none
  | some row =>
    refine .some ⟨⟨_, rfl, ?_⟩, ⟨_, rfl, ?_⟩, rfl⟩
    · rw [Value.int.injEq, ← entersSymbol_without stored other]
      omega
    · rw [Value.int.injEq, ← leavesSymbol_without stored other]
      omega

/-- Another file ought to have a row with the edges less that join it to the symbol. -/
theorem fileReference_without_other {file : String} (other : file ≠ own.file) :
    Option.Rel (FileMetricsRow.Lowered 0 (db.edgeCount (db.leadsInto s file))
        (db.edgeCount (db.leadsFrom file s)))
      (db.fileReference disk root file) ((db.without (symbol s)).fileReference disk root file) := by
  have count := symbolCount_without stored file
  rw [if_neg other.symm] at count
  exact Database.fileReference_lowered (by omega) count (entersFile_without stored other)
    (leavesFile_without stored other)

/-- The symbol's own file ought to have a row with one symbol less, and with the edges less that
joined the symbol to other files, unless the symbol was its only one. -/
theorem fileReference_without_own (more : db.symbolCount own.file ≠ 1) :
    Option.Rel (FileMetricsRow.Lowered 1 (db.edgeCount (db.arrives s own.file))
        (db.edgeCount (db.departs s own.file)))
      (db.fileReference disk root own.file)
      ((db.without (symbol s)).fileReference disk root own.file) := by
  have count := symbolCount_without stored own.file
  rw [if_pos rfl] at count
  exact Database.fileReference_lowered (by omega) count (entersFile_without_own stored)
    (leavesFile_without_own stored)

end Symbol

end Removal

/-! ## Stored rows -/

/-- The first tables lose a symbol of a file to become the second: the symbol has no row, and every
other row has lost the symbol and the edges that it had in common with it. A file that has lost its
only symbol has no row. -/
structure Database.Loses (db db' : Database) (s : Int) (file : String) : Prop where
  gone : db'.symbolMetrics[s]? = none
  symbols : ∀ t, t ≠ s →
    Option.Rel (SymbolMetricsRow.Lowered (db.edgeCount (EdgeRow.leads s t))
        (db.edgeCount (EdgeRow.leads t s)))
      db.symbolMetrics[t]? db'.symbolMetrics[t]?
  files : ∀ other, other ≠ file →
    Option.Rel (FileMetricsRow.Lowered 0 (db.edgeCount (db.leadsInto s other))
        (db.edgeCount (db.leadsFrom other s)))
      db.fileMetrics[other]? db'.fileMetrics[other]?
  own : db.symbolCount file ≠ 1 →
    Option.Rel (FileMetricsRow.Lowered 1 (db.edgeCount (db.arrives s file))
        (db.edgeCount (db.departs s file)))
      db.fileMetrics[file]? db'.fileMetrics[file]?
  emptied : db.symbolCount file = 1 → db'.fileMetrics[file]? = none
  pathless : db'.pathlessMetrics = db.pathlessMetrics

/-- Exact tables that are exact again without a symbol have lost it. -/
theorem Database.Exact.loses {s : Int} {own : SymbolRow} (exact : db.Exact disk root)
    (stored : db.symbols[s]? = some own) (graph : (db.without (.symbol s)).SameGraph db')
    (exact' : db'.Exact disk root) : db.Loses db' s own.file := by
  have symbols (t : Int) : (db'.symbolMetrics[t]?).map (·.undated) =
      (db.without (.symbol s)).symbolReference t := by
    rw [exact'.symbols, graph.symbolReference_eq]
  have files (file : String) : (db'.fileMetrics[file]?).map (·.undated) =
      (db.without (.symbol s)).fileReference disk root file := by
    rw [exact'.files, graph.fileReference_eq]
  refine ⟨?_, fun t other => ?_, fun file other => ?_, fun more => ?_, fun last => ?_, ?_⟩
  · have gone : (db.without (.symbol s)).symbols[s]? = none := by
      rw [Removal.symbols_without, Removal.takes, if_pos (by simp)]
    have none := symbols s
    rw [symbolReference_eq_none.mpr gone, Option.map_eq_none_iff] at none
    exact none
  · apply rel_of_map (u := SymbolMetricsRow.undated) fun _ _ => SymbolMetricsRow.Lowered.of_undated
    rw [exact.symbols, symbols]
    exact Removal.symbolReference_without stored other
  · apply rel_of_map (u := FileMetricsRow.undated) fun _ _ => FileMetricsRow.Lowered.of_undated
    rw [exact.files, files]
    exact Removal.fileReference_without_other stored other
  · apply rel_of_map (u := FileMetricsRow.undated) fun _ _ => FileMetricsRow.Lowered.of_undated
    rw [exact.files, files]
    exact Removal.fileReference_without_own stored more
  · have count := Removal.symbolCount_without stored own.file
    rw [if_pos rfl, last] at count
    have none := files own.file
    rw [fileReference, if_pos (by omega), Option.map_eq_none_iff] at none
    exact none
  · rw [exact.pathless, exact'.pathless]

namespace Removal

/-- The removal of a symbol that returns without errors, while nothing else changes the tables or
the disk, takes the symbol out of exact tables and lowers the other rows by just what it had in
common with them. -/
theorem run_loses (plain : E.loader = .plain root) (shows : w.Shows db disk) (normal : db.Normal)
    (exact : db.Exact disk root) {s : Int} {own : SymbolRow}
    (stored : db.symbols[s]? = some own) {r : Recomputation}
    (run : (E.removeSymbol s).runIn w = (.ok r, w')) (noErrors : r.stats.errors = []) :
    ∃ db', w'.Shows db' disk ∧ (db.without (.symbol s)).SameGraph db' ∧
      db.Loses db' s own.file := by
  obtain ⟨db', prior, held, made, shows'⟩ := (symbol s).run_ensures plain shows normal r w' run
  obtain ⟨_, _, within⟩ := made.derived
  obtain ⟨now, _, renewed⟩ := made.renewed
  have near := ((symbol s).surrounds normal held).mono (Affected.union_subset_iff.mp within).2
  have exact' : db'.Exact disk root :=
    (symbol s).agreesOutside.exact near ((symbol s).surrounds_without _) exact renewed
      (fun _ _ => rfl) (made.current noErrors)
  exact ⟨db', shows', renewed.graph, exact.loses stored renewed.graph exact'⟩

/-- Without the first function of the small repository, no edge leads into the second. -/
theorem sample_loses :
    ∃ r w' db', (Sample.engine.removeSymbol 1).runIn (Sample.world Sample.metered) = (.ok r, w') ∧
      r.stats.errors = [] ∧ w'.Shows db' Sample.disk ∧
      Sample.metered.Loses db' 1 "a" ∧ db'.fileMetrics["a"]? = none ∧
      Sample.metered.edgeCount (EdgeRow.leads 1 2) = 1 := by
  have returns : ((Sample.engine.removeSymbol 1).runIn
      (Sample.world Sample.metered)).1.toOption.map (·.stats.errors) = some [] := by
    decide +kernel
  have normal : Sample.metered.Normal := by decide +kernel
  have exact : Sample.metered.Exact Sample.disk Sample.root := by decide +kernel
  have stored : Sample.metered.symbols[(1 : Int)]? = some (Sample.function "f" "a") := by
    decide +kernel
  rcases run : (Sample.engine.removeSymbol 1).runIn (Sample.world Sample.metered) with
    ⟨e | r, w'⟩
  · rw [run] at returns
    cases returns
  · rw [run] at returns
    have noErrors : r.stats.errors = [] := Option.some.inj returns
    obtain ⟨db', shows, _, loses⟩ :=
      run_loses rfl (Sample.world_shows Sample.metered) normal exact stored run noErrors
    exact ⟨r, w', db', rfl, noErrors, shows, loses, loses.emptied (by decide +kernel),
      by decide +kernel⟩

end Removal

end CodeGauge
