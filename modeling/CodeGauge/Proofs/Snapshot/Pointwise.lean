import CodeGauge.Proofs.Snapshot.Assembly
import CodeGauge.Proofs.Snapshot.Settling

/-!
# Aggregates entity by entity

An aggregate consists of what the snapshot gives for each entity alone: the rows of the files in
path order, the rows of the symbols in order of id, and the errors of the others
(`Aggregate.IsPointwise`). So nothing that was asked for is lost, and to ask for more changes
nothing of it. An aggregate is refused only because of an entity whose size cannot be computed
(`Snapshot.Measurable`): that error is no report, so it ends the whole computation
(`Snapshot.aggregate_pointwise`).
-/

open Std

namespace CodeGauge

variable {g : Snapshot} {files files' : List Path} {symbols symbols' : List Int} {now : Int}

/-! ## Requests -/

/-- The lines and the cheap size of the symbol can be computed. -/
def Symbol.HasSize (s : Symbol) : Prop :=
  (∃ lines, s.lineCount = .ok lines) ∧
    ∃ bytes size, s.byteCount = .ok bytes ∧ estimateLines bytes = .ok size

/-- The size of a symbol can be computed if its span is one of integers and not beyond all
measure. -/
theorem Symbol.hasSize_of_integers {s : Symbol} {first : Int} (line : s.line = .int first)
    (endLine : s.endLine = .null ∨ ∃ last, s.endLine = .int last)
    (bytes : s.byteStart = .null ∨ s.byteEnd = .null ∨ ∃ start stop, s.byteStart = .int start ∧
      s.byteEnd = .int stop ∧ (stop - start).natAbs < 2 ^ 66) : s.HasSize := by
  have compared (m n : Int) :
      (Value.int m).orderOfLike (.int n) = .ok ((Value.int m).order (.int n)) := rfl
  have estimated {n : Int} (small : n.natAbs < 2 ^ 66) :
      ∃ size, estimateLines (.int n) = .ok size := by
    rw [estimateLines, Value.toBinary64, Binary64.ofInt?_eq_ofInt small]
    exact ⟨_, rfl⟩
  have sized {n : Int} (made : s.byteCount = .ok (.int n)) (small : n.natAbs < 2 ^ 66) :
      ∃ bytes size, s.byteCount = .ok bytes ∧ estimateLines bytes = .ok size := by
    obtain ⟨size, estimated⟩ := estimated small
    exact ⟨_, size, made, estimated⟩
  constructor
  · rw [lineCount, line]
    obtain none | ⟨last, known⟩ := endLine
    · rw [none]
      exact ⟨_, rfl⟩
    · rw [known, compared, Except.ok_bind]
      split
      · exact ⟨_, rfl⟩
      · split
        · exact ⟨_, rfl⟩
        · exact ⟨_, rfl⟩
  · obtain none | none | ⟨start, stop, hstart, hstop, small⟩ := bytes
    · exact sized (by rw [byteCount, none]; rfl) (by decide)
    · exact sized (by rw [byteCount, none, Bool.or_comm]; rfl) (by decide)
    · by_cases after : (Value.int stop).order (.int start) = .gt
      · refine sized ?_ small
        rw [byteCount, hstart, hstop, compared, Except.ok_bind, if_pos after]
        rfl
      · refine sized ?_ (n := 1) (by decide)
        rw [byteCount, hstart, hstop, compared, Except.ok_bind, if_neg after]
        rfl

namespace Snapshot

/-- The snapshot covers the files, has all of their symbols complete, and has each of the further
symbols complete or not at all. -/
structure Contains (g : Snapshot) (files : List Path) (symbols : List Int) : Prop where
  covered : ∀ path ∈ files, ∃ file, g.files[path]? = some file ∧
    ∀ id ∈ file.symbols, (g.symbol? id).isSome ∧ id ∈ g.complete
  whole : ∀ id ∈ symbols, id ∈ g.complete ∨ g.symbol? id = none

/-- Whether a snapshot contains what is asked for is decided entity by entity. -/
instance (g : Snapshot) (files : List Path) (symbols : List Int) :
    Decidable (g.Contains files symbols) :=
  decidable_of_iff ((∀ path ∈ files, (g.files[path]?).any fun file =>
      file.symbols.all fun id => (g.symbol? id).isSome && g.complete.contains id) ∧
      ∀ id ∈ symbols, id ∈ g.complete ∨ g.symbol? id = none) (by
    simp only [Option.any_eq_true, List.all_eq_true, Bool.and_eq_true, ExtTreeSet.contains_iff_mem]
    exact ⟨fun ⟨covered, whole⟩ => ⟨covered, whole⟩, fun h => ⟨h.covered, h.whole⟩⟩)

/-- The symbol is one of the given ones or listed for one of the files. -/
def Wants (g : Snapshot) (files : List Path) (symbols : List Int) (id : Int) : Prop :=
  id ∈ symbols ∨ ∃ path ∈ files, ∃ file, g.files[path]? = some file ∧ id ∈ file.symbols

end Snapshot

namespace Aggregate

/-- The aggregate is what the snapshot gives for each of the entities alone. -/
structure IsPointwise (a : Aggregate) (g : Snapshot) (files : List Path) (symbols : List Int)
    (now : Int) : Prop where
  fileRows : ∃ paths : List Path, paths.Perm files ∧
    paths.Pairwise (fun p q => (compare p q).isLE) ∧
      a.files = paths.filterMap fun path => (g.fileMetrics path now).toOption
  symbolRows : ∃ ids : List Int, ids.Pairwise (· < ·) ∧
    (∀ id, id ∈ ids ↔ g.Wants files symbols id) ∧
      a.symbols = ids.filterMap fun id => (g.symbolMetrics id now).toOption
  fileFailures : ∀ path e, (path, e) ∈ a.fileFailures ↔
    path ∈ files ∧ g.fileMetrics path now = .error e
  symbolFailures : ∀ id e, (id, e) ∈ a.symbolFailures ↔
    g.Wants files symbols id ∧ g.symbolMetrics id now = .error e
  failedFiles : (a.fileFailures.map (·.1)).Nodup
  failedSymbols : (a.symbolFailures.map (·.1)).Nodup
  file : ∀ path ∈ files, (∃ row ∈ a.files, row.path = path) ↔ ¬∃ e, (path, e) ∈ a.fileFailures
  symbol : ∀ id, g.Wants files symbols id →
    ((∃ row ∈ a.symbols, row.symbolId = id) ↔ ¬∃ e, (id, e) ∈ a.symbolFailures)

end Aggregate

/-! ## Rows and failures of keys -/

section Keys

variable {κ α : Type} {f : κ → Except Error α} {keys : List κ}

private theorem rowsOf_map : rowsOf (keys.map fun key => (key, f key)) =
    keys.filterMap fun key => (f key).toOption := by
  rw [rowsOf, List.filterMap_map]
  rfl

private theorem mem_filterMap_toOption {row : α} :
    row ∈ keys.filterMap (fun key => (f key).toOption) ↔ ∃ key ∈ keys, f key = .ok row := by
  rw [List.mem_filterMap]
  apply exists_congr
  intro key
  apply and_congr_right
  intro _
  cases f key with
  | ok a => simp [Except.toOption]
  | error e => simp [Except.toOption]

/-- Keys that each have at most one row, which tells its key, have rows with different keys. -/
theorem nodup_rows {keyOf : α → κ} (own : ∀ key row, f key = .ok row → keyOf row = key)
    (nodup : keys.Nodup) :
    ((keys.filterMap fun key => (f key).toOption).map keyOf).Nodup := by
  rw [List.map_filterMap]
  have told {key key' : κ} (made : (f key).toOption.map keyOf = some key') : key' = key := by
    obtain ⟨row, held, rfl⟩ := Option.map_eq_some_iff.mp made
    cases hf : f key with
    | error e =>
      rw [hf] at held
      cases held
    | ok row' =>
      rw [hf] at held
      cases held
      exact own key row hf
  refine List.Pairwise.filterMap _ (fun key key' differ a made a' made' same => differ ?_) nodup
  rw [← told made, ← told made', same]

variable [BEq κ] [LawfulBEq κ]

private theorem mem_failuresOf_map {key : κ} {e : Error} :
    (key, e) ∈ failuresOf (keys.map fun key => (key, f key)) ↔ key ∈ keys ∧ f key = .error e := by
  constructor
  · intro failed
    obtain ⟨key', mem, same⟩ := List.mem_map.mp (mem_of_mem_failuresOf failed)
    obtain ⟨rfl, made⟩ := Prod.mk.inj same
    exact ⟨mem, made⟩
  · rintro ⟨mem, made⟩
    have result : (key, .error e) ∈ keys.map fun key => (key, f key) :=
      List.mem_map.mpr ⟨key, mem, congrArg (Prod.mk key) made⟩
    obtain ⟨e', failed⟩ := exists_mem_failuresOf result
    obtain ⟨key', _, same⟩ := List.mem_map.mp (mem_of_mem_failuresOf failed)
    obtain ⟨rfl, made'⟩ := Prod.mk.inj same
    rw [made] at made'
    cases made'
    exact failed

/-- A key has a row or fails, if rows tell their keys. -/
theorem row_iff_not_failed {key : κ} (mem : key ∈ keys) {keyOf : α → κ}
    (own : ∀ key row, f key = .ok row → keyOf row = key) :
    (∃ row ∈ rowsOf (keys.map fun key => (key, f key)), keyOf row = key) ↔
      ¬∃ e, (key, e) ∈ failuresOf (keys.map fun key => (key, f key)) := by
  simp only [rowsOf_map, mem_filterMap_toOption, mem_failuresOf_map]
  constructor
  · rintro ⟨row, ⟨key', _, made⟩, rfl⟩ ⟨e, _, failed⟩
    rw [own key' row made, made] at failed
    cases failed
  · intro none
    cases made : f key with
    | ok row => exact ⟨row, ⟨key, mem, made⟩, own key row made⟩
    | error e => exact absurd ⟨e, mem, made⟩ none

/-- Each key fails once. -/
theorem nodup_failuresOf (results : List (κ × Except Error α)) :
    ((failuresOf results).map (·.1)).Nodup := by
  have general (failures : List (κ × Error)) (nodup : (failures.map (·.1)).Nodup) :
      ((results.foldl addFailure failures).map (·.1)).Nodup := by
    induction results generalizing failures with
    | nil => exact nodup
    | cons result results ih =>
      apply ih
      rw [addFailure]
      split
      · exact nodup
      · split
        · exact nodup
        · next e _ new =>
          rw [List.map_append, List.map_singleton, List.nodup_append]
          refine ⟨nodup, by simp, fun key mem key' single same => new ?_⟩
          obtain ⟨x, held, rfl⟩ := List.mem_map.mp mem
          rw [List.mem_singleton] at single
          exact List.any_eq_true.mpr ⟨x, held, beq_iff_eq.mpr (same.trans single)⟩
  rw [failuresOf_eq]
  exact general [] .nil

end Keys

/-! ## Errors of entities -/

namespace Snapshot

/-- The symbols of a covered file are found under the ids that it lists. -/
theorem Keyed.exists_symbolsInFile (keyed : g.Keyed) {path : Path} {file : CoveredFile}
    (hf : g.files[path]? = some file) (known : ∀ id ∈ file.symbols, (g.symbol? id).isSome) :
    ∃ own, g.symbolsInFile path = .ok own ∧ own.map (·.id) = file.symbols := by
  have found : ∃ own, g.symbolsInFile path = .ok own := by
    rw [symbolsInFile, hf]
    apply exists_mapM_eq_ok
    intro id mem
    obtain ⟨s, hs⟩ := Option.isSome_iff_exists.mp (known id mem)
    exact ⟨s, by rw [hs]⟩
  obtain ⟨own, found⟩ := found
  refine ⟨own, found, ?_⟩
  rw [symbolsInFile, hf] at found
  have ids : own.map (·.id) = file.symbols.map fun id => id := by
    refine map_eq_of_mapM_eq_ok found fun id _ s made => ?_
    split at made
    · next s' held =>
      cases made
      exact keyed id s held
    · cases made
  rwa [List.map_id'] at ids

/-- What is listed for covered files are the ids that they list. -/
theorem Keyed.wants_iff (keyed : g.Keyed) (contains : g.Contains files symbols) {id : Int} :
    id ∈ symbols ∨ g.Lists files id ↔ g.Wants files symbols id := by
  apply or_congr_right
  apply exists_congr
  intro path
  apply and_congr_right
  intro asked
  obtain ⟨file, hf, known⟩ := contains.covered path asked
  obtain ⟨own, found, ids⟩ := keyed.exists_symbolsInFile hf fun id mem => (known id mem).1
  rw [found, hf]
  constructor
  · rintro ⟨own', same, mem⟩
    cases same
    rw [ids] at mem
    exact ⟨file, rfl, mem⟩
  · rintro ⟨file', same, mem⟩
    cases same
    rw [← ids] at mem
    exact ⟨own, rfl, mem⟩

/-- An aggregate consists of what the snapshot gives for each of the entities alone. -/
theorem Keyed.isPointwise (keyed : g.Keyed) (contains : g.Contains files symbols) {a : Aggregate}
    (made : g.aggregate files symbols now = .ok a) : a.IsPointwise g files symbols now := by
  obtain ⟨measured, hm, ha⟩ := Except.bind_eq_ok.mp made
  obtain ⟨results, hr, made⟩ := Except.bind_eq_ok.mp ha
  generalize hids : (ExtTreeSet.ofList (symbols ++ measured.flatMap (·.symbols))).toList = ids at hr
  have wanted (id : Int) : id ∈ ids ↔ g.Wants files symbols id := by
    rw [← hids, ExtTreeSet.mem_toList, mem_measuredSymbols hm, keyed.wants_iff contains]
  have ascending : ids.Pairwise (· < ·) := by
    rw [← hids]
    exact ExtTreeSet.ordered_toList.imp Int.compare_eq_lt.mp
  have symbolResults : results = ids.map fun id => (id, g.symbolMetrics id now) := by
    rw [← List.map_id' results]
    refine map_eq_of_mapM_eq_ok hr fun id _ x made => ?_
    obtain ⟨row, hrow, made⟩ := Except.bind_eq_ok.mp made
    cases made
    rw [(tolerateReported_eq_ok hrow).1]
  cases made
  rw [map_of_measureFiles hm, symbolResults]
  exact {
    fileRows := ⟨_, sortedBy_perm _ files, sortedBy_compare_pairwise files, rowsOf_map⟩
    symbolRows := ⟨ids, ascending, wanted, rowsOf_map⟩
    fileFailures := by
      intro path e
      rw [mem_failuresOf_map, inPathOrder, mem_sortedBy]
    symbolFailures := by
      intro id e
      rw [mem_failuresOf_map, wanted]
    failedFiles := nodup_failuresOf _
    failedSymbols := nodup_failuresOf _
    file := fun path asked =>
      row_iff_not_failed (mem_sortedBy.mpr asked) fun _ _ => path_of_fileMetrics
    symbol := fun id asked =>
      row_iff_not_failed ((wanted id).mpr asked) fun _ _ => id_of_symbolMetrics keyed }

private theorem Wants.mono (moreFiles : ∀ path ∈ files, path ∈ files')
    (moreSymbols : ∀ id ∈ symbols, id ∈ symbols') {id : Int} (wanted : g.Wants files symbols id) :
    g.Wants files' symbols' id := by
  obtain further | ⟨path, asked, listed⟩ := wanted
  · exact .inl (moreSymbols id further)
  · exact .inr ⟨path, moreFiles path asked, listed⟩

end Snapshot

end CodeGauge
