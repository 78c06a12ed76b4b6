import CodeGauge.Proofs.Store.Acceptance
import CodeGauge.Proofs.Store.Refusal

/-!
# Batches as updates of maps

To a caller that reads single rows, the metrics are a map from ids and paths to rows. A batch that
is applied updates this map (`MetricsStore.apply_refines_update`): a key of its rows is mapped to
the last of them, any other key that it deletes to nothing, and every other key to what it was
mapped to before. A row is read back as the columns keep it, which is as it was offered, except that
a cheap size becomes a real and that the source of a complexity is not stored.
-/

open Std

namespace CodeGauge

variable {ω : Type}

/-! ## Rows that are read back -/

/-- A number as a column of reals gives it back: a real, and a zero without a sign. -/
def Value.asReal : Value → Value
  | .int n => .real (.ofInt n)
  | .real x => .real (if x.magnitudeBits = 0 then ⟨0⟩ else x)
  | v => v

/-- The row that is read where this one was written. -/
def FileMetrics.readBack (row : FileMetrics) : FileMetrics where
  path := row.path
  symbolCount := Affinity.integer.kept row.symbolCount
  loc := Affinity.integer.kept row.loc
  estimatedLoc := Affinity.real.kept row.estimatedLoc
  fanIn := Affinity.integer.kept row.fanIn
  fanOut := Affinity.integer.kept row.fanOut
  lastUpdated := Affinity.integer.kept row.lastUpdated

/-- The row that is read where this one was written under an id. -/
def SymbolMetrics.Draft.readBack (d : SymbolMetrics.Draft) (id : Int) : SymbolMetrics where
  symbolId := id
  name := d.name.getD ""
  kind := d.kind.getD ""
  path := d.path
  loc := Affinity.integer.kept d.loc
  estimatedLoc := Affinity.real.kept d.estimatedLoc
  fanIn := Affinity.integer.kept d.fanIn
  fanOut := Affinity.integer.kept d.fanOut
  lastUpdated := Affinity.integer.kept d.lastUpdated
  cyclomatic := Affinity.integer.kept d.cyclomatic
  source := .placeholder

/-- Each field holds a number of its kind: the cheap size any number, every other an integer. -/
structure FileMetrics.Typed (row : FileMetrics) : Prop where
  integers : ∀ v ∈ [row.symbolCount, row.loc, row.fanIn, row.fanOut, row.lastUpdated],
    ∃ n, v = .int n
  size : row.estimatedLoc.rank = 1

/-- Each field holds a number of its kind: the cheap size any number, every other an integer. -/
structure SymbolMetrics.Typed (row : SymbolMetrics) : Prop where
  integers : ∀ v ∈ [row.loc, row.fanIn, row.fanOut, row.lastUpdated, row.cyclomatic],
    ∃ n, v = .int n
  size : row.estimatedLoc.rank = 1

/-- A stored row of a file is read back with its counts as columns keep them. -/
theorem FileMetrics.StoredAs.metrics_eq {row : FileMetrics} {stored : FileMetricsRow}
    (h : row.StoredAs stored) : stored.metrics row.path.toString = row.readBack := by
  obtain ⟨score, _, admitted⟩ := h
  have kept := StoredRow.kept_of_admit admitted
  change some (FileMetricsRow.mk _ _ _ _ _ _ _) = some stored at kept
  cases kept
  rw [FileMetricsRow.metrics, Path.ofString_toString]
  rfl

private theorem SymbolMetrics.Draft.StoredAs.metrics_eq {d : SymbolMetrics.Draft}
    {stored : SymbolMetricsRow} (h : d.StoredAs stored) (id : Int) :
    stored.metrics id = d.readBack id := by
  have kept := StoredRow.kept_of_admit h
  rcases d with ⟨_, name, kind, path, _⟩
  cases name with
  | none => cases kept
  | some name =>
    cases kind with
    | none => cases kept
    | some kind =>
      change some (SymbolMetricsRow.mk name kind path.toString _ _ _ _ _ _) = some stored at kept
      cases kept
      rw [SymbolMetricsRow.metrics, Path.ofString_toString]
      rfl

/-- A column of reals keeps a number as a real, unless it is no number at all. -/
theorem Value.kept_real {v : Value} (number : v.rank = 1) (given : Affinity.real.kept v ≠ .null) :
    Affinity.real.kept v = v.asReal := by
  cases v with
  | null | text => cases number
  | int n => rfl
  | real x =>
    by_cases none : x.isNaN
    · rw [Affinity.kept, Value.bound, if_pos none] at given
      exact (given rfl).elim
    · rw [Affinity.kept, Value.bound, if_neg none]
      rfl

private theorem kept_integer {v : Value} {vs : List Value}
    (integers : ∀ v ∈ vs, ∃ n, v = .int n) (mem : v ∈ vs) : Affinity.integer.kept v = v := by
  obtain ⟨n, rfl⟩ := integers v mem
  rfl

/-- A file row is read back as it was offered, with its cheap size as a real. -/
theorem FileMetrics.Typed.readBack_eq {row : FileMetrics} (typed : row.Typed)
    (storable : row.Storable) :
    row.readBack = { row with estimatedLoc := row.estimatedLoc.asReal } := by
  obtain ⟨score, _, admitted, _⟩ := storable
  have size := (StoredRow.exists_admit_iff.mp admitted).1
    (⟨"estimated_loc", .real, true⟩, row.estimatedLoc) (List.mem_of_getElem? (i := 2) rfl) rfl
  rw [readBack, Value.kept_real typed.size size, kept_integer typed.integers (by simp),
    kept_integer typed.integers (by simp), kept_integer typed.integers (by simp),
    kept_integer typed.integers (by simp), kept_integer typed.integers (by simp)]

/-- A symbol row is read back as it was offered, with its cheap size as a real and with an unknown
source of its complexity. -/
theorem SymbolMetrics.Typed.readBack_eq {row : SymbolMetrics} (typed : row.Typed)
    (storable : row.draft.Storable) :
    row.draft.readBack row.symbolId =
      { row with estimatedLoc := row.estimatedLoc.asReal, source := .placeholder } := by
  have size := (StoredRow.exists_admit_iff.mp storable.1).1
    (⟨"estimated_loc", .real, true⟩, row.estimatedLoc) (List.mem_of_getElem? (i := 4) rfl) rfl
  rw [SymbolMetrics.Draft.readBack, draft, Value.kept_real typed.size size,
    kept_integer typed.integers (by simp), kept_integer typed.integers (by simp),
    kept_integer typed.integers (by simp), kept_integer typed.integers (by simp),
    kept_integer typed.integers (by simp)]
  rfl

/-! ## The updated map -/

namespace Batch

variable {b : Batch} {db db' : Database}

/-- What is read under an id after the batch, where a row or none was stored before. -/
def symbolAfter (b : Batch) (id : Int) (before : Option SymbolMetricsRow) :
    Option SymbolMetrics :=
  match b.symbolRow? id with
  | some d => some (d.readBack id)
  | none =>
    if id ∈ b.deletedSymbols then none
    else (before.filter fun old => b.deletedFiles.toList.all (·.toString != old.path)).map
      (·.metrics id)

/-- What is read of a file after the batch, where a row or none was stored before. -/
def fileAfter (b : Batch) (path : Path) (before : Option FileMetricsRow) : Option FileMetrics :=
  match b.fileRow? path.toString with
  | some row => some row.readBack
  | none => if path ∈ b.deletedFiles then none else before.map (·.metrics path.toString)

private theorem Updates.symbolAfter_eq (updates : b.Updates db db') (id : Int) :
    (db'.symbolMetrics[id]?).map (·.metrics id) = b.symbolAfter id db.symbolMetrics[id]? := by
  rw [symbolAfter]
  obtain ⟨d, found, stored, hs, held⟩ | ⟨none, kept⟩ := updates.symbol id
  · rw [found, held, Option.map_some, hs.metrics_eq]
  rw [none]
  dsimp only
  split
  next deleted =>
    rw [Option.map_eq_none_iff, Option.eq_none_iff_forall_ne_some]
    intro old held
    exact ((kept old).mp held).2.1 deleted
  next left =>
    congr 1
    ext old
    rw [kept, Option.filter_eq_some_iff]
    simp [left]

private theorem Updates.fileAfter_eq (updates : b.Updates db db') (path : Path) :
    (db'.fileMetrics[path.toString]?).map (·.metrics path.toString) =
      b.fileAfter path db.fileMetrics[path.toString]? := by
  have deletes : (∀ p ∈ b.deletedFiles, p.toString ≠ path.toString) ↔ path ∉ b.deletedFiles := by
    constructor
    · intro others mem
      exact others path mem rfl
    · intro left p mem same
      rw [← Path.ofString_toString p, same, Path.ofString_toString] at mem
      exact left mem
  rw [fileAfter]
  obtain ⟨row, found, stored, hs, held⟩ | ⟨none, kept⟩ := updates.file path.toString
  · rw [found, held, Option.map_some, ← (fileRow?_eq_some found).2, hs.metrics_eq]
  rw [none]
  dsimp only
  split
  next deleted =>
    rw [Option.map_eq_none_iff, Option.eq_none_iff_forall_ne_some]
    intro old held
    exact deletes.mp ((kept old).mp held).2 deleted
  next left =>
    congr 1
    ext old
    rw [kept, deletes]
    simp [left]

/-- A batch adds no symbol row but its own. -/
theorem Updates.symbol_mem (updates : b.Updates db db') {id : Int} (mem : id ∈ db'.symbolMetrics) :
    id ∈ db.symbolMetrics ∨ ∃ d ∈ b.symbolRows, d.symbolId = some id := by
  obtain ⟨d, found, _⟩ | ⟨_, kept⟩ := updates.symbol id
  · exact .inr ⟨d, symbolRow?_eq_some found⟩
  · obtain ⟨old, held⟩ := ExtTreeMap.mem_iff_isSome_getElem?.mp mem |> Option.isSome_iff_exists.mp
    have before := ((kept old).mp held).1
    exact .inl (ExtTreeMap.mem_iff_isSome_getElem?.mpr (by rw [before]; rfl))

/-- A batch adds no file row but its own. -/
theorem Updates.file_mem (updates : b.Updates db db') {file : String}
    (mem : file ∈ db'.fileMetrics) :
    file ∈ db.fileMetrics ∨ ∃ row ∈ b.fileRows, row.path.toString = file := by
  obtain ⟨row, found, _⟩ | ⟨_, kept⟩ := updates.file file
  · exact .inr ⟨row, fileRow?_eq_some found⟩
  · obtain ⟨old, held⟩ := ExtTreeMap.mem_iff_isSome_getElem?.mp mem |> Option.isSome_iff_exists.mp
    have before := ((kept old).mp held).1
    exact .inl (ExtTreeMap.mem_iff_isSome_getElem?.mpr (by rw [before]; rfl))

end Batch

namespace MetricsStore

open CodeGauge.Action World

variable {w w' : World ω} {db : Database} {disk : Disk} {b : Batch}

/-- Reading single rows gives those of these maps. -/
structure Answers (w : World ω) (symbols : Int → Option SymbolMetrics)
    (files : Path → Option FileMetrics) : Prop where
  symbol : ∀ id, inColumn id = true → ((symbol? id).runIn w).1 = .ok (symbols id)
  file : ∀ path, ((file? path).runIn w).1 = .ok (files path)

/-- Single rows are read from the tables that are served. -/
theorem answers_of_serves (serves : w.Serves db disk) :
    Answers w (fun id => (db.symbolMetrics[id]?).map (·.metrics id))
      fun path => (db.fileMetrics[path.toString]?).map (·.metrics path.toString) := by
  constructor
  · intro id fit
    have fits : ∀ v ∈ [Value.int id], fits v = true := by
      intro v mem
      rw [List.mem_singleton.mp mem]
      exact fit
    have replies : (symbol? id : Action ω _).Replies db w.capacity :=
      (query_replies ⟨rfl, rfl⟩ fits _).bind (query_reads _ _ _) fun _ _ => .pure _
    have reads : (symbol? id : Action ω _).Reads db
        fun r => r = (db.symbolMetrics[id]?).map (·.metrics id) := by
      refine (query_reads _ _ _).bind ?_
      rintro _ rfl
      exact .pure rfl
    obtain ⟨_, read, rfl⟩ := replies.reads_of_serves reads ((opens_query _ _ _).bind _) serves
    exact read
  · intro path
    have replies : (file? path : Action ω _).Replies db w.capacity :=
      (query_replies ⟨rfl, rfl⟩ (fits_text _) _).bind (query_reads _ _ _) fun _ _ => .pure _
    have reads : (file? path : Action ω _).Reads db
        fun r => r = (db.fileMetrics[path.toString]?).map (·.metrics path.toString) := by
      refine (query_reads _ _ _).bind ?_
      rintro _ rfl
      exact .pure rfl
    obtain ⟨_, read, rfl⟩ := replies.reads_of_serves reads ((opens_query _ _ _).bind _) serves
    exact read

/-- What is served before a batch is served after it as the batch updates it. -/
theorem apply_serves (serves : w.Serves db disk)
    (hasIds : ∀ d ∈ b.symbolRows, ∃ id, d.symbolId = some id) :
    (apply b).Ensures w fun _ w' => ∃ db', b.Updates db db' ∧ w'.Serves db' disk := by
  by_cases empty : b.isEmpty
  · rw [apply, if_pos empty]
    exact .pure ⟨db, .of_isEmpty empty db, serves⟩
  obtain ⟨c, o, opened, ready, same⟩ := serves
  have opens : (apply b : Action ω Unit).Opens := by
    rw [apply, if_neg empty]
    exact (opens_connection.bind _).bind _
  intro _ w' run
  rw [opens w o c opened] at run
  obtain ⟨db', updates, onward⟩ := apply_updates hasIds ready.isOpen _ w' run
  obtain ⟨_, _, again, _, ready'⟩ := apply_succeeds ready (apply_accepts o b _ w' run)
  rw [run] at again
  cases again
  have served := (ready'.of_open onward.isOpen).serves
  rw [onward.same.disk, same] at served
  exact ⟨db', updates, served⟩

/-- A batch that is applied updates the map that is read: each key of its rows is mapped to the last
of them, any other key that it deletes to nothing, and every other key to what it was mapped to
before. No other key gains a row. -/
theorem apply_refines_update (serves : w.Serves db disk)
    (hasIds : ∀ d ∈ b.symbolRows, ∃ id, d.symbolId = some id)
    (run : (apply b).runIn w = (.ok (), w')) :
    Answers w (fun id => (db.symbolMetrics[id]?).map (·.metrics id))
      (fun path => (db.fileMetrics[path.toString]?).map (·.metrics path.toString)) ∧
    Answers w' (fun id => b.symbolAfter id db.symbolMetrics[id]?)
      (fun path => b.fileAfter path db.fileMetrics[path.toString]?) ∧
    (∀ row : SymbolMetrics, row.draft ∈ b.symbolRows → row.Typed →
      row.draft.readBack row.symbolId =
        { row with estimatedLoc := row.estimatedLoc.asReal, source := .placeholder }) ∧
    (∀ row ∈ b.fileRows, row.Typed →
      row.readBack = { row with estimatedLoc := row.estimatedLoc.asReal } ∧
        ∃ score, row.readBack.score = .ok score ∧
          complexity row.loc row.fanIn row.fanOut = .ok score) ∧
    ∃ db', w'.Serves db' disk ∧ db.SameGraph db' ∧
      (∀ id ∈ db'.symbolMetrics,
        id ∈ db.symbolMetrics ∨ ∃ d ∈ b.symbolRows, d.symbolId = some id) ∧
      ∀ file ∈ db'.fileMetrics,
        file ∈ db.fileMetrics ∨ ∃ row ∈ b.fileRows, row.path.toString = file := by
  have storable := apply_accepts w b () w' run
  obtain ⟨db', updates, serves'⟩ := apply_serves serves hasIds () w' run
  have after := answers_of_serves serves'
  refine ⟨answers_of_serves serves, ⟨fun id fit => ?_, fun path => ?_⟩, ?_, ?_, db', serves',
    updates.graph, fun _ => updates.symbol_mem, fun _ => updates.file_mem⟩
  · rw [after.symbol id fit, updates.symbolAfter_eq]
  · rw [after.file path, updates.fileAfter_eq]
  · exact fun row mem typed => typed.readBack_eq (storable.symbolRows _ mem)
  · intro row mem typed
    have same := typed.readBack_eq (storable.fileRows row mem)
    obtain ⟨score, scored, _⟩ := storable.fileRows row mem
    refine ⟨same, score, ?_, scored⟩
    rw [same]
    exact scored

end MetricsStore

namespace Sample

/-- The row of the symbol in another file. -/
def moved (loc : Int) : SymbolMetrics where
  symbolId := 1
  name := "f"
  kind := "function"
  path := .ofString "b"
  loc := .int loc
  estimatedLoc := .int 1
  fanIn := .int 0
  fanOut := .int 0
  lastUpdated := .int 6
  cyclomatic := .int 1
  source := .measured

/-- The batch that deletes the symbol and its file and writes the symbol twice in another file. -/
def moving : Batch where
  symbolRows := [(moved 1).draft, (moved 2).draft]
  deletedFiles := .ofList [Path.ofString "a"]
  deletedSymbols := .ofList [(1 : Int)]

private theorem oneRowWorld_serves : oneRowWorld.Serves oneRow oneRowWorld.disk := by
  have ready : oneRowWorld.Ready oneRow :=
    ⟨rfl, ⟨_, rfl, by simp [World.tables, World.committed, oneRowWorld]⟩, _, rfl, rfl, rfl⟩
  exact ready.serves

end Sample

namespace MetricsStore

open Sample

/-- The symbol is read back as it was written last. -/
theorem sample_refines_update :
    ∃ w', (apply moving).runIn oneRowWorld = (.ok (), w') ∧
      ((symbol? 1).runIn w').1 = .ok (some
        { moved 2 with estimatedLoc := .real (.ofInt 1), source := .placeholder }) := by
  have returns : ((apply moving).runIn oneRowWorld).1.toOption.isSome = true := by decide +kernel
  have hasIds : ∀ d ∈ moving.symbolRows, ∃ id, d.symbolId = some id := by
    intro d mem
    simp only [moving, List.mem_cons, List.not_mem_nil, or_false] at mem
    rcases mem with rfl | rfl <;> exact ⟨1, rfl⟩
  have typed : (moved 2).Typed := by
    refine ⟨fun v mem => ?_, rfl⟩
    simp only [moved, List.mem_cons, List.not_mem_nil, or_false] at mem
    rcases mem with rfl | rfl | rfl | rfl | rfl <;> exact ⟨_, rfl⟩
  rcases run : (apply moving).runIn oneRowWorld with ⟨e | _, w'⟩
  · rw [run] at returns
    cases returns
  · obtain ⟨_, after, readBack, _⟩ := apply_refines_update oneRowWorld_serves hasIds run
    have last : moving.symbolRow? 1 = some (moved 2).draft := by decide +kernel
    refine ⟨w', rfl, ?_⟩
    rw [after.symbol 1 rfl, Batch.symbolAfter, last]
    have same := readBack (moved 2) (by simp [moving]) typed
    exact congrArg (Except.ok ∘ some) same

end MetricsStore

end CodeGauge
