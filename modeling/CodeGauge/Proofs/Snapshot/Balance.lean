import CodeGauge.Proofs.Snapshot.Conservation

/-!
# The counts of a file and of its symbols

A file counts the edges that cross its border, its symbols also those that join two of them. So the
counts of its symbols exceed its own by the edges inside of it, and by as many on the way in as on
the way out. An edge from a symbol to itself and an edge with an end that is not stored are counted
at neither level. This holds of what is computed from a snapshot of a part of the graph as of the
whole.
-/

open Std

namespace CodeGauge

variable {ω : Type} {db : Database} {disk : Disk}

namespace Database

/-- The edge joins two different symbols of the file. -/
def joinsWithin (db : Database) (file : String) (e : EdgeRow) : Bool :=
  e.caller.id? != e.callee.id? && db.fileOf? e.caller == some file &&
    db.fileOf? e.callee == some file

private theorem fileOf?_congr {v v' : Value} (same : v.id? = v'.id?) :
    db.fileOf? v = db.fileOf? v' := by
  rw [fileOf?, fileOf?, same]

private theorem edgeCount_or {p q : EdgeRow → Bool} (apart : ∀ e, p e = true → q e = false) :
    db.edgeCount (fun e => p e || q e) = db.edgeCount p + db.edgeCount q := by
  simp only [edgeCount]
  rw [List.countP_eq_countP_filter_add _ _ fun x => p x.2, List.countP_filter, List.countP_filter]
  congr 1
  · exact List.countP_congr fun x _ => by grind
  · refine List.countP_congr fun x _ => ?_
    have apart := apart x.2
    grind

section

variable {file : String} {ids : List Int}
  (own : ∀ id, id ∈ ids ↔ ∃ row, db.symbols[id]? = some row ∧ row.file = file)
include own

private theorem any_contains_own (v : Value) :
    (v.id?).any ids.contains = (db.fileOf? v == some file) := by
  rw [Bool.eq_iff_iff, beq_iff_eq, fileOf?_eq_some_iff, Option.any_eq_true]
  simp only [List.contains_iff_mem, own, exists_and_left]

variable (nodup : ids.Nodup)
include nodup

/-- The edges into the symbols of a file are those into the file and those inside of it. -/
theorem sum_entersSymbol_inFile :
    (ids.map fun id => db.edgeCount (db.entersSymbol id)).sum =
      db.edgeCount (db.entersFile file) + db.edgeCount (db.joinsWithin file) := by
  rw [sum_entersSymbol_among nodup, ← edgeCount_or]
  · refine congrArg db.edgeCount (funext fun e => ?_)
    have same : e.caller.id? = e.callee.id? → db.fileOf? e.caller = db.fileOf? e.callee :=
      fileOf?_congr
    rw [any_contains_own own, entersFile, joinsWithin]
    cases _ : db.fileOf? e.caller <;> grind
  · intro e
    rw [entersFile, joinsWithin]
    cases _ : db.fileOf? e.caller <;> grind

/-- The edges out of the symbols of a file are those out of the file and those inside of it. -/
theorem sum_leavesSymbol_inFile :
    (ids.map fun id => db.edgeCount (db.leavesSymbol id)).sum =
      db.edgeCount (db.leavesFile file) + db.edgeCount (db.joinsWithin file) := by
  rw [sum_leavesSymbol_among nodup, ← edgeCount_or]
  · refine congrArg db.edgeCount (funext fun e => ?_)
    have same : e.caller.id? = e.callee.id? → db.fileOf? e.caller = db.fileOf? e.callee :=
      fileOf?_congr
    rw [any_contains_own own, leavesFile, joinsWithin]
    cases _ : db.fileOf? e.callee <;> grind
  · intro e
    rw [leavesFile, joinsWithin]
    cases _ : db.fileOf? e.callee <;> grind

end

end Database

/-! ## Snapshots -/

/-- How far values exceed a total. -/
def Value.excess (values : List Value) (total : Value) : Except Error Value := do
  (← Value.sum values).minus total

namespace Snapshot

/-- The symbols of a file are those that the tables have there, their rows can be computed if their
spans are made of integers, and the counts in these rows exceed those in the row of the file by the
edges that join two different symbols of the file. -/
structure Balances (g : Snapshot) (db : Database) (path : Path) (row : FileMetrics) (now : Int) :
    Prop where
  symbols : ∃ own, g.symbolsInFile path = .ok own ∧ (own.map (·.id)).Nodup ∧
    ∀ id, id ∈ own.map (·.id) ↔ ∃ row, db.symbols[id]? = some row ∧ row.file = path.toString
  computed : (∀ (id : Int) (row : SymbolRow), db.symbols[id]? = some row →
      row.file = path.toString → row.Integral) →
    ∃ own rows, g.symbolsInFile path = .ok own ∧
      (own.mapM fun s => g.symbolMetrics s.id now) = .ok rows
  counts : ∀ own rows, g.symbolsInFile path = .ok own →
    (own.mapM fun s => g.symbolMetrics s.id now) = .ok rows →
    Value.excess (rows.map (·.fanIn)) row.fanIn =
        .ok (.int (db.edgeCount (db.joinsWithin path.toString))) ∧
      Value.excess (rows.map (·.fanOut)) row.fanOut =
        .ok (.int (db.edgeCount (db.joinsWithin path.toString)))

variable {g : Snapshot} {now : Int}

private theorem excess_eq {values : List Value} {m n : Nat}
    (sum : Value.sum values = .ok (.int (m + n : Nat))) :
    Value.excess values (.int m) = .ok (.int n) := by
  rw [Value.excess, sum, Except.ok_bind, Int.natCast_add]
  change Except.ok (Value.int (m + n - m)) = _
  rw [Int.add_comm, Int.add_sub_cancel]

private theorem exists_file_of_fileMetrics {path : Path} {row : FileMetrics}
    (made : g.fileMetrics path now = .ok row) : ∃ file, g.files[path]? = some file := by
  cases hf : g.files[path]? with
  | some file => exact ⟨file, rfl⟩
  | none =>
    rw [fileMetrics, hf] at made
    cases made

/-- In a snapshot that mirrors the tables the counts of a file and of its symbols balance. -/
theorem Mirrors.balances {root : Path} (h : g.Mirrors db disk root) (normal : db.Normal)
    {path : Path} {row : FileMetrics} (made : g.fileMetrics path now = .ok row) :
    g.Balances db path row now := by
  obtain ⟨file, hf⟩ := exists_file_of_fileMetrics made
  obtain ⟨own, listed⟩ := h.exists_symbolsInFile hf
  have ids : own.map (·.id) = file.symbols := h.symbolsInFile_ids hf listed
  obtain ⟨nodup, mem, complete, -⟩ := h.files path file hf
  rw [← ids] at nodup mem complete
  have complete (s : Symbol) (hs : s ∈ own) : s.id ∈ g.complete :=
    complete s.id (List.mem_map_of_mem hs)
  refine ⟨⟨own, listed, nodup, mem⟩, fun integral => ?_, fun own' rows again computed => ?_⟩
  · have each : ∀ s ∈ own, ∃ row, g.symbolMetrics s.id now = .ok row := by
      refine fun s hs => h.exists_symbolMetrics (complete s hs) fun row stored => ?_
      obtain ⟨row', stored', inFile⟩ := (mem s.id).mp (List.mem_map_of_mem hs)
      rw [stored] at stored'
      cases stored'
      exact integral s.id row stored inFile
    obtain ⟨rows, computed⟩ := exists_mapM_eq_ok each
    exact ⟨own, rows, listed, computed⟩
  · rw [listed] at again
    cases again
    have covered : path ∈ g.files := ExtTreeMap.mem_iff_isSome_getElem?.mpr (hf ▸ rfl)
    obtain ⟨fanIn, fanOut⟩ := h.fans_of_fileMetrics normal covered made
    have fans (s : Symbol) (hs : s ∈ own) (row : SymbolMetrics)
        (made : g.symbolMetrics s.id now = .ok row) :=
      h.fans_of_symbolMetrics normal (complete s hs) made
    rw [fanIn, fanOut]
    constructor
    · refine excess_eq ?_
      rw [Value.sum_of_mapM computed fun s hs row made => (fans s hs row made).1,
        ← Database.sum_entersSymbol_inFile mem nodup, List.map_map]
      rfl
    · refine excess_eq ?_
      rw [Value.sum_of_mapM computed fun s hs row made => (fans s hs row made).2,
        ← Database.sum_leavesSymbol_inFile mem nodup, List.map_map]
      rfl

/-- The snapshot was loaded in a world, as a part of the graph or as the whole of it. -/
def LoadedIn (g : Snapshot) (w : World ω) : Prop :=
  ∃ root w', (loadAll root).runIn w = (.ok g, w') ∨
    ∃ wanted, (loadPart wanted root).runIn w = (.ok g, w')

/-- What was loaded mirrors the tables. -/
theorem LoadedIn.mirrors {w : World ω} (loaded : g.LoadedIn w) (shows : w.Shows db disk)
    (normal : db.Normal) : ∃ root, g.Mirrors db disk root := by
  obtain ⟨o, isOpen, sameDisk, _, opened⟩ := shows.exists_open
  have rooted {root : Path} {w' : World ω} (run : (loadAll (some root)).runIn w = (.ok g, w') ∨
      ∃ wanted, (loadPart wanted (some root)).runIn w = (.ok g, w')) :
      ∃ root, g.Mirrors db disk root := by
    rcases run with run | ⟨wanted, run⟩
    · rw [opened _ opens_loadAll] at run
      obtain ⟨whole, _⟩ := loadAll_ensures isOpen normal g w' run
      exact ⟨root, sameDisk ▸ whole.mirrors⟩
    · rw [opened _ (opens_loadPart wanted)] at run
      obtain ⟨part, _⟩ := loadPart_ensures isOpen normal wanted g w' run
      exact ⟨root, sameDisk ▸ part.mirrors⟩
  obtain ⟨root, w', run⟩ := loaded
  cases root with
  | some root => exact rooted run
  | none =>
    rw [loadAll_none] at run
    simp only [loadPart_none] at run
    exact rooted run

end Snapshot

namespace Sample

/-- Two functions of one file and one of another, with an edge that is there twice, one from a
function to itself, one to a function that is not stored, and one each way between the files. -/
def tangled : Database where
  symbols := .ofList [((1 : Int), function "f" "a"), (2, function "g" "a"), (3, function "h" "b")]
  edges := .ofList <| [(1, 2), (1, 2), (2, 2), (1, 9), (2, 3), (3, 1)].zipIdx.map fun (ends, n) =>
    ((n : Int), (⟨.int ends.1, .int ends.2, .int 1, some "call"⟩ : EdgeRow))

/-- A part of the tangled graph is loaded. -/
def part : (Except Error Snapshot) × World Unit :=
  (Snapshot.loadPart ⟨{.ofString "a"}, ∅⟩ (some root)).runIn (world tangled)

end Sample

namespace Snapshot

variable {g : Snapshot} {now : Int}

/-- Whatever part of the graph was loaded, the counts of a file and of its symbols balance. -/
theorem LoadedIn.counts_balance {w : World ω} (loaded : g.LoadedIn w) (shows : w.Shows db disk)
    (normal : db.Normal) {path : Path} {row : FileMetrics}
    (made : g.fileMetrics path now = .ok row) : g.Balances db path row now := by
  obtain ⟨root, mirrors⟩ := loaded.mirrors shows normal
  exact mirrors.balances normal made

/-- Of the six edges of the tangled graph two are counted at the functions only. -/
theorem sample_counts_balance :
    ∃ (g : Snapshot) (row : FileMetrics), g.LoadedIn (Sample.world Sample.tangled) ∧
      Sample.tangled.Normal ∧ g.fileMetrics (.ofString "a") 100 = .ok row ∧
      g.Balances Sample.tangled (.ofString "a") row 100 ∧
      Sample.tangled.edgeCount (Sample.tangled.joinsWithin "a") = 2 := by
  have returns : ((Sample.part.1).bind fun g => g.fileMetrics (.ofString "a") 100).toOption.isSome =
      true := by decide +kernel
  have normal : Sample.tangled.Normal := by decide +kernel
  rcases run : Sample.part with ⟨e | g, w'⟩
  · rw [run] at returns
    cases returns
  · rw [run] at returns
    have loaded : g.LoadedIn (Sample.world Sample.tangled) := ⟨some Sample.root, w', .inr ⟨_, run⟩⟩
    rcases made : g.fileMetrics (.ofString "a") 100 with e | row
    · change (g.fileMetrics (.ofString "a") 100).toOption.isSome = true at returns
      rw [made] at returns
      cases returns
    · have shows := Sample.world_shows Sample.tangled
      exact ⟨g, row, loaded, normal, made, loaded.counts_balance shows normal made,
        by decide +kernel⟩

end Snapshot

end CodeGauge
