import CodeGauge.Proofs.Engine.Rounds
import CodeGauge.Proofs.Snapshot.Surroundings

/-!
# Refreshes

A refresh after a change of the graph renews the rows of the set that it recomputes, which is made
of what it was asked for, what was connected before, and what is connected now. It leaves every
other row as it is, whatever the tables held before.
-/

open Std

namespace CodeGauge

/-! ## A small repository

Two files with a function each, of which the first calls the second, and the row of a symbol that is
gone. -/

namespace Sample

/-- The directory of the files. -/
def root : Path := ⟨.slash, ["r"], by decide⟩

/-- The disk with the files `a` and `b`. -/
def disk : Disk where
  home := root
  nodes := .ofList [(root / .ofString "a", DiskNode.file 0), (root / .ofString "b", .file 1)]
  contents := .ofList [((0 : Nat), (⟨#[104, 10]⟩ : ByteArray)), (1, ⟨#[105]⟩)]
  fileCount := 3

/-- A function of four lines. -/
def function (name file : String) : SymbolRow :=
  { name, qualifiedName := name, file, line := .int 1, endLine := .int 4, byteStart := .null,
    byteEnd := .null, kind := "function", parent := .null }

/-- The tables before any file was metered, with a row that is left over. -/
def tables : Database where
  symbols := .ofList [((1 : Int), function "f" "a"), (2, function "g" "b")]
  edges := .ofList [((1 : Int), (⟨.int 1, .int 2, .int 1, some "call"⟩ : EdgeRow))]
  symbolMetrics := .ofList [((7 : Int), (⟨"z", "function", "a", .int 1, .real ⟨0⟩, .int 0, .int 0,
    .int 1, .int 5⟩ : SymbolMetricsRow))]

/-- The tables with the rows that they ought to have. -/
def metered : Database where
  symbols := tables.symbols
  edges := tables.edges
  fileMetrics := .ofList <| ["a", "b"].filterMap fun file =>
    (tables.fileReference disk root file).map fun row => (file, row.dated 5)
  symbolMetrics := .ofList <| [1, 2].filterMap fun id =>
    (tables.symbolReference id).map fun row => (id, row.dated 5)

/-- A world with a repository of these tables, whose statements list no more values than any build
allows. -/
def world (db : Database) : World Unit where
  disk := disk
  clock := .ok 100
  stamp := ""
  databases := .ofList [((2 : Nat), db)]
  repository := ⟨⟨.relative, ["x.db"], by decide⟩, some { serial := 1, file := 2 }⟩
  connections := 1
  capacity := ⟨999, Nat.le_refl 999⟩
  others := ()

/-- An engine that only reads and retries twice. -/
def engine : Engine Unit := ⟨.plain root, 2, 4⟩

/-- The world of the sample shows the tables in it. -/
theorem world_shows (db : Database) : (world db).Shows db disk := by
  apply World.Open.shows
  refine ⟨{ serial := 1, file := 2 }, rfl, ?_⟩
  simp [World.tables, World.committed, world]

end Sample

/-! ## What a refresh does -/

variable {ω : Type} {E : Engine ω} {w : World ω} {db : Database} {disk : Disk} {root : Path}

/-- A refresh of a file with what was connected to it before, of symbols, or of the ends of
edges. -/
inductive Refresh where
  | file (path : Path) (prior : Affected)
  | symbols (ids : ExtTreeSet Int)
  | edges (ends : List (Int × Int))

namespace Refresh

/-- Run a refresh. -/
def run (E : Engine ω) : Refresh → Action ω Recomputation
  | file path prior => E.refreshFile path prior
  | symbols ids => E.refreshSymbols ids
  | edges ends => E.refreshEdges ends

/-- What a refresh is asked for. -/
def seed : Refresh → Affected
  | file path _ => .of [path] []
  | symbols ids => ⟨∅, ids⟩
  | edges ends => .of [] (ends.flatMap fun (caller, callee) => [caller, callee])

/-- What was connected before, as far as a refresh is told. -/
def prior : Refresh → Affected
  | file _ prior => prior
  | _ => ∅

/-- What a refresh derives from a snapshot. -/
def derive : Refresh → Snapshot → Except Error Affected
  | file path _ => (·.affectedByFile path)
  | symbols ids => (·.affectedBySymbols ids)
  | edges ends => fun g => .ok (g.affectedByEdges ends)

/-- A refresh is a recomputation without a deletion. -/
theorem run_eq (refresh : Refresh) :
    refresh.run E = E.recompute refresh.seed refresh.derive refresh.prior none := by
  cases refresh with
  | file path prior => rfl
  | symbols ids => rfl
  | edges ends => rfl

/-- What a refresh derives grows with the set that a snapshot shows, whatever the disk. -/
theorem derive_mono (refresh : Refresh) {disk' : Disk} {root' : Path} {A A' d d' : Affected}
    {g g' : Snapshot} (start : refresh.seed ⊆ A) (sub : A ⊆ A') (shows : g.Shows A db disk root)
    (shows' : g'.Shows A' db disk' root') (hd : refresh.derive g = .ok d)
    (hd' : refresh.derive g' = .ok d') : d ⊆ d' := by
  have ⟨_, ids⟩ := Affected.subset_iff.mp (Affected.subset_trans start sub)
  cases refresh with
  | file path prior =>
    have wanted : path ∈ A.files :=
      (Affected.subset_iff.mp start).1 path (Affected.mem_files_of.mpr List.mem_cons_self)
    exact shows.affectedByFile_mono shows' sub wanted hd hd'
  | symbols asked => exact shows.affectedBySymbols_mono shows' sub ids hd hd'
  | edges ends =>
    cases hd
    cases hd'
    apply shows.affectedByEdges_mono shows'
    intro pair hpair
    constructor
    · apply ids
      exact Affected.mem_symbols_of.mpr (List.mem_flatMap.mpr ⟨pair, hpair, List.mem_cons_self⟩)
    · apply ids
      exact Affected.mem_symbols_of.mpr (List.mem_flatMap.mpr ⟨pair, hpair, by simp⟩)

/-- What a refresh derives grows with the set that a snapshot shows. -/
theorem grows (refresh : Refresh) : Engine.Grows db disk root refresh.derive refresh.seed :=
  fun _ _ _ _ _ _ start sub shows shows' => refresh.derive_mono start sub shows shows'

/-- A refresh that gives a value has renewed the rows of the set that it recomputed. -/
theorem run_ensures (plain : E.loader = .plain root) (shows : w.Shows db disk) (normal : db.Normal)
    (refresh : Refresh) :
    (refresh.run E).Ensures w fun r w' => ∃ derived db',
      refresh.derive r.snapshot = .ok derived ∧
      r.affected = refresh.seed ∪ refresh.prior ∪ derived ∧
      Engine.Least db disk root refresh.derive refresh.seed refresh.prior r.affected ∧
      r.MadeFrom db db' disk root w.clock refresh.derive refresh.prior ∧ w'.Shows db' disk := by
  have ⟨o, isOpen, sameDisk, sameClock, opened⟩ := shows.exists_open
  intro r w' run
  rw [run_eq, opened _ (Engine.opens_recompute plain _ _ _)] at run
  have ⟨derived, db', hd, affected, least, made, onward⟩ :=
    Engine.recompute_ensures plain isOpen normal refresh.grows r w' run
  rw [sameDisk] at least
  rw [sameDisk, sameClock] at made
  have shows' := onward.isOpen.shows
  rw [onward.same.disk, sameDisk] at shows'
  exact ⟨derived, db', hd, affected, least, made, shows'⟩

/-- A refresh that returns while nothing else changes the tables or the disk has renewed the rows of
the set that it recomputed: what it was asked for, what was connected before, and what it derived
from a snapshot of that set. -/
theorem run_renewed (plain : E.loader = .plain root) (shows : w.Shows db disk)
    (normal : db.Normal) (refresh : Refresh) {r : Recomputation} {w' : World ω}
    (run : (refresh.run E).runIn w = (.ok r, w')) :
    ∃ derived db' now, refresh.derive r.snapshot = .ok derived ∧
      r.snapshot.Shows r.affected db disk root ∧
      r.affected = refresh.seed ∪ refresh.prior ∪ derived ∧ w.clock = .ok now ∧
      w'.Shows db' disk ∧ db.Renewed db' disk root r.affected now := by
  have ⟨derived, db', hd, affected, _, made, shows'⟩ :=
    run_ensures plain shows normal refresh r w' run
  have ⟨now, clock, renewed⟩ := made.renewed
  exact ⟨derived, db', now, hd, made.snapshot, affected, clock, shows', renewed⟩

/-- The refresh of the first file of the small repository, with nothing known from before. -/
def sample : Refresh := .file (.ofString "a") ∅

/-- A refresh of the sample renews the rows of its set. -/
theorem sample_renewed :
    ∃ r w' derived db' now,
      (sample.run Sample.engine).runIn (Sample.world Sample.tables) = (.ok r, w') ∧
      sample.derive r.snapshot = .ok derived ∧
      r.snapshot.Shows r.affected Sample.tables Sample.disk Sample.root ∧
      r.affected = sample.seed ∪ sample.prior ∪ derived ∧
      (Sample.world Sample.tables).clock = .ok now ∧ w'.Shows db' Sample.disk ∧
      Sample.tables.Renewed db' Sample.disk Sample.root r.affected now := by
  have returns : ((sample.run Sample.engine).runIn
      (Sample.world Sample.tables)).1.toOption.isSome = true := by decide +kernel
  have normal : Sample.tables.Normal := by decide +kernel
  rcases run : (sample.run Sample.engine).runIn (Sample.world Sample.tables) with
    ⟨e | r, w'⟩
  · rw [run] at returns
    cases returns
  · have ⟨derived, db', now, renewed⟩ :=
      run_renewed rfl (Sample.world_shows Sample.tables) normal sample run
    exact ⟨r, w', derived, db', now, rfl, renewed⟩

end Refresh

end CodeGauge
