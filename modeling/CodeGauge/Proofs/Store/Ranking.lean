import CodeGauge.Proofs.Store.Replacement
import CodeGauge.Proofs.Store.Throughout

/-!
# The ranking of file rows

Files are ranked by the score that is stored with their row and listed with the score that the
fields of the row give. These are the same, since a row is only ever written whole, with the score
of its own fields (`Database.Scored`). So whatever was written, the hotspots are the first rows of
one ranking by the scores that they show (`MetricsStore.hotspots_top`).
-/

open Std

namespace CodeGauge

variable {ω : Type}

/-! ## Ranks and thresholds -/

/-- The least values of three measures that are asked for, where they are. -/
structure Thresholds where
  minLoc : Option Int := none
  minFanIn : Option Int := none
  minFanOut : Option Int := none

namespace Thresholds

/-- The query for so many hotspots that reach the thresholds. -/
def query (t : Thresholds) (limit : Int) : HotspotQuery where
  limit := .int limit
  minLoc := t.minLoc.map .int
  minFanIn := t.minFanIn.map .int
  minFanOut := t.minFanOut.map .int

/-- The thresholds that are asked for. -/
def given (t : Thresholds) : List Int :=
  t.minLoc.toList ++ t.minFanIn.toList ++ t.minFanOut.toList

end Thresholds

namespace FileMetrics

/-- The lines of the row and the edges into and out of it are integers. -/
structure Integral (row : FileMetrics) : Prop where
  loc : ∃ n, row.loc = .int n
  fanIn : ∃ n, row.fanIn = .int n
  fanOut : ∃ n, row.fanOut = .int n

/-- The row reaches the thresholds that are asked for. -/
structure Reaches (row : FileMetrics) (t : Thresholds) : Prop where
  loc : ∀ least ∈ t.minLoc, ∃ n, row.loc = .int n ∧ least ≤ n
  fanIn : ∀ least ∈ t.minFanIn, ∃ n, row.fanIn = .int n ∧ least ≤ n
  fanOut : ∀ least ∈ t.minFanOut, ∃ n, row.fanOut = .int n ∧ least ≤ n

/-- The fields of the first row give the higher score, or the same and its path comes first. -/
def Outranks (a b : FileMetrics) : Prop :=
  ∃ s t, a.score = .ok s ∧ b.score = .ok t ∧ (t.orderKey < s.orderKey ∨
    t.orderKey = s.orderKey ∧ a.path.toString < b.path.toString)

private theorem Outranks.asymm {a b : FileMetrics} (h : a.Outranks b) : ¬b.Outranks a := by
  obtain ⟨s, t, hs, ht, higher⟩ := h
  rintro ⟨t', s', ht', hs', higher'⟩
  rw [ht] at ht'
  rw [hs] at hs'
  cases ht'
  cases hs'
  rcases higher with higher | ⟨same, first⟩
  · omega
  rcases higher' with higher' | ⟨_, first'⟩
  · omega
  · exact String.lt_asymm first first'

end FileMetrics

/-- The row of a file is wanted: it is stored and reaches the thresholds. -/
def Database.Wanted (db : Database) (t : Thresholds) (row : FileMetrics) : Prop :=
  row.Reaches t ∧ ∃ (file : String) (stored : FileMetricsRow),
    db.fileMetrics[file]? = some stored ∧ row = stored.metrics file

/-- The answers are the top rows of those that are wanted: for any limit that a column can hold, as
many as the limit says of the first in one ranking. So they are ranked themselves, none that is
wanted and left out outranks one of them, and a larger limit continues them. -/
structure TopRows (wanted : FileMetrics → Prop) (answer : Int → Except Error (List FileMetrics)) :
    Prop where
  ranking : ∃ ranked : List FileMetrics, (∀ row, row ∈ ranked ↔ wanted row) ∧
    ranked.Pairwise FileMetrics.Outranks ∧
    ∀ limit, 0 ≤ limit → inColumn limit = true → answer limit = .ok (ranked.take limit.toNat)
  sorted : ∀ limit, 0 ≤ limit → inColumn limit = true → ∀ top, answer limit = .ok top →
    top.Pairwise FileMetrics.Outranks
  leaves : ∀ limit, 0 ≤ limit → inColumn limit = true → ∀ top, answer limit = .ok top →
    ∀ row, wanted row → row ∉ top → ∀ listed ∈ top, ¬row.Outranks listed
  continued : ∀ limit larger, 0 ≤ limit → limit ≤ larger → inColumn larger = true →
    ∀ top, answer limit = .ok top → ∃ more, answer larger = .ok (top ++ more)

/-- It is all a consequence of the ranking. -/
theorem TopRows.of_ranking {wanted : FileMetrics → Prop}
    {answer : Int → Except Error (List FileMetrics)} {ranked : List FileMetrics}
    (mem : ∀ row, row ∈ ranked ↔ wanted row) (sorted : ranked.Pairwise FileMetrics.Outranks)
    (answers : ∀ limit, 0 ≤ limit → inColumn limit = true →
      answer limit = .ok (ranked.take limit.toNat)) : TopRows wanted answer where
  ranking := ⟨ranked, mem, sorted, answers⟩
  sorted limit nonneg fit top made := by
    rw [answers limit nonneg fit] at made
    cases made
    exact sorted.sublist (List.take_sublist _ _)
  leaves limit nonneg fit top made row want left listed among := by
    rw [answers limit nonneg fit] at made
    cases made
    have rest : row ∈ ranked.drop limit.toNat := by
      have all := (mem row).mpr want
      rw [← List.take_append_drop limit.toNat ranked] at all
      exact (List.mem_append.mp all).resolve_left left
    rw [← List.take_append_drop limit.toNat ranked] at sorted
    exact ((List.pairwise_append.mp sorted).2.2 listed among row rest).asymm
  continued limit larger nonneg le fit top made := by
    have fit' : inColumn limit = true := by
      simp only [inColumn, Bool.and_eq_true, decide_eq_true_eq] at fit ⊢
      omega
    rw [answers limit nonneg fit'] at made
    cases made
    obtain ⟨more, same⟩ : ranked.take limit.toNat <+: ranked.take larger.toNat :=
      List.take_prefix_take_left (Int.toNat_le_toNat le)
    exact ⟨more, by rw [answers larger (Int.le_trans nonneg le) fit, same]⟩

/-! ## Writes -/

namespace MetricsStore

/-- A write of metrics rows. -/
inductive Write where
  | putFile (row : FileMetrics)
  | putSymbol (row : SymbolMetrics.Draft)
  | apply (b : Batch)
  | deleteFile (path : Path)
  | deleteSymbol (id : Int)
  | clear

namespace Write

/-- Make a write. -/
def run : Write → Action ω Unit
  | putFile row => MetricsStore.putFile row
  | putSymbol row => MetricsStore.putSymbol row
  | apply b => MetricsStore.apply b
  | deleteFile path => do
    let _ ← MetricsStore.deleteFile path
  | deleteSymbol id => do
    let _ ← MetricsStore.deleteSymbol id
  | clear => MetricsStore.clear

/-- The file rows that a write offers. -/
def fileRows : Write → List FileMetrics
  | putFile row => [row]
  | apply b => b.fileRows
  | _ => []

end Write

end MetricsStore

section

open CodeGauge.Action World

variable {I : World ω → Prop}

/-- A write keeps an invariant if metrics rows may be deleted and batches of the rows that the write
offers keep it. -/
theorem MetricsStore.Write.run_maintains {write : Write} (up : Upheld I) (sheds : Sheds I)
    (clears : ∀ db, Admits I db { db with symbolMetrics := ∅ } ∧
      Admits I db { db with fileMetrics := ∅, pathlessMetrics := [] })
    (applies : ∀ b : Batch, b.fileRows = write.fileRows →
      (MetricsStore.apply b : Action ω Unit).Maintains I) :
    (write.run : Action ω Unit).Maintains I := by
  cases write with
  | putFile row => exact applies _ rfl
  | putSymbol row => exact applies _ rfl
  | apply b => exact applies b rfl
  | deleteFile path =>
    refine .bind (.bind (up.update _ _ ?_) fun _ => .bind (up.updateAndCommit _ _ ?_) fun _ =>
      .pure _) fun _ => .pure _
    · intro before a after removed
      cases removed
      exact sheds.symbols before path.toString
    · intro before a after removed
      cases removed
      exact sheds.file before path.toString
  | deleteSymbol id =>
    refine .bind (.bind (up.updateAndCommit _ _ ?_) fun _ => .pure _) fun _ => .pure _
    intro before a after removed
    cases removed
    exact sheds.symbol before id
  | clear =>
    refine .bind (up.update _ _ ?_) fun _ => up.updateAndCommit _ _ ?_
    · intro before a after cleared
      cases cleared
      exact (clears before).1
    · intro before a after cleared
      cases cleared
      exact (clears before).2

end

/-- What a world is after some writes, however each of them ended. -/
def World.written (w : World ω) (writes : List MetricsStore.Write) : World ω :=
  writes.foldl (fun w write => (write.run.runIn w).2) w

/-! ## Stored scores -/

/-- A sign makes no difference to a zero. -/
theorem Binary64.orderKey_unsignedZero (x : Binary64) :
    (if x.magnitudeBits = 0 then ⟨0⟩ else x : Binary64).orderKey = x.orderKey := by
  split
  next zero =>
    rw [orderKey, orderKey, zero]
    simp [show magnitudeBits ⟨0⟩ = 0 from rfl]
  · rfl

/-- The row of a file is filed under its path, holds integers, and is stored with the score that
they give. -/
structure FileMetricsRow.Scored (row : FileMetricsRow) (file : String) : Prop where
  normal : (Path.ofString file).toString = file
  integral : (row.metrics file).Integral
  score : ∃ given stored, (row.metrics file).score = .ok given ∧ row.score = .real stored ∧
    stored.orderKey = given.orderKey

/-- Every file row has a path and is stored with the score that its fields give. -/
structure Database.Scored (db : Database) : Prop where
  pathed : db.pathlessMetrics = []
  rows : ∀ (file : String) (row : FileMetricsRow), db.fileMetrics[file]? = some row →
    row.Scored file

/-- A row of integers is stored with the score that they give. -/
theorem FileMetrics.StoredAs.scored {row : FileMetrics} {stored : FileMetricsRow}
    (integral : row.Integral) (h : row.StoredAs stored) : stored.Scored row.path.toString := by
  obtain ⟨lines, hl⟩ := integral.loc
  obtain ⟨into, hi⟩ := integral.fanIn
  obtain ⟨out, ho⟩ := integral.fanOut
  have read := h.metrics_eq
  obtain ⟨score, made, admitted⟩ := h
  have kept : row.readBack.loc = row.loc ∧ row.readBack.fanIn = row.fanIn ∧
      row.readBack.fanOut = row.fanOut := by
    rw [FileMetrics.readBack, hl, hi, ho]
    exact ⟨rfl, rfl, rfl⟩
  obtain ⟨sameLoc, sameIn, sameOut⟩ := kept
  refine ⟨by rw [Path.ofString_toString], ?_, score, ?_⟩
  · rw [read]
    exact ⟨⟨lines, sameLoc.trans hl⟩, ⟨into, sameIn.trans hi⟩, ⟨out, sameOut.trans ho⟩⟩
  · have given : stored.score = Affinity.real.kept (.real score) := by
      have columns := StoredRow.kept_of_admit admitted
      change some (FileMetricsRow.mk _ _ _ _ _ _ _) = some stored at columns
      cases columns
      rfl
    have required := (StoredRow.exists_admit_iff.mp ⟨stored, admitted⟩).1
      (⟨"complexity_score", .real, true⟩, .real score) (List.mem_of_getElem? (i := 5) rfl) rfl
    refine ⟨_, ?_, given.trans (Value.kept_real rfl required), score.orderKey_unsignedZero⟩
    rw [read, FileMetrics.score, sameLoc, sameIn, sameOut]
    exact made

namespace Database

variable {db db' : Database}

namespace Scored

/-- What other tables hold does not matter, nor do rows that are gone. -/
theorem mono (h : db.Scored) (pathed : db'.pathlessMetrics = db.pathlessMetrics)
    (rows : ∀ (file : String) (row : FileMetricsRow), db'.fileMetrics[file]? = some row →
      db.fileMetrics[file]? = some row) : db'.Scored :=
  ⟨pathed.trans h.pathed, fun file row held => h.rows file row (rows file row held)⟩

private theorem empty (pathed : db.pathlessMetrics = []) (none : db.fileMetrics = ∅) :
    db.Scored := by
  refine ⟨pathed, fun file row held => ?_⟩
  rw [none] at held
  simp at held

private theorem putFileMetrics (h : db.Scored) {row : FileMetrics} {score : Binary64}
    (integral : row.Integral) (made : row.score = .ok score)
    (put : db.putFileMetrics row score = .ok ((), db')) : db'.Scored := by
  obtain ⟨stored, admitted, put⟩ := Except.bind_eq_ok.mp put
  cases put
  refine ⟨h.pathed, fun file row' held => ?_⟩
  rw [ExtTreeMap.getElem?_insert] at held
  split at held
  next same =>
    cases held
    rw [← LawfulEqOrd.eq_of_compare same]
    exact FileMetrics.StoredAs.scored integral ⟨score, made, admitted⟩
  · exact h.rows file row' held

end Scored

end Database

namespace MetricsStore

open CodeGauge.Action World

private theorem scored_upheld : Upheld (Throughout Database.Scored : World ω → Prop) :=
  Throughout.upheld (.empty rfl rfl) fun _ h => h.mono rfl fun _ _ => id

private theorem scored_sheds : Sheds (Throughout Database.Scored : World ω → Prop) where
  symbol _ _ := Throughout.admits fun h => h.mono rfl fun _ _ => id
  symbols _ _ := Throughout.admits fun h => h.mono rfl fun _ _ => id
  file db file := Throughout.admits fun h => h.mono rfl fun file' row held => by
    rw [Database.removeFileMetrics, ExtTreeMap.getElem?_erase] at held
    split at held
    · cases held
    · exact held

private theorem apply_scored {b : Batch} (integral : ∀ row ∈ b.fileRows, row.Integral) :
    (apply b : Action ω Unit).Maintains (Throughout Database.Scored) := by
  refine apply_maintains scored_upheld scored_sheds (fun row mem score before after made put => ?_)
    fun d _ before after put => ?_
  · exact Throughout.admits fun h => h.putFileMetrics (integral row mem) made put
  · obtain ⟨stored, _, put⟩ := Except.bind_eq_ok.mp put
    cases put
    exact Throughout.admits fun h => h.mono rfl fun _ _ => id

/-- A write of rows of integers leaves every row with the score of its fields. -/
theorem Write.run_scored {write : Write} (integral : ∀ row ∈ write.fileRows, row.Integral) :
    (write.run : Action ω Unit).Maintains (Throughout Database.Scored) := by
  refine run_maintains scored_upheld scored_sheds (fun _ => ⟨?_, ?_⟩) fun b same =>
    apply_scored (same ▸ integral)
  · exact Throughout.admits fun h => h.mono rfl fun _ _ => id
  · exact Throughout.admits fun _ => .empty rfl rfl

/-- So do any number of writes. -/
theorem written_scored {writes : List Write}
    (integral : ∀ write ∈ writes, ∀ row ∈ write.fileRows, row.Integral) {w : World ω}
    (h : w.Throughout Database.Scored) : (w.written writes).Throughout Database.Scored := by
  induction writes generalizing w with
  | nil => exact h
  | cons write writes ih =>
    obtain ⟨own, rest⟩ := List.forall_mem_cons.mp integral
    exact ih rest (Write.run_scored own w h)

end MetricsStore

/-! ## The ranking -/

/-- What a row holds reaches a threshold that is asked for. -/
theorem reaches_int {v : Value} (integral : ∃ n, v = .int n) {least : Int} :
    reaches v (.int least) = true ↔ ∃ n, v = .int n ∧ least ≤ n := by
  obtain ⟨n, rfl⟩ := integral
  have compared : reaches (.int n) (.int least) = (compare least n).isLE := rfl
  rw [compared, Int.isLE_compare]
  constructor
  · exact fun le => ⟨n, rfl, le⟩
  · rintro ⟨_, same, le⟩
    cases same
    exact le

/-- A row of integers is picked out if it reaches the thresholds. -/
theorem FileMetrics.Integral.reaches_iff {row : FileMetrics} (integral : row.Integral)
    {t : Thresholds} {limit : Int} : ((t.query limit).minLoc.all (reaches row.loc) &&
      (t.query limit).minFanIn.all (reaches row.fanIn) &&
      (t.query limit).minFanOut.all (reaches row.fanOut)) = true ↔ row.Reaches t := by
  have picked {v : Value} (known : ∃ n, v = .int n) {least : Option Int} :
      (least.map Value.int).all (reaches v) = true ↔
        ∀ l ∈ least, ∃ n, v = .int n ∧ l ≤ n := by
    cases least with
    | none => simp
    | some l => simp [reaches_int known]
  rw [Bool.and_eq_true, Bool.and_eq_true, Thresholds.query, picked integral.loc,
    picked integral.fanIn, picked integral.fanOut]
  exact ⟨fun ⟨⟨loc, into⟩, out⟩ => ⟨loc, into, out⟩, fun h => ⟨⟨h.loc, h.fanIn⟩, h.fanOut⟩⟩

/-- The rank of the score that a row is stored with. -/
def FileMetricsRow.rank (row : FileMetricsRow) : Int :=
  match row.score with
  | .real x => x.orderKey
  | _ => 0

namespace FileMetricsRow.Scored

variable {a b : FileMetricsRow} {f g : String}

/-- The rank is that of the score which the fields give. -/
theorem exists_score (h : a.Scored f) :
    ∃ s, (a.metrics f).score = .ok s ∧ s.orderKey = a.rank := by
  obtain ⟨given, stored, made, real, same⟩ := h.score
  rw [rank, real]
  exact ⟨given, made, same.symm⟩

/-- Stored scores are ordered by rank. -/
theorem order_isLE (ha : a.Scored f) (hb : b.Scored g) :
    (b.score.order a.score).isLE = true ↔ b.rank ≤ a.rank := by
  obtain ⟨_, x, _, hx, _⟩ := ha.score
  obtain ⟨_, y, _, hy, _⟩ := hb.score
  rw [rank, rank, hx, hy]
  exact Int.isLE_compare

/-- The higher rank outranks, and of equal ranks the path that comes first. -/
theorem outranks (ha : a.Scored f) (hb : b.Scored g) (le : b.rank ≤ a.rank)
    (tie : a.rank ≤ b.rank → f < g) : (a.metrics f).Outranks (b.metrics g) := by
  obtain ⟨s, madeA, rankA⟩ := ha.exists_score
  obtain ⟨t, madeB, rankB⟩ := hb.exists_score
  refine ⟨s, t, madeA, madeB, ?_⟩
  rw [rankA, rankB]
  rcases Int.lt_or_eq_of_le le with higher | same
  · exact .inl higher
  · refine .inr ⟨same, ?_⟩
    rw [FileMetricsRow.metrics, FileMetricsRow.metrics, ha.normal, hb.normal]
    exact tie (Int.le_of_eq same.symm)

end FileMetricsRow.Scored

/-- The row has a path and is stored with the score that its fields give. -/
def ScoredEntry (entry : Option String × FileMetricsRow) : Prop :=
  ∃ file, entry.1 = some file ∧ entry.2.Scored file

/-- The metrics that a row with a path holds. -/
def entryMetrics (entry : Option String × FileMetricsRow) : FileMetrics :=
  entry.2.metrics (entry.1.getD "")

/-- Rows that come by path are ranked by sorting them by their stored scores. -/
theorem sortedBy_score_pairwise {entries : List (Option String × FileMetricsRow)}
    (listed : ∀ entry ∈ entries, ScoredEntry entry)
    (byPath : entries.Pairwise fun a b => ∃ s t, a.1 = some s ∧ b.1 = some t ∧ s < t) :
    (sortedBy (fun a b => (b.2.score.order a.2.score).isLE) entries).Pairwise fun a b =>
      (entryMetrics a).Outranks (entryMetrics b) := by
  have sorted := @sortedBy_pairwise _ _ _ (fun a b => (b.2.score.order a.2.score).isLE) ?total
    ?trans _ listed byPath
  case total =>
    rintro a b ⟨f, _, ha⟩ ⟨g, _, hb⟩
    rw [ha.order_isLE hb, hb.order_isLE ha]
    exact Int.le_total _ _
  case trans =>
    rintro a b c ⟨_, _, ha⟩ ⟨_, _, hb⟩ ⟨_, _, hc⟩ ab bc
    rw [ha.order_isLE hb] at ab
    rw [hb.order_isLE hc] at bc
    exact (ha.order_isLE hc).mpr (Int.le_trans bc ab)
  refine sorted.imp_of_mem fun {a b} memA memB ⟨le, tie⟩ => ?_
  obtain ⟨f, hf, ha⟩ := listed a (mem_sortedBy.mp memA)
  obtain ⟨g, hg, hb⟩ := listed b (mem_sortedBy.mp memB)
  rw [entryMetrics, entryMetrics, hf, hg]
  refine ha.outranks hb ((ha.order_isLE hb).mp le) fun same => ?_
  obtain ⟨_, _, hf', hg', before⟩ := tie ((hb.order_isLE ha).mpr same)
  rw [hf] at hf'
  rw [hg] at hg'
  cases hf'
  cases hg'
  exact before

namespace Database

section

variable {db : Database} (pathed : db.pathlessMetrics = [])
include pathed

private theorem mem_fileMetricsRows {entry : Option String × FileMetricsRow} :
    entry ∈ db.fileMetricsRows ↔
      ∃ file row, entry = (some file, row) ∧ db.fileMetrics[file]? = some row := by
  rw [fileMetricsRows, pathed, List.map_nil, List.nil_append, List.mem_map]
  constructor
  · rintro ⟨⟨file, row⟩, mem, rfl⟩
    exact ⟨file, row, rfl, ExtTreeMap.mem_toList_iff_getElem?_eq_some.mp mem⟩
  · rintro ⟨file, row, rfl, held⟩
    exact ⟨(file, row), ExtTreeMap.mem_toList_iff_getElem?_eq_some.mpr held, rfl⟩

/-- The rows that are ranked are the stored ones that reach every threshold. -/
theorem mem_hotspots {q : HotspotQuery} {entry : Option String × FileMetricsRow} :
    entry ∈ db.hotspots q ↔ (∃ file row, entry = (some file, row) ∧
      db.fileMetrics[file]? = some row) ∧ (q.minLoc.all (reaches entry.2.loc) &&
        q.minFanIn.all (reaches entry.2.fanIn) && q.minFanOut.all (reaches entry.2.fanOut)) := by
  rw [hotspots, mem_sortedBy, List.mem_filter, mem_fileMetricsRows pathed]

/-- The rows come by path. -/
theorem fileMetricsRows_pairwise : db.fileMetricsRows.Pairwise fun a b =>
    ∃ s t, a.1 = some s ∧ b.1 = some t ∧ s < t := by
  rw [fileMetricsRows, pathed, List.map_nil, List.nil_append, List.pairwise_map]
  exact ExtTreeMap.ordered_keys_toList.imp fun {a b} before =>
    ⟨a.1, b.1, rfl, rfl, compareOfLessAndEq_eq_lt.mp before⟩

end

/-- Every row outranks those that come after it. -/
theorem Scored.hotspots_pairwise {db : Database} (scored : db.Scored) (q : HotspotQuery) :
    (db.hotspots q).Pairwise fun a b => (entryMetrics a).Outranks (entryMetrics b) := by
  have listed : ∀ entry ∈ db.fileMetricsRows, ScoredEntry entry := by
    intro entry mem
    obtain ⟨file, row, rfl, held⟩ := (mem_fileMetricsRows scored.pathed).mp mem
    exact ⟨file, rfl, scored.rows file row held⟩
  exact sortedBy_score_pairwise (fun entry mem => listed entry (List.mem_filter.mp mem).1)
    ((fileMetricsRows_pairwise scored.pathed).filter _)

end Database

/-! ## The query -/

/-- Where every row has a path, the metrics of all of them are given. -/
theorem fileMetricsOf_eq {entries : List (Option String × FileMetricsRow)}
    (pathed : ∀ entry ∈ entries, ∃ file row, entry = (some file, row)) :
    MetricsStore.fileMetricsOf entries = .ok (entries.map entryMetrics) := by
  induction entries with
  | nil => rfl
  | cons entry entries ih =>
    obtain ⟨⟨file, row, rfl⟩, rest⟩ := List.forall_mem_cons.mp pathed
    exact mapM_cons_eq_ok.mpr ⟨_, _, rfl, ih rest, rfl⟩

/-- The rows that are picked out are those that are wanted. -/
theorem Database.Scored.mem_map_hotspots {db : Database} (scored : db.Scored) {t : Thresholds}
    {limit : Int} {row : FileMetrics} :
    row ∈ (db.hotspots (t.query limit)).map entryMetrics ↔ db.Wanted t row := by
  rw [List.mem_map]
  constructor
  · rintro ⟨_, mem, rfl⟩
    obtain ⟨⟨file, stored, rfl, held⟩, picked⟩ := (mem_hotspots scored.pathed).mp mem
    have integral := (scored.rows file stored held).integral
    exact ⟨integral.reaches_iff.mp picked, file, stored, held, rfl⟩
  · rintro ⟨reached, file, stored, held, rfl⟩
    have integral := (scored.rows file stored held).integral
    exact ⟨_, (mem_hotspots scored.pathed).mpr
      ⟨⟨file, stored, rfl, held⟩, integral.reaches_iff.mpr reached⟩, rfl⟩

namespace MetricsStore

open CodeGauge.Action World

/-- A limit that is not negative is a number of rows. -/
theorem limitOf_int {limit : Int} (nonneg : 0 ≤ limit) :
    limitOf (.int limit) = .ok (some limit.toNat) :=
  congrArg Except.ok (if_neg (Int.not_lt.mpr nonneg))

variable {w : World ω} {db : Database} {disk : Disk} {t : Thresholds} {limit : Int}

/-- A query for hotspots gives as many as the limit says of the rows that are picked out. -/
theorem runIn_hotspots_query (shows : w.Shows db disk) (there : .fileMetrics ∉ db.dropped)
    (given : ∀ least ∈ t.given, inColumn least = true) (nonneg : 0 ≤ limit)
    (fit : inColumn limit = true) : ((hotspots (t.query limit)).runIn w).1 =
      fileMetricsOf ((db.hotspots (t.query limit)).take limit.toNat) := by
  have opens : (hotspots (t.query limit) : Action ω (List FileMetrics)).Opens :=
    (opens_query _ _ _).bind _
  obtain ⟨o, isOpen, _, _, opened⟩ := shows.exists_open
  have known (l i o : Bool) : db.missing? (Statement.hotspots l i o).tables = none := by
    simpa [Database.missing?, Statement.tables] using there
  have values : hotspotValues (t.query limit) = (t.given ++ [limit]).map .int := by
    simp [hotspotValues, Thresholds.query, Thresholds.given, Option.toList_map]
  have fits : ∀ v ∈ hotspotValues (t.query limit), fits v = true := by
    rw [values, List.forall_mem_map]
    simpa [or_imp, forall_and] using ⟨given, fit⟩
  obtain ⟨_, o', run, rfl, _⟩ := query_succeeds isOpen (known _ _ _) (Nat.zero_le _) rfl fits
    (·.hotspots (t.query limit))
  rw [opened _ opens, hotspots, runIn_bind_of_ok run]
  simp only [Thresholds.query, limitOf_int nonneg, runIn_of]

/-- Whatever was written, of rows whose lines and edges are integers, the hotspots are the top rows
of those that reach the thresholds, ranked by the scores that their fields give and then by path. -/
theorem hotspots_top {writes : List Write}
    (fresh : w.Throughout fun db => db.fileMetrics = ∅ ∧ db.pathlessMetrics = [])
    (integral : ∀ write ∈ writes, ∀ row ∈ write.fileRows, row.Integral)
    (shows : (w.written writes).Shows db disk) (there : .fileMetrics ∉ db.dropped)
    (given : ∀ least ∈ t.given, inColumn least = true) :
    TopRows (db.Wanted t) fun limit =>
      ((hotspots (t.query limit)).runIn (w.written writes)).1 := by
  have scored : db.Scored := by
    refine Throughout.of_shows scored_upheld (written_scored integral fun db held => ?_) shows
    obtain ⟨none, pathed⟩ := fresh db held
    exact .empty pathed none
  refine .of_ranking (fun _ => scored.mem_map_hotspots)
    (List.pairwise_map.mpr (scored.hotspots_pairwise (t.query 0))) fun limit nonneg fit => ?_
  -- The rows that are picked out do not depend on the limit.
  have same : db.hotspots (t.query limit) = db.hotspots (t.query 0) := rfl
  rw [runIn_hotspots_query shows there given nonneg fit, same, ← List.map_take]
  apply fileMetricsOf_eq
  intro entry mem
  have picked := List.mem_of_mem_take mem
  obtain ⟨⟨file, row, own, _⟩, _⟩ := (Database.mem_hotspots scored.pathed).mp picked
  exact ⟨file, row, own⟩

end MetricsStore

/-! ## Two files of the same score -/

namespace Sample

/-- The row of a file without edges out of it. -/
def fileRow (path : String) (lines into : Int) : FileMetrics where
  path := .ofString path
  symbolCount := .int 0
  loc := .int lines
  estimatedLoc := .int 0
  fanIn := .int into
  fanOut := .int 0
  lastUpdated := .int 5

private theorem fileRow_integral (path : String) (lines into : Int) :
    (fileRow path lines into).Integral :=
  ⟨⟨lines, rfl⟩, ⟨into, rfl⟩, ⟨0, rfl⟩⟩

/-- A file is written and deleted again, and between that two others of the same score. -/
def writes : List MetricsStore.Write := [
  .putFile (fileRow "c" 100 0),
  .apply { fileRows := [fileRow "b" 0 2, fileRow "a" 10 0] },
  .deleteFile (.ofString "c")]

private theorem oneRowWorld_fresh : oneRowWorld.Throughout fun db =>
    db.fileMetrics = ∅ ∧ db.pathlessMetrics = [] := by
  rintro db (⟨file, rfl⟩ | ⟨c, hc, written⟩)
  · rw [World.stored, oneRowWorld, ExtTreeMap.ofList_singleton, ExtTreeMap.getElem?_insert]
    split
    · exact ⟨rfl, rfl⟩
    · rw [ExtTreeMap.getElem?_empty]
      exact ⟨rfl, rfl⟩
  · cases hc
    cases written

end Sample

namespace MetricsStore

open Sample

/-- Of the two files, the one whose path comes first is the top one. -/
theorem sample_hotspots_top : ∃ db disk, (oneRowWorld.written writes).Shows db disk ∧
    TopRows (db.Wanted {}) (fun limit =>
      ((hotspots (Thresholds.query {} limit)).runIn (oneRowWorld.written writes)).1) ∧
    (((hotspots (Thresholds.query {} 1)).runIn (oneRowWorld.written writes)).1).toOption.map
      (·.map (·.path.toString)) = some ["a"] := by
  have there : ((Action.tables.runIn (oneRowWorld.written writes)).1.toOption.map
      (·.dropped)) = some [] := by decide +kernel
  have integral : ∀ write ∈ writes, ∀ row ∈ write.fileRows, row.Integral := by
    intro write mem row among
    simp only [writes, List.mem_cons, List.not_mem_nil, or_false] at mem
    rcases mem with rfl | rfl | rfl <;>
      simp only [Write.fileRows, List.mem_cons, List.not_mem_nil, or_false] at among
    · exact among ▸ fileRow_integral _ _ _
    · rcases among with rfl | rfl <;> exact fileRow_integral _ _ _
  rcases run : Action.tables.runIn (oneRowWorld.written writes) with ⟨_ | db, w'⟩
  · rw [run] at there
    cases there
  · rw [run] at there
    have shows : (oneRowWorld.written writes).Shows db w'.disk := by
      rw [World.Shows, run]
      exact ⟨rfl, rfl⟩
    refine ⟨db, w'.disk, shows, ?_, by decide +kernel⟩
    have dropped : db.dropped = [] := Option.some.inj there
    have present : TableName.fileMetrics ∉ db.dropped := by
      rw [dropped]
      exact List.not_mem_nil
    exact hotspots_top oneRowWorld_fresh integral shows present (List.forall_mem_nil _)

end MetricsStore

end CodeGauge
