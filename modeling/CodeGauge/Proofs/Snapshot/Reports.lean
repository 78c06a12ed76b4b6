import CodeGauge.Proofs.Snapshot.Agreement
import CodeGauge.Proofs.Snapshot.Settling

/-!
# Reports on files

The messages of an aggregate are its reports on the files that keep their rows, one for each such
file (`keptRows_perm`): a file with a symbol whose content cannot be read or is not the recorded
one. The report on a file depends on what the tables and the disk have of this file, and on the
number of the snapshot only where the content is not the recorded one (`Mirrors.report?_eq`).
-/

open Std

namespace CodeGauge

variable {db : Database} {disk disk' : Disk} {root root' : Path} {g g' : Snapshot} {now now' : Int}

/-- The report on a file that keeps its row, if it does. -/
def Snapshot.report? (g : Snapshot) (now : Int) (path : Path) : Option (String × String) :=
  match g.fileMetrics path now with
  | .ok _ => none
  | .error e => if e.isAbsence then none else some (path.toString, e.message)

/-- The file has a symbol and a content that is not the recorded one. -/
def Database.Altered (db : Database) (disk : Disk) (root path : Path) : Prop :=
  db.symbolCount path.toString ≠ 0 ∧ ∃ content record,
    Database.contentOf? disk root path.toString = some content ∧
      db.files[path.toString]? = some record ∧ record.hash ≠ Digest.contentHash content

/-! ## The messages of an aggregate -/

section Failures

variable {κ α : Type}

/-- The key of a result that failed, with the error. -/
def failureOf? (result : κ × Except Error α) : Option (κ × Error) :=
  match result.2 with
  | .ok _ => none
  | .error e => some (result.1, e)

/-- Results with different keys fail each for itself. -/
theorem failuresOf_eq_filterMap [BEq κ] [LawfulBEq κ] {results : List (κ × Except Error α)}
    (nodup : (results.map (·.1)).Nodup) : failuresOf results = results.filterMap failureOf? := by
  have general (failures : List (κ × Error))
      (distinct : (failures.map (·.1) ++ results.map (·.1)).Nodup) :
      results.foldl addFailure failures = failures ++ results.filterMap failureOf? := by
    clear nodup
    induction results generalizing failures with
    | nil => simp
    | cons result results ih =>
      obtain ⟨key, r⟩ := result
      rw [List.foldl_cons, List.filterMap_cons]
      cases r with
      | ok a =>
        apply ih
        rw [List.map_cons] at distinct
        exact distinct.sublist ((List.sublist_cons_self _ _).append_left _)
      | error e =>
        have new : failures.any (·.1 == key) = false := by
          rw [List.any_eq_false]
          intro x mem same
          rw [List.nodup_append] at distinct
          exact distinct.2.2 x.1 (List.mem_map_of_mem mem) key (by simp) (eq_of_beq same)
        dsimp only [failureOf?, addFailure]
        rw [new, if_neg Bool.false_ne_true, ih]
        · simp
        · simpa using distinct
  rw [failuresOf_eq]
  exact general [] (by simpa using nodup)

end Failures

/-- The messages of an aggregate are the reports on the files that were asked for. -/
theorem keptRows_perm {files : List Path} {symbols : List Int} {measured : List MeasuredFile}
    {a : Aggregate} (hm : g.measureFiles files now = .ok measured)
    (ha : g.aggregateFrom measured symbols now = .ok a) (nodup : files.Nodup) :
    (keptRows a).Perm (files.filterMap (g.report? now)) := by
  obtain ⟨results, hr, made⟩ := Except.bind_eq_ok.mp ha
  cases made
  have absent : ∀ x ∈ failuresOf results, x.2.isAbsence = true := by
    rintro ⟨id, e⟩ mem
    obtain ⟨id', _, made⟩ := (mem_of_mapM_eq_ok hr _).mp (mem_of_mem_failuresOf mem)
    obtain ⟨row, hrow, made⟩ := Except.bind_eq_ok.mp made
    cases made
    obtain ⟨failed, reported⟩ := tolerateReported_eq_ok hrow
    exact Snapshot.isAbsence_of_symbolMetrics failed.symm (reported e failed.symm)
  have perm : (inPathOrder files).Perm files := sortedBy_perm _ files
  have distinct : (((inPathOrder files).map fun path =>
      (path, g.fileMetrics path now)).map (·.1)).Nodup := by
    simpa [List.map_map, Function.comp_def] using perm.nodup_iff.mpr nodup
  rw [keptRows, List.filterMap_eq_nil_iff.mpr fun x mem => if_pos (absent x mem),
    List.append_nil, Snapshot.map_of_measureFiles hm, failuresOf_eq_filterMap distinct,
    List.filterMap_map, List.filterMap_filterMap]
  refine (List.Perm.of_eq (congrArg (List.filterMap · _) (funext fun path => ?_))).trans
    (perm.filterMap (g.report? now))
  rw [Snapshot.report?]
  dsimp only [Function.comp_apply, failureOf?]
  cases g.fileMetrics path now with
  | ok row => rfl
  | error e => rfl

/-! ## The report on a file -/

namespace Snapshot

/-- A report names its file. -/
theorem fst_of_report? {path : Path} {report : String × String}
    (h : g.report? now path = some report) : report.1 = path.toString := by
  rw [report?] at h
  split at h
  · cases h
  · split at h
    · cases h
    · cases h
      rfl

/-- The time of a row plays no part in what becomes of a file. -/
theorem fileMetrics_redated (g : Snapshot) (path : Path) (now now' : Int) :
    g.fileMetrics path now' =
      (g.fileMetrics path now).map fun row => { row with lastUpdated := .int now' } := by
  rw [fileMetrics, fileMetrics]
  split
  · rfl
  rw [Except.map_bind]
  congr 1
  funext symbols
  split
  · rfl
  rw [Except.map_bind]
  congr 1
  funext content
  rw [Except.map_bind]
  rfl

private theorem report?_redated (g : Snapshot) (path : Path) (now now' : Int) :
    g.report? now' path = g.report? now path := by
  rw [report?, report?, g.fileMetrics_redated path now now']
  cases g.fileMetrics path now with
  | ok row => rfl
  | error e => rfl

end Snapshot

/-- A report that does not say that a content has changed has no number in it. -/
theorem Error.renumbered_eq_self {e : Error} (reported : e.isReported = true)
    (consistent : e.isInconsistency = false) (n : Nat) : e.renumbered n = e := by
  cases e with
  | contentChanged path snapshot => cases consistent
  | fileNotCovered snapshot path => cases reported
  | symbolNotCovered snapshot id => cases reported
  | _ => rfl

namespace Snapshot

namespace Mirrors

/-- A covered file is reported on if it has a symbol and its content is not to be trusted. -/
theorem isSome_report? (h : g.Mirrors db disk root) (normal : db.Normal) {path : Path}
    (covered : path ∈ g.files) {r : Except Error FileMetrics}
    (tolerated : tolerateReported (g.fileMetrics path now) = .ok r) :
    (g.report? now path).isSome ↔
      db.symbolCount path.toString ≠ 0 ∧ ¬db.isCurrent disk root path.toString := by
  obtain ⟨file, hf⟩ := Option.isSome_iff_exists.mp (ExtTreeMap.mem_iff_isSome_getElem?.mp covered)
  have outcome := h.fileOutcome normal hf tolerated
  obtain ⟨rfl, -⟩ := tolerateReported_eq_ok tolerated
  rw [report?]
  cases hr : g.fileMetrics path now with
  | ok row =>
    rw [hr] at outcome
    cases outcome with
    | measured count current => simp [current]
  | error e =>
    rw [hr] at outcome
    cases outcome with
    | absent none absence => simp [none, absence]
    | failed count stale report => simp [count, stale, report]

/-- A covered file has a content that is not the recorded one, for the snapshot as for the tables
and the disk. -/
theorem mismatches_iff (h : g.Mirrors db disk root) (wellFormed : g.WellFormed) {path : Path}
    (covered : path ∈ g.files) : g.Mismatches path ↔ db.Altered disk root path := by
  obtain ⟨file, hf⟩ := Option.isSome_iff_exists.mp (ExtTreeMap.mem_iff_isSome_getElem?.mp covered)
  have mirrored := h.files path file hf
  have length := h.length_symbols hf
  constructor
  · rintro ⟨file', content, hash, hf', hc, hh, differs⟩
    rw [hf] at hf'
    cases hf'
    have some_symbol := wellFormed.read path file hf (by rw [hc]; rfl)
    obtain ⟨readable, -⟩ := contentOf?_of_readContent (mirrored.content some_symbol)
    have recorded := mirrored.hash
    rw [hh] at recorded
    obtain ⟨record, hr, rfl⟩ := Option.map_eq_some_iff.mp recorded.symm
    refine ⟨?_, content, record, readable.trans hc, hr, differs⟩
    rw [← length]
    exact fun none => some_symbol (List.eq_nil_of_length_eq_zero none)
  · rintro ⟨count, content, record, readable, hr, differs⟩
    have some_symbol : file.symbols ≠ [] := by
      rintro none
      rw [← length, none] at count
      exact count rfl
    obtain ⟨read, -⟩ := contentOf?_of_readContent (mirrored.content some_symbol)
    have recorded := mirrored.hash
    rw [hr] at recorded
    exact ⟨file, content, record.hash, hf, read.symm.trans readable, recorded, differs⟩

/-- Two snapshots that mirror the same tables report alike on a file of which the disks hold the
same, if they have the same number or the content is not other than recorded. -/
theorem report?_eq (h : g.Mirrors db disk root) (h' : g'.Mirrors db disk' root')
    (normal : db.Normal) {path : Path} (covered : path ∈ g.files) (covered' : path ∈ g'.files)
    {r r' : Except Error FileMetrics}
    (tolerated : tolerateReported (g.fileMetrics path now) = .ok r)
    (tolerated' : tolerateReported (g'.fileMetrics path now') = .ok r')
    (sameRead : db.symbolCount path.toString ≠ 0 →
      readContent disk (some root) path = readContent disk' (some root') path)
    (numbers : g'.id = g.id ∨ ¬g.Mismatches path) :
    g'.report? now' path = g.report? now path := by
  by_cases count : db.symbolCount path.toString = 0
  · have none := (not_congr (h.isSome_report? normal covered tolerated)).mpr (by simp [count])
    have none' := (not_congr (h'.isSome_report? normal covered' tolerated')).mpr (by simp [count])
    rw [Option.not_isSome_iff_eq_none] at none none'
    rw [none, none']
  have same := h.fileMetrics_eq h' normal covered covered' count (sameRead count) now
  obtain ⟨-, reported⟩ := tolerateReported_eq_ok tolerated
  rw [g'.report?_redated path now, report?, report?, same]
  cases hr : g.fileMetrics path now with
  | ok row => rfl
  | error e =>
    have number : e.renumbered g'.id = e := by
      rcases numbers with numbers | consistent
      · have self := h.fileMetrics_eq h normal covered covered count rfl now
        rw [hr] at self
        rw [numbers]
        exact (Except.error.inj self).symm
      · apply Error.renumbered_eq_self (reported e hr)
        rw [Bool.eq_false_iff]
        exact fun changed => consistent (mismatches_of_fileMetrics hr changed)
    change (if (e.renumbered g'.id).isAbsence then none else
      some (path.toString, (e.renumbered g'.id).message)) = _
    rw [number]

end Mirrors

end Snapshot

end CodeGauge
