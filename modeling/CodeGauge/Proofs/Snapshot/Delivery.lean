import CodeGauge.Proofs.Snapshot.Measures
import CodeGauge.Proofs.Store.Listing
import CodeGauge.Proofs.Store.Soundness

/-!
# Snapshots whose rows can be computed and stored

From sound tables the snapshot of the whole graph can be taken if no file of the graph has a path
with a character NUL: any other path that leads to no content leaves a reason in its place. The rows
of the files can then be computed, apart from those with a report, and stored. The row of a symbol
can be computed and stored if its lines and its bytes fit. So all rows can be delivered exactly when
each symbol can be metered (`SymbolRow.Meterable`).
-/

open Std

namespace CodeGauge

open CodeGauge.Action (fits)

variable {ω : Type} {db : Database} {disk : Disk} {root : Path} {now : Int}

/-- No name on the path has a character NUL. -/
def Path.Nameable (p : Path) : Prop :=
  ∀ name ∈ p.names, '\x00' ∉ name.toList

/-- Whether a path can be looked up is decided name by name. -/
instance (p : Path) : Decidable p.Nameable :=
  inferInstanceAs (Decidable (∀ name ∈ p.names, _))

/-- A file has fewer bytes than the largest integer that a column can hold. -/
def Disk.Sized (disk : Disk) : Prop :=
  ∀ x ∈ disk.contents.toList, x.2.size < 0x7fffffffffffffff

/-- Whether a disk has files of sizes that a column holds is decided file by file. -/
instance (disk : Disk) : Decidable disk.Sized :=
  inferInstanceAs (Decidable (∀ x ∈ disk.contents.toList, _))

/-- The symbol can be metered: the path of its file can be looked up below the root, and its lines
and bytes fit. -/
structure SymbolRow.Meterable (row : SymbolRow) (root : Path) : Prop where
  place : (root / Path.ofString row.file).Nameable
  lines : LinesFit row.line row.endLine
  bytes : BytesFit row.byteStart row.byteEnd

/-- Whether a symbol can be metered is decided on its row. -/
instance (row : SymbolRow) (root : Path) : Decidable (row.Meterable root) :=
  decidable_of_iff ((root / Path.ofString row.file).Nameable ∧ LinesFit row.line row.endLine ∧
      BytesFit row.byteStart row.byteEnd)
    ⟨fun ⟨place, lines, bytes⟩ => ⟨place, lines, bytes⟩,
      fun h => ⟨h.place, h.lines, h.bytes⟩⟩

/-- The number of files that have a symbol. -/
def Database.fileCount (db : Database) : Nat :=
  (ExtTreeSet.ofList (db.symbols.toList.map (·.2.file))).size

/-- The whole graph can be metered: its symbols can, and its files are no more than a statement may
list. -/
structure Database.Meterable (db : Database) (root : Path) (capacity : Capacity) : Prop where
  symbol : ∀ (id : Int) (row : SymbolRow), db.symbols[id]? = some row → row.Meterable root
  few : db.fileCount ≤ capacity.listed

/-- Whether a graph can be metered is decided row by row. -/
instance (db : Database) (root : Path) (capacity : Capacity) :
    Decidable (db.Meterable root capacity) :=
  decidable_of_iff ((∀ x ∈ db.symbols.toList, x.2.Meterable root) ∧
      db.fileCount ≤ capacity.listed)
    ⟨fun ⟨symbols, few⟩ =>
      ⟨fun id row stored =>
        symbols (id, row) (ExtTreeMap.mem_toList_iff_getElem?_eq_some.mpr stored), few⟩,
      fun h => ⟨fun x mem =>
        h.symbol x.1 x.2 (ExtTreeMap.mem_toList_iff_getElem?_eq_some.mp mem), h.few⟩⟩

/-! ## Contents -/

private theorem Path.nameable_iff {p : Path} :
    p.Nameable ↔ p.names.any (·.toList.contains '\x00') = false := by
  simp [Nameable]

namespace Disk

private theorem locate_of_nameable {p : Path} (nameable : p.Nameable) :
    (∃ place, disk.locate p = .ok place) ∨ ∃ fault, disk.locate p = .error (.disk fault p) := by
  rw [locate, check, Path.nameable_iff.mp nameable, if_neg Bool.false_ne_true]
  split
  · exact .inr ⟨_, rfl⟩
  rw [Except.ok_bind]
  split
  · exact .inl ⟨_, rfl⟩
  · exact .inr ⟨_, rfl⟩

/-- A path that can be looked up leads to a content or to a fault of the disk. -/
theorem read_of_nameable (disk : Disk) {p : Path} (nameable : p.Nameable) :
    (∃ content, disk.read p = .ok content) ∨ ∃ fault, disk.read p = .error (.disk fault p) := by
  rw [read]
  rcases locate_of_nameable nameable with ⟨place, found⟩ | ⟨fault, failed⟩
  · rw [found, Except.ok_bind]
    split
    · exact .inl ⟨_, rfl⟩
    · exact .inr ⟨_, rfl⟩
    · exact .inr ⟨_, rfl⟩
  · rw [failed]
    exact .inr ⟨fault, rfl⟩

/-- A path with a character NUL is refused. -/
theorem read_of_not_nameable {p : Path} (unnameable : ¬p.Nameable) :
    disk.read p = .error .nulInPath := by
  rw [Path.nameable_iff, Bool.not_eq_false] at unnameable
  rw [read, locate, check, if_pos unnameable]
  rfl

private theorem Sized.size_lt (sized : disk.Sized) {p : Path} {content : ByteArray}
    (readable : disk.read p = .ok content) : content.size < 0x7fffffffffffffff := by
  obtain ⟨place, _, readable⟩ := Except.bind_eq_ok.mp readable
  split at readable
  next number _ =>
    cases readable
    rw [contentOf]
    cases held : disk.contents[number]? with
    | none => decide
    | some content => exact sized _ (ExtTreeMap.mem_toList_iff_getElem?_eq_some.mpr held)
  · cases readable
  · cases readable

end Disk

/-- What a file holds can be told exactly when its path can be looked up. -/
theorem readContent_returns_iff {path : Path} :
    (∃ r, readContent disk (some root) path = .ok r) ↔ (root / path).Nameable := by
  rw [readContent]
  dsimp only [diskPath, Option.elim]
  constructor
  · rintro ⟨r, told⟩
    apply Classical.byContradiction
    intro unnameable
    rw [Disk.read_of_not_nameable unnameable] at told
    cases told
  · intro nameable
    rcases disk.read_of_nameable nameable with ⟨content, made⟩ | ⟨fault, failed⟩
    · rw [made]
      exact ⟨_, rfl⟩
    · rw [failed]
      exact ⟨_, rfl⟩

/-- A column can hold the number of lines of a content that is not too large. -/
theorem inColumn_countLines {content : ByteArray} (small : content.size < 0x7fffffffffffffff) :
    inColumn (countLines content) = true := by
  have counted : content.data.count 10 ≤ content.data.size := Array.count_le_size
  change content.data.size < _ at small
  rw [inColumn_iff, countLines]
  omega

/-! ## Rows of files -/

namespace Snapshot

variable {g : Snapshot}

namespace Mirrors

variable (h : g.Mirrors db disk root) (sound : db.Sound) (dated : inColumn now = true)
include h sound dated

/-- The row of a covered file can be computed and stored, or there is a report in its place. -/
theorem exists_fileMetrics (sized : disk.Sized) {path : Path} (covered : path ∈ g.files) :
    ∃ r, tolerateReported (g.fileMetrics path now) = .ok r ∧ ∀ row, r = .ok row → row.Storable := by
  obtain ⟨file, hf⟩ := Option.isSome_iff_exists.mp (ExtTreeMap.mem_iff_isSome_getElem?.mp covered)
  obtain ⟨symbols, hs⟩ := h.exists_symbolsInFile hf
  rw [g.fileMetrics_of_covered hf hs]
  have failed {e : Error} (report : e.isReported = true) :
      ∃ r, tolerateReported (.error e : Except Error FileMetrics) = .ok r ∧
        ∀ row, r = .ok row → row.Storable := by
    refine ⟨.error e, tolerateReported_error report, ?_⟩
    intro row none
    cases none
  by_cases empty : symbols.isEmpty
  · rw [if_pos empty]
    exact failed rfl
  rw [if_neg empty]
  cases checked : g.checkedContent path file with
  | error e =>
    rw [Except.error_bind]
    exact failed (isReported_of_checkedContent checked)
  | ok content =>
  have length : symbols.length = db.symbolCount path.toString := by
    rw [← h.length_symbols hf, ← h.symbolsInFile_ids hf hs, List.length_map]
  have symbols_ne : file.symbols ≠ [] := by
    rw [← h.symbolsInFile_ids hf hs]
    simpa using empty
  have small : content.size < 0x7fffffffffffffff := by
    obtain ⟨_, same, readable, _⟩ | ⟨_, refused, _⟩ := h.checkedContent_cases hf symbols_ne
    · rw [checked] at same
      cases same
      rw [Database.contentOf?] at readable
      cases hr : disk.read (root / Path.ofString path.toString) with
      | error e => rw [hr] at readable; cases readable
      | ok content => rw [hr] at readable; cases readable; exact sized.size_lt hr
    · rw [checked] at refused
      cases refused
  have estimated : estimateLines (.int content.size) = .ok (estimateOf content.size) := by
    rw [estimateLines, toBinary64_int (inColumn_iff.mpr (by omega))]
    rfl
  rw [Except.ok_bind, estimated, Except.ok_bind]
  refine ⟨.ok _, rfl, ?_⟩
  intro row same
  cases same
  apply FileMetrics.storable (unsigned_estimateOf (by omega)) (by rw [countLines]; omega)
    (by omega) (by omega)
  simp only [List.forall_mem_cons]
  rw [length, h.fileFanIn_eq sound.normal hf hs, h.fileFanOut_eq sound.normal hf hs]
  exact ⟨sound.inColumn_symbolCount _, inColumn_countLines small, sound.inColumn_edgeCount _,
    sound.inColumn_edgeCount _, dated, List.forall_mem_nil _⟩

/-! ## Rows of symbols -/

/-- The row of a complete symbol can be computed and stored when its lines and its bytes fit. -/
theorem exists_symbolMetrics_iff {id : Int} {row : SymbolRow} (stored : db.symbols[id]? = some row)
    (complete : id ∈ g.complete) :
    (∃ m, g.symbolMetrics id now = .ok m ∧ m.draft.Storable) ↔
      LinesFit row.line row.endLine ∧ BytesFit row.byteStart row.byteEnd := by
  obtain ⟨s, hs⟩ := Option.isSome_iff_exists.mp (h.complete id complete)
  obtain ⟨row', stored', described⟩ := h.known id s hs
  rw [stored] at stored'
  cases stored'
  obtain ⟨own, _, _, _, line, endLine, byteStart, byteEnd⟩ := SymbolRow.symbol_eq_ok described
  obtain ⟨proper, whole⟩ := sound.symbol id row stored
  have fit : ∀ n ∈ [s.id, (db.edgeCount (db.entersSymbol id) : Int),
      (db.edgeCount (db.leavesSymbol id) : Int), now], inColumn n = true := by
    simp only [List.forall_mem_cons]
    rw [own]
    exact ⟨proper.2, sound.inColumn_edgeCount _, sound.inColumn_edgeCount _, dated,
      List.forall_mem_nil _⟩
  have bytes := exists_byteCount_iff (s := s) (byteStart ▸ whole.byteStart)
    (byteEnd ▸ whole.byteEnd)
  rw [← line, ← endLine, ← byteStart, ← byteEnd, ← exists_lineCount_iff, ← bytes,
    g.symbolMetrics_of_complete hs complete, h.countP_incoming sound.normal complete,
    h.countP_outgoing sound.normal complete]
  constructor
  · rintro ⟨m, made, storable⟩
    obtain ⟨lines, hl, made⟩ := Except.bind_eq_ok.mp made
    obtain ⟨size, hb, made⟩ := Except.bind_eq_ok.mp made
    obtain ⟨estimated, he, made⟩ := Except.bind_eq_ok.mp made
    cases made
    obtain ⟨counted, fits, sized⟩ := (SymbolMetrics.storable_iff fit).mp storable
    exact ⟨⟨lines, hl, counted, fits⟩, size, estimated, hb, he, sized⟩
  · rintro ⟨⟨lines, hl, counted, fits⟩, size, estimated, hb, he, sized⟩
    rw [hl, Except.ok_bind, hb, Except.ok_bind, he]
    exact ⟨_, rfl, (SymbolMetrics.storable_iff fit).mpr ⟨counted, fits, sized⟩⟩

/-- The rows of covered files, of their symbols and of further ones can be computed and stored, or
there are reports in their place, if the symbols of the graph can be metered. -/
theorem delivers (sized : disk.Sized) {files : List Path} {symbols : List Int}
    (covered : ∀ path ∈ files, path ∈ g.files)
    (complete : ∀ id ∈ symbols, (db.symbols[id]?).isSome → id ∈ g.complete)
    (meterable : ∀ (id : Int) (row : SymbolRow), db.symbols[id]? = some row →
      row.Meterable root) :
    ∃ measured a, g.measureFiles files now = .ok measured ∧
      g.aggregateFrom measured symbols now = .ok a ∧ (∀ row ∈ a.files, row.Storable) ∧
      ∀ row ∈ a.symbols, row.draft.Storable := by
  have symbol {id : Int} (listed : id ∈ symbols ∨ g.Lists files id) :
      ∃ r, tolerateReported (g.symbolMetrics id now) = .ok r ∧
        ∀ m, r = .ok m → m.draft.Storable := by
    cases hs : g.symbol? id with
    | none =>
      refine ⟨.error (.noSymbol id), ?_, fun m none => nomatch none⟩
      rw [symbolMetrics, hs]
      rfl
    | some s =>
      obtain ⟨row, stored, _⟩ := h.known id s hs
      have whole : id ∈ g.complete := by
        rcases listed with further | ⟨path, asked, own, hs, mem⟩
        · exact complete id further (by rw [stored]; rfl)
        · obtain ⟨file, hf⟩ := Option.isSome_iff_exists.mp
            (ExtTreeMap.mem_iff_isSome_getElem?.mp (covered path asked))
          rw [h.symbolsInFile_ids hf hs] at mem
          exact (h.files path file hf).complete id mem
      obtain ⟨_, lines, bytes⟩ := meterable id row stored
      obtain ⟨m, made, storable⟩ :=
        (h.exists_symbolMetrics_iff sound dated stored whole).mpr ⟨lines, bytes⟩
      refine ⟨.ok m, by rw [made]; rfl, ?_⟩
      intro _ same
      cases same
      exact storable
  obtain ⟨measured, hm⟩ : ∃ measured, g.measureFiles files now = .ok measured := by
    apply exists_measureFiles
    intro path asked
    obtain ⟨file, hf⟩ := Option.isSome_iff_exists.mp
      (ExtTreeMap.mem_iff_isSome_getElem?.mp (covered path asked))
    obtain ⟨r, made, _⟩ := h.exists_fileMetrics sound dated sized (covered path asked)
    exact ⟨h.exists_symbolsInFile hf, r, made⟩
  obtain ⟨a, ha⟩ : ∃ a, g.aggregateFrom measured symbols now = .ok a := by
    apply exists_aggregateFrom hm
    intro id listed
    obtain ⟨r, made, _⟩ := symbol listed
    exact ⟨r, made⟩
  obtain ⟨fileResults, symbolResults, fileRows, symbolRows, rfl⟩ := aggregateFrom_answers hm ha
  refine ⟨measured, _, hm, ha, fun row mem => ?_, fun row mem => ?_⟩
  · obtain ⟨path, asked, made⟩ := fileRows.of_row mem
    obtain ⟨r, made', storable⟩ := h.exists_fileMetrics sound dated sized (covered path asked)
    rw [made] at made'
    cases made'
    exact storable row rfl
  · obtain ⟨id, asked, made⟩ := symbolRows.of_row mem
    obtain ⟨r, made', storable⟩ := symbol asked
    rw [made] at made'
    cases made'
    exact storable row rfl

end Mirrors

/-! ## The whole graph -/

namespace ShowsAll

variable (shows : g.ShowsAll db disk root) (sound : db.Sound) (dated : inColumn now = true)
include shows

include sound

private theorem exists_covered {id : Int} {row : SymbolRow} (stored : db.symbols[id]? = some row) :
    id ∈ g.complete ∧ g.Lists g.files.keys id ∧ ∃ file,
      g.files[Path.ofString row.file]? = some file ∧ file.symbols ≠ [] := by
  have mem : Path.ofString row.file ∈ g.files := (shows.files _).mpr ⟨id, row, stored, rfl⟩
  obtain ⟨file, hf⟩ := Option.isSome_iff_exists.mp (ExtTreeMap.mem_iff_isSome_getElem?.mp mem)
  have written := sound.normal id row stored
  have own := ((shows.mirrors.files _ file hf).symbols id).mpr ⟨row, stored, written.symm⟩
  refine ⟨(shows.complete id).mpr (by rw [stored]; rfl), ?_, file, hf, List.ne_nil_of_mem own⟩
  rw [shows.mirrors.lists_iff fun path => ExtTreeMap.mem_keys.mp]
  exact ⟨row, stored, _, ExtTreeMap.mem_keys.mpr mem, written⟩

include dated

/-- The rows of a graph of which every symbol can be metered can be computed and stored. -/
theorem delivers (sized : disk.Sized) (meterable : ∀ (id : Int) (row : SymbolRow),
    db.symbols[id]? = some row → row.Meterable root) :
    ∃ measured a, g.measureFiles g.files.keys now = .ok measured ∧
      g.aggregateFrom measured [] now = .ok a ∧ (∀ row ∈ a.files, row.Storable) ∧
      ∀ row ∈ a.symbols, row.draft.Storable := by
  apply shows.mirrors.delivers sound dated sized (fun path => ExtTreeMap.mem_keys.mp)
  · intro id none
    exact (List.not_mem_nil none).elim
  · exact meterable

/-- Every symbol of a graph can be metered if its row could be computed and stored. -/
theorem meterable {measured : List MeasuredFile} {a : Aggregate}
    (hm : g.measureFiles g.files.keys now = .ok measured)
    (ha : g.aggregateFrom measured [] now = .ok a)
    (storable : ∀ row ∈ a.symbols, row.draft.Storable) {id : Int} {row : SymbolRow}
    (stored : db.symbols[id]? = some row) : row.Meterable root := by
  obtain ⟨complete, listed, file, hf, symbols_ne⟩ := shows.exists_covered sound stored
  have place := readContent_returns_iff.mp
    ⟨_, (shows.mirrors.files _ file hf).content symbols_ne⟩
  obtain ⟨fileResults, symbolResults, _, symbols, rfl⟩ := aggregateFrom_answers hm ha
  obtain ⟨r, mem⟩ := symbols.complete id (.inr listed)
  obtain ⟨_, made⟩ := symbols.outcomes id r mem
  have outcome := shows.mirrors.symbolOutcome sound.normal (fun _ => complete) made
  cases outcome with
  | absent missing =>
    rw [stored] at missing
    cases missing
  | @measured m =>
    obtain ⟨same, _⟩ := tolerateReported_eq_ok made
    obtain ⟨lines, bytes⟩ :=
      (shows.mirrors.exists_symbolMetrics_iff sound dated stored complete).mp
        ⟨m, same.symm, storable m (mem_rowsOf.mpr ⟨id, mem⟩)⟩
    exact ⟨place, lines, bytes⟩

end ShowsAll

end Snapshot

/-! ## Loading -/

namespace Graph

open CodeGauge.Action (Replies queryListed_replies queryAll_replies query_reads query_lists)

variable {capacity : Capacity}

/-- All symbols of sound tables are read. -/
theorem allSymbols_replies (sound : db.Sound) :
    (allSymbols : Action ω (List Symbol)).Replies db capacity := by
  refine (queryAll_replies ⟨rfl, rfl⟩ _).bind (query_reads _ _ _) ?_
  rintro _ rfl
  exact .of (sound.exists_symbolsOf fun _ mem => (Database.mem_symbolsWhere.mp mem).1)

/-- All edges of sound tables are read. -/
theorem allEdges_replies (sound : db.Sound) :
    (allEdges : Action ω (List Edge)).Replies db capacity := by
  refine (queryAll_replies ⟨rfl, rfl⟩ _).bind (query_reads _ _ _) ?_
  rintro _ rfl
  exact .of (sound.exists_edgesOf _)

/-- The paths of all files with a symbol are read. -/
theorem filePaths_replies : (filePaths : Action ω (List Path)).Replies db capacity := by
  refine (queryAll_replies ⟨rfl, rfl⟩ _).bind (query_reads _ _ _) ?_
  intro _ _
  exact .pure _

private theorem hashes_replies {paths : List Path}
    (few : (textsOf paths).length ≤ capacity.listed) :
    (hashes paths : Action ω (ExtTreeMap Path String)).Replies db capacity := by
  have within : (Statement.hashesOfFiles (textsOf paths).length).listed ≤ capacity.listed := few
  unfold hashes
  dsimp only
  split
  · exact .pure _
  refine (queryListed_replies within rfl ?_ _).bind (query_reads _ _ _) ?_
  · intro v mem
    obtain ⟨file, _, rfl⟩ := List.mem_map.mp mem
    rfl
  · intro _ _
    exact .pure _

/-- The files of the graph are those that have a symbol. -/
theorem length_textsOf (normal : db.Normal) {paths : List Path}
    (listed : ∀ p, p ∈ paths ↔ ∃ (id : Int) (row : SymbolRow), db.symbols[id]? = some row ∧
      Path.ofString row.file = p) : (textsOf paths).length = db.fileCount := by
  have nodup : (textsOf paths).Nodup := nodup_toList _
  rw [Database.fileCount, ← ExtTreeSet.length_toList]
  apply List.Perm.length_eq
  apply (List.perm_ext_iff_of_nodup nodup (nodup_toList _)).mpr
  intro file
  rw [mem_textsOf, ExtTreeSet.mem_toList, ExtTreeSet.mem_ofList, List.contains_iff_mem,
    List.mem_map]
  constructor
  · rintro ⟨p, asked, rfl⟩
    obtain ⟨id, row, stored, rfl⟩ := (listed p).mp asked
    refine ⟨(id, row), ExtTreeMap.mem_toList_iff_getElem?_eq_some.mpr stored, ?_⟩
    exact (normal id row stored).symm
  · rintro ⟨⟨id, row⟩, mem, rfl⟩
    have stored := ExtTreeMap.mem_toList_iff_getElem?_eq_some.mp mem
    exact ⟨_, (listed _).mpr ⟨id, row, stored, rfl⟩, normal id row stored⟩

/-- Digests that were looked up are of no more files than a statement may list. -/
theorem hashes_lists (paths : List Path) :
    (hashes paths : Action ω (ExtTreeMap Path String)).Lists db capacity fun _ =>
      (textsOf paths).length ≤ capacity.listed := by
  unfold hashes
  dsimp only
  split
  · next empty =>
    rw [List.isEmpty_iff] at empty
    rw [empty]
    exact .pure (Nat.zero_le _)
  · exact (query_lists _ _ _).bind fun _ within => .pure within

end Graph

namespace Snapshot

open CodeGauge.Action World

variable {w : World ω}

/-- Files are covered one after another if the paths of those that are read can be looked up. -/
theorem exists_foldlM_cover (disk : Disk) {ids : Path → List Int} {hash : Path → Option String}
    (unread : Path → Bool) {paths : List Path}
    (places : ∀ path ∈ paths, unread path = false → (root / path).Nameable) (g : Snapshot) :
    ∃ g', paths.foldlM (fun g path =>
      g.cover disk (some root) path (ids path) (hash path) (unread path)) g = .ok g' := by
  induction paths generalizing g with
  | nil => exact ⟨g, rfl⟩
  | cons path paths ih =>
    rw [List.foldlM_cons]
    apply Except.exists_bind_eq_ok
    · cases left : unread path with
      | true => exact ⟨_, rfl⟩
      | false =>
        obtain ⟨⟨content, readError⟩, told⟩ : ∃ r, readContent disk (some root) path = .ok r :=
          readContent_returns_iff.mpr (places path List.mem_cons_self left)
        rw [cover, if_neg Bool.false_ne_true, told]
        exact ⟨_, rfl⟩
    · intro g₁ _
      exact ih (fun path mem => places path (List.mem_cons_of_mem _ mem)) g₁

/-- What the whole graph is read with, inside one transaction. -/
def readWhole : Action ω (List Symbol × List Edge × List Path × ExtTreeMap Path String) := do
  let symbols ← Graph.allSymbols
  let edges ← Graph.allEdges
  let files ← Graph.filePaths
  let hashes ← Graph.hashes files
  return (symbols, edges, files, hashes)

/-- The files that are read are those with a symbol. -/
theorem readWhole_reads :
    (readWhole : Action ω _).Reads db fun x => ∀ p, p ∈ x.2.2.1 ↔
      ∃ (id : Int) (row : SymbolRow), db.symbols[id]? = some row ∧ Path.ofString row.file = p := by
  refine Graph.allSymbols_reads.bind fun symbols _ => ?_
  refine Graph.allEdges_reads.bind fun edges _ => ?_
  refine Graph.filePaths_reads.bind fun paths listed => ?_
  refine (Graph.hashes_reads _).bind fun hashes _ => ?_
  exact .pure listed

private theorem readWhole_replies {capacity : Capacity} (sound : db.Sound)
    (few : db.fileCount ≤ capacity.listed) : (readWhole : Action ω _).Replies db capacity := by
  refine (Graph.allSymbols_replies sound).bind Graph.allSymbols_reads fun symbols _ => ?_
  refine (Graph.allEdges_replies sound).bind Graph.allEdges_reads fun edges _ => ?_
  refine Graph.filePaths_replies.bind Graph.filePaths_reads fun paths listed => ?_
  rw [← Graph.length_textsOf sound.normal listed] at few
  refine (Graph.hashes_replies few).bind (Graph.hashes_reads _) fun hashes _ => ?_
  exact .pure _

/-- The files of symbols that can be metered are covered one after another. -/
theorem exists_foldlM_cover_files (disk : Disk) {ids : Path → List Int}
    {hash : Path → Option String} {paths : List Path}
    (listed : ∀ p ∈ paths, ∃ (id : Int) (row : SymbolRow), db.symbols[id]? = some row ∧
      Path.ofString row.file = p)
    (meterable : ∀ (id : Int) (row : SymbolRow), db.symbols[id]? = some row → row.Meterable root)
    (g : Snapshot) :
    ∃ g', (ExtTreeSet.ofList paths).toList.foldlM (fun g path =>
      g.cover disk (some root) path (ids path) (hash path) false) g = .ok g' := by
  refine exists_foldlM_cover disk (fun _ => false) (fun path mem _ => ?_) g
  rw [ExtTreeSet.mem_toList, ExtTreeSet.mem_ofList, List.contains_iff_mem] at mem
  obtain ⟨id, row, stored, rfl⟩ := listed path mem
  exact (meterable id row stored).place

/-- The whole graph can be loaded if it can be metered. -/
theorem loadAll_succeeds (ready : w.Ready db) (sound : db.Sound)
    (meterable : db.Meterable root w.capacity) :
    (loadAll (some root)).Succeeds w fun _ w' => w'.Ready db := by
  unfold loadAll
  refine .after (runIn_fresh w) ?_
  have ready₁ : World.Ready { w with loads := w.loads + 1 } db :=
    ⟨ready.whole, ready.isOpen, ready.writable⟩
  refine (Succeeds.reportingGraphFaults (reading_succeeds ready₁
    (readWhole_replies sound meterable.few) readWhole_reads)).bind ?_
  rintro ⟨symbols, edges, paths, hashes⟩ w₁ ⟨⟨listed, _⟩, ready₂⟩
  refine .after runIn_get ?_
  obtain ⟨g, made⟩ := exists_foldlM_cover_files w₁.disk (fun p => (listed p).mp) meterable.symbol _
  exact .of made ready₂

/-- The whole graph was loaded only if it has no more files than a statement may list. -/
theorem loadAll_lists (isOpen : w.Open db) (few : w.ListsFew) (normal : db.Normal) :
    (loadAll (some root)).Ensures w fun _ _ => db.fileCount ≤ w.capacity.listed := by
  unfold loadAll
  refine .after (runIn_fresh w) ?_
  have isOpen₁ : World.Open { w with loads := w.loads + 1 } db := isOpen
  have few₁ : World.ListsFew { w with loads := w.loads + 1 } := few
  refine (Ensures.reportingGraphFaults (reading_lists isOpen₁ few₁ (P := fun _ =>
    db.fileCount ≤ w.capacity.listed) ?_)).bind fun _ _ within _ _ _ => within
  refine (Lists.bind (P := fun _ => True) ?_) fun symbols _ => ?_
  · exact (query_lists _ _ _).bind fun _ _ => .of fun _ _ => trivial
  refine (Lists.bind (P := fun _ => True) ?_) fun edges _ => ?_
  · exact (query_lists _ _ _).bind fun _ _ => .of fun _ _ => trivial
  have paths_lists : (Graph.filePaths : Action ω (List Path)).Lists db w.capacity fun _ => True :=
    (query_lists _ _ _).bind fun _ _ => .pure trivial
  refine (paths_lists.reads Graph.filePaths_reads).bind fun paths listed => ?_
  refine (Graph.hashes_lists paths).bind fun hashes within => ?_
  rw [Graph.length_textsOf normal listed.2] at within
  exact .pure within

end Snapshot

end CodeGauge
