import CodeGauge.Proofs.Snapshot.Rows

/-!
# Snapshots of the same tables

Two snapshots that mirror the same tables have the same edges at a symbol that is complete in both,
and give it the same row. To a file that both cover they give the same row or, where its content
fails, errors that differ in the number of the snapshot alone (`Error.renumbered`), as long as the
two disks hold the same content for it.
-/

open Std

namespace CodeGauge

/-- The error as a snapshot of this number would give it. -/
def Error.renumbered (n : Nat) : Error → Error
  | .contentChanged path _ => .contentChanged path n
  | .fileNotCovered _ path => .fileNotCovered n path
  | .symbolNotCovered _ id => .symbolNotCovered n id
  | e => e

/-- A size fails only by being too large, whatever snapshot it came from. -/
theorem mapError_estimateLines (n : Int) (number : Nat) :
    (estimateLines (.int n)).mapError (·.renumbered number) = estimateLines (.int n) := by
  rw [estimateLines, Value.toBinary64]
  cases Binary64.ofInt? n with
  | none => rfl
  | some x => rfl

namespace Snapshot

/-! ## Edges at a symbol -/

namespace Mirrors

variable {g g' : Snapshot} {db : Database} {disk disk' : Disk} {root root' : Path}

/-- The edges of a snapshot that a condition on both ends picks out are the stored ones, if the
condition implies that the edge was loaded. -/
theorem edgesOf_filter (h : g.Mirrors db disk root) {p : EdgeRow → Bool} {q : Edge → Bool}
    (agree : ∀ (row : EdgeRow) (e : Edge), e.caller = row.caller → e.callee = row.callee →
      q e = p row)
    (touches : ∀ row, p row = true →
      ∃ id ∈ g.complete, row.caller.id? = some id ∨ row.callee.id? = some id) :
    edgesOf (db.edgesWhere p) = .ok (g.edges.filter q) := by
  obtain ⟨loaded, made, whole⟩ := h.edges
  have picked : (db.edgesWhere loaded).filter (fun x => p x.2) = db.edgesWhere p := by
    rw [Database.edgesWhere, Database.edgesWhere, List.filter_filter]
    apply List.filter_congr
    rintro ⟨_, row⟩ _
    change (p row && loaded row) = p row
    cases hp : p row with
    | false => rfl
    | true =>
      obtain ⟨id, hc, touch⟩ := touches row hp
      simp [whole id hc row touch]
  rw [← picked]
  refine mapM_filter_eq_ok made ?_
  intro x _ e he
  obtain ⟨-, caller, callee⟩ := EdgeRow.edge_eq_ok he
  exact agree x.2 e caller callee

/-- The edges into a complete symbol are the stored ones, each once. -/
theorem edgesOf_incoming (h : g.Mirrors db disk root) {id : Int} (hc : id ∈ g.complete) :
    edgesOf (db.edgesWhere fun e => e.callee.id? == some id) = .ok (g.incoming id) := by
  apply h.edgesOf_filter
  · intro row e _ callee
    rw [callee]
  · intro row enters
    exact ⟨id, hc, .inr (eq_of_beq enters)⟩

/-- The edges from a complete symbol are the stored ones, each once. -/
theorem edgesOf_outgoing (h : g.Mirrors db disk root) {id : Int} (hc : id ∈ g.complete) :
    edgesOf (db.edgesWhere fun e => e.caller.id? == some id) = .ok (g.outgoing id) := by
  apply h.edgesOf_filter
  · intro row e caller _
    rw [caller]
  · intro row leaves
    exact ⟨id, hc, .inl (eq_of_beq leaves)⟩

/-- A complete symbol has the same incoming edges in all snapshots of one graph. -/
theorem incoming_eq (h : g.Mirrors db disk root) (h' : g'.Mirrors db disk' root') {id : Int}
    (hc : id ∈ g.complete) (hc' : id ∈ g'.complete) : g.incoming id = g'.incoming id := by
  have stored := h.edgesOf_incoming hc
  rw [h'.edgesOf_incoming hc'] at stored
  exact (Except.ok.inj stored).symm

/-- A complete symbol has the same outgoing edges in all snapshots of one graph. -/
theorem outgoing_eq (h : g.Mirrors db disk root) (h' : g'.Mirrors db disk' root') {id : Int}
    (hc : id ∈ g.complete) (hc' : id ∈ g'.complete) : g.outgoing id = g'.outgoing id := by
  have stored := h.edgesOf_outgoing hc
  rw [h'.edgesOf_outgoing hc'] at stored
  exact (Except.ok.inj stored).symm

/-! ## Rows -/

/-- A symbol that both snapshots know is the same in both. -/
theorem symbol?_eq (h : g.Mirrors db disk root) (h' : g'.Mirrors db disk' root') {id : Int}
    {s s' : Symbol} (hs : g.symbol? id = some s) (hs' : g'.symbol? id = some s') : s = s' := by
  obtain ⟨row, hr, made⟩ := h.known id s hs
  obtain ⟨row', hr', made'⟩ := h'.known id s' hs'
  rw [hr] at hr'
  cases hr'
  rw [made] at made'
  exact Except.ok.inj made'

/-- A symbol that is complete in both snapshots has the same row, or fails alike. -/
theorem symbolMetrics_eq (h : g.Mirrors db disk root) (h' : g'.Mirrors db disk' root')
    (normal : db.Normal) {id : Int} (hc : id ∈ g.complete) (hc' : id ∈ g'.complete) (now : Int) :
    g.symbolMetrics id now = g'.symbolMetrics id now := by
  obtain ⟨s, hs⟩ := Option.isSome_iff_exists.mp (h.complete id hc)
  obtain ⟨s', hs'⟩ := Option.isSome_iff_exists.mp (h'.complete id hc')
  obtain rfl := h.symbol?_eq h' hs hs'
  rw [g.symbolMetrics_of_complete hs hc, g'.symbolMetrics_of_complete hs' hc',
    h.countP_incoming normal hc, h'.countP_incoming normal hc', h.countP_outgoing normal hc,
    h'.countP_outgoing normal hc']

/-- A file that both snapshots cover has the same number of symbols in both. -/
theorem length_symbols_eq (h : g.Mirrors db disk root) (h' : g'.Mirrors db disk' root')
    {path : Path} {file file' : CoveredFile} (hf : g.files[path]? = some file)
    (hf' : g'.files[path]? = some file') {symbols symbols' : List Symbol}
    (hs : g.symbolsInFile path = .ok symbols) (hs' : g'.symbolsInFile path = .ok symbols') :
    symbols.length = symbols'.length := by
  have ids := congrArg List.length (h.symbolsInFile_ids hf hs)
  have ids' := congrArg List.length (h'.symbolsInFile_ids hf' hs')
  rw [List.length_map, h.length_symbols hf] at ids
  rw [List.length_map, h'.length_symbols hf'] at ids'
  omega

/-- The same content passes the check of both snapshots, or fails in both. -/
theorem checkedContent_eq (h : g.Mirrors db disk root) (h' : g'.Mirrors db disk' root')
    {path : Path} {file file' : CoveredFile} (hf : g.files[path]? = some file)
    (hf' : g'.files[path]? = some file') (some_symbol : db.symbolCount path.toString ≠ 0)
    (sameRead : readContent disk (some root) path = readContent disk' (some root') path) :
    g'.checkedContent path file' =
      (g.checkedContent path file).mapError (·.renumbered g'.id) := by
  have ne : file.symbols ≠ [] := by
    rw [← h.length_symbols hf] at some_symbol
    exact List.ne_nil_of_length_pos (Nat.pos_of_ne_zero some_symbol)
  have ne' : file'.symbols ≠ [] := by
    rw [← h'.length_symbols hf'] at some_symbol
    exact List.ne_nil_of_length_pos (Nat.pos_of_ne_zero some_symbol)
  have read := (h.files path file hf).content ne
  have read' := (h'.files path file' hf').content ne'
  rw [← sameRead, read] at read'
  have hash := (h.files path file hf).hash
  have hash' := (h'.files path file' hf').hash
  have same := Prod.mk.inj (Except.ok.inj read')
  rw [checkedContent, checkedContent, ← same.1, ← same.2, hash, hash']
  cases file.content with
  | none =>
    dsimp only
    split
    · rfl
    · rfl
  | some content =>
    dsimp only
    split
    · rfl
    · rfl

/-- A file with a symbol that both snapshots cover has the same row, or fails alike, if its content
is the same. -/
theorem fileMetrics_eq (h : g.Mirrors db disk root) (h' : g'.Mirrors db disk' root')
    (normal : db.Normal) {path : Path} (hf : path ∈ g.files) (hf' : path ∈ g'.files)
    (some_symbol : db.symbolCount path.toString ≠ 0)
    (sameRead : readContent disk (some root) path = readContent disk' (some root') path)
    (now : Int) :
    g'.fileMetrics path now =
      (g.fileMetrics path now).mapError (·.renumbered g'.id) := by
  obtain ⟨file, hf⟩ := ExtTreeMap.mem_iff_isSome_getElem?.mp hf |> Option.isSome_iff_exists.mp
  obtain ⟨file', hf'⟩ := ExtTreeMap.mem_iff_isSome_getElem?.mp hf' |> Option.isSome_iff_exists.mp
  obtain ⟨symbols, hs⟩ := h.exists_symbolsInFile hf
  obtain ⟨symbols', hs'⟩ := h'.exists_symbolsInFile hf'
  have length := h.length_symbols_eq h' hf hf' hs hs'
  have empty : symbols.isEmpty = symbols'.isEmpty := by
    rw [Bool.eq_iff_iff, List.isEmpty_iff_length_eq_zero, List.isEmpty_iff_length_eq_zero, length]
  rw [g.fileMetrics_of_covered hf hs, g'.fileMetrics_of_covered hf' hs', ← empty,
    h.checkedContent_eq h' hf hf' some_symbol sameRead, ← length,
    h.fileFanIn_eq normal hf hs, h'.fileFanIn_eq normal hf' hs', h.fileFanOut_eq normal hf hs,
    h'.fileFanOut_eq normal hf' hs']
  split
  · rfl
  · rw [Except.mapError_bind]
    congr 1
    funext content
    rw [Except.mapError_bind, mapError_estimateLines]
    rfl

end Mirrors

end Snapshot

end CodeGauge
