import CodeGauge.Proofs.Engine.Renewal
import CodeGauge.Proofs.Snapshot.Surroundings

/-!
# Exact tables after a renewal

Tables are exact once the rows of a set have been renewed, if every content could be used and the
rows outside of the set are those that they ought to be.

A change of the graph touches some symbols and leaves the others and the edges between them as they
were (`Database.AgreesOutside`). The reference row of an entity can differ only next to a touched
symbol, before the change or after it. Tables that were exact before are therefore exact again once
the rows of a set have been renewed that surrounds the touched symbols in both graphs.
-/

open Std

namespace CodeGauge

variable {db db' after : Database} {disk disk' : Disk} {root : Path} {A : Affected} {now : Int}
  {T : Int → Prop}

/-! ## Renewed tables -/

private theorem FileMetricsRow.undated_dated {row : FileMetricsRow} {file : String}
    (h : db.fileReference disk root file = some row) (now : Int) :
    (row.dated now).undated = row := by
  rw [Database.fileReference] at h
  split at h
  · cases h
  · have ⟨_, _, made⟩ := Option.map_eq_some_iff.mp h
    rw [← made]
    rfl

private theorem SymbolMetricsRow.undated_dated {row : SymbolMetricsRow} {id : Int}
    (h : db.symbolReference id = some row) (now : Int) : (row.dated now).undated = row := by
  have ⟨_, _, made⟩ := Option.map_eq_some_iff.mp h
  rw [← made]
  rfl

namespace Database

/-- Tables with one graph count the same symbols in a file. -/
theorem SameGraph.symbolCount_eq (h : db.SameGraph db') (file : String) :
    db'.symbolCount file = db.symbolCount file := by
  rw [SameGraph] at h
  rw [h]
  rfl

/-- Tables with one graph record the same contents as current. -/
theorem SameGraph.isCurrent_iff (h : db.SameGraph db') (file : String) :
    db'.isCurrent disk root file ↔ db.isCurrent disk root file := by
  rw [SameGraph] at h
  rw [h]
  rfl

/-- Tables with one graph ask for the same row of a file. -/
theorem SameGraph.fileReference_eq (h : db.SameGraph db') (file : String) :
    db'.fileReference disk root file = db.fileReference disk root file := by
  rw [SameGraph] at h
  rw [h]
  rfl

/-- Tables with one graph ask for the same row of a symbol. -/
theorem SameGraph.symbolReference_eq (h : db.SameGraph db') (id : Int) :
    db'.symbolReference id = db.symbolReference id := by
  rw [SameGraph] at h
  rw [h]
  rfl

/-- A symbol row that is as it ought to be is filed under the file of its symbol. -/
theorem not_misfiled {id : Int}
    (h : (db.symbolMetrics[id]?).map (·.undated) = db.symbolReference id) (file : String) :
    ¬db.Misfiled id file := by
  intro ⟨⟨row, held, own⟩, elsewhere⟩
  rw [held, Option.map_some] at h
  have ⟨symbol, hs, path⟩ := path_of_symbolReference h.symm
  exact elsewhere ⟨symbol, hs, path.trans own⟩

/-- A file in the set has the row that it ought to have, if it has no symbol or its content could be
used. -/
theorem Renewed.file_undated (renewed : db.Renewed after disk root A now) {path : Path}
    (hpath : path ∈ A.files)
    (current : db.symbolCount path.toString ≠ 0 → db.isCurrent disk root path.toString) :
    (after.fileMetrics[path.toString]?).map (·.undated) =
      db.fileReference disk root path.toString := by
  by_cases count : db.symbolCount path.toString = 0
  · rw [renewed.file_dropped path hpath count, fileReference, if_pos count]
    rfl
  · have ⟨row, reference, fresh⟩ := renewed.file_fresh path hpath count (current count)
    rw [fresh, reference, Option.map_some, FileMetricsRow.undated_dated reference]

/-- A symbol that the set covers has the row that it ought to have. -/
theorem Renewed.symbol_undated (renewed : db.Renewed after disk root A now) {id : Int}
    (covered : db.Covers A id) :
    (after.symbolMetrics[id]?).map (·.undated) = db.symbolReference id := by
  cases hr : db.symbols[id]? with
  | some row =>
    have ⟨row', reference, fresh⟩ := renewed.symbol_fresh id covered (by rw [hr]; rfl)
    rw [fresh, reference, Option.map_some, SymbolMetricsRow.undated_dated reference]
  | none =>
    have own : id ∈ A.symbols := by
      rcases covered with own | ⟨row, hr', _⟩
      · exact own
      · rw [hr] at hr'
        cases hr'
    rw [renewed.symbol_dropped id own hr, symbolReference_eq_none.mpr hr]
    rfl

/-- Renewed tables are exact if every content could be used and the rows outside of the set were
those that they ought to be. -/
theorem Renewed.exact (renewed : db.Renewed after disk root A now)
    (current : ∀ path ∈ A.files, db.symbolCount path.toString ≠ 0 →
      db.isCurrent disk root path.toString)
    (files : ∀ file, (∀ path ∈ A.files, path.toString ≠ file) →
      (db.fileMetrics[file]?).map (·.undated) = db.fileReference disk root file)
    (symbols : ∀ id, id ∉ A.symbols →
      (db.symbolMetrics[id]?).map (·.undated) = db.symbolReference id)
    (pathless : db.pathlessMetrics = []) : after.Exact disk root := by
  constructor
  · intro file
    rw [renewed.graph.fileReference_eq]
    by_cases held : ∃ path ∈ A.files, path.toString = file
    · have ⟨path, hpath, same⟩ := held
      rw [← same]
      exact renewed.file_undated hpath (current path hpath)
    · have far : ∀ path ∈ A.files, path.toString ≠ file :=
        fun path hpath same => held ⟨path, hpath, same⟩
      rw [renewed.file_other file far]
      exact files file far
  · intro id
    rw [renewed.graph.symbolReference_eq]
    by_cases covered : db.Covers A id
    · exact renewed.symbol_undated covered
    · have far : id ∉ A.symbols := fun own => covered (.inl own)
      rw [renewed.symbol_other id covered fun _ _ => not_misfiled (symbols id far) _]
      exact symbols id far
  · have graph := renewed.graph
    rw [SameGraph] at graph
    rw [graph]
    exact pathless

end Database

/-! ## Changes of the graph -/

/-- The databases have the same metrics rows, the same symbols apart from touched ones, and the same
edges between stored symbols that are not touched. -/
structure Database.AgreesOutside (db db' : Database) (T : Int → Prop) : Prop where
  symbols : ∀ id, ¬T id → db'.symbols[id]? = db.symbols[id]?
  edges : ∀ (n : Int) (e : EdgeRow) (i j : Int), e.caller.id? = some i → e.callee.id? = some j →
    ¬T i → ¬T j → (db.symbols[i]?).isSome → (db.symbols[j]?).isSome →
    (db'.edges[n]? = some e ↔ db.edges[n]? = some e)
  fileMetrics : db'.fileMetrics = db.fileMetrics
  symbolMetrics : db'.symbolMetrics = db.symbolMetrics
  pathless : db'.pathlessMetrics = db.pathlessMetrics

namespace Database

private theorem AgreesOutside.symm (h : db.AgreesOutside db' T) : db'.AgreesOutside db T := by
  refine ⟨fun id hid => (h.symbols id hid).symm, fun n e i j hi hj ti tj si sj => ?_,
    h.fileMetrics.symm, h.symbolMetrics.symm, h.pathless.symm⟩
  rw [h.symbols i ti] at si
  rw [h.symbols j tj] at sj
  exact (h.edges n e i j hi hj ti tj si sj).symm

/-- Inserting under a new key makes no difference to entries that are not like the inserted one. -/
theorem getElem?_insert_eq_some {β : Type} {table : ExtTreeMap Int β} {k : Int} {b : β}
    (new : table[k]? = none) (i : Int) {other : β} (differ : other ≠ b) :
    (table.insert k b)[i]? = some other ↔ table[i]? = some other := by
  rw [ExtTreeMap.getElem?_insert]
  split
  · next same =>
    rw [LawfulEqCmp.compare_eq_iff_eq] at same
    subst same
    rw [new]
    simp [differ.symm]
  · rfl

/-- Erasing makes no difference to entries that are not like the erased one. -/
theorem getElem?_erase_eq_some {β : Type} {table : ExtTreeMap Int β} {k : Int} {b : β}
    (held : table[k]? = some b) (i : Int) {other : β} (differ : other ≠ b) :
    (table.erase k)[i]? = some other ↔ table[i]? = some other := by
  rw [ExtTreeMap.getElem?_erase]
  split
  · next same =>
    rw [LawfulEqCmp.compare_eq_iff_eq] at same
    subst same
    rw [held]
    simp [differ.symm]
  · rfl

/-! ## What is counted -/

/-- Conditions that hold of the entries of two tables at the same keys count the same. -/
theorem countP_toList_eq {α β : Type} {table : ExtTreeMap Int α} {table' : ExtTreeMap Int β}
    {p : α → Bool} {q : β → Bool}
    (same : ∀ k : Int,
      (∃ a, table[k]? = some a ∧ p a = true) ↔ ∃ b, table'[k]? = some b ∧ q b = true) :
    (table.toList.countP fun x => p x.2) = table'.toList.countP fun x => q x.2 := by
  have perm : ((table.toList.filter fun x => p x.2).map (·.1)).Perm
      ((table'.toList.filter fun x => q x.2).map (·.1)) := by
    apply (List.perm_ext_iff_of_nodup (nodup_keys_filter table _) (nodup_keys_filter table' _)).mpr
    intro k
    simp only [List.mem_map, List.mem_filter, Prod.exists, exists_eq_right,
      ExtTreeMap.mem_toList_iff_getElem?_eq_some, exists_and_right]
    simpa using same k
  have length := perm.length_eq
  rw [List.length_map, List.length_map] at length
  rw [List.countP_eq_length_filter, List.countP_eq_length_filter, length]

private theorem countP_toList_congr {α : Type} {table table' : ExtTreeMap Int α} {p q : α → Bool}
    (same : ∀ (k : Int) (a : α),
      table[k]? = some a ∧ p a = true ↔ table'[k]? = some a ∧ q a = true) :
    (table.toList.countP fun x => p x.2) = table'.toList.countP fun x => q x.2 :=
  countP_toList_eq fun k => exists_congr (same k)

end Database

/-! ## Entities outside of the set -/

/-- The set does not hold both the symbol and its file. -/
def Affected.Misses (A : Affected) (id : Int) (file : String) : Prop :=
  ¬(id ∈ A.symbols ∧ ∃ path ∈ A.files, path.toString = file)

/-- Stored symbols that the set misses stay as they are, and so do the edges that join one of them
to a stored symbol, with both of their ends. -/
structure Database.KeepsOutside (db db' : Database) (A : Affected) : Prop where
  symbol : ∀ {id : Int} {row : SymbolRow}, db.symbols[id]? = some row → A.Misses id row.file →
    db'.symbols[id]? = some row
  edge : ∀ {n i j : Int} {e : EdgeRow} {row other : SymbolRow}, db.edges[n]? = some e →
    Joins e.caller e.callee i j → db.symbols[i]? = some row → db.symbols[j]? = some other →
    A.Misses i row.file → db'.edges[n]? = some e ∧ db'.symbols[j]? = some other

/-- A change that leaves what is not touched as it is keeps what is outside of a set that surrounds
the touched symbols. -/
theorem Database.AgreesOutside.keepsOutside (agrees : db.AgreesOutside db' T)
    (near : A.Surrounds db T) : db.KeepsOutside db' A := by
  have untouched {id : Int} {row : SymbolRow} (hr : db.symbols[id]? = some row)
      (far : A.Misses id row.file) : ¬T id :=
    fun touched => far (near id row hr (.inl touched))
  constructor
  · intro id row hr far
    rw [agrees.symbols id (untouched hr far)]
    exact hr
  · intro n i j e row other he joins hi hj far
    have ti : ¬T i := untouched hi far
    have si : (db.symbols[i]?).isSome := by
      rw [hi]
      rfl
    have sj : (db.symbols[j]?).isSome := by
      rw [hj]
      rfl
    have tj : ¬T j := by
      intro touched
      exact far (near i row hi (.inr ⟨j, n, e, touched, sj, he, joins.symm⟩))
    constructor
    · rcases joins with ⟨caller, callee⟩ | ⟨caller, callee⟩
      · exact (agrees.edges n e i j caller callee ti tj si sj).mpr he
      · exact (agrees.edges n e j i caller callee tj ti sj si).mpr he
    · rw [agrees.symbols j tj]
      exact hj

namespace Database.KeepsOutside

variable (keeps : db.KeepsOutside db' A)
include keeps

private theorem entersSymbol_kept {n id : Int} {e : EdgeRow} {row : SymbolRow}
    (hr : db.symbols[id]? = some row) (far : id ∉ A.symbols)
    (h : db.edges[n]? = some e ∧ db.entersSymbol id e = true) :
    db'.edges[n]? = some e ∧ db'.entersSymbol id e = true := by
  obtain ⟨he, enters⟩ := h
  simp only [entersSymbol, Bool.and_eq_true, isSome_fileOf?_iff] at enters ⊢
  obtain ⟨⟨callee, other⟩, i, source, caller, hi⟩ := enters
  obtain ⟨kept, hi'⟩ := keeps.edge he (.inr ⟨caller, eq_of_beq callee⟩) hr hi
    fun both => far both.1
  exact ⟨kept, ⟨callee, other⟩, i, source, caller, hi'⟩

private theorem leavesSymbol_kept {n id : Int} {e : EdgeRow} {row : SymbolRow}
    (hr : db.symbols[id]? = some row) (far : id ∉ A.symbols)
    (h : db.edges[n]? = some e ∧ db.leavesSymbol id e = true) :
    db'.edges[n]? = some e ∧ db'.leavesSymbol id e = true := by
  obtain ⟨he, leaves⟩ := h
  simp only [leavesSymbol, Bool.and_eq_true, isSome_fileOf?_iff] at leaves ⊢
  obtain ⟨⟨caller, other⟩, j, target, callee, hj⟩ := leaves
  obtain ⟨kept, hj'⟩ := keeps.edge he (.inl ⟨eq_of_beq caller, callee⟩) hr hj
    fun both => far both.1
  exact ⟨kept, ⟨caller, other⟩, j, target, callee, hj'⟩

private theorem entersFile_kept {n : Int} {e : EdgeRow} {file : String}
    (far : ∀ path ∈ A.files, path.toString ≠ file)
    (h : db.edges[n]? = some e ∧ db.entersFile file e = true) :
    db'.edges[n]? = some e ∧ db'.entersFile file e = true := by
  obtain ⟨he, enters⟩ := h
  simp only [entersFile, Bool.and_eq_true, beq_iff_eq, Option.any_eq_true, fileOf?_eq_some_iff]
    at enters ⊢
  obtain ⟨⟨j, target, callee, hj, own⟩, _, ⟨i, source, caller, hi, same⟩, other⟩ := enters
  have misses : A.Misses j target.file := by
    rintro ⟨_, path, hpath, file⟩
    exact far path hpath (file.trans own)
  have hj' := keeps.symbol hj misses
  obtain ⟨kept, hi'⟩ := keeps.edge he (.inr ⟨caller, callee⟩) hj hi misses
  exact ⟨kept, ⟨j, target, callee, hj', own⟩, _, ⟨i, source, caller, hi', same⟩, other⟩

private theorem leavesFile_kept {n : Int} {e : EdgeRow} {file : String}
    (far : ∀ path ∈ A.files, path.toString ≠ file)
    (h : db.edges[n]? = some e ∧ db.leavesFile file e = true) :
    db'.edges[n]? = some e ∧ db'.leavesFile file e = true := by
  obtain ⟨he, leaves⟩ := h
  simp only [leavesFile, Bool.and_eq_true, beq_iff_eq, Option.any_eq_true, fileOf?_eq_some_iff]
    at leaves ⊢
  obtain ⟨⟨i, source, caller, hi, own⟩, _, ⟨j, target, callee, hj, same⟩, other⟩ := leaves
  have misses : A.Misses i source.file := by
    rintro ⟨_, path, hpath, file⟩
    exact far path hpath (file.trans own)
  have hi' := keeps.symbol hi misses
  obtain ⟨kept, hj'⟩ := keeps.edge he (.inl ⟨caller, callee⟩) hi hj misses
  exact ⟨kept, ⟨i, source, caller, hi', own⟩, _, ⟨j, target, callee, hj', same⟩, other⟩

variable (back : db'.KeepsOutside db A)
include back

private theorem symbols_eq {id : Int} (far : id ∉ A.symbols) :
    db'.symbols[id]? = db.symbols[id]? := by
  ext row
  constructor
  · intro hr
    exact back.symbol hr fun both => far both.1
  · intro hr
    exact keeps.symbol hr fun both => far both.1

/-- A symbol that is missed ought to have the same row as before. -/
theorem symbolReference_eq {id : Int} (far : id ∉ A.symbols) :
    db'.symbolReference id = db.symbolReference id := by
  have stored := keeps.symbols_eq back far
  rw [symbolReference, symbolReference, stored]
  cases hr : db.symbols[id]? with
  | none => rfl
  | some row =>
    have hr' : db'.symbols[id]? = some row := stored.trans hr
    have into : db'.edgeCount (db'.entersSymbol id) = db.edgeCount (db.entersSymbol id) :=
      countP_toList_congr fun n e =>
        ⟨back.entersSymbol_kept hr' far, keeps.entersSymbol_kept hr far⟩
    have out : db'.edgeCount (db'.leavesSymbol id) = db.edgeCount (db.leavesSymbol id) :=
      countP_toList_congr fun n e =>
        ⟨back.leavesSymbol_kept hr' far, keeps.leavesSymbol_kept hr far⟩
    rw [into, out]

/-- A file that is missed and has the same content ought to have the same row as before. -/
theorem fileReference_eq {file : String} (far : ∀ path ∈ A.files, path.toString ≠ file)
    (content : contentOf? disk' root file = contentOf? disk root file) :
    db'.fileReference disk' root file = db.fileReference disk root file := by
  have misses (id : Int) {row : SymbolRow} (own : row.file = file) : A.Misses id row.file :=
    fun ⟨_, path, hpath, same⟩ => far path hpath (same.trans own)
  have symbols : db'.symbolCount file = db.symbolCount file := by
    refine countP_toList_congr (p := fun row : SymbolRow => row.file == file)
      (q := fun row : SymbolRow => row.file == file) fun id row => ?_
    rw [beq_iff_eq]
    constructor
    · intro ⟨hr, own⟩
      exact ⟨back.symbol hr (misses id own), own⟩
    · intro ⟨hr, own⟩
      exact ⟨keeps.symbol hr (misses id own), own⟩
  have into : db'.edgeCount (db'.entersFile file) = db.edgeCount (db.entersFile file) :=
    countP_toList_congr fun n e => ⟨back.entersFile_kept far, keeps.entersFile_kept far⟩
  have out : db'.edgeCount (db'.leavesFile file) = db.edgeCount (db.leavesFile file) :=
    countP_toList_congr fun n e => ⟨back.leavesFile_kept far, keeps.leavesFile_kept far⟩
  rw [fileReference, fileReference, symbols, content, into, out]

/-- Exact tables are exact again after a change that keeps what is outside of a set and all rows,
once the rows of the set have been renewed. -/
theorem exact (fileMetrics : db'.fileMetrics = db.fileMetrics)
    (symbolMetrics : db'.symbolMetrics = db.symbolMetrics)
    (pathless : db'.pathlessMetrics = db.pathlessMetrics) (exact : db.Exact disk root)
    (renewed : db'.Renewed after disk' root A now)
    (contents : ∀ file, (∀ path ∈ A.files, path.toString ≠ file) →
      contentOf? disk' root file = contentOf? disk root file)
    (current : ∀ path ∈ A.files, db'.symbolCount path.toString ≠ 0 →
      db'.isCurrent disk' root path.toString) : after.Exact disk' root := by
  apply renewed.exact current
  · intro file far
    rw [fileMetrics, keeps.fileReference_eq back far (contents file far)]
    exact exact.files file
  · intro id far
    rw [symbolMetrics, keeps.symbolReference_eq back far]
    exact exact.symbols id
  · rw [pathless]
    exact exact.pathless

end Database.KeepsOutside

/-- Exact tables are exact again after a change, once the rows of a set have been renewed that
surrounds what the change touches. -/
theorem Database.AgreesOutside.exact (agrees : db.AgreesOutside db' T) (near : A.Surrounds db T)
    (near' : A.Surrounds db' T) (exact : db.Exact disk root)
    (renewed : db'.Renewed after disk' root A now)
    (contents : ∀ file, (∀ path ∈ A.files, path.toString ≠ file) →
      contentOf? disk' root file = contentOf? disk root file)
    (current : ∀ path ∈ A.files, db'.symbolCount path.toString ≠ 0 →
      db'.isCurrent disk' root path.toString) : after.Exact disk' root :=
  (agrees.keepsOutside near).exact (agrees.symm.keepsOutside near') agrees.fileMetrics
    agrees.symbolMetrics agrees.pathless exact renewed contents current

end CodeGauge
