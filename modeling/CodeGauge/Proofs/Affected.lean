import CodeGauge.Affected

/-!
# The order of affected sets

Inclusion is a partial order in which the union is the least upper bound. The lock keys of a set are
those of its files and of its symbols.
-/

open Std

namespace CodeGauge.Affected

variable {a b c : Affected} {path : Path} {id : Int}

/-- A file is in a union if it is in one of the sets. -/
@[simp] theorem mem_files_union : path ∈ (a ∪ b).files ↔ path ∈ a.files ∨ path ∈ b.files :=
  ExtTreeSet.mem_union_iff

/-- A symbol is in a union if it is in one of the sets. -/
@[simp] theorem mem_symbols_union : id ∈ (a ∪ b).symbols ↔ id ∈ a.symbols ∨ id ∈ b.symbols :=
  ExtTreeSet.mem_union_iff

/-- The files of a set made from lists are those listed. -/
@[simp] theorem mem_files_of {files : List Path} {symbols : List Int} :
    path ∈ (of files symbols).files ↔ path ∈ files := by
  rw [of, ExtTreeSet.mem_ofList, List.contains_iff_mem]

/-- The symbols of a set made from lists are those listed. -/
@[simp] theorem mem_symbols_of {files : List Path} {symbols : List Int} :
    id ∈ (of files symbols).symbols ↔ id ∈ symbols := by
  rw [of, ExtTreeSet.mem_ofList, List.contains_iff_mem]

/-- The keys of a set are those of its files and of its symbols. -/
theorem mem_lockKeys {k : LockKey} : k ∈ a.lockKeys ↔
    (∃ p ∈ a.files, LockKey.ofFile p.toString = k) ∨ ∃ s ∈ a.symbols, LockKey.ofSymbol s = k := by
  simp only [lockKeys, mem_sortedBy, List.mem_append, List.mem_map, ExtTreeSet.mem_toList]

/-- A set is a part of itself. -/
theorem subset_refl (a : Affected) : a ⊆ a :=
  subset_iff.mpr ⟨fun _ h => h, fun _ h => h⟩

/-- A part of a part is a part. -/
theorem subset_trans (h : a ⊆ b) (k : b ⊆ c) : a ⊆ c := by
  rw [subset_iff] at h k ⊢
  exact ⟨fun p hp => k.1 p (h.1 p hp), fun s hs => k.2 s (h.2 s hs)⟩

/-- The empty set is a part of every set. -/
theorem empty_subset (a : Affected) : ∅ ⊆ a :=
  subset_iff.mpr ⟨fun _ h => (ExtTreeSet.not_mem_empty h).elim,
    fun _ h => (ExtTreeSet.not_mem_empty h).elim⟩

/-- Sets that are parts of each other are the same. -/
theorem subset_antisymm (h : a ⊆ b) (k : b ⊆ a) : a = b := by
  rcases a with ⟨files, symbols⟩
  rcases b with ⟨files', symbols'⟩
  rw [subset_iff] at h k
  congr 1
  · exact ExtTreeSet.ext_mem fun p => ⟨h.1 p, k.1 p⟩
  · exact ExtTreeSet.ext_mem fun s => ⟨h.2 s, k.2 s⟩

/-- A union is a part of a set if both of its sets are. -/
theorem union_subset_iff : a ∪ b ⊆ c ↔ a ⊆ c ∧ b ⊆ c := by
  simp only [subset_iff, mem_files_union, mem_symbols_union, or_imp, forall_and]
  exact and_and_and_comm

/-- The first set is a part of the union. -/
theorem subset_union_left (a b : Affected) : a ⊆ a ∪ b :=
  (union_subset_iff.mp (subset_refl _)).1

/-- The second set is a part of the union. -/
theorem subset_union_right (a b : Affected) : b ⊆ a ∪ b :=
  (union_subset_iff.mp (subset_refl _)).2

end CodeGauge.Affected
