import CodeGauge.Lock.Key
import CodeGauge.Path
import CodeGauge.Sorting

/-!
# Affected sets

The files and symbols whose rows have to be computed anew. Two sets are joined by union, compared by
inclusion, and guarded by one lock key for each member. Follows sections 4.2 and 10.4 of the
specification.
-/

open Std

namespace CodeGauge

/-- A set of files and a set of symbols. -/
structure Affected where
  files : ExtTreeSet Path := ∅
  symbols : ExtTreeSet Int := ∅
  deriving DecidableEq

namespace Affected

/-- The set of the listed files and symbols. -/
def of (files : List Path) (symbols : List Int) : Affected :=
  ⟨.ofList files, .ofList symbols⟩

/-- The empty set. -/
instance : EmptyCollection Affected := ⟨{}⟩
/-- A set to start from. -/
instance : Inhabited Affected := ⟨∅⟩

/-- The files and the symbols of either set. -/
instance : Union Affected where
  union a b := ⟨a.files ∪ b.files, a.symbols ∪ b.symbols⟩

/-- Every file and symbol of `a` is in `b`. -/
protected def Subset (a b : Affected) : Prop :=
  (∀ p ∈ a.files.toList, p ∈ b.files) ∧ ∀ s ∈ a.symbols.toList, s ∈ b.symbols

/-- One set has all files and symbols of another. -/
instance : HasSubset Affected := ⟨Affected.Subset⟩

/-- Inclusion is decided on the files and on the symbols. -/
instance (a b : Affected) : Decidable (a ⊆ b) :=
  inferInstanceAs (Decidable (_ ∧ _))

/-- Inclusion is inclusion of the files and of the symbols. -/
theorem subset_iff {a b : Affected} :
    a ⊆ b ↔ (∀ p, p ∈ a.files → p ∈ b.files) ∧ ∀ s, s ∈ a.symbols → s ∈ b.symbols := by
  show Affected.Subset a b ↔ _
  simp [Affected.Subset, ExtTreeSet.mem_toList]

/-- How many files and symbols there are. -/
def size (a : Affected) : Nat :=
  a.files.size + a.symbols.size

/-- Whether there is neither file nor symbol. -/
def isEmpty (a : Affected) : Bool :=
  a.files.isEmpty && a.symbols.isEmpty

/-- The keys that guard the set, in the order in which they are taken. -/
def lockKeys (a : Affected) : List LockKey :=
  let files := a.files.toList.map fun p => LockKey.ofFile p.toString
  sortedBy (fun k l => (compare k l).isLE) (files ++ a.symbols.toList.map LockKey.ofSymbol)

end Affected

end CodeGauge
