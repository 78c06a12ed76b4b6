/-!
# Sorted lists

A list is sorted by putting its elements one after the other, the last of them first, before the
first element that each may precede. Elements that may precede each other stay in their order, and
a list that is in order already is passed through once.
-/

open Std

namespace CodeGauge

variable {α : Type}

/-- Put an element before the first one that it may precede. -/
def insertSorted (le : α → α → Bool) (a : α) : List α → List α
  | [] => [a]
  | b :: bs => if le a b then a :: b :: bs else b :: insertSorted le a bs

/-- The elements of a list in order. -/
def sortedBy (le : α → α → Bool) (xs : List α) : List α :=
  xs.foldr (insertSorted le) []

/-- Putting an element in adds that element and no other. -/
theorem insertSorted_perm (le : α → α → Bool) (a : α) (xs : List α) :
    (insertSorted le a xs).Perm (a :: xs) := by
  induction xs with
  | nil => exact .refl _
  | cons b bs ih =>
    rw [insertSorted]
    split
    · exact .refl _
    · exact (ih.cons b).trans (.swap a b bs)

/-- Sorting keeps every element as often as it was there. -/
theorem sortedBy_perm (le : α → α → Bool) (xs : List α) : (sortedBy le xs).Perm xs := by
  induction xs with
  | nil => exact .refl _
  | cons a xs ih => exact (insertSorted_perm le a _).trans (ih.cons a)

/-- Sorting keeps the elements. -/
@[simp] theorem mem_sortedBy {le : α → α → Bool} {a : α} {xs : List α} :
    a ∈ sortedBy le xs ↔ a ∈ xs :=
  (sortedBy_perm le xs).mem_iff

section Order

variable {P : α → Prop} {R : α → α → Prop} {le : α → α → Bool}
  (total : ∀ a b, P a → P b → le a b ∨ le b a)
  (trans : ∀ a b c, P a → P b → P c → le a b → le b c → le a c)
include total trans

/-- What is put in comes before the elements that it may precede. -/
theorem insertSorted_pairwise {a : α} {xs : List α} (ha : P a) (hxs : ∀ b ∈ xs, P b)
    (first : ∀ b ∈ xs, R a b) (sorted : xs.Pairwise fun x y => le x y ∧ (le y x → R x y)) :
    (insertSorted le a xs).Pairwise fun x y => le x y ∧ (le y x → R x y) := by
  induction xs with
  | nil => exact List.pairwise_singleton _ a
  | cons b bs ih =>
    obtain ⟨hb, hbs⟩ := List.forall_mem_cons.mp hxs
    obtain ⟨head, tail⟩ := List.pairwise_cons.mp sorted
    rw [insertSorted]
    split
    next precedes =>
      refine List.pairwise_cons.mpr ⟨fun c mem => ⟨?_, fun _ => first c mem⟩, sorted⟩
      rcases List.mem_cons.mp mem with rfl | mem
      · exact precedes
      · exact trans a b c ha hb (hbs c mem) precedes (head c mem).1
    next follows =>
      have rest := ih hbs (List.forall_mem_cons.mp first).2 tail
      refine List.pairwise_cons.mpr ⟨fun c mem => ?_, rest⟩
      rcases List.mem_cons.mp ((insertSorted_perm le a bs).mem_iff.mp mem) with rfl | mem
      · exact ⟨(total c b ha hb).resolve_left follows, fun other => absurd other follows⟩
      · exact head c mem

/-- Sorting puts the elements in order, and those that may precede each other in the order in which
they came. -/
theorem sortedBy_pairwise {xs : List α} (hxs : ∀ a ∈ xs, P a) (came : xs.Pairwise R) :
    (sortedBy le xs).Pairwise fun a b => le a b ∧ (le b a → R a b) := by
  induction xs with
  | nil => exact .nil
  | cons a xs ih =>
    obtain ⟨ha, hxs⟩ := List.forall_mem_cons.mp hxs
    obtain ⟨head, tail⟩ := List.pairwise_cons.mp came
    exact insertSorted_pairwise total trans ha (fun b mem => hxs b (mem_sortedBy.mp mem))
      (fun b mem => head b (mem_sortedBy.mp mem)) (ih hxs tail)

end Order

/-- Sorting by an order puts the elements in that order. -/
theorem sortedBy_compare_pairwise [Ord α] [TransOrd α] (xs : List α) :
    (sortedBy (fun a b => (compare a b).isLE) xs).Pairwise fun a b => (compare a b).isLE := by
  have sorted := @sortedBy_pairwise α (fun _ => True) (fun _ _ => True)
    (fun a b => (compare a b).isLE) ?total ?trans xs (fun _ _ => trivial)
    (List.pairwise_of_forall fun _ _ => trivial)
  case total =>
    intro a b _ _
    have swapped : compare b a = (compare a b).swap := OrientedCmp.eq_swap
    rw [swapped]
    cases compare a b <;> simp
  case trans =>
    intro a b c _ _ _ ab bc
    exact TransCmp.isLE_trans ab bc
  exact sorted.imp And.left

end CodeGauge
