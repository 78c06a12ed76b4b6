import CodeGauge.Error
import Std.Data.ExtTreeMap
import Std.Data.ExtTreeSet

/-!
# Lists of results and of entries

A list whose elements are all computed without an error has the computed elements in the same
places, so what each computed element tells of its origin carries over to the whole lists. Sets and
tables list their elements and their keys once.
-/

open Std

namespace CodeGauge

variable {α β γ ε : Type}

/-- A sequence whose first part has a result is what follows it. -/
theorem Except.ok_bind (a : α) (f : α → Except ε β) : (Except.ok a >>= f) = f a := rfl

/-- A sequence whose first part fails fails as that does. -/
theorem Except.error_bind (e : ε) (f : α → Except ε β) : (Except.error e >>= f) = .error e := rfl

/-- A sequence gives a result exactly when both of its parts do. -/
theorem Except.bind_eq_ok {x : Except ε α} {f : α → Except ε β} {b : β} :
    x >>= f = .ok b ↔ ∃ a, x = .ok a ∧ f a = .ok b := by
  cases x with
  | error e =>
    change Except.error e = .ok b ↔ _
    simp
  | ok a =>
    change f a = .ok b ↔ _
    simp

/-- A sequence has a result where its first part has one and its second part has one after it. -/
theorem Except.exists_bind_eq_ok {x : Except ε α} {f : α → Except ε β} (hx : ∃ a, x = .ok a)
    (hf : ∀ a, x = .ok a → ∃ b, f a = .ok b) : ∃ b, x >>= f = .ok b := by
  obtain ⟨a, made⟩ := hx
  obtain ⟨b, made'⟩ := hf a made
  exact ⟨b, Except.bind_eq_ok.mpr ⟨a, made, made'⟩⟩

/-- A sequence fails exactly when its first part does, or its second part does after it. -/
theorem Except.bind_eq_error {x : Except ε α} {f : α → Except ε β} {e : ε} :
    x >>= f = .error e ↔ x = .error e ∨ ∃ a, x = .ok a ∧ f a = .error e := by
  cases x with
  | error e' =>
    change Except.error e' = .error e ↔ _
    simp
  | ok a =>
    change f a = .error e ↔ _
    simp

/-- Rewording the errors of a sequence is rewording those of its parts. -/
theorem Except.mapError_bind {ε' : Type} (k : ε → ε') (x : Except ε α) (f : α → Except ε β) :
    (x >>= f).mapError k = x.mapError k >>= fun a => (f a).mapError k := by
  cases x with
  | error e => rfl
  | ok a => rfl

/-- To change the result of a sequence is to change that of its second part. -/
theorem Except.map_bind (x : Except ε α) (f : α → Except ε β) (k : β → γ) :
    (x >>= f).map k = x >>= fun a => (f a).map k := by
  cases x with
  | error e => rfl
  | ok a => rfl

/-- A result that is made into another is there exactly when the first was. -/
theorem Except.map_eq_ok {x : Except ε α} {f : α → β} {b : β} :
    x.map f = .ok b ↔ ∃ a, x = .ok a ∧ f a = b := by
  cases x with
  | error e => simp [Except.map]
  | ok a => simp [Except.map]

/-- The results of a list are those of its head and of its tail. -/
theorem mapM_cons_eq_ok {f : α → Except ε β} {x : α} {xs : List α} {ys : List β} :
    (x :: xs).mapM f = .ok ys ↔
      ∃ y rest, f x = .ok y ∧ xs.mapM f = .ok rest ∧ ys = y :: rest := by
  rw [List.mapM_cons, Except.bind_eq_ok]
  simp only [Except.bind_eq_ok]
  constructor
  · intro ⟨y, hy, rest, hrest, same⟩
    cases same
    exact ⟨y, rest, hy, hrest, rfl⟩
  · rintro ⟨y, rest, hy, hrest, rfl⟩
    exact ⟨y, hy, rest, hrest, rfl⟩

/-- A list fails only where one of its elements does. -/
theorem exists_of_mapM_eq_error {f : α → Except ε β} {xs : List α} {e : ε}
    (h : xs.mapM f = .error e) : ∃ x ∈ xs, f x = .error e := by
  induction xs with
  | nil => cases h
  | cons x xs ih =>
    rw [List.mapM_cons, Except.bind_eq_error] at h
    obtain failed | ⟨y, _, h⟩ := h
    · exact ⟨x, List.mem_cons_self, failed⟩
    obtain failed | ⟨_, _, done⟩ := Except.bind_eq_error.mp h
    · have ⟨x', mem, failed⟩ := ih failed
      exact ⟨x', List.mem_cons_of_mem _ mem, failed⟩
    · cases done

/-- Elements that are each the result of what they come from are the results of all of it. -/
theorem mapM_map_eq_ok {f : α → Except ε β} {g : β → α} {ys : List β}
    (h : ∀ y ∈ ys, f (g y) = .ok y) : (ys.map g).mapM f = .ok ys := by
  induction ys with
  | nil => rfl
  | cons y ys ih =>
    have rest := ih fun y' hy' => h y' (List.mem_cons_of_mem _ hy')
    exact mapM_cons_eq_ok.mpr ⟨y, ys, h y List.mem_cons_self, rest, rfl⟩

/-- There are as many results as elements. -/
theorem length_of_mapM_eq_ok {f : α → Except ε β} {xs : List α} {ys : List β}
    (h : xs.mapM f = .ok ys) : ys.length = xs.length := by
  induction xs generalizing ys with
  | nil =>
    cases h
    rfl
  | cons x xs ih =>
    obtain ⟨y, rest, _, hrest, rfl⟩ := mapM_cons_eq_ok.mp h
    rw [List.length_cons, List.length_cons, ih hrest]

/-- The results are those of the elements. -/
theorem mem_of_mapM_eq_ok {f : α → Except ε β} {xs : List α} {ys : List β}
    (h : xs.mapM f = .ok ys) (y : β) : y ∈ ys ↔ ∃ x ∈ xs, f x = .ok y := by
  induction xs generalizing ys with
  | nil =>
    cases h
    simp
  | cons x xs ih =>
    obtain ⟨z, rest, hz, hrest, rfl⟩ := mapM_cons_eq_ok.mp h
    rw [List.mem_cons, ih hrest]
    constructor
    · rintro (rfl | ⟨x', hx', hy⟩)
      · exact ⟨x, List.mem_cons_self, hz⟩
      · exact ⟨x', List.mem_cons_of_mem _ hx', hy⟩
    · intro ⟨x', hx', hy⟩
      rcases List.mem_cons.mp hx' with rfl | hx'
      · rw [hz] at hy
        cases hy
        exact .inl rfl
      · exact .inr ⟨x', hx', hy⟩

/-- Every element has a result. -/
theorem exists_of_mapM_eq_ok {f : α → Except ε β} {xs : List α} {ys : List β}
    (h : xs.mapM f = .ok ys) {x : α} (hx : x ∈ xs) : ∃ y ∈ ys, f x = .ok y := by
  induction xs generalizing ys with
  | nil => cases hx
  | cons x' xs ih =>
    obtain ⟨z, rest, hz, hrest, rfl⟩ := mapM_cons_eq_ok.mp h
    rcases List.mem_cons.mp hx with rfl | hx
    · exact ⟨z, List.mem_cons_self, hz⟩
    · have ⟨y, mem, hy⟩ := ih hrest hx
      exact ⟨y, List.mem_cons_of_mem _ mem, hy⟩

/-- What each result tells of its origin holds place by place. -/
theorem map_eq_of_mapM_eq_ok {f : α → Except ε β} {g : β → γ} {k : α → γ} {xs : List α}
    {ys : List β} (h : xs.mapM f = .ok ys) (same : ∀ x ∈ xs, ∀ y, f x = .ok y → g y = k x) :
    ys.map g = xs.map k := by
  induction xs generalizing ys with
  | nil =>
    cases h
    rfl
  | cons x xs ih =>
    obtain ⟨z, rest, hz, hrest, rfl⟩ := mapM_cons_eq_ok.mp h
    rw [List.map_cons, List.map_cons, same x List.mem_cons_self z hz,
      ih hrest fun x hx => same x (List.mem_cons_of_mem _ hx)]

/-- The results that a condition picks out are those of the elements that it picks out. -/
theorem mapM_filter_eq_ok {f : α → Except ε β} {p : α → Bool} {q : β → Bool} {xs : List α}
    {ys : List β} (h : xs.mapM f = .ok ys) (agree : ∀ x ∈ xs, ∀ y, f x = .ok y → q y = p x) :
    (xs.filter p).mapM f = .ok (ys.filter q) := by
  induction xs generalizing ys with
  | nil =>
    cases h
    rfl
  | cons x xs ih =>
    obtain ⟨z, rest, hz, hrest, rfl⟩ := mapM_cons_eq_ok.mp h
    have tail := ih hrest fun x' hx' => agree x' (List.mem_cons_of_mem _ hx')
    have head := agree x List.mem_cons_self z hz
    cases picked : p x with
    | true =>
      rw [List.filter_cons_of_pos picked, List.filter_cons_of_pos (head.trans picked)]
      exact mapM_cons_eq_ok.mpr ⟨z, _, hz, tail, rfl⟩
    | false =>
      rw [List.filter_cons_of_neg (by simp [picked]),
        List.filter_cons_of_neg (by simp [head, picked])]
      exact tail

/-- Where every element has a result, the list has. -/
theorem exists_mapM_eq_ok {f : α → Except ε β} {xs : List α}
    (h : ∀ x ∈ xs, ∃ y, f x = .ok y) : ∃ ys, xs.mapM f = .ok ys := by
  induction xs with
  | nil => exact ⟨[], rfl⟩
  | cons x xs ih =>
    have ⟨y, hy⟩ := h x List.mem_cons_self
    have ⟨ys, hys⟩ := ih fun x' hx' => h x' (List.mem_cons_of_mem _ hx')
    exact ⟨y :: ys, mapM_cons_eq_ok.mpr ⟨y, ys, hy, hys, rfl⟩⟩

/-! ## Entries -/

/-- The elements of a set are listed once. -/
theorem nodup_toList {κ : Type} [Ord κ] [TransOrd κ] (s : ExtTreeSet κ) : s.toList.Nodup := by
  refine s.distinct_toList.imp fun differs same => ?_
  subst same
  exact differs ReflCmp.compare_self

/-- The keys of a table are listed once. -/
theorem nodup_keys {κ : Type} [Ord κ] [TransOrd κ] (table : ExtTreeMap κ α) :
    (table.toList.map (·.1)).Nodup := by
  rw [ExtTreeMap.map_fst_toList_eq_keys]
  exact ExtTreeMap.nodup_keys

/-- The keys of chosen entries of a table are listed once. -/
theorem nodup_keys_filter {κ : Type} [Ord κ] [TransOrd κ] (table : ExtTreeMap κ α)
    (p : κ × α → Bool) : ((table.toList.filter p).map (·.1)).Nodup :=
  (nodup_keys table).sublist (List.filter_sublist.map _)

/-- The entries of a table are listed once. -/
theorem nodup_entries {κ : Type} [Ord κ] [TransOrd κ] (table : ExtTreeMap κ α) :
    table.toList.Nodup :=
  List.Pairwise.of_map (·.1) (fun _ _ differ same => differ (congrArg _ same)) (nodup_keys table)

end CodeGauge
