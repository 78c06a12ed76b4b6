import Mathlib.Algebra.BigOperators.Group.Finset.Piecewise
import CodeGauge.Proofs.Snapshot.Indexing

/-!
# The edges of an assembled snapshot

However a snapshot was put together, its edges are those that were added first under their ids, in
the order in which they arrived (`edges_assemble`). The tables of an indexed snapshot have each of
them once at its caller and once at its callee, so the lists of either table have as many edges as
there are ids in the set, and to be one edge away from each other is mutual
(`IndexedSnapshot.assemble_represents`).
-/

open Std

namespace CodeGauge.Snapshot

/-! ## First arrivals -/

/-- The edge that is added, if it is one. -/
def Addition.edge? : Addition → Option Edge
  | edge e => some e
  | symbol .. | file .. => none

/-- The edges that are added, in order. -/
def arrivals (additions : List Addition) : List Edge :=
  additions.filterMap Addition.edge?

/-- The edges that come first under their ids, in order. -/
def firstEdges : List Edge → List Edge
  | [] => []
  | e :: es => e :: (firstEdges es).filter (·.id != e.id)

/-- An edge is a first one if none with its id comes before it. -/
theorem mem_firstEdges {es : List Edge} {e : Edge} :
    e ∈ firstEdges es ↔ es.find? (·.id == e.id) = some e := by
  induction es with
  | nil => simp [firstEdges]
  | cons e' es ih =>
    rw [firstEdges, List.mem_cons, List.mem_filter, ih]
    by_cases same : e'.id = e.id
    · rw [List.find?_cons_of_pos (by simpa using same)]
      simp [same, eq_comm]
    · rw [List.find?_cons_of_neg (by simpa using same)]
      have other : e ≠ e' := fun equal => same (equal ▸ rfl)
      simp [Ne.symm same, other]

/-- First edges have different ids. -/
theorem nodup_firstEdges (es : List Edge) : ((firstEdges es).map (·.id)).Nodup := by
  induction es with
  | nil => exact List.nodup_nil
  | cons e es ih =>
    rw [firstEdges, List.map_cons, List.nodup_cons]
    constructor
    · rw [List.mem_map]
      rintro ⟨e', mem, same⟩
      simp [same] at mem
    · exact ih.sublist (List.filter_sublist.map _)

/-- Every id has its first edge. -/
theorem toFinset_firstEdges (es : List Edge) :
    ((firstEdges es).map (·.id)).toFinset = (es.map (·.id)).toFinset := by
  ext id
  simp only [List.mem_toFinset, List.mem_map, mem_firstEdges]
  constructor
  · rintro ⟨e, found, rfl⟩
    exact ⟨e, List.mem_of_find?_eq_some found, rfl⟩
  · rintro ⟨e, mem, rfl⟩
    obtain ⟨first, found⟩ := Option.isSome_iff_exists.mp
      (List.find?_isSome (p := (·.id == e.id)) |>.mpr ⟨e, mem, beq_self_eq_true e.id⟩)
    have same : first.id = e.id := by simpa using List.find?_some found
    exact ⟨first, same ▸ found, same⟩

private theorem edges_foldl (additions : List Addition) (g : Snapshot) :
    (additions.foldl add g).edges =
      g.edges ++ (firstEdges (arrivals additions)).filter fun e => !g.edges.any (·.id == e.id) := by
  induction additions generalizing g with
  | nil => simp [arrivals, firstEdges]
  | cons addition additions ih =>
    rw [List.foldl_cons, ih]
    cases addition with
    | symbol s complete => rfl
    | file path file => rfl
    | edge e =>
      change _ = g.edges ++ (firstEdges (e :: arrivals additions)).filter _
      rw [firstEdges]
      by_cases known : g.edges.any (·.id == e.id)
      · have kept : (g.add (.edge e)).edges = g.edges := by
          rw [add, addEdge, if_pos known]
        rw [kept, List.filter_cons_of_neg (by simp [known]), List.filter_filter]
        refine congrArg (g.edges ++ ·) (List.filter_congr fun e' _ => ?_)
        by_cases same : e'.id = e.id
        · rw [same, known]
          rfl
        · simp [same]
      · have grown : (g.add (.edge e)).edges = g.edges ++ [e] := by
          rw [add, addEdge, if_neg known]
        rw [grown, List.filter_cons_of_pos (by simp [known]), List.filter_filter,
          List.append_assoc]
        refine congrArg (g.edges ++ e :: ·) (List.filter_congr fun e' _ => ?_)
        simp only [List.any_append, List.any_cons, List.any_nil, Bool.or_false, Bool.not_or]
        rw [bne, BEq.comm]

/-- An assembled snapshot has the edges that arrived first under their ids. -/
theorem edges_assemble (number : Nat) (additions : List Addition) :
    (assemble number additions).edges = firstEdges (arrivals additions) := by
  rw [assemble, edges_foldl]
  simp

/-! ## Lists by id -/

variable {g : Snapshot}

private theorem sum_length_filter {edges : List Edge} {side : Edge → Value} {ids : Finset Int}
    (ends : ∀ e ∈ edges, ∃ id ∈ ids, (side e).id? = some id) :
    ∑ id ∈ ids, (edges.filter fun e => (side e).id? == some id).length = edges.length := by
  induction edges with
  | nil => simp
  | cons e edges ih =>
    obtain ⟨⟨own, mem, isEnd⟩, ends⟩ := List.forall_mem_cons.mp ends
    have split (id : Int) : ((e :: edges).filter fun e => (side e).id? == some id).length =
        (if own = id then 1 else 0) +
          (edges.filter fun e => (side e).id? == some id).length := by
      by_cases same : own = id
      · simp [isEnd, same, Nat.add_comm]
      · simp [isEnd, same]
    rw [Finset.sum_congr rfl fun id _ => split id, Finset.sum_add_distrib, ih ends,
      Finset.sum_ite_eq, if_pos mem, List.length_cons, Nat.add_comm]

private theorem sum_length_side {side : Edge → Value} {ids : Finset Int}
    (ends : ∀ e ∈ g.edges, (side e).id?.isSome)
    (all : ∀ s, (g.edges.filter fun e => (side e).id? == some s) ≠ [] → s ∈ ids) :
    ∑ s ∈ ids, (g.edges.filter fun e => (side e).id? == some s).length = g.edges.length := by
  refine sum_length_filter fun e mem => ?_
  obtain ⟨s, own⟩ := Option.isSome_iff_exists.mp (ends e mem)
  have listed : e ∈ g.edges.filter fun e => (side e).id? == some s :=
    List.mem_filter.mpr ⟨mem, by rw [own, beq_self_eq_true]⟩
  exact ⟨s, all s (List.ne_nil_of_mem listed), own⟩

/-! ## Neighbors -/

private theorem mem_singleton {s t : Int} : t ∈ ({s} : ExtTreeSet Int) ↔ t = s := by
  simp [LawfulEqCmp.compare_eq_iff_eq, eq_comm (a := t)]

private theorem mem_neighbors_iff_listed {ids : ExtTreeSet Int} {t : Int} :
    t ∈ g.neighbors ids ↔ ∃ s ∈ ids, (∃ e ∈ g.outgoing s, e.callee.id? = some t) ∨
      ∃ e ∈ g.incoming s, e.caller.id? = some t := by
  rw [mem_neighbors]
  simp only [outgoing, incoming, List.mem_filter, beq_iff_eq]
  constructor
  · rintro ⟨e, he, s, mem, ⟨caller, callee⟩ | ⟨caller, callee⟩⟩
    · exact ⟨s, mem, .inl ⟨e, ⟨he, caller⟩, callee⟩⟩
    · exact ⟨s, mem, .inr ⟨e, ⟨he, callee⟩, caller⟩⟩
  · rintro ⟨s, mem, ⟨e, ⟨he, caller⟩, callee⟩ | ⟨e, ⟨he, callee⟩, caller⟩⟩
    · exact ⟨e, he, s, mem, .inl ⟨caller, callee⟩⟩
    · exact ⟨e, he, s, mem, .inr ⟨caller, callee⟩⟩

/-- To be one edge away from some ids is to be so from one of them. -/
theorem mem_neighbors_iff_exists {ids : ExtTreeSet Int} {t : Int} :
    t ∈ g.neighbors ids ↔ ∃ s ∈ ids, t ∈ g.neighbors {s} := by
  simp only [mem_neighbors, mem_singleton]
  constructor
  · rintro ⟨e, he, s, mem, joins⟩
    exact ⟨s, mem, e, he, s, rfl, joins⟩
  · rintro ⟨s, mem, e, he, _, rfl, joins⟩
    exact ⟨e, he, _, mem, joins⟩

/-- To be one edge away is mutual. -/
theorem mem_neighbors_comm {s t : Int} : t ∈ g.neighbors {s} ↔ s ∈ g.neighbors {t} := by
  simp only [mem_neighbors, mem_singleton]
  constructor
  · rintro ⟨e, he, _, rfl, joins⟩
    exact ⟨e, he, t, rfl, joins.symm⟩
  · rintro ⟨e, he, _, rfl, joins⟩
    exact ⟨e, he, s, rfl, joins.symm⟩

/-! ## Symbols -/

private theorem mem_symbols_foldl (additions : List Addition) (g : Snapshot) (id : Int) :
    id ∈ (additions.foldl add g).symbols ↔
      id ∈ g.symbols ∨ ∃ s complete, .symbol s complete ∈ additions ∧ s.id = id := by
  induction additions generalizing g with
  | nil => simp
  | cons addition additions ih =>
    rw [List.foldl_cons, ih]
    cases addition with
    | symbol s complete =>
      have grown : id ∈ (g.add (.symbol s complete)).symbols ↔ s.id = id ∨ id ∈ g.symbols := by
        change id ∈ g.symbols.insert s.id s ↔ _
        rw [ExtTreeMap.mem_insert, LawfulEqOrd.compare_eq_iff_eq]
      rw [grown]
      constructor
      · rintro ((own | known) | ⟨s', complete', later, own⟩)
        · exact .inr ⟨s, complete, List.mem_cons_self, own⟩
        · exact .inl known
        · exact .inr ⟨s', complete', List.mem_cons_of_mem _ later, own⟩
      · rintro (known | ⟨s', complete', mem, own⟩)
        · exact .inl (.inr known)
        · obtain first | later := List.mem_cons.mp mem
          · cases first
            exact .inl (.inl own)
          · exact .inr ⟨s', complete', later, own⟩
    | edge e =>
      have same : (g.add (.edge e)).symbols = g.symbols := symbols_addEdge e
      simp [same]
    | file path file =>
      have same : (g.add (.file path file)).symbols = g.symbols := rfl
      simp [same]

end CodeGauge.Snapshot

namespace CodeGauge.IndexedSnapshot

open CodeGauge.Snapshot

/-- The tables have the edges of a sequence of additions, each in its list at either end. An end
that is no id has a list of its own, which no id leads to, so the lists of ids alone have all edges
only where every end is an id. -/
structure Represents (x : IndexedSnapshot) (additions : List Addition) : Prop where
  outgoing : ∀ s : Int,
    x.outgoing s = (firstEdges (arrivals additions)).filter (·.caller.id? == some s)
  incoming : ∀ s : Int,
    x.incoming s = (firstEdges (arrivals additions)).filter (·.callee.id? == some s)
  out : ∀ key, x.out.get key =
    (firstEdges (arrivals additions)).filter fun e => e.caller.endKey = key
  into : ∀ key, x.into.get key =
    (firstEdges (arrivals additions)).filter fun e => e.callee.endKey = key
  out_keys : ∀ key, key ∈ x.out.keys ↔
    (∃ s complete, .symbol s complete ∈ additions ∧ key = .id s.id) ∨
      ∃ e ∈ firstEdges (arrivals additions), e.caller.endKey = key
  into_keys : ∀ key, key ∈ x.into.keys ↔
    (∃ s complete, .symbol s complete ∈ additions ∧ key = .id s.id) ∨
      ∃ e ∈ firstEdges (arrivals additions), e.callee.endKey = key
  out_first : ∀ e : Edge,
    (∃ key, e ∈ x.out.get key) ↔ (arrivals additions).find? (·.id == e.id) = some e
  into_first : ∀ e : Edge,
    (∃ key, e ∈ x.into.get key) ↔ (arrivals additions).find? (·.id == e.id) = some e
  size : x.numEdges = ((arrivals additions).map (·.id)).toFinset.card
  out_total : x.out.total = x.numEdges
  into_total : x.into.total = x.numEdges
  outgoing_total : (∀ e ∈ arrivals additions, e.caller.id?.isSome) → ∀ ids : Finset Int,
    (∀ s, x.outgoing s ≠ [] → s ∈ ids) → ∑ s ∈ ids, (x.outgoing s).length = x.numEdges
  incoming_total : (∀ e ∈ arrivals additions, e.callee.id?.isSome) → ∀ ids : Finset Int,
    (∀ s, x.incoming s ≠ [] → s ∈ ids) → ∑ s ∈ ids, (x.incoming s).length = x.numEdges
  listed : ∀ (ids : ExtTreeSet Int) (t : Int), t ∈ x.neighbors ids ↔
    ∃ s ∈ ids, (∃ e ∈ x.outgoing s, e.callee.id? = some t) ∨
      ∃ e ∈ x.incoming s, e.caller.id? = some t
  union : ∀ (ids : ExtTreeSet Int) (t : Int),
    t ∈ x.neighbors ids ↔ ∃ s ∈ ids, t ∈ x.neighbors {s}
  symm : ∀ s t : Int, t ∈ x.neighbors {s} ↔ s ∈ x.neighbors {t}

private theorem mem_keys_assemble {number : Nat} {additions : List Addition} {a : Adjacency}
    {side : Edge → Value} (h : a.Indexes side (Snapshot.assemble number additions))
    (key : EndKey) : key ∈ a.keys ↔
      (∃ s complete, .symbol s complete ∈ additions ∧ key = .id s.id) ∨
        ∃ e ∈ firstEdges (arrivals additions), (side e).endKey = key := by
  rw [h.keys, edges_assemble]
  apply or_congr_left
  simp only [Snapshot.assemble, mem_symbols_foldl, ExtTreeMap.not_mem_empty, false_or]
  constructor
  · rintro ⟨_, ⟨s, complete, mem, rfl⟩, rfl⟩
    exact ⟨s, complete, mem, rfl⟩
  · rintro ⟨s, complete, mem, rfl⟩
    exact ⟨_, ⟨s, complete, mem, rfl⟩, rfl⟩

/-- A snapshot that is put together from additions has their edges. -/
theorem assemble_represents (number : Nat) (additions : List Addition) :
    (assemble number additions).Represents additions := by
  have h := assemble_indexes number additions
  have edges := edges_assemble number additions
  have arrived (e : Edge) (mem : e ∈ (Snapshot.assemble number additions).edges) :
      e ∈ arrivals additions := by
    rw [edges, mem_firstEdges] at mem
    exact List.mem_of_find?_eq_some mem
  constructor
  case outgoing => exact fun s => by rw [h.outgoing, Snapshot.outgoing, edges]
  case incoming => exact fun s => by rw [h.incoming, Snapshot.incoming, edges]
  case out => exact fun key => by rw [h.out.get, edges]
  case into => exact fun key => by rw [h.into.get, edges]
  case out_keys => exact mem_keys_assemble h.out
  case into_keys => exact mem_keys_assemble h.into
  case out_first => exact fun e => by rw [h.out.exists_mem_get_iff, edges, mem_firstEdges]
  case into_first => exact fun e => by rw [h.into.exists_mem_get_iff, edges, mem_firstEdges]
  case size =>
    rw [← toFinset_firstEdges, List.toFinset_card_of_nodup (nodup_firstEdges _), List.length_map,
      h.numEdges, edges]
  case out_total => rw [h.out.total, h.numEdges]
  case into_total => rw [h.into.total, h.numEdges]
  case outgoing_total =>
    simp only [h.outgoing, h.numEdges]
    exact fun ends ids => sum_length_side fun e mem => ends e (arrived e mem)
  case incoming_total =>
    simp only [h.incoming, h.numEdges]
    exact fun ends ids => sum_length_side fun e mem => ends e (arrived e mem)
  case listed =>
    simp only [h.neighbors, h.outgoing, h.incoming]
    exact fun ids t => mem_neighbors_iff_listed
  case union =>
    simp only [h.neighbors]
    exact fun ids t => mem_neighbors_iff_exists
  case symm =>
    simp only [h.neighbors]
    exact fun s t => mem_neighbors_comm

/-! A call of a symbol by itself, one of a symbol that is not there, and the first id once more. -/

/-- An edge between two ids. -/
def sampleCall (id caller callee : Int) : Edge :=
  { id, caller := .int caller, callee := .int callee, line := .int 0, kind := .call }

/-- The additions of these edges. -/
def sampleCalls : List Addition :=
  [.edge (sampleCall 1 7 7), .edge (sampleCall 2 7 9), .edge (sampleCall 1 9 7)]

example : (assemble 1 sampleCalls).out.entries = [(.id 7, [sampleCall 1 7 7, sampleCall 2 7 9])] ∧
    (assemble 1 sampleCalls).into.entries =
      [(.id 7, [sampleCall 1 7 7]), (.id 9, [sampleCall 2 7 9])] := by
  decide +kernel

end CodeGauge.IndexedSnapshot
