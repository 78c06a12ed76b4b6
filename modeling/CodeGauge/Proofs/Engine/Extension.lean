import CodeGauge.Proofs.Engine.Exactness
import CodeGauge.Proofs.Engine.Refresh
import CodeGauge.Proofs.Store.Reading
import Mathlib.Logic.Relation

/-!
# Additions of symbols

An addition inserts symbols with given ids and edges that touch one of these ids, and it deletes
edges between them (`Database.Extended`). The surroundings of the ids after it are all that a
refresh of symbols recomputes, and they are enough: what was joined to one of the ids before is
joined to it still, unless it is itself one of them. An edge that was there before one of its ends
counts from the moment at which the end is stored.
-/

open Std

namespace CodeGauge

variable {ω : Type} {db db' db'' : Database} {disk : Disk} {root : Path} {ids : ExtTreeSet Int}

/-- Both ends of the edge are among the ids. -/
def EdgeRow.IsWithin (e : EdgeRow) (ids : ExtTreeSet Int) : Prop :=
  ∃ i ∈ ids, ∃ j ∈ ids, e.caller.id? = some i ∧ e.callee.id? = some j

/-- The databases have the same metrics rows. The second has the symbols of the first and besides
only symbols with given ids, the edges of the first apart from those between given ids, and besides
only edges that touch a given id. -/
structure Database.Extended (db db' : Database) (ids : ExtTreeSet Int) : Prop where
  symbol_kept : ∀ (id : Int) (row : SymbolRow), db.symbols[id]? = some row →
    db'.symbols[id]? = some row
  symbol_added : ∀ (id : Int) (row : SymbolRow), db'.symbols[id]? = some row →
    db.symbols[id]? = some row ∨ id ∈ ids ∧ ∃ path : Path, row.file = path.toString
  edge_kept : ∀ (n : Int) (e : EdgeRow), db.edges[n]? = some e → ¬e.IsWithin ids →
    db'.edges[n]? = some e
  edge_added : ∀ (n : Int) (e : EdgeRow), db'.edges[n]? = some e →
    db.edges[n]? = some e ∨ e.touches ids = true
  fileMetrics : db'.fileMetrics = db.fileMetrics
  symbolMetrics : db'.symbolMetrics = db.symbolMetrics
  pathless : db'.pathlessMetrics = db.pathlessMetrics

/-- A single write of an addition. -/
inductive Database.Addition (ids : ExtTreeSet Int) (db : Database) : Database → Prop
  | insertSymbol (id : Int) (row : SymbolRow) (path : Path) (last : Int)
    (new : db.symbols[id]? = none) (given : id ∈ ids) (filed : row.file = path.toString) :
    Addition ids db { db with symbols := db.symbols.insert id row, lastSymbol := last }
  | insertEdge (n : Int) (e : EdgeRow) (last : Int) (new : db.edges[n]? = none)
    (touches : e.touches ids = true) :
    Addition ids db { db with edges := db.edges.insert n e, lastEdge := last }
  | deleteEdge (n : Int) (e : EdgeRow) (held : db.edges[n]? = some e) (within : e.IsWithin ids) :
    Addition ids db { db with edges := db.edges.erase n }

namespace Database.Extended

private theorem refl (db : Database) (ids : ExtTreeSet Int) : db.Extended db ids :=
  ⟨fun _ _ => id, fun _ _ => .inl, fun _ _ held _ => held, fun _ _ => .inl, rfl, rfl, rfl⟩

private theorem trans (h : db.Extended db' ids) (k : db'.Extended db'' ids) :
    db.Extended db'' ids := by
  refine ⟨fun id row held => k.symbol_kept id row (h.symbol_kept id row held),
    fun id row held => ?_, fun n e held apart => ?_, fun n e held => ?_,
    k.fileMetrics.trans h.fileMetrics, k.symbolMetrics.trans h.symbolMetrics,
    k.pathless.trans h.pathless⟩
  · rcases k.symbol_added id row held with before | added
    · exact h.symbol_added id row before
    · exact .inr added
  · exact k.edge_kept n e (h.edge_kept n e held apart) apart
  · rcases k.edge_added n e held with before | added
    · exact h.edge_added n e before
    · exact .inr added

private theorem getElem?_insert_of_held {β : Type} {table : ExtTreeMap Int β} {k i : Int} {b c : β}
    (new : table[k]? = none) (held : table[i]? = some b) : (table.insert k c)[i]? = some b := by
  rw [ExtTreeMap.getElem?_insert, if_neg, held]
  rw [LawfulEqCmp.compare_eq_iff_eq]
  rintro rfl
  rw [new] at held
  cases held

private theorem held_or_inserted {β : Type} {table : ExtTreeMap Int β} {k i : Int} {b c : β}
    (held : (table.insert k c)[i]? = some b) : table[i]? = some b ∨ i = k ∧ b = c := by
  rw [ExtTreeMap.getElem?_insert] at held
  split at held
  next same =>
    rw [LawfulEqCmp.compare_eq_iff_eq] at same
    cases held
    exact .inr ⟨same.symm, rfl⟩
  · exact .inl held

/-- A single write is an addition. -/
theorem of_addition (h : db.Addition ids db') : db.Extended db' ids := by
  cases h with
  | insertSymbol id row path last new given filed =>
    refine ⟨fun i row' held => getElem?_insert_of_held new held, fun i row' held => ?_,
      fun _ _ held _ => held, fun _ _ => .inl, rfl, rfl, rfl⟩
    rcases held_or_inserted held with before | ⟨rfl, rfl⟩
    · exact .inl before
    · exact .inr ⟨given, path, filed⟩
  | insertEdge n e last new touches =>
    refine ⟨fun _ _ => id, fun _ _ => .inl, fun k e' held _ => getElem?_insert_of_held new held,
      fun k e' held => ?_, rfl, rfl, rfl⟩
    rcases held_or_inserted held with before | ⟨-, rfl⟩
    · exact .inl before
    · exact .inr touches
  | deleteEdge n e held within =>
    refine ⟨fun _ _ => id, fun _ _ => .inl, fun k e' held' apart => ?_, fun k e' held' => ?_, rfl,
      rfl, rfl⟩
    · refine (getElem?_erase_eq_some held k ?_).mpr held'
      rintro rfl
      exact apart within
    · rw [ExtTreeMap.getElem?_erase] at held'
      split at held'
      · cases held'
      · exact .inl held'

/-- Any number of writes are an addition. -/
theorem of_additions (h : Relation.ReflTransGen (Addition ids) db db') : db.Extended db' ids := by
  induction h with
  | refl => exact refl db ids
  | tail _ write ih => exact ih.trans (of_addition write)

variable (h : db.Extended db' ids)
include h

private theorem normal (normal : db.Normal) : db'.Normal := by
  intro id row held
  rcases h.symbol_added id row held with before | ⟨_, path, filed⟩
  · exact normal id row before
  · rw [filed, Path.ofString_toString]

/-- An addition touches nothing but the given ids. -/
theorem agreesOutside : db.AgreesOutside db' (· ∈ ids) := by
  refine ⟨fun id other => Option.ext fun row => ⟨fun held => ?_, h.symbol_kept id row⟩,
    fun n e i j caller callee other other' _ _ => ⟨fun held => ?_, fun held => ?_⟩, h.fileMetrics,
    h.symbolMetrics, h.pathless⟩
  · exact (h.symbol_added id row held).resolve_right fun added => other added.1
  · refine (h.edge_added n e held).resolve_right fun touches => ?_
    obtain ⟨k, given, own | own⟩ := EdgeRow.touches_iff.mp touches
    · rw [caller] at own
      exact other (Option.some.inj own ▸ given)
    · rw [callee] at own
      exact other' (Option.some.inj own ▸ given)
  · apply h.edge_kept n e held
    rintro ⟨k, given, _, _, own, _⟩
    rw [caller] at own
    exact other (Option.some.inj own ▸ given)

/-- What surrounds the given ids after an addition surrounded them before: an edge that joins one of
them to another symbol is still there, and the ends of those that are not are among the ids. -/
theorem surrounds_before {A : Affected} (near : A.Surrounds db' (· ∈ ids)) :
    A.Surrounds db (· ∈ ids) := by
  intro id row held close
  apply near id row (h.symbol_kept id row held)
  rcases close with given | ⟨t, n, e, given, stored, edge, joins⟩
  · exact .inl given
  by_cases within : e.IsWithin ids
  · obtain ⟨i, hi, j, hj, caller, callee⟩ := within
    refine .inl ?_
    rcases joins with ⟨_, own⟩ | ⟨own, _⟩
    · rw [callee] at own
      exact Option.some.inj own ▸ hj
    · rw [caller] at own
      exact Option.some.inj own ▸ hi
  · obtain ⟨row', held'⟩ := Option.isSome_iff_exists.mp stored
    have stored' : (db'.symbols[t]?).isSome := by
      rw [h.symbol_kept t row' held']
      rfl
    exact .inr ⟨t, n, e, given, stored', h.edge_kept n e edge within, joins⟩

end Database.Extended

/-! ## Exactness -/

namespace Engine

variable {E : Engine ω} {w : World ω}

/-- A refresh of symbols that returns without errors, while nothing else changes the tables or the
disk, makes tables exact again that were exact before an addition of symbols and edges to the given
ids. -/
theorem refreshSymbols_exact (plain : E.loader = .plain root) (shows : w.Shows db' disk)
    (normal : db.Normal) (extended : db.Extended db' ids) (exact : db.Exact disk root)
    {r : Recomputation} {w' : World ω} (run : (E.refreshSymbols ids).runIn w = (.ok r, w'))
    (noErrors : r.stats.errors = []) :
    ∃ after, w'.Shows after disk ∧ db'.SameGraph after ∧ after.Exact disk root := by
  have normal' := extended.normal normal
  have ⟨derived, after, hd, affected, _, made, shows'⟩ :=
    Refresh.run_ensures plain shows normal' (.symbols ids) r w' run
  have ⟨now, _, renewed⟩ := made.renewed
  have whole : (⟨∅, ids⟩ : Affected) ∪ ∅ ∪ derived ⊆ r.affected := by
    rw [affected]
    exact Affected.subset_refl _
  rw [Affected.union_subset_iff, Affected.union_subset_iff] at whole
  have ⟨⟨seed, _⟩, found⟩ := whole
  have near : r.affected.Surrounds db' (· ∈ ids) :=
    (made.snapshot.surrounds_symbols normal' (Affected.subset_iff.mp seed).2 hd).mono found
  refine ⟨after, shows', renewed.graph, ?_⟩
  exact extended.agreesOutside.exact (extended.surrounds_before near) near exact renewed
    (fun _ _ => rfl) (made.current noErrors)

/-- The metered tables of the small repository with a call of a symbol that there is not yet and a
call of the second function by itself. Neither is counted. -/
def sampleDangling : Database :=
  { Sample.metered with
    edges := (Sample.metered.edges.insert 2 ⟨.int 1, .int 3, .int 3, some "call"⟩).insert 3
      ⟨.int 2, .int 2, .int 3, some "call"⟩
    lastEdge := 3 }

/-- The ids of the symbol that is added and of the second function. -/
def sampleIds : ExtTreeSet Int :=
  .ofList [(2 : Int), 3]

/-- The tables with the missing symbol in the second file, a call from it, and without the call of
the second function by itself. -/
def sampleExtended : Database :=
  { sampleDangling with
    symbols := sampleDangling.symbols.insert 3 (Sample.function "h" "b")
    edges := (sampleDangling.edges.insert 4 ⟨.int 3, .int 1, .int 2, some "call"⟩).erase 3
    lastSymbol := 3
    lastEdge := 4 }

private theorem sample_extended : sampleDangling.Extended sampleExtended sampleIds := by
  have inserted : sampleDangling.Extended _ sampleIds :=
    .of_addition (.insertSymbol 3 (Sample.function "h" "b") (.ofString "b") 3 (by decide +kernel)
      (by decide +kernel) (by decide +kernel))
  have called := inserted.trans <|
    .of_addition (.insertEdge 4 ⟨.int 3, .int 1, .int 2, some "call"⟩ 4 (by decide +kernel)
      (by decide +kernel))
  exact called.trans <|
    .of_addition (.deleteEdge 3 ⟨.int 2, .int 2, .int 3, some "call"⟩ (by decide +kernel)
      ⟨2, by decide +kernel, 2, by decide +kernel, rfl, rfl⟩)

/-- Tables that miss the rows of an added symbol are exact after a refresh of it. -/
theorem sample_refreshSymbols_exact :
    ∃ r w' after, (Sample.engine.refreshSymbols sampleIds).runIn (Sample.world sampleExtended) =
        (.ok r, w') ∧
      r.stats.errors = [] ∧ w'.Shows after Sample.disk ∧ sampleExtended.SameGraph after ∧
      after.Exact Sample.disk Sample.root := by
  have returns : ((Sample.engine.refreshSymbols sampleIds).runIn
      (Sample.world sampleExtended)).1.toOption.map (·.stats.errors) = some [] := by
    decide +kernel
  have normal : sampleDangling.Normal := by decide +kernel
  have exact : sampleDangling.Exact Sample.disk Sample.root := by decide +kernel
  rcases run : (Sample.engine.refreshSymbols sampleIds).runIn (Sample.world sampleExtended) with
    ⟨e | r, w'⟩
  · rw [run] at returns
    cases returns
  · rw [run] at returns
    have noErrors : r.stats.errors = [] := Option.some.inj returns
    have ⟨after, shows, graph, still⟩ := refreshSymbols_exact rfl
      (Sample.world_shows sampleExtended) normal sample_extended exact run noErrors
    exact ⟨r, w', after, rfl, noErrors, shows, graph, still⟩

end Engine

end CodeGauge
