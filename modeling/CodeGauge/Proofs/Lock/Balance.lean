import CodeGauge.Lock.Table
import CodeGauge.Proofs.Results
import Mathlib.Data.List.Chain
import Mathlib.Logic.Relation

/-!
# Lock tables are given back as they were

A visit is a block on its way through a run: the table it meets and the key sets of the blocks that
are entered around it. If the table of an outermost visit counts those key sets
(`LockTable.Counts`), so do the tables before, inside and after every block that its run comes to,
at any depth and whatever fails on the way, and each of them leaves the entries as it met them
(`LockVisit.balanced_of_within`). So the numbers that are seen from outside are those of the
different keys of the blocks that are entered at the time (`LockVisit.size_of_mem_runAll`).
-/

open Std

namespace CodeGauge

/-! ## Single keys -/

/-- What is left of an entry when one of its holders goes. -/
def LockEntry.drop? (entry : LockEntry) : Option LockEntry :=
  if entry.users ≤ 1 then none else some { entry with users := entry.users - 1 }

namespace LockTable

variable {table : LockTable} {key k : LockKey} {entry : LockEntry}

/-- The number of holders of a key. -/
def users (table : LockTable) (key : LockKey) : Nat :=
  (table.entries[key]?.map (·.users)).getD 0

/-- Every entry has a holder. -/
def Used (table : LockTable) : Prop :=
  ∀ (key : LockKey) (entry : LockEntry), table.entries[key]? = some entry → 1 ≤ entry.users

private theorem getElem?_checkOut_of_ne (table : LockTable) (differ : key ≠ k) :
    (table.checkOut key).entries[k]? = table.entries[k]? := by
  unfold checkOut
  split
  all_goals
    rw [ExtTreeMap.getElem?_insert]
    simp [differ]

/-- A key that is checked out has one holder more, and if one of them goes it is as it was. -/
theorem exists_getElem?_checkOut (used : table.Used) (key : LockKey) :
    ∃ entry, (table.checkOut key).entries[key]? = some entry ∧
      entry.users = table.users key + 1 ∧ entry.drop? = table.entries[key]? := by
  unfold checkOut users
  split
  · next old held =>
    refine ⟨_, ExtTreeMap.getElem?_insert_self, by simp [held], ?_⟩
    have := used key old held
    simp [LockEntry.drop?, held]
    omega
  · next held =>
    exact ⟨_, ExtTreeMap.getElem?_insert_self, by simp [held], by simp [LockEntry.drop?, held]⟩

private theorem Used.checkOut (used : table.Used) (key : LockKey) : (table.checkOut key).Used := by
  intro k entry held
  by_cases same : key = k
  · subst same
    obtain ⟨_, held', count, _⟩ := exists_getElem?_checkOut used key
    cases held.symm.trans held'
    omega
  · rw [getElem?_checkOut_of_ne table same] at held
    exact used k entry held

/-- A key with an entry can be checked in, and no other entry is touched. -/
theorem exists_checkIn (held : table.entries[key]? = some entry) :
    ∃ left, table.checkIn key = some left ∧ left.entries[key]? = entry.drop? ∧
      ∀ k, key ≠ k → left.entries[k]? = table.entries[k]? := by
  rw [checkIn, held]
  dsimp only
  by_cases last : entry.users ≤ 1
  · refine ⟨_, if_pos last, ?_, fun k differ => ?_⟩
    · simp [LockEntry.drop?, last]
    · rw [ExtTreeMap.getElem?_erase]
      simp [differ]
  · refine ⟨_, if_neg last, ?_, fun k differ => ?_⟩
    · simp [LockEntry.drop?, last]
    · rw [ExtTreeMap.getElem?_insert]
      simp [differ]

/-! ## Keys of a block -/

private theorem Used.checkOuts {keys : List LockKey} (used : table.Used) :
    (keys.foldl LockTable.checkOut table).Used := by
  induction keys generalizing table with
  | nil => exact used
  | cons key keys ih => exact ih (used.checkOut key)

private theorem getElem?_checkOuts_of_not_mem {keys : List LockKey} (absent : k ∉ keys) :
    (keys.foldl checkOut table).entries[k]? = table.entries[k]? := by
  induction keys generalizing table with
  | nil => rfl
  | cons key keys ih =>
    obtain ⟨differ, absent⟩ := not_or.mp (mt List.mem_cons.mpr absent)
    rw [List.foldl_cons, ih absent, getElem?_checkOut_of_ne table (Ne.symm differ)]

private theorem exists_getElem?_checkOuts {keys : List LockKey} (used : table.Used)
    (nodup : keys.Nodup)
    (mem : k ∈ keys) :
    ∃ entry, (keys.foldl checkOut table).entries[k]? = some entry ∧
      entry.users = table.users k + 1 ∧ entry.drop? = table.entries[k]? := by
  induction keys generalizing table with
  | nil => cases mem
  | cons key keys ih =>
    obtain ⟨fresh, nodup⟩ := List.nodup_cons.mp nodup
    rw [List.foldl_cons]
    obtain rfl | mem := List.mem_cons.mp mem
    · rw [getElem?_checkOuts_of_not_mem fresh]
      exact exists_getElem?_checkOut used k
    · have differ : key ≠ k := fun same => fresh (same ▸ mem)
      have first := getElem?_checkOut_of_ne table differ
      have := ih (used.checkOut key) nodup mem
      rwa [users, first] at this

/-- Keys that each have an entry can all be checked in. -/
theorem exists_checkInAll (table : LockTable) {keys : List LockKey} (nodup : keys.Nodup)
    (held : ∀ key ∈ keys, key ∈ table.entries) :
    ∃ left, table.checkInAll keys = (none, left) ∧ ∀ k, left.entries[k]? =
      if k ∈ keys then table.entries[k]?.bind LockEntry.drop? else table.entries[k]? := by
  induction keys generalizing table with
  | nil => exact ⟨table, rfl, by simp⟩
  | cons key keys ih =>
    obtain ⟨fresh, nodup⟩ := List.nodup_cons.mp nodup
    obtain ⟨entry, here⟩ := Option.isSome_iff_exists.mp
      (ExtTreeMap.mem_iff_isSome_getElem?.mp (held key List.mem_cons_self))
    obtain ⟨next, step, own, others⟩ := exists_checkIn here
    have held' : ∀ k ∈ keys, k ∈ next.entries := by
      intro k mem
      rw [ExtTreeMap.mem_iff_isSome_getElem?, others k fun same => fresh (same ▸ mem),
        ← ExtTreeMap.mem_iff_isSome_getElem?]
      exact held k (List.mem_cons_of_mem _ mem)
    obtain ⟨left, rest, after⟩ := ih next nodup held'
    refine ⟨left, by rw [checkInAll, step]; exact rest, fun k => ?_⟩
    rw [after]
    by_cases same : key = k
    · subst same
      simp [fresh, own, here]
    · simp [others k same, Ne.symm same]

private theorem Used.enter (used : table.Used) (keys : ExtTreeSet LockKey) :
    (table.enter keys).Used :=
  used.checkOuts

/-- To leave a block finds all of its keys, and takes back what entering it did to the entries. -/
theorem exists_leave_enter {keys : ExtTreeSet LockKey} {inside : LockTable} (used : table.Used)
    (same : inside.entries = (table.enter keys).entries) :
    ∃ left, inside.leave keys = (none, left) ∧ left.entries = table.entries := by
  have nodup := nodup_toList keys
  obtain ⟨left, done, after⟩ := exists_checkInAll inside nodup fun key mem => by
    obtain ⟨_, held, _⟩ := exists_getElem?_checkOuts used nodup mem
    rw [same, ExtTreeMap.mem_iff_isSome_getElem?]
    exact Option.isSome_iff_exists.mpr ⟨_, held⟩
  refine ⟨left, done, ExtTreeMap.ext_getElem? fun k => ?_⟩
  rw [after, same, enter]
  split
  · next mem =>
    obtain ⟨_, held, _, dropped⟩ := exists_getElem?_checkOuts used nodup mem
    rw [held]
    exact dropped
  · next absent => exact getElem?_checkOuts_of_not_mem absent

end LockTable

/-! ## Runs -/

mutual

/-- However a block is left, the entries are those it met. -/
theorem LockBlock.entries_run {table : LockTable} (used : table.Used) :
    ∀ block : LockBlock, (block.run table).table.entries = table.entries
  | .holding keys inner failure => by
    have body := entries_runInner (used.enter (.ofList keys)) inner
    obtain ⟨left, done, same⟩ := LockTable.exists_leave_enter used body
    rw [LockBlock.run, done]
    exact same
  | .attempt inner => entries_runInner used inner

/-- Inner blocks leave the entries as they met them, also if one fails. -/
theorem LockBlock.entries_runInner {table : LockTable} (used : table.Used) :
    ∀ blocks : List LockBlock, (runInner table blocks).table.entries = table.entries
  | [] => rfl
  | block :: rest => by
    have first := entries_run used block
    have used' : (block.run table).table.Used := by rwa [LockTable.Used, first]
    rw [runInner]
    split
    · exact first
    · exact (entries_runInner used' rest).trans first

end

/-! ## Counts -/

namespace LockTable

/-- The table has exactly the keys of the entered blocks, each with as many holders as there are
entered blocks that hold it. -/
structure Counts (table : LockTable) (entered : List (ExtTreeSet LockKey)) : Prop where
  mem_iff : ∀ key, key ∈ table.entries ↔ ∃ keys ∈ entered, key ∈ keys
  users : ∀ key entry, table.entries[key]? = some entry →
    entry.users = entered.countP (·.contains key)
  size : table.size = (ExtTreeSet.ofList (entered.flatMap (·.toList))).size

variable {table other : LockTable} {keys : ExtTreeSet LockKey}
  {entered : List (ExtTreeSet LockKey)} {key : LockKey}

/-- A key has a holder exactly when it has an entry. -/
theorem users_pos_iff (used : table.Used) : 0 < table.users key ↔ key ∈ table.entries := by
  rw [users, ExtTreeMap.mem_iff_isSome_getElem?]
  cases held : table.entries[key]? with
  | none => simp
  | some entry =>
    have := used key entry held
    simp
    omega

/-- The numbers of holders settle the rest. -/
theorem counts_of_users (used : table.Used)
    (count : ∀ key, table.users key = entered.countP (·.contains key)) :
    table.Counts entered := by
  have mem_iff : ∀ key, key ∈ table.entries ↔ ∃ keys ∈ entered, key ∈ keys := by
    intro key
    rw [← users_pos_iff used, count, List.countP_pos_iff]
    rfl
  refine ⟨mem_iff, fun key entry held => ?_, ?_⟩
  · rw [← count, LockTable.users, held]
    rfl
  · rw [size, ← ExtTreeMap.length_keys, ← ExtTreeSet.length_toList]
    apply List.Perm.length_eq
    apply (List.perm_ext_iff_of_nodup ExtTreeMap.nodup_keys (nodup_toList _)).mpr
    intro key
    rw [ExtTreeMap.mem_keys, mem_iff, ExtTreeSet.mem_toList, ExtTreeSet.mem_ofList]
    simp

/-- A table that counts the entered blocks has a holder for every entry. -/
theorem Counts.used (counts : table.Counts entered) : table.Used := by
  intro key entry held
  rw [counts.users key entry held, Nat.one_le_iff_ne_zero, ← Nat.pos_iff_ne_zero,
    List.countP_pos_iff]
  exact (counts.mem_iff key).mp (ExtTreeMap.mem_iff_isSome_getElem?.mpr (by rw [held]; rfl))

private theorem Counts.users_eq (counts : table.Counts entered) (key : LockKey) :
    table.users key = entered.countP (·.contains key) := by
  cases held : table.entries[key]? with
  | some entry =>
    rw [LockTable.users, held]
    exact counts.users key entry held
  | none =>
    have absent : ¬ 0 < entered.countP (·.contains key) := by
      rw [List.countP_pos_iff]
      intro entered
      have := (counts.mem_iff key).mpr entered
      simp [ExtTreeMap.mem_iff_isSome_getElem?, held] at this
    rw [LockTable.users, held]
    simp only [Option.map_none, Option.getD_none]
    omega

/-- A new table counts as long as no block is entered. -/
theorem counts_empty : (∅ : LockTable).Counts [] :=
  counts_of_users (fun key entry held => by cases held) fun key => rfl

/-- What a table counts depends on its entries alone. -/
theorem Counts.congr (counts : table.Counts entered) (same : other.entries = table.entries) :
    other.Counts entered := by
  refine ⟨?_, ?_, ?_⟩
  · rw [same]
    exact counts.mem_iff
  · rw [same]
    exact counts.users
  · rw [LockTable.size, same]
    exact counts.size

/-- Entering a block counts it for each of its keys, however often it lists them. -/
theorem Counts.enter (counts : table.Counts entered) (keys : ExtTreeSet LockKey) :
    (table.enter keys).Counts (keys :: entered) := by
  refine counts_of_users (counts.used.enter _) fun key => ?_
  rw [List.countP_cons, ← counts.users_eq]
  by_cases mem : key ∈ keys
  · obtain ⟨entry, held, count, _⟩ :=
      exists_getElem?_checkOuts counts.used (nodup_toList keys) (ExtTreeSet.mem_toList.mpr mem)
    rw [LockTable.users, LockTable.enter, held, if_pos (ExtTreeSet.mem_iff_contains.mp mem)]
    exact count
  · have absent := mt ExtTreeSet.mem_toList.mp mem
    rw [LockTable.users, LockTable.enter, getElem?_checkOuts_of_not_mem absent,
      if_neg (mt ExtTreeSet.mem_iff_contains.mpr mem)]
    rfl

end LockTable

/-! ## Visits -/

/-- A block on its way through a run: the key sets of the blocks around it that are entered, the
innermost first, and the table it meets. -/
structure LockVisit where
  entered : List (ExtTreeSet LockKey)
  table : LockTable
  block : LockBlock

namespace LockVisit

/-- The key sets that are entered inside of the block. -/
def held (v : LockVisit) : List (ExtTreeSet LockKey) :=
  match v.block with
  | .holding keys _ _ => .ofList keys :: v.entered
  | .attempt _ => v.entered

/-- The table that the inner blocks meet. -/
def inside (v : LockVisit) : LockTable :=
  match v.block with
  | .holding keys _ _ => v.table.enter (.ofList keys)
  | .attempt _ => v.table

/-- The inner blocks. -/
def blocks (v : LockVisit) : List LockBlock :=
  match v.block with
  | .holding _ inner _ => inner
  | .attempt inner => inner

/-- The table that the inner blocks leave. -/
def leaving (v : LockVisit) : LockTable :=
  (LockBlock.runInner v.inside v.blocks).table

/-- The table that is left when the block is done. -/
def left (v : LockVisit) : LockTable :=
  (v.block.run v.table).table

/-- The visits of blocks one after the other, up to the first that fails. -/
def sequence (entered : List (ExtTreeSet LockKey)) (table : LockTable) :
    List LockBlock → List LockVisit
  | [] => []
  | block :: rest =>
    let run := block.run table
    ⟨entered, table, block⟩ ::
      match run.failure with
      | some _ => []
      | none => sequence entered run.table rest

/-- The visits right inside of a visit. -/
def inner (v : LockVisit) : List LockVisit :=
  sequence v.held v.inside v.blocks

/-- A visit that the run of another comes to, at any depth, or that visit itself. -/
def Within (u v : LockVisit) : Prop :=
  Relation.ReflTransGen (fun outer inner => inner ∈ outer.inner) v u

/-- Before, inside and after the block the table counts the entered blocks. When the block is left,
each of its keys is found, and the entries are those it met. -/
structure Balanced (v : LockVisit) : Prop where
  before : v.table.Counts v.entered
  inside : v.inside.Counts v.held
  leaving : v.leaving.Counts v.held
  found : ∀ keys inner failure, v.block = .holding keys inner failure →
    (v.leaving.leave (.ofList keys)).1 = none
  after : v.left.Counts v.entered
  restored : v.left.entries = v.table.entries

variable {u v : LockVisit}

private theorem counts_inside (counts : v.table.Counts v.entered) : v.inside.Counts v.held := by
  rw [LockVisit.inside, held]
  split
  · exact counts.enter _
  · exact counts

/-- A visit whose table counts the entered blocks when it starts does so throughout. -/
theorem balanced_of_counts (counts : v.table.Counts v.entered) : v.Balanced := by
  have inside := counts_inside counts
  have kept : v.leaving.entries = v.inside.entries := LockBlock.entries_runInner inside.used _
  have restored : v.left.entries = v.table.entries := LockBlock.entries_run counts.used _
  refine ⟨counts, inside, inside.congr kept, ?_, counts.congr restored, restored⟩
  intro keys inner failure shape
  rw [LockVisit.inside, shape] at kept
  obtain ⟨_, done, _⟩ := LockTable.exists_leave_enter counts.used kept
  rw [done]

/-- Each block of a sequence meets a table that counts the blocks entered around it. -/
theorem counts_of_mem_sequence {entered : List (ExtTreeSet LockKey)} {table : LockTable}
    {blocks : List LockBlock} (counts : table.Counts entered)
    (mem : u ∈ sequence entered table blocks) : u.table.Counts u.entered := by
  induction blocks generalizing table with
  | nil => cases mem
  | cons block rest ih =>
    rw [sequence] at mem
    obtain rfl | mem := List.mem_cons.mp mem
    · exact counts
    · split at mem
      · cases mem
      · exact ih (counts.congr (LockBlock.entries_run counts.used block)) mem

/-- So does each visit that a run comes to. -/
theorem counts_of_within (counts : v.table.Counts v.entered) (within : u.Within v) :
    u.table.Counts u.entered := by
  induction within with
  | refl => exact counts
  | tail _ step ih => exact counts_of_mem_sequence (counts_inside ih) step

/-- At every point of the run of a block, the table has exactly the keys of the blocks that are
entered, and each block that the run comes to leaves the entries as it met them, however it
ends. -/
theorem balanced_of_within (counts : v.table.Counts v.entered) (within : u.Within v) :
    u.Balanced := by
  have there : u.table.Counts u.entered := counts_of_within counts within
  exact balanced_of_counts there

-- The keys of two blocks, one inside of the other: a file held by both and listed twice by the
-- outer one.
private def sampleOuter : List LockKey :=
  [.ofFile "a.rs", .ofFile "a.rs"]

private def sampleMiddle : List LockKey :=
  [.ofFile "b.rs", .ofFile "a.rs"]

-- The failure of the innermost block leaves both early before it is caught.
private def sampleFailing : LockBlock :=
  .holding [.ofFile "a.rs"] [] (some "boom")

/-- A failing block inside of two others is balanced, and leaves nothing behind. -/
theorem sample_balanced_of_within :
    let nested : LockVisit :=
      ⟨[], ∅, .attempt [.holding sampleOuter [.holding sampleMiddle [sampleFailing] none] none]⟩
    let failing : LockVisit := ⟨[.ofList sampleMiddle, .ofList sampleOuter],
      ((∅ : LockTable).enter (.ofList sampleOuter)).enter (.ofList sampleMiddle), sampleFailing⟩
    failing.Within nested ∧ failing.Balanced ∧ failing.inside.users (.ofFile "a.rs") = 3 ∧
      failing.inside.size = 2 ∧ nested.left.size = 0 := by
  intro nested failing
  have within : failing.Within nested :=
    ((Relation.ReflTransGen.single List.mem_cons_self).tail List.mem_cons_self).tail
      List.mem_cons_self
  have balanced := balanced_of_within (v := nested) LockTable.counts_empty within
  exact ⟨within, balanced, by decide +kernel, by decide +kernel, by decide +kernel⟩

/-! ## What is seen of a run -/

/-- The run of a block is made of the tables of its visit: the inner blocks run from the one inside,
and the keys are given back to the one that these leave. -/
theorem run_block (v : LockVisit) :
    v.block.run v.table =
      let body := LockBlock.runInner v.inside v.blocks
      match v.block with
      | .holding keys _ failure =>
        { events := .held v.inside.size :: body.events
          failure := (v.leaving.leave (.ofList keys)).1.map .missing <|> body.failure <|>
            failure.map .raised
          table := (v.leaving.leave (.ofList keys)).2 }
      | .attempt _ => { body with failure := none } := by
  obtain ⟨entered, table, block⟩ := v
  cases block with
  | holding keys inner failure => rfl
  | attempt inner => rfl

/-- Of blocks one after the other, each meets the table that the one before it left. -/
theorem isChain_sequence (entered : List (ExtTreeSet LockKey)) (table : LockTable)
    (blocks : List LockBlock) :
    (sequence entered table blocks).IsChain fun u next => next.table = u.left := by
  induction blocks generalizing table with
  | nil => exact .nil
  | cons block rest ih =>
    rw [sequence]
    cases done : (block.run table).failure with
    | some failure => exact .singleton _
    | none =>
      refine (ih _).cons fun next first => ?_
      cases rest with
      | nil => cases first
      | cons block' rest =>
        cases first
        rfl

/-- They leave the table that the last of them left. -/
theorem table_runInner (entered : List (ExtTreeSet LockKey)) (table : LockTable)
    (blocks : List LockBlock) :
    (LockBlock.runInner table blocks).table =
      ((sequence entered table blocks).getLast?.map left).getD table := by
  induction blocks generalizing table with
  | nil => rfl
  | cons block rest ih =>
    rw [LockBlock.runInner, sequence, List.getLast?_cons]
    cases done : (block.run table).failure with
    | some failure => rfl
    | none =>
      dsimp only
      rw [ih, Option.map_some, Option.getD_some]
      cases (sequence entered (block.run table).table rest).getLast? with
      | none => rfl
      | some u => rfl

mutual

/-- A number that is seen in the run of a block is that of the keys inside of a block that the run
comes to, or after it. -/
theorem exists_of_mem_run {entered : List (ExtTreeSet LockKey)} {table : LockTable} {n : Nat} :
    ∀ block : LockBlock, .held n ∈ (block.run table).events →
      ∃ u : LockVisit, u.Within ⟨entered, table, block⟩ ∧ (n = u.inside.size ∨ n = u.left.size)
  | .holding keys inner failure, mem => by
    rw [LockBlock.run] at mem
    obtain same | mem := List.mem_cons.mp mem
    · cases same
      exact ⟨⟨entered, table, .holding keys inner failure⟩, .refl, .inl rfl⟩
    · obtain ⟨m, step, u, within, size⟩ := exists_of_mem_runInner inner mem
      exact ⟨u, .head step within, size⟩
  | .attempt inner, mem => by
    rw [LockBlock.run] at mem
    obtain ⟨m, step, u, within, size⟩ := exists_of_mem_runInner inner mem
    exact ⟨u, .head step within, size⟩

/-- So it is for blocks one after the other. -/
theorem exists_of_mem_runInner {entered : List (ExtTreeSet LockKey)} {table : LockTable}
    {n : Nat} :
    ∀ blocks : List LockBlock, .held n ∈ (LockBlock.runInner table blocks).events →
      ∃ m ∈ sequence entered table blocks, ∃ u : LockVisit, u.Within m ∧
        (n = u.inside.size ∨ n = u.left.size)
  | [], mem => by cases mem
  | block :: rest, mem => by
    have first (mem : .held n ∈ (block.run table).events) :
        ∃ m ∈ sequence entered table (block :: rest), ∃ u : LockVisit, u.Within m ∧
          (n = u.inside.size ∨ n = u.left.size) := by
      obtain ⟨u, within, size⟩ := exists_of_mem_run block mem
      exact ⟨_, List.mem_cons_self, u, within, size⟩
    rw [LockBlock.runInner] at mem
    split at mem
    · exact first mem
    next done =>
    obtain mem | mem := List.mem_append.mp mem
    · exact first mem
    obtain same | mem := List.mem_cons.mp mem
    · cases same
      exact ⟨_, List.mem_cons_self, _, .refl, .inr rfl⟩
    · obtain ⟨m, among, u, within, size⟩ := exists_of_mem_runInner rest mem
      refine ⟨m, ?_, u, within, size⟩
      rw [sequence, done]
      exact List.mem_cons_of_mem _ among

end

/-- Whatever number is seen in a run, it is that of the different keys of the blocks that are
entered where it is seen. -/
theorem size_of_mem_run {n : Nat} (counts : v.table.Counts v.entered)
    (mem : .held n ∈ (v.block.run v.table).events) : ∃ u : LockVisit, u.Within v ∧
      (n = (ExtTreeSet.ofList (u.held.flatMap (·.toList))).size ∨
        n = (ExtTreeSet.ofList (u.entered.flatMap (·.toList))).size) := by
  obtain ⟨u, within, seen⟩ := exists_of_mem_run v.block mem
  have balanced := balanced_of_counts (counts_of_within counts within)
  rcases seen with rfl | rfl
  · exact ⟨u, within, .inl balanced.inside.size⟩
  · exact ⟨u, within, .inr balanced.after.size⟩

/-- Top-level blocks each start from the entries that the first one met, and what is seen of their
runs is the number of different keys of the blocks that are entered there. -/
theorem size_of_mem_runAll {entered : List (ExtTreeSet LockKey)} {table : LockTable} {n : Nat}
    (counts : table.Counts entered) (blocks : List LockBlock)
    (mem : .held n ∈ LockBlock.runAll table blocks) :
    ∃ (start : LockTable) (block : LockBlock) (u : LockVisit), start.entries = table.entries ∧
      block ∈ blocks ∧ u.Within ⟨entered, start, block⟩ ∧
      (n = (ExtTreeSet.ofList (u.held.flatMap (·.toList))).size ∨
        n = (ExtTreeSet.ofList (u.entered.flatMap (·.toList))).size) := by
  induction blocks generalizing table with
  | nil => cases mem
  | cons block rest ih =>
    have restored := LockBlock.entries_run counts.used block
    rw [LockBlock.runAll, List.append_assoc, List.mem_append] at mem
    rcases mem with mem | mem
    · obtain ⟨u, within, size⟩ := size_of_mem_run (v := ⟨entered, table, block⟩) counts mem
      exact ⟨table, block, u, rfl, List.mem_cons_self, within, size⟩
    obtain mem | mem := List.mem_append.mp mem
    · simp at mem
    obtain same | mem := List.mem_cons.mp mem
    · cases same
      exact ⟨table, block, _, rfl, List.mem_cons_self, .refl,
        .inr (counts.congr restored).size⟩
    · obtain ⟨start, block', u, same, among, within, size⟩ := ih (counts.congr restored) mem
      exact ⟨start, block', u, same.trans restored, List.mem_cons_of_mem _ among, within, size⟩

end LockVisit

end CodeGauge
