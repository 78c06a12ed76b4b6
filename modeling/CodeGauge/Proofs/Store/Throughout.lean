import CodeGauge.Proofs.Store.Upholding

/-!
# Properties of all tables

The tables that there are were committed to a file or are pending. A property of all of them
(`World.Throughout`) is an invariant of the repository if empty tables have it and making the tables
that are missing keeps it. A write may then be made if it keeps the property.
-/

open Std

namespace CodeGauge

variable {ω : Type}

namespace World

/-- The tables that were committed to a file, without a row if none were. -/
def stored (w : World ω) (file : Nat) : Database :=
  (w.databases[file]?).getD .bare

/-- There are these tables: they were committed to a file, or they are pending. -/
def Holds (w : World ω) (db : Database) : Prop :=
  (∃ file, w.stored file = db) ∨
    ∃ c, w.repository.connection = some c ∧ c.transaction.bind (·.written) = some db

/-- All tables that there are have the property. -/
def Throughout (J : Database → Prop) (w : World ω) : Prop :=
  ∀ db, w.Holds db → J db

variable {w : World ω} {J : Database → Prop}

/-- What is committed to a file is what is stored in it. -/
theorem stored_of_committed {file : Nat} {db : Database} (h : w.committed file = .ok db) :
    w.stored file = db := by
  rw [committed] at h
  rw [stored]
  split at h
  next held =>
    cases h
    rw [held]
    rfl
  next none =>
    split at h
    · cases h
      rw [none]
      rfl
    · cases h

/-- New tables take the place of those of one file. -/
theorem stored_insert (w : World ω) (n : Nat) (db : Database) (file : Nat) :
    ({ w with databases := w.databases.insert n db } : World ω).stored file =
      if n = file then db else w.stored file := by
  rw [World.stored, ExtTreeMap.getElem?_insert]
  by_cases same : n = file
  · simp [same]
  · simp [same, World.stored]

/-- What a connection shows, there is. -/
theorem Holds.of_tables {c : Connection} (hc : w.repository.connection = some c) {db : Database}
    (shown : w.tables c = .ok db) : w.Holds db := by
  rw [World.tables] at shown
  split at shown
  next written =>
    cases shown
    exact .inr ⟨c, hc, written⟩
  next => exact .inl ⟨c.file, stored_of_committed shown⟩

/-- Closing the repository loses what is pending and nothing else. -/
theorem Holds.of_closing {db : Database} (h : w.closing.Holds db) : w.Holds db := by
  rcases h with ⟨file, same⟩ | ⟨c, hc, _⟩
  · exact .inl ⟨file, same⟩
  · cases hc

namespace Throughout

private theorem insert (h : w.Throughout J) (n : Nat) {db : Database} (hdb : J db) :
    ({ w with databases := w.databases.insert n db } : World ω).Throughout J := by
  rintro other (⟨file, same⟩ | pending)
  · rw [stored_insert] at same
    split at same
    · exact same ▸ hdb
    · exact h other (.inl ⟨file, same⟩)
  · exact h other (.inr pending)

/-- A property of all tables is an invariant of the repository if missing tables do not break it. -/
theorem upheld (bare : J .bare) (whole : ∀ db, J db → J db.withAllTables) :
    Upheld (Throughout J : World ω → Prop) where
  same w w' databases repository h db held := by
    refine h db (held.imp ?_ ?_)
    · rintro ⟨file, stored⟩
      refine ⟨file, ?_⟩
      rw [← stored, World.stored, World.stored, databases]
    · rw [repository]
      exact id
  memory w file _ _ h := insert h file bare
  connects w c _ fresh h db held := by
    refine h db ?_
    rcases held with ⟨file, same⟩ | ⟨c', hc', written⟩
    · exact .inl ⟨file, same⟩
    · cases hc'
      rw [fresh] at written
      cases written
  completes w file db committed h :=
    insert h file (whole db (h db (.inl ⟨file, stored_of_committed committed⟩)))
  remembers w f file transaction h db held := by
    refine h db ?_
    rcases held with ⟨n, same⟩ | ⟨c', hc', written⟩
    · exact .inl ⟨n, same⟩
    · obtain ⟨c, hc, rfl⟩ := Option.map_eq_some_iff.mp hc'
      rcases transaction c with none | same
      · rw [none] at written
        cases written
      · exact .inr ⟨c, hc, same ▸ written⟩
  commits w c db hc written h := insert h c.file (h db (.inr ⟨c, hc, written⟩))

/-- So the tables that the repository shows have the property, if opening it keeps it. -/
theorem of_shows (up : Upheld (Throughout J : World ω → Prop)) (h : w.Throughout J) {db : Database}
    {disk : Disk} (shows : w.Shows db disk) : J db := by
  obtain ⟨o, ⟨c, hc, shown⟩, _, _, opened⟩ := shows.exists_open
  have run : Action.connection.runIn w = (.ok c, o) :=
    (opened _ Action.opens_connection).trans (Action.runIn_connection hc)
  have kept := up.connection w h
  rw [run] at kept
  exact kept db (.of_tables hc shown)

/-- A write that keeps the property may be made. -/
theorem admits {before after : Database} (kept : J before → J after) :
    Admits (Throughout J : World ω → Prop) before after := by
  intro w c hc shown h db held
  rcases held with ⟨file, same⟩ | ⟨c', hc', written⟩
  · exact h db (.inl ⟨file, same⟩)
  · rw [connection_onConnection hc] at hc'
    cases hc'
    cases written
    exact kept (h before (.of_tables hc shown))

end Throughout

end World

end CodeGauge
