import CodeGauge.Proofs.Store.Soundness
import CodeGauge.Proofs.Store.Throughout

/-!
# Tables that are true to their ids

An id belongs to the symbol that it was given to and is never given to another: ids count up, and no
statement changes a stored symbol. So the metrics row of an id goes on describing the symbol of that
id for as long as the symbol is stored (`Database.Faithful`). Every statement keeps this of all the
tables there are, the committed ones and the pending ones (`Action.Keeps`). Only a symbol row must
be looked at when it is written: it has to describe the symbol that its id was given to
(`SymbolMetrics.Draft.Tells`).
-/

open Std

namespace CodeGauge

variable {ω α β : Type}

/-- The row has the name, the kind, the file and the sizes of the symbol. -/
structure SymbolMetricsRow.Describes (row : SymbolMetricsRow) (symbol : SymbolRow) : Prop where
  name : row.name = symbol.name
  kind : row.kind = symbol.kind
  path : row.path = symbol.file
  loc : row.loc = linesOf symbol.line symbol.endLine
  estimatedLoc : row.estimatedLoc = estimateOfValue (bytesOf symbol.byteStart symbol.byteEnd)

/-- The tables are true to the ids, of which `given` tells to what symbols some were given: such an
id has this symbol or none, and will not be given out again. The metrics row of a stored symbol
describes it. -/
structure Database.Faithful (db : Database) (given : Int → SymbolRow → Prop) : Prop where
  given : ∀ id symbol, given id symbol →
    id ≤ db.lastSymbol ∧ ∀ row, db.symbols[id]? = some row → row = symbol
  symbols : ∀ (id : Int) (symbol : SymbolRow), db.symbols[id]? = some symbol →
    id ≤ db.lastSymbol ∧ (Path.ofString symbol.file).toString = symbol.file
  rows : ∀ (id : Int) (row : SymbolMetricsRow), db.symbolMetrics[id]? = some row →
    id ≤ db.lastSymbol ∧ ∀ symbol, db.symbols[id]? = some symbol → row.Describes symbol

/-- What a change of the graph does to symbols and their metrics rows: symbols go, or come with new
ids, and no row is written. -/
structure Database.Later (db db' : Database) : Prop where
  last : db.lastSymbol ≤ db'.lastSymbol
  symbols : ∀ (id : Int) (symbol : SymbolRow), db'.symbols[id]? = some symbol →
    db.symbols[id]? = some symbol ∨ db.lastSymbol < id ∧ id ≤ db'.lastSymbol ∧
      (Path.ofString symbol.file).toString = symbol.file
  rows : ∀ (id : Int) (row : SymbolMetricsRow), db'.symbolMetrics[id]? = some row →
    db.symbolMetrics[id]? = some row

namespace Database

variable {db db' : Database} {given given' : Int → SymbolRow → Prop}

namespace Faithful

/-- Fewer ids may be told of. -/
theorem mono (h : db.Faithful given) (le : ∀ id symbol, given' id symbol → given id symbol) :
    db.Faithful given' :=
  ⟨fun id symbol told => h.given id symbol (le id symbol told), h.symbols, h.rows⟩

/-- The symbols that are stored have the ids that were given to them. -/
theorem own (h : db.Faithful given) :
    db.Faithful fun id symbol => given id symbol ∨ db.symbols[id]? = some symbol := by
  refine ⟨fun id symbol told => ?_, h.symbols, h.rows⟩
  rcases told with told | stored
  · exact h.given id symbol told
  · refine ⟨(h.symbols id symbol stored).1, fun row held => ?_⟩
    rw [stored] at held
    exact (Option.some.inj held).symm

/-- A change of the graph leaves the tables true to the ids. -/
theorem later (h : db.Faithful given) (l : db.Later db') : db'.Faithful given := by
  constructor
  · intro id symbol told
    have ⟨le, same⟩ := h.given id symbol told
    refine ⟨Int.le_trans le l.last, fun row held => ?_⟩
    rcases l.symbols id row held with old | ⟨new, -⟩
    · exact same row old
    · omega
  · intro id symbol held
    rcases l.symbols id symbol held with old | ⟨-, le, normal⟩
    · have ⟨le, normal⟩ := h.symbols id symbol old
      exact ⟨Int.le_trans le l.last, normal⟩
    · exact ⟨le, normal⟩
  · intro id row held
    have ⟨le, describes⟩ := h.rows id row (l.rows id row held)
    refine ⟨Int.le_trans le l.last, fun symbol stored => ?_⟩
    rcases l.symbols id symbol stored with old | ⟨new, -⟩
    · exact describes symbol old
    · omega

/-- Tables without symbols and rows are faithful. -/
theorem empty (none : ∀ id symbol, ¬given id symbol) (symbols : db.symbols = ∅)
    (rows : db.symbolMetrics = ∅) : db.Faithful given := by
  constructor
  · intro id symbol told
    exact absurd told (none id symbol)
  · intro id symbol held
    simp [symbols] at held
  · intro id row held
    simp [rows] at held

end Faithful

/-! ## Changes of the graph -/

namespace Later

/-- Tables without a new symbol or row are later ones. -/
theorem of_same (last : db'.lastSymbol = db.lastSymbol) (symbols : db'.symbols = db.symbols)
    (rows : ∀ (id : Int) (row : SymbolMetricsRow), db'.symbolMetrics[id]? = some row →
      db.symbolMetrics[id]? = some row) : db.Later db' := by
  refine ⟨Int.le_of_eq last.symm, fun id symbol held => .inl ?_, rows⟩
  rw [← symbols]
  exact held

/-- A symbol is inserted under an id above all that were given out. -/
theorem insertSymbol {d : Symbol.Draft} {id : Int}
    (inserted : db.insertSymbol d.values = .ok (id, db')) : db.Later db' := by
  obtain ⟨next, given, inserted⟩ := Except.bind_eq_ok.mp inserted
  obtain ⟨row, admitted, inserted⟩ := Except.bind_eq_ok.mp inserted
  cases inserted
  have above : db.lastSymbol < id := by
    rw [nextId] at given
    split at given
    · cases given
      omega
    · cases given
  have normal : (Path.ofString row.file).toString = row.file := by
    rw [(SymbolRow.eq_of_admit admitted).1, Path.ofString_toString]
  refine ⟨Int.le_of_lt above, ?_, fun _ _ held => held⟩
  exact forall_insert (.inr ⟨above, Int.le_refl id, normal⟩) fun _ _ held => .inl held

/-- Tables without some symbols are later ones. -/
theorem removeSymbols (p : Int → SymbolRow → Bool) : db.Later (db.removeSymbols p).2 :=
  ⟨Int.le_refl _, fun _ _ held => .inl (removeWhere_eq_some.mp held).1, fun _ _ held => held⟩

/-- Tables without all symbols are later ones. -/
theorem clearSymbols : db.Later { db with symbols := ∅ } := by
  refine ⟨Int.le_refl _, fun id symbol held => ?_, fun _ _ held => held⟩
  simp at held

/-- Tables without a symbol's row are later ones. -/
theorem removeSymbolMetrics (id : Int) : db.Later (db.removeSymbolMetrics id).2 :=
  .of_same rfl rfl fun _ _ held => (removeWhere_eq_some.mp held).1

/-- Tables without the rows of a file's symbols are later ones. -/
theorem removeSymbolMetricsInFile (file : String) :
    db.Later (db.removeSymbolMetricsInFile file).2 :=
  .of_same rfl rfl fun _ _ held => (removeWhere_eq_some.mp held).1

end Later

end Database

/-- The draft has the id of a symbol, and the row that it is stored as describes this symbol. -/
def SymbolMetrics.Draft.Tells (d : SymbolMetrics.Draft) (given : Int → SymbolRow → Prop) : Prop :=
  ∃ id symbol, d.symbolId = some id ∧ given id symbol ∧
    ∀ row, d.StoredAs row → (Path.ofString symbol.file).toString = symbol.file →
      row.Describes symbol

namespace Database

variable {db db' : Database} {given : Int → SymbolRow → Prop}

/-- A symbol row is written that describes the symbol that its id was given to. -/
theorem Faithful.putSymbolMetrics (h : db.Faithful given) {d : SymbolMetrics.Draft}
    (tells : d.Tells given) (put : db.putSymbolMetrics d = .ok ((), db')) :
    db'.Faithful given := by
  obtain ⟨id, symbol, hid, told, describes⟩ := tells
  obtain ⟨row, stored, put⟩ := Except.bind_eq_ok.mp put
  cases put
  rw [hid]
  have ⟨le, known⟩ := h.given id symbol told
  refine ⟨h.given, h.symbols, forall_insert ⟨le, fun now live => ?_⟩ h.rows⟩
  cases known now live
  exact describes row stored (h.symbols id symbol live).2

end Database

/-! ## Worlds -/

/-- What is on record while the repository at `path` is in use: to which symbols ids were given, by
the file of the database, and the file that the connection is to, if that matters. A database in
memory is a new one each time it is opened, so nothing can be on record of it unless the
connection to it is there to stay. -/
structure Register where
  path : Path
  given : Nat → Int → SymbolRow → Prop := fun _ _ _ => False
  focus : Option Nat := none
  opens : focus = none →
    Location.ofPath path = .ok .memory → ∀ file id symbol, ¬given file id symbol

namespace Register

/-- Nothing is on record. -/
def blank (path : Path) : Register where
  path
  opens _ _ _ _ _ := False.elim

/-- What is on record of the file that matters. -/
def known (R : Register) (id : Int) (symbol : SymbolRow) : Prop :=
  ∃ file, R.focus = some file ∧ R.given file id symbol

/-- A record has all that is on another. -/
structure Extends (R' R : Register) : Prop where
  path : R'.path = R.path
  given : ∀ file id symbol, R.given file id symbol → R'.given file id symbol
  focus : ∀ file, R.focus = some file → R'.focus = some file

private theorem Extends.known {R R' : Register} (ext : R'.Extends R) {id : Int} {symbol : SymbolRow}
    (h : R.known id symbol) : R'.known id symbol := by
  obtain ⟨file, on, given⟩ := h
  exact ⟨file, ext.focus file on, ext.given file id symbol given⟩

end Register

namespace World

/-- All tables are true to the ids on record, those that are committed and those that are pending.
The latter know the symbols of the former. -/
structure Faithful (w : World ω) (R : Register) : Prop where
  path : w.repository.path = R.path
  stored : ∀ file, (w.stored file).Faithful (R.given file)
  pending : ∀ (c : Connection) (db : Database), w.repository.connection = some c →
    c.transaction.bind (·.written) = some db →
    db.Faithful fun id symbol =>
      R.given c.file id symbol ∨ (w.stored c.file).symbols[id]? = some symbol
  focus : ∀ file, R.focus = some file → ∃ c, w.repository.connection = some c ∧ c.file = file

variable {w w' : World ω} {R R' : Register}

namespace Faithful

/-- While the repository is closed, no file matters. -/
theorem focus_eq_none (h : w.Faithful R) (closed : w.repository.connection = none) :
    R.focus = none := by
  cases on : R.focus with
  | none => rfl
  | some file =>
    obtain ⟨c, hc, _⟩ := h.focus file on
    rw [closed] at hc
    cases hc

/-- What a connection shows is true to the ids, those of the committed symbols included. -/
theorem tables (h : w.Faithful R) {c : Connection} (hc : w.repository.connection = some c)
    {db : Database} (shown : w.tables c = .ok db) :
    db.Faithful fun id symbol =>
      R.given c.file id symbol ∨ (w.stored c.file).symbols[id]? = some symbol := by
  rw [World.tables] at shown
  split at shown
  next written =>
    cases shown
    exact h.pending c _ hc written
  next =>
    rw [← stored_of_committed shown]
    exact (h.stored c.file).own

/-- The symbols that are stored may be put on record. -/
theorem record (h : w.Faithful R) (path : R'.path = R.path)
    (given : ∀ file id symbol, R'.given file id symbol →
      R.given file id symbol ∨ (w.stored file).symbols[id]? = some symbol)
    (focus : ∀ file, R'.focus = some file →
      ∃ c, w.repository.connection = some c ∧ c.file = file) : w.Faithful R' := by
  refine ⟨h.path.trans path.symm, fun file => ?_, fun c db hc written => ?_, focus⟩
  · exact (h.stored file).own.mono (given file)
  · refine (h.pending c db hc written).mono fun id symbol told => ?_
    exact told.elim (given c.file id symbol) .inr

/-- What is on record may be forgotten. -/
theorem weaken (h : w.Faithful R') (ext : R'.Extends R) : w.Faithful R :=
  h.record ext.path.symm (fun file id symbol told => .inl (ext.given file id symbol told))
    fun file on => h.focus file (ext.focus file on)

/-- The symbols that a connection's file has stored may be put on record, and the file with
them. -/
theorem exists_record (h : w.Faithful R) {c : Connection}
    (hc : w.repository.connection = some c) :
    ∃ R' : Register, R'.Extends R ∧ w.Faithful R' ∧
      ∀ id symbol, (w.stored c.file).symbols[id]? = some symbol → R'.known id symbol := by
  refine ⟨⟨R.path, fun file id symbol => R.given file id symbol ∨
    (w.stored file).symbols[id]? = some symbol, some c.file, nofun⟩, ⟨rfl, ?_, ?_⟩, ?_, ?_⟩
  · exact fun _ _ _ => .inl
  · intro file on
    obtain ⟨c', hc', rfl⟩ := h.focus file on
    rw [hc] at hc'
    cases hc'
    rfl
  · refine h.record rfl (fun _ _ _ told => told) fun file on => ⟨c, hc, ?_⟩
    exact Option.some.inj on
  · exact fun id symbol stored => ⟨c.file, rfl, .inr stored⟩

/-- A change that leaves the files of the database and the repository alone. -/
theorem of_same (h : w.Faithful R) (databases : w'.databases = w.databases)
    (repository : w'.repository = w.repository) : w'.Faithful R := by
  have stored (file : Nat) : w'.stored file = w.stored file := by
    rw [World.stored, databases, World.stored]
  constructor
  · rw [repository]
    exact h.path
  · intro file
    rw [stored]
    exact h.stored file
  · intro c db hc written
    rw [stored]
    rw [repository] at hc
    exact h.pending c db hc written
  · intro file on
    rw [repository]
    exact h.focus file on

/-- A change of the connection that keeps its file, and keeps or forgets what is pending. -/
theorem onConnection (h : w.Faithful R) {f : Connection → Connection}
    (file : ∀ c, (f c).file = c.file)
    (transaction : ∀ c, (f c).transaction.bind (·.written) = none ∨
      (f c).transaction = c.transaction) : (w.onConnection f).Faithful R := by
  refine ⟨h.path, h.stored, fun c' db hc' written => ?_, fun n on => ?_⟩
  · obtain ⟨c, hc, rfl⟩ := Option.map_eq_some_iff.mp hc'
    rcases transaction c with none | same
    · rw [none] at written
      cases written
    · rw [file c]
      rw [same] at written
      exact h.pending c db hc written
  · obtain ⟨c, hc, at_⟩ := h.focus n on
    exact ⟨f c, connection_onConnection hc f, (file c).trans at_⟩

/-- New tables are pending. -/
theorem write (h : w.Faithful R) {c : Connection} (hc : w.repository.connection = some c)
    {db : Database} (faithful : db.Faithful fun id symbol =>
      R.given c.file id symbol ∨ (w.stored c.file).symbols[id]? = some symbol)
    (fault : Option DatabaseFault) :
    (w.onConnection fun c => { c with transaction := some ⟨some db⟩, fault }).Faithful R := by
  refine ⟨h.path, h.stored, fun c' db' hc' written => ?_, fun n on => ?_⟩
  · rw [connection_onConnection hc] at hc'
    cases hc'
    cases written
    exact faithful
  · obtain ⟨c', hc', at_⟩ := h.focus n on
    exact ⟨_, connection_onConnection hc' _, at_⟩

/-- The tables of a file are replaced by others that are true to the same ids. -/
theorem insert (h : w.Faithful R) (n : Nat) {db : Database} (faithful : db.Faithful (R.given n))
    (pending : ∀ (c : Connection) (db' : Database), w.repository.connection = some c →
      c.transaction.bind (·.written) = some db' → c.file = n →
      db'.Faithful fun id symbol => R.given n id symbol ∨ db.symbols[id]? = some symbol) :
    ({ w with databases := w.databases.insert n db } : World ω).Faithful R := by
  refine ⟨h.path, fun file => ?_, fun c db' hc written => ?_, h.focus⟩
  · rw [stored_insert]
    split
    next same => exact same ▸ faithful
    · exact h.stored file
  · rw [stored_insert]
    split
    next same =>
      rw [← same]
      exact pending c db' hc written same.symm
    · exact h.pending c db' hc written

end Faithful

end World

end CodeGauge
