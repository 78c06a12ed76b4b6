import CodeGauge.Command.Tools
import CodeGauge.Proofs.Command.Hotspots
import CodeGauge.Proofs.Engine.Presentable
import CodeGauge.Proofs.Store.Confined

/-!
# Calls of tools that are answered

A call whose arguments are of the types that the tool describes is answered by a document: what it
asks for, or what the caller can mend. There is one exception. A statement can only be given an
integer that a column can hold, and the error of one that no column can hold goes on unanswered, as
does the fault of a limit that stands for no such integer (`ToolCall.answered_iff_storable`).
-/

open Std

namespace CodeGauge

open CodeGauge.Action World

variable {ω α β : Type}

/-! ## Calls -/

/-- A value is an integer: one of any size, or a number without a fraction. -/
def Json.IsInteger (v : Json) : Prop :=
  (∃ n, v = .int n) ∨ ∃ x, v = .real x ∧ x.isFinite = true ∧ x.isWhole = true

/-- An integer stands for one. -/
theorem Json.IsInteger.exists_integer {v : Json} (h : v.IsInteger) : ∃ n, v.integer = .ok n := by
  rcases h with ⟨n, rfl⟩ | ⟨x, rfl, finite, _⟩
  · exact ⟨n, rfl⟩
  · exact ⟨_, if_pos finite⟩

/-- A value is of the type of an argument. -/
structure ToolArgument.Takes (a : ToolArgument) (given : Json) : Prop where
  string : a.type = "string" → ∃ s, given = .text s
  integer : a.type = "integer" → given.IsInteger
  boolean : a.type = "boolean" → ∃ b, given = .bool b

namespace ToolCall

variable {c : ToolCall}

/-- The arguments that are given are of the types that the tool of this name describes, if there is
one. -/
def Formed (c : ToolCall) : Prop :=
  ∀ t ∈ toolDescriptions, t.name = c.name → ∀ a ∈ t.arguments,
    ∀ given, c.argument? a.name = some given → a.Takes given

/-- An argument that is described to be of a type is so where it is given. -/
theorem Formed.exists_takes (formed : c.Formed) {name key : String} (type : String)
    (called : c.name = name)
    (described : ∃ t ∈ toolDescriptions, t.name = name ∧
      ∃ a ∈ t.arguments, a.name = key ∧ a.type = type) {given : Json}
    (said : c.argument? key = some given) : ∃ a : ToolArgument, a.type = type ∧ a.Takes given := by
  obtain ⟨t, mem, rfl, a, among, rfl, own⟩ := described
  exact ⟨a, own, formed t mem called.symm a among given said⟩

/-- Integers are integers where they are given. -/
theorem Formed.isInteger (formed : c.Formed) {name key : String} (called : c.name = name)
    (described : ∃ t ∈ toolDescriptions, t.name = name ∧
      ∃ a ∈ t.arguments, a.name = key ∧ a.type = "integer")
    {given : Json} (said : c.argument? key = some given) : given.IsInteger := by
  obtain ⟨a, type, takes⟩ := formed.exists_takes _ called described said
  exact takes.integer type

/-- The thresholds and the limit of a call for hotspots can be bound. -/
theorem Formed.bindable (formed : c.Formed) (called : c.name = "metrics_hotspots")
    (settings : Settings) : ∀ v ∈ c.thresholds ++ [c.limit settings], v.value.isOk := by
  have bound {v : Json} (integer : v.IsInteger) : v.value.isOk := by
    rcases integer with ⟨n, rfl⟩ | ⟨x, rfl, _⟩
    · rfl
    · rfl
  have threshold {key : String} {v : Json} (among : key ∈ ["min_loc", "min_fan_in", "min_fan_out"])
      (mem : v ∈ (c.optional key).toList) : v.value.isOk := by
    have said : c.argument? key = some v :=
      (Option.filter_eq_some_iff.mp (Option.mem_toList.mp mem)).1
    refine bound (formed.isInteger called ?_ said)
    simp only [List.mem_cons, List.not_mem_nil, or_false] at among
    rcases among with rfl | rfl | rfl <;> decide
  intro v mem
  rcases List.mem_append.mp mem with mem | mem
  · rw [thresholds, List.mem_append, List.mem_append] at mem
    rcases mem with (mem | mem) | mem
    · exact threshold (by simp) mem
    · exact threshold (by simp) mem
    · exact threshold (by simp) mem
  · rw [List.mem_singleton.mp mem, limit]
    cases said : (c.argument? "limit").filter Json.isSaid with
    | none => rfl
    | some given =>
      refine bound (formed.isInteger called ?_ (Option.filter_eq_some_iff.mp said).1)
      decide

/-- A column can hold the integers that a call makes a statement with, and the limit of a query
stands for one. -/
structure StorableUnder (settings : Settings) (c : ToolCall) : Prop where
  symbol : c.name = "metrics_symbol" → ∀ given, c.argument? "symbol_id" = some given →
    ∀ id, given.integer = .ok id → inColumn id = true
  values : c.name = "metrics_hotspots" →
    ∀ v ∈ MetricsStore.hotspotValues (c.query settings), fits v = true
  limit : c.name = "metrics_hotspots" → ∃ n, (c.query settings).limit.numeric = .int n

/-- So it is under the settings that the call finds. -/
def Storable (home : Path) (env : Environment) (c : ToolCall) : Prop :=
  ∀ settings, Settings.ofEnvironment env home = .ok settings → c.StorableUnder settings

end ToolCall

/-- The index that the settings name is there and can be opened. -/
def World.HasIndex (w : World ω) (home : Path) (env : Environment) : Prop :=
  ∀ settings, Settings.ofEnvironment env home = .ok settings →
    w.disk.holds settings.databasePath = .ok true ∧
      ∃ db disk, World.Shows { w with repository := { path := settings.databasePath } } db disk

/-- What the document of a result begins with, by the name of the tool. -/
def resultKeys : List (String × String) :=
  [("metrics_file", "file"), ("metrics_symbol", "symbol"), ("metrics_hotspots", "results"),
    ("metrics_stats", "files")]

/-- A document with named members that says what is wrong, or is a result of the tool of this
name. -/
inductive IsAnswer (name : String) : Json → Prop
  | error (message : String) (rest : List (String × Json)) :
    IsAnswer name (.object (("error", .text message) :: rest))
  | result {key : String} (known : (name, key) ∈ resultKeys) (value : Json)
    (rest : List (String × Json)) : IsAnswer name (.object ((key, value) :: rest))

/-- The tool of this name answers such a result: it is an answer, or an error that the caller can
mend. -/
def Answerable (name : String) (r : Except Error Json) : Prop :=
  (∃ d, r = .ok d ∧ IsAnswer name d) ∨ ∃ e, r = .error e ∧ e.isAnswered = true

/-- A tool leaves such a result unanswered: an integer was beyond what a column can hold, or the
database refused a statement. -/
def Unanswerable (r : Except Error Json) : Prop :=
  ∃ e, r = .error e ∧ (e = .beyondColumn ∨ e.IsFault)

private theorem ToolCall.answered_of_answerable {name : String} {r : Except Error Json}
    (h : Answerable name r) : ∃ d, answered r = .ok d ∧ IsAnswer name d := by
  rcases h with ⟨d, rfl, isAnswer⟩ | ⟨e, rfl, mendable⟩
  · exact ⟨d, rfl, isAnswer⟩
  · exact ⟨_, if_pos mendable, .error _ _⟩

private theorem ToolCall.answered_of_unanswerable {r : Except Error Json} (h : Unanswerable r) :
    Unanswerable (answered r) := by
  obtain ⟨e, rfl, unmendable⟩ := h
  refine ⟨e, if_neg ?_, unmendable⟩
  rcases unmendable with rfl | ⟨fault, rfl⟩
  · decide
  · simp [Error.isAnswered, Error.isReported]

/-! ## How bodies end -/

namespace Action

/-- Wherever the repository is open on these tables, the action ends as `R` says. -/
def Ends (x : Action ω α) (db : Database) (R : Except Error α → Prop) : Prop :=
  ∀ w : World ω, w.Open db → R (x.runIn w).1

namespace Ends

variable {db : Database} {R : Except Error α → Prop} {statement : Statement} {values : List Value}
  {read : Database → β} {f : β → Action ω α}

private theorem of {r : Except Error α} (h : R r) : (Action.of r : Action ω α).Ends db R := by
  intro w _
  rwa [runIn_of]

private theorem given {r : Except Error β} (fails : ∀ e, r = .error e → R (.error e))
    (rest : ∀ b, r = .ok b → (f b).Ends db R) : (Action.of r >>= f).Ends db R := by
  intro w isOpen
  cases r with
  | error e => exact fails e rfl
  | ok b => exact rest b rfl w isOpen

private theorem pure {a : α} (h : R (.ok a)) : (Pure.pure a : Action ω α).Ends db R :=
  fun _ _ => h

/-- Where no table is missing and the values fit, a query hands on what it reads. -/
theorem query (whole : db.dropped = []) (ordinary : statement.Ordinary)
    (fit : ∀ v ∈ values, fits v = true) (rest : (f (read db)).Ends db R) :
    (Action.query statement values read >>= f).Ends db R := by
  intro w isOpen
  obtain ⟨_, w₁, run, rfl, alike⟩ :=
    query_succeeds isOpen (Database.missing?_of_whole whole _) (ordinary.few _) ordinary.known fit
      read
  rw [runIn_bind_of_ok run]
  exact rest w₁ (alike.open isOpen)

/-- A query is not run if one of the values does not fit. -/
theorem unfit {f : β → Action ω Json} (unfit : ∃ v ∈ values, fits v = false) :
    (Action.query statement values read >>= f).Ends db Unanswerable := by
  intro w ⟨c, hc, _⟩
  have never : (Action.query statement values read).Ensures w fun _ _ => False :=
    .skip fun _ _ => .never (bind_never unfit) _
  rw [runIn_bind]
  rcases run : (Action.query statement values read).runIn w with ⟨e | a, w'⟩
  · have stops := (query_confined statement values read).fails hc e w' run
    exact ⟨e, rfl, stops.symm.imp_left And.left⟩
  · exact (never a w' run).elim

end Ends

end Action

/-! ## The bodies of the tools -/

section Bodies

variable {db : Database}

private theorem FileMetrics.report_eq_ok {row : FileMetrics} {score : Binary64}
    (made : row.score = .ok score) : ∃ members, row.report = .ok (.object members) := by
  rw [report, made]
  exact ⟨_, rfl⟩

/-- The greatest of stored times is one of them, if there is one. -/
theorem latest_mem (values : List Value) : latest values = .null ∨ latest values ∈ values := by
  have grown (greatest : Value) : values.foldl
      (fun greatest v => if greatest.order v = .lt then v else greatest) greatest ∈
        greatest :: values := by
    induction values generalizing greatest with
    | nil => exact List.mem_cons_self
    | cons v values ih =>
      rw [List.foldl_cons]
      have among := ih (if greatest.order v = .lt then v else greatest)
      split at among <;> grind
  exact List.mem_cons.mp (grown .null)

/-- If there is a last time it is a text. -/
theorem Database.Presentable.latest_eq (h : db.Presentable) {last : Value}
    (own : latest ((db.pathlessFiles ++ db.files.toList.map (·.2)).map (·.indexedAt)) = last) :
    last = .null ∨ ∃ s, last = .text s := by
  rw [← own]
  refine (latest_mem _).imp_right fun mem => ?_
  rw [h.pathed.2, List.nil_append, List.map_map] at mem ⊢
  obtain ⟨⟨file, row⟩, stored, own⟩ := List.mem_map.mp mem
  obtain ⟨stamp, text⟩ := h.timed file row (ExtTreeMap.mem_toList_iff_getElem?_eq_some.mp stored)
  exact ⟨stamp, own ▸ text⟩

/-- A stored time that is no time at all is something that the caller can mend. -/
theorem isAnswered_of_checkIndexedAt {s : String} {e : Error}
    (failed : checkIndexedAt (.text s) = .error e) : e.isAnswered = true := by
  rw [checkIndexedAt] at failed
  split at failed
  · cases failed
  · cases failed
    rfl
  · cases failed
    rfl

/-- Hotspots are all reported. -/
theorem reports_ends (presentable : db.Presentable) {q : HotspotQuery}
    {entries : List (Option String × FileMetricsRow)}
    (among : ∀ entry ∈ entries, entry ∈ db.hotspots q) :
    (of (MetricsStore.fileMetricsOf entries) >>= fun rows =>
      of ((rows.mapM FileMetrics.report).map ToolCall.results) :
        Action ω Json).Ends db (Answerable "metrics_hotspots") := by
  have known (entry : Option String × FileMetricsRow) (mem : entry ∈ entries) :
      ∃ file row, entry = (some file, row) ∧ db.fileMetrics[file]? = some row :=
    ((Database.mem_hotspots presentable.pathed.1).mp (among entry mem)).1
  have read : MetricsStore.fileMetricsOf entries = .ok (entries.map entryMetrics) := by
    refine fileMetricsOf_eq fun entry mem => ?_
    obtain ⟨file, row, own, _⟩ := known entry mem
    exact ⟨file, row, own⟩
  have computed : ∀ row ∈ entries.map entryMetrics, ∃ report, row.report = .ok report := by
    refine List.forall_mem_map.mpr fun entry mem => ?_
    obtain ⟨file, row, rfl, held⟩ := known entry mem
    obtain ⟨score, made⟩ := presentable.scored file row held
    obtain ⟨members, reported⟩ := FileMetrics.report_eq_ok made
    exact ⟨_, reported⟩
  obtain ⟨reports, reported⟩ := exists_mapM_eq_ok computed
  rw [read]
  refine .given nofun fun rows same => .of ?_
  cases same
  rw [reported]
  exact .inl ⟨_, rfl, .result (by decide) _ _⟩

/-- Settings that cannot be read are something that the caller can mend. -/
theorem isAnswered_of_ofEnvironment {env : Environment} {root : Path} {e : Error}
    (failed : Settings.ofEnvironment env root = .error e) : e.isAnswered = true := by
  have read {name : String} {default : Int}
      (failed : Settings.integerVariable env name default = .error e) : e.isAnswered = true := by
    rw [Settings.integerVariable] at failed
    split at failed
    · rw [Settings.integer] at failed
      split at failed <;> cases failed <;> rfl
    · cases failed
  rcases Except.bind_eq_error.mp failed with failed | ⟨_, _, failed⟩
  · exact read failed
  rcases Except.bind_eq_error.mp failed with failed | ⟨_, _, failed⟩
  · exact read failed
  rw [Settings.make] at failed
  split at failed
  · cases failed
    rfl
  split at failed
  · cases failed
    rfl
  · cases failed

namespace ToolCall

variable {w : World ω} {c : ToolCall} {home : Path} {env : Environment} {settings : Settings}

/-- The id that is asked for is an integer. -/
theorem required_symbol {given : Json} {id : Int} (said : c.argument? "symbol_id" = some given)
    (integer : given.integer = .ok id) :
    (do
      let given ← of (c.required "symbol_id")
      symbol home env (← of given.integer) : Action ω Json) = symbol home env id := by
  rw [required, said]
  change (of given.integer >>= fun id => symbol home env id) = _
  rw [integer]
  rfl

variable (index : w.HasIndex home env) (presentable : w.Throughout Database.Presentable)
include index presentable

private theorem withIndex_ends {body : Settings → Action ω α} {R : Except Error α → Prop}
    (unread : ∀ e, Settings.ofEnvironment env home = .error e → R (.error e))
    (opens : ∀ settings, (body settings).Opens)
    (ends : ∀ settings db, Settings.ofEnvironment env home = .ok settings → db.dropped = [] →
      db.Presentable → (body settings).Ends db R) :
    R ((withIndex home env body).runIn w).1 := by
  cases found : Settings.ofEnvironment env home with
  | error e =>
    rw [withIndex, found]
    exact unread e found
  | ok settings =>
    obtain ⟨there, db, disk, shows⟩ := index settings found
    rw [runIn_withIndex found there, runIn_withRepository]
    obtain ⟨o, isOpen, _, _, opened⟩ := shows.exists_open
    rw [opened _ (opens settings)]
    refine ends settings db found (shows.whole rfl) ?_ o isOpen
    refine Throughout.of_shows Database.Presentable.upheld ?_ shows
    rintro db (stored | ⟨c, hc, _⟩)
    · exact presentable db (.inl stored)
    · cases hc

/-- A tool answers if its body does, of whatever tables the index shows. -/
theorem withIndex_answers {name : String} {body : Settings → Action ω Json}
    (opens : ∀ settings, (body settings).Opens)
    (ends : ∀ settings db, Settings.ofEnvironment env home = .ok settings → db.dropped = [] →
      db.Presentable → (body settings).Ends db (Answerable name)) :
    Answerable name ((withIndex home env body).runIn w).1 :=
  withIndex_ends index presentable
    (fun e failed => .inr ⟨e, rfl, isAnswered_of_ofEnvironment failed⟩) opens ends

/-- A tool does not answer if its body does not. -/
theorem withIndex_fails {body : Settings → Action ω Json}
    (found : Settings.ofEnvironment env home = .ok settings)
    (opens : ∀ settings, (body settings).Opens)
    (ends : ∀ db : Database, db.dropped = [] → (body settings).Ends db Unanswerable) :
    Unanswerable ((withIndex home env body).runIn w).1 := by
  refine withIndex_ends index presentable (fun e failed => ?_) opens fun _ db found' whole _ => ?_
  · rw [found] at failed
    cases failed
  · rw [found] at found'
    cases found'
    exact ends db whole

private theorem file_answers (spelled : String) (withSymbols : Bool) :
    Answerable "metrics_file" ((file home env (.text spelled) withSymbols).runIn w).1 := by
  rw [file]
  refine withIndex_answers index presentable (fun _ => ((opens_query _ _ _).bind _).bind _)
    fun _ db _ whole presentable => ?_
  dsimp only
  rw [MetricsStore.file?, bind_assoc]
  refine .query whole ⟨rfl, rfl⟩ (by simp [fits]) ?_
  rw [pure_bind]
  cases held : db.fileMetrics[(Path.ofString spelled).toString]? with
  | none => exact .pure (.inl ⟨_, rfl, .error _ _⟩)
  | some row =>
    obtain ⟨score, made⟩ := presentable.scored _ row held
    obtain ⟨members, reported⟩ := FileMetrics.report_eq_ok made
    simp only [Option.map_some]
    refine .given (fun e failed => ?_) fun file _ => ?_
    · rw [reported] at failed
      cases failed
    split
    · rw [MetricsStore.symbolsInFile]
      simp only [bind_assoc]
      exact .query whole ⟨rfl, rfl⟩ (by simp [fits])
        (.pure (.inl ⟨_, rfl, .result (by decide) _ _⟩))
    · exact .pure (.inl ⟨_, rfl, .result (by decide) _ _⟩)

private theorem symbol_answers {id : Int}
    (fit : ∀ settings, Settings.ofEnvironment env home = .ok settings → inColumn id = true) :
    Answerable "metrics_symbol" ((symbol home env id).runIn w).1 := by
  rw [symbol]
  refine withIndex_answers index presentable (fun _ => ((opens_query _ _ _).bind _).bind _)
    fun settings db found whole _ => ?_
  rw [MetricsStore.symbol?, bind_assoc]
  refine .query whole ⟨rfl, rfl⟩ (by simpa [fits] using fit settings found) ?_
  rw [pure_bind]
  split
  · exact .pure (.inl ⟨_, rfl, .error _ _⟩)
  · exact .pure (.inl ⟨_, rfl, .result (by decide) _ _⟩)

private theorem stats_answers : Answerable "metrics_stats" ((withIndex home env fun _ => do
    return (← storeStats).report : Action ω Json).runIn w).1 := by
  have none : ∀ v ∈ ([] : List Value), fits v = true := List.forall_mem_nil _
  refine withIndex_answers index presentable (fun _ => ((opens_query _ _ _).bind _).bind _)
    fun _ db _ whole presentable => ?_
  rw [storeStats, MetricsStore.counts]
  simp only [bind_assoc, pure_bind]
  -- Six sizes and times are asked for, one after the other.
  iterate 6 refine .query whole ⟨rfl, rfl⟩ none ?_
  generalize own : latest _ = last
  split
  · exact .pure (.inl ⟨_, rfl, .result (by decide) _ _⟩)
  · exact .pure (.inl ⟨_, rfl, .result (by decide) _ _⟩)
  · exact .pure (.inl ⟨_, rfl, .result (by decide) _ _⟩)
  · rw [bind_assoc]
    refine .given (fun e failed => .inr ⟨e, rfl, isAnswered_of_checkIndexedAt failed⟩) fun _ _ => ?_
    exact .pure (.inl ⟨_, rfl, .result (by decide) _ _⟩)
  next null _ _ text =>
    rcases presentable.latest_eq own with no | ⟨s, no⟩
    · exact (null no).elim
    · exact (text s no).elim

private theorem symbol_fails {id : Int} (found : Settings.ofEnvironment env home = .ok settings)
    (unfit : inColumn id = false) : Unanswerable ((symbol home env id).runIn w).1 := by
  rw [symbol]
  refine withIndex_fails index presentable found
    (fun _ => ((opens_query _ _ _).bind _).bind _) fun db _ => ?_
  rw [MetricsStore.symbol?, bind_assoc]
  exact .unfit ⟨.int id, List.mem_singleton_self _, unfit⟩

private theorem hotspots_answers (called : c.name = "metrics_hotspots")
    (bindable : ∀ settings, ∀ v ∈ c.thresholds ++ [c.limit settings], v.value.isOk)
    (storable : c.Storable home env) :
    Answerable "metrics_hotspots" ((hotspots home env c).runIn w).1 := by
  rw [hotspots_eq bindable]
  refine withIndex_answers index presentable (fun _ => ((opens_query _ _ _).bind _).bind _)
    fun settings db found whole presentable => ?_
  have storable := storable settings found
  obtain ⟨n, limit⟩ := storable.limit called
  rw [MetricsStore.hotspots, bind_assoc]
  refine .query whole ⟨rfl, rfl⟩ (storable.values called) ?_
  have taken : limitOf (c.query settings).limit =
      .ok (if n < 0 then none else some n.toNat) := by rw [limitOf, limit]
  rw [taken]
  by_cases unlimited : n < 0
  · rw [if_pos unlimited]
    exact reports_ends presentable fun _ => id
  · rw [if_neg unlimited]
    exact reports_ends presentable fun _ => List.mem_of_mem_take

/-- A query that cannot be run, or whose limit stands for no integer, is not answered. -/
theorem hotspots_fails (called : c.name = "metrics_hotspots")
    (bindable : ∀ settings, ∀ v ∈ c.thresholds ++ [c.limit settings], v.value.isOk)
    (found : Settings.ofEnvironment env home = .ok settings)
    (unstorable : ¬c.StorableUnder settings) :
    Unanswerable ((hotspots home env c).runIn w).1 := by
  rw [hotspots_eq bindable]
  refine withIndex_fails index presentable found
    (fun _ => ((opens_query _ _ _).bind _).bind _) fun db whole => ?_
  rw [MetricsStore.hotspots, bind_assoc]
  by_cases fit : ∀ v ∈ MetricsStore.hotspotValues (c.query settings), fits v = true
  · refine .query whole ⟨rfl, rfl⟩ fit ?_
    cases limit : limitOf (c.query settings).limit with
    | error fault => exact fun _ _ => ⟨_, rfl, .inr ⟨fault, rfl⟩⟩
    | ok _ =>
      refine absurd ⟨fun other => ?_, fun _ => fit, fun _ => ?_⟩ unstorable
      · rw [called] at other
        exact absurd other (by decide)
      · rw [limitOf] at limit
        split at limit
        next n integer => exact ⟨n, integer⟩
        · cases limit
  · simp only [not_forall, Bool.not_eq_true] at fit
    obtain ⟨v, mem, unfit⟩ := fit
    exact .unfit ⟨v, mem, unfit⟩

/-- A call whose integers can be stored is answered. -/
theorem answer_answers (formed : c.Formed) (storable : c.Storable home env) :
    Answerable c.name ((c.answer home env).runIn w).1 := by
  rw [answer]
  split
  next called =>
    rw [called, required]
    cases said : c.argument? "path" with
    | none => exact .inr ⟨_, rfl, rfl⟩
    | some given =>
      obtain ⟨a, type, takes⟩ := formed.exists_takes "string" called (by decide) said
      obtain ⟨spelled, rfl⟩ := takes.string type
      exact file_answers index presentable spelled _
  next called =>
    rw [called]
    cases said : c.argument? "symbol_id" with
    | none =>
      rw [required, said]
      exact .inr ⟨_, rfl, rfl⟩
    | some given =>
      obtain ⟨id, integer⟩ := (formed.isInteger called (by decide) said).exists_integer
      rw [required_symbol said integer]
      refine symbol_answers index presentable fun settings found => ?_
      exact (storable settings found).symbol called given said id integer
  next called =>
    rw [called]
    exact hotspots_answers index presentable called (formed.bindable called) storable
  next called =>
    rw [called]
    exact stats_answers index presentable
  next => exact .inl ⟨_, rfl, .error _ _⟩

/-- A call with an integer that cannot be stored is not answered. -/
theorem answer_fails (formed : c.Formed) (unstorable : ¬c.Storable home env) :
    Unanswerable ((c.answer home env).runIn w).1 := by
  simp only [Storable, not_forall] at unstorable
  obtain ⟨settings, found, unstorable⟩ := unstorable
  by_cases called : c.name = "metrics_hotspots"
  · have body : (c.answer home env : Action ω Json) = hotspots home env c := by
      rw [answer, called]
      rfl
    rw [body]
    exact hotspots_fails index presentable called (formed.bindable called) found unstorable
  by_contra answered
  refine unstorable ⟨fun asked given said id integer => ?_, fun h => absurd h called,
    fun h => absurd h called⟩
  have body : (c.answer home env : Action ω Json) = symbol home env id := by
    rw [answer, asked]
    exact required_symbol said integer
  rw [body] at answered
  by_contra unfit
  rw [Bool.not_eq_true] at unfit
  exact answered (symbol_fails index presentable found unfit)

end ToolCall

end Bodies

/-! ## All calls -/

namespace ToolCall

variable {E : Engine ω} {w₀ w : World ω} {home root : Path} {env : Environment} {c : ToolCall}

/-- Whatever was done to the tables before, a call on an index that is there, whose arguments are of
the types that the tool describes, is answered if the integers that it makes a statement with can be
stored, and only then: by a result of the tool or by what is wrong. Otherwise the error that goes on
says that one cannot, or is the fault of the database that it meets. -/
theorem answered_iff_storable (plain : E.loader = .plain root)
    (start : w₀.Throughout Database.Presentable) (reached : E.Reaches w₀ w)
    (index : w.HasIndex home env) (formed : c.Formed) :
    (c.Storable home env →
      ∃ d w', (c.run home env).runIn w = (.ok d, w') ∧ IsAnswer c.name d) ∧
    (¬c.Storable home env → ∃ e w', (c.run home env).runIn w = (.error e, w') ∧
      (e = .beyondColumn ∨ ∃ fault, e = .database fault)) := by
  have presentable := reached.presentable plain start
  rw [runIn_run]
  refine ⟨fun storable => ?_, fun unstorable => ?_⟩
  · obtain ⟨d, same, isAnswer⟩ := answered_of_answerable
      (answer_answers index presentable formed storable)
    exact ⟨d, _, by rw [same], isAnswer⟩
  · obtain ⟨e, same, unmendable⟩ := answered_of_unanswerable
      (answer_fails index presentable formed unstorable)
    exact ⟨e, _, by rw [same], unmendable⟩

end ToolCall

/-! ## A symbol by its id -/

namespace Sample

/-- A call for the metrics of the symbol with an id. -/
def asking (id : Int) : ToolCall where
  name := "metrics_symbol"
  arguments := [("symbol_id", .int id)]

private theorem asking_formed (id : Int) : (asking id).Formed := by
  intro t mem named a among given said
  replace named : t.name = "metrics_symbol" := named
  simp only [toolDescriptions, List.mem_cons, List.not_mem_nil, or_false] at mem
  rcases mem with rfl | rfl | rfl | rfl
  · exact absurd named (by decide)
  · obtain rfl := List.mem_singleton.mp among
    cases said
    exact ⟨fun no => absurd no (by decide), fun _ => .inl ⟨id, rfl⟩,
      fun no => absurd no (by decide)⟩
  · exact absurd named (by decide)
  · exact absurd named (by decide)

private theorem asking_storable {id : Int} (fit : inColumn id = true) :
    (asking id).Storable root environment := by
  have other : (asking id).name ≠ "metrics_hotspots" := by simp [asking]
  refine fun settings _ => ⟨fun _ given said n integer => ?_, fun no => absurd no other,
    fun no => absurd no other⟩
  cases said
  cases integer
  exact fit

/-- An index without rows beside the files. -/
def unmetered : World Unit :=
  { world {} with disk := indexed.disk }

/-- The row of one symbol is written to it. -/
def oneMetered : World Unit :=
  ((MetricsStore.Write.putSymbol (draft (some "g") 5)).run.runIn unmetered).2

private theorem unmetered_presentable : unmetered.Throughout Database.Presentable := by
  have plain : (world {}).Throughout Database.Presentable := by
    intro db held
    rcases eq_of_holds held with rfl | rfl
    · exact .of_empty ⟨rfl, rfl⟩ rfl rfl
    · exact .of_empty ⟨rfl, rfl⟩ rfl rfl
  exact Database.Presentable.upheld.same _ _ rfl rfl plain

/-- An index is there if its tables can be read where the settings say that it lies. -/
theorem hasIndex_of_isSome {w : World Unit} (there : w.disk.holds settings.databasePath = .ok true)
    (opens : (Action.tables.runIn
      { w with repository := { path := settings.databasePath } }).1.toOption.isSome) :
    w.HasIndex root environment := by
  intro found same
  rw [ofEnvironment_environment] at same
  cases same
  obtain ⟨db, w', run⟩ := exists_runIn_of_isSome opens
  refine ⟨there, db, w'.disk, ?_⟩
  rw [World.Shows, run]
  exact ⟨rfl, rfl⟩

end Sample

namespace ToolCall

open Sample

/-- The call for the one symbol is answered, and that for the first id that no column can hold is
not. -/
theorem sample_answered_iff_storable :
    (∃ d w', ((asking 2).run root environment).runIn oneMetered = (.ok d, w') ∧
      IsAnswer "metrics_symbol" d) ∧
    ¬(asking 0x8000000000000000).Storable root environment ∧
    ∃ e w', ((asking 0x8000000000000000).run root environment).runIn oneMetered = (.error e, w') ∧
      (e = .beyondColumn ∨ ∃ fault, e = .database fault) := by
  have index : oneMetered.HasIndex root environment :=
    hasIndex_of_isSome (by decide +kernel) (by decide +kernel)
  have reached : engine.Reaches unmetered oneMetered := .write _ .start
  have unstorable : ¬(asking 0x8000000000000000).Storable root environment := by
    intro storable
    have fit := (storable settings ofEnvironment_environment).symbol rfl _ rfl _ rfl
    exact absurd fit (by decide)
  refine ⟨?_, unstorable, ?_⟩
  · exact (answered_iff_storable rfl unmetered_presentable reached index (asking_formed _)).1
      (asking_storable (by decide))
  · exact (answered_iff_storable rfl unmetered_presentable reached index (asking_formed _)).2
      unstorable

/-- Not every call whose arguments are of the described types is answered, though the index is
there. -/
theorem exists_unanswered : indexed.HasIndex root environment ∧
    ¬∀ c : ToolCall, c.Formed →
      ∃ members w', (c.run root environment).runIn indexed = (.ok (.object members), w') := by
  refine ⟨hasIndex_of_isSome (by decide +kernel) (by decide +kernel), fun all => ?_⟩
  obtain ⟨members, w', run⟩ := all _ (asking_formed 0x8000000000000000)
  have failed : (((asking 0x8000000000000000).run root environment).runIn
      indexed).1.toOption.isNone := by decide +kernel
  rw [run] at failed
  cases failed

end ToolCall

end CodeGauge
