import CodeGauge.Command.Run
import CodeGauge.Command.ToolCall
import CodeGauge.Proofs.Engine.Refresh
import CodeGauge.Proofs.Store.Ranking

/-!
# Hotspots by command and by tool

The command and the tool for hotspots hand a query on to the store and put the reports of its rows
into a document, one by one; they add no row, drop none and change no order. With a limit that is
given and not zero this is the store's answer for that limit. A limit of zero is passed over, and
the one of the settings takes its place.
-/

open Std

namespace CodeGauge

open CodeGauge.Action

variable {ω : Type}

/-- The command for so many hotspots that reach the thresholds. -/
def Thresholds.command (t : Thresholds) (limit : Int) : Command :=
  .hotspots (some limit) t.minLoc t.minFanIn t.minFanOut

/-- A call of the tool for hotspots with this limit and these thresholds. -/
structure ToolCall.Asks (c : ToolCall) (limit : Int) (t : Thresholds) : Prop where
  name : c.name = "metrics_hotspots"
  limit : c.argument? "limit" = some (.int limit)
  minLoc : c.optional "min_loc" = t.minLoc.map .int
  minFanIn : c.optional "min_fan_in" = t.minFanIn.map .int
  minFanOut : c.optional "min_fan_out" = t.minFanOut.map .int

/-- The store's answer to a query for hotspots, on the index that settings name. -/
def storeAnswer (settings : Settings) (q : HotspotQuery) : Action ω (List FileMetrics) :=
  Action.withRepository settings.databasePath (MetricsStore.hotspots q)

/-- The reports of the rows of an answer, one by one. -/
def reportsOf (answer : Except Error (List FileMetrics)) : Except Error (List Json) := do
  (← answer).mapM (·.report)

/-- What the command writes of reports. -/
def Outcome.listing (reports : List Json) : Outcome := { output := .document (.list reports) }

namespace ToolCall

/-- What the tool answers with reports. -/
def results (reports : List Json) : Json := .object [("results", .list reports)]

/-- The thresholds of a call for hotspots, in their order. -/
def thresholds (c : ToolCall) : List Json :=
  (c.optional "min_loc").toList ++ (c.optional "min_fan_in").toList ++
    (c.optional "min_fan_out").toList

/-- The limit of a call for hotspots: the one that is given, unless it says nothing. -/
def limit (c : ToolCall) (settings : Settings) : Json :=
  ((c.argument? "limit").filter Json.isSaid).getD (.int settings.hotspotLimit)

/-- The query that a call for hotspots makes if its thresholds and its limit can be bound. -/
def query (c : ToolCall) (settings : Settings) : HotspotQuery where
  limit := (c.limit settings).value.toOption.getD .null
  minLoc := (c.optional "min_loc").bind (·.value.toOption)
  minFanIn := (c.optional "min_fan_in").bind (·.value.toOption)
  minFanOut := (c.optional "min_fan_out").bind (·.value.toOption)

/-- What a tool answers: a document, also for an error that the caller can mend. -/
def answered : Except Error Json → Except Error Json
  | .ok d => .ok d
  | .error e => if e.isAnswered then .ok (.object [("error", .text e.message)]) else .error e

end ToolCall

/-- The command and the tool, asked in one and the same world for so many hotspots, hand on what the
store answers to a query, the reports of its rows one by one or its error, and leave the same world
as the store. The tool needs an index that is there. -/
structure HandOn (engine : Settings → Engine ω) (home : Path) (env : Environment)
    (settings : Settings) (limit : Int) (t : Thresholds) (q : HotspotQuery) (w : World ω) :
    Prop where
  command : ∀ answer w', (storeAnswer settings q).runIn w = (answer, w') →
    ((t.command limit).run engine home env true).runIn w =
      ((reportsOf answer).map .listing, w')
  tool : w.disk.holds settings.databasePath = .ok true → ∀ c : ToolCall, c.Asks limit t →
    ∀ answer w', (storeAnswer settings q).runIn w = (answer, w') →
      (c.run home env).runIn w =
        (ToolCall.answered ((reportsOf answer).map ToolCall.results), w')

/-! ## The store -/

namespace Action

variable {α β : Type} {w : World ω}

/-- A body on a repository of its own leaves the repository in use as it was. -/
theorem runIn_withRepository (path : Path) (body : Action ω α) :
    (withRepository path body).runIn w =
      ((body.runIn { w with repository := { path } }).1,
        { (body.runIn { w with repository := { path } }).2 with repository := w.repository }) :=
  rfl

/-- What a body ensures of its values it also ensures on a repository of its own. -/
theorem withRepository_ensures {P : α → Prop} {body : Action ω α}
    (h : ∀ w, body.Ensures w fun a _ => P a) (path : Path) :
    (withRepository path body).Ensures w fun a _ => P a := by
  intro a w' run
  rcases ran : body.runIn { w with repository := { path } } with ⟨r, w₁⟩
  rw [runIn_withRepository, ran] at run
  cases run
  exact h _ a w₁ ran

/-- What is made of a value without the world can as well be made after the repository was
closed. -/
theorem runIn_withRepository_of (path : Path) (body : Action ω α) (f : α → Except Error β) :
    (withRepository path (body >>= fun a => of (f a))).runIn w =
      (((withRepository path body).runIn w).1 >>= f,
        ((withRepository path body).runIn w).2) := by
  rw [runIn_withRepository, runIn_withRepository, runIn_bind]
  rcases body.runIn { w with repository := { path } } with ⟨r, w'⟩
  cases r with
  | error e => rfl
  | ok a =>
    simp only [runIn_of]
    rfl

/-- What is made of the document of rows is made of their reports. -/
theorem of_fileRowsReport (rows : List FileMetrics) (f : Json → β) :
    (of (fileRowsReport rows) >>= fun d => pure (f d) : Action ω β) =
      of ((rows.mapM FileMetrics.report).map fun reports => f (.list reports)) := by
  rw [fileRowsReport]
  cases rows.mapM FileMetrics.report with
  | error e => rfl
  | ok reports => rfl

end Action

/-- No more hotspots are listed than a limit says that is not negative. -/
theorem MetricsStore.length_hotspots {q : HotspotQuery} {limit : Int} (given : q.limit = .int limit)
    (nonneg : 0 ≤ limit) (w : World ω) :
    (hotspots q).Ensures w fun rows _ => rows.length ≤ limit.toNat := by
  unfold hotspots
  refine .skip fun rows w₁ => ?_
  rw [given, limitOf_int nonneg]
  refine .of fun listed made => ?_
  rw [length_of_mapM_eq_ok made]
  exact List.length_take_le _ _

section

variable {engine : Settings → Engine ω} {home : Path} {env : Environment} {settings : Settings}
  {limit : Int} {t : Thresholds} {w : World ω}

/-! ## The command -/

/-- The limit that a query is made with: the one that is given, unless it is zero. -/
def limitUnder (settings : Settings) (given : Int) : Int :=
  if given = 0 then settings.hotspotLimit else given

namespace Command

private theorem hotspotQuery_eq (settings : Settings) (limit : Int) (t : Thresholds) :
    hotspotQuery settings (some limit) t.minLoc t.minFanIn t.minFanOut =
      t.query (limitUnder settings limit) := by
  rw [hotspotQuery, Thresholds.query, limitUnder]
  by_cases zero : limit = 0
  · rw [if_pos zero, zero]
    rfl
  · rw [if_neg zero, Option.filter_some_pos (by simpa using zero)]
    rfl

private theorem showHotspots_document (q : HotspotQuery) :
    (showHotspots q true : Action ω Outcome) =
    MetricsStore.hotspots q >>= fun rows => of ((rows.mapM FileMetrics.report).map .listing) := by
  simp only [showHotspots, if_true]
  exact congrArg (MetricsStore.hotspots q >>= ·) (funext fun rows => of_fileRowsReport rows _)

/-- The command lists the reports of the store's rows. -/
theorem runIn_hotspots (found : Settings.ofEnvironment env home = .ok settings) :
    ((t.command limit).run engine home env true).runIn w =
      ((reportsOf ((storeAnswer settings (t.query (limitUnder settings limit))).runIn w).1).map
          .listing,
        ((storeAnswer settings (t.query (limitUnder settings limit))).runIn w).2) := by
  rw [run]
  refine (runIn_bind_of_ok ((runIn_of _).trans (congrArg (·, w) found)) _).trans ?_
  rw [Thresholds.command]
  simp only [hotspotQuery_eq, showHotspots_document]
  rw [runIn_withRepository_of, ← Except.map_bind]
  rfl

end Command

/-! ## The tool -/

namespace ToolCall

variable {c : ToolCall}

/-- A call is answered by a document, also where it fails by a fault that the caller can mend. -/
theorem runIn_run : (c.run home env).runIn w =
    (answered ((c.answer home env).runIn w).1, ((c.answer home env).runIn w).2) := by
  rw [run, runIn_bind, runIn_outcome]
  rcases (c.answer home env).runIn w with ⟨r, w'⟩
  cases r with
  | ok d => rfl
  | error e =>
    dsimp only [answered]
    split <;> rfl

/-- A tool works on the index that is there. -/
theorem runIn_withIndex {α : Type} (found : Settings.ofEnvironment env home = .ok settings)
    (there : w.disk.holds settings.databasePath = .ok true) (body : Settings → Action ω α) :
    (withIndex home env body).runIn w =
      (Action.withRepository settings.databasePath (body settings)).runIn w := by
  rw [withIndex]
  refine (runIn_bind_of_ok ((runIn_of _).trans (congrArg (·, w) found)) _).trans ?_
  refine (runIn_bind_of_ok runIn_get _).trans ?_
  refine (runIn_bind_of_ok ((runIn_of _).trans (congrArg (·, w) there)) _).trans ?_
  rfl

/-- Arguments that can all be bound are bound. -/
theorem bindAll_eq (statement : Statement) {arguments : List Json}
    (bindable : ∀ v ∈ arguments, v.value.isOk) :
    (bindAll statement arguments : Action ω (List Value)) =
      pure ((arguments.map Json.value).filterMap Except.toOption) := by
  have none : (arguments.map Json.value).findIdx? (! ·.isOk) = none := by
    rw [List.findIdx?_eq_none_iff, List.forall_mem_map]
    intro v mem
    rw [bindable v mem]
    rfl
  rw [bindAll]
  simp only [none]

/-- A call for hotspots whose thresholds and limit can be bound queries the store. -/
theorem hotspots_eq
    (bindable : ∀ settings, ∀ v ∈ c.thresholds ++ [c.limit settings], v.value.isOk) :
    (hotspots home env c : Action ω Json) = withIndex home env fun settings =>
      MetricsStore.hotspots (c.query settings) >>= fun rows =>
        of ((rows.mapM FileMetrics.report).map results) := by
  rw [hotspots]
  refine congrArg (withIndex home env) (funext fun settings => ?_)
  dsimp only
  refine (congrArg (· >>= _) (bindAll_eq _ (bindable settings))).trans ?_
  rw [pure_bind]
  exact congrArg (MetricsStore.hotspots (c.query settings) >>= ·)
    (funext fun rows => of_fileRowsReport rows _)

namespace Asks

/-- A limit says nothing if it is zero. -/
theorem limit_eq (asks : c.Asks limit t) (settings : Settings) :
    c.limit settings = .int (limitUnder settings limit) := by
  rw [ToolCall.limit, asks.limit, limitUnder]
  by_cases zero : limit = 0
  · rw [if_pos zero, zero]
    rfl
  · have said : (Json.int limit).isSaid = true := bne_iff_ne.mpr zero
    rw [if_neg zero, Option.filter_some_pos said]
    rfl

private theorem thresholds_eq (asks : c.Asks limit t) : c.thresholds = t.given.map .int := by
  have listed (least : Option Int) : (least.map Json.int).toList = least.toList.map .int := by
    cases least with
    | none => rfl
    | some _ => rfl
  rw [thresholds, asks.minLoc, asks.minFanIn, asks.minFanOut, listed, listed, listed,
    ← List.map_append, ← List.map_append, Thresholds.given]

private theorem query_eq (asks : c.Asks limit t) (settings : Settings) :
    c.query settings = t.query (limitUnder settings limit) := by
  have kept (least : Option Int) :
      ((least.map Json.int).bind fun v => v.value.toOption) = least.map .int := by
    cases least with
    | none => rfl
    | some _ => rfl
  rw [query, asks.limit_eq, asks.minLoc, asks.minFanIn, asks.minFanOut]
  simp only [kept]
  rfl

/-- A call for hotspots queries the store. -/
theorem hotspots_eq (asks : c.Asks limit t) :
    (hotspots home env c : Action ω Json) = withIndex home env fun settings =>
      MetricsStore.hotspots (t.query (limitUnder settings limit)) >>= fun rows =>
        of ((rows.mapM FileMetrics.report).map results) := by
  rw [ToolCall.hotspots_eq fun settings v mem => ?_]
  · simp only [asks.query_eq]
  · rw [asks.thresholds_eq, asks.limit_eq, ← List.map_singleton (f := Json.int),
      ← List.map_append] at mem
    obtain ⟨n, _, rfl⟩ := List.mem_map.mp mem
    rfl

end Asks

/-- The tool answers with the reports of the store's rows. -/
theorem Asks.runIn_run (asks : c.Asks limit t)
    (found : Settings.ofEnvironment env home = .ok settings)
    (there : w.disk.holds settings.databasePath = .ok true) :
    (c.run home env).runIn w =
      (answered ((reportsOf ((storeAnswer settings
          (t.query (limitUnder settings limit))).runIn w).1).map results),
        ((storeAnswer settings (t.query (limitUnder settings limit))).runIn w).2) := by
  have called : (c.answer home env : Action ω Json) = hotspots home env c := by
    rw [answer, asks.name]
    rfl
  rw [ToolCall.runIn_run, called, asks.hotspots_eq, runIn_withIndex found there,
    runIn_withRepository_of, ← Except.map_bind]
  rfl

end ToolCall

/-! ## All three -/

/-- The command and the tool hand on what the store answers for the limit in effect. -/
theorem handOn_limitUnder (found : Settings.ofEnvironment env home = .ok settings)
    (limit : Int) (t : Thresholds) (w : World ω) :
    HandOn engine home env settings limit t (t.query (limitUnder settings limit)) w := by
  refine ⟨fun answer w' run => ?_, fun there c asks answer w' run => ?_⟩
  · rw [Command.runIn_hotspots found, run]
  · rw [asks.runIn_run found there, run]

/-- There are no more reports of the store's rows than a limit says that is not negative. -/
theorem length_reportsOf {reports : List Json} (nonneg : 0 ≤ limit)
    (made : reportsOf ((storeAnswer settings (t.query limit)).runIn w).1 = .ok reports) :
    reports.length ≤ limit.toNat := by
  rcases run : (storeAnswer settings (t.query limit)).runIn w with ⟨answer, w'⟩
  rw [run] at made
  obtain ⟨rows, rfl, made⟩ := Except.bind_eq_ok.mp made
  rw [length_of_mapM_eq_ok made]
  exact withRepository_ensures (MetricsStore.length_hotspots rfl nonneg) _ rows w' run

/-- The command and the tool answer a limit other than zero as the store does, and zero as the store
does the limit of the settings. The store's rows have no more reports than a limit says that is not
negative. -/
theorem hotspots_agree (found : Settings.ofEnvironment env home = .ok settings)
    (engine : Settings → Engine ω) (t : Thresholds) (w : World ω) :
    (∀ limit, limit ≠ 0 → HandOn engine home env settings limit t (t.query limit) w) ∧
      HandOn engine home env settings 0 t (t.query settings.hotspotLimit) w ∧
      ∀ limit, 0 ≤ limit → ∀ reports,
        reportsOf ((storeAnswer settings (t.query limit)).runIn w).1 = .ok reports →
        reports.length ≤ limit.toNat := by
  refine ⟨fun limit given => ?_, handOn_limitUnder found 0 t w,
    fun limit nonneg reports => length_reportsOf nonneg⟩
  have effective : limitUnder settings limit = limit := if_neg given
  have handed : HandOn engine home env settings limit t
    (t.query (limitUnder settings limit)) w := handOn_limitUnder found limit t w
  rwa [effective] at handed

end

/-! ## An index of two files -/

namespace Sample

/-- The index lies beside the files. -/
def indexed : World Unit :=
  { world metered with
    disk := { disk with nodes := disk.nodes.insert (root / .ofString "x.db") (.file 2) } }

/-- An environment that names the index. -/
def environment : Environment := [("CODEMETER_DB", "x.db")]

/-- The settings under this environment. -/
def settings : Settings := ⟨root, .ofString "x.db", 3, 20, by decide⟩

/-- The environment of the sample gives its settings. -/
theorem ofEnvironment_environment : Settings.ofEnvironment environment root = .ok settings := by
  have read : (Settings.ofEnvironment environment root).toOption = some settings := by
    decide +kernel
  cases found : Settings.ofEnvironment environment root with
  | error e =>
    rw [found] at read
    cases read
  | ok s =>
    rw [found] at read
    cases read
    rfl

/-- What the command gives for a limit. -/
def commanded (limit : Int) : Except Error Outcome :=
  (((Thresholds.command {} limit).run (fun _ => engine) root environment true).runIn indexed).1

/-- How many reports are listed by an outcome, if it is a list and no failure. -/
def listed : Except Error Outcome → Option Nat
  | .ok ⟨.document (.list reports), 0, none⟩ => some reports.length
  | _ => none

/-- Where there are no rows none are listed. -/
theorem listed_of_empty {answer : Except Error (List FileMetrics)}
    (empty : answer.toOption = some []) : listed ((reportsOf answer).map .listing) = some 0 := by
  rcases answer with e | rows
  · cases empty
  · cases empty
    rfl

end Sample

open Sample

/-- With a limit of one the command lists one of the two files. -/
theorem sample_hotspots_agree :
    Settings.ofEnvironment environment root = .ok settings ∧
      Request.ofWords? ["hotspots", "--json", "--limit", "1"] =
        some (.run (Thresholds.command {} 1) true) ∧
      HandOn (fun _ => engine) root environment settings 1 {} (Thresholds.query {} 1) indexed ∧
      listed (commanded 1) = some 1 := by
  obtain ⟨given, _⟩ := hotspots_agree ofEnvironment_environment (fun _ => engine) {} indexed
  exact ⟨ofEnvironment_environment, by decide +kernel, given 1 (by decide), by decide +kernel⟩

/-- With a limit of zero the store lists no file and the command both. -/
theorem zero_passed_over : ¬∀ limit : Int,
    HandOn (fun _ => engine) root environment settings limit {} (Thresholds.query {} limit)
      indexed := by
  intro all
  have empty : ((storeAnswer settings (Thresholds.query {} 0)).runIn indexed).1.toOption =
      some [] := by decide +kernel
  have both : listed (commanded 0) = some 2 := by decide +kernel
  rcases run : (storeAnswer settings (Thresholds.query {} 0)).runIn indexed with ⟨answer, w'⟩
  rw [run] at empty
  have handed : commanded 0 = (reportsOf answer).map .listing :=
    congrArg Prod.fst ((all 0).command answer w' run)
  rw [handed, listed_of_empty empty] at both
  cases both

end CodeGauge
