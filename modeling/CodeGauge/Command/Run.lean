import CodeGauge.Command.Line
import CodeGauge.Engine.Backfill
import CodeGauge.Report.Document
import CodeGauge.Report.Lines
import CodeGauge.Settings
import CodeGauge.Store.Opening

/-!
# Running a command

A command opens the index of a project, does its work and closes it. Commands that recompute say
that they were aborted when a reported error stops them; every other error goes on. Follows section
10.10 of the specification.
-/

namespace CodeGauge

/-- What is written to the output: lines, or one document. -/
inductive Output where
  | lines (lines : List String)
  | document (d : Json)

/-- The output of a command and the code that it ends with, or the error that it ends with. -/
structure Outcome where
  output : Output
  exitCode : Nat := 0
  failure : Option Error := none

namespace Command

variable {ω : Type}

/-- Print what a command shows and end with a code. -/
def showing (items : List (Except Error Shown)) (exitCode : Nat := 0) : Outcome :=
  let printed := Printed.ofItems items
  { output := .lines printed.lines
    exitCode := if printed.failure.isSome then 1 else exitCode
    failure := printed.failure }

/-- The line that ends a command for want of something. -/
def failing (markup : String) : Outcome :=
  showing [shownLine markup] 1

/-- A recomputation by a command named so, and what is shown of it. -/
def recomputing (title : String) (work : Action ω Stats) : Action ω Outcome := do
  match ← work.outcome with
  | .ok done => return showing done.shown
  | .error e =>
    if e.isReported then return failing s!"[red]{title} aborted:[/red] {e.message}" else throw e

/-- Recompute on the index of a project. -/
def onProject (engine : Settings → Engine ω) (settings : Settings) (title : String)
    (work : Engine ω → Action ω Stats) : Action ω Outcome :=
  Action.withRepository settings.databasePath (recomputing title (work (engine settings)))

/-- Everything that a file's row says, with its symbols if that is asked for. -/
def showFile (path : Path) (withSymbols asDocument : Bool) : Action ω Outcome := do
  let row ← MetricsStore.file? path
  let symbols ← if withSymbols then MetricsStore.symbolsInFile path else pure []
  if asDocument then
    let file ← Action.of (fileRowReport row)
    let more := if withSymbols then [("symbols", symbolRowsReport symbols)] else []
    return { output := .document (.object (("file", file) :: more)) }
  else
    match row with
    | none => return failing s!"No metrics for '[cyan]{path}[/cyan]' (not indexed or not metered)"
    | some row => return showing (row.shown ++ shownSymbols symbols)

/-- Everything that a symbol's row says. -/
def showSymbol (id : Int) (asDocument : Bool) : Action ω Outcome := do
  let row ← MetricsStore.symbol? id
  if asDocument then return { output := .document (symbolRowReport row) }
  else
    match row with
    | none => return failing s!"No metrics for symbol [cyan]{id}[/cyan]"
    | some row => return showing row.shown

/-- The files with the highest scores. -/
def showHotspots (query : HotspotQuery) (asDocument : Bool) : Action ω Outcome := do
  let rows ← MetricsStore.hotspots query
  if asDocument then return { output := .document (← Action.of (fileRowsReport rows)) }
  else return showing (shownHotspots rows)

/-- The statistics of the database. -/
def showStats (asDocument : Bool) : Action ω Outcome := do
  let s ← storeStats
  return if asDocument then { output := .document s.report } else showing s.shown

/-- The query for hotspots. A limit of zero counts as none. -/
def hotspotQuery (settings : Settings) (limit minLoc minFanIn minFanOut : Option Int) :
    HotspotQuery :=
  { limit := .int ((limit.filter (· ≠ 0)).getD settings.hotspotLimit)
    minLoc := minLoc.map .int
    minFanIn := minFanIn.map .int
    minFanOut := minFanOut.map .int }

/-- What is shown of a backfill of a project while it runs. -/
def progressTitle (root : Path) : String :=
  s!"[progress.description]Metering [cyan]{root.name}[/]"

/-- The root of the project that a command works on, for the working directory `home`. -/
def root (home : Path) : Command → Path
  | .backfill given => (home / given).resolved
  | _ => home

/-- Run a command in the project at `home`; `engine` makes the engine for the settings found. -/
def run (engine : Settings → Engine ω) (home : Path) (env : Environment) (c : Command)
    (asDocument : Bool) : Action ω Outcome := do
  let settings ← Action.of (Settings.ofEnvironment env (c.root home))
  let reading (body : Action ω Outcome) := Action.withRepository settings.databasePath body
  match c with
  | .backfill _ =>
    let _ ← Action.of (Console.shown (progressTitle settings.projectRoot))
    onProject engine settings "Backfill" fun E => do return (← E.backfill).stats
  | .refresh paths => onProject engine settings "Refresh" fun E => E.refreshFiles paths
  | .remove path =>
    onProject engine settings "Remove" fun E => do return (← E.removeFile path).stats
  | .file path withSymbols => reading (showFile path withSymbols asDocument)
  | .symbol id => reading (showSymbol id asDocument)
  | .hotspots limit minLoc minFanIn minFanOut =>
    reading (showHotspots (hotspotQuery settings limit minLoc minFanIn minFanOut) asDocument)
  | .stats => reading (showStats asDocument)

end Command

end CodeGauge
