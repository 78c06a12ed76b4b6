import CodeGauge.Report.Document
import CodeGauge.Settings
import CodeGauge.Store.Opening

/-!
# Calling a tool

A tool is called by its name with named arguments and answers with a document. What the caller can
mend is answered too, as a document that says what is wrong: an index that is not there, a missing
argument, a value that is none of those expected, and every reported error. All other errors go on.
Follows section 10.10 of the specification.
-/

namespace CodeGauge

/-- A call of a tool. -/
structure ToolCall where
  name : String
  arguments : List (String × Json)

/-- Whether an error is answered by a document that words it. -/
def Error.isAnswered : Error → Bool
  | .noIndex _ | .disk .missing _ | .unknownId _ | .missingArgument _ | .fileNotCovered _ _
  | .symbolNotCovered _ _ | .unknownWord _ _ | .notAnInteger _ | .tooManyDigits _ | .notADate _
  | .datePart _ | .negativeRetries | .limitBelowOne | .nulInPath | .noNumber
  | .unsuitedFormat _ _ => true
  | e => e.isReported

/-- The integer that an argument stands for: a text is read, and a finite number loses its
fraction. -/
def Json.integer : Json → Except Error Int
  | .bool b => .ok (if b then 1 else 0)
  | .int n => .ok n
  | .real x =>
    if x.isFinite then .ok x.truncate
    else .error (if x.isNaN then .noNumber else .infiniteNumber)
  | .text s => Settings.integer s
  | _ => .error .wrongKind

/-- The value that an argument is bound as, or the kind of an argument that cannot be bound. -/
def Json.value : Json → Except String Value
  | .null => .ok .null
  | .bool b => .ok (.int (if b then 1 else 0))
  | .int n => .ok (.int n)
  | .real x => .ok (.real x)
  | .text s => .ok (.text s)
  | .list _ => .error "list"
  | .object _ => .error "dict"

namespace ToolCall

variable {ω : Type}

/-- What is said of an entity without a row. -/
def notMetered (entity : String) : String :=
  s!"{entity} not metered yet; treat as unknown, not zero"

/-- An argument that is given. -/
def argument? (c : ToolCall) (key : String) : Option Json :=
  c.arguments.lookup key

/-- An argument that must be given. -/
def required (c : ToolCall) (key : String) : Except Error Json :=
  (c.argument? key).elim (.error (.missingArgument key)) .ok

/-- An argument that is given and not null. -/
def optional (c : ToolCall) (key : String) : Option Json :=
  (c.argument? key).filter fun v => !(v matches .null)

/-- Run a body on the index of the project at `home`, which must be there. -/
def withIndex {α : Type} (home : Path) (env : Environment) (body : Settings → Action ω α) :
    Action ω α := do
  let settings ← Action.of (Settings.ofEnvironment env home)
  unless ← Action.of ((← get).disk.holds settings.databasePath) do
    throw (.noIndex settings.databasePath)
  Action.withRepository settings.databasePath (body settings)

/-- The metrics of a file and, if that is asked for, of its symbols. -/
def file (home : Path) (env : Environment) (given : Json) (withSymbols : Bool) : Action ω Json :=
  withIndex home env fun _ => do
    match given with
    | .text spelled =>
      let path := Path.ofString spelled
      match ← MetricsStore.file? path with
      | none =>
        return .object [("error", .text (notMetered s!"File '{spelled}'")), ("file", .null)]
      | some row =>
        let file ← Action.of row.report
        let symbols ← if withSymbols then do
            pure [("symbols", symbolRowsReport (← MetricsStore.symbolsInFile path))]
          else pure []
        return .object (("file", file) :: symbols)
    | _ => throw .wrongKind

/-- The metrics of a symbol. -/
def symbol (home : Path) (env : Environment) (id : Int) : Action ω Json :=
  withIndex home env fun _ => do
    match ← MetricsStore.symbol? id with
    | none => return .object [("error", .text (notMetered s!"Symbol {id}")), ("symbol", .null)]
    | some row => return .object [("symbol", row.draft.report)]

/-- Bind the thresholds and the limit in their order, up to the first that cannot be bound. -/
def bindAll (statement : Statement) (arguments : List Json) : Action ω (List Value) := do
  let values := arguments.map Json.value
  match values.findIdx? (! ·.isOk) with
  | none => return values.filterMap Except.toOption
  | some place =>
    Action.prepare statement
    Action.bind ((values.take place).filterMap Except.toOption)
    let kind := match values[place]? with
      | some (.error kind) => kind
      | _ => ""
    throw (.unsupportedParameter (place + 1) kind)

/-- The files with the highest scores. A limit that says nothing is the one of the settings. -/
def hotspots (home : Path) (env : Environment) (c : ToolCall) : Action ω Json :=
  withIndex home env fun settings => do
    let limit := ((c.argument? "limit").filter Json.isSaid).getD (.int settings.hotspotLimit)
    let minLoc := c.optional "min_loc"
    let minFanIn := c.optional "min_fan_in"
    let minFanOut := c.optional "min_fan_out"
    let statement := Statement.hotspots minLoc.isSome minFanIn.isSome minFanOut.isSome
    let _ ← bindAll statement (minLoc.toList ++ minFanIn.toList ++ minFanOut.toList ++ [limit])
    let bound (v : Option Json) : Option Value := v.bind (·.value.toOption)
    let query : HotspotQuery := {
      limit := (bound limit).getD .null
      minLoc := bound minLoc
      minFanIn := bound minFanIn
      minFanOut := bound minFanOut }
    return .object [("results", ← Action.of (fileRowsReport (← MetricsStore.hotspots query)))]

/-- The answer of the tool with the call's name. -/
def answer (home : Path) (env : Environment) (c : ToolCall) : Action ω Json := do
  match c.name with
  | "metrics_file" =>
    let withSymbols := (c.argument? "include_symbols").any Json.isSaid
    file home env (← Action.of (c.required "path")) withSymbols
  | "metrics_symbol" =>
    let given ← Action.of (c.required "symbol_id")
    symbol home env (← Action.of given.integer)
  | "metrics_hotspots" => hotspots home env c
  | "metrics_stats" => withIndex home env fun _ => do return (← storeStats).report
  | unknown => return .object [("error", .text s!"Unknown tool: {unknown}")]

/-- Answer a call, also one that fails by a fault that the caller can mend. -/
def run (home : Path) (env : Environment) (c : ToolCall) : Action ω Json := do
  match ← (c.answer home env).outcome with
  | .ok d => return d
  | .error e => if e.isAnswered then return .object [("error", .text e.message)] else throw e

end ToolCall

end CodeGauge
