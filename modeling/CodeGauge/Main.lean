import CodeGauge.Command.Run
import CodeGauge.Report.Render
import CodeGauge.Store.Saved
import Std.Time.DateTime.Timestamp

/-!
# The command line

Runs one command on the project in the working directory. The index and the contents of the files
that it names are read first, the command is run on them, and the index is written back.
-/

namespace CodeGauge.Main

/-- How to use the program. -/
def usage : String :=
  "Usage: codemeter [-v] COMMAND\n\n" ++
  "  backfill [PATH]                    recompute every file and symbol\n" ++
  "  refresh FILES...                   recompute changed files and their neighbors\n" ++
  "  remove FILE                        remove a file from the graph\n" ++
  "  file FILE [-s] [-j]                show the metrics of a file\n" ++
  "  symbol ID [-j]                     show the metrics of a symbol\n" ++
  "  hotspots [-n N] [--min-loc N] [--min-fan-in N] [--min-fan-out N] [-j]\n" ++
  "                                     list the files with the highest scores\n" ++
  "  stats [-j]                         show the size of the index"

/-- The variables that settings are read from. -/
def variableNames : List String :=
  ["CODEMETER_DB", "CODEMETER_MAX_SNAPSHOT_RETRIES", "CODEMETER_HOTSPOT_LIMIT"]

/-- The variables that are set. -/
def environment : IO Environment :=
  variableNames.filterMapM fun variableName => do
    return (← IO.getEnv variableName).map (variableName, ·)

/-- The content of a file of the surrounding system, if it can be read. -/
def contentAt (path : Path) : IO (Option ByteArray) := do
  try return some (← IO.FS.readBinFile path.toString)
  catch _ => return none

/-- A disk with what a path of the surrounding system holds. -/
def withPath (disk : Disk) (path : Path) : IO Disk := do
  match ← contentAt path with
  | some content => return ((disk.write path content).toOption.map (·.1)).getD disk
  | none =>
    let here ← IO.currentDir
    if ← (here / path.toString).isDir then return (disk.makeDirectory path).toOption.getD disk
    else return disk

/-- The files of the graph in a database. -/
def graphFiles (db : Database) : List Path :=
  db.symbols.toList.map fun (_, row) => Path.ofString row.file

/-- The file of the index, unless the index is kept in memory. -/
def indexFile? (home : Path) (settings : Settings) : Option Path :=
  match Location.ofPath settings.databasePath with
  | .ok (.file path _) => some (home / path).resolved
  | _ => none

/-- The number of the file of the index on a disk. -/
def indexNumber? (disk : Disk) (path : Path) : Option Nat := do
  match disk.node? (← (disk.locate path).toOption) with
  | some (.file number) => number
  | _ => none

/-- The databases of a disk: the index, if it is one. -/
def databasesOf (disk : Disk) (path : Path) (saved : Option Database) :
    Std.ExtTreeMap Nat Database :=
  match saved, indexNumber? disk path with
  | some db, some number => (∅ : Std.ExtTreeMap Nat Database).insert number db
  | _, _ => ∅

/-- The world of a project: its index, and the files that the index names. -/
def worldOf (home : Path) (settings : Settings) : IO (World Unit) := do
  let index := (indexFile? home settings).getD home
  let disk ← withPath { home } index
  let saved := ((← contentAt index).bind String.fromUTF8?).bind Database.load?
  let files := ((saved.map graphFiles).getD []).map (diskPath (some settings.projectRoot))
  let disk ← files.foldlM withPath disk
  let now ← Std.Time.Timestamp.now
  return {
    disk, databases := databasesOf disk index saved, clock := .ok now.toSecondsSinceUnixEpoch.val
    stamp := "", repository := { path := settings.databasePath }, others := () }

/-- Write the index back. -/
def saveIndex (home : Path) (settings : Settings) (w : World Unit) : IO Unit := do
  if let some index := indexFile? home settings then
    if let some db := (indexNumber? w.disk index).bind (w.databases[·]?) then
      IO.FS.createDirAll index.parent.toString
      IO.FS.writeFile index.toString db.save

/-- Write the output of a command. -/
def writeOutput : Output → IO Unit
  | .lines lines => lines.forM fun line => IO.println line
  | .document d => IO.println d.render

/-- The engine of the settings found. A graph is settled after as many rounds as it has entities. -/
def engine (rounds : Nat) (settings : Settings) : Engine Unit :=
  { loader := .plain settings.projectRoot, maxRetries := settings.maxRetries, patience := rounds }

/-- The number of entities in the databases, and more than one for an empty graph. -/
def entities (w : World Unit) : Nat :=
  w.databases.foldl (fun total _ db =>
    total + db.symbols.size + 2 * db.edges.size + db.fileMetrics.size + db.symbolMetrics.size) 2

/-- Run a command; an error that goes through is written to the error stream. -/
def runCommand (command : Command) (asDocument : Bool) : IO UInt32 := do
  let home := Path.ofString (← IO.currentDir).toString
  let env ← environment
  match Settings.ofEnvironment env (command.root home) with
  | .error e => IO.eprintln e.message; return 1
  | .ok settings =>
    let w ← worldOf home settings
    let (result, w) := (command.run (engine (entities w)) home env asDocument).runIn w
    saveIndex home settings w
    match result with
    | .error e => IO.eprintln e.message; return 1
    | .ok outcome =>
      writeOutput outcome.output
      if let some e := outcome.failure then IO.eprintln e.message
      return outcome.exitCode.toUInt32

end CodeGauge.Main

/-- Run the command that the words ask for. -/
def main (words : List String) : IO UInt32 := do
  match CodeGauge.Request.ofWords? words with
  | none => IO.eprintln CodeGauge.Main.usage; return 2
  | some .help => IO.println CodeGauge.Main.usage; return 0
  | some (.run command asDocument) => CodeGauge.Main.runCommand command asDocument
