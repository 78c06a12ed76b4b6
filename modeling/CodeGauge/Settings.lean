import CodeGauge.Error
import CodeGauge.Text.Integer

/-!
# Settings

Where a project and its database are, how many fresh snapshots are tried after an inconsistent one,
and how many hotspots are listed. Environment variables override the defaults; an empty one counts
as unset. Follows section 10.9 of the specification.
-/

namespace CodeGauge

/-- The settings of one project. -/
structure Settings where
  projectRoot : Path
  databasePath : Path
  maxRetries : Nat
  hotspotLimit : Nat
  hotspotLimit_pos : 1 ≤ hotspotLimit
  deriving DecidableEq

/-- The variables of an environment with their values. -/
abbrev Environment := List (String × String)

/-- The value of a variable that is set and not empty. -/
def Environment.value? (env : Environment) (variableName : String) : Option String :=
  (env.lookup variableName).filter (· ≠ "")

namespace Settings

/-- How many fresh snapshots are tried where nothing else is said. -/
def defaultMaxRetries : Int := 3

/-- How many hotspots are listed where nothing else is said. -/
def defaultHotspotLimit : Int := 20

/-- Where a project's database lies. -/
def defaultDatabasePath (root : Path) : Path :=
  root / Path.ofString ".codemeter" / Path.ofString "index.db"

/-- Settings with the two numbers in range, the number of retries checked first. -/
def make (root database : Path) (retries limit : Int) : Except Error Settings :=
  if retries < 0 then .error .negativeRetries
  else if h : limit < 1 then .error .limitBelowOne
  else .ok ⟨root, database, retries.toNat, limit.toNat, by omega⟩

/-- The default settings of a project. -/
def ofProject (root : Path) : Except Error Settings :=
  make root (defaultDatabasePath root) defaultMaxRetries defaultHotspotLimit

/-- An integer as an error-reporting reader sees it. -/
def integer (text : String) : Except Error Int :=
  match Text.readInteger text with
  | .ok n => .ok n
  | .error .malformed => .error (.notAnInteger text)
  | .error (.tooLong digits) => .error (.tooManyDigits digits)

/-- The integer in a variable, or the default when it is unset. -/
def integerVariable (env : Environment) (variableName : String) (default : Int) :
    Except Error Int :=
  match env.value? variableName with
  | some text => integer text
  | none => .ok default

/-- The settings of a project under an environment. -/
def ofEnvironment (env : Environment) (root : Path) : Except Error Settings := do
  let database := ((env.value? "CODEMETER_DB").map Path.ofString).getD (defaultDatabasePath root)
  let retries ← integerVariable env "CODEMETER_MAX_SNAPSHOT_RETRIES" defaultMaxRetries
  let limit ← integerVariable env "CODEMETER_HOTSPOT_LIMIT" defaultHotspotLimit
  make root database retries limit

end Settings

end CodeGauge
