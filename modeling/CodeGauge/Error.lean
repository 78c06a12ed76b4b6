import CodeGauge.Path
import CodeGauge.Text.Quoted

/-!
# What can go wrong

Each error says its cause; `Error.message` words it. Four families of errors are *reported*: an
entity is absent from the graph, the graph or a content could not be read, a content is not the one
the graph was made from, or a batch was refused by the store. Those concern one operation on sound
arguments; all others say that an argument, a stored value or the surroundings were not as they must
be. Follows sections 7 and 10.7 of the specification.
-/

namespace CodeGauge

/-- A value as a caller spells it where a word of a fixed vocabulary is due. -/
inductive Given where
  | nothing
  | int (n : Int)
  | text (s : String)
  deriving DecidableEq, Repr

/-- How messages show a given value. -/
def Given.shown : Given → String
  | .nothing => "None"
  | .int n => toString n
  | .text s => Text.quoted s

/-- Why the database refuses a statement or to be opened. -/
inductive DatabaseFault where
  | nullColumn (table column : String)
  | duplicateKey (table column : String)
  | noTable (table : String)
  | noColumn (column : String)
  | mismatch
  | tooManyValues
  | full
  | undroppable (table : String)
  | readOnly
  | cannotOpen
  | unknownOpening (option value : String)
  | notADatabase
  deriving DecidableEq, Repr

/-- The database's words. -/
def DatabaseFault.message : DatabaseFault → String
  | .nullColumn table column => s!"NOT NULL constraint failed: {table}.{column}"
  | .duplicateKey table column => s!"UNIQUE constraint failed: {table}.{column}"
  | .noTable table => s!"no such table: {table}"
  | .noColumn column => s!"no such column: {column}"
  | .mismatch => "datatype mismatch"
  | .tooManyValues => "too many SQL variables"
  | .full => "database or disk is full"
  | .undroppable table => s!"table {table} may not be dropped"
  | .readOnly => "attempt to write a readonly database"
  | .cannotOpen => "unable to open database file"
  | .unknownOpening option value => s!"no such {option}: {value}"
  | .notADatabase => "file is not a database"

/-- Why the disk refuses a file. -/
inductive DiskFault where
  | missing
  | exists
  | notADirectory
  | isADirectory
  | nameTooLong
  deriving DecidableEq, Repr

/-- The number of a disk fault. -/
def DiskFault.number : DiskFault → Nat
  | .missing => 2
  | .exists => 17
  | .notADirectory => 20
  | .isADirectory => 21
  | .nameTooLong => 36

/-- The words for a disk fault. -/
def DiskFault.text : DiskFault → String
  | .missing => "No such file or directory"
  | .exists => "File exists"
  | .notADirectory => "Not a directory"
  | .isADirectory => "Is a directory"
  | .nameTooLong => "File name too long"

/-- A disk fault together with the path it struck. -/
def DiskFault.message (fault : DiskFault) (path : Path) : String :=
  s!"[Errno {fault.number}] {fault.text}: {Text.quoted path.toString}"

/-- The causes of failure. -/
inductive Error where
  | fileWithoutSymbols (path : Path)
  | noSymbol (id : Int)
  | unreadable (reason : String)
  | noContent (path : Path)
  | graphUnreadable (fault : DatabaseFault)
  | contentChanged (path : Path) (snapshot : Nat)
  | batchRefused (fault : DatabaseFault)
  | database (fault : DatabaseFault)
  | beyondColumn
  | beyondBinary64
  | unsupportedParameter (position : Nat) (kind : String)
  | closedConnection
  | fileNotCovered (snapshot : Nat) (path : Path)
  | symbolNotCovered (snapshot : Nat) (id : Int)
  | unknownWord (vocabulary : String) (value : Given)
  | notAnInteger (text : String)
  | tooManyDigits (digits : Nat)
  | notADate (text : String)
  | datePart (reason : String)
  | negativeRetries
  | limitBelowOne
  | nulInPath
  | unknownId (id : Int)
  | missingArgument (name : String)
  | wrongKind
  | unsuitedFormat (code : Char) (kind : String)
  | infiniteNumber
  | noNumber
  | noIndex (expected : Path)
  | unmatchedTag (written : String) (position : Nat)
  | nothingToClose (position : Nat)
  | disk (fault : DiskFault) (path : Path)
  | stopped (reason : String)
  | unsettled
  deriving DecidableEq

namespace Error

/-- How many characters are shown of a quoted text that is no integer. -/
def shownCharacters : Nat := 200

/-- The wording of an error. -/
def message : Error → String
  | fileWithoutSymbols path => s!"File {path} has no indexed symbols"
  | noSymbol id => s!"Symbol with id {id} not found"
  | unreadable reason => reason
  | noContent path => s!"No content for {path}"
  | graphUnreadable fault => s!"Failed to load graph snapshot: {fault.message}"
  | contentChanged path snapshot =>
    s!"Content of {path} changed since it was indexed (snapshot {snapshot})"
  | batchRefused fault => s!"Failed to write metrics batch: {fault.message}"
  | database fault => fault.message
  | beyondColumn => "Python int too large to convert to SQLite INTEGER"
  | beyondBinary64 => "int too large to convert to float"
  | unsupportedParameter position kind =>
    s!"Error binding parameter {position}: type {Text.quoted kind} is not supported"
  | closedConnection => "Cannot operate on a closed database."
  | fileNotCovered snapshot path => s!"Snapshot {snapshot} does not cover {path}"
  | symbolNotCovered snapshot id => s!"Snapshot {snapshot} does not cover symbol {id}"
  | unknownWord vocabulary value => s!"{value.shown} is not a valid {vocabulary}"
  | notAnInteger text =>
    s!"invalid literal for int() with base 10: {(Text.quoted text).take shownCharacters}"
  | tooManyDigits digits =>
    s!"Exceeds the limit (4300 digits) for integer string conversion: value has {digits} " ++
      "digits; use sys.set_int_max_str_digits() to increase the limit"
  | notADate text => s!"Invalid isoformat string: {Text.quoted text}"
  | datePart reason => reason
  | negativeRetries => "max_snapshot_retries must be >= 0"
  | limitBelowOne => "hotspot_limit must be >= 1"
  | nulInPath => "embedded null byte"
  | unknownId id => toString id
  | missingArgument name => Text.quoted name
  | wrongKind => "wrong kind of value"
  | unsuitedFormat code kind =>
    "Unknown format code '" ++ code.toString ++ s!"' for object of type {Text.quoted kind}"
  | infiniteNumber => "cannot convert float infinity to integer"
  | noNumber => "cannot convert float NaN to integer"
  | noIndex expected =>
    s!"No codemeter index found. Run 'codemeter backfill .' first.\nExpected: {expected}"
  | unmatchedTag written position =>
    "closing tag '" ++ written ++ s!"' at position {position} doesn't match any open tag"
  | nothingToClose position => s!"closing tag '[/]' at position {position} has nothing to close"
  | disk fault path => fault.message path
  | stopped reason => reason
  | unsettled => "the affected set did not settle"

/-- Whether the error is one of the reported families, which concern one entity or one operation. -/
def isReported : Error → Bool
  | fileWithoutSymbols _ | noSymbol _ | unreadable _ | noContent _ | graphUnreadable _
  | contentChanged _ _ | batchRefused _ => true
  | _ => false

/-- Whether the error says that the graph does not have the entity asked for. -/
def isAbsence : Error → Bool
  | fileWithoutSymbols _ | noSymbol _ => true
  | _ => false

/-- Whether the error says that a content is not the one the graph was made from. -/
def isInconsistency : Error → Bool
  | contentChanged _ _ => true
  | _ => false

end Error

/-- A closed set of words, each the text of one value of `α`. -/
class Vocabulary (α : Type) where
  title : String
  values : List α
  text : α → String

/-- The value whose word is given. -/
def Vocabulary.read {α : Type} [Vocabulary α] (given : Given) : Except Error α :=
  let refuse := .error (.unknownWord (Vocabulary.title α) given)
  match given with
  | .text s => ((Vocabulary.values (α := α)).find? (Vocabulary.text · == s)).elim refuse .ok
  | _ => refuse

end CodeGauge
