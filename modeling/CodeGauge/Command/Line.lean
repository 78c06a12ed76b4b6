import CodeGauge.Path
import CodeGauge.Text.Integer

/-!
# Command lines

A command line names a command and gives it options and arguments. Options have a long spelling
after two hyphens and perhaps a letter after one; letters can be run together. An option's value
follows it, also within the same word: after `=` for a long spelling, at once for a letter. Options
and arguments may be mixed, and after a lone double hyphen everything is an argument. Where an
option comes twice the last counts. Follows section 10.10 of the specification.
-/

namespace CodeGauge

/-- An option: its long spelling, its letter, and whether a value follows. -/
structure OptionForm where
  long : String
  letter : Option Char := none
  valued : Bool := false

/-- The options given, in order and each with its value, and the arguments. -/
structure GivenWords where
  options : List (String × String) := []
  arguments : List String := []

namespace GivenWords

/-- With an argument before all others. -/
def withArgument (g : GivenWords) (word : String) : GivenWords :=
  { g with arguments := word :: g.arguments }

/-- With options before all others. -/
def withOptions (g : GivenWords) (options : List (String × String)) : GivenWords :=
  { g with options := options ++ g.options }

/-- Whether an option is given. -/
def has (g : GivenWords) (long : String) : Bool :=
  g.options.any (·.1 == long)

/-- The last value given to an option. -/
def value? (g : GivenWords) (long : String) : Option String :=
  g.options.reverse.lookup long

end GivenWords

/-- The options in one word, and the option whose value has to be the next word. -/
structure OptionWord where
  options : List (String × String)
  awaiting : Option String := none

/-- The options that letters run together stand for. A letter with a value takes the rest of
the word. -/
def readLetters? (forms : List OptionForm) : List Char → Option OptionWord
  | [] => some ⟨[], none⟩
  | c :: rest => do
    let form ← forms.find? (·.letter == some c)
    if form.valued then
      if rest.isEmpty then return ⟨[], some form.long⟩
      else return ⟨[(form.long, String.ofList rest)], none⟩
    else
      let w ← readLetters? forms rest
      return { w with options := (form.long, "") :: w.options }

/-- The option that a long spelling stands for, with its value after `=` if there is one. -/
def readLong? (forms : List OptionForm) (spelling : List Char) : Option OptionWord := do
  let (long, rest) := spelling.span (· != '=')
  let form ← forms.find? (·.long == String.ofList long)
  match form.valued, rest with
  | true, [] => return ⟨[], some form.long⟩
  | true, _ :: value => return ⟨[(form.long, String.ofList value)], none⟩
  | false, [] => return ⟨[(form.long, "")], none⟩
  | false, _ :: _ => none

/-- The options in a word that begins with a hyphen and has more than that. -/
def readOptionWord? (forms : List OptionForm) : List Char → Option OptionWord
  | '-' :: '-' :: spelling => readLong? forms spelling
  | _ :: letters => readLetters? forms letters
  | [] => none

/-- Whether a word gives options. -/
def isOptionWord (word : String) : Bool :=
  word.toList.head? == some '-' && 1 < word.length

/-- Sort words into options and arguments. Unless they may be mixed, everything from the first
argument on is an argument. -/
def sortWords? (forms : List OptionForm) (mixed : Bool) : List String → Option GivenWords
  | [] => some {}
  | word :: rest =>
    if word = "--" then some { arguments := rest }
    else if isOptionWord word then do
      let w ← readOptionWord? forms word.toList
      match w.awaiting, rest with
      | none, rest => return (← sortWords? forms mixed rest).withOptions w.options
      | some long, value :: rest =>
        return (← sortWords? forms mixed rest).withOptions (w.options ++ [(long, value)])
      | some _, [] => none
    else if mixed then do return (← sortWords? forms mixed rest).withArgument word
    else some { arguments := word :: rest }

/-- What a command line asks for. -/
inductive Command where
  | backfill (root : Path)
  | refresh (files : List Path)
  | remove (file : Path)
  | file (path : Path) (withSymbols : Bool)
  | symbol (id : Int)
  | hotspots (limit minLoc minFanIn minFanOut : Option Int)
  | stats
  deriving DecidableEq

/-- A request: show how to use the program, or run a command and show its result in lines or as a
document. -/
inductive Request where
  | help
  | run (command : Command) (asDocument : Bool)
  deriving DecidableEq

namespace Request

/-- The option that asks how to use a command. -/
def helpForm : OptionForm := { long := "help" }

/-- The option that asks for a document. -/
def documentForm : OptionForm := { long := "json", letter := some 'j' }

/-- The options that stand before the name of a command. -/
def generalForms : List OptionForm := [helpForm, { long := "verbose", letter := some 'v' }]

/-- The options of each command; `none` for a name that is no command's. -/
def formsOf? : String → Option (List OptionForm)
  | "backfill" | "refresh" | "remove" => some [helpForm]
  | "file" => some [helpForm, documentForm, { long := "symbols", letter := some 's' }]
  | "symbol" | "stats" => some [helpForm, documentForm]
  | "hotspots" => some [helpForm, documentForm,
      { long := "limit", letter := some 'n', valued := true },
      { long := "min-loc", valued := true },
      { long := "min-fan-in", valued := true },
      { long := "min-fan-out", valued := true }]
  | _ => none

/-- An integer in the last value of an option that may be missing. -/
def integerOption? (g : GivenWords) (long : String) : Option (Option Int) :=
  match g.value? long with
  | none => some none
  | some text => (Text.readPlainInteger? text).map some

/-- The path of an argument; a character NUL is in no path. -/
def pathArgument? (word : String) : Option Path :=
  if word.toList.contains '\x00' then none else some (.ofString word)

/-- The command of a name with its words. -/
def command? (g : GivenWords) : (name : String) → Option Command
  | "backfill" =>
    match g.arguments with
    | [] => some (.backfill (.ofString "."))
    | [root] => (pathArgument? root).map .backfill
    | _ => none
  | "refresh" =>
    if g.arguments.isEmpty then none else (g.arguments.mapM pathArgument?).map .refresh
  | "remove" =>
    match g.arguments with
    | [file] => (pathArgument? file).map .remove
    | _ => none
  | "file" =>
    match g.arguments with
    | [file] => (pathArgument? file).map (.file · (g.has "symbols"))
    | _ => none
  | "symbol" =>
    match g.arguments with
    | [id] => (Text.readPlainInteger? id).map .symbol
    | _ => none
  | "hotspots" => do
    let limit ← integerOption? g "limit"
    let minLoc ← integerOption? g "min-loc"
    let minFanIn ← integerOption? g "min-fan-in"
    let minFanOut ← integerOption? g "min-fan-out"
    if g.arguments.isEmpty then some (.hotspots limit minLoc minFanIn minFanOut) else none
  | "stats" => if g.arguments.isEmpty then some .stats else none
  | _ => none

/-- The request that the words of a command line make; `none` if they are not used rightly. -/
def ofWords? (words : List String) : Option Request := do
  let general ← sortWords? generalForms false words
  if general.has "help" then return .help
  match general.arguments with
  | [] => none
  | name :: rest =>
    let g ← sortWords? (← formsOf? name) true rest
    if g.has "help" then return .help
    return .run (← command? g name) (g.has "json")

end Request

end CodeGauge
