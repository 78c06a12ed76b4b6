import CodeGauge.Error
import CodeGauge.Text.Integer
import CodeGauge.Text.Letter

/-!
# Styles

A tag of marked text names a style by words: traits such as `bold`, perhaps after `not`, a color, a
background color after `on`, and a target after `link`. Two spellings name one style when they have
the same normal form, which gives the traits in a fixed order and then the rest. What names no style
is only put into small letters.
-/

namespace CodeGauge.Console

/-- The words for traits with the names of the traits. -/
def traitWords : List (String × String) := [
  ("dim", "dim"), ("d", "dim"), ("bold", "bold"), ("b", "bold"), ("italic", "italic"),
  ("i", "italic"), ("underline", "underline"), ("u", "underline"), ("blink", "blink"),
  ("blink2", "blink2"),
  ("reverse", "reverse"), ("r", "reverse"), ("conceal", "conceal"), ("c", "conceal"),
  ("strike", "strike"), ("s", "strike"), ("underline2", "underline2"), ("uu", "underline2"),
  ("frame", "frame"), ("encircle", "encircle"), ("overline", "overline"), ("o", "overline")]

/-- The traits in the order in which they are written. -/
def traitOrder : List String := [
  "bold", "dim", "italic", "underline", "blink", "blink2", "reverse", "conceal", "strike",
  "underline2", "frame", "encircle", "overline"]

/-- The names of colors. -/
def colorNames : List String := [
    "aquamarine1", "aquamarine3", "black", "blue", "blue1", "blue3", "blue_violet", "bright_black",
    "bright_blue", "bright_cyan", "bright_green", "bright_magenta", "bright_red", "bright_white",
    "bright_yellow", "cadet_blue", "chartreuse1", "chartreuse2", "chartreuse3", "chartreuse4",
    "cornflower_blue", "cornsilk1", "cyan", "cyan1", "cyan2", "cyan3", "dark_blue", "dark_cyan",
    "dark_goldenrod", "dark_green", "dark_khaki", "dark_magenta", "dark_olive_green1",
    "dark_olive_green2", "dark_olive_green3", "dark_orange", "dark_orange3", "dark_red",
    "dark_sea_green", "dark_sea_green1", "dark_sea_green2", "dark_sea_green3", "dark_sea_green4",
    "dark_slate_gray1", "dark_slate_gray2", "dark_slate_gray3", "dark_turquoise", "dark_violet",
    "deep_pink1", "deep_pink2", "deep_pink3", "deep_pink4", "deep_sky_blue1", "deep_sky_blue2",
    "deep_sky_blue3", "deep_sky_blue4", "dodger_blue1", "dodger_blue2", "dodger_blue3", "gold1",
    "gold3", "gray0", "gray100", "gray11", "gray15", "gray19", "gray23", "gray27", "gray3",
    "gray30", "gray35", "gray37", "gray39", "gray42", "gray46", "gray50", "gray53", "gray54",
    "gray58", "gray62", "gray63", "gray66", "gray69", "gray7", "gray70", "gray74", "gray78",
    "gray82", "gray84", "gray85", "gray89", "gray93", "green", "green1", "green3", "green4",
    "green_yellow", "grey0", "grey100", "grey11", "grey15", "grey19", "grey23", "grey27", "grey3",
    "grey30", "grey35", "grey37", "grey39", "grey42", "grey46", "grey50", "grey53", "grey54",
    "grey58", "grey62", "grey63", "grey66", "grey69", "grey7", "grey70", "grey74", "grey78",
    "grey82", "grey84", "grey85", "grey89", "grey93", "honeydew2", "hot_pink", "hot_pink2",
    "hot_pink3", "indian_red", "indian_red1", "khaki1", "khaki3", "light_coral", "light_cyan1",
    "light_cyan3", "light_goldenrod1", "light_goldenrod2", "light_goldenrod3", "light_green",
    "light_pink1", "light_pink3", "light_pink4", "light_salmon1", "light_salmon3",
    "light_sea_green", "light_sky_blue1", "light_sky_blue3", "light_slate_blue", "light_slate_gray",
    "light_slate_grey", "light_steel_blue", "light_steel_blue1", "light_steel_blue3",
    "light_yellow3", "magenta", "magenta1", "magenta2", "magenta3", "medium_orchid",
    "medium_orchid1", "medium_orchid3", "medium_purple", "medium_purple1", "medium_purple2",
    "medium_purple3", "medium_purple4", "medium_spring_green", "medium_turquoise",
    "medium_violet_red", "misty_rose1", "misty_rose3", "navajo_white1", "navajo_white3",
    "navy_blue", "orange1", "orange3", "orange4", "orange_red1", "orchid", "orchid1", "orchid2",
    "pale_green1", "pale_green3", "pale_turquoise1", "pale_turquoise4", "pale_violet_red1", "pink1",
    "pink3", "plum1", "plum2", "plum3", "plum4", "purple", "purple3", "purple4", "red", "red1",
    "red3", "rosy_brown", "royal_blue1", "salmon1", "sandy_brown", "sea_green1", "sea_green2",
    "sea_green3", "sky_blue1", "sky_blue2", "sky_blue3", "slate_blue1", "slate_blue3",
    "spring_green1", "spring_green2", "spring_green3", "spring_green4", "steel_blue", "steel_blue1",
    "steel_blue3", "tan", "thistle1", "thistle3", "turquoise2", "turquoise4", "violet", "wheat1",
    "wheat4", "white", "yellow", "yellow1", "yellow2", "yellow3", "yellow4"]

/-- The inside of a text that begins with a word and ends with a closing parenthesis. -/
def enclosed? (start : String) (cs : List Char) : Option (List Char) :=
  if start.toList <+: cs ∧ cs.getLast? = some ')' ∧ start.length < cs.length then
    some (cs.drop start.length).dropLast
  else none

/-- The number of a part of a color. -/
def colorPart (cs : List Char) : Except Error Nat :=
  match Text.readInteger (String.ofList cs) with
  | .ok n => .ok n.toNat
  | .error .malformed => .error (.notAnInteger (String.ofList cs))
  | .error (.tooLong digits) => .error (.tooManyDigits digits)

/-- Whether digits and commas give the three parts of a color. -/
def isColorTriple (cs : List Char) : Except Error Bool := do
  match (String.ofList cs).splitOn "," with
  | [red, green, blue] =>
    let parts ← [red, green, blue].mapM fun part => colorPart part.toList
    return parts.all (· ≤ 255)
  | _ => return false

/-- Whether small letters name a color: by a name, six hexadecimal digits, a number, or three
parts. -/
def isColor (word : String) : Except Error Bool :=
  let cs := word.toList
  if word == "default" || colorNames.contains word then .ok true
  else
    match cs with
    | '#' :: digits =>
      .ok (digits.length == 6 && digits.all fun c => c.isDigit || ('a' ≤ c && c ≤ 'f'))
    | _ =>
      match enclosed? "color(" cs, enclosed? "rgb(" cs with
      | some digits, _ =>
        .ok (!digits.isEmpty && digits.length ≤ 3 && digits.all Char.isDigit &&
          decide (Text.ofDigits (digits.map fun c => c.toNat - '0'.toNat) ≤ 255))
      | none, some parts =>
        if !parts.isEmpty && parts.all (fun c => c == ',' || (Text.digitValue? c).isSome) then
          isColorTriple parts
        else .ok false
      | none, none => .ok false

/-- A style by what is said of it. -/
structure Style where
  traits : List (String × Bool) := []
  color : Option String := none
  background : Option String := none
  link : Option String := none

namespace Style

/-- The style with an trait on or off. -/
def withTrait (style : Style) (trait : String) (on : Bool) : Style :=
  { style with traits := (trait, on) :: style.traits }

/-- The style that words describe, added to a style; `none` if they describe none. -/
def ofWords? (style : Style) : List String → Except Error (Option Style)
  | [] => .ok (some style)
  | word :: rest => do
    let small := Text.smallLetters word
    if small = "on" then
      match rest with
      | [] => return none
      | color :: rest =>
        let color := Text.smallLetters color
        if ← isColor color then ofWords? { style with background := some color } rest
        else return none
    else if small = "not" then
      match rest with
      | [] => return none
      | trait :: rest =>
        match traitWords.lookup trait with
        | some trait => ofWords? (style.withTrait trait false) rest
        | none => return none
    else if small = "link" then
      match rest with
      | [] => return none
      | target :: rest => ofWords? { style with link := some target } rest
    else
      match traitWords.lookup small with
      | some trait => ofWords? (style.withTrait trait true) rest
      | none =>
        if ← isColor small then ofWords? { style with color := some small } rest
        else return none

/-- The normal form of a style. -/
def text (style : Style) : String :=
  let traits := traitOrder.filterMap fun trait =>
    (style.traits.lookup trait).map fun on => if on then trait else s!"not {trait}"
  let words := traits ++ style.color.toList ++
    (style.background.map fun color => s!"on {color}").toList ++
    (style.link.map fun target => s!"link {target}").toList
  if words.isEmpty then "none" else String.intercalate " " words

end Style

/-- The words of a text. -/
def wordsOf (cs : List Char) : List String :=
  ((cs.splitBy fun a b => Text.isSpace a == Text.isSpace b).filter fun piece =>
    !piece.any Text.isSpace).map String.ofList

/-- The normal form of the name of a style. -/
def normalStyle (name : String) : Except Error String := do
  let stripped := Text.stripWhere Text.isSpace name.toList
  if stripped = "none".toList then return "none"
  match ← Style.ofWords? {} (wordsOf name.toList) with
  | some style => return style.text
  | none => return Text.smallLetters (String.ofList stripped)

end CodeGauge.Console
