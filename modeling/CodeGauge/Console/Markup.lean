import CodeGauge.Console.Emoji
import CodeGauge.Console.Style

/-!
# Marked text

Text for a terminal carries tags between square brackets. A tag begins with a small letter or one of
`#`, `/` and `@`; all other brackets are text. A tag that begins with a slash closes the last open
one of its style, or without a style the last one of all. Backslashes before a tag are halved, and
an odd one makes the tag text.

What is shown is the text without its tags, with its emoji, and without the control characters that
would move the terminal's cursor.
-/

namespace CodeGauge.Console

/-- A tag: its name and what stands after an equals sign. -/
structure Tag where
  name : String
  parameters : Option String

/-- A tag as it is written. -/
def Tag.written (t : Tag) : String :=
  match t.parameters with
  | none => s!"[{t.name}]"
  | some parameters => s!"[{t.name}={parameters}]"

/-- The tag that stands between brackets. -/
def Tag.ofInside (inside : List Char) : Tag :=
  match inside.span (· != '=') with
  | (name, _ :: parameters) => ⟨.ofList name, some (.ofList parameters)⟩
  | (name, []) => ⟨.ofList name, none⟩

/-- A piece of marked text: text, or a tag at a position. -/
inductive Piece where
  | text (cs : List Char)
  | tag (position : Nat) (t : Tag)

/-- Whether a character can begin a tag. -/
def beginsTag (c : Char) : Bool :=
  ('a' ≤ c && c ≤ 'z') || c == '#' || c == '/' || c == '@'

/-- What stands between brackets at the beginning of a text, if that makes a tag. -/
def tagInside? : List Char → Option (List Char)
  | '[' :: c :: rest =>
    let inside := rest.takeWhile fun d => d != ']' && d != '['
    if beginsTag c && (rest.drop inside.length).head? == some ']' then some (c :: inside) else none
  | _ => none

/-- The pieces that backslashes and the tag after them make at a position. -/
def tagPieces (position backslashes : Nat) (inside : List Char) : List Piece :=
  let pairs := backslashes / 2
  let literal := if pairs = 0 then [] else [Piece.text (List.replicate pairs '\\')]
  if backslashes % 2 = 1 then literal ++ [.text ('[' :: inside ++ [']'])]
  else literal ++ [.tag (position + 2 * pairs) (.ofInside inside)]

/-- The text gathered so far, in reverse, as a piece. -/
def gathered (plain : List Char) : List Piece :=
  if plain.isEmpty then [] else [.text plain.reverse]

/-- The pieces of marked text from a position on, after the first `skip` characters, which are
left out. -/
def piecesAfter (position : Nat) (plain : List Char) : (skip : Nat) → List Char → List Piece
  | _, [] => gathered plain
  | skip + 1, _ :: rest => piecesAfter (position + 1) plain skip rest
  | 0, c :: rest =>
    let backslashes := ((c :: rest).takeWhile (· == '\\')).length
    match tagInside? ((c :: rest).drop backslashes) with
    | some inside =>
      gathered plain ++ tagPieces position backslashes inside ++
        piecesAfter (position + 1) [] (backslashes + inside.length + 1) rest
    | none => piecesAfter (position + 1) (c :: plain) 0 rest

/-- The pieces of marked text. -/
def pieces (cs : List Char) : List Piece :=
  piecesAfter 0 [] 0 cs

/-- Text without the backslashes that stand before opening brackets, one before each. -/
def withoutEscapes : List Char → List Char
  | '\\' :: '[' :: rest => '[' :: withoutEscapes rest
  | c :: rest => c :: withoutEscapes rest
  | [] => []

/-- Whether a character moves the cursor: bell, backspace, vertical tab, form feed or carriage
return. -/
def movesCursor (c : Char) : Bool :=
  c.toNat == 7 || c.toNat == 8 || c.toNat == 11 || c.toNat == 12 || c.toNat == 13

/-- What is shown of text without tags. -/
def shownText (cs : List Char) : List Char :=
  (withEmoji (withoutEscapes cs)).filter (!movesCursor ·)

/-- The open styles after a tag, the last one first. -/
def afterTag (styles : List String) (position : Nat) (t : Tag) : Except Error (List String) := do
  match t.name.toList with
  | '/' :: name =>
    let name := Text.stripWhere Text.isSpace name
    if name.isEmpty then
      match styles with
      | [] => .error (.nothingToClose position)
      | _ :: styles => .ok styles
    else
      let style ← normalStyle (String.ofList name)
      if styles.contains style then .ok (styles.erase style)
      else .error (.unmatchedTag t.written position)
  | _ => return (← normalStyle t.name) :: styles

/-- What is shown of pieces under open styles. -/
def shownPieces (styles : List String) : List Piece → Except Error (List Char)
  | [] => .ok []
  | .text cs :: rest => do return shownText cs ++ (← shownPieces styles rest)
  | .tag position t :: rest => do shownPieces (← afterTag styles position t) rest

/-- What is shown of marked text. -/
def shown (markup : String) : Except Error (List Char) :=
  shownPieces [] (pieces markup.toList)

end CodeGauge.Console
