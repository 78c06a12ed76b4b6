import CodeGauge.Console.Markup
import CodeGauge.Console.Width

/-!
# Lines and columns

Shown text is laid out in lines. A tab goes on to the next multiple of eight cells. In a column the
words of a line go on to the next line when they would reach too far, and a word that is wider than
the column is cut and ends in an ellipsis.
-/

namespace CodeGauge.Console

/-- Cut a text at every character that a condition holds of; there is always one piece more than
there are such characters. -/
def piecesBetween (p : Char → Bool) : List Char → List (List Char)
  | [] => [[]]
  | c :: cs => if p c then [] :: piecesBetween p cs else (piecesBetween p cs).modifyHead (c :: ·)

/-- The lines of a text. -/
def linesOf (cs : List Char) : List (List Char) :=
  piecesBetween (· == '\n') cs

/-- The distance between tab stops. -/
def tabStop : Nat := 8

/-- Pieces that tabs stood between, from a column on, with blanks up to the next tab stop in their
place. -/
def joinTabs (column : Nat) : List (List Char) → List Char
  | [] => []
  | [piece] => piece
  | piece :: rest =>
    let reached := column + width piece
    let next := (reached / tabStop + 1) * tabStop
    piece ++ List.replicate (next - reached) ' ' ++ joinTabs next rest

/-- A line without tabs. -/
def withoutTabs (line : List Char) : List Char :=
  joinTabs 0 (piecesBetween (· == '\t') line)

/-- The lines that are printed of marked text. -/
def printed (markup : String) : Except Error (List String) := do
  return (linesOf (← shown markup)).map fun line => String.ofList (withoutTabs line)

/-! ## Columns -/

/-- Whether a character ends a line when the width of a text is measured. -/
def endsLine (c : Char) : Bool :=
  let n := c.toNat
  (10 ≤ n && n ≤ 13) || (0x1c ≤ n && n ≤ 0x1e) || n == 0x85 || n == 0x2028 || n == 0x2029

/-- The cells of the widest line of a text. -/
def measured (cs : List Char) : Nat :=
  ((piecesBetween endsLine cs).map width).foldl max 0

/-- The words of a line, each with the spaces after it and the first one also with those before it.
A line of spaces has none. -/
def spacedWords (line : List Char) : List (List Char) :=
  match line.splitBy fun a b => !Text.isSpace a || Text.isSpace b with
  | first :: second :: rest =>
    if first.all Text.isSpace then (first ++ second) :: rest else first :: second :: rest
  | [first] => if first.all Text.isSpace then [] else [first]
  | [] => []

/-- A text without the spaces at its end. -/
def withoutTrailing (cs : List Char) : List Char :=
  (cs.reverse.dropWhile Text.isSpace).reverse

/-- Words on lines of so many cells, after a line that has reached a cell. A word that does not fit
behind what is there begins a line. -/
def wrapWords (columns : Nat) (line : List Char) (reached : Nat) :
    List (List Char) → List (List Char)
  | [] => [line]
  | word :: rest =>
    if line.isEmpty || reached + width (withoutTrailing word) ≤ columns then
      wrapWords columns (line ++ word) (reached + width word) rest
    else line :: wrapWords columns word (width word) rest

/-- A line without as many of the spaces at its end as it has characters too many. -/
def withoutExcess (columns : Nat) (line : List Char) : List Char :=
  let spaces := line.length - (withoutTrailing line).length
  line.take (line.length - min spaces (line.length - columns))

/-- A line of exactly so many cells: filled up with blanks, or cut and ended by an ellipsis. -/
def fitted (columns : Nat) (line : List Char) : List Char :=
  let w := width line
  if columns < w then cut line (columns - 1) ++ ['…']
  else line ++ List.replicate (columns - w) ' '

/-- The lines of a text in a column of so many cells. -/
def columnLines (columns : Nat) (cs : List Char) : List String :=
  (linesOf cs).flatMap fun line =>
    let line := withoutTabs line
    let wrapped :=
      match spacedWords line with
      | [] => [line]
      | words => wrapWords columns [] 0 words
    wrapped.map fun line => String.ofList (fitted columns (withoutExcess columns line))

end CodeGauge.Console
