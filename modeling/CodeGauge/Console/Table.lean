import CodeGauge.Console.Layout

/-!
# Tables drawn with lines

A table has a header row between heavy lines and the other rows between light ones. Its cells are
marked text. Every cell starts one blank after the line on its left, and a column is as wide as its
widest cell, where a tab is not counted. A row is as high as its highest cell.
-/

namespace CodeGauge

/-- A header and rows of cells. -/
structure TextTable where
  header : List String
  rows : List (List String)

/-- The four marks that draw one kind of horizontal line: left end, line, crossing, right end. -/
structure Rule where
  left : Char
  line : Char
  cross : Char
  right : Char

namespace TextTable

/-- The line above the header. -/
def topRule : Rule := ⟨'┏', '━', '┳', '┓'⟩

/-- The line between the header and the rows. -/
def headerRule : Rule := ⟨'┡', '━', '╇', '┩'⟩

/-- The line below the last row. -/
def bottomRule : Rule := ⟨'└', '─', '┴', '┘'⟩

/-- The columns of a table, the header's cell first in each. -/
def columns (t : TextTable) : List (List String) :=
  (List.range t.header.length).map fun i => (t.header :: t.rows).map fun row => row.getD i ""

/-- What is shown of every cell, column by column. -/
def shownColumns (t : TextTable) : Except Error (List (List (List Char))) :=
  t.columns.mapM fun column => column.mapM Console.shown

/-- A column with every cell in lines of the column's width. -/
structure DrawnColumn where
  width : Nat
  cells : List (List String)

/-- Lay a column out. -/
def drawColumn (column : List (List Char)) : DrawnColumn :=
  let width := (column.map Console.measured).foldl max 0
  ⟨width, column.map (Console.columnLines width)⟩

/-- A horizontal line over columns of the given widths. -/
def drawRule (rule : Rule) (widths : List Nat) : String :=
  let spans := widths.map fun w => String.ofList (List.replicate (w + 2) rule.line)
  rule.left.toString ++ String.intercalate rule.cross.toString spans ++ rule.right.toString

/-- The lines of the row at an index between vertical lines. -/
def drawRow (bar : Char) (columns : List DrawnColumn) (index : Nat) : List String :=
  let cells := columns.map fun column => (column.width, column.cells.getD index [])
  let height := (cells.map fun (_, lines) => lines.length).foldl max 0
  (List.range height).map fun i =>
    let parts := cells.map fun (width, lines) =>
      " " ++ lines.getD i (String.ofList (List.replicate width ' ')) ++ " "
    bar.toString ++ String.intercalate bar.toString parts ++ bar.toString

/-- The lines of the drawn table. -/
def draw (t : TextTable) : Except Error (List String) := do
  let columns := (← t.shownColumns).map drawColumn
  let widths := columns.map (·.width)
  return drawRule topRule widths :: drawRow '┃' columns 0 ++ drawRule headerRule widths ::
    (List.range t.rows.length).flatMap (fun i => drawRow '│' columns (i + 1)) ++
    [drawRule bottomRule widths]

end TextTable

end CodeGauge
