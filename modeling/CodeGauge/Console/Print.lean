import CodeGauge.Console.Table

/-!
# Printing

What a command shows is printed item by item. An item whose text is marked wrongly, or that could
not be computed, ends the printing; what was printed before it stays.
-/

namespace CodeGauge

/-- An item to print: marked text or a table. -/
inductive Shown where
  | line (markup : String)
  | table (t : TextTable)

/-- Marked text that needs no computing. -/
def shownLine (markup : String) : Except Error Shown :=
  .ok (.line markup)

/-- The lines of an item. -/
def Shown.lines : Shown → Except Error (List String)
  | .line markup => Console.printed markup
  | .table t => t.draw

/-- The lines that were printed and the error that ended the printing, if one did. -/
structure Printed where
  lines : List String
  failure : Option Error := none

/-- Print items up to the first that fails. -/
def Printed.ofItems : List (Except Error Shown) → Printed
  | [] => ⟨[], none⟩
  | item :: rest =>
    match item.bind Shown.lines with
    | .error e => ⟨[], some e⟩
    | .ok lines =>
      let others := Printed.ofItems rest
      ⟨lines ++ others.lines, others.failure⟩

end CodeGauge
