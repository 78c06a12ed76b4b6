import CodeGauge.Digest.Sha256
import CodeGauge.Value

/-!
# Measures of size and coupling

A content's exact size is its line count and its cheap size one line for every forty bytes. A file's
score weighs its lines by a tenth, edges into it by a half and edges out of it by three tenths, each
product and sum rounded on its own, from left to right. Follows sections 3 and 4.1 of the
specification.
-/

namespace CodeGauge

/-- The lines of a content: its line feeds and one more. -/
def countLines (content : ByteArray) : Int :=
  content.data.count 10 + 1

/-- How many bytes count as a line. -/
def bytesPerLine : Nat := 40

/-- The cheap size of so many bytes. -/
def estimateLines (bytes : Value) : Except Error Binary64 :=
  return (← bytes.toBinary64).divNat bytesPerLine

/-- The weight of a line. -/
def lineWeight : Binary64 := .ofRatio 1 10

/-- The weight of an edge into the file. -/
def fanInWeight : Binary64 := .ofRatio 1 2

/-- The weight of an edge out of the file. -/
def fanOutWeight : Binary64 := .ofRatio 3 10

/-- A count times its weight. -/
def weighted (count : Value) (weight : Binary64) : Except Error Binary64 :=
  return (← count.toBinary64) * weight

/-- The score that lines, edges in and edges out give. -/
def complexity (loc fanIn fanOut : Value) : Except Error Binary64 := do
  let lines ← weighted loc lineWeight
  let into ← weighted fanIn fanInWeight
  let out ← weighted fanOut fanOutWeight
  return lines + into + out

end CodeGauge
