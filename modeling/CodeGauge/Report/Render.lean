import CodeGauge.Report.Json
import CodeGauge.Text.Quoted
import CodeGauge.Text.Shortest

/-!
# Documents as text

A document is written on one line, with a blank after every comma and colon. Outside the printable
characters of ASCII a character is written by the numbers of its UTF-16 units.
-/

namespace CodeGauge.Json

/-- A UTF-16 unit by its number. -/
def writeUnit (n : Nat) : List Char :=
  '\\' :: 'u' :: Text.hexDigits n 4

/-- A character within a text. -/
def writeChar (c : Char) : List Char :=
  let n := c.toNat
  if c == '"' || c == '\\' then ['\\', c]
  else if c == '\n' then ['\\', 'n']
  else if c == '\r' then ['\\', 'r']
  else if c == '\t' then ['\\', 't']
  else if n == 8 then ['\\', 'b']
  else if n == 12 then ['\\', 'f']
  else if 0x20 ≤ n && n < 0x7f then [c]
  else if n < 0x10000 then writeUnit n
  else writeUnit (0xd800 + (n - 0x10000) / 0x400) ++ writeUnit (0xdc00 + (n - 0x10000) % 0x400)

/-- A text between double quotes. -/
def writeText (s : String) : String :=
  String.ofList ('"' :: s.toList.flatMap writeChar ++ ['"'])

mutual

/-- A document on one line. -/
def render : Json → String
  | .null => "null"
  | .bool b => if b then "true" else "false"
  | .int n => toString n
  | .real x => x.text .document
  | .text s => writeText s
  | .list items => "[" ++ String.intercalate ", " (renderItems items) ++ "]"
  | .object members => "\x7b" ++ String.intercalate ", " (renderMembers members) ++ "\x7d"

/-- The items of a list. -/
def renderItems : List Json → List String
  | [] => []
  | d :: rest => d.render :: renderItems rest

/-- The members of an object. -/
def renderMembers : List (String × Json) → List String
  | [] => []
  | (key, d) :: rest => (writeText key ++ ": " ++ d.render) :: renderMembers rest

end

end CodeGauge.Json
