import CodeGauge.Value

/-!
# Kinds of columns

A column of some kind turns what it is given into that kind as far as it goes, and keeps anything
else as it is. A column of numbers takes a text that spells a number for that number, and a whole
number for an integer; a column of reals gives integers back as reals; a column of texts takes a
number for its digits. What is no number at all is null everywhere.
-/

namespace CodeGauge

/-- A value as a parameter: no number at all is null. -/
def Value.bound : Value → Value
  | .real x => if x.isNaN then .null else .real x
  | v => v

/-- A number that is whole and strictly between the least and the largest integer that a column can
hold is that integer. -/
def Value.ofReal (x : Binary64) : Value :=
  if x.isFinite && x.isWhole && inColumn (x.truncate - 1) && inColumn (x.truncate + 1) then
    .int x.truncate
  else .real x

/-- A value where a number is due. -/
def Value.numeric (v : Value) : Value :=
  match v.bound with
  | .text s =>
    match Text.readNumber? s with
    | some r =>
      match r.integer.filter inColumn with
      | some n => .int n
      | none => .ofReal r.real
    | none => v
  | .real x => .ofReal x
  | v => v

/-- A value where a text is due. -/
def Value.textual (v : Value) : Value :=
  match v.bound with
  | .int n => .text (toString n)
  | .real x => .text x.columnText
  | v => v

/-- The text of a value where a text is due; null has none. -/
def Value.columnText? (v : Value) : Option String :=
  match v.textual with
  | .text s => some s
  | _ => none

/-- The kinds of columns. -/
inductive Affinity where
  | integer
  | real
  | numeric
  | text
  deriving DecidableEq, Repr

/-- What a column keeps of a value. A zero in a column of reals has no sign. -/
def Affinity.kept : Affinity → Value → Value
  | .integer, v | .numeric, v => v.numeric
  | .text, v => v.textual
  | .real, v =>
    match v.bound with
    | .int n => .real (.ofInt n)
    | .real x => .real (if x.magnitudeBits = 0 then ⟨0⟩ else x)
    | .text s =>
      match (Value.text s).numeric with
      | .int n => .real (.ofInt n)
      | v => v
    | .null => .null

/-- The integer key that a value equals, if it equals one. -/
def Value.key? (v : Value) : Option Int :=
  v.numeric.id?

end CodeGauge
