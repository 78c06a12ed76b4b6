import CodeGauge.Text.NumberStyle
import CodeGauge.Text.Wide

/-!
# Decimal numbers in text

A decimal number is spelled by an optional sign, digits with at most one point among or around
them, and an optional power of ten after `e`. Blanks may stand around it. Only the ten digits of
ASCII count.

Its value is taken from the first digits that make an integer of 63 bits, times a power of ten with
64 significant bits, rounded at each step; so the last bit is not always that of the nearest number.
It is written with fifteen digits that are found in the same way.
-/

namespace CodeGauge.Text

/-- A blank that may stand around a number. -/
def isSpacing (c : Char) : Bool :=
  c == ' ' || (9 ≤ c.toNat && c.toNat ≤ 13)

/-- The value of a digit. -/
def digitOf (c : Char) : Nat :=
  c.toNat - '0'.toNat

/-- The number that digits spell. -/
def ofDecimalDigits (digits : List Char) : Nat :=
  digits.foldl (fun n c => 10 * n + digitOf c) 0

/-- A sign and what stands after it. -/
def readSign : List Char → Bool × List Char
  | '-' :: rest => (true, rest)
  | '+' :: rest => (false, rest)
  | rest => (false, rest)

/-! ## The value of digits -/

/-- The largest integer that has 63 bits. -/
def largestWord : Nat := 0x7fffffffffffffff

/-- Digits are collected as long as what they make is below this. -/
def collectedBelow : Nat := (largestWord - 9) / 10

/-- Digits collected into an integer, and the power of ten that it counts. -/
structure Collected where
  number : Nat
  power : Int

/-- Collect the digits before the point; one that is not taken raises the power. -/
def Collected.ofWhole (digits : List Char) : Collected :=
  digits.foldl (fun c digit =>
    if c.number < collectedBelow then { c with number := 10 * c.number + digitOf digit }
    else { c with power := c.power + 1 }) ⟨0, 0⟩

/-- Collect the digits after the point; one that is not taken is left out. -/
def Collected.withFraction (c : Collected) (digits : List Char) : Collected :=
  digits.foldl (fun c digit =>
    if c.number < collectedBelow then ⟨10 * c.number + digitOf digit, c.power - 1⟩ else c) c

/-- Multiply by ten as often as an integer of 63 bits allows, and the power of ten that is left. -/
def timesTen : (power : Nat) → Nat → Nat × Nat
  | 0, n => (n, 0)
  | power + 1, n => if largestWord / 10 ≤ n then (n, power + 1) else timesTen power (10 * n)

/-- Divide by ten as often as it goes without rest, and the power of ten that is left. -/
def overTen : (power : Nat) → Nat → Nat × Nat
  | 0, n => (n, 0)
  | power + 1, n => if n % 10 = 0 then overTen power (n / 10) else (n, power + 1)

/-- The largest power of ten that is taken in one step. -/
def largestPower : Nat := 307

/-- From this power of ten on a number is infinite, or zero. -/
def boundlessPower : Nat := 342

/-- The binary64 number for a positive one. A power that is too large is taken in two steps. -/
def Collected.toBinary64 (c : Collected) : Binary64 :=
  let up := 0 < c.power
  let (n, power) := if up then timesTen c.power.natAbs c.number else overTen c.power.natAbs c.number
  let scaled (power : Nat) : Binary64 :=
    let scale := Wide.powerOfTen power
    (if up then Wide.ofNat n * scale else Wide.ofNat n / scale).toBinary64
  let last := Nat.pow 10 (largestPower + 1)
  if c.number = 0 then .ofInt 0
  else if power = 0 then .ofInt n
  else if power ≤ largestPower then scaled power
  else if boundlessPower ≤ power then if up then .infinite false else .ofInt 0
  else
    let first := scaled (power - (largestPower + 1))
    let factor := Binary64.ofRatio last 1
    if up then first * factor else .signed false first.magnitude factor.magnitude

/-! ## Reading -/

/-- A number that was read: the nearest binary64 number that the steps give and, if it has neither
point nor power of ten, the integer. -/
structure SpelledNumber where
  integer : Option Int
  real : Binary64

/-- The powers of ten that are told apart. -/
def powerBound : Nat := 10000

/-- A power of ten that ends a number; nothing is the power zero. -/
def readPower? : List Char → Option Int
  | [] => some 0
  | c :: rest =>
    let (negative, digits) := readSign rest
    if (c == 'e' || c == 'E') && !digits.isEmpty && digits.all Char.isDigit then
      let power := digits.foldl (fun n d =>
        if n < powerBound then 10 * n + digitOf d else powerBound) 0
      some (if negative then -(power : Int) else power)
    else none

/-- The number that a text spells. -/
def readNumber? (s : String) : Option SpelledNumber := do
  let cs := ((s.toList.dropWhile isSpacing).reverse.dropWhile isSpacing).reverse
  let (negative, cs) := readSign cs
  let (whole, rest) := cs.span Char.isDigit
  let (fraction, tail) :=
    match rest with
    | '.' :: rest => rest.span Char.isDigit
    | rest => ([], rest)
  let power ← readPower? tail
  if whole.isEmpty && fraction.isEmpty then none
  else
    let collected := (Collected.ofWhole whole).withFraction fraction
    let magnitude := { collected with power := collected.power + power }.toBinary64
    let n : Int := ofDecimalDigits whole
    return {
      integer := if rest.isEmpty then some (if negative then -n else n) else none
      real := if negative then -magnitude else magnitude }

/-! ## Writing -/

/-- How many digits are written at most. -/
def writtenDigits : Nat := 15

/-- A power of ten as a binary64 number. -/
def exactPower (e : Nat) : Wide :=
  .ofBinary64 (.ofRatio (Nat.pow 10 e) 1)

/-- Half a unit of the last digit that is written. -/
def halfUnit : Wide :=
  .ofBinary64 (.ofRatio 5 (Nat.pow 10 5) * .ofRatio 1 (Nat.pow 10 10))

/-- The scale raised by a power of ten while the number is not below it, with the sum of the
powers. -/
def raised (x : Wide) (power : Nat) : (steps : Nat) → Wide → Int → Wide × Int
  | 0, scale, sum => (scale, sum)
  | steps + 1, scale, sum =>
    let next := exactPower power * scale
    if x.isLess next then (scale, sum) else raised x power steps next (sum + power)

/-- The number raised by a power of ten while it is below a bound, with the sum of the powers. -/
def raisedTo (bound : Wide) (power : Nat) : (steps : Nat) → Wide → Int → Wide × Int
  | 0, x, sum => (x, sum)
  | steps + 1, x, sum =>
    if x.isLess bound then raisedTo bound power steps (x * exactPower power) (sum - power)
    else (x, sum)

/-- Take so many digits off a number below ten. -/
def takeDigits : Nat → Wide → List Char
  | 0, _ => []
  | count + 1, x =>
    let digit := x.floor
    Char.ofNat ('0'.toNat + digit) :: takeDigits count ((x - .ofNat digit) * .ofNat 10)

/-- The decimal of a positive number that is written. -/
def rounded (x : Binary64) : Decimal :=
  let magnitude := Wide.ofBinary64 x
  let (scale, sum) := raised magnitude 100 4 (.ofNat 1) 0
  let (scale, sum) := raised magnitude 10 10 scale sum
  let (scale, sum) := raised magnitude 1 10 scale sum
  let x := magnitude / scale
  let (x, sum) := raisedTo (.ofBinary64 (.ofRatio 1 (Nat.pow 10 8))) 8 50 x sum
  let (x, sum) := raisedTo (.ofNat 1) 1 10 x sum
  let x := x + halfUnit
  let (x, sum) :=
    if x.isLess (.ofNat 10) then (x, sum) else (x * .ofBinary64 (.ofRatio 1 10), sum + 1)
  ⟨withoutFinalZeros (takeDigits writtenDigits x), sum⟩

end CodeGauge.Text

namespace CodeGauge

/-- A number as a column of texts keeps it; zero has no sign. -/
def Binary64.columnText (x : Binary64) : String :=
  if x.isFinite && x.magnitude == 0 then "0.0" else NumberStyle.column.write x Text.rounded

end CodeGauge
