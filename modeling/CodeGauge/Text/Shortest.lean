import CodeGauge.Text.NumberStyle

/-!
# The fewest digits that read back

A binary64 number is written with the fewest significant digits from which reading gives it back,
and of the decimals with so many digits with the nearest one. Reading gives the number nearest to
a decimal.
-/

namespace CodeGauge

/-- The power of ten that the first significant digit of `num / den` counts, for positive
numbers. -/
def leadingExponent (num den : Nat) : Int :=
  if den ≤ num then ((toString (num / den)).length : Int) - 1
  else -Int.ofNat (((List.range 400).find? fun k => den ≤ num * Nat.pow 10 k).getD 0)

/-- `num / den` counted in the unit `10 ^ unit`, as a quotient. -/
def inUnits (num den : Nat) (unit : Int) : Nat × Nat :=
  if 0 ≤ unit then (num, den * Nat.pow 10 unit.toNat)
  else (num * Nat.pow 10 (-unit).toNat, den)

/-- The number nearest to `q` times a power of ten. -/
def ofUnits (q : Nat) (unit : Int) : Binary64 :=
  if 0 ≤ unit then .ofRatio (q * Nat.pow 10 unit.toNat) 1
  else .ofRatio q (Nat.pow 10 (-unit).toNat)

/-- Of the two decimals with `count` digits around a positive number, those that read back as the
magnitude `bits`, the nearer one first; a tie goes to the even one. -/
def readingBack (x : Binary64) (num den count : Nat) : Option (Nat × Int) :=
  let unit := leadingExponent num den - (count - 1)
  let (n, d) := inUnits num den unit
  let below := n / d
  let order := if 2 * (n % d) < d ∨ (2 * (n % d) = d ∧ below % 2 = 0) then [below, below + 1]
    else [below + 1, below]
  (order.find? fun q => ofUnits q unit == x).map (·, unit)

/-- The shortest decimal of a positive number. -/
def shortest (x : Binary64) : Decimal :=
  let found := (List.range 17).findSome? fun k =>
    readingBack x x.magnitude Binary64.unitsPerOne (k + 1)
  let (q, unit) := found.getD (0, 0)
  let digits := (toString q).toList
  ⟨withoutFinalZeros digits, unit + (digits.length - 1)⟩

/-- A number as text, with the fewest digits that read back. -/
def Binary64.text (x : Binary64) (style : NumberStyle) : String :=
  style.write x shortest

/-- Beyond so many powers of ten more than it has digits, a decimal is infinite or zero. -/
def farthestPower : Nat := 400

/-- The number nearest to so many times a power of ten. -/
def nearestTo (negative : Bool) (digits : List Char) (power : Int) : Binary64 :=
  let bound : Int := farthestPower + digits.length
  let n := digits.foldl (fun n c => 10 * n + (c.toNat - '0'.toNat)) 0
  let power := max (-bound) (min bound power)
  if power < 0 then .signed negative n (Nat.pow 10 power.natAbs)
  else .signed negative (n * Nat.pow 10 power.natAbs) 1

/-- The number nearest to the decimal that a text spells in a style. -/
def Binary64.ofText? (style : NumberStyle) (s : String) : Option Binary64 := do
  let (negative, cs) := match s.toList with
    | '-' :: cs => (true, cs)
    | cs => (false, cs)
  if String.ofList cs = style.infinity then return .infinite negative
  if s = style.notANumber then return ⟨0x7ff8000000000000⟩
  let (written, power) := cs.span (· != 'e')
  let (whole, fraction) := written.span (· != '.')
  let fraction := fraction.drop 1
  guard ((whole ++ fraction).all Char.isDigit && !whole.isEmpty)
  let power ← if power.isEmpty then pure 0
    else (String.ofList ((power.drop 1).dropWhile (· == '+'))).toInt?
  return nearestTo negative (whole ++ fraction) (power - fraction.length)

end CodeGauge
