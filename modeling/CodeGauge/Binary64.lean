/-!
# Binary64 numbers

A number of the 64-bit binary interchange format, kept as its bits. A finite number is a whole
multiple of 2⁻¹⁰⁷⁴, the least positive one, so its value is an integer count of that unit, and every
operation here is an exact one on integers followed by one rounding: to the nearest number, a tie to
the one whose last bit is zero, and to an infinity beyond the largest finite one. Besides there are
two infinities and bits that are no number at all, which stay what they are in every operation.
-/

namespace CodeGauge

/-- The nearest integer to `num / den`, a tie to the even one. -/
def roundedQuotient (num den : Nat) : Nat :=
  let q := num / den
  let twice := 2 * (num % den)
  if twice < den then q
  else if den < twice then q + 1
  else q + q % 2

/-- A binary64 number by its bits: sign, eleven bits of exponent, fifty-two of fraction. -/
structure Binary64 where
  bits : UInt64
  deriving DecidableEq, Repr, Inhabited

namespace Binary64

/-- How many of the least positive number make one. -/
def unitsPerOne : Nat := 1 <<< 1074

/-- The bit of the sign. -/
def signBit : Nat := 0x8000000000000000

/-- One in the field of the exponent, which is the bit above the fraction. -/
def exponentBit : Nat := 0x10000000000000

/-- The bits below the sign. -/
def magnitudeBits (x : Binary64) : Nat :=
  x.bits.toNat % signBit

/-- Whether the sign bit is set. -/
def isNegative (x : Binary64) : Bool :=
  signBit ≤ x.bits.toNat

/-- The bits of infinity, which bound those of the finite magnitudes. -/
def infinityBits : Nat := 2047 * exponentBit

/-- Finite numbers have an exponent below the largest. -/
def isFinite (x : Binary64) : Bool :=
  x.magnitudeBits < infinityBits

/-- No number at all. -/
def isNaN (x : Binary64) : Bool :=
  infinityBits < x.magnitudeBits

/-- How many of the least positive number make the magnitude of a finite number. -/
def magnitude (x : Binary64) : Nat :=
  let exponent := x.magnitudeBits / exponentBit
  let fraction := x.magnitudeBits % exponentBit
  if exponent = 0 then fraction else (exponentBit + fraction) <<< (exponent - 1)

/-- How many of the least positive number make a finite number. -/
def units (x : Binary64) : Int :=
  if x.isNegative then -(x.magnitude : Int) else x.magnitude

/-- The magnitude bits of the number nearest to `num / den` least positive numbers. A number of
`2 ^ shift` units at the last place has `shift` added to its exponent, and a carry into the exponent
is right. -/
def nearestBits (num den : Nat) : Nat :=
  let shift := (num / den).log2 - 52
  min infinityBits (shift * exponentBit + roundedQuotient num (den <<< shift))

/-- The number nearest to `num / den` with a given sign, which shows also where it is zero. -/
def signed (negative : Bool) (num den : Nat) : Binary64 :=
  ⟨((if negative then signBit else 0) + nearestBits (num * unitsPerOne) den).toUInt64⟩

/-- The number nearest to `num / den`. -/
def ofRatio (num : Int) (den : Nat) : Binary64 :=
  signed (num < 0) num.natAbs den

/-- The number nearest to an integer. -/
def ofInt (n : Int) : Binary64 :=
  ofRatio n 1

/-- The number nearest to an integer, if the integer is not beyond the finite numbers. -/
def ofInt? (n : Int) : Option Binary64 :=
  let x := ofInt n
  if x.isFinite then some x else none

/-- The result of an operation that has none. -/
def invalid : Binary64 := ⟨0xfff8000000000000⟩

/-- The number with the other sign. -/
def neg (x : Binary64) : Binary64 :=
  ⟨x.bits ^^^ 0x8000000000000000⟩

/-- Infinity with a given sign. -/
def infinite (negative : Bool) : Binary64 :=
  ⟨((if negative then signBit else 0) + infinityBits).toUInt64⟩

/-- The sum of two numbers. That of two zeros is negative if both are. -/
def add (x y : Binary64) : Binary64 :=
  if x.isNaN then x
  else if y.isNaN then y
  else if x.isFinite && y.isFinite then
    let sum := x.units + y.units
    if sum = 0 then signed (x.isNegative && y.isNegative) 0 1 else ofRatio sum unitsPerOne
  else if x.isFinite then y
  else if y.isFinite || x.isNegative == y.isNegative then x
  else invalid

/-- The product of two numbers. -/
def mul (x y : Binary64) : Binary64 :=
  let negative := x.isNegative != y.isNegative
  if x.isNaN then x
  else if y.isNaN then y
  else if x.isFinite && y.isFinite then
    signed negative (x.magnitude * y.magnitude) (unitsPerOne * unitsPerOne)
  else if x.magnitudeBits = 0 ∨ y.magnitudeBits = 0 then invalid
  else infinite negative

/-- A number divided by a positive integer. -/
def divNat (x : Binary64) (n : Nat) : Binary64 :=
  if x.isFinite then signed x.isNegative x.magnitude (unitsPerOne * n) else x

/-- Addition, rounded to the nearest number. -/
instance : Add Binary64 := ⟨add⟩
/-- Multiplication, rounded to the nearest number. -/
instance : Mul Binary64 := ⟨mul⟩
/-- Change of sign. -/
instance : Neg Binary64 := ⟨neg⟩
/-- Subtraction, as addition of the opposite. -/
instance : Sub Binary64 := ⟨fun x y => x + -y⟩

/-- The integer part of a finite number. -/
def truncate (x : Binary64) : Int :=
  x.units.tdiv unitsPerOne

/-- Whether a finite number is an integer. -/
def isWhole (x : Binary64) : Bool :=
  x.units % unitsPerOne == 0

/-- How an integer compares with a number. -/
def compareInt (n : Int) (x : Binary64) : Ordering :=
  if x.isFinite then compare (n * unitsPerOne) x.units
  else if x.isNegative then .gt
  else .lt

/-- An integer that orders numbers by value and takes the two zeros for one. -/
def orderKey (x : Binary64) : Int :=
  if x.isNegative then -(x.magnitudeBits : Int) else x.magnitudeBits

/-- The decimal digits of `n`, with at least one before and exactly `places` after the point. -/
def placeDigits (n places : Nat) : String :=
  let digits := (toString n).toList
  let digits := List.replicate (places + 1 - digits.length) '0' ++ digits
  let whole := digits.length - places
  String.ofList (digits.take whole ++ '.' :: digits.drop whole)

/-- The exact value rounded to so many decimal places, a tie to the even digit. -/
def toFixed (x : Binary64) (places : Nat) : String :=
  let sign := if x.isNegative then "-" else ""
  if x.isNaN then "nan"
  else if x.isFinite then
    sign ++ placeDigits (roundedQuotient (x.magnitude * Nat.pow 10 places) unitsPerOne) places
  else sign ++ "inf"

end Binary64

end CodeGauge
