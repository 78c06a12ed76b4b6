import CodeGauge.Binary64

/-!
# Numbers with 64 significant bits

Between a decimal text and a binary64 number stand numbers that are wider: an integer of at most 64
bits times a power of two. Every operation is exact and then rounded once, to the nearest such
number, a tie to the one whose last bit is zero. Powers of two have no bounds here.
-/

namespace CodeGauge.Text

/-- The number `significand * 2 ^ exponent`. -/
structure Wide where
  significand : Nat
  exponent : Int
  deriving DecidableEq, Repr

namespace Wide

/-- How many bits a significand has. -/
def precision : Nat := 64

/-- `num / den` times a power of two, as a quotient. -/
def shifted (num den : Nat) (power : Int) : Nat × Nat :=
  if 0 ≤ power then (num <<< power.toNat, den) else (num, den <<< (-power).toNat)

/-- The number nearest to `num / den * 2 ^ exponent`. -/
def ofRatio (num den : Nat) (exponent : Int) : Wide :=
  if num = 0 then ⟨0, 0⟩
  else
    let power : Int := precision + den.log2 - num.log2
    let (n, d) := shifted num den power
    if n / d < 1 <<< precision then ⟨roundedQuotient n d, exponent - power⟩
    else ⟨roundedQuotient n (2 * d), exponent - power + 1⟩

/-- An integer. -/
def ofNat (n : Nat) : Wide :=
  ofRatio n 1 0

/-- The magnitude of a finite binary64 number. -/
def ofBinary64 (x : Binary64) : Wide :=
  let exponent : Nat := x.magnitudeBits / Binary64.exponentBit
  let fraction : Nat := x.magnitudeBits % Binary64.exponentBit
  if exponent = 0 then ⟨fraction, -1074⟩
  else ⟨Binary64.exponentBit + fraction, (exponent : Int) - 1075⟩

/-- The significands of two numbers at one power of two, and the power. -/
def aligned (a b : Wide) : Nat × Nat × Int :=
  let exponent := min a.exponent b.exponent
  (a.significand <<< (a.exponent - exponent).toNat,
    b.significand <<< (b.exponent - exponent).toNat,
    exponent)

/-- Whether a number is less than another. -/
def isLess (a b : Wide) : Bool :=
  let (m, n, _) := aligned a b
  m < n

/-- The integer part. -/
def floor (a : Wide) : Nat :=
  let (n, d) := shifted a.significand 1 a.exponent
  n / d

/-- The binary64 number nearest to a number. -/
def toBinary64 (a : Wide) : Binary64 :=
  let (n, d) := shifted a.significand 1 a.exponent
  .signed false n d

/-- The sum, rounded to a wide number. -/
instance : Add Wide := ⟨fun a b =>
  let (m, n, exponent) := aligned a b
  ofRatio (m + n) 1 exponent⟩

/-- The difference, rounded to a wide number. -/
instance : Sub Wide := ⟨fun a b =>
  let (m, n, exponent) := aligned a b
  ofRatio (m - n) 1 exponent⟩

/-- The product, rounded to a wide number. -/
instance : Mul Wide :=
  ⟨fun a b => ofRatio (a.significand * b.significand) 1 (a.exponent + b.exponent)⟩

/-- The quotient, rounded to a wide number. -/
instance : Div Wide := ⟨fun a b => ofRatio a.significand b.significand (a.exponent - b.exponent)⟩

/-- A product of powers of ten, each the square of the one before, for the bits of `e` from the
last on. -/
def powerOfTenFrom (square : Wide) (found : Wide) (e : Nat) : Wide :=
  let found := if e % 2 = 1 then found * square else found
  if h : e / 2 = 0 then found else powerOfTenFrom (square * square) found (e / 2)
termination_by e
decreasing_by omega

/-- A power of ten, rounded at each product. -/
def powerOfTen (e : Nat) : Wide :=
  powerOfTenFrom (ofNat 10) (ofNat 1) e

end Wide

end CodeGauge.Text
