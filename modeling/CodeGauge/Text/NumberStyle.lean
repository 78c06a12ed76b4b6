import CodeGauge.Binary64

/-!
# Ways to write a number

A decimal is written with a point among its digits and at least one digit after it while the number
is neither small nor large, and with a power of ten otherwise. From which size on it is large,
whether a lone digit before the power has a point, and how what is not finite is called belongs to
the style.
-/

namespace CodeGauge

/-- Significant digits and the power of ten that the first one counts. -/
structure Decimal where
  digits : List Char
  exponent : Int
  deriving DecidableEq, Repr

/-- A way to write numbers. -/
structure NumberStyle where
  largeFrom : Int
  pointBeforePower : Bool
  infinity : String
  notANumber : String

namespace NumberStyle

/-- In documents: large from 10¹⁶ on. -/
def document : NumberStyle := ⟨16, false, "Infinity", "NaN"⟩

/-- In lines for readers: large from 10¹⁶ on. -/
def line : NumberStyle := ⟨16, false, "inf", "nan"⟩

/-- In columns of texts: large from 10¹⁵ on, and always with a point. -/
def column : NumberStyle := ⟨15, true, "Inf", "NaN"⟩

end NumberStyle

/-- Digits with a point after the first `whole` of them; missing ones are zeros. -/
def withPoint (digits : List Char) (whole : Nat) : List Char :=
  let front := digits.take whole ++ List.replicate (whole - digits.length) '0'
  let back := digits.drop whole
  front ++ '.' :: (if back.isEmpty then ['0'] else back)

/-- Digits without the zeros at their end. -/
def withoutFinalZeros (digits : List Char) : List Char :=
  (digits.reverse.dropWhile (· == '0')).reverse

/-- A decimal as text. Numbers below 10⁻⁴ are small. -/
def Decimal.text (d : Decimal) (style : NumberStyle) : List Char :=
  if -4 ≤ d.exponent ∧ d.exponent < 0 then
    '0' :: '.' :: List.replicate ((-d.exponent).toNat - 1) '0' ++ d.digits
  else if 0 ≤ d.exponent ∧ d.exponent < style.largeFrom then
    withPoint d.digits (d.exponent.toNat + 1)
  else
    let pointed := style.pointBeforePower || 1 < d.digits.length
    let written := if pointed then withPoint d.digits 1 else d.digits
    let power := (toString d.exponent.natAbs).toList
    written ++ 'e' :: (if d.exponent < 0 then '-' else '+') ::
      (List.replicate (2 - power.length) '0' ++ power)

/-- A number as text, given the decimal for its magnitude. Zero is no decimal. -/
def NumberStyle.write (style : NumberStyle) (x : Binary64) (decimal : Binary64 → Decimal) :
    String :=
  if x.isNaN then style.notANumber
  else
    let sign := if x.isNegative then ['-'] else []
    let magnitude : Binary64 := ⟨x.magnitudeBits.toUInt64⟩
    let body :=
      if !x.isFinite then style.infinity.toList
      else if x.magnitude = 0 then "0.0".toList
      else (decimal magnitude).text style
    String.ofList (sign ++ body)

end CodeGauge
