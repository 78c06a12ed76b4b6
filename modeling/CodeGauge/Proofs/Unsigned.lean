import CodeGauge.Metrics.Measure
import CodeGauge.Store.Affinity
import Mathlib.Algebra.Group.Nat.Defs

/-!
# Numbers that no column changes

A number without a sign that is at most infinite is kept by a column of reals as it is. Counts are
such numbers, and so are the sizes and scores computed from them. An integer that a column can hold,
and even the difference of two of them, is a finite number.
-/

namespace CodeGauge

/-- Rounding adds at most one. -/
theorem roundedQuotient_le (num den : Nat) : roundedQuotient num den ≤ num / den + 1 := by
  rw [roundedQuotient]
  split
  · exact Nat.le_succ _
  split
  · exact Nat.le_refl _
  · have := Nat.mod_lt (num / den) (show 0 < 2 by decide)
    omega

namespace Binary64

variable {x y : Binary64}

/-- The number has no sign and is at most infinite. -/
def Unsigned (x : Binary64) : Prop :=
  x.bits.toNat ≤ infinityBits

private theorem Unsigned.lt_signBit (h : x.Unsigned) : x.bits.toNat < signBit :=
  Nat.lt_of_le_of_lt h (by decide)

private theorem Unsigned.isNegative (h : x.Unsigned) : x.isNegative = false := by
  rw [Binary64.isNegative, decide_eq_false_iff_not, Nat.not_le]
  exact h.lt_signBit

private theorem Unsigned.isNaN (h : x.Unsigned) : x.isNaN = false := by
  rw [Unsigned] at h
  rw [Binary64.isNaN, decide_eq_false_iff_not, magnitudeBits]
  have := Nat.mod_le x.bits.toNat signBit
  omega

private theorem Unsigned.units_nonneg (h : x.Unsigned) : 0 ≤ x.units := by
  rw [units, h.isNegative, if_neg Bool.false_ne_true]
  exact Int.natCast_nonneg _

private theorem unsigned_signed (num den : Nat) : (signed false num den).Unsigned := by
  have bound : nearestBits (num * unitsPerOne) den ≤ infinityBits := Nat.min_le_left ..
  change (0 + nearestBits (num * unitsPerOne) den).toUInt64.toNat ≤ infinityBits
  rw [Nat.zero_add, Nat.toUInt64_eq, UInt64.toNat_ofNat']
  exact Nat.le_trans (Nat.mod_le ..) bound

/-- The number nearest to a ratio that is not negative has no sign. -/
theorem unsigned_ofRatio {num : Int} (h : 0 ≤ num) (den : Nat) : (ofRatio num den).Unsigned := by
  rw [ofRatio, decide_eq_false (by omega)]
  exact unsigned_signed ..

/-- The number nearest to an integer that is not negative has no sign. -/
theorem unsigned_ofInt {n : Int} (h : 0 ≤ n) : (ofInt n).Unsigned :=
  unsigned_ofRatio h 1

/-- A quotient by a natural number has no sign if the number has none. -/
theorem Unsigned.divNat (h : x.Unsigned) (n : Nat) : (x.divNat n).Unsigned := by
  rw [Binary64.divNat, h.isNegative]
  split
  · exact unsigned_signed ..
  · exact h

/-- A sum has no sign if neither number has one. -/
theorem Unsigned.add (hx : x.Unsigned) (hy : y.Unsigned) : (x + y).Unsigned := by
  change (Binary64.add x y).Unsigned
  rw [Binary64.add, hx.isNaN, hy.isNaN, hx.isNegative, hy.isNegative]
  have hux := hx.units_nonneg
  have huy := hy.units_nonneg
  simp only [Bool.false_eq_true, if_false]
  split
  · split
    · exact unsigned_signed ..
    · exact unsigned_ofRatio (by omega) _
  · split
    · exact hy
    · split
      · exact hx
      · simp_all

/-- A product of finite numbers has no sign if neither has one. -/
theorem Unsigned.mul (hx : x.Unsigned) (hy : y.Unsigned) (fx : x.isFinite) (fy : y.isFinite) :
    (x * y).Unsigned := by
  change (Binary64.mul x y).Unsigned
  rw [Binary64.mul, hx.isNaN, hy.isNaN, hx.isNegative, hy.isNegative, fx, fy]
  exact unsigned_signed ..

/-- A column of reals keeps such a number as it is. -/
theorem Unsigned.kept (h : x.Unsigned) : Affinity.real.kept (.real x) = .real x := by
  have bound : (Value.real x).bound = .real x := by
    rw [Value.bound, h.isNaN, if_neg Bool.false_ne_true]
  rw [Affinity.kept, bound]
  simp only [Value.real.injEq]
  split
  · rename_i zero
    rw [magnitudeBits, Nat.mod_eq_of_lt h.lt_signBit, ← UInt64.toNat_zero,
      UInt64.toNat_inj] at zero
    cases x
    cases zero
    rfl
  · rfl

/-! ## Finite numbers -/

/-- An integer with a nearest number that is finite gives that number. -/
theorem ofInt?_eq_some {n : Int} (h : ofInt? n = some x) : x = ofInt n ∧ x.isFinite := by
  rw [ofInt?] at h
  split at h
  · cases h
    exact ⟨rfl, ‹_›⟩
  · cases h

/-- Only numbers near the largest finite one are rounded to infinity. -/
theorem nearestBits_lt {num den bits : Nat} (small : num / den < 2 ^ bits) (few : bits ≤ 2000) :
    nearestBits num den < infinityBits := by
  rw [nearestBits]
  generalize hshift : (num / den).log2 - 52 = shift
  have log : (num / den).log2 ≤ bits := by
    rcases Nat.eq_zero_or_pos (num / den) with zero | positive
    · rw [zero]
      exact Nat.zero_le _
    · exact Nat.le_of_lt ((Nat.log2_lt (by omega)).mpr small)
  have quotient : num / (den <<< shift) < 2 ^ 53 := by
    rw [Nat.shiftLeft_eq, ← Nat.div_div_eq_div_mul, Nat.div_lt_iff_lt_mul (Nat.two_pow_pos _),
      ← Nat.pow_add]
    apply Nat.lt_of_lt_of_le Nat.lt_log2_self
    exact Nat.pow_le_pow_right (by decide) (by omega)
  have rounded := roundedQuotient_le num (den <<< shift)
  have scaled : shift * exponentBit ≤ 1948 * exponentBit := Nat.mul_le_mul_right _ (by omega)
  simp only [exponentBit, infinityBits] at *
  omega

/-- An integer of fewer than 66 bits is a finite number. -/
theorem isFinite_ofInt {n : Int} (small : n.natAbs < 2 ^ 66) : (ofInt n).isFinite = true := by
  have scaled : n.natAbs * unitsPerOne / 1 < 2 ^ (66 + 1074) := by
    rw [Nat.div_one, unitsPerOne]
    generalize 1074 = places
    rw [Nat.shiftLeft_eq, Nat.one_mul, Nat.pow_add]
    exact Nat.mul_lt_mul_of_pos_right small (Nat.two_pow_pos _)
  have finite := nearestBits_lt scaled (by decide)
  have low : infinityBits < signBit := by decide
  rw [ofInt, ofRatio, signed, isFinite, magnitudeBits, decide_eq_true_eq]
  dsimp only
  rw [Nat.toUInt64_eq, UInt64.toNat_ofNat']
  generalize nearestBits (n.natAbs * unitsPerOne) 1 = bits at finite
  split
  · simp only [infinityBits, signBit, exponentBit] at *
    omega
  · simp only [infinityBits, signBit, exponentBit] at *
    omega

/-- An integer of fewer than 66 bits can be computed with. -/
theorem ofInt?_eq_ofInt {n : Int} (small : n.natAbs < 2 ^ 66) : ofInt? n = some (ofInt n) := by
  rw [ofInt?]
  exact if_pos (isFinite_ofInt small)

end Binary64

end CodeGauge
