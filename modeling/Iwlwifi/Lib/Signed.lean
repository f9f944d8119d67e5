import Mathlib.Algebra.Order.Ring.Int
import Mathlib.Data.Nat.Init

/-!
# Signed integers and their bit patterns

A signed machine integer that is converted to the unsigned type of its width keeps its bits.
What is not below zero keeps its value, and what is below zero becomes a large number.
-/

namespace Iwlwifi.Lib

theorem toInt_eq_toUInt16 (x : Int16) : x.toInt = (x.toUInt16.toNat : Int).bmod (2 ^ 16) := by
  rw [← Int16.toInt_toBitVec, BitVec.toInt_eq_toNat_bmod, Int16.toNat_toBitVec]

theorem toNat_toUInt16_of_nonneg {x : Int16} (nonneg : ¬x < 0) :
    (x.toUInt16.toNat : Int) = x.toInt := by
  rw [Int16.toNat_toUInt16_of_le (Int16.not_lt.mp nonneg)]
  exact Int.toNat_of_nonneg (Int16.le_iff_toInt_le.mp (Int16.not_lt.mp nonneg))

theorem toNat_toUInt32_of_nonneg {x : Int32} (nonneg : ¬x < 0) :
    (x.toUInt32.toNat : Int) = x.toInt := by
  rw [Int32.toNat_toUInt32_of_le (Int32.not_lt.mp nonneg)]
  exact Int.toNat_of_nonneg (Int32.le_iff_toInt_le.mp (Int32.not_lt.mp nonneg))

/-- An unsigned integer below the sign bit keeps its value too. -/
theorem toInt_toInt32_of_lt {x : UInt32} (small : x.toNat < 2 ^ 31) :
    x.toInt32.toInt = x.toNat := by
  have bits : x.toInt32.toInt = x.toBitVec.toInt := rfl
  rw [bits, BitVec.toInt_eq_toNat_of_lt, UInt32.toNat_toBitVec]
  rw [UInt32.toNat_toBitVec]
  omega

/-- The quotient of two numbers that are not below zero. -/
theorem toInt_div_of_nonneg {a b : Int32} (num : 0 ≤ a.toInt) (den : 0 ≤ b.toInt) :
    (a / b).toInt = a.toInt / b.toInt := by
  have proper : b ≠ -1 := by
    intro same
    rw [same] at den
    exact absurd den (by decide)
  rw [Int32.toInt_div_of_ne_right a b proper, Int.tdiv_eq_ediv_of_nonneg num]

end Iwlwifi.Lib
