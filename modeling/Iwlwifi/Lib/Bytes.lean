import Mathlib.Algebra.Order.Ring.Nat
import Mathlib.Tactic.Ring

/-!
# Byte strings as numbers

`memcmp` compares byte strings from the first byte on, which for strings of one length is
the comparison of the big-endian numbers they spell.
-/

namespace Iwlwifi.Lib

/-- The number a byte string spells, most significant byte first. -/
def bigEndian : List UInt8 → Nat
  | [] => 0
  | b :: bytes => b.toNat * 256 ^ bytes.length + bigEndian bytes

/-- The sign of the first difference. -/
def memcmp : List UInt8 → List UInt8 → Int
  | a :: as, b :: bs => if a < b then -1 else if b < a then 1 else memcmp as bs
  | _, _ => 0

theorem bigEndian_lt (bytes : List UInt8) : bigEndian bytes < 256 ^ bytes.length := by
  induction bytes with
  | nil => simp [bigEndian]
  | cons b bytes ih =>
      have byte : b.toNat + 1 ≤ 256 := b.toNat_lt
      calc b.toNat * 256 ^ bytes.length + bigEndian bytes
          < (b.toNat + 1) * 256 ^ bytes.length := by rw [Nat.succ_mul]; omega
        _ ≤ 256 * 256 ^ bytes.length := Nat.mul_le_mul_right _ byte
        _ = 256 ^ (b :: bytes).length := by rw [List.length_cons, pow_succ]; ring

/-- A smaller first byte makes a smaller number, whatever follows. -/
theorem bigEndian_lt_of_head {a b : UInt8} {as bs : List UInt8} (less : a < b)
    (length : as.length = bs.length) : bigEndian (a :: as) < bigEndian (b :: bs) := by
  have byte : a.toNat + 1 ≤ b.toNat := less
  have rest : bigEndian as < 256 ^ bs.length := length ▸ bigEndian_lt as
  have top := Nat.mul_le_mul_right (256 ^ bs.length) byte
  rw [Nat.succ_mul] at top
  simp only [bigEndian, length]
  omega

/-- Comparing two byte strings of one length is comparing their numbers. -/
theorem memcmp_pos_iff {as bs : List UInt8} (length : as.length = bs.length) :
    0 < memcmp as bs ↔ bigEndian bs < bigEndian as := by
  induction as generalizing bs with
  | nil =>
      obtain rfl := List.length_eq_zero_iff.mp length.symm
      simp [memcmp]
  | cons a as ih =>
      cases bs with
      | nil => simp at length
      | cons b bs =>
          have rest : as.length = bs.length := Nat.succ.inj length
          rw [memcmp]
          split
          · next less =>
              have := bigEndian_lt_of_head less rest
              constructor <;> intro <;> omega
          split
          · next greater =>
              have := bigEndian_lt_of_head greater rest.symm
              constructor <;> intro <;> omega
          · next notLess notGreater =>
              have same : a = b := UInt8.le_antisymm (UInt8.not_lt.mp notGreater)
                (UInt8.not_lt.mp notLess)
              subst same
              simpa [bigEndian, rest] using ih rest

theorem eq_of_memcmp_eq_zero {as bs : List UInt8} (length : as.length = bs.length)
    (zero : memcmp as bs = 0) : as = bs := by
  induction as generalizing bs with
  | nil => exact (List.length_eq_zero_iff.mp length.symm).symm
  | cons a as ih =>
      cases bs with
      | nil => simp at length
      | cons b bs =>
          rw [memcmp] at zero
          split at zero
          · cases zero
          split at zero
          · cases zero
          · next notLess notGreater =>
              have same : a = b := UInt8.le_antisymm (UInt8.not_lt.mp notGreater)
                (UInt8.not_lt.mp notLess)
              rw [same, ih (Nat.succ.inj length) zero]

end Iwlwifi.Lib
