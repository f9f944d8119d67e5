import Mathlib.Algebra.Order.Floor.Semifield
import Mathlib.Data.Rat.Floor
import Iwlwifi.Lib.Signed

/-!
# The airtime link metric

`airtime_link_metric_get` is the time that a test frame takes on a link, times the number of
times that it is sent.  Both factors are in 256ths, so their product is in 65536ths and is shifted
down by 16 bits.  The product is wanted in a `u64`, but both factors are `u32` and so is their
product.  On a link that is slow and loses many frames it overflows, and the worst links get the
metrics of good ones.
-/

namespace Iwlwifi.AirtimeMetric

open Lib

def linkFailThresh : UInt64 := 95

/-- `MAX_METRIC`. -/
def maxMetric : UInt32 := 0xffffffff

/-- What the metric of a link is made of: `sta_get_expected_throughput` in kbit/s, or zero, and
the moving averages of failures in percent and of the rate in 100 kbit/s. -/
structure MeshSta where
  expectedThroughput : UInt32
  failAvg : UInt64
  txRateAvg : UInt64
  deriving DecidableEq, Repr

def deviceConstant : Int32 := (1 : Int32) <<< 8

def testFrameLen : Int32 := (8192 : Int32) <<< 8

def sUnit : Int32 := (1 : Int32) <<< 8

/-- `tx_time`, in 256ths of a unit. -/
def txTime (rate : Int32) : UInt32 := (deviceConstant + 10 * testFrameLen / rate).toUInt32

/-- `estimated_retx`, in 256ths. -/
def estimatedRetx (err : Int32) : UInt32 := ((1 : Int32) <<< 16 / (sUnit - err)).toUInt32

/-- The last lines of `airtime_link_metric_get`. -/
def airtime (rate err : Int32) : UInt32 :=
  ((txTime rate * estimatedRetx err).toUInt64 >>> 16).toUInt32

/-- `DIV_ROUND_UP(sta_get_expected_throughput(sta), 100)`. -/
def MeshSta.expectedRate (sta : MeshSta) : Int32 :=
  ((sta.expectedThroughput + 100 - 1) / 100).toInt32

/-- `airtime_link_metric_get`. -/
def airtimeLinkMetricGet (sta : MeshSta) : UInt32 :=
  if sta.expectedRate ≠ 0 then airtime sta.expectedRate 0
  else if sta.failAvg > linkFailThresh then maxMetric
  else if sta.txRateAvg.toUInt32.toInt32 = 0 then maxMetric
  else airtime sta.txRateAvg.toUInt32.toInt32 ((sta.failAvg <<< 8) / 100).toUInt32.toInt32

/-! ## The metric that is wanted -/

/-- The link of a station has this rate, in 100 kbit/s, and this average of failures.  Where
the throughput is known, no failures are counted. -/
def Linked (sta : MeshSta) (rate : Int32) (fail : Nat) : Prop :=
  (sta.expectedRate = rate ∧ rate ≠ 0 ∧ fail = 0) ∨
    (sta.expectedRate = 0 ∧ (sta.txRateAvg.toNat : Int) = rate.toInt ∧ sta.failAvg.toNat = fail)

/-- The two factors, with their quotients rounded down. -/
def txTimeExact (rate : Nat) : Nat := 256 + 20971520 / rate

def estimatedRetxExact (fail : Nat) : Nat := 65536 / (256 - 256 * fail / 100)

/-- The metric as a rational number of 65536ths. -/
def airtimeExact (rate fail : Nat) : ℚ :=
  ((txTimeExact rate * estimatedRetxExact fail : Nat) : ℚ) / 65536

/-- The metric is computed without an overflow or a division by zero, and rounded down. -/
structure Computed (sta : MeshSta) (rate fail : Nat) : Prop where
  divisors : rate ≠ 0 ∧ 256 * fail / 100 < 256
  fits : txTimeExact rate * estimatedRetxExact fail < 2 ^ 32
  exact : (airtimeLinkMetricGet sta).toNat = ⌊airtimeExact rate fail⌋₊
  le_max : airtimeLinkMetricGet sta ≤ maxMetric

/-- The link is fast enough for its failures. -/
def Fits (rate fail : Nat) : Prop :=
  320 < rate * (256 - 256 * fail / 100) ∨ rate = 4 ∧ fail = 69

instance (rate fail : Nat) : Decidable (Fits rate fail) := inferInstanceAs (Decidable (_ ∨ _))

variable {sta : MeshSta} {rate err : Int32} {r fail : Nat}

/-! ## The arithmetic of the code -/

theorem toNat_txTime (positive : 0 < rate) :
    (txTime rate).toNat = txTimeExact rate.toInt.toNat := by
  have above : 0 < rate.toInt := Int32.lt_iff_toInt_lt.mp positive
  have numerator : (10 * testFrameLen).toInt = 20971520 := by decide
  have quotient : (10 * testFrameLen / rate).toInt = 20971520 / rate.toInt := by
    rw [toInt_div_of_nonneg (by rw [numerator]; decide) (Int.le_of_lt above), numerator]
  have low : 0 ≤ 20971520 / rate.toInt := Int.ediv_nonneg (by decide) (Int.le_of_lt above)
  have high : 20971520 / rate.toInt ≤ 20971520 := Int.ediv_le_self _ (by decide)
  have constant : deviceConstant.toInt = 256 := by decide
  have sum : (deviceConstant + 10 * testFrameLen / rate).toInt = 256 + 20971520 / rate.toInt := by
    rw [Int32.toInt_add, quotient, constant, Int.bmod_eq_of_le (by omega) (by omega)]
  have nonneg : ¬deviceConstant + 10 * testFrameLen / rate < 0 := by
    rw [Int32.lt_iff_toInt_lt, sum]
    exact Int.not_lt.mpr (by simp only [Int32.toInt_zero]; omega)
  have value := toNat_toUInt32_of_nonneg nonneg
  rw [sum] at value
  obtain ⟨n, same⟩ := Int.eq_ofNat_of_zero_le (Int.le_of_lt above)
  rw [same] at value
  have cast : ((20971520 / n : Nat) : Int) = 20971520 / (n : Int) := Int.natCast_ediv _ _
  rw [txTime, txTimeExact, same, Int.toNat_natCast]
  omega

theorem toNat_estimatedRetx (low : 0 ≤ err.toInt) (high : err.toInt ≤ 243) :
    (estimatedRetx err).toNat = 65536 / (256 - err.toInt.toNat) := by
  have unit : sUnit.toInt = 256 := by decide
  have numerator : ((1 : Int32) <<< 16).toInt = 65536 := by decide
  have divisor : (sUnit - err).toInt = 256 - err.toInt := by
    rw [Int32.toInt_sub, unit, Int.bmod_eq_of_le (by omega) (by omega)]
  have quotient : ((1 : Int32) <<< 16 / (sUnit - err)).toInt = 65536 / (256 - err.toInt) := by
    rw [toInt_div_of_nonneg (by rw [numerator]; decide) (by omega), numerator, divisor]
  have nonneg : ¬(1 : Int32) <<< 16 / (sUnit - err) < 0 := by
    rw [Int32.lt_iff_toInt_lt, quotient]
    exact Int.not_lt.mpr (Int.ediv_nonneg (by decide) (by omega))
  have value := toNat_toUInt32_of_nonneg nonneg
  rw [quotient] at value
  obtain ⟨n, same⟩ := Int.eq_ofNat_of_zero_le low
  rw [same] at value high
  rw [estimatedRetx, same, Int.toNat_natCast]
  have cast : (256 : Int) - n = ((256 - n : Nat) : Int) := by omega
  have whole : ((65536 / (256 - n) : Nat) : Int) = 65536 / ((256 - n : Nat) : Int) :=
    Int.natCast_ediv _ _
  rw [cast] at value
  omega

/-- The product is taken modulo `2 ^ 32` before it is shifted. -/
theorem toNat_airtime (rate err : Int32) :
    (airtime rate err).toNat =
      (txTime rate).toNat * (estimatedRetx err).toNat % 2 ^ 32 / 65536 := by
  have small : (txTime rate).toNat * (estimatedRetx err).toNat % 2 ^ 32 / 65536 < 2 ^ 32 :=
    Nat.lt_of_le_of_lt (Nat.div_le_self _ _) (Nat.mod_lt _ (by decide))
  rw [airtime, UInt64.toNat_toUInt32, UInt64.toNat_shiftRight, UInt32.toNat_toUInt64,
    UInt32.toNat_mul, Nat.shiftRight_eq_div_pow]
  exact Nat.mod_eq_of_lt small

/-- The failures in 256ths. -/
theorem toInt_err {failAvg : UInt64} (low : failAvg.toNat ≤ 95) :
    ((failAvg <<< 8) / 100).toUInt32.toInt32.toInt = (256 * failAvg.toNat / 100 : Nat) := by
  have shifted : (failAvg <<< 8).toNat = 256 * failAvg.toNat := by
    have width : (8 : UInt64).toNat % 64 = 8 := rfl
    rw [UInt64.toNat_shiftLeft, width, Nat.shiftLeft_eq]
    omega
  have value : ((failAvg <<< 8) / 100).toUInt32.toNat = 256 * failAvg.toNat / 100 := by
    have hundred : (100 : UInt64).toNat = 100 := rfl
    rw [UInt64.toNat_toUInt32, UInt64.toNat_div, shifted, hundred]
    omega
  rw [toInt_toInt32_of_lt (by omega), value]

/-- What the code computes for a link. -/
theorem toNat_metric (linked : Linked sta rate fail) (positive : 0 < rate) (low : fail ≤ 95) :
    (airtimeLinkMetricGet sta).toNat =
      txTimeExact rate.toInt.toNat * estimatedRetxExact fail % 2 ^ 32 / 65536 := by
  rcases linked with ⟨expected, nonzero, none⟩ | ⟨unknown, average, failures⟩
  · rw [airtimeLinkMetricGet, expected, if_pos nonzero, toNat_airtime, toNat_txTime positive,
      toNat_estimatedRetx (by decide) (by decide), none]
    rfl
  · have same : sta.txRateAvg.toUInt32.toInt32 = rate := by
      have high : rate.toInt < 2 ^ 31 := Int32.toInt_lt rate
      have value : sta.txRateAvg.toUInt32.toNat = sta.txRateAvg.toNat := by
        rw [UInt64.toNat_toUInt32]
        omega
      rw [← Int32.toInt_inj, toInt_toInt32_of_lt (by omega), value, average]
    have below : ¬sta.failAvg > linkFailThresh := by
      rw [gt_iff_lt, UInt64.lt_iff_toNat_lt, failures]
      exact Nat.not_lt.mpr low
    have nonzero : rate ≠ 0 := fun zero => absurd (zero ▸ positive) (by decide)
    have err := toInt_err (failures.trans_le low)
    rw [failures] at err
    rw [airtimeLinkMetricGet, unknown, if_neg (not_not.mpr rfl), if_neg below, same,
      if_neg nonzero, toNat_airtime, toNat_txTime positive,
      toNat_estimatedRetx (by omega) (by omega), err, Int.toNat_natCast, estimatedRetxExact]

/-! ## The product -/

theorem floor_airtimeExact (r fail : Nat) :
    ⌊airtimeExact r fail⌋₊ = txTimeExact r * estimatedRetxExact fail / 65536 := by
  rw [airtimeExact]
  exact Nat.floor_div_eq_div _ _

/-- A product of the time with a number is below the bound from a rate on. -/
theorem txTimeExact_mul_lt_iff {k : Nat} (positive : 0 < r) (retx : 0 < k)
    (enough : 256 ≤ (2 ^ 32 - 1) / k) :
    txTimeExact r * k < 2 ^ 32 ↔ 20971520 / ((2 ^ 32 - 1) / k - 255) < r := by
  have most : txTimeExact r * k < 2 ^ 32 ↔ txTimeExact r ≤ (2 ^ 32 - 1) / k := by
    rw [Nat.le_div_iff_mul_le retx]
    omega
  have time : txTimeExact r ≤ (2 ^ 32 - 1) / k ↔ 20971520 / r < (2 ^ 32 - 1) / k - 255 := by
    rw [txTimeExact]
    omega
  rw [most, time, Nat.div_lt_iff_lt_mul positive, Nat.mul_comm,
    ← Nat.div_lt_iff_lt_mul (by omega)]

/-- The rates from which on the product fits, for every average of failures. -/
theorem least_rate : ∀ fail ≤ 95, 256 ≤ (2 ^ 32 - 1) / estimatedRetxExact fail ∧
    20971520 / ((2 ^ 32 - 1) / estimatedRetxExact fail - 255) =
      if fail = 69 then 3 else 320 / (256 - 256 * fail / 100) := by
  decide

/-- The product fits exactly when the link is fast enough. -/
theorem product_lt_iff (positive : 0 < r) (low : fail ≤ 95) :
    txTimeExact r * estimatedRetxExact fail < 2 ^ 32 ↔ Fits r fail := by
  obtain ⟨enough, least⟩ := least_rate fail low
  have divisor : 0 < 256 - 256 * fail / 100 := by omega
  have retx : 0 < estimatedRetxExact fail :=
    Nat.div_pos (Nat.le_trans (Nat.sub_le _ _) (by decide)) divisor
  rw [txTimeExact_mul_lt_iff positive retx enough, least, Fits]
  split
  · next middle =>
      rw [middle]
      omega
  · next other =>
      rw [Nat.div_lt_iff_lt_mul divisor]
      omega

/-- Faster links with fewer failures have lower products. -/
theorem product_le {r₁ r₂ f₁ f₂ : Nat} (positive : 0 < r₁) (rates : r₁ ≤ r₂) (fails : f₁ ≤ f₂)
    (low : f₂ ≤ 95) :
    txTimeExact r₂ * estimatedRetxExact f₁ ≤ txTimeExact r₁ * estimatedRetxExact f₂ := by
  refine Nat.mul_le_mul ?_ ?_
  · exact Nat.add_le_add_left (Nat.div_le_div_left rates positive) 256
  · refine Nat.div_le_div_left ?_ (by omega)
    have more : 256 * f₁ / 100 ≤ 256 * f₂ / 100 := Nat.div_le_div_right (by omega)
    omega

/-- A metric is right exactly when the product fits. -/
theorem computed_iff (linked : Linked sta rate fail) (positive : 0 < rate) (low : fail ≤ 95) :
    Computed sta rate.toInt.toNat fail ↔ Fits rate.toInt.toNat fail := by
  have above : 0 < rate.toInt.toNat := by
    have := Int32.lt_iff_toInt_lt.mp positive
    simp only [Int32.toInt_zero] at this
    omega
  constructor
  · intro computed
    exact (product_lt_iff above low).mp computed.fits
  · intro fits
    have product := (product_lt_iff above low).mpr fits
    refine ⟨⟨by omega, by omega⟩, product, ?_, ?_⟩
    · rw [toNat_metric linked positive low, Nat.mod_eq_of_lt product, floor_airtimeExact]
    · rw [UInt32.le_iff_toNat_le]
      exact Nat.le_of_lt_succ (UInt32.toNat_lt _)

/-- Of two links, the metrics are right and in the order of the links exactly when the slower
one is fast enough for its failures. -/
theorem airtime_iff {slow fast : MeshSta} {r₁ r₂ : Int32} {f₁ f₂ : Nat}
    (worse : Linked slow r₁ f₂) (better : Linked fast r₂ f₁) (positive : 0 < r₁)
    (rates : r₁ ≤ r₂) (fails : f₁ ≤ f₂) (low : f₂ ≤ 95) :
    (airtimeLinkMetricGet fast ≤ airtimeLinkMetricGet slow ∧
        Computed fast r₂.toInt.toNat f₁ ∧ Computed slow r₁.toInt.toNat f₂) ↔
      Fits r₁.toInt.toNat f₂ := by
  have lowToo : f₁ ≤ 95 := Nat.le_trans fails low
  have positiveToo : 0 < r₂ := Int32.lt_of_lt_of_le positive rates
  constructor
  · intro right
    exact (computed_iff worse positive low).mp right.2.2
  · intro fits
    have above : 0 < r₁.toInt.toNat ∧ r₁.toInt.toNat ≤ r₂.toInt.toNat := by
      have first := Int32.lt_iff_toInt_lt.mp positive
      have second := Int32.le_iff_toInt_le.mp rates
      simp only [Int32.toInt_zero] at first
      omega
    have product := (product_lt_iff above.1 low).mpr fits
    have order := product_le above.1 above.2 fails low
    have less : txTimeExact r₂.toInt.toNat * estimatedRetxExact f₁ < 2 ^ 32 :=
      Nat.lt_of_le_of_lt order product
    have fitsToo := (product_lt_iff (Nat.lt_of_lt_of_le above.1 above.2) lowToo).mp less
    refine ⟨?_, (computed_iff better positiveToo lowToo).mpr fitsToo,
      (computed_iff worse positive low).mpr fits⟩
    rw [UInt32.le_iff_toNat_le, toNat_metric worse positive low,
      toNat_metric better positiveToo lowToo, Nat.mod_eq_of_lt product, Nat.mod_eq_of_lt less]
    exact Nat.div_le_div_right order

/-- A link of 54 Mbit/s with ten failures in a hundred, and one of 5.4 Mbit/s with fifty. -/
theorem airtime_of_fits :
    airtimeLinkMetricGet ⟨0, 10, 540⟩ ≤ airtimeLinkMetricGet ⟨0, 50, 54⟩ ∧
      Computed ⟨0, 10, 540⟩ 540 10 ∧ Computed ⟨0, 50, 54⟩ 54 50 :=
  (@airtime_iff ⟨0, 50, 54⟩ ⟨0, 10, 540⟩ 54 540 10 50 (.inr (by decide)) (.inr (by decide))
    (by decide) (by decide) (by decide) (by decide)).mpr (by decide)

/-- With 95 failures in a hundred, a link of 1 Mbit/s has a lower metric than one of
2.5 Mbit/s. -/
theorem not_airtime_ordered :
    ¬ ∀ (slow fast : MeshSta) (r₁ r₂ : Int32) (f₁ f₂ : Nat), Linked slow r₁ f₂ →
      Linked fast r₂ f₁ → 0 < r₁ → r₁ ≤ r₂ → f₁ ≤ f₂ → f₂ ≤ 95 →
      airtimeLinkMetricGet fast ≤ airtimeLinkMetricGet slow := by
  intro all
  have order := all ⟨0, 95, 10⟩ ⟨0, 95, 25⟩ 10 25 95 95 (.inr (by decide)) (.inr (by decide))
    (by decide) (by decide) (by decide) (by decide)
  exact absurd order (by decide)

end Iwlwifi.AirtimeMetric
