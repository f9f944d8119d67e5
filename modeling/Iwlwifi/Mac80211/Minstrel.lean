import Iwlwifi.Mac80211.MinstrelHt

/-!
# Minstrel rate statistics

For a peer without HT, Minstrel keeps the statistics of each rate of the band that the peer
supports.  They stand in an array, in which the rate table of the band is looked up from the
place of its own index down.

The rate table that is given to the driver, the choice of rates to sample and the fixed rate of
debugfs are left out; what a rate lasts is a parameter.
-/

namespace Iwlwifi.Minstrel

open MinstrelHt (RateStats TxRate TxStatus MinstrelPriv minstrelFrac minstrelCalcRateStats
  maxThrRates ieee80211TxMaxRates)

/-- `struct minstrel_rate`, with `retry_count` of its statistics -/
structure MinstrelRate where
  rix : Int := -1
  perfectTxTime : UInt32 := 0
  retryCount : UInt8 := 0
  adjustedRetryCount : UInt8 := 0
  sampleLimit : Int := 0
  stats : RateStats := {}

/-- `struct minstrel_sta_info` -/
structure MinstrelSta where
  lastStatsUpdate : UInt64
  maxTpRate : List Nat := [0, 0, 0, 0]
  maxProbRate : Nat := 0
  samplePackets : UInt32 := 0
  sampleDeferred : Int := 0
  nRates : Nat := 0
  r : Nat → MinstrelRate := fun _ => {}

namespace MinstrelSta

def onRate (mi : MinstrelSta) (i : Nat) (change : MinstrelRate → MinstrelRate) : MinstrelSta :=
  { mi with r := fun j => if j = i then change (mi.r j) else mi.r j }

/-- The loop of `rix_to_ndx`, over the places below one. -/
def ndxBelow (mi : MinstrelSta) (rix : Int) : Nat → Option Nat
  | 0 => none
  | i + 1 => if (mi.r i).rix = rix then some i else mi.ndxBelow rix i

/-- `rix_to_ndx`, for an index that is not negative -/
def rixToNdx (mi : MinstrelSta) (rix : Int) : Option Nat := mi.ndxBelow rix (rix.toNat + 1)

end MinstrelSta

/-! ## Throughput -/

/-- `MINSTREL_TRUNC` -/
def minstrelTrunc (val : Int) : Int := Int.shiftRight val 12

/-- `minstrel_get_tp_avg` -/
def minstrelGetTpAvg (mr : MinstrelRate) (probEwma : UInt16) : Int :=
  let usecs : Int := if mr.perfectTxTime = 0 then 1000000 else mr.perfectTxTime.toInt32.toInt
  if mr.stats.probEwma.toNat < minstrelFrac 10 100 then 0
  else if probEwma.toNat > minstrelFrac 90 100 then
    minstrelTrunc (100000 * (minstrelFrac 90 100 : Int).tdiv usecs)
  else minstrelTrunc (100000 * (probEwma.toNat : Int).tdiv usecs)

namespace MinstrelSta

/-- The average throughput of the rate at a place. -/
def tpAt (mi : MinstrelSta) (i : Nat) : Int := minstrelGetTpAvg (mi.r i) (mi.r i).stats.probEwma

/-- The first place of a sorted list, from its end, after which a rate belongs. -/
def sortedPlace (mi : MinstrelSta) (i : Nat) (tpList : List Nat) : Nat → Nat
  | 0 => 0
  | j + 1 => if mi.tpAt i ≤ mi.tpAt (tpList.getD j 0) then j + 1 else mi.sortedPlace i tpList j

/-- `minstrel_sort_best_tp_rates`; the last rate drops out of the list. -/
def sortBestTpRates (mi : MinstrelSta) (i : Nat) (tpList : List Nat) : List Nat :=
  let j := mi.sortedPlace i tpList maxThrRates
  if j < maxThrRates then (tpList.take j ++ i :: tpList.drop j).take maxThrRates else tpList

end MinstrelSta

/-! ## The update -/

/-- A rate below 10% or above 95% is sampled less often. -/
def adjustRetries (mr : MinstrelRate) : MinstrelRate :=
  let mr :=
    if mr.stats.probEwma.toNat > minstrelFrac 95 100 ∨
        mr.stats.probEwma.toNat < minstrelFrac 10 100 then
      { mr with
        adjustedRetryCount := if mr.retryCount >>> 1 > 2 then 2 else mr.retryCount >>> 1
        sampleLimit := 4 }
    else { mr with sampleLimit := -1, adjustedRetryCount := mr.retryCount }
  if mr.adjustedRetryCount = 0 then { mr with adjustedRetryCount := 2 } else mr

/-- The station and what is chosen while all rates are gone through. -/
structure Tmp where
  mi : MinstrelSta
  tpRate : List Nat
  probRate : Nat

/-- The turn of the rate at a place. -/
def Tmp.rate (t : Tmp) (i : Nat) : Tmp :=
  let mi := t.mi.onRate i fun mr => { mr with stats := minstrelCalcRateStats mr.stats }
  let mi := mi.onRate i adjustRetries
  let prob := (mi.r i).stats.probEwma
  let better :=
    if prob.toNat ≥ minstrelFrac 95 100 then decide (mi.tpAt i ≥ mi.tpAt t.probRate)
    else decide (prob ≥ (mi.r t.probRate).stats.probEwma)
  { mi
    tpRate := mi.sortBestTpRates i t.tpRate
    probRate := if better then i else t.probRate }

/-- `minstrel_update_stats` -/
def MinstrelSta.updateStats (mi : MinstrelSta) (jiffies : UInt64) : MinstrelSta :=
  let t := (List.range mi.nRates).foldl Tmp.rate ⟨mi, List.replicate maxThrRates 0, 0⟩
  { t.mi with
    maxTpRate := t.tpRate
    maxProbRate := t.probRate
    lastStatsUpdate := jiffies }

/-! ## Status reports -/

namespace MinstrelSta

/-- What the turn of an entry counts; the last one, unless it fills the array, also for the
success. -/
def countRate (mi : MinstrelSta) (success : UInt16) (last : Bool) (ar : TxRate) : MinstrelSta :=
  match mi.rixToNdx ar.idx with
  | none => mi
  | some ndx =>
      mi.onRate ndx fun mr =>
        { mr with
          stats.attempts := mr.stats.attempts + ar.count
          stats.success := if last then mr.stats.success + success else mr.stats.success }

/-- The loop of `minstrel_tx_status` from entry `i` on; where the list ends, the entry of the
array is negative. -/
def countRates (success : UInt16) : MinstrelSta → Nat → List TxRate → MinstrelSta
  | mi, _, [] => mi
  | mi, i, ar :: rest =>
      if ar.idx < 0 then mi
      else
        let next := (rest.head?.map TxRate.idx).getD (-1)
        countRates success
          (mi.countRate success (i ≠ ieee80211TxMaxRates - 1 && decide (next < 0)) ar) (i + 1) rest

/-- What is counted of the sampling. -/
def countSample (mi : MinstrelSta) (probe : Bool) : MinstrelSta :=
  let mi := if probe then { mi with samplePackets := mi.samplePackets + 1 } else mi
  if mi.sampleDeferred > 0 then { mi with sampleDeferred := mi.sampleDeferred - 1 } else mi

/-- A report calls for an update of the statistics (`time_after`). -/
def updateDue (mi : MinstrelSta) (mp : MinstrelPriv) (jiffies : UInt64) : Bool :=
  let due := mi.lastStatsUpdate + (mp.updateInterval * mp.hz / 1000).toUInt64
  (due - jiffies).toInt64 < 0

/-- `minstrel_tx_status` -/
def txStatus (mi : MinstrelSta) (mp : MinstrelPriv) (st : TxStatus) : MinstrelSta :=
  let success : UInt16 := if st.statAck then 1 else 0
  let mi := countRates success mi 0 (st.rates.take ieee80211TxMaxRates)
  let mi := mi.countSample st.rateCtrlProbe
  if mi.updateDue mp st.jiffies then mi.updateStats st.jiffies else mi

end MinstrelSta

/-! ## A new station -/

/-- What `minstrel_rate_init` works out for a rate from the durations of its frames. -/
structure RateTimes where
  perfectTxTime : UInt32
  retryCount : UInt8

/-- The turn of rate `i` of the band. -/
def initRate (usable : Nat → Bool) (times : Nat → RateTimes) (mi : MinstrelSta) (i : Nat) :
    MinstrelSta :=
  if usable i then
    { mi.onRate mi.nRates fun _ =>
        { rix := i
          perfectTxTime := (times i).perfectTxTime
          retryCount := (times i).retryCount
          adjustedRetryCount := (times i).retryCount
          sampleLimit := -1 } with
      nRates := mi.nRates + 1 }
  else mi

/-- `minstrel_rate_init`, for a band of some number of rates, of which those are `usable` that
the peer supports and the channel allows -/
def rateInit (nBitrates : Nat) (usable : Nat → Bool) (times : Nat → RateTimes)
    (jiffies : UInt64) : MinstrelSta :=
  (List.range nBitrates).foldl (initRate usable times) { lastStatsUpdate := jiffies }

end Iwlwifi.Minstrel
