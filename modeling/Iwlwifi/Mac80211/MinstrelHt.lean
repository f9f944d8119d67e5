/-!
# Minstrel-HT rate selection

For each peer Minstrel-HT keeps statistics of the rates it supports, in groups of ten: sixteen HT
groups, one CCK group and twenty-four VHT groups.  An index names a rate as ten times its group
plus its number in the group.  From the statistics the four rates of highest throughput and the
rate of highest probability are chosen, for the peer and for each group, and when a chosen rate
keeps failing it is downgraded between two updates.

The rate table that is given to the driver, the choice of rates to sample and the fixed rate of
debugfs are left out.  A division by zero gives zero here.
-/

namespace Iwlwifi.MinstrelHt

/-! ## Rate groups -/

def mcsGroupRates : Nat := 10
def maxThrRates : Nat := 4
def ieee80211TxMaxRates : Nat := 4
def minstrelMaxStreams : Nat := 4
def minstrelCckGroup : Nat := 16
def minstrelVhtGroup0 : Nat := 17
def minstrelGroupsNb : Nat := 41

def avgAmpduSize : Nat := 16
def avgPktSize : Nat := 1200

/-- `MINSTREL_FRAC` -/
def minstrelFrac (val div : Nat) : Nat := (val <<< 12) / div

/-- `MCS_NSYMS` -/
def mcsNsyms (bps : Nat) : Nat := (((avgPktSize * avgAmpduSize) <<< 3) + bps - 1) / bps

/-- `MCS_DURATION` -/
def mcsDuration (streams : Nat) (sgi : Bool) (bps : Nat) : Nat :=
  let syms := mcsNsyms (streams * bps)
  (if sgi then (syms * 18000 + 4000) / 5 else (syms * 1000) <<< 2) / avgAmpduSize

/-- `GROUP_SHIFT` -/
def groupShift (duration : Nat) : Nat := duration.log2 + 1 - 16

/-- `struct mcs_group`, without its flags -/
structure McsGroup where
  streams : Nat
  shift : Nat
  duration : List Nat
deriving DecidableEq, Repr

def mkGroup (streams : Nat) (durations : List Nat) : McsGroup :=
  let shift := groupShift (durations.headD 0)
  { streams, shift, duration := durations.map (· >>> shift) }

/-- `MCS_GROUP` -/
def mcsGroup (streams : Nat) (sgi ht40 : Bool) : McsGroup :=
  mkGroup streams ((if ht40 then [54, 108, 162, 216, 324, 432, 486, 540]
    else [26, 52, 78, 104, 156, 208, 234, 260]).map (mcsDuration streams sgi))

inductive Bw
  | bw20
  | bw40
  | bw80
deriving DecidableEq, Repr

/-- `VHT_GROUP` -/
def vhtGroup (streams : Nat) (sgi : Bool) (bw : Bw) : McsGroup :=
  mkGroup streams ((match bw with
    | .bw80 => [117, 234, 351, 468, 702, 936, 1053, 1170, 1404, 1560]
    | .bw40 => [54, 108, 162, 216, 324, 432, 486, 540, 648, 720]
    | .bw20 => [26, 52, 78, 104, 156, 208, 234, 260, 312, 346]).map (mcsDuration streams sgi))

/-- `CCK_DURATION` -/
def cckDuration (bitrate : Nat) (short : Bool) (len : Nat) : Nat :=
  1000 * (10 + (if short then 72 + 24 else 144 + 48) + (8 * (len + 4) * 10) / bitrate)

/-- `CCK_ACK_DURATION` -/
def cckAckDuration (short : Bool) (bitrate : Nat) : Nat :=
  cckDuration (if bitrate > 10 then 20 else 10) false 60 + cckDuration bitrate short avgPktSize

/-- `CCK_GROUP` -/
def cckGroup : McsGroup :=
  mkGroup 1 ([10, 20, 55, 110].map (cckAckDuration false) ++
    [10, 20, 55, 110].map (cckAckDuration true))

/-- `minstrel_mcs_groups`, sorted by bandwidth, guard interval and number of streams -/
def minstrelMcsGroups : List McsGroup :=
  let streams := [1, 2, 3, 4]
  ([false, true].flatMap fun ht40 => [false, true].flatMap fun sgi =>
    streams.map fun n => mcsGroup n sgi ht40) ++
  [cckGroup] ++
  ([Bw.bw20, .bw40, .bw80].flatMap fun bw => [false, true].flatMap fun sgi =>
    streams.map fun n => vhtGroup n sgi bw)

def groupAt (group : Nat) : McsGroup := minstrelMcsGroups.getD group ⟨0, 0, []⟩

/-! ## The state of a station -/

/-- Of `struct minstrel_rate_stats`, what the selection reads and the counters beside it. -/
structure RateStats where
  attempts : UInt16 := 0
  lastAttempts : UInt16 := 0
  success : UInt16 := 0
  lastSuccess : UInt16 := 0
  attHist : UInt32 := 0
  succHist : UInt32 := 0
  probEwma : UInt16 := 0
  sampleSkipped : UInt8 := 0
deriving DecidableEq, Repr

/-- `struct minstrel_mcs_group_data`, without the place of sampling -/
structure McsGroupData where
  maxGroupTpRate : List Nat := [0, 0, 0, 0]
  maxGroupProbRate : Nat := 0
  rates : Nat → RateStats := fun _ => {}

/-- `struct minstrel_priv`, as far as it is read, and the frequency of the clock -/
structure MinstrelPriv where
  cckRates : List Int := [0, 1, 2, 3]
  updateInterval : UInt32 := 100
  txStatusNoAmpduLen : Bool := false
  hz : UInt32 := 250

structure MinstrelHtSta where
  ampduLen : UInt32 := 0
  ampduPackets : UInt32 := 0
  avgAmpduLen : UInt32 := 0
  maxTpRate : List Nat := [0, 0, 0, 0]
  maxProbRate : Nat := 0
  lastStatsUpdate : UInt64 := 0
  overhead : UInt32 := 0
  samplePackets : UInt32 := 0
  sampleWait : UInt8 := 0
  sampleTries : UInt8 := 0
  sampleCount : UInt8 := 0
  sampleSlow : UInt8 := 0
  supported : Nat → UInt16
  groups : Nat → McsGroupData := fun _ => {}

/-- `supported[group] & BIT(i)` -/
def supports (supported : Nat → UInt16) (group i : Nat) : Bool :=
  (supported group).toNat.testBit i

/-! ## Statistics -/

/-- `minstrel_ewma`; the product and the division are those of C's `int`. -/
def minstrelEwma (old new weight : Int) : Int :=
  old + (((128 - weight) * (new - old)).bmod 4294967296).tdiv 128

def ewmaLevel : Int := 96

def minstrelCalcRateStats (mrs : RateStats) : RateStats :=
  let mrs :=
    if mrs.attempts > 0 then
      let curProb := minstrelFrac mrs.success.toNat mrs.attempts.toNat
      { mrs with
        sampleSkipped := 0
        probEwma :=
          if mrs.attHist = 0 then UInt16.ofNat curProb
          else UInt16.ofInt (minstrelEwma mrs.probEwma.toNat curProb ewmaLevel)
        attHist := mrs.attHist + mrs.attempts.toUInt32
        succHist := mrs.succHist + mrs.success.toUInt32 }
    else { mrs with sampleSkipped := mrs.sampleSkipped + 1 }
  { mrs with
    lastSuccess := mrs.success
    lastAttempts := mrs.attempts
    success := 0
    attempts := 0 }

namespace MinstrelHtSta

def onGroup (mi : MinstrelHtSta) (group : Nat) (change : McsGroupData → McsGroupData) :
    MinstrelHtSta :=
  { mi with groups := fun g => if g = group then change (mi.groups g) else mi.groups g }

def onRate (mi : MinstrelHtSta) (group i : Nat) (change : RateStats → RateStats) :
    MinstrelHtSta :=
  mi.onGroup group fun mg =>
    { mg with rates := fun r => if r = i then change (mg.rates r) else mg.rates r }

/-- The statistics of the rate that an index names. -/
def statsAt (mi : MinstrelHtSta) (index : Nat) : RateStats :=
  (mi.groups (index / mcsGroupRates)).rates (index % mcsGroupRates)

/-- `minstrel_ht_avg_ampdu_len` -/
def avgAmpduLenOf (mi : MinstrelHtSta) : UInt32 :=
  if mi.avgAmpduLen = 0 then 16 else mi.avgAmpduLen >>> 12

/-- `minstrel_ht_get_tp_avg` -/
def getTpAvg (mi : MinstrelHtSta) (group rate : Nat) (probEwma : UInt16) : UInt32 :=
  if probEwma.toNat < minstrelFrac 10 100 then 0
  else
    let nsecs : UInt32 :=
      if group ≠ minstrelCckGroup then 1000 * mi.overhead / mi.avgAmpduLenOf else 0
    let nsecs := nsecs +
      UInt32.ofNat ((groupAt group).duration.getD rate 0 <<< (groupAt group).shift)
    let prob := if probEwma.toNat > minstrelFrac 90 100 then minstrelFrac 90 100 else probEwma.toNat
    (100000 * (UInt32.ofNat (prob * 1000) / nsecs)) >>> 12

/-- The average throughput of the rate that an index names. -/
def tpAt (mi : MinstrelHtSta) (index : Nat) : UInt32 :=
  mi.getTpAvg (index / mcsGroupRates) (index % mcsGroupRates) (mi.statsAt index).probEwma

/-! ## Choosing rates -/

/-- The first place of a sorted list, from its end, after which a rate belongs. -/
def sortedPlace (mi : MinstrelHtSta) (index : Nat) (tpList : List Nat) : Nat → Nat
  | 0 => 0
  | j + 1 =>
      let tmp := tpList.getD j 0
      if mi.tpAt index < mi.tpAt tmp ∨
          (mi.tpAt index = mi.tpAt tmp ∧
            (mi.statsAt index).probEwma ≤ (mi.statsAt tmp).probEwma) then
        j + 1
      else sortedPlace mi index tpList j

/-- `minstrel_ht_sort_best_tp_rates`; the last rate drops out of the list. -/
def sortBestTpRates (mi : MinstrelHtSta) (index : Nat) (tpList : List Nat) : List Nat :=
  let j := mi.sortedPlace index tpList maxThrRates
  if j < maxThrRates then (tpList.take j ++ index :: tpList.drop j).take maxThrRates else tpList

/-- A rate of more than 75% is preferred for its throughput, any other for its probability. -/
def betterProbRate (mi : MinstrelHtSta) (index other : Nat) : Bool :=
  if (mi.statsAt index).probEwma.toNat > minstrelFrac 75 100 then
    mi.tpAt index > mi.tpAt other
  else (mi.statsAt index).probEwma > (mi.statsAt other).probEwma

/-- `minstrel_ht_set_best_prob_rate` -/
def setBestProbRate (mi : MinstrelHtSta) (index : Nat) : MinstrelHtSta :=
  let curGroup := index / mcsGroupRates
  let mg := mi.groups curGroup
  if curGroup = minstrelCckGroup ∧ mi.maxTpRate.getD 0 0 / mcsGroupRates ≠ minstrelCckGroup then mi
  else
    let better := mi.betterProbRate index mi.maxProbRate
    let betterInGroup := mi.betterProbRate index mg.maxGroupProbRate
    let mi := if better then { mi with maxProbRate := index } else mi
    if betterInGroup then mi.onGroup curGroup fun mg => { mg with maxGroupProbRate := index }
    else mi

/-- `minstrel_ht_assign_best_tp_rates` -/
def assignBestTpRates (mi : MinstrelHtSta) (tmpMcsTpRate tmpCckTpRate : List Nat) : List Nat :=
  if mi.tpAt (tmpCckTpRate.getD 0 0) > mi.tpAt (tmpMcsTpRate.getD 0 0) then
    tmpCckTpRate.foldl (fun tpList index => mi.sortBestTpRates index tpList) tmpMcsTpRate
  else tmpMcsTpRate

/-- `minstrel_ht_prob_rate_reduce_streams`; the second component is `tmp_tp`. -/
def reduceStreamsStep (mi : MinstrelHtSta) (tmpMaxStreams : Nat) (best : Nat × UInt32)
    (group : Nat) : Nat × UInt32 :=
  if mi.supported group = 0 ∨ group = minstrelCckGroup then best
  else
    let mg := mi.groups group
    let tmpIdx := mg.maxGroupProbRate % mcsGroupRates
    let tp := mi.getTpAvg group tmpIdx (mg.rates tmpIdx).probEwma
    if best.2 < tp ∧ (groupAt group).streams < tmpMaxStreams then (mg.maxGroupProbRate, tp)
    else best

def probRateReduceStreams (mi : MinstrelHtSta) : MinstrelHtSta :=
  let tmpMaxStreams := (groupAt (mi.maxTpRate.getD 0 0 / mcsGroupRates)).streams
  { mi with
    maxProbRate := ((List.range minstrelGroupsNb).foldl (mi.reduceStreamsStep tmpMaxStreams)
      (mi.maxProbRate, 0)).1 }

end MinstrelHtSta

/-! ## The update -/

/-- The station and the lists that are built while all rates are gone through. -/
structure Tmp where
  mi : MinstrelHtSta
  mcsTpRate : List Nat
  cckTpRate : List Nat
  groupTpRate : List Nat

namespace Tmp

/-- The turn of rate `i` of a group. -/
def rate (group : Nat) (t : Tmp) (i : Nat) : Tmp :=
  if supports t.mi.supported group i = false then t
  else
    let index := mcsGroupRates * group + i
    let mi := t.mi.onRate group i minstrelCalcRateStats
    if mi.getTpAvg group i ((mi.groups group).rates i).probEwma = 0 then { t with mi }
    else
      { mi := mi.setBestProbRate index
        mcsTpRate :=
          if group ≠ minstrelCckGroup then mi.sortBestTpRates index t.mcsTpRate else t.mcsTpRate
        cckTpRate :=
          if group = minstrelCckGroup then mi.sortBestTpRates index t.cckTpRate else t.cckTpRate
        groupTpRate := mi.sortBestTpRates index t.groupTpRate }

/-- The turn of a group. -/
def group (t : Tmp) (group : Nat) : Tmp :=
  if t.mi.supported group = 0 then t
  else
    let t := { t with
      mi := { t.mi with sampleCount := t.mi.sampleCount + 1 }
      groupTpRate := List.replicate maxThrRates group }
    let t := (List.range mcsGroupRates).foldl (rate group) t
    { t with mi := t.mi.onGroup group fun mg => { mg with maxGroupTpRate := t.groupTpRate } }

end Tmp

namespace MinstrelHtSta

/-- What the update does about aggregation before it looks at rates. -/
def updateAmpdu (mi : MinstrelHtSta) (mp : MinstrelPriv) : MinstrelHtSta :=
  let mi :=
    if mi.ampduPackets > 0 then
      { mi with
        avgAmpduLen :=
          if mp.txStatusNoAmpduLen then 0
          else UInt32.ofInt (minstrelEwma mi.avgAmpduLen.toNat
            ((mi.ampduLen <<< 12) / mi.ampduPackets).toNat ewmaLevel)
        ampduLen := 0
        ampduPackets := 0 }
    else mi
  { mi with sampleSlow := 0, sampleCount := 0 }

/-- `minstrel_ht_update_stats` -/
def updateStats (mi : MinstrelHtSta) (mp : MinstrelPriv) (jiffies : UInt64) : MinstrelHtSta :=
  let none4 := List.replicate maxThrRates 0
  let t := (List.range minstrelGroupsNb).foldl Tmp.group ⟨mi.updateAmpdu mp, none4, none4, none4⟩
  let mi := { t.mi with maxTpRate := t.mi.assignBestTpRates t.mcsTpRate t.cckTpRate }
  let mi := mi.probRateReduceStreams
  { mi with sampleCount := mi.sampleCount * 8, lastStatsUpdate := jiffies }

/-! ## Status reports -/

/-- The group to whose rates a failing one is downgraded: the next lower one that is supported
and has no more streams. -/
def downgradeGroup (mi : MinstrelHtSta) (origGroup : Nat) : Nat → Option Nat
  | 0 => none
  | group + 1 =>
      if mi.supported group = 0 then mi.downgradeGroup origGroup group
      else if (groupAt group).streams > (groupAt origGroup).streams then
        mi.downgradeGroup origGroup group
      else some group

/-- `minstrel_downgrade_rate` -/
def downgradeRate (mi : MinstrelHtSta) (idx : Nat) (primary : Bool) : Nat :=
  let origGroup := idx / mcsGroupRates
  match mi.downgradeGroup origGroup origGroup with
  | none => idx
  | some group =>
      let tpRate := (mi.groups group).maxGroupTpRate
      if primary then tpRate.getD 0 0 else tpRate.getD 1 0

/-- The check for a sudden death of spatial multiplexing, at one of the rates. -/
def checkDowngrade (mi : MinstrelHtSta) (place : Nat) (primary : Bool) : MinstrelHtSta :=
  let idx := mi.maxTpRate.getD place 0
  let rate := mi.statsAt idx
  if rate.attempts > 30 ∧
      minstrelFrac rate.success.toNat rate.attempts.toNat < minstrelFrac 20 100 then
    { mi with maxTpRate := mi.maxTpRate.set place (mi.downgradeRate idx primary) }
  else mi

end MinstrelHtSta

/-- `struct ieee80211_tx_rate` -/
structure TxRate where
  idx : Int
  count : UInt16
  mcs : Bool := false
  vhtMcs : Bool := false
  shortGi : Bool := false
  width40 : Bool := false
  width80 : Bool := false
  useShortPreamble : Bool := false
deriving DecidableEq, Repr

/-- `minstrel_ht_txstat_valid` -/
def txstatValid (mp : MinstrelPriv) (rate : TxRate) : Bool :=
  if rate.idx < 0 then false
  else if rate.count = 0 then false
  else if rate.mcs || rate.vhtMcs then true
  else mp.cckRates.contains rate.idx

/-- `minstrel_ht_get_stats`, as the group and the number of the rate -/
def getStats (mp : MinstrelPriv) (supported : Nat → UInt16) (rate : TxRate) : Nat × Nat :=
  let idx := rate.idx.toNat
  let sgi := rate.shortGi.toNat
  if rate.mcs then
    (minstrelMaxStreams * 2 * rate.width40.toNat + minstrelMaxStreams * sgi + idx / 8, idx % 8)
  else if rate.vhtMcs then
    (minstrelVhtGroup0 + minstrelMaxStreams * 2 * (rate.width40.toNat + 2 * rate.width80.toNat) +
      minstrelMaxStreams * sgi + idx / 16, idx % 16)
  else
    let i := mp.cckRates.findIdx (· == rate.idx)
    (minstrelCckGroup,
      if supports supported minstrelCckGroup (i + 4) && rate.useShortPreamble then i + 4 else i)

/-- What a transmission reports. -/
structure TxStatus where
  jiffies : UInt64
  ctlAmpdu : Bool := false
  statAmpdu : Bool := false
  statAck : Bool := false
  rateCtrlProbe : Bool := false
  ampduLen : UInt8 := 0
  ampduAckLen : UInt8 := 0
  rates : List TxRate
deriving DecidableEq, Repr

namespace MinstrelHtSta

/-- The rates used count as attempts, and the last of them as successful. -/
def countRates (mp : MinstrelPriv) (ampduLen ampduAckLen : UInt8) :
    MinstrelHtSta → List TxRate → MinstrelHtSta
  | mi, [] => mi
  | mi, ar :: rest =>
      let (group, i) := getStats mp mi.supported ar
      let mi := mi.onRate group i fun rate =>
        { rate with
          success := if rest.isEmpty then rate.success + ampduAckLen.toUInt16 else rate.success
          attempts := rate.attempts + ar.count * ampduLen.toUInt16 }
      countRates mp ampduLen ampduAckLen mi rest

/-- What is counted for a report before its rates are looked at. -/
def countPacket (mi : MinstrelHtSta) (probe : Bool) (ampduLen : UInt8) : MinstrelHtSta :=
  let mi := { mi with
    ampduPackets := mi.ampduPackets + 1
    ampduLen := mi.ampduLen + ampduLen.toUInt32 }
  let mi :=
    if mi.sampleWait = 0 ∧ mi.sampleTries = 0 ∧ mi.sampleCount > 0 then
      { mi with
        sampleWait := (16 + 2 * mi.avgAmpduLenOf).toUInt8
        sampleTries := 1
        sampleCount := mi.sampleCount - 1 }
    else mi
  if probe then { mi with samplePackets := mi.samplePackets + ampduLen.toUInt32 } else mi

/-- `minstrel_ht_tx_status` -/
def txStatus (mi : MinstrelHtSta) (mp : MinstrelPriv) (st : TxStatus) : MinstrelHtSta :=
  if st.ctlAmpdu && !st.statAmpdu then mi
  else
    let ampduAckLen := if st.statAmpdu then st.ampduAckLen else if st.statAck then 1 else 0
    let ampduLen := if st.statAmpdu then st.ampduLen else 1
    let mi := mi.countPacket st.rateCtrlProbe ampduLen
    let mi := countRates mp ampduLen ampduAckLen mi
      ((st.rates.take ieee80211TxMaxRates).takeWhile (txstatValid mp))
    let mi := mi.checkDowngrade 0 true
    let mi := mi.checkDowngrade 1 false
    let due := mi.lastStatsUpdate + (mp.updateInterval / 2 * mp.hz / 1000).toUInt64
    -- `time_after`
    if (due - st.jiffies).toInt64 < 0 then mi.updateStats mp st.jiffies else mi

end MinstrelHtSta

/-- The station as `minstrel_ht_update_caps` leaves it for its first update. -/
def zeroed (supported : Nat → UInt16) (overhead : UInt32) (jiffies : UInt64) (hasMrr : Bool) :
    MinstrelHtSta where
  lastStatsUpdate := jiffies
  overhead
  avgAmpduLen := 4096
  sampleCount := if hasMrr then 16 else 8
  sampleWait := if hasMrr then 0 else 8
  sampleTries := 4
  supported

inductive Event
  | txStatus (st : TxStatus)
  | updateStats (jiffies : UInt64)

def MinstrelHtSta.step (mp : MinstrelPriv) (mi : MinstrelHtSta) : Event → MinstrelHtSta
  | .txStatus st => mi.txStatus mp st
  | .updateStats jiffies => mi.updateStats mp jiffies

end Iwlwifi.MinstrelHt
