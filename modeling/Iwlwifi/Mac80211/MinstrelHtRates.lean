import Mathlib.Data.List.GetD
import Iwlwifi.Lib.Run
import Iwlwifi.Mac80211.MinstrelHt

/-!
# Which rates Minstrel-HT chooses

A list of chosen rates is filled with placeholders before rates are sorted into it: with the
index 0 for the peer and with the number of the group, not the index of its first rate, for a
group.  The first update of a station has no statistics, so the placeholders survive it.  They
are rates the peer supports exactly where it supports the first group alone, with its first rate;
there no later choice is wrong either.
-/

namespace Iwlwifi.MinstrelHt

open Lib

/-- The index of a rate that is set in the support mask. -/
def RateSupported (supported : Nat → UInt16) (index : Nat) : Prop :=
  index / mcsGroupRates < minstrelGroupsNb ∧
    supports supported (index / mcsGroupRates) (index % mcsGroupRates) = true

/-- The chosen rates are supported, those of a supported group in that group. -/
structure Chosen (mi : MinstrelHtSta) : Prop where
  maxTpRate : ∀ i < maxThrRates, RateSupported mi.supported (mi.maxTpRate.getD i 0)
  maxProbRate : RateSupported mi.supported mi.maxProbRate
  maxGroupTpRate : ∀ group < minstrelGroupsNb, mi.supported group ≠ 0 → ∀ i < maxThrRates,
    ((mi.groups group).maxGroupTpRate.getD i 0) / mcsGroupRates = group ∧
      RateSupported mi.supported ((mi.groups group).maxGroupTpRate.getD i 0)
  maxGroupProbRate : ∀ group < minstrelGroupsNb, mi.supported group ≠ 0 →
    (mi.groups group).maxGroupProbRate / mcsGroupRates = group ∧
      RateSupported mi.supported (mi.groups group).maxGroupProbRate

/-- The peer supports rates of the first group only, and the first of these. -/
def FirstGroupOnly (supported : Nat → UInt16) : Prop :=
  supports supported 0 0 = true ∧
    ∀ group < minstrelGroupsNb, supported group ≠ 0 → group = 0

variable {mi : MinstrelHtSta} {supported : Nat → UInt16} {P : Nat → Prop}

/-! ## Lists of four -/

/-- A list of four rates that all meet a condition. -/
def Within (P : Nat → Prop) (tpList : List Nat) : Prop :=
  tpList.length = maxThrRates ∧ ∀ index ∈ tpList, P index

theorem Within.getD {tpList : List Nat} (within : Within P tpList) {i : Nat}
    (inside : i < maxThrRates) : P (tpList.getD i 0) := by
  have bound : i < tpList.length := within.1 ▸ inside
  rw [List.getD_eq_getElem tpList 0 bound]
  exact within.2 _ (List.getElem_mem bound)

theorem within_replicate {index : Nat} (holds : P index) :
    Within P (List.replicate maxThrRates index) :=
  ⟨List.length_replicate, fun _ member => (List.eq_of_mem_replicate member) ▸ holds⟩

/-- A rate sorted into a list takes the place of one of it. -/
theorem Within.sortBestTpRates {index : Nat} {tpList : List Nat} (within : Within P tpList)
    (holds : P index) : Within P (mi.sortBestTpRates index tpList) := by
  unfold MinstrelHtSta.sortBestTpRates
  simp only
  split
  · rename_i inside
    refine ⟨?_, fun other member => ?_⟩
    · have length := within.1
      simp only [List.length_take, List.length_append, List.length_cons, List.length_drop]
      omega
    · rcases List.mem_append.mp (List.mem_of_mem_take member) with before | after
      · exact within.2 other (List.mem_of_mem_take before)
      · rcases List.mem_cons.mp after with rfl | later
        · exact holds
        · exact within.2 other (List.mem_of_mem_drop later)
  · exact within

theorem Within.assignBestTpRates {mcs cck : List Nat} (mcsWithin : Within P mcs)
    (cckWithin : ∀ index ∈ cck, P index) : Within P (mi.assignBestTpRates mcs cck) := by
  unfold MinstrelHtSta.assignBestTpRates
  split
  · exact List.foldlRecOn cck _ mcsWithin fun _ within index member =>
      within.sortBestTpRates (cckWithin index member)
  · exact mcsWithin

/-! ## The best probability -/

/-- What stays of a station while one of its rates may be chosen. -/
structure Picks (mi after : MinstrelHtSta) (index : Nat) : Prop where
  supported : after.supported = mi.supported
  maxTpRate : after.maxTpRate = mi.maxTpRate
  maxGroupTpRate : ∀ group,
    (after.groups group).maxGroupTpRate = (mi.groups group).maxGroupTpRate
  maxProbRate : after.maxProbRate = mi.maxProbRate ∨ after.maxProbRate = index
  maxGroupProbRate : ∀ group,
    (after.groups group).maxGroupProbRate = (mi.groups group).maxGroupProbRate ∨
      (group = index / mcsGroupRates ∧ (after.groups group).maxGroupProbRate = index)

theorem picks_setBestProbRate (mi : MinstrelHtSta) (index : Nat) :
    Picks mi (mi.setBestProbRate index) index := by
  unfold MinstrelHtSta.setBestProbRate
  simp only
  split
  · exact ⟨rfl, rfl, fun _ => rfl, .inl rfl, fun _ => .inl rfl⟩
  have tp : ∀ (before : MinstrelHtSta) group,
      ((before.onGroup (index / mcsGroupRates) fun mg =>
        { mg with maxGroupProbRate := index }).groups group).maxGroupTpRate =
        (before.groups group).maxGroupTpRate := by
    intro before group
    simp only [MinstrelHtSta.onGroup]
    split <;> rfl
  have prob : ∀ (before : MinstrelHtSta) group,
      ((before.onGroup (index / mcsGroupRates) fun mg =>
        { mg with maxGroupProbRate := index }).groups group).maxGroupProbRate =
        (before.groups group).maxGroupProbRate ∨
      (group = index / mcsGroupRates ∧
        ((before.onGroup (index / mcsGroupRates) fun mg =>
          { mg with maxGroupProbRate := index }).groups group).maxGroupProbRate = index) := by
    intro before group
    simp only [MinstrelHtSta.onGroup]
    by_cases here : group = index / mcsGroupRates
    · exact .inr ⟨here, by rw [if_pos here]⟩
    · exact .inl (by rw [if_neg here])
  cases mi.betterProbRate index mi.maxProbRate <;>
    cases mi.betterProbRate index (mi.groups (index / mcsGroupRates)).maxGroupProbRate <;>
    simp only [if_true, if_false, Bool.false_eq_true]
  · exact ⟨rfl, rfl, fun _ => rfl, .inl rfl, fun _ => .inl rfl⟩
  · exact ⟨rfl, rfl, tp mi, .inl rfl, prob mi⟩
  · exact ⟨rfl, rfl, fun _ => rfl, .inr rfl, fun _ => .inl rfl⟩
  · exact ⟨rfl, rfl, tp _, .inr rfl, prob _⟩

/-! ## The first group alone -/

theorem supported_ne_zero {group i : Nat} (supports : supports supported group i = true) :
    supported group ≠ 0 := by
  intro none
  simp [MinstrelHt.supports, none] at supports

theorem FirstGroupOnly.group_eq {index : Nat} (only : FirstGroupOnly supported)
    (holds : RateSupported supported index) : index / mcsGroupRates = 0 :=
  only.2 _ holds.1 (supported_ne_zero holds.2)

theorem FirstGroupOnly.zero (only : FirstGroupOnly supported) : RateSupported supported 0 :=
  ⟨by decide, only.1⟩

/-- All that may be chosen for a peer of the first group is supported. -/
structure Keeps (supported : Nat → UInt16) (mi : MinstrelHtSta) : Prop where
  same : mi.supported = supported
  maxTpRate : Within (RateSupported supported) mi.maxTpRate
  maxProbRate : RateSupported supported mi.maxProbRate
  maxGroupTpRate : Within (RateSupported supported) (mi.groups 0).maxGroupTpRate
  maxGroupProbRate : RateSupported supported (mi.groups 0).maxGroupProbRate

theorem Keeps.chosen (only : FirstGroupOnly supported) (keeps : Keeps supported mi) :
    Chosen mi := by
  obtain ⟨rfl, maxTpRate, maxProbRate, maxGroupTpRate, maxGroupProbRate⟩ := keeps
  refine ⟨fun i inside => maxTpRate.getD inside, maxProbRate,
    fun group inside used i place => ?_, fun group inside used => ?_⟩
  · obtain rfl := only.2 group inside used
    have holds := maxGroupTpRate.getD place
    exact ⟨only.group_eq holds, holds⟩
  · obtain rfl := only.2 group inside used
    exact ⟨only.group_eq maxGroupProbRate, maxGroupProbRate⟩

theorem Keeps.onRate (keeps : Keeps supported mi) (group i : Nat)
    (change : RateStats → RateStats) : Keeps supported (mi.onRate group i change) := by
  obtain ⟨same, maxTpRate, maxProbRate, maxGroupTpRate, maxGroupProbRate⟩ := keeps
  refine ⟨same, maxTpRate, maxProbRate, ?_, ?_⟩
  · simp only [MinstrelHtSta.onRate, MinstrelHtSta.onGroup]
    split <;> exact maxGroupTpRate
  · simp only [MinstrelHtSta.onRate, MinstrelHtSta.onGroup]
    split <;> exact maxGroupProbRate

theorem Keeps.setBestProbRate {index : Nat} (keeps : Keeps supported mi)
    (holds : RateSupported supported index) : Keeps supported (mi.setBestProbRate index) := by
  have picks := picks_setBestProbRate mi index
  refine ⟨picks.supported.trans keeps.same, ?_, ?_, ?_, ?_⟩
  · rw [picks.maxTpRate]
    exact keeps.maxTpRate
  · rcases picks.maxProbRate with same | new
    · rw [same]
      exact keeps.maxProbRate
    · rw [new]
      exact holds
  · rw [picks.maxGroupTpRate]
    exact keeps.maxGroupTpRate
  · rcases picks.maxGroupProbRate 0 with same | ⟨_, new⟩
    · rw [same]
      exact keeps.maxGroupProbRate
    · rw [new]
      exact holds

/-- The station and the lists built for it hold supported rates. -/
structure TmpKeeps (supported : Nat → UInt16) (t : Tmp) : Prop where
  mi : Keeps supported t.mi
  mcsTpRate : Within (RateSupported supported) t.mcsTpRate
  cckTpRate : Within (RateSupported supported) t.cckTpRate
  groupTpRate : Within (RateSupported supported) t.groupTpRate

theorem TmpKeeps.rate {t : Tmp} {group i : Nat} (keeps : TmpKeeps supported t)
    (groupInside : group < minstrelGroupsNb) (inside : i < mcsGroupRates) :
    TmpKeeps supported (Tmp.rate group t i) := by
  unfold Tmp.rate
  simp only
  split
  · exact keeps
  rename_i used
  have counted := keeps.mi.onRate group i minstrelCalcRateStats
  split
  · exact ⟨counted, keeps.mcsTpRate, keeps.cckTpRate, keeps.groupTpRate⟩
  have holds : RateSupported supported (mcsGroupRates * group + i) := by
    have div : (mcsGroupRates * group + i) / mcsGroupRates = group := by
      simp only [mcsGroupRates] at inside ⊢
      omega
    have mod : (mcsGroupRates * group + i) % mcsGroupRates = i := by
      simp only [mcsGroupRates] at inside ⊢
      omega
    rw [RateSupported, div, mod, ← keeps.mi.same]
    exact ⟨groupInside, by simpa using used⟩
  refine ⟨counted.setBestProbRate holds, ?_, ?_, keeps.groupTpRate.sortBestTpRates holds⟩
  · simp only
    split
    · exact keeps.mcsTpRate.sortBestTpRates holds
    · exact keeps.mcsTpRate
  · simp only
    split
    · exact keeps.cckTpRate.sortBestTpRates holds
    · exact keeps.cckTpRate

theorem TmpKeeps.group {t : Tmp} {group : Nat} (only : FirstGroupOnly supported)
    (keeps : TmpKeeps supported t) (inside : group < minstrelGroupsNb) :
    TmpKeeps supported (t.group group) := by
  unfold Tmp.group
  simp only
  split
  · exact keeps
  rename_i used
  rw [keeps.mi.same] at used
  obtain rfl := only.2 group inside used
  have start : TmpKeeps supported
      { t with
        mi := { t.mi with sampleCount := t.mi.sampleCount + 1 }
        groupTpRate := List.replicate maxThrRates 0 } :=
    ⟨⟨keeps.mi.same, keeps.mi.maxTpRate, keeps.mi.maxProbRate, keeps.mi.maxGroupTpRate,
      keeps.mi.maxGroupProbRate⟩, keeps.mcsTpRate, keeps.cckTpRate,
      within_replicate only.zero⟩
  have all := List.foldlRecOn (List.range mcsGroupRates) (Tmp.rate 0) start
    fun _ held i member => held.rate (by decide) (List.mem_range.mp member)
  refine ⟨⟨all.mi.same, all.mi.maxTpRate, all.mi.maxProbRate, ?_, ?_⟩, all.mcsTpRate,
    all.cckTpRate, all.groupTpRate⟩
  · exact all.groupTpRate
  · exact all.mi.maxGroupProbRate

theorem Keeps.probRateReduceStreams (only : FirstGroupOnly supported)
    (keeps : Keeps supported mi) : Keeps supported mi.probRateReduceStreams := by
  refine ⟨keeps.same, keeps.maxTpRate, ?_, keeps.maxGroupTpRate, keeps.maxGroupProbRate⟩
  refine List.foldlRecOn (List.range minstrelGroupsNb) _
    (motive := fun best : Nat × UInt32 => RateSupported supported best.1)
    keeps.maxProbRate fun best held group member => ?_
  unfold MinstrelHtSta.reduceStreamsStep
  split
  · exact held
  rename_i used
  obtain ⟨used, _⟩ := not_or.mp used
  rw [keeps.same] at used
  obtain rfl := only.2 group (List.mem_range.mp member) used
  simp only
  split
  · exact keeps.maxGroupProbRate
  · exact held

theorem Keeps.updateAmpdu (keeps : Keeps supported mi) (mp : MinstrelPriv) :
    Keeps supported (mi.updateAmpdu mp) := by
  unfold MinstrelHtSta.updateAmpdu
  split <;> exact ⟨keeps.same, keeps.maxTpRate, keeps.maxProbRate, keeps.maxGroupTpRate,
    keeps.maxGroupProbRate⟩

theorem Keeps.updateStats (only : FirstGroupOnly supported) (keeps : Keeps supported mi)
    (mp : MinstrelPriv) (jiffies : UInt64) : Keeps supported (mi.updateStats mp jiffies) := by
  have start : TmpKeeps supported
      ⟨mi.updateAmpdu mp, List.replicate maxThrRates 0, List.replicate maxThrRates 0,
        List.replicate maxThrRates 0⟩ :=
    ⟨keeps.updateAmpdu mp, within_replicate only.zero, within_replicate only.zero,
      within_replicate only.zero⟩
  have all := List.foldlRecOn (List.range minstrelGroupsNb) Tmp.group start
    fun _ held group member => held.group only (List.mem_range.mp member)
  unfold MinstrelHtSta.updateStats
  simp only
  generalize (List.range minstrelGroupsNb).foldl Tmp.group _ = t at all ⊢
  have assigned : Keeps supported
      { t.mi with maxTpRate := t.mi.assignBestTpRates t.mcsTpRate t.cckTpRate } :=
    ⟨all.mi.same, all.mcsTpRate.assignBestTpRates all.cckTpRate.2, all.mi.maxProbRate,
      all.mi.maxGroupTpRate, all.mi.maxGroupProbRate⟩
  obtain ⟨same, maxTpRate, maxProbRate, maxGroupTpRate, maxGroupProbRate⟩ :=
    assigned.probRateReduceStreams only
  exact ⟨same, maxTpRate, maxProbRate, maxGroupTpRate, maxGroupProbRate⟩

/-! ## Downgrading -/

theorem downgradeGroup_spec {origGroup group chosen : Nat}
    (found : mi.downgradeGroup origGroup group = some chosen) :
    chosen < group ∧ mi.supported chosen ≠ 0 := by
  induction group with
  | zero => exact nomatch found
  | succ group ih =>
      unfold MinstrelHtSta.downgradeGroup at found
      split at found
      · exact ⟨Nat.lt_succ_of_lt (ih found).1, (ih found).2⟩
      split at found
      · exact ⟨Nat.lt_succ_of_lt (ih found).1, (ih found).2⟩
      · rename_i used _
        obtain rfl := Option.some.inj found
        exact ⟨Nat.lt_succ_self _, used⟩

/-- A downgrade from a supported rate takes one of the rates chosen for a supported group. -/
theorem rateSupported_downgradeRate (chosen : Chosen mi) {idx : Nat}
    (holds : RateSupported mi.supported idx) (primary : Bool) :
    RateSupported mi.supported (mi.downgradeRate idx primary) := by
  unfold MinstrelHtSta.downgradeRate
  simp only
  split
  · exact holds
  · rename_i group found
    obtain ⟨lower, used⟩ := downgradeGroup_spec found
    have inside := Nat.lt_trans lower holds.1
    split
    · exact (chosen.maxGroupTpRate group inside used 0 (by decide)).2
    · exact (chosen.maxGroupTpRate group inside used 1 (by decide)).2

theorem Keeps.checkDowngrade (only : FirstGroupOnly supported) (keeps : Keeps supported mi)
    {place : Nat} (inside : place < maxThrRates) (primary : Bool) :
    Keeps supported (mi.checkDowngrade place primary) := by
  unfold MinstrelHtSta.checkDowngrade
  simp only
  split
  · have holds : RateSupported mi.supported (mi.maxTpRate.getD place 0) := by
      rw [keeps.same]
      exact keeps.maxTpRate.getD inside
    have lower := rateSupported_downgradeRate (keeps.chosen only) holds primary
    rw [keeps.same] at lower
    refine ⟨keeps.same, ⟨?_, fun index member => ?_⟩, keeps.maxProbRate, keeps.maxGroupTpRate,
      keeps.maxGroupProbRate⟩
    · rw [List.length_set]
      exact keeps.maxTpRate.1
    · rcases List.mem_or_eq_of_mem_set member with old | rfl
      · exact keeps.maxTpRate.2 index old
      · exact lower
  · exact keeps

theorem Keeps.countRates {mp : MinstrelPriv} {ampduLen ampduAckLen : UInt8}
    (keeps : Keeps supported mi) (rates : List TxRate) :
    Keeps supported (mi.countRates mp ampduLen ampduAckLen rates) := by
  induction rates generalizing mi with
  | nil => exact keeps
  | cons ar rest ih =>
      unfold MinstrelHtSta.countRates
      exact ih (keeps.onRate _ _ _)

theorem Keeps.countPacket (keeps : Keeps supported mi) (probe : Bool) (ampduLen : UInt8) :
    Keeps supported (mi.countPacket probe ampduLen) := by
  unfold MinstrelHtSta.countPacket
  simp only
  split <;> split <;> exact ⟨keeps.same, keeps.maxTpRate, keeps.maxProbRate,
    keeps.maxGroupTpRate, keeps.maxGroupProbRate⟩

theorem Keeps.report (only : FirstGroupOnly supported) (keeps : Keeps supported mi)
    (mp : MinstrelPriv) (probe : Bool) (ampduLen ampduAckLen : UInt8) (rates : List TxRate) :
    Keeps supported (((MinstrelHtSta.countRates mp ampduLen ampduAckLen
      (mi.countPacket probe ampduLen) rates).checkDowngrade 0 true).checkDowngrade 1 false) := by
  have counted := keeps.countPacket probe ampduLen
  have first := Keeps.checkDowngrade only
    (@Keeps.countRates _ _ mp ampduLen ampduAckLen counted rates) (show 0 < maxThrRates by decide)
    true
  exact first.checkDowngrade only (show 1 < maxThrRates by decide) false

theorem Keeps.txStatus (only : FirstGroupOnly supported) (keeps : Keeps supported mi)
    (mp : MinstrelPriv) (st : TxStatus) : Keeps supported (mi.txStatus mp st) := by
  unfold MinstrelHtSta.txStatus
  split
  · exact keeps
  extract_lets ampduAckLen ampduLen counted rated first second due
  have reported : Keeps supported second := keeps.report only mp _ _ _ _
  split
  · exact reported.updateStats only mp st.jiffies
  · exact reported

/-! ## The first update -/

/-- Without attempts there is no probability. -/
structure Silent (mi : MinstrelHtSta) : Prop where
  attempts : ∀ group i, ((mi.groups group).rates i).attempts = 0
  probEwma : ∀ group i, ((mi.groups group).rates i).probEwma = 0

theorem getTpAvg_zero (group i : Nat) : mi.getTpAvg group i 0 = 0 :=
  if_pos (by decide)

theorem Silent.calc (silent : Silent mi) (group i : Nat) :
    Silent (mi.onRate group i minstrelCalcRateStats) := by
  have idles : ∀ mrs : RateStats, mrs.attempts = 0 → mrs.probEwma = 0 →
      (minstrelCalcRateStats mrs).attempts = 0 ∧ (minstrelCalcRateStats mrs).probEwma = 0 := by
    intro mrs idle none
    simp [minstrelCalcRateStats, idle, none]
  have both : ∀ g r, (((mi.onRate group i minstrelCalcRateStats).groups g).rates r).attempts = 0 ∧
      (((mi.onRate group i minstrelCalcRateStats).groups g).rates r).probEwma = 0 := by
    intro g r
    have idle := silent.attempts g r
    have none := silent.probEwma g r
    simp only [MinstrelHtSta.onRate, MinstrelHtSta.onGroup]
    split
    · simp only
      split
      · exact idles _ idle none
      · exact ⟨idle, none⟩
    · exact ⟨idle, none⟩
  exact ⟨fun g r => (both g r).1, fun g r => (both g r).2⟩

/-- The lists and the groups gone through still hold the placeholders. -/
structure Blank (supported : Nat → UInt16) (n : Nat) (t : Tmp) : Prop where
  same : t.mi.supported = supported
  silent : Silent t.mi
  mcsTpRate : t.mcsTpRate = List.replicate maxThrRates 0
  cckTpRate : t.cckTpRate = List.replicate maxThrRates 0
  filled : ∀ group < n, supported group ≠ 0 →
    (t.mi.groups group).maxGroupTpRate = List.replicate maxThrRates group

/-- Without statistics the turn of a rate leaves every list as it is. -/
theorem Blank.rate {n group : Nat} {t : Tmp} (blank : Blank supported n t) (i : Nat) :
    Blank supported n (Tmp.rate group t i) ∧ (Tmp.rate group t i).groupTpRate = t.groupTpRate := by
  unfold Tmp.rate
  simp only
  split
  · exact ⟨blank, rfl⟩
  have silent := blank.silent.calc group i
  rw [silent.probEwma, if_pos (getTpAvg_zero group i)]
  refine ⟨⟨blank.same, silent, blank.mcsTpRate, blank.cckTpRate, fun g inside used => ?_⟩, rfl⟩
  refine Eq.trans ?_ (blank.filled g inside used)
  simp only [MinstrelHtSta.onRate, MinstrelHtSta.onGroup]
  split <;> rfl

theorem Blank.group {n : Nat} {t : Tmp} (blank : Blank supported n t) :
    Blank supported (n + 1) (t.group n) := by
  unfold Tmp.group
  simp only
  split
  · rename_i unused
    rw [blank.same] at unused
    refine ⟨blank.same, blank.silent, blank.mcsTpRate, blank.cckTpRate, fun g inside used => ?_⟩
    rcases Nat.lt_succ_iff_lt_or_eq.mp inside with before | rfl
    · exact blank.filled g before used
    · exact absurd unused used
  have start : Blank supported n
      { t with
        mi := { t.mi with sampleCount := t.mi.sampleCount + 1 }
        groupTpRate := List.replicate maxThrRates n } :=
    ⟨blank.same, ⟨blank.silent.attempts, blank.silent.probEwma⟩, blank.mcsTpRate,
      blank.cckTpRate, blank.filled⟩
  have all := List.foldlRecOn (List.range mcsGroupRates) (Tmp.rate n)
    (motive := fun t => Blank supported n t ∧ t.groupTpRate = List.replicate maxThrRates n)
    ⟨start, rfl⟩ fun _ held i _ => ⟨(held.1.rate i).1, (held.1.rate i).2.trans held.2⟩
  generalize (List.range mcsGroupRates).foldl (Tmp.rate n) _ = after at all ⊢
  obtain ⟨⟨same, silent, mcs, cck, filled⟩, own⟩ := all
  refine ⟨same, ⟨fun g i => ?_, fun g i => ?_⟩, mcs, cck, fun g inside used => ?_⟩
  · simp only [MinstrelHtSta.onGroup]
    split <;> exact silent.attempts g i
  · simp only [MinstrelHtSta.onGroup]
    split <;> exact silent.probEwma g i
  · simp only [MinstrelHtSta.onGroup]
    split
    · rename_i here
      rw [here]
      exact own
    · rename_i away
      exact filled g (Nat.lt_of_le_of_ne (Nat.le_of_lt_succ inside) away) used

/-- After the first update the placeholders are what is chosen. -/
theorem firstGroupOnly_of_chosen {mp : MinstrelPriv} {jiffies : UInt64} (silent : Silent mi)
    (chosen : Chosen (mi.updateStats mp jiffies)) : FirstGroupOnly mi.supported := by
  have start : Blank mi.supported 0
      ⟨mi.updateAmpdu mp, List.replicate maxThrRates 0, List.replicate maxThrRates 0,
        List.replicate maxThrRates 0⟩ := by
    have kept : (mi.updateAmpdu mp).supported = mi.supported ∧
        (mi.updateAmpdu mp).groups = mi.groups := by
      unfold MinstrelHtSta.updateAmpdu
      split <;> exact ⟨rfl, rfl⟩
    refine ⟨kept.1, ⟨?_, ?_⟩, rfl, rfl, nofun⟩
    · rw [kept.2]
      exact silent.attempts
    · rw [kept.2]
      exact silent.probEwma
  have blank : ∀ n, Blank mi.supported n ((List.range n).foldl Tmp.group
      ⟨mi.updateAmpdu mp, List.replicate maxThrRates 0, List.replicate maxThrRates 0,
        List.replicate maxThrRates 0⟩) := by
    intro n
    induction n with
    | zero => exact start
    | succ n ih =>
        rw [List.range_succ, List.foldl_append]
        exact ih.group
  have all := blank minstrelGroupsNb
  unfold MinstrelHtSta.updateStats at chosen
  simp only at chosen
  generalize (List.range minstrelGroupsNb).foldl Tmp.group _ = t at all chosen
  obtain ⟨same, _, mcs, cck, filled⟩ := all
  have maxTpRate : t.mi.assignBestTpRates t.mcsTpRate t.cckTpRate =
      List.replicate maxThrRates 0 := by
    rw [mcs, cck, MinstrelHtSta.assignBestTpRates, if_neg (UInt32.lt_irrefl _)]
  refine ⟨?_, fun group inside used => ?_⟩
  · have first := (chosen.maxTpRate 0 (by decide)).2
    simp only [MinstrelHtSta.probRateReduceStreams, maxTpRate, same] at first
    exact first
  · have own := (chosen.maxGroupTpRate group inside
      (by simpa only [MinstrelHtSta.probRateReduceStreams, same] using used) 0 (by decide)).1
    simp only [MinstrelHtSta.probRateReduceStreams, filled group inside used] at own
    have index : (List.replicate maxThrRates group).getD 0 0 = group := rfl
    rw [index] at own
    simp only [mcsGroupRates] at own
    omega

/-! ## Runs -/

theorem keeps_zeroed (only : FirstGroupOnly supported) (overhead : UInt32) (jiffies : UInt64)
    (hasMrr : Bool) : Keeps supported (zeroed supported overhead jiffies hasMrr) :=
  ⟨rfl, within_replicate only.zero, only.zero, within_replicate only.zero, only.zero⟩

theorem Keeps.step (only : FirstGroupOnly supported) (keeps : Keeps supported mi)
    (mp : MinstrelPriv) (event : Event) : Keeps supported (mi.step mp event) := by
  cases event with
  | txStatus st => exact keeps.txStatus only mp st
  | updateStats jiffies => exact keeps.updateStats only mp jiffies

/-- For a peer of the first group, whatever is chosen in a run is supported. -/
theorem keeps_run (only : FirstGroupOnly supported) (mp : MinstrelPriv)
    (keeps : Keeps supported mi) (events : List Event) :
    Keeps supported (events.foldl (MinstrelHtSta.step mp) mi) :=
  @run_invariant MinstrelHtSta Event (MinstrelHtSta.step mp) (Keeps supported) mi
    (fun _ event held => held.step only mp event) keeps events

/-- A run starts with an update of the zeroed station.  Its choices are supported rates in every
state exactly when the peer supports the first group alone; then they are so in a run that
starts with reports, too.  A downgrade takes a supported rate wherever the choices are. -/
theorem chosen_iff (mp : MinstrelPriv) (supported : Nat → UInt16) (overhead : UInt32)
    (jiffies : UInt64) (hasMrr : Bool) :
    (∀ (first : UInt64) (events : List Event),
      (∀ before, before <+: events → Chosen (before.foldl (MinstrelHtSta.step mp)
        ((zeroed supported overhead jiffies hasMrr).updateStats mp first))) ↔
      FirstGroupOnly supported) ∧
    (FirstGroupOnly supported → ∀ events : List Event, Chosen (events.foldl (MinstrelHtSta.step mp)
      (zeroed supported overhead jiffies hasMrr))) ∧
    ∀ mi idx primary, Chosen mi → RateSupported mi.supported idx →
      RateSupported mi.supported (mi.downgradeRate idx primary) := by
  refine ⟨fun first events => ⟨fun all => ?_, fun only before _ => ?_⟩,
    fun only events => ?_, fun mi idx primary chosen holds =>
      rateSupported_downgradeRate chosen holds primary⟩
  · have silent : Silent (zeroed supported overhead jiffies hasMrr) :=
      ⟨fun _ _ => rfl, fun _ _ => rfl⟩
    exact firstGroupOnly_of_chosen silent (all [] (List.nil_prefix))
  · have start := (keeps_zeroed only overhead jiffies hasMrr).updateStats only mp first
    exact (keeps_run only mp start before).chosen only
  · exact (keeps_run only mp (keeps_zeroed only overhead jiffies hasMrr) events).chosen only

/-- A peer of two streams: its group 1 is left with the index 1, which is a rate of group 0. -/
theorem not_chosen :
    ¬ ∀ (mp : MinstrelPriv) (supported : Nat → UInt16) (jiffies : UInt64),
      (∃ index, RateSupported supported index) →
        Chosen ((zeroed supported 60 0 true).updateStats mp jiffies) := by
  intro all
  have chosen := all {} (fun group => if group < 2 then 0xff else 0) 25
    ⟨0, by decide, by decide⟩
  have only := firstGroupOnly_of_chosen ⟨fun _ _ => rfl, fun _ _ => rfl⟩ chosen
  exact absurd (only.2 1 (by decide) (by decide)) (by decide)

end Iwlwifi.MinstrelHt
