import Mathlib.Data.List.ProdSigma
import Mathlib.Data.List.TakeWhile
import Iwlwifi.Mac80211.MinstrelHtRates
import Iwlwifi.Mac80211.MinstrelCounts

/-!
# What Minstrel-HT counts

A report adds its tries to the rates that it names, as many times as frames were sent, and its
acknowledged frames to the last of them.  Choosing and downgrading rates leaves the statistics
alone, and an update goes through every rate that the peer supports once.
-/

namespace Iwlwifi.MinstrelHt

open Lib RateCounts

/-! ## Reports -/

/-- A frame that was aggregated, in a report without status for it. -/
def statusless (st : TxStatus) : Bool := st.ctlAmpdu && !st.statAmpdu

/-- A chain of rates, with the frames that were sent and acknowledged. -/
def reportFrom (mp : MinstrelPriv) (supported : Nat → UInt16) (chain : List TxRate)
    (frames acked : Nat) : Report (Nat × Nat) where
  chain := chain.map fun ar => (getStats mp supported ar, ar.count.toNat)
  frames
  acked

def reportOf (mp : MinstrelPriv) (supported : Nat → UInt16) (st : TxStatus) :
    Report (Nat × Nat) :=
  if statusless st then reportFrom mp supported [] 0 0
  else
    reportFrom mp supported (chainOf st) (if st.statAmpdu then st.ampduLen.toNat else 1)
      (if st.statAmpdu then st.ampduAckLen.toNat else st.statAck.toNat)

/-- The rates that the peer supports, as group and number. -/
def ratesOf (supported : Nat → UInt16) : List (Nat × Nat) :=
  (List.range minstrelGroupsNb ×ˢ List.range mcsGroupRates).filter fun rate =>
    supports supported rate.1 rate.2

namespace MinstrelHtSta

def stats (mi : MinstrelHtSta) (rate : Nat × Nat) : RateStats := (mi.groups rate.1).rates rate.2

def counters (mi : MinstrelHtSta) : List ((Nat × Nat) × RateStats) :=
  named (ratesOf mi.supported) (fun rate => rate) mi.stats

/-- A report with a status calls for an update of the statistics. -/
def updateDue (mi : MinstrelHtSta) (mp : MinstrelPriv) (st : TxStatus) : Bool :=
  let due := mi.lastStatsUpdate + (mp.updateInterval / 2 * mp.hz / 1000).toUInt64
  !statusless st && decide ((due - st.jiffies).toInt64 < 0)

end MinstrelHtSta

def watch (mp : MinstrelPriv) :
    Watched MinstrelHtSta (Nat × Nat) → TxStatus → Watched MinstrelHtSta (Nat × Nat) :=
  RateCounts.watch (fun mi st => mi.txStatus mp st) (fun mi st => mi.updateDue mp st)
    fun mi st => reportOf mp mi.supported st

/-- A new station after its first update, of which nothing was reported. -/
def watched (mp : MinstrelPriv) (supported : Nat → UInt16) (overhead : UInt32)
    (jiffies : UInt64) (hasMrr : Bool) (first : UInt64) : Watched MinstrelHtSta (Nat × Nat) where
  sta := (zeroed supported overhead jiffies hasMrr).updateStats mp first

/-- The statistics of a station count what was reported. -/
def CountsReports (w : Watched MinstrelHtSta (Nat × Nat)) : Prop :=
  Exact w.since w.finished w.sta.counters

/-- The rates of a report are known to the station: they are rates of its table, and one without
a flag is a CCK rate. -/
structure Known (mp : MinstrelPriv) (supported : Nat → UInt16) (st : TxStatus) : Prop where
  report : (reportOf mp supported st).Known (ratesOf supported)
  cck : ∀ ar ∈ chainOf st, ar.mcs = true ∨ ar.vhtMcs = true ∨ mp.cckRates.contains ar.idx = true

/-- A report that is counted: every rate was tried, and the counters have room for the tries. -/
structure Countable (mp : MinstrelPriv) (mi : MinstrelHtSta) (st : TxStatus) : Prop where
  tried : (reportOf mp mi.supported st).Tried
  room : Room (reportOf mp mi.supported st) mi.counters

/-! ## Rates of a peer -/

section Rates

variable {supported : Nat → UInt16} {rate : Nat × Nat}

theorem mem_ratesOf :
    rate ∈ ratesOf supported ↔ (rate.1 < minstrelGroupsNb ∧ rate.2 < mcsGroupRates) ∧
      supports supported rate.1 rate.2 = true := by
  obtain ⟨group, i⟩ := rate
  rw [ratesOf, List.mem_filter, List.mem_product, List.mem_range, List.mem_range]

theorem nodup_ratesOf (supported : Nat → UInt16) :
    ((ratesOf supported).map fun rate => rate).Nodup := by
  rw [List.map_id']
  exact (List.nodup_range.product List.nodup_range).filter _

end Rates

/-! ## Counting a report -/

section Counting

variable {mi : MinstrelHtSta} {mp : MinstrelPriv} {supported : Nat → UInt16} {frames acked : Nat}
  {ar : TxRate} {chain : List TxRate}

theorem attempts_cons (rate : Nat × Nat) :
    (reportFrom mp supported (ar :: chain) frames acked).attempts rate =
      (if getStats mp supported ar = rate then ar.count.toNat * frames else 0) +
        (reportFrom mp supported chain frames acked).attempts rate := by
  simp only [Report.attempts, reportFrom, List.map_cons, weigh_cons]

theorem credited_cons (rate : Nat × Nat) :
    (reportFrom mp supported (ar :: chain) frames acked).credited rate =
      (if getStats mp supported ar = rate then if chain = [] then acked else 0 else 0) +
        (reportFrom mp supported chain frames acked).credited rate := by
  rcases chain with - | ⟨next, chain⟩
  · by_cases here : getStats mp supported ar = rate <;> simp [Report.credited, reportFrom, here]
  · rw [if_neg (List.cons_ne_nil next chain), ite_self, Nat.zero_add]
    rfl

theorem stats_onRate (mi : MinstrelHtSta) (group i : Nat) (change : RateStats → RateStats)
    (rate : Nat × Nat) :
    (mi.onRate group i change).stats rate =
      if (group, i) = rate then change (mi.stats rate) else mi.stats rate := by
  obtain ⟨g, r⟩ := rate
  simp only [MinstrelHtSta.stats, MinstrelHtSta.onRate, MinstrelHtSta.onGroup, Prod.mk.injEq]
  by_cases sameGroup : g = group
  · by_cases same : r = i
    · simp [sameGroup, same]
    · simp [sameGroup, same, Ne.symm same]
  · simp [sameGroup, Ne.symm sameGroup]

/-- What of a station the statistics are read with. -/
structure SameFrame (mi after : MinstrelHtSta) : Prop where
  supported : after.supported = mi.supported
  lastStatsUpdate : after.lastStatsUpdate = mi.lastStatsUpdate

/-- The rates of a chain add what the chain comes to. -/
theorem countRates_adds (ampduLen ampduAckLen : UInt8) (rates : List TxRate) :
    SameFrame mi (MinstrelHtSta.countRates mp ampduLen ampduAckLen mi rates) ∧
      ∀ rate, Adds (mi.stats rate)
        ((MinstrelHtSta.countRates mp ampduLen ampduAckLen mi rates).stats rate)
        ((reportFrom mp mi.supported rates ampduLen.toNat ampduAckLen.toNat).attempts rate)
        ((reportFrom mp mi.supported rates ampduLen.toNat ampduAckLen.toNat).credited rate) := by
  induction rates generalizing mi with
  | nil => exact ⟨⟨rfl, rfl⟩, fun rate => Adds.refl⟩
  | cons ar rest ih =>
      rw [MinstrelHtSta.countRates]
      dsimp only
      generalize changed : mi.onRate _ _ _ = next
      obtain rfl := changed
      obtain ⟨frame, adds⟩ := @ih _
      refine ⟨⟨frame.supported, frame.lastStatsUpdate⟩, fun rate => ?_⟩
      rw [attempts_cons, credited_cons]
      refine Adds.trans ?_ (adds rate)
      rw [stats_onRate]
      by_cases here : getStats mp mi.supported ar = rate
      · rw [if_pos here, if_pos here, if_pos here]
        refine ⟨?_, ?_, rfl, rfl, rfl⟩
        · rw [UInt16.ofNat_mul, UInt16.ofNat_toNat, UInt16.ofNat_uInt8ToNat]
        · rcases rest with - | ⟨next, rest⟩ <;> simp
      · rw [if_neg here, if_neg here, if_neg here]
        exact Adds.refl

/-- Up to the end of the chain every rate has a valid status, if all are known and were tried. -/
theorem takeWhile_valid {rates : List TxRate}
    (valid : ∀ ar ∈ rates.takeWhile fun ar => decide (0 ≤ ar.idx), txstatValid mp ar = true) :
    rates.takeWhile (txstatValid mp) = rates.takeWhile fun ar => decide (0 ≤ ar.idx) := by
  induction rates with
  | nil => rfl
  | cons ar rest ih =>
      by_cases goes : 0 ≤ ar.idx
      · simp only [List.takeWhile_cons, goes, decide_true, if_true] at valid ⊢
        rw [if_pos (valid ar List.mem_cons_self),
          ih fun other member => valid other (List.mem_cons_of_mem ar member)]
      · have invalid : txstatValid mp ar = false := if_pos (Int.not_le.mp goes)
        simp only [List.takeWhile_cons, goes, invalid, decide_false, Bool.false_eq_true, if_false]

end Counting

/-! ## The update -/

section Update

variable {mi middle after : MinstrelHtSta} {P Q : Nat × Nat → Prop}

/-- The statistics of some rates are updated, and no others. -/
structure Calculated (mi after : MinstrelHtSta) (P : Nat × Nat → Prop) : Prop where
  supported : after.supported = mi.supported
  updated : ∀ rate, P rate → after.stats rate = minstrelCalcRateStats (mi.stats rate)
  others : ∀ rate, ¬ P rate → after.stats rate = mi.stats rate

theorem Calculated.trans (first : Calculated mi middle P) (second : Calculated middle after Q)
    (apart : ∀ rate, P rate → ¬ Q rate) :
    Calculated mi after fun rate => P rate ∨ Q rate := by
  refine ⟨second.supported.trans first.supported, fun rate turn => ?_, fun rate none => ?_⟩
  · rcases turn with earlier | later
    · rw [second.others rate (apart rate earlier), first.updated rate earlier]
    · have before : ¬ P rate := fun earlier => apart rate earlier later
      rw [second.updated rate later, first.others rate before]
  · obtain ⟨notEarlier, notLater⟩ := not_or.mp none
    rw [second.others rate notLater, first.others rate notEarlier]

theorem Calculated.congr (calculated : Calculated mi after P) (same : ∀ rate, P rate ↔ Q rate) :
    Calculated mi after Q :=
  ⟨calculated.supported, fun rate turn => calculated.updated rate ((same rate).mpr turn),
    fun rate none => calculated.others rate fun turn => none ((same rate).mp turn)⟩

/-- A station that differs in what is chosen only. -/
theorem calculated_of_same (supported : after.supported = mi.supported)
    (stats : ∀ rate, after.stats rate = mi.stats rate) :
    Calculated mi after fun _ => False :=
  ⟨supported, fun _ turn => turn.elim, fun rate _ => stats rate⟩

theorem stats_onGroup (mi : MinstrelHtSta) (group : Nat) {change : McsGroupData → McsGroupData}
    (same : ∀ mg, (change mg).rates = mg.rates) (rate : Nat × Nat) :
    (mi.onGroup group change).stats rate = mi.stats rate := by
  simp only [MinstrelHtSta.stats, MinstrelHtSta.onGroup]
  split
  · rw [same]
  · rfl

theorem stats_setBestProbRate (mi : MinstrelHtSta) (index : Nat) (rate : Nat × Nat) :
    (mi.setBestProbRate index).stats rate = mi.stats rate := by
  unfold MinstrelHtSta.setBestProbRate
  dsimp only
  split
  · rfl
  · cases mi.betterProbRate index (mi.groups (index / mcsGroupRates)).maxGroupProbRate <;>
      cases mi.betterProbRate index mi.maxProbRate <;>
      simp only [if_true, if_false, Bool.false_eq_true]
    · rfl
    · apply stats_onGroup
      exact fun _ => rfl
    · apply stats_onGroup
      exact fun _ => rfl

/-- The turn of a rate updates its statistics if it is supported. -/
theorem calculated_rate (group : Nat) (t : Tmp) (i : Nat) :
    Calculated t.mi (Tmp.rate group t i).mi fun rate =>
      rate = (group, i) ∧ supports t.mi.supported group i = true := by
  unfold Tmp.rate
  dsimp only
  split
  · next unsupported =>
    refine (calculated_of_same rfl fun _ => rfl).congr fun rate => ?_
    simp [unsupported]
  next supported =>
  have own : Calculated t.mi (t.mi.onRate group i minstrelCalcRateStats) fun rate =>
      rate = (group, i) ∧ supports t.mi.supported group i = true := by
    refine ⟨rfl, fun rate turn => ?_, fun rate none => ?_⟩
    · rw [stats_onRate, if_pos turn.1.symm]
    · rw [stats_onRate, if_neg fun same => none ⟨same.symm, by simpa using supported⟩]
  split
  · exact own
  · have chosen := own.trans (calculated_of_same (picks_setBestProbRate _ _).supported
      (stats_setBestProbRate _ (mcsGroupRates * group + i))) fun _ _ => not_false
    exact chosen.congr fun rate => iff_of_eq (or_false _)

/-- The turns of some rates of a group. -/
theorem calculated_rates (group : Nat) (t : Tmp) (n : Nat) :
    Calculated t.mi ((List.range n).foldl (Tmp.rate group) t).mi fun rate =>
      rate.1 = group ∧ rate.2 < n ∧ supports t.mi.supported group rate.2 = true := by
  induction n with
  | zero =>
      refine (calculated_of_same rfl fun _ => rfl).congr fun rate => ?_
      simp
  | succ n ih =>
      rw [List.range_succ, List.foldl_append]
      have turn := calculated_rate group ((List.range n).foldl (Tmp.rate group) t) n
      rw [ih.supported] at turn
      refine (ih.trans turn fun rate earlier => ?_).congr fun rate => ?_
      · rintro ⟨rfl, -⟩
        exact Nat.lt_irrefl n earlier.2.1
      · obtain ⟨g, r⟩ := rate
        simp only [Prod.mk.injEq]
        constructor
        · rintro (⟨rfl, below, used⟩ | ⟨⟨rfl, rfl⟩, used⟩)
          · exact ⟨rfl, Nat.lt_succ_of_lt below, used⟩
          · exact ⟨rfl, Nat.lt_succ_self r, used⟩
        · rintro ⟨rfl, below, used⟩
          rcases Nat.lt_succ_iff_lt_or_eq.mp below with before | rfl
          · exact .inl ⟨rfl, before, used⟩
          · exact .inr ⟨⟨rfl, rfl⟩, used⟩

/-- The turn of a group updates its rates. -/
theorem calculated_group (t : Tmp) (group : Nat) :
    Calculated t.mi (t.group group).mi fun rate =>
      rate.1 = group ∧ rate.2 < mcsGroupRates ∧
        supports t.mi.supported group rate.2 = true := by
  unfold Tmp.group
  dsimp only
  split
  · next unused =>
    refine (calculated_of_same rfl fun _ => rfl).congr fun rate => ?_
    refine ⟨False.elim, fun turn => ?_⟩
    exact supported_ne_zero turn.2.2 unused
  · have turns := calculated_rates group
      { t with
        mi := { t.mi with sampleCount := t.mi.sampleCount + 1 }
        groupTpRate := List.replicate maxThrRates group } mcsGroupRates
    generalize (List.range mcsGroupRates).foldl (Tmp.rate group) _ = last at turns ⊢
    have filled : ∀ rate, (last.mi.onGroup group fun mg =>
        { mg with maxGroupTpRate := last.groupTpRate }).stats rate = last.mi.stats rate := by
      apply stats_onGroup
      exact fun _ => rfl
    exact ⟨turns.supported, fun rate turn => (filled rate).trans (turns.updated rate turn),
      fun rate none => (filled rate).trans (turns.others rate none)⟩

theorem calculated_groups (t : Tmp) (n : Nat) :
    Calculated t.mi ((List.range n).foldl Tmp.group t).mi fun rate =>
      rate.1 < n ∧ rate.2 < mcsGroupRates ∧ supports t.mi.supported rate.1 rate.2 = true := by
  induction n with
  | zero =>
      refine (calculated_of_same rfl fun _ => rfl).congr fun rate => ?_
      simp
  | succ n ih =>
      rw [List.range_succ, List.foldl_append]
      have turn := calculated_group ((List.range n).foldl Tmp.group t) n
      rw [ih.supported] at turn
      refine (ih.trans turn fun rate earlier later => ?_).congr fun rate => ?_
      · exact absurd earlier.1 (later.1 ▸ Nat.lt_irrefl n)
      · constructor
        · rintro (⟨below, rest⟩ | ⟨here, rest⟩)
          · exact ⟨Nat.lt_succ_of_lt below, rest⟩
          · rw [here]
            exact ⟨Nat.lt_succ_self n, here ▸ rest⟩
        · rintro ⟨below, rest⟩
          rcases Nat.lt_succ_iff_lt_or_eq.mp below with before | here
          · exact .inl ⟨before, rest⟩
          · exact .inr ⟨here, here ▸ rest⟩

/-- An update goes through every rate that the peer supports. -/
theorem calculated_updateStats (mi : MinstrelHtSta) (mp : MinstrelPriv) (jiffies : UInt64) :
    Calculated mi (mi.updateStats mp jiffies) fun rate => rate ∈ ratesOf mi.supported := by
  have start : (mi.updateAmpdu mp).supported = mi.supported ∧
      ∀ rate, (mi.updateAmpdu mp).stats rate = mi.stats rate := by
    unfold MinstrelHtSta.updateAmpdu
    dsimp only
    split <;> exact ⟨rfl, fun _ => rfl⟩
  have turns := calculated_groups ⟨mi.updateAmpdu mp, List.replicate maxThrRates 0,
    List.replicate maxThrRates 0, List.replicate maxThrRates 0⟩ minstrelGroupsNb
  unfold MinstrelHtSta.updateStats
  dsimp only at turns ⊢
  generalize (List.range minstrelGroupsNb).foldl Tmp.group _ = t at turns ⊢
  have turn_iff : ∀ rate : Nat × Nat, rate ∈ ratesOf mi.supported ↔
      rate.1 < minstrelGroupsNb ∧ rate.2 < mcsGroupRates ∧
        supports (mi.updateAmpdu mp).supported rate.1 rate.2 = true := fun rate => by
    rw [mem_ratesOf, start.1, and_assoc]
  refine ⟨turns.supported.trans start.1, fun rate turn => ?_, fun rate none => ?_⟩
  · rw [← start.2]
    exact turns.updated rate ((turn_iff rate).mp turn)
  · rw [← start.2]
    exact turns.others rate (mt (turn_iff rate).mpr none)

end Update

/-! ## Runs -/

section Run

variable {mi : MinstrelHtSta} {mp : MinstrelPriv} {st : TxStatus}

theorem countPacket_same (mi : MinstrelHtSta) (probe : Bool) (ampduLen : UInt8) :
    SameFrame mi (mi.countPacket probe ampduLen) ∧
      (mi.countPacket probe ampduLen).groups = mi.groups := by
  unfold MinstrelHtSta.countPacket
  dsimp only
  split <;> split <;> exact ⟨⟨rfl, rfl⟩, rfl⟩

theorem checkDowngrade_same (mi : MinstrelHtSta) (place : Nat) (primary : Bool) :
    SameFrame mi (mi.checkDowngrade place primary) ∧
      (mi.checkDowngrade place primary).groups = mi.groups := by
  unfold MinstrelHtSta.checkDowngrade
  dsimp only
  split <;> exact ⟨⟨rfl, rfl⟩, rfl⟩

/-- The rates of a report that are gone through are all of its chain. -/
theorem takeWhile_chain (known : Known mp mi.supported st)
    (tried : (reportOf mp mi.supported st).Tried) (skipped : ¬ statusless st = true) :
    (st.rates.take ieee80211TxMaxRates).takeWhile (txstatValid mp) = chainOf st := by
  rw [reportOf, if_neg skipped] at tried
  refine takeWhile_valid fun ar member => ?_
  have goes : ¬ ar.idx < 0 := by simpa using List.mem_takeWhile_imp member
  have once : ¬ ar.count = 0 := by
    rintro none
    have := tried _ (List.mem_map_of_mem member)
    simp [none] at this
  rw [txstatValid, if_neg goes, if_neg once]
  rcases known.cck ar member with mcs | vhtMcs | cck
  · simp [mcs]
  · simp [vhtMcs]
  · rw [cck, ite_self]

/-- Between the frame that is counted and the update, a report does nothing to the counters but
add what it says. -/
theorem counted_adds (mi : MinstrelHtSta) (mp : MinstrelPriv) (probe : Bool)
    (ampduLen ampduAckLen : UInt8) (chain : List TxRate) :
    let last := ((MinstrelHtSta.countRates mp ampduLen ampduAckLen
      (mi.countPacket probe ampduLen) chain).checkDowngrade 0 true).checkDowngrade 1 false
    SameFrame mi last ∧ ∀ rate, Adds (mi.stats rate) (last.stats rate)
      ((reportFrom mp mi.supported chain ampduLen.toNat ampduAckLen.toNat).attempts rate)
      ((reportFrom mp mi.supported chain ampduLen.toNat ampduAckLen.toNat).credited rate) := by
  obtain ⟨packet, packetGroups⟩ := countPacket_same mi probe ampduLen
  generalize mi.countPacket probe ampduLen = start at packet packetGroups ⊢
  obtain ⟨counting, adds⟩ := @countRates_adds start mp ampduLen ampduAckLen chain
  generalize MinstrelHtSta.countRates mp ampduLen ampduAckLen start chain = counted
    at counting adds ⊢
  obtain ⟨first, firstGroups⟩ := checkDowngrade_same counted 0 true
  generalize counted.checkDowngrade 0 true = checked at first firstGroups ⊢
  obtain ⟨second, secondGroups⟩ := checkDowngrade_same checked 1 false
  generalize checked.checkDowngrade 1 false = last at second secondGroups ⊢
  refine ⟨⟨?_, ?_⟩, fun rate => ?_⟩
  · rw [second.supported, first.supported, counting.supported, packet.supported]
  · rw [second.lastStatsUpdate, first.lastStatsUpdate, counting.lastStatsUpdate,
      packet.lastStatsUpdate]
  · have groups : last.groups = counted.groups := secondGroups.trans firstGroups
    have added := adds rate
    rw [packet.supported] at added
    simp only [MinstrelHtSta.stats, packetGroups, groups] at added ⊢
    exact added

/-- A report that is counted adds what it says, and if an update is due the rates are updated. -/
theorem txStatus_adds (known : Known mp mi.supported st)
    (tried : (reportOf mp mi.supported st).Tried) :
    ∃ stats : Nat × Nat → RateStats,
      (∀ rate, Adds (mi.stats rate) (stats rate) ((reportOf mp mi.supported st).attempts rate)
        ((reportOf mp mi.supported st).credited rate)) ∧
      (mi.txStatus mp st).supported = mi.supported ∧
      ∀ rate ∈ ratesOf mi.supported, (mi.txStatus mp st).stats rate =
        if mi.updateDue mp st then minstrelCalcRateStats (stats rate) else stats rate := by
  by_cases skipped : statusless st = true
  · have stays : mi.txStatus mp st = mi := if_pos skipped
    have noUpdate : mi.updateDue mp st = false := by
      simp only [MinstrelHtSta.updateDue, skipped, Bool.not_true, Bool.false_and]
    rw [reportOf, if_pos skipped, stays, noUpdate]
    exact ⟨mi.stats, fun rate => Adds.refl, rfl, fun rate _ => rfl⟩
  have valid := takeWhile_chain known tried skipped
  rw [reportOf, if_neg skipped]
  have frames : (if st.statAmpdu then st.ampduLen.toNat else 1) =
      (if st.statAmpdu then st.ampduLen else 1).toNat := by
    cases st.statAmpdu <;> rfl
  have acks : (if st.statAmpdu then st.ampduAckLen.toNat else st.statAck.toNat) =
      (if st.statAmpdu then st.ampduAckLen else if st.statAck then 1 else 0).toNat := by
    cases st.statAmpdu <;> cases st.statAck <;> rfl
  have status : ¬ (st.ctlAmpdu && !st.statAmpdu) = true := skipped
  rw [frames, acks, MinstrelHtSta.txStatus, if_neg status]
  dsimp only
  rw [valid]
  generalize (if st.statAmpdu then st.ampduLen else 1 : UInt8) = ampduLen
  generalize (if st.statAmpdu then st.ampduAckLen else if st.statAck then 1 else 0 : UInt8) =
    ampduAckLen
  obtain ⟨frame, adds⟩ :=
    counted_adds mi mp st.rateCtrlProbe ampduLen ampduAckLen (chainOf st)
  generalize ((MinstrelHtSta.countRates mp ampduLen ampduAckLen _ (chainOf st)).checkDowngrade
    0 true).checkDowngrade 1 false = last at frame adds ⊢
  refine ⟨last.stats, adds, ?_⟩
  have due : mi.updateDue mp st = decide ((last.lastStatsUpdate +
      (mp.updateInterval / 2 * mp.hz / 1000).toUInt64 - st.jiffies).toInt64 < 0) := by
    simp only [MinstrelHtSta.updateDue, skipped, Bool.not_false, Bool.true_and,
      frame.lastStatsUpdate]
  rw [due]
  split
  · next late =>
    have calculated := calculated_updateStats last mp st.jiffies
    refine ⟨calculated.supported.trans frame.supported, fun rate member => ?_⟩
    rw [if_pos (decide_eq_true late)]
    exact calculated.updated rate (frame.supported ▸ member)
  · next early =>
    refine ⟨frame.supported, fun rate _ => ?_⟩
    rw [if_neg (by simpa using early)]

/-- A report that is counted keeps the counts. -/
theorem CountsReports.watch {w : Watched MinstrelHtSta (Nat × Nat)} (held : CountsReports w)
    (known : Known mp w.sta.supported st) (countable : Countable mp w.sta st) :
    CountsReports (watch mp w st) := by
  obtain ⟨stats, adds, supported, after⟩ := txStatus_adds known countable.tried
  have report : (reportOf mp w.sta.supported st).Known
      ((ratesOf w.sta.supported).map fun rate => rate) := by
    rw [List.map_id']
    exact known.report
  have counters : (w.sta.txStatus mp st).counters = named (ratesOf w.sta.supported)
      (fun rate => rate) (w.sta.txStatus mp st).stats := by
    rw [MinstrelHtSta.counters, supported]
  unfold MinstrelHt.watch
  apply Exact.watch held (nodup_ratesOf w.sta.supported)
  · exact report
  · exact countable.tried.last
  · exact countable.room
  · exact fun rate _ => adds rate
  · exact after
  · exact counters

theorem supported_watched (mp : MinstrelPriv) (supported : Nat → UInt16) (overhead : UInt32)
    (jiffies : UInt64) (hasMrr : Bool) (first : UInt64) :
    (watched mp supported overhead jiffies hasMrr first).sta.supported = supported :=
  (calculated_updateStats (zeroed supported overhead jiffies hasMrr) mp first).supported

theorem counts_watched (mp : MinstrelPriv) (supported : Nat → UInt16) (overhead : UInt32)
    (jiffies : UInt64) (hasMrr : Bool) (first : UInt64) :
    CountsReports (watched mp supported overhead jiffies hasMrr first) := by
  have calculated := calculated_updateStats (zeroed supported overhead jiffies hasMrr) mp first
  have idle : ∀ rate ∈ ratesOf (watched mp supported overhead jiffies hasMrr first).sta.supported,
      (watched mp supported overhead jiffies hasMrr first).sta.stats rate =
        minstrelCalcRateStats {} := by
    rw [supported_watched]
    exact fun rate member => calculated.updated rate member
  apply exact_nil <;> intro rate member <;> rw [idle rate member] <;> decide

/-- In the counters of a new station there is room for what a report alone fits into. -/
theorem room_watched {overhead : UInt32} {jiffies first : UInt64} {hasMrr : Bool}
    {supported : Nat → UInt16} {report : Report (Nat × Nat)}
    (fits : ∀ rate ∈ ratesOf (watched mp supported overhead jiffies hasMrr first).sta.supported,
      report.attempts rate < 2 ^ 16) :
    Room report (watched mp supported overhead jiffies hasMrr first).sta.counters := by
  refine List.forall_mem_map.mpr fun rate member => ?_
  have none := (counts_watched mp supported overhead jiffies hasMrr first).current.attempts _
    (mem_named member _)
  rw [none, watched, weigh_nil, Nat.zero_add]
  exact fits rate member

/-- Along a run whose reports are counted the statistics count what was reported. -/
theorem exact_run (mp : MinstrelPriv) (supported : Nat → UInt16) (overhead : UInt32)
    (jiffies : UInt64) (hasMrr : Bool) (first : UInt64) {reports : List TxStatus}
    (run : Admissible (watch mp)
      (fun w st => Known mp w.sta.supported st ∧ Countable mp w.sta st)
      (watched mp supported overhead jiffies hasMrr first) reports) :
    CountsReports (reports.foldl (watch mp)
      (watched mp supported overhead jiffies hasMrr first)) :=
  run.invariant (fun _ _ held counted => held.watch counted.1 counted.2)
    (counts_watched mp supported overhead jiffies hasMrr first)

end Run

end Iwlwifi.MinstrelHt

namespace Iwlwifi.RateCounts

open Lib
open MinstrelHt (TxStatus MinstrelPriv)

/-- Of reports about rates that a station knows, and that are counted, the statistics of both
algorithms count what was reported. -/
theorem statistics_exact (mp : MinstrelPriv) :
    (∀ (nBitrates : Nat) (usable : Nat → Bool) (times : Nat → Minstrel.RateTimes)
      (jiffies : UInt64) (reports : List TxStatus),
      Admissible (Minstrel.watch mp)
        (fun w st => (Minstrel.reportOf st).Known w.sta.rixes ∧ Minstrel.Countable w.sta st)
        (Minstrel.watched nBitrates usable times jiffies) reports →
      Minstrel.CountsReports (reports.foldl (Minstrel.watch mp)
        (Minstrel.watched nBitrates usable times jiffies))) ∧
    ∀ (supported : Nat → UInt16) (overhead : UInt32) (jiffies : UInt64) (hasMrr : Bool)
      (first : UInt64) (reports : List TxStatus),
      Admissible (MinstrelHt.watch mp)
        (fun w st => MinstrelHt.Known mp w.sta.supported st ∧ MinstrelHt.Countable mp w.sta st)
        (MinstrelHt.watched mp supported overhead jiffies hasMrr first) reports →
      MinstrelHt.CountsReports (reports.foldl (MinstrelHt.watch mp)
        (MinstrelHt.watched mp supported overhead jiffies hasMrr first)) := by
  refine ⟨fun nBitrates usable times jiffies reports run => ?_,
    fun supported overhead jiffies hasMrr first reports run => ?_⟩
  · exact Minstrel.exact_run mp nBitrates usable times jiffies run
  · exact MinstrelHt.exact_run mp supported overhead jiffies hasMrr first run

/-- A report with or without an acknowledgement, of a chain of rates. -/
def legacyReport (jiffies : UInt64) (statAck : Bool) (chain : List (Int × UInt16)) : TxStatus where
  jiffies
  statAck
  rates := chain.map fun tried => { idx := tried.1, count := tried.2 }

/-- An aggregate of three frames, of which two were acknowledged at the second rate. -/
def ampduReport : TxStatus where
  jiffies := 1
  ctlAmpdu := true
  statAmpdu := true
  ampduLen := 3
  ampduAckLen := 2
  rates := [{ idx := 5, count := 2, mcs := true }, { idx := 4, count := 1, mcs := true }]

def firstGroup (group : Nat) : UInt16 := if group = 0 then 0xff else 0

/-- Four legacy rates, in a run with an update, and an aggregate at HT rates. -/
theorem statistics_exact_reports :
    Minstrel.CountsReports ([legacyReport 1 true [(3, 2), (1, 1)],
        legacyReport 30 false [(3, 2), (2, 2), (1, 2), (0, 1)]].foldl (Minstrel.watch {})
      (Minstrel.watched 4 (fun _ => true) (fun _ => ⟨0, 7⟩) 0)) ∧
    MinstrelHt.CountsReports ([ampduReport].foldl (MinstrelHt.watch {})
      (MinstrelHt.watched {} firstGroup 60 0 true 0)) := by
  refine ⟨(statistics_exact {}).1 4 _ _ 0 _ ⟨⟨?_, ?_⟩, ⟨?_, ?_⟩, trivial⟩,
    (statistics_exact {}).2 firstGroup 60 0 true 0 _ ⟨⟨?_, ?_⟩, trivial⟩⟩
  · decide
  · exact ⟨by decide, by decide, by decide⟩
  · decide
  · exact ⟨by decide, by decide, by decide⟩
  · rw [MinstrelHt.supported_watched]
    exact ⟨by decide, by decide⟩
  · refine ⟨?_, MinstrelHt.room_watched ?_⟩ <;> rw [MinstrelHt.supported_watched] <;> decide

/-- An acknowledged frame whose rates fill the array is no success of any of them. -/
theorem not_statistics_exact :
    ¬ ∀ (mp : MinstrelPriv) (nBitrates : Nat) (usable : Nat → Bool)
      (times : Nat → Minstrel.RateTimes) (jiffies : UInt64) (reports : List TxStatus),
      Admissible (Minstrel.watch mp) (fun w st => (Minstrel.reportOf st).Known w.sta.rixes)
        (Minstrel.watched nBitrates usable times jiffies) reports →
      Minstrel.CountsReports (reports.foldl (Minstrel.watch mp)
        (Minstrel.watched nBitrates usable times jiffies)) := by
  intro all
  have counts := all {} 4 (fun _ => true) (fun _ => ⟨0, 7⟩) 0
    [legacyReport 1 true [(3, 2), (2, 2), (1, 2), (0, 1)]] (by decide)
  exact absurd counts.current.acked (by decide)

end Iwlwifi.RateCounts
