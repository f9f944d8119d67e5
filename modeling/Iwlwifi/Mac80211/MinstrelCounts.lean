import Iwlwifi.Mac80211.RateCounts

/-!
# What Minstrel counts

A rate is found in the table of a station by its index in the band: the indices grow along the
table, so that none stands behind its own place.  A report adds its tries to the rates that it
names; its success goes to the last of them unless the rates fill the array.
-/

namespace Iwlwifi.Minstrel

open Lib RateCounts
open MinstrelHt (ieee80211TxMaxRates RateStats TxRate TxStatus MinstrelPriv minstrelCalcRateStats)

/-! ## Reports -/

/-- A chain of rates, with what was acknowledged of one frame. -/
def reportFrom (chain : List TxRate) (acked : Nat) : Report Int where
  chain := chain.map fun ar => (ar.idx, ar.count.toNat)
  frames := 1
  acked

def reportOf (st : TxStatus) : Report Int := reportFrom (chainOf st) st.statAck.toNat

namespace MinstrelSta

/-- The indices of the rates that the station knows. -/
def rixes (mi : MinstrelSta) : List Int := (List.range mi.nRates).map fun n => (mi.r n).rix

def counters (mi : MinstrelSta) : List (Int × RateStats) :=
  named (List.range mi.nRates) (fun n => (mi.r n).rix) fun n => (mi.r n).stats

end MinstrelSta

def watch (mp : MinstrelPriv) : Watched MinstrelSta Int → TxStatus → Watched MinstrelSta Int :=
  RateCounts.watch (fun mi st => mi.txStatus mp st) (fun mi st => mi.updateDue mp st.jiffies)
    fun _ st => reportOf st

/-- A new station, of which nothing was reported. -/
def watched (nBitrates : Nat) (usable : Nat → Bool) (times : Nat → RateTimes)
    (jiffies : UInt64) : Watched MinstrelSta Int where
  sta := rateInit nBitrates usable times jiffies

/-- The statistics of a station count what was reported. -/
def CountsReports (w : Watched MinstrelSta Int) : Prop := Exact w.since w.finished w.sta.counters

/-- A report that is counted: the last rate was tried, the counters have room for the tries, and
the rates of a frame that was acknowledged do not fill the array. -/
structure Countable (mi : MinstrelSta) (st : TxStatus) : Prop where
  tried : (reportOf st).LastTried
  room : Room (reportOf st) mi.counters
  ends : st.statAck = true → (chainOf st).length < ieee80211TxMaxRates

/-! ## The table -/

/-- A table in which each rate is found from its own index down. -/
structure Table (mi : MinstrelSta) : Prop where
  ahead : ∀ n < mi.nRates, (n : Int) ≤ (mi.r n).rix
  distinct : ∀ n < mi.nRates, ∀ m < mi.nRates, (mi.r n).rix = (mi.r m).rix → n = m
  unused : ∀ n, mi.nRates ≤ n → (mi.r n).rix = -1

/-- Two stations with the same table. -/
structure SameTable (mi after : MinstrelSta) : Prop where
  nRates : after.nRates = mi.nRates
  rix : ∀ n, (after.r n).rix = (mi.r n).rix

section Table

variable {mi middle after : MinstrelSta} {n : Nat} {rix : Int}

theorem SameTable.refl : SameTable mi mi := ⟨rfl, fun _ => rfl⟩

theorem SameTable.trans (first : SameTable mi middle) (second : SameTable middle after) :
    SameTable mi after :=
  ⟨second.nRates.trans first.nRates, fun n => (second.rix n).trans (first.rix n)⟩

theorem SameTable.table (same : SameTable mi after) (table : Table mi) : Table after := by
  refine ⟨fun n inside => ?_, fun n inside m inside' equal => ?_, fun n outside => ?_⟩
  · rw [same.nRates] at inside
    rw [same.rix]
    exact table.ahead n inside
  · rw [same.nRates] at inside inside'
    rw [same.rix, same.rix] at equal
    exact table.distinct n inside m inside' equal
  · rw [same.nRates] at outside
    rw [same.rix]
    exact table.unused n outside

theorem SameTable.counters (same : SameTable mi after) :
    after.counters = named (List.range mi.nRates) (fun n => (mi.r n).rix)
      fun n => (after.r n).stats := by
  rw [MinstrelSta.counters, same.nRates]
  exact List.map_congr_left fun n _ => Prod.ext (same.rix n) rfl

theorem SameTable.rixes (same : SameTable mi after) : after.rixes = mi.rixes := by
  rw [MinstrelSta.rixes, MinstrelSta.rixes, same.nRates]
  exact List.map_congr_left fun n _ => same.rix n

theorem Table.nodup (table : Table mi) : mi.rixes.Nodup := by
  apply List.Nodup.map_on _ List.nodup_range
  intro n inside m inside' equal
  exact table.distinct n (List.mem_range.mp inside) m (List.mem_range.mp inside') equal

/-- Only one place has the index of a rate that is known. -/
theorem Table.rix_iff (table : Table mi) (inside : n < mi.nRates) (m : Nat) :
    (mi.r m).rix = (mi.r n).rix ↔ m = n := by
  refine ⟨fun equal => ?_, fun same => same ▸ rfl⟩
  rcases Nat.lt_or_ge m mi.nRates with inside' | outside
  · exact table.distinct m inside' n inside equal
  · have := table.unused m outside
    have := table.ahead n inside
    omega

theorem ndxBelow_eq (only : ∀ m, (mi.r m).rix = rix ↔ m = n) {k : Nat} (below : n < k) :
    mi.ndxBelow rix k = some n := by
  induction k with
  | zero => omega
  | succ k ih =>
      rw [MinstrelSta.ndxBelow]
      by_cases here : (mi.r k).rix = rix
      · rw [if_pos here, (only k).mp here]
      · have : n ≠ k := fun same => here ((only k).mpr same.symm)
        rw [if_neg here]
        exact ih (by omega)

/-- A rate that is known is found. -/
theorem Table.rixToNdx_eq (table : Table mi) (inside : n < mi.nRates) :
    mi.rixToNdx (mi.r n).rix = some n := by
  have ahead := table.ahead n inside
  exact ndxBelow_eq (table.rix_iff inside) (by omega)

end Table

/-! ## A new station -/

/-- The station while its table is filled from the rates below some index. -/
structure Filled (k : Nat) (mi : MinstrelSta) : Prop where
  table : Table mi
  behind : mi.nRates ≤ k
  below : ∀ n < mi.nRates, (mi.r n).rix < k
  stats : ∀ n, (mi.r n).stats = {}

theorem Filled.initRate {k : Nat} {mi : MinstrelSta} (filled : Filled k mi)
    (usable : Nat → Bool) (times : Nat → RateTimes) :
    Filled (k + 1) (initRate usable times mi k) := by
  unfold Minstrel.initRate
  split
  · have new : ∀ n, n = mi.nRates ∨ n < mi.nRates ∧ n ≠ mi.nRates ∨
        mi.nRates < n ∧ n ≠ mi.nRates := fun n => by omega
    refine ⟨⟨fun n inside => ?_, fun n inside m inside' equal => ?_, fun n outside => ?_⟩,
      Nat.succ_le_succ filled.behind, fun n inside => ?_, fun n => ?_⟩ <;>
      simp only [MinstrelSta.onRate] at *
    · have := filled.behind
      split
      · simp only
        omega
      · exact filled.table.ahead n (by omega)
    · split at equal <;> split at equal
      · omega
      · have := filled.below m (by omega)
        simp only at equal
        omega
      · have := filled.below n (by omega)
        simp only at equal
        omega
      · exact filled.table.distinct n (by omega) m (by omega) equal
    · rw [if_neg (by omega)]
      exact filled.table.unused n (by omega)
    · split
      · simp only
        omega
      · have := filled.below n (by omega)
        omega
    · split
      · rfl
      · exact filled.stats n
  · refine ⟨filled.table, Nat.le_succ_of_le filled.behind, fun n inside => ?_, filled.stats⟩
    have := filled.below n inside
    omega

theorem filled_rateInit (nBitrates : Nat) (usable : Nat → Bool) (times : Nat → RateTimes)
    (jiffies : UInt64) : Filled nBitrates (rateInit nBitrates usable times jiffies) := by
  unfold rateInit
  induction nBitrates with
  | zero =>
      refine ⟨⟨fun n inside => ?_, fun n inside => ?_, fun _ _ => rfl⟩, Nat.le_refl 0,
        fun n inside => ?_, fun _ => rfl⟩ <;> exact absurd inside (Nat.not_lt_zero n)
  | succ k ih =>
      rw [List.range_succ, List.foldl_append]
      exact ih.initRate usable times

/-! ## Counting a report -/

section Counting

variable {mi after : MinstrelSta} {n : Nat} {acked : Nat} {ar : TxRate} {chain rest : List TxRate}

theorem attempts_cons (rix : Int) :
    (reportFrom (ar :: chain) acked).attempts rix =
      (if ar.idx = rix then ar.count.toNat else 0) + (reportFrom chain acked).attempts rix := by
  simp only [Report.attempts, reportFrom, List.map_cons, weigh_cons, Nat.mul_one]

theorem credited_cons (rix : Int) :
    (reportFrom (ar :: chain) acked).credited rix =
      if chain = [] then if ar.idx = rix then acked else 0
      else (reportFrom chain acked).credited rix := by
  rcases chain with - | ⟨next, chain⟩
  · by_cases here : ar.idx = rix <;> simp [Report.credited, reportFrom, here]
  · rfl

/-- The list goes on after an entry exactly if its next index is not negative. -/
theorem next_neg_iff :
    (rest.head?.map TxRate.idx).getD (-1) < 0 ↔
      (rest.takeWhile fun ar => decide (0 ≤ ar.idx)) = [] := by
  rcases rest with - | ⟨next, rest⟩
  · simp
  · by_cases ends : 0 ≤ next.idx
    · simp [ends]
    · simp [ends, Int.not_le.mp ends]

/-- What the turn of an entry adds to the rate that it names. -/
theorem countRate_adds (table : Table mi) (known : ar.idx ∈ mi.rixes) (success : UInt16)
    (last : Bool) (credit : Nat) (counts : (if last then success else 0) = UInt16.ofNat credit) :
    SameTable mi (mi.countRate success last ar) ∧ ∀ n < mi.nRates,
      Adds (mi.r n).stats ((mi.countRate success last ar).r n).stats
        (if ar.idx = (mi.r n).rix then ar.count.toNat else 0)
        (if ar.idx = (mi.r n).rix then credit else 0) := by
  obtain ⟨ndx, member, named⟩ := List.mem_map.mp known
  have inside := List.mem_range.mp member
  have found := table.rixToNdx_eq inside
  rw [named] at found
  rw [MinstrelSta.countRate, found]
  refine ⟨⟨rfl, fun n => ?_⟩, fun n inside' => ?_⟩
  · simp only [MinstrelSta.onRate]
    split <;> rfl
  · rw [← named]
    simp only [MinstrelSta.onRate]
    by_cases here : n = ndx
    · rw [if_pos here, here, if_pos rfl, if_pos rfl]
      refine ⟨?_, ?_, rfl, rfl, rfl⟩
      · rw [UInt16.ofNat_toNat]
      · rw [← counts]
        split <;> simp
    · have other : (mi.r ndx).rix ≠ (mi.r n).rix := fun equal =>
        here (table.distinct ndx inside n inside' equal).symm
      rw [if_neg here, if_neg other, if_neg other]
      exact Adds.refl

/-- An entry gets the success that its report acknowledges if the chain ends with it. -/
theorem credit_eq {success : UInt16} (acks : success = UInt16.ofNat acked) {i : Nat}
    {following : Int} (next : following < 0 ↔ chain = [])
    (ends : acked = 0 ∨ i + (ar :: chain).length < ieee80211TxMaxRates) :
    (if (i ≠ ieee80211TxMaxRates - 1 && decide (following < 0)) = true then success else 0) =
      UInt16.ofNat (if chain = [] then acked else 0) := by
  by_cases ended : chain = []
  · rw [if_pos ended]
    rcases ends with none | short
    · simp [acks, none]
    · rw [ended, List.length_singleton] at short
      have early : i ≠ ieee80211TxMaxRates - 1 := by omega
      simp [early, next.mpr ended, acks]
  · rw [if_neg ended]
    simp [mt next.mp ended]

/-- The turns from an entry on add what the chain from there comes to. -/
theorem countRates_adds (success : UInt16) (acks : success = UInt16.ofNat acked) (i : Nat)
    (rates : List TxRate) (table : Table mi)
    (known : ∀ ar ∈ rates.takeWhile fun ar => decide (0 ≤ ar.idx), ar.idx ∈ mi.rixes)
    (ends : acked = 0 ∨
      i + (rates.takeWhile fun ar => decide (0 ≤ ar.idx)).length < ieee80211TxMaxRates) :
    SameTable mi (MinstrelSta.countRates success mi i rates) ∧ ∀ n < mi.nRates,
      Adds (mi.r n).stats ((MinstrelSta.countRates success mi i rates).r n).stats
        ((reportFrom (rates.takeWhile fun ar => decide (0 ≤ ar.idx)) acked).attempts (mi.r n).rix)
        ((reportFrom (rates.takeWhile fun ar => decide (0 ≤ ar.idx)) acked).credited
          (mi.r n).rix) := by
  induction rates generalizing mi i with
  | nil => exact ⟨SameTable.refl, fun n _ => Adds.refl⟩
  | cons ar rest ih =>
      rw [MinstrelSta.countRates]
      by_cases negative : ar.idx < 0
      · have stop : ¬ 0 ≤ ar.idx := by omega
        simp only [if_pos negative, List.takeWhile_cons, stop, decide_false, Bool.false_eq_true,
          if_false]
        exact ⟨SameTable.refl, fun n _ => Adds.refl⟩
      · have goes : 0 ≤ ar.idx := by omega
        simp only [List.takeWhile_cons, goes, decide_true, if_true] at known ends ⊢
        rw [if_neg negative]
        generalize tail : (rest.takeWhile fun ar => decide (0 ≤ ar.idx)) = chain at known ends ih ⊢
        have next := @next_neg_iff rest
        rw [tail] at next
        generalize (rest.head?.map TxRate.idx).getD (-1) = following at next ⊢
        have counts := credit_eq acks next ends
        obtain ⟨same, adds⟩ := countRate_adds table (known ar List.mem_cons_self) success
          (i ≠ ieee80211TxMaxRates - 1 && decide (following < 0)) _ counts
        obtain ⟨same', adds'⟩ := ih (i + 1) (same.table table)
          (fun other member => same.rixes ▸ known other (List.mem_cons_of_mem ar member))
          (ends.imp_right fun short => by rw [List.length_cons] at short; omega)
        refine ⟨same.trans same', fun n inside => ?_⟩
        have both := (adds n inside).trans (adds' n (same.nRates.symm ▸ inside))
        rw [same.rix] at both
        have credit : (if ar.idx = (mi.r n).rix then if chain = [] then acked else 0 else 0) +
            (reportFrom chain acked).credited (mi.r n).rix =
              (reportFrom (ar :: chain) acked).credited (mi.r n).rix := by
          rw [credited_cons]
          by_cases ended : chain = []
          · rw [if_pos ended, if_pos ended, ended]
            rfl
          · rw [if_neg ended, if_neg ended, ite_self, Nat.zero_add]
        rw [attempts_cons, ← credit]
        exact both

end Counting

/-! ## The update -/

section Update

variable {mi : MinstrelSta} {t : Tmp}

/-- Adjusting the retries of a rate leaves its index and its statistics alone. -/
theorem adjustRetries_same (mr : MinstrelRate) :
    (adjustRetries mr).rix = mr.rix ∧ (adjustRetries mr).stats = mr.stats := by
  simp only [adjustRetries, apply_ite MinstrelRate.rix, apply_ite MinstrelRate.stats, ite_self,
    and_self]

/-- The turn of a rate updates its statistics, and no others. -/
theorem tmp_rate (t : Tmp) (i : Nat) :
    SameTable t.mi (t.rate i).mi ∧ ∀ n, ((t.rate i).mi.r n).stats =
      if n = i then minstrelCalcRateStats (t.mi.r n).stats else (t.mi.r n).stats := by
  unfold Tmp.rate
  refine ⟨⟨rfl, fun n => ?_⟩, fun n => ?_⟩ <;> simp only [MinstrelSta.onRate]
  · split
    · exact (adjustRetries_same _).1
    · rfl
  · split
    · exact (adjustRetries_same _).2
    · rfl

/-- After the turns of some rates their statistics are updated. -/
theorem tmp_rates (t : Tmp) (k : Nat) :
    SameTable t.mi ((List.range k).foldl Tmp.rate t).mi ∧
      ∀ n, (((List.range k).foldl Tmp.rate t).mi.r n).stats =
        if n < k then minstrelCalcRateStats (t.mi.r n).stats else (t.mi.r n).stats := by
  induction k with
  | zero => exact ⟨SameTable.refl, fun n => (if_neg (Nat.not_lt_zero n)).symm⟩
  | succ k ih =>
      rw [List.range_succ, List.foldl_append]
      obtain ⟨same, stats⟩ := tmp_rate ((List.range k).foldl Tmp.rate t) k
      refine ⟨ih.1.trans same, fun n => ?_⟩
      have turn := stats n
      rw [ih.2] at turn
      rw [List.foldl_cons, List.foldl_nil, turn]
      by_cases here : n = k
      · rw [if_pos here, if_neg (by omega), if_pos (by omega)]
      · rw [if_neg here]
        exact if_congr (by omega) rfl rfl

/-- An update goes through all rates of the station. -/
theorem updateStats_stats (mi : MinstrelSta) (jiffies : UInt64) :
    SameTable mi (mi.updateStats jiffies) ∧ ∀ n < mi.nRates,
      ((mi.updateStats jiffies).r n).stats = minstrelCalcRateStats (mi.r n).stats := by
  obtain ⟨same, stats⟩ := tmp_rates ⟨mi, List.replicate MinstrelHt.maxThrRates 0, 0⟩ mi.nRates
  exact ⟨⟨same.nRates, same.rix⟩, fun n inside => (stats n).trans (if_pos inside)⟩

end Update

/-! ## Runs -/

section Run

variable {mi : MinstrelSta} {mp : MinstrelPriv} {st : TxStatus}

theorem lastStatsUpdate_countRates (success : UInt16) (i : Nat) (rates : List TxRate) :
    (MinstrelSta.countRates success mi i rates).lastStatsUpdate = mi.lastStatsUpdate := by
  induction rates generalizing mi i with
  | nil => rfl
  | cons ar rest ih =>
      rw [MinstrelSta.countRates]
      split
      · rfl
      · dsimp only
        rw [ih, MinstrelSta.countRate]
        split <;> rfl

/-- Of the table and the statistics, counting the sampling changes nothing. -/
theorem countSample_same (mi : MinstrelSta) (probe : Bool) :
    (mi.countSample probe).r = mi.r ∧ (mi.countSample probe).nRates = mi.nRates ∧
      (mi.countSample probe).lastStatsUpdate = mi.lastStatsUpdate := by
  unfold MinstrelSta.countSample
  dsimp only
  split <;> split <;> exact ⟨rfl, rfl, rfl⟩

/-- A report that is counted adds what it says, and if an update is due the rates are updated. -/
theorem txStatus_adds (table : Table mi) (mp : MinstrelPriv)
    (known : (reportOf st).Known mi.rixes)
    (ends : st.statAck = true → (chainOf st).length < ieee80211TxMaxRates) :
    ∃ stats : Nat → RateStats,
      (∀ n < mi.nRates, Adds (mi.r n).stats (stats n)
        ((reportOf st).attempts (mi.r n).rix) ((reportOf st).credited (mi.r n).rix)) ∧
      SameTable mi (mi.txStatus mp st) ∧
      ∀ n < mi.nRates, ((mi.txStatus mp st).r n).stats =
        if mi.updateDue mp st.jiffies then minstrelCalcRateStats (stats n) else stats n := by
  have acks : (if st.statAck then 1 else 0 : UInt16) = UInt16.ofNat st.statAck.toNat := by
    cases st.statAck <;> rfl
  have short : st.statAck.toNat = 0 ∨ 0 + (chainOf st).length < ieee80211TxMaxRates := by
    rcases acked : st.statAck with - | -
    · exact .inl rfl
    · rw [Nat.zero_add]
      exact .inr (ends acked)
  obtain ⟨same, adds⟩ := countRates_adds _ acks 0 (st.rates.take ieee80211TxMaxRates) table
    (fun ar member => known.rates _ (List.mem_map_of_mem member)) short
  have kept := @lastStatsUpdate_countRates mi (if st.statAck then 1 else 0) 0
    (st.rates.take ieee80211TxMaxRates)
  rw [MinstrelSta.txStatus]
  generalize MinstrelSta.countRates _ mi 0 _ = counted at same adds kept ⊢
  obtain ⟨r, nRates, lastStatsUpdate⟩ := countSample_same counted st.rateCtrlProbe
  generalize counted.countSample st.rateCtrlProbe = sampled at r nRates lastStatsUpdate ⊢
  have same' : SameTable mi sampled :=
    ⟨nRates.trans same.nRates, fun n => (congrFun r n ▸ same.rix n)⟩
  have due : sampled.updateDue mp st.jiffies = mi.updateDue mp st.jiffies := by
    rw [MinstrelSta.updateDue, MinstrelSta.updateDue, lastStatsUpdate, kept]
  refine ⟨fun n => (sampled.r n).stats, fun n inside => ?_, ?_⟩
  · rw [r]
    exact adds n inside
  · dsimp only
    rw [due]
    split
    · obtain ⟨same, stats⟩ := updateStats_stats sampled st.jiffies
      exact ⟨same'.trans same, fun n inside => stats n (same'.nRates.symm ▸ inside)⟩
    · exact ⟨same', fun n inside => rfl⟩

/-- What holds along a run. -/
structure Kept (w : Watched MinstrelSta Int) : Prop where
  table : Table w.sta
  counts : CountsReports w

theorem Kept.watch {w : Watched MinstrelSta Int} (kept : Kept w)
    (known : (reportOf st).Known w.sta.rixes) (countable : Countable w.sta st) :
    Kept (watch mp w st) := by
  obtain ⟨stats, adds, same, after⟩ := txStatus_adds kept.table mp known countable.ends
  refine ⟨?_, ?_⟩
  · unfold Minstrel.watch RateCounts.watch
    dsimp only
    split <;> exact same.table kept.table
  · unfold Minstrel.watch
    apply Exact.watch kept.counts kept.table.nodup
    · exact known
    · exact countable.tried
    · exact countable.room
    · exact fun n member => adds n (List.mem_range.mp member)
    · exact fun n member => after n (List.mem_range.mp member)
    · exact same.counters

theorem kept_rateInit (nBitrates : Nat) (usable : Nat → Bool) (times : Nat → RateTimes)
    (jiffies : UInt64) : Kept (watched nBitrates usable times jiffies) := by
  have filled := filled_rateInit nBitrates usable times jiffies
  refine ⟨filled.table, exact_nil ?_ ?_ ?_⟩ <;> intro n _ <;> simp [watched, filled.stats]

/-- Along a run whose reports are counted the statistics count what was reported. -/
theorem exact_run (mp : MinstrelPriv) (nBitrates : Nat) (usable : Nat → Bool)
    (times : Nat → RateTimes) (jiffies : UInt64) {reports : List TxStatus}
    (run : Admissible (watch mp)
      (fun w st => (reportOf st).Known w.sta.rixes ∧ Countable w.sta st)
      (watched nBitrates usable times jiffies) reports) :
    CountsReports (reports.foldl (watch mp) (watched nBitrates usable times jiffies)) :=
  (run.invariant (fun _ _ kept counted => kept.watch counted.1 counted.2)
    (kept_rateInit nBitrates usable times jiffies)).counts

end Run

end Iwlwifi.Minstrel
