import Iwlwifi.Lib.Run
import Iwlwifi.Lib.Tally
import Iwlwifi.Mac80211.Minstrel

/-!
# Rate statistics as counts of reports

A report names the rates that a transmission went through, with the tries of each, and says how
many frames were sent and how many of them were acknowledged; the last rate is the one that they
were acknowledged at.  `Counted` says that the counters of a station are what the reports of an
interval come to, and `Exact` that they are so between two updates.  Both are stated over a list
of a station's rates, each with its name and its statistics, so that they serve for any table of
rates.
-/

namespace Iwlwifi.RateCounts

open Lib
open MinstrelHt (ieee80211TxMaxRates RateStats TxRate TxStatus minstrelFrac minstrelEwma
  minstrelCalcRateStats ewmaLevel)

variable {σ ρ ι κ : Type*} [DecidableEq κ]

/-! ## Reports -/

structure Report (κ : Type*) where
  chain : List (κ × Nat)
  frames : Nat
  acked : Nat

namespace Report

/-- Each try of a rate is an attempt for every frame. -/
def attempts (report : Report κ) (rate : κ) : Nat :=
  weigh (fun tried => if tried.1 = rate then tried.2 * report.frames else 0) report.chain

/-- What was acknowledged is a success of the last rate. -/
def credited (report : Report κ) (rate : κ) : Nat :=
  if report.chain.getLast?.map Prod.fst = some rate then report.acked else 0

/-- A report names rates of a list, and acknowledges no more frames than were sent; one without
rates is about no frames. -/
structure Known (report : Report κ) (rates : List κ) : Prop where
  rates : ∀ tried ∈ report.chain, tried.1 ∈ rates
  acked : report.acked ≤ report.frames
  nonempty : report.chain = [] → report.frames = 0

instance (report : Report κ) (rates : List κ) : Decidable (report.Known rates) :=
  have := List.decidableBAll (fun tried : κ × Nat => tried.1 ∈ rates) report.chain
  decidable_of_iff ((∀ tried ∈ report.chain, tried.1 ∈ rates) ∧ report.acked ≤ report.frames ∧
    (report.chain.isEmpty = true → report.frames = 0))
    ⟨fun ⟨rates, acked, nonempty⟩ =>
        ⟨rates, acked, fun none => nonempty (List.isEmpty_iff.mpr none)⟩,
      fun known =>
        ⟨known.rates, known.acked, fun none => known.nonempty (List.isEmpty_iff.mp none)⟩⟩

/-- Every rate that is named was tried. -/
def Tried (report : Report κ) : Prop := ∀ tried ∈ report.chain, 0 < tried.2

instance (report : Report κ) : Decidable report.Tried :=
  List.decidableBAll (fun tried : κ × Nat => 0 < tried.2) report.chain

/-- The last rate was tried. -/
def LastTried (report : Report κ) : Prop := ∀ last, report.chain.getLast? = some last → 0 < last.2

instance (report : Report κ) : Decidable report.LastTried :=
  decidable_of_iff (report.chain.getLast?.all fun last => 0 < last.2) (by
    rw [LastTried]
    cases report.chain.getLast? <;> simp)

omit [DecidableEq κ] in
theorem Tried.last {report : Report κ} (tried : report.Tried) : report.LastTried :=
  fun last isLast => tried last (List.mem_of_getLast? isLast)

end Report

/-- The rates of a status report: they end at a negative index, or fill the array. -/
def chainOf (st : TxStatus) : List TxRate :=
  (st.rates.take ieee80211TxMaxRates).takeWhile fun ar => decide (0 ≤ ar.idx)

/-! ## Counters -/

/-- Counters of attempts and successes are what reports come to. -/
structure Counted (tries hits : RateStats → UInt16) (reports : List (Report κ))
    (counters : List (κ × RateStats)) : Prop where
  attempts : ∀ rate ∈ counters, (tries rate.2).toNat = weigh (·.attempts rate.1) reports
  credited : ∀ rate ∈ counters, (hits rate.2).toNat = weigh (·.credited rate.1) reports
  acked : weigh (fun rate => (hits rate.2).toNat) counters = weigh Report.acked reports
  within : ∀ rate ∈ counters, hits rate.2 ≤ tries rate.2

/-- The counters are what was reported since the last update, those of the interval before it
are what was reported in that, and the averages are probabilities. -/
structure Exact (since finished : List (Report κ)) (counters : List (κ × RateStats)) : Prop where
  current : Counted RateStats.attempts RateStats.success since counters
  last : Counted RateStats.lastAttempts RateStats.lastSuccess finished counters
  probEwma : ∀ rate ∈ counters, rate.2.probEwma.toNat ≤ minstrelFrac 1 1

/-- There is room in the counters for the attempts of a report. -/
def Room (report : Report κ) (counters : List (κ × RateStats)) : Prop :=
  ∀ rate ∈ counters, rate.2.attempts.toNat + report.attempts rate.1 < 2 ^ 16

instance (report : Report κ) (counters : List (κ × RateStats)) :
    Decidable (Room report counters) :=
  List.decidableBAll
    (fun rate : κ × RateStats => rate.2.attempts.toNat + report.attempts rate.1 < 2 ^ 16) counters

/-- A station, with what was reported to it since its last update and in the interval before. -/
structure Watched (σ κ : Type*) where
  sta : σ
  since : List (Report κ) := []
  finished : List (Report κ) := []

/-- A report is taken, and ends an interval if an update is due. -/
def watch (step : σ → ρ → σ) (due : σ → ρ → Bool) (report : σ → ρ → Report κ)
    (w : Watched σ κ) (st : ρ) : Watched σ κ :=
  let since := w.since ++ [report w.sta st]
  if due w.sta st then { sta := step w.sta st, finished := since }
  else { sta := step w.sta st, since, finished := w.finished }

/-! ## What a report comes to -/

section Report

variable {report : Report κ} {rates : List κ}

/-- The last rate of a report was attempted for every frame. -/
theorem Report.credited_le (acked : report.acked ≤ report.frames) (tried : report.LastTried)
    (rate : κ) : report.credited rate ≤ report.attempts rate := by
  unfold Report.credited
  split
  · next last =>
    obtain ⟨final, isLast, rfl⟩ := Option.map_eq_some_iff.mp last
    obtain ⟨before, chain⟩ := List.getLast?_eq_some_iff.mp isLast
    have share := Nat.le_mul_of_pos_left report.frames (tried final isLast)
    rw [Report.attempts, chain, weigh_append, weigh_cons, if_pos rfl]
    omega
  · exact Nat.zero_le _

/-- A weight that one member of a list without repetitions has. -/
theorem weigh_single (nodup : rates.Nodup) {rate : κ} (member : rate ∈ rates) (n : Nat) :
    weigh (fun other => if some rate = some other then n else 0) rates = n := by
  have changed := weigh_update (fun _ => 0) nodup member n
  have none : weigh (fun _ : κ => 0) rates = 0 := by simp [weigh]
  have same : Function.update (fun _ => 0) rate n =
      fun other => if some rate = some other then n else 0 := by
    funext other
    by_cases here : rate = other
    · rw [← here, Function.update_self, if_pos rfl]
    · rw [Function.update_of_ne (Ne.symm here), if_neg fun same => here (Option.some.inj same)]
  rw [same, none] at changed
  omega

/-- What was acknowledged is a success of one rate. -/
theorem Report.Known.weigh_credited (known : report.Known rates) (nodup : rates.Nodup) :
    weigh report.credited rates = report.acked := by
  unfold Report.credited
  rcases List.eq_nil_or_concat report.chain with empty | ⟨before, final, chain⟩
  · have idle : report.acked = 0 := by
      have := known.acked
      have := known.nonempty empty
      omega
    simp [weigh, empty, idle]
  · have member := known.rates final (by simp [chain])
    rw [chain, List.concat_eq_append, List.getLast?_concat]
    exact weigh_single nodup member report.acked

end Report

/-! ## The statistics of a rate -/

/-- What recording attempts and successes does to the statistics of a rate. -/
structure Adds (before after : RateStats) (attempts success : Nat) : Prop where
  attempts : after.attempts = before.attempts + UInt16.ofNat attempts
  success : after.success = before.success + UInt16.ofNat success
  lastAttempts : after.lastAttempts = before.lastAttempts
  lastSuccess : after.lastSuccess = before.lastSuccess
  probEwma : after.probEwma = before.probEwma

section RateStats

variable {before middle after : RateStats} {attempts success attempts' success' : Nat}

theorem Adds.refl : Adds before before 0 0 :=
  ⟨(UInt16.add_zero _).symm, (UInt16.add_zero _).symm, rfl, rfl, rfl⟩

theorem Adds.trans (first : Adds before middle attempts success)
    (second : Adds middle after attempts' success') :
    Adds before after (attempts + attempts') (success + success') where
  attempts := by rw [second.attempts, first.attempts, UInt16.ofNat_add, UInt16.add_assoc]
  success := by rw [second.success, first.success, UInt16.ofNat_add, UInt16.add_assoc]
  lastAttempts := second.lastAttempts.trans first.lastAttempts
  lastSuccess := second.lastSuccess.trans first.lastSuccess
  probEwma := second.probEwma.trans first.probEwma

/-- Where there is room a counter counts on. -/
theorem toNat_add_ofNat {a : UInt16} {n : Nat} (room : a.toNat + n < 2 ^ 16) :
    (a + UInt16.ofNat n).toNat = a.toNat + n := by
  rw [UInt16.toNat_add, UInt16.toNat_ofNat']
  omega

/-- The average stays between its old value and the new one. -/
theorem minstrelEwma_within {old new top : Int} (oldFrom : 0 ≤ old) (oldTo : old ≤ top)
    (newFrom : 0 ≤ new) (newTo : new ≤ top) (small : top < 2 ^ 26) :
    0 ≤ minstrelEwma old new ewmaLevel ∧ minstrelEwma old new ewmaLevel ≤ top := by
  rw [minstrelEwma, ewmaLevel, Int.bmod_eq_of_le (by omega) (by omega)]
  rcases Int.le_total old new with up | down
  · rw [Int.tdiv_eq_ediv_of_nonneg (by omega)]
    omega
  · have turned : (128 - 96) * (new - old) = -((128 - 96) * (old - new)) := by omega
    rw [turned, Int.neg_tdiv, Int.tdiv_eq_ediv_of_nonneg (by omega)]
    omega

theorem minstrelFrac_le {val div : Nat} (within : val ≤ div) :
    minstrelFrac val div ≤ minstrelFrac 1 1 := by
  simp only [minstrelFrac, Nat.shiftLeft_eq, Nat.one_mul, Nat.div_one]
  exact Nat.div_le_of_le_mul (Nat.mul_le_mul_right _ within)

/-- An update keeps the average a probability. -/
theorem probEwma_calc {mrs : RateStats} (within : mrs.success ≤ mrs.attempts)
    (bound : mrs.probEwma.toNat ≤ minstrelFrac 1 1) :
    (minstrelCalcRateStats mrs).probEwma.toNat ≤ minstrelFrac 1 1 := by
  unfold minstrelCalcRateStats
  simp only
  split
  · have frac := minstrelFrac_le (UInt16.le_iff_toNat_le.mp within)
    have top : minstrelFrac 1 1 = 4096 := rfl
    simp only
    split
    · rw [UInt16.toNat_ofNat', Nat.mod_eq_of_lt (by omega)]
      exact frac
    · have range := minstrelEwma_within (Int.natCast_nonneg mrs.probEwma.toNat)
        (Int.ofNat_le.mpr bound)
        (Int.natCast_nonneg (minstrelFrac mrs.success.toNat mrs.attempts.toNat))
        (Int.ofNat_le.mpr frac) (by rw [top]; decide)
      rw [UInt16.ofInt, UInt16.toNat_ofNat']
      omega
  · exact bound

/-- An update takes the counters over and clears them. -/
theorem calc_counters (mrs : RateStats) :
    (minstrelCalcRateStats mrs).attempts = 0 ∧ (minstrelCalcRateStats mrs).success = 0 ∧
      (minstrelCalcRateStats mrs).lastAttempts = mrs.attempts ∧
      (minstrelCalcRateStats mrs).lastSuccess = mrs.success := by
  unfold minstrelCalcRateStats
  dsimp only
  split <;> exact ⟨rfl, rfl, rfl, rfl⟩

end RateStats

/-! ## One report -/

section

variable {rates : List ι} {name : ι → κ} {before after : ι → RateStats}
  {since finished : List (Report κ)} {report : Report κ}

/-- Statistics under the names of their rates. -/
abbrev named (rates : List ι) (name : ι → κ) (stats : ι → RateStats) : List (κ × RateStats) :=
  rates.map fun i => (name i, stats i)

omit [DecidableEq κ] in
theorem weigh_named (w : κ × RateStats → Nat) (stats : ι → RateStats) :
    weigh w (named rates name stats) = weigh (fun i => w (name i, stats i)) rates := by
  rw [weigh, weigh, List.map_map]
  rfl

omit [DecidableEq κ] in
theorem mem_named {i : ι} (member : i ∈ rates) (stats : ι → RateStats) :
    (name i, stats i) ∈ named rates name stats :=
  List.mem_map_of_mem member

/-- Reports that are counted where there is room for them. -/
theorem Counted.record
    (counted : Counted RateStats.attempts RateStats.success since (named rates name before))
    (nodup : (rates.map name).Nodup) (known : report.Known (rates.map name))
    (tried : report.LastTried) (room : Room report (named rates name before))
    (adds : ∀ i ∈ rates,
      Adds (before i) (after i) (report.attempts (name i)) (report.credited (name i))) :
    Counted RateStats.attempts RateStats.success (since ++ [report])
      (named rates name after) := by
  have credited := report.credited_le known.acked tried
  have within : ∀ i ∈ rates, (before i).success.toNat ≤ (before i).attempts.toNat :=
    fun i member => UInt16.le_iff_toNat_le.mp (counted.within _ (mem_named member before))
  have space : ∀ i ∈ rates,
      (before i).attempts.toNat + report.attempts (name i) < 2 ^ 16 :=
    fun i member => room _ (mem_named member before)
  have attempts : ∀ i ∈ rates,
      (after i).attempts.toNat = (before i).attempts.toNat + report.attempts (name i) := by
    intro i member
    rw [(adds i member).attempts, toNat_add_ofNat (space i member)]
  have success : ∀ i ∈ rates,
      (after i).success.toNat = (before i).success.toNat + report.credited (name i) := by
    intro i member
    have := space i member
    have := within i member
    have := credited (name i)
    rw [(adds i member).success, toNat_add_ofNat (by omega)]
  refine ⟨List.forall_mem_map.mpr fun i member => ?_, List.forall_mem_map.mpr fun i member => ?_,
    ?_, List.forall_mem_map.mpr fun i member => ?_⟩
  · rw [weigh_append, weigh_cons, weigh_nil, attempts i member,
      counted.attempts _ (mem_named member before)]
    rfl
  · rw [weigh_append, weigh_cons, weigh_nil, success i member,
      counted.credited _ (mem_named member before)]
    rfl
  · have old := counted.acked
    rw [weigh_named] at old
    have new : weigh (fun i => report.credited (name i)) rates = report.acked := by
      rw [← known.weigh_credited nodup, weigh, weigh, List.map_map]
      rfl
    rw [weigh_named, weigh_append, weigh_cons, weigh_nil, weigh_congr success, weigh_add, old, new]
    rfl
  · have := within i member
    have := credited (name i)
    rw [UInt16.le_iff_toNat_le, attempts i member, success i member]
    omega

/-- Counters that do not change count the same reports. -/
theorem Counted.congr {tries tries' hits hits' : RateStats → UInt16}
    (counted : Counted tries hits since (named rates name before))
    (sameTries : ∀ i ∈ rates, tries' (after i) = tries (before i))
    (sameHits : ∀ i ∈ rates, hits' (after i) = hits (before i)) :
    Counted tries' hits' since (named rates name after) := by
  refine ⟨List.forall_mem_map.mpr fun i member => ?_, List.forall_mem_map.mpr fun i member => ?_,
    ?_, List.forall_mem_map.mpr fun i member => ?_⟩
  · rw [sameTries i member]
    exact counted.attempts _ (mem_named member before)
  · rw [sameHits i member]
    exact counted.credited _ (mem_named member before)
  · have old := counted.acked
    rw [weigh_named] at old
    rw [weigh_named, ← old]
    exact weigh_congr fun i member => congrArg UInt16.toNat (sameHits i member)
  · rw [sameTries i member, sameHits i member]
    exact counted.within _ (mem_named member before)

/-- Counters of zero count no report. -/
theorem counted_nil {tries hits : RateStats → UInt16} {stats : ι → RateStats}
    (idle : ∀ i ∈ rates, tries (stats i) = 0 ∧ hits (stats i) = 0) :
    Counted tries hits [] (named rates name stats) := by
  refine ⟨List.forall_mem_map.mpr fun i member => ?_, List.forall_mem_map.mpr fun i member => ?_,
    ?_, List.forall_mem_map.mpr fun i member => ?_⟩
  · rw [(idle i member).1]
    rfl
  · rw [(idle i member).2]
    rfl
  · rw [weigh_named, weigh_congr fun i member => congrArg UInt16.toNat (idle i member).2]
    simp [weigh]
  · rw [(idle i member).1, (idle i member).2]
    exact UInt16.le_refl 0

theorem Exact.record (held : Exact since finished (named rates name before))
    (nodup : (rates.map name).Nodup) (known : report.Known (rates.map name))
    (tried : report.LastTried) (room : Room report (named rates name before))
    (adds : ∀ i ∈ rates,
      Adds (before i) (after i) (report.attempts (name i)) (report.credited (name i))) :
    Exact (since ++ [report]) finished (named rates name after) where
  current := held.current.record nodup known tried room adds
  last := held.last.congr (fun i member => (adds i member).lastAttempts)
    fun i member => (adds i member).lastSuccess
  probEwma := by
    refine List.forall_mem_map.mpr fun i member => ?_
    rw [(adds i member).probEwma]
    exact held.probEwma _ (mem_named member before)

/-- An update ends the interval. -/
theorem Exact.update (held : Exact since finished (named rates name before))
    (updated : ∀ i ∈ rates, after i = minstrelCalcRateStats (before i)) :
    Exact [] since (named rates name after) where
  current := counted_nil fun i member => by
    rw [updated i member]
    exact ⟨(calc_counters _).1, (calc_counters _).2.1⟩
  last := held.current.congr
    (fun i member => by rw [updated i member, (calc_counters _).2.2.1])
    fun i member => by rw [updated i member, (calc_counters _).2.2.2]
  probEwma := by
    refine List.forall_mem_map.mpr fun i member => ?_
    have inside : (name i, before i) ∈ named rates name before := mem_named member before
    rw [updated i member]
    exact probEwma_calc (held.current.within _ inside) (held.probEwma _ inside)

/-- What a report does to a station that is watched: it is added to the statistics, which are then
updated if an update is due. -/
theorem Exact.watch {step : σ → ρ → σ} {due : σ → ρ → Bool} {reportOf : σ → ρ → Report κ}
    {counters : σ → List (κ × RateStats)} {w : Watched σ κ} {st : ρ} {middle : ι → RateStats}
    (held : Exact w.since w.finished (named rates name before))
    (nodup : (rates.map name).Nodup) (known : (reportOf w.sta st).Known (rates.map name))
    (tried : (reportOf w.sta st).LastTried)
    (room : Room (reportOf w.sta st) (named rates name before))
    (adds : ∀ i ∈ rates, Adds (before i) (middle i) ((reportOf w.sta st).attempts (name i))
      ((reportOf w.sta st).credited (name i)))
    (stats : ∀ i ∈ rates,
      after i = if due w.sta st then minstrelCalcRateStats (middle i) else middle i)
    (stepped : counters (step w.sta st) = named rates name after) :
    Exact (watch step due reportOf w st).since (watch step due reportOf w st).finished
      (counters (watch step due reportOf w st).sta) := by
  have recorded := held.record nodup known tried room adds
  unfold RateCounts.watch
  dsimp only
  by_cases update : due w.sta st = true
  · rw [if_pos update, stepped]
    exact recorded.update fun i member => by rw [stats i member, if_pos update]
  · have stay : named rates name after = named rates name middle :=
      List.map_congr_left fun i member =>
        Prod.ext rfl ((stats i member).trans (if_neg update))
    rw [if_neg update, stepped, stay]
    exact recorded

/-- A station whose statistics are all zero has no report to count. -/
theorem exact_nil {stats : ι → RateStats}
    (idle : ∀ i ∈ rates, (stats i).attempts = 0 ∧ (stats i).success = 0)
    (last : ∀ i ∈ rates, (stats i).lastAttempts = 0 ∧ (stats i).lastSuccess = 0)
    (probEwma : ∀ i ∈ rates, (stats i).probEwma = 0) :
    Exact [] [] (named rates name stats) where
  current := counted_nil idle
  last := counted_nil last
  probEwma := by
    refine List.forall_mem_map.mpr fun i member => ?_
    rw [probEwma i member]
    exact Nat.zero_le _

end

end Iwlwifi.RateCounts
