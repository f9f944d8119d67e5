import Iwlwifi.Wireless.RegIntersectExact
import Iwlwifi.Wireless.Chan

/-!
# The bandwidth of an `AUTO_BW` rule

`reg_get_max_bandwidth` and `reg_rule_to_chan_bw_flags` of `net/wireless/reg.c`.  The bandwidth is
the distance from the start of the first to the end of the last rule of the run of neighbours that
a rule belongs to (`RunAround`).  What the walks pass is covered by the rules whatever their order
(`follow_covers`), so the distance is never too long.  But nothing says that the run ends above
where it starts, and the unsigned difference wraps around where it does not.
-/

namespace Iwlwifi

open Lib

/-! ## The flags of a channel -/

/-- `cfg80211_does_bw_fit_range` -/
def cfg80211DoesBwFitRange (freqRange : FreqRange) (centerFreqKhz bwKhz : UInt32) : Bool :=
  let startFreqKhz := centerFreqKhz - bwKhz / 2
  let endFreqKhz := centerFreqKhz + bwKhz / 2
  if startFreqKhz ≥ freqRange.startFreqKhz ∧ endFreqKhz ≤ freqRange.endFreqKhz then true else false

def chanMhzToKhz (freq : UInt32) : UInt32 := freq * 1000

def ieee80211ChanNoHt40 : UInt32 := ieee80211ChanNoHt40plus ||| ieee80211ChanNoHt40minus

/-- `if (condition) bw_flags |= flag` -/
def orFlag (condition : Bool) (flag bwFlags : UInt32) : UInt32 :=
  if condition then bwFlags ||| flag else bwFlags

/-- `max_bandwidth_khz` of the rule with an index. -/
def maxBandwidthKhz (regd : Regdomain) (idx : Nat) (rule : RegRule) : UInt32 :=
  if rule.has nl80211RrfAutoBw then regGetMaxBandwidth regd idx
  else rule.freqRange.maxBandwidthKhz

/-- `reg_rule_to_chan_bw_flags` -/
def regRuleToChanBwFlags (regd : Regdomain) (idx : Nat) (rule : RegRule) (chan : Channel) :
    UInt32 :=
  let freqRange := rule.freqRange
  let most := maxBandwidthKhz regd idx rule
  let center := chanMhzToKhz chan.centerFreq
  let bwFlags := orFlag (!cfg80211DoesBwFitRange freqRange center (chanMhzToKhz 10))
    ieee80211ChanNo10mhz 0
  let bwFlags := orFlag (!cfg80211DoesBwFitRange freqRange center (chanMhzToKhz 20))
    ieee80211ChanNo20mhz bwFlags
  let bwFlags := orFlag (most < chanMhzToKhz 10) ieee80211ChanNo10mhz bwFlags
  let bwFlags := orFlag (most < chanMhzToKhz 20) ieee80211ChanNo20mhz bwFlags
  let bwFlags := orFlag (most < chanMhzToKhz 40) ieee80211ChanNoHt40 bwFlags
  let bwFlags := orFlag (most < chanMhzToKhz 80) ieee80211ChanNo80mhz bwFlags
  orFlag (most < chanMhzToKhz 160) ieee80211ChanNo160mhz bwFlags

/-- The channel widths and the flags that forbid them. -/
def widths : List (UInt32 × UInt32) :=
  [(10, ieee80211ChanNo10mhz), (20, ieee80211ChanNo20mhz), (40, ieee80211ChanNoHt40),
    (80, ieee80211ChanNo80mhz), (160, ieee80211ChanNo160mhz)]

theorem orFlag_keeps {condition : Bool} {flag other bwFlags : UInt32}
    (has : flag &&& bwFlags = flag) : flag &&& orFlag condition other bwFlags = flag := by
  rw [orFlag]
  split
  · rw [and_or_distrib, has]
    refine UInt32.eq_of_toBitVec_eq (BitVec.eq_of_getElem_eq fun i inside => ?_)
    simp only [UInt32.toBitVec_or, UInt32.toBitVec_and, BitVec.getElem_or, BitVec.getElem_and]
    cases flag.toBitVec[i] <;> rfl
  · exact has

theorem orFlag_sets {condition : Bool} {flag bwFlags : UInt32} (holds : condition = true) :
    flag &&& orFlag condition flag bwFlags = flag := by
  rw [orFlag, if_pos holds]
  refine UInt32.eq_of_toBitVec_eq (BitVec.eq_of_getElem_eq fun i inside => ?_)
  simp only [UInt32.toBitVec_or, UInt32.toBitVec_and, BitVec.getElem_or, BitVec.getElem_and]
  cases flag.toBitVec[i] <;> simp

/-- A width that is not forbidden is no larger than the bandwidth of the rule. -/
theorem width_le_of_allowed {regd : Regdomain} {idx : Nat} {rule : RegRule} {chan : Channel}
    {width flag : UInt32} (listed : (width, flag) ∈ widths)
    (allowed : flag &&& regRuleToChanBwFlags regd idx rule chan ≠ flag) :
    chanMhzToKhz width ≤ maxBandwidthKhz regd idx rule := by
  by_contra short
  have less : decide (maxBandwidthKhz regd idx rule < chanMhzToKhz width) = true :=
    decide_eq_true (UInt32.not_le.mp short)
  refine allowed ?_
  rw [regRuleToChanBwFlags]
  simp only [widths, List.mem_cons, List.not_mem_nil, or_false, Prod.mk.injEq] at listed
  rcases listed with ⟨rfl, rfl⟩ | ⟨rfl, rfl⟩ | ⟨rfl, rfl⟩ | ⟨rfl, rfl⟩ | ⟨rfl, rfl⟩
  · exact orFlag_keeps (orFlag_keeps (orFlag_keeps (orFlag_keeps (orFlag_sets less))))
  · exact orFlag_keeps (orFlag_keeps (orFlag_keeps (orFlag_sets less)))
  · exact orFlag_keeps (orFlag_keeps (orFlag_sets less))
  · exact orFlag_keeps (orFlag_sets less)
  · exact orFlag_sets less

/-! ## The run of a rule -/

/-- A rule begins no later than the one before it ends. -/
def Linked (rules : List RegRule) (k : Nat) : Prop :=
  ∃ rule next, rules[k]? = some rule ∧ rules[k + 1]? = some next ∧
    next.freqRange.startFreqKhz ≤ rule.freqRange.endFreqKhz

/-- The rules from `first` to `last` are those around a rule of which each is linked to the next. -/
structure RunAround (rules : List RegRule) (idx first last : Nat) : Prop where
  first_le : first ≤ idx
  le_last : idx ≤ last
  linked : ∀ k, first ≤ k → k < last → Linked rules k
  begins : ∀ k, k + 1 = first → ¬ Linked rules k
  ends : ¬ Linked rules last

variable {rules : List RegRule}

theorem RunAround.unique {idx first last first' last' : Nat} (run : RunAround rules idx first last)
    (run' : RunAround rules idx first' last') : first = first' ∧ last = last' := by
  have l := run.first_le
  have l' := run'.first_le
  have r := run.le_last
  have r' := run'.le_last
  refine ⟨?_, ?_⟩
  · rcases Nat.lt_trichotomy first first' with less | same | more
    · exact absurd (run.linked (first' - 1) (by omega) (by omega))
        (run'.begins _ (by omega))
    · exact same
    · exact absurd (run'.linked (first - 1) (by omega) (by omega)) (run.begins _ (by omega))
  · rcases Nat.lt_trichotomy last last' with less | same | more
    · exact absurd (run'.linked last (by omega) less) run.ends
    · exact same
    · exact absurd (run.linked last' (by omega) more) run'.ends

/-- The walk down ends at the first rule of the run. -/
theorem walk_down {idx : Nat} {rule : RegRule} (there : rules[idx]? = some rule) :
    ∃ first rule', rules[first]? = some rule' ∧ first ≤ idx ∧
      (∀ k, first ≤ k → k < idx → Linked rules k) ∧ (∀ k, k + 1 = first → ¬ Linked rules k) ∧
      follow endsBefore (rulesBelow rules idx) rule.freqRange = rule'.freqRange := by
  induction idx generalizing rule with
  | zero =>
    exact ⟨0, rule, there, Nat.le_refl _, fun k _ less => absurd less (Nat.not_lt_zero _),
      fun k zero => absurd zero (Nat.succ_ne_zero _), rfl⟩
  | succ idx ih =>
    obtain ⟨inside, -⟩ := List.getElem?_eq_some_iff.mp there
    obtain ⟨before, earlier⟩ : ∃ before, rules[idx]? = some before :=
      ⟨_, List.getElem?_eq_getElem (by omega)⟩
    have below : rulesBelow rules (idx + 1) = before.freqRange :: rulesBelow rules idx := by
      rw [rulesBelow, List.take_add_one, earlier]
      simp [rulesBelow]
    have linked_iff : Linked rules idx ↔ ¬ endsBefore before.freqRange rule.freqRange = true := by
      rw [endsBefore, decide_eq_true_eq, UInt32.not_lt]
      constructor
      · rintro ⟨a, b, isA, isB, le⟩
        rw [earlier] at isA
        rw [there] at isB
        cases isA
        cases isB
        exact le
      · exact fun le => ⟨before, rule, earlier, there, le⟩
    rw [below, follow]
    by_cases stops : endsBefore before.freqRange rule.freqRange = true
    · rw [if_pos stops]
      refine ⟨idx + 1, rule, there, Nat.le_refl _, fun k _ _ => by omega, ?_, rfl⟩
      rintro k same linked
      obtain rfl : k = idx := by omega
      exact linked_iff.mp linked stops
    · rw [if_neg stops]
      obtain ⟨first, rule', is, le, linked, begins, walked⟩ := ih earlier
      refine ⟨first, rule', is, by omega, fun k from' less => ?_, begins, walked⟩
      by_cases here : k = idx
      · exact here ▸ linked_iff.mpr stops
      · exact linked k from' (by omega)

/-- The walk up ends at the last rule of the run. -/
theorem walk_up {idx : Nat} {rule : RegRule} (there : rules[idx]? = some rule) :
    ∃ last rule', rules[last]? = some rule' ∧ idx ≤ last ∧
      (∀ k, idx ≤ k → k < last → Linked rules k) ∧ ¬ Linked rules last ∧
      follow startsAfter (rulesAbove rules idx) rule.freqRange = rule'.freqRange := by
  induction left : rules.length - idx generalizing idx rule with
  | zero =>
    obtain ⟨inside, -⟩ := List.getElem?_eq_some_iff.mp there
    omega
  | succ n ih =>
    cases later : rules[idx + 1]? with
    | none =>
      have above : rulesAbove rules idx = [] := by
        rw [rulesAbove, List.drop_eq_nil_of_le (List.getElem?_eq_none_iff.mp later)]
        rfl
      rw [above]
      refine ⟨idx, rule, there, Nat.le_refl _, fun k _ _ => by omega, ?_, rfl⟩
      rintro ⟨a, b, -, isB, -⟩
      rw [later] at isB
      cases isB
    | some behind =>
      obtain ⟨inside, same⟩ := List.getElem?_eq_some_iff.mp later
      have above : rulesAbove rules idx = behind.freqRange :: rulesAbove rules (idx + 1) := by
        rw [rulesAbove, List.drop_eq_getElem_cons inside, same]
        rfl
      have linked_iff : Linked rules idx ↔
          ¬ startsAfter behind.freqRange rule.freqRange = true := by
        rw [startsAfter, decide_eq_true_eq, UInt32.not_lt]
        constructor
        · rintro ⟨a, b, isA, isB, le⟩
          rw [there] at isA
          rw [later] at isB
          cases isA
          cases isB
          exact le
        · exact fun le => ⟨rule, behind, there, later, le⟩
      rw [above, follow]
      by_cases stops : startsAfter behind.freqRange rule.freqRange = true
      · rw [if_pos stops]
        exact ⟨idx, rule, there, Nat.le_refl _, fun k _ _ => by omega,
          fun linked => linked_iff.mp linked stops, rfl⟩
      · rw [if_neg stops]
        obtain ⟨last, rule', is, le, linked, ends, walked⟩ := ih later (by omega)
        refine ⟨last, rule', is, by omega, fun k from' less => ?_, ends, walked⟩
        by_cases here : k = idx
        · exact here ▸ linked_iff.mpr stops
        · exact linked k (by omega) less

/-! ## What is covered around a rule -/

/-- A stretch of at least this length, in kHz, contains the rule and is covered by the rules. -/
def CoveredAround (rules : List RegRule) (rule : RegRule) (length : Nat) : Prop :=
  ∃ low high : ℤ, low ≤ lowKhz rule.freqRange ∧ highKhz rule.freqRange ≤ high ∧
    (∀ p, low ≤ p → p < high → Permits rules p) ∧ length ≤ high - low

theorem CoveredAround.mono {rule : RegRule} {length length' : Nat} (le : length' ≤ length)
    (covered : CoveredAround rules rule length) : CoveredAround rules rule length' := by
  obtain ⟨low, high, below, above, gapless, long⟩ := covered
  exact ⟨low, high, below, above, gapless, by omega⟩

/-- A flag of the rule limits a bandwidth to a value of at most `n` kHz. -/
def RegRule.LimitedTo (rule : RegRule) (n : Nat) : Prop :=
  rule.has nl80211RrfNo160mhz = true ∧ 80000 ≤ n ∨
    rule.has nl80211RrfNo80mhz = true ∧ 40000 ≤ n ∨
      (rule.has nl80211RrfNoHt40minus && rule.has nl80211RrfNoHt40plus) = true ∧ 20000 ≤ n

theorem limitBandwidth_le_iff (rule : RegRule) (bw : UInt32) (n : Nat) :
    (rule.limitBandwidth bw).toNat ≤ n ↔ bw.toNat ≤ n ∨ rule.LimitedTo n := by
  have limit : ∀ (c : Bool) (bw most : UInt32),
      (if c then min bw most else bw).toNat ≤ n ↔ bw.toNat ≤ n ∨ c = true ∧ most.toNat ≤ n := by
    intro c bw most
    cases c with
    | false => simp
    | true => simp [toNat_min]
  rw [RegRule.limitBandwidth, limit, limit, limit, or_assoc, or_assoc]
  rfl

/-- A stretch of the limited bandwidth is covered around the rule if one of the bandwidth or of
a limit is. -/
theorem coveredAround_limit_iff {rule : RegRule} {bw : UInt32} :
    CoveredAround rules rule (rule.limitBandwidth bw).toNat ↔
      ∃ n, CoveredAround rules rule n ∧ (bw.toNat ≤ n ∨ rule.LimitedTo n) := by
  constructor
  · exact fun covered => ⟨_, covered, (limitBandwidth_le_iff rule bw _).mp (Nat.le_refl _)⟩
  · rintro ⟨n, covered, within⟩
    exact covered.mono ((limitBandwidth_le_iff rule bw n).mpr within)

section Run

variable {rd : Regdomain} {idx : Nat} {rule : RegRule} (there : rd.regRules[idx]? = some rule)
include there

/-- The bandwidth is the distance between the ends of the run, limited by the flags. -/
theorem regGetMaxBandwidth_eq : ∃ first last firstRule lastRule,
    RunAround rd.regRules idx first last ∧ rd.regRules[first]? = some firstRule ∧
      rd.regRules[last]? = some lastRule ∧
      follow endsBefore (rulesBelow rd.regRules idx) rule.freqRange = firstRule.freqRange ∧
      follow startsAfter (rulesAbove rd.regRules idx) rule.freqRange = lastRule.freqRange ∧
      regGetMaxBandwidth rd idx = rule.limitBandwidth
        (lastRule.freqRange.endFreqKhz - firstRule.freqRange.startFreqKhz) := by
  obtain ⟨first, firstRule, isFirst, le, down, begins, walked⟩ := walk_down there
  obtain ⟨last, lastRule, isLast, le', up, ends, walked'⟩ := walk_up there
  refine ⟨first, last, firstRule, lastRule, ⟨le, le', fun k from' less => ?_, begins, ends⟩,
    isFirst, isLast, walked, walked', ?_⟩
  · by_cases below : k < idx
    · exact down k from' below
    · exact up k (by omega) less
  · rw [← walked, ← walked']
    simp only [regGetMaxBandwidth, regGetMaxBandwidthFromRange, there]
    rfl

/-- Whatever the order of the rules, they cover what lies between the ends of the run. -/
theorem coveredAround_run {firstRange lastRange : FreqRange}
    (down : follow endsBefore (rulesBelow rd.regRules idx) rule.freqRange = firstRange)
    (up : follow startsAfter (rulesAbove rd.regRules idx) rule.freqRange = lastRange)
    (upward : firstRange.startFreqKhz ≤ lastRange.endFreqKhz) :
    CoveredAround rd.regRules rule (lastRange.endFreqKhz - firstRange.startFreqKhz).toNat := by
  rw [UInt32.toNat_sub_of_le _ _ upward]
  rw [UInt32.le_iff_toNat_le] at upward
  refine ⟨min (lowKhz firstRange) (lowKhz rule.freqRange),
    max (highKhz lastRange) (highKhz rule.freqRange), Int.min_le_right _ _, Int.le_max_right _ _,
    fun p low high => ?_, ?_⟩
  · have listed := List.mem_of_getElem? there
    by_cases below : p < lowKhz rule.freqRange
    · have covers := @follow_covers _ lowKhz highKhz _ endsBefore_iff
        (rulesBelow rd.regRules idx) rule.freqRange p (by rw [down]; omega) below
      obtain ⟨range, member, holds⟩ := covers
      obtain ⟨earlier, before, rfl⟩ := List.mem_map.mp member
      exact ⟨earlier, List.mem_of_mem_take (List.mem_reverse.mp before), holds⟩
    by_cases above : highKhz rule.freqRange ≤ p
    · have covers := @follow_covers FreqRange (fun range => -highKhz range)
        (fun range => -lowKhz range) startsAfter startsAfter_iff
        (rulesAbove rd.regRules idx) rule.freqRange (-p - 1)
        (by simp only [up]; omega) (by omega)
      rw [covers_mirror] at covers
      obtain ⟨range, member, low', high'⟩ := covers
      obtain ⟨later, behind, rfl⟩ := List.mem_map.mp member
      exact ⟨later, List.mem_of_mem_drop behind, by omega, by omega⟩
    · exact ⟨rule, listed, by omega, by omega⟩
  · simp only [lowKhz, highKhz]
    omega

end Run

/-! ## The bandwidth -/

/-- The bandwidth of the rule and every width that its flags leave open are covered around it. -/
def WithinSpectrum (rd : Regdomain) (idx : Nat) (rule : RegRule) : Prop :=
  CoveredAround rd.regRules rule (regGetMaxBandwidth rd idx).toNat ∧
    ∀ chan width flag, (width, flag) ∈ widths →
      flag &&& regRuleToChanBwFlags rd idx rule chan ≠ flag →
        CoveredAround rd.regRules rule (chanMhzToKhz width).toNat

/-- The first rule of the run begins no later than the last one ends.  Where it begins later, a
stretch of `n` kHz around the rule is covered that a flag of the rule limits its bandwidth to, or
that makes 2^32 kHz with the way down from the one frequency to the other. -/
def RunsUpward (rd : Regdomain) (idx : Nat) (rule : RegRule) : Prop :=
  ∀ first last firstRule lastRule, RunAround rd.regRules idx first last →
    rd.regRules[first]? = some firstRule → rd.regRules[last]? = some lastRule →
      firstRule.freqRange.startFreqKhz ≤ lastRule.freqRange.endFreqKhz ∨
        ∃ n, CoveredAround rd.regRules rule n ∧
          (rule.LimitedTo n ∨ 2 ^ 32 + lastRule.freqRange.endFreqKhz.toNat ≤
            n + firstRule.freqRange.startFreqKhz.toNat)

/-- A difference that wraps around. -/
theorem sub_toNat_le_iff {a b : UInt32} (less : b < a) (n : Nat) :
    (b - a).toNat ≤ n ↔ 2 ^ 32 + b.toNat ≤ n + a.toNat := by
  rw [UInt32.lt_iff_toNat_lt] at less
  have bound := a.toNat_lt
  rw [UInt32.toNat_sub, Nat.mod_eq_of_lt (by omega)]
  omega

/-- The bandwidth of an `AUTO_BW` rule is covered exactly if the run of the rule leads upwards. -/
theorem withinSpectrum_iff (rd : Regdomain) (idx : Nat) (rule : RegRule)
    (there : rd.regRules[idx]? = some rule) (auto : rule.has nl80211RrfAutoBw = true) :
    WithinSpectrum rd idx rule ↔ RunsUpward rd idx rule := by
  obtain ⟨first, last, firstRule, lastRule, run, isFirst, isLast, down, up, bandwidth⟩ :=
    regGetMaxBandwidth_eq there
  constructor
  · rintro ⟨covered, -⟩ first' last' firstRule' lastRule' run' isFirst' isLast'
    obtain ⟨rfl, rfl⟩ := run.unique run'
    rw [isFirst] at isFirst'
    rw [isLast] at isLast'
    cases isFirst'
    cases isLast'
    rw [bandwidth, coveredAround_limit_iff] at covered
    obtain ⟨n, covered, within⟩ := covered
    refine or_iff_not_imp_left.mpr fun downward => ⟨n, covered, within.symm.imp_right ?_⟩
    exact (sub_toNat_le_iff (UInt32.not_le.mp downward) n).mp
  · intro upward
    have covered : CoveredAround rd.regRules rule (regGetMaxBandwidth rd idx).toNat := by
      rw [bandwidth, coveredAround_limit_iff]
      by_cases le : firstRule.freqRange.startFreqKhz ≤ lastRule.freqRange.endFreqKhz
      · exact ⟨_, coveredAround_run there down up le, .inl (Nat.le_refl _)⟩
      · obtain ⟨n, covered, within⟩ :=
          (upward first last firstRule lastRule run isFirst isLast).resolve_left le
        refine ⟨n, covered, within.symm.imp_left ?_⟩
        exact (sub_toNat_le_iff (UInt32.not_le.mp le) n).mpr
    refine ⟨covered, fun chan width flag listed allowed => covered.mono ?_⟩
    have le := width_le_of_allowed listed allowed
    rw [maxBandwidthKhz, if_pos auto, UInt32.le_iff_toNat_le] at le
    exact le

/-- A rule of 20 MHz channels. -/
def plainRule (start stop flags : UInt32) : RegRule :=
  ⟨⟨start, stop, 20000⟩, ⟨0, 0⟩, none, flags, 0⟩

/-- Two ranges that touch, the lower one first. -/
def upward : Regdomain :=
  ⟨(0x30, 0x30), 0, [plainRule 5170000 5250000 nl80211RrfAutoBw, plainRule 5250000 5330000 0]⟩

theorem withinSpectrum_iff_upward :
    upward.regRules[0]? = some (plainRule 5170000 5250000 nl80211RrfAutoBw) ∧
      (plainRule 5170000 5250000 nl80211RrfAutoBw).has nl80211RrfAutoBw = true ∧
      WithinSpectrum upward 0 (plainRule 5170000 5250000 nl80211RrfAutoBw) := by
  refine ⟨rfl, by decide, ?_⟩
  refine (withinSpectrum_iff upward 0 _ rfl (by decide)).mpr ?_
  intro first last firstRule lastRule run isFirst isLast
  obtain rfl : first = 0 := Nat.le_zero.mp run.first_le
  cases isFirst
  rcases List.mem_cons.mp (List.mem_of_getElem? isLast) with rfl | member
  · exact .inl (by decide)
  · obtain rfl := List.mem_singleton.mp member
    exact .inl (by decide)

/-- A rule of the 5 GHz band before an `AUTO_BW` rule of the 2.4 GHz band. -/
def downward : Regdomain :=
  ⟨(0x30, 0x30), 0, [plainRule 5170000 5250000 0, plainRule 2402000 2482000 nl80211RrfAutoBw]⟩

/-- The rule of 80 MHz is given a bandwidth of more than four billion kHz. -/
theorem not_withinSpectrum : downward.isValid = true ∧
    ¬ WithinSpectrum downward 1 (plainRule 2402000 2482000 nl80211RrfAutoBw) := by
  refine ⟨by decide, ?_⟩
  rintro ⟨⟨low, high, below, above, gapless, long⟩, -⟩
  have wide : (regGetMaxBandwidth downward 1).toNat = 4292279296 := by decide +kernel
  rw [wide] at long
  change low ≤ 2402000 at below
  change 2482000 ≤ high at above
  have outside : ∀ p : ℤ, p < 2402000 ∨ 2482000 ≤ p → p < 5170000 →
      ¬ Permits downward.regRules p := by
    rintro p out beneath ⟨rule, member, from', to'⟩
    rcases List.mem_cons.mp member with rfl | member
    · change 5170000 ≤ p at from'
      omega
    · obtain rfl := List.mem_singleton.mp member
      change 2402000 ≤ p at from'
      change p < 2482000 at to'
      omega
  by_cases beyond : 2482000 < high
  · exact outside 2482000 (.inr (le_refl _)) (by decide) (gapless 2482000 (by omega) beyond)
  · exact outside low (.inl (by omega)) (by omega) (gapless low (le_refl _) (by omega))

end Iwlwifi
