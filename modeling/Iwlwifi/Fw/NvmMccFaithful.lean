import Iwlwifi.Fw.NvmMccInfo

/-!
# Rules for the valid channels

The valid channels of a layout form runs, one for each rule.  A rule covers its run from the first
channel to the last one, and with them every channel in between that is not valid: in the 2.4 GHz
band the centers are 5 MHz apart, and up to three such channels fit between two that are merged.
The centers themselves are wrong from the 6 GHz channels on, which the loop takes for channels of
the 5 GHz band.
-/

namespace Iwlwifi

open Lib

/-! ## The range and the flags of a rule -/

def RegRule.shape (rule : RegRule) : UInt32 × UInt32 × UInt32 :=
  (rule.freqRange.startFreqKhz, rule.freqRange.endFreqKhz, rule.flags)

section Wmm

variable {db : List UInt8} {country rulesPtr left : Nat} {freq : Int} {rule out : RegRule}

theorem setWmmRule_shape {at18 : Nat} (run : setWmmRule db country at18 rule = .ok out) :
    out.shape = rule.shape := by
  rw [setWmmRule] at run
  obtain ⟨ptr, -, run⟩ := bind_eq_ok.mp run
  obtain ⟨valid, -, run⟩ := bind_eq_ok.mp run
  cases valid with
  | true =>
    obtain ⟨client, -, run⟩ := bind_eq_ok.mp run
    obtain ⟨ap, -, run⟩ := bind_eq_ok.mp run
    cases run
    rfl
  | false =>
    obtain ⟨_, -, run⟩ := bind_eq_ok.mp run
    obtain ⟨_, -, run⟩ := bind_eq_ok.mp run
    cases run
    rfl

theorem regdbQueryWmmFrom_shape
    (run : regdbQueryWmmFrom db country freq rule left rulesPtr = .ok out) :
    out.shape = rule.shape := by
  induction left generalizing rulesPtr with
  | zero => cases run
  | succ left ih =>
    rw [regdbQueryWmmFrom] at run
    obtain ⟨rulePtr, -, run⟩ := bind_eq_ok.mp run
    obtain ⟨len, -, run⟩ := bind_eq_ok.mp run
    split at run
    · exact ih run
    obtain ⟨start, -, run⟩ := bind_eq_ok.mp run
    split at run
    · exact ih run
    obtain ⟨stop, -, run⟩ := bind_eq_ok.mp run
    split at run
    · exact ih run
    · exact setWmmRule_shape run

theorem forCountry_ok {α : Type} {alpha2 : Nat × Nat} {query : Nat → BoundedRead Int α}
    {fuel : Nat} {result : α} (run : forCountry db alpha2 query fuel country = some (.ok result)) :
    ∃ found, query found = .ok result := by
  induction fuel generalizing country with
  | zero => cases run
  | succ fuel ih =>
    rw [forCountry] at run
    split at run
    · cases run
    · exact ⟨country, Option.some.inj run⟩
    · exact ih run

/-- The WMM rule of a rule is all that the database changes. -/
theorem queryWmm_shape (regdb : Regdb) (alpha2 : Nat × Nat) (freq : Int) (rule : RegRule) :
    (queryWmm regdb alpha2 freq rule).shape = rule.shape := by
  rw [queryWmm]
  split
  · next out run =>
      cases regdb with
      | null => cases run
      | err code => cases run
      | loaded db =>
        obtain ⟨country, run⟩ := forCountry_ok run
        rw [regdbQueryWmm] at run
        obtain ⟨ptr, -, run⟩ := bind_eq_ok.mp run
        obtain ⟨nRules, -, run⟩ := bind_eq_ok.mp run
        obtain ⟨len, -, run⟩ := bind_eq_ok.mp run
        exact regdbQueryWmmFrom_shape run
  · rfl

end Wmm

/-! ## The frequencies of a layout -/

/-- The band of a channel: after the 5 GHz channels come those at 6 to 7 GHz, as in
`iwl_nl80211_band_from_channel_idx`. -/
def channelBand (chIdx : Nat) : Nl80211Band :=
  if num2ghzChannels + num5ghzChannels ≤ chIdx then .ghz6
  else if num2ghzChannels ≤ chIdx then .ghz5
  else .ghz2

/-- The center frequency of a channel. -/
def channelFreq (nvmChan : List Nat) (chIdx : Nat) : Int :=
  ieee80211ChannelToFrequency (nvmChan.getD chIdx 0) (channelBand chIdx)

/-- What holds of the frequencies of all layouts: they increase with the index, the loop takes the
right one up to the 5 GHz channels and a lower one from there on. -/
structure FreqTable (nvmChan : List Nat) : Prop where
  grows : ∀ chIdx < nvmChan.length - 1,
    channelFreq nvmChan chIdx < channelFreq nvmChan (chIdx + 1)
  range : ∀ chIdx < nvmChan.length,
    30 < mccCenterFreq nvmChan chIdx ∧ mccCenterFreq nvmChan chIdx < 7000
  right : ∀ chIdx < nvmChan.length, chIdx < num2ghzChannels + num5ghzChannels →
    mccCenterFreq nvmChan chIdx = channelFreq nvmChan chIdx
  lower : ∀ chIdx < nvmChan.length, num2ghzChannels + num5ghzChannels ≤ chIdx →
    mccCenterFreq nvmChan chIdx < channelFreq nvmChan chIdx

theorem freqTable (cfg : NvmCfg) : FreqTable cfg.nvmChan := by
  rw [NvmCfg.nvmChan]
  split
  · constructor <;> decide +kernel
  split
  · constructor <;> decide +kernel
  · constructor <;> decide +kernel

section Freq

variable {nvmChan : List Nat} {p n : Nat}

theorem FreqTable.lt (table : FreqTable nvmChan) (lt : p < n) (inside : n < nvmChan.length) :
    channelFreq nvmChan p < channelFreq nvmChan n := by
  induction n with
  | zero => omega
  | succ n ih =>
    have step := table.grows n (by omega)
    rcases Nat.lt_succ_iff_lt_or_eq.mp lt with before | rfl
    · exact lt_trans (ih before (by omega)) step
    · exact step

theorem FreqTable.le (table : FreqTable nvmChan) (le : p ≤ n) (inside : n < nvmChan.length) :
    channelFreq nvmChan p ≤ channelFreq nvmChan n := by
  rcases Nat.lt_or_eq_of_le le with lt | rfl
  · exact le_of_lt (table.lt lt inside)
  · exact le_refl _

theorem FreqTable.le_channelFreq (table : FreqTable nvmChan) (inside : n < nvmChan.length) :
    mccCenterFreq nvmChan n ≤ channelFreq nvmChan n := by
  rcases Nat.lt_or_ge n (num2ghzChannels + num5ghzChannels) with low | high
  · exact le_of_eq (table.right n inside low)
  · exact le_of_lt (table.lower n inside high)

theorem toNat_mhzToKhz {freq : Int} (low : 0 ≤ freq) (high : freq < 7010) :
    ((mhzToKhz freq).toNat : Int) = freq * 1000 := by
  rw [mhzToKhz, UInt32.ofInt, UInt32.toNat_ofNat']
  omega

end Freq

/-! ## The runs of valid channels -/

section Runs

variable (nvmChan : List Nat) (channels : List UInt32)

def ChannelValid (chIdx : Nat) : Prop :=
  (channels.getD chIdx 0).toUInt16 &&& nvmChannelValid ≠ 0

instance (chIdx : Nat) : Decidable (ChannelValid channels chIdx) := inferInstanceAs (Decidable (¬_))

/-- The regulatory flags of a channel. -/
def channelRrf (chIdx : Nat) : UInt32 :=
  iwlNvmGetRegdomBwFlags nvmChan chIdx (channels.getD chIdx 0).toUInt16

/-- The second channel continues the rule of the first. -/
def Merges (p n : Nat) : Prop :=
  channelRrf nvmChan channels p = channelRrf nvmChan channels n ∧
    mccCenterFreq nvmChan n - mccCenterFreq nvmChan p ≤ 20

/-- The range and the flags of the rule of a run. -/
def runShape (run : Nat × Nat) : UInt32 × UInt32 × UInt32 :=
  (mhzToKhz (mccCenterFreq nvmChan run.1 - 10), mhzToKhz (mccCenterFreq nvmChan run.2 + 10),
    channelRrf nvmChan channels run.2 ||| nl80211RrfAutoBw)

/-- The loop has come to a channel: it has a rule for every run before. -/
structure MccState.After (chIdx : Nat) (st : MccState) (runs : List (Nat × Nat)) : Prop where
  pass : Runs (ChannelValid channels) (Merges nvmChan channels) chIdx runs
  shapes : st.regRules.map RegRule.shape = runs.map (runShape nvmChan channels)
  prev : ∀ run ∈ runs.head?, st.prevRegRuleFlags = channelRrf nvmChan channels run.2 ∧
    st.prevCenterFreq = mccCenterFreq nvmChan run.2
  first : runs = [] → st.prevCenterFreq = 0

end Runs

section Loop

variable {regdb : Regdb} {nvmChan : List Nat} {channels : List UInt32} {alpha2 : Nat × Nat}
  {geoInfo : UInt16} {chIdx : Nat} {st : MccState} {runs : List (Nat × Nat)}

/-- The loop continues the rule if the channel merges with the last valid one. -/
theorem newRule_iff (table : FreqTable nvmChan) (inside : chIdx < nvmChan.length)
    (after : st.After nvmChan channels chIdx runs) :
    (chIdx = 0 ∨ st.prevRegRuleFlags ≠ channelRrf nvmChan channels chIdx ∨
        20 < mccCenterFreq nvmChan chIdx - st.prevCenterFreq) ↔
      ∀ run ∈ runs.head?, ¬Merges nvmChan channels run.2 chIdx := by
  cases runs with
  | nil =>
    have zero := after.first rfl
    have range := table.range chIdx inside
    constructor
    · exact fun _ run none => by cases none
    · exact fun _ => Or.inr (Or.inr (by omega))
  | cons latest before =>
    obtain ⟨flags, center⟩ := after.prev latest rfl
    have index := (after.pass.mem List.mem_cons_self).2.1
    rw [flags, center]
    constructor
    · rintro (zero | differ | far) run same ⟨equal, near⟩
      · omega
      · cases same
        exact differ equal
      · cases same
        omega
    · intro apart
      by_contra merged
      simp only [not_or, not_not, not_lt] at merged
      exact apart latest rfl merged.2

theorem shape_queryWmm {condition : Prop} [Decidable condition] {freq : Int} {rule : RegRule} :
    (if condition then rule else queryWmm regdb alpha2 freq rule).shape = rule.shape := by
  split
  · rfl
  · exact queryWmm_shape regdb alpha2 freq rule

theorem parseChannel_after (table : FreqTable nvmChan) (inside : chIdx < nvmChan.length)
    (after : st.After nvmChan channels chIdx runs) :
    ∃ st' runs',
      parseChannel regdb nvmChan alpha2 geoInfo chIdx (channels.getD chIdx 0) st = some st' ∧
      st'.After nvmChan channels (chIdx + 1) runs' := by
  by_cases valid : ChannelValid channels chIdx
  · have isNew := newRule_iff table inside after
    rw [parseChannel]
    simp only [if_neg valid]
    cases new : decide (chIdx = 0 ∨
        st.prevRegRuleFlags ≠
          iwlNvmGetRegdomBwFlags nvmChan chIdx (channels.getD chIdx 0).toUInt16 ∨
        20 < mccCenterFreq nvmChan chIdx - st.prevCenterFreq) with
    | true =>
      have apart := isNew.mp (of_decide_eq_true new)
      refine ⟨_, (chIdx, chIdx) :: runs, rfl, .start after.pass valid apart, ?_, ?_, ?_⟩
      · rw [List.map_cons, List.map_cons, after.shapes, shape_queryWmm]
        rfl
      · rintro run same
        cases same
        exact ⟨rfl, rfl⟩
      · exact fun empty => absurd empty (List.cons_ne_nil _ _)
    | false =>
      have merges := mt isNew.mpr (of_decide_eq_false new)
      cases runs with
      | nil => exact absurd (fun run none => by cases none) merges
      | cons latest before =>
        have merges : Merges nvmChan channels latest.2 chIdx := by
          by_contra apart
          refine merges fun run same => ?_
          cases same
          exact apart
        have shapes := after.shapes
        cases rules : st.regRules with
        | nil =>
          rw [rules] at shapes
          cases shapes
        | cons rule rest =>
          rw [rules, List.map_cons, List.map_cons, List.cons.injEq] at shapes
          refine ⟨_, (latest.1, chIdx) :: before, rfl, .extend after.pass valid merges,
            ?_, ?_, ?_⟩
          · rw [List.map_cons, List.map_cons, shapes.2, shape_queryWmm]
            have start := congrArg Prod.fst shapes.1
            exact congrArg (fun first => (first, _, _) :: _) start
          · rintro run same
            cases same
            exact ⟨rfl, rfl⟩
          · exact fun empty => absurd empty (List.cons_ne_nil _ _)
  · have skips : (channels.getD chIdx 0).toUInt16 &&& nvmChannelValid = 0 := not_not.mp valid
    refine ⟨st, runs, ?_, .skip after.pass valid, after.shapes, after.prev, after.first⟩
    rw [parseChannel]
    exact if_pos skips

/-- The loop ends with a rule for every run of valid channels. -/
theorem parseChannels_after (table : FreqTable nvmChan)
    (inside : channels.length ≤ nvmChan.length) {rest : List UInt32}
    (here : channels.drop chIdx = rest) (le : chIdx ≤ channels.length)
    (after : st.After nvmChan channels chIdx runs) :
    ∃ st' runs', parseChannels regdb nvmChan alpha2 geoInfo chIdx rest st = some st' ∧
      st'.After nvmChan channels channels.length runs' := by
  induction rest generalizing chIdx st runs with
  | nil =>
    have ends := List.drop_eq_nil_iff.mp here
    obtain rfl : chIdx = channels.length := Nat.le_antisymm le ends
    exact ⟨st, runs, rfl, after⟩
  | cons channel rest ih =>
    have lt : chIdx < channels.length := by
      by_contra beyond
      rw [List.drop_eq_nil_of_le (Nat.not_lt.mp beyond)] at here
      cases here
    rw [List.drop_eq_getElem_cons lt, List.cons.injEq] at here
    have same : channels.getD chIdx 0 = channel := by
      rw [List.getD_eq_getElem?_getD, List.getElem?_eq_getElem lt, Option.getD_some, here.1]
    obtain ⟨st', runs', turn, after'⟩ := @parseChannel_after regdb nvmChan channels alpha2 geoInfo
      chIdx st runs table (by omega) after
    rw [same] at turn
    obtain ⟨last, runs'', run, done⟩ := ih here.2 lt after'
    exact ⟨last, runs'', by rw [parseChannels, turn, Option.bind_some, run], done⟩

end Loop

/-! ## Translation -/

/-- The range of a rule contains the 20 MHz around a center frequency. -/
def RegRule.Contains20 (rule : RegRule) (freq : Int) : Prop :=
  rule.freqRange.startFreqKhz.toNat ≤ (freq - 10) * 1000 ∧
    (freq + 10) * 1000 ≤ rule.freqRange.endFreqKhz.toNat

instance (rule : RegRule) (freq : Int) : Decidable (rule.Contains20 freq) :=
  inferInstanceAs (Decidable (_ ∧ _))

/-- The rules are proper and increase, the 20 MHz of every valid channel are in a rule with the
flags of the channel, and those of the other channels are in no rule. -/
structure MccFaithful (nvmChan : List Nat) (channels : List UInt32) (rules : List RegRule) :
    Prop where
  proper : ∀ rule ∈ rules, rule.freqRange.startFreqKhz < rule.freqRange.endFreqKhz
  increasing : rules.Pairwise fun rule later =>
    rule.freqRange.startFreqKhz < later.freqRange.startFreqKhz
  valid : ∀ chIdx < channels.length, ChannelValid channels chIdx →
    ∃ rule ∈ rules, rule.Contains20 (channelFreq nvmChan chIdx) ∧
      rule.flags = channelRrf nvmChan channels chIdx ||| nl80211RrfAutoBw
  invalid : ∀ chIdx < channels.length, ¬ChannelValid channels chIdx →
    ∀ rule ∈ rules, ¬rule.Contains20 (channelFreq nvmChan chIdx)

/-- No channel from 6 GHz on is valid, and valid channels with others between them differ in their
flags or are more than 20 MHz apart. -/
structure MccRegular (nvmChan : List Nat) (channels : List UInt32) : Prop where
  below6ghz : ∀ chIdx < channels.length, ChannelValid channels chIdx → channelBand chIdx ≠ .ghz6
  apart : ∀ p n, Neighbours (ChannelValid channels) p n → n < channels.length → p + 1 < n →
    channelRrf nvmChan channels p = channelRrf nvmChan channels n →
    20 < channelFreq nvmChan n - channelFreq nvmChan p

section Translation

variable {nvmChan : List Nat} {channels : List UInt32} {rules : List RegRule}
  {runs : List (Nat × Nat)}

theorem channelBand_eq_ghz6 {chIdx : Nat} :
    channelBand chIdx = .ghz6 ↔ num2ghzChannels + num5ghzChannels ≤ chIdx := by
  rw [channelBand]
  split
  · next high => exact iff_of_true rfl high
  · next low =>
      refine iff_of_false ?_ low
      split <;> exact fun same => by cases same

variable (table : FreqTable nvmChan) (inside : channels.length ≤ nvmChan.length)
  (pass : Runs (ChannelValid channels) (Merges nvmChan channels) channels.length runs)
  (shapes : rules.map RegRule.shape = (runs.map (runShape nvmChan channels)).reverse)

include shapes in
theorem exists_run {rule : RegRule} (member : rule ∈ rules) :
    ∃ run ∈ runs, rule.shape = runShape nvmChan channels run := by
  have here : rule.shape ∈ rules.map RegRule.shape := List.mem_map_of_mem member
  rw [shapes, List.mem_reverse] at here
  obtain ⟨run, member, same⟩ := List.mem_map.mp here
  exact ⟨run, member, same.symm⟩

include shapes in
theorem exists_rule {run : Nat × Nat} (member : run ∈ runs) :
    ∃ rule ∈ rules, rule.shape = runShape nvmChan channels run := by
  have here : runShape nvmChan channels run ∈ (runs.map (runShape nvmChan channels)).reverse :=
    List.mem_reverse.mpr (List.mem_map_of_mem member)
  rw [← shapes] at here
  obtain ⟨rule, member, same⟩ := List.mem_map.mp here
  exact ⟨rule, member, same⟩

include table inside pass in
/-- What a rule contains, said of the centers that the loop took. -/
theorem contains20_iff {rule : RegRule} {run : Nat × Nat} (member : run ∈ runs)
    (shape : rule.shape = runShape nvmChan channels run) (freq : Int) :
    rule.Contains20 freq ↔
      mccCenterFreq nvmChan run.1 ≤ freq ∧ freq ≤ mccCenterFreq nvmChan run.2 := by
  obtain ⟨ordered, last, -, -⟩ := pass.mem member
  have start := congrArg Prod.fst shape
  have stop := congrArg (fun shape => shape.2.1) shape
  simp only [RegRule.shape, runShape] at start stop
  have first := table.range run.1 (by omega)
  have final := table.range run.2 (by omega)
  have startKhz := @toNat_mhzToKhz (mccCenterFreq nvmChan run.1 - 10) (by omega) (by omega)
  have stopKhz := @toNat_mhzToKhz (mccCenterFreq nvmChan run.2 + 10) (by omega) (by omega)
  rw [RegRule.Contains20, start, stop, startKhz, stopKhz]
  omega

include table inside in
theorem mccCenterFreq_of_below6ghz
    (below : ∀ chIdx < channels.length, ChannelValid channels chIdx → channelBand chIdx ≠ .ghz6)
    {chIdx : Nat} (lt : chIdx < channels.length) (valid : ChannelValid channels chIdx) :
    mccCenterFreq nvmChan chIdx = channelFreq nvmChan chIdx := by
  refine table.right chIdx (by omega) ?_
  by_contra high
  exact below chIdx lt valid (channelBand_eq_ghz6.mpr (Nat.not_lt.mp high))

include table inside pass shapes

/-- A regular table is translated faithfully. -/
theorem mccFaithful_of_regular (regular : MccRegular nvmChan channels) :
    MccFaithful nvmChan channels rules := by
  have center : ∀ run ∈ runs, mccCenterFreq nvmChan run.1 = channelFreq nvmChan run.1 ∧
      mccCenterFreq nvmChan run.2 = channelFreq nvmChan run.2 := by
    intro run member
    obtain ⟨ordered, last, first, final⟩ := pass.mem member
    exact ⟨mccCenterFreq_of_below6ghz table inside regular.below6ghz (by omega) first,
      mccCenterFreq_of_below6ghz table inside regular.below6ghz last final⟩
  refine ⟨fun rule member => ?_, ?_, fun chIdx lt valid => ?_, fun chIdx lt invalid rule member
    contains => ?_⟩
  · obtain ⟨run, found, shape⟩ := exists_run shapes member
    have edge := contains20_iff table inside pass found shape (channelFreq nvmChan run.1)
    obtain ⟨ordered, last, -, -⟩ := pass.mem found
    obtain ⟨first, final⟩ := center run found
    have contains := edge.mpr ⟨le_of_eq first, final ▸ table.le ordered (by omega)⟩
    rw [UInt32.lt_iff_toNat_lt]
    have bounds := contains.1.trans (by omega : _ ≤ (channelFreq nvmChan run.1 + 10) * 1000 - 1)
    have end_ := contains.2
    omega
  · have starts : (rules.map RegRule.shape).Pairwise fun shape later => shape.1 < later.1 := by
      rw [shapes, List.pairwise_reverse, List.pairwise_map]
      refine pass.ordered.imp_of_mem fun {later earlier} laterIn earlierIn before => ?_
      obtain ⟨ordered, last, -, -⟩ := pass.mem laterIn
      obtain ⟨ordered', last', -, -⟩ := pass.mem earlierIn
      have first := table.range later.1 (by omega)
      have first' := table.range earlier.1 (by omega)
      have grows := table.lt (Nat.lt_of_le_of_lt ordered' before) (by omega)
      rw [← (center later laterIn).1, ← (center earlier earlierIn).1] at grows
      have khz := @toNat_mhzToKhz (mccCenterFreq nvmChan later.1 - 10) (by omega) (by omega)
      have khz' := @toNat_mhzToKhz (mccCenterFreq nvmChan earlier.1 - 10) (by omega) (by omega)
      simp only [runShape, UInt32.lt_iff_toNat_lt]
      omega
    rw [List.pairwise_map] at starts
    exact starts
  · obtain ⟨run, found, ge, le⟩ := pass.cover lt valid
    obtain ⟨rule, member, shape⟩ := exists_rule shapes found
    obtain ⟨ordered, last, -, -⟩ := pass.mem found
    obtain ⟨first, final⟩ := center run found
    refine ⟨rule, member, (contains20_iff table inside pass found shape _).mpr ⟨?_, ?_⟩, ?_⟩
    · rw [first]
      exact table.le ge (by omega)
    · rw [final]
      exact table.le le (by omega)
    · have flags := congrArg (fun shape => shape.2.2) shape
      have same := pass.uniform (fun p n merges => merges.1) found valid ge le
      exact flags.trans (congrArg (· ||| nl80211RrfAutoBw) same.symm)
  · obtain ⟨run, found, shape⟩ := exists_run shapes member
    obtain ⟨ordered, last, -, -⟩ := pass.mem found
    obtain ⟨first, final⟩ := center run found
    obtain ⟨low, high⟩ := (contains20_iff table inside pass found shape _).mp contains
    rw [first] at low
    rw [final] at high
    have ge : run.1 ≤ chIdx := by
      by_contra below
      have := table.lt (Nat.not_le.mp below) (by omega)
      omega
    have le : chIdx ≤ run.2 := by
      by_contra above
      have := table.lt (Nat.not_le.mp above) (by omega)
      omega
    obtain ⟨p, n, neighbours, merges, below, above, within⟩ := pass.between found invalid ge le
    have far := regular.apart p n neighbours (by omega) (by omega) merges.1
    have lower := mccCenterFreq_of_below6ghz table inside regular.below6ghz
      (by omega : p < channels.length) neighbours.first
    have upper := mccCenterFreq_of_below6ghz table inside regular.below6ghz
      (by omega : n < channels.length) neighbours.last
    have near := merges.2
    omega

/-- Only a regular table is translated faithfully. -/
theorem mccRegular_of_faithful (faithful : MccFaithful nvmChan channels rules) :
    MccRegular nvmChan channels := by
  have below : ∀ chIdx < channels.length, ChannelValid channels chIdx →
      channelBand chIdx ≠ .ghz6 := by
    intro chIdx lt valid high
    rw [channelBand_eq_ghz6] at high
    obtain ⟨latest, head, le⟩ := pass.latest lt valid
    obtain ⟨-, last, -, alive⟩ := pass.mem (List.mem_of_mem_head? head)
    obtain ⟨rule, member, contains, -⟩ := faithful.valid latest.2 last alive
    obtain ⟨run, found, shape⟩ := exists_run shapes member
    have top := ((contains20_iff table inside pass found shape _).mp contains).2
    obtain ⟨-, last', -, alive'⟩ := pass.mem found
    obtain ⟨other, same, before⟩ := pass.latest last' alive'
    obtain rfl : latest = other := Option.some.inj (head.symm.trans same)
    rcases Nat.lt_or_eq_of_le before with earlier | equal
    · have grows := table.lt earlier (by omega)
      have bound := table.le_channelFreq (by omega : run.2 < nvmChan.length)
      omega
    · have lower := table.lower latest.2 (by omega) (by omega)
      rw [equal] at top
      omega
  refine ⟨below, fun p n neighbours lt gap flags => ?_⟩
  by_contra near
  have order := neighbours.lt
  have pCenter := mccCenterFreq_of_below6ghz table inside below (by omega) neighbours.first
  have nCenter := mccCenterFreq_of_below6ghz table inside below lt neighbours.last
  obtain ⟨run, found, ge, le⟩ := pass.together neighbours lt ⟨flags, by omega⟩
  obtain ⟨rule, member, shape⟩ := exists_rule shapes found
  obtain ⟨ordered, last, first, final⟩ := pass.mem found
  have runFirst := mccCenterFreq_of_below6ghz table inside below (by omega) first
  have runLast := mccCenterFreq_of_below6ghz table inside below last final
  have dead := neighbours.none (p + 1) (by omega) gap
  refine faithful.invalid (p + 1) (by omega) dead rule member
    ((contains20_iff table inside pass found shape _).mpr ⟨?_, ?_⟩)
  · rw [runFirst]
    exact table.le (by omega) (by omega)
  · rw [runLast]
    exact table.le (by omega) (by omega)

end Translation

/-- The firmware's table becomes a regulatory domain, which is faithful exactly for a regular
table. -/
theorem mccFaithful_iff (regdb : Regdb) (cfg : NvmCfg) (channels : List UInt32)
    (fwMcc geoInfo : UInt16) :
    ∃ rd, iwlParseNvmMccInfo regdb cfg channels fwMcc geoInfo true true = .ok rd ∧
      (MccFaithful cfg.nvmChan (channels.take cfg.nvmChan.length) rd.regRules ↔
        MccRegular cfg.nvmChan (channels.take cfg.nvmChan.length)) := by
  have table := freqTable cfg
  have inside : (channels.take cfg.nvmChan.length).length ≤ cfg.nvmChan.length := by
    rw [List.length_take]
    exact Nat.min_le_left _ _
  have few : cfg.nvmChan.length ≤ nl80211MaxSuppRegRules := by
    rw [NvmCfg.nvmChan]
    split
    · decide
    split <;> decide
  have start : (MccState.mk [] 0 0).After cfg.nvmChan (channels.take cfg.nvmChan.length) 0 [] := by
    refine ⟨.empty, rfl, fun run none => ?_, fun _ => rfl⟩
    cases none
  obtain ⟨st, runs, run, after⟩ := @parseChannels_after regdb cfg.nvmChan
    (channels.take cfg.nvmChan.length) ((fwMcc >>> 8).toNat, (fwMcc &&& 0xff).toNat) geoInfo 0
    ⟨[], 0, 0⟩ [] table inside _ List.drop_zero (Nat.zero_le _) start
  have shapes : st.regRules.reverse.map RegRule.shape =
      (runs.map (runShape cfg.nvmChan (channels.take cfg.nvmChan.length))).reverse := by
    rw [List.map_reverse, after.shapes]
  refine ⟨⟨((fwMcc >>> 8).toNat, (fwMcc &&& 0xff).toNat), 0, st.regRules.reverse⟩, ?_, ?_⟩
  · have allowed : ¬nl80211MaxSuppRegRules < (channels.take cfg.nvmChan.length).length := by omega
    rw [iwlParseNvmMccInfo]
    simp only [if_neg allowed, run, Bool.not_true, Bool.false_eq_true, if_false]
  · exact ⟨mccRegular_of_faithful table inside after.pass shapes,
      mccFaithful_of_regular table inside after.pass shapes⟩

/-- Channels 1 and 3 are valid, and the rule that they share contains channel 2. -/
theorem not_mccFaithful :
    ∃ rd, iwlParseNvmMccInfo .null ⟨false, .nvm⟩ [1, 0, 1] 0 0 true true = .ok rd ∧
      ¬MccFaithful iwlNvmChannels [1, 0, 1] rd.regRules := by
  refine ⟨_, rfl, fun faithful => ?_⟩
  exact faithful.invalid 1 (by decide) (by decide) _ List.mem_cons_self (by decide)

end Iwlwifi
