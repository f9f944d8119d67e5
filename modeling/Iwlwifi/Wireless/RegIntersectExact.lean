import Iwlwifi.Wireless.RegIntersect

/-!
# The intersection is sound and complete

For two valid domains whose rules are in order, no two intersections overlap, so none is merged
with another and the new domain holds the intersection of every pair (`intersectRules_eq`).  A
rule that is `AUTO_BW` draws its bandwidth from the rules that it touches: the rules of the new
domain that touch each other lie in rules of either domain that do so, which makes that bandwidth
no wider (`regGetMaxBandwidthFromRange_le`).
-/

namespace Iwlwifi

open Lib

/-! ## Words -/

theorem toNat_max (a b : UInt32) : (max a b).toNat = max a.toNat b.toNat := by
  change (if a ≤ b then b else a).toNat = _
  split
  · next le => rw [Nat.max_eq_right (UInt32.le_iff_toNat_le.mp le)]
  · next lt => rw [Nat.max_eq_left (Nat.le_of_not_le fun le => lt (UInt32.le_iff_toNat_le.mpr le))]

theorem toNat_min (a b : UInt32) : (min a b).toNat = min a.toNat b.toNat := by
  change (if a ≤ b then a else b).toNat = _
  split
  · next le => rw [Nat.min_eq_left (UInt32.le_iff_toNat_le.mp le)]
  · next lt => rw [Nat.min_eq_right (Nat.le_of_not_le fun le => lt (UInt32.le_iff_toNat_le.mpr le))]

theorem left_le_max (a b : UInt32) : a ≤ max a b := by
  rw [UInt32.le_iff_toNat_le, toNat_max]
  exact Nat.le_max_left _ _

theorem right_le_max (a b : UInt32) : b ≤ max a b := by
  rw [UInt32.le_iff_toNat_le, toNat_max]
  exact Nat.le_max_right _ _

theorem and_or_distrib (a b mask : UInt32) : mask &&& (a ||| b) = mask &&& a ||| mask &&& b :=
  UInt32.toBitVec_inj.mp BitVec.and_or_distrib_left

/-- Clearing flags that are not in a mask does not change what the mask sees. -/
theorem and_not_and {flags cleared mask : UInt32} (apart : mask &&& cleared = 0) :
    flags &&& ~~~cleared &&& mask = flags &&& mask := by
  have whole : mask &&& ~~~cleared = mask := by
    calc mask &&& ~~~cleared = mask &&& cleared ||| mask &&& ~~~cleared := by
          rw [apart, UInt32.zero_or]
      _ = mask &&& (cleared ||| ~~~cleared) := (and_or_distrib _ _ _).symm
      _ = mask := by rw [UInt32.or_not_self, UInt32.and_neg_one]
  rw [UInt32.and_assoc, UInt32.and_comm (~~~cleared), whole]

/-! ## The intersection of two rules -/

theorem isValid_iff {rule : RegRule} : rule.isValid = true ↔
    0 < rule.freqRange.startFreqKhz.toNat ∧
      rule.freqRange.startFreqKhz.toNat < rule.freqRange.endFreqKhz.toNat ∧
      rule.freqRange.maxBandwidthKhz.toNat ≤
        rule.freqRange.endFreqKhz.toNat - rule.freqRange.startFreqKhz.toNat := by
  have zero : (0 : UInt32).toNat = 0 := rfl
  rw [RegRule.isValid]
  simp only [gt_iff_lt, UInt32.le_iff_toNat_le, UInt32.lt_iff_toNat_lt, zero]
  split
  · simp only [Bool.false_eq_true, false_iff]
    omega
  split
  · simp only [Bool.false_eq_true, false_iff]
    omega
  · next ordered =>
      have diff := UInt32.toNat_sub_of_le rule.freqRange.endFreqKhz rule.freqRange.startFreqKhz
        (UInt32.le_iff_toNat_le.mpr (by omega))
      rw [diff]
      split
      · simp only [Bool.false_eq_true, false_iff]
        omega
      · simp only [true_iff]
        omega

/-- The rule lies in rule `idx` of a domain, which is `source`, and permits no more. -/
structure Narrows (rule : RegRule) (rd : Regdomain) (idx : Nat) (source : RegRule) : Prop where
  start : source.freqRange.startFreqKhz ≤ rule.freqRange.startFreqKhz
  stop : rule.freqRange.endFreqKhz ≤ source.freqRange.endFreqKhz
  antennaGain : rule.powerRule.maxAntennaGain ≤ source.powerRule.maxAntennaGain
  eirp : rule.powerRule.maxEirp ≤ source.powerRule.maxEirp
  bandwidth : rule.freqRange.maxBandwidthKhz ≤ permittedBandwidth rd idx source
  cac : source.dfsCacMs ≤ rule.dfsCacMs
  flags : ∀ mask, mask &&& nl80211RrfAutoBw = 0 → source.has mask = true → rule.has mask = true
  autoBw : rule.has nl80211RrfAutoBw = true → source.has nl80211RrfAutoBw = true

section Pair

variable {rd1 rd2 : Regdomain} {x y : Nat} {rule1 rule2 rule : RegRule}

theorem intersectFlags_keeps {mask : UInt32} (apart : mask &&& nl80211RrfAutoBw = 0) :
    intersectFlags rule1 rule2 &&& mask = (rule1.flags ||| rule2.flags) &&& mask := by
  rw [intersectFlags]
  split
  · rw [UInt32.and_comm, and_or_distrib, apart, UInt32.or_zero, UInt32.and_comm]
  · exact and_not_and apart

theorem has_of_or {mask : UInt32} (present : rule1.has mask = true ∨ rule2.has mask = true) :
    ((rule1.flags ||| rule2.flags) &&& mask != 0) = true := by
  simp only [RegRule.has, bne_iff_ne, ne_eq] at present ⊢
  rw [UInt32.and_comm, and_or_distrib, UInt32.or_eq_zero_iff, UInt32.and_comm mask,
    UInt32.and_comm mask]
  rintro ⟨none1, none2⟩
  rcases present with present | present
  · exact present none1
  · exact present none2

theorem intersectFlags_autoBw (present : (intersectFlags rule1 rule2 &&& nl80211RrfAutoBw != 0) =
    true) : rule1.has nl80211RrfAutoBw = true ∧ rule2.has nl80211RrfAutoBw = true := by
  rw [intersectFlags] at present
  split at present
  · next both => exact Bool.and_eq_true_iff.mp both
  · rw [UInt32.and_assoc, UInt32.not_and_self, UInt32.and_zero] at present
    cases present

theorem regRulesIntersect_spec
    (intersects : regRulesIntersect rd1 rd2 x y rule1 rule2 = some rule) :
    rule.isValid = true ∧ Narrows rule rd1 x rule1 ∧ Narrows rule rd2 y rule2 := by
  obtain ⟨valid, same⟩ := Option.ite_none_right_eq_some.mp intersects
  cases same
  have bandwidth : ∀ {bw diff : UInt32}, (if bw > diff then diff else bw) ≤ bw := by
    intro bw diff
    split
    · next wider => exact UInt32.le_of_lt wider
    · exact UInt32.le_refl _
  refine ⟨valid, ⟨left_le_max _ _, Std.min_le_left, Std.min_le_left, Std.min_le_left,
    UInt32.le_trans bandwidth Std.min_le_left, left_le_max _ _, ?_, ?_⟩,
    ⟨right_le_max _ _, Std.min_le_right, Std.min_le_right, Std.min_le_right,
    UInt32.le_trans bandwidth Std.min_le_right, right_le_max _ _, ?_, ?_⟩⟩
  · intro mask apart present
    rw [RegRule.has, intersectFlags_keeps apart]
    exact has_of_or (Or.inl present)
  · exact fun present => (intersectFlags_autoBw present).1
  · intro mask apart present
    rw [RegRule.has, intersectFlags_keeps apart]
    exact has_of_or (Or.inr present)
  · exact fun present => (intersectFlags_autoBw present).2

/-- Two rules that have a range in common have an intersection, which is that range. -/
theorem regRulesIntersect_of_lt (valid1 : rule1.isValid = true)
    (common : max rule1.freqRange.startFreqKhz.toNat rule2.freqRange.startFreqKhz.toNat <
      min rule1.freqRange.endFreqKhz.toNat rule2.freqRange.endFreqKhz.toNat) :
    ∃ rule, regRulesIntersect rd1 rd2 x y rule1 rule2 = some rule ∧
      rule.freqRange.startFreqKhz.toNat =
        max rule1.freqRange.startFreqKhz.toNat rule2.freqRange.startFreqKhz.toNat ∧
      rule.freqRange.endFreqKhz.toNat =
        min rule1.freqRange.endFreqKhz.toNat rule2.freqRange.endFreqKhz.toNat := by
  obtain ⟨positive1, -, -⟩ := isValid_iff.mp valid1
  rw [← toNat_max, ← toNat_min] at common
  have ordered := UInt32.le_iff_toNat_le.mpr (Nat.le_of_lt common)
  rw [regRulesIntersect, if_pos]
  · exact ⟨_, rfl, toNat_max _ _, toNat_min _ _⟩
  · refine isValid_iff.mpr ⟨?_, common, ?_⟩
    · rw [toNat_max]
      omega
    · simp only
      rw [← UInt32.toNat_sub_of_le _ _ ordered, ← UInt32.le_iff_toNat_le]
      split
      · exact UInt32.le_refl _
      · next fits => exact UInt32.not_lt.mp fits

end Pair

/-! ## The rules of the new domain -/

/-- The rules do not overlap and are sorted by frequency. -/
def InOrder (rules : List RegRule) : Prop :=
  rules.Pairwise fun earlier later =>
    earlier.freqRange.endFreqKhz ≤ later.freqRange.startFreqKhz

instance (rules : List RegRule) : Decidable (InOrder rules) :=
  inferInstanceAs (Decidable (rules.Pairwise _))

/-- The intersections of all pairs that have one. -/
def intersections (rd1 rd2 : Regdomain) : List RegRule :=
  rd1.regRules.zipIdx.flatMap fun rule1 => rd2.regRules.zipIdx.filterMap fun rule2 =>
    regRulesIntersect rd1 rd2 rule1.2 rule2.2 rule1.1 rule2.1

theorem forIntersections_eq {α : Type} (rd1 rd2 : Regdomain) (body : α → RegRule → α)
    (start : α) :
    forIntersections rd1 rd2 body start = (intersections rd1 rd2).foldl body start := by
  rw [forIntersections, intersections, List.foldl_flatMap]
  congr 1
  funext acc rule1
  rw [List.foldl_filterMap]
  congr 1
  funext acc rule2
  cases regRulesIntersect rd1 rd2 rule1.2 rule2.2 rule1.1 rule2.1 with
  | none => rfl
  | some intersectedRule => rfl

theorem countRules_eq (rd1 rd2 : Regdomain) :
    countRules rd1 rd2 = (intersections rd1 rd2).length := by
  have counts : ∀ (rules : List RegRule) (n : Nat),
      rules.foldl (fun n _ => n + 1) n = n + rules.length := by
    intro rules
    induction rules with
    | nil => exact fun n => rfl
    | cons rule rest ih =>
        intro n
        rw [List.foldl_cons, ih, List.length_cons]
        omega
  rw [countRules, forIntersections_eq, counts, Nat.zero_add]

section Domains

variable {rd1 rd2 : Regdomain}

theorem mem_intersections {rule : RegRule} : rule ∈ intersections rd1 rd2 ↔
    ∃ x rule1 y rule2, rd1.regRules[x]? = some rule1 ∧ rd2.regRules[y]? = some rule2 ∧
      regRulesIntersect rd1 rd2 x y rule1 rule2 = some rule := by
  simp only [intersections, List.mem_flatMap, List.mem_filterMap, List.mem_zipIdx_iff_getElem?]
  constructor
  · rintro ⟨⟨rule1, x⟩, there1, ⟨rule2, y⟩, there2, intersects⟩
    exact ⟨x, rule1, y, rule2, there1, there2, intersects⟩
  · rintro ⟨x, rule1, y, rule2, there1, there2, intersects⟩
    exact ⟨(rule1, x), there1, (rule2, y), there2, intersects⟩

theorem intersections_valid {rule : RegRule} (member : rule ∈ intersections rd1 rd2) :
    rule.isValid = true := by
  obtain ⟨x, rule1, y, rule2, -, -, intersects⟩ := mem_intersections.mp member
  exact (regRulesIntersect_spec intersects).1

theorem pairwise_zipIdx {rules : List RegRule} (ordered : InOrder rules) :
    rules.zipIdx.Pairwise fun earlier later =>
      earlier.1.freqRange.endFreqKhz ≤ later.1.freqRange.startFreqKhz := by
  have same : rules.zipIdx.map Prod.fst = rules := List.zipIdx_map_fst 0 rules
  rw [InOrder, ← same] at ordered
  exact List.pairwise_map.mp ordered

theorem intersections_inOrder (ordered1 : InOrder rd1.regRules) (ordered2 : InOrder rd2.regRules) :
    InOrder (intersections rd1 rd2) := by
  rw [InOrder, intersections, List.pairwise_flatMap]
  constructor
  · rintro ⟨rule1, x⟩ -
    rw [List.pairwise_filterMap]
    refine (pairwise_zipIdx ordered2).imp fun before earlier one later two => ?_
    obtain ⟨-, -, narrows⟩ := regRulesIntersect_spec one
    obtain ⟨-, -, narrows'⟩ := regRulesIntersect_spec two
    exact UInt32.le_trans narrows.stop (UInt32.le_trans before narrows'.start)
  · refine (pairwise_zipIdx ordered1).imp fun before earlier one later two => ?_
    obtain ⟨rule2, -, one⟩ := List.mem_filterMap.mp one
    obtain ⟨rule2', -, two⟩ := List.mem_filterMap.mp two
    obtain ⟨-, narrows, -⟩ := regRulesIntersect_spec one
    obtain ⟨-, narrows', -⟩ := regRulesIntersect_spec two
    exact UInt32.le_trans narrows.stop (UInt32.le_trans before narrows'.start)

end Domains

/-! ## No two rules are merged -/

theorem range_of_ruleContains {r1 r2 : RegRule} (contains : ruleContains r1 r2 = true) :
    r1.freqRange.startFreqKhz ≤ r2.freqRange.startFreqKhz ∧
      r2.freqRange.endFreqKhz ≤ r1.freqRange.endFreqKhz := by
  rw [ruleContains] at contains
  split at contains
  · cases contains
  split at contains
  · cases contains
  split at contains
  · cases contains
  · next inside =>
      simp only [gt_iff_lt, not_or, UInt32.not_lt] at inside
      exact inside

/-- A rule behind all others is added at the end. -/
theorem addRule_of_inOrder {rules : List RegRule} {rule : RegRule}
    (ordered : ∀ tmp ∈ rules, tmp.freqRange.endFreqKhz ≤ rule.freqRange.startFreqKhz)
    (positive : ∀ tmp ∈ rules, tmp.isValid = true) (valid : rule.isValid = true) :
    addRule rule rules = rules ++ [rule] := by
  induction rules with
  | nil => rfl
  | cons tmp rest ih =>
      have before := UInt32.le_iff_toNat_le.mp (ordered tmp List.mem_cons_self)
      obtain ⟨-, tmpPositive, -⟩ := isValid_iff.mp (positive tmp List.mem_cons_self)
      obtain ⟨-, rulePositive, -⟩ := isValid_iff.mp valid
      have outside : ¬ruleContains tmp rule = true := by
        intro contains
        have range := (range_of_ruleContains contains).2
        rw [UInt32.le_iff_toNat_le] at range
        omega
      have outside' : ¬ruleContains rule tmp = true := by
        intro contains
        have range := (range_of_ruleContains contains).1
        rw [UInt32.le_iff_toNat_le] at range
        omega
      rw [addRule, if_neg outside, if_neg outside', ih
        (fun tmp member => ordered tmp (List.mem_cons_of_mem _ member))
        (fun tmp member => positive tmp (List.mem_cons_of_mem _ member))]
      rfl

theorem foldl_addRule {rules added : List RegRule} (ordered : InOrder (added ++ rules))
    (valid : ∀ rule ∈ added ++ rules, rule.isValid = true) :
    rules.foldl (fun rules rule => addRule rule rules) added = added ++ rules := by
  induction rules generalizing added with
  | nil => rw [List.foldl_nil, List.append_nil]
  | cons rule rest ih =>
      have split : added ++ rule :: rest = added ++ [rule] ++ rest := by
        rw [List.append_assoc]
        rfl
      have before := (List.pairwise_append.mp ordered).2.2
      rw [List.foldl_cons, addRule_of_inOrder, split]
      · exact ih (by rwa [← split]) (by rwa [← split])
      · exact fun tmp member => before tmp member rule List.mem_cons_self
      · exact fun tmp member => valid tmp (List.mem_append_left _ member)
      · exact valid rule (List.mem_append_right _ List.mem_cons_self)

theorem intersectRules_eq {rd1 rd2 : Regdomain} (ordered1 : InOrder rd1.regRules)
    (ordered2 : InOrder rd2.regRules) : intersectRules rd1 rd2 = intersections rd1 rd2 := by
  rw [intersectRules, forIntersections_eq]
  refine foldl_addRule ?_ ?_
  · exact intersections_inOrder ordered1 ordered2
  · exact fun rule member => intersections_valid member

/-! ## The bandwidth of an `AUTO_BW` rule -/

def lowKhz (freqRange : FreqRange) : ℤ := freqRange.startFreqKhz.toNat

def highKhz (freqRange : FreqRange) : ℤ := freqRange.endFreqKhz.toNat

theorem endsBefore_iff (next cur : FreqRange) :
    endsBefore next cur = true ↔ highKhz next < lowKhz cur := by
  rw [endsBefore, decide_eq_true_iff, UInt32.lt_iff_toNat_lt, highKhz, lowKhz]
  omega

theorem startsAfter_iff (next cur : FreqRange) :
    startsAfter next cur = true ↔ -lowKhz next < -highKhz cur := by
  rw [startsAfter, decide_eq_true_iff, UInt32.lt_iff_toNat_lt, highKhz, lowKhz]
  omega

/-- The neighbours below a rule, from the nearest on. -/
def rulesBelow (rules : List RegRule) (idx : Nat) : List FreqRange :=
  (rules.take idx).reverse.map (·.freqRange)

/-- The neighbours above a rule. -/
def rulesAbove (rules : List RegRule) (idx : Nat) : List FreqRange :=
  (rules.drop (idx + 1)).map (·.freqRange)

/-- A rule of the domain holds the frequency. -/
def Permits (rules : List RegRule) (p : ℤ) : Prop :=
  ∃ rule ∈ rules, lowKhz rule.freqRange ≤ p ∧ p < highKhz rule.freqRange

section Neighbours

variable {rules : List RegRule} {idx : Nat} {rule : RegRule} (there : rules[idx]? = some rule)
include there

theorem rules_split : rules = rules.take idx ++ rule :: rules.drop (idx + 1) := by
  obtain ⟨index, same⟩ := List.getElem?_eq_some_iff.mp there
  rw [← same, ← List.drop_eq_getElem_cons index, List.take_append_drop]

variable (ordered : InOrder rules) (valid : ∀ rule ∈ rules, rule.isValid = true)

omit there in
include valid in
theorem low_lt_high {member : RegRule} (there : member ∈ rules) :
    lowKhz member.freqRange < highKhz member.freqRange := by
  obtain ⟨-, positive, -⟩ := isValid_iff.mp (valid member there)
  rw [lowKhz, highKhz]
  omega

include ordered

theorem below_inOrder : (rule.freqRange :: rulesBelow rules idx).Pairwise
    fun later earlier => highKhz earlier ≤ lowKhz later := by
  rw [rules_split there, InOrder, List.pairwise_append] at ordered
  obtain ⟨below, -, before⟩ := ordered
  refine List.pairwise_cons.mpr ⟨fun range member => ?_, ?_⟩
  · obtain ⟨earlier, listed, rfl⟩ := List.mem_map.mp member
    have le := before earlier (List.mem_reverse.mp listed) rule List.mem_cons_self
    rw [UInt32.le_iff_toNat_le] at le
    rw [lowKhz, highKhz]
    omega
  · rw [rulesBelow, List.pairwise_map, List.pairwise_reverse]
    refine below.imp fun le => ?_
    rw [UInt32.le_iff_toNat_le] at le
    rw [lowKhz, highKhz]
    omega

theorem above_inOrder : (rule.freqRange :: rulesAbove rules idx).Pairwise
    fun earlier later => -lowKhz later ≤ -highKhz earlier := by
  rw [rules_split there, InOrder, List.pairwise_append] at ordered
  have above := ordered.2.1
  have same : rule.freqRange :: rulesAbove rules idx =
      (rule :: rules.drop (idx + 1)).map (·.freqRange) := rfl
  rw [same, List.pairwise_map]
  refine above.imp fun le => ?_
  rw [UInt32.le_iff_toNat_le] at le
  rw [lowKhz, highKhz]
  omega

include valid

theorem covers_below {p : ℤ} (low : p < lowKhz rule.freqRange) :
    Covers lowKhz highKhz (rulesBelow rules idx) p ↔ Permits rules p := by
  constructor
  · rintro ⟨range, member, holds⟩
    obtain ⟨earlier, listed, rfl⟩ := List.mem_map.mp member
    exact ⟨earlier, List.mem_of_mem_take (List.mem_reverse.mp listed), holds⟩
  · rintro ⟨other, member, holds⟩
    have positive := low_lt_high valid (List.mem_of_getElem? there)
    have above := above_inOrder there ordered
    rw [rules_split there] at member
    rcases List.mem_append.mp member with below | member
    · exact ⟨other.freqRange, List.mem_map_of_mem (List.mem_reverse.mpr below), holds⟩
    rcases List.mem_cons.mp member with rfl | member
    · omega
    · have behind := (List.pairwise_cons.mp above).1 other.freqRange (List.mem_map_of_mem member)
      omega

theorem covers_above {p : ℤ} (high : highKhz rule.freqRange ≤ p) :
    Covers lowKhz highKhz (rulesAbove rules idx) p ↔ Permits rules p := by
  constructor
  · rintro ⟨range, member, holds⟩
    obtain ⟨later, listed, rfl⟩ := List.mem_map.mp member
    exact ⟨later, List.mem_of_mem_drop listed, holds⟩
  · rintro ⟨other, member, holds⟩
    have positive := low_lt_high valid (List.mem_of_getElem? there)
    have below := below_inOrder there ordered
    rw [rules_split there] at member
    rcases List.mem_append.mp member with member | member
    · have before := (List.pairwise_cons.mp below).1 other.freqRange
        (List.mem_map_of_mem (List.mem_reverse.mpr member))
      omega
    rcases List.mem_cons.mp member with rfl | above
    · omega
    · exact ⟨other.freqRange, List.mem_map_of_mem above, holds⟩

end Neighbours

/-- A rule of the inner domain that lies in one of the outer domain draws no wider a range from
its neighbours, if all rules of the inner domain lie in rules of the outer one. -/
theorem regGetMaxBandwidthFromRange_le {inner outer : Regdomain} {idx idx' : Nat}
    {rule source : RegRule} (there : inner.regRules[idx]? = some rule)
    (there' : outer.regRules[idx']? = some source)
    (ordered : InOrder inner.regRules) (ordered' : InOrder outer.regRules)
    (valid : ∀ rule ∈ inner.regRules, rule.isValid = true)
    (valid' : ∀ rule ∈ outer.regRules, rule.isValid = true)
    (start : source.freqRange.startFreqKhz ≤ rule.freqRange.startFreqKhz)
    (stop : rule.freqRange.endFreqKhz ≤ source.freqRange.endFreqKhz)
    (within : ∀ p, Permits inner.regRules p → Permits outer.regRules p) :
    regGetMaxBandwidthFromRange inner idx ≤ regGetMaxBandwidthFromRange outer idx' := by
  have positive := low_lt_high valid (List.mem_of_getElem? there)
  rw [UInt32.le_iff_toNat_le] at start stop
  have lowLe : lowKhz source.freqRange ≤ lowKhz rule.freqRange := by
    rw [lowKhz, lowKhz]
    omega
  have highLe : -highKhz source.freqRange ≤ -highKhz rule.freqRange := by
    rw [highKhz, highKhz]
    omega
  have positiveBelow : ∀ {rd : Regdomain} {i : Nat}, (∀ rule ∈ rd.regRules, rule.isValid = true) →
      ∀ range ∈ rulesBelow rd.regRules i, lowKhz range < highKhz range := by
    intro rd i valid range member
    obtain ⟨earlier, listed, rfl⟩ := List.mem_map.mp member
    exact low_lt_high valid (List.mem_of_mem_take (List.mem_reverse.mp listed))
  have positiveAbove : ∀ {rd : Regdomain} {i : Nat}, (∀ rule ∈ rd.regRules, rule.isValid = true) →
      ∀ range ∈ rulesAbove rd.regRules i, -highKhz range < -lowKhz range := by
    intro rd i valid range member
    obtain ⟨later, listed, rfl⟩ := List.mem_map.mp member
    have less := low_lt_high valid (List.mem_of_mem_drop listed)
    omega
  have below := follow_le_follow endsBefore_iff (below_inOrder there' ordered')
    (positiveBelow valid') lowLe fun p low covers =>
      (covers_below there' ordered' valid' low).mpr (within p
        ((covers_below there ordered valid (by omega)).mp covers))
  have above := @follow_le_follow FreqRange (fun range => -highKhz range)
    (fun range => -lowKhz range) startsAfter startsAfter_iff _ _ _ _
    (above_inOrder there' ordered') (positiveAbove valid') highLe fun p high covers => by
      rw [covers_mirror] at covers ⊢
      exact (covers_above there' ordered' valid' (by omega)).mpr (within _
        ((covers_above there ordered valid (by omega)).mp covers))
  have lowSelf := follow_le_self endsBefore_iff (below_inOrder there ordered)
    (positiveBelow valid)
  have highSelf := @follow_le_self FreqRange (fun range => -highKhz range)
    (fun range => -lowKhz range) startsAfter startsAfter_iff _ _
    (above_inOrder there ordered) (positiveAbove valid)
  simp only [regGetMaxBandwidthFromRange, there, there']
  simp only [lowKhz, highKhz] at below above lowSelf highSelf positive
  change _ - _ ≤ (follow startsAfter (rulesAbove outer.regRules idx') source.freqRange).endFreqKhz -
    (follow endsBefore (rulesBelow outer.regRules idx') source.freqRange).startFreqKhz
  change (follow startsAfter (rulesAbove inner.regRules idx) rule.freqRange).endFreqKhz -
    (follow endsBefore (rulesBelow inner.regRules idx) rule.freqRange).startFreqKhz ≤ _
  rw [UInt32.le_iff_toNat_le, UInt32.toNat_sub_of_le, UInt32.toNat_sub_of_le]
  · omega
  · rw [UInt32.le_iff_toNat_le]
    omega
  · rw [UInt32.le_iff_toNat_le]
    omega

theorem limitBandwidth_mono {rule source : RegRule} {bw bw' : UInt32} (le : bw ≤ bw')
    (flags : ∀ mask, mask &&& nl80211RrfAutoBw = 0 → source.has mask = true →
      rule.has mask = true) : rule.limitBandwidth bw ≤ source.limitBandwidth bw' := by
  have limit : ∀ {strict loose : Bool} {bw bw' most : UInt32}, bw ≤ bw' →
      (loose = true → strict = true) →
      (if strict then min bw most else bw) ≤ (if loose then min bw' most else bw') := by
    intro strict loose bw bw' most le implies
    rw [UInt32.le_iff_toNat_le] at le ⊢
    cases loose with
    | true =>
        rw [implies rfl, if_pos rfl, if_pos rfl, toNat_min, toNat_min]
        omega
    | false =>
        simp only [Bool.false_eq_true, if_false]
        split
        · rw [toNat_min]
          omega
        · exact le
  simp only [RegRule.limitBandwidth]
  refine limit (limit (limit le ?_) ?_) ?_
  · exact flags _ (by decide)
  · exact flags _ (by decide)
  · intro both
    obtain ⟨minus, plus⟩ := Bool.and_eq_true_iff.mp both
    exact Bool.and_eq_true_iff.mpr ⟨flags _ (by decide) minus, flags _ (by decide) plus⟩

/-! ## The new domain -/

/-- The range lies in the rule. -/
def InRule (low high : Nat) (rule : RegRule) : Prop :=
  rule.freqRange.startFreqKhz.toNat ≤ low ∧ high ≤ rule.freqRange.endFreqKhz.toNat

/-- Rule `i` of the new domain restricts at least as much as rule `x` of one of the two. -/
structure Restricts (rd : Regdomain) (i : Nat) (rule : RegRule) (source : Regdomain) (x : Nat)
    (sourceRule : RegRule) : Prop where
  antennaGain : rule.powerRule.maxAntennaGain ≤ sourceRule.powerRule.maxAntennaGain
  eirp : rule.powerRule.maxEirp ≤ sourceRule.powerRule.maxEirp
  bandwidth : permittedBandwidth rd i rule ≤ permittedBandwidth source x sourceRule
  cac : sourceRule.dfsCacMs ≤ rule.dfsCacMs
  /-- `NL80211_RRF_AUTO_BW` restricts nothing. -/
  flags : ∀ mask, mask &&& nl80211RrfAutoBw = 0 → sourceRule.has mask = true →
    rule.has mask = true

/-- What is said of the intersection of two domains. -/
structure IsIntersection (rd1 rd2 : Regdomain) : Prop where
  /-- A range of positive width lies in a rule of the new domain if and only if it lies in a rule
  of both. -/
  ranges : ∀ low high, low < high →
    ((∃ rd, regdomIntersect true rd1 rd2 = some rd ∧ ∃ rule ∈ rd.regRules, InRule low high rule) ↔
      (∃ rule1 ∈ rd1.regRules, InRule low high rule1) ∧
        ∃ rule2 ∈ rd2.regRules, InRule low high rule2)
  restricts : ∀ rd, regdomIntersect true rd1 rd2 = some rd → ∀ low high, low < high →
    ∀ i rule, rd.regRules[i]? = some rule → InRule low high rule →
      (∀ x rule1, rd1.regRules[x]? = some rule1 → InRule low high rule1 →
        Restricts rd i rule rd1 x rule1) ∧
      ∀ y rule2, rd2.regRules[y]? = some rule2 → InRule low high rule2 →
        Restricts rd i rule rd2 y rule2
  written : (intersectRules rd1 rd2).length ≤ countRules rd1 rd2

/-- A range of positive width lies in one rule only. -/
theorem index_eq_of_inRule {rules : List RegRule} (ordered : InOrder rules) {low high : Nat}
    (positive : low < high) {i j : Nat} {rule other : RegRule} (there : rules[i]? = some rule)
    (there' : rules[j]? = some other) (inside : InRule low high rule)
    (inside' : InRule low high other) : i = j := by
  have apart : ∀ {i j : Nat} {rule other : RegRule}, rules[i]? = some rule →
      rules[j]? = some other → InRule low high rule → InRule low high other → ¬i < j := by
    intro i j rule other there there' inside inside' less
    obtain ⟨index, same⟩ := List.getElem?_eq_some_iff.mp there
    obtain ⟨index', same'⟩ := List.getElem?_eq_some_iff.mp there'
    have before := List.pairwise_iff_getElem.mp ordered i j index index' less
    rw [same, same', UInt32.le_iff_toNat_le] at before
    have high := inside.2
    have low := inside'.1
    omega
  have notBefore := apart there there' inside inside'
  have notBehind := apart there' there inside' inside
  omega

section Result

variable {rd1 rd2 : Regdomain} (valid1 : rd1.isValid = true) (valid2 : rd2.isValid = true)
  (ordered1 : InOrder rd1.regRules) (ordered2 : InOrder rd2.regRules)

variable {rd : Regdomain}

theorem rules_valid (valid : rd.isValid = true) : ∀ rule ∈ rd.regRules, rule.isValid = true := by
  rw [Regdomain.isValid] at valid
  split at valid
  · cases valid
  split at valid
  · cases valid
  · exact List.all_eq_true.mp valid

include ordered1 ordered2 in
theorem regdomIntersect_rules (result : regdomIntersect true rd1 rd2 = some rd) :
    rd.regRules = intersections rd1 rd2 := by
  rw [regdomIntersect] at result
  split at result
  · cases result
  · rw [← intersectRules_eq ordered1 ordered2, ← Option.some.inj result]

include ordered1 ordered2 in
theorem regdomIntersect_of_mem {rule : RegRule} (member : rule ∈ intersections rd1 rd2) :
    ∃ rd, regdomIntersect true rd1 rd2 = some rd ∧ rule ∈ rd.regRules := by
  have counted : ¬countRules rd1 rd2 = 0 := by
    rw [countRules_eq]
    exact Nat.ne_of_gt (List.length_pos_of_mem member)
  refine ⟨_, by rw [regdomIntersect, if_neg counted]; rfl, ?_⟩
  rw [intersectRules_eq ordered1 ordered2]
  exact member

theorem inRule_of_narrows {low high idx : Nat} {rule source : RegRule}
    (narrows : Narrows rule rd idx source) (inside : InRule low high rule) :
    InRule low high source :=
  ⟨(UInt32.le_iff_toNat_le.mp narrows.start).trans inside.1,
    inside.2.trans (UInt32.le_iff_toNat_le.mp narrows.stop)⟩

include valid1 in
/-- The ranges of the intersections. -/
theorem inRule_intersections {low high : Nat} (positive : low < high) :
    (∃ rule ∈ intersections rd1 rd2, InRule low high rule) ↔
      (∃ rule1 ∈ rd1.regRules, InRule low high rule1) ∧
        ∃ rule2 ∈ rd2.regRules, InRule low high rule2 := by
  constructor
  · rintro ⟨rule, member, inside⟩
    obtain ⟨x, rule1, y, rule2, there1, there2, intersects⟩ := mem_intersections.mp member
    obtain ⟨-, narrows1, narrows2⟩ := regRulesIntersect_spec intersects
    exact ⟨⟨rule1, List.mem_of_getElem? there1, inRule_of_narrows narrows1 inside⟩,
      rule2, List.mem_of_getElem? there2, inRule_of_narrows narrows2 inside⟩
  · rintro ⟨⟨rule1, member1, start1, stop1⟩, rule2, member2, start2, stop2⟩
    obtain ⟨x, there1⟩ := List.getElem?_of_mem member1
    obtain ⟨y, there2⟩ := List.getElem?_of_mem member2
    obtain ⟨rule, intersects, start, stop⟩ := @regRulesIntersect_of_lt rd1 rd2 x y rule1 rule2
      (rules_valid valid1 rule1 member1) (by omega)
    refine ⟨rule, mem_intersections.mpr ⟨x, rule1, y, rule2, there1, there2, intersects⟩, ?_, ?_⟩
    · rw [start]
      omega
    · rw [stop]
      omega

theorem permits_of_narrows {rule source : RegRule} {idx : Nat} {p : ℤ}
    (there : rd.regRules[idx]? = some source) (narrows : Narrows rule rd idx source)
    (low : lowKhz rule.freqRange ≤ p) (high : p < highKhz rule.freqRange) :
    Permits rd.regRules p := by
  have start := UInt32.le_iff_toNat_le.mp narrows.start
  have stop := UInt32.le_iff_toNat_le.mp narrows.stop
  refine ⟨source, List.mem_of_getElem? there, ?_, ?_⟩
  · rw [lowKhz] at low ⊢
    omega
  · rw [highKhz] at high ⊢
    omega

theorem permits_of_intersections {p : ℤ} (permits : Permits (intersections rd1 rd2) p) :
    Permits rd1.regRules p ∧ Permits rd2.regRules p := by
  obtain ⟨rule, member, low, high⟩ := permits
  obtain ⟨x, rule1, y, rule2, there1, there2, intersects⟩ := mem_intersections.mp member
  obtain ⟨-, narrows1, narrows2⟩ := regRulesIntersect_spec intersects
  exact ⟨permits_of_narrows there1 narrows1 low high, permits_of_narrows there2 narrows2 low high⟩

include ordered1 ordered2 in
/-- Rule `i` of the new domain against a rule of `source` that it came from. -/
theorem restricts_of_narrows {rd source : Regdomain} (validSource : source.isValid = true)
    (orderedSource : InOrder source.regRules) (rules : rd.regRules = intersections rd1 rd2)
    (within : ∀ p, Permits (intersections rd1 rd2) p → Permits source.regRules p)
    {i x : Nat} {rule sourceRule : RegRule} (there : rd.regRules[i]? = some rule)
    (there' : source.regRules[x]? = some sourceRule) (narrows : Narrows rule source x sourceRule) :
    Restricts rd i rule source x sourceRule := by
  refine ⟨narrows.antennaGain, narrows.eirp, ?_, narrows.cac, narrows.flags⟩
  rw [permittedBandwidth]
  split
  · next auto =>
      have validRules : ∀ rule ∈ rd.regRules, rule.isValid = true := by
        rw [rules]
        exact fun rule member => intersections_valid member
      have orderedRules : InOrder rd.regRules := by
        rw [rules]
        exact intersections_inOrder ordered1 ordered2
      rw [permittedBandwidth, if_pos (narrows.autoBw auto)]
      have range := regGetMaxBandwidthFromRange_le there there' orderedRules orderedSource
        validRules (rules_valid validSource) narrows.start narrows.stop (by rwa [rules])
      simp only [regGetMaxBandwidth, there, there']
      exact limitBandwidth_mono range narrows.flags
  · exact narrows.bandwidth

end Result

theorem regdomIntersect_isIntersection (rd1 rd2 : Regdomain) (valid1 : rd1.isValid = true)
    (valid2 : rd2.isValid = true) (ordered1 : InOrder rd1.regRules)
    (ordered2 : InOrder rd2.regRules) : IsIntersection rd1 rd2 := by
  refine ⟨fun low high positive => ?_, fun rd result low high positive i rule there inside => ?_,
    ?_⟩
  · rw [← inRule_intersections valid1 positive]
    constructor
    · rintro ⟨rd, result, rule, member, inside⟩
      rw [regdomIntersect_rules ordered1 ordered2 result] at member
      exact ⟨rule, member, inside⟩
    · rintro ⟨rule, member, inside⟩
      obtain ⟨rd, result, member⟩ := regdomIntersect_of_mem ordered1 ordered2 member
      exact ⟨rd, result, rule, member, inside⟩
  · have rules := regdomIntersect_rules ordered1 ordered2 result
    have member := List.mem_of_getElem? there
    rw [rules] at member
    obtain ⟨x, rule1, y, rule2, there1, there2, intersects⟩ := mem_intersections.mp member
    obtain ⟨-, narrows1, narrows2⟩ := regRulesIntersect_spec intersects
    constructor
    · intro x' rule1' there1' inside1'
      obtain rfl := index_eq_of_inRule ordered1 positive there1 there1'
        (inRule_of_narrows narrows1 inside) inside1'
      obtain rfl := Option.some.inj (there1.symm.trans there1')
      exact restricts_of_narrows ordered1 ordered2 valid1 ordered1 rules
        (fun p permits => (permits_of_intersections permits).1) there there1 narrows1
    · intro y' rule2' there2' inside2'
      obtain rfl := index_eq_of_inRule ordered2 positive there2 there2'
        (inRule_of_narrows narrows2 inside) inside2'
      obtain rfl := Option.some.inj (there2.symm.trans there2')
      exact restricts_of_narrows ordered1 ordered2 valid2 ordered2 rules
        (fun p permits => (permits_of_intersections permits).2) there there2 narrows2
  · rw [intersectRules_eq ordered1 ordered2, countRules_eq]

/-- A domain of two `AUTO_BW` rules that touch, from 5170 to 5330 MHz. -/
def touchingDomain : Regdomain :=
  let rule : RegRule :=
    ⟨⟨5170000, 5250000, 80000⟩, ⟨0, 2000⟩, none, nl80211RrfAutoBw, 0⟩
  ⟨(68, 69), 2, [rule, { rule with
    freqRange := ⟨5250000, 5330000, 80000⟩, flags := nl80211RrfAutoBw ||| nl80211RrfDfs }]⟩

theorem regdomIntersect_isIntersection_touchingDomain :
    IsIntersection touchingDomain touchingDomain :=
  regdomIntersect_isIntersection touchingDomain touchingDomain (by decide) (by decide) (by decide)
    (by decide)

end Iwlwifi
