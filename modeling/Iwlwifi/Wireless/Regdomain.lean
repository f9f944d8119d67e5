import Iwlwifi.Lib.Touching

/-!
# Regulatory domains

The rules of a regulatory domain (`include/net/regulatory.h`) and what `net/wireless/reg.c`
computes from one domain alone: whether it is valid and the bandwidth that a rule permits.
-/

namespace Iwlwifi

open Lib

/-! ## Rules -/

/-- `struct ieee80211_freq_range` -/
structure FreqRange where
  startFreqKhz : UInt32
  endFreqKhz : UInt32
  maxBandwidthKhz : UInt32
  deriving DecidableEq

/-- `struct ieee80211_power_rule` -/
structure PowerRule where
  maxAntennaGain : UInt32
  maxEirp : UInt32
  deriving DecidableEq

/-- `struct ieee80211_wmm_ac` -/
structure WmmAc where
  cwMin : UInt16
  cwMax : UInt16
  cot : UInt16
  aifsn : UInt8
  deriving DecidableEq

/-- `struct ieee80211_wmm_rule`: an entry for every access category. -/
structure WmmRule where
  client : List WmmAc
  ap : List WmmAc
  deriving DecidableEq

/-- `struct ieee80211_reg_rule`.  `wmm_rule` is there if `has_wmm` is set. -/
structure RegRule where
  freqRange : FreqRange
  powerRule : PowerRule
  wmmRule : Option WmmRule
  flags : UInt32
  dfsCacMs : UInt32
  deriving DecidableEq

/-- `struct ieee80211_regdomain`: `n_reg_rules` is the number of the rules. -/
structure Regdomain where
  alpha2 : Nat × Nat
  dfsRegion : Nat
  regRules : List RegRule
  deriving DecidableEq

/-! ## Flags -/

def nl80211RrfNoOfdm : UInt32 := 0x00001
def nl80211RrfNoOutdoor : UInt32 := 0x00008
def nl80211RrfDfs : UInt32 := 0x00010
def nl80211RrfNoIr : UInt32 := 0x00080
def nl80211RrfAutoBw : UInt32 := 0x00800
def nl80211RrfNoHt40minus : UInt32 := 0x02000
def nl80211RrfNoHt40plus : UInt32 := 0x04000
def nl80211RrfNo80mhz : UInt32 := 0x08000
def nl80211RrfNo160mhz : UInt32 := 0x10000

/-- A test of flags. -/
def RegRule.has (rule : RegRule) (mask : UInt32) : Bool := rule.flags &&& mask != 0

/-! ## The bandwidth of a rule -/

/-- `freq_range_tmp->end_freq_khz < freq_range->start_freq_khz` -/
def endsBefore (tmp freqRange : FreqRange) : Bool := tmp.endFreqKhz < freqRange.startFreqKhz

/-- `freq_range_tmp->start_freq_khz > freq_range->end_freq_khz` -/
def startsAfter (tmp freqRange : FreqRange) : Bool := freqRange.endFreqKhz < tmp.startFreqKhz

/-- `reg_get_max_bandwidth_from_range`.  A rule is a pointer into the domain, which is its
index.  Both walks over the neighbours end at the first that does not touch the range that they
have come to. -/
def regGetMaxBandwidthFromRange (rd : Regdomain) (idx : Nat) : UInt32 :=
  match rd.regRules[idx]? with
  | none => 0
  | some rule =>
      let first := follow endsBefore ((rd.regRules.take idx).reverse.map (·.freqRange))
        rule.freqRange
      let last := follow startsAfter ((rd.regRules.drop (idx + 1)).map (·.freqRange))
        rule.freqRange
      last.endFreqKhz - first.startFreqKhz

/-- The limits that the flags of a rule set to a bandwidth. -/
def RegRule.limitBandwidth (rule : RegRule) (bw : UInt32) : UInt32 :=
  let bw := if rule.has nl80211RrfNo160mhz then min bw 80000 else bw
  let bw := if rule.has nl80211RrfNo80mhz then min bw 40000 else bw
  if rule.has nl80211RrfNoHt40minus && rule.has nl80211RrfNoHt40plus then min bw 20000 else bw

/-- `reg_get_max_bandwidth` of the rule with an index. -/
def regGetMaxBandwidth (rd : Regdomain) (idx : Nat) : UInt32 :=
  let bw := regGetMaxBandwidthFromRange rd idx
  match rd.regRules[idx]? with
  | none => bw
  | some rule => rule.limitBandwidth bw

/-! ## Validity -/

/-- `is_valid_reg_rule` -/
def RegRule.isValid (rule : RegRule) : Bool :=
  let freqRange := rule.freqRange
  if freqRange.startFreqKhz ≤ 0 ∨ freqRange.endFreqKhz ≤ 0 then false
  else if freqRange.startFreqKhz > freqRange.endFreqKhz then false
  else
    let freqDiff := freqRange.endFreqKhz - freqRange.startFreqKhz
    if freqRange.endFreqKhz ≤ freqRange.startFreqKhz ∨ freqRange.maxBandwidthKhz > freqDiff then
      false
    else true

def nl80211MaxSuppRegRules : Nat := 128

/-- `is_valid_rd` -/
def Regdomain.isValid (rd : Regdomain) : Bool :=
  if rd.regRules.length = 0 then false
  else if rd.regRules.length > nl80211MaxSuppRegRules then false
  else rd.regRules.all RegRule.isValid

end Iwlwifi
