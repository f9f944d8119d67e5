import Mathlib.Data.UInt
import Iwlwifi.Wireless.Regdomain

/-!
# The intersection of two regulatory domains

`regdom_intersect` of `net/wireless/reg.c` and the functions below it.  The rules of both domains
are intersected pairwise; the first pass counts the pairs that have an intersection, the second
adds each to the new domain, where it may be merged with one that is there already.
-/

namespace Iwlwifi

open Lib

/-- `reg_wmm_rules_intersect` -/
def regWmmRulesIntersect (wmmAc1 wmmAc2 : WmmAc) : WmmAc where
  cwMin := max wmmAc1.cwMin wmmAc2.cwMin
  cwMax := max wmmAc1.cwMax wmmAc2.cwMax
  cot := min wmmAc1.cot wmmAc2.cot
  aifsn := max wmmAc1.aifsn wmmAc2.aifsn

/-- The WMM rule of an intersection. -/
def intersectWmm : Option WmmRule → Option WmmRule → Option WmmRule
  | some wmmRule1, some wmmRule2 =>
      some ⟨List.zipWith regWmmRulesIntersect wmmRule1.client wmmRule2.client,
        List.zipWith regWmmRulesIntersect wmmRule1.ap wmmRule2.ap⟩
  | some wmmRule1, none => some wmmRule1
  | none, some wmmRule2 => some wmmRule2
  | none, none => none

/-- The bandwidth that a rule of a domain permits. -/
def permittedBandwidth (rd : Regdomain) (idx : Nat) (rule : RegRule) : UInt32 :=
  if rule.has nl80211RrfAutoBw then regGetMaxBandwidth rd idx else rule.freqRange.maxBandwidthKhz

/-- The flags of an intersection: `NL80211_RRF_AUTO_BW` only where both rules have it. -/
def intersectFlags (rule1 rule2 : RegRule) : UInt32 :=
  let flags := rule1.flags ||| rule2.flags
  if rule1.has nl80211RrfAutoBw && rule2.has nl80211RrfAutoBw then flags ||| nl80211RrfAutoBw
  else flags &&& ~~~nl80211RrfAutoBw

/-- `reg_rules_intersect` of rule `x` of the first domain and rule `y` of the second. -/
def regRulesIntersect (rd1 rd2 : Regdomain) (x y : Nat) (rule1 rule2 : RegRule) :
    Option RegRule :=
  let startFreqKhz := max rule1.freqRange.startFreqKhz rule2.freqRange.startFreqKhz
  let endFreqKhz := min rule1.freqRange.endFreqKhz rule2.freqRange.endFreqKhz
  let maxBandwidthKhz := min (permittedBandwidth rd1 x rule1) (permittedBandwidth rd2 y rule2)
  let freqDiff := endFreqKhz - startFreqKhz
  let intersectedRule : RegRule :=
    { freqRange := ⟨startFreqKhz, endFreqKhz,
        if maxBandwidthKhz > freqDiff then freqDiff else maxBandwidthKhz⟩
      powerRule := ⟨min rule1.powerRule.maxAntennaGain rule2.powerRule.maxAntennaGain,
        min rule1.powerRule.maxEirp rule2.powerRule.maxEirp⟩
      wmmRule := intersectWmm rule1.wmmRule rule2.wmmRule
      flags := intersectFlags rule1 rule2
      dfsCacMs := max rule1.dfsCacMs rule2.dfsCacMs }
  if intersectedRule.isValid then some intersectedRule else none

/-- `rule_contains` -/
def ruleContains (r1 r2 : RegRule) : Bool :=
  if r1.flags ≠ r2.flags then false
  else if r1.powerRule.maxAntennaGain > r2.powerRule.maxAntennaGain ∨
      r1.powerRule.maxEirp > r2.powerRule.maxEirp then false
  else if r1.freqRange.startFreqKhz > r2.freqRange.startFreqKhz ∨
      r1.freqRange.endFreqKhz < r2.freqRange.endFreqKhz then false
  else if r1.freqRange.maxBandwidthKhz < r2.freqRange.maxBandwidthKhz then false
  else true

/-- `add_rule` -/
def addRule (rule : RegRule) : List RegRule → List RegRule
  | [] => [rule]
  | tmpRule :: rest =>
      if ruleContains tmpRule rule then tmpRule :: rest
      else if ruleContains rule tmpRule then rule :: rest
      else tmpRule :: addRule rule rest

/-- The two loops of either pass of `regdom_intersect`, over the pairs that have an
intersection. -/
def forIntersections {α : Type} (rd1 rd2 : Regdomain) (body : α → RegRule → α) (start : α) : α :=
  rd1.regRules.zipIdx.foldl (fun acc rule1 =>
    rd2.regRules.zipIdx.foldl (fun acc rule2 =>
      match regRulesIntersect rd1 rd2 rule1.2 rule2.2 rule1.1 rule2.1 with
      | some intersectedRule => body acc intersectedRule
      | none => acc) acc) start

/-- The first pass. -/
def countRules (rd1 rd2 : Regdomain) : Nat := forIntersections rd1 rd2 (fun n _ => n + 1) 0

/-- The second pass: the rules that are written. -/
def intersectRules (rd1 rd2 : Regdomain) : List RegRule :=
  forIntersections rd1 rd2 (fun rules rule => addRule rule rules) []

def nl80211DfsUnset : Nat := 0

/-- `reg_intersect_dfs_region` -/
def regIntersectDfsRegion (dfsRegion1 dfsRegion2 : Nat) : Nat :=
  if dfsRegion1 ≠ dfsRegion2 then nl80211DfsUnset else dfsRegion1

/-- `regdom_intersect`, where the memory for the new domain could be `allocated` or not. -/
def regdomIntersect (allocated : Bool) (rd1 rd2 : Regdomain) : Option Regdomain :=
  if countRules rd1 rd2 = 0 then none
  else if !allocated then none
  else some
    { alpha2 := ('9'.toNat, '8'.toNat)
      dfsRegion := regIntersectDfsRegion rd1.dfsRegion rd2.dfsRegion
      regRules := intersectRules rd1 rd2 }

end Iwlwifi
