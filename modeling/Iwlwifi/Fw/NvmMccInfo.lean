import Iwlwifi.Lib.Runs
import Iwlwifi.Wireless.RegdbSafe

/-!
# The regulatory table of the firmware

The firmware answers a country update with the flags of every channel of the device's layout.
`iwl_parse_nvm_mcc_info` makes a regulatory domain of them: it merges a valid channel into the
rule of the valid channel before it if their regulatory flags are the same and their centers at
most 20 MHz apart.
-/

namespace Iwlwifi

open Lib

/-! ## Channels -/

/-- `enum nl80211_band` -/
inductive Nl80211Band
  | ghz2
  | ghz5
  | ghz60
  | ghz6
  deriving DecidableEq

/-- `ieee80211_channel_to_frequency` -/
def ieee80211ChannelToFrequency (chan : Int) (band : Nl80211Band) : Int :=
  if chan ≤ 0 then 0
  else
    match band with
    | .ghz2 => if chan = 14 then 2484 else if chan < 14 then 2407 + chan * 5 else 0
    | .ghz5 => if 182 ≤ chan ∧ chan ≤ 196 then 4000 + chan * 5 else 5000 + chan * 5
    | .ghz6 => if chan ≤ 253 then 5940 + chan * 5 else 0
    | .ghz60 => if chan < 7 then 56160 + chan * 2160 else 0

def iwlNvmChannels : List Nat :=
  [1, 2, 3, 4, 5, 6, 7, 8, 9, 10, 11, 12, 13, 14] ++
  [36, 40, 44, 48, 52, 56, 60, 64, 100, 104, 108, 112, 116, 120, 124, 128, 132, 136, 140, 144, 149,
    153, 157, 161, 165]

def iwlExtNvmChannels : List Nat :=
  [1, 2, 3, 4, 5, 6, 7, 8, 9, 10, 11, 12, 13, 14] ++
  [36, 40, 44, 48, 52, 56, 60, 64, 68, 72, 76, 80, 84, 88, 92, 96, 100, 104, 108, 112, 116, 120,
    124, 128, 132, 136, 140, 144, 149, 153, 157, 161, 165, 169, 173, 177, 181]

/-- The last part are the channels at 6 to 7 GHz. -/
def iwlUhbNvmChannels : List Nat :=
  iwlExtNvmChannels ++
  [1, 5, 9, 13, 17, 21, 25, 29, 33, 37, 41, 45, 49, 53, 57, 61, 65, 69, 73, 77, 81, 85, 89, 93, 97,
    101, 105, 109, 113, 117, 121, 125, 129, 133, 137, 141, 145, 149, 153, 157, 161, 165, 169, 173,
    177, 181, 185, 189, 193, 197, 201, 205, 209, 213, 217, 221, 225, 229, 233]

def num2ghzChannels : Nat := 14
def num5ghzChannels : Nat := 37
def first2ghzHtMinus : Nat := 5
def last2ghzHtPlus : Nat := 9

/-- `enum iwl_nvm_type` -/
inductive IwlNvmType
  | nvm
  | ext
  | sdp
  deriving DecidableEq

/-- The fields of `struct iwl_cfg` that choose the layout. -/
structure NvmCfg where
  uhbSupported : Bool
  nvmType : IwlNvmType

/-- The layout: `nvm_chan`, with `max_num_ch` entries. -/
def NvmCfg.nvmChan (cfg : NvmCfg) : List Nat :=
  if cfg.uhbSupported then iwlUhbNvmChannels
  else if cfg.nvmType = .ext then iwlExtNvmChannels
  else iwlNvmChannels

/-! ## Flags -/

def nvmChannelValid : UInt16 := 0x0001
def nvmChannelActive : UInt16 := 0x0008
def nvmChannelRadar : UInt16 := 0x0010
def nvmChannelIndoorOnly : UInt16 := 0x0020
def nvmChannelGoConcurrent : UInt16 := 0x0040
def nvmChannel40mhz : UInt16 := 0x0200
def nvmChannel80mhz : UInt16 := 0x0400
def nvmChannel160mhz : UInt16 := 0x0800

def nl80211RrfGoConcurrent : UInt32 := 0x01000
def nl80211RrfNoHt40 : UInt32 := nl80211RrfNoHt40minus ||| nl80211RrfNoHt40plus

/-- `iwl_nvm_get_regdom_bw_flags` -/
def iwlNvmGetRegdomBwFlags (nvmChan : List Nat) (chIdx : Nat) (nvmFlags : UInt16) : UInt32 :=
  let flags := nl80211RrfNoHt40
  let flags :=
    if chIdx < num2ghzChannels ∧ nvmFlags &&& nvmChannel40mhz ≠ 0 then
      let flags := if nvmChan.getD chIdx 0 ≤ last2ghzHtPlus
        then flags &&& ~~~nl80211RrfNoHt40plus else flags
      if first2ghzHtMinus ≤ nvmChan.getD chIdx 0 then flags &&& ~~~nl80211RrfNoHt40minus else flags
    else if nvmFlags &&& nvmChannel40mhz ≠ 0 then
      if ((chIdx : Int) - num2ghzChannels).tmod 2 = 0 then flags &&& ~~~nl80211RrfNoHt40plus
      else flags &&& ~~~nl80211RrfNoHt40minus
    else flags
  let flags := if nvmFlags &&& nvmChannel80mhz = 0 then flags ||| nl80211RrfNo80mhz else flags
  let flags := if nvmFlags &&& nvmChannel160mhz = 0 then flags ||| nl80211RrfNo160mhz else flags
  let flags := if nvmFlags &&& nvmChannelActive = 0 then flags ||| nl80211RrfNoIr else flags
  let flags := if nvmFlags &&& nvmChannelRadar ≠ 0 then flags ||| nl80211RrfDfs else flags
  let flags := if nvmFlags &&& nvmChannelIndoorOnly ≠ 0
    then flags ||| nl80211RrfNoOutdoor else flags
  if nvmFlags &&& nvmChannelGoConcurrent ≠ 0 ∧ flags &&& nl80211RrfNoIr ≠ 0
  then flags ||| nl80211RrfGoConcurrent else flags

/-! ## The rules -/

/-- `MHZ_TO_KHZ`, stored in a `u32`. -/
def mhzToKhz (freq : Int) : UInt32 := .ofInt (freq * 1000)

/-- Fuel for the list of countries, which ends within the file. -/
def Regdb.turns : Regdb → Nat
  | .loaded db => db.length + 1
  | _ => 0

/-- The rule after `reg_query_regdb_wmm`, which leaves it alone if it returns an error. -/
def queryWmm (regdb : Regdb) (alpha2 : Nat × Nat) (freq : Int) (rule : RegRule) : RegRule :=
  match regQueryRegdbWmm regdb alpha2 freq rule regdb.turns with
  | some (.ok rule) => rule
  | _ => rule

/-- What the loop of `iwl_parse_nvm_mcc_info` carries: the rules from `reg_rules[valid_rules - 1]`
back to the first one and the last valid channel. -/
structure MccState where
  regRules : List RegRule
  prevRegRuleFlags : UInt32
  prevCenterFreq : Int

/-- A rule after `kzalloc`. -/
def zeroRule : RegRule := ⟨⟨0, 0, 0⟩, ⟨0, 0⟩, none, 0, 0⟩

def geoWmmEtsi5ghzInfo : UInt16 := 0x0001

section Parse

variable (regdb : Regdb) (nvmChan : List Nat) (alpha2 : Nat × Nat) (geoInfo : UInt16)

/-- The center frequency that the loop takes for a channel. -/
def mccCenterFreq (chIdx : Nat) : Int :=
  ieee80211ChannelToFrequency (nvmChan.getD chIdx 0)
    (if chIdx < num2ghzChannels then .ghz2 else .ghz5)

/-- One turn of the loop.  `none` is a write in front of the rules. -/
def parseChannel (chIdx : Nat) (channel : UInt32) (st : MccState) : Option MccState :=
  let chFlags := channel.toUInt16
  let centerFreq := mccCenterFreq nvmChan chIdx
  if chFlags &&& nvmChannelValid = 0 then some st
  else
    let regRuleFlags := iwlNvmGetRegdomBwFlags nvmChan chIdx chFlags
    let newRule : Bool := chIdx = 0 ∨ st.prevRegRuleFlags ≠ regRuleFlags ∨
      20 < centerFreq - st.prevCenterFreq
    match if newRule then zeroRule :: st.regRules else st.regRules with
    | [] => none
    | rule :: before =>
        let startFreqKhz :=
          if newRule then mhzToKhz (centerFreq - 10) else rule.freqRange.startFreqKhz
        let rule := { rule with
          freqRange := ⟨startFreqKhz, mhzToKhz (centerFreq + 10), 0⟩
          powerRule := ⟨600, 2200⟩
          flags := regRuleFlags ||| nl80211RrfAutoBw }
        let rule := if geoInfo &&& geoWmmEtsi5ghzInfo = 0 ∨ chIdx < num2ghzChannels then rule
          else queryWmm regdb alpha2 centerFreq rule
        some ⟨rule :: before, regRuleFlags, centerFreq⟩

/-- The loop from a channel on. -/
def parseChannels : Nat → List UInt32 → MccState → Option MccState
  | _, [], st => some st
  | chIdx, channel :: rest, st =>
      (parseChannel regdb nvmChan alpha2 geoInfo chIdx channel st).bind
        (parseChannels (chIdx + 1) rest)

end Parse

/-- `iwl_parse_nvm_mcc_info`, with the outcomes of its two allocations. -/
def iwlParseNvmMccInfo (regdb : Regdb) (cfg : NvmCfg) (channels : List UInt32)
    (fwMcc geoInfo : UInt16) (allocated copied : Bool) : BoundedRead Int Regdomain :=
  let channels := channels.take cfg.nvmChan.length
  if nl80211MaxSuppRegRules < channels.length then .error (.ret (-22))
  else if !allocated then .error (.ret enomem)
  else
    let alpha2 := ((fwMcc >>> 8).toNat, (fwMcc &&& 0xff).toNat)
    match parseChannels regdb cfg.nvmChan alpha2 geoInfo 0 channels ⟨[], 0, 0⟩ with
    | none => .error .outOfBounds
    | some st =>
        if !copied then .error (.ret enomem) else .ok ⟨alpha2, 0, st.regRules.reverse⟩

end Iwlwifi
