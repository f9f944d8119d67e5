import Iwlwifi.Lib.Stride

/-!
# Channel definitions and the DFS state

The functions of `net/wireless/chan.c` that walk the 20 MHz channels of a channel definition:
`cfg80211_set_dfs_state`, which writes the DFS state of the radar channels, and those that read
it.  Each function that contains a loop is given fuel.  The readers report the frequencies they
look up beside their result.
-/

namespace Iwlwifi

open Lib

/-! ## Channels -/

inductive Nl80211DfsState
  | usable
  | unavailable
  | available
  deriving DecidableEq

def ieee80211ChanDisabled : UInt32 := 0x0001
def ieee80211ChanNoIr : UInt32 := 0x0002
def ieee80211ChanRadar : UInt32 := 0x0008
def ieee80211ChanNoHt40plus : UInt32 := 0x0010
def ieee80211ChanNoHt40minus : UInt32 := 0x0020
def ieee80211ChanNoOfdm : UInt32 := 0x0040
def ieee80211ChanNo80mhz : UInt32 := 0x0080
def ieee80211ChanNo160mhz : UInt32 := 0x0100
def ieee80211ChanNo20mhz : UInt32 := 0x0800
def ieee80211ChanNo10mhz : UInt32 := 0x1000

/-- `struct ieee80211_channel` -/
structure Channel where
  band : Nat
  centerFreq : UInt32
  flags : UInt32
  dfsState : Nl80211DfsState
  dfsStateEntered : Nat
  dfsCacMs : Nat
  deriving DecidableEq

/-- A test of flags. -/
def Channel.has (c : Channel) (mask : UInt32) : Bool := c.flags &&& mask != 0

/-- The capabilities of a band that `cfg80211_chandef_usable` looks at. -/
structure BandCaps where
  htSupported : Bool
  htCap : UInt32
  vhtSupported : Bool
  vhtCap : UInt32

/-- A `wiphy`: the channels of its bands one after the other, the capabilities of each band and
whether the driver has DFS offload. -/
structure Wiphy where
  channels : List Channel
  caps : Nat → BandCaps
  dfsOffload : Bool

/-- `ieee80211_get_channel` -/
def Wiphy.getChannel (wiphy : Wiphy) (freq : UInt32) : Option Channel :=
  wiphy.channels.find? fun c => c.centerFreq == freq

/-- Writes the first channel of a frequency. -/
def setChannel (freq : UInt32) (write : Channel → Channel) : List Channel → List Channel
  | [] => []
  | c :: rest => if c.centerFreq == freq then write c :: rest else c :: setChannel freq write rest

/-! ## Channel definitions -/

inductive Nl80211ChanWidth
  | w20NoHt
  | w20
  | w40
  | w80
  | w80p80
  | w160
  | w5
  | w10
  deriving DecidableEq

/-- `BIT(width)` -/
def Nl80211ChanWidth.bit : Nl80211ChanWidth → Int
  | .w20NoHt => 1
  | .w20 => 2
  | .w40 => 4
  | .w80 => 8
  | .w80p80 => 16
  | .w160 => 32
  | .w5 => 64
  | .w10 => 128

/-- `struct cfg80211_chan_def`.  Of the channel that `chan` points to only the fields are read
that the functions here leave alone. -/
structure ChanDef where
  chan : Option Channel
  width : Nl80211ChanWidth
  centerFreq1 : UInt32
  centerFreq2 : UInt32

/-- `cfg80211_chandef_valid` -/
def cfg80211ChandefValid (chandef : ChanDef) : Bool :=
  match chandef.chan with
  | none => false
  | some chan =>
      let controlFreq := chan.centerFreq
      let center1 := chandef.centerFreq1
      let center2 := chandef.centerFreq2
      match chandef.width with
      | .w5 | .w10 | .w20 | .w20NoHt => center1 == controlFreq && center2 == 0
      | .w40 => (center1 == controlFreq + 10 || center1 == controlFreq - 10) && center2 == 0
      | .w80p80 =>
          (center1 == controlFreq + 30 || center1 == controlFreq + 10 ||
            center1 == controlFreq - 10 || center1 == controlFreq - 30) &&
          center2 != 0 && !(center1 - center2 == 80 || center2 - center1 == 80)
      | .w80 =>
          (center1 == controlFreq + 30 || center1 == controlFreq + 10 ||
            center1 == controlFreq - 10 || center1 == controlFreq - 30) && center2 == 0
      | .w160 =>
          (center1 == controlFreq + 70 || center1 == controlFreq + 50 ||
            center1 == controlFreq + 30 || center1 == controlFreq + 10 ||
            center1 == controlFreq - 10 || center1 == controlFreq - 30 ||
            center1 == controlFreq - 50 || center1 == controlFreq - 70) && center2 == 0

/-- `cfg80211_chandef_get_width` -/
def ChanDef.getWidth (chandef : ChanDef) : UInt32 :=
  match chandef.width with
  | .w5 => 5
  | .w10 => 10
  | .w20 | .w20NoHt => 20
  | .w40 => 40
  | .w80p80 | .w80 => 80
  | .w160 => 160

/-- `cfg80211_get_start_freq` -/
def cfg80211GetStartFreq (centerFreq bandwidth : UInt32) : UInt32 :=
  if bandwidth ≤ 20 then centerFreq else centerFreq - bandwidth / 2 + 10

/-- `cfg80211_get_end_freq` -/
def cfg80211GetEndFreq (centerFreq bandwidth : UInt32) : UInt32 :=
  if bandwidth ≤ 20 then centerFreq else centerFreq + bandwidth / 2 - 10

/-! ## Writing the state -/

/-- The body of the loop of `cfg80211_set_chans_dfs_state`. -/
def setDfsStateAt (jiffies : Nat) (dfsState : Nl80211DfsState) (freq : UInt32) (wiphy : Wiphy) :
    Except Wiphy Wiphy :=
  match wiphy.getChannel freq with
  | none => .ok wiphy
  | some c =>
      if c.has ieee80211ChanRadar then
        .ok { wiphy with
          channels := setChannel freq
            (fun c => { c with dfsState := dfsState, dfsStateEntered := jiffies }) wiphy.channels }
      else .ok wiphy

/-- `cfg80211_set_chans_dfs_state` -/
def setChansDfsState (fuel jiffies : Nat) (centerFreq bandwidth : UInt32)
    (dfsState : Nl80211DfsState) (wiphy : Wiphy) : Option Wiphy :=
  (forUpTo 20 (centerFreq + bandwidth / 2 - 10) (setDfsStateAt jiffies dfsState) fuel
    (centerFreq - bandwidth / 2 + 10) wiphy).map Prod.snd

/-- `cfg80211_set_dfs_state` -/
def cfg80211SetDfsState (fuel jiffies : Nat) (wiphy : Wiphy) (chandef : ChanDef)
    (dfsState : Nl80211DfsState) : Option Wiphy :=
  if !cfg80211ChandefValid chandef then some wiphy
  else
    let width := chandef.getWidth
    (setChansDfsState fuel jiffies chandef.centerFreq1 width dfsState wiphy).bind fun wiphy =>
      if chandef.centerFreq2 = 0 then some wiphy
      else setChansDfsState fuel jiffies chandef.centerFreq2 width dfsState wiphy

/-! ## Reading the state

The bodies of the loops are named after what they decide at one channel.
-/

/-- A turn of a reader's loop: it gives up where there is no channel. -/
def channelAt {β : Type} (wiphy : Wiphy) (missing : β) (body : Channel → β → Except β β)
    (freq : UInt32) (acc : β) : Except β β :=
  match wiphy.getChannel freq with
  | none => .error missing
  | some c => body c acc

/-- The loop of a reader over the channels of a segment. -/
def forChannels {β : Type} (wiphy : Wiphy) (missing : β) (body : Channel → β → Except β β)
    (fuel : Nat) (centerFreq bandwidth : UInt32) (acc : β) : Option (List UInt32 × β) :=
  forUpTo 20 (cfg80211GetEndFreq centerFreq bandwidth) (channelAt wiphy missing body) fuel
    (cfg80211GetStartFreq centerFreq bandwidth) acc

def dfsRequiredAt (c : Channel) (acc : Int) : Except Int Int :=
  if c.has ieee80211ChanRadar then .error 1 else .ok acc

/-- `cfg80211_get_chans_dfs_required` -/
def getChansDfsRequired (fuel : Nat) (wiphy : Wiphy) (centerFreq bandwidth : UInt32) :
    Option (List UInt32 × Int) :=
  forChannels wiphy (-22) dfsRequiredAt fuel centerFreq bandwidth 0

inductive Nl80211Iftype
  | unspecified
  | adhoc
  | station
  | ap
  | apVlan
  | wds
  | monitor
  | meshPoint
  | p2pClient
  | p2pGo
  | p2pDevice
  | ocb
  | nan
  | nanData
  deriving DecidableEq

/-- The interface types that beacon. -/
def Nl80211Iftype.beacons : Nl80211Iftype → Bool
  | .adhoc | .ap | .p2pGo | .meshPoint => true
  | _ => false

/-- `cfg80211_chandef_dfs_required` -/
def cfg80211ChandefDfsRequired (fuel : Nat) (wiphy : Wiphy) (chandef : ChanDef)
    (iftype : Nl80211Iftype) : Option (List UInt32 × Int) :=
  if !cfg80211ChandefValid chandef then some ([], -22)
  else if !iftype.beacons then some ([], 0)
  else
    let width := chandef.getWidth
    (getChansDfsRequired fuel wiphy chandef.centerFreq1 width).bind fun (visited, ret) =>
      if ret < 0 then some (visited, ret)
      else if 0 < ret then some (visited, chandef.width.bit)
      else if chandef.centerFreq2 = 0 then some (visited, 0)
      else
        (getChansDfsRequired fuel wiphy chandef.centerFreq2 width).map fun (more, ret) =>
          (visited ++ more, if ret < 0 then ret else if 0 < ret then chandef.width.bit else 0)

def dfsUsableAt (c : Channel) (count : Int) : Except Int Int :=
  if c.has ieee80211ChanDisabled then .error (-22)
  else if c.has ieee80211ChanRadar then
    if c.dfsState = .unavailable then .error (-22)
    else if c.dfsState = .usable then .ok (count + 1)
    else .ok count
  else .ok count

/-- `cfg80211_get_chans_dfs_usable` -/
def getChansDfsUsable (fuel : Nat) (wiphy : Wiphy) (centerFreq bandwidth : UInt32) :
    Option (List UInt32 × Int) :=
  forChannels wiphy (-22) dfsUsableAt fuel centerFreq bandwidth 0

/-- `cfg80211_chandef_dfs_usable` -/
def cfg80211ChandefDfsUsable (fuel : Nat) (wiphy : Wiphy) (chandef : ChanDef) :
    Option (List UInt32 × Bool) :=
  if !cfg80211ChandefValid chandef then some ([], false)
  else
    let width := chandef.getWidth
    (getChansDfsUsable fuel wiphy chandef.centerFreq1 width).bind fun (visited, r1) =>
      if r1 < 0 then some (visited, false)
      else if chandef.width = .w80p80 then
        (getChansDfsUsable fuel wiphy chandef.centerFreq2 width).map fun (more, r2) =>
          (visited ++ more, if r2 < 0 then false else decide (0 < r1 + r2))
      else some (visited, decide (0 < r1))

def dfsAvailableAt (dfsOffload : Bool) (c : Channel) (acc : Bool) : Except Bool Bool :=
  if c.has ieee80211ChanDisabled then .error false
  else if c.has ieee80211ChanRadar && c.dfsState != .available &&
      !(c.dfsState == .usable && dfsOffload) then .error false
  else .ok acc

/-- `cfg80211_get_chans_dfs_available` -/
def getChansDfsAvailable (fuel : Nat) (wiphy : Wiphy) (centerFreq bandwidth : UInt32) :
    Option (List UInt32 × Bool) :=
  forChannels wiphy false (dfsAvailableAt wiphy.dfsOffload) fuel centerFreq bandwidth true

/-- `cfg80211_chandef_dfs_available` -/
def cfg80211ChandefDfsAvailable (fuel : Nat) (wiphy : Wiphy) (chandef : ChanDef) :
    Option (List UInt32 × Bool) :=
  if !cfg80211ChandefValid chandef then some ([], false)
  else
    let width := chandef.getWidth
    (getChansDfsAvailable fuel wiphy chandef.centerFreq1 width).bind fun (visited, r) =>
      if !r then some (visited, r)
      else if chandef.width = .w80p80 then
        (getChansDfsAvailable fuel wiphy chandef.centerFreq2 width).map fun (more, r) =>
          (visited ++ more, r)
      else some (visited, r)

def dfsCacTimeAt (c : Channel) (dfsCacMs : Nat) : Except Nat Nat :=
  if c.has ieee80211ChanDisabled then .error 0
  else if !c.has ieee80211ChanRadar then .ok dfsCacMs
  else if dfsCacMs < c.dfsCacMs then .ok c.dfsCacMs
  else .ok dfsCacMs

/-- `cfg80211_get_chans_dfs_cac_time` -/
def getChansDfsCacTime (fuel : Nat) (wiphy : Wiphy) (centerFreq bandwidth : UInt32) :
    Option (List UInt32 × Nat) :=
  forChannels wiphy 0 dfsCacTimeAt fuel centerFreq bandwidth 0

/-- `cfg80211_chandef_dfs_cac_time` -/
def cfg80211ChandefDfsCacTime (fuel : Nat) (wiphy : Wiphy) (chandef : ChanDef) :
    Option (List UInt32 × Nat) :=
  if !cfg80211ChandefValid chandef then some ([], 0)
  else
    let width := chandef.getWidth
    (getChansDfsCacTime fuel wiphy chandef.centerFreq1 width).bind fun (visited, t1) =>
      if chandef.centerFreq2 = 0 then some (visited, t1)
      else
        (getChansDfsCacTime fuel wiphy chandef.centerFreq2 width).map fun (more, t2) =>
          (visited ++ more, max t1 t2)

/-! ## Beaconing -/

def secondaryChanOk (prohibitedFlags : UInt32) (c : Channel) (acc : Bool) : Except Bool Bool :=
  if c.has prohibitedFlags then .error false else .ok acc

/-- `cfg80211_secondary_chans_ok` -/
def cfg80211SecondaryChansOk (fuel : Nat) (wiphy : Wiphy) (centerFreq bandwidth : UInt32)
    (prohibitedFlags : UInt32) : Option Bool :=
  (forChannels wiphy false (secondaryChanOk prohibitedFlags) fuel centerFreq bandwidth true).map
    Prod.snd

/-- The switch of `cfg80211_chandef_usable`: `none` where it returns false, else the prohibited
flags. -/
def chandefUsableFlags (wiphy : Wiphy) (chandef : ChanDef) (chan : Channel)
    (prohibitedFlags : UInt32) : Option UInt32 :=
  let caps := wiphy.caps (if 4 ≤ chan.band then 3 else chan.band)
  let cap := caps.vhtCap &&& 0x0000000c
  match chandef.width with
  | .w5 => some prohibitedFlags
  | .w10 => some (prohibitedFlags ||| ieee80211ChanNo10mhz)
  | .w20 =>
      if !caps.htSupported then none else some (prohibitedFlags ||| ieee80211ChanNo20mhz)
  | .w20NoHt => some (prohibitedFlags ||| ieee80211ChanNo20mhz)
  | .w40 =>
      if !caps.htSupported then none
      else if caps.htCap &&& 0x0002 = 0 ∨ caps.htCap &&& 0x4000 ≠ 0 then none
      else if chandef.centerFreq1 < chan.centerFreq ∧ chan.has ieee80211ChanNoHt40minus then none
      else if chan.centerFreq < chandef.centerFreq1 ∧ chan.has ieee80211ChanNoHt40plus then none
      else some prohibitedFlags
  | .w80p80 =>
      if cap ≠ 0x00000008 then none
      else if !caps.vhtSupported then none
      else some (prohibitedFlags ||| ieee80211ChanNo80mhz)
  | .w80 =>
      if !caps.vhtSupported then none else some (prohibitedFlags ||| ieee80211ChanNo80mhz)
  | .w160 =>
      if !caps.vhtSupported then none
      else if cap ≠ 0x00000004 ∧ cap ≠ 0x00000008 then none
      else some (prohibitedFlags ||| ieee80211ChanNo160mhz)

/-- `cfg80211_chandef_usable` -/
def cfg80211ChandefUsable (fuel : Nat) (wiphy : Wiphy) (chandef : ChanDef)
    (prohibitedFlags : UInt32) : Option Bool :=
  if !cfg80211ChandefValid chandef then some false
  else
    match chandef.chan.bind fun chan => chandefUsableFlags wiphy chandef chan prohibitedFlags with
    | none => some false
    | some prohibitedFlags =>
        let width := chandef.getWidth
        let prohibitedFlags := if 20 < width ∨ width < 20
          then prohibitedFlags ||| ieee80211ChanNoOfdm else prohibitedFlags
        (cfg80211SecondaryChansOk fuel wiphy chandef.centerFreq1 width prohibitedFlags).bind
          fun ok =>
            if !ok then some false
            else if chandef.centerFreq2 = 0 then some true
            else cfg80211SecondaryChansOk fuel wiphy chandef.centerFreq2 width prohibitedFlags

/-- `_cfg80211_reg_can_beacon` with `check_no_ir` set: `cfg80211_reg_can_beacon`. -/
def cfg80211RegCanBeacon (fuel : Nat) (wiphy : Wiphy) (chandef : ChanDef)
    (iftype : Nl80211Iftype) : Option Bool :=
  let prohibitedFlags := ieee80211ChanDisabled ||| ieee80211ChanRadar ||| ieee80211ChanNoIr
  (cfg80211ChandefDfsRequired fuel wiphy chandef iftype).bind fun (_, required) =>
    if 0 < required then
      (cfg80211ChandefDfsAvailable fuel wiphy chandef).bind fun (_, available) =>
        cfg80211ChandefUsable fuel wiphy chandef
          (if available then ieee80211ChanDisabled else prohibitedFlags)
    else cfg80211ChandefUsable fuel wiphy chandef prohibitedFlags

end Iwlwifi
