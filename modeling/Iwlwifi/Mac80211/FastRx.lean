import Iwlwifi.Mac80211.Ccmp
import Iwlwifi.Mac80211.FastXmit
import Iwlwifi.Wireless.DataTo8023

/-!
# The fast receive path

`ieee80211_check_fast_rx` and `ieee80211_invoke_fast_rx` of `net/mac80211/rx.c`.  The key of the
frame, `rx->key`, is filled by the handlers of the normal path; the fast path only asks whether
there is one.  The statistics are left out.
-/

namespace Iwlwifi.FastRx

open Lib
open Xmit (EtherAddr CipherSuite fctlTods fctlFromds)

/-! ## `ieee80211_check_fast_rx` -/

/-- The flags of the hardware. -/
structure RxLocal where
  ampduAggregation : Bool
  supportsReorderingBuffer : Bool
  psNullfuncStack : Bool
  supportsPs : Bool
  supportsDynamicPs : Bool
  apLinkPs : Bool

structure RxSdata where
  vifType : Nl80211Iftype
  vifAddr : EtherAddr
  controlPortProtocol : Nat
  mgdUse4addr : Bool
  mgdPowersave : Bool
  dontBridgePackets : Bool
  /-- Whether there is `u.vlan.sta`. -/
  vlanSta : Bool
  /-- `filter_grat_arp_unsol_na` with `arp_addr_cnt` -/
  filterGratArp : Bool

structure RxSta where
  tdls : Bool
  authorized : Bool
  /-- The cipher of `ptk[ptk_idx]`. -/
  ptk : Option CipherSuite

/-- `struct ieee80211_fast_rx` -/
structure Ieee80211FastRx where
  vifType : Nl80211Iftype
  vifAddr : EtherAddr
  controlPortProtocol : Nat
  key : Bool
  icvLen : Nat
  internalForward : Bool
  dropGratArp : Bool
  expectedDsBits : Nat
  daOffs : Nat
  saOffs : Nat

/-- `conf.icv_len` of a pairwise key, from `ieee80211_key_alloc`. -/
def icvLen : CipherSuite → Nat
  | .ccmp => 8
  | _ => 16

/-- `da_offs`, `sa_offs` and `expected_ds_bits` of the interface types that have a fast path. -/
def directions (loc : RxLocal) (sdata : RxSdata) (sta : RxSta) : Option (Nat × Nat × Nat) :=
  match sdata.vifType with
  | .station =>
      if sdata.mgdPowersave && (loc.psNullfuncStack || (loc.supportsPs && !loc.supportsDynamicPs))
      then none
      else if sta.tdls then some (4, 10, 0)
      else if sdata.mgdUse4addr then some (16, 24, fctlFromds ||| fctlTods)
      else some (4, 16, fctlFromds)
  | .apVlan =>
      if !loc.apLinkPs then none
      else if sdata.vlanSta then some (16, 24, fctlTods ||| fctlFromds)
      else some (16, 10, fctlTods)
  | .ap => if !loc.apLinkPs then none else some (16, 10, fctlTods)
  | _ => none

/-- The key of the station: whether there is one and its `icv_len`, unless its cipher has no
fast path. -/
def fastKey (sta : RxSta) : Option (Bool × Nat) :=
  match sta.ptk with
  | none => some (false, 0)
  | some cipher =>
      if cipher = .ccmp ∨ cipher = .ccmp256 ∨ cipher = .gcmp ∨ cipher = .gcmp256 then
        some (true, icvLen cipher)
      else none

/-- `ieee80211_check_fast_rx`: the `fast_rx` of the station afterwards. -/
def checkFastRx (loc : RxLocal) (sdata : RxSdata) (sta : RxSta) (allocated : Bool) :
    Option Ieee80211FastRx := do
  if loc.ampduAggregation && !loc.supportsReorderingBuffer then none
  else
    let (daOffs, saOffs, expectedDsBits) ← directions loc sdata sta
    if !sta.authorized then none
    else
      let (key, icvLen) ← fastKey sta
      if !allocated then none
      else
        return {
          vifType := sdata.vifType
          vifAddr := sdata.vifAddr
          controlPortProtocol := sdata.controlPortProtocol
          key := key
          icvLen := icvLen
          internalForward := sdata.vifType != .station && !sdata.dontBridgePackets &&
            (sdata.vifType != .apVlan || !sdata.vlanSta)
          dropGratArp := sdata.filterGratArp
          expectedDsBits := expectedDsBits
          daOffs := daOffs
          saOffs := saOffs }

/-! ## `ieee80211_invoke_fast_rx` -/

/-- The flags of `struct ieee80211_rx_status` that the fast path looks at. -/
structure FastRxStatus extends RxStatus where
  dupValidated : Bool
  /-- `IEEE80211_RX_AMSDU` -/
  amsdu : Bool

/-- What a call finds besides the frame. -/
structure FastRxCall where
  status : FastRxStatus
  /-- Whether `rx->key` is set. -/
  rxKey : Bool
  trimFails : Bool
  /-- Whether `__ieee80211_rx_h_amsdu` queues the frames. -/
  amsduQueued : Bool
  /-- `ieee80211_is_gratuitous_arp_unsolicited_na` -/
  gratArp : Skb → Bool
  /-- Whether `sta_info_get` finds a station. -/
  knownSta : List UInt8 → Bool
  /-- Whether `skb_copy` succeeds. -/
  copied : Bool

/-- Where a frame goes. -/
inductive Route
  | stack
  | stackAndAir
  | air
  deriving DecidableEq

inductive FastRxVerdict
  | notTaken
  | dropped
  | amsduQueued
  | delivered (frame : Skb) (route : Route)

/-- `ieee80211_is_frag` -/
def ieee80211IsFrag (skb : Skb) : Bool :=
  ieee80211HasMorefrags skb.frameControl || skb.seqCtrl &&& 0x000f != 0

/-- `snap_offs` -/
def snapOffs (fast : Ieee80211FastRx) (status : RxStatus) (skb : Skb) : Nat :=
  skb.hdrlen + if fast.key && !status.ivStripped then 8 else 0

/-- `pskb_trim` to a length that is computed without sign. -/
def pskbTrim (skb : Skb) (less : Nat) : Skb :=
  if skb.length < less then skb else skb.take (skb.length - less)

/-- `skb_pull`, which does nothing to a frame that is shorter. -/
def skbPull (skb : Skb) (n : Nat) : Skb := if skb.length < n then skb else skb.drop n

/-- The forwarding decision. -/
def route (call : FastRxCall) (fast : Ieee80211FastRx) (da sa : List UInt8) : Route :=
  if !fast.internalForward then .stack
  else if isMulticastEtherAddr da then if call.copied then .stackAndAir else .stack
  else if da != sa && call.knownSta da then .air
  else .stack

/-- `ieee80211_invoke_fast_rx`, which returns false if it says `notTaken`. -/
def invokeFastRx (call : FastRxCall) (fast : Ieee80211FastRx) (skb : Skb) : FastRxVerdict :=
  let status := call.status
  let snapOffs := snapOffs fast status.toRxStatus skb
  if !status.dupValidated then .notTaken
  else if fast.key && !(status.pnValidated && status.decrypted) then .notTaken
  else if !ieee80211IsDataPresent skb.frameControl then .notTaken
  else if ieee80211IsFrag skb then .notTaken
  else if fast.vifAddr.val != window skb 4 6 then .notTaken
  else if skb.frameControl &&& (fctlFromds ||| fctlTods) != fast.expectedDsBits then .notTaken
  else if !status.amsdu && decide (skb.length < snapOffs + 8) then .dropped
  else if !status.amsdu && window skb snapOffs 6 != rfc1042Header then .notTaken
  else if !status.amsdu && (be16At skb (snapOffs + 6) == 0x890d ||
      be16At skb (snapOffs + 6) == fast.controlPortProtocol) then .notTaken
  else if call.rxKey && !status.micStripped && call.trimFails then .dropped
  else
    let trimmed := if call.rxKey && !status.micStripped then pskbTrim skb fast.icvLen else skb
    if call.rxKey && !ieee80211HasProtected skb.frameControl then .dropped
    else if status.amsdu then if call.amsduQueued then .amsduQueued else .dropped
    else
      let da := window trimmed fast.daOffs 6
      let sa := window trimmed fast.saOffs 6
      let frame := da ++ sa ++ skbPull trimmed (snapOffs + 6)
      if fast.dropGratArp && call.gratArp frame then .dropped
      else .delivered frame (route call fast da sa)

end Iwlwifi.FastRx
