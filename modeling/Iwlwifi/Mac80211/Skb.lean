import Mathlib.Algebra.Ring.Nat
import Iwlwifi.Ieee80211

/-!
# The bytes of a frame

An `skb` is the list of its data bytes, starting with the 802.11 header.  The header's fields
are read from it at the offsets of `struct ieee80211_hdr`.
-/

namespace Iwlwifi

abbrev Skb := List UInt8

namespace Skb

/-- The byte at an offset. -/
def byte (skb : Skb) (offset : Nat) : UInt8 := skb.getD offset 0

/-- The bytes from an offset on. -/
def span (skb : Skb) (offset len : Nat) : List UInt8 := (skb.drop offset).take len

def frameControl (skb : Skb) : Nat := (skb.byte 0).toNat + 256 * (skb.byte 1).toNat

def addr1 (skb : Skb) : List UInt8 := skb.span 4 6

def addr2 (skb : Skb) : List UInt8 := skb.span 10 6

def seqCtrl (skb : Skb) : Nat := (skb.byte 22).toNat + 256 * (skb.byte 23).toNat

def addr4 (skb : Skb) : List UInt8 := skb.span 24 6

/-- `ieee80211_hdrlen` of the frame's own frame control. -/
def hdrlen (skb : Skb) : Nat := ieee80211Hdrlen skb.frameControl

/-- `ieee80211_get_qos_ctl`: its first byte. -/
def qosCtl (skb : Skb) : UInt8 := skb.byte (if ieee80211HasA4 skb.frameControl then 30 else 24)

/-- `ieee80211_get_tid` -/
def tid (skb : Skb) : Nat := (skb.qosCtl &&& 0x0f).toNat

/-- `is_multicast_ether_addr` of the receiver address -/
def multicast (skb : Skb) : Bool := skb.byte 4 &&& 1 != 0

end Skb

/-- What `ieee80211_is_robust_mgmt_frame` says of a frame: of action frames that are not
protected, the category decides. -/
def ieee80211IsRobustMgmtFrame (skb : Skb) : Bool :=
  let fc := skb.frameControl
  let subtype := fc &&& (ieee80211FctlFtype ||| ieee80211FctlStype)
  if skb.length < 25 then false
  else if subtype == 0x00a0 || subtype == 0x00c0 then true
  else if subtype == 0x00d0 then
    ieee80211HasProtected fc || !([4, 7, 11, 15, 20, 21, 127].contains (skb.byte 24))
  else false

/-- `ieee80211_parse_qos`: the index of the queue and that of the packet number. -/
def ieee80211ParseQos (skb : Skb) : Nat × Nat :=
  let fc := skb.frameControl
  if ieee80211IsDataQos fc then (skb.tid, skb.tid)
  else (16, if ieee80211IsMgmt fc then 16 else 0)

end Iwlwifi
