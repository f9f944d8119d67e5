import Iwlwifi.Ieee80211

/-!
# Received frames

A frame as the multi-queue receive path sees it: the fields of the 802.11 header, of
the firmware's `struct iwl_rx_mpdu_desc` and of `struct ieee80211_rx_status` that the
duplicate filter, the packet-number check and the reorder buffer read.  The packed
fields of the descriptor are decoded with the masks of `fw/api/rx.h`.
-/

namespace Iwlwifi

/-- What the receive path reads of one frame: `reorderData`, `macFlags2` and
`amsduInfo` are raw descriptor words, `qosCtl` is the first QoS control byte and
`extiv` the eight bytes of the CCMP/GCMP header. -/
structure RxMpdu where
  frameControl : Nat
  multicast : Bool
  seqCtrl : Nat
  qosCtl : Nat
  reorderData : Nat
  macFlags2 : Nat
  amsduInfo : Nat
  deviceTimestamp : Nat
  decrypted : Bool
  extiv : Fin 8 → UInt8

namespace RxMpdu

def iwlRxReorderDataInvalidBaid : Nat := 0x7f

/-- `ieee80211_get_tid`. -/
def tid (skb : RxMpdu) : Nat := skb.qosCtl &&& 0xf

/-- `IWL_RX_MPDU_REORDER_BAID_MASK`, shifted by `IWL_RX_MPDU_REORDER_BAID_SHIFT`. -/
def baid (skb : RxMpdu) : Nat := (skb.reorderData &&& 0x7f000000) >>> 24

/-- `IWL_RX_MPDU_REORDER_NSSN_MASK`. -/
def nssn (skb : RxMpdu) : Nat := skb.reorderData &&& 0xfff

/-- `IWL_RX_MPDU_REORDER_SN_MASK`, shifted by `IWL_RX_MPDU_REORDER_SN_SHIFT`. -/
def sn (skb : RxMpdu) : Nat := (skb.reorderData &&& 0xfff000) >>> 12

/-- `IWL_RX_MPDU_REORDER_BA_OLD_SN`. -/
def baOldSn (skb : RxMpdu) : Bool := skb.reorderData &&& 0x80000000 != 0

/-- `IWL_RX_MPDU_MFLG2_AMSDU`. -/
def amsdu (skb : RxMpdu) : Bool := skb.macFlags2 &&& 0x40 != 0

/-- `IWL_RX_MPDU_AMSDU_LAST_SUBFRAME`. -/
def lastSubframe (skb : RxMpdu) : Bool := skb.amsduInfo &&& 0x80 != 0

/-- `IWL_RX_MPDU_AMSDU_SUBFRAME_IDX_MASK`. -/
def subFrameIdx (skb : RxMpdu) : Nat := skb.amsduInfo &&& 0x7f

theorem nssn_lt (skb : RxMpdu) : skb.nssn < 4096 :=
  Nat.lt_of_le_of_lt Nat.and_le_right (by decide)

theorem sn_lt (skb : RxMpdu) : skb.sn < 4096 := by
  unfold sn
  rw [Nat.shiftRight_eq_div_pow]
  have bound : skb.reorderData &&& 0xfff000 ≤ 0xfff000 := Nat.and_le_right
  omega

theorem subFrameIdx_lt (skb : RxMpdu) : skb.subFrameIdx < 128 :=
  Nat.lt_of_le_of_lt Nat.and_le_right (by decide)

/-- A hardware-decrypted unicast QoS data frame of TID 0 and block-ack session 0 with
the given sequence numbers and A-MSDU fields. -/
def qosData (sn nssn macFlags2 amsduInfo : Nat) : RxMpdu where
  frameControl := ieee80211FtypeData ||| ieee80211StypeQosData
  multicast := false
  seqCtrl := sn <<< 4
  qosCtl := 0
  reorderData := sn <<< 12 ||| nssn
  macFlags2 := macFlags2
  amsduInfo := amsduInfo
  deviceTimestamp := 0
  decrypted := true
  extiv := fun _ => 0

end RxMpdu

end Iwlwifi
