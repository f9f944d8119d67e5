import Iwlwifi.Lib.Overwrite
import Iwlwifi.Mac80211.Skb
import Iwlwifi.Wireless.AmsduSubframe
import Iwlwifi.Wireless.Chan

/-!
# From an 802.11 data frame to an Ethernet frame

`ieee80211_data_to_8023_exthdr` of `net/wireless/util.c`.  Where `skb_copy_bits` finds the frame
too short, which can only be behind a mesh header, what was in the variable stays there (`junk`).
-/

namespace Iwlwifi

open Lib

/-! ## The model -/

/-- `ieee80211_get_DA` -/
def ieee80211GetDa (skb : Skb) : List UInt8 :=
  if ieee80211HasTods skb.frameControl then window skb 16 6 else window skb 4 6

/-- `ieee80211_get_SA` -/
def ieee80211GetSa (skb : Skb) : List UInt8 :=
  if ieee80211HasA4 skb.frameControl then window skb 24 6
  else if ieee80211HasFromds skb.frameControl then window skb 16 6
  else window skb 10 6

/-- `skb_copy_bits` over the old contents of a variable. -/
def skbCopyBits (skb : Skb) (offset len : Nat) (old : List UInt8) : List UInt8 :=
  if offset + len ≤ skb.length then window skb offset len else old

/-- `__ieee80211_get_mesh_hdrlen` -/
def meshHdrlen (ae : UInt8) : Nat := if ae = 1 then 12 else if ae = 2 then 18 else 6

/-- The switch over the direction bits: the two addresses and `hdrlen` afterwards. -/
def checkDirection (skb : Skb) (addr : List UInt8) (iftype : Nl80211Iftype) (hdrlen : Nat) :
    Option (List UInt8 × List UInt8 × Nat) :=
  let dest := ieee80211GetDa skb
  let source := ieee80211GetSa skb
  let mesh := iftype == .meshPoint
  let ae := if mesh then (skbCopyBits skb hdrlen 1 [0]).getD 0 0 &&& 3 else 0
  match ieee80211HasTods skb.frameControl, ieee80211HasFromds skb.frameControl with
  | true, false =>
      if iftype != .ap && iftype != .apVlan && iftype != .p2pGo then none
      else some (dest, source, hdrlen)
  | true, true =>
      if iftype != .wds && !mesh && iftype != .apVlan && iftype != .station then none
      else if !mesh then some (dest, source, hdrlen)
      else if ae = 1 then none
      else if ae = 2 then
        let both := skbCopyBits skb (hdrlen + 6) 12 (dest ++ source)
        some (both.take 6, both.drop 6, hdrlen + meshHdrlen ae)
      else some (dest, source, hdrlen + meshHdrlen ae)
  | false, true =>
      if (iftype != .station && iftype != .p2pClient && !mesh) ||
          (isMulticastEtherAddr dest && source == addr) then none
      else if !mesh then some (dest, source, hdrlen)
      else if ae = 2 then none
      else if ae = 1 then
        some (dest, skbCopyBits skb (hdrlen + 6) 6 source, hdrlen + meshHdrlen ae)
      else some (dest, source, hdrlen + meshHdrlen ae)
  | false, false =>
      if iftype != .adhoc && iftype != .station && iftype != .ocb && iftype != .nanData then none
      else some (dest, source, hdrlen)

/-- `ieee80211_data_to_8023_exthdr`: the Ethernet header, and what is left of the frame. -/
def dataTo8023Exthdr (junk : List UInt8) (skb : Skb) (addr : List UInt8) (iftype : Nl80211Iftype)
    (dataOffset : Nat) : Option (Ethhdr × Skb) := do
  if !ieee80211IsDataPresent skb.frameControl then none
  else
    let hdrlen := skb.hdrlen + dataOffset
    if skb.length < hdrlen + 8 then none
    else
      let (dest, source, hdrlen) ← checkDirection skb addr iftype hdrlen
      let payload := skbCopyBits skb hdrlen 8 junk
      let proto := be16At payload 6
      let encapsulated := payload.take 6 = rfc1042Header ∧ proto ≠ ethPAarp ∧ proto ≠ ethPIpx ∨
        payload.take 6 = bridgeTunnelHeader
      let proto := if encapsulated then proto else (skb.length - hdrlen) % 2 ^ 16
      let hdrlen := if encapsulated then hdrlen + 8 else hdrlen
      let rest := if skb.length < hdrlen then skb else skb.drop hdrlen
      return (⟨dest, source, proto⟩, rest)

/-- `ieee80211_data_to_8023`, which pushes the header in front. -/
def dataTo8023 (junk : List UInt8) (skb : Skb) (addr : List UInt8) (iftype : Nl80211Iftype) :
    Option Skb :=
  (dataTo8023Exthdr junk skb addr iftype 0).map fun (eth, rest) => eth.bytes ++ rest

/-! ## Encapsulated frames -/

theorem u8At_window {bytes : List UInt8} {ofs len i : Nat} (inside : i < len) :
    u8At (window bytes ofs len) i = u8At bytes (ofs + i) := by
  rw [u8At, u8At, List.getD_eq_getElem?_getD, List.getD_eq_getElem?_getD, window,
    List.getElem?_take_of_lt inside, List.getElem?_drop]

theorem be16At_window {bytes : List UInt8} {ofs len i : Nat} (inside : i + 1 < len) :
    be16At (window bytes ofs len) i = be16At bytes (ofs + i) := by
  rw [be16At, be16At, u8At_window (Nat.lt_of_succ_lt inside), u8At_window inside, Nat.add_assoc]

theorem u8At_drop (bytes : List UInt8) (ofs i : Nat) :
    u8At (bytes.drop ofs) i = u8At bytes (ofs + i) := by
  rw [u8At, u8At, List.getD_eq_getElem?_getD, List.getD_eq_getElem?_getD, List.getElem?_drop]

theorem be16At_drop (bytes : List UInt8) (ofs : Nat) :
    be16At (bytes.drop ofs) 0 = be16At bytes ofs := by
  rw [be16At, be16At, u8At_drop, u8At_drop, Nat.add_zero, Nat.zero_add]

variable {junk : List UInt8} {skb : Skb} {addr : List UInt8} {iftype : Nl80211Iftype}

/-- A frame that is too short for an LLC/SNAP header is not converted. -/
theorem dataTo8023_of_short (short : skb.length < skb.hdrlen + 8) :
    dataTo8023 junk skb addr iftype = none := by
  rw [dataTo8023, dataTo8023Exthdr]
  split
  · rfl
  · simp only [Nat.add_zero, if_pos short, Option.map_none]

/-- The EtherType is kept, and the addresses replace the LLC/SNAP header. -/
theorem dataTo8023_of_rfc1042 (present : ieee80211IsDataPresent skb.frameControl = true)
    (long : skb.hdrlen + 8 ≤ skb.length) {dest source : List UInt8}
    (direction : checkDirection skb addr iftype skb.hdrlen = some (dest, source, skb.hdrlen))
    (snap : window skb skb.hdrlen 6 = rfc1042Header)
    (notAarp : be16At skb (skb.hdrlen + 6) ≠ ethPAarp)
    (notIpx : be16At skb (skb.hdrlen + 6) ≠ ethPIpx) :
    dataTo8023 junk skb addr iftype = some (dest ++ source ++ skb.drop (skb.hdrlen + 6)) := by
  have payload : skbCopyBits skb skb.hdrlen 8 junk = window skb skb.hdrlen 8 := if_pos long
  have take : (window skb skb.hdrlen 8).take 6 = rfc1042Header := by
    rw [← snap, window, window, List.take_take]
    rfl
  have proto : be16At (window skb skb.hdrlen 8) 6 = be16At skb (skb.hdrlen + 6) :=
    be16At_window (by decide)
  -- the type and what is behind it, as they stand in the frame
  have tail : be16Bytes (be16At (window skb skb.hdrlen 8) 6) ++ skb.drop (skb.hdrlen + 8) =
      skb.drop (skb.hdrlen + 6) := by
    have parts := List.take_append_drop 2 (skb.drop (skb.hdrlen + 6))
    rw [List.drop_drop] at parts
    rwa [be16Bytes_be16At (window_length long), window, List.drop_take, List.drop_drop]
  have encapsulated : (window skb skb.hdrlen 8).take 6 = rfc1042Header ∧
      be16At (window skb skb.hdrlen 8) 6 ≠ ethPAarp ∧
      be16At (window skb skb.hdrlen 8) 6 ≠ ethPIpx ∨
        (window skb skb.hdrlen 8).take 6 = bridgeTunnelHeader := by
    rw [proto]
    exact Or.inl ⟨take, notAarp, notIpx⟩
  have pulled : ¬skb.length < skb.hdrlen + 8 := Nat.not_lt.mpr long
  rw [dataTo8023, dataTo8023Exthdr]
  simp only [Nat.add_zero, present, Bool.not_true, Bool.false_eq_true, if_false, pulled, direction,
    Option.bind_eq_bind, Option.bind_some, payload, encapsulated, if_true, Option.map_some,
    Ethhdr.bytes, Option.pure_def, List.append_assoc, tail]

end Iwlwifi
