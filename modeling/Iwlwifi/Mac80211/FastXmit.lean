import Iwlwifi.Lib.Overwrite
import Iwlwifi.Mac80211.Skb
import Iwlwifi.Wireless.AmsduRx
import Iwlwifi.Wireless.Chan

/-!
# The cached header of a station

`ieee80211_check_fast_xmit` of `net/mac80211/tx.c` builds the 802.11 header of a station once;
`ieee80211_xmit_fast` copies it in front of each frame and patches the addresses in.  What the
later modules need to know of the cached header is `FastTx.Shaped`, and it follows from
`of_checkFastXmit`, which says what the header of an installed `fast_tx` is made of.
-/

namespace Iwlwifi.Xmit

open Lib

/-! ## Stations, interfaces and keys -/

/-- An Ethernet address. -/
abbrev EtherAddr := { addr : List UInt8 // addr.length = 6 }

inductive CipherSuite
  | ccmp
  | ccmp256
  | gcmp
  | gcmp256
  | tkip
  | wep40
  | wep104
  | aesCmac
  | bipCmac256
  | bipGmac128
  | bipGmac256
  | other
  deriving DecidableEq

/-- What is read of a `struct ieee80211_key`. -/
structure TxKey where
  cipher : CipherSuite
  generateIv : Bool
  putIvSpace : Bool
  generateMmic : Bool
  putMicSpace : Bool
  uploadedToHardware : Bool
  tainted : Bool
  cipherScheme : Bool
  ivLen : Nat

/-- `struct ieee80211_sub_if_data`; a channel context is its band. -/
structure SubIfData where
  vifType : Nl80211Iftype
  vifAddr : EtherAddr
  mgdBssid : EtherAddr
  mgdUse4addr : Bool
  ibssBssid : EtherAddr
  wdevUse4addr : Bool
  noackMap : Bool
  chanctxConf : Option Nat
  /-- That of the AP interface that a VLAN belongs to. -/
  apChanctxConf : Option Nat
  controlPortProtocol : Nat
  defaultUnicastKey : Option TxKey

structure TxSta where
  addr : EtherAddr
  authorized : Bool
  psSta : Bool
  psDriver : Bool
  psDeliver : Bool
  clearPsFilt : Bool
  tdlsPeer : Bool
  wme : Bool
  /-- `ptk[ptk_idx]` -/
  ptk : Option TxKey

structure TxLocal where
  supportFastXmit : Bool
  supportsPs : Bool
  supportsDynamicPs : Bool
  supportsTxFrag : Bool
  fragThreshold : UInt32

/-- `struct ieee80211_fast_tx` -/
structure FastTx where
  key : Option TxKey
  hdrLen : Nat
  saOffs : Nat
  daOffs : Nat
  pnOffs : Nat
  band : Nat
  hdr : List UInt8

/-! ## `ieee80211_check_fast_xmit` -/

def le16Bytes (value : Nat) : List UInt8 := [.ofNat value, .ofNat (value / 2 ^ 8)]

def fctlTods : Nat := 0x0100

def fctlFromds : Nat := 0x0200

def fctlProtected : Nat := 0x4000

/-- The checks before the header is built. -/
def fastXmitApplies (loc : TxLocal) (sdata : SubIfData) (sta : TxSta) : Bool :=
  !(loc.supportsPs && !loc.supportsDynamicPs && sdata.vifType == .station) && sta.authorized &&
    !(sta.psSta || sta.psDriver || sta.psDeliver || sta.clearPsFilt) && !sdata.noackMap &&
    !(loc.fragThreshold != 0xffffffff && !loc.supportsTxFrag)

/-- The header as far as the interface decides it: `frame_control`, the bytes, `da_offs`,
`sa_offs` and the length. -/
structure Template where
  fc : Nat
  hdr : List UInt8
  daOffs : Nat
  saOffs : Nat
  len : Nat

/-- `build.hdr` at first. -/
def emptyHdr : List UInt8 := List.replicate (30 + 2 + 18 + 6) 0

/-- The cases of the interface type. -/
def template (sdata : SubIfData) (sta : TxSta) : Option Template :=
  let fc := ieee80211FtypeData
  -- DA SA BSSID
  let direct (bssid : EtherAddr) : Template := ⟨fc, overwrite emptyHdr 16 bssid.val, 4, 10, 24⟩
  -- RA TA DA SA
  let fourAddr (ra : EtherAddr) : Template :=
    ⟨fc ||| (fctlFromds ||| fctlTods),
      overwrite (overwrite emptyHdr 4 ra.val) 10 sdata.vifAddr.val, 16, 24, 30⟩
  -- BSSID SA DA
  let toAp : Template := ⟨fc ||| fctlTods, overwrite emptyHdr 4 sdata.mgdBssid.val, 16, 10, 24⟩
  -- DA BSSID SA
  let fromAp : Template :=
    ⟨fc ||| fctlFromds, overwrite emptyHdr 10 sdata.vifAddr.val, 4, 16, 24⟩
  match sdata.vifType with
  | .adhoc => some (direct sdata.ibssBssid)
  | .station =>
      if sta.tdlsPeer then some (direct sdata.mgdBssid)
      else if sdata.mgdUse4addr then some (fourAddr sdata.mgdBssid)
      else some toAp
  | .apVlan => if sdata.wdevUse4addr then some (fourAddr sta.addr) else some fromAp
  | .ap => some fromAp
  | _ => none

/-- `build.hdr_len` grows by the second component, and `pn_offs` is set if the first says so. -/
def ivSpace (key : TxKey) : Option (Bool × Nat) :=
  let genIv := key.generateIv
  let ivSpc := key.putIvSpace
  if !key.uploadedToHardware then none
  else if key.tainted then none
  else
    match key.cipher with
    | .ccmp | .ccmp256 | .gcmp | .gcmp256 => some (genIv, if genIv || ivSpc then 8 else 0)
    | .tkip =>
        if key.generateMmic || key.putMicSpace || genIv then none
        else some (false, if ivSpc then 8 else 0)
    | .wep40 | .wep104 => if genIv then none else some (false, if ivSpc then 4 else 0)
    | .aesCmac | .bipCmac256 | .bipGmac128 | .bipGmac256 => none
    | .other =>
        if genIv then none
        else if !key.cipherScheme then some (false, 0)
        else if ivSpc && decide (18 < key.ivLen) then none
        else some (false, if ivSpc then key.ivLen else 0)

/-- The key that is built in. -/
def txKey (sdata : SubIfData) (sta : TxSta) : Option TxKey := sta.ptk.or sdata.defaultUnicastKey

/-- `fc` in the end. -/
def finalFc (fc : Nat) (wme keyed : Bool) : Nat :=
  let fc := if wme then fc ||| ieee80211StypeQosData else fc
  if keyed then fc ||| fctlProtected else fc

/-- `build`, unless the label `out` is reached before. -/
def buildFastTx (loc : TxLocal) (sdata : SubIfData) (sta : TxSta) : Option FastTx := do
  if !fastXmitApplies loc sdata sta then none
  else
    let band ← sdata.chanctxConf
    let template ← template sdata sta
    let len := if sta.wme then template.len + 2 else template.len
    let key := txKey sdata sta
    let (genPn, iv) ← (match key with
      | some key => ivSpace key
      | none => some (false, 0))
    let hdr := overwrite template.hdr 0 (le16Bytes (finalFc template.fc sta.wme key.isSome))
    return {
      key := key
      hdrLen := len + iv + 6
      saOffs := template.saOffs
      daOffs := template.daOffs
      pnOffs := if genPn then len else 0
      band := band
      hdr := overwrite hdr (len + iv) rfc1042Header }

/-- `ieee80211_check_fast_xmit`: the `fast_tx` of the station afterwards.  `allocated` tells
whether `kmemdup` succeeds. -/
def checkFastXmit (loc : TxLocal) (sdata : SubIfData) (sta : TxSta) (allocated : Bool)
    (old : Option FastTx) : Option FastTx :=
  if !loc.supportFastXmit then old
  else (buildFastTx loc sdata sta).filter fun _ => allocated

/-! ## The header in front of a frame -/

namespace FastTx

/-- `hdr->frame_control & IEEE80211_STYPE_QOS_DATA` -/
def isQos (fast : FastTx) : Bool := Skb.frameControl fast.hdr &&& ieee80211StypeQosData != 0

/-- The length of the header and of the space for the IV. -/
def machdrLen (fast : FastTx) : Nat := fast.hdrLen - 6

end FastTx

/-- Where `ieee80211_get_qos_ctl` points. -/
def qosCtlOffset (skb : Skb) : Nat := if ieee80211HasA4 skb.frameControl then 30 else 24

/-- The frame that `ieee80211_xmit_fast` makes of an Ethernet frame. -/
def fastFrame (fast : FastTx) (skb : Skb) (priority : Nat) : Skb :=
  let frame := fast.hdr.take fast.hdrLen ++ skb.drop 12
  let frame := overwrite frame fast.daOffs (window skb 0 6)
  let frame := overwrite frame fast.saOffs (window skb 6 6)
  if fast.isQos then overwrite frame (qosCtlOffset frame) [.ofNat (priority % 8)] else frame

/-! ## What is installed -/

variable {t : Template}

section Installed

variable {loc : TxLocal} {sdata : SubIfData} {sta : TxSta} {allocated : Bool} {fast : FastTx}

/-- What a template is: its bytes behind `frame_control` are given with the offsets. -/
theorem of_template (cases : template sdata sta = some t) :
    t.hdr.length = 56 ∧
      (t.fc = 0x0008 ∧ t.daOffs = 4 ∧ t.saOffs = 10 ∧ t.len = 24 ∨
        t.fc = 0x0308 ∧ t.daOffs = 16 ∧ t.saOffs = 24 ∧ t.len = 30 ∨
        t.fc = 0x0108 ∧ t.daOffs = 16 ∧ t.saOffs = 10 ∧ t.len = 24 ∨
        t.fc = 0x0208 ∧ t.daOffs = 4 ∧ t.saOffs = 16 ∧ t.len = 24) := by
  have one : ∀ (ofs : Nat) (addr : EtherAddr), ofs + 6 ≤ 56 →
      (overwrite emptyHdr ofs addr.val).length = 56 := by
    intro ofs addr inside
    rw [overwrite_length]
    · rfl
    · rw [addr.property]
      exact inside
  have two : ∀ first second : EtherAddr,
      (overwrite (overwrite emptyHdr 4 first.val) 10 second.val).length = 56 := by
    intro first second
    rw [overwrite_length, one 4 first (by decide)]
    rw [one 4 first (by decide), second.property]
    decide
  rw [template] at cases
  simp only at cases
  split at cases
  · cases cases
    exact ⟨one 16 _ (by decide), Or.inl ⟨rfl, rfl, rfl, rfl⟩⟩
  · split at cases
    · cases cases
      exact ⟨one 16 _ (by decide), Or.inl ⟨rfl, rfl, rfl, rfl⟩⟩
    · split at cases
      · cases cases
        exact ⟨two _ _, Or.inr (Or.inl ⟨rfl, rfl, rfl, rfl⟩)⟩
      · cases cases
        exact ⟨one 4 _ (by decide), Or.inr (Or.inr (Or.inl ⟨rfl, rfl, rfl, rfl⟩))⟩
  · split at cases
    · cases cases
      exact ⟨two _ _, Or.inr (Or.inl ⟨rfl, rfl, rfl, rfl⟩)⟩
    · cases cases
      exact ⟨one 10 _ (by decide), Or.inr (Or.inr (Or.inr ⟨rfl, rfl, rfl, rfl⟩))⟩
  · cases cases
    exact ⟨one 10 _ (by decide), Or.inr (Or.inr (Or.inr ⟨rfl, rfl, rfl, rfl⟩))⟩
  · cases cases

theorem ivSpace_le {key : TxKey} {genPn : Bool} {iv : Nat}
    (space : ivSpace key = some (genPn, iv)) : iv ≤ 18 := by
  have eight : ∀ cond : Bool, (if cond then 8 else 0) ≤ 18 := by decide
  have four : ∀ cond : Bool, (if cond then 4 else 0) ≤ 18 := by decide
  rw [ivSpace] at space
  split at space
  · cases space
  split at space
  · cases space
  cases cipher : key.cipher
  all_goals simp only [cipher] at space
  case ccmp | ccmp256 | gcmp | gcmp256 =>
    cases space
    exact eight _
  case tkip =>
    split at space
    · cases space
    · cases space
      exact eight _
  case wep40 | wep104 =>
    split at space
    · cases space
    · cases space
      exact four _
  case aesCmac | bipCmac256 | bipGmac128 | bipGmac256 => cases space
  case other =>
    split at space
    · cases space
    split at space
    · cases space
      decide
    split at space
    · cases space
    · next short =>
        cases space
        simp only [Bool.and_eq_true, decide_eq_true_eq, not_and] at short
        split
        · next reserved => exact Nat.not_lt.mp (short reserved)
        · exact Nat.zero_le 18

/-- What `ieee80211_check_fast_xmit` has checked and built when it installs a `fast_tx`. -/
theorem of_checkFastXmit (installed : checkFastXmit loc sdata sta allocated none = some fast) :
    ∃ t iv, template sdata sta = some t ∧ iv ≤ 18 ∧ sta.authorized = true ∧
      sdata.chanctxConf = some fast.band ∧
      fast.hdrLen = (if sta.wme then t.len + 2 else t.len) + iv + 6 ∧
      fast.saOffs = t.saOffs ∧ fast.daOffs = t.daOffs ∧
      fast.hdr = overwrite
        (overwrite t.hdr 0 (le16Bytes (finalFc t.fc sta.wme (txKey sdata sta).isSome)))
        ((if sta.wme then t.len + 2 else t.len) + iv) rfc1042Header := by
  rw [checkFastXmit] at installed
  split at installed
  · cases installed
  obtain ⟨built, -⟩ := Option.filter_eq_some_iff.mp installed
  rw [buildFastTx] at built
  split at built
  · cases built
  next applies =>
    obtain ⟨band, conf, built⟩ := Option.bind_eq_some_iff.mp built
    obtain ⟨t, cases, built⟩ := Option.bind_eq_some_iff.mp built
    obtain ⟨⟨genPn, iv⟩, space, built⟩ := Option.bind_eq_some_iff.mp built
    have small : iv ≤ 18 := by
      cases key : txKey sdata sta with
      | none =>
          rw [key] at space
          cases space
          decide
      | some key' =>
          rw [key] at space
          exact ivSpace_le space
    have authorized : sta.authorized = true := by
      simp only [fastXmitApplies, Bool.not_eq_true', Bool.not_eq_false, Bool.and_eq_true] at applies
      exact applies.1.1.1.2
    cases built
    exact ⟨t, iv, cases, small, authorized, conf, rfl, rfl, rfl, rfl⟩

end Installed

/-! ## Frame control -/

theorem frameControl_window (skb : Skb) : Skb.frameControl (window skb 0 2) = skb.frameControl := by
  match skb with
  | [] => rfl
  | [_] => rfl
  | _ :: _ :: _ => rfl

theorem frameControl_append {front more : List UInt8} (two : 2 ≤ front.length) :
    Skb.frameControl (front ++ more) = Skb.frameControl front := by
  rw [← frameControl_window, window_append_left (by omega), frameControl_window]

theorem frameControl_take {buf : List UInt8} {stop : Nat} (two : 2 ≤ stop) :
    Skb.frameControl (buf.take stop) = Skb.frameControl buf := by
  rw [← frameControl_window, window_take (by omega), frameControl_window]

theorem frameControl_overwrite {buf src : List UInt8} {ofs : Nat} (behind : 2 ≤ ofs)
    (fits : ofs + src.length ≤ buf.length) :
    Skb.frameControl (overwrite buf ofs src) = Skb.frameControl buf := by
  rw [← frameControl_window, window_overwrite_before fits (by omega), frameControl_window]

theorem frameControl_le16 {fc : Nat} (small : fc < 2 ^ 16) (rest : List UInt8) :
    Skb.frameControl (le16Bytes fc ++ rest) = fc := by
  change (UInt8.ofNat fc).toNat + 256 * (UInt8.ofNat (fc / 2 ^ 8)).toNat = fc
  rw [UInt8.toNat_ofNat', UInt8.toNat_ofNat']
  omega

theorem overwrite_le16_length {buf : List UInt8} (fc : Nat) (two : 2 ≤ buf.length) :
    (overwrite buf 0 (le16Bytes fc)).length = buf.length :=
  overwrite_length (Nat.le_trans (Nat.le_of_eq (Nat.zero_add 2)) two)

theorem frameControl_overwrite_le16 {buf : List UInt8} {fc : Nat} (small : fc < 2 ^ 16) :
    Skb.frameControl (overwrite buf 0 (le16Bytes fc)) = fc := by
  rw [overwrite, List.take_zero, List.nil_append]
  exact frameControl_le16 small _

/-! ## The patched header -/

/-- The places that are patched lie in the 802.11 header and apart from each other. -/
structure FastTx.Shaped (fast : FastTx) : Prop where
  hdrLength : fast.hdr.length = 56
  fits : fast.hdrLen ≤ 56
  room : qosCtlOffset fast.hdr + (if fast.isQos then 2 else 0) + 6 ≤ fast.hdrLen
  daBehind : 4 ≤ fast.daOffs
  saBehind : 4 ≤ fast.saOffs
  daInside : fast.daOffs + 6 ≤ qosCtlOffset fast.hdr
  saInside : fast.saOffs + 6 ≤ qosCtlOffset fast.hdr
  apart : fast.daOffs + 6 ≤ fast.saOffs ∨ fast.saOffs + 6 ≤ fast.daOffs
  snap : window fast.hdr fast.machdrLen 6 = rfc1042Header

theorem frameControl_of_checkFastXmit {sta : TxSta} {keyed : Bool} {ofs : Nat}
    (length : t.hdr.length = 56) (small : finalFc t.fc sta.wme keyed < 2 ^ 16) (behind : 2 ≤ ofs)
    (fits : ofs + 6 ≤ 56) :
    Skb.frameControl (overwrite (overwrite t.hdr 0 (le16Bytes (finalFc t.fc sta.wme keyed)))
      ofs rfc1042Header) = finalFc t.fc sta.wme keyed := by
  have inner : (overwrite t.hdr 0 (le16Bytes (finalFc t.fc sta.wme keyed))).length = 56 := by
    rw [overwrite_le16_length _ (by omega), length]
  rw [frameControl_overwrite behind (by rw [inner]; exact fits),
    frameControl_overwrite_le16 small]

/-- The frame control of each case fits its field, and says how long the header is. -/
theorem finalFc_of_template {sdata : SubIfData} {sta : TxSta} (cases : template sdata sta = some t)
    (wme keyed : Bool) :
    finalFc t.fc wme keyed < 2 ^ 16 ∧
      t.len = (if ieee80211HasA4 (finalFc t.fc wme keyed) then 30 else 24) ∧
      (finalFc t.fc wme keyed &&& ieee80211StypeQosData != 0) = wme := by
  obtain ⟨-, cases⟩ := of_template cases
  rcases cases with ⟨fc, -, -, len⟩ | ⟨fc, -, -, len⟩ | ⟨fc, -, -, len⟩ | ⟨fc, -, -, len⟩
  all_goals
    rw [fc, len]
    cases wme
    all_goals
      cases keyed
      all_goals decide

theorem len_of_template {sdata : SubIfData} {sta : TxSta} (cases : template sdata sta = some t) :
    t.len = 24 ∨ t.len = 30 := by
  rw [(finalFc_of_template cases true true).2.1]
  split
  · exact Or.inr rfl
  · exact Or.inl rfl

/-- What the cached header says of itself. -/
theorem frameControl_of_installed {sdata : SubIfData} {sta : TxSta} {fast : FastTx} {iv : Nat}
    (cases : template sdata sta = some t) (small : iv ≤ 18) (hdr : fast.hdr = overwrite
      (overwrite t.hdr 0 (le16Bytes (finalFc t.fc sta.wme (txKey sdata sta).isSome)))
      ((if sta.wme then t.len + 2 else t.len) + iv) rfc1042Header) :
    Skb.frameControl fast.hdr = finalFc t.fc sta.wme (txKey sdata sta).isSome ∧
      qosCtlOffset fast.hdr = t.len ∧ fast.isQos = sta.wme := by
  obtain ⟨lt, tLen, qos⟩ := finalFc_of_template cases sta.wme (txKey sdata sta).isSome
  have len := len_of_template cases
  have frameControl : Skb.frameControl fast.hdr =
      finalFc t.fc sta.wme (txKey sdata sta).isSome := by
    rw [hdr]
    refine frameControl_of_checkFastXmit (of_template cases).1 lt ?_ ?_
    all_goals split <;> omega
  refine ⟨frameControl, ?_, ?_⟩
  · rw [qosCtlOffset, frameControl, ← tLen]
  · rw [FastTx.isQos, frameControl, qos]

theorem shaped_of_checkFastXmit {loc : TxLocal} {sdata : SubIfData} {sta : TxSta}
    {allocated : Bool} {fast : FastTx}
    (installed : checkFastXmit loc sdata sta allocated none = some fast) : fast.Shaped := by
  obtain ⟨t, iv, cases, small, -, -, hdrLen, saOffs, daOffs, hdr⟩ := of_checkFastXmit installed
  obtain ⟨-, base, isQos⟩ := frameControl_of_installed cases small hdr
  have len := len_of_template cases
  obtain ⟨length, cases⟩ := of_template cases
  have inner : (overwrite t.hdr 0
      (le16Bytes (finalFc t.fc sta.wme (txKey sdata sta).isSome))).length = 56 := by
    rw [overwrite_le16_length _ (by omega), length]
  have hdrFits : (if sta.wme then t.len + 2 else t.len) + iv + 6 ≤ 56 := by
    split <;> omega
  refine ⟨?_, ?_, ?_, ?_, ?_, ?_, ?_, ?_, ?_⟩
  · rw [hdr, overwrite_length, inner]
    rw [inner]
    exact hdrFits
  · rw [hdrLen]
    exact hdrFits
  · rw [base, isQos, hdrLen]
    split <;> omega
  · omega
  · omega
  · omega
  · omega
  · omega
  · rw [FastTx.machdrLen, hdrLen, hdr, Nat.add_sub_cancel]
    exact window_overwrite_self (by rw [inner]; exact hdrFits)

namespace FastTx

/-- The header once the addresses are patched in. -/
def addressed (fast : FastTx) (skb : Skb) : List UInt8 :=
  overwrite (overwrite (fast.hdr.take fast.machdrLen) fast.daOffs (window skb 0 6)) fast.saOffs
    (window skb 6 6)

/-- The 802.11 header of a frame, with the space for the IV. -/
def patched (fast : FastTx) (skb : Skb) (priority : Nat) : List UInt8 :=
  if fast.isQos then
    overwrite (fast.addressed skb) (qosCtlOffset (fast.addressed skb)) [.ofNat (priority % 8)]
  else fast.addressed skb

variable {fast : FastTx} (shaped : fast.Shaped)
include shaped

theorem Shaped.machdrLen_add : fast.machdrLen + 6 = fast.hdrLen := by
  have room := shaped.room
  rw [machdrLen]
  omega

/-- The header without the LLC/SNAP header. -/
theorem Shaped.take_hdr :
    fast.hdr.take fast.hdrLen = fast.hdr.take fast.machdrLen ++ rfc1042Header := by
  rw [← shaped.machdrLen_add, List.take_add, ← shaped.snap, window]

theorem Shaped.take_machdr_length : (fast.hdr.take fast.machdrLen).length = fast.machdrLen := by
  have length := shaped.hdrLength
  have fits := shaped.fits
  rw [List.length_take, machdrLen]
  omega

end FastTx

section Patched

variable {fast : FastTx} (shaped : fast.Shaped) {skb : Skb} (priority : Nat)
  (long : 12 ≤ skb.length)

include shaped long

theorem fits_da :
    fast.daOffs + (window skb 0 6).length ≤ (fast.hdr.take fast.machdrLen).length := by
  have six : (window skb 0 6).length = 6 := window_length (by omega)
  rw [six, shaped.take_machdr_length]
  have room := shaped.room
  have inside := shaped.daInside
  have most := shaped.machdrLen_add
  omega

theorem fits_sa : fast.saOffs + (window skb 6 6).length ≤
    (overwrite (fast.hdr.take fast.machdrLen) fast.daOffs (window skb 0 6)).length := by
  have six : (window skb 6 6).length = 6 := window_length (by omega)
  rw [six, overwrite_length (fits_da shaped long), shaped.take_machdr_length]
  have room := shaped.room
  have inside := shaped.saInside
  have most := shaped.machdrLen_add
  omega

theorem addressed_length : (fast.addressed skb).length = fast.machdrLen := by
  rw [FastTx.addressed, overwrite_length (fits_sa shaped long),
    overwrite_length (fits_da shaped long), shaped.take_machdr_length]

theorem frameControl_addressed :
    Skb.frameControl (fast.addressed skb) = Skb.frameControl fast.hdr := by
  have da := shaped.daBehind
  have sa := shaped.saBehind
  have room := shaped.room
  have inside := shaped.daInside
  have most := shaped.machdrLen_add
  rw [FastTx.addressed, frameControl_overwrite (by omega) (fits_sa shaped long),
    frameControl_overwrite (by omega) (fits_da shaped long), frameControl_take (by omega)]

theorem qosCtlOffset_addressed : qosCtlOffset (fast.addressed skb) = qosCtlOffset fast.hdr := by
  rw [qosCtlOffset, frameControl_addressed shaped long, qosCtlOffset]

theorem patched_eq : fast.patched skb priority =
    if fast.isQos then
      overwrite (fast.addressed skb) (qosCtlOffset fast.hdr) [.ofNat (priority % 8)]
    else fast.addressed skb := by
  rw [FastTx.patched, qosCtlOffset_addressed shaped long]

theorem fits_qos (qos : fast.isQos = true) (byte : UInt8) :
    qosCtlOffset fast.hdr + [byte].length ≤ (fast.addressed skb).length := by
  have room := shaped.room
  have most := shaped.machdrLen_add
  rw [if_pos qos] at room
  rw [addressed_length shaped long, List.length_singleton]
  omega

theorem patched_length : (fast.patched skb priority).length = fast.machdrLen := by
  rw [patched_eq shaped priority long]
  split
  · next qos => rw [overwrite_length (fits_qos shaped long qos _), addressed_length shaped long]
  · exact addressed_length shaped long

/-- The QoS control field is behind everything else that is patched. -/
theorem window_patched {ofs len : Nat} (before : ofs + len ≤ qosCtlOffset fast.hdr) :
    window (fast.patched skb priority) ofs len = window (fast.addressed skb) ofs len := by
  rw [patched_eq shaped priority long]
  split
  · next qos => exact window_overwrite_before (fits_qos shaped long qos _) before
  · rfl

theorem frameControl_patched :
    Skb.frameControl (fast.patched skb priority) = Skb.frameControl fast.hdr := by
  have inside := shaped.daInside
  rw [← frameControl_window, window_patched shaped priority long (by omega), frameControl_window,
    frameControl_addressed shaped long]

theorem patched_da : window (fast.patched skb priority) fast.daOffs 6 = window skb 0 6 := by
  have six : (window skb 0 6).length = 6 := window_length (by omega)
  have six' : (window skb 6 6).length = 6 := window_length (by omega)
  have self := window_overwrite_self (fits_da shaped long)
  rw [six] at self
  rw [window_patched shaped priority long shaped.daInside, FastTx.addressed]
  rcases shaped.apart with before | behind
  · rw [window_overwrite_before (fits_sa shaped long) before, self]
  · rw [window_overwrite_behind (fits_sa shaped long) (by omega), self]

theorem patched_sa : window (fast.patched skb priority) fast.saOffs 6 = window skb 6 6 := by
  have six : (window skb 6 6).length = 6 := window_length (by omega)
  have self := window_overwrite_self (fits_sa shaped long)
  rw [six] at self
  rw [window_patched shaped priority long shaped.saInside, FastTx.addressed, self]

/-- What is in front of the patched places, between or behind them. -/
theorem patched_elsewhere {ofs len : Nat} (before : ofs + len ≤ qosCtlOffset fast.hdr)
    (da : ofs + len ≤ fast.daOffs ∨ fast.daOffs + 6 ≤ ofs)
    (sa : ofs + len ≤ fast.saOffs ∨ fast.saOffs + 6 ≤ ofs) :
    window (fast.patched skb priority) ofs len = window fast.hdr ofs len := by
  have six : (window skb 0 6).length = 6 := window_length (by omega)
  have six' : (window skb 6 6).length = 6 := window_length (by omega)
  have room := shaped.room
  have most := shaped.machdrLen_add
  have base : window (overwrite (fast.hdr.take fast.machdrLen) fast.daOffs (window skb 0 6))
      ofs len = window fast.hdr ofs len := by
    refine Eq.trans ?_ (window_take (by omega : ofs + len ≤ fast.machdrLen))
    rcases da with before | behind
    · exact window_overwrite_before (fits_da shaped long) before
    · exact window_overwrite_behind (fits_da shaped long) (by omega)
  rw [window_patched shaped priority long before, FastTx.addressed, ← base]
  rcases sa with before | behind
  · exact window_overwrite_before (fits_sa shaped long) before
  · exact window_overwrite_behind (fits_sa shaped long) (by omega)

/-- A frame is the patched header, the LLC/SNAP header and the type and payload. -/
theorem fastFrame_eq : fastFrame fast skb priority =
    fast.patched skb priority ++ (rfc1042Header ++ skb.drop 12) := by
  have da : overwrite (fast.hdr.take fast.hdrLen ++ skb.drop 12) fast.daOffs (window skb 0 6) =
      overwrite (fast.hdr.take fast.machdrLen) fast.daOffs (window skb 0 6) ++
        (rfc1042Header ++ skb.drop 12) := by
    rw [shaped.take_hdr, List.append_assoc, overwrite_append_left (fits_da shaped long)]
  have both : overwrite (overwrite (fast.hdr.take fast.hdrLen ++ skb.drop 12) fast.daOffs
      (window skb 0 6)) fast.saOffs (window skb 6 6) =
        fast.addressed skb ++ (rfc1042Header ++ skb.drop 12) := by
    rw [da, overwrite_append_left (fits_sa shaped long), FastTx.addressed]
  have room := shaped.room
  have most := shaped.machdrLen_add
  have inside := shaped.daInside
  have two : 2 ≤ (fast.addressed skb).length := by
    rw [addressed_length shaped long]
    omega
  have qos : qosCtlOffset (fast.addressed skb ++ (rfc1042Header ++ skb.drop 12)) =
      qosCtlOffset fast.hdr := by
    rw [qosCtlOffset, frameControl_append two, frameControl_addressed shaped long, qosCtlOffset]
  rw [fastFrame, patched_eq shaped priority long]
  simp only [both, qos]
  split
  · next isQos => rw [overwrite_append_left (fits_qos shaped long isQos _)]
  · rfl

end Patched

/-! ## An open station -/

/-- A locally administered address. -/
def localAddr (last : UInt8) : EtherAddr := ⟨[2, 0, 0, 0, 0, last], rfl⟩

/-- A station that uses QoS, without a key. -/
def qosSta : TxSta := ⟨localAddr 1, true, false, false, false, false, false, true, none⟩

def openStation : SubIfData :=
  ⟨.station, localAddr 2, localAddr 1, false, localAddr 1, false, false, some 0, none, 0x888e,
    none⟩

def plainLocal : TxLocal := ⟨true, false, false, false, 0xffffffff⟩

def qosFast : FastTx :=
  { key := none
    hdrLen := 32
    saOffs := 10
    daOffs := 16
    pnOffs := 0
    band := 0
    hdr := overwrite (overwrite (overwrite emptyHdr 4 [2, 0, 0, 0, 0, 1]) 0 (le16Bytes 0x0188)) 26
      rfc1042Header }

end Iwlwifi.Xmit
