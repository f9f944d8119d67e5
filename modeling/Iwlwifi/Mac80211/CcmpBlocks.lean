import Mathlib.Tactic.NormNum
import Iwlwifi.Mac80211.Ccmp

/-!
# Nonce and AAD

Sender and receiver build nonce and AAD from a header followed by the eight bytes of the CCMP
header, and everything they read lies in these first 32 bytes.  `SameBlocks` is the relation
between two frames under which they build the same, `protectedPart` what an AAD determines.
-/

namespace Iwlwifi

open Lib

/-! ## Headers -/

/-- Everything but the retry, power management and more data bits. -/
def fcInFlight : Nat := 0xc7ff

theorem fcKind_of_inFlight {fc fc' : Nat} (same : fc &&& fcInFlight = fc' &&& fcInFlight) :
    fc &&& fcKind = fc' &&& fcKind := land_eq_of_masked _ same rfl

theorem maskFc_congr {fc fc' : Nat} (same : fc &&& fcInFlight = fc' &&& fcInFlight) :
    maskFc fc = maskFc fc' := by
  have whole : fc &&& (0xffff ^^^ (0x0800 ||| 0x1000 ||| 0x2000)) =
      fc' &&& (0xffff ^^^ (0x0800 ||| 0x1000 ||| 0x2000)) := same
  rw [maskFc, maskFc, whole, ieee80211IsMgmt_congr (fcKind_of_inFlight same)]

namespace Skb

variable {a b : Skb} {offset len n : Nat}

theorem byte_eq_of_take (offset : Nat) (same : a.take n = b.take n) (before : offset < n) :
    a.byte offset = b.byte offset := by
  have here := congrArg (·.getD offset (0 : UInt8)) same
  simpa [byte, List.getD_eq_getElem?_getD, List.getElem?_take, before] using here

theorem span_eq_of_take (same : a.take n = b.take n) (within : offset + len ≤ n) :
    a.span offset len = b.span offset len := by
  have cut (skb : Skb) : skb.span offset len = ((skb.take n).drop offset).take len := by
    rw [span, List.drop_take, List.take_take, Nat.min_eq_left (by omega)]
  rw [cut a, cut b, same]

theorem byte_eq_of_drop (same : a.drop n = b.drop n) (after : n ≤ offset) :
    a.byte offset = b.byte offset := by
  have here := congrArg (·.getD (offset - n) (0 : UInt8)) same
  simpa [byte, List.getD_eq_getElem?_getD, List.getElem?_drop, Nat.add_sub_cancel' after]
    using here

theorem span_eq_of_drop (same : a.drop n = b.drop n) (after : n ≤ offset) :
    a.span offset len = b.span offset len := by
  have moved (skb : Skb) : skb.span offset len = ((skb.drop n).drop (offset - n)).take len := by
    rw [span, List.drop_drop, Nat.add_sub_cancel' after]
  rw [moved a, moved b, same]

end Skb

/-- The headers agree but for the bits that may change in flight, the bytes behind them agree. -/
structure Alike (a b : Skb) : Prop where
  fc : a.frameControl &&& fcInFlight = b.frameControl &&& fcInFlight
  addresses : a.span 4 18 = b.span 4 18
  frag : a.byte 22 &&& 0x0f = b.byte 22 &&& 0x0f
  behind : a.drop 24 = b.drop 24

/-- What nonce and AAD are built from agrees. -/
structure SameBlocks (a b : Skb) : Prop where
  fc : a.frameControl &&& fcInFlight = b.frameControl &&& fcInFlight
  addresses : a.span 4 18 = b.span 4 18
  frag : a.byte 22 &&& 0x0f = b.byte 22 &&& 0x0f
  addr4 : a.addr4 = b.addr4
  qos : ∀ offset ∈ [24, 30], a.byte offset = b.byte offset

variable {a b : Skb}

theorem Alike.sameBlocks (alike : Alike a b) : SameBlocks a b where
  fc := alike.fc
  addresses := alike.addresses
  frag := alike.frag
  addr4 := Skb.span_eq_of_drop alike.behind (Nat.le_refl 24)
  qos offset member := by
    refine Skb.byte_eq_of_drop alike.behind ?_
    rcases List.mem_cons.mp member with rfl | member
    · exact Nat.le_refl 24
    · rw [List.mem_singleton.mp member]
      decide

/-- Two frames with the same first 32 bytes. -/
theorem sameBlocks_of_take (same : a.take 32 = b.take 32) : SameBlocks a b where
  fc := by
    rw [Skb.frameControl, Skb.frameControl, Skb.byte_eq_of_take _ same (by decide),
      Skb.byte_eq_of_take 1 same (by decide)]
  addresses := Skb.span_eq_of_take same (by decide)
  frag := by rw [Skb.byte_eq_of_take _ same (by decide)]
  addr4 := Skb.span_eq_of_take same (by decide)
  qos offset member := by
    refine Skb.byte_eq_of_take _ same ?_
    rcases List.mem_cons.mp member with rfl | member
    · decide
    · rw [List.mem_singleton.mp member]
      decide

namespace SameBlocks

theorem kind (same : SameBlocks a b) : a.frameControl &&& fcKind = b.frameControl &&& fcKind :=
  fcKind_of_inFlight same.fc

theorem hdrlen (same : SameBlocks a b) : a.hdrlen = b.hdrlen := ieee80211Hdrlen_congr same.kind

theorem qosTid (same : SameBlocks a b) : qosTid a = qosTid b := by
  have ctl : a.qosCtl = b.qosCtl := by
    rw [Skb.qosCtl, Skb.qosCtl, ieee80211HasA4_congr same.kind]
    split
    · exact same.qos 30 (by simp)
    · exact same.qos 24 (by simp)
  rw [Iwlwifi.qosTid, Iwlwifi.qosTid, ieee80211IsDataQos_congr same.kind, Skb.tid, Skb.tid, ctl]

theorem addr2 (same : SameBlocks a b) : a.addr2 = b.addr2 := by
  have inside (skb : Skb) : skb.addr2 = ((skb.span 4 18).drop 6).take 6 := by
    rw [Skb.addr2, Skb.span, Skb.span, List.drop_take, List.drop_drop, List.take_take]
    rfl
  rw [inside a, inside b, same.addresses]

theorem aad (same : SameBlocks a b) (stack : List UInt8) : aad stack a = aad stack b := by
  rw [Iwlwifi.aad, Iwlwifi.aad, aadBuf, aadBuf, maskFc_congr same.fc, same.addresses, same.frag,
    ieee80211HasA4_congr same.kind, same.addr4, same.qosTid, same.hdrlen]

theorem ccmpNonce (same : SameBlocks a b) (pn : Pn) : ccmpNonce a pn = ccmpNonce b pn := by
  rw [Iwlwifi.ccmpNonce, Iwlwifi.ccmpNonce, same.qosTid, ieee80211IsMgmt_congr same.kind,
    same.addr2]

end SameBlocks

/-! ## What the AAD protects -/

/-- The frame control bits that are protected: version, type, subtype, To DS, From DS, more
fragments and order, without the subtype bits 4 to 6 outside management frames. -/
def protectedFc (fc : Nat) : Nat := fc &&& if ieee80211IsMgmt fc then 0x87ff else 0x878f

/-- The header bits that the AAD has to authenticate. -/
structure Protected where
  frameControl : Nat
  addresses : List UInt8
  fragmentNumber : UInt8
  addr4 : List UInt8
  tid : Nat
  deriving DecidableEq

def protectedPart (skb : Skb) : Protected where
  frameControl := protectedFc skb.frameControl
  addresses := skb.span 4 18
  fragmentNumber := skb.byte 22 &&& 0x0f
  addr4 := if ieee80211IsData skb.frameControl && ieee80211HasA4 skb.frameControl then skb.addr4
    else []
  tid := qosTid skb

theorem protectedFc_congr {fc fc' : Nat} (same : fc &&& fcInFlight = fc' &&& fcInFlight) :
    protectedFc fc = protectedFc fc' := by
  rw [protectedFc, protectedFc, ← ieee80211IsMgmt_congr (fcKind_of_inFlight same)]
  split
  · exact land_eq_of_masked _ same rfl
  · exact land_eq_of_masked _ same rfl

theorem SameBlocks.protectedPart {a b : Skb} (same : SameBlocks a b) :
    protectedPart a = protectedPart b := by
  rw [Iwlwifi.protectedPart, Iwlwifi.protectedPart, protectedFc_congr same.fc, same.addresses,
    same.frag, same.addr4, ieee80211IsData_congr same.kind, ieee80211HasA4_congr same.kind,
    same.qosTid]

section Protects

variable {fc fc' mask : Nat}

/-- The masks of `mask_fc` keep these bits. -/
theorem maskFc_land (kept : 0xc78f &&& mask = mask) (unprotected : 0x4000 &&& mask = 0) :
    maskFc fc &&& mask = fc &&& mask := by
  have wide : (0xffff ^^^ (0x0800 ||| 0x1000 ||| 0x2000)) &&& mask = mask := by
    rw [← kept, ← Nat.land_assoc]
    rfl
  have narrow : (0xffff ^^^ 0x0070) &&& mask = mask := by
    rw [← kept, ← Nat.land_assoc]
    rfl
  rw [maskFc]
  rw [Nat.and_or_distrib_right, unprotected, Nat.or_zero]
  split
  · rw [Nat.land_assoc, wide]
  · rw [Nat.land_assoc, narrow, Nat.land_assoc, wide]

theorem land_eq_of_maskFc (mask : Nat) (same : maskFc fc = maskFc fc')
    (kept : 0xc78f &&& mask = mask)
    (unprotected : 0x4000 &&& mask = 0) : fc &&& mask = fc' &&& mask := by
  rw [← maskFc_land kept unprotected, same, maskFc_land kept unprotected]

theorem maskFc_lt (fc : Nat) : maskFc fc < 2 ^ 16 := by
  rw [maskFc]
  refine Nat.or_lt_two_pow ?_ (by decide)
  split
  · exact Nat.and_lt_two_pow _ (by decide)
  · exact Nat.and_lt_two_pow _ (by decide)

section Same

variable (same : maskFc fc = maskFc fc')
include same

theorem isData_of_maskFc : ieee80211IsData fc = ieee80211IsData fc' := by
  rw [ieee80211IsData, ieee80211IsData, land_eq_of_maskFc _ same rfl rfl]

theorem isMgmt_of_maskFc : ieee80211IsMgmt fc = ieee80211IsMgmt fc' := by
  rw [ieee80211IsMgmt, ieee80211IsMgmt, land_eq_of_maskFc _ same rfl rfl]

theorem isDataQos_of_maskFc : ieee80211IsDataQos fc = ieee80211IsDataQos fc' := by
  rw [ieee80211IsDataQos, ieee80211IsDataQos, land_eq_of_maskFc _ same rfl rfl]

theorem hasA4_of_maskFc : ieee80211HasA4 fc = ieee80211HasA4 fc' := by
  rw [ieee80211HasA4, ieee80211HasA4, ieee80211HasTods, ieee80211HasTods, ieee80211HasFromds,
    ieee80211HasFromds, land_eq_of_maskFc 0x100 same rfl rfl,
    land_eq_of_maskFc 0x200 same rfl rfl]

theorem hdrlen_eq_of_maskFc (type : ieee80211IsData fc = true ∨ ieee80211IsMgmt fc = true) :
    ieee80211Hdrlen fc = ieee80211Hdrlen fc' := by
  have order : ieee80211HasOrder fc = ieee80211HasOrder fc' := by
    rw [ieee80211HasOrder, ieee80211HasOrder, land_eq_of_maskFc _ same rfl rfl]
  rw [ieee80211Hdrlen, ieee80211Hdrlen, ← isData_of_maskFc same, ← isDataQos_of_maskFc same,
    ← hasA4_of_maskFc same, ← order, ← isMgmt_of_maskFc same]
  rcases type with isData | isMgmt
  · rw [if_pos isData, if_pos isData]
  · rw [if_pos isMgmt, if_pos isMgmt]

/-- The mask of the AAD keeps every bit that is protected. -/
theorem protectedFc_of_maskFc : protectedFc fc = protectedFc fc' := by
  have mgmt := isMgmt_of_maskFc same
  rw [protectedFc, protectedFc, ← mgmt]
  cases isMgmt : ieee80211IsMgmt fc with
  | false => exact land_eq_of_maskFc _ same rfl rfl
  | true =>
      rw [maskFc, maskFc, ← mgmt, isMgmt] at same
      -- the subtype bits are left in
      have kept (fc : Nat) : ((fc &&& (0xffff ^^^ (0x0800 ||| 0x1000 ||| 0x2000))) ||| 0x4000) &&&
          0x87ff = fc &&& 0x87ff := by
        rw [Nat.and_or_distrib_right, Nat.land_assoc]
        exact Nat.or_zero _
      exact (kept fc).symm.trans ((congrArg (· &&& 0x87ff) same).trans (kept fc'))

end Same

end Protects

section Aad

variable {skb : Skb} (long : 22 ≤ skb.length) (header : 24 ≤ skb.hdrlen) (stack : List UInt8)
include long

theorem span_addresses_length : (skb.span 4 18).length = 18 := by
  rw [Skb.span, List.length_take_of_le]
  rw [List.length_drop]
  omega

include header

/-- The part of an AAD that every frame has. -/
theorem take_aad : (aad stack skb).take 22 = [UInt8.ofNat (maskFc skb.frameControl),
    UInt8.ofNat (maskFc skb.frameControl / 256)] ++ skb.span 4 18 ++ [skb.byte 22 &&& 0x0f, 0] := by
  have length : ([UInt8.ofNat (maskFc skb.frameControl),
      UInt8.ofNat (maskFc skb.frameControl / 256)] ++
      skb.span 4 18 ++ [skb.byte 22 &&& 0x0f, 0]).length = 22 := by
    rw [List.length_append, List.length_append, span_addresses_length long]
    rfl
  rw [aad, List.take_take, Nat.min_eq_left (by omega), aadBuf, List.append_assoc _ _ stack]
  exact List.take_left' length

omit header in
/-- The fourth address and the TID. -/
theorem drop_aad : (aad stack skb).drop 22 =
    ((if ieee80211HasA4 skb.frameControl then skb.addr4 ++ [UInt8.ofNat (qosTid skb), 0]
      else [UInt8.ofNat (qosTid skb), 0, 0, 0, 0, 0, 0, 0]) ++ stack).take (skb.hdrlen - 24) := by
  have length : ([UInt8.ofNat (maskFc skb.frameControl),
      UInt8.ofNat (maskFc skb.frameControl / 256)] ++
      skb.span 4 18 ++ [skb.byte 22 &&& 0x0f, 0]).length = 22 := by
    rw [List.length_append, List.length_append, span_addresses_length long]
    rfl
  rw [aad, List.drop_take, aadBuf, List.append_assoc _ _ stack, List.drop_left' length,
    Nat.sub_sub]

end Aad

theorem qosTid_lt (skb : Skb) : qosTid skb < 16 := by
  rw [qosTid]
  split
  · rw [Skb.tid, UInt8.toNat_and]
    exact Nat.lt_succ_of_le Nat.and_le_right
  · decide

theorem ofNat_qosTid_injective {a b : Skb} (same : UInt8.ofNat (qosTid a) = .ofNat (qosTid b)) :
    qosTid a = qosTid b := by
  have left := qosTid_lt a
  have right := qosTid_lt b
  have values : qosTid a % 256 = qosTid b % 256 := by simpa using congrArg UInt8.toNat same
  omega

/-- The header of a data frame reaches behind the fields it has. -/
theorem le_hdrlen_of_isData {skb : Skb} (data : ieee80211IsData skb.frameControl = true) :
    (ieee80211HasA4 skb.frameControl = true → 30 ≤ skb.hdrlen) ∧
      (ieee80211IsDataQos skb.frameControl = true → 26 ≤ skb.hdrlen ∧
        (ieee80211HasA4 skb.frameControl = true → 32 ≤ skb.hdrlen)) := by
  rw [Skb.hdrlen, ieee80211Hdrlen, if_pos data]
  refine ⟨fun a4 => ?_, fun qos => ⟨?_, fun a4 => ?_⟩⟩
  · rw [if_pos a4]
    omega
  · rw [if_pos qos]
    split <;> omega
  · rw [if_pos qos, if_pos a4]
    omega

/-- Frames with one AAD agree in all it protects. -/
theorem protectedPart_eq_of_aad {a b : Skb} {stack stack' : List UInt8}
    (type : ieee80211IsData a.frameControl = true ∨ ieee80211IsMgmt a.frameControl = true)
    (long : 30 ≤ a.length) (long' : 30 ≤ b.length) (header : 24 ≤ b.hdrlen)
    (same : aad stack a = aad stack' b) : protectedPart a = protectedPart b := by
  have header' : 24 ≤ a.hdrlen := le_hdrlen type
  have front := congrArg (List.take 22) same
  have back := congrArg (List.drop 22) same
  rw [take_aad (by omega) header', take_aad (by omega) header] at front
  rw [drop_aad (by omega), drop_aad (by omega)] at back
  have lengths : ([UInt8.ofNat (maskFc a.frameControl),
      UInt8.ofNat (maskFc a.frameControl / 256)] ++
      a.span 4 18).length = ([UInt8.ofNat (maskFc b.frameControl),
        UInt8.ofNat (maskFc b.frameControl / 256)] ++ b.span 4 18).length := by
    rw [List.length_append, List.length_append, span_addresses_length (by omega),
      span_addresses_length (by omega)]
    rfl
  obtain ⟨start, frag⟩ := List.append_inj front lengths
  obtain ⟨masks, addresses⟩ := List.append_inj start rfl
  have fc : maskFc a.frameControl = maskFc b.frameControl := by
    have low : maskFc a.frameControl % 256 = maskFc b.frameControl % 256 := by
      simpa using congrArg UInt8.toNat (List.cons.inj masks).1
    have high : maskFc a.frameControl / 256 % 256 = maskFc b.frameControl / 256 % 256 := by
      simpa using congrArg UInt8.toNat (List.cons.inj (List.cons.inj masks).2).1
    have := maskFc_lt a.frameControl
    have := maskFc_lt b.frameControl
    omega
  have qos := isDataQos_of_maskFc fc
  have a4 := hasA4_of_maskFc fc
  have hdrlen : a.hdrlen = b.hdrlen := hdrlen_eq_of_maskFc fc type
  rw [a4, hdrlen] at back
  have first {stack : List UInt8} {x : UInt8} {rest : List UInt8} {n : Nat} (pos : 0 < n) :
      ((x :: rest ++ stack).take n).head? = some x := by
    rw [List.head?_take, if_neg (by omega)]
    rfl
  have addr4_length {skb : Skb} (long : 30 ≤ skb.length) : skb.addr4.length = 6 := by
    rw [Skb.addr4, Skb.span, List.length_take_of_le]
    rw [List.length_drop]
    omega
  -- the fourth address and what follows it
  have cut {skb : Skb} {stack : List UInt8} {n : Nat} (long : 30 ≤ skb.length) (reach : 6 ≤ n) :
      ((skb.addr4 ++ [UInt8.ofNat (qosTid skb), 0] ++ stack).take n).take 6 = skb.addr4 ∧
        ((skb.addr4 ++ [UInt8.ofNat (qosTid skb), 0] ++ stack).take n).drop 6 =
          ([UInt8.ofNat (qosTid skb), 0] ++ stack).take (n - 6) := by
    refine ⟨?_, ?_⟩
    · rw [List.take_take, Nat.min_eq_left reach, List.append_assoc]
      exact List.take_left' (addr4_length long)
    · rw [List.drop_take, List.append_assoc, List.drop_left' (addr4_length long)]
  have tid : qosTid a = qosTid b := by
    cases hasQos : ieee80211IsDataQos b.frameControl with
    | false =>
        rw [qosTid, qosTid, qos, hasQos]
        rfl
    | true =>
        obtain ⟨-, reaches⟩ := le_hdrlen_of_isData (ieee80211IsData_of_isDataQos hasQos)
        obtain ⟨two, eight⟩ := reaches hasQos
        refine ofNat_qosTid_injective ?_
        cases hasA4 : ieee80211HasA4 b.frameControl with
        | false =>
            rw [hasA4] at back
            have heads := congrArg List.head? back
            rw [if_neg Bool.false_ne_true, if_neg Bool.false_ne_true, first (by omega),
              first (by omega)] at heads
            exact Option.some.inj heads
        | true =>
            have more := eight hasA4
            rw [hasA4, if_pos rfl, if_pos rfl] at back
            have heads := congrArg (fun bytes => (bytes.drop 6).head?) back
            rw [(cut long (by omega)).2, (cut long' (by omega)).2, first (by omega),
              first (by omega)] at heads
            exact Option.some.inj heads
  have addr4 : (if ieee80211IsData a.frameControl && ieee80211HasA4 a.frameControl then a.addr4
      else []) = if ieee80211IsData b.frameControl && ieee80211HasA4 b.frameControl then b.addr4
      else [] := by
    rw [isData_of_maskFc fc, a4]
    split
    · next wide =>
        obtain ⟨hasData, hasA4⟩ := Bool.and_eq_true _ _ ▸ wide
        have reach := (le_hdrlen_of_isData hasData).1 hasA4
        rw [hasA4, if_pos rfl, if_pos rfl] at back
        have fronts := congrArg (List.take 6) back
        rwa [(cut long (by omega)).1, (cut long' (by omega)).1] at fronts
    · rfl
  rw [protectedPart, protectedPart, protectedFc_of_maskFc fc, addresses, (List.cons.inj frag).1,
    addr4, tid]

end Iwlwifi
