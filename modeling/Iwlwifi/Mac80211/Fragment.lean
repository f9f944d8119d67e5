import Iwlwifi.Lib.Overwrite
import Iwlwifi.Mac80211.Defragment

/-!
# Fragmentation

`ieee80211_fragment` and `ieee80211_tx_h_fragment` of `net/mac80211/tx.c`.  The first fragment is
the frame itself, cut off; the others get a copy of the header before the more fragments bit and
the fragment number are written into it.  The lemmas behind the functions say what the two marks
leave alone: everything that is read of a header but themselves.
-/

namespace Iwlwifi.Frag

open Lib

/-! ## The source -/

/-- What is read and written of `struct ieee80211_tx_info`. -/
structure TxInfo where
  dontfrag : Bool
  ampdu : Bool
  clearPsFilt : Bool
  firstFragment : Bool
  moreFrames : Bool
  rateCtrlProbe : Bool
  /-- `control.rates[].idx` -/
  rates : List Int

/-- An skb of `tx->skbs`. -/
structure TxSkb where
  bytes : Skb
  info : TxInfo

structure Device where
  supportsTxFrag : Bool
  fragThreshold : Nat
  /-- Whether the allocation with a number succeeds. -/
  allocated : Nat → Bool

/-- The loop of `ieee80211_fragment`; `n` is the number of the next allocation. -/
def fragmentLoop (allocated : Nat → Bool) (skb : TxSkb) (hdrlen perFragm : Nat) :
    Nat → Nat → Nat → Nat → Option (Except Unit (List TxSkb))
  | _, _, _, 0 => some (.ok [])
  | 0, _, _, _ + 1 => none
  | fuel + 1, n, pos, rem + 1 =>
      let fraglen := min perFragm (rem + 1)
      let left := rem + 1 - fraglen
      let tmp : TxSkb :=
        { bytes := skb.bytes.take hdrlen ++ window skb.bytes pos fraglen
          info := { skb.info with
            clearPsFilt := false
            firstFragment := false
            moreFrames := skb.info.moreFrames || left != 0 } }
      if !allocated n then some (.error ())
      else
        (fragmentLoop allocated skb hdrlen perFragm fuel (n + 1) (pos + fraglen) left).map
          (·.map (tmp :: ·))

/-- `ieee80211_fragment`: the list `tx->skbs` afterwards. -/
def ieee80211Fragment (dev : Device) (skb : TxSkb) (hdrlen : Nat) :
    Option (Except Unit (List TxSkb)) :=
  let perFragm := dev.fragThreshold - hdrlen - 4
  let pos := hdrlen + perFragm
  if skb.bytes.length < pos then some (.error ())
  else
    (fragmentLoop dev.allocated skb hdrlen perFragm skb.bytes.length 0 pos
        (skb.bytes.length - pos)).map
      (·.map ({ skb with bytes := skb.bytes.take pos } :: ·))

/-- `hdr->frame_control |= morefrags` -/
def setMorefrags (skb : Skb) : Skb := skb.set 1 (skb.byte 1 ||| 0x04)

/-- `hdr->frame_control &= ~morefrags` -/
def clearMorefrags (skb : Skb) : Skb := skb.set 1 (skb.byte 1 &&& 0xfb)

/-- `hdr->seq_ctrl |= cpu_to_le16(fragnum & IEEE80211_SCTL_FRAG)` -/
def orFragnum (skb : Skb) (fragnum : Nat) : Skb :=
  skb.set 22 (skb.byte 22 ||| .ofNat (fragnum % 16))

/-- The walk over `tx->skbs`. -/
def markFragments : Nat → List TxSkb → List TxSkb
  | _, [] => []
  | fragnum, [skb] => [{ skb with bytes := orFragnum (clearMorefrags skb.bytes) fragnum }]
  | fragnum, skb :: next :: skbs =>
      { bytes := orFragnum (setMorefrags skb.bytes) fragnum
        info := { skb.info with
          rateCtrlProbe := false
          rates := skb.info.rates.take 1 ++ [-1, -1, -1] } } ::
        markFragments (fragnum + 1) (next :: skbs)

inductive TxResult
  | cont (skbs : List TxSkb)
  | drop

/-- `ieee80211_tx_h_fragment` -/
def ieee80211TxHFragment (dev : Device) (skb : TxSkb) : Option TxResult :=
  if skb.info.dontfrag then some (.cont [skb])
  else if dev.supportsTxFrag then some (.cont [skb])
  else if skb.info.ampdu then some .drop
  else
    let hdrlen := skb.bytes.hdrlen
    if skb.bytes.length + 4 ≤ dev.fragThreshold then some .drop
    else
      match ieee80211Fragment dev skb hdrlen with
      | none => none
      | some (.error ()) => some .drop
      | some (.ok skbs) => some (.cont (markFragments 0 skbs))

/-! ## The bits of two bytes -/

theorem testBit_le16 (low high : UInt8) (i : Nat) :
    (low.toNat + 256 * high.toNat).testBit i =
      if i < 8 then low.toNat.testBit i else high.toNat.testBit (i - 8) := by
  rw [Nat.add_comm]
  exact Nat.testBit_two_pow_mul_add _ low.toNat_lt i

theorem testBit_or_four (byte : UInt8) (i : Nat) :
    (byte ||| 0x04).toNat.testBit i = (byte.toNat.testBit i || decide (2 = i)) := by
  rw [UInt8.toNat_or, Nat.testBit_or]
  congr 1
  exact @Nat.testBit_two_pow 2 i

theorem testBit_and_not_four (byte : UInt8) (i : Nat) :
    (byte &&& 0xfb).toNat.testBit i = (byte.toNat.testBit i && decide (2 ≠ i)) := by
  have inside : ∀ i < 8, Nat.testBit 0xfb i = decide (2 ≠ i) := by decide
  rw [UInt8.toNat_and, Nat.testBit_and]
  rcases Nat.lt_or_ge i 8 with small | large
  · congr 1
    exact inside i small
  · have word : byte.toNat < 2 ^ i :=
      Nat.lt_of_lt_of_le byte.toNat_lt (Nat.pow_le_pow_right (by decide) large)
    rw [Nat.testBit_lt_two_pow word, Bool.false_and, Bool.false_and]

/-! ## What the marks leave alone -/

section Marks

variable {skb : Skb}

/-- A mark writes one byte. -/
theorem byte_set_of_ne {ofs i : Nat} (value : UInt8) (other : ofs ≠ i) :
    Skb.byte (skb.set ofs value) i = skb.byte i := by
  rw [Skb.byte, Skb.byte, List.getD_eq_getElem?_getD, List.getD_eq_getElem?_getD,
    List.getElem?_set_ne other]

theorem byte_set_self {ofs : Nat} (value : UInt8) (inside : ofs < skb.length) :
    Skb.byte (skb.set ofs value) ofs = value := by
  rw [Skb.byte, List.getD_eq_getElem?_getD, List.getElem?_set_self inside, Option.getD_some]

theorem frameControl_orFragnum (fragnum : Nat) :
    (orFragnum skb fragnum).frameControl = skb.frameControl := by
  rw [Skb.frameControl, Skb.frameControl, orFragnum, byte_set_of_ne _ (by decide),
    byte_set_of_ne _ (by decide)]

/-- Bit by bit, a frame control with another second byte. -/
theorem kind_of_set {value : UInt8} (inside : 1 < skb.length)
    (same : ∀ i, i ≠ 2 → value.toNat.testBit i = (skb.byte 1).toNat.testBit i) :
    Skb.frameControl (skb.set 1 value) &&& fcKind = skb.frameControl &&& fcKind := by
  have clear : fcKind.testBit 10 = false := by decide
  refine Nat.eq_of_testBit_eq fun i => ?_
  rw [Nat.testBit_and, Nat.testBit_and, Skb.frameControl, Skb.frameControl,
    byte_set_self value inside, byte_set_of_ne value (by decide), testBit_le16, testBit_le16]
  by_cases more : i = 10
  · rw [more, clear, Bool.and_false, Bool.and_false]
  · split
    · rfl
    · rw [same (i - 8) (by omega)]

theorem kind_setMorefrags (inside : 1 < skb.length) :
    (setMorefrags skb).frameControl &&& fcKind = skb.frameControl &&& fcKind := by
  refine kind_of_set inside fun i other => ?_
  rw [testBit_or_four, decide_eq_false (Ne.symm other), Bool.or_false]

theorem kind_clearMorefrags (inside : 1 < skb.length) :
    (clearMorefrags skb).frameControl &&& fcKind = skb.frameControl &&& fcKind := by
  refine kind_of_set inside fun i other => ?_
  rw [testBit_and_not_four, decide_eq_true (Ne.symm other), Bool.and_true]

/-- The more fragments bit is the third of the second byte. -/
theorem hasMorefrags_eq :
    ieee80211HasMorefrags skb.frameControl = (skb.byte 1).toNat.testBit 2 := by
  have bit : skb.frameControl.testBit 10 = (skb.byte 1).toNat.testBit 2 := by
    rw [Skb.frameControl, testBit_le16]
    rfl
  have masked : skb.frameControl &&& 0x0400 = (skb.frameControl.testBit 10).toNat * 0x0400 :=
    Nat.and_two_pow _ 10
  rw [ieee80211HasMorefrags, masked, ← bit]
  cases skb.frameControl.testBit 10 <;> rfl

theorem hasMorefrags_setMorefrags (inside : 1 < skb.length) :
    ieee80211HasMorefrags (setMorefrags skb).frameControl = true := by
  rw [hasMorefrags_eq, setMorefrags, byte_set_self _ inside, testBit_or_four]
  simp

theorem hasMorefrags_clearMorefrags (inside : 1 < skb.length) :
    ieee80211HasMorefrags (clearMorefrags skb).frameControl = false := by
  rw [hasMorefrags_eq, clearMorefrags, byte_set_self _ inside, testBit_and_not_four]
  simp

/-- A number is written where there was none. -/
theorem seqCtrl_orFragnum {fragnum : Nat} (inside : 22 < skb.length) (none : skb.frag = 0)
    (small : fragnum < 16) : (orFragnum skb fragnum).seqCtrl = skb.seqCtrl + fragnum := by
  have low : (skb.byte 22).toNat % 16 = 0 := by
    have masked : skb.seqCtrl % 2 ^ 4 = 0 := by rw [← Nat.and_two_pow_sub_one_eq_mod]; exact none
    rw [Skb.seqCtrl] at masked
    omega
  have sum : (skb.byte 22 ||| .ofNat (fragnum % 16)).toNat = (skb.byte 22).toNat + fragnum := by
    have split : (skb.byte 22).toNat = 2 ^ 4 * ((skb.byte 22).toNat / 16) := by omega
    have number : (UInt8.ofNat (fragnum % 16)).toNat = fragnum := by
      rw [UInt8.toNat_ofNat']
      omega
    rw [UInt8.toNat_or, number, split, ← Nat.two_pow_add_eq_or_of_lt small]
  rw [Skb.seqCtrl, Skb.seqCtrl, orFragnum, byte_set_self _ inside, byte_set_of_ne _ (by decide),
    sum]
  omega

end Marks

end Iwlwifi.Frag
