import Mathlib.Tactic.Ring
import Mathlib.Data.Nat.Bitwise

/-!
# Frame control and sequence numbers

The inline helpers of `include/linux/ieee80211.h` that the receive path uses.
A frame control or a sequence number is a `u16` of the source and a natural number
here; where C converts an `int` back to `u16` the conversion is written out with
`u16`.

A sequence number lives on a circle of 4096 positions.  Everything the receive path
decides is decided by the distance `ieee80211SnSub sn head` from one position to
another, so the two comparisons are restated in that distance
(`ieee80211SnLess_iff`) and the later modules reason about distances only.
-/

namespace Iwlwifi

/-! ## Frame control -/

def ieee80211FctlFtype : Nat := 0x000c
def ieee80211FctlStype : Nat := 0x00f0
def ieee80211FctlRetry : Nat := 0x0800
def ieee80211FtypeMgmt : Nat := 0x0000
def ieee80211FtypeCtl : Nat := 0x0004
def ieee80211FtypeData : Nat := 0x0008
def ieee80211StypeBackReq : Nat := 0x0080
def ieee80211StypeQosData : Nat := 0x0080
def ieee80211StypeQosNullfunc : Nat := 0x00c0

def ieee80211HasRetry (fc : Nat) : Bool :=
  fc &&& ieee80211FctlRetry != 0

def ieee80211IsCtl (fc : Nat) : Bool :=
  fc &&& ieee80211FctlFtype == ieee80211FtypeCtl

def ieee80211IsMgmt (fc : Nat) : Bool :=
  fc &&& ieee80211FctlFtype == ieee80211FtypeMgmt

def ieee80211IsData (fc : Nat) : Bool :=
  fc &&& ieee80211FctlFtype == ieee80211FtypeData

def ieee80211IsDataQos (fc : Nat) : Bool :=
  fc &&& (ieee80211FctlFtype ||| ieee80211StypeQosData) ==
    ieee80211FtypeData ||| ieee80211StypeQosData

/-- Only true for the data subtypes that carry data: bit `0x40` is clear. -/
def ieee80211IsDataPresent (fc : Nat) : Bool :=
  fc &&& (ieee80211FctlFtype ||| 0x40) == ieee80211FtypeData

def ieee80211IsBackReq (fc : Nat) : Bool :=
  fc &&& (ieee80211FctlFtype ||| ieee80211FctlStype) ==
    ieee80211FtypeCtl ||| ieee80211StypeBackReq

def ieee80211IsQosNullfunc (fc : Nat) : Bool :=
  fc &&& (ieee80211FctlFtype ||| ieee80211FctlStype) ==
    ieee80211FtypeData ||| ieee80211StypeQosNullfunc

def ieee80211HasTods (fc : Nat) : Bool :=
  fc &&& 0x0100 != 0

def ieee80211HasFromds (fc : Nat) : Bool :=
  fc &&& 0x0200 != 0

def ieee80211HasA4 (fc : Nat) : Bool :=
  ieee80211HasTods fc && ieee80211HasFromds fc

def ieee80211HasMorefrags (fc : Nat) : Bool :=
  fc &&& 0x0400 != 0

def ieee80211HasProtected (fc : Nat) : Bool :=
  fc &&& 0x4000 != 0

def ieee80211HasOrder (fc : Nat) : Bool :=
  fc &&& 0x8000 != 0

/-- The length of the header a frame control calls for; `net/wireless/util.c`. -/
def ieee80211Hdrlen (fc : Nat) : Nat :=
  if ieee80211IsData fc then
    (if ieee80211HasA4 fc then 30 else 24) +
      (if ieee80211IsDataQos fc then 2 + if ieee80211HasOrder fc then 4 else 0 else 0)
  else if ieee80211IsMgmt fc then 24 + if ieee80211HasOrder fc then 4 else 0
  else if ieee80211IsCtl fc then if fc &&& 0x00e0 == 0x00c0 then 10 else 16
  else 24

/-- The type bits of a frame control that satisfies a wider mask test. -/
private theorem ftype_of_masked {fc mask value : Nat}
    (masked : fc &&& (ieee80211FctlFtype ||| mask) = value) :
    fc &&& ieee80211FctlFtype = value &&& ieee80211FctlFtype := by
  rw [← masked, Nat.land_assoc]
  congr 1
  exact Nat.eq_of_testBit_eq fun i => by
    simp only [Nat.testBit_and, Nat.testBit_or]
    cases Nat.testBit ieee80211FctlFtype i <;> simp

theorem ieee80211IsData_of_isDataQos {fc : Nat} (qos : ieee80211IsDataQos fc = true) :
    ieee80211IsData fc = true := by
  simp only [ieee80211IsDataQos, beq_iff_eq] at qos
  simp only [ieee80211IsData, beq_iff_eq]
  rw [ftype_of_masked qos]
  rfl

theorem ieee80211IsData_of_isDataPresent {fc : Nat} (present : ieee80211IsDataPresent fc = true) :
    ieee80211IsData fc = true := by
  simp only [ieee80211IsDataPresent, beq_iff_eq] at present
  simp only [ieee80211IsData, beq_iff_eq]
  rw [ftype_of_masked present]
  rfl

/-- A block-ack request is a control frame, so it never counts as carrying data. -/
theorem ieee80211IsDataPresent_of_isBackReq {fc : Nat} (bar : ieee80211IsBackReq fc = true) :
    ieee80211IsDataPresent fc = false := by
  simp only [ieee80211IsBackReq, beq_iff_eq] at bar
  simp only [ieee80211IsDataPresent, beq_eq_false_iff_ne]
  intro present
  have types := (ftype_of_masked bar).symm.trans (ftype_of_masked present)
  exact absurd types (by decide)

/-- Two frame controls that agree under a mask agree under every part of it. -/
theorem land_eq_of_masked {fc fc' mask : Nat} (part : Nat) (same : fc &&& mask = fc' &&& mask)
    (within : mask &&& part = part) : fc &&& part = fc' &&& part := by
  rw [← within, ← Nat.land_assoc, same, Nat.land_assoc]

/-- Everything but the more fragments, retry, power management and more data bits: what kind of
frame it is, and how long its header. -/
def fcKind : Nat := 0xc3ff

section Kind

variable {fc fc' : Nat} (same : fc &&& fcKind = fc' &&& fcKind)
include same

theorem ieee80211IsData_congr : ieee80211IsData fc = ieee80211IsData fc' := by
  rw [ieee80211IsData, ieee80211IsData, land_eq_of_masked _ same rfl]

theorem ieee80211IsMgmt_congr : ieee80211IsMgmt fc = ieee80211IsMgmt fc' := by
  rw [ieee80211IsMgmt, ieee80211IsMgmt, land_eq_of_masked _ same rfl]

theorem ieee80211IsCtl_congr : ieee80211IsCtl fc = ieee80211IsCtl fc' := by
  rw [ieee80211IsCtl, ieee80211IsCtl, land_eq_of_masked _ same rfl]

theorem ieee80211IsDataQos_congr : ieee80211IsDataQos fc = ieee80211IsDataQos fc' := by
  rw [ieee80211IsDataQos, ieee80211IsDataQos, land_eq_of_masked _ same rfl]

theorem ieee80211HasProtected_congr : ieee80211HasProtected fc = ieee80211HasProtected fc' := by
  rw [ieee80211HasProtected, ieee80211HasProtected, land_eq_of_masked _ same rfl]

theorem ieee80211HasA4_congr : ieee80211HasA4 fc = ieee80211HasA4 fc' := by
  rw [ieee80211HasA4, ieee80211HasA4, ieee80211HasTods, ieee80211HasTods, ieee80211HasFromds,
    ieee80211HasFromds, land_eq_of_masked 0x100 same rfl,
    land_eq_of_masked 0x200 same rfl]

theorem ieee80211Hdrlen_congr : ieee80211Hdrlen fc = ieee80211Hdrlen fc' := by
  rw [ieee80211Hdrlen, ieee80211Hdrlen, ieee80211IsData_congr same, ieee80211IsMgmt_congr same,
    ieee80211IsDataQos_congr same, ieee80211HasA4_congr same, ieee80211HasOrder,
    ieee80211HasOrder, land_eq_of_masked 0x8000 same rfl, ieee80211IsCtl_congr same,
    land_eq_of_masked 0xe0 same rfl]

end Kind

/-- The frames that are protected or fragmented have a header of 24 bytes at least. -/
theorem le_hdrlen {fc : Nat} (type : ieee80211IsData fc = true ∨ ieee80211IsMgmt fc = true) :
    24 ≤ ieee80211Hdrlen fc := by
  rw [ieee80211Hdrlen]
  rcases type with data | mgmt
  · rw [if_pos data]
    split <;> omega
  · split
    · split <;> omega
    · omega

/-! ## Sequence numbers -/

/-- Conversion of a C `int` to `u16`. -/
def u16 (x : Int) : Nat := (x % 65536).toNat

/-- `((sn1 - sn2) & IEEE80211_SN_MASK) > (IEEE80211_SN_MODULO >> 1)`; masking the
low twelve bits of a two's complement difference is the remainder modulo 4096. -/
def ieee80211SnLess (sn1 sn2 : Nat) : Bool :=
  decide (((sn1 : Int) - sn2) % 4096 > 2048)

def ieee80211SnAdd (sn1 sn2 : Nat) : Nat := (sn1 + sn2) % 4096

def ieee80211SnInc (sn : Nat) : Nat := ieee80211SnAdd sn 1

def ieee80211SnSub (sn1 sn2 : Nat) : Nat := (((sn1 : Int) - sn2) % 4096).toNat

section Distance

variable {a b c h k sn bufSize : Nat}

theorem ieee80211SnSub_lt : ieee80211SnSub a b < 4096 := by
  unfold ieee80211SnSub
  omega

@[simp] theorem ieee80211SnSub_self : ieee80211SnSub a a = 0 := by
  simp [ieee80211SnSub]

theorem ieee80211SnAdd_lt : ieee80211SnAdd a b < 4096 := by
  unfold ieee80211SnAdd
  omega

theorem ieee80211SnInc_lt : ieee80211SnInc a < 4096 := ieee80211SnAdd_lt

theorem ieee80211SnLess_iff : ieee80211SnLess a b = true ↔ 2048 < ieee80211SnSub a b := by
  simp only [ieee80211SnLess, ieee80211SnSub, decide_eq_true_eq]
  omega

theorem ieee80211SnLess_eq_false_iff :
    ieee80211SnLess a b = false ↔ ieee80211SnSub a b ≤ 2048 := by
  rw [← Bool.not_eq_true, ieee80211SnLess_iff]
  omega

/-- The way from `a` to `c` through `b`. -/
theorem ieee80211SnSub_trans :
    ieee80211SnSub c a = (ieee80211SnSub c b + ieee80211SnSub b a) % 4096 := by
  simp only [ieee80211SnSub]
  omega

theorem ieee80211SnSub_swap :
    ieee80211SnSub b a = (4096 - ieee80211SnSub a b) % 4096 := by
  simp only [ieee80211SnSub]
  omega

theorem ieee80211SnSub_snAdd (small : k < 4096) :
    ieee80211SnSub (ieee80211SnAdd h k) h = k := by
  simp only [ieee80211SnSub, ieee80211SnAdd]
  omega

/-- Stepping past a position brings everything after it one closer. -/
theorem ieee80211SnSub_snInc (ahead : 0 < ieee80211SnSub a h) :
    ieee80211SnSub a (ieee80211SnInc h) = ieee80211SnSub a h - 1 := by
  simp only [ieee80211SnSub, ieee80211SnInc, ieee80211SnAdd] at *
  omega

theorem ieee80211SnSub_snInc_self : ieee80211SnSub (ieee80211SnInc h) h = 1 :=
  ieee80211SnSub_snAdd (by decide)

/-- A sequence number at distance `k` from `h` is `h + k` on the circle. -/
theorem mod_of_ieee80211SnSub (small : sn < 4096) :
    sn = (h + ieee80211SnSub sn h) % 4096 := by
  simp only [ieee80211SnSub]
  omega

end Distance

end Iwlwifi
