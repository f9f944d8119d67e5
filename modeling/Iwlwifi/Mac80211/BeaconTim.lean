import Iwlwifi.Lib.BoundedRead
import Mathlib.Data.Nat.Bitwise

/-!
# The traffic indication map

`__ieee80211_beacon_add_tim` of `net/mac80211/tx.c` writes the map of the stations for which frames
are buffered, and `ieee80211_check_tim` of `linux/ieee80211.h` looks a station up in it.  The writer
leaves out the bytes at both ends that are zero, the front ones in pairs, and the reader computes
from the control byte and the length of the element which bytes are there.
-/

namespace Iwlwifi.Tim

open Lib

/-! ## Writing -/

def maxAid : Nat := 2007
def maxTimLen : Nat := 251
def eidTim : UInt8 := 5

/-- What the writer uses of `struct ps_data`. -/
structure PsData where
  tim : Vector UInt8 256
  /-- The number of frames in `bc_buf`. -/
  bcBuf : Nat
  numStaPs : Int
  dtimCount : Int
  dtimBcMc : Bool

/-- A byte of the map. -/
def PsData.byte (ps : PsData) (i : Nat) : UInt8 := ps.tim.toList.getD i 0

/-- The bit that `__bss_tim_set` sets for a station. -/
def PsData.bit (ps : PsData) (id : Nat) : Bool := (ps.byte (id / 8)).toNat.testBit (id % 8)

/-- `bitmap_empty` -/
def PsData.bitmapEmpty (ps : PsData) (nbits : Nat) : Bool :=
  (List.range nbits).all fun id => !ps.bit id

/-- The count of this beacon. -/
def PsData.countDown (ps : PsData) (dtimPeriod : UInt8) (isTemplate : Bool) : PsData :=
  if isTemplate then ps
  else if ps.dtimCount = 0 then { ps with dtimCount := dtimPeriod.toNat - 1 }
  else { ps with dtimCount := ps.dtimCount - 1 }

/-- The condition of both searches. -/
def PsData.set (ps : PsData) (i : Nat) : Bool := ps.byte i != 0

/-- The first byte that is kept. -/
def PsData.n1 (ps : PsData) : Nat :=
  match (List.range maxTimLen).find? ps.set with
  | some i => i &&& 0xfe
  | none => 0

/-- The loop of the second search, before `i` is counted down. -/
def PsData.searchDown (ps : PsData) (n1 : Nat) : Nat → Nat
  | 0 => n1
  | i + 1 => if i < n1 then n1 else if ps.set i then i else ps.searchDown n1 i

/-- The last byte that is kept. -/
def PsData.n2 (ps : PsData) : Nat := ps.searchDown ps.n1 maxTimLen

/-- The bitmap control byte and the part of the map that is sent. -/
def PsData.virtualBitmap (ps : PsData) (haveBits : Bool) (aid0 : Nat) : List UInt8 :=
  if haveBits then
    .ofNat (ps.n1 ||| aid0) :: (List.range' ps.n1 (ps.n2 - ps.n1 + 1)).map ps.byte
  else [.ofNat aid0, 0]

/-- `tim[1]` -/
def PsData.timLen (ps : PsData) (haveBits : Bool) : UInt8 :=
  if haveBits then .ofNat (ps.n2 - ps.n1 + 4) else 4

/-- `__ieee80211_beacon_add_tim` -/
def beaconAddTim (ps : PsData) (dtimPeriod : UInt8) (isTemplate : Bool) : List UInt8 × PsData :=
  let haveBits := decide (0 < ps.numStaPs) && !ps.bitmapEmpty (maxAid + 1)
  let counted := ps.countDown dtimPeriod isTemplate
  let aid0 := if counted.dtimCount = 0 ∧ ps.bcBuf ≠ 0 then 1 else 0
  (eidTim :: ps.timLen haveBits :: .ofInt counted.dtimCount :: dtimPeriod ::
      ps.virtualBitmap haveBits aid0,
    { counted with dtimBcMc := aid0 == 1 })

/-! ## Reading -/

/-- `ieee80211_check_tim`, where `tim` is the buffer from the DTIM count on. -/
def checkTim (tim : Option (List UInt8)) (timLen : UInt8) (aid : UInt16) :
    BoundedRead Empty Bool :=
  match tim with
  | none => return false
  | some tim =>
      if timLen < 4 then return false
      else do
        let aid := aid &&& 0x3fff
        let index := (aid / 8).toUInt8
        let mask := (1 : UInt8) <<< (aid &&& 7).toUInt8
        let indexn1 := UInt8.ofNat (← readU8 tim 2) &&& 0xfe
        let indexn2 := timLen + indexn1 - 4
        if index < indexn1 ∨ indexn2 < index then return false
        else
          let index := index - indexn1
          let byte ← readU8 tim (3 + index.toNat)
          return UInt8.ofNat byte &&& mask != 0

/-! ## The part of the map that is sent -/

variable {ps : PsData} {i : Nat}

theorem bit_of_byte_eq_zero {id : Nat} (zero : ps.byte (id / 8) = 0) : ps.bit id = false := by
  rw [PsData.bit, zero]
  exact Nat.zero_testBit _

/-- A byte that is not zero has a bit. -/
theorem exists_bit_of_byte {b : UInt8} (nonzero : b ≠ 0) : ∃ k < 8, b.toNat.testBit k = true := by
  by_contra none
  refine nonzero (UInt8.toNat_inj.mp (Nat.eq_of_testBit_eq fun k => ?_))
  rw [UInt8.toNat_zero, Nat.zero_testBit]
  by_cases small : k < 8
  · by_contra set
    exact none ⟨k, small, Bool.eq_true_of_not_eq_false set⟩
  · refine Nat.testBit_lt_two_pow (Nat.lt_of_lt_of_le b.toNat_lt ?_)
    exact Nat.pow_le_pow_right (by decide) (by omega)

theorem bitmapEmpty_iff : ps.bitmapEmpty (maxAid + 1) = true ↔ ∀ i < maxTimLen, ps.byte i = 0 := by
  simp only [PsData.bitmapEmpty, List.all_eq_true, List.mem_range, Bool.not_eq_true']
  constructor
  · intro empty i inside
    by_contra nonzero
    obtain ⟨k, small, set⟩ := exists_bit_of_byte nonzero
    have clear := empty (8 * i + k) (by simp only [maxTimLen, maxAid] at *; omega)
    rw [PsData.bit, show (8 * i + k) / 8 = i by omega, show (8 * i + k) % 8 = k by omega,
      set] at clear
    cases clear
  · intro zero id inside
    refine bit_of_byte_eq_zero (zero _ ?_)
    simp only [maxTimLen, maxAid] at *
    omega

theorem and_fe : ∀ i < 256, i &&& 0xfe = 2 * (i / 2) := by decide +kernel

/-- What the two searches find: `n1` is even, nothing is set before `n1` and behind `n2`. -/
structure Range (ps : PsData) : Prop where
  even : ps.n1 % 2 = 0
  le : ps.n1 ≤ ps.n2
  lt : ps.n2 < maxTimLen
  before : ∀ i < ps.n1, ps.byte i = 0
  behind : ∀ i, ps.n2 < i → i < maxTimLen → ps.byte i = 0

theorem searchDown_spec {n1 n : Nat} (start : n1 < n) :
    n1 ≤ ps.searchDown n1 n ∧ ps.searchDown n1 n < n ∧
      ∀ i, ps.searchDown n1 n < i → i < n → ps.byte i = 0 := by
  induction n with
  | zero => exact absurd start (Nat.not_lt_zero _)
  | succ n ih =>
      rw [PsData.searchDown, if_neg (by omega)]
      by_cases found : ps.set n = true
      · rw [if_pos found]
        exact ⟨by omega, by omega, fun i behind inside => absurd behind (by omega)⟩
      · have zero : ps.byte n = 0 := by simpa [PsData.set] using found
        rw [if_neg found]
        by_cases more : n1 < n
        · obtain ⟨low, high, behind⟩ := ih more
          refine ⟨low, by omega, fun i past inside => ?_⟩
          by_cases last : i = n
          · exact last ▸ zero
          · exact behind i past (by omega)
        · obtain rfl : n1 = n := by omega
          have ends : ps.searchDown n1 n1 = n1 := by
            cases n1 with
            | zero => rfl
            | succ k => rw [PsData.searchDown, if_pos (by omega)]
          rw [ends]
          exact ⟨by omega, by omega, fun i past inside => absurd past (by omega)⟩

theorem range_of_not_empty (some' : ps.bitmapEmpty (maxAid + 1) = false) : Range ps := by
  have exists' : ∃ i < maxTimLen, ps.set i = true := by
    by_contra none
    rw [bitmapEmpty_iff.mpr fun i inside => ?_] at some'
    · cases some'
    · by_contra nonzero
      exact none ⟨i, inside, bne_iff_ne.mpr nonzero⟩
  obtain ⟨i, inside, set⟩ := exists'
  obtain ⟨first, found⟩ : ∃ first, (List.range maxTimLen).find? ps.set = some first :=
    Option.isSome_iff_exists.mp (List.find?_isSome.mpr ⟨i, List.mem_range.mpr inside, set⟩)
  have small : first < maxTimLen := List.mem_range.mp (List.mem_of_find?_eq_some found)
  have none : ∀ j < first, ps.byte j = 0 := by
    intro j earlier
    have not := (List.find?_range_eq_some.mp found).2.2 j earlier
    simpa [PsData.set] using not
  have n1 : ps.n1 = 2 * (first / 2) := by
    rw [PsData.n1, found]
    exact and_fe first (Nat.lt_trans small (by decide))
  obtain ⟨low, high, behind⟩ := searchDown_spec (show ps.n1 < maxTimLen by omega)
  exact ⟨by omega, low, high, fun j earlier => none j (by omega), behind⟩

/-! ## Looking a station up -/

/-- The last index that the reader expects in an element. -/
theorem indexn2_toNat (timLen n1 : UInt8) :
    (timLen + n1 - 4).toNat = (timLen.toNat + n1.toNat + 252) % 256 := by
  rw [UInt8.toNat_sub, UInt8.toNat_add]
  change (2 ^ 8 - 4 + (timLen.toNat + n1.toNat) % 2 ^ 8) % 2 ^ 8 = _
  omega

theorem mask_toNat (aid : UInt16) :
    ((1 : UInt8) <<< (aid &&& 7).toUInt8).toNat = 2 ^ (aid.toNat % 8) := by
  have low : (aid &&& 7).toNat = aid.toNat % 8 := by
    rw [UInt16.toNat_and]
    exact Nat.and_two_pow_sub_one_eq_mod _ 3
  have small : aid.toNat % 8 < 8 := Nat.mod_lt _ (by decide)
  have count : (aid &&& 7).toUInt8.toNat % 8 = aid.toNat % 8 := by
    rw [UInt16.toNat_toUInt8, low]
    omega
  have bound : 2 ^ (aid.toNat % 8) < 2 ^ 8 := Nat.pow_lt_pow_right (by decide) small
  rw [UInt8.toNat_shiftLeft, count, UInt8.toNat_one, Nat.shiftLeft_eq, Nat.one_mul]
  exact Nat.mod_eq_of_lt bound

/-- A byte and a mask of one bit. -/
theorem and_mask {b mask : UInt8} {k : Nat} (is : mask.toNat = 2 ^ k) :
    (b &&& mask != 0) = b.toNat.testBit k := by
  rw [Bool.eq_iff_iff, bne_iff_ne, ne_eq, ← UInt8.toNat_inj, UInt8.toNat_and, is, Nat.and_two_pow,
    UInt8.toNat_zero]
  cases b.toNat.testBit k with
  | false => simp
  | true => simp

/-- The first index of an element. -/
def indexn1 (tim : List UInt8) : Nat := u8At tim 2 &&& 0xfe

theorem indexn1_toNat (tim : List UInt8) :
    (UInt8.ofNat (u8At tim 2) &&& 0xfe).toNat = indexn1 tim := by
  rw [UInt8.toNat_and, UInt8.toNat_ofNat', Nat.mod_eq_of_lt (u8At_lt _ _)]
  rfl

/-- What the reader says of an element of at least four bytes. -/
theorem checkTim_eq {tim : List UInt8} {timLen : UInt8} (aid : UInt16) (four : 4 ≤ tim.length)
    (length : timLen.toNat = tim.length) :
    checkTim (some tim) timLen aid =
      .ok (decide (indexn1 tim ≤ aid.toNat % 2 ^ 14 / 8 % 256 ∧
          aid.toNat % 2 ^ 14 / 8 % 256 ≤ (tim.length + indexn1 tim + 252) % 256) &&
        (u8At tim (3 + (aid.toNat % 2 ^ 14 / 8 % 256 - indexn1 tim))).testBit (aid.toNat % 8)) := by
  have enough : ¬ timLen < 4 := by
    rw [UInt8.lt_iff_toNat_lt, length]
    exact Nat.not_lt.mpr four
  have masked : (aid &&& 0x3fff).toNat = aid.toNat % 2 ^ 14 := by
    rw [UInt16.toNat_and]
    exact Nat.and_two_pow_sub_one_eq_mod _ 14
  have index : ((aid &&& 0x3fff) / 8).toUInt8.toNat = aid.toNat % 2 ^ 14 / 8 % 256 := by
    rw [UInt16.toNat_toUInt8, UInt16.toNat_div, masked]
    rfl
  have mask : ((1 : UInt8) <<< (aid &&& 0x3fff &&& 7).toUInt8).toNat = 2 ^ (aid.toNat % 8) := by
    rw [mask_toNat, masked]
    congr 1
    omega
  have short := timLen.toNat_lt
  rw [checkTim, if_neg enough, readU8_of_le (by omega)]
  change (if ((aid &&& 0x3fff) / 8).toUInt8 < UInt8.ofNat (u8At tim 2) &&& 0xfe ∨
    timLen + (UInt8.ofNat (u8At tim 2) &&& 0xfe) - 4 < ((aid &&& 0x3fff) / 8).toUInt8 then _
    else _ : BoundedRead Empty Bool) = _
  have outside_iff : (((aid &&& 0x3fff) / 8).toUInt8 < UInt8.ofNat (u8At tim 2) &&& 0xfe ∨
      timLen + (UInt8.ofNat (u8At tim 2) &&& 0xfe) - 4 < ((aid &&& 0x3fff) / 8).toUInt8) ↔
      (aid.toNat % 2 ^ 14 / 8 % 256 < indexn1 tim ∨
        (tim.length + indexn1 tim + 252) % 256 < aid.toNat % 2 ^ 14 / 8 % 256) := by
    rw [UInt8.lt_iff_toNat_lt, UInt8.lt_iff_toNat_lt, indexn2_toNat, indexn1_toNat, index, length]
  by_cases outside : aid.toNat % 2 ^ 14 / 8 % 256 < indexn1 tim ∨
      (tim.length + indexn1 tim + 252) % 256 < aid.toNat % 2 ^ 14 / 8 % 256
  · rw [if_pos (outside_iff.mpr outside), decide_eq_false (by omega), Bool.false_and]
    rfl
  · have low : indexn1 tim ≤ aid.toNat % 2 ^ 14 / 8 % 256 := by omega
    have relative : (((aid &&& 0x3fff) / 8).toUInt8 - (UInt8.ofNat (u8At tim 2) &&& 0xfe)).toNat =
        aid.toNat % 2 ^ 14 / 8 % 256 - indexn1 tim := by
      rw [UInt8.toNat_sub_of_le, index, indexn1_toNat]
      rw [UInt8.le_iff_toNat_le, index, indexn1_toNat]
      exact low
    rw [if_neg (mt outside_iff.mp outside), relative, decide_eq_true (by omega), Bool.true_and,
      readU8_of_le (by omega)]
    change Except.ok (UInt8.ofNat (u8At tim _) &&& _ != 0) = _
    rw [and_mask mask, UInt8.toNat_ofNat', Nat.mod_eq_of_lt (u8At_lt _ _)]

/-- The reader stays in the element. -/
theorem checkTim_returns {tim : List UInt8} {timLen : UInt8} (aid : UInt16)
    (length : timLen.toNat = tim.length) : Returns (checkTim (some tim) timLen aid) := by
  by_cases four : 4 ≤ tim.length
  · exact ⟨_, checkTim_eq aid four length⟩
  · have short : timLen < 4 := by
      rw [UInt8.lt_iff_toNat_lt, length]
      exact Nat.lt_of_not_le four
    rw [checkTim, if_pos short]
    exact returns_ok _

/-! ## Writing and looking up -/

/-- The control byte: the broadcast bit does not disturb the first index. -/
theorem control : ∀ n < 256, n % 2 = 0 → ∀ aid0 < 2, (n ||| aid0) < 256 ∧
    (n ||| aid0) &&& 0xfe = n ∧ ((n ||| aid0).testBit 0 = true ↔ aid0 = 1) := by decide +kernel

theorem byte_getD (k : Nat) {n1 n : Nat} (inside : k < n) :
    u8At ((List.range' n1 n).map ps.byte) k = (ps.byte (n1 + k)).toNat := by
  rw [u8At, List.getD_eq_getElem?_getD, List.getElem?_map, List.getElem?_range' inside, Nat.one_mul]
  rfl

section Element

variable {aid0 : Nat} {count period : UInt8} {aid : UInt16}

/-- What is written where something is set. -/
theorem lookup_of_set (range : Range ps) (small : aid0 < 2) (legal : aid.toNat ≤ maxAid) :
    checkTim (some (count :: period :: ps.virtualBitmap true aid0)) (ps.timLen true) aid =
      .ok (ps.bit aid.toNat) := by
  have bound := range.lt
  have le := range.le
  change aid.toNat ≤ 2007 at legal
  change ps.n2 < 251 at bound
  obtain ⟨byte, first, -⟩ := control ps.n1 (by omega) range.even aid0 small
  have long : (count :: period :: ps.virtualBitmap true aid0).length = ps.n2 - ps.n1 + 4 := by
    change ((List.range' ps.n1 (ps.n2 - ps.n1 + 1)).map ps.byte).length + 1 + 1 + 1 = _
    rw [List.length_map, List.length_range']
  have length : (ps.timLen true).toNat =
      (count :: period :: ps.virtualBitmap true aid0).length := by
    rw [long]
    change (UInt8.ofNat (ps.n2 - ps.n1 + 4)).toNat = _
    rw [UInt8.toNat_ofNat', Nat.mod_eq_of_lt (by omega)]
  have start : indexn1 (count :: period :: ps.virtualBitmap true aid0) = ps.n1 := by
    change (UInt8.ofNat (ps.n1 ||| aid0)).toNat &&& 0xfe = ps.n1
    rw [UInt8.toNat_ofNat', Nat.mod_eq_of_lt byte, first]
  have index : aid.toNat % 2 ^ 14 / 8 % 256 = aid.toNat / 8 := by omega
  have stop : (ps.n2 - ps.n1 + 4 + ps.n1 + 252) % 256 = ps.n2 := by omega
  rw [checkTim_eq aid (by omega) length, start, long, index, stop]
  by_cases inside : ps.n1 ≤ aid.toNat / 8 ∧ aid.toNat / 8 ≤ ps.n2
  · rw [decide_eq_true inside, Bool.true_and, Nat.add_comm 3]
    change Except.ok ((u8At ((List.range' ps.n1 (ps.n2 - ps.n1 + 1)).map ps.byte)
      (aid.toNat / 8 - ps.n1)).testBit _) = _
    rw [byte_getD _ (by omega), Nat.add_sub_cancel' inside.1]
    rfl
  · rw [decide_eq_false inside, Bool.false_and, bit_of_byte_eq_zero]
    by_cases low : aid.toNat / 8 < ps.n1
    · exact range.before _ low
    · exact range.behind _ (by omega) (by change aid.toNat / 8 < 251; omega)

/-- What is written where nothing is set. -/
theorem lookup_of_empty (empty : ps.bitmapEmpty (maxAid + 1) = true) (small : aid0 < 2)
    (legal : aid.toNat ≤ maxAid) :
    checkTim (some (count :: period :: ps.virtualBitmap false aid0)) (ps.timLen false) aid =
      .ok (ps.bit aid.toNat) := by
  change aid.toNat ≤ 2007 at legal
  have clear : ps.bit aid.toNat = false :=
    bit_of_byte_eq_zero (bitmapEmpty_iff.mp empty _ (by change aid.toNat / 8 < 251; omega))
  have start : indexn1 (count :: period :: ps.virtualBitmap false aid0) = 0 := by
    obtain ⟨byte, first, -⟩ := control 0 (by decide) rfl aid0 small
    rw [Nat.zero_or] at byte first
    change (UInt8.ofNat aid0).toNat &&& 0xfe = 0
    rw [UInt8.toNat_ofNat', Nat.mod_eq_of_lt byte, first]
  have four : 4 ≤ (count :: period :: ps.virtualBitmap false aid0).length := Nat.le_refl 4
  have stop : ((count :: period :: ps.virtualBitmap false aid0).length + 0 + 252) % 256 = 0 := by
    change (4 + 0 + 252) % 256 = 0
    rfl
  rw [checkTim_eq aid four rfl, start, clear, stop]
  by_cases inside : aid.toNat / 8 = 0
  · have read : u8At (count :: period :: ps.virtualBitmap false aid0)
        (3 + (aid.toNat % 2 ^ 14 / 8 % 256 - 0)) = 0 := by
      rw [show aid.toNat % 2 ^ 14 / 8 % 256 - 0 = 0 by omega]
      rfl
    rw [read, Nat.zero_testBit, Bool.and_false]
  · rw [decide_eq_false (by omega), Bool.false_and]

end Element

/-- The element is well-formed, every station finds its bit in it, and the broadcast bit tells of
the frames that follow the beacon. -/
def Agrees (ps : PsData) (dtimPeriod : UInt8) (isTemplate : Bool) : Prop :=
  ∃ timLen tim, (beaconAddTim ps dtimPeriod isTemplate).1 = eidTim :: timLen :: tim ∧
    timLen.toNat = tim.length ∧ 4 ≤ tim.length ∧
    tim.take 2 = [.ofInt (beaconAddTim ps dtimPeriod isTemplate).2.dtimCount, dtimPeriod] ∧
    (∀ aid : UInt16, 1 ≤ aid.toNat → aid.toNat ≤ maxAid →
      checkTim (some tim) timLen aid = .ok (ps.bit aid.toNat)) ∧
    ((u8At tim 2).testBit 0 = true ↔
      (beaconAddTim ps dtimPeriod isTemplate).2.dtimCount = 0 ∧ ps.bcBuf ≠ 0)

theorem control_of_bitmap (haveBits : Bool) {aid0 : Nat} {count period : UInt8}
    (range : haveBits = true → Range ps) (small : aid0 < 2) :
    ((u8At (count :: period :: ps.virtualBitmap haveBits aid0) 2).testBit 0 = true ↔ aid0 = 1) := by
  cases haveBits with
  | true =>
      have bound := (range rfl).lt
      have le := (range rfl).le
      change ps.n2 < 251 at bound
      obtain ⟨byte, -, flag⟩ := control ps.n1 (by omega) (range rfl).even aid0 small
      change (UInt8.ofNat (ps.n1 ||| aid0)).toNat.testBit 0 = true ↔ _
      rw [UInt8.toNat_ofNat', Nat.mod_eq_of_lt byte, flag]
  | false =>
      obtain ⟨byte, -, flag⟩ := control 0 (by decide) rfl aid0 small
      rw [Nat.zero_or] at byte flag
      change (UInt8.ofNat aid0).toNat.testBit 0 = true ↔ _
      rw [UInt8.toNat_ofNat', Nat.mod_eq_of_lt byte, flag]

theorem length_of_bitmap (haveBits : Bool) {aid0 : Nat} {count period : UInt8}
    (range : haveBits = true → Range ps) :
    (ps.timLen haveBits).toNat = (count :: period :: ps.virtualBitmap haveBits aid0).length ∧
      4 ≤ (count :: period :: ps.virtualBitmap haveBits aid0).length := by
  cases haveBits with
  | true =>
      have bound := (range rfl).lt
      change ps.n2 < 251 at bound
      have long : (count :: period :: ps.virtualBitmap true aid0).length = ps.n2 - ps.n1 + 4 := by
        change ((List.range' ps.n1 (ps.n2 - ps.n1 + 1)).map ps.byte).length + 1 + 1 + 1 = _
        rw [List.length_map, List.length_range']
      rw [long]
      refine ⟨?_, by omega⟩
      change (UInt8.ofNat (ps.n2 - ps.n1 + 4)).toNat = _
      rw [UInt8.toNat_ofNat', Nat.mod_eq_of_lt (by omega)]
  | false => exact ⟨rfl, Nat.le_refl 4⟩

/-- The reader stays in an element whatever its length and content. -/
def StaysInside : Prop :=
  ∀ (tim : List UInt8) (timLen : UInt8) (aid : UInt16), timLen.toNat = tim.length →
    Returns (checkTim (some tim) timLen aid)

/-- Where a station sleeps, writer and reader of the map agree, and the reader stays in any element
at all. -/
theorem tim_agrees (ps : PsData) (dtimPeriod : UInt8) (isTemplate : Bool)
    (asleep : 0 < ps.numStaPs) :
    Agrees ps dtimPeriod isTemplate ∧ StaysInside := by
  refine ⟨?_, fun tim timLen aid length => checkTim_returns aid length⟩
  have bits : (decide (0 < ps.numStaPs) && !ps.bitmapEmpty (maxAid + 1)) =
      !ps.bitmapEmpty (maxAid + 1) := by rw [decide_eq_true asleep, Bool.true_and]
  have range : (!ps.bitmapEmpty (maxAid + 1)) = true → Range ps := fun set =>
    range_of_not_empty (by simpa using set)
  have small : (if (ps.countDown dtimPeriod isTemplate).dtimCount = 0 ∧ ps.bcBuf ≠ 0 then 1
      else 0) < 2 := by split <;> decide
  rw [Agrees, beaconAddTim, bits]
  obtain ⟨length, four⟩ := length_of_bitmap (!ps.bitmapEmpty (maxAid + 1)) range
  refine ⟨_, _, rfl, length, four, rfl, fun aid _ legal => ?_, ?_⟩
  · cases empty : ps.bitmapEmpty (maxAid + 1) with
    | true => exact lookup_of_empty empty small legal
    | false => exact lookup_of_set (range_of_not_empty empty) small legal
  · rw [control_of_bitmap _ range small]
    constructor
    · intro one
      by_contra not
      rw [if_neg not] at one
      cases one
    · exact fun both => if_pos both

/-- The stations 5 and 17 are asleep and frames are buffered for them and for all. -/
def dozing : PsData where
  tim := ((Vector.replicate 256 0).set 0 0x20).set 2 0x02
  bcBuf := 1
  numStaPs := 2
  dtimCount := 1
  dtimBcMc := false

theorem tim_agrees_dozing : 0 < dozing.numStaPs ∧ Agrees dozing 2 false ∧ StaysInside :=
  ⟨by decide, tim_agrees dozing 2 false (by decide)⟩

end Iwlwifi.Tim
