import Iwlwifi.Ieee80211
import Iwlwifi.Mvm.TimingMeasurement

/-!
# The timing measurement indication

`iwl_mvm_rx_legacy_timing_measurement_notif` makes an action frame of the firmware's notification
about a timing measurement: a header, and behind it the vendor specific elements that came with the
measurement.  Built with `CPTCFG_IWLWIFI_WFA_SPECIFIC` it also converts the time of arrival to the
system time, with `get_system_time_corresponding_to_ts`.

The build option is a parameter (`wfa`).  What lies in the notification from its vendor specific
element on is a function of the offset.
-/

namespace Iwlwifi

/-! ## The system time of a device time -/

/-- `get_system_time_corresponding_to_ts` -/
def TimeState.systemTimeOf (time : TimeState) (timeStamp : UInt64) : UInt64 :=
  if time.lastGP2Ns > timeStamp then
    -- GP2 has wrapped
    time.lastSystemTimeNs + (timeStamp + (0xFFFFFFFFFFFFFFFF - time.lastGP2Ns)) +
      time.error.toUInt64
  else time.lastSystemTimeNs + (timeStamp - time.lastGP2Ns) + time.error.toUInt64

/-- The part of the conversion that does not depend on the time stamp. -/
def TimeState.timeOffset (time : TimeState) : UInt64 :=
  time.lastSystemTimeNs - time.lastGP2Ns + time.error.toUInt64

/-- Before the last sample the conversion is one nanosecond short. -/
theorem TimeState.systemTimeOf_eq (time : TimeState) (timeStamp : UInt64) :
    time.systemTimeOf timeStamp =
      timeStamp + time.timeOffset - (if timeStamp < time.lastGP2Ns then 1 else 0) := by
  have allOnes : (0xFFFFFFFFFFFFFFFF : UInt64) = -1 := rfl
  rw [systemTimeOf, timeOffset, allOnes]
  by_cases before : timeStamp < time.lastGP2Ns
  · rw [if_pos before, if_pos before]
    grind
  · rw [if_neg before, if_neg before]
    grind

/-- The difference of two converted times is that of the device times exactly if both are before
the last sample or neither is. -/
theorem systemTimeOf_sub_iff (time : TimeState) (a b : UInt64) :
    time.systemTimeOf b - time.systemTimeOf a = b - a ↔
      (a < time.lastGP2Ns ↔ b < time.lastGP2Ns) := by
  have short : ∀ x y : UInt64, b + time.timeOffset - x - (a + time.timeOffset - y) = b - a ↔
      x = y := by
    intro x y
    constructor
    · intro same
      grind
    · rintro rfl
      grind
  rw [time.systemTimeOf_eq a, time.systemTimeOf_eq b, short]
  by_cases aBefore : a < time.lastGP2Ns
  · rw [if_pos aBefore, iff_true_left aBefore]
    by_cases bBefore : b < time.lastGP2Ns
    · rw [if_pos bBefore]
      exact iff_of_true rfl bBefore
    · rw [if_neg bBefore]
      exact iff_of_false (by decide) bBefore
  · rw [if_neg aBefore, iff_false_left aBefore]
    by_cases bBefore : b < time.lastGP2Ns
    · rw [if_pos bBefore]
      exact iff_of_false (by decide) (not_not.mpr bBefore)
    · rw [if_neg bBefore]
      exact iff_of_true rfl bBefore

/-- A second after the driver was loaded. -/
def atOneSecond : TimeState :=
  { TimeState.init with lastGP2Ns := 1000000000, lastSystemTimeNs := 5000000000 }

/-- Between 10 ns before the last sample and the sample itself the conversion finds 11 ns. -/
theorem systemTimeOf_sub_ne :
    atOneSecond.systemTimeOf 1000000000 - atOneSecond.systemTimeOf 999999990 ≠
      1000000000 - 999999990 := by decide

/-! ## The indication -/

/-- `struct iwl_time_measurement_notif_v2`.  `ptp k` is the byte at offset `k` from
`ptp.element_id` on. -/
structure IwlTimeMeasurementNotif where
  addr : List UInt8
  dialogToken : UInt32
  followupToken : UInt32
  hiT1 : UInt32
  loT1 : UInt32
  t1Error : UInt32
  hiT4 : UInt32
  loT4 : UInt32
  t4Error : UInt32
  hiT2 : UInt32
  loT2 : UInt32
  t2Error : UInt32
  hiT3 : UInt32
  loT3 : UInt32
  t3Error : UInt32
  ptp : Nat → UInt8

/-- The interface of the station that sent the measurement frame. -/
structure IndicationVif where
  addr : List UInt8
  bssid : List UInt8

/-- The header of the indication, up to and with `u.action.u.tm_msmt_ind`. -/
structure TmMsmtInd where
  frameControl : Nat
  da : List UInt8
  sa : List UInt8
  bssid : List UInt8
  category : Nat
  actionCode : Nat
  dialogToken : UInt8
  followupDialogToken : UInt8
  t1 : UInt64
  maxT1Err : UInt8
  t4 : UInt64
  maxT4Err : UInt8
  t2 : UInt64
  maxT2Err : UInt8
  t3 : UInt64
  maxT3Err : UInt8
  ingressTime : Option UInt64

/-- The skb handed to `ieee80211_rx`: how much `dev_alloc_skb` was asked for, how much was put for
the header and behind it, and what was written there. -/
structure Indication where
  allocated : Nat
  hdrLen : Nat
  header : TmMsmtInd
  put : Nat
  written : List UInt8

def ieee80211StypeAction : Nat := 0x00d0

def wlanCategoryUnprotectedWnm : Nat := 11

def wlanUnprotectedWnmActionTimingMeasurement : Nat := 1

/-- The vendor specific element of the measurement is behind that of the Wi-Fi Alliance: element
id, length, OUI, dialog token and two times of eight bytes. -/
def wfaSpecLen : Nat := 22

/-- `ptp_pos`, as an offset. -/
def ptpPos (wfa : Bool) : Nat := if wfa then wfaSpecLen else 0

/-- `*(ptp_pos + 1)` as the firmware wrote it. -/
def IwlTimeMeasurementNotif.ptpLength (notif : IwlTimeMeasurementNotif) (wfa : Bool) : UInt8 :=
  notif.ptp (ptpPos wfa + 1)

/-- The payload does not look corrupt. -/
def IwlTimeMeasurementNotif.accepted (notif : IwlTimeMeasurementNotif) (wfa : Bool) : Bool :=
  notif.ptp (ptpPos wfa) == 0 ||
    notif.ptp (ptpPos wfa) == 0xdd && decide (notif.ptpLength wfa ≤ 80)

/-- `offsetof(struct ieee80211_mgmt, u.action.u.tm_msmt_ind) + sizeof(.. tm_msmt_ind)` -/
def tmMsmtIndLen (wfa : Bool) : Nat := 25 + 39 + (if wfa then 8 else 0)

/-- The system time of the arrival, in 10 nsec units. -/
def ingressTime (time : TimeState) (notif : IwlTimeMeasurementNotif) : UInt64 :=
  let ingress := time.systemTimeOf (get64bitTs notif.hiT2 notif.loT2 * 10)
  ingress / 10 + (if ingress % 10 > 5 then 1 else 0)

def tmMsmtInd (wfa : Bool) (time : TimeState) (notif : IwlTimeMeasurementNotif)
    (vif : IndicationVif) : TmMsmtInd where
  frameControl := ieee80211FtypeMgmt ||| ieee80211StypeAction
  da := vif.addr
  sa := notif.addr
  bssid := vif.bssid
  category := wlanCategoryUnprotectedWnm
  actionCode := wlanUnprotectedWnmActionTimingMeasurement
  dialogToken := notif.dialogToken.toUInt8
  followupDialogToken := notif.followupToken.toUInt8
  t1 := get64bitTs notif.hiT1 notif.loT1
  maxT1Err := notif.t1Error.toUInt8
  t4 := get64bitTs notif.hiT4 notif.loT4
  maxT4Err := notif.t4Error.toUInt8
  t2 := get64bitTs notif.hiT2 notif.loT2
  maxT2Err := notif.t2Error.toUInt8
  t3 := get64bitTs notif.hiT3 notif.loT3
  maxT3Err := notif.t3Error.toUInt8
  ingressTime := if wfa then some (ingressTime time notif) else none

/-- The bytes from an offset of the vendor specific elements on. -/
def ptpBytes (notif : IwlTimeMeasurementNotif) (ofs n : Nat) : List UInt8 :=
  (List.range n).map fun k => notif.ptp (ofs + k)

/-- What is put behind the header, for an element of `length` bytes. -/
def elementsPut (wfa : Bool) (length : UInt8) : Nat :=
  if length ≠ 0 then length.toNat + 2 + (if wfa then wfaSpecLen else 0) else 2

/-- What is written behind the header, for an element of `length` bytes. -/
def elementsWritten (wfa : Bool) (notif : IwlTimeMeasurementNotif) (length : UInt8) : List UInt8 :=
  (if wfa then ptpBytes notif 0 wfaSpecLen else []) ++
    [if length ≠ 0 then notif.ptp (ptpPos wfa) else 0, length] ++
    (if length ≠ 0 then ptpBytes notif (ptpPos wfa + 2) length.toNat else [])

/-- `iwl_mvm_rx_legacy_timing_measurement_notif`.  `vif` is the interface of the sending station, if
there is one, and `memory` says whether there is memory for the skb. -/
def rxLegacyTimingMeasurementNotif (wfa : Bool) (time : TimeState) (vif : Option IndicationVif)
    (memory : Bool) (notif : IwlTimeMeasurementNotif) : Option Indication :=
  if !notif.accepted wfa then none
  else
    match vif with
    | none => none
    | some vif =>
        let hdrLen := tmMsmtIndLen wfa
        let length := notif.ptpLength wfa
        let allocated := hdrLen + (if wfa then wfaSpecLen else 0) + length.toNat + 2
        if !memory then none
        else
          -- the length is cut to what an IEEE 802.1AS element can have
          let length := if length > 80 then 80 else length
          some ⟨allocated, hdrLen, tmMsmtInd wfa time notif vif, elementsPut wfa length,
            elementsWritten wfa notif length⟩

/-- What is written behind the header is what was put there, and there was memory for it. -/
def Indication.Complete (ind : Indication) : Prop :=
  ind.written.length = ind.put ∧ ind.hdrLen + ind.written.length ≤ ind.allocated

/-! ## Lengths -/

section Lengths

variable (wfa : Bool) (notif : IwlTimeMeasurementNotif) (length : UInt8)

/-- The bytes of the first element, if there is one. -/
def wfaLen : Nat := if wfa then wfaSpecLen else 0

theorem elementsWritten_length :
    (elementsWritten wfa notif length).length = wfaLen wfa + 2 + length.toNat := by
  have first : (if wfa then ptpBytes notif 0 wfaSpecLen else []).length = wfaLen wfa := by
    cases wfa with
    | false => rfl
    | true => rw [if_pos rfl, ptpBytes, List.length_map, List.length_range]; rfl
  have data : (if length ≠ 0 then ptpBytes notif (ptpPos wfa + 2) length.toNat else []).length =
      length.toNat := by
    by_cases empty : length = 0
    · rw [if_neg (not_not.mpr empty), empty]
      rfl
    · rw [if_pos empty, ptpBytes, List.length_map, List.length_range]
  rw [elementsWritten, List.length_append, List.length_append, first, data]
  rfl

/-- What is put is what is written, but for an empty element behind the first one. -/
theorem elementsPut_eq_iff :
    (elementsWritten wfa notif length).length = elementsPut wfa length ↔
      (wfa = true → length ≠ 0) := by
  rw [elementsWritten_length, elementsPut]
  by_cases empty : length = 0
  · rw [if_neg (not_not.mpr empty), empty]
    cases wfa with
    | false => exact iff_of_true rfl nofun
    | true => exact iff_of_false (by decide) fun full => full rfl rfl
  · rw [if_pos empty]
    refine iff_of_true ?_ fun _ => empty
    change wfaLen wfa + 2 + length.toNat = length.toNat + 2 + wfaLen wfa
    omega

/-- Cutting the length does not make it longer, and leaves an empty element empty. -/
theorem cut_le : (if length > 80 then 80 else length).toNat ≤ length.toNat := by
  split
  · next long => exact UInt8.le_iff_toNat_le.mp (UInt8.le_of_lt long)
  · exact Nat.le_refl _

theorem cut_eq_zero_iff : (if length > 80 then 80 else length) = 0 ↔ length = 0 := by
  split
  · next long =>
      refine iff_of_false (by decide) ?_
      rintro rfl
      exact absurd long (by decide)
  · exact Iff.rfl

end Lengths

/-- The indication of a notification is complete exactly if there is no element of the Wi-Fi
Alliance in front of an element of length zero. -/
theorem complete_iff {wfa : Bool} {time : TimeState} {vif : Option IndicationVif} {memory : Bool}
    {notif : IwlTimeMeasurementNotif} {ind : Indication}
    (indicated : rxLegacyTimingMeasurementNotif wfa time vif memory notif = some ind) :
    ind.Complete ↔ (wfa = true → notif.ptpLength wfa ≠ 0) := by
  unfold rxLegacyTimingMeasurementNotif at indicated
  split at indicated
  · cases indicated
  cases vif with
  | none => cases indicated
  | some vif =>
      extract_lets hdrLen length allocated cut at indicated
      cases memory with
      | false => cases indicated
      | true =>
          cases indicated
          have shorter : cut.toNat ≤ length.toNat := cut_le length
          have room : hdrLen + (elementsWritten wfa notif cut).length ≤ allocated := by
            rw [elementsWritten_length]
            change hdrLen + (wfaLen wfa + 2 + cut.toNat) ≤ hdrLen + wfaLen wfa + length.toNat + 2
            omega
          rw [Indication.Complete, and_iff_left room, elementsPut_eq_iff]
          exact imp_congr_right fun _ => not_congr (cut_eq_zero_iff length)

/-- The notification of a frame with an IEEE 802.1AS element of 80 bytes. -/
def followUp : IwlTimeMeasurementNotif where
  addr := [2, 0, 0, 0, 0, 1]
  dialogToken := 2
  followupToken := 1
  hiT1 := 0
  loT1 := 1000
  t1Error := 0
  hiT4 := 0
  loT4 := 1400
  t4Error := 0
  hiT2 := 0
  loT2 := 5100
  t2Error := 0
  hiT3 := 0
  loT3 := 5300
  t3Error := 0
  ptp k := if k = 0 ∨ k = 22 then 0xdd else if k = 1 then 20 else if k = 23 then 80 else 0

/-- The interface of its sender. -/
def indicationVif : IndicationVif := ⟨[2, 0, 0, 0, 0, 2], [2, 0, 0, 0, 0, 3]⟩

theorem complete_iff_followUp :
    ∃ ind, rxLegacyTimingMeasurementNotif true .init (some indicationVif) true followUp = some ind ∧
      (ind.Complete ↔ (true = true → followUp.ptpLength true ≠ 0)) := by
  obtain ⟨ind, indicated⟩ :
      ∃ ind, rxLegacyTimingMeasurementNotif true .init (some indicationVif) true followUp =
        some ind := ⟨_, rfl⟩
  exact ⟨ind, indicated, complete_iff indicated⟩

/-- The notification of the first frame, which has no IEEE 802.1AS element yet. -/
def firstFrame : IwlTimeMeasurementNotif := { followUp with ptp := fun _ => 0 }

/-- Two bytes are put behind the header of its indication, and 24 are written there. -/
theorem not_complete_firstFrame :
    ¬ ∀ ind, rxLegacyTimingMeasurementNotif true .init (some indicationVif) true firstFrame =
      some ind → ind.Complete := by
  intro all
  have both := (all _ rfl).1
  exact absurd both (by decide)

end Iwlwifi
