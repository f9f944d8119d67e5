import Iwlwifi.Lib.Bytes
import Iwlwifi.Lib.Run
import Iwlwifi.Mvm.RxMpdu

/-!
# Duplicate detection and the packet number

On the queues other than the default one the driver checks the packet number itself:
`iwl_mvm_is_dup` drops retransmissions and exempts the later sub-frames of an A-MSDU, and
`iwl_mvm_check_pn` accepts a frame with a packet number above the last one, or with the
same one if the frame is exempted.

The exemption is granted on the last frame that `iwl_mvm_is_dup` let through, which
`iwl_mvm_check_pn` may have rejected.  `ExemptionKept` is the condition that a frame
exempted at the same packet number continues the A-MSDU of the frame accepted last; under
it no packet number and sub-frame index are accepted twice
(`noReplay_of_exemptionKept`).
-/

namespace Iwlwifi

open Lib Function

/-! ## State -/

def iwlMaxTidCount : Nat := 8

/-- Per station and queue, the last sequence control and sub-frame index of each TID. -/
structure IwlMvmRxqDupData where
  lastSeq : Nat → Nat
  lastSubFrame : Nat → Nat

/-- Per key, the last packet number of each queue and TID. -/
structure IwlMvmKeyPn where
  pn : Nat → Nat → List UInt8

structure IwlMvmSta where
  dupData : Nat → IwlMvmRxqDupData
  ptkPn : Nat → Option IwlMvmKeyPn

/-- What `iwl_mvm_is_dup` leaves: whether the frame is dropped, the station and the two
flags of the frame's `rx_status`. -/
structure DupResult where
  dup : Bool
  sta : Option IwlMvmSta
  dupValidated : Bool
  allowSamePn : Bool

/-- The index of a frame's record in `iwl_mvm_is_dup`. -/
def dupTid (skb : RxMpdu) : Nat :=
  if ieee80211IsDataQos skb.frameControl then skb.tid else iwlMaxTidCount

/-- `iwl_mvm_is_dup`. -/
def iwlMvmIsDup (sta : Option IwlMvmSta) (queue : Nat) (skb : RxMpdu) : DupResult :=
  match sta with
  | none => ⟨false, none, false, false⟩
  | some mvmSta =>
    let dupData := mvmSta.dupData queue
    if ieee80211IsCtl skb.frameControl || ieee80211IsQosNullfunc skb.frameControl ||
        skb.multicast then
      ⟨false, some mvmSta, true, false⟩
    else
      let tid := dupTid skb
      let subFrameIdx := skb.subFrameIdx
      if ieee80211HasRetry skb.frameControl && dupData.lastSeq tid == skb.seqCtrl &&
          decide (dupData.lastSubFrame tid ≥ subFrameIdx) then
        ⟨true, some mvmSta, false, false⟩
      else
        let allow := dupData.lastSeq tid == skb.seqCtrl &&
          decide (subFrameIdx > dupData.lastSubFrame tid) && skb.amsdu
        let dupData : IwlMvmRxqDupData :=
          { lastSeq := update dupData.lastSeq tid skb.seqCtrl
            lastSubFrame := update dupData.lastSubFrame tid subFrameIdx }
        ⟨false, some { mvmSta with dupData := update mvmSta.dupData queue dupData }, true,
          allow⟩

/-- The packet number in a frame's CCMP or GCMP header. -/
def ccmpPn (skb : RxMpdu) : List UInt8 :=
  [skb.extiv 7, skb.extiv 6, skb.extiv 5, skb.extiv 4, skb.extiv 1, skb.extiv 0]

def keyidx (skb : RxMpdu) : Nat := (skb.extiv 3).toNat >>> 6

/-- What `iwl_mvm_check_pn` leaves: its result, the station and `RX_FLAG_PN_VALIDATED`. -/
structure PnResult where
  res : Int
  sta : Option IwlMvmSta
  pnValidated : Bool

/-- `iwl_mvm_check_pn` on a frame with or without `RX_FLAG_ALLOW_SAME_PN`. -/
def iwlMvmCheckPn (sta : Option IwlMvmSta) (queue : Nat) (skb : RxMpdu)
    (allowSamePn : Bool) : PnResult :=
  if !ieee80211IsData skb.frameControl || skb.multicast then ⟨0, sta, false⟩
  else if !skb.decrypted then ⟨0, sta, false⟩
  else if queue == 0 then ⟨0, sta, false⟩
  else
    match sta with
    | none => ⟨-1, none, false⟩
    | some mvmsta =>
      match mvmsta.ptkPn (keyidx skb) with
      | none => ⟨-1, some mvmsta, false⟩
      | some ptkPn =>
        let tid := if ieee80211IsDataQos skb.frameControl then skb.tid else 0
        if iwlMaxTidCount ≤ tid then ⟨-1, some mvmsta, false⟩
        else
          let pn := ccmpPn skb
          let res := memcmp pn (ptkPn.pn queue tid)
          if res < 0 then ⟨-1, some mvmsta, false⟩
          else if res == 0 && !allowSamePn then ⟨-1, some mvmsta, false⟩
          else
            let ptkPn : IwlMvmKeyPn :=
              { pn := update ptkPn.pn queue (update (ptkPn.pn queue) tid pn) }
            ⟨0, some { mvmsta with
              ptkPn := update mvmsta.ptkPn (keyidx skb) (some ptkPn) }, true⟩

/-- A frame through both filters: the station afterwards, and whether it is accepted. -/
def rxFilter (sta : Option IwlMvmSta) (queue : Nat) (skb : RxMpdu) :
    Option IwlMvmSta × Bool :=
  let seen := iwlMvmIsDup sta queue skb
  if seen.dup then (seen.sta, false)
  else
    let checked := iwlMvmCheckPn seen.sta queue skb seen.allowSamePn
    (checked.sta, checked.res == 0)

/-- `iwl_mvm_add_sta`'s duplicate data and the packet numbers a key was installed with. -/
def initSta (ptkPn : Nat → Option IwlMvmKeyPn) : IwlMvmSta where
  dupData := fun _ => { lastSeq := fun _ => 0xffff, lastSubFrame := fun _ => 0 }
  ptkPn := ptkPn

/-! ## Frames of one key and TID -/

/-- A hardware-decrypted unicast QoS data frame of one key index and TID. -/
structure PnFrame (key tid : Nat) (skb : RxMpdu) : Prop where
  qos : ieee80211IsDataQos skb.frameControl = true
  unicast : skb.multicast = false
  decrypted : skb.decrypted = true
  key : keyidx skb = key
  tid : skb.tid = tid

/-- The packet number as a number. -/
def pnOf (skb : RxMpdu) : Nat := bigEndian (ccmpPn skb)

/-- The packet number stored for a key and TID on a queue. -/
def storedPn (sta : IwlMvmSta) (queue key tid : Nat) : Option (List UInt8) :=
  (sta.ptkPn key).map fun ptkPn => ptkPn.pn queue tid

/-- Whether a frame is a later sub-frame of the A-MSDU recorded for its TID, which is the
one `iwl_mvm_is_dup` let through last. -/
def exempted (sta : IwlMvmSta) (queue : Nat) (skb : RxMpdu) : Bool :=
  !(ieee80211IsCtl skb.frameControl || ieee80211IsQosNullfunc skb.frameControl ||
    skb.multicast) &&
  (sta.dupData queue).lastSeq (dupTid skb) == skb.seqCtrl &&
  decide ((sta.dupData queue).lastSubFrame (dupTid skb) < skb.subFrameIdx) && skb.amsdu

variable {sta : IwlMvmSta} {queue key tid : Nat} {skb : RxMpdu}

/-- `iwl_mvm_is_dup` keeps the packet numbers. -/
theorem iwlMvmIsDup_sta (sta : IwlMvmSta) (queue : Nat) (skb : RxMpdu) :
    ∃ dupData, (iwlMvmIsDup (some sta) queue skb).sta = some { sta with dupData } := by
  simp only [iwlMvmIsDup]
  split
  · exact ⟨sta.dupData, rfl⟩
  split
  · exact ⟨sta.dupData, rfl⟩
  · exact ⟨_, rfl⟩

/-- Only a frame flagged as A-MSDU is exempted. -/
theorem amsdu_of_exempted (allowed : exempted sta queue skb = true) : skb.amsdu = true :=
  (Bool.and_eq_true _ _ ▸ allowed).2

/-- `iwl_mvm_is_dup` lets a frame through with `RX_FLAG_ALLOW_SAME_PN` exactly when it is
exempted: a frame above the recorded index is never dropped as a retransmission. -/
theorem iwlMvmIsDup_allowSamePn :
    (!(iwlMvmIsDup (some sta) queue skb).dup &&
      (iwlMvmIsDup (some sta) queue skb).allowSamePn) = exempted sta queue skb := by
  simp only [iwlMvmIsDup, exempted]
  split
  · next skipped => simp [skipped]
  next examined =>
  split
  · next repeated =>
      simp only [Bool.and_eq_true, decide_eq_true_eq] at repeated
      simp [repeated.2]
  · simp [examined]

/-- What `iwl_mvm_check_pn` does with a frame of the key and TID: it stores the packet
number of the frame it accepts, which is above the stored one, or the same if exempted. -/
theorem iwlMvmCheckPn_cases (sta : IwlMvmSta) (frame : PnFrame key tid skb) (notDefault : queue ≠ 0)
    (allowSamePn : Bool) :
    ((iwlMvmCheckPn (some sta) queue skb allowSamePn).res = -1 ∧
      (iwlMvmCheckPn (some sta) queue skb allowSamePn).sta = some sta) ∨
    ∃ stored after, storedPn sta queue key tid = some stored ∧
      (0 < memcmp (ccmpPn skb) stored ∨
        (memcmp (ccmpPn skb) stored = 0 ∧ allowSamePn = true)) ∧
      (iwlMvmCheckPn (some sta) queue skb allowSamePn).res = 0 ∧
      (iwlMvmCheckPn (some sta) queue skb allowSamePn).sta = some after ∧
      storedPn after queue key tid = some (ccmpPn skb) := by
  simp only [iwlMvmCheckPn, ieee80211IsData_of_isDataQos frame.qos, frame.unicast,
    frame.decrypted, frame.qos, frame.key, frame.tid, notDefault, Bool.not_true, Bool.or_self,
    Bool.false_eq_true, if_false, if_true, beq_iff_eq]
  cases installed : sta.ptkPn key with
  | none => exact .inl ⟨rfl, rfl⟩
  | some ptkPn =>
    simp only
    split
    · exact .inl ⟨rfl, rfl⟩
    split
    · exact .inl ⟨rfl, rfl⟩
    next notBelow =>
    split
    · exact .inl ⟨rfl, rfl⟩
    · next allowed =>
        refine .inr ⟨ptkPn.pn queue tid, _, by simp [storedPn, installed], ?_, rfl, rfl,
          by simp [storedPn]⟩
        simp only [Bool.and_eq_true, Bool.not_eq_true', not_and,
          Bool.not_eq_false] at allowed
        rcases (not_lt.mp notBelow).lt_or_eq with above | same
        · exact .inl above
        · exact .inr ⟨same.symm, allowed (by simpa using same.symm)⟩

/-! ## Runs -/

/-- A run of frames on one queue: the station and the frames accepted, oldest first. -/
structure PnTrack where
  sta : IwlMvmSta
  accepted : List RxMpdu

namespace PnTrack

def step (queue : Nat) (t : PnTrack) (skb : RxMpdu) : PnTrack where
  sta := (rxFilter (some t.sta) queue skb).1.getD t.sta
  accepted := if (rxFilter (some t.sta) queue skb).2 then t.accepted ++ [skb] else t.accepted

end PnTrack

/-- The second frame has a higher packet number, or it is a later sub-frame of the same
A-MSDU. -/
def Follows (a b : RxMpdu) : Prop :=
  pnOf a < pnOf b ∨
    (pnOf a = pnOf b ∧ a.amsdu = true ∧ b.amsdu = true ∧ a.seqCtrl = b.seqCtrl ∧
      a.subFrameIdx < b.subFrameIdx)

instance (a b : RxMpdu) : Decidable (Follows a b) := inferInstanceAs (Decidable (_ ∨ _))

/-- No packet number and sub-frame index twice, packet numbers that never go back, and
equal ones only among the sub-frames of one A-MSDU, in the order of their indices. -/
structure NoReplay (accepted : List RxMpdu) : Prop where
  once : (accepted.map fun skb => (pnOf skb, skb.subFrameIdx)).Nodup
  ordered : accepted.Pairwise Follows

theorem NoReplay.of_ordered {accepted : List RxMpdu} (ordered : accepted.Pairwise Follows) :
    NoReplay accepted where
  once := by
    refine List.pairwise_map.mpr (ordered.imp fun {a b} follows same => ?_)
    obtain ⟨samePn, sameIdx⟩ := Prod.mk.inj same
    rcases follows with below | ⟨-, -, -, -, rising⟩
    · omega
    · omega
  ordered := ordered

/-- The condition on a frame and the state before it: a frame that is exempted and carries
the stored packet number continues the frame accepted last, if there is one: that frame
was flagged as A-MSDU and has the same sequence control field and a smaller index. -/
def ExemptionKept (queue key tid : Nat) (t : PnTrack) (skb : RxMpdu) : Prop :=
  exempted t.sta queue skb = true → storedPn t.sta queue key tid = some (ccmpPn skb) →
    ∀ last ∈ t.accepted.getLast?,
      last.amsdu = true ∧ last.seqCtrl = skb.seqCtrl ∧ last.subFrameIdx < skb.subFrameIdx

instance (t : PnTrack) : Decidable (ExemptionKept queue key tid t skb) :=
  inferInstanceAs (Decidable (_ → _ → _))

/-- The stored packet number is that of the frame accepted last, which every other
accepted frame precedes. -/
structure PnInv (queue key tid : Nat) (t : PnTrack) : Prop where
  ordered : t.accepted.Pairwise Follows
  stored : ∀ last ∈ t.accepted.getLast?,
    storedPn t.sta queue key tid = some (ccmpPn last)

theorem Follows.trans {a b c : RxMpdu} (first : Follows a b) (second : Follows b c) :
    Follows a c := by
  rcases first with below | ⟨samePn, aAmsdu, -, sameSeq, rising⟩
  · rcases second with below' | ⟨samePn', -⟩
    · exact .inl (below.trans below')
    · exact .inl (by omega)
  · rcases second with below' | ⟨samePn', -, cAmsdu, sameSeq', rising'⟩
    · exact .inl (by omega)
    · exact .inr ⟨samePn.trans samePn', aAmsdu, cAmsdu, sameSeq.trans sameSeq',
        rising.trans rising'⟩

/-- What follows the last frame of a log follows all of it. -/
theorem pairwise_follows_append {log : List RxMpdu} (ordered : log.Pairwise Follows)
    (follows : ∀ last ∈ log.getLast?, Follows last skb) :
    (log ++ [skb]).Pairwise Follows := by
  refine List.pairwise_append.mpr ⟨ordered, List.pairwise_singleton _ _, ?_⟩
  intro a member b isNew
  rw [List.mem_singleton.mp isNew]
  rcases List.eq_nil_or_concat log with rfl | ⟨front, last, rfl⟩
  · cases member
  have lastFollows := follows last (by simp)
  rw [List.concat_eq_append] at member ordered
  rcases List.mem_append.mp member with before | isLast
  · exact ((List.pairwise_append.mp ordered).2.2 a before last (by simp)).trans lastFollows
  · rwa [List.mem_singleton.mp isLast]

theorem PnInv.step {t : PnTrack} (inv : PnInv queue key tid t) (frame : PnFrame key tid skb)
    (notDefault : queue ≠ 0) (kept : ExemptionKept queue key tid t skb) :
    PnInv queue key tid (t.step queue skb) := by
  obtain ⟨dupData, seen⟩ := iwlMvmIsDup_sta t.sta queue skb
  have sameStored : storedPn { t.sta with dupData } queue key tid =
      storedPn t.sta queue key tid := rfl
  -- a frame that is not accepted leaves the packet numbers as they are
  have unchanged : ∀ after : IwlMvmSta,
      storedPn after queue key tid = storedPn t.sta queue key tid →
      PnInv queue key tid ⟨after, t.accepted⟩ := fun after same =>
    ⟨inv.ordered, by rw [same]; exact inv.stored⟩
  cases dup : (iwlMvmIsDup (some t.sta) queue skb).dup with
  | true => simpa [PnTrack.step, rxFilter, dup, seen] using unchanged _ sameStored
  | false =>
    rcases iwlMvmCheckPn_cases { t.sta with dupData } frame notDefault
      (iwlMvmIsDup (some t.sta) queue skb).allowSamePn with
      ⟨rejected, same⟩ | ⟨stored, after, isStored, above, accepted, isAfter, newStored⟩
    · simpa [PnTrack.step, rxFilter, dup, seen, rejected, same] using
        unchanged _ sameStored
    have follows : ∀ last ∈ t.accepted.getLast?, Follows last skb := by
      intro last isLast
      have lastStored := inv.stored last isLast
      rw [← sameStored, isStored, Option.some.injEq] at lastStored
      rw [lastStored] at above
      rcases above with higher | ⟨same, allowed⟩
      · have above : pnOf last < pnOf skb := (memcmp_pos_iff (by simp [ccmpPn])).mp higher
        exact .inl above
      · have exempt : exempted t.sta queue skb = true := by
          rw [← iwlMvmIsDup_allowSamePn, dup, allowed]
          rfl
        have sameBytes : ccmpPn skb = ccmpPn last := eq_of_memcmp_eq_zero rfl same
        obtain ⟨amsdu, sameSeq, rising⟩ := kept exempt
          (by rw [← sameStored, isStored, lastStored, sameBytes]) last isLast
        exact .inr ⟨congrArg bigEndian sameBytes.symm, amsdu, amsdu_of_exempted exempt,
          sameSeq, rising⟩
    have extended : PnInv queue key tid ⟨after, t.accepted ++ [skb]⟩ := by
      refine ⟨pairwise_follows_append inv.ordered follows, ?_⟩
      rw [newStored]
      intro last isLast
      simp only [List.getLast?_append, List.getLast?_singleton, Option.some_or,
        Option.mem_def, Option.some.injEq] at isLast
      rw [isLast]
    simpa [PnTrack.step, rxFilter, dup, seen, accepted, isAfter] using extended

/-- In every run of frames of one key and TID on a queue other than the default one, all
of which meet `ExemptionKept`, nothing is replayed, whatever the station starts with. -/
theorem noReplay_of_exemptionKept (sta : IwlMvmSta) {queue key tid : Nat}
    (notDefault : queue ≠ 0) {frames : List RxMpdu}
    (ofKey : ∀ skb ∈ frames, PnFrame key tid skb)
    (run : Admissible (PnTrack.step queue) (ExemptionKept queue key tid) ⟨sta, []⟩ frames) :
    NoReplay (frames.foldl (PnTrack.step queue) ⟨sta, []⟩).accepted :=
  .of_ordered ((run.and_forall ofKey).invariant (P := PnInv queue key tid)
    (fun _ _ inv kept => inv.step kept.2 notDefault kept.1)
    ⟨List.Pairwise.nil, fun _ none => by cases none⟩).ordered

/-- An A-MSDU sub-frame with the given packet number, SN and index. -/
def amsduFrame (pn : UInt8) (sn subFrameIdx : Nat) : RxMpdu :=
  { RxMpdu.qosData sn 0 0x40 subFrameIdx with extiv := fun i => if i = 0 then pn else 0 }

/-- A key with packet number 0 everywhere. -/
def zeroKey : Nat → Option IwlMvmKeyPn := fun _ => some { pn := fun _ _ => [0, 0, 0, 0, 0, 0] }

theorem amsduFrame_pnFrame (pn : UInt8) (sn subFrameIdx : Nat) :
    PnFrame 0 0 (amsduFrame pn sn subFrameIdx) where
  qos := show ieee80211IsDataQos (ieee80211FtypeData ||| ieee80211StypeQosData) = true by decide
  unicast := rfl
  decrypted := rfl
  key := by simp [keyidx, amsduFrame]
  tid := Nat.zero_and _

/-- The two sub-frames of an A-MSDU and a later frame. -/
theorem noReplay_of_exemptionKept_amsdu :
    (1 ≠ 0) ∧ NoReplay
      ([amsduFrame 5 1 0, amsduFrame 5 1 1, amsduFrame 6 2 0].foldl (PnTrack.step 1)
        ⟨initSta zeroKey, []⟩).accepted :=
  ⟨by decide, noReplay_of_exemptionKept (initSta zeroKey) (by decide)
    (by
      intro skb member
      simp only [List.mem_cons, List.not_mem_nil, or_false] at member
      rcases member with rfl | rfl | rfl <;> exact amsduFrame_pnFrame _ _ _)
    (by decide)⟩

/-- The two sub-frames once more: the first is rejected but recorded, so that the second
is exempted and accepted again. -/
theorem not_noReplay_of_repeated_amsdu :
    ¬NoReplay
      ([amsduFrame 5 1 0, amsduFrame 5 1 1, amsduFrame 5 1 0, amsduFrame 5 1 1].foldl
        (PnTrack.step 1) ⟨initSta zeroKey, []⟩).accepted := by
  intro noReplay
  exact absurd noReplay.once (by decide)

end Iwlwifi
