import Iwlwifi.Mvm.Reorder

/-!
# What a release does

`iwl_mvm_release_frames` compares the head and the NSSN inside the window of the buffer
only.  With `d` the distance from the head to the NSSN and a buffer of `n` slots there
are three cases: `d ≤ n` empties the `d` slots from the head on and moves the head
(`iwlMvmReleaseFrames_of_near`); `4096 - n ≤ d` is an NSSN behind the head and is ignored
(`iwlMvmReleaseFrames_of_behind`); anything between moves the head and empties no slot at
all (`iwlMvmReleaseFrames_of_jump`).

`releaseLoop_induct` is the induction over the release loop that everything about its
effects goes through: a property kept by one pass holds where the loop ends, and there
the loop's test fails.
-/

namespace Iwlwifi

open Lib Function

variable {hz nssn ssn bufSize : Nat} {flags : IwlMvmReleaseFlags} {data : IwlMvmBaidData}

/-! ## The comparison of head and NSSN -/

/-- Inside a buffer of fewer than 2048 slots the comparison reads one distance. -/
theorem iwlMvmIsSnLess_iff {sn1 sn2 : Nat} (small : bufSize < 2048) :
    iwlMvmIsSnLess sn1 sn2 bufSize = true ↔
      0 < ieee80211SnSub sn2 sn1 ∧ ieee80211SnSub sn2 sn1 ≤ bufSize := by
  rw [iwlMvmIsSnLess, Bool.and_eq_true, Bool.not_eq_true', ieee80211SnLess_iff,
    ieee80211SnLess_eq_false_iff]
  simp only [ieee80211SnSub, u16]
  omega

theorem iwlMvmIsSnLess_eq_false_iff {sn1 sn2 : Nat} (small : bufSize < 2048) :
    iwlMvmIsSnLess sn1 sn2 bufSize = false ↔
      ieee80211SnSub sn2 sn1 = 0 ∨ bufSize < ieee80211SnSub sn2 sn1 := by
  rw [← Bool.not_eq_true, iwlMvmIsSnLess_iff small]
  omega

theorem iwlMvmIsSnLess_pos {sn1 sn2 : Nat} (less : iwlMvmIsSnLess sn1 sn2 bufSize = true) :
    0 < ieee80211SnSub sn2 sn1 := by
  rw [iwlMvmIsSnLess, Bool.and_eq_true, ieee80211SnLess_iff] at less
  simp only [ieee80211SnSub] at *
  omega

/-! ## One pass of the loop -/

section Pass

variable (data ssn)

theorem releaseSlot_slots :
    (releaseSlot data ssn).slots = update data.slots (ssn % data.reorderBuf.bufSize) [] := by
  funext i
  by_cases same : i = ssn % data.reorderBuf.bufSize
  · subst same
    simp [releaseSlot, IwlMvmBaidData.slots]
  · simp [releaseSlot, IwlMvmBaidData.slots, same]

theorem releaseSlot_reorderTime (i : Nat) :
    ((releaseSlot data ssn).entries i).reorderTime = (data.entries i).reorderTime := by
  by_cases same : i = ssn % data.reorderBuf.bufSize
  · subst same
    simp [releaseSlot]
  · simp [releaseSlot, same]

@[simp] theorem releaseSlot_reorderBuf :
    (releaseSlot data ssn).reorderBuf =
      { data.reorderBuf with
        numStored := data.reorderBuf.numStored -
          (data.slots (ssn % data.reorderBuf.bufSize)).length } := rfl

end Pass

/-- `num_stored` is the number of frames the slots hold. -/
def Counted (data : IwlMvmBaidData) : Prop :=
  data.reorderBuf.numStored = held data.slots data.reorderBuf.bufSize

theorem Counted.releaseSlot (counted : Counted data) (room : 0 < data.reorderBuf.bufSize) :
    Counted (releaseSlot data ssn) := by
  have index : ssn % data.reorderBuf.bufSize < data.reorderBuf.bufSize := Nat.mod_lt _ room
  have emptied := held_update data.slots index []
  simp only [Counted, releaseSlot_reorderBuf, releaseSlot_slots] at *
  simp only [List.length_nil] at emptied
  omega

/-! ## The loop -/

/-- A property of the loop's position, the session and the outputs so far that one pass
keeps holds where the loop ends, and there the loop's test fails. -/
theorem releaseLoop_induct (nssn : Nat) (flags : IwlMvmReleaseFlags)
    {P : Nat → IwlMvmBaidData → List RxOutput → Prop}
    (pass : ∀ ssn data outputs, P ssn data outputs →
      iwlMvmIsSnLess ssn nssn data.reorderBuf.bufSize = true →
      P (ieee80211SnInc ssn) (releaseSlot data ssn)
        (outputs ++ releaseSlotOutputs data ssn flags))
    (passes : Nat) {outputs : List RxOutput} (enough : ieee80211SnSub nssn ssn ≤ passes)
    (start : P ssn data outputs) :
    ∃ final, P final (releaseLoop nssn flags passes ssn data).1
        (outputs ++ (releaseLoop nssn flags passes ssn data).2) ∧
      iwlMvmIsSnLess final nssn data.reorderBuf.bufSize = false := by
  induction passes generalizing ssn data outputs with
  | zero =>
      refine ⟨ssn, by simpa [releaseLoop] using start, ?_⟩
      by_contra less
      have ahead := iwlMvmIsSnLess_pos (Bool.not_eq_false _ ▸ less)
      omega
  | succ passes ih =>
      cases less : iwlMvmIsSnLess ssn nssn data.reorderBuf.bufSize with
      | false => exact ⟨ssn, by simpa [releaseLoop, less] using start, less⟩
      | true =>
          have ahead := iwlMvmIsSnLess_pos less
          have closer := ieee80211SnSub_snInc ahead
          obtain ⟨final, kept, done⟩ :=
            ih (by omega) (pass ssn data outputs start less)
          refine ⟨final, ?_, done⟩
          simpa [releaseLoop, less] using kept

/-- The same for the loop as the release runs it. -/
theorem releaseLoop_end (nssn ssn : Nat) (flags : IwlMvmReleaseFlags) (data : IwlMvmBaidData)
    {P : Nat → IwlMvmBaidData → List RxOutput → Prop}
    (pass : ∀ ssn data outputs, P ssn data outputs →
      iwlMvmIsSnLess ssn nssn data.reorderBuf.bufSize = true →
      P (ieee80211SnInc ssn) (releaseSlot data ssn)
        (outputs ++ releaseSlotOutputs data ssn flags))
    (start : P ssn data []) :
    ∃ final, P final (releaseLoop nssn flags (ieee80211SnSub nssn ssn) ssn data).1
        (releaseLoop nssn flags (ieee80211SnSub nssn ssn) ssn data).2 ∧
      iwlMvmIsSnLess final nssn data.reorderBuf.bufSize = false :=
  releaseLoop_induct nssn flags pass (ieee80211SnSub nssn ssn) le_rfl start

/-- The loop changes nothing of the buffer but `num_stored`, and no reorder time. -/
theorem releaseLoop_frame (nssn : Nat) (flags : IwlMvmReleaseFlags) (passes ssn : Nat)
    (data : IwlMvmBaidData) :
    (∃ numStored, (releaseLoop nssn flags passes ssn data).1.reorderBuf =
        { data.reorderBuf with numStored }) ∧
      ∀ i, ((releaseLoop nssn flags passes ssn data).1.entries i).reorderTime =
        (data.entries i).reorderTime := by
  induction passes generalizing ssn data with
  | zero => exact ⟨⟨_, rfl⟩, fun _ => rfl⟩
  | succ passes ih =>
      simp only [releaseLoop]
      split
      · obtain ⟨⟨numStored, buf⟩, times⟩ :=
          ih (ieee80211SnInc ssn) (releaseSlot data ssn)
        exact ⟨⟨numStored, by rw [buf]; simp⟩,
          fun i => (times i).trans (releaseSlot_reorderTime ssn data i)⟩
      · exact ⟨⟨_, rfl⟩, fun _ => rfl⟩

theorem Counted.releaseLoop (counted : Counted data) (room : 0 < data.reorderBuf.bufSize)
    (nssn ssn : Nat) (flags : IwlMvmReleaseFlags) :
    Counted (releaseLoop nssn flags (ieee80211SnSub nssn ssn) ssn data).1 := by
  obtain ⟨_, ⟨after, _⟩, _⟩ := releaseLoop_end nssn ssn flags data
    (P := fun _ data _ => Counted data ∧ 0 < data.reorderBuf.bufSize)
    (fun ssn data _ kept _ => ⟨kept.1.releaseSlot kept.2, by simpa using kept.2⟩)
    ⟨counted, room⟩
  exact after

/-- The slot of `sn` is the slot of its position on the circle. -/
def SlotAligned (bufSize sn : Nat) : Prop := sn % bufSize = sn % 4096 % bufSize

theorem SlotAligned.of_dvd (divides : bufSize ∣ 4096) (sn : Nat) : SlotAligned bufSize sn :=
  (Nat.mod_mod_of_dvd sn divides).symm

theorem SlotAligned.of_lt {sn : Nat} (canonical : sn < 4096) : SlotAligned bufSize sn := by
  unfold SlotAligned
  rw [Nat.mod_eq_of_lt canonical]

/-- Slot `i` belongs to one of the `d` positions from `headSn` on. -/
def Covered (bufSize headSn d i : Nat) : Prop := ∃ k < d, (headSn + k) % 4096 % bufSize = i

/-- Between `data` and `after` the slots of the positions from `headSn` to `final` were
emptied and no others. -/
structure ReleasedTo (headSn final : Nat) (data after : IwlMvmBaidData) : Prop where
  emptied : ∀ i, Covered data.reorderBuf.bufSize headSn (ieee80211SnSub final headSn) i →
    after.slots i = []
  kept : ∀ i, ¬Covered data.reorderBuf.bufSize headSn (ieee80211SnSub final headSn) i →
    after.slots i = data.slots i

theorem ReleasedTo.start : ReleasedTo ssn ssn data data where
  emptied := by rintro i ⟨k, before, -⟩; simp at before
  kept := fun _ _ => rfl

/-- One more pass of the loop. -/
theorem ReleasedTo.pass {headSn final : Nat} {after : IwlMvmBaidData}
    (released : ReleasedTo headSn final data after)
    (sameSize : after.reorderBuf.bufSize = data.reorderBuf.bufSize)
    (aligned : SlotAligned data.reorderBuf.bufSize final)
    (notAround : ieee80211SnSub final headSn < 4095) :
    ReleasedTo headSn (ieee80211SnInc final) data (releaseSlot after final) := by
  have further : ieee80211SnSub (ieee80211SnInc final) headSn =
      ieee80211SnSub final headSn + 1 := by
    simp only [ieee80211SnSub, ieee80211SnInc, ieee80211SnAdd] at *
    omega
  have position : (headSn + ieee80211SnSub final headSn) % 4096 = final % 4096 := by
    simp only [ieee80211SnSub]
    omega
  have slots : (releaseSlot after final).slots =
      update after.slots ((headSn + ieee80211SnSub final headSn) % 4096 %
        data.reorderBuf.bufSize) [] := by
    rw [releaseSlot_slots, sameSize, position, ← aligned]
  constructor
  · rintro i ⟨k, before, rfl⟩
    rw [slots]
    by_cases last : (headSn + ieee80211SnSub final headSn) % 4096 % data.reorderBuf.bufSize =
        (headSn + k) % 4096 % data.reorderBuf.bufSize
    · rw [last, update_self]
    · rw [update_of_ne (Ne.symm last)]
      have earlier : k < ieee80211SnSub final headSn := by
        rcases Nat.lt_or_ge k (ieee80211SnSub final headSn) with earlier | late
        · exact earlier
        · have : k = ieee80211SnSub final headSn := by omega
          exact absurd (this ▸ rfl) last
      exact released.emptied _ ⟨k, earlier, rfl⟩
  · intro i uncovered
    have other : i ≠ (headSn + ieee80211SnSub final headSn) % 4096 % data.reorderBuf.bufSize := by
      rintro rfl
      exact uncovered ⟨_, by omega, rfl⟩
    rw [slots, update_of_ne other]
    refine released.kept i fun covered => uncovered ?_
    obtain ⟨k, before, hit⟩ := covered
    exact ⟨k, by omega, hit⟩

/-- The loop towards an NSSN at most one buffer ahead empties exactly the slots of the
positions it passes. -/
theorem releaseLoop_releasedTo (flags : IwlMvmReleaseFlags)
    (small : data.reorderBuf.bufSize < 2048)
    (aligned : SlotAligned data.reorderBuf.bufSize ssn)
    (near : ieee80211SnSub nssn ssn ≤ data.reorderBuf.bufSize) :
    ReleasedTo ssn nssn data
      (releaseLoop nssn flags (ieee80211SnSub nssn ssn) ssn data).1 := by
  obtain ⟨final, ⟨released, sameSize, -, total⟩, done⟩ :=
    releaseLoop_end nssn ssn flags data
      (P := fun final after _ => ReleasedTo ssn final data after ∧
        after.reorderBuf.bufSize = data.reorderBuf.bufSize ∧
        SlotAligned data.reorderBuf.bufSize final ∧
        ieee80211SnSub final ssn + ieee80211SnSub nssn final = ieee80211SnSub nssn ssn)
      (fun final after _ kept less => by
        obtain ⟨released, sameSize, aligned, total⟩ := kept
        have ahead := iwlMvmIsSnLess_pos less
        have closer := ieee80211SnSub_snInc ahead
        have bound : ieee80211SnSub nssn ssn < 4096 := ieee80211SnSub_lt
        refine ⟨released.pass sameSize aligned (by omega), by simpa using sameSize,
          .of_lt ieee80211SnInc_lt, ?_⟩
        have way := ieee80211SnSub_trans (a := ssn) (b := ieee80211SnInc final) (c := nssn)
        have further : ieee80211SnSub (ieee80211SnInc final) ssn =
            (ieee80211SnSub (ieee80211SnInc final) final + ieee80211SnSub final ssn) % 4096 :=
          ieee80211SnSub_trans
        rw [ieee80211SnSub_snInc_self] at further
        omega)
      ⟨.start, rfl, aligned, by simp⟩
  have arrived : ieee80211SnSub nssn final = 0 := by
    rcases (iwlMvmIsSnLess_eq_false_iff small).mp done with arrived | far
    · exact arrived
    · omega
  have same : ieee80211SnSub final ssn = ieee80211SnSub nssn ssn := by omega
  exact ⟨same ▸ released.emptied, same ▸ released.kept⟩

/-! ## The release -/

/-- A release moves the head, the count and the timer, and no reorder time. -/
theorem iwlMvmReleaseFrames_frame (hz nssn : Nat) (flags : IwlMvmReleaseFlags)
    (data : IwlMvmBaidData) :
    (∃ headSn numStored reorderTimer,
      (iwlMvmReleaseFrames hz data nssn flags).1.reorderBuf =
        { data.reorderBuf with headSn, numStored, reorderTimer }) ∧
      ∀ i, ((iwlMvmReleaseFrames hz data nssn flags).1.entries i).reorderTime =
        (data.entries i).reorderTime := by
  simp only [iwlMvmReleaseFrames]
  split
  · exact ⟨⟨_, _, _, rfl⟩, fun _ => rfl⟩
  split
  · exact ⟨⟨_, _, _, rfl⟩, fun _ => rfl⟩
  · obtain ⟨⟨numStored, buf⟩, times⟩ := releaseLoop_frame nssn flags
      (ieee80211SnSub nssn data.reorderBuf.headSn) data.reorderBuf.headSn data
    have after := setTimer_reorderBuf hz ((releaseLoop nssn flags
      (ieee80211SnSub nssn data.reorderBuf.headSn) data.reorderBuf.headSn data).1.setHeadSn nssn)
    rw [IwlMvmBaidData.setHeadSn_reorderBuf, buf] at after
    exact ⟨⟨nssn, numStored, _, after⟩, times⟩

@[simp] theorem iwlMvmReleaseFrames_bufSize :
    (iwlMvmReleaseFrames hz data nssn flags).1.reorderBuf.bufSize =
      data.reorderBuf.bufSize := by
  obtain ⟨⟨_, _, _, buf⟩, -⟩ := iwlMvmReleaseFrames_frame hz nssn flags data
  rw [buf]

theorem Counted.release (counted : Counted data) (room : 0 < data.reorderBuf.bufSize)
    (hz nssn : Nat) (flags : IwlMvmReleaseFlags) :
    Counted (iwlMvmReleaseFrames hz data nssn flags).1 := by
  simp only [iwlMvmReleaseFrames]
  split
  · exact counted
  split
  · exact counted
  · exact counted.releaseLoop room nssn _ flags

/-- An NSSN at most one buffer ahead of the head. -/
theorem iwlMvmReleaseFrames_of_near (small : data.reorderBuf.bufSize < 2048)
    (near : ieee80211SnSub nssn data.reorderBuf.headSn ≤ data.reorderBuf.bufSize) :
    iwlMvmReleaseFrames hz data nssn flags =
      let released := releaseLoop nssn flags
        (ieee80211SnSub nssn data.reorderBuf.headSn) data.reorderBuf.headSn data
      (setTimer hz (released.1.setHeadSn nssn), released.2) := by
  have notSync : ieee80211SnLess nssn data.reorderBuf.headSn = false :=
    ieee80211SnLess_eq_false_iff.mpr (by omega)
  have notBehind :
      iwlMvmIsSnLess nssn data.reorderBuf.headSn data.reorderBuf.bufSize = false := by
    rw [iwlMvmIsSnLess_eq_false_iff small, ieee80211SnSub_swap]
    omega
  simp [iwlMvmReleaseFrames, notSync, notBehind]

/-- An NSSN at most one buffer behind the head is ignored. -/
theorem iwlMvmReleaseFrames_of_behind (small : data.reorderBuf.bufSize < 2048)
    (behind : 4096 ≤ ieee80211SnSub nssn data.reorderBuf.headSn + data.reorderBuf.bufSize) :
    iwlMvmReleaseFrames hz data nssn flags = (setTimer hz data, []) := by
  have bound : ieee80211SnSub nssn data.reorderBuf.headSn < 4096 := ieee80211SnSub_lt
  have ignored :
      iwlMvmIsSnLess nssn data.reorderBuf.headSn data.reorderBuf.bufSize = true := by
    rw [iwlMvmIsSnLess_iff small, ieee80211SnSub_swap]
    omega
  simp [iwlMvmReleaseFrames, ignored]

/-- Any other NSSN moves the head and releases nothing. -/
theorem iwlMvmReleaseFrames_of_jump (small : data.reorderBuf.bufSize < 2048)
    (far : data.reorderBuf.bufSize < ieee80211SnSub nssn data.reorderBuf.headSn)
    (notBehind : ieee80211SnSub nssn data.reorderBuf.headSn + data.reorderBuf.bufSize < 4096)
    (ahead : flags.fromRssSync = true → ieee80211SnSub nssn data.reorderBuf.headSn ≤ 2048) :
    iwlMvmReleaseFrames hz data nssn flags = (setTimer hz (data.setHeadSn nssn), []) := by
  have notSync :
      (flags.fromRssSync && ieee80211SnLess nssn data.reorderBuf.headSn) = false := by
    cases sync : flags.fromRssSync with
    | false => rfl
    | true => simpa using ieee80211SnLess_eq_false_iff.mpr (ahead sync)
  have notIgnored :
      iwlMvmIsSnLess nssn data.reorderBuf.headSn data.reorderBuf.bufSize = false := by
    rw [iwlMvmIsSnLess_eq_false_iff small, ieee80211SnSub_swap]
    omega
  have stays :
      iwlMvmIsSnLess data.reorderBuf.headSn nssn data.reorderBuf.bufSize = false :=
    (iwlMvmIsSnLess_eq_false_iff small).mpr (.inr far)
  obtain ⟨passes, more⟩ : ∃ passes, ieee80211SnSub nssn data.reorderBuf.headSn = passes + 1 :=
    ⟨_, (Nat.succ_pred_eq_of_pos (by omega)).symm⟩
  simp [iwlMvmReleaseFrames, notSync, notIgnored, more, releaseLoop, stays]

end Iwlwifi
