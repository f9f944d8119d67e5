import Iwlwifi.Mvm.ReorderRelease

/-!
# What an event does to a session

Inversion lemmas for `iwl_mvm_reorder` and for the events of a session: each says all
that can happen, so that an invariant is proved by one case analysis per lemma and the
definitions are not unfolded again.
-/

namespace Iwlwifi

open Lib Function

variable {hz jiffies baid nssn : Nat} {data : IwlMvmBaidData} {skb : RxMpdu}

/-! ## The session of a frame -/

/-- A frame that reaches the buffer's lock is a unicast QoS data frame of the session. -/
theorem reorderSession_some {baidMap : Nat → Option IwlMvmBaidData} {sta : Option Nat}
    (found : reorderSession baidMap sta skb = some data) :
    baidMap (baidIndex skb) = some data ∧ sta = some data.staId ∧ skb.tid = data.tid ∧
      ieee80211IsDataQos skb.frameControl = true ∧
      ieee80211IsBackReq skb.frameControl = false ∧ skb.multicast = false := by
  unfold reorderSession at found
  split at found
  · cases found
  cases sta with
  | none => cases found
  | some staId =>
    simp only at found
    split at found
    · cases found
    rename_i wanted
    split at found
    · cases found
    rename_i present
    have notBar : ieee80211IsBackReq skb.frameControl = false := by
      by_contra bar
      exact present (by simp [ieee80211IsDataPresent_of_isBackReq (by simpa using bar)])
    cases known : baidMap (baidIndex skb) with
    | none => simp [known] at found
    | some session =>
      simp only [known] at found
      split at found
      · cases found
      rename_i mine
      cases found
      simp only [notBar, Bool.not_false, Bool.true_and, Bool.or_eq_true,
        Bool.not_eq_true', not_or, Bool.not_eq_true, Bool.not_eq_false] at wanted
      simp only [Bool.or_eq_true, bne_iff_ne, ne_eq, not_or, not_not] at mine
      exact ⟨rfl, by rw [mine.2], mine.1, wanted.1, notBar, wanted.2⟩

/-! ## The window adjustment -/

/-- Where a jump to `nssn` leaves the head: an NSSN behind it is ignored. -/
def headAfterJump (buf : IwlMvmReorderBuffer) (nssn : Nat) : Nat :=
  if iwlMvmIsSnLess nssn buf.headSn buf.bufSize then buf.headSn else nssn

theorem iwlMvmReleaseFrames_headSn (hz : Nat) :
    (iwlMvmReleaseFrames hz data nssn { sendRssSync := true }).1.reorderBuf.headSn =
      headAfterJump data.reorderBuf nssn := by
  simp only [iwlMvmReleaseFrames, headAfterJump, Bool.false_and, Bool.false_eq_true, if_false]
  split <;> rfl

/-- Where the window adjustment leaves the head. -/
def headAfterAdjust (buf : IwlMvmReorderBuffer) (skb : RxMpdu) : Nat :=
  if windowJump buf skb then headAfterJump buf (minSn skb) else buf.headSn

theorem adjustWindow_headSn :
    (adjustWindow hz data skb).1.reorderBuf.headSn = headAfterAdjust data.reorderBuf skb := by
  unfold adjustWindow headAfterAdjust
  split
  · exact iwlMvmReleaseFrames_headSn hz
  · rfl

/-! ## The old-SN workaround -/

/-- The session with other values in the three fields of the workaround. -/
def IwlMvmBaidData.withOldsn (data : IwlMvmBaidData) (drops gp2 : Nat) (prev : Bool) :
    IwlMvmBaidData :=
  { data with
    reorderBuf :=
      { data.reorderBuf with
        consecOldsnDrops := drops, consecOldsnAmpduGp2 := gp2, consecOldsnPrevDrop := prev } }

/-- The workaround moves only its own three fields and hands no frame over. -/
theorem iwlMvmOldsnWorkaround_frame (data : IwlMvmBaidData) (skb : RxMpdu) :
    (∃ drops gp2 prev, (iwlMvmOldsnWorkaround data skb).1 = data.withOldsn drops gp2 prev) ∧
      (iwlMvmOldsnWorkaround data skb).2.filterMap RxOutput.passed = [] := by
  simp only [iwlMvmOldsnWorkaround]
  split
  · exact ⟨⟨_, _, _, rfl⟩, rfl⟩
  split
  · exact ⟨⟨_, _, _, rfl⟩, rfl⟩
  split
  · exact ⟨⟨_, _, _, rfl⟩, rfl⟩
  · exact ⟨⟨_, _, _, rfl⟩, rfl⟩

/-! ## Placing a frame -/

theorem storeFrame_slots (jiffies : Nat) (data : IwlMvmBaidData) (skb : RxMpdu) :
    (storeFrame jiffies data skb).slots =
      update data.slots (skb.sn % data.reorderBuf.bufSize)
        (data.slots (skb.sn % data.reorderBuf.bufSize) ++ [skb]) := by
  funext i
  by_cases same : i = skb.sn % data.reorderBuf.bufSize
  · subst same
    simp [storeFrame, IwlMvmBaidData.slots]
  · simp [storeFrame, IwlMvmBaidData.slots, same]

@[simp] theorem storeFrame_headSn :
    (storeFrame jiffies data skb).reorderBuf.headSn = data.reorderBuf.headSn := rfl

@[simp] theorem storeFrame_bufSize :
    (storeFrame jiffies data skb).reorderBuf.bufSize = data.reorderBuf.bufSize := rfl

theorem Counted.store (counted : Counted data) (room : 0 < data.reorderBuf.bufSize) :
    Counted (storeFrame jiffies data skb) := by
  have index : skb.sn % data.reorderBuf.bufSize < data.reorderBuf.bufSize := Nat.mod_lt _ room
  have added := held_update data.slots index
    (data.slots (skb.sn % data.reorderBuf.bufSize) ++ [skb])
  simp only [Counted, storeFrame_slots] at *
  simp only [List.length_append, List.length_singleton, storeFrame] at *
  omega

theorem retransmission_iff :
    retransmission data skb = true ↔
      data.slots (skb.sn % data.reorderBuf.bufSize) ≠ [] ∧
        (skb.amsdu = false ∨ skb.sn ≠ data.reorderBuf.lastAmsdu ∨
          skb.subFrameIdx ≤ data.reorderBuf.lastSubIndex) := by
  simp [retransmission, or_assoc]

/-- The ways through the last part of `iwl_mvm_reorder`. -/
inductive Placed (hz jiffies baid : Nat) (data : IwlMvmBaidData) (skb : RxMpdu) :
    ReorderResult → Prop
  /-- The SN is behind the head. -/
  | outdated : ieee80211SnLess skb.sn data.reorderBuf.headSn = true →
      Placed hz jiffies baid data skb ⟨true, data, []⟩
  /-- Nothing is held and the NSSN lets the frame through; the head follows the NSSN. -/
  | passMove : ieee80211SnLess skb.sn data.reorderBuf.headSn = false →
      data.reorderBuf.numStored = 0 → ieee80211SnLess skb.sn skb.nssn = true →
      iwlMvmIsSnLess data.reorderBuf.headSn skb.nssn data.reorderBuf.bufSize = true →
      (skb.amsdu = false ∨ skb.lastSubframe = true) →
      Placed hz jiffies baid data skb
        ⟨false, data.setHeadSn skb.nssn, crossSync baid skb.sn⟩
  /-- The same, and the head stays. -/
  | passStay : ieee80211SnLess skb.sn data.reorderBuf.headSn = false →
      data.reorderBuf.numStored = 0 → ieee80211SnLess skb.sn skb.nssn = true →
      (iwlMvmIsSnLess data.reorderBuf.headSn skb.nssn data.reorderBuf.bufSize = false ∨
        (skb.amsdu = true ∧ skb.lastSubframe = false)) →
      Placed hz jiffies baid data skb ⟨false, data, []⟩
  /-- Nothing is held and the frame is the next one; the head moves past it. -/
  | nextMove : data.reorderBuf.numStored = 0 →
      ieee80211SnLess skb.sn skb.nssn = false → skb.sn = data.reorderBuf.headSn →
      (skb.amsdu = false ∨ skb.lastSubframe = true) →
      Placed hz jiffies baid data skb
        ⟨false, data.setHeadSn (ieee80211SnInc data.reorderBuf.headSn),
          crossSync baid skb.sn⟩
  /-- The same for an A-MSDU sub-frame that is not the last. -/
  | nextStay : data.reorderBuf.numStored = 0 →
      ieee80211SnLess skb.sn skb.nssn = false → skb.sn = data.reorderBuf.headSn →
      skb.amsdu = true → skb.lastSubframe = false →
      Placed hz jiffies baid data skb ⟨false, data, []⟩
  /-- The slot holds something the frame does not continue. -/
  | repeated : ieee80211SnLess skb.sn data.reorderBuf.headSn = false →
      retransmission data skb = true →
      Placed hz jiffies baid data skb ⟨true, data, []⟩
  /-- The frame is stored and everything up to its NSSN released. -/
  | storedReleased : ieee80211SnLess skb.sn data.reorderBuf.headSn = false →
      (data.reorderBuf.numStored = 0 → ieee80211SnLess skb.sn skb.nssn = false ∧
        skb.sn ≠ data.reorderBuf.headSn) →
      retransmission data skb = false → (skb.amsdu = false ∨ skb.lastSubframe = true) →
      Placed hz jiffies baid data skb
        ⟨true,
          (iwlMvmReleaseFrames hz (storeFrame jiffies data skb) skb.nssn
            { sendRssSync := true }).1,
          (iwlMvmReleaseFrames hz (storeFrame jiffies data skb) skb.nssn
            { sendRssSync := true }).2⟩
  /-- A sub-frame that is not the last is stored and nothing released. -/
  | stored : ieee80211SnLess skb.sn data.reorderBuf.headSn = false →
      (data.reorderBuf.numStored = 0 → ieee80211SnLess skb.sn skb.nssn = false ∧
        skb.sn ≠ data.reorderBuf.headSn) →
      retransmission data skb = false → skb.amsdu = true → skb.lastSubframe = false →
      Placed hz jiffies baid data skb ⟨true, storeFrame jiffies data skb, []⟩

theorem placeFrame_placed (hz jiffies baid : Nat) (data : IwlMvmBaidData) (skb : RxMpdu) :
    Placed hz jiffies baid data skb (placeFrame hz jiffies baid data skb) := by
  have last : ∀ held : ¬(!skb.amsdu || skb.lastSubframe) = true,
      skb.amsdu = true ∧ skb.lastSubframe = false := by simp
  have whole : ∀ ends : (!skb.amsdu || skb.lastSubframe) = true,
      skb.amsdu = false ∨ skb.lastSubframe = true := by simp
  simp only [placeFrame]
  split
  · next behind => exact .outdated behind
  next notBehind =>
  have notBehind := Bool.eq_false_of_not_eq_true notBehind
  split
  · next pass =>
      simp only [Bool.and_eq_true, beq_iff_eq] at pass
      split
      · next move =>
          rw [Bool.and_eq_true] at move
          exact .passMove notBehind pass.1 pass.2 move.1 (whole move.2)
      · next stay =>
          rw [Bool.and_eq_true, not_and_or] at stay
          exact .passStay notBehind pass.1 pass.2
            (stay.imp Bool.eq_false_of_not_eq_true (last ·))
  next notPass =>
  simp only [Bool.and_eq_true, beq_iff_eq, not_and, Bool.not_eq_true] at notPass
  split
  · next isNext =>
      simp only [Bool.and_eq_true, beq_iff_eq] at isNext
      split
      · next move => exact .nextMove isNext.1 (notPass isNext.1) isNext.2 (whole move)
      · next stay =>
          exact .nextStay isNext.1 (notPass isNext.1) isNext.2 (last stay).1 (last stay).2
  next notNext =>
  simp only [Bool.and_eq_true, beq_iff_eq, not_and] at notNext
  have occupied := fun empty => And.intro (notPass empty) (notNext empty)
  split
  · next again => exact .repeated notBehind again
  next fresh =>
  have fresh := Bool.eq_false_of_not_eq_true fresh
  split
  · next ends => exact .storedReleased notBehind occupied fresh (whole ends)
  · next held => exact .stored notBehind occupied fresh (last held).1 (last held).2

/-! ## Under the lock -/

/-- A frame that is no block-ack request either finds the session not yet valid and too
old, or goes through the window adjustment, the workaround and its placing. -/
theorem reorderLocked_cases (hz jiffies baid : Nat) (data : IwlMvmBaidData)
    (notBar : ieee80211IsBackReq skb.frameControl = false) :
    (data.reorderBuf.valid = false ∧ skb.baOldSn = true ∧
      reorderLocked hz jiffies baid data skb = ⟨false, data, []⟩) ∨
    ((data.reorderBuf.valid = true ∨ skb.baOldSn = false) ∧
      ∃ drops gp2 prev notes placed,
        Placed hz jiffies baid
          ((adjustWindow hz data.setValid skb).1.withOldsn drops gp2 prev) skb placed ∧
        notes.filterMap RxOutput.passed = [] ∧
        reorderLocked hz jiffies baid data skb =
          { placed with
            outputs := (adjustWindow hz data.setValid skb).2 ++ notes ++ placed.outputs }) := by
  by_cases early : data.reorderBuf.valid = false ∧ skb.baOldSn = true
  · exact .inl ⟨early.1, early.2, by simp [reorderLocked, early.1, early.2]⟩
  · right
    have goesOn : data.reorderBuf.valid = true ∨ skb.baOldSn = false := by
      cases valid : data.reorderBuf.valid <;> simp_all
    have late : (!data.reorderBuf.valid && skb.baOldSn) = false := by
      rcases goesOn with valid | fresh
      · simp [valid]
      · simp [fresh]
    obtain ⟨⟨drops, gp2, prev, counted⟩, notes⟩ :=
      iwlMvmOldsnWorkaround_frame (adjustWindow hz data.setValid skb).1 skb
    refine ⟨goesOn, drops, gp2, prev, _, _, placeFrame_placed hz jiffies baid _ skb, notes, ?_⟩
    simp only [reorderLocked, late, notBar, Bool.false_eq_true, if_false, ← counted]

/-! ## Events -/

namespace RxSession

variable {s : RxSession}

/-- The events that reach the session and what each leaves behind. -/
inductive Handled (hz : Nat) (s : RxSession) : RxEvent → IwlMvmBaidData × List RxOutput → Prop
  | frame (sta : Option Nat) (skb : RxMpdu) : reorderSession s.baidMap sta skb = some s.data →
      Handled hz s (.frame sta skb)
        ((reorderLocked hz s.jiffies (baidIndex skb) s.data skb).data,
          (reorderLocked hz s.jiffies (baidIndex skb) s.data skb).outputs)
  | frameRelease (fwIdToMacId : Nat → Bool) (nssn : Nat) :
      fwIdToMacId s.data.staId = true →
      Handled hz s (.frameRelease fwIdToMacId s.data.baid nssn)
        (iwlMvmReleaseFrames hz s.data nssn {})
  | nssnSync (fwIdToMacId : Nat → Bool) (nssn : Nat) :
      fwIdToMacId s.data.staId = true →
      Handled hz s (.nssnSync fwIdToMacId s.data.baid nssn)
        (iwlMvmReleaseFrames hz s.data nssn { fromRssSync := true })
  | timerExpired :
      Handled hz s .timerExpired (iwlMvmReorderTimerExpired hz s.jiffies s.timerTaken)
  | delBa (fwIdToMacId : Nat → Bool) : fwIdToMacId s.data.staId = true →
      Handled hz s (.delBa fwIdToMacId s.data.baid)
        ((iwlMvmReleaseFrames hz s.data
            (ieee80211SnAdd s.data.reorderBuf.headSn s.data.reorderBuf.bufSize)
            {}).1.setTimerPending none,
          (iwlMvmReleaseFrames hz s.data
            (ieee80211SnAdd s.data.reorderBuf.headSn s.data.reorderBuf.bufSize) {}).2)

theorem baidMap_some {b : Nat} (found : s.baidMap b = some data) :
    b = s.data.baid ∧ data = s.data := by
  unfold baidMap at found
  split at found
  · next same => exact ⟨same, (Option.some.inj found).symm⟩
  · cases found

/-- A notification that touches a session found it under its BAID, with its station. -/
theorem releaseFramesFromNotif_some {fwIdToMacId : Nat → Bool} {b nssn : Nat}
    {flags : IwlMvmReleaseFlags} {after : IwlMvmBaidData × List RxOutput}
    (touched : iwlMvmReleaseFramesFromNotif hz s.baidMap fwIdToMacId b nssn flags =
      some after) :
    b = s.data.baid ∧ fwIdToMacId s.data.staId = true ∧
      after = iwlMvmReleaseFrames hz s.data nssn flags := by
  unfold iwlMvmReleaseFramesFromNotif at touched
  split at touched
  · cases touched
  cases found : s.baidMap b with
  | none => simp [found] at touched
  | some session =>
    obtain ⟨same, rfl⟩ := baidMap_some found
    simp only [found] at touched
    split at touched
    · cases touched
    next known => exact ⟨same, by simpa using known, (Option.some.inj touched).symm⟩

theorem handle_handled {event : RxEvent} {after : IwlMvmBaidData × List RxOutput}
    (handled : s.handle hz event = some after) : Handled hz s event after := by
  cases event with
  | elapse ticks => cases handled
  | frame sta skb =>
    simp only [handle, iwlMvmReorder, Option.map_map, Option.map_eq_some_iff] at handled
    obtain ⟨session, found, rfl⟩ := handled
    obtain ⟨known, -⟩ := reorderSession_some found
    obtain ⟨-, rfl⟩ := baidMap_some known
    exact .frame sta skb found
  | frameRelease fwIdToMacId b nssn =>
    obtain ⟨rfl, known, rfl⟩ := releaseFramesFromNotif_some handled
    exact .frameRelease fwIdToMacId nssn known
  | nssnSync fwIdToMacId b nssn =>
    obtain ⟨rfl, known, rfl⟩ := releaseFramesFromNotif_some handled
    exact .nssnSync fwIdToMacId nssn known
  | timerExpired =>
    cases handled
    exact .timerExpired
  | delBa fwIdToMacId b =>
    simp only [handle, iwlMvmDelBa] at handled
    split at handled
    · cases handled
    cases found : s.baidMap b with
    | none => simp [found] at handled
    | some session =>
      obtain ⟨rfl, rfl⟩ := baidMap_some found
      simp only [found] at handled
      split at handled
      · cases handled
      next known =>
        cases handled
        exact .delBa fwIdToMacId (by simpa using known)

/-- An invariant of the session is kept by an event when it is kept by the handling. -/
theorem step_of_handled {Inv : IwlMvmBaidData → Prop} {event : RxEvent}
    (start : Inv s.data) (keep : ∀ after, Handled hz s event after → Inv after.1) :
    Inv (s.step hz event).data := by
  cases handled : s.handle hz event with
  | none => simpa [step, handled] using start
  | some after => simpa [step, handled] using keep after (handle_handled handled)

theorem timerTaken_eq (s : RxSession) :
    ∃ reorderTimer, s.timerTaken = s.data.setTimerPending reorderTimer := by
  unfold timerTaken
  split
  · exact ⟨s.data.reorderBuf.reorderTimer, rfl⟩
  · split
    · exact ⟨_, rfl⟩
    · exact ⟨s.data.reorderBuf.reorderTimer, rfl⟩

end RxSession

/-! ## What every event keeps -/

/-- A property of a session that each of the updates an event is made of keeps. -/
structure Stable (hz jiffies : Nat) (Inv : IwlMvmBaidData → Prop) : Prop where
  release : ∀ data nssn flags, Inv data → Inv (iwlMvmReleaseFrames hz data nssn flags).1
  setHeadSn : ∀ data headSn, Inv data → Inv (data.setHeadSn headSn)
  setTimerPending : ∀ data reorderTimer, Inv data → Inv (data.setTimerPending reorderTimer)
  setValid : ∀ data, Inv data → Inv data.setValid
  withOldsn : ∀ data drops gp2 prev, Inv data → Inv (data.withOldsn drops gp2 prev)
  store : ∀ data skb, retransmission data skb = false → Inv data →
    Inv (storeFrame jiffies data skb)

namespace Stable

variable {Inv : IwlMvmBaidData → Prop} {s : RxSession}

theorem adjustWindow (stable : Stable hz jiffies Inv) (start : Inv data) (skb : RxMpdu) :
    Inv (adjustWindow hz data skb).1 := by
  unfold Iwlwifi.adjustWindow
  split
  · exact stable.release _ _ _ start
  · exact start

theorem placed {result : ReorderResult} (stable : Stable hz jiffies Inv)
    (placed : Placed hz jiffies baid data skb result) (start : Inv data) :
    Inv result.data := by
  cases placed with
  | outdated => exact start
  | passMove => exact stable.setHeadSn _ _ start
  | passStay => exact start
  | nextMove => exact stable.setHeadSn _ _ start
  | nextStay => exact start
  | repeated => exact start
  | storedReleased _ _ fresh => exact stable.release _ _ _ (stable.store _ _ fresh start)
  | stored _ _ fresh => exact stable.store _ _ fresh start

theorem reorderLocked (stable : Stable hz jiffies Inv)
    (notBar : ieee80211IsBackReq skb.frameControl = false) (start : Inv data) :
    Inv (reorderLocked hz jiffies baid data skb).data := by
  rcases reorderLocked_cases hz jiffies baid data notBar with
    ⟨-, -, early⟩ | ⟨-, drops, gp2, prev, notes, result, placed, -, run⟩
  · rw [early]
    exact start
  · rw [run]
    have adjusted := stable.adjustWindow (stable.setValid _ start) skb
    change Inv result.data
    exact stable.placed placed (stable.withOldsn _ _ _ _ adjusted)

theorem timerExpired (stable : Stable hz jiffies Inv) (start : Inv data) :
    Inv (iwlMvmReorderTimerExpired hz jiffies data).1 := by
  simp only [iwlMvmReorderTimerExpired]
  split
  · exact start
  split
  · exact stable.release _ _ _ start
  · exact stable.setTimerPending _ _ start

/-- Every event keeps a stable property. -/
theorem step (stable : Stable hz s.jiffies Inv) (start : Inv s.data) (event : RxEvent) :
    Inv (s.step hz event).data := by
  refine RxSession.step_of_handled start fun after handled => ?_
  cases handled with
  | frame sta skb found =>
    exact stable.reorderLocked (reorderSession_some found).2.2.2.2.1 start
  | frameRelease => exact stable.release _ _ _ start
  | nssnSync => exact stable.release _ _ _ start
  | timerExpired =>
    obtain ⟨reorderTimer, taken⟩ := s.timerTaken_eq
    rw [taken]
    exact stable.timerExpired (stable.setTimerPending _ _ start)
  | delBa => exact stable.setTimerPending _ _ (stable.release _ _ _ start)

end Stable

theorem stable_bufSize (hz jiffies bufSize : Nat) :
    Stable hz jiffies fun data => data.reorderBuf.bufSize = bufSize where
  release _ _ _ same := iwlMvmReleaseFrames_bufSize.trans same
  setHeadSn _ _ same := same
  setTimerPending _ _ same := same
  setValid _ same := same
  withOldsn _ _ _ _ same := same
  store _ _ _ same := same

/-- The size of a buffer never changes. -/
theorem RxSession.step_bufSize (s : RxSession) (event : RxEvent) :
    (s.step hz event).data.reorderBuf.bufSize = s.data.reorderBuf.bufSize :=
  (stable_bufSize hz s.jiffies _).step rfl event

/-- The count of the frames held is right in every state. -/
theorem stable_counted (hz jiffies : Nat) :
    Stable hz jiffies fun data => Counted data ∧ 0 < data.reorderBuf.bufSize where
  release _ _ _ start :=
    ⟨start.1.release start.2 hz _ _, by rw [iwlMvmReleaseFrames_bufSize]; exact start.2⟩
  setHeadSn _ _ start := start
  setTimerPending _ _ start := start
  setValid _ start := start
  withOldsn _ _ _ _ start := start
  store _ _ _ start := ⟨start.1.store start.2, start.2⟩

/-! ## The count fits its type -/

/-- A slot is filled once, by one frame that is no sub-frame or by sub-frames with rising
indices, so it never holds more than 129 frames. -/
structure SlotsBounded (data : IwlMvmBaidData) : Prop where
  total : ∀ i, (data.slots i).length ≤ 129
  current : (data.slots (data.reorderBuf.lastAmsdu % data.reorderBuf.bufSize)).length ≤
    data.reorderBuf.lastSubIndex + 2

theorem iwlMvmReleaseFrames_slots_or (hz nssn : Nat) (flags : IwlMvmReleaseFlags)
    (data : IwlMvmBaidData) (i : Nat) :
    (iwlMvmReleaseFrames hz data nssn flags).1.slots i = data.slots i ∨
      (iwlMvmReleaseFrames hz data nssn flags).1.slots i = [] := by
  simp only [iwlMvmReleaseFrames]
  split
  · exact .inl rfl
  split
  · exact .inl rfl
  obtain ⟨_, kept, -⟩ := releaseLoop_end nssn data.reorderBuf.headSn flags data
    (P := fun _ after _ => after.slots i = data.slots i ∨ after.slots i = [])
    (fun ssn after _ kept _ => by
      rw [releaseSlot_slots]
      by_cases same : i = ssn % after.reorderBuf.bufSize
      · subst same
        exact .inr (update_self _ _ _)
      · rwa [update_of_ne same])
    (.inl rfl)
  exact kept

theorem SlotsBounded.release (bounded : SlotsBounded data) (nssn : Nat)
    (flags : IwlMvmReleaseFlags) :
    SlotsBounded (iwlMvmReleaseFrames hz data nssn flags).1 := by
  obtain ⟨⟨_, _, _, buf⟩, -⟩ := iwlMvmReleaseFrames_frame hz nssn flags data
  refine ⟨fun i => ?_, ?_⟩
  · rcases iwlMvmReleaseFrames_slots_or hz nssn flags data i with same | emptied
    · exact same ▸ bounded.total i
    · simp [emptied]
  · rw [buf]
    rcases iwlMvmReleaseFrames_slots_or hz nssn flags data
      (data.reorderBuf.lastAmsdu % data.reorderBuf.bufSize) with same | emptied
    · exact same ▸ bounded.current
    · simp [emptied]

theorem SlotsBounded.store (bounded : SlotsBounded data)
    (fresh : retransmission data skb = false) : SlotsBounded (storeFrame jiffies data skb) := by
  have index := skb.subFrameIdx_lt
  rw [← Bool.not_eq_true, retransmission_iff, not_and_or, not_not] at fresh
  have added : (data.slots (skb.sn % data.reorderBuf.bufSize)).length + 1 ≤ 129 ∧
      (skb.amsdu = true →
        (data.slots (skb.sn % data.reorderBuf.bufSize)).length + 1 ≤ skb.subFrameIdx + 2) ∧
      (skb.amsdu = false →
        data.slots (skb.sn % data.reorderBuf.bufSize) = []) := by
    rcases fresh with empty | continues
    · simp [empty]
    · simp only [not_or, not_not, not_le, Bool.not_eq_false] at continues
      obtain ⟨amsdu, same, rising⟩ := continues
      have current := bounded.current
      rw [← same] at current
      exact ⟨by omega, fun _ => by omega, by simp [amsdu]⟩
  have slots := storeFrame_slots jiffies data skb
  refine ⟨fun i => ?_, ?_⟩
  · rw [slots]
    by_cases same : i = skb.sn % data.reorderBuf.bufSize
    · subst same
      simpa using added.1
    · rw [update_of_ne same]
      exact bounded.total i
  · rw [slots]
    cases amsdu : skb.amsdu with
    | true => simpa [storeFrame, amsdu] using added.2.1 amsdu
    | false =>
      have empty := added.2.2 amsdu
      have current := bounded.current
      by_cases same : data.reorderBuf.lastAmsdu % data.reorderBuf.bufSize =
          skb.sn % data.reorderBuf.bufSize
      · simp [storeFrame, amsdu, same, empty]
      · simpa [storeFrame, amsdu, update_of_ne same] using current

theorem stable_slotsBounded (hz jiffies : Nat) : Stable hz jiffies SlotsBounded where
  release _ _ _ bounded := bounded.release _ _
  setHeadSn _ _ bounded := ⟨bounded.total, bounded.current⟩
  setTimerPending _ _ bounded := ⟨bounded.total, bounded.current⟩
  setValid _ bounded := ⟨bounded.total, bounded.current⟩
  withOldsn _ _ _ _ bounded := ⟨bounded.total, bounded.current⟩
  store _ _ fresh bounded := bounded.store fresh

/-- In every state of every session with at most 256 slots `num_stored` fits a `u16`. -/
theorem numStored_lt_of_run (hz jiffies staId tid baid ssn : Nat) {bufSize : Nat}
    (room : 0 < bufSize) (atMost : bufSize ≤ 256) (events : List RxEvent) :
    (events.foldl (RxSession.step hz)
      (RxSession.init jiffies staId tid baid ssn bufSize)).data.reorderBuf.numStored <
        65536 := by
  have reached : ∀ s : RxSession, Counted s.data ∧ 0 < s.data.reorderBuf.bufSize →
      SlotsBounded s.data → s.data.reorderBuf.bufSize = bufSize →
      (events.foldl (RxSession.step hz) s).data.reorderBuf.numStored < 65536 := by
    induction events with
    | nil =>
      intro s counted bounded size
      have total : held s.data.slots s.data.reorderBuf.bufSize ≤ _ :=
        held_le_mul fun i _ => bounded.total i
      have count := counted.1
      simp only [Counted] at count
      simp only [List.foldl_nil]
      omega
    | cons event rest ih =>
      intro s counted bounded size
      exact ih _ ((stable_counted hz s.jiffies).step counted event)
        ((stable_slotsBounded hz s.jiffies).step bounded event)
        ((s.step_bufSize event).trans size)
  exact reached _ ⟨(held_eq_zero_iff.mpr fun _ _ => rfl).symm, room⟩
    ⟨fun _ => Nat.zero_le _, Nat.zero_le _⟩ rfl

/-- Two sub-frames of one A-MSDU share a slot, and a frame takes another. -/
def amsduAndFrame : List RxEvent :=
  [.frame (some 0) (.qosData 5 3 0x40 0), .frame (some 0) (.qosData 5 3 0x40 0x81),
    .frame (some 0) (.qosData 8 3 0 0)]

theorem numStored_lt_of_run_amsdu :
    (amsduAndFrame.foldl (RxSession.step 250)
        (RxSession.init 0 0 0 0 3 64)).data.reorderBuf.numStored = 3 ∧
      (amsduAndFrame.foldl (RxSession.step 250)
        (RxSession.init 0 0 0 0 3 64)).data.reorderBuf.numStored < 65536 :=
  ⟨by decide +kernel, numStored_lt_of_run 250 0 0 0 0 3 (by decide) (by decide) amsduAndFrame⟩

end Iwlwifi
