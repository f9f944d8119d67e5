import Iwlwifi.Lib.Run
import Iwlwifi.Mvm.ReorderStep

/-!
# A non-empty buffer has its timer pending

The timer of a reorder buffer is armed at the end of every release and by its own
handler.  `iwl_mvm_reorder` stores an A-MSDU sub-frame that is not the last one without a
release: into a buffer that holds frames this is harmless, since the timer is already
pending for a frame that was stored earlier, but into an empty buffer it leaves the frame
without a timer.  `TimerKept` says of the state before an event that this does not happen,
and every run of such events keeps the timer pending (`timerPending_of_timerKept`).

The result holds for every buffer size: nothing here depends on the window.
-/

namespace Iwlwifi

open Lib Function

variable {hz jiffies baid bufSize nssn k passes : Nat} {flags : IwlMvmReleaseFlags}
  {data : IwlMvmBaidData} {skb : RxMpdu}

/-! ## The first occupied slot -/

/-- The `k`-th slot from the head on is occupied and the ones before it are not. -/
structure FirstOccupiedAt (data : IwlMvmBaidData) (k : Nat) : Prop where
  bound : k < data.reorderBuf.bufSize
  occupied : data.slots ((data.reorderBuf.headSn + k) % data.reorderBuf.bufSize) ≠ []
  holes : ∀ j < k, data.slots ((data.reorderBuf.headSn + j) % data.reorderBuf.bufSize) = []

/-- The pending timer is due no later than the first occupied slot asks for. -/
def TimerPending (hz : Nat) (data : IwlMvmBaidData) : Prop :=
  data.reorderBuf.numStored ≠ 0 → data.reorderBuf.removed = false →
    ∃ due, data.reorderBuf.reorderTimer = some due ∧
      ∃ k, FirstOccupiedAt data k ∧
        due ≤ (data.entries ((data.reorderBuf.headSn + k) %
          data.reorderBuf.bufSize)).reorderTime + 1 + rxReorderBufTimeoutMq hz

/-- Every slot is met on the way around the table. -/
theorem exists_offset {i : Nat} (head : Nat) (bound : i < bufSize) :
    ∃ j < bufSize, (head + j) % bufSize = i := by
  have room : 0 < bufSize := by omega
  have inside := Nat.mod_lt head room
  rcases Nat.le_total (head % bufSize) i with before | after
  · refine ⟨i - head % bufSize, by omega, ?_⟩
    rw [Nat.add_mod, Nat.mod_eq_of_lt (show i - head % bufSize < bufSize by omega),
      Nat.add_sub_cancel' before, Nat.mod_eq_of_lt bound]
  · rcases Nat.eq_or_lt_of_le after with same | later
    · exact ⟨0, room, by simpa using same.symm⟩
    · refine ⟨i + bufSize - head % bufSize, by omega, ?_⟩
      rw [Nat.add_mod,
        Nat.mod_eq_of_lt (show i + bufSize - head % bufSize < bufSize by omega),
        show head % bufSize + (i + bufSize - head % bufSize) = i + bufSize by omega,
        Nat.add_mod_right, Nat.mod_eq_of_lt bound]

theorem exists_firstOccupiedAt_of_slot {j : Nat} (bound : j < data.reorderBuf.bufSize)
    (occupied : data.slots ((data.reorderBuf.headSn + j) % data.reorderBuf.bufSize) ≠ []) :
    ∃ k ≤ j, FirstOccupiedAt data k := by
  induction j using Nat.strong_induction_on with
  | _ j ih =>
      by_cases earlier : ∃ m < j,
          data.slots ((data.reorderBuf.headSn + m) % data.reorderBuf.bufSize) ≠ []
      · obtain ⟨m, before, hit⟩ := earlier
        obtain ⟨k, atMost, first⟩ := ih m before (by omega) hit
        exact ⟨k, by omega, first⟩
      · exact ⟨j, le_rfl, bound, occupied, fun m before => by
          by_contra hit
          exact earlier ⟨m, before, hit⟩⟩

theorem exists_firstOccupiedAt (counted : Counted data)
    (nonempty : data.reorderBuf.numStored ≠ 0) : ∃ k, FirstOccupiedAt data k := by
  obtain ⟨i, bound, occupied⟩ := exists_ne_nil_of_held (counted ▸ nonempty)
  obtain ⟨j, inside, rfl⟩ := exists_offset data.reorderBuf.headSn bound
  obtain ⟨k, -, first⟩ := exists_firstOccupiedAt_of_slot inside occupied
  exact ⟨k, first⟩

/-- The search of the `set_timer` block ends at the first occupied slot. -/
theorem firstOccupied_eq (first : FirstOccupiedAt data k) {j : Nat} (before : j ≤ k)
    (enough : k < j + passes) :
    firstOccupied data passes ((data.reorderBuf.headSn + j) % data.reorderBuf.bufSize) =
      (data.reorderBuf.headSn + k) % data.reorderBuf.bufSize := by
  induction passes generalizing j with
  | zero => omega
  | succ passes ih =>
      rw [firstOccupied]
      rcases Nat.eq_or_lt_of_le before with rfl | earlier
      · rw [if_neg (by simpa using first.occupied)]
      · rw [if_pos (by simpa using first.holes j earlier), Nat.mod_add_mod, Nat.add_assoc]
        exact ih (by omega) (by omega)

/-- A release leaves the timer pending whenever a frame is held. -/
theorem TimerPending.setTimer (counted : Counted data) :
    TimerPending hz (setTimer hz data) := by
  intro nonempty staying
  simp only [setTimer_reorderBuf] at nonempty staying ⊢
  obtain ⟨k, first⟩ := exists_firstOccupiedAt counted nonempty
  have index := firstOccupied_eq first (Nat.zero_le k)
    (show k < 0 + data.reorderBuf.bufSize by have := first.bound; omega)
  rw [Nat.add_zero] at index
  refine ⟨_, by simp [timerDue, nonempty, staying]; rfl, k, ⟨first.bound, first.occupied,
    first.holes⟩, ?_⟩
  rw [index, setTimer_entries]

theorem TimerPending.release (counted : Counted data) (room : 0 < data.reorderBuf.bufSize) :
    TimerPending hz (iwlMvmReleaseFrames hz data nssn flags).1 := by
  simp only [iwlMvmReleaseFrames]
  split
  · exact .setTimer counted
  split
  · exact .setTimer counted
  · exact .setTimer (show Counted (IwlMvmBaidData.setHeadSn _ nssn) from
      counted.releaseLoop room nssn _ flags)

/-- Only the slots, their times, the head, the count and the timer matter. -/
theorem TimerPending.congr {other : IwlMvmBaidData} (pending : TimerPending hz data)
    (entries : other.entries = data.entries)
    (headSn : other.reorderBuf.headSn = data.reorderBuf.headSn)
    (numStored : other.reorderBuf.numStored = data.reorderBuf.numStored)
    (size : other.reorderBuf.bufSize = data.reorderBuf.bufSize)
    (timer : other.reorderBuf.reorderTimer = data.reorderBuf.reorderTimer)
    (removed : other.reorderBuf.removed = data.reorderBuf.removed) :
    TimerPending hz other := by
  have slots : other.slots = data.slots := by
    funext i
    simp only [IwlMvmBaidData.slots, entries]
  intro nonempty staying
  rw [numStored] at nonempty
  rw [removed] at staying
  obtain ⟨due, isDue, k, first, early⟩ := pending nonempty staying
  refine ⟨due, timer.trans isDue, k, ⟨?_, ?_, ?_⟩, ?_⟩
  · rw [size]
    exact first.bound
  · rw [slots, headSn, size]
    exact first.occupied
  · rw [slots, headSn, size]
    exact first.holes
  · rw [entries, headSn, size]
    exact early

theorem TimerPending.of_empty (empty : data.reorderBuf.numStored = 0) :
    TimerPending hz data := fun nonempty => absurd empty nonempty

/-! ## Storing without a release -/

/-- No slot was filled in the future. -/
def TimesPast (now : Nat) (data : IwlMvmBaidData) : Prop :=
  ∀ i, (data.entries i).reorderTime ≤ now

theorem stable_timesPast (hz now : Nat) : Stable hz now (TimesPast now) where
  release data nssn flags past i := by
    rw [(iwlMvmReleaseFrames_frame hz nssn flags data).2 i]
    exact past i
  setHeadSn _ _ past := past
  setTimerPending _ _ past := past
  setValid _ past := past
  withOldsn _ _ _ _ past := past
  store data skb _ past i := by
    by_cases same : i = skb.sn % data.reorderBuf.bufSize
    · subst same
      simp [storeFrame]
    · simpa [storeFrame, same] using past i

/-- A frame stored while another is held leaves the pending timer early enough: the slot
filled is filled now, later than every other. -/
theorem TimerPending.store (pending : TimerPending hz data)
    (nonempty : data.reorderBuf.numStored ≠ 0) (past : TimesPast jiffies data)
    (room : 0 < data.reorderBuf.bufSize) : TimerPending hz (storeFrame jiffies data skb) := by
  intro _ staying
  obtain ⟨due, isDue, k, first, early⟩ := pending nonempty staying
  obtain ⟨j, bound, slot⟩ := exists_offset data.reorderBuf.headSn
    (Nat.mod_lt skb.sn room)
  have filled : (storeFrame jiffies data skb).slots
      ((data.reorderBuf.headSn + j) % data.reorderBuf.bufSize) ≠ [] := by
    rw [storeFrame_slots, slot, update_self]
    simp
  have bound : j < (storeFrame jiffies data skb).reorderBuf.bufSize := bound
  obtain ⟨m, atMost, first'⟩ := exists_firstOccupiedAt_of_slot bound filled
  refine ⟨due, isDue, m, first', ?_⟩
  have target : due ≤ jiffies + 1 + rxReorderBufTimeoutMq hz := by
    have := past ((data.reorderBuf.headSn + k) % data.reorderBuf.bufSize)
    omega
  by_cases here : (data.reorderBuf.headSn + m) % data.reorderBuf.bufSize =
      skb.sn % data.reorderBuf.bufSize
  · simpa [storeFrame, here] using target
  · have sameSlots : (storeFrame jiffies data skb).slots
        ((data.reorderBuf.headSn + m) % data.reorderBuf.bufSize) =
          data.slots ((data.reorderBuf.headSn + m) % data.reorderBuf.bufSize) := by
      rw [storeFrame_slots, update_of_ne here]
    have reached : m = k := by
      rcases Nat.lt_trichotomy m k with before | same | after
      · exact absurd (sameSlots.trans (first.holes m before)) first'.occupied
      · exact same
      · have hole := first'.holes k after
        rw [storeFrame_headSn, storeFrame_bufSize, storeFrame_slots] at hole
        by_cases there : (data.reorderBuf.headSn + k) % data.reorderBuf.bufSize =
            skb.sn % data.reorderBuf.bufSize
        · rw [there, update_self] at hole
          exact absurd hole (by simp)
        · rw [update_of_ne there] at hole
          exact absurd hole first.occupied
    rw [← reached] at early
    simpa [storeFrame, here] using early

/-! ## The handler -/

theorem expiryScan_expired {left i : Nat} {scan : ExpiryScan} (expired : scan.expired = true) :
    (expiryScan hz jiffies data left i scan).expired = true := by
  induction left generalizing i scan with
  | zero => exact expired
  | succ left ih =>
      rw [expiryScan]
      split
      · exact ih expired
      split
      · exact expired
      · exact ih rfl

/-- When nothing has expired the scan stopped at the first occupied slot. -/
theorem expiryScan_index (first : FirstOccupiedAt data k) {left i : Nat} {scan : ExpiryScan}
    (before : i ≤ k) (enough : k < i + left) (noCont : scan.cont = false)
    (noneExpired : (expiryScan hz jiffies data left i scan).expired = false) :
    (expiryScan hz jiffies data left i scan).index =
      (data.reorderBuf.headSn + k) % data.reorderBuf.bufSize := by
  induction left generalizing i scan with
  | zero => omega
  | succ left ih =>
      rw [expiryScan] at noneExpired ⊢
      rcases Nat.eq_or_lt_of_le before with rfl | earlier
      · rw [if_neg (by simpa using first.occupied)] at noneExpired ⊢
        split at noneExpired
        · next stop => rw [if_pos stop]
        · rw [expiryScan_expired rfl] at noneExpired
          cases noneExpired
      · rw [if_pos (by simpa using first.holes i earlier)] at noneExpired ⊢
        exact ih (by omega) (by omega) rfl noneExpired

theorem TimerPending.timerExpired (counted : Counted data)
    (room : 0 < data.reorderBuf.bufSize) :
    TimerPending hz (iwlMvmReorderTimerExpired hz jiffies data).1 := by
  simp only [iwlMvmReorderTimerExpired]
  split
  · next idle =>
      intro nonempty staying
      change data.reorderBuf.numStored ≠ 0 at nonempty
      change data.reorderBuf.removed = false at staying
      simp [nonempty, staying] at idle
  split
  · exact .release counted room
  · next noneExpired =>
      intro nonempty staying
      obtain ⟨k, first⟩ := exists_firstOccupiedAt counted nonempty
      have index := expiryScan_index first (Nat.zero_le k)
        (by have := first.bound; omega) rfl
        (Bool.eq_false_of_not_eq_true noneExpired)
      refine ⟨_, rfl, k, ⟨first.bound, first.occupied, first.holes⟩, ?_⟩
      rw [index]
      rfl

/-! ## Frames -/

/-- The `k`-th position of the release loop from `sn` on. -/
def snAdvance (sn k : Nat) : Nat := if k = 0 then sn else ieee80211SnAdd sn k

theorem ieee80211SnInc_snAdvance (sn k : Nat) :
    ieee80211SnInc (snAdvance sn k) = snAdvance sn (k + 1) := by
  unfold snAdvance
  split
  · next zero => simp [zero, ieee80211SnInc]
  · rw [if_neg (by omega)]
    simp only [ieee80211SnInc, ieee80211SnAdd]
    omega

/-- A release to `nssn` comes to slot `i`: the loop's test holds at every position up to
one whose slot that is. -/
def Empties (buf : IwlMvmReorderBuffer) (nssn i : Nat) : Prop :=
  ∃ k < ieee80211SnSub nssn buf.headSn,
    (∀ j ≤ k, iwlMvmIsSnLess (snAdvance buf.headSn j) nssn buf.bufSize = true) ∧
      snAdvance buf.headSn k % buf.bufSize = i

instance (buf : IwlMvmReorderBuffer) (nssn i : Nat) : Decidable (Empties buf nssn i) :=
  inferInstanceAs (Decidable (∃ k < _, (∀ j ≤ k, _) ∧ _))

/-- A release leaves the slots it does not come to as they are. -/
theorem iwlMvmReleaseFrames_slots_of_not_empties {i : Nat}
    (untouched : ¬Empties data.reorderBuf nssn i) :
    (iwlMvmReleaseFrames hz data nssn flags).1.slots i = data.slots i := by
  simp only [iwlMvmReleaseFrames]
  split
  · rfl
  split
  · rfl
  obtain ⟨_, ⟨-, m, -, total, passed, kept⟩, -⟩ := releaseLoop_end nssn
    data.reorderBuf.headSn flags data
    (P := fun ssn after _ => after.reorderBuf.bufSize = data.reorderBuf.bufSize ∧
      ∃ m, ssn = snAdvance data.reorderBuf.headSn m ∧
        m + ieee80211SnSub nssn ssn = ieee80211SnSub nssn data.reorderBuf.headSn ∧
        (∀ j < m, iwlMvmIsSnLess (snAdvance data.reorderBuf.headSn j) nssn
          data.reorderBuf.bufSize = true) ∧
        (after.slots i = data.slots i ∨
          ∃ k < m, snAdvance data.reorderBuf.headSn k % data.reorderBuf.bufSize = i))
    (fun ssn after _ inv less => by
      obtain ⟨size, m, rfl, total, passed, kept⟩ := inv
      rw [size] at less
      have closer := ieee80211SnSub_snInc (iwlMvmIsSnLess_pos less)
      have ahead := iwlMvmIsSnLess_pos less
      refine ⟨size, m + 1, ieee80211SnInc_snAdvance _ _, by omega, ?_, ?_⟩
      · intro j before
        rcases Nat.lt_succ_iff_lt_or_eq.mp before with earlier | rfl
        · exact passed j earlier
        · exact less
      · by_cases here : i = snAdvance data.reorderBuf.headSn m % data.reorderBuf.bufSize
        · exact .inr ⟨m, by omega, here.symm⟩
        · rcases kept with same | ⟨k, before, hit⟩
          · refine .inl ?_
            rw [releaseSlot_slots, size, update_of_ne here, same]
          · exact .inr ⟨k, by omega, hit⟩)
    ⟨rfl, 0, rfl, by simp, by simp, .inl rfl⟩
  rcases kept with same | ⟨k, before, hit⟩
  · exact same
  · exact absurd ⟨k, by omega, fun j atMost => passed j (by omega), hit⟩ untouched

/-- A release to `nssn` comes to every slot that holds a frame. -/
def EmptiesAll (data : IwlMvmBaidData) (nssn : Nat) : Prop :=
  ∀ i < data.reorderBuf.bufSize, data.slots i ≠ [] → Empties data.reorderBuf nssn i

instance : Decidable (EmptiesAll data nssn) :=
  inferInstanceAs (Decidable (∀ i < _, _ → _))

/-- An A-MSDU sub-frame that is not the last one is not stored into an empty buffer: it
is passed on, outdated, or joins frames that are held when it is stored. -/
def FrameTimed (data : IwlMvmBaidData) (skb : RxMpdu) : Prop :=
  skb.amsdu = true → skb.lastSubframe = false → ieee80211SnLess skb.sn skb.nssn = false →
    if windowJump data.reorderBuf skb then
      ¬EmptiesAll data skb.nssn ∨
        skb.sn = headAfterJump data.reorderBuf skb.nssn ∨
        ieee80211SnLess skb.sn (headAfterJump data.reorderBuf skb.nssn) = true
    else
      data.reorderBuf.numStored ≠ 0 ∨ skb.sn = data.reorderBuf.headSn ∨
        ieee80211SnLess skb.sn data.reorderBuf.headSn = true

instance : Decidable (FrameTimed data skb) := inferInstanceAs (Decidable (_ → _ → _ → _))

/-- When the frame is stored without a release, something is held already. -/
theorem FrameTimed.nonempty (timed : FrameTimed data skb) (counted : Counted data)
    (room : 0 < data.reorderBuf.bufSize) (inner : skb.amsdu = true)
    (notLast : skb.lastSubframe = false)
    (notBehind :
      ieee80211SnLess skb.sn (adjustWindow hz data skb).1.reorderBuf.headSn = false)
    (occupied : (adjustWindow hz data skb).1.reorderBuf.numStored = 0 →
      ieee80211SnLess skb.sn skb.nssn = false ∧
        skb.sn ≠ (adjustWindow hz data skb).1.reorderBuf.headSn) :
    (adjustWindow hz data skb).1.reorderBuf.numStored ≠ 0 := by
  intro empty
  obtain ⟨notLess, notNext⟩ := occupied empty
  have timed := timed inner notLast notLess
  unfold adjustWindow at *
  split at timed
  · next jump =>
      rw [if_pos jump, minSn, if_neg (by simp [notLess])] at *
      rw [iwlMvmReleaseFrames_headSn] at notBehind notNext
      rcases timed with left | next | behind
      · refine left fun i bound filled => ?_
        by_contra untouched
        have after := counted.release room hz skb.nssn { sendRssSync := true }
        rw [Counted, empty, iwlMvmReleaseFrames_bufSize, eq_comm, held_eq_zero_iff] at after
        exact filled ((iwlMvmReleaseFrames_slots_of_not_empties untouched).symm.trans
          (after i bound))
      · exact notNext next
      · simp [behind] at notBehind
  · next noJump =>
      rw [if_neg noJump] at notBehind notNext empty
      rcases timed with nonempty | next | behind
      · exact nonempty empty
      · exact notNext next
      · simp [behind] at notBehind

theorem TimerPending.adjust (pending : TimerPending hz data) (counted : Counted data)
    (room : 0 < data.reorderBuf.bufSize) : TimerPending hz (adjustWindow hz data skb).1 := by
  unfold adjustWindow
  split
  · exact .release counted room
  · exact pending

theorem TimerPending.reorderLocked (pending : TimerPending hz data) (counted : Counted data)
    (room : 0 < data.reorderBuf.bufSize) (past : TimesPast jiffies data)
    (notBar : ieee80211IsBackReq skb.frameControl = false)
    (timed : data.reorderBuf.valid = true ∨ skb.baOldSn = false → FrameTimed data skb) :
    TimerPending hz (reorderLocked hz jiffies baid data skb).data := by
  rcases reorderLocked_cases hz jiffies baid data notBar with
    ⟨-, -, early⟩ | ⟨valid, drops, gp2, prev, notes, result, placed, -, run⟩
  · rw [early]
    exact pending
  rw [run]
  change TimerPending hz result.data
  have fresh : TimerPending hz data.setValid := pending.congr rfl rfl rfl rfl rfl rfl
  have adjusted : TimerPending hz
      ((adjustWindow hz data.setValid skb).1.withOldsn drops gp2 prev) :=
    (fresh.adjust counted room).congr rfl rfl rfl rfl rfl rfl
  have timed : FrameTimed data.setValid skb := timed valid
  have start : Counted data.setValid ∧ 0 < data.setValid.reorderBuf.bufSize := ⟨counted, room⟩
  obtain ⟨counted', room'⟩ := (stable_counted hz jiffies).adjustWindow start skb
  cases placed with
  | outdated => exact adjusted
  | passMove _ empty => exact .of_empty empty
  | passStay => exact adjusted
  | nextMove empty => exact .of_empty empty
  | nextStay => exact adjusted
  | repeated => exact adjusted
  | storedReleased =>
      have counted' : Counted (IwlMvmBaidData.withOldsn _ drops gp2 prev) := counted'
      exact .release (counted'.store room') room'
  | stored notBehind occupied _ inner notLast =>
      have past' : TimesPast jiffies data.setValid := past
      exact adjusted.store (timed.nonempty counted room inner notLast notBehind occupied)
        ((stable_timesPast hz jiffies).adjustWindow past' skb) room'

/-! ## Events and runs -/

/-- The condition on the state before an event.  A DELBA flush deletes the timer for good
and is not one of the events these runs are made of. -/
def TimerKept (s : RxSession) : RxEvent → Prop
  | .frame sta skb =>
      (reorderSession s.baidMap sta skb).isSome = true →
        (s.data.reorderBuf.valid = true ∨ skb.baOldSn = false) → FrameTimed s.data skb
  | .delBa _ _ => False
  | _ => True

instance (s : RxSession) : (event : RxEvent) → Decidable (TimerKept s event)
  | .frame _ _ => inferInstanceAs (Decidable (_ → _ → _))
  | .delBa _ _ => inferInstanceAs (Decidable False)
  | .elapse _ | .frameRelease _ _ _ | .nssnSync _ _ _ | .timerExpired =>
      inferInstanceAs (Decidable True)

/-- What holds of a session between events. -/
structure Timed (hz : Nat) (s : RxSession) : Prop where
  counted : Counted s.data
  room : 0 < s.data.reorderBuf.bufSize
  past : TimesPast s.jiffies s.data
  pending : TimerPending hz s.data

theorem Timed.step {s : RxSession} {event : RxEvent} (timed : Timed hz s)
    (kept : TimerKept s event) : Timed hz (s.step hz event) := by
  obtain ⟨counted, room, past, pending⟩ := timed
  have still := (stable_counted hz s.jiffies).step ⟨counted, room⟩ event
  have later : s.jiffies ≤ s.tick event := by
    cases event <;> simp [RxSession.tick]
  refine ⟨still.1, still.2,
    fun i => ((stable_timesPast hz s.jiffies).step past event i).trans later, ?_⟩
  refine RxSession.step_of_handled pending fun after handled => ?_
  cases handled with
  | frame sta skb found =>
      exact pending.reorderLocked counted room past (reorderSession_some found).2.2.2.2.1
        (kept (by simp [found]))
  | frameRelease => exact .release counted room
  | nssnSync => exact .release counted room
  | timerExpired =>
      obtain ⟨reorderTimer, taken⟩ := s.timerTaken_eq
      rw [taken]
      have counted : Counted (s.data.setTimerPending reorderTimer) := counted
      exact .timerExpired counted room
  | delBa => exact kept.elim

/-- In every run from the state a new session starts in, all of whose events meet
`TimerKept`, a buffer that holds frames has its timer pending. -/
theorem timerPending_of_timerKept (hz jiffies staId tid baid ssn : Nat) {bufSize : Nat}
    (room : 0 < bufSize) {events : List RxEvent}
    (run : Admissible (RxSession.step hz) TimerKept
      (RxSession.init jiffies staId tid baid ssn bufSize) events) :
    TimerPending hz (events.foldl (RxSession.step hz)
      (RxSession.init jiffies staId tid baid ssn bufSize)).data :=
  (run.invariant (P := Timed hz) (fun _ _ timed kept => timed.step kept)
    { counted := (held_eq_zero_iff.mpr fun _ _ => rfl).symm
      room := room
      past := fun _ => Nat.zero_le _
      pending := .of_empty rfl }).pending

/-- A frame is stored at SN 5, and a first sub-frame of an A-MSDU joins it. -/
theorem timerPending_of_timerKept_amsdu :
    0 < 64 ∧ TimerPending 1000
      (([.frame (some 0) (.qosData 5 3 0 0), .elapse 7,
        .frame (some 0) (.qosData 8 3 0x40 0)] : List RxEvent).foldl (RxSession.step 1000)
          (RxSession.init 0 0 0 0 0 64)).data :=
  ⟨by decide, timerPending_of_timerKept 1000 0 0 0 0 0 (by decide) (by decide)⟩

/-- A first sub-frame of an A-MSDU at SN 5 with an NSSN of 3 is stored into the empty
buffer, and no timer is pending. -/
theorem not_timerPending_of_first_subframe :
    ¬TimerPending 1000
      (([.frame (some 0) (.qosData 5 3 0x40 0)] : List RxEvent).foldl (RxSession.step 1000)
        (RxSession.init 0 0 0 0 0 64)).data := by
  intro pending
  obtain ⟨due, isDue, -⟩ := pending (by decide) (by decide)
  exact Option.some_ne_none due (isDue.symm.trans (by decide))

end Iwlwifi
