import Mathlib.Data.Nat.ModEq
import Iwlwifi.Lib.Run
import Iwlwifi.Mvm.ReorderStep

/-!
# Frames stay in the window

No frame is stranded while `num_stored` counts the frames held and every frame held lies
in the slot of its SN and at most a buffer ahead of the head (`NothingStranded`).  The
release loop compares head and NSSN inside the window only, so a release to an NSSN more
than a buffer ahead moves the head over the frames held without releasing them, and a
frame that reaches the buffer together with such a jump may be stored outside the window.
`WindowKept` says of the state before an event that neither happens.  Every event that
meets it keeps the window (`Windowed.step`), and so does every run of such events.
-/

namespace Iwlwifi

open Lib Function

variable {hz jiffies baid bufSize headSn nssn d i : Nat} {flags : IwlMvmReleaseFlags}
  {data : IwlMvmBaidData} {skb f : RxMpdu}

/-! ## The window -/

/-- No frame is stranded: the count is right, and each frame is in its slot and at most
a buffer ahead of the head. -/
structure NothingStranded (data : IwlMvmBaidData) : Prop where
  counted : Counted data
  inWindow : ∀ i < data.reorderBuf.bufSize, ∀ f ∈ data.slots i,
    f.sn % data.reorderBuf.bufSize = i ∧
      ieee80211SnSub f.sn data.reorderBuf.headSn < data.reorderBuf.bufSize

/-- A frame in slot `i` of the window from `headSn` on.  Where the buffer size does not
divide 4096 two positions of the window can share a slot; `first` says that the frame
has the first of them. -/
structure InWindow (bufSize headSn i : Nat) (f : RxMpdu) : Prop where
  slot : f.sn % bufSize = i
  near : ieee80211SnSub f.sn headSn < bufSize
  first : ¬Covered bufSize headSn (ieee80211SnSub f.sn headSn) i

theorem InWindow.of_dvd (divides : bufSize ∣ 4096) (slot : f.sn % bufSize = i)
    (near : ieee80211SnSub f.sn headSn < bufSize) : InWindow bufSize headSn i f := by
  refine ⟨slot, near, ?_⟩
  rintro ⟨k, before, hit⟩
  have position := mod_of_ieee80211SnSub (h := headSn) f.sn_lt
  rw [Nat.mod_mod_of_dvd _ divides, ← slot, position, Nat.mod_mod_of_dvd _ divides] at hit
  have offsets : k % bufSize = ieee80211SnSub f.sn headSn % bufSize :=
    Nat.ModEq.add_left_cancel' headSn hit
  rw [Nat.mod_eq_of_lt near, Nat.mod_eq_of_lt (before.trans near)] at offsets
  omega

/-- The position of a frame itself falls in its slot. -/
theorem InWindow.covered_of_lt (inWindow : InWindow bufSize headSn i f)
    (passed : ieee80211SnSub f.sn headSn < d) : Covered bufSize headSn d i :=
  ⟨_, passed, by rw [← mod_of_ieee80211SnSub f.sn_lt, inWindow.slot]⟩

/-- Seen from a head moved by less than its distance, a frame is that much closer. -/
theorem InWindow.forward (inWindow : InWindow bufSize headSn i f)
    (ahead : ieee80211SnSub nssn headSn ≤ ieee80211SnSub f.sn headSn) :
    InWindow bufSize nssn i f ∧
      ieee80211SnSub f.sn headSn = ieee80211SnSub f.sn nssn + ieee80211SnSub nssn headSn := by
  have way : ieee80211SnSub f.sn headSn =
      ieee80211SnSub f.sn nssn + ieee80211SnSub nssn headSn := by
    have bound : ieee80211SnSub f.sn headSn < 4096 := ieee80211SnSub_lt
    simp only [ieee80211SnSub] at *
    omega
  refine ⟨⟨inWindow.slot, by have := inWindow.near; omega, ?_⟩, way⟩
  rintro ⟨k, before, hit⟩
  refine inWindow.first ⟨ieee80211SnSub nssn headSn + k, by omega, ?_⟩
  have shifted : (headSn + (ieee80211SnSub nssn headSn + k)) % 4096 = (nssn + k) % 4096 := by
    simp only [ieee80211SnSub]
    omega
  rw [shifted, hit]

/-- `num_stored` counts the frames and every frame is in the window. -/
structure Windowed (data : IwlMvmBaidData) : Prop where
  counted : Counted data
  inWindow : ∀ i < data.reorderBuf.bufSize, ∀ f ∈ data.slots i,
    InWindow data.reorderBuf.bufSize data.reorderBuf.headSn i f

theorem Windowed.nothingStranded (windowed : Windowed data) : NothingStranded data where
  counted := windowed.counted
  inWindow i bound f held :=
    ⟨(windowed.inWindow i bound f held).slot, (windowed.inWindow i bound f held).near⟩

/-- Only the slots, the count, the size and the head matter. -/
theorem Windowed.congr {other : IwlMvmBaidData} (windowed : Windowed data)
    (slots : other.slots = data.slots)
    (numStored : other.reorderBuf.numStored = data.reorderBuf.numStored)
    (size : other.reorderBuf.bufSize = data.reorderBuf.bufSize)
    (head : other.reorderBuf.headSn = data.reorderBuf.headSn) : Windowed other where
  counted := by
    have := windowed.counted
    simp only [Counted] at *
    rw [slots, numStored, size, this]
  inWindow := by
    rw [slots, size, head]
    exact windowed.inWindow

theorem slots_eq_nil_of_empty (counted : Counted data)
    (empty : data.reorderBuf.numStored = 0) (bound : i < data.reorderBuf.bufSize) :
    data.slots i = [] :=
  held_eq_zero_iff.mp (counted ▸ empty) i bound

/-- The head of an empty buffer may go anywhere. -/
theorem Windowed.setHeadSn_of_empty (windowed : Windowed data)
    (empty : data.reorderBuf.numStored = 0) : Windowed (data.setHeadSn headSn) where
  counted := windowed.counted
  inWindow i bound f held := by
    simp [slots_eq_nil_of_empty windowed.counted empty bound] at held

/-! ## Releases -/

/-- A release to `target` does not move the head over frames it leaves behind: nothing is
held, or `target` is at most a buffer ahead, or at most a buffer behind and ignored. -/
def ReleaseKept (data : IwlMvmBaidData) (target : Nat) : Prop :=
  data.reorderBuf.numStored = 0 ∨
    ieee80211SnSub target data.reorderBuf.headSn ≤ data.reorderBuf.bufSize ∨
    4096 ≤ ieee80211SnSub target data.reorderBuf.headSn + data.reorderBuf.bufSize

instance : Decidable (ReleaseKept data nssn) := inferInstanceAs (Decidable (_ ∨ _ ∨ _))

/-- The size the claims of the receive path are about: at most 256 slots. -/
structure BufSizeOk (data : IwlMvmBaidData) : Prop where
  room : 0 < data.reorderBuf.bufSize
  small : data.reorderBuf.bufSize ≤ 256
  aligned : SlotAligned data.reorderBuf.bufSize data.reorderBuf.headSn

/-- A release to an NSSN at most a buffer ahead: the head is there, the window is kept,
and exactly the frames at or beyond the NSSN are still held. -/
theorem Windowed.release_near (hz : Nat) (flags : IwlMvmReleaseFlags)
    (windowed : Windowed data) (sizes : BufSizeOk data)
    (near : ieee80211SnSub nssn data.reorderBuf.headSn ≤ data.reorderBuf.bufSize) :
    Windowed (iwlMvmReleaseFrames hz data nssn flags).1 ∧
      (iwlMvmReleaseFrames hz data nssn flags).1.reorderBuf.headSn = nssn ∧
      ∀ i < data.reorderBuf.bufSize, ∀ f,
        f ∈ (iwlMvmReleaseFrames hz data nssn flags).1.slots i ↔
          f ∈ data.slots i ∧
            ieee80211SnSub nssn data.reorderBuf.headSn ≤
              ieee80211SnSub f.sn data.reorderBuf.headSn := by
  have small := sizes.small
  have released := releaseLoop_releasedTo flags (by omega) sizes.aligned near
  have counted := windowed.counted.releaseLoop sizes.room nssn data.reorderBuf.headSn flags
  obtain ⟨⟨numStored, frame⟩, -⟩ := releaseLoop_frame nssn flags
    (ieee80211SnSub nssn data.reorderBuf.headSn) data.reorderBuf.headSn data
  rw [iwlMvmReleaseFrames_of_near (by omega) near]
  dsimp only
  generalize (releaseLoop nssn flags (ieee80211SnSub nssn data.reorderBuf.headSn)
    data.reorderBuf.headSn data).1 = after at released counted frame
  have size : after.reorderBuf.bufSize = data.reorderBuf.bufSize := by rw [frame]
  have members : ∀ i < data.reorderBuf.bufSize, ∀ f, f ∈ after.slots i ↔ f ∈ data.slots i ∧
      ieee80211SnSub nssn data.reorderBuf.headSn ≤
        ieee80211SnSub f.sn data.reorderBuf.headSn := by
    intro i bound f
    by_cases covered : Covered data.reorderBuf.bufSize data.reorderBuf.headSn
        (ieee80211SnSub nssn data.reorderBuf.headSn) i
    · rw [released.emptied i covered]
      constructor
      · intro held
        cases held
      · rintro ⟨held, late⟩
        obtain ⟨k, before, hit⟩ := covered
        exact ((windowed.inWindow i bound f held).first ⟨k, by omega, hit⟩).elim
    · rw [released.kept i covered]
      refine ⟨fun held => ⟨held, ?_⟩, fun held => held.1⟩
      by_contra early
      exact covered ((windowed.inWindow i bound f held).covered_of_lt (by omega))
  refine ⟨⟨?_, ?_⟩, rfl, members⟩
  · simpa [Counted] using counted
  · intro i bound f held
    simp only [setTimer_slots, IwlMvmBaidData.setHeadSn_slots, setTimer_reorderBuf,
      IwlMvmBaidData.setHeadSn_reorderBuf, size] at bound held ⊢
    obtain ⟨before, late⟩ := (members i bound f).mp held
    exact ((windowed.inWindow i bound f before).forward late).1

theorem Windowed.setTimer (windowed : Windowed data) : Windowed (setTimer hz data) :=
  windowed.congr rfl rfl rfl rfl

/-- A release that meets its condition keeps the window. -/
theorem Windowed.release (windowed : Windowed data) (sizes : BufSizeOk data)
    (kept : ReleaseKept data nssn ∨
      (flags.fromRssSync = true ∧ 2048 < ieee80211SnSub nssn data.reorderBuf.headSn)) :
    Windowed (iwlMvmReleaseFrames hz data nssn flags).1 := by
  have small := sizes.small
  by_cases near : ieee80211SnSub nssn data.reorderBuf.headSn ≤ data.reorderBuf.bufSize
  · exact (windowed.release_near hz flags sizes near).1
  by_cases behind :
      4096 ≤ ieee80211SnSub nssn data.reorderBuf.headSn + data.reorderBuf.bufSize
  · rw [iwlMvmReleaseFrames_of_behind (by omega) behind]
    exact windowed.setTimer
  by_cases sync : flags.fromRssSync = true ∧ 2048 < ieee80211SnSub nssn data.reorderBuf.headSn
  · have ignored : iwlMvmReleaseFrames hz data nssn flags = (Iwlwifi.setTimer hz data, []) := by
      simp [iwlMvmReleaseFrames, sync.1, ieee80211SnLess_iff.mpr sync.2]
    rw [ignored]
    exact windowed.setTimer
  · have empty : data.reorderBuf.numStored = 0 := by
      rcases kept with (empty | isNear | isBehind) | isSync
      · exact empty
      · exact absurd isNear near
      · exact absurd isBehind behind
      · exact absurd isSync sync
    rw [iwlMvmReleaseFrames_of_jump (by omega) (by omega) (by omega)
      (fun fromSync => by
        by_contra far
        exact sync ⟨fromSync, by omega⟩)]
    exact (windowed.setHeadSn_of_empty empty).setTimer

/-! ## Frames -/

theorem Windowed.store (windowed : Windowed data) (room : 0 < data.reorderBuf.bufSize)
    (inWindow : InWindow data.reorderBuf.bufSize data.reorderBuf.headSn
      (skb.sn % data.reorderBuf.bufSize) skb) :
    Windowed (storeFrame jiffies data skb) := by
  refine ⟨windowed.counted.store room, fun i bound f held => ?_⟩
  rw [storeFrame_slots] at held
  by_cases same : i = skb.sn % data.reorderBuf.bufSize
  · subst same
    rw [update_self, List.mem_append, List.mem_singleton] at held
    rcases held with before | rfl
    · exact windowed.inWindow _ bound f before
    · exact inWindow
  · rw [update_of_ne same] at held
    exact windowed.inWindow i bound f held

/-- Placing a frame keeps the window: it is passed on, dropped, or stored inside the
window with an NSSN that does not jump. -/
def PlaceKept (data : IwlMvmBaidData) (skb : RxMpdu) : Prop :=
  ieee80211SnLess skb.sn data.reorderBuf.headSn = true ∨
    (data.reorderBuf.numStored = 0 ∧
      (ieee80211SnLess skb.sn skb.nssn = true ∨ skb.sn = data.reorderBuf.headSn)) ∨
    retransmission data skb = true ∨
    (InWindow data.reorderBuf.bufSize data.reorderBuf.headSn
        (skb.sn % data.reorderBuf.bufSize) skb ∧
      ((skb.amsdu = true ∧ skb.lastSubframe = false) ∨
        ieee80211SnSub skb.nssn data.reorderBuf.headSn ≤ data.reorderBuf.bufSize ∨
        4096 ≤ ieee80211SnSub skb.nssn data.reorderBuf.headSn + data.reorderBuf.bufSize))

theorem Windowed.place {result : ReorderResult} (windowed : Windowed data)
    (sizes : BufSizeOk data) (kept : PlaceKept data skb)
    (placed : Placed hz jiffies baid data skb result) : Windowed result.data := by
  cases placed with
  | outdated => exact windowed
  | passMove _ empty => exact windowed.setHeadSn_of_empty empty
  | passStay => exact windowed
  | nextMove empty => exact windowed.setHeadSn_of_empty empty
  | nextStay => exact windowed
  | repeated => exact windowed
  | stored notBehind occupied fresh =>
      rcases kept with behind | ⟨empty, passes | next⟩ | again | ⟨inWindow, -⟩
      · simp [behind] at notBehind
      · simp [passes] at occupied
        omega
      · exact absurd next (occupied empty).2
      · simp [again] at fresh
      · exact windowed.store sizes.room inWindow
  | storedReleased notBehind occupied fresh whole =>
      rcases kept with behind | ⟨empty, passes | next⟩ | again | ⟨inWindow, inner | kept⟩
      · simp [behind] at notBehind
      · simp [passes] at occupied
        omega
      · exact absurd next (occupied empty).2
      · simp [again] at fresh
      · rcases whole with single | last
        · simp [single] at inner
        · simp [last] at inner
      · have stored : Windowed (storeFrame jiffies _ skb) :=
          windowed.store sizes.room inWindow
        exact stored.release ⟨sizes.room, sizes.small, sizes.aligned⟩ (.inl (.inr kept))

/-- The window test asks for no jump exactly when the NSSN is inside the window and the SN
inside it or behind the head. -/
theorem windowJump_eq_false_iff (small : data.reorderBuf.bufSize ≤ 256) :
    windowJump data.reorderBuf skb = false ↔
      ieee80211SnSub skb.nssn data.reorderBuf.headSn < data.reorderBuf.bufSize ∧
        (ieee80211SnSub skb.sn data.reorderBuf.headSn < data.reorderBuf.bufSize ∨
          2048 + data.reorderBuf.bufSize < ieee80211SnSub skb.sn data.reorderBuf.headSn) := by
  rw [windowJump, Bool.or_eq_false_iff, Bool.not_eq_false', Bool.not_eq_false',
    iwlMvmIsSnLess_iff (by omega), ieee80211SnLess_iff]
  simp only [ieee80211SnSub, u16]
  omega

/-- Some frame held lies `distance` or more ahead of the head. -/
def HoldsFrom (data : IwlMvmBaidData) (distance : Nat) : Prop :=
  ∃ i < data.reorderBuf.bufSize, ∃ f ∈ data.slots i,
    distance ≤ ieee80211SnSub f.sn data.reorderBuf.headSn

instance : Decidable (HoldsFrom data d) :=
  inferInstanceAs (Decidable (∃ i < _, ∃ f ∈ _, _))

/-- The frame's slot holds one that lies `distance` or more ahead of the head and that
the frame does not continue. -/
def RepeatedFrom (data : IwlMvmBaidData) (skb : RxMpdu) (distance : Nat) : Prop :=
  retransmission data skb = true ∧
    ∃ f ∈ data.slots (skb.sn % data.reorderBuf.bufSize),
      distance ≤ ieee80211SnSub f.sn data.reorderBuf.headSn

instance : Decidable (RepeatedFrom data skb d) :=
  inferInstanceAs (Decidable (_ ∧ ∃ f ∈ _, _))

/-- A frame that asks for a jump strands nothing.  The jump itself does not move the head
over frames it leaves behind.  At the head `h` after it the frame is outdated, or passed
on because nothing is held from `h` on, or repeated; otherwise it lies inside the window
and, unless it is an inner sub-frame, its NSSN does not jump either. -/
def FrameKept (data : IwlMvmBaidData) (skb : RxMpdu) : Prop :=
  windowJump data.reorderBuf skb = true →
    let h := headAfterAdjust data.reorderBuf skb
    ReleaseKept data (minSn skb) ∧
      (ieee80211SnLess skb.sn h = true ∨
        (¬HoldsFrom data (ieee80211SnSub h data.reorderBuf.headSn) ∧
          (ieee80211SnLess skb.sn skb.nssn = true ∨ skb.sn = h)) ∨
        RepeatedFrom data skb (ieee80211SnSub h data.reorderBuf.headSn) ∨
        (ieee80211SnSub skb.sn h < data.reorderBuf.bufSize ∧
          ((skb.amsdu = true ∧ skb.lastSubframe = false) ∨
            ieee80211SnSub skb.nssn h ≤ data.reorderBuf.bufSize ∨
            4096 ≤ ieee80211SnSub skb.nssn h + data.reorderBuf.bufSize)))

instance : Decidable (FrameKept data skb) := inferInstanceAs (Decidable (_ → _ ∧ _))

/-- The condition on the state before an event. -/
def WindowKept (s : RxSession) : RxEvent → Prop
  | .elapse _ => True
  | .frame sta skb =>
      (reorderSession s.baidMap sta skb).isSome = true →
        (s.data.reorderBuf.valid = true ∨ skb.baOldSn = false) → FrameKept s.data skb
  | .frameRelease fwIdToMacId b nssn =>
      b = s.data.baid → fwIdToMacId s.data.staId = true → ReleaseKept s.data nssn
  | .nssnSync fwIdToMacId b nssn =>
      b = s.data.baid → fwIdToMacId s.data.staId = true →
        ReleaseKept s.data nssn ∨ 2048 < ieee80211SnSub nssn s.data.reorderBuf.headSn
  | .timerExpired => True
  | .delBa _ _ => True

instance (s : RxSession) : (event : RxEvent) → Decidable (WindowKept s event)
  | .elapse _ => inferInstanceAs (Decidable True)
  | .frame _ _ => inferInstanceAs (Decidable (_ → _ → _))
  | .frameRelease _ _ _ => inferInstanceAs (Decidable (_ → _ → _))
  | .nssnSync _ _ _ => inferInstanceAs (Decidable (_ → _ → _))
  | .timerExpired => inferInstanceAs (Decidable True)
  | .delBa _ _ => inferInstanceAs (Decidable True)

/-- What the window adjustment leaves when its release meets its condition: the window,
and exactly the frames at or beyond the new head. -/
theorem Windowed.adjust (hz : Nat) (windowed : Windowed data) (sizes : BufSizeOk data)
    (kept : windowJump data.reorderBuf skb = true → ReleaseKept data (minSn skb)) :
    Windowed (adjustWindow hz data skb).1 ∧
      ∀ i < data.reorderBuf.bufSize, ∀ f,
        f ∈ (adjustWindow hz data skb).1.slots i ↔
          f ∈ data.slots i ∧
            ieee80211SnSub (headAfterAdjust data.reorderBuf skb) data.reorderBuf.headSn ≤
              ieee80211SnSub f.sn data.reorderBuf.headSn := by
  have small := sizes.small
  unfold adjustWindow headAfterAdjust
  split
  swap
  · exact ⟨windowed, by simp⟩
  next jump =>
  have kept := kept jump
  refine ⟨windowed.release sizes (.inl kept), fun i bound f => ?_⟩
  rw [← iwlMvmReleaseFrames_headSn hz]
  by_cases near : ieee80211SnSub (minSn skb) data.reorderBuf.headSn ≤ data.reorderBuf.bufSize
  · obtain ⟨-, head, members⟩ := windowed.release_near hz
      { sendRssSync := true } sizes near
    rw [members i bound f, head]
  by_cases behind :
      4096 ≤ ieee80211SnSub (minSn skb) data.reorderBuf.headSn + data.reorderBuf.bufSize
  · rw [iwlMvmReleaseFrames_of_behind (by omega) behind]
    simp
  · have empty : data.reorderBuf.numStored = 0 := by
      rcases kept with empty | isNear | isBehind
      · exact empty
      · exact absurd isNear near
      · exact absurd isBehind behind
    rw [iwlMvmReleaseFrames_of_jump (by omega) (by omega) (by omega) (by simp)]
    simp [slots_eq_nil_of_empty windowed.counted empty bound]

section Adjusted

variable (windowed : Windowed data) (sizes : BufSizeOk data)
  (kept : windowJump data.reorderBuf skb = true → ReleaseKept data (minSn skb))

include windowed sizes kept

/-- Nothing is held after the adjustment exactly when nothing was held from the new head
on. -/
theorem adjustWindow_numStored_eq_zero_iff (hz : Nat) :
    (adjustWindow hz data skb).1.reorderBuf.numStored = 0 ↔
      ¬HoldsFrom data (ieee80211SnSub (headAfterAdjust data.reorderBuf skb)
        data.reorderBuf.headSn) := by
  obtain ⟨after, members⟩ := windowed.adjust hz sizes kept
  have size : (adjustWindow hz data skb).1.reorderBuf.bufSize = data.reorderBuf.bufSize :=
    (stable_bufSize hz 0 _).adjustWindow rfl skb
  have counted := after.counted
  rw [Counted] at counted
  rw [counted, held_eq_zero_iff, size]
  constructor
  · rintro empty ⟨i, bound, f, held, late⟩
    have still := (members i bound f).mpr ⟨held, late⟩
    simp [empty i bound] at still
  · intro none i bound
    refine List.eq_nil_iff_forall_not_mem.mpr fun f held => none ?_
    obtain ⟨before, late⟩ := (members i bound f).mp held
    exact ⟨i, bound, f, before, late⟩

/-- A repeated frame is still repeated after the adjustment. -/
theorem RepeatedFrom.adjust
    (again : RepeatedFrom data skb (ieee80211SnSub (headAfterAdjust data.reorderBuf skb)
      data.reorderBuf.headSn)) :
    retransmission (adjustWindow hz data skb).1 skb = true := by
  obtain ⟨repeated, f, held, late⟩ := again
  obtain ⟨-, members⟩ := windowed.adjust hz sizes kept
  have still := (members _ (Nat.mod_lt _ sizes.room) f).mpr ⟨held, late⟩
  have buf : ∃ headSn numStored reorderTimer, (adjustWindow hz data skb).1.reorderBuf =
      { data.reorderBuf with headSn, numStored, reorderTimer } := by
    unfold adjustWindow
    split
    · exact (iwlMvmReleaseFrames_frame hz _ _ data).1
    · exact ⟨_, _, _, rfl⟩
  obtain ⟨_, _, _, buf⟩ := buf
  rw [retransmission_iff] at repeated ⊢
  rw [buf]
  exact ⟨List.ne_nil_of_mem still, repeated.2⟩

end Adjusted

/-- After the window adjustment of a frame that meets its condition, placing it keeps the
window. -/
theorem Windowed.placeKept (windowed : Windowed data) (sizes : BufSizeOk data)
    (divides : data.reorderBuf.bufSize ∣ 4096) (kept : FrameKept data skb) :
    PlaceKept (adjustWindow hz data skb).1 skb := by
  have small := sizes.small
  have size : (adjustWindow hz data skb).1.reorderBuf.bufSize = data.reorderBuf.bufSize :=
    (stable_bufSize hz 0 _).adjustWindow rfl skb
  have releaseKept := fun jump => (kept jump).1
  rw [PlaceKept, adjustWindow_headSn, size,
    adjustWindow_numStored_eq_zero_iff windowed sizes releaseKept]
  by_cases jump : windowJump data.reorderBuf skb = true
  · rcases (kept jump).2 with outdated | passed | again | ⟨inside, closes⟩
    · exact .inl outdated
    · exact .inr (.inl passed)
    · exact .inr (.inr (.inl (again.adjust windowed sizes releaseKept)))
    · exact .inr (.inr (.inr ⟨.of_dvd divides rfl inside, closes⟩))
  · rw [headAfterAdjust, if_neg jump]
    obtain ⟨near, inside | behind⟩ :=
      (windowJump_eq_false_iff small).mp (Bool.eq_false_of_not_eq_true jump)
    · exact .inr (.inr (.inr ⟨.of_dvd divides rfl inside, .inr (.inl near.le)⟩))
    · exact .inl (ieee80211SnLess_iff.mpr (by omega))

/-! ## Events and runs -/

/-- The timer handler releases at most one buffer. -/
theorem expiryScan_sn_near (sizes : BufSizeOk data) (left : Nat) {i : Nat} {scan : ExpiryScan}
    (bound : i + left ≤ data.reorderBuf.bufSize)
    (near : scan.expired = true →
      ieee80211SnSub scan.sn data.reorderBuf.headSn ≤ data.reorderBuf.bufSize)
    (expired : (expiryScan hz jiffies data left i scan).expired = true) :
    ieee80211SnSub (expiryScan hz jiffies data left i scan).sn data.reorderBuf.headSn ≤
      data.reorderBuf.bufSize := by
  induction left generalizing i scan with
  | zero => exact near expired
  | succ left ih =>
      have small := sizes.small
      rw [expiryScan] at expired ⊢
      split at expired
      · next hole =>
          rw [if_pos hole]
          exact ih (by omega) near expired
      next occupied =>
      rw [if_neg occupied]
      split at expired
      · next stop =>
          rw [if_pos stop]
          exact near expired
      · next go =>
          rw [if_neg go]
          refine ih (by omega) (fun _ => ?_) expired
          simp only
          rw [ieee80211SnSub_snAdd (by omega)]
          omega

theorem expiryScan_sn_lt {left i : Nat} {scan : ExpiryScan}
    (expired : (expiryScan hz jiffies data left i scan).expired = true)
    (canonical : scan.expired = true → scan.sn < 4096) :
    (expiryScan hz jiffies data left i scan).sn < 4096 := by
  induction left generalizing i scan with
  | zero => exact canonical expired
  | succ left ih =>
      rw [expiryScan] at expired ⊢
      split at expired
      · next hole =>
          rw [if_pos hole]
          exact ih expired canonical
      next occupied =>
      rw [if_neg occupied]
      split at expired
      · next stop =>
          rw [if_pos stop]
          exact canonical expired
      · next go =>
          rw [if_neg go]
          exact ih expired fun _ => ieee80211SnAdd_lt

theorem Windowed.timerExpired (windowed : Windowed data) (sizes : BufSizeOk data) :
    Windowed (iwlMvmReorderTimerExpired hz jiffies data).1 := by
  simp only [iwlMvmReorderTimerExpired]
  split
  · exact windowed
  split
  · next expired =>
      exact windowed.release sizes (.inl (.inr (.inl
        (expiryScan_sn_near sizes _ (by omega) (by simp) expired))))
  · exact windowed.congr rfl rfl rfl rfl

theorem Windowed.reorderLocked (windowed : Windowed data) (sizes : BufSizeOk data)
    (divides : data.reorderBuf.bufSize ∣ 4096)
    (notBar : ieee80211IsBackReq skb.frameControl = false)
    (kept : data.reorderBuf.valid = true ∨ skb.baOldSn = false → FrameKept data skb) :
    Windowed (reorderLocked hz jiffies baid data skb).data := by
  rcases reorderLocked_cases hz jiffies baid data notBar with
    ⟨-, -, early⟩ | ⟨valid, drops, gp2, prev, notes, result, placed, -, run⟩
  · rw [early]
    exact windowed
  · have fresh : Windowed data.setValid := windowed.congr rfl rfl rfl rfl
    have sizes : BufSizeOk data.setValid := ⟨sizes.room, sizes.small, sizes.aligned⟩
    have kept : FrameKept data.setValid skb := kept valid
    rw [run]
    have size : (adjustWindow hz data.setValid skb).1.reorderBuf.bufSize =
        data.reorderBuf.bufSize :=
      (stable_bufSize hz jiffies _).adjustWindow rfl skb
    have counted : Windowed ((adjustWindow hz data.setValid skb).1.withOldsn drops gp2 prev) :=
      (fresh.adjust hz sizes fun jump => (kept jump).1).1.congr rfl rfl rfl rfl
    change Windowed result.data
    exact counted.place ⟨size ▸ sizes.room, size ▸ sizes.small, .of_dvd (size ▸ divides) _⟩
      (fresh.placeKept sizes divides kept) placed

/-- An event that meets its condition keeps the window. -/
theorem Windowed.step {s : RxSession} {event : RxEvent} (windowed : Windowed s.data)
    (divides : s.data.reorderBuf.bufSize ∣ 4096) (atMost : s.data.reorderBuf.bufSize ≤ 256)
    (kept : WindowKept s event) : Windowed (s.step hz event).data := by
  have sizes : BufSizeOk s.data :=
    ⟨Nat.pos_of_dvd_of_pos divides (by decide), atMost, .of_dvd divides _⟩
  refine RxSession.step_of_handled windowed fun after handled => ?_
  cases handled with
  | frame sta skb found =>
      exact windowed.reorderLocked sizes divides (reorderSession_some found).2.2.2.2.1
        (kept (by simp [found]))
  | frameRelease fwIdToMacId nssn known =>
      exact windowed.release sizes (.inl (kept rfl known))
  | nssnSync fwIdToMacId nssn known =>
      exact windowed.release sizes ((kept rfl known).imp_right fun behind => ⟨rfl, behind⟩)
  | timerExpired =>
      obtain ⟨reorderTimer, taken⟩ := s.timerTaken_eq
      rw [taken]
      exact Windowed.timerExpired (windowed.congr rfl rfl rfl rfl)
        ⟨sizes.room, sizes.small, sizes.aligned⟩
  | delBa fwIdToMacId known =>
      have near : ieee80211SnSub (ieee80211SnAdd s.data.reorderBuf.headSn
          s.data.reorderBuf.bufSize) s.data.reorderBuf.headSn ≤ s.data.reorderBuf.bufSize :=
        (ieee80211SnSub_snAdd (by omega)).le
      exact (windowed.release sizes (.inl (.inr (.inl near)))).congr rfl rfl rfl rfl

theorem Windowed.init {ssn tid staId : Nat} :
    Windowed (iwlMvmInitReorderBuffer staId tid baid ssn bufSize) where
  counted := (held_eq_zero_iff.mpr fun _ _ => rfl).symm
  inWindow _ _ f held := by cases held

/-- In every run from the state a new session starts in, all of whose events meet
`WindowKept`, no frame is ever stranded. -/
theorem nothingStranded_of_windowKept (hz jiffies staId tid baid ssn : Nat) {bufSize : Nat}
    (divides : bufSize ∣ 4096) (atMost : bufSize ≤ 256) {events : List RxEvent}
    (run : Admissible (RxSession.step hz) WindowKept
      (RxSession.init jiffies staId tid baid ssn bufSize) events) :
    NothingStranded (events.foldl (RxSession.step hz)
      (RxSession.init jiffies staId tid baid ssn bufSize)).data := by
  have reached := run.invariant
    (P := fun s => Windowed s.data ∧ s.data.reorderBuf.bufSize = bufSize)
    (fun s event inv kept =>
      ⟨inv.1.step (inv.2 ▸ divides) (inv.2 ▸ atMost) kept, (s.step_bufSize event).trans inv.2⟩)
    ⟨.init, rfl⟩
  exact reached.1.nothingStranded

/-- A frame stored at SN 1 and released by an NSSN inside the window. -/
theorem nothingStranded_of_windowKept_release :
    (64 ∣ 4096) ∧ 64 ≤ 256 ∧ NothingStranded
      (([.frame (some 0) (.qosData 1 0 0 0), .frameRelease (fun _ => true) 0 20] :
        List RxEvent).foldl (RxSession.step 1000) (RxSession.init 0 0 0 0 0 64)).data :=
  ⟨by decide, by decide,
    nothingStranded_of_windowKept 1000 0 0 0 0 0 (by decide) (by decide) (by decide)⟩

/-- The same frame and an NSSN of 200: the head jumps to 200 and the frame stays. -/
theorem not_nothingStranded_of_jump :
    ¬NothingStranded
      (([.frame (some 0) (.qosData 1 0 0 0), .frameRelease (fun _ => true) 0 200] :
        List RxEvent).foldl (RxSession.step 1000) (RxSession.init 0 0 0 0 0 64)).data := by
  intro kept
  have stale := kept.inWindow 1 (by decide) (.qosData 1 0 0 0) (List.mem_singleton.mpr rfl)
  exact absurd stale.2 (by decide)

end Iwlwifi
