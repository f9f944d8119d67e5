import Iwlwifi.Lib.InOrder
import Iwlwifi.Mvm.ReorderWindow

/-!
# Frames are handed over in order

A sequence number says where a frame stands only up to a multiple of 4096.  `RxTrack`
follows a session with the head on the line of the integers: the head's position grows by
its distance, and a frame handed over stands at the integer nearest to the head that its
SN stands for.  The frames are handed over in order and at most once when these positions
never go back and no position is taken by two frames that are not A-MSDU sub-frames.

`OrderKept` is the condition on the state before an event.  Besides what keeps the window
it says that the head is not moved backwards, that a frame passed on at once does not
leave the head behind it, and that a frame stored is the first of the window in its slot,
which is always so where the buffer size divides 4096.
-/

namespace Iwlwifi

open Lib Function

variable {hz jiffies baid nssn i : Nat} {flags : IwlMvmReleaseFlags}
  {data : IwlMvmBaidData} {skb : RxMpdu} {position : Int} {log : List (Int × RxMpdu)}

/-! ## Positions -/

/-- The integer nearest to the head at `position` that `sn` stands for. -/
def liftAt (position : Int) (headSn sn : Nat) : Int :=
  if ieee80211SnSub sn headSn < 2048 then position + ieee80211SnSub sn headSn
  else position + ieee80211SnSub sn headSn - 4096

structure RxTrack where
  session : RxSession
  position : Int
  handed : List (Int × RxMpdu)

namespace RxTrack

def init (jiffies staId tid baid ssn bufSize : Nat) : RxTrack where
  session := .init jiffies staId tid baid ssn bufSize
  position := ssn
  handed := []

def step (hz : Nat) (t : RxTrack) (event : RxEvent) : RxTrack where
  session := t.session.step hz event
  position := t.position +
    ieee80211SnSub (t.session.step hz event).data.reorderBuf.headSn
      t.session.data.reorderBuf.headSn
  handed := t.handed ++ (t.session.handedBy hz event).map fun skb =>
    (liftAt t.position t.session.data.reorderBuf.headSn skb.sn, skb)

end RxTrack

/-! ## The state between events -/

/-- The frames are in the window, only A-MSDU sub-frames share a slot, and everything
handed over stands before the head or, if it is a sub-frame, at it. -/
structure Ordered (data : IwlMvmBaidData) (position : Int) (log : List (Int × RxMpdu)) :
    Prop where
  windowed : Windowed data
  room : 0 < data.reorderBuf.bufSize
  small : data.reorderBuf.bufSize ≤ 256
  canonical : data.reorderBuf.headSn < 4096
  tails : ∀ i < data.reorderBuf.bufSize, ∀ f ∈ (data.slots i).tail, f.amsdu = true
  upTo : UpTo RxMpdu.amsdu log position

theorem Ordered.sizes (ordered : Ordered data position log) : BufSizeOk data :=
  ⟨ordered.room, ordered.small, .of_lt ordered.canonical⟩

/-- Only the slots, the count, the size and the head matter. -/
theorem Ordered.congr {other : IwlMvmBaidData} (ordered : Ordered data position log)
    (slots : other.slots = data.slots)
    (numStored : other.reorderBuf.numStored = data.reorderBuf.numStored)
    (size : other.reorderBuf.bufSize = data.reorderBuf.bufSize)
    (head : other.reorderBuf.headSn = data.reorderBuf.headSn) :
    Ordered other position log where
  windowed := ordered.windowed.congr slots numStored size head
  room := size ▸ ordered.room
  small := size ▸ ordered.small
  canonical := head ▸ ordered.canonical
  tails := by
    rw [slots, size]
    exact ordered.tails
  upTo := ordered.upTo

/-- The head of an empty buffer moves forward. -/
theorem Ordered.setHeadSn_of_empty {headSn : Nat} {next : Int} {more : List (Int × RxMpdu)}
    (ordered : Ordered data position log) (empty : data.reorderBuf.numStored = 0)
    (canonical : headSn < 4096) (upTo : UpTo RxMpdu.amsdu more next) :
    Ordered (data.setHeadSn headSn) next more where
  windowed := ordered.windowed.setHeadSn_of_empty empty
  room := ordered.room
  small := ordered.small
  canonical := canonical
  tails := ordered.tails
  upTo := upTo

/-! ## Releases -/

theorem passed_releaseSlotOutputs (data : IwlMvmBaidData) (ssn : Nat)
    (flags : IwlMvmReleaseFlags) :
    (releaseSlotOutputs data ssn flags).filterMap RxOutput.passed =
      data.slots (ssn % data.reorderBuf.bufSize) := by
  have passes : ∀ frames : List RxMpdu,
      (frames.map RxOutput.passPacketToMac80211).filterMap RxOutput.passed = frames := by
    intro frames
    rw [List.filterMap_map]
    exact List.filterMap_some
  simp only [releaseSlotOutputs]
  rw [List.filterMap_append, passes]
  split <;> rfl

/-- The frames in the slot of the head all carry the head's SN. -/
theorem Ordered.sn_of_head_slot (ordered : Ordered data position log) {f : RxMpdu}
    (held : f ∈ data.slots (data.reorderBuf.headSn % data.reorderBuf.bufSize)) :
    f.sn = data.reorderBuf.headSn := by
  have inWindow := ordered.windowed.inWindow _ (Nat.mod_lt _ ordered.room) f held
  have atHead : ieee80211SnSub f.sn data.reorderBuf.headSn = 0 := by
    by_contra ahead
    refine inWindow.first ⟨0, by omega, ?_⟩
    rw [Nat.add_zero, Nat.mod_eq_of_lt ordered.canonical]
  have bound := f.sn_lt
  have canonical := ordered.canonical
  simp only [ieee80211SnSub] at atHead
  omega

/-- One pass of the release loop hands over the frames at the head and moves on. -/
theorem Ordered.pass (ordered : Ordered data position log) :
    Ordered ((releaseSlot data data.reorderBuf.headSn).setHeadSn
        (ieee80211SnInc data.reorderBuf.headSn)) (position + 1)
      (log ++ (data.slots (data.reorderBuf.headSn % data.reorderBuf.bufSize)).map
        fun f => (position, f)) where
  windowed := by
    refine ⟨ordered.windowed.counted.releaseSlot ordered.room, fun i bound f held => ?_⟩
    change f ∈ (releaseSlot data data.reorderBuf.headSn).slots i at held
    rw [releaseSlot_slots] at held
    by_cases here : i = data.reorderBuf.headSn % data.reorderBuf.bufSize
    · rw [here, update_self] at held
      cases held
    · rw [update_of_ne here] at held
      have inWindow := ordered.windowed.inWindow i bound f held
      refine (inWindow.forward ?_).1
      change ieee80211SnSub (ieee80211SnInc _) _ ≤ _
      rw [ieee80211SnSub_snInc_self]
      by_contra atHead
      refine here ?_
      have bound := f.sn_lt
      have canonical := ordered.canonical
      have same : f.sn = data.reorderBuf.headSn := by
        simp only [ieee80211SnSub] at atHead
        omega
      rw [← inWindow.slot, same]
  room := ordered.room
  small := ordered.small
  canonical := ieee80211SnInc_lt
  tails i bound f held := by
    change f ∈ ((releaseSlot data data.reorderBuf.headSn).slots i).tail at held
    rw [releaseSlot_slots] at held
    by_cases here : i = data.reorderBuf.headSn % data.reorderBuf.bufSize
    · rw [here, update_self] at held
      cases held
    · rw [update_of_ne here] at held
      exact ordered.tails i bound f held
  upTo := ordered.upTo.batch (ordered.tails _ (Nat.mod_lt _ ordered.room))

/-- A release to an NSSN at most a buffer ahead hands the frames it passes over at their
positions and moves the head there. -/
theorem Ordered.release_near (ordered : Ordered data position log) (canonical : nssn < 4096)
    (near : ieee80211SnSub nssn data.reorderBuf.headSn ≤ data.reorderBuf.bufSize) :
    Ordered (iwlMvmReleaseFrames hz data nssn flags).1
        (position + ieee80211SnSub nssn data.reorderBuf.headSn)
        (log ++ ((iwlMvmReleaseFrames hz data nssn flags).2.filterMap RxOutput.passed).map
          fun f => (position + ieee80211SnSub f.sn data.reorderBuf.headSn, f)) ∧
      ∀ f ∈ (iwlMvmReleaseFrames hz data nssn flags).2.filterMap RxOutput.passed,
        ∃ i < data.reorderBuf.bufSize, f ∈ data.slots i := by
  have small := ordered.small
  have start : Ordered (data.setHeadSn data.reorderBuf.headSn) position log :=
    ordered.congr rfl rfl rfl rfl
  obtain ⟨final, ⟨kept, size, total, subset, origin⟩, done⟩ :=
    releaseLoop_end nssn data.reorderBuf.headSn flags data
      (P := fun ssn after outputs =>
        Ordered (after.setHeadSn ssn) (position + ieee80211SnSub ssn data.reorderBuf.headSn)
            (log ++ (outputs.filterMap RxOutput.passed).map
              fun f => (position + ieee80211SnSub f.sn data.reorderBuf.headSn, f)) ∧
          after.reorderBuf.bufSize = data.reorderBuf.bufSize ∧
          ieee80211SnSub ssn data.reorderBuf.headSn + ieee80211SnSub nssn ssn =
            ieee80211SnSub nssn data.reorderBuf.headSn ∧
          (∀ i, ∀ f ∈ after.slots i, f ∈ data.slots i) ∧
          ∀ f ∈ outputs.filterMap RxOutput.passed,
            ∃ i < data.reorderBuf.bufSize, f ∈ data.slots i)
      (fun ssn after outputs inv less => by
        obtain ⟨kept, size, total, subset, origin⟩ := inv
        have ahead := iwlMvmIsSnLess_pos less
        have closer := ieee80211SnSub_snInc ahead
        have canonical : ssn < 4096 := kept.canonical
        have further : ieee80211SnSub (ieee80211SnInc ssn) data.reorderBuf.headSn =
            ieee80211SnSub ssn data.reorderBuf.headSn + 1 := by
          simp only [ieee80211SnSub, ieee80211SnInc, ieee80211SnAdd] at *
          omega
        have frames := passed_releaseSlotOutputs after ssn flags
        refine ⟨?_, size, by omega, ?_, ?_⟩
        · have passed := kept.pass
          have sameSn : ∀ f ∈ after.slots (ssn % after.reorderBuf.bufSize), f.sn = ssn :=
            fun f held => kept.sn_of_head_slot held
          rw [List.filterMap_append, frames, List.map_append, ← List.append_assoc, further]
          have positions : (after.slots (ssn % after.reorderBuf.bufSize)).map
              (fun f => (position + ieee80211SnSub f.sn data.reorderBuf.headSn, f)) =
              (after.slots (ssn % after.reorderBuf.bufSize)).map
                fun f => (position + ieee80211SnSub ssn data.reorderBuf.headSn, f) :=
            List.map_congr_left fun f held => by rw [sameSn f held]
          rw [positions]
          push_cast
          rw [← Int.add_assoc]
          exact passed
        · intro i f held
          rw [releaseSlot_slots] at held
          by_cases here : i = ssn % after.reorderBuf.bufSize
          · rw [here, update_self] at held
            cases held
          · rw [update_of_ne here] at held
            exact subset i f held
        · intro f member
          rw [List.filterMap_append, frames] at member
          rcases List.mem_append.mp member with old | isNew
          · exact origin f old
          · refine ⟨ssn % after.reorderBuf.bufSize, ?_, subset _ f isNew⟩
            rw [size]
            exact Nat.mod_lt _ ordered.room)
      ⟨by simpa using start, rfl, by simp, fun _ _ held => held,
        by simp⟩
  rw [iwlMvmReleaseFrames_of_near (by omega) near]
  dsimp only
  have arrived : ieee80211SnSub nssn final = 0 := by
    rcases (iwlMvmIsSnLess_eq_false_iff (by omega)).mp done with arrived | far
    · exact arrived
    · omega
  have same : final = nssn := by
    have finalCanonical : final < 4096 := kept.canonical
    simp only [ieee80211SnSub] at arrived
    omega
  subst same
  exact ⟨kept.congr rfl rfl rfl rfl, origin⟩

/-- A release does not move the head backwards: its target is at most a buffer ahead, or
at most a buffer behind and ignored, or nothing is held and it is less than 2048 ahead. -/
def ForwardTo (data : IwlMvmBaidData) (target : Nat) : Prop :=
  ieee80211SnSub target data.reorderBuf.headSn ≤ data.reorderBuf.bufSize ∨
    4096 ≤ ieee80211SnSub target data.reorderBuf.headSn + data.reorderBuf.bufSize ∨
    (data.reorderBuf.numStored = 0 ∧ ieee80211SnSub target data.reorderBuf.headSn < 2048)

instance : Decidable (ForwardTo data nssn) := inferInstanceAs (Decidable (_ ∨ _ ∨ _))

theorem ForwardTo.releaseKept (forward : ForwardTo data nssn) : ReleaseKept data nssn := by
  rcases forward with near | behind | ⟨empty, -⟩
  · exact .inr (.inl near)
  · exact .inr (.inr behind)
  · exact .inl empty

/-- Where a jump leaves the head, if its target is at most a buffer away. -/
theorem headAfterJump_near {buf : IwlMvmReorderBuffer} (small : buf.bufSize ≤ 256)
    (close : ieee80211SnSub nssn buf.headSn ≤ buf.bufSize ∨
      4096 ≤ ieee80211SnSub nssn buf.headSn + buf.bufSize) :
    ieee80211SnSub (headAfterJump buf nssn) buf.headSn ≤ buf.bufSize := by
  have bound : ieee80211SnSub nssn buf.headSn < 4096 := ieee80211SnSub_lt
  unfold headAfterJump
  split
  · simp
  · next notIgnored =>
      rw [iwlMvmIsSnLess_iff (by omega), ieee80211SnSub_swap] at notIgnored
      omega

theorem ForwardTo.headAfterJump (forward : ForwardTo data nssn)
    (small : data.reorderBuf.bufSize ≤ 256) :
    ieee80211SnSub (headAfterJump data.reorderBuf nssn) data.reorderBuf.headSn < 2048 := by
  rcases forward with near | behind | ⟨-, ahead⟩
  · have := headAfterJump_near small (.inl near)
    omega
  · have := headAfterJump_near small (.inr behind)
    omega
  · unfold Iwlwifi.headAfterJump
    split
    · simp
    · exact ahead

/-- A release that does not move the head backwards hands over in order. -/
theorem Ordered.release (hz : Nat) (flags : IwlMvmReleaseFlags)
    (ordered : Ordered data position log) (canonical : nssn < 4096)
    (forward : ForwardTo data nssn ∨
      (flags.fromRssSync = true ∧ 2048 < ieee80211SnSub nssn data.reorderBuf.headSn)) :
    Ordered (iwlMvmReleaseFrames hz data nssn flags).1
        (position + ieee80211SnSub
          (iwlMvmReleaseFrames hz data nssn flags).1.reorderBuf.headSn data.reorderBuf.headSn)
        (log ++ ((iwlMvmReleaseFrames hz data nssn flags).2.filterMap RxOutput.passed).map
          fun f => (position + ieee80211SnSub f.sn data.reorderBuf.headSn, f)) ∧
      ∀ f ∈ (iwlMvmReleaseFrames hz data nssn flags).2.filterMap RxOutput.passed,
        ∃ i < data.reorderBuf.bufSize, f ∈ data.slots i := by
  have small := ordered.small
  have ignored : Ordered (setTimer hz data)
      (position + ieee80211SnSub data.reorderBuf.headSn data.reorderBuf.headSn) (log ++ []) := by
    rw [ieee80211SnSub_self, List.append_nil, Nat.cast_zero, add_zero]
    exact ordered.congr rfl rfl rfl rfl
  by_cases near : ieee80211SnSub nssn data.reorderBuf.headSn ≤ data.reorderBuf.bufSize
  · have head : (iwlMvmReleaseFrames hz data nssn flags).1.reorderBuf.headSn = nssn :=
      (ordered.windowed.release_near hz flags ordered.sizes near).2.1
    rw [head]
    exact ordered.release_near canonical near
  by_cases behind :
      4096 ≤ ieee80211SnSub nssn data.reorderBuf.headSn + data.reorderBuf.bufSize
  · rw [iwlMvmReleaseFrames_of_behind (by omega) behind]
    exact ⟨ignored, by simp⟩
  by_cases sync : flags.fromRssSync = true ∧ 2048 < ieee80211SnSub nssn data.reorderBuf.headSn
  · have isIgnored : iwlMvmReleaseFrames hz data nssn flags = (setTimer hz data, []) := by
      simp [iwlMvmReleaseFrames, sync.1, ieee80211SnLess_iff.mpr sync.2]
    rw [isIgnored]
    exact ⟨ignored, by simp⟩
  · have empty : data.reorderBuf.numStored = 0 := by
      rcases forward with (isNear | isBehind | ⟨empty, -⟩) | isSync
      · exact absurd isNear near
      · exact absurd isBehind behind
      · exact empty
      · exact absurd isSync sync
    rw [iwlMvmReleaseFrames_of_jump (by omega) (by omega) (by omega)
      (fun fromSync => by
        by_contra far
        exact sync ⟨fromSync, by omega⟩)]
    have upTo : UpTo RxMpdu.amsdu (log ++ [])
        (position + ieee80211SnSub nssn data.reorderBuf.headSn) := by
      rw [List.append_nil]
      exact ordered.upTo.advance (by omega)
    have moved := ordered.setHeadSn_of_empty empty canonical upTo
    exact ⟨moved.congr rfl rfl rfl rfl, by simp⟩

/-! ## Frames -/

theorem Ordered.store (ordered : Ordered data position log)
    (fresh : retransmission data skb = false)
    (inWindow : InWindow data.reorderBuf.bufSize data.reorderBuf.headSn
      (skb.sn % data.reorderBuf.bufSize) skb) :
    Ordered (storeFrame jiffies data skb) position log where
  windowed := ordered.windowed.store ordered.room inWindow
  room := ordered.room
  small := ordered.small
  canonical := ordered.canonical
  tails i bound f held := by
    rw [storeFrame_slots] at held
    by_cases here : i = skb.sn % data.reorderBuf.bufSize
    · subst here
      rw [update_self] at held
      cases frames : data.slots (skb.sn % data.reorderBuf.bufSize) with
      | nil => simp [frames] at held
      | cons first rest =>
        rw [frames, List.cons_append, List.tail_cons, List.mem_append,
          List.mem_singleton] at held
        rcases held with old | rfl
        · exact ordered.tails _ bound f (by simpa [frames] using old)
        · rw [← Bool.not_eq_true, retransmission_iff, not_and_or, not_not] at fresh
          rcases fresh with empty | continues
          · simp [frames] at empty
          · simpa using (not_or.mp continues).1
    · rw [update_of_ne here] at held
      exact ordered.tails i bound f held
  upTo := ordered.upTo

/-- Placing a frame keeps the order: it is outdated; or nothing is held and its NSSN lets
it through, and the head follows the NSSN or, for an inner sub-frame, is at it; or it is
the next frame, or repeated; or it is stored as the first of the window in its slot with
an NSSN that does not jump. -/
def PlaceOrdered (data : IwlMvmBaidData) (skb : RxMpdu) : Prop :=
  ieee80211SnLess skb.sn data.reorderBuf.headSn = true ∨
    if data.reorderBuf.numStored = 0 ∧ ieee80211SnLess skb.sn skb.nssn = true then
      if skb.amsdu = true ∧ skb.lastSubframe = false then skb.sn = data.reorderBuf.headSn
      else iwlMvmIsSnLess data.reorderBuf.headSn skb.nssn data.reorderBuf.bufSize = true
    else
      (data.reorderBuf.numStored = 0 ∧ skb.sn = data.reorderBuf.headSn) ∨
        retransmission data skb = true ∨
        (InWindow data.reorderBuf.bufSize data.reorderBuf.headSn
            (skb.sn % data.reorderBuf.bufSize) skb ∧
          ((skb.amsdu = true ∧ skb.lastSubframe = false) ∨
            ieee80211SnSub skb.nssn data.reorderBuf.headSn ≤ data.reorderBuf.bufSize ∨
            4096 ≤ ieee80211SnSub skb.nssn data.reorderBuf.headSn + data.reorderBuf.bufSize))

/-- What is handed over when a frame is placed, with the positions seen from the head. -/
def placedLog (position : Int) (headSn : Nat) (skb : RxMpdu) (result : ReorderResult) :
    List (Int × RxMpdu) :=
  (result.outputs.filterMap RxOutput.passed ++ if result.taken then [] else [skb]).map
    fun f => (position + ieee80211SnSub f.sn headSn, f)

/-- After placing: the order, a head moved by at most a buffer, and where the frames
handed over came from. -/
structure PlacedOrdered (data : IwlMvmBaidData) (position : Int) (log : List (Int × RxMpdu))
    (skb : RxMpdu) (result : ReorderResult) : Prop where
  ordered : Ordered result.data
    (position + ieee80211SnSub result.data.reorderBuf.headSn data.reorderBuf.headSn)
    (log ++ placedLog position data.reorderBuf.headSn skb result)
  headNear : ieee80211SnSub result.data.reorderBuf.headSn data.reorderBuf.headSn ≤ 256
  origin : ∀ f ∈ result.outputs.filterMap RxOutput.passed ++ if result.taken then [] else [skb],
    (f = skb ∧ ieee80211SnLess skb.sn data.reorderBuf.headSn = false) ∨
      ∃ i < data.reorderBuf.bufSize, f ∈ data.slots i

theorem crossSync_passed (baid sn : Nat) :
    (crossSync baid sn).filterMap RxOutput.passed = [] := by
  unfold crossSync
  split <;> rfl

/-- Nothing is handed over and the head stays. -/
theorem PlacedOrdered.of_kept {after : IwlMvmBaidData}
    (ordered : Ordered after position log)
    (head : after.reorderBuf.headSn = data.reorderBuf.headSn) :
    PlacedOrdered data position log skb ⟨true, after, []⟩ where
  ordered := by
    simpa [placedLog, head] using ordered
  headNear := by simp [head]
  origin := by simp

/-- The frame itself is handed over and the head moves to or past it. -/
theorem PlacedOrdered.of_passed {after : IwlMvmBaidData} {outputs : List RxOutput}
    (silent : outputs.filterMap RxOutput.passed = [])
    (notBehind : ieee80211SnLess skb.sn data.reorderBuf.headSn = false)
    (headNear : ieee80211SnSub after.reorderBuf.headSn data.reorderBuf.headSn ≤ 256)
    (passed : Ordered after
      (position + ieee80211SnSub after.reorderBuf.headSn data.reorderBuf.headSn)
      (log ++ [(position + ieee80211SnSub skb.sn data.reorderBuf.headSn, skb)])) :
    PlacedOrdered data position log skb ⟨false, after, outputs⟩ where
  ordered := by
    simpa [placedLog, silent] using passed
  headNear := headNear
  origin := by simp [silent, notBehind]

theorem snLess_headSn_self (h : Nat) : ieee80211SnLess h h = false :=
  ieee80211SnLess_eq_false_iff.mpr (by simp)

theorem Ordered.place {result : ReorderResult} (ordered : Ordered data position log)
    (kept : PlaceOrdered data skb) (placed : Placed hz jiffies baid data skb result) :
    PlacedOrdered data position log skb result := by
  have small := ordered.small
  cases placed with
  | outdated => exact .of_kept ordered rfl
  | passMove notBehind empty less move =>
    rw [iwlMvmIsSnLess_iff (by omega)] at move
    have ahead := ieee80211SnLess_eq_false_iff.mp notBehind
    have before : ieee80211SnSub skb.sn data.reorderBuf.headSn <
        ieee80211SnSub skb.nssn data.reorderBuf.headSn := by
      rw [ieee80211SnLess_iff] at less
      simp only [ieee80211SnSub] at *
      omega
    refine .of_passed (crossSync_passed _ _) notBehind
      (show ieee80211SnSub skb.nssn _ ≤ 256 by omega) ?_
    exact ordered.setHeadSn_of_empty empty skb.nssn_lt
      (ordered.upTo.append (by omega)
        (.inl (by change _ < position + (ieee80211SnSub skb.nssn _ : Int); omega)))
  | passStay notBehind empty less stays =>
    have kept := kept.resolve_left (by simp [notBehind])
    rw [if_pos ⟨empty, less⟩] at kept
    split at kept
    · next inner =>
        refine .of_passed rfl notBehind (by simp) ?_
        have upTo : UpTo RxMpdu.amsdu (log ++ [(position, skb)]) position :=
          ordered.upTo.append le_rfl (.inr ⟨rfl, inner.1⟩)
        simpa [kept] using { ordered with upTo }
    · next whole =>
        rcases stays with far | inner
        · simp [far] at kept
        · exact absurd inner whole
  | nextMove empty _ next =>
    have notBehind : ieee80211SnLess skb.sn data.reorderBuf.headSn = false := by
      rw [next]
      exact snLess_headSn_self _
    have further : ieee80211SnSub (ieee80211SnInc data.reorderBuf.headSn)
        data.reorderBuf.headSn = 1 := ieee80211SnSub_snInc_self
    refine .of_passed (crossSync_passed _ _) notBehind (by simp [further]) ?_
    refine ordered.setHeadSn_of_empty empty ieee80211SnInc_lt
      (ordered.upTo.append (by omega) (.inl ?_))
    simp [next, further]
  | nextStay empty _ next inner =>
    have notBehind : ieee80211SnLess skb.sn data.reorderBuf.headSn = false := by
      rw [next]
      exact snLess_headSn_self _
    refine .of_passed rfl notBehind (by simp) ?_
    have upTo : UpTo RxMpdu.amsdu (log ++ [(position, skb)]) position :=
      ordered.upTo.append le_rfl (.inr ⟨rfl, inner⟩)
    simpa [next] using { ordered with upTo }
  | repeated => exact .of_kept ordered rfl
  | stored notBehind occupied fresh =>
    have kept := kept.resolve_left (by simp [notBehind])
    rw [if_neg fun both => by simp [both.2] at occupied; exact occupied both.1] at kept
    rcases kept with ⟨empty, next⟩ | again | ⟨inWindow, -⟩
    · exact absurd next (occupied empty).2
    · simp [again] at fresh
    · exact .of_kept (ordered.store fresh inWindow) rfl
  | storedReleased notBehind occupied fresh whole =>
    have kept := kept.resolve_left (by simp [notBehind])
    rw [if_neg fun both => by simp [both.2] at occupied; exact occupied both.1] at kept
    rcases kept with ⟨empty, next⟩ | again | ⟨inWindow, closes⟩
    · exact absurd next (occupied empty).2
    · simp [again] at fresh
    have inner : ¬(skb.amsdu = true ∧ skb.lastSubframe = false) := by
      rcases whole with single | last
      · simp [single]
      · simp [last]
    have closes := closes.resolve_left inner
    have stored : Ordered (storeFrame jiffies data skb) position log :=
      ordered.store fresh inWindow
    have forward : ForwardTo (storeFrame jiffies data skb) skb.nssn :=
      closes.imp_right .inl
    obtain ⟨released, origin⟩ := stored.release hz { sendRssSync := true }
      skb.nssn_lt (.inl forward)
    refine ⟨?_, ?_, ?_⟩
    · simpa [placedLog] using released
    · rw [iwlMvmReleaseFrames_headSn]
      have near : ieee80211SnSub
          (headAfterJump (storeFrame jiffies data skb).reorderBuf skb.nssn) _ ≤ _ :=
        headAfterJump_near small closes
      exact near.trans small
    · intro f member
      simp only [if_true, List.append_nil] at member
      obtain ⟨i, bound, held⟩ := origin f member
      rw [storeFrame_slots] at held
      by_cases here : i = skb.sn % data.reorderBuf.bufSize
      · subst here
        rw [update_self, List.mem_append, List.mem_singleton] at held
        rcases held with old | rfl
        · exact .inr ⟨_, bound, old⟩
        · exact .inl ⟨rfl, notBehind⟩
      · rw [update_of_ne here] at held
        exact .inr ⟨i, bound, held⟩

instance (bufSize headSn d i : Nat) : Decidable (Covered bufSize headSn d i) :=
  inferInstanceAs (Decidable (∃ k < d, _))

instance (bufSize headSn i : Nat) (f : RxMpdu) : Decidable (InWindow bufSize headSn i f) :=
  decidable_of_iff
    (f.sn % bufSize = i ∧ ieee80211SnSub f.sn headSn < bufSize ∧
      ¬Covered bufSize headSn (ieee80211SnSub f.sn headSn) i)
    ⟨fun ⟨slot, near, first⟩ => ⟨slot, near, first⟩,
      fun inWindow => ⟨inWindow.slot, inWindow.near, inWindow.first⟩⟩

/-- The condition on a frame, in the state before it is received.  Its SN is less than
2048 ahead of the head, or it is behind the head and asks for no jump; the jump, if it
asks for one, does not go backwards; and placing it at the head `h` after the jump keeps
the order. -/
def FrameOrdered (data : IwlMvmBaidData) (skb : RxMpdu) : Prop :=
  let h := headAfterAdjust data.reorderBuf skb
  let d := ieee80211SnSub h data.reorderBuf.headSn
  (ieee80211SnSub skb.sn data.reorderBuf.headSn < 2048 ∨
    (2048 < ieee80211SnSub skb.sn data.reorderBuf.headSn ∧
      windowJump data.reorderBuf skb = false)) ∧
  (windowJump data.reorderBuf skb = true → ForwardTo data (minSn skb)) ∧
  (ieee80211SnLess skb.sn h = true ∨
    if ¬HoldsFrom data d ∧ ieee80211SnLess skb.sn skb.nssn = true then
      if skb.amsdu = true ∧ skb.lastSubframe = false then skb.sn = h
      else iwlMvmIsSnLess h skb.nssn data.reorderBuf.bufSize = true
    else
      (¬HoldsFrom data d ∧ skb.sn = h) ∨ RepeatedFrom data skb d ∨
        (InWindow data.reorderBuf.bufSize h (skb.sn % data.reorderBuf.bufSize) skb ∧
          ((skb.amsdu = true ∧ skb.lastSubframe = false) ∨
            ieee80211SnSub skb.nssn h ≤ data.reorderBuf.bufSize ∨
            4096 ≤ ieee80211SnSub skb.nssn h + data.reorderBuf.bufSize)))

instance : Decidable (FrameOrdered data skb) :=
  inferInstanceAs (Decidable ((_ ∨ _) ∧ (_ → _) ∧ (_ ∨ _)))

theorem minSn_lt (skb : RxMpdu) : minSn skb < 4096 := by
  unfold minSn
  split
  · exact skb.sn_lt
  · exact skb.nssn_lt

theorem FrameOrdered.releaseKept (kept : FrameOrdered data skb) :
    windowJump data.reorderBuf skb = true → ReleaseKept data (minSn skb) :=
  fun jump => (kept.2.1 jump).releaseKept

theorem FrameOrdered.placeOrdered (kept : FrameOrdered data skb)
    (ordered : Ordered data position log) : PlaceOrdered (adjustWindow hz data skb).1 skb := by
  have size : (adjustWindow hz data skb).1.reorderBuf.bufSize = data.reorderBuf.bufSize :=
    (stable_bufSize hz 0 _).adjustWindow rfl skb
  have releaseKept := kept.releaseKept
  obtain ⟨-, -, kept⟩ := kept
  have empty := adjustWindow_numStored_eq_zero_iff ordered.windowed ordered.sizes
    releaseKept hz
  rw [PlaceOrdered, adjustWindow_headSn, size]
  refine kept.imp_right fun kept => ?_
  split at kept
  · next passes => rwa [if_pos ⟨empty.mpr passes.1, passes.2⟩]
  · next notPasses =>
      rw [if_neg fun passes => notPasses ⟨empty.mp passes.1, passes.2⟩]
      rcases kept with ⟨none, next⟩ | again | stores
      · exact .inl ⟨empty.mpr none, next⟩
      · exact .inr (.inl (again.adjust ordered.windowed ordered.sizes releaseKept))
      · exact .inr (.inr stores)

/-- The window adjustment moves the head forward by less than 2048. -/
theorem FrameOrdered.headAfterAdjust_lt (kept : FrameOrdered data skb)
    (small : data.reorderBuf.bufSize ≤ 256) :
    ieee80211SnSub (headAfterAdjust data.reorderBuf skb) data.reorderBuf.headSn < 2048 := by
  unfold headAfterAdjust
  split
  · next jump => exact (kept.2.1 jump).headAfterJump small
  · simp

/-- Where the SN of a frame that is not outdated after the adjustment lies. -/
theorem FrameOrdered.sn_way (kept : FrameOrdered data skb)
    (small : data.reorderBuf.bufSize ≤ 256)
    (notBehind : ieee80211SnLess skb.sn (headAfterAdjust data.reorderBuf skb) = false) :
    ieee80211SnSub skb.sn data.reorderBuf.headSn < 2048 ∧
      ieee80211SnSub skb.sn data.reorderBuf.headSn =
        ieee80211SnSub skb.sn (headAfterAdjust data.reorderBuf skb) +
          ieee80211SnSub (headAfterAdjust data.reorderBuf skb) data.reorderBuf.headSn := by
  have near := kept.headAfterAdjust_lt small
  have ahead := ieee80211SnLess_eq_false_iff.mp notBehind
  have way : ieee80211SnSub skb.sn data.reorderBuf.headSn =
      ieee80211SnSub skb.sn (headAfterAdjust data.reorderBuf skb) +
        ieee80211SnSub (headAfterAdjust data.reorderBuf skb) data.reorderBuf.headSn := by
    simp only [ieee80211SnSub] at *
    omega
  refine ⟨?_, way⟩
  rcases kept.1 with inside | ⟨behind, noJump⟩
  · exact inside
  · rw [headAfterAdjust, if_neg (by simp [noJump])] at ahead
    omega

theorem liftAt_of_lt {sn : Nat} (ahead : ieee80211SnSub sn data.reorderBuf.headSn < 2048) :
    liftAt position data.reorderBuf.headSn sn =
      position + ieee80211SnSub sn data.reorderBuf.headSn := if_pos ahead

/-- The frames a session holds stand where the window says. -/
theorem Ordered.liftAt_of_mem (ordered : Ordered data position log) {f : RxMpdu}
    (bound : i < data.reorderBuf.bufSize) (held : f ∈ data.slots i) :
    liftAt position data.reorderBuf.headSn f.sn =
      position + ieee80211SnSub f.sn data.reorderBuf.headSn := by
  have near := (ordered.windowed.inWindow i bound f held).near
  have small := ordered.small
  exact liftAt_of_lt (by omega)

/-- An event's result: the order, with the positions of `RxTrack`. -/
def OrderedAfter (data : IwlMvmBaidData) (position : Int) (log : List (Int × RxMpdu))
    (after : IwlMvmBaidData) (handed : List RxMpdu) : Prop :=
  Ordered after
    (position + ieee80211SnSub after.reorderBuf.headSn data.reorderBuf.headSn)
    (log ++ handed.map fun f => (liftAt position data.reorderBuf.headSn f.sn, f))

theorem Ordered.release_after (ordered : Ordered data position log) (canonical : nssn < 4096)
    (forward : ForwardTo data nssn ∨
      (flags.fromRssSync = true ∧ 2048 < ieee80211SnSub nssn data.reorderBuf.headSn)) :
    OrderedAfter data position log (iwlMvmReleaseFrames hz data nssn flags).1
      ((iwlMvmReleaseFrames hz data nssn flags).2.filterMap RxOutput.passed) := by
  obtain ⟨released, origin⟩ := ordered.release hz flags canonical forward
  have positions := List.map_congr_left
    (f := fun f : RxMpdu => (liftAt position data.reorderBuf.headSn f.sn, f))
    (g := fun f : RxMpdu =>
      (position + (ieee80211SnSub f.sn data.reorderBuf.headSn : Int), f)) fun f member => by
    obtain ⟨i, bound, held⟩ := origin f member
    simp only [ordered.liftAt_of_mem bound held]
  rw [OrderedAfter, positions]
  exact released

/-- Nothing happens. -/
theorem Ordered.same_after {after : IwlMvmBaidData} (ordered : Ordered data position log)
    (slots : after.slots = data.slots)
    (numStored : after.reorderBuf.numStored = data.reorderBuf.numStored)
    (size : after.reorderBuf.bufSize = data.reorderBuf.bufSize)
    (head : after.reorderBuf.headSn = data.reorderBuf.headSn) :
    OrderedAfter data position log after [] := by
  rw [OrderedAfter, head, ieee80211SnSub_self, List.map_nil, List.append_nil, Nat.cast_zero,
    add_zero]
  exact ordered.congr slots numStored size head

theorem Ordered.adjust_after (ordered : Ordered data position log)
    (kept : FrameOrdered data skb) :
    OrderedAfter data position log (adjustWindow hz data skb).1
      ((adjustWindow hz data skb).2.filterMap RxOutput.passed) := by
  unfold adjustWindow
  split
  · next jump => exact ordered.release_after (minSn_lt skb) (.inl (kept.2.1 jump))
  · exact ordered.same_after rfl rfl rfl rfl

theorem stable_valid (hz jiffies : Nat) :
    Stable hz jiffies fun data => data.reorderBuf.valid = true where
  release data nssn flags valid := by
    obtain ⟨⟨_, _, _, buf⟩, -⟩ := iwlMvmReleaseFrames_frame hz nssn flags data
    rw [buf]
    exact valid
  setHeadSn _ _ valid := valid
  setTimerPending _ _ valid := valid
  setValid _ _ := rfl
  withOldsn _ _ _ _ valid := valid
  store _ _ _ valid := valid

/-- The frames handed over when a frame is placed after the adjustment stand where they
are seen from the head before it. -/
theorem FrameOrdered.placedLog_eq {result : ReorderResult} (kept : FrameOrdered data skb)
    (ordered : Ordered data position log)
    (origin : ∀ f ∈ result.outputs.filterMap RxOutput.passed ++
        if result.taken then [] else [skb],
      (f = skb ∧ ieee80211SnLess skb.sn (headAfterAdjust data.reorderBuf skb) = false) ∨
        ∃ i < data.reorderBuf.bufSize, f ∈ (adjustWindow hz data skb).1.slots i) :
    placedLog
        (position + ieee80211SnSub (headAfterAdjust data.reorderBuf skb) data.reorderBuf.headSn)
        (headAfterAdjust data.reorderBuf skb) skb result =
      (result.outputs.filterMap RxOutput.passed ++ if result.taken then [] else [skb]).map
        fun f => (liftAt position data.reorderBuf.headSn f.sn, f) := by
  refine List.map_congr_left fun f member => ?_
  have members := (ordered.windowed.adjust hz ordered.sizes kept.releaseKept).2
  rcases origin f member with ⟨rfl, notBehind⟩ | ⟨i, bound, held⟩
  · obtain ⟨ahead, way⟩ := kept.sn_way ordered.small notBehind
    rw [liftAt_of_lt ahead, way]
    push_cast
    rw [add_assoc, add_comm (ieee80211SnSub f.sn _ : Int)]
  · obtain ⟨before, late⟩ := (members i bound f).mp held
    have way := ((ordered.windowed.inWindow i bound f before).forward late).2
    rw [ordered.liftAt_of_mem bound before, way]
    push_cast
    rw [add_assoc, add_comm (ieee80211SnSub f.sn _ : Int)]

theorem Ordered.reorderLocked_after (ordered : Ordered data position log)
    (notBar : ieee80211IsBackReq skb.frameControl = false)
    (kept : data.reorderBuf.valid = true ∨ skb.baOldSn = false → FrameOrdered data skb) :
    OrderedAfter data position log (reorderLocked hz jiffies baid data skb).data
      ((reorderLocked hz jiffies baid data skb).outputs.filterMap RxOutput.passed ++
        if !(reorderLocked hz jiffies baid data skb).taken &&
            (reorderLocked hz jiffies baid data skb).data.reorderBuf.valid then [skb]
        else []) := by
  rcases reorderLocked_cases hz jiffies baid data notBar with
    ⟨invalid, -, early⟩ | ⟨goesOn, drops, gp2, prev, notes, result, placed, silent, run⟩
  · rw [early]
    simp only [invalid, Bool.and_false, Bool.false_eq_true, if_false]
    exact ordered.same_after rfl rfl rfl rfl
  have isValid : result.data.reorderBuf.valid = true :=
    (stable_valid hz jiffies).placed placed
      ((stable_valid hz jiffies).adjustWindow (show data.setValid.reorderBuf.valid = true from rfl)
        skb)
  have kept : FrameOrdered data.setValid skb := kept goesOn
  have start : Ordered data.setValid position log := ordered.congr rfl rfl rfl rfl
  have adjusted : OrderedAfter data.setValid position log
      ((adjustWindow hz data.setValid skb).1.withOldsn drops gp2 prev)
      ((adjustWindow hz data.setValid skb).2.filterMap RxOutput.passed) :=
    (start.adjust_after kept).congr rfl rfl rfl rfl
  have placeOrdered : PlaceOrdered
      ((adjustWindow hz data.setValid skb).1.withOldsn drops gp2 prev) skb :=
    kept.placeOrdered start
  obtain ⟨after, headNear, origin⟩ := Ordered.place adjusted placeOrdered placed
  have head : ((adjustWindow hz data.setValid skb).1.withOldsn drops gp2 prev).reorderBuf.headSn =
      headAfterAdjust data.setValid.reorderBuf skb := adjustWindow_headSn
  have size : ((adjustWindow hz data.setValid skb).1.withOldsn drops gp2
      prev).reorderBuf.bufSize = data.setValid.reorderBuf.bufSize :=
    (stable_bufSize hz jiffies _).adjustWindow rfl skb
  rw [head] at after headNear origin
  rw [size] at origin
  have moved := kept.headAfterAdjust_lt start.small
  have total : ieee80211SnSub result.data.reorderBuf.headSn data.setValid.reorderBuf.headSn =
      ieee80211SnSub (headAfterAdjust data.setValid.reorderBuf skb)
          data.setValid.reorderBuf.headSn +
        ieee80211SnSub result.data.reorderBuf.headSn
          (headAfterAdjust data.setValid.reorderBuf skb) := by
    simp only [ieee80211SnSub] at *
    omega
  rw [kept.placedLog_eq start origin, List.append_assoc, ← List.map_append, add_assoc] at after
  rw [run]
  simp only [List.filterMap_append, silent, List.append_nil, isValid, Bool.and_true]
  change Ordered result.data (position + ieee80211SnSub result.data.reorderBuf.headSn
    data.setValid.reorderBuf.headSn) _
  rw [total]
  push_cast
  cases taken : result.taken with
  | true | false => simpa [IwlMvmBaidData.setValid, taken] using after

/-! ## Events and runs -/

/-- The condition on the state before an event.  The NSSN of a notification is a sequence
number. -/
def OrderKept (s : RxSession) : RxEvent → Prop
  | .frame sta skb =>
    (reorderSession s.baidMap sta skb).isSome = true →
      (s.data.reorderBuf.valid = true ∨ skb.baOldSn = false) → FrameOrdered s.data skb
  | .frameRelease fwIdToMacId b nssn =>
    b = s.data.baid → fwIdToMacId s.data.staId = true →
      nssn < 4096 ∧ ForwardTo s.data nssn
  | .nssnSync fwIdToMacId b nssn =>
    b = s.data.baid → fwIdToMacId s.data.staId = true →
      nssn < 4096 ∧
        (ForwardTo s.data nssn ∨ 2048 < ieee80211SnSub nssn s.data.reorderBuf.headSn)
  | _ => True

instance (s : RxSession) : (event : RxEvent) → Decidable (OrderKept s event)
  | .frame _ _ => inferInstanceAs (Decidable (_ → _ → _))
  | .frameRelease _ _ _ => inferInstanceAs (Decidable (_ → _ → _ ∧ _))
  | .nssnSync _ _ _ => inferInstanceAs (Decidable (_ → _ → _ ∧ _))
  | .elapse _ | .timerExpired | .delBa _ _ => inferInstanceAs (Decidable True)

theorem Ordered.timerExpired_after (ordered : Ordered data position log) :
    OrderedAfter data position log (iwlMvmReorderTimerExpired hz jiffies data).1
      ((iwlMvmReorderTimerExpired hz jiffies data).2.filterMap RxOutput.passed) := by
  simp only [iwlMvmReorderTimerExpired]
  split
  · exact ordered.same_after rfl rfl rfl rfl
  split
  · next expired =>
      have near := expiryScan_sn_near ordered.sizes _ (by omega) (by simp) expired
      refine ordered.release_after ?_ (.inl (.inl near))
      exact expiryScan_sn_lt expired (by simp)
  · exact ordered.same_after rfl rfl rfl rfl

theorem Ordered.step (hz : Nat) {s : RxSession} {event : RxEvent}
    (ordered : Ordered s.data position log)
    (kept : OrderKept s event) :
    OrderedAfter s.data position log (s.step hz event).data (s.handedBy hz event) := by
  cases handled : s.handle hz event with
  | none =>
    have nothing : s.handedBy hz event = [] := by
      cases event with
      | frame sta skb =>
        simp only [RxSession.handle, Option.map_eq_none_iff] at handled
        simp [RxSession.handedBy, handled]
      | _ => simp [RxSession.handedBy, handled]
    rw [nothing]
    simp only [RxSession.step, handled, Option.map_none, Option.getD_none]
    exact ordered.same_after rfl rfl rfl rfl
  | some after =>
    simp only [RxSession.step, handled, Option.map_some, Option.getD_some]
    have reached := RxSession.handle_handled handled
    cases reached with
    | frame sta skb found =>
      have reordered : iwlMvmReorder hz s.jiffies s.baidMap sta skb =
          some (reorderLocked hz s.jiffies (baidIndex skb) s.data skb) := by
        simp [iwlMvmReorder, found]
      simp only [RxSession.handedBy, reordered]
      exact ordered.reorderLocked_after (reorderSession_some found).2.2.2.2.1
        (kept (by simp [found]))
    | frameRelease fwIdToMacId nssn known =>
      simp only [RxSession.handedBy, handled]
      exact ordered.release_after (kept rfl known).1 (.inl (kept rfl known).2)
    | nssnSync fwIdToMacId nssn known =>
      simp only [RxSession.handedBy, handled]
      exact ordered.release_after (kept rfl known).1
        ((kept rfl known).2.imp_right fun behind => ⟨rfl, behind⟩)
    | timerExpired =>
      simp only [RxSession.handedBy, handled]
      obtain ⟨reorderTimer, taken⟩ := s.timerTaken_eq
      rw [taken]
      have ordered : Ordered (s.data.setTimerPending reorderTimer) position log :=
        ordered.congr rfl rfl rfl rfl
      exact ordered.timerExpired_after
    | delBa fwIdToMacId known =>
      simp only [RxSession.handedBy, handled]
      have small := ordered.small
      have near : ieee80211SnSub (ieee80211SnAdd s.data.reorderBuf.headSn
          s.data.reorderBuf.bufSize) s.data.reorderBuf.headSn ≤ s.data.reorderBuf.bufSize :=
        (ieee80211SnSub_snAdd (by omega)).le
      exact (ordered.release_after ieee80211SnAdd_lt (.inl (.inl near))).congr rfl rfl rfl rfl

/-- The frames of a log are in order, at most one of those at a position is no A-MSDU
sub-frame, and the positions are what the SNs stand for. -/
structure HandedInOrder (log : List (Int × RxMpdu)) : Prop where
  inOrder : InOrder RxMpdu.amsdu log
  lifts : ∀ entry ∈ log, entry.1 % 4096 = entry.2.sn

/-- What holds of a track between events. -/
structure Tracked (t : RxTrack) : Prop where
  ordered : Ordered t.session.data t.position t.handed
  head : t.position % 4096 = t.session.data.reorderBuf.headSn
  lifts : ∀ entry ∈ t.handed, entry.1 % 4096 = entry.2.sn

theorem liftAt_mod {headSn sn : Nat} (head : position % 4096 = headSn) (canonical : sn < 4096) :
    liftAt position headSn sn % 4096 = sn := by
  unfold liftAt ieee80211SnSub
  split <;> omega

theorem Tracked.step {t : RxTrack} {event : RxEvent} (tracked : Tracked t)
    (kept : OrderKept t.session event) : Tracked (t.step hz event) where
  ordered := tracked.ordered.step hz kept
  head := by
    have after := (tracked.ordered.step hz kept).canonical
    have head := tracked.head
    simp only [RxTrack.step, ieee80211SnSub]
    omega
  lifts entry member := by
    rcases List.mem_append.mp member with old | isNew
    · exact tracked.lifts entry old
    · obtain ⟨skb, -, rfl⟩ := List.mem_map.mp isNew
      exact liftAt_mod tracked.head skb.sn_lt

/-- In every run from the state a new session starts in, all of whose events meet
`OrderKept`, frames are handed over in order and at most once. -/
theorem handedInOrder_of_orderKept (hz jiffies staId tid baid : Nat) {ssn bufSize : Nat}
    (canonical : ssn < 4096) (room : 0 < bufSize) (atMost : bufSize ≤ 256)
    {events : List RxEvent}
    (run : Admissible (RxTrack.step hz) (fun t => OrderKept t.session)
      (RxTrack.init jiffies staId tid baid ssn bufSize) events) :
    HandedInOrder (events.foldl (RxTrack.step hz)
      (RxTrack.init jiffies staId tid baid ssn bufSize)).handed := by
  have reached := run.invariant (P := Tracked) (fun _ _ tracked kept => tracked.step kept)
    { ordered :=
        { windowed := .init
          room := room
          small := atMost
          canonical := canonical
          tails := fun _ _ _ held => by cases held
          upTo := .nil }
      head := Int.emod_eq_of_lt (by simp [RxTrack.init])
        (by simpa [RxTrack.init] using canonical)
      lifts := fun _ member => by cases member }
  exact ⟨reached.ordered.upTo.inOrder, reached.lifts⟩

/-- SN 1 waits for SN 0; both are handed over once the NSSN has passed them. -/
theorem handedInOrder_of_orderKept_reordered :
    0 < 4096 ∧ 0 < 64 ∧ 64 ≤ 256 ∧ HandedInOrder
      (([.frame (some 0) (.qosData 1 0 0 0), .frame (some 0) (.qosData 0 2 0 0)] :
        List RxEvent).foldl (RxTrack.step 1000) (RxTrack.init 0 0 0 0 0 64)).handed :=
  ⟨by decide, by decide, by decide,
    handedInOrder_of_orderKept 1000 0 0 0 0 (by decide) (by decide) (by decide)
      (by decide +kernel)⟩

/-- SN 1 waits; SN 100 with an NSSN of 101 moves the head over it and is handed over, and
SN 1 follows when the timer runs. -/
theorem not_handedInOrder_of_jump :
    ¬HandedInOrder
      (([.frame (some 0) (.qosData 1 0 0 0), .frame (some 0) (.qosData 100 101 0 0),
        .elapse 200, .timerExpired] : List RxEvent).foldl (RxTrack.step 1000)
          (RxTrack.init 0 0 0 0 0 64)).handed := by
  intro handed
  exact absurd handed.inOrder (by decide)

end Iwlwifi
