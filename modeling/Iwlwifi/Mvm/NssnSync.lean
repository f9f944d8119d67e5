import Iwlwifi.Mvm.ReorderStep

/-!
# Telling the other queues that the head crossed 0 or 2048

The queues of a block-ack session see different frames, and a queue that lags by half the sequence
space would take new frames for old ones.  So a queue whose head crosses 0 or 2048 sends the
others an NSSN message.  The head is moved in three places of `iwl_mvm_reorder`.  The release loop
tests every position it passes, but an NSSN that is more than a buffer away moves the head without
the loop.  The two places that hand a frame on at once test the frame's own SN, which need not be
the position that is crossed, and is never in the second place.

`reorder_notified_iff` says for each place when the message is sent.
-/

namespace Iwlwifi

open Lib

/-! ## Crossing -/

/-- The sequence number lies in `(h, h']`. -/
def InHalfOpen (h h' sn : Nat) : Prop :=
  0 < ieee80211SnSub sn h ∧ ieee80211SnSub sn h ≤ ieee80211SnSub h' h

/-- `(h, h']` contains 0 or 2048. -/
def Crosses (h h' : Nat) : Prop := InHalfOpen h h' 0 ∨ InHalfOpen h h' 2048

/-- If the head moved forward from `h` to `h'` across 0 or 2048, a message with a sequence number
in between was sent to the other queues. -/
def Notified (baid h h' : Nat) (outputs : List RxOutput) : Prop :=
  ieee80211SnLess h h' = true → Crosses h h' →
    ∃ sn, .syncNssn baid sn ∈ outputs ∧ InHalfOpen h h' sn

instance (h h' sn : Nat) : Decidable (InHalfOpen h h' sn) := inferInstanceAs (Decidable (_ ∧ _))

instance (h h' : Nat) : Decidable (Crosses h h') := inferInstanceAs (Decidable (_ ∨ _))

/-- The release loop from `h` to `target` gets past `sn`. -/
def LoopPasses (h target bufSize sn : Nat) : Prop :=
  ∀ k < ieee80211SnSub sn h, iwlMvmIsSnLess (ieee80211SnAdd h k) target bufSize = true

instance (h target bufSize sn : Nat) : Decidable (LoopPasses h target bufSize sn) :=
  inferInstanceAs (Decidable (∀ k < _, _))

/-- A release to `target` from `h` tells the other queues of what it crosses. -/
def ReleaseNotifies (h target bufSize : Nat) : Prop :=
  ieee80211SnLess h target = true →
    ∀ sn, sn = 0 ∨ sn = 2048 → InHalfOpen h target sn → LoopPasses h target bufSize sn

variable {h h' target sn bufSize baid : Nat} {data : IwlMvmBaidData} {skb : RxMpdu}

theorem notified_of_not_forward (outputs : List RxOutput) (still : ieee80211SnLess h h' = false) :
    Notified baid h h' outputs := fun forward => absurd (still.symm.trans forward) nofun

theorem snLess_self (h : Nat) : ieee80211SnLess h h = false :=
  ieee80211SnLess_eq_false_iff.mpr (by rw [ieee80211SnSub_self]; decide)

/-- A forward move crosses at most one of the two. -/
theorem boundary_unique {b : Nat} (forward : ieee80211SnLess h h' = true)
    (bIs : b = 0 ∨ b = 2048) (snIs : sn = 0 ∨ sn = 2048) (crossesB : InHalfOpen h h' b)
    (crossesSn : InHalfOpen h h' sn) : sn = b := by
  rw [ieee80211SnLess_iff] at forward
  simp only [InHalfOpen, ieee80211SnSub] at *
  omega

theorem crosses_iff : Crosses h h' ↔ ∃ sn, (sn = 0 ∨ sn = 2048) ∧ InHalfOpen h h' sn := by
  constructor
  · rintro (zero | half)
    · exact ⟨0, .inl rfl, zero⟩
    · exact ⟨2048, .inr rfl, half⟩
  · rintro ⟨sn, rfl | rfl, inside⟩
    · exact .inl inside
    · exact .inr inside

/-! ## The release loop -/

theorem iwlMvmIsSnLess_snAdd_zero :
    iwlMvmIsSnLess (ieee80211SnAdd h 0) target bufSize = iwlMvmIsSnLess h target bufSize := by
  have same : ∀ x, ieee80211SnLess (ieee80211SnAdd h 0) x = ieee80211SnLess h x := by
    intro x
    rw [ieee80211SnLess, ieee80211SnLess, decide_eq_decide, ieee80211SnAdd]
    omega
  rw [iwlMvmIsSnLess, iwlMvmIsSnLess, same, same]

/-- The loop gets past a position further on if it goes on here and gets past it from the next
position. -/
theorem loopPasses_succ (ahead : 0 < ieee80211SnSub sn h) :
    LoopPasses h target bufSize sn ↔
      iwlMvmIsSnLess h target bufSize = true ∧
        LoopPasses (ieee80211SnInc h) target bufSize sn := by
  have closer := ieee80211SnSub_snInc ahead
  have next : ∀ k, ieee80211SnAdd (ieee80211SnInc h) k = ieee80211SnAdd h (k + 1) := by
    intro k
    simp only [ieee80211SnAdd, ieee80211SnInc]
    omega
  simp only [LoopPasses, closer, next]
  constructor
  · intro all
    exact ⟨iwlMvmIsSnLess_snAdd_zero ▸ all 0 ahead, fun k below => all (k + 1) (by omega)⟩
  · rintro ⟨first, rest⟩ k below
    cases k with
    | zero => rw [iwlMvmIsSnLess_snAdd_zero, first]
    | succ k => exact rest k (by omega)

theorem not_loopPasses (ahead : 0 < ieee80211SnSub sn h)
    (done : iwlMvmIsSnLess h target bufSize = false) : ¬ LoopPasses h target bufSize sn := by
  intro passes
  have first := passes 0 ahead
  rw [iwlMvmIsSnLess_snAdd_zero, done] at first
  cases first

theorem mem_releaseSlotOutputs_iff {flags : IwlMvmReleaseFlags}
    (sends : flags.sendRssSync = true) :
    .syncNssn data.baid sn ∈ releaseSlotOutputs data h flags ↔
      sn = ieee80211SnInc h ∧ (sn = 0 ∨ sn = 2048) := by
  rw [releaseSlotOutputs, sends, Bool.true_and, List.mem_append]
  have noFrame : RxOutput.syncNssn data.baid sn ∉
      (data.slots (h % data.reorderBuf.bufSize)).map .passPacketToMac80211 := by
    rw [List.mem_map]
    rintro ⟨skb, -, other⟩
    cases other
  rw [or_iff_left noFrame]
  split
  · next boundary =>
      rw [Bool.or_eq_true, beq_iff_eq, beq_iff_eq] at boundary
      rw [List.mem_singleton, RxOutput.syncNssn.injEq, and_iff_right rfl]
      exact ⟨fun same => ⟨same, same ▸ boundary.symm⟩, And.left⟩
  · next inner =>
      rw [Bool.or_eq_true, beq_iff_eq, beq_iff_eq] at inner
      refine ⟨nofun, ?_⟩
      rintro ⟨rfl, boundary⟩
      exact absurd boundary.symm inner

/-- The loop sends a message at every boundary it gets past, and at no other position. -/
theorem mem_releaseLoop_iff {flags : IwlMvmReleaseFlags} (sends : flags.sendRssSync = true)
    (passes : Nat) (bound : passes < 4096) :
    .syncNssn data.baid sn ∈ (releaseLoop target flags passes h data).2 ↔
      (sn = 0 ∨ sn = 2048) ∧ 0 < ieee80211SnSub sn h ∧ ieee80211SnSub sn h ≤ passes ∧
        LoopPasses h target data.reorderBuf.bufSize sn := by
  induction passes generalizing h data with
  | zero =>
    refine ⟨fun told => absurd told List.not_mem_nil, ?_⟩
    rintro ⟨-, ahead, near, -⟩
    omega
  | succ passes ih =>
    rw [releaseLoop]
    cases less : iwlMvmIsSnLess h target data.reorderBuf.bufSize with
    | false =>
      refine ⟨fun told => absurd told List.not_mem_nil, ?_⟩
      rintro ⟨-, ahead, -, passed⟩
      exact absurd passed (not_loopPasses ahead less)
    | true =>
      have here := @mem_releaseSlotOutputs_iff h sn data flags sends
      have later := @ih (ieee80211SnInc h) (releaseSlot data h) (by omega)
      change _ ∈ releaseSlotOutputs data h flags ++ _ ↔ _
      rw [List.mem_append, here]
      change _ ∨ RxOutput.syncNssn (releaseSlot data h).baid sn ∈ _ ↔ _
      rw [later]
      have step : 0 < ieee80211SnSub sn h →
          ieee80211SnSub sn (ieee80211SnInc h) = ieee80211SnSub sn h - 1 := ieee80211SnSub_snInc
      have self : sn = ieee80211SnInc h → ieee80211SnSub sn h = 1 := fun same =>
        same ▸ ieee80211SnSub_snInc_self
      have same : (sn = 0 ∨ sn = 2048) → ieee80211SnSub sn h = 1 → sn = ieee80211SnInc h := by
        simp only [ieee80211SnSub, ieee80211SnInc, ieee80211SnAdd]
        omega
      have behind : ieee80211SnSub sn h = 0 → ieee80211SnSub sn (ieee80211SnInc h) = 4095 := by
        simp only [ieee80211SnSub, ieee80211SnInc, ieee80211SnAdd]
        omega
      change _ ∨ _ ∧ _ ∧ _ ∧ LoopPasses _ _ data.reorderBuf.bufSize sn ↔ _
      constructor
      · rintro (⟨same, boundary⟩ | ⟨boundary, ahead, near, passed⟩)
        · have one := self same
          refine ⟨boundary, by omega, by omega, (loopPasses_succ (by omega)).mpr ⟨less, ?_⟩⟩
          rw [LoopPasses, step (by omega)]
          omega
        · have away : ieee80211SnSub sn h ≠ 0 := fun zero => by
            have far := behind zero
            omega
          have closer := step (by omega)
          exact ⟨boundary, by omega, by omega,
            (loopPasses_succ (by omega)).mpr ⟨less, passed⟩⟩
      · rintro ⟨boundary, ahead, near, passed⟩
        by_cases one : ieee80211SnSub sn h = 1
        · exact .inl ⟨same boundary one, boundary⟩
        · have closer := step ahead
          exact .inr ⟨boundary, by omega, by omega, ((loopPasses_succ ahead).mp passed).2⟩

/-! ## The places that move the head -/

/-- A release tells the other queues exactly if its loop gets past what it crosses. -/
theorem release_notified_iff (hz : Nat) :
    Notified data.baid data.reorderBuf.headSn
        (iwlMvmReleaseFrames hz data target { sendRssSync := true }).1.reorderBuf.headSn
        (iwlMvmReleaseFrames hz data target { sendRssSync := true }).2 ↔
      ReleaseNotifies data.reorderBuf.headSn target data.reorderBuf.bufSize := by
  rw [iwlMvmReleaseFrames_headSn, headAfterJump]
  cases ignored : iwlMvmIsSnLess target data.reorderBuf.headSn data.reorderBuf.bufSize with
  | true =>
    rw [if_pos rfl]
    refine iff_of_true (notified_of_not_forward _ (snLess_self _)) fun forward => ?_
    rw [iwlMvmIsSnLess, Bool.and_eq_true, ieee80211SnLess_iff] at ignored
    rw [ieee80211SnLess_iff] at forward
    have around := @ieee80211SnSub_swap target data.reorderBuf.headSn
    omega
  | false =>
    have outputs : (iwlMvmReleaseFrames hz data target { sendRssSync := true }).2 =
        (releaseLoop target { sendRssSync := true }
          (ieee80211SnSub target data.reorderBuf.headSn) data.reorderBuf.headSn data).2 := by
      simp only [iwlMvmReleaseFrames, ignored, Bool.false_and, Bool.false_eq_true, if_false]
    have sent : ∀ sn, RxOutput.syncNssn data.baid sn ∈
        (iwlMvmReleaseFrames hz data target { sendRssSync := true }).2 ↔
        (sn = 0 ∨ sn = 2048) ∧ 0 < ieee80211SnSub sn data.reorderBuf.headSn ∧
          ieee80211SnSub sn data.reorderBuf.headSn ≤ ieee80211SnSub target data.reorderBuf.headSn ∧
          LoopPasses data.reorderBuf.headSn target data.reorderBuf.bufSize sn := fun sn => by
      rw [outputs]
      exact mem_releaseLoop_iff rfl _ ieee80211SnSub_lt
    rw [if_neg Bool.false_ne_true, Notified]
    refine imp_congr_right fun forward => ?_
    constructor
    · intro told b boundary crossed
      obtain ⟨sn, message, inside⟩ := told (crosses_iff.mpr ⟨b, boundary, crossed⟩)
      obtain ⟨boundary', -, -, passed⟩ := (sent sn).mp message
      exact boundary_unique forward boundary boundary' crossed inside ▸ passed
    · intro passes crosses
      obtain ⟨sn, boundary, inside⟩ := crosses_iff.mp crosses
      exact ⟨sn, (sent sn).mpr ⟨boundary, inside.1, inside.2, passes sn boundary inside⟩, inside⟩

theorem mem_crossSync_iff : .syncNssn baid sn ∈ crossSync baid h ↔ sn = h ∧ (h = 0 ∨ h = 2048) := by
  rw [crossSync]
  split
  · next boundary =>
      rw [Bool.or_eq_true, beq_iff_eq, beq_iff_eq] at boundary
      rw [List.mem_singleton, RxOutput.syncNssn.injEq, and_iff_right rfl]
      exact ⟨fun same => ⟨same, boundary.symm⟩, And.left⟩
  · next inner =>
      rw [Bool.or_eq_true, beq_iff_eq, beq_iff_eq] at inner
      exact ⟨nofun, fun both => absurd both.2.symm inner⟩

/-- A frame that is handed on at once and moves the head to its NSSN: the other queues are told if
the frame itself is the one that crosses. -/
theorem passMove_notified_iff (notBehind : ieee80211SnLess sn h = false)
    (below : ieee80211SnLess sn h' = true) (canonical : sn < 4096)
    (forward : ieee80211SnLess h h' = true) :
    Notified baid h h' (crossSync baid sn) ↔
      (Crosses h h' → (sn = 0 ∨ sn = 2048) ∧ ieee80211SnSub sn h ≠ 0) := by
  rw [Notified, imp_iff_right forward]
  refine imp_congr_right fun _ => ?_
  rw [ieee80211SnLess_eq_false_iff] at notBehind
  rw [ieee80211SnLess_iff] at below forward
  constructor
  · rintro ⟨sn', message, inside⟩
    obtain ⟨rfl, boundary⟩ := mem_crossSync_iff.mp message
    exact ⟨boundary, Nat.pos_iff_ne_zero.mp inside.1⟩
  · rintro ⟨boundary, away⟩
    refine ⟨sn, mem_crossSync_iff.mpr ⟨rfl, boundary⟩, Nat.pos_of_ne_zero away, ?_⟩
    simp only [ieee80211SnSub] at *
    omega

/-- A frame that is the next one and moves the head past itself: its own SN is behind what it
crosses. -/
theorem nextMove_notified_iff :
    Notified baid h (ieee80211SnInc h) (crossSync baid h) ↔ ¬ Crosses h (ieee80211SnInc h) := by
  have forward : ieee80211SnLess h (ieee80211SnInc h) = true := by
    rw [ieee80211SnLess_iff]
    have one := @ieee80211SnSub_snInc_self h
    have around := @ieee80211SnSub_swap (ieee80211SnInc h) h
    omega
  rw [Notified, imp_iff_right forward]
  refine imp_congr_right fun _ => iff_of_eq (eq_false ?_)
  rintro ⟨sn, message, inside⟩
  obtain ⟨rfl, -⟩ := mem_crossSync_iff.mp message
  have zero := inside.1
  rw [ieee80211SnSub_self] at zero
  exact Nat.lt_irrefl 0 zero

/-! ## A frame -/

/-- What the window adjustment needs. -/
def AdjustNotifies (data : IwlMvmBaidData) (skb : RxMpdu) : Prop :=
  windowJump data.reorderBuf skb = true →
    ReleaseNotifies data.reorderBuf.headSn (minSn skb) data.reorderBuf.bufSize

/-- What placing the frame needs, in the order of the branches. -/
def PlaceNotifies (data : IwlMvmBaidData) (skb : RxMpdu) : Prop :=
  let buf := data.reorderBuf
  if ieee80211SnLess skb.sn buf.headSn then True
  else if buf.numStored == 0 && ieee80211SnLess skb.sn skb.nssn then
    -- handed on, and the head follows the NSSN
    iwlMvmIsSnLess buf.headSn skb.nssn buf.bufSize = true →
    (!skb.amsdu || skb.lastSubframe) = true →
      Crosses buf.headSn skb.nssn →
        (skb.sn = 0 ∨ skb.sn = 2048) ∧ ieee80211SnSub skb.sn buf.headSn ≠ 0
  else if buf.numStored == 0 && skb.sn == buf.headSn then
    -- handed on, and the head moves by one
    (!skb.amsdu || skb.lastSubframe) = true → ¬ Crosses buf.headSn (ieee80211SnInc buf.headSn)
  else if retransmission data skb then True
  else (!skb.amsdu || skb.lastSubframe) = true →
    ReleaseNotifies buf.headSn skb.nssn buf.bufSize

theorem adjust_notified_iff (hz : Nat) :
    Notified data.baid data.reorderBuf.headSn (adjustWindow hz data skb).1.reorderBuf.headSn
      (adjustWindow hz data skb).2 ↔ AdjustNotifies data skb := by
  rw [AdjustNotifies, adjustWindow]
  split
  · next jump =>
      rw [imp_iff_right jump]
      exact release_notified_iff hz
  · next stay =>
      exact iff_of_true (notified_of_not_forward _ (snLess_self _)) fun jump => absurd jump stay

theorem place_notified_iff (hz jiffies : Nat) :
    Notified data.baid data.reorderBuf.headSn
      (placeFrame hz jiffies data.baid data skb).data.reorderBuf.headSn
      (placeFrame hz jiffies data.baid data skb).outputs ↔ PlaceNotifies data skb := by
  have still : ∀ outputs,
      Notified data.baid data.reorderBuf.headSn data.reorderBuf.headSn outputs :=
    fun outputs => notified_of_not_forward outputs (snLess_self _)
  unfold placeFrame PlaceNotifies
  extract_lets buf
  by_cases outdated : ieee80211SnLess skb.sn buf.headSn = true
  · rw [if_pos outdated, if_pos outdated]
    exact iff_of_true (still _) trivial
  rw [if_neg outdated, if_neg outdated]
  have notBehind := Bool.eq_false_of_not_eq_true outdated
  by_cases pass : (buf.numStored == 0 && ieee80211SnLess skb.sn skb.nssn) = true
  · rw [if_pos pass, if_pos pass]
    have below := (Bool.and_eq_true _ _ ▸ pass).2
    by_cases move : (iwlMvmIsSnLess buf.headSn skb.nssn buf.bufSize &&
        (!skb.amsdu || skb.lastSubframe)) = true
    · rw [if_pos move]
      rw [Bool.and_eq_true] at move
      have forward : ieee80211SnLess buf.headSn skb.nssn = true := by
        have less := move.1
        rw [iwlMvmIsSnLess, Bool.and_eq_true] at less
        exact less.1
      rw [imp_iff_right move.1, imp_iff_right move.2]
      exact passMove_notified_iff notBehind below skb.sn_lt forward
    · rw [if_neg move]
      refine iff_of_true (still _) fun less last => absurd ?_ move
      rw [less, last]
      rfl
  rw [if_neg pass, if_neg pass]
  by_cases next : (buf.numStored == 0 && skb.sn == buf.headSn) = true
  · rw [if_pos next, if_pos next]
    have same : skb.sn = buf.headSn := by
      rw [Bool.and_eq_true, beq_iff_eq, beq_iff_eq] at next
      exact next.2
    by_cases last : (!skb.amsdu || skb.lastSubframe) = true
    · rw [if_pos last, imp_iff_right last, same]
      exact nextMove_notified_iff
    · rw [if_neg last]
      exact iff_of_true (still _) fun ends => absurd ends last
  rw [if_neg next, if_neg next]
  by_cases again : retransmission data skb = true
  · rw [if_pos again, if_pos again]
    exact iff_of_true (still _) trivial
  rw [if_neg again, if_neg again]
  by_cases last : (!skb.amsdu || skb.lastSubframe) = true
  · rw [if_pos last, imp_iff_right last]
    exact @release_notified_iff skb.nssn (storeFrame jiffies data skb) hz
  · rw [if_neg last]
    exact iff_of_true (still _) fun ends => absurd ends last

/-- The session that a frame finds when the window has been adjusted. -/
def adjustedFor (hz : Nat) (data : IwlMvmBaidData) (skb : RxMpdu) : IwlMvmBaidData :=
  (iwlMvmOldsnWorkaround (adjustWindow hz data.setValid skb).1 skb).1

/-- The frame finds the buffer valid, or makes it so. -/
def FindsValid (data : IwlMvmBaidData) (skb : RxMpdu) : Prop :=
  data.reorderBuf.valid = true ∨ skb.baOldSn = false

instance (data : IwlMvmBaidData) (skb : RxMpdu) : Decidable (FindsValid data skb) :=
  inferInstanceAs (Decidable (_ ∨ _))

/-- The moves of the head for a frame: the window adjustment and the placing of the frame. -/
def headMoves (hz : Nat) (data : IwlMvmBaidData) (skb : RxMpdu) (result : ReorderResult) :
    List (Nat × Nat) :=
  if FindsValid data skb then
    [(data.reorderBuf.headSn, (adjustedFor hz data skb).reorderBuf.headSn),
      ((adjustedFor hz data skb).reorderBuf.headSn, result.data.reorderBuf.headSn)]
  else [(data.reorderBuf.headSn, result.data.reorderBuf.headSn)]

/-- Every move of the head that `iwl_mvm_reorder` makes for a frame is told to the other queues,
if it crosses 0 or 2048. -/
def FrameNotified (hz : Nat) (s : RxSession) (sta : Option Nat) (skb : RxMpdu) : Prop :=
  ∀ result, iwlMvmReorder hz s.jiffies s.baidMap sta skb = some result →
    ∀ move ∈ headMoves hz s.data skb result,
      Notified s.data.baid move.1 move.2 result.outputs

/-- The frame is handed on at once and moves the head, so its own SN is tested. -/
def TestsOwnSn (data : IwlMvmBaidData) (skb : RxMpdu) : Prop :=
  ieee80211SnLess skb.sn data.reorderBuf.headSn = false ∧ data.reorderBuf.numStored = 0 ∧
    (skb.amsdu = false ∨ skb.lastSubframe = true) ∧
    (ieee80211SnLess skb.sn skb.nssn = true ∧
        iwlMvmIsSnLess data.reorderBuf.headSn skb.nssn data.reorderBuf.bufSize = true ∨
      ieee80211SnLess skb.sn skb.nssn = false ∧ skb.sn = data.reorderBuf.headSn)

/-- When the moves for a frame are told to the other queues.  A window adjustment that skips the
loop is made good by a frame that is itself at 0 or 2048 and is handed on from there. -/
def FrameNotifies (hz : Nat) (s : RxSession) (sta : Option Nat) (skb : RxMpdu) : Prop :=
  reorderSession s.baidMap sta skb = some s.data → FindsValid s.data skb →
    (AdjustNotifies s.data skb ∨
      (skb.sn = 0 ∨ skb.sn = 2048) ∧
        ieee80211SnSub skb.sn (adjustedFor hz s.data skb).reorderBuf.headSn = 0 ∧
        TestsOwnSn (adjustedFor hz s.data skb) skb) ∧
    PlaceNotifies (adjustedFor hz s.data skb) skb

/-! ## The messages of a frame -/

theorem release_messages (hz : Nat)
    (sent : .syncNssn data.baid sn ∈
      (iwlMvmReleaseFrames hz data target { sendRssSync := true }).2) :
    ieee80211SnLess data.reorderBuf.headSn
        (iwlMvmReleaseFrames hz data target { sendRssSync := true }).1.reorderBuf.headSn = true ∧
      InHalfOpen data.reorderBuf.headSn
        (iwlMvmReleaseFrames hz data target { sendRssSync := true }).1.reorderBuf.headSn sn := by
  rw [iwlMvmReleaseFrames_headSn, headAfterJump]
  cases ignored : iwlMvmIsSnLess target data.reorderBuf.headSn data.reorderBuf.bufSize with
  | true =>
    simp only [iwlMvmReleaseFrames, ignored, Bool.false_and, Bool.false_eq_true, if_false,
      if_true] at sent
    cases sent
  | false =>
    simp only [iwlMvmReleaseFrames, ignored, Bool.false_and, Bool.false_eq_true,
      if_false] at sent
    obtain ⟨-, ahead, near, passed⟩ := (mem_releaseLoop_iff rfl _ ieee80211SnSub_lt).mp sent
    have first := passed 0 ahead
    rw [iwlMvmIsSnLess_snAdd_zero, iwlMvmIsSnLess, Bool.and_eq_true] at first
    rw [if_neg Bool.false_ne_true]
    exact ⟨first.1, ahead, near⟩

theorem adjust_messages (hz : Nat) (sent : .syncNssn data.baid sn ∈ (adjustWindow hz data skb).2) :
    ieee80211SnLess data.reorderBuf.headSn (adjustWindow hz data skb).1.reorderBuf.headSn = true ∧
      InHalfOpen data.reorderBuf.headSn (adjustWindow hz data skb).1.reorderBuf.headSn sn := by
  revert sent
  rw [adjustWindow]
  split
  · exact release_messages hz
  · exact nofun

/-- The messages for placing a frame are for what the release crosses, or for the frame's own
SN. -/
theorem place_messages (hz jiffies : Nat)
    (sent : .syncNssn data.baid sn ∈ (placeFrame hz jiffies data.baid data skb).outputs) :
    ((skb.sn = 0 ∨ skb.sn = 2048) ∧ sn = skb.sn ∧ TestsOwnSn data skb) ∨
      (ieee80211SnLess data.reorderBuf.headSn
          (placeFrame hz jiffies data.baid data skb).data.reorderBuf.headSn = true ∧
        InHalfOpen data.reorderBuf.headSn
          (placeFrame hz jiffies data.baid data skb).data.reorderBuf.headSn sn) := by
  have placed := placeFrame_placed hz jiffies data.baid data skb
  generalize placeFrame hz jiffies data.baid data skb = result at *
  cases placed with
  | outdated => cases sent
  | passMove notBehind empty below less ends =>
    obtain ⟨rfl, boundary⟩ := mem_crossSync_iff.mp sent
    exact .inl ⟨boundary, rfl, notBehind, empty, ends, .inl ⟨below, less⟩⟩
  | passStay => cases sent
  | nextMove empty notBelow same ends =>
    obtain ⟨rfl, boundary⟩ := mem_crossSync_iff.mp sent
    refine .inl ⟨boundary, rfl, ?_, empty, ends, .inr ⟨notBelow, same⟩⟩
    rw [same]
    exact snLess_self _
  | nextStay => cases sent
  | repeated => cases sent
  | storedReleased =>
    exact .inr (@release_messages skb.nssn sn (storeFrame jiffies data skb) hz sent)
  | stored => cases sent

/-- A frame that tests its own SN sends it, if it is 0 or 2048. -/
theorem own_message (hz jiffies : Nat) (boundary : skb.sn = 0 ∨ skb.sn = 2048)
    (tests : TestsOwnSn data skb) :
    .syncNssn data.baid skb.sn ∈ (placeFrame hz jiffies data.baid data skb).outputs := by
  obtain ⟨notBehind, empty, ends, branch⟩ := tests
  have last : (!skb.amsdu || skb.lastSubframe) = true := by
    rw [Bool.or_eq_true, Bool.not_eq_true']
    exact ends
  have message := (@mem_crossSync_iff skb.sn skb.sn data.baid).mpr ⟨rfl, boundary⟩
  rcases branch with ⟨below, less⟩ | ⟨notBelow, same⟩
  · simp only [placeFrame, notBehind, empty, below, less, last, Bool.false_eq_true, if_false,
      beq_self_eq_true, Bool.true_and, if_true, Bool.and_self]
    exact message
  · have isNext : (skb.sn == data.reorderBuf.headSn) = true := beq_iff_eq.mpr same
    simp only [placeFrame, notBehind, empty, notBelow, isNext, last, Bool.false_eq_true, if_false,
      beq_self_eq_true, if_true, Bool.and_false, Bool.and_self]
    exact message

/-! ## The session between the moves -/

theorem releaseLoop_baid (flags : IwlMvmReleaseFlags) (passes : Nat) :
    (releaseLoop target flags passes h data).1.baid = data.baid := by
  induction passes generalizing h data with
  | zero => rfl
  | succ passes ih =>
    rw [releaseLoop]
    split
    · exact ih
    · rfl

theorem adjustWindow_baid (hz : Nat) : (adjustWindow hz data skb).1.baid = data.baid := by
  rw [adjustWindow]
  split
  · simp only [iwlMvmReleaseFrames]
    split
    · rfl
    split
    · rfl
    · exact releaseLoop_baid _ _
  · rfl

theorem adjustedFor_baid (hz : Nat) : (adjustedFor hz data skb).baid = data.baid := by
  obtain ⟨⟨drops, gp2, prev, same⟩, -⟩ :=
    iwlMvmOldsnWorkaround_frame (adjustWindow hz data.setValid skb).1 skb
  rw [adjustedFor, same]
  exact adjustWindow_baid hz

theorem adjustedFor_headSn (hz : Nat) :
    (adjustedFor hz data skb).reorderBuf.headSn =
      (adjustWindow hz data.setValid skb).1.reorderBuf.headSn := by
  obtain ⟨⟨drops, gp2, prev, same⟩, -⟩ :=
    iwlMvmOldsnWorkaround_frame (adjustWindow hz data.setValid skb).1 skb
  rw [adjustedFor, same]
  rfl

/-- The workaround sends no message. -/
theorem oldsn_messages : .syncNssn baid sn ∉ (iwlMvmOldsnWorkaround data skb).2 := by
  simp only [iwlMvmOldsnWorkaround]
  split
  · exact List.not_mem_nil
  split
  · exact List.not_mem_nil
  split
  · rw [List.mem_singleton]
    intro same
    cases same
  · exact List.not_mem_nil

theorem mem_reorderLocked_iff (hz jiffies : Nat)
    (notBar : ieee80211IsBackReq skb.frameControl = false)
    (valid : FindsValid data skb) :
    (.syncNssn data.baid sn ∈ (reorderLocked hz jiffies data.baid data skb).outputs ↔
      .syncNssn data.baid sn ∈ (adjustWindow hz data.setValid skb).2 ∨
        .syncNssn data.baid sn ∈
          (placeFrame hz jiffies data.baid (adjustedFor hz data skb) skb).outputs) ∧
    (reorderLocked hz jiffies data.baid data skb).data =
      (placeFrame hz jiffies data.baid (adjustedFor hz data skb) skb).data := by
  have late : (!data.reorderBuf.valid && skb.baOldSn) = false := by
    rcases valid with valid | fresh
    · rw [valid]
      rfl
    · rw [fresh, Bool.and_false]
  simp only [reorderLocked, late, notBar, Bool.false_eq_true, if_false]
  refine ⟨?_, rfl⟩
  rw [List.mem_append, List.mem_append, or_iff_left oldsn_messages]
  rfl

/-! ## The theorem -/

/-- A forward move and another one from where it ends have no sequence number in common. -/
theorem halfOpen_disjoint {h₀ h₁ h₂ : Nat} (first : ieee80211SnLess h₀ h₁ = true)
    (second : ieee80211SnLess h₁ h₂ = true) (inFirst : InHalfOpen h₀ h₁ sn) :
    ¬ InHalfOpen h₁ h₂ sn := by
  rw [ieee80211SnLess_iff] at first second
  simp only [InHalfOpen, ieee80211SnSub] at *
  omega

/-- The messages about the window adjustment. -/
theorem adjust_told_iff (hz jiffies : Nat)
    (notBar : ieee80211IsBackReq skb.frameControl = false) (valid : FindsValid data skb) :
    Notified data.baid data.reorderBuf.headSn (adjustedFor hz data skb).reorderBuf.headSn
        (reorderLocked hz jiffies data.baid data skb).outputs ↔
      AdjustNotifies data skb ∨ (skb.sn = 0 ∨ skb.sn = 2048) ∧
        ieee80211SnSub skb.sn (adjustedFor hz data skb).reorderBuf.headSn = 0 ∧
        TestsOwnSn (adjustedFor hz data skb) skb := by
  have own : Notified data.baid data.reorderBuf.headSn (adjustedFor hz data skb).reorderBuf.headSn
      (adjustWindow hz data.setValid skb).2 ↔ AdjustNotifies data skb := by
    rw [adjustedFor_headSn]
    exact @adjust_notified_iff data.setValid skb hz
  have sent := fun sn => (@mem_reorderLocked_iff sn data skb hz jiffies notBar valid).1
  have baid := @adjustedFor_baid data skb hz
  constructor
  · intro told
    by_cases adjusts : AdjustNotifies data skb
    · exact .inl adjusts
    right
    rw [← own, Notified, Classical.not_imp, Classical.not_imp] at adjusts
    obtain ⟨forward, crosses, silent⟩ := adjusts
    obtain ⟨sn, message, inside⟩ := told forward crosses
    rcases (sent sn).mp message with inAdjust | inPlace
    · exact absurd ⟨sn, inAdjust, inside⟩ silent
    rw [← baid] at inPlace
    rcases place_messages hz jiffies inPlace with ⟨boundary, rfl, tests⟩ | ⟨again, further⟩
    · refine ⟨boundary, ?_, tests⟩
      have notBehind := ieee80211SnLess_eq_false_iff.mp tests.1
      rw [ieee80211SnLess_iff] at forward
      simp only [InHalfOpen, ieee80211SnSub] at *
      omega
    · exact absurd further (halfOpen_disjoint forward again inside)
  · rintro (adjusts | ⟨boundary, atHead, tests⟩) forward crosses
    · obtain ⟨sn, message, inside⟩ := own.mpr adjusts forward crosses
      exact ⟨sn, (sent sn).mpr (.inl message), inside⟩
    · have message := own_message hz jiffies boundary tests
      rw [baid] at message
      refine ⟨skb.sn, (sent skb.sn).mpr (.inr message), ?_⟩
      rw [ieee80211SnLess_iff] at forward
      simp only [InHalfOpen, ieee80211SnSub] at *
      omega

/-- The messages about placing the frame. -/
theorem place_told_iff (hz jiffies : Nat)
    (notBar : ieee80211IsBackReq skb.frameControl = false) (valid : FindsValid data skb) :
    Notified data.baid (adjustedFor hz data skb).reorderBuf.headSn
        (reorderLocked hz jiffies data.baid data skb).data.reorderBuf.headSn
        (reorderLocked hz jiffies data.baid data skb).outputs ↔
      PlaceNotifies (adjustedFor hz data skb) skb := by
  have baid := @adjustedFor_baid data skb hz
  have sent := fun sn => (@mem_reorderLocked_iff sn data skb hz jiffies notBar valid).1
  have own := @place_notified_iff (adjustedFor hz data skb) skb hz jiffies
  rw [baid] at own
  rw [← own, (@mem_reorderLocked_iff 0 data skb hz jiffies notBar valid).2, Notified, Notified]
  refine imp_congr_right fun forward => imp_congr_right fun _ => exists_congr fun sn => ?_
  rw [sent sn]
  refine and_congr_left fun inside => or_iff_right fun inAdjust => ?_
  obtain ⟨before, earlier⟩ := @adjust_messages sn data.setValid skb hz inAdjust
  rw [← adjustedFor_headSn] at before earlier
  exact halfOpen_disjoint before forward earlier inside

/-- The moves of the head for a frame are told to the other queues exactly if the window
adjustment goes through the release loop as far as it crosses, or the frame makes good for it; a
frame that is handed on and takes the head to its NSSN crosses itself; one that is handed on as the
next one crosses nothing; and a release behind a stored frame goes through its loop. -/
theorem reorder_notified_iff (hz : Nat) (s : RxSession) (sta : Option Nat) (skb : RxMpdu) :
    FrameNotified hz s sta skb ↔ FrameNotifies hz s sta skb := by
  rw [FrameNotified, FrameNotifies, iwlMvmReorder]
  cases session : reorderSession s.baidMap sta skb with
  | none =>
    refine iff_of_true (fun _ told => ?_) fun found => ?_
    · cases told
    · cases found
  | some data =>
    obtain ⟨known, -, -, -, notBar, -⟩ := reorderSession_some session
    obtain ⟨index, rfl⟩ := RxSession.baidMap_some known
    rw [imp_iff_right rfl, index]
    simp only [Option.map_some, Option.some.injEq, forall_eq']
    by_cases valid : FindsValid s.data skb
    · rw [imp_iff_right valid, headMoves, if_pos valid, List.forall_mem_cons,
        List.forall_mem_singleton]
      exact and_congr (adjust_told_iff hz s.jiffies notBar valid)
        (place_told_iff hz s.jiffies notBar valid)
    · refine iff_of_true ?_ fun found => absurd found valid
      rw [headMoves, if_neg valid, List.forall_mem_singleton]
      rw [FindsValid, not_or, Bool.not_eq_true, Bool.not_eq_false] at valid
      have early : reorderLocked hz s.jiffies s.data.baid s.data skb = ⟨false, s.data, []⟩ := by
        rw [reorderLocked, valid.1, valid.2]
        rfl
      rw [early]
      exact notified_of_not_forward _ (snLess_self _)

/-- A session whose head is at 2047. -/
def beforeHalf : RxSession := .init 0 0 0 0 2047 64

/-- The frame with SN 2047 comes in order, takes the head to 2048, and no message is sent. -/
theorem not_frameNotified_inOrder :
    ¬ FrameNotified 1000 beforeHalf (some 0) (RxMpdu.qosData 2047 2048 0 0) := by
  intro told
  have moved : (2047, 2048) ∈ headMoves 1000 beforeHalf.data (RxMpdu.qosData 2047 2048 0 0)
      (reorderLocked 1000 0 0 beforeHalf.data (RxMpdu.qosData 2047 2048 0 0)) := by decide
  obtain ⟨sn, message, -⟩ := told _ rfl _ moved (by decide) (by decide)
  cases message

end Iwlwifi
