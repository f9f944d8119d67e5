import Iwlwifi.Mac80211.AmpduRxStep

/-!
# What an event keeps

`Represented` is what the reorder buffer's state has to look like between events, and
`StepKeeps` the condition on an event under which it stays so, for the buffer sizes that divide
4096.  Two slips of the source are excluded by it.  A time-out that skips the head's slot does
not purge it, so an incomplete A-MSDU there stays behind the head.  And the last sub-frame of
the A-MSDU at the head is passed on directly while nothing complete is stored, even if earlier
sub-frames wait in the slot, and the head moves past them.
-/

namespace Iwlwifi

open Function (update update_eq_self update_of_ne update_self)

open Lib
namespace TidAmpduRx

variable {rx after : TidAmpduRx} {frames : List (List AmpduSkb)} {n k l hz jiffies : Nat}

/-! ## The representation -/

/-- The state between events. -/
structure Represented (rx : TidAmpduRx) : Prop where
  sameSn : ∀ i < rx.bufSize, ∀ f ∈ rx.reorderBuf i, ∀ g ∈ rx.reorderBuf i, f.sn = g.sn
  inWindow : ∀ i < rx.bufSize, ∀ f ∈ rx.reorderBuf i,
    ieee80211SnSub f.sn rx.headSeqNum < rx.bufSize
  ownSlot : ∀ i < rx.bufSize, ∀ f ∈ rx.reorderBuf i, f.sn % rx.bufSize = i
  distinct : ∀ k < rx.bufSize, ∀ l < rx.bufSize,
    (rx.headSeqNum + k) % 4096 % rx.bufSize = (rx.headSeqNum + l) % 4096 % rx.bufSize → k = l
  counted : rx.storedMpduNum = marked complete rx.reorderBuf rx.bufSize

theorem Kept.represented (kept : Kept rx) : Represented rx := by
  have small := kept.size.small
  have sn {i : Nat} (bound : i < rx.bufSize) {f : AmpduSkb} (held : f ∈ rx.reorderBuf i) :
      ∃ l < rx.bufSize, rx.slot rx.headSeqNum l = i ∧ f.sn = (rx.headSeqNum + l) % 4096 := by
    obtain ⟨l, less, rfl⟩ := exists_slot kept.size rx.headSeqNum bound
    exact ⟨l, less, rfl, kept.windowed l less f held⟩
  refine ⟨?_, ?_, ?_, ?_, kept.counted⟩
  · intro i bound f inF g inG
    obtain ⟨k, less, here, snF⟩ := sn bound inF
    obtain ⟨l, less', here', snG⟩ := sn bound inG
    rw [snF, snG, slot_injective less less' (here.trans here'.symm)]
  · intro i bound f held
    obtain ⟨l, less, -, snF⟩ := sn bound held
    rw [snF]
    exact (ieee80211SnSub_snAdd (by omega)).trans_lt less
  · intro i bound f held
    obtain ⟨l, less, here, snF⟩ := sn bound held
    rw [snF, Nat.mod_mod_of_dvd _ kept.size.divides]
    exact here
  · intro k left l right same
    rw [Nat.mod_mod_of_dvd _ kept.size.divides, Nat.mod_mod_of_dvd _ kept.size.divides] at same
    exact slot_injective left right same

/-! ## The condition on events -/

/-- Behind the head, the first complete slot before `limit` has timed out. -/
def FirstTimedOut (rx : TidAmpduRx) (hz jiffies head limit : Nat) : Prop :=
  ∃ k < limit, 0 < k ∧ complete (rx.reorderBuf (rx.slot head k)) = true ∧
    (∀ l < k, 0 < l → complete (rx.reorderBuf (rx.slot head l)) = false) ∧
    rx.timedOut hz jiffies (rx.slot head k) = true

/-- A time-out skips an incomplete A-MSDU at the head. -/
def SkipsIncomplete (rx : TidAmpduRx) (hz jiffies head limit : Nat) : Prop :=
  rx.reorderBuf (rx.slot head 0) ≠ [] ∧ complete (rx.reorderBuf (rx.slot head 0)) = false ∧
    rx.FirstTimedOut hz jiffies head limit

instance (rx : TidAmpduRx) (hz jiffies head limit : Nat) :
    Decidable (rx.FirstTimedOut hz jiffies head limit) :=
  inferInstanceAs (Decidable (∃ k < limit, 0 < k ∧ _ = true ∧
    (∀ l < k, 0 < l → _ = false) ∧ _ = true))

instance (rx : TidAmpduRx) (hz jiffies head limit : Nat) :
    Decidable (rx.SkipsIncomplete hz jiffies head limit) :=
  inferInstanceAs (Decidable (_ ≠ [] ∧ _ = false ∧ rx.FirstTimedOut hz jiffies head limit))

/-- The head a frame's sequence number asks for. -/
def windowStart (rx : TidAmpduRx) (sn : Nat) : Nat :=
  if ieee80211SnSub sn rx.headSeqNum < rx.bufSize then rx.headSeqNum
  else ieee80211SnInc (ieee80211SnSub sn rx.bufSize)

/-- The frame is accepted into the buffer and was not there before. -/
def Stores (rx : TidAmpduRx) (skb : AmpduSkb) : Prop :=
  ieee80211SnSub skb.sn rx.headSeqNum < rx.bufSize →
    complete (rx.reorderBuf (skb.sn % rx.bufSize)) = false

/-- The condition on a frame that is not out of date. -/
structure MpduKeeps (rx : TidAmpduRx) (hz jiffies : Nat) (skb : AmpduSkb) : Prop where
  /-- A frame 2048 ahead is out of reach of a buffer of one frame. -/
  reach : rx.bufSize = 1 → ieee80211SnSub skb.sn rx.headSeqNum ≠ 2048
  /-- Nothing waits in the slot that a frame passed on directly moves the head past. -/
  direct : skb.sn = rx.headSeqNum → rx.storedMpduNum = 0 → skb.amsduMore = false →
    rx.reorderBuf (rx.slot rx.headSeqNum 0) = []
  /-- A release after storing the frame does not skip an incomplete A-MSDU. -/
  release : skb.amsduMore = false → rx.Stores skb →
    ieee80211SnSub (rx.windowStart skb.sn) rx.headSeqNum < rx.bufSize →
    ¬ rx.SkipsIncomplete hz jiffies (rx.windowStart skb.sn)
      (min (ieee80211SnSub skb.sn (rx.windowStart skb.sn))
        (rx.bufSize - ieee80211SnSub (rx.windowStart skb.sn) rx.headSeqNum))

/-- The condition on an event, in the state before it. -/
def StepKeeps (hz : Nat) (rx : TidAmpduRx) : BaEvent → Prop
  | .mpdu jiffies skb =>
      ieee80211SnLess skb.sn (rx.pickSsn skb.sn).headSeqNum = false →
        (rx.pickSsn skb.sn).MpduKeeps hz jiffies skb
  | .backReq _ => True
  | .timeout jiffies => ¬ rx.SkipsIncomplete hz jiffies rx.headSeqNum rx.bufSize

instance (rx : TidAmpduRx) (skb : AmpduSkb) : Decidable (rx.Stores skb) :=
  inferInstanceAs (Decidable (_ → _ = false))

instance (rx : TidAmpduRx) (hz jiffies : Nat) (skb : AmpduSkb) :
    Decidable (rx.MpduKeeps hz jiffies skb) :=
  decidable_of_iff
    ((rx.bufSize = 1 → ieee80211SnSub skb.sn rx.headSeqNum ≠ 2048) ∧
      (skb.sn = rx.headSeqNum → rx.storedMpduNum = 0 → skb.amsduMore = false →
        rx.reorderBuf (rx.slot rx.headSeqNum 0) = []) ∧
      (skb.amsduMore = false → rx.Stores skb →
        ieee80211SnSub (rx.windowStart skb.sn) rx.headSeqNum < rx.bufSize →
        ¬ rx.SkipsIncomplete hz jiffies (rx.windowStart skb.sn)
          (min (ieee80211SnSub skb.sn (rx.windowStart skb.sn))
            (rx.bufSize - ieee80211SnSub (rx.windowStart skb.sn) rx.headSeqNum))))
    ⟨fun ⟨reach, direct, release⟩ => ⟨reach, direct, release⟩,
      fun ⟨reach, direct, release⟩ => ⟨reach, direct, release⟩⟩

instance (hz : Nat) (rx : TidAmpduRx) : (event : BaEvent) → Decidable (StepKeeps hz rx event)
  | .mpdu _ _ => inferInstanceAs (Decidable (_ = false → MpduKeeps _ _ _ _))
  | .backReq _ => inferInstanceAs (Decidable True)
  | .timeout _ => inferInstanceAs (Decidable (¬ SkipsIncomplete _ _ _ _ _))

/-! ## `ieee80211_sta_reorder_release` -/

theorem Kept.setReleaseTimer (kept : Kept rx) (j : Nat) : Kept (rx.setReleaseTimer hz j) := by
  rw [TidAmpduRx.setReleaseTimer]
  split
  · exact kept
  · exact kept.congr rfl rfl rfl rfl rfl

theorem Kept.updateReleaseTimer (kept : Kept rx) : Kept (rx.updateReleaseTimer hz) := by
  rw [TidAmpduRx.updateReleaseTimer]
  split
  · exact kept.setReleaseTimer _
  · exact kept.congr rfl rfl rfl rfl rfl

theorem Moves.setReleaseTimer (moves : Moves rx n after frames) (j : Nat) :
    Moves rx n (after.setReleaseTimer hz j) frames := by
  rw [TidAmpduRx.setReleaseTimer]
  split
  · exact moves
  · exact moves.congr rfl rfl rfl rfl rfl rfl

theorem Moves.updateReleaseTimer (moves : Moves rx n after frames) :
    Moves rx n (after.updateReleaseTimer hz) frames := by
  rw [TidAmpduRx.updateReleaseTimer]
  split
  · exact moves.setReleaseTimer _
  · exact moves.congr rfl rfl rfl rfl rfl rfl

theorem Kept.afterScan (kept : Kept rx) (scan : Scan) : Kept (rx.afterScan hz scan) := by
  cases scan with
  | exhausted => exact kept.updateReleaseTimer
  | setTimer j => exact kept.setReleaseTimer j

theorem Moves.afterScan (moves : Moves rx n after frames) (scan : Scan) :
    Moves rx n (after.afterScan hz scan) frames := by
  cases scan with
  | exhausted => exact moves.updateReleaseTimer
  | setTimer j => exact moves.setReleaseTimer j

/-- While the first complete frame has not timed out, the search changes nothing. -/
theorem Kept.releaseTimedOut_waits {head skipped : Nat} (kept : Kept rx) (fuel : Nat)
    (positive : 0 < skipped) (begun : 0 < k) (bound : k ≤ rx.bufSize)
    (notReady : ∀ l < k, 0 < l → complete (rx.reorderBuf (rx.slot head l)) = false)
    (waits : ¬ rx.FirstTimedOut hz jiffies head rx.bufSize) :
    (releaseTimedOut hz jiffies (rx.slot head 0) fuel (rx.slot head k) skipped rx).1 = rx ∧
      (releaseTimedOut hz jiffies (rx.slot head 0) fuel (rx.slot head k) skipped rx).2.1 =
        [] := by
  induction fuel generalizing k skipped with
  | zero => exact ⟨rfl, rfl⟩
  | succ fuel ih =>
      rw [TidAmpduRx.releaseTimedOut]
      split
      · exact ⟨rfl, rfl⟩
      next further =>
      have inside : k < rx.bufSize := by
        refine Nat.lt_of_le_of_ne bound fun last => further ?_
        rw [last, slot, slot, Nat.add_mod_right, Nat.add_zero]
      have next : (rx.slot head k + 1) % rx.bufSize = rx.slot head (k + 1) := by
        rw [slot, slot, Nat.mod_add_mod, Nat.add_assoc]
      rw [kept.reorderReady, next]
      split
      · next incomplete =>
          refine ih (Nat.succ_pos skipped) (Nat.succ_pos k) inside fun l less later => ?_
          rcases Nat.lt_succ_iff_lt_or_eq.mp less with before | rfl
          · exact notReady l before later
          · exact Bool.not_eq_true _ ▸ incomplete
      · next ready =>
          have onTime : rx.timedOut hz jiffies (rx.slot head k) = false := by
            refine Bool.eq_false_iff.mpr fun late => waits ?_
            exact ⟨k, inside, begun, not_not.mp ready, notReady, late⟩
          rw [if_pos ⟨by omega, by rw [onTime]; decide⟩]
          exact ⟨rfl, rfl⟩

/-- A release keeps the representation unless it skips an incomplete A-MSDU. -/
theorem Kept.staReorderRelease (kept : Kept rx)
    (keeps : ¬ rx.SkipsIncomplete hz jiffies rx.headSeqNum rx.bufSize) :
    ∃ n ≤ rx.bufSize, Kept (rx.staReorderRelease hz jiffies).1 ∧
      Moves rx n (rx.staReorderRelease hz jiffies).1 (rx.staReorderRelease hz jiffies).2 := by
  have pos := kept.size.pos
  have start : (rx.slot rx.headSeqNum 0 + 1) % rx.bufSize = rx.slot rx.headSeqNum 1 := by
    rw [slot, slot, Nat.mod_add_mod, Nat.add_assoc]
  rw [TidAmpduRx.staReorderRelease]
  dsimp only
  split
  · next notReady =>
      rw [kept.reorderReady, Bool.not_eq_true] at notReady
      have scanned : ∃ n ≤ rx.bufSize,
          Kept (releaseTimedOut hz jiffies (rx.slot rx.headSeqNum 0) rx.bufSize
            (rx.slot rx.headSeqNum 1) 1 rx).1 ∧
          Moves rx n (releaseTimedOut hz jiffies (rx.slot rx.headSeqNum 0) rx.bufSize
              (rx.slot rx.headSeqNum 1) 1 rx).1
            (releaseTimedOut hz jiffies (rx.slot rx.headSeqNum 0) rx.bufSize
              (rx.slot rx.headSeqNum 1) 1 rx).2.1 := by
        by_cases empty : rx.reorderBuf (rx.slot rx.headSeqNum 0) = []
        · have scanning : Scanning rx rx.headSeqNum 0 1 := by
            refine ⟨kept, (Nat.mod_eq_of_lt kept.headLt).symm, Nat.le_refl 1, empty,
              fun l scanned => absurd scanned (Nat.not_lt_zero l), ?_⟩
            intro l less
            obtain rfl : l = 0 := by omega
            rw [empty]
            rfl
          obtain ⟨n, le, kept', moves⟩ :=
            scanning.releaseTimedOut hz jiffies rx.bufSize (Nat.zero_add 1) pos (by omega)
          exact ⟨n, by omega, kept', moves⟩
        · have waits : ¬ rx.FirstTimedOut hz jiffies rx.headSeqNum rx.bufSize :=
            fun late => keeps ⟨empty, notReady.1, late⟩
          obtain ⟨same, none⟩ := kept.releaseTimedOut_waits rx.bufSize Nat.one_pos Nat.one_pos
            pos (fun l less later => by omega) waits
          rw [same, none]
          exact ⟨0, Nat.zero_le _, kept, .refl kept.headLt⟩
      obtain ⟨n, le, kept', moves⟩ := scanned
      rw [← start] at kept' moves
      exact ⟨n, le, kept'.afterScan _, moves.afterScan _⟩
  · obtain ⟨n, le, kept', moves, -⟩ := kept.releaseReady (rx.bufSize + 1)
    have few : rx.storedMpduNum ≤ rx.bufSize := by
      rw [kept.counted]
      exact marked_le
    exact ⟨n, by omega, kept'.updateReleaseTimer, moves.updateReleaseTimer⟩

/-! ## Accepting a frame -/

/-- The head moves by `n`, and what is handed over is at or before the new head and within
`reach` of the old one. -/
structure Hands (rx : TidAmpduRx) (n reach : Nat) (after : TidAmpduRx)
    (frames : List (List AmpduSkb)) : Prop where
  bufSize : after.bufSize = rx.bufSize
  autoSeq : after.autoSeq = rx.autoSeq
  head : after.headSeqNum = (rx.headSeqNum + n) % 4096
  uniform : ∀ batch ∈ frames, ∀ f ∈ batch, ∀ g ∈ batch, f.sn = g.sn
  upTo : ∀ f ∈ frames.flatten, ieee80211SnSub f.sn rx.headSeqNum ≤ n
  near : ∀ f ∈ frames.flatten, ieee80211SnSub f.sn rx.headSeqNum ≤ reach
  sorted : frames.flatten.Pairwise fun f g =>
    ieee80211SnSub f.sn rx.headSeqNum ≤ ieee80211SnSub g.sn rx.headSeqNum

variable {reach m : Nat} {skb : AmpduSkb}

theorem Moves.hands (moves : Moves rx n after frames) (near : n ≤ reach + 1) :
    Hands rx n reach after frames where
  bufSize := moves.bufSize
  autoSeq := moves.autoSeq
  head := moves.head
  uniform := moves.uniform
  upTo f member := (moves.passed f member).le
  near f member := by
    have := moves.passed f member
    omega
  sorted := moves.sorted

/-- Room is made first. -/
theorem Moves.hands_trans {middle : TidAmpduRx} {more : List (List AmpduSkb)}
    (first : Moves rx n middle frames) (second : Hands middle m reach after more)
    (small : n + reach < 4096) : Hands rx (n + m) (n + reach) after (frames ++ more) := by
  have shift : ∀ f ∈ more.flatten, ieee80211SnSub f.sn rx.headSeqNum =
      n + ieee80211SnSub f.sn middle.headSeqNum := by
    intro f member
    have less := second.near f member
    rw [first.head] at less ⊢
    exact ieee80211SnSub_head (by omega)
  refine ⟨second.bufSize.trans first.bufSize, second.autoSeq.trans first.autoSeq, ?_, ?_, ?_, ?_,
    ?_⟩
  · rw [second.head, first.head, Nat.mod_add_mod, Nat.add_assoc]
  · intro batch member
    rcases List.mem_append.mp member with old | new
    · exact first.uniform batch old
    · exact second.uniform batch new
  · intro f member
    rw [List.flatten_append] at member
    rcases List.mem_append.mp member with old | new
    · have := first.passed f old
      omega
    · have := second.upTo f new
      rw [shift f new]
      omega
  · intro f member
    rw [List.flatten_append] at member
    rcases List.mem_append.mp member with old | new
    · have := first.passed f old
      omega
    · have := second.near f new
      rw [shift f new]
      omega
  · rw [List.flatten_append, List.pairwise_append]
    refine ⟨first.sorted, ?_, ?_⟩
    · refine second.sorted.imp_of_mem fun {f g} left right le => ?_
      rw [shift f left, shift g right]
      omega
    · intro f old g new
      have := first.passed f old
      rw [shift g new]
      omega

/-- A frame that is passed on directly, with the head moving past it or not. -/
theorem hands_direct (bufSize : after.bufSize = rx.bufSize) (autoSeq : after.autoSeq = rx.autoSeq)
    (head : after.headSeqNum = (rx.headSeqNum + n) % 4096) (here : skb.sn = rx.headSeqNum) :
    Hands rx n reach after [[skb]] := by
  have offset : ∀ f ∈ ([[skb]] : List (List AmpduSkb)).flatten,
      ieee80211SnSub f.sn rx.headSeqNum = 0 := by
    intro f member
    obtain rfl : f = skb := by simpa using member
    rw [here, ieee80211SnSub_self]
  refine ⟨bufSize, autoSeq, head, ?_, ?_, ?_, List.pairwise_singleton _ _⟩
  · intro batch member f inF g inG
    obtain rfl : batch = [skb] := by simpa using member
    rw [List.mem_singleton.mp inF, List.mem_singleton.mp inG]
  · intro f member
    rw [offset f member]
    exact Nat.zero_le n
  · intro f member
    rw [offset f member]
    exact Nat.zero_le reach

theorem complete_append (frames : List AmpduSkb) (skb : AmpduSkb) :
    complete (frames ++ [skb]) = !skb.amsduMore := by
  rw [complete, List.getLast?_append, List.getLast?_singleton]
  rfl

/-- The state with a frame put into its slot. -/
def stored (rx : TidAmpduRx) (skb : AmpduSkb) : TidAmpduRx :=
  { rx with
    reorderBuf := update rx.reorderBuf (skb.sn % rx.bufSize)
      (rx.reorderBuf (skb.sn % rx.bufSize) ++ [skb]) }

/-- The state with the last frame of its slot put there. -/
def storedLast (rx : TidAmpduRx) (jiffies : Nat) (skb : AmpduSkb) : TidAmpduRx :=
  { rx.stored skb with
    reorderTime := update rx.reorderTime (skb.sn % rx.bufSize) jiffies
    storedMpduNum := rx.storedMpduNum + 1 }

section Accept

variable (kept : Kept rx) (inside : ieee80211SnSub skb.sn rx.headSeqNum < rx.bufSize)
  (notReady : complete (rx.reorderBuf (skb.sn % rx.bufSize)) = false)
include kept inside

theorem Kept.windowed_stored : ∀ l < rx.bufSize,
    ∀ f ∈ (rx.stored skb).reorderBuf (rx.slot rx.headSeqNum l),
      f.sn = (rx.headSeqNum + l) % 4096 := by
  intro l less f held
  change f ∈ update rx.reorderBuf _ _ _ at held
  have own := kept.size.slot_ieee80211SnSub rx.headSeqNum skb.sn_lt
  by_cases same : rx.slot rx.headSeqNum l = skb.sn % rx.bufSize
  · have here : l = ieee80211SnSub skb.sn rx.headSeqNum :=
      slot_injective less inside (same.trans own.symm)
    rw [same, update_self, ← own, ← here] at held
    rcases List.mem_append.mp held with old | new
    · exact kept.windowed l less f old
    · rw [List.mem_singleton.mp new, here]
      exact mod_of_ieee80211SnSub skb.sn_lt
  · rw [update_of_ne same] at held
    exact kept.windowed l less f held

include notReady

theorem Kept.stored (more : skb.amsduMore = true) : Kept (rx.stored skb) := by
  refine ⟨⟨kept.size.divides, kept.size.small⟩, kept.headLt, kept.unfiltered,
    kept.windowed_stored inside, ?_⟩
  have moved := marked_update (p := complete) rx.reorderBuf
    (Nat.mod_lt skb.sn kept.size.pos) (rx.reorderBuf (skb.sn % rx.bufSize) ++ [skb])
  rw [notReady, complete_append, more] at moved
  exact kept.counted.trans moved.symm

variable (jiffies) in
theorem Kept.storedLast (last : skb.amsduMore = false) : Kept (rx.storedLast jiffies skb) := by
  refine ⟨⟨kept.size.divides, kept.size.small⟩, kept.headLt, kept.unfiltered,
    kept.windowed_stored inside, ?_⟩
  have moved := marked_update (p := complete) rx.reorderBuf
    (Nat.mod_lt skb.sn kept.size.pos) (rx.reorderBuf (skb.sn % rx.bufSize) ++ [skb])
  rw [notReady, complete_append, last] at moved
  change rx.storedMpduNum + 1 = _
  rw [kept.counted]
  exact moved.symm

omit notReady in
/-- The frame just stored has not timed out, so a time-out that skips the head's slot finds a
frame before it. -/
theorem Kept.skipsIncomplete_of_storedLast (last : skb.amsduMore = false)
    (skips : (rx.storedLast jiffies skb).SkipsIncomplete hz jiffies rx.headSeqNum rx.bufSize) :
    rx.SkipsIncomplete hz jiffies rx.headSeqNum (ieee80211SnSub skb.sn rx.headSeqNum) := by
  have slots : ∀ head l, (rx.storedLast jiffies skb).slot head l = rx.slot head l :=
    fun _ _ => rfl
  simp only [SkipsIncomplete, FirstTimedOut, slots] at skips
  obtain ⟨nonempty, incomplete, k, bound, positive, ready, before, late⟩ := skips
  have own := kept.size.slot_ieee80211SnSub rx.headSeqNum skb.sn_lt
  have here : complete ((rx.storedLast jiffies skb).reorderBuf
      (rx.slot rx.headSeqNum (ieee80211SnSub skb.sn rx.headSeqNum))) = true := by
    change complete (update rx.reorderBuf _ _ _) = true
    rw [own, update_self, complete_append, last]
    rfl
  have same (l : Nat) (less : l < rx.bufSize)
      (other : l ≠ ieee80211SnSub skb.sn rx.headSeqNum) :
      (rx.storedLast jiffies skb).reorderBuf (rx.slot rx.headSeqNum l) =
        rx.reorderBuf (rx.slot rx.headSeqNum l) := by
    refine update_of_ne (fun again => other ?_) _ _
    exact slot_injective less inside (again.trans own.symm)
  have ahead : 0 < ieee80211SnSub skb.sn rx.headSeqNum := by
    refine Nat.pos_of_ne_zero fun atHead => ?_
    rw [atHead] at here
    rw [here] at incomplete
    cases incomplete
  have notThis : k ≠ ieee80211SnSub skb.sn rx.headSeqNum := by
    rintro rfl
    change decide (update rx.reorderTime _ jiffies (rx.slot rx.headSeqNum _) +
      htRxReorderBufTimeout hz < jiffies) = true at late
    rw [own, update_self, decide_eq_true_eq] at late
    omega
  have sooner : k < ieee80211SnSub skb.sn rx.headSeqNum := by
    refine Nat.lt_of_le_of_ne (Nat.le_of_not_lt fun later => ?_) notThis
    have := before _ later ahead
    rw [here] at this
    cases this
  rw [same 0 kept.size.pos (by omega)] at nonempty incomplete
  refine ⟨nonempty, incomplete, k, sooner, positive, ?_, ?_, ?_⟩
  · rwa [same k bound notThis] at ready
  · intro l less later
    have waits := before l less later
    rwa [same l (by omega) (by omega)] at waits
  · have time : update rx.reorderTime (skb.sn % rx.bufSize) jiffies
        (rx.slot rx.headSeqNum k) = rx.reorderTime (rx.slot rx.headSeqNum k) := by
      refine update_of_ne (fun again => notThis ?_) _ _
      exact slot_injective bound inside (again.trans own.symm)
    change decide (update rx.reorderTime (skb.sn % rx.bufSize) jiffies
      (rx.slot rx.headSeqNum k) + htRxReorderBufTimeout hz < jiffies) = true at late
    rwa [time] at late

end Accept

/-- A complete frame passed on directly leaves an empty slot behind. -/
theorem Kept.passHead (kept : Kept rx) (empty : rx.reorderBuf (rx.slot rx.headSeqNum 0) = []) :
    Kept { rx with headSeqNum := ieee80211SnInc rx.headSeqNum } := by
  refine (kept.released kept.size.pos nofun).congr rfl rfl ?_ kept.unfiltered ?_
  · change rx.reorderBuf = update rx.reorderBuf _ []
    rw [← empty, update_eq_self]
  · change rx.storedMpduNum = rx.storedMpduNum - (complete (rx.reorderBuf _)).toNat
    rw [empty]
    rfl

theorem Kept.acceptFrame (kept : Kept rx)
    (inside : ieee80211SnSub skb.sn rx.headSeqNum < rx.bufSize)
    (direct : skb.sn = rx.headSeqNum → rx.storedMpduNum = 0 → skb.amsduMore = false →
      rx.reorderBuf (rx.slot rx.headSeqNum 0) = [])
    (release : skb.amsduMore = false → complete (rx.reorderBuf (skb.sn % rx.bufSize)) = false →
      ¬ rx.SkipsIncomplete hz jiffies rx.headSeqNum (ieee80211SnSub skb.sn rx.headSeqNum)) :
    ∃ n ≤ rx.bufSize, Kept (rx.acceptFrame hz jiffies skb).1 ∧
      Hands rx n (rx.bufSize - 1) (rx.acceptFrame hz jiffies skb).1
        (rx.acceptFrame hz jiffies skb).2 := by
  have stays : Moves rx 0 rx [] := .refl kept.headLt
  have pos := kept.size.pos
  rw [TidAmpduRx.acceptFrame]
  dsimp only
  rw [kept.reorderReady]
  split
  · exact ⟨0, Nat.zero_le _, kept, stays.hands (Nat.zero_le _)⟩
  next notReady =>
  rw [Bool.not_eq_true] at notReady
  split
  · next atHead =>
      split
      · exact ⟨0, Nat.zero_le _, kept, hands_direct rfl rfl stays.head atHead.1⟩
      · next last =>
          rw [Bool.not_eq_true] at last
          exact ⟨1, pos, kept.passHead (direct atHead.1 atHead.2 last),
            hands_direct rfl rfl rfl atHead.1⟩
  · split
    · next more =>
        have moves : Moves rx 0 (rx.stored skb) [] := stays.congr rfl rfl rfl rfl rfl rfl
        exact ⟨0, Nat.zero_le _, kept.stored inside notReady more, moves.hands (Nat.zero_le _)⟩
    · next last =>
        rw [Bool.not_eq_true] at last
        obtain ⟨n, le, kept', moves⟩ :=
          (kept.storedLast jiffies inside notReady last).staReorderRelease
            fun skips => release last notReady
              (kept.skipsIncomplete_of_storedLast inside last skips)
        have few : n ≤ rx.bufSize := le
        have moves' : Moves rx n _ _ := moves.congr rfl rfl rfl rfl rfl rfl
        exact ⟨n, few, kept', moves'.hands (by omega)⟩

end TidAmpduRx

end Iwlwifi
