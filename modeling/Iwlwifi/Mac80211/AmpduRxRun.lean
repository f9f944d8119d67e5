import Mathlib.Tactic.NormNum
import Iwlwifi.Lib.Run
import Iwlwifi.Mac80211.AmpduRxKeep

/-!
# Runs of a session

`Session` is the invariant of a run, and `AmpduTrack` follows one with the head on the line of
the integers, where the order of the frames handed over can be read off.  A run whose events
all meet `StepKeeps` keeps the representation and hands frames over in order.
-/

namespace Iwlwifi

open Lib
open Function (update)

namespace TidAmpduRx

variable {rx after : TidAmpduRx} {frames : List (List AmpduSkb)} {n k l hz jiffies : Nat}
  {skb : AmpduSkb}

/-! ## Making room -/

/-- A slot of the window after a release that the release did not reach. -/
theorem Cleared.unchanged (cleared : Cleared rx n after) (inside : n + l < rx.bufSize) :
    after.reorderBuf (rx.slot rx.headSeqNum (n + l)) =
      rx.reorderBuf (rx.slot rx.headSeqNum (n + l)) := by
  refine cleared.others _ fun m less same => ?_
  have := slot_injective inside (by omega) same
  omega

/-- A slot of the window after a release that was in the window before, for another number. -/
theorem Cleared.wrapped (cleared : Cleared rx n after) (less : l < rx.bufSize)
    (around : rx.bufSize ≤ n + l) : after.reorderBuf (rx.slot rx.headSeqNum (n + l)) = [] := by
  have again : rx.slot rx.headSeqNum (n + l) = rx.slot rx.headSeqNum (n + l - rx.bufSize) := by
    rw [slot, slot, ← Nat.add_mod_right (rx.headSeqNum + (n + l - rx.bufSize))]
    congr 1
    omega
  rw [again]
  exact cleared.emptied _ (by omega)

/-- The window after a release, slot by slot. -/
theorem Cleared.slot_head (size : SizeOk rx) (moves : Moves rx n after frames) (l : Nat) :
    after.slot after.headSeqNum l = rx.slot rx.headSeqNum (n + l) := by
  rw [slot, moves.bufSize, moves.head]
  exact (size.slot_mod _ l).trans (slot_add _)

/-- A release that could skip an incomplete A-MSDU once room was made could do so before, as
far as the slots were not cleared. -/
theorem Cleared.skipsIncomplete (size : SizeOk rx) (cleared : Cleared rx n after)
    (moves : Moves rx n after frames) {limit : Nat} (bound : limit ≤ rx.bufSize)
    (skips : after.SkipsIncomplete hz jiffies after.headSeqNum limit) :
    n < rx.bufSize ∧
      rx.SkipsIncomplete hz jiffies after.headSeqNum (min limit (rx.bufSize - n)) := by
  have slots (l : Nat) : rx.slot after.headSeqNum l = rx.slot rx.headSeqNum (n + l) := by
    rw [moves.head]
    exact (size.slot_mod _ l).trans (slot_add _)
  simp only [SkipsIncomplete, FirstTimedOut, Cleared.slot_head size moves] at skips
  simp only [SkipsIncomplete, FirstTimedOut, slots]
  obtain ⟨nonempty, incomplete, k, less, positive, ready, before, late⟩ := skips
  have inside (l : Nat) (small : l < rx.bufSize)
      (held : after.reorderBuf (rx.slot rx.headSeqNum (n + l)) ≠ []) : n + l < rx.bufSize :=
    Nat.lt_of_not_le fun around => held (cleared.wrapped small around)
  have near : n < rx.bufSize := inside 0 size.pos nonempty
  have holds : after.reorderBuf (rx.slot rx.headSeqNum (n + k)) ≠ [] := by
    intro none
    rw [none] at ready
    cases ready
  have within := inside k (by omega) holds
  refine ⟨near, ?_, ?_, k, by omega, positive, ?_, ?_, ?_⟩
  · rwa [← cleared.unchanged near]
  · rwa [← cleared.unchanged near]
  · rwa [← cleared.unchanged within]
  · intro l sooner later
    rw [← cleared.unchanged (by omega)]
    exact before l sooner later
  · rw [timedOut, cleared.time] at late
    exact late

/-- The window a frame asks for starts at most 2048 ahead, and the frame is inside it. -/
theorem windowStart_spec (size : SizeOk rx)
    (notBehind : ieee80211SnSub skb.sn rx.headSeqNum ≤ 2048)
    (beyond : rx.bufSize ≤ ieee80211SnSub skb.sn rx.headSeqNum) :
    ieee80211SnSub (rx.windowStart skb.sn) rx.headSeqNum + rx.bufSize =
        ieee80211SnSub skb.sn rx.headSeqNum + 1 ∧
      ieee80211SnSub skb.sn (rx.windowStart skb.sn) + 1 = rx.bufSize := by
  have pos := size.pos
  have small := size.small
  rw [windowStart, if_neg (by omega)]
  simp only [ieee80211SnSub, ieee80211SnInc, ieee80211SnAdd] at *
  omega

theorem windowStart_of_lt (inside : ieee80211SnSub skb.sn rx.headSeqNum < rx.bufSize) :
    rx.windowStart skb.sn = rx.headSeqNum := if_pos inside

theorem makeRoom_of_lt (size : SizeOk rx)
    (inside : ieee80211SnSub skb.sn rx.headSeqNum < rx.bufSize) :
    rx.makeRoom skb.sn = (rx, []) := by
  have small := size.small
  have behind : ieee80211SnLess skb.sn (rx.headSeqNum + rx.bufSize) = true := by
    rw [ieee80211SnLess_iff]
    simp only [ieee80211SnSub] at *
    omega
  rw [makeRoom, if_neg (not_not.mpr behind)]

theorem makeRoom_of_le (size : SizeOk rx)
    (notBehind : ieee80211SnSub skb.sn rx.headSeqNum ≤ 2048)
    (beyond : rx.bufSize ≤ ieee80211SnSub skb.sn rx.headSeqNum) :
    rx.makeRoom skb.sn = rx.releaseReorderFrames (rx.windowStart skb.sn) := by
  have small := size.small
  have ahead : ieee80211SnLess skb.sn (rx.headSeqNum + rx.bufSize) = false := by
    rw [ieee80211SnLess_eq_false_iff]
    simp only [ieee80211SnSub] at *
    omega
  rw [makeRoom, if_pos (by rw [ahead]; decide), windowStart, if_neg (by omega)]

variable (hz jiffies) in
/-- A frame that is not out of date, once it has started the session. -/
theorem Kept.acceptRoom (kept : Kept rx)
    (notBehind : ieee80211SnSub skb.sn rx.headSeqNum ≤ 2048)
    (keeps : rx.MpduKeeps hz jiffies skb) :
    ∃ n < 4096, ∃ reach ≤ 2048,
      Kept ((rx.makeRoom skb.sn).1.acceptFrame hz jiffies skb).1 ∧
      Hands rx n reach ((rx.makeRoom skb.sn).1.acceptFrame hz jiffies skb).1
        ((rx.makeRoom skb.sn).2 ++ ((rx.makeRoom skb.sn).1.acceptFrame hz jiffies skb).2) := by
  have pos := kept.size.pos
  rcases Nat.lt_or_ge (ieee80211SnSub skb.sn rx.headSeqNum) rx.bufSize with inside | beyond
  · have small := kept.size.small
    have release := keeps.release
    rw [windowStart_of_lt inside, ieee80211SnSub_self, Nat.sub_zero,
      Nat.min_eq_left inside.le] at release
    obtain ⟨n, le, kept', hands⟩ := kept.acceptFrame inside keeps.direct
      fun last notReady => release last (fun _ => notReady) pos
    rw [makeRoom_of_lt kept.size inside]
    exact ⟨n, by omega, rx.bufSize - 1, by omega, kept', hands⟩
  · have small := kept.size.small
    obtain ⟨start, within⟩ := windowStart_spec kept.size notBehind beyond
    have near : ieee80211SnSub (rx.windowStart skb.sn) rx.headSeqNum < 2048 := by
      have := keeps.reach
      omega
    obtain ⟨n, less, same, roomKept, moves, cleared⟩ :=
      kept.releaseReorderFrames (rx.windowStart skb.sn)
    obtain rfl := same near
    rw [makeRoom_of_le kept.size notBehind beyond]
    generalize rx.releaseReorderFrames (rx.windowStart skb.sn) = room at *
    have head : room.1.headSeqNum = rx.windowStart skb.sn := by
      rw [moves.head]
      refine (mod_of_ieee80211SnSub ?_).symm
      rw [windowStart, if_neg (by omega)]
      exact ieee80211SnInc_lt
    have size := moves.bufSize
    have inside : ieee80211SnSub skb.sn room.1.headSeqNum < room.1.bufSize := by
      rw [head, size]
      omega
    have direct : skb.sn = room.1.headSeqNum → room.1.storedMpduNum = 0 →
        skb.amsduMore = false →
        room.1.reorderBuf (room.1.slot room.1.headSeqNum 0) = [] := by
      intro atHead _ _
      rw [Cleared.slot_head kept.size moves]
      refine cleared.wrapped pos ?_
      rw [← head, ← atHead, ieee80211SnSub_self] at within
      omega
    have release : skb.amsduMore = false →
        complete (room.1.reorderBuf (skb.sn % room.1.bufSize)) = false →
        ¬ room.1.SkipsIncomplete hz jiffies room.1.headSeqNum
          (ieee80211SnSub skb.sn room.1.headSeqNum) := by
      intro last _ skips
      obtain ⟨small, before⟩ := cleared.skipsIncomplete kept.size moves (by omega) skips
      rw [head] at before
      exact keeps.release last (fun inside => by omega) small before
    obtain ⟨m, le, kept', hands⟩ := roomKept.acceptFrame inside direct release
    exact ⟨_, by omega, _, by omega, kept', moves.hands_trans hands (by omega)⟩

/-! ## Events -/

/-- The state between events; an offloaded session holds nothing before its first frame. -/
structure Session (rx : TidAmpduRx) : Prop where
  kept : Kept rx
  fresh : rx.autoSeq = true → ∀ i < rx.bufSize, rx.reorderBuf i = []

theorem session_install {startSeqNum bufSize : Nat} (autoSeq : Bool) (bound : startSeqNum < 4096)
    (divides : bufSize ∣ 4096) (small : bufSize ≤ 256) :
    Session (install startSeqNum bufSize autoSeq) where
  kept := by
    refine ⟨⟨divides, small⟩, bound, rfl, nofun, ?_⟩
    exact (marked_eq_zero_iff.mpr fun _ _ => rfl).symm
  fresh _ _ _ := rfl

/-- Once it has picked its first sequence number a session is not offloaded. -/
theorem Session.pickSsn (session : Session rx) (bound : k < 4096) :
    Kept (rx.pickSsn k) ∧ (rx.pickSsn k).autoSeq = false := by
  rw [TidAmpduRx.pickSsn]
  split
  · next offloaded =>
      refine ⟨⟨⟨session.kept.size.divides, session.kept.size.small⟩, bound,
        session.kept.unfiltered, ?_, session.kept.counted⟩, rfl⟩
      intro l less f held
      change f ∈ rx.reorderBuf (rx.slot k l) at held
      rw [session.fresh offloaded _ (session.kept.size.slot_lt k l)] at held
      cases held
  · next picked => exact ⟨session.kept, Bool.not_eq_true _ ▸ picked⟩

variable (hz jiffies) in
/-- Releasing from an empty buffer leaves it empty. -/
theorem Kept.staReorderRelease_empty (kept : Kept rx)
    (empty : ∀ i < rx.bufSize, rx.reorderBuf i = []) :
    (rx.staReorderRelease hz jiffies).1.reorderBuf = rx.reorderBuf ∧
      (rx.staReorderRelease hz jiffies).2 = [] := by
  have none : rx.storedMpduNum = 0 := by
    rw [kept.counted, marked_eq_zero_iff]
    intro i bound
    rw [empty i bound]
    rfl
  have notReady : rx.reorderReady (rx.headSeqNum % rx.bufSize) = false := by
    rw [kept.reorderReady, empty _ (Nat.mod_lt _ kept.size.pos)]
    rfl
  have stays : TidAmpduRx.releaseReady (rx.bufSize + 1) rx = (rx, []) := by
    rw [TidAmpduRx.releaseReady]
    dsimp only
    rw [notReady]
    rfl
  rw [TidAmpduRx.staReorderRelease]
  dsimp only
  rw [if_neg (fun waits => waits.2 none), stays, TidAmpduRx.updateReleaseTimer,
    if_neg (not_not.mpr none)]
  exact ⟨rfl, rfl⟩

theorem releaseUpTo_empty {headSeqNum : Nat} (fuel : Nat)
    (empty : ∀ i, rx.reorderBuf (i % rx.bufSize) = []) :
    (releaseUpTo headSeqNum fuel rx).2 = [] := by
  induction fuel generalizing rx with
  | zero => rfl
  | succ fuel ih =>
      rw [TidAmpduRx.releaseUpTo]
      split
      · rw [releaseReorderFrame, if_pos (empty _)]
        exact ih empty
      · rfl

/-- The state an event's head and batches are measured from. -/
def base (rx : TidAmpduRx) : BaEvent → TidAmpduRx
  | .mpdu _ skb => rx.pickSsn skb.sn
  | .backReq _ | .timeout _ => rx

/-- What an event does to a session, with its head and batches measured from `start`. -/
structure Advances (rx start after : TidAmpduRx) (frames : List (List AmpduSkb)) : Prop where
  session : Session after
  idle : after.autoSeq = true → rx.autoSeq = true ∧ frames = []
  hands : ∃ n < 4096, ∃ reach ≤ 2048, Hands start n reach after frames

variable {start : TidAmpduRx}

/-- A session that has picked its first sequence number. -/
theorem Advances.of_picked (picked : start.autoSeq = false) (kept : Kept after)
    (hands : ∃ n < 4096, ∃ reach ≤ 2048, Hands start n reach after frames) :
    Advances rx start after frames := by
  obtain ⟨n, less, reach, near, moved⟩ := hands
  have started : after.autoSeq = false := moved.autoSeq.trans picked
  refine ⟨⟨kept, fun offloaded => ?_⟩, fun offloaded => ?_, n, less, reach, near, moved⟩
  · rw [started] at offloaded
    cases offloaded
  · rw [started] at offloaded
    cases offloaded

/-- A frame the session ignores. -/
theorem Advances.ignore (picked : start.autoSeq = false) (kept : Kept start)
    (bufSize : after.bufSize = start.bufSize) (autoSeq : after.autoSeq = start.autoSeq)
    (head : after.headSeqNum = start.headSeqNum) (same : Kept after) :
    Advances rx start after [] := by
  have moves : Moves start 0 start [] := .refl kept.headLt
  exact .of_picked picked same ⟨0, by decide, 0, by decide,
    (moves.congr rfl rfl rfl head bufSize autoSeq).hands (by decide)⟩

theorem Session.mpdu (session : Session rx)
    (keeps : StepKeeps hz rx (.mpdu jiffies skb)) :
    Advances rx (rx.pickSsn skb.sn) (rx.step hz (.mpdu jiffies skb)).1
      (rx.step hz (.mpdu jiffies skb)).2 := by
  obtain ⟨kept, picked⟩ := session.pickSsn skb.sn_lt
  rw [StepKeeps] at keeps
  rw [TidAmpduRx.step, staManageReorderBuf]
  generalize rx.pickSsn skb.sn = start at *
  dsimp only
  split
  · exact .ignore picked kept rfl rfl rfl kept
  have kept' : Kept { start with started := true } := kept.congr rfl rfl rfl rfl rfl
  split
  · exact .ignore picked kept rfl rfl rfl kept'
  · next notBehind =>
      rw [Bool.not_eq_true] at notBehind
      obtain ⟨reach, direct, release⟩ := keeps notBehind
      obtain ⟨n, less, far, near, kept'', hands⟩ := kept'.acceptRoom hz jiffies
        (ieee80211SnLess_eq_false_iff.mp notBehind) ⟨reach, direct, release⟩
      refine .of_picked picked kept'' ⟨n, less, far, near, ?_⟩
      exact ⟨hands.bufSize, hands.autoSeq, hands.head, hands.uniform, hands.upTo, hands.near,
        hands.sorted⟩

theorem Session.backReq (session : Session rx) (startSeqControl : Nat) :
    Advances rx rx (rx.step hz (.backReq startSeqControl)).1
      (rx.step hz (.backReq startSeqControl)).2 := by
  obtain ⟨n, less, -, kept, moves, cleared⟩ :=
    session.kept.releaseReorderFrames (startSeqControl % 2 ^ 16 / 16)
  refine ⟨⟨kept, fun offloaded i bound => ?_⟩, fun offloaded => ?_, n, by omega, n, less.le,
    moves.hands (by omega)⟩
  · have empty := session.fresh (moves.autoSeq.symm.trans offloaded) i
      (bound.trans_eq moves.bufSize)
    by_cases gone : ∃ m < n, i = rx.slot rx.headSeqNum m
    · obtain ⟨m, before, rfl⟩ := gone
      exact cleared.emptied m before
    · rw [← empty]
      exact cleared.others i fun m before same => gone ⟨m, before, same⟩
  · have waiting := moves.autoSeq.symm.trans offloaded
    exact ⟨waiting, releaseUpTo_empty 2048 fun i =>
      session.fresh waiting _ (Nat.mod_lt i session.kept.size.pos)⟩

theorem Session.timeout (session : Session rx) (keeps : StepKeeps hz rx (.timeout jiffies)) :
    Advances rx rx (rx.step hz (.timeout jiffies)).1 (rx.step hz (.timeout jiffies)).2 := by
  have small := session.kept.size.small
  obtain ⟨n, le, kept, moves⟩ := session.kept.staReorderRelease keeps
  refine ⟨⟨kept, fun offloaded i bound => ?_⟩, fun offloaded => ?_, n, by omega, n, by omega,
    moves.hands (by omega)⟩
  · have empty := session.fresh (moves.autoSeq.symm.trans offloaded)
    obtain ⟨same, -⟩ := session.kept.staReorderRelease_empty hz jiffies empty
    exact (congrFun same i).trans (empty i (bound.trans_eq moves.bufSize))
  · have waiting := moves.autoSeq.symm.trans offloaded
    exact ⟨waiting, (session.kept.staReorderRelease_empty hz jiffies (session.fresh waiting)).2⟩

/-- What an event that meets the condition does to a session. -/
theorem Session.step {event : BaEvent} (session : Session rx) (keeps : StepKeeps hz rx event) :
    Advances rx (rx.base event) (rx.step hz event).1 (rx.step hz event).2 := by
  cases event with
  | mpdu jiffies skb => exact session.mpdu keeps
  | backReq startSeqControl => exact session.backReq startSeqControl
  | timeout jiffies => exact session.timeout keeps

end TidAmpduRx

/-! ## Runs -/

/-- The integer that a sequence number stands for when the head is at `position`; it is behind
the head if the comparison of the source says so. -/
def snPosition (position : Int) (head sn : Nat) : Int :=
  if ieee80211SnLess sn head then position + ieee80211SnSub sn head - 4096
  else position + ieee80211SnSub sn head

/-- A session with the head on the line of the integers, and what it has handed over. -/
structure AmpduTrack where
  rx : TidAmpduRx
  position : Int
  handed : List (Int × AmpduSkb)
  batches : List (List AmpduSkb)

namespace AmpduTrack

open TidAmpduRx

def init (rx : TidAmpduRx) : AmpduTrack where
  rx := rx
  position := rx.headSeqNum
  handed := []
  batches := []

/-- Where the head is when an event is processed: an offloaded session picks it. -/
def startPosition (t : AmpduTrack) (event : BaEvent) : Int :=
  if t.rx.autoSeq then (t.rx.base event).headSeqNum else t.position

def step (hz : Nat) (t : AmpduTrack) (event : BaEvent) : AmpduTrack where
  rx := (t.rx.step hz event).1
  position := t.startPosition event +
    ieee80211SnSub (t.rx.step hz event).1.headSeqNum (t.rx.base event).headSeqNum
  handed := t.handed ++ (t.rx.step hz event).2.flatten.map fun skb =>
    (snPosition (t.startPosition event) (t.rx.base event).headSeqNum skb.sn, skb)
  batches := t.batches ++ (t.rx.step hz event).2

/-- The buffer is represented, the sequence numbers handed over do not go back on the line they
are placed on, and what is handed over together has one sequence number. -/
structure InSequence (t : AmpduTrack) : Prop where
  represented : Represented t.rx
  placed : ∀ entry ∈ t.handed, entry.1 % 4096 = entry.2.sn
  sorted : t.handed.Pairwise fun entry later => entry.1 ≤ later.1
  uniform : ∀ batch ∈ t.batches, ∀ f ∈ batch, ∀ g ∈ batch, f.sn = g.sn

/-- The invariant of a run. -/
structure Tracked (t : AmpduTrack) : Prop where
  session : Session t.rx
  line : t.position % 4096 = t.rx.headSeqNum
  idle : t.rx.autoSeq = true → t.handed = []
  behind : ∀ entry ∈ t.handed, entry.1 ≤ t.position
  placed : ∀ entry ∈ t.handed, entry.1 % 4096 = entry.2.sn
  sorted : t.handed.Pairwise fun entry later => entry.1 ≤ later.1
  uniform : ∀ batch ∈ t.batches, ∀ f ∈ batch, ∀ g ∈ batch, f.sn = g.sn

variable {t : AmpduTrack} {event : BaEvent} {hz : Nat}

theorem Tracked.inSequence (tracked : Tracked t) : InSequence t where
  represented := tracked.session.kept.represented
  placed := tracked.placed
  sorted := tracked.sorted
  uniform := tracked.uniform

theorem tracked_init {rx : TidAmpduRx} (session : Session rx) : Tracked (init rx) where
  session := session
  line := by
    have := session.kept.headLt
    change (rx.headSeqNum : Int) % 4096 = rx.headSeqNum
    omega
  idle _ := rfl
  behind := nofun
  placed := nofun
  sorted := .nil
  uniform := nofun

/-- Where the head is when an event is processed. -/
theorem Tracked.startPosition_spec (tracked : Tracked t) (event : BaEvent) :
    t.startPosition event % 4096 = (t.rx.base event).headSeqNum ∧
      ∀ entry ∈ t.handed, entry.1 ≤ t.startPosition event := by
  have headLt : (t.rx.base event).headSeqNum < 4096 := by
    cases event with
    | mpdu jiffies skb => exact (tracked.session.pickSsn skb.sn_lt).1.headLt
    | backReq startSeqControl => exact tracked.session.kept.headLt
    | timeout jiffies => exact tracked.session.kept.headLt
  rw [startPosition]
  split
  · next offloaded =>
      refine ⟨by omega, fun entry member => ?_⟩
      rw [tracked.idle offloaded] at member
      cases member
  · next picked =>
      have same : (t.rx.base event).headSeqNum = t.rx.headSeqNum := by
        cases event with
        | mpdu jiffies skb =>
            rw [base, pickSsn, if_neg picked]
        | backReq startSeqControl => rfl
        | timeout jiffies => rfl
      exact ⟨tracked.line.trans (by rw [same]), tracked.behind⟩

/-- An event that meets the condition keeps the invariant. -/
theorem Tracked.step (tracked : Tracked t) (keeps : StepKeeps hz t.rx event) :
    Tracked (t.step hz event) := by
  obtain ⟨session, idle, n, less, reach, near, hands⟩ := tracked.session.step keeps
  obtain ⟨line, behind⟩ := tracked.startPosition_spec event
  have moved : ieee80211SnSub (t.rx.step hz event).1.headSeqNum
      (t.rx.base event).headSeqNum = n := by
    rw [hands.head]
    exact ieee80211SnSub_snAdd less
  have position : ∀ f ∈ (t.rx.step hz event).2.flatten,
      snPosition (t.startPosition event) (t.rx.base event).headSeqNum f.sn =
        t.startPosition event + ieee80211SnSub f.sn (t.rx.base event).headSeqNum := by
    intro f member
    have notBehind : ¬ ieee80211SnLess f.sn (t.rx.base event).headSeqNum = true := by
      have := hands.near f member
      rw [ieee80211SnLess_iff]
      omega
    rw [snPosition, if_neg notBehind]
  refine ⟨session, ?_, ?_, ?_, ?_, ?_, ?_⟩
  · change (t.startPosition event + (ieee80211SnSub _ _ : Nat)) % 4096 =
      (t.rx.step hz event).1.headSeqNum
    rw [moved, hands.head]
    omega
  · intro offloaded
    obtain ⟨waiting, none⟩ := idle offloaded
    change t.handed ++ _ = []
    rw [tracked.idle waiting, none]
    rfl
  · intro entry member
    change entry.1 ≤ t.startPosition event + (ieee80211SnSub _ _ : Nat)
    rw [moved]
    rcases List.mem_append.mp member with old | new
    · have := behind entry old
      omega
    · obtain ⟨f, from_, rfl⟩ := List.mem_map.mp new
      have := hands.upTo f from_
      change snPosition _ _ _ ≤ _
      rw [position f from_]
      omega
  · intro entry member
    rcases List.mem_append.mp member with old | new
    · exact tracked.placed entry old
    · obtain ⟨f, from_, rfl⟩ := List.mem_map.mp new
      change snPosition _ _ _ % 4096 = (f.sn : Int)
      rw [position f from_]
      have arrives := mod_of_ieee80211SnSub (h := (t.rx.base event).headSeqNum) f.sn_lt
      omega
  · refine List.pairwise_append.mpr ⟨tracked.sorted, ?_, ?_⟩
    · rw [List.pairwise_map]
      refine hands.sorted.imp_of_mem fun {f g} left right le => ?_
      rw [position f left, position g right]
      omega
    · intro entry old added new
      obtain ⟨f, from_, rfl⟩ := List.mem_map.mp new
      have := behind entry old
      change entry.1 ≤ snPosition _ _ _
      rw [position f from_]
      omega
  · intro batch member
    rcases List.mem_append.mp member with old | new
    · exact tracked.uniform batch old
    · exact hands.uniform batch new

end AmpduTrack

namespace TidAmpduRx

/-- The sessions that are installed. -/
theorem startRxBaSession_eq_some {sta : BaStation} {req : BaRequest} {rx : TidAmpduRx}
    (installed : startRxBaSession sta req = some rx) :
    ∃ bufSize ≤ 256, rx = install req.startSeqNum bufSize req.autoSeq := by
  have most : maxAmpduBuf sta.hasHe ≤ 256 := by
    rw [maxAmpduBuf]
    split <;> decide
  simp only [startRxBaSession, Option.ite_none_left_eq_some, Option.some.injEq] at installed
  obtain ⟨-, -, -, sizes, -, -, -, rfl⟩ := installed
  refine ⟨_, ?_, rfl⟩
  have asked : req.bufSize ≤ 256 := by
    have := fun more => sizes (.inr more)
    omega
  have chosen : (if req.bufSize = 0 then maxAmpduBuf sta.hasHe else req.bufSize) ≤ 256 := by
    split
    · exact most
    · exact asked
  have limited (most : Nat) {size : Nat} (few : size ≤ 256) :
      (if most < size then most else size) ≤ 256 := by
    split <;> omega
  exact limited _ chosen

/-- The buffer sizes that keep the slots of a window apart are those that divide 4096. -/
theorem represented_install_iff {bufSize : Nat} (positive : 0 < bufSize) (small : bufSize ≤ 256)
    (autoSeq : Bool) :
    (∀ startSeqNum < 4096, Represented (install startSeqNum bufSize autoSeq)) ↔
      bufSize ∣ 4096 := by
  constructor
  · intro represented
    by_contra notDivides
    have less := Nat.mod_lt 4095 positive
    have inside : 4095 % bufSize + 1 < bufSize := by
      refine Nat.lt_of_le_of_ne less fun last => notDivides (Nat.dvd_of_mod_eq_zero ?_)
      rw [← Nat.mod_add_mod 4095 bufSize 1, last, Nat.mod_self]
    have wraps : (4095 + (4095 % bufSize + 1)) % 4096 = 4095 % bufSize := by omega
    have same := (represented 4095 (by decide)).distinct 0 positive (4095 % bufSize + 1) inside
    change (4095 + 0) % 4096 % bufSize = (4095 + (4095 % bufSize + 1)) % 4096 % bufSize →
      0 = 4095 % bufSize + 1 at same
    rw [wraps, Nat.mod_mod] at same
    have := same rfl
    omega
  · intro divides startSeqNum bound
    exact (session_install autoSeq bound divides small).kept.represented

theorem represented_install_iff_64 :
    (∀ startSeqNum < 4096, Represented (install startSeqNum 64 false)) ↔ 64 ∣ 4096 :=
  represented_install_iff (by decide) (by decide) false

/-- With any other size the slot of a frame at the end of the window is that of the head: the
frame is handed over at once, and the one that the session waited for is dropped. -/
theorem handsEarly_of_not_dvd {bufSize : Nat} (positive : 0 < bufSize) (small : bufSize ≤ 256)
    (notDivides : ¬ bufSize ∣ 4096) (hz jiffies later : Nat) {last head : AmpduSkb}
    (lastSn : last.sn = 4095 % bufSize) (whole : last.amsduMore = false)
    (headSn : head.sn = 4095) :
    let first := (install 4095 bufSize false).step hz (.mpdu jiffies last)
    ieee80211SnSub last.sn 4095 < bufSize ∧ first.2 = [[last]] ∧
      (first.1.step hz (.mpdu later head)).2 = [] := by
  intro first
  have less := Nat.mod_lt 4095 positive
  have inside : last.sn + 1 < bufSize := by
    refine Nat.lt_of_le_of_ne (lastSn ▸ less) fun full => notDivides (Nat.dvd_of_mod_eq_zero ?_)
    rw [← Nat.mod_add_mod 4095 bufSize 1, ← lastSn, full, Nat.mod_self]
  have slot : last.sn % bufSize = 4095 % bufSize := by rw [lastSn, Nat.mod_mod]
  have started : ieee80211SnLess last.sn 4095 = false := by
    rw [ieee80211SnLess_eq_false_iff, ieee80211SnSub]
    omega
  have near : ieee80211SnLess last.sn (4095 + bufSize) = true := by
    rw [ieee80211SnLess_iff, ieee80211SnSub]
    omega
  have released : first =
      ({ install 4095 bufSize false with
          started := true
          reorderTime := update (fun _ => 0) (4095 % bufSize) jiffies
          headSeqNum := 0 }, [[last]]) := by
    have other : last.sn ≠ 4095 := by omega
    obtain ⟨fuel, rfl⟩ := Nat.exists_eq_add_one_of_ne_zero (Nat.ne_of_gt positive)
    simp [first, step, staManageReorderBuf, pickSsn, install, started, makeRoom, near, acceptFrame,
      slot, other, reorderReady, complete, whole, staReorderRelease, releaseReady,
      releaseReorderFrame, noFrame, ieee80211SnInc, ieee80211SnAdd, updateReleaseTimer]
  refine ⟨by rw [ieee80211SnSub]; omega, by rw [released], ?_⟩
  rw [released]
  simp [step, staManageReorderBuf, pickSsn, install, headSn, ieee80211SnLess]

end TidAmpduRx

namespace AmpduTrack

open TidAmpduRx

/-- The reorder buffer is kept by every run of a session whose buffer size divides 4096 in which
no event meets one of the slips. -/
theorem inSequence_of_stepKeeps (hz : Nat) (sta : BaStation) (req : BaRequest)
    {rx : TidAmpduRx} (installed : startRxBaSession sta req = some rx)
    (bound : req.startSeqNum < 4096) (divides : rx.bufSize ∣ 4096) (events : List BaEvent)
    (run : Admissible (step hz) (fun t event => StepKeeps hz t.rx event) (init rx) events) :
    InSequence (events.foldl (step hz) (init rx)) := by
  obtain ⟨bufSize, small, rfl⟩ := startRxBaSession_eq_some installed
  have start : Tracked (init (install req.startSeqNum bufSize req.autoSeq)) :=
    tracked_init (session_install req.autoSeq bound divides small)
  exact (run.invariant (fun _ _ tracked keeps => tracked.step keeps) start).inSequence

/-- The parameters of an HT session with a buffer of 64 frames. -/
def htStation : BaStation where
  htSupported := true
  blockBa := false
  hasHe := false
  delayBa := false
  maxRxAggregationSubframes := 64
  supportsReorderingBuffer := false
  tidRxToken := none
  drvAmpduAction := true

def htRequest : BaRequest where
  tid := 0
  dialogToken := 1
  startSeqNum := 0
  baPolicy := 1
  bufSize := 64
  autoSeq := false

/-- A hole before an A-MSDU of two sub-frames, whose second one is the next in order. -/
def holeEvents : List BaEvent :=
  [.mpdu 0 ⟨1, true, by decide⟩, .mpdu 1 ⟨1, false, by decide⟩, .mpdu 2 ⟨0, false, by decide⟩,
    .backReq (5 * 16), .timeout 500]

theorem inSequence_holeEvents :
    InSequence (holeEvents.foldl (step 250) (init (install 0 64 false))) :=
  inSequence_of_stepKeeps 250 htStation htRequest
    (show startRxBaSession htStation htRequest = some (install 0 64 false) from rfl)
    (by decide) (by decide) holeEvents (by decide +kernel)

/-- The first sub-frame of SN 1 is stored while SN 0 is missing.  Once SN 0 has been passed on
directly, the last sub-frame of SN 1 is, too: the slot keeps the first one, now behind the head. -/
theorem not_represented_directPass :
    ¬ InSequence ([BaEvent.mpdu 0 ⟨1, true, by decide⟩, .mpdu 1 ⟨0, false, by decide⟩,
      .mpdu 2 ⟨1, false, by decide⟩].foldl (step 250) (init (install 0 64 false))) := by
  intro kept
  have stale : ∃ f ∈ ([BaEvent.mpdu 0 ⟨1, true, by decide⟩, .mpdu 1 ⟨0, false, by decide⟩,
      .mpdu 2 ⟨1, false, by decide⟩].foldl (step 250) (init (install 0 64 false))).rx.reorderBuf 1,
      ¬ ieee80211SnSub f.sn 2 < 64 := by decide +kernel
  obtain ⟨f, held, behind⟩ := stale
  exact behind (kept.represented.inWindow 1 (by decide) f held)

end AmpduTrack

end Iwlwifi
