import Iwlwifi.Mvm.Reorder
import Iwlwifi.Lib.Run

/-!
# Counting the A-MPDUs with an old SN

`iwl_mvm_oldsn_workaround` stops a block-ack session after ten bad A-MPDUs in a row, a bad one
being one with a frame below the window.  An A-MPDU is known by the time stamp that its frames
share.  `consec_oldsn_prev_drop` is meant to say that the last A-MPDU was bad, but it is cleared
only when the session is stopped, so an A-MPDU without a bad frame does not restart the count.

`OldsnRun` keeps the A-MPDUs beside the buffer since the count was last reset.  `Counting`
relates the count to them as long as no such A-MPDU comes in between, and from it
`stopsAfterTen_of_noGap` follows.
-/

namespace Iwlwifi.Oldsn

open Lib

/-! ## A-MPDUs -/

/-- The frame belongs to a bad A-MPDU. -/
def Bad (ampdu : List RxMpdu) : Prop := ∃ skb ∈ ampdu, skb.baOldSn = true

instance (ampdu : List RxMpdu) : Decidable (Bad ampdu) :=
  inferInstanceAs (Decidable (∃ skb ∈ ampdu, skb.baOldSn = true))

/-- The time stamp of the newest frame. -/
def gp2Of : List (List RxMpdu) → Option Nat
  | (skb :: _) :: _ => some skb.deviceTimestamp
  | _ => none

/-- The maximal runs of frames with one time stamp, the newest run and the newest frame first,
with one more frame. -/
def addFrame (ampdus : List (List RxMpdu)) (skb : RxMpdu) : List (List RxMpdu) :=
  match ampdus with
  | [] => [[skb]]
  | newest :: older =>
      if gp2Of (newest :: older) = some skb.deviceTimestamp then (skb :: newest) :: older
      else [skb] :: newest :: older

/-! ## A run -/

/-- A session and the A-MPDUs since the count was last reset. -/
structure OldsnRun where
  data : IwlMvmBaidData
  ampdus : List (List RxMpdu)

/-- The call for a frame stops the block-ack session. -/
def OldsnRun.stops (s : OldsnRun) (skb : RxMpdu) : Bool :=
  (iwlMvmOldsnWorkaround s.data skb).2.any fun
    | .stopRxBaSession _ => true
    | _ => false

def OldsnRun.step (s : OldsnRun) (skb : RxMpdu) : OldsnRun where
  data := (iwlMvmOldsnWorkaround s.data skb).1
  ampdus := if s.stops skb then [] else addFrame s.ampdus skb

def OldsnRun.init (data : IwlMvmBaidData) : OldsnRun := ⟨data, []⟩

/-- If the call for a frame stops the session, the last ten A-MPDUs since the last reset, that of
the frame included, are bad. -/
def StopsAfterTen (s : OldsnRun) (skb : RxMpdu) : Prop :=
  s.stops skb = true →
    iwlMvmAmpduConsecDropsDelba ≤ (addFrame s.ampdus skb).length ∧
      ∀ ampdu ∈ (addFrame s.ampdus skb).take iwlMvmAmpduConsecDropsDelba, Bad ampdu

/-- The frame does not start an A-MPDU after one that was not bad, while a bad one has been seen
since the last reset. -/
def NoGap (s : OldsnRun) (skb : RxMpdu) : Prop :=
  gp2Of s.ampdus ≠ some skb.deviceTimestamp → (∃ ampdu ∈ s.ampdus, Bad ampdu) →
    ∀ newest ∈ s.ampdus.head?, Bad newest

instance (s : OldsnRun) (skb : RxMpdu) : Decidable (NoGap s skb) :=
  inferInstanceAs (Decidable (_ → _ → _))

instance (s : OldsnRun) (skb : RxMpdu) : Decidable (StopsAfterTen s skb) :=
  inferInstanceAs (Decidable (_ → _ ∧ _))

/-! ## The count -/

/-- The bad A-MPDUs without a gap, up to the newest one.  The newest one has not ended, so it does
not make a gap. -/
def stretch : List (List RxMpdu) → Nat
  | [] => 0
  | newest :: older =>
      (if Bad newest then 1 else 0) + (older.takeWhile fun ampdu => decide (Bad ampdu)).length

/-- What the three fields say of the A-MPDUs since the last reset. -/
structure Counting (s : OldsnRun) : Prop where
  none : s.data.reorderBuf.consecOldsnPrevDrop = false →
    s.data.reorderBuf.consecOldsnDrops = 0 ∧ ∀ ampdu ∈ s.ampdus, ¬ Bad ampdu
  some : s.data.reorderBuf.consecOldsnPrevDrop = true →
    s.data.reorderBuf.consecOldsnDrops ≤ stretch s.ampdus ∧ (∃ ampdu ∈ s.ampdus, Bad ampdu) ∧
      gp2Of s.ampdus = some s.data.reorderBuf.consecOldsnAmpduGp2

theorem gp2Of_addFrame (ampdus : List (List RxMpdu)) (skb : RxMpdu) :
    gp2Of (addFrame ampdus skb) = some skb.deviceTimestamp := by
  cases ampdus with
  | nil => rfl
  | cons newest older =>
      rw [addFrame]
      split
      · rfl
      · rfl

theorem Bad.cons {ampdu : List RxMpdu} (bad : Bad ampdu) (skb : RxMpdu) : Bad (skb :: ampdu) := by
  obtain ⟨old, listed, drop⟩ := bad
  exact ⟨old, .tail _ listed, drop⟩

theorem bad_of_old {skb : RxMpdu} (old : skb.baOldSn = true) (ampdu : List RxMpdu) :
    Bad (skb :: ampdu) := ⟨skb, .head _, old⟩

theorem bad_cons_iff {skb : RxMpdu} (fresh : skb.baOldSn = false) {ampdu : List RxMpdu} :
    Bad (skb :: ampdu) ↔ Bad ampdu := by
  refine ⟨?_, fun bad => bad.cons skb⟩
  rintro ⟨old, listed, drop⟩
  rcases List.mem_cons.mp listed with rfl | further
  · rw [fresh] at drop
    cases drop
  · exact ⟨old, further, drop⟩

variable {newest : List RxMpdu} {older : List (List RxMpdu)} {ampdus : List (List RxMpdu)}

/-- The first A-MPDUs of a stretch that reaches the newest one are bad. -/
theorem bad_of_stretch {n : Nat} (bad : Bad newest) (long : n ≤ stretch (newest :: older)) :
    n ≤ (newest :: older).length ∧ ∀ ampdu ∈ (newest :: older).take n, Bad ampdu := by
  have all : stretch (newest :: older) =
      ((newest :: older).takeWhile fun ampdu => decide (Bad ampdu)).length := by
    rw [stretch, if_pos bad, List.takeWhile_cons, decide_eq_true bad, if_pos rfl,
      List.length_cons, Nat.add_comm]
  rw [all] at long
  have front := List.takeWhile_prefix (l := newest :: older) fun ampdu => decide (Bad ampdu)
  refine ⟨Nat.le_trans long front.length_le, fun ampdu first => ?_⟩
  obtain ⟨rest, split⟩ := front
  rw [← split, List.take_append_of_le_length long] at first
  exact of_decide_eq_true
    (List.all_eq_true.mp List.all_takeWhile ampdu (List.mem_of_mem_take first))

/-! ## One frame -/

section Frame

variable {s : OldsnRun} {skb : RxMpdu}

/-- The call for a frame of an A-MPDU that was counted does nothing. -/
theorem workaround_of_counted (gp2 : skb.deviceTimestamp = s.data.reorderBuf.consecOldsnAmpduGp2)
    (prev : s.data.reorderBuf.consecOldsnPrevDrop = true) :
    iwlMvmOldsnWorkaround s.data skb = (s.data, []) := by
  rw [iwlMvmOldsnWorkaround, prev, gp2, beq_self_eq_true]
  rfl

theorem workaround_of_uncounted
    (uncounted : ¬ (skb.deviceTimestamp = s.data.reorderBuf.consecOldsnAmpduGp2 ∧
      s.data.reorderBuf.consecOldsnPrevDrop = true)) :
    (skb.deviceTimestamp == s.data.reorderBuf.consecOldsnAmpduGp2 &&
      s.data.reorderBuf.consecOldsnPrevDrop) = false := by
  rw [Bool.and_eq_false_iff, beq_eq_false_iff_ne, ← Bool.not_eq_true]
  exact not_and_or.mp uncounted

/-- A frame that is not old moves the time stamp on and leaves the count, for all that it is
worth: without a bad A-MPDU before, the count is zero anyway. -/
theorem stepFields_of_fresh
    (uncounted : ¬ (skb.deviceTimestamp = s.data.reorderBuf.consecOldsnAmpduGp2 ∧
      s.data.reorderBuf.consecOldsnPrevDrop = true)) (fresh : skb.baOldSn = false) :
    s.stops skb = false ∧
      (s.step skb).data.reorderBuf.consecOldsnDrops =
        oldsnDrops s.data.reorderBuf skb.deviceTimestamp ∧
      (s.step skb).data.reorderBuf.consecOldsnPrevDrop =
        s.data.reorderBuf.consecOldsnPrevDrop ∧
      (s.step skb).data.reorderBuf.consecOldsnAmpduGp2 = skb.deviceTimestamp := by
  have call := workaround_of_uncounted uncounted
  simp [OldsnRun.stops, OldsnRun.step, iwlMvmOldsnWorkaround, call, fresh]

theorem stepFields_of_old
    (uncounted : ¬ (skb.deviceTimestamp = s.data.reorderBuf.consecOldsnAmpduGp2 ∧
      s.data.reorderBuf.consecOldsnPrevDrop = true)) (old : skb.baOldSn = true)
    (more : oldsnDrops s.data.reorderBuf skb.deviceTimestamp + 1 ≠ iwlMvmAmpduConsecDropsDelba) :
    s.stops skb = false ∧
      (s.step skb).data.reorderBuf.consecOldsnDrops =
        oldsnDrops s.data.reorderBuf skb.deviceTimestamp + 1 ∧
      (s.step skb).data.reorderBuf.consecOldsnPrevDrop = true ∧
      (s.step skb).data.reorderBuf.consecOldsnAmpduGp2 = skb.deviceTimestamp := by
  have call := workaround_of_uncounted uncounted
  simp [OldsnRun.stops, OldsnRun.step, iwlMvmOldsnWorkaround, call, old, more]

theorem stepFields_of_last
    (uncounted : ¬ (skb.deviceTimestamp = s.data.reorderBuf.consecOldsnAmpduGp2 ∧
      s.data.reorderBuf.consecOldsnPrevDrop = true)) (old : skb.baOldSn = true)
    (last : oldsnDrops s.data.reorderBuf skb.deviceTimestamp + 1 = iwlMvmAmpduConsecDropsDelba) :
    s.stops skb = true ∧ (s.step skb).data.reorderBuf.consecOldsnDrops = 0 ∧
      (s.step skb).data.reorderBuf.consecOldsnPrevDrop = false := by
  have call := workaround_of_uncounted uncounted
  simp [OldsnRun.stops, OldsnRun.step, iwlMvmOldsnWorkaround, call, old, last]

theorem stepAmpdus_of_not_stops (goesOn : s.stops skb = false) :
    (s.step skb).ampdus = addFrame s.ampdus skb := by
  rw [OldsnRun.step, goesOn]
  rfl

theorem addFrame_of_new (new : gp2Of (newest :: older) ≠ some skb.deviceTimestamp) :
    addFrame (newest :: older) skb = [skb] :: newest :: older := if_neg new

/-- With one more frame every A-MPDU that was bad still is. -/
theorem exists_bad_addFrame (bad : ∃ ampdu ∈ ampdus, Bad ampdu) :
    ∃ ampdu ∈ addFrame ampdus skb, Bad ampdu := by
  obtain ⟨ampdu, listed, isBad⟩ := bad
  cases ampdus with
  | nil => cases listed
  | cons newest older =>
      rw [addFrame]
      split
      · rcases List.mem_cons.mp listed with rfl | further
        · exact ⟨_, .head _, isBad.cons skb⟩
        · exact ⟨ampdu, .tail _ further, isBad⟩
      · exact ⟨ampdu, .tail _ listed, isBad⟩

theorem addFrame_old {ampdus : List (List RxMpdu)} (old : skb.baOldSn = true) :
    ∃ newest older, addFrame ampdus skb = newest :: older ∧ Bad newest := by
  cases ampdus with
  | nil => exact ⟨_, _, rfl, bad_of_old old _⟩
  | cons newest older =>
      rw [addFrame]
      split
      · exact ⟨_, _, rfl, bad_of_old old _⟩
      · exact ⟨_, _, rfl, bad_of_old old _⟩

theorem addFrame_fresh (fresh : skb.baOldSn = false) (clean : ∀ ampdu ∈ ampdus, ¬ Bad ampdu) :
    ∀ ampdu ∈ addFrame ampdus skb, ¬ Bad ampdu := by
  have alone : ¬ Bad [skb] := by
    rw [bad_cons_iff fresh]
    rintro ⟨old, listed, -⟩
    cases listed
  cases ampdus with
  | nil => exact List.forall_mem_singleton.mpr alone
  | cons newest older =>
      rw [addFrame]
      split
      · rw [List.forall_mem_cons] at clean ⊢
        exact ⟨fun bad => clean.1 ((bad_cons_iff fresh).mp bad), clean.2⟩
      · exact List.forall_mem_cons.mpr ⟨alone, clean⟩

/-- A frame of the newest A-MPDU does not make the stretch shorter. -/
theorem stretch_addFrame_same (same : gp2Of ampdus = some skb.deviceTimestamp) :
    stretch ampdus ≤ stretch (addFrame ampdus skb) := by
  cases ampdus with
  | nil => exact Nat.zero_le _
  | cons newest older =>
      rw [addFrame, if_pos same, stretch, stretch]
      by_cases bad : Bad newest
      · rw [if_pos bad, if_pos (bad.cons skb)]
      · rw [if_neg bad]
        omega

/-- A frame of a new A-MPDU behind a bad one. -/
theorem stretch_addFrame_new (new : gp2Of (newest :: older) ≠ some skb.deviceTimestamp)
    (bad : Bad newest) :
    stretch (addFrame (newest :: older) skb) =
      (if skb.baOldSn then 1 else 0) + stretch (newest :: older) := by
  have first : Bad [skb] ↔ skb.baOldSn = true := by
    refine ⟨?_, fun old => bad_of_old old []⟩
    rintro ⟨old, listed, drop⟩
    rw [List.mem_singleton] at listed
    exact listed ▸ drop
  rw [addFrame_of_new new, stretch, stretch, if_pos bad, List.takeWhile_cons, decide_eq_true bad,
    if_pos rfl, List.length_cons]
  by_cases old : skb.baOldSn = true
  · rw [if_pos (first.mpr old), if_pos old]
    omega
  · rw [if_neg fun isBad => old (first.mp isBad), if_neg old]
    omega

variable (counting : Counting s) (noGap : NoGap s skb)
  (uncounted : ¬ (skb.deviceTimestamp = s.data.reorderBuf.consecOldsnAmpduGp2 ∧
    s.data.reorderBuf.consecOldsnPrevDrop = true))
include counting noGap uncounted

/-- The count that the call goes on from is covered by the stretch that the frame leaves. -/
theorem oldsnDrops_le :
    oldsnDrops s.data.reorderBuf skb.deviceTimestamp + (if skb.baOldSn then 1 else 0) ≤
      stretch (addFrame s.ampdus skb) := by
  cases prev : s.data.reorderBuf.consecOldsnPrevDrop with
  | false =>
      have zero : oldsnDrops s.data.reorderBuf skb.deviceTimestamp = 0 := by
        rw [oldsnDrops, (counting.none prev).1, ite_self]
      rw [zero]
      by_cases old : skb.baOldSn = true
      · obtain ⟨newest, older, added, bad⟩ := @addFrame_old skb s.ampdus old
        rw [added, stretch, if_pos bad, if_pos old]
        omega
      · rw [if_neg old]
        exact Nat.zero_le _
  | true =>
      obtain ⟨covered, bad, gp2⟩ := counting.some prev
      have new : gp2Of s.ampdus ≠ some skb.deviceTimestamp := by
        rw [gp2]
        exact fun same => uncounted ⟨(Option.some.inj same).symm, prev⟩
      obtain ⟨newest, older, ampdus⟩ :=
        List.exists_cons_of_ne_nil (List.ne_nil_of_mem bad.choose_spec.1)
      have newestBad : Bad newest := noGap new bad newest (by rw [ampdus]; rfl)
      have kept : oldsnDrops s.data.reorderBuf skb.deviceTimestamp =
          s.data.reorderBuf.consecOldsnDrops := by
        rw [oldsnDrops, prev, Bool.not_true, Bool.and_false, if_neg Bool.false_ne_true]
      rw [ampdus] at new covered ⊢
      rw [stretch_addFrame_new new newestBad, kept]
      omega

end Frame

/-! ## A run -/

theorem step_counting {s : OldsnRun} {skb : RxMpdu} (counting : Counting s) (noGap : NoGap s skb) :
    Counting (s.step skb) ∧ StopsAfterTen s skb := by
  by_cases counted : skb.deviceTimestamp = s.data.reorderBuf.consecOldsnAmpduGp2 ∧
      s.data.reorderBuf.consecOldsnPrevDrop = true
  · have call := workaround_of_counted counted.1 counted.2
    have goesOn : s.stops skb = false := by
      rw [OldsnRun.stops, call]
      rfl
    have data : (s.step skb).data = s.data := by
      rw [OldsnRun.step, call]
    obtain ⟨covered, bad, gp2⟩ := counting.some counted.2
    refine ⟨⟨fun prev => ?_, fun prev => ?_⟩, fun stops => absurd (goesOn ▸ stops) nofun⟩
    · rw [data, counted.2] at prev
      cases prev
    · rw [data, stepAmpdus_of_not_stops goesOn]
      refine ⟨Nat.le_trans covered (stretch_addFrame_same ?_), exists_bad_addFrame bad, ?_⟩
      · rw [gp2, counted.1]
      · rw [gp2Of_addFrame, counted.1]
  have covered := oldsnDrops_le counting noGap counted
  cases old : skb.baOldSn with
  | false =>
      obtain ⟨goesOn, drops, prevDrop, ampduGp2⟩ := stepFields_of_fresh counted old
      rw [old, if_neg Bool.false_ne_true] at covered
      refine ⟨⟨fun prev => ?_, fun prev => ?_⟩, fun stops => absurd (goesOn ▸ stops) nofun⟩
      · rw [prevDrop] at prev
        rw [stepAmpdus_of_not_stops goesOn, drops, oldsnDrops, (counting.none prev).1, ite_self]
        exact ⟨rfl, addFrame_fresh old (counting.none prev).2⟩
      · rw [prevDrop] at prev
        rw [stepAmpdus_of_not_stops goesOn, drops, ampduGp2]
        exact ⟨covered, exists_bad_addFrame (counting.some prev).2.1, gp2Of_addFrame _ _⟩
  | true =>
      rw [old, if_pos rfl] at covered
      obtain ⟨newest, older, added, bad⟩ := @addFrame_old skb s.ampdus old
      by_cases last : oldsnDrops s.data.reorderBuf skb.deviceTimestamp + 1 =
          iwlMvmAmpduConsecDropsDelba
      · obtain ⟨stops, drops, prevDrop⟩ := stepFields_of_last counted old last
        have ampdus : (s.step skb).ampdus = [] := by
          rw [OldsnRun.step, stops]
          rfl
        refine ⟨⟨fun _ => ?_, fun prev => ?_⟩, fun _ => ?_⟩
        · rw [ampdus]
          exact ⟨drops, nofun⟩
        · rw [prevDrop] at prev
          cases prev
        · rw [added] at covered ⊢
          exact bad_of_stretch bad (last ▸ covered)
      · obtain ⟨goesOn, drops, prevDrop, ampduGp2⟩ := stepFields_of_old counted old last
        refine ⟨⟨fun prev => ?_, fun _ => ?_⟩, fun stops => absurd (goesOn ▸ stops) nofun⟩
        · rw [prevDrop] at prev
          cases prev
        · rw [stepAmpdus_of_not_stops goesOn, drops, ampduGp2]
          refine ⟨covered, ⟨newest, ?_, bad⟩, gp2Of_addFrame _ _⟩
          rw [added]
          exact .head _

theorem counting_init (staId tid baid ssn bufSize : Nat) :
    Counting (.init (iwlMvmInitReorderBuffer staId tid baid ssn bufSize)) where
  none _ := ⟨rfl, nofun⟩
  some := nofun

/-- As long as no A-MPDU without an old SN follows one with an old SN, the session is stopped
only after ten bad A-MPDUs in a row. -/
theorem stopsAfterTen_of_noGap (staId tid baid ssn bufSize : Nat) {frames : List RxMpdu}
    (run : Admissible OldsnRun.step NoGap
      (.init (iwlMvmInitReorderBuffer staId tid baid ssn bufSize)) frames) :
    Admissible OldsnRun.step StopsAfterTen
      (.init (iwlMvmInitReorderBuffer staId tid baid ssn bufSize)) frames :=
  run.imp_of_invariant (fun _ _ counting noGap => (step_counting counting noGap).1)
    (fun _ _ counting noGap => (step_counting counting noGap).2)
    (counting_init staId tid baid ssn bufSize)

/-- A frame of the A-MPDU with a time stamp. -/
def frameAt (gp2 : Nat) (old : Bool) : RxMpdu :=
  { RxMpdu.qosData 0 0 0 0 with
    deviceTimestamp := gp2, reorderData := if old then 0x80000000 else 0 }

/-- Ten bad A-MPDUs in a row, the first one of two frames. -/
def tenBad : List RxMpdu :=
  frameAt 1 false :: (List.range 10).map fun i => frameAt (i + 1) true

theorem stopsAfterTen_of_noGap_tenBad :
    Admissible OldsnRun.step StopsAfterTen (.init (iwlMvmInitReorderBuffer 0 0 0 0 64)) tenBad := by
  have run : Admissible OldsnRun.step NoGap (.init (iwlMvmInitReorderBuffer 0 0 0 0 64)) tenBad := by
    decide +kernel
  exact stopsAfterTen_of_noGap 0 0 0 0 64 run

/-- Bad A-MPDUs and others in turn. -/
def everySecond : List RxMpdu :=
  (List.range 19).map fun i => frameAt (i + 1) (i % 2 == 0)

/-- The tenth bad A-MPDU stops the session, although every second A-MPDU was free of old SNs. -/
theorem not_stopsAfterTen :
    ¬ Admissible OldsnRun.step StopsAfterTen (.init (iwlMvmInitReorderBuffer 0 0 0 0 64))
      everySecond := by decide +kernel

end Iwlwifi.Oldsn
