import Mathlib.Data.Finset.Card
import Iwlwifi.Lib.Run
import Iwlwifi.Mac80211.Chanswitch

/-!
# Who keeps a queue silent

The stops of a queue for the reason `csa` are to be the interfaces that use the queue and keep it
silent for a switch (`Counted`).  A step breaks this exactly when it wakes the queues of an
interface that did not stop them, while another interface keeps one of them silent.
-/

namespace Iwlwifi.Chanswitch

open Lib

variable {ι : Type*} {s : Local ι} {hw : Hw ι} {i j : ι} {queue : Nat}

/-! ## Stopping and waking -/

theorem stops_foldl {reason : StopReason} (op : Local ι → Nat → Local ι) (g : Stop → Stop)
    (queues : List Nat) (nodup : queues.Nodup)
    (here : ∀ s, ∀ q ∈ queues, op s q = s.onStop q reason g) (q : Nat) (r : StopReason) :
    (queues.foldl op s).stops q r =
      if q ∈ queues ∧ r = reason then g (s.stops q r) else s.stops q r := by
  induction queues generalizing s with
  | nil => simp
  | cons first rest ih =>
    obtain ⟨fresh, nodup⟩ := List.nodup_cons.mp nodup
    rw [List.foldl_cons, here s first List.mem_cons_self,
      ih nodup fun s q inside => here s q (List.mem_cons_of_mem first inside)]
    by_cases same : q = first
    · subst same
      by_cases reasonSame : r = reason
      · subst reasonSame
        simp [fresh, Local.onStop]
      · simp [fresh, reasonSame, Local.onStop]
    · have away : (s.onStop first reason g).stops q = s.stops q :=
        Function.update_of_ne same _ s.stops
      simp [same, away]

theorem sdata_foldl {reason : StopReason} (op : Local ι → Nat → Local ι) (g : Stop → Stop)
    (queues : List Nat) (here : ∀ s, ∀ q ∈ queues, op s q = s.onStop q reason g) :
    (queues.foldl op s).sdata = s.sdata := by
  induction queues generalizing s with
  | nil => rfl
  | cons first rest ih =>
    rw [List.foldl_cons, here s first List.mem_cons_self]
    exact ih fun s q inside => here s q (List.mem_cons_of_mem first inside)

theorem mem_setBits {queues : Nat → Bool} :
    queue ∈ Local.setBits hw queues ↔ queue < hw.queues ∧ queues queue = true := by
  simp [Local.setBits]

theorem nodup_setBits {queues : Nat → Bool} : (Local.setBits hw queues).Nodup :=
  List.nodup_range.filter queues

section Reasons

variable (queues : Nat → Bool) (reason : StopReason) (refcounted : Bool)

theorem stopQueue_of_mem (s : Local ι) (q : Nat) (inside : q ∈ Local.setBits hw queues) :
    s.stopQueue hw q reason refcounted = s.onStop q reason (Stop.stop refcounted) :=
  if_neg (Nat.not_le.mpr (mem_setBits.mp inside).1)

theorem wakeQueue_of_mem (s : Local ι) (q : Nat) (inside : q ∈ Local.setBits hw queues) :
    s.wakeQueue hw q reason refcounted = s.onStop q reason (Stop.wake refcounted) :=
  if_neg (Nat.not_le.mpr (mem_setBits.mp inside).1)

theorem stops_stopQueuesByReason (q : Nat) (r : StopReason) :
    (s.stopQueuesByReason hw queues reason refcounted).stops q r =
      if q ∈ Local.setBits hw queues ∧ r = reason then (s.stops q r).stop refcounted
      else s.stops q r :=
  stops_foldl _ _ _ nodup_setBits (stopQueue_of_mem queues reason refcounted) q r

theorem stops_wakeQueuesByReason (q : Nat) (r : StopReason) :
    (s.wakeQueuesByReason hw queues reason refcounted).stops q r =
      if q ∈ Local.setBits hw queues ∧ r = reason then (s.stops q r).wake refcounted
      else s.stops q r :=
  stops_foldl _ _ _ nodup_setBits (wakeQueue_of_mem queues reason refcounted) q r

@[simp] theorem sdata_stopQueuesByReason :
    (s.stopQueuesByReason hw queues reason refcounted).sdata = s.sdata :=
  sdata_foldl _ _ _ (stopQueue_of_mem queues reason refcounted)

@[simp] theorem sdata_wakeQueuesByReason :
    (s.wakeQueuesByReason hw queues reason refcounted).sdata = s.sdata :=
  sdata_foldl _ _ _ (wakeQueue_of_mem queues reason refcounted)

end Reasons

/-- Flushing stops and wakes for a reason of its own. -/
theorem stops_flushQueues (q : Nat) : (s.flushQueues hw i).stops q .csa = s.stops q .csa := by
  unfold Local.flushQueues
  split
  · rw [stops_wakeQueuesByReason, if_neg (by simp), stops_stopQueuesByReason, if_neg (by simp)]
  · rfl

theorem sdata_flushQueues : (s.flushQueues hw i).sdata = s.sdata := by
  unfold Local.flushQueues
  split
  · rw [sdata_wakeQueuesByReason, sdata_stopQueuesByReason]
  · rfl

variable [DecidableEq ι]

theorem stops_onSdata (change : Sdata → Sdata) : (s.onSdata i change).stops = s.stops := rfl

@[simp] theorem sdata_onSdata_self (change : Sdata → Sdata) :
    (s.onSdata i change).sdata i = change (s.sdata i) :=
  Function.update_self i _ s.sdata

@[simp] theorem sdata_onSdata_of_ne (change : Sdata → Sdata) (differ : j ≠ i) :
    (s.onSdata i change).sdata j = s.sdata j :=
  Function.update_of_ne differ _ s.sdata

/-! ## What a step does to the flags and the counts -/

/-- The end of a switch: the queues are woken if sending was blocked, and the flags are reset. -/
structure Unblocks (hw : Hw ι) (i : ι) (s after : Local ι) : Prop where
  stops : ∀ q, after.stops q .csa =
    if (s.sdata i).csaBlockTx ∧ q ∈ Local.setBits hw (Local.getVifQueues hw i) then
      (s.stops q .csa).wake true
    else s.stops q .csa
  blockTx : (after.sdata i).csaBlockTx = false
  silenced : (s.sdata i).csaBlockTx = true → (after.sdata i).silenced = false
  unsilenced : (s.sdata i).csaBlockTx = false →
    (after.sdata i).silenced = (s.sdata i).silenced
  others : ∀ j, j ≠ i → after.sdata j = s.sdata j

theorem unblocks_unblockTx (s : Local ι) (hw : Hw ι) (i : ι) :
    Unblocks hw i s (s.unblockTx hw i) := by
  unfold Local.unblockTx Local.wakeVifQueues
  split
  · rename_i blocked
    refine ⟨fun q => ?_, ?_, ?_, ?_, fun j differ => ?_⟩
    · simp [stops_onSdata, stops_wakeQueuesByReason, blocked]
    · simp
    · simp
    · simp [blocked]
    · simp [differ]
  · rename_i free
    refine ⟨fun q => ?_, ?_, fun blocked => absurd blocked free, fun _ => rfl, fun _ _ => rfl⟩
    · rw [if_neg fun both => free both.1]
    · exact Bool.eq_false_of_not_eq_true free

/-- Changes of an interface that leave what it blocks alone do not matter. -/
theorem Unblocks.onSdata {after : Local ι} (unblocks : Unblocks hw i s after)
    (change : Sdata → Sdata)
    (same : ∀ sdata, (change sdata).csaBlockTx = sdata.csaBlockTx ∧
      (change sdata).silenced = sdata.silenced) :
    Unblocks hw i s (after.onSdata i change) := by
  refine ⟨unblocks.stops, ?_, fun blocked => ?_, fun free => ?_, fun j differ => ?_⟩
  · rw [sdata_onSdata_self, (same _).1, unblocks.blockTx]
  · rw [sdata_onSdata_self, (same _).2, unblocks.silenced blocked]
  · rw [sdata_onSdata_self, (same _).2, unblocks.unsilenced free]
  · rw [sdata_onSdata_of_ne _ differ, unblocks.others j differ]

omit [DecidableEq ι] in
/-- What came before may have changed nothing that the end of a switch reads. -/
theorem Unblocks.of_same {before after : Local ι} (unblocks : Unblocks hw i before after)
    (stops : ∀ q, before.stops q .csa = s.stops q .csa)
    (blockTx : (before.sdata i).csaBlockTx = (s.sdata i).csaBlockTx)
    (silenced : (before.sdata i).silenced = (s.sdata i).silenced)
    (others : ∀ j, j ≠ i → before.sdata j = s.sdata j) : Unblocks hw i s after := by
  refine ⟨fun q => ?_, unblocks.blockTx, fun blocked => ?_, fun free => ?_, fun j differ => ?_⟩
  · rw [unblocks.stops, blockTx, stops]
  · exact unblocks.silenced (blockTx.trans blocked)
  · rw [unblocks.unsilenced (blockTx.trans free), silenced]
  · rw [unblocks.others j differ, others j differ]

theorem unblocks_chswitchPostBeacon (s : Local ι) (hw : Hw ι) (i : ι) :
    Unblocks hw i s (s.chswitchPostBeacon hw i) :=
  (unblocks_unblockTx s hw i).onSdata _ fun _ => ⟨rfl, rfl⟩

theorem unblocks_staAbortChanswitch (s : Local ι) (i : ι)
    (op : hw.abortChannelSwitchOp = true) : Unblocks hw i s (s.staAbortChanswitch hw i) := by
  unfold Local.staAbortChanswitch
  rw [if_neg (by simp [op])]
  exact (unblocks_unblockTx s hw i).onSdata _ fun _ => ⟨rfl, rfl⟩

/-- The second wake of a disconnection finds nothing blocked. -/
theorem unblocks_disconnect (s : Local ι) (hw : Hw ι) (i : ι)
    (associated : (s.sdata i).associated = true) : Unblocks hw i s (s.disconnect hw i) := by
  have flushed : ∀ tx, Unblocks hw i s (s.setDisassoc hw i tx) := by
    intro tx
    unfold Local.setDisassoc
    refine (unblocks_unblockTx _ hw i).of_same (fun q => ?_) ?_ ?_ fun j differ => ?_
    all_goals cases tx
    all_goals simp [stops_onSdata, stops_flushQueues, sdata_flushQueues, *]
  unfold Local.disconnect
  rw [if_neg (by simp [associated])]
  simp only
  have first := (flushed (!(s.sdata i).csaBlockTx)).onSdata
    (fun sdata => { sdata with csaActive := false, csaWaitingBcn := false }) fun _ => ⟨rfl, rfl⟩
  rw [Local.unblockTx, if_neg (by rw [first.blockTx]; decide)]
  exact first

/-! ## Counts -/

variable [Fintype ι]

/-- The interfaces that use a queue and keep it silent. -/
def silencers (hw : Hw ι) (s : Local ι) (queue : Nat) : Finset ι :=
  Finset.univ.filter fun i => Local.getVifQueues hw i queue && (s.sdata i).silenced

/-- The stops of a queue are those of the interfaces that keep it silent, and each of these finds
its queues stopped. -/
structure Silent (hw : Hw ι) (s : Local ι) : Prop where
  counted : ∀ q < hw.queues, (s.stops q .csa).count = (silencers hw s q).card
  kept : ∀ i, (s.sdata i).silenced = true → ∀ q < hw.queues,
    Local.getVifQueues hw i q = true → (s.stops q .csa).bit = true

/-- What holds in every run, whether the queues are counted right or not. -/
structure Inv (s : Local ι) : Prop where
  stops : ∀ q, 0 ≤ (s.stops q .csa).count ∧
    ((s.stops q .csa).bit = true ↔ (s.stops q .csa).count ≠ 0)
  flags : ∀ i, (s.sdata i).silenced = true →
    (s.sdata i).csaBlockTx = true ∧ (s.sdata i).csaActive = true

omit [DecidableEq ι] in
theorem mem_silencers : i ∈ silencers hw s queue ↔
    Local.getVifQueues hw i queue = true ∧ (s.sdata i).silenced = true := by
  simp [silencers]

omit [Fintype ι] [DecidableEq ι] in
theorem Inv.wake (held : Inv s) (q : Nat) :
    (s.stops q .csa).wake true =
      ⟨(s.stops q .csa).count - if (s.stops q .csa).count = 0 then 0 else 1,
        decide (1 < (s.stops q .csa).count)⟩ := by
  obtain ⟨least, bit⟩ := held.stops q
  unfold Stop.wake
  by_cases idle : (s.stops q .csa).count = 0
  · have off : (s.stops q .csa).bit = false := by simpa [idle] using bit
    rw [if_pos off]
    rcases stop : s.stops q .csa with ⟨count, on⟩
    simp_all
  · have on : (s.stops q .csa).bit = true := bit.mpr idle
    rw [if_neg (by simp [on])]
    have stay : ¬ (s.stops q .csa).count - 1 < 0 := by omega
    simp only [if_true, if_neg stay, if_neg idle, on]
    congr 1
    by_cases last : (s.stops q .csa).count - 1 = 0
    · rw [if_pos last]
      exact (decide_eq_false (by omega)).symm
    · rw [if_neg last]
      exact (decide_eq_true (by omega)).symm

omit [DecidableEq ι] in
/-- The silent interfaces are all counted, so the queues of each are stopped. -/
theorem silent_iff (held : Inv s) :
    Silent hw s ↔ ∀ q < hw.queues, (s.stops q .csa).count = (silencers hw s q).card := by
  refine ⟨Silent.counted, fun counted => ⟨counted, fun i silenced q inside uses => ?_⟩⟩
  rw [(held.stops q).2, counted q inside]
  have positive := Finset.card_pos.mpr ⟨i, mem_silencers.mpr ⟨uses, silenced⟩⟩
  omega

omit [Fintype ι] in
theorem inv_unblocks {after : Local ι} (held : Inv s) (unblocks : Unblocks hw i s after) :
    Inv after := by
  refine ⟨fun q => ?_, fun j silenced => ?_⟩
  · rw [unblocks.stops]
    split
    · rw [held.wake]
      have least := (held.stops q).1
      refine ⟨?_, ?_⟩
      · simp only
        split <;> omega
      · simp only [decide_eq_true_eq]
        split <;> omega
    · exact held.stops q
  · by_cases here : j = i
    · subst here
      cases blocked : (s.sdata j).csaBlockTx with
      | true => exact absurd silenced (by simp [unblocks.silenced blocked])
      | false =>
        rw [unblocks.unsilenced blocked] at silenced
        exact absurd (held.flags j silenced).1 (by simp [blocked])
    · rw [unblocks.others j here] at silenced ⊢
      exact held.flags j silenced

theorem silencers_unblocks {after : Local ι} (unblocks : Unblocks hw i s after) (q : Nat) :
    silencers hw after q =
      if (s.sdata i).csaBlockTx then (silencers hw s q).erase i else silencers hw s q := by
  ext j
  by_cases here : j = i
  · subst here
    cases blocked : (s.sdata j).csaBlockTx with
    | true => simp [mem_silencers, unblocks.silenced blocked]
    | false => simp [mem_silencers, unblocks.unsilenced blocked]
  · rw [mem_silencers, unblocks.others j here]
    split <;> simp [mem_silencers, here]

/-- Waking the queues of an interface is right if it is one of those that keep them silent, and
otherwise only where nobody does. -/
theorem silent_unblocks_iff {after : Local ι} (held : Inv s) (silent : Silent hw s)
    (unblocks : Unblocks hw i s after) :
    Silent hw after ↔ ((s.sdata i).csaBlockTx = true → (s.sdata i).silenced = true ∨
      ∀ q < hw.queues, Local.getVifQueues hw i q = true → (s.stops q .csa).count = 0) := by
  rw [silent_iff (inv_unblocks held unblocks)]
  cases blocked : (s.sdata i).csaBlockTx with
  | false =>
    refine ⟨fun _ => nofun, fun _ q inside => ?_⟩
    rw [unblocks.stops, if_neg (by simp [blocked]), silencers_unblocks unblocks,
      if_neg (by simp [blocked])]
    exact silent.counted q inside
  | true =>
    have count : ∀ q < hw.queues, ((after.stops q .csa).count = (silencers hw after q).card ↔
        (Local.getVifQueues hw i q = true → (s.sdata i).silenced = true ∨
          (s.stops q .csa).count = 0)) := by
      intro q inside
      have counted := silent.counted q inside
      rw [unblocks.stops, silencers_unblocks unblocks, if_pos blocked]
      by_cases uses : Local.getVifQueues hw i q = true
      · rw [if_pos ⟨blocked, mem_setBits.mpr ⟨inside, uses⟩⟩, held.wake]
        simp only
        by_cases own : (s.sdata i).silenced = true
        · have member : i ∈ silencers hw s q := mem_silencers.mpr ⟨uses, own⟩
          have positive := Finset.card_pos.mpr ⟨i, member⟩
          rw [Finset.card_erase_of_mem member]
          refine ⟨fun _ _ => .inl own, fun _ => ?_⟩
          rw [if_neg (by omega)]
          omega
        · have stray : i ∉ silencers hw s q := fun member => own (mem_silencers.mp member).2
          rw [Finset.erase_eq_of_notMem stray, ← counted]
          refine ⟨fun same _ => .inr ?_, fun idle => ?_⟩
          · by_contra busy
            rw [if_neg busy] at same
            omega
          · rcases idle uses with silenced | idle
            · exact absurd silenced own
            · rw [if_pos idle, Int.sub_zero]
      · have away : i ∉ silencers hw s q := fun member => uses (mem_silencers.mp member).1
        rw [if_neg fun both => uses (mem_setBits.mp both.2).2, Finset.erase_eq_of_notMem away]
        exact ⟨fun _ used => absurd used uses, fun _ => counted⟩
    constructor
    · intro all _
      by_cases own : (s.sdata i).silenced = true
      · exact .inl own
      · refine .inr fun q inside uses => ?_
        exact (((count q inside).mp (all q inside)) uses).resolve_left own
    · intro matched q inside
      refine (count q inside).mpr fun uses => ?_
      rcases matched rfl with own | idle
      · exact .inl own
      · exact .inr (idle q inside uses)

/-! ## Steps -/

def Event.iface : Event ι → ι
  | .associate i _ | .staProcessChanswitch i _ | .moved i | .staAbortChanswitch i
  | .chswitchPostBeacon i | .disconnect i => i

/-- The step ends the switch of its interface, whether the queues were stopped for it or not. -/
def Ends (hw : Hw ι) (s : Local ι) : Event ι → Prop
  | .associate .. | .moved _ => False
  | .staProcessChanswitch i rx =>
    hw.abortChannelSwitchOp = true ∧ (s.sdata i).associated = true ∧ rx.scanning = false ∧
      0 < rx.res ∧ rx.beacon = true ∧ (s.sdata i).csaActive = true ∧
      (s.sdata i).csaWaitingBcn = false
  | .staAbortChanswitch _ => hw.abortChannelSwitchOp = true
  | .chswitchPostBeacon _ => True
  | .disconnect i => (s.sdata i).associated = true

/-- A step that ends the switch of an interface that blocks sending without having stopped its
queues finds none of these stopped by another interface. -/
def Matched (hw : Hw ι) (s : Local ι) (event : Event ι) : Prop :=
  Ends hw s event → (s.sdata event.iface).csaBlockTx = true →
    (s.sdata event.iface).silenced = true ∨ ∀ q < hw.queues,
      Local.getVifQueues hw event.iface q = true → (s.stops q .csa).count = 0

omit [Fintype ι] in
theorem unblocks_of_ends {event : Event ι} (ends : Ends hw s event) :
    Unblocks hw event.iface s (s.step hw event) := by
  cases event with
  | associate i chandef => exact ends.elim
  | moved i => exact ends.elim
  | staAbortChanswitch i => exact unblocks_staAbortChanswitch s i ends
  | chswitchPostBeacon i => exact unblocks_chswitchPostBeacon s hw i
  | disconnect i => exact unblocks_disconnect s hw i ends
  | staProcessChanswitch i rx =>
    obtain ⟨op, associated, idle, found, beacon, active, going⟩ := ends
    have aborts : s.step hw (.staProcessChanswitch i rx) = s.staAbortChanswitch hw i := by
      simp only [Local.step, Local.staProcessChanswitch]
      rw [if_neg (by simp [associated]), if_neg (by simp [idle]), if_neg (by omega),
        if_pos (by simp [beacon, active, going]), if_pos (by omega)]
    rw [aborts]
    exact unblocks_staAbortChanswitch s i op

theorem keeps_onSdata (held : Inv s) (silent : Silent hw s) (change : Sdata → Sdata)
    (same : (change (s.sdata i)).silenced = (s.sdata i).silenced)
    (flags : (s.sdata i).silenced = true →
      (change (s.sdata i)).csaBlockTx = true ∧ (change (s.sdata i)).csaActive = true) :
    Inv (s.onSdata i change) ∧ Silent hw (s.onSdata i change) := by
  have silenced : ∀ j, ((s.onSdata i change).sdata j).silenced = (s.sdata j).silenced := by
    intro j
    by_cases here : j = i
    · subst here
      rw [sdata_onSdata_self, same]
    · rw [sdata_onSdata_of_ne _ here]
  have inv : Inv (s.onSdata i change) := by
    refine ⟨held.stops, fun j silent => ?_⟩
    rw [silenced] at silent
    by_cases here : j = i
    · subst here
      rw [sdata_onSdata_self]
      exact flags silent
    · rw [sdata_onSdata_of_ne _ here]
      exact held.flags j silent
  refine ⟨inv, (silent_iff inv).mpr fun q inside => ?_⟩
  have users : silencers hw (s.onSdata i change) q = silencers hw s q := by
    ext j
    rw [mem_silencers, mem_silencers, silenced]
  rw [users]
  exact silent.counted q inside

/-- An interface that is not silent yet stops its queues. -/
theorem keeps_stopVifQueues (held : Inv s) (silent : Silent hw s)
    (fresh : (s.sdata i).silenced = false) (blocked : (s.sdata i).csaBlockTx = true)
    (active : (s.sdata i).csaActive = true) :
    Inv (s.stopVifQueues hw i) ∧ Silent hw (s.stopVifQueues hw i) := by
  have stops : ∀ q, (s.stopVifQueues hw i).stops q .csa =
      if q ∈ Local.setBits hw (Local.getVifQueues hw i) then (s.stops q .csa).stop true
      else s.stops q .csa := by
    intro q
    simp [stops_onSdata, Local.stopVifQueues, stops_stopQueuesByReason]
  have own : (s.stopVifQueues hw i).sdata i = { s.sdata i with silenced := true } := by
    simp [Local.stopVifQueues]
  have others : ∀ j, j ≠ i → (s.stopVifQueues hw i).sdata j = s.sdata j := by
    intro j differ
    simp [Local.stopVifQueues, differ]
  have inv : Inv (s.stopVifQueues hw i) := by
    refine ⟨fun q => ?_, fun j silenced => ?_⟩
    · rw [stops]
      split
      · have least := (held.stops q).1
        simp only [Stop.stop, if_true]
        refine ⟨by omega, fun _ => by omega, fun _ => trivial⟩
      · exact held.stops q
    · by_cases here : j = i
      · subst here
        rw [own]
        exact ⟨blocked, active⟩
      · rw [others j here] at silenced ⊢
        exact held.flags j silenced
  refine ⟨inv, (silent_iff inv).mpr fun q inside => ?_⟩
  have counted := silent.counted q inside
  have users : silencers hw (s.stopVifQueues hw i) q =
      if Local.getVifQueues hw i q = true then insert i (silencers hw s q)
      else silencers hw s q := by
    ext j
    by_cases here : j = i
    · subst here
      rw [mem_silencers, own]
      split <;> simp [mem_silencers, *]
    · rw [mem_silencers, others j here]
      split <;> simp [mem_silencers, here]
  rw [stops, users]
  by_cases uses : Local.getVifQueues hw i q = true
  · have new : i ∉ silencers hw s q := fun member =>
      absurd (mem_silencers.mp member).2 (by simp [fresh])
    rw [if_pos (mem_setBits.mpr ⟨inside, uses⟩), if_pos uses, Finset.card_insert_of_notMem new]
    simp only [Stop.stop, if_true, counted]
    omega
  · rw [if_neg fun member => uses (mem_setBits.mp member).2, if_neg uses]
    exact counted

/-- A step that does not end a switch keeps the counts. -/
theorem keeps_of_not_ends (held : Inv s) (silent : Silent hw s) {event : Event ι}
    (goes : ¬ Ends hw s event) :
    Inv (s.step hw event) ∧ Silent hw (s.step hw event) := by
  have unchanged : Inv s ∧ Silent hw s := ⟨held, silent⟩
  cases event with
  | associate i chandef =>
    simp only [Local.step]
    exact keeps_onSdata held silent _ rfl (held.flags i)
  | moved i =>
    simp only [Local.step]
    split
    · exact keeps_onSdata held silent _ rfl (held.flags i)
    · exact unchanged
  | staAbortChanswitch i =>
    have noOp : hw.abortChannelSwitchOp = false := Bool.eq_false_of_not_eq_true goes
    simp only [Local.step, Local.staAbortChanswitch]
    rw [if_pos noOp]
    exact unchanged
  | chswitchPostBeacon i => exact absurd trivial goes
  | disconnect i =>
    have alone : (s.sdata i).associated = false := Bool.eq_false_of_not_eq_true goes
    simp only [Local.step, Local.disconnect]
    rw [if_pos alone]
    exact unchanged
  | staProcessChanswitch i rx =>
    simp only [Local.step, Local.staProcessChanswitch]
    split
    · exact unchanged
    split
    · exact unchanged
    split
    · exact unchanged
    rename_i joined idle parsed
    split
    · rename_i repeated
      split
      · rename_i gone
        have noOp : hw.abortChannelSwitchOp = false := by
          by_contra op
          simp only [Bool.and_eq_true, Bool.not_eq_true'] at repeated
          exact goes ⟨Bool.eq_true_of_not_eq_false op, Bool.eq_true_of_not_eq_false joined,
            Bool.eq_false_of_not_eq_true idle, by omega, repeated.1.1, repeated.1.2, repeated.2⟩
        rw [Local.staAbortChanswitch, if_pos noOp]
        exact unchanged
      · exact unchanged
    split
    · exact unchanged
    rename_i first
    have inactive : (s.sdata i).csaActive = false := by
      simp only [Bool.or_eq_true, not_or] at first
      exact Bool.eq_false_of_not_eq_true first.1
    -- an interface that is not switching keeps no queue silent
    have fresh : (s.sdata i).silenced = false := by
      by_contra silenced
      have active := (held.flags i (Bool.eq_true_of_not_eq_false silenced)).2
      exact absurd active (by simp [inactive])
    have free : ∀ {P : Prop}, (s.sdata i).silenced = true → P := fun silenced =>
      absurd silenced (by simp [fresh])
    split
    · exact unchanged
    split
    · exact keeps_onSdata held silent _ rfl free
    split
    · exact keeps_onSdata held silent _ rfl free
    have started := @keeps_onSdata ι s hw i _ _ held silent
      (fun sdata =>
        { sdata with
          csaActive := true
          csaChandef := rx.chandef
          csaBlockTx := rx.blockTx
          csaIgnoredSameChan := false }) rfl free
    split
    · rename_i blocked
      refine keeps_stopVifQueues started.1 started.2 ?_ ?_ ?_
      · rw [sdata_onSdata_self, fresh]
      · rw [sdata_onSdata_self, blocked]
      · rw [sdata_onSdata_self]
    · exact started

/-- A step keeps the counts right exactly when it is matched. -/
theorem silent_step_iff (held : Inv s) (silent : Silent hw s) (event : Event ι) :
    Inv (s.step hw event) ∧ (Silent hw (s.step hw event) ↔ Matched hw s event) := by
  by_cases ends : Ends hw s event
  · have unblocks := unblocks_of_ends ends
    refine ⟨inv_unblocks held unblocks, (silent_unblocks_iff held silent unblocks).trans ?_⟩
    exact ⟨fun matched _ => matched, fun matched => matched ends⟩
  · obtain ⟨inv, still⟩ := keeps_of_not_ends held silent ends
    exact ⟨inv, fun _ ended => absurd ended ends, fun _ => still⟩

/-! ## Runs -/

/-- No interface is associated and no queue is stopped. -/
def start (chandef : ι → Chandef) : Local ι where
  sdata i := { chandef := chandef i, csaChandef := chandef i }

omit [DecidableEq ι] in
theorem silent_start (chandef : ι → Chandef) :
    Inv (start chandef) ∧ Silent hw (start chandef) := by
  have inv : Inv (start chandef) := ⟨fun _ => ⟨le_rfl, nofun, fun busy => absurd rfl busy⟩, nofun⟩
  refine ⟨inv, (silent_iff inv).mpr fun q _ => ?_⟩
  simp [silencers, start]

/-- In every state of a run the stops of every queue are the interfaces that keep it silent,
exactly when every step of the run is matched. -/
theorem silent_run_iff (hw : Hw ι) (chandef : ι → Chandef) (events : List (Event ι)) :
    (∀ before, before <+: events →
        Silent hw (before.foldl (Local.step hw) (start chandef))) ↔
      Admissible (Local.step hw) (Matched hw) (start chandef) events := by
  refine @forall_reached_iff_of_invariant (Local ι) (Event ι) (Local.step hw) (Matched hw)
    (fun s => Inv s ∧ Silent hw s) (start chandef) events (Silent hw) (fun s held => held.2)
    (fun s event held matched => ?_) (fun s event held reached => ?_) (silent_start chandef)
  · obtain ⟨inv, iff⟩ := silent_step_iff held.1 held.2 event
    exact ⟨inv, iff.mpr matched⟩
  · exact (silent_step_iff held.1 held.2 event).2.mp reached

/-- Two interfaces share a queue.  The first stops it for a switch; the second fails to start
one and disconnects. -/
theorem not_silent_run :
    ¬ ∀ (hw : Hw (Fin 2)) (chandef : Fin 2 → Chandef) (events before : List (Event (Fin 2))),
      before <+: events → Silent hw (before.foldl (Local.step hw) (start chandef)) := by
  intro all
  have silent := all
    { queues := 1, queueControl := true, hwQueue := fun _ => [0], cabQueue := fun _ => none }
    (fun _ => ⟨36, 0, 5180, 0⟩)
    [.associate 0 ⟨36, 0, 5180, 0⟩, .associate 1 ⟨36, 0, 5180, 0⟩,
      .staProcessChanswitch 0 { mode := 1, chandef := ⟨40, 0, 5200, 0⟩ },
      .staProcessChanswitch 1
        { mode := 1, chandef := ⟨40, 0, 5200, 0⟩, reserveChanctxFails := true },
      .disconnect 1] _ (List.prefix_refl _)
  exact absurd (silent.counted 0 (by decide)) (by decide +kernel)

end Iwlwifi.Chanswitch
