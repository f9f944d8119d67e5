import Iwlwifi.Mvm.DqaConsistent

/-!
# Which queue an inactivity check frees

`iwl_mvm_remove_inactive_tids` answers whether all TIDs of a queue are inactive, and
`iwl_mvm_inactivity_check` keeps that answer as the number of the queue to free: it frees queue 1
where the first queue it examined is inactive and queue 0 where it is not.  The queues it goes
over are described first, then what `iwl_mvm_free_inactive_queue` does to any queue, and last
when the two together do what the check is for.
-/

namespace Iwlwifi

open Lib

local instance neZero_hwQueues : NeZero 32 := ⟨by decide⟩
local instance neZero_staIds : NeZero 16 := ⟨by decide⟩
local instance neZero_tids : NeZero 9 := ⟨by decide⟩
local instance neZero_acs : NeZero 4 := ⟨by decide⟩

namespace DqaTables

variable {mvm mvm' : DqaTables} {traffic : DqaTraffic}

/-! ## What the check is for -/

/-- The queue is in use and can be reused: none of its TIDs had a frame for a while, has one
queued or has an aggregation session. -/
def Idle (mvm : DqaTables) (traffic : DqaTraffic) (queue : HwQueue) : Prop :=
  let info := mvm.queueInfo queue
  (info.status = .ready ∨ info.status = .shared) ∧ info.tidBitmap ≠ ∅ ∧
    ∀ tid ∈ info.tidBitmap, traffic.timedOut queue tid = true ∧
      traffic.queued info.raStaId tid = false ∧ traffic.aggState info.raStaId tid = .off

instance : DecidablePred (mvm.Idle traffic) := fun _ =>
  inferInstanceAs (Decidable (_ ∧ _ ∧ _))

/-- The queue carries nothing and is free. -/
def Unused (mvm : DqaTables) (queue : HwQueue) : Prop :=
  (mvm.queueInfo queue).tidBitmap = ∅ ∧ (mvm.queueInfo queue).status = .free

/-- A check made for a station returns an idle queue, which it has freed; and where there is none
it returns none and frees none. -/
structure FreesIdle (mvm : DqaTables) (traffic : DqaTraffic)
    (result : DqaTables × Option HwQueue) : Prop where
  named : ∀ queue, result.2 = some queue → mvm.Idle traffic queue ∧ result.1.Unused queue
  none_idle : (¬∃ queue, mvm.Idle traffic queue) →
    result.2 = none ∧ ∀ queue, result.1.Unused queue → mvm.Unused queue

/-- Freeing the queue is right: nothing is freed as its station is gone, or the queue carries its
owner TID alone and is idle; where the command that disables it fails, no queue is named and it
is enough that some queue is idle. -/
def RightToFree (mvm : DqaTables) (traffic : DqaTraffic) (freed : Bool) (queue : HwQueue) : Prop :=
  mvm.fwIdToMacId (mvm.queueInfo queue).raStaId = none ∨
    (mvm.queueInfo queue).tidBitmap = {(mvm.queueInfo queue).txqTid} ∧
      (freed = true → mvm.Idle traffic queue) ∧
      (freed = false → ∃ idle, mvm.Idle traffic idle)

/-! ## Taking TIDs off one queue -/

/-- Some TIDs of a queue were taken off it, and nothing else changed of any queue. -/
structure TookOff (queue : HwQueue) (tids : List Tid) (scan scan' : InactivityScan) : Prop where
  queueInfo : ∀ other, scan'.mvm.queueInfo other =
    if other = queue then
      { scan.mvm.queueInfo queue with
        tidBitmap := (scan.mvm.queueInfo queue).tidBitmap.filter (· ∉ tids) }
    else scan.mvm.queueInfo other
  present : ∀ staId, (scan'.mvm.fwIdToMacId staId).isNone = (scan.mvm.fwIdToMacId staId).isNone
  changetidQueues : ∀ other, other ≠ queue → other ∈ scan'.changetidQueues →
    other ∈ scan.changetidQueues
  unshareQueues : scan'.unshareQueues = scan.unshareQueues
  freeQueue : scan'.freeQueue = scan.freeQueue
  queueOwner : scan'.queueOwner = scan.queueOwner

theorem tookOff_removeTid (sta : StaId) (queue : HwQueue) (scan : InactivityScan) (tid : Tid) :
    TookOff queue [tid] scan (removeTid sta queue scan tid) where
  queueInfo other := by
    unfold removeTid
    dsimp only
    have erased : (scan.mvm.queueInfo queue).tidBitmap.filter (· ∉ [tid]) =
        (scan.mvm.queueInfo queue).tidBitmap.erase tid := by
      ext kept
      simp only [Finset.mem_filter, List.mem_singleton, Finset.mem_erase, and_comm]
    rw [queueInfo_modifyQueue, erased]
    by_cases same : other = queue
    · rw [if_pos same, if_pos same]
      rfl
    · rw [if_neg same, if_neg same]
      rfl
  present staId := isNone_modifySta _ _ _
  changetidQueues other different marked := by
    unfold removeTid at marked
    dsimp only at marked
    split at marked
    · exact (Finset.mem_insert.mp marked).resolve_left different
    · exact marked
  unshareQueues := rfl
  freeQueue := rfl
  queueOwner := rfl

theorem tookOff_foldl (sta : StaId) (queue : HwQueue) (tids : List Tid) :
    ∀ scan, TookOff queue tids scan (tids.foldl (removeTid sta queue) scan) := by
  induction tids with
  | nil =>
    intro scan
    refine ⟨fun other => ?_, fun _ => rfl, fun _ _ marked => marked, rfl, rfl, rfl⟩
    split
    · next same => simp only [same, List.foldl_nil, List.not_mem_nil, not_false_eq_true,
        Finset.filter_true]
    · rfl
  | cons tid tids ih =>
    intro scan
    have first := tookOff_removeTid sta queue scan tid
    have rest := ih (removeTid sta queue scan tid)
    refine ⟨fun other => ?_, fun staId => (rest.present staId).trans (first.present staId),
      fun other different marked => first.changetidQueues other different
        (rest.changetidQueues other different marked),
      rest.unshareQueues.trans first.unshareQueues, rest.freeQueue.trans first.freeQueue,
      rest.queueOwner.trans first.queueOwner⟩
    rw [List.foldl_cons, rest.queueInfo, first.queueInfo, if_pos rfl]
    by_cases same : other = queue
    · simp only [if_pos same, Finset.filter_filter, List.mem_cons, not_or, List.not_mem_nil,
        or_false]
    · rw [if_neg same, if_neg same, first.queueInfo, if_neg same]

/-- The scan of a queue that is examined and not inactive: some of its TIDs are left on it. -/
structure Thinned (queue : HwQueue) (scan scan' : InactivityScan) : Prop where
  others : ∀ other, other ≠ queue → scan'.mvm.queueInfo other = scan.mvm.queueInfo other
  carries : (scan'.mvm.queueInfo queue).tidBitmap ≠ ∅
  present : ∀ staId, (scan'.mvm.fwIdToMacId staId).isNone = (scan.mvm.fwIdToMacId staId).isNone
  changetidQueues : ∀ other, other ≠ queue → other ∈ scan'.changetidQueues →
    other ∈ scan.changetidQueues
  unshareQueues : ∀ other, other ≠ queue → other ∈ scan'.unshareQueues →
    other ∈ scan.unshareQueues
  freeQueue : scan'.freeQueue = scan.freeQueue
  queueOwner : scan'.queueOwner = scan.queueOwner

theorem removeInactiveTids_thinned (sta : StaId) (queue : HwQueue) {timedOut : Finset Tid}
    {scan : InactivityScan} (carried : timedOut ⊆ (scan.mvm.queueInfo queue).tidBitmap)
    (some_active : inactiveTids traffic sta timedOut ≠ (scan.mvm.queueInfo queue).tidBitmap) :
    ∃ scan', removeInactiveTids traffic sta queue timedOut scan = (scan', false) ∧
      Thinned queue scan scan' := by
  have tookOff := tookOff_foldl sta queue
    ((List.finRange 9).filter (· ∈ inactiveTids traffic sta timedOut)) scan
  unfold removeInactiveTids
  dsimp only
  rw [if_neg some_active]
  generalize List.foldl (removeTid sta queue) scan _ = thinned at tookOff ⊢
  have carries : (thinned.mvm.queueInfo queue).tidBitmap ≠ ∅ := by
    intro empty
    rw [tookOff.queueInfo, if_pos rfl] at empty
    refine some_active (Finset.Subset.antisymm ?_ fun tid member => ?_)
    · exact (Finset.filter_subset _ _).trans carried
    · have gone : tid ∉ _ := Finset.eq_empty_iff_forall_notMem.mp empty tid
      by_contra active
      refine gone (Finset.mem_filter.mpr ⟨member, fun listed => active ?_⟩)
      exact of_decide_eq_true (List.mem_filter.mp listed).2
  have others : ∀ other, other ≠ queue →
      thinned.mvm.queueInfo other = scan.mvm.queueInfo other := by
    intro other different
    rw [tookOff.queueInfo, if_neg different]
  split
  · refine ⟨_, rfl, others, carries, tookOff.present, tookOff.changetidQueues,
      fun other different marked => ?_, tookOff.freeQueue, tookOff.queueOwner⟩
    rw [← tookOff.unshareQueues]
    exact (Finset.mem_insert.mp marked).resolve_left different
  · exact ⟨_, rfl, others, carries, tookOff.present, tookOff.changetidQueues,
      fun other _ marked => tookOff.unshareQueues ▸ marked, tookOff.freeQueue,
      tookOff.queueOwner⟩

/-! ## The scan -/

/-- The scan remembers a queue's answer and its station, unless it remembers one already. -/
def remember (all : Bool) (sta : StaId) (scan : InactivityScan) : InactivityScan :=
  if scan.freeQueue = none then
    { scan with freeQueue := some (if all then 1 else 0), queueOwner := some sta }
  else scan

/-- The queue is examined and some TID of it is active. -/
def Busy (mvm : DqaTables) (traffic : DqaTraffic) (queue : HwQueue) : Prop :=
  mvm.Inspected traffic queue ∧
    mvm.inactiveOn traffic queue ≠ (mvm.queueInfo queue).tidBitmap

variable {scan : InactivityScan} {seen : List HwQueue}

theorem scanQueue_of_passed {queue : HwQueue} (passed : ¬scan.mvm.Inspected traffic queue) :
    scanQueue traffic scan queue = scan := by
  unfold scanQueue
  dsimp only
  split
  · rfl
  · next used =>
      split
      · rfl
      · next timedOut =>
          split
          · rfl
          · next present =>
              refine absurd ⟨?_, timedOut, Bool.eq_false_iff.mpr present⟩ passed
              by_contra neither
              exact used (not_or.mp neither)

theorem scanQueue_of_inspected {queue : HwQueue} (inspected : scan.mvm.Inspected traffic queue) :
    scanQueue traffic scan queue =
      remember
        (removeInactiveTids traffic (scan.mvm.queueInfo queue).raStaId queue
          ((scan.mvm.queueInfo queue).tidBitmap.filter fun tid => traffic.timedOut queue tid)
          scan).2
        (scan.mvm.queueInfo queue).raStaId
        (removeInactiveTids traffic (scan.mvm.queueInfo queue).raStaId queue
          ((scan.mvm.queueInfo queue).tidBitmap.filter fun tid => traffic.timedOut queue tid)
          scan).1 := by
  obtain ⟨used, timedOut, present⟩ := inspected
  unfold scanQueue
  dsimp only
  rw [if_neg fun neither => used.elim neither.1 neither.2, if_neg timedOut, present,
    if_neg Bool.false_ne_true]
  rfl

/-- The scan after the queues of `seen`: those of them that are busy may have changed, and it
remembers the first that it examined. -/
structure ScannedSome (mvm : DqaTables) (traffic : DqaTraffic) (seen : List HwQueue)
    (scan : InactivityScan) : Prop where
  same : ∀ queue, ¬(queue ∈ seen ∧ mvm.Busy traffic queue) →
    scan.mvm.queueInfo queue = mvm.queueInfo queue ∧
      queue ∉ scan.unshareQueues ∧ queue ∉ scan.changetidQueues
  unused : ∀ queue, scan.mvm.Unused queue → mvm.Unused queue
  present : ∀ staId, (scan.mvm.fwIdToMacId staId).isNone = (mvm.fwIdToMacId staId).isNone
  freeQueue : scan.freeQueue = (seen.find? fun queue => mvm.Inspected traffic queue).map
    fun queue =>
      if mvm.inactiveOn traffic queue = (mvm.queueInfo queue).tidBitmap then 1 else 0
  queueOwner : scan.queueOwner = (seen.find? fun queue => mvm.Inspected traffic queue).map
    fun queue => (mvm.queueInfo queue).raStaId

theorem inspected_congr {queue : HwQueue} (info : mvm'.queueInfo queue = mvm.queueInfo queue)
    (present : ∀ staId, (mvm'.fwIdToMacId staId).isNone = (mvm.fwIdToMacId staId).isNone) :
    mvm'.Inspected traffic queue ↔ mvm.Inspected traffic queue := by
  unfold Inspected
  rw [info, present]

theorem ScannedSome.passed (scanned : ScannedSome mvm traffic seen scan) {queue : HwQueue}
    (passed : ¬mvm.Inspected traffic queue) : ScannedSome mvm traffic (seen ++ [queue]) scan where
  same other quiet := by
    refine scanned.same other fun busy => quiet ⟨?_, busy.2⟩
    exact List.mem_append_left _ busy.1
  unused := scanned.unused
  present := scanned.present
  freeQueue := by
    rw [scanned.freeQueue, List.find?_append, List.find?_cons, decide_eq_false passed,
      List.find?_nil, Option.or_none]
  queueOwner := by
    rw [scanned.queueOwner, List.find?_append, List.find?_cons, decide_eq_false passed,
      List.find?_nil, Option.or_none]

/-- What is remembered once one more queue has been examined. -/
theorem ScannedSome.remembered {scan scan' : InactivityScan}
    (scanned : ScannedSome mvm traffic seen scan) {queue : HwQueue}
    (inspected : mvm.Inspected traffic queue) (freeQueue : scan'.freeQueue = scan.freeQueue)
    (queueOwner : scan'.queueOwner = scan.queueOwner) :
    (remember (decide (mvm.inactiveOn traffic queue = (mvm.queueInfo queue).tidBitmap))
        (mvm.queueInfo queue).raStaId scan').freeQueue =
      ((seen ++ [queue]).find? fun queue => mvm.Inspected traffic queue).map (fun queue =>
        if mvm.inactiveOn traffic queue = (mvm.queueInfo queue).tidBitmap then 1 else 0) ∧
    (remember (decide (mvm.inactiveOn traffic queue = (mvm.queueInfo queue).tidBitmap))
        (mvm.queueInfo queue).raStaId scan').queueOwner =
      ((seen ++ [queue]).find? fun queue => mvm.Inspected traffic queue).map fun queue =>
        (mvm.queueInfo queue).raStaId := by
  have recalled := scanned.freeQueue
  have owner := scanned.queueOwner
  rw [List.find?_append, List.find?_cons, decide_eq_true inspected]
  unfold remember
  cases first : seen.find? fun queue => mvm.Inspected traffic queue with
  | some earlier =>
    rw [first, Option.map_some] at recalled owner
    rw [if_neg (by rw [freeQueue, recalled]; exact Option.some_ne_none _), freeQueue, recalled,
      queueOwner, owner]
    exact ⟨rfl, rfl⟩
  | none =>
    rw [first, Option.map_none] at recalled
    rw [if_pos (freeQueue.trans recalled)]
    simp only [decide_eq_true_eq, Option.none_or, Option.map_some, and_self]

theorem remember_frame (all : Bool) (sta : StaId) (scan : InactivityScan) :
    (remember all sta scan).mvm = scan.mvm ∧
      (remember all sta scan).unshareQueues = scan.unshareQueues ∧
      (remember all sta scan).changetidQueues = scan.changetidQueues := by
  unfold remember
  split
  · exact ⟨rfl, rfl, rfl⟩
  · exact ⟨rfl, rfl, rfl⟩

theorem ScannedSome.step (scanned : ScannedSome mvm traffic seen scan) {queue : HwQueue}
    (new : queue ∉ seen) :
    ScannedSome mvm traffic (seen ++ [queue]) (scanQueue traffic scan queue) := by
  obtain ⟨info, -, -⟩ := scanned.same queue fun busy => new busy.1
  have looked : scan.mvm.Inspected traffic queue ↔ mvm.Inspected traffic queue :=
    inspected_congr info scanned.present
  by_cases inspected : mvm.Inspected traffic queue
  · rw [scanQueue_of_inspected (looked.mpr inspected), info]
    have inactive : inactiveTids traffic (mvm.queueInfo queue).raStaId
        ((mvm.queueInfo queue).tidBitmap.filter fun tid => traffic.timedOut queue tid) =
        mvm.inactiveOn traffic queue := rfl
    by_cases all : mvm.inactiveOn traffic queue = (mvm.queueInfo queue).tidBitmap
    · have left : removeInactiveTids traffic (mvm.queueInfo queue).raStaId queue
          ((mvm.queueInfo queue).tidBitmap.filter fun tid => traffic.timedOut queue tid) scan =
          (scan, decide (mvm.inactiveOn traffic queue = (mvm.queueInfo queue).tidBitmap)) := by
        unfold removeInactiveTids
        dsimp only
        rw [inactive, info, if_pos all, decide_eq_true all]
      rw [left]
      obtain ⟨tables, unshare, changetid⟩ := remember_frame
        (decide (mvm.inactiveOn traffic queue = (mvm.queueInfo queue).tidBitmap))
        (mvm.queueInfo queue).raStaId scan
      obtain ⟨freeQueue, queueOwner⟩ := scanned.remembered inspected rfl rfl
      refine ⟨fun other quiet => ?_, ?_, ?_, freeQueue, queueOwner⟩
      · rw [tables, unshare, changetid]
        exact scanned.same other fun busy => quiet ⟨List.mem_append_left _ busy.1, busy.2⟩
      · rw [tables]
        exact scanned.unused
      · rw [tables]
        exact scanned.present
    · obtain ⟨scan', removed, thinned⟩ := @removeInactiveTids_thinned traffic
        (mvm.queueInfo queue).raStaId queue
        ((mvm.queueInfo queue).tidBitmap.filter fun tid => traffic.timedOut queue tid) scan
        (info.symm ▸ Finset.filter_subset _ _) (info.symm ▸ all)
      rw [removed, ← decide_eq_false all]
      obtain ⟨tables, unshare, changetid⟩ := remember_frame
        (decide (mvm.inactiveOn traffic queue = (mvm.queueInfo queue).tidBitmap))
        (mvm.queueInfo queue).raStaId scan'
      obtain ⟨freeQueue, queueOwner⟩ := scanned.remembered inspected thinned.freeQueue
        thinned.queueOwner
      refine ⟨fun other quiet => ?_, fun other unused => ?_, fun staId => ?_, freeQueue,
        queueOwner⟩
      · rw [tables, unshare, changetid]
        have different : other ≠ queue := by
          intro same
          refine quiet ⟨?_, same ▸ ⟨inspected, all⟩⟩
          exact List.mem_append_right _ (same ▸ List.mem_singleton_self queue)
        obtain ⟨same, unmarked, unchanged⟩ := scanned.same other fun busy =>
          quiet ⟨List.mem_append_left _ busy.1, busy.2⟩
        exact ⟨(thinned.others other different).trans same,
          fun marked => unmarked (thinned.unshareQueues other different marked),
          fun marked => unchanged (thinned.changetidQueues other different marked)⟩
      · rw [tables] at unused
        refine scanned.unused other ?_
        by_cases same : other = queue
        · rw [same] at unused
          exact absurd unused.1 thinned.carries
        · rwa [Unused, ← thinned.others other same]
      · rw [tables]
        exact (thinned.present staId).trans (scanned.present staId)
  · rw [scanQueue_of_passed (mt looked.mp inspected)]
    exact scanned.passed inspected

theorem scannedSome_foldl (queues : List HwQueue) (distinct : queues.Nodup) :
    ScannedSome mvm traffic queues
      (queues.foldl (scanQueue traffic) ⟨mvm, ∅, ∅, none, none⟩) := by
  induction queues using List.reverseRecOn with
  | nil =>
    exact ⟨fun _ _ => ⟨rfl, Finset.notMem_empty _, Finset.notMem_empty _⟩, fun _ unused => unused,
      fun _ => rfl, rfl, rfl⟩
  | append_singleton queues queue ih =>
    rw [List.foldl_append]
    have parts := List.nodup_append.mp distinct
    refine (ih parts.1).step fun member => ?_
    exact parts.2.2 queue member queue (List.mem_singleton_self queue) rfl

/-! ## Reconfiguring queues -/

/-- A step that concerns one queue and does not free it. -/
structure Reconfigures (mvm mvm' : DqaTables) (queue : HwQueue) : Prop where
  others : ∀ other, other ≠ queue → mvm'.queueInfo other = mvm.queueInfo other
  unused : ∀ other, mvm'.Unused other → mvm.Unused other
  present : ∀ staId, (mvm'.fwIdToMacId staId).isNone = (mvm.fwIdToMacId staId).isNone

theorem Reconfigures.refl (mvm : DqaTables) (queue : HwQueue) : Reconfigures mvm mvm queue :=
  ⟨fun _ _ => rfl, fun _ unused => unused, fun _ => rfl⟩

theorem Reconfigures.trans {mvm'' : DqaTables} {queue : HwQueue}
    (first : Reconfigures mvm mvm' queue) (second : Reconfigures mvm' mvm'' queue) :
    Reconfigures mvm mvm'' queue where
  others other different := (second.others other different).trans (first.others other different)
  unused other unused := first.unused other (second.unused other unused)
  present staId := (second.present staId).trans (first.present staId)

theorem reconfigures_modifyQueue (queue : HwQueue) (f : DqaTxqInfo → DqaTxqInfo)
    (used : (f (mvm.queueInfo queue)).status = .free → (f (mvm.queueInfo queue)).tidBitmap = ∅ →
      mvm.Unused queue) : Reconfigures mvm (mvm.modifyQueue queue f) queue where
  others other different := by rw [queueInfo_modifyQueue, if_neg different]
  unused other unused := by
    rw [Unused, queueInfo_modifyQueue] at unused
    by_cases same : other = queue
    · rw [if_pos same] at unused
      exact same ▸ used unused.2 unused.1
    · rwa [if_neg same] at unused
  present _ := rfl

theorem reconfigures_modifySta (queue : HwQueue) (staId : StaId) (f : DqaSta → DqaSta) :
    Reconfigures mvm (mvm.modifySta staId f) queue :=
  ⟨fun _ _ => rfl, fun _ unused => unused, fun _ => isNone_modifySta _ _ _⟩

theorem reconfigures_changeQueueTid (queue : HwQueue) (reply : Bool) :
    Reconfigures mvm (mvm.changeQueueTid queue reply) queue := by
  unfold changeQueueTid
  split
  · exact .refl mvm queue
  · split
    · exact reconfigures_modifyQueue queue _ fun free empty => ⟨empty, free⟩
    · exact .refl mvm queue

theorem reconfigures_redirectQueue (queue : HwQueue) (tid : Tid) (ac : AcNumber) (force : Bool)
    (reply : RedirectReply) :
    Reconfigures mvm (mvm.redirectQueue queue tid ac force reply).1 queue := by
  unfold redirectQueue
  split
  · exact .refl mvm queue
  · split
    · exact .refl mvm queue
    · exact @reconfigures_modifyQueue mvm queue
        (fun info => { info with txqTid := tid, mac80211Ac := ac }) fun free empty => ⟨empty, free⟩

theorem reconfigures_unshareQueue (queue : HwQueue) (reply : RedirectReply) :
    Reconfigures mvm (mvm.unshareQueue traffic queue reply) queue := by
  have ready : ∀ mvm : DqaTables,
      Reconfigures mvm (mvm.modifyQueue queue fun info => { info with status := .ready }) queue :=
    fun mvm => reconfigures_modifyQueue queue _ fun free => by cases free
  unfold unshareQueue
  dsimp only
  split
  · exact .refl mvm queue
  · next tid _ =>
      have redirected := @reconfigures_redirectQueue mvm queue tid (tidToMac80211Ac tid) true reply
      split
      · exact .refl mvm queue
      · split
        · exact .refl mvm queue
        · split
          · exact redirected
          · split
            · exact (redirected.trans (reconfigures_modifySta queue _ _)).trans (ready _)
            · exact redirected.trans (ready _)

/-- After some queues were reconfigured the others are as they were, and none was freed. -/
theorem reconfigures_foldl {f : DqaTables → HwQueue → DqaTables}
    (step : ∀ mvm queue, Reconfigures mvm (f mvm queue) queue) (queues : List HwQueue) :
    ∀ mvm, (∀ other, other ∉ queues → (queues.foldl f mvm).queueInfo other = mvm.queueInfo other) ∧
      (∀ other, (queues.foldl f mvm).Unused other → mvm.Unused other) ∧
      ∀ staId, ((queues.foldl f mvm).fwIdToMacId staId).isNone =
        (mvm.fwIdToMacId staId).isNone := by
  induction queues with
  | nil => exact fun mvm => ⟨fun _ _ => rfl, fun _ unused => unused, fun _ => rfl⟩
  | cons queue queues ih =>
    intro mvm
    obtain ⟨others, unused, present⟩ := ih (f mvm queue)
    have first := step mvm queue
    refine ⟨fun other listed => ?_, fun other free => first.unused other (unused other free),
      fun staId => (present staId).trans (first.present staId)⟩
    rw [List.mem_cons, not_or] at listed
    exact (others other listed.2).trans (first.others other listed.1)

/-! ## Freeing -/

section

variable {queue : HwQueue}

theorem disableTxq_single {tid : Tid} (sta : Option StaId) (reply : Bool)
    (single : (mvm.queueInfo queue).tidBitmap = {tid}) :
    (mvm.disableTxq sta queue tid reply).2 = reply ∧
      (mvm.disableTxq sta queue tid reply).1.Unused queue := by
  have carries : (mvm.queueInfo queue).tidBitmap ≠ ∅ := single ▸ Finset.singleton_ne_empty tid
  have last : (mvm.queueInfo queue).tidBitmap.erase tid = ∅ := by
    rw [single, Finset.erase_singleton]
  have freed : (mvm.modifyQueue queue fun info =>
      { info with tidBitmap := ∅, status := .free, reserved := false }).Unused queue := by
    rw [Unused, queueInfo_modifyQueue, if_pos rfl]
    exact ⟨rfl, rfl⟩
  unfold disableTxq
  dsimp only
  rw [if_neg carries, if_neg (not_not.mpr last)]
  cases sta with
  | none => exact ⟨rfl, freed⟩
  | some sta => exact ⟨rfl, freed⟩

/-- A queue with other TIDs, or none, is not freed, and there is no command that could fail. -/
theorem disableTxq_shared {tid : Tid} (sta : Option StaId) (reply : Bool)
    (shared : (mvm.queueInfo queue).tidBitmap ≠ {tid}) :
    (mvm.disableTxq sta queue tid reply).2 = true ∧
      ((mvm.queueInfo queue).tidBitmap ≠ ∅ →
        ¬(mvm.disableTxq sta queue tid reply).1.Unused queue) := by
  unfold disableTxq
  dsimp only
  by_cases empty : (mvm.queueInfo queue).tidBitmap = ∅
  · rw [if_pos empty]
    exact ⟨rfl, fun carries => absurd empty carries⟩
  · have others : (mvm.queueInfo queue).tidBitmap.erase tid ≠ ∅ := by
      intro last
      rcases (Finset.erase_eq_empty_iff _ _).mp last with none | single
      · exact empty none
      · exact shared single
    rw [if_neg empty, if_pos others]
    refine ⟨rfl, fun _ unused => others ?_⟩
    rw [Unused, queueInfo_modifyQueue, if_pos rfl] at unused
    exact unused.1

/-- Freeing a queue whose station is gone does nothing and is an error. -/
theorem freeInactiveQueue_of_absent (oldSta : Option StaId) (newStaId : StaId) (reply : Bool)
    (absent : mvm.fwIdToMacId (mvm.queueInfo queue).raStaId = none) :
    mvm.freeInactiveQueue traffic queue oldSta newStaId reply = (mvm, false) := by
  unfold freeInactiveQueue
  dsimp only
  rw [absent, Option.isNone_none, if_pos rfl]

/-- Otherwise the queue is disabled for its owner TID, and all else that is done concerns
stations. -/
theorem freeInactiveQueue_of_present (oldSta : Option StaId) (newStaId : StaId) (reply : Bool)
    (present : mvm.fwIdToMacId (mvm.queueInfo queue).raStaId ≠ none) :
    ∃ marked : DqaTables, marked.queueInfo = mvm.queueInfo ∧
      (mvm.freeInactiveQueue traffic queue oldSta newStaId reply).2 =
        (marked.disableTxq oldSta queue (mvm.queueInfo queue).txqTid reply).2 ∧
      (mvm.freeInactiveQueue traffic queue oldSta newStaId reply).1.queueInfo =
        (marked.disableTxq oldSta queue (mvm.queueInfo queue).txqTid reply).1.queueInfo := by
  unfold freeInactiveQueue
  dsimp only
  rw [if_neg (by rwa [Option.isNone_iff_eq_none])]
  have info : (if mvm.getQueueAggTids traffic queue ≠ ∅ then
      (mvm.removeStaQueueMarking queue).invalidateStaQueue queue
        (mvm.getQueueAggTids traffic queue)
      else mvm.removeStaQueueMarking queue).queueInfo = mvm.queueInfo := by
    split
    · rfl
    · rfl
  refine ⟨_, info, ?_⟩
  generalize disabled : disableTxq _ oldSta queue _ reply = result
  cases succeeded : result.2 with
  | false =>
    rw [Bool.not_false, if_pos rfl]
    exact ⟨rfl, rfl⟩
  | true =>
    rw [Bool.not_true, if_neg Bool.false_ne_true]
    split
    · exact ⟨rfl, rfl⟩
    · exact ⟨rfl, rfl⟩

end

/-- Freeing `queue` once the queues are reconfigured does what the check is for exactly where it is
right to free it. -/
theorem freesIdle_free_iff {queue : HwQueue} (oldSta : Option StaId) (newStaId : StaId)
    (reply : Bool) (info : mvm'.queueInfo queue = mvm.queueInfo queue)
    (unused : ∀ other, mvm'.Unused other → mvm.Unused other)
    (present : ∀ staId, (mvm'.fwIdToMacId staId).isNone = (mvm.fwIdToMacId staId).isNone) :
    FreesIdle mvm traffic
        (if (mvm'.freeInactiveQueue traffic queue oldSta newStaId reply).2 then
          ((mvm'.freeInactiveQueue traffic queue oldSta newStaId reply).1, some queue)
        else ((mvm'.freeInactiveQueue traffic queue oldSta newStaId reply).1, none)) ↔
      mvm.RightToFree traffic reply queue := by
  by_cases absent : mvm.fwIdToMacId (mvm.queueInfo queue).raStaId = none
  · have gone : mvm'.fwIdToMacId (mvm'.queueInfo queue).raStaId = none := by
      rw [info, ← Option.isNone_iff_eq_none, present, absent, Option.isNone_none]
    rw [freeInactiveQueue_of_absent oldSta newStaId reply gone, if_neg Bool.false_ne_true]
    refine iff_of_true ⟨fun _ named => ?_, fun _ => ⟨rfl, unused⟩⟩ (.inl absent)
    cases named
  have there : mvm'.fwIdToMacId (mvm'.queueInfo queue).raStaId ≠ none := by
    rw [info]
    intro gone
    rw [← Option.isNone_iff_eq_none, present, Option.isNone_iff_eq_none] at gone
    exact absent gone
  obtain ⟨marked, same, answer, after⟩ :=
    @freeInactiveQueue_of_present mvm' traffic queue oldSta newStaId reply there
  rw [info] at answer after
  have markedInfo : marked.queueInfo queue = mvm.queueInfo queue := by rw [same, info]
  generalize mvm'.freeInactiveQueue traffic queue oldSta newStaId reply = result at answer after ⊢
  have freed : ∀ other, result.1.Unused other ↔
      (marked.disableTxq oldSta queue (mvm.queueInfo queue).txqTid reply).1.Unused other := by
    intro other
    rw [Unused, Unused, after]
  by_cases single : (mvm.queueInfo queue).tidBitmap = {(mvm.queueInfo queue).txqTid}
  · obtain ⟨disabled, empty⟩ := disableTxq_single oldSta reply
      ((congrArg DqaTxqInfo.tidBitmap markedInfo).trans single)
    rw [disabled] at answer
    have used : ¬mvm.Unused queue := by
      intro unused
      rw [Unused, single] at unused
      exact Finset.singleton_ne_empty _ unused.1
    rw [answer]
    cases reply with
    | true =>
      rw [if_pos rfl]
      constructor
      · intro holds
        exact .inr ⟨single, fun _ => (holds.named queue rfl).1, fun failed => by cases failed⟩
      · rintro (gone | ⟨-, idle, -⟩)
        · exact absurd gone absent
        · refine ⟨fun named same => ?_, fun none_idle => absurd ⟨queue, idle rfl⟩ none_idle⟩
          cases same
          exact ⟨idle rfl, (freed queue).mpr empty⟩
    | false =>
      rw [if_neg Bool.false_ne_true]
      constructor
      · intro holds
        refine .inr ⟨single, fun failed => (by cases failed), fun _ => ?_⟩
        by_contra none_idle
        exact used ((holds.none_idle none_idle).2 queue ((freed queue).mpr empty))
      · rintro (gone | ⟨-, -, idle⟩)
        · exact absurd gone absent
        · exact ⟨fun other named => absurd named.symm (Option.some_ne_none other),
          fun none_idle => absurd (idle rfl) none_idle⟩
  · obtain ⟨disabled, kept⟩ := @disableTxq_shared marked queue _ oldSta reply fun alone =>
      single ((congrArg DqaTxqInfo.tidBitmap markedInfo).symm.trans alone)
    rw [answer, disabled, if_pos rfl]
    constructor
    · intro holds
      obtain ⟨idle, gone⟩ := holds.named queue rfl
      exact absurd ((freed queue).mp gone) (kept (markedInfo.symm ▸ idle.2.1))
    · rintro (gone | ⟨alone, -⟩)
      · exact absurd gone absent
      · exact absurd alone single

/-! ## The check -/

/-- The queues that the check goes over start with queue 1. -/
theorem firstInspected_eq (mvm : DqaTables) (traffic : DqaTraffic) :
    mvm.firstInspected traffic = if mvm.Inspected traffic 1 then some 1
      else ((List.finRange 32).filter fun queue => queue ≠ 0 ∧ queue ≠ 1).find? fun queue =>
        mvm.Inspected traffic queue := by
  have listed : (List.finRange 32).filter (· ≠ 0) =
      1 :: (List.finRange 32).filter fun queue => queue ≠ 0 ∧ queue ≠ 1 := by decide
  rw [firstInspected, listed, List.find?_cons]
  by_cases inspected : mvm.Inspected traffic 1
  · rw [decide_eq_true inspected, if_pos inspected]
  · rw [decide_eq_false inspected, if_neg inspected]

/-- The queue that is freed is none of those that the scan has changed. -/
theorem not_busy_of_found {first : HwQueue} (found : mvm.firstInspected traffic = some first)
    {queue : HwQueue} (named : queue =
      if mvm.inactiveOn traffic first = (mvm.queueInfo first).tidBitmap then 1 else 0) :
    ¬(queue ∈ (List.finRange 32).filter (· ≠ 0) ∧ mvm.Busy traffic queue) := by
  rintro ⟨listed, inspected, active⟩
  by_cases all : mvm.inactiveOn traffic first = (mvm.queueInfo first).tidBitmap
  · rw [if_pos all] at named
    rw [named] at inspected active
    rw [firstInspected_eq, if_pos inspected] at found
    rw [← Option.some.inj found] at all
    exact active all
  · rw [if_neg all] at named
    rw [named] at listed
    exact of_decide_eq_true (List.mem_filter.mp listed).2 rfl

/-- An inactivity check made for a station does what it is for exactly where it is right to free
the queue whose number is the answer for the first queue that it examines: queue 1 where all TIDs
of that queue are inactive and queue 0 where some is not. -/
theorem inactivityCheck_freesIdle_iff (mvm : DqaTables) (traffic : DqaTraffic) (newStaId : StaId)
    (reply : InactivityReply) :
    mvm.FreesIdle traffic (mvm.inactivityCheck traffic (some newStaId) reply) ↔
      ∀ first, mvm.firstInspected traffic = some first →
        if mvm.inactiveOn traffic first = (mvm.queueInfo first).tidBitmap then
          mvm.RightToFree traffic reply.freed 1
        else mvm.RightToFree traffic reply.freed 0 := by
  have scanned := @scannedSome_foldl mvm traffic ((List.finRange 32).filter (· ≠ 0))
    ((List.nodup_finRange 32).filter _)
  unfold inactivityCheck
  dsimp only
  generalize List.foldl (scanQueue traffic) _ _ = scan at scanned ⊢
  obtain ⟨unsharedOthers, unsharedUnused, unsharedPresent⟩ := reconfigures_foldl
    (fun mvm queue => @reconfigures_unshareQueue mvm traffic queue (reply.unshared queue))
    ((List.finRange 32).filter (· ∈ scan.unshareQueues)) scan.mvm
  generalize List.foldl _ scan.mvm _ = unshared at *
  obtain ⟨changedOthers, changedUnused, changedPresent⟩ := reconfigures_foldl
    (fun mvm queue => @reconfigures_changeQueueTid mvm queue (reply.changed queue))
    ((List.finRange 32).filter (· ∈ scan.changetidQueues)) unshared
  generalize List.foldl _ unshared _ = changed at *
  have unused : ∀ other, changed.Unused other → mvm.Unused other := fun other free =>
    scanned.unused other (unsharedUnused other (changedUnused other free))
  have present : ∀ staId, (changed.fwIdToMacId staId).isNone = (mvm.fwIdToMacId staId).isNone :=
    fun staId => ((changedPresent staId).trans (unsharedPresent staId)).trans
      (scanned.present staId)
  have freeQueue : scan.freeQueue = (mvm.firstInspected traffic).map _ := scanned.freeQueue
  cases found : mvm.firstInspected traffic with
  | none =>
    rw [found, Option.map_none] at freeQueue
    rw [freeQueue]
    refine iff_of_true ⟨fun _ named => ?_, fun _ => ⟨rfl, unused⟩⟩ fun _ named => ?_
    · cases named
    · cases named
  | some first =>
    rw [found, Option.map_some] at freeQueue
    rw [freeQueue]
    have same : ∀ queue, (queue = if mvm.inactiveOn traffic first =
        (mvm.queueInfo first).tidBitmap then 1 else 0) →
        changed.queueInfo queue = mvm.queueInfo queue := by
      intro queue named
      obtain ⟨info, unmarked, unchanged⟩ :=
        scanned.same queue (not_busy_of_found found named)
      rw [changedOthers queue fun listed => unchanged (by simpa using listed),
        unsharedOthers queue fun listed => unmarked (by simpa using listed), info]
    dsimp only
    rw [freesIdle_free_iff scan.queueOwner newStaId reply.freed (same _ rfl) unused present]
    constructor
    · intro right other named
      rw [← Option.some.inj named]
      split
      · next all => rwa [if_pos all] at right
      · next active => rwa [if_neg active] at right
    · intro right
      have right := right first rfl
      split
      · next all => rwa [if_pos all] at right
      · next active => rwa [if_neg active] at right

/-- Queue 10 is mapped for a TID of station 1 on a fresh device. -/
def oneMapped : DqaTables :=
  dqaStep threeStations (.alloc (quiet fun _ => false) 1 2 0 (replies true))

/-- Queue 10 had no frame for a while, all commands succeed, and the queue that is returned for
station 2 is queue 1, which carries nothing. -/
theorem not_inactivityCheck_freesIdle :
    ¬oneMapped.FreesIdle (quiet (· = 10))
      (oneMapped.inactivityCheck (quiet (· = 10)) (some 2) (replies true).inactivity) := by
  intro holds
  have named : (oneMapped.inactivityCheck (quiet (· = 10)) (some 2)
      (replies true).inactivity).2 = some 1 := by decide +kernel
  have busy : ¬oneMapped.Idle (quiet (· = 10)) 1 := by decide +kernel
  exact busy (holds.named 1 named).1

end DqaTables

end Iwlwifi
