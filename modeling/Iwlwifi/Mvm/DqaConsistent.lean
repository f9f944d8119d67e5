import Mathlib.Algebra.Ring.Nat
import Mathlib.Data.Fintype.Option
import Iwlwifi.Mvm.DqaSound

/-!
# The queue tables agree

The tables agree in every run from fresh ones whose steps do not take one of the paths that
change a part of the mapping only: an allocation that ends in its error exit disables the
queue and leaves the TID data of the station; the inactivity check takes some TIDs off a
shared queue and leaves their mac80211 queues; freeing an inactive queue takes one TID out of
its bitmap and all of them out of the station.
-/

namespace Iwlwifi

open Function (update update_apply)

open Lib

local instance neZero_hwQueue : NeZero 32 := ⟨by decide⟩
local instance neZero_staId : NeZero 16 := ⟨by decide⟩
local instance neZero_tid : NeZero 9 := ⟨by decide⟩
local instance neZero_acNumber : NeZero 4 := ⟨by decide⟩

namespace DqaTables

variable {mvm mvm' : DqaTables}

/-! ## Inactivity -/

/-- The TIDs of a queue that an inactivity check finds inactive. -/
def inactiveOn (mvm : DqaTables) (traffic : DqaTraffic) (queue : HwQueue) : Finset Tid :=
  let info := mvm.queueInfo queue
  inactiveTids traffic info.raStaId (info.tidBitmap.filter fun tid => traffic.timedOut queue tid)

/-- An inactivity check looks at the queue. -/
def Inspected (mvm : DqaTables) (traffic : DqaTraffic) (queue : HwQueue) : Prop :=
  ((mvm.queueInfo queue).status = .ready ∨ (mvm.queueInfo queue).status = .shared) ∧
    ((mvm.queueInfo queue).tidBitmap.filter fun tid => traffic.timedOut queue tid) ≠ ∅ ∧
    (mvm.fwIdToMacId (mvm.queueInfo queue).raStaId).isNone = false

instance (traffic : DqaTraffic) : DecidablePred (mvm.Inspected traffic) := fun _ =>
  inferInstanceAs (Decidable (_ ∧ _ ∧ _))

/-- The first queue that an inactivity check looks at. -/
def firstInspected (mvm : DqaTables) (traffic : DqaTraffic) : Option HwQueue :=
  ((List.finRange 32).filter (· ≠ 0)).find? fun queue => mvm.Inspected traffic queue

/-- An inactivity check keeps the tables in agreement: of each queue that it looks at, all
TIDs are inactive or none is; and where it is to free a queue and all TIDs of the first are
inactive, queue 1 may be freed in its place. -/
def InactivityOk (mvm : DqaTables) (traffic : DqaTraffic) (allocForSta : Option StaId) : Prop :=
  (∀ queue, queue ≠ 0 → mvm.Inspected traffic queue →
    mvm.inactiveOn traffic queue = ∅ ∨
      mvm.inactiveOn traffic queue = (mvm.queueInfo queue).tidBitmap) ∧
  (allocForSta ≠ none → ∀ queue, mvm.firstInspected traffic = some queue →
    mvm.inactiveOn traffic queue = (mvm.queueInfo queue).tidBitmap →
    mvm.FreeOk 1 (some (mvm.queueInfo queue).raStaId))

instance (traffic : DqaTraffic) (allocForSta : Option StaId) :
    Decidable (mvm.InactivityOk traffic allocForSta) :=
  inferInstanceAs (Decidable (_ ∧ _))

/-- The scan after some queues, when no TID was taken off a queue. -/
structure Scanned (mvm : DqaTables) (traffic : DqaTraffic) (seen : List HwQueue)
    (scan : InactivityScan) : Prop where
  tables : scan.mvm = mvm
  changetidQueues : scan.changetidQueues = ∅
  freeQueue : scan.freeQueue = (seen.find? fun queue => mvm.Inspected traffic queue).map
    fun queue =>
      if mvm.inactiveOn traffic queue = (mvm.queueInfo queue).tidBitmap then 1 else 0
  queueOwner : scan.queueOwner = (seen.find? fun queue => mvm.Inspected traffic queue).map
    fun queue => (mvm.queueInfo queue).raStaId

/-- Of the inactive TIDs of a queue, none is removed when all of its TIDs are inactive or none
is. -/
theorem removeInactiveTids_spec (traffic : DqaTraffic) (sta : StaId) (queue : HwQueue)
    (timedOut : Finset Tid) (scan : InactivityScan)
    (whole : inactiveTids traffic sta timedOut = ∅ ∨
      inactiveTids traffic sta timedOut = (scan.mvm.queueInfo queue).tidBitmap) :
    ∃ unshareQueues, removeInactiveTids traffic sta queue timedOut scan =
      ({ scan with unshareQueues := unshareQueues },
        decide (inactiveTids traffic sta timedOut = (scan.mvm.queueInfo queue).tidBitmap)) := by
  unfold removeInactiveTids
  dsimp only
  by_cases all : inactiveTids traffic sta timedOut = (scan.mvm.queueInfo queue).tidBitmap
  · rw [if_pos all, decide_eq_true all]
    exact ⟨_, rfl⟩
  · have none := whole.resolve_right all
    have nothing : (List.finRange 9).filter (· ∈ inactiveTids traffic sta timedOut) = [] := by
      rw [none]
      exact List.filter_eq_nil_iff.mpr fun tid _ => by simp
    rw [if_neg all, decide_eq_false all, nothing, List.foldl_nil]
    split
    · exact ⟨_, rfl⟩
    · exact ⟨_, rfl⟩

variable {traffic : DqaTraffic} {queue : HwQueue} {staId : StaId}

theorem Scanned.step {seen : List HwQueue} {scan : InactivityScan}
    (scanned : Scanned mvm traffic seen scan) (queue : HwQueue)
    (whole : mvm.Inspected traffic queue → mvm.inactiveOn traffic queue = ∅ ∨
      mvm.inactiveOn traffic queue = (mvm.queueInfo queue).tidBitmap) :
    Scanned mvm traffic (seen ++ [queue]) (scanQueue traffic scan queue) := by
  obtain ⟨tables, changetidQueues, freeQueue, queueOwner⟩ := scanned
  have passed : ¬mvm.Inspected traffic queue →
      Scanned mvm traffic (seen ++ [queue]) scan := by
    intro passed
    refine ⟨tables, changetidQueues, ?_, ?_⟩ <;>
      simp only [List.find?_append, List.find?_cons, List.find?_nil, passed, decide_false,
        Option.or_none]
    · exact freeQueue
    · exact queueOwner
  unfold scanQueue
  dsimp only
  rw [tables]
  split
  · rename_i idle
    exact passed fun inspected => inspected.1.elim idle.1 idle.2
  · rename_i active
    split
    · rename_i fresh
      exact passed fun inspected => inspected.2.1 fresh
    · rename_i timedOut
      split
      · rename_i absent
        refine passed fun inspected => ?_
        rw [inspected.2.2] at absent
        cases absent
      · rename_i present
        have inspected : mvm.Inspected traffic queue := by
          refine ⟨?_, timedOut, Bool.eq_false_iff.mpr present⟩
          by_contra neither
          exact active (not_or.mp neither)
        have whole := whole inspected
        unfold inactiveOn at whole
        dsimp only at whole
        rw [← tables] at whole
        obtain ⟨unshareQueues, removed⟩ := removeInactiveTids_spec traffic _ queue _ scan whole
        rw [tables] at removed
        rw [removed]
        dsimp only
        cases first : seen.find? fun queue => mvm.Inspected traffic queue with
        | some earlier =>
          rw [first] at freeQueue queueOwner
          rw [freeQueue, Option.map_some, if_neg nofun]
          refine ⟨rfl, changetidQueues, ?_, ?_⟩ <;> rw [List.find?_append, first, Option.some_or]
          · rfl
          · exact queueOwner
        | none =>
          rw [first] at freeQueue
          rw [freeQueue, Option.map_none, if_pos rfl]
          refine ⟨rfl, changetidQueues, ?_, ?_⟩ <;>
            simp only [List.find?_append, List.find?_cons, first, inspected, decide_true,
              Option.none_or, Option.map_some, decide_eq_true_eq]
          rfl

theorem scanned_foldl {traffic : DqaTraffic} (queues : List HwQueue)
    (whole : ∀ queue ∈ queues, mvm.Inspected traffic queue →
      mvm.inactiveOn traffic queue = ∅ ∨
        mvm.inactiveOn traffic queue = (mvm.queueInfo queue).tidBitmap) :
    Scanned mvm traffic queues (queues.foldl (scanQueue traffic) ⟨mvm, ∅, ∅, none, none⟩) := by
  induction queues using List.reverseRecOn with
  | nil => exact ⟨rfl, rfl, rfl, rfl⟩
  | append_singleton queues queue ih =>
    rw [List.foldl_append]
    have seen := ih fun other member => whole other (List.mem_append_left _ member)
    exact seen.step queue (whole queue (List.mem_append_right _ (List.mem_singleton_self queue)))

/-- What an inactivity check leaves behind. -/
structure Checked (mvm mvm' : DqaTables) (result : Option HwQueue) : Prop where
  sound : mvm'.Sound
  present : ∀ staId, (mvm'.fwIdToMacId staId).isNone = (mvm.fwIdToMacId staId).isNone
  unmapped : ∀ staId tid, mvm.txqId staId tid = none → mvm'.txqId staId tid = none
  kept : ∀ queue, queue ≠ 0 → queue ≠ 1 →
    (mvm'.queueInfo queue).tidBitmap = (mvm.queueInfo queue).tidBitmap ∧
      (mvm'.queueInfo queue).raStaId = (mvm.queueInfo queue).raStaId
  free : ∀ queue, result = some queue → (mvm'.queueInfo queue).tidBitmap = ∅

theorem SameMaps.checked (sound : mvm.Sound) (same : SameMaps mvm mvm') :
    Checked mvm mvm' none where
  sound := sound.of_same same
  present := same.present
  unmapped staId tid unmapped := (same.txqId staId tid).trans unmapped
  kept queue _ _ := ⟨same.tidBitmap queue, same.raStaId queue⟩
  free _ := nofun

theorem Checked.cleared {mvm'' : DqaTables} (same : SameMaps mvm mvm') (sound : mvm'.Sound)
    (cleared : Cleared mvm' mvm'' queue) (low : queue = 0 ∨ queue = 1) :
    Checked mvm mvm'' (some queue) where
  sound := sound.of_cleared cleared
  present staId := (cleared.present staId).trans (same.present staId)
  unmapped staId tid unmapped := by
    rw [cleared.txqId, same.txqId, unmapped, ite_self]
  kept other first second := by
    have different : other ≠ queue := by
      rcases low with zero | one
      · rw [zero]
        exact first
      · rw [one]
        exact second
    rw [cleared.tidBitmap, if_neg different, cleared.raStaId]
    exact ⟨same.tidBitmap other, same.raStaId other⟩
  free other found := by
    rw [← Option.some.inj found, cleared.tidBitmap, if_pos rfl]

theorem Checked.of_none {result : Option HwQueue} (checked : Checked mvm mvm' result) :
    Checked mvm mvm' none :=
  ⟨checked.sound, checked.present, checked.unmapped, checked.kept, nofun⟩

theorem FreeOk.of_same {oldSta : Option StaId} (freeOk : mvm.FreeOk queue oldSta)
    (same : SameMaps mvm mvm') : mvm'.FreeOk queue oldSta := by
  unfold FreeOk
  rw [same.tidBitmap, same.raStaId]
  simp only [same.mac80211Txq]
  exact freeOk

theorem foldl_sameMaps (f : DqaTables → HwQueue → DqaTables)
    (same : ∀ mvm queue, SameMaps mvm (f mvm queue)) (queues : List HwQueue) :
    SameMaps mvm (queues.foldl f mvm) :=
  run_invariant (fun _ queue before => before.trans (same _ queue)) (.refl mvm) queues

/-- An inactivity check that takes no TID off a shared queue, and frees no queue that it must
not, keeps the tables in agreement; a queue that it returns for a station carries nothing. -/
theorem inactivityCheck_spec {allocForSta : Option StaId} (sound : mvm.Sound)
    (ok : mvm.InactivityOk traffic allocForSta) (reply : InactivityReply) :
    Checked mvm (mvm.inactivityCheck traffic allocForSta reply).1
      (if allocForSta = none then none
        else (mvm.inactivityCheck traffic allocForSta reply).2) := by
  have scanned := @scanned_foldl mvm traffic ((List.finRange 32).filter (· ≠ 0))
    fun queue member => ok.1 queue (by simpa using member)
  unfold inactivityCheck
  dsimp only
  generalize List.foldl (scanQueue traffic) _ _ = scan at scanned ⊢
  obtain ⟨tables, changetidQueues, freeQueue, queueOwner⟩ := scanned
  have unchanged : (List.finRange 32).filter (· ∈ scan.changetidQueues) = [] := by
    rw [changetidQueues]
    exact List.filter_eq_nil_iff.mpr fun queue _ => by simp
  rw [tables, unchanged, List.foldl_nil]
  have same := @foldl_sameMaps mvm
    (fun mvm queue => mvm.unshareQueue traffic queue (reply.unshared queue))
    (fun _ queue => sameMaps_unshareQueue traffic queue _)
    ((List.finRange 32).filter (· ∈ scan.unshareQueues))
  generalize List.foldl _ mvm _ = unshared at same ⊢
  change scan.freeQueue = (mvm.firstInspected traffic).map _ at freeQueue
  change scan.queueOwner = (mvm.firstInspected traffic).map _ at queueOwner
  cases first : mvm.firstInspected traffic with
  | none =>
    rw [first, Option.map_none] at freeQueue
    rw [freeQueue]
    dsimp only
    rw [ite_self]
    exact same.checked sound
  | some queue =>
    rw [first, Option.map_some] at freeQueue queueOwner
    rw [freeQueue, queueOwner]
    cases allocForSta with
    | none => exact same.checked sound
    | some newStaId =>
      dsimp only
      have freeOk : mvm.FreeOk
          (if mvm.inactiveOn traffic queue = (mvm.queueInfo queue).tidBitmap then 1 else 0)
          (some (mvm.queueInfo queue).raStaId) := by
        split
        · rename_i all
          exact ok.2 nofun queue first all
        · refine ⟨?_, fun tid member => ?_⟩
          · rw [sound.command]
            exact Nat.zero_le 1
          · rw [sound.command] at member
            exact absurd member (Finset.notMem_empty tid)
      have low : (if mvm.inactiveOn traffic queue = (mvm.queueInfo queue).tidBitmap then 1
          else 0 : HwQueue) = 0 ∨ (if mvm.inactiveOn traffic queue =
            (mvm.queueInfo queue).tidBitmap then 1 else 0 : HwQueue) = 1 := by
        split
        · exact .inr rfl
        · exact .inl rfl
      generalize (if mvm.inactiveOn traffic queue = (mvm.queueInfo queue).tidBitmap then 1
        else 0 : HwQueue) = freed at freeOk low ⊢
      have soundUnshared := sound.of_same same
      have cleared := freeInactiveQueue_spec soundUnshared (freeOk.of_same same) traffic
        newStaId reply.freed
      have checked := Checked.cleared same soundUnshared cleared low
      rw [if_neg (Option.some_ne_none newStaId)]
      split
      · exact checked
      · exact checked.of_none

/-! ## Allocation -/

/-- The mapping that an allocation writes, for a TID that the queue does not carry. -/
theorem enabled_updateTxqMapping {tid : Tid} (present : (mvm.fwIdToMacId staId).isNone = false)
    (foreign : tid ∉ (mvm.queueInfo queue).tidBitmap) (reservedQueue : DqaSta → Nat) :
    Enabled mvm ((mvm.updateTxqMapping staId queue tid).modifySta staId fun sta =>
      { sta with
        txqId := update sta.txqId tid (some queue)
        tfdQueueMsk := insert queue sta.tfdQueueMsk
        reservedQueue := reservedQueue sta }) staId tid queue := by
  obtain ⟨sta, entry⟩ : ∃ sta, mvm.fwIdToMacId staId = some sta := by
    cases entry : mvm.fwIdToMacId staId with
    | none =>
      rw [entry] at present
      cases present
    | some sta => exact ⟨sta, rfl⟩
  unfold updateTxqMapping
  dsimp only
  rw [if_neg foreign]
  generalize result : modifySta (modifySta _ staId _) staId _ = mvm'
  have own : mvm'.fwIdToMacId staId = some
      { sta with
        txqId := update sta.txqId tid (some queue)
        mac80211Txq := update sta.mac80211Txq tid (some queue)
        tfdQueueMsk := insert queue sta.tfdQueueMsk
        reservedQueue := reservedQueue
          { sta with mac80211Txq := update sta.mac80211Txq tid (some queue) } } := by
    rw [← result, fwIdToMacId_modifySta, if_pos rfl, fwIdToMacId_modifySta, if_pos rfl]
    change Option.map _ (Option.map _ (mvm.fwIdToMacId staId)) = _
    rw [entry]
    rfl
  have others : ∀ whose, whose ≠ staId → mvm'.fwIdToMacId whose = mvm.fwIdToMacId whose := by
    intro whose different
    rw [← result, fwIdToMacId_modifySta, if_neg different, fwIdToMacId_modifySta, if_neg different]
    rfl
  have queueInfo : mvm'.queueInfo = update mvm.queueInfo queue
      { mvm.queueInfo queue with
        tidBitmap := insert tid (mvm.queueInfo queue).tidBitmap
        raStaId := staId
        mac80211Ac :=
          if (mvm.queueInfo queue).tidBitmap = ∅ then tidToMac80211Ac tid
          else (mvm.queueInfo queue).mac80211Ac
        txqTid :=
          if (mvm.queueInfo queue).tidBitmap = ∅ then tid else (mvm.queueInfo queue).txqTid } := by
    rw [← result]
    rfl
  refine ⟨fun other => ?_, fun other => ?_, fun other => ?_, fun other => ?_, fun whose other => ?_,
    fun whose other => ?_, fun whose => ?_⟩
  · rw [queueInfo, update_apply]
    split <;> rfl
  · rw [queueInfo, update_apply]
    split <;> rfl
  · rw [queueInfo, update_apply]
    by_cases same : other = queue
    · rw [if_pos same, same]
      simp only [true_and]
    · rw [if_neg same, if_neg fun both => same both.1]
  · rw [queueInfo, update_apply]
    split
    · rename_i same
      rw [same]
    · rfl
  · unfold txqId
    by_cases same : whose = staId
    · rw [same, own, entry, Option.bind_some, Option.bind_some]
      simp only [update_apply, true_and]
    · rw [others whose same, if_neg fun both => same both.1]
  · unfold mac80211Txq
    by_cases same : whose = staId
    · rw [same, own, entry, Option.bind_some, Option.bind_some]
      simp only [update_apply, true_and]
    · rw [others whose same, if_neg fun both => same both.1]
  · unfold tfdQueueMsk
    by_cases same : whose = staId
    · rw [same, own, entry, if_pos rfl]
      rfl
    · rw [others whose same, if_neg same]

/-- The replies to an allocation do not lead to its error exit. -/
def Succeeds (traffic : DqaTraffic) (staId : StaId) (tid : Tid) (reply : AllocReply) : Prop :=
  reply.staSent = true ∧ (traffic.aggState staId tid = .on → reply.aggStarted = true) ∧
    reply.redirected.drained = true ∧ reply.redirected.disabled = true

/-- A queue that carries nothing, or one of the station, is enabled for a TID without one. -/
theorem enableQueue_sound {tid : Tid} {reply : AllocReply} (sound : mvm.Sound)
    (present : (mvm.fwIdToMacId staId).isNone = false) (unmapped : mvm.txqId staId tid = none)
    (own : (mvm.queueInfo queue).tidBitmap = ∅ ∨ (mvm.queueInfo queue).raStaId = staId)
    (status : (mvm.queueInfo queue).status ≠ .reserved) (command : queue ≠ 0)
    (succeeds : Succeeds traffic staId tid reply) (ac : AcNumber) (sharedQueue : Bool) :
    (mvm.enableQueue traffic staId ac tid queue sharedQueue reply).Sound := by
  unfold enableQueue
  dsimp only
  have invalidated : SameMaps mvm
      (if sharedQueue ∧ mvm.getQueueAggTids traffic queue ≠ ∅ then
        mvm.invalidateStaQueue queue (mvm.getQueueAggTids traffic queue) else mvm) := by
    split
    · exact sameMaps_invalidateStaQueue queue _
    · exact .refl mvm
  have status' : ((if sharedQueue ∧ mvm.getQueueAggTids traffic queue ≠ ∅ then
      mvm.invalidateStaQueue queue (mvm.getQueueAggTids traffic queue)
      else mvm).queueInfo queue).status ≠ .reserved :=
    fun reserved => status (invalidated.status queue reserved)
  generalize (if sharedQueue ∧ mvm.getQueueAggTids traffic queue ≠ ∅ then
    mvm.invalidateStaQueue queue (mvm.getQueueAggTids traffic queue) else mvm) = mvm₁
    at invalidated status' ⊢
  have sound₁ := sound.of_same invalidated
  rw [← invalidated.present] at present
  rw [← invalidated.txqId] at unmapped
  rw [← invalidated.tidBitmap, ← invalidated.raStaId] at own
  have foreign : tid ∉ (mvm₁.queueInfo queue).tidBitmap := by
    intro member
    rcases own with empty | own
    · rw [empty] at member
      exact absurd member (Finset.notMem_empty tid)
    · have named := (sound₁.mapped staId tid queue).mp ⟨member, own⟩
      rw [unmapped] at named
      cases named
  have enabled := enabled_updateTxqMapping present foreign
    fun sta => if sta.reservedQueue = queue then 0xff else sta.reservedQueue
  generalize modifySta (mvm₁.updateTxqMapping staId queue tid) staId _ = mvm₂ at enabled ⊢
  have sound₂ := sound₁.of_enabled enabled unmapped own status' command
  obtain ⟨staSent, aggStarted, drained, disabled⟩ := succeeds
  cases sharedQueue with
  | true =>
    have member : tid ∈ (mvm₂.queueInfo queue).tidBitmap := by
      rw [enabled.tidBitmap, if_pos rfl]
      exact Finset.mem_insert_self _ _
    have done : (mvm₂.redirectQueue queue tid ac false reply.redirected).2 = true := by
      unfold redirectQueue
      rw [drained]
      split
      · rfl
      · exact disabled
    rw [if_pos rfl, if_pos done]
    exact sound₂.of_same (sameMaps_redirectQueue ac false _ member)
  | false =>
    rw [if_neg Bool.false_ne_true, staSent]
    by_cases on : traffic.aggState staId tid = .on
    · simp only [Bool.not_true, Bool.false_eq_true, if_false, on, if_true, aggStarted on]
      refine sound₂.of_same (sameMaps_modifySta _ _ ?_ ?_ ?_) <;> exact fun _ => rfl
    · simp only [Bool.not_true, Bool.false_eq_true, if_false, on, if_true]
      exact sound₂

theorem findFreeQueue_empty {minq maxq queue : HwQueue}
    (found : mvm.findFreeQueue minq maxq = some queue) :
    (mvm.queueInfo queue).tidBitmap = ∅ := by
  have free := List.find?_some found
  simp only [decide_eq_true_eq] at free
  exact free.2.2.1

/-- A queue that is free or reserved carries nothing. -/
theorem takeFreeQueue_spec (sound : mvm.Sound) (staId : StaId) (sta : DqaSta) (tid : Tid) :
    SameMaps mvm (mvm.takeFreeQueue staId sta tid).1 ∧
      (∀ queue, (mvm.takeFreeQueue staId sta tid).2 = some queue →
        (mvm.queueInfo queue).tidBitmap = ∅) ∧
      ((mvm.takeFreeQueue staId sta tid).2 = none →
        (mvm.takeFreeQueue staId sta tid).1.queueInfo = mvm.queueInfo) := by
  have clamped : SameMaps mvm (mvm.modifySta staId fun other =>
      { other with reservedQueue := reservedIndex sta.reservedQueue }) := by
    refine sameMaps_modifySta _ _ ?_ ?_ ?_ <;> exact fun _ => rfl
  unfold takeFreeQueue
  dsimp only
  split
  · rename_i mgmt
    refine ⟨clamped, fun queue found => ?_, nofun⟩
    rw [Option.some.inj found] at mgmt
    split at mgmt
    · exact findFreeQueue_empty mgmt
    · cases mgmt
  · split
    · rename_i reserved
      refine ⟨clamped.trans ?_, fun queue found => ?_, nofun⟩
      · dsimp only
        exact sameMaps_modifyQueue _ _ rfl rfl (.inl rfl) id
      · rw [← Option.some.inj found]
        exact sound.reserved _ reserved
    · refine ⟨clamped, fun queue found => ?_, fun _ => rfl⟩
      dsimp only at found
      exact findFreeQueue_empty found

theorem getSharedQueue_mem {tfdQueueMask : Finset HwQueue} {ac : AcNumber}
    (shared : mvm.getSharedQueue tfdQueueMask ac = some queue) :
    queue ∈ tfdQueueMask ∧ queue ≠ 0 ∧ queue ≠ 1 := by
  have member : ∀ {ac queue}, mvm.queueOfAc tfdQueueMask ac = some queue →
      queue ∈ tfdQueueMask ∧ queue ≠ 0 ∧ queue ≠ 1 := by
    intro ac queue found
    have chosen := List.find?_some found
    simp only [decide_eq_true_eq] at chosen
    obtain ⟨member, -, data, -⟩ := chosen
    refine ⟨member, ?_⟩
    rcases data with data | data
    · constructor <;> rintro rfl <;> exact absurd data (by decide)
    · rw [data]
      decide
  unfold getSharedQueue at shared
  dsimp only at shared
  generalize chosen : Option.or (mvm.queueOfAc tfdQueueMask 2) _ = choice at shared
  cases choice with
  | none => cases shared
  | some other =>
    rw [Option.getD_some] at shared
    have found : ∃ ac, mvm.queueOfAc tfdQueueMask ac = some other := by
      rcases Option.or_eq_some_iff.mp chosen with found | ⟨-, chosen⟩
      · exact ⟨_, found⟩
      rcases Option.or_eq_some_iff.mp chosen with found | ⟨-, chosen⟩
      · exact ⟨_, found⟩
      rcases Option.or_eq_some_iff.mp chosen with found | ⟨-, chosen⟩
      · split at found
        · exact ⟨_, found⟩
        · cases found
      rcases Option.or_eq_some_iff.mp chosen with found | ⟨-, chosen⟩
      · exact ⟨_, found⟩
      rcases Option.or_eq_some_iff.mp chosen with found | ⟨-, found⟩
      · exact ⟨_, found⟩
      · exact ⟨_, found⟩
    split at shared
    · obtain ⟨ac, found⟩ := found
      rw [← Option.some.inj shared]
      exact member found
    · cases shared

/-- An allocation keeps the tables in agreement: it is for a TID without a queue, it does not
end in the error exit, and where it looks for an inactive queue that check does too. -/
def AllocOk (mvm : DqaTables) (traffic : DqaTraffic) (staId : StaId) (tid : Tid)
    (reply : AllocReply) : Prop :=
  mvm.mac80211Txq staId tid = none ∧ Succeeds traffic staId tid reply ∧
    ∀ sta ∈ mvm.fwIdToMacId staId, (mvm.takeFreeQueue staId sta tid).2 = none →
      mvm.InactivityOk traffic (some staId)

instance (traffic : DqaTraffic) (staId : StaId) (tid : Tid) (reply : AllocReply) :
    Decidable (Succeeds traffic staId tid reply) :=
  inferInstanceAs (Decidable (_ ∧ (_ → _) ∧ _ ∧ _))

instance (traffic : DqaTraffic) (staId : StaId) (tid : Tid) (reply : AllocReply) :
    Decidable (mvm.AllocOk traffic staId tid reply) :=
  inferInstanceAs (Decidable (_ ∧ Succeeds _ _ _ _ ∧ _))

theorem InactivityOk.of_same {allocForSta : Option StaId}
    (ok : mvm.InactivityOk traffic allocForSta) (same : SameMaps mvm mvm')
    (queueInfo : mvm'.queueInfo = mvm.queueInfo) : mvm'.InactivityOk traffic allocForSta := by
  have inspected : ∀ queue, mvm'.Inspected traffic queue ↔ mvm.Inspected traffic queue := by
    intro queue
    unfold Inspected
    rw [queueInfo, same.present]
  have inactive : ∀ queue, mvm'.inactiveOn traffic queue = mvm.inactiveOn traffic queue := by
    intro queue
    unfold inactiveOn
    rw [queueInfo]
  have first : mvm'.firstInspected traffic = mvm.firstInspected traffic := by
    unfold firstInspected
    simp only [inspected]
  refine ⟨fun queue nonzero looked => ?_, fun some queue found all => ?_⟩
  · rw [inactive, queueInfo]
    exact ok.1 queue nonzero ((inspected queue).mp looked)
  · rw [inactive, queueInfo] at all
    rw [first] at found
    rw [queueInfo]
    exact (ok.2 some queue found all).of_same same

/-- The search for a queue keeps the tables in agreement, and finds one that carries nothing. -/
theorem searchQueue_spec {sta : DqaSta} {tid : Tid} (sound : mvm.Sound)
    (ok : (mvm.takeFreeQueue staId sta tid).2 = none → mvm.InactivityOk traffic (some staId))
    (reply : InactivityReply) :
    Checked mvm (mvm.searchQueue traffic staId sta tid reply).1
      (mvm.searchQueue traffic staId sta tid reply).2 := by
  obtain ⟨same, empty, unchanged⟩ := takeFreeQueue_spec sound staId sta tid
  unfold searchQueue
  dsimp only
  have before := same.checked sound
  cases free : (mvm.takeFreeQueue staId sta tid).2 with
  | some queue =>
    refine ⟨before.sound, before.present, before.unmapped, before.kept, fun other found => ?_⟩
    rw [← Option.some.inj found, same.tidBitmap]
    exact empty queue free
  | none =>
    have checked := inactivityCheck_spec before.sound ((ok free).of_same same (unchanged free))
      reply
    rw [if_neg (Option.some_ne_none staId)] at checked
    dsimp only
    refine ⟨checked.sound, fun whose => ?_, fun whose other unmapped => ?_,
      fun queue first second => ?_, checked.free⟩
    · exact (checked.present whose).trans (same.present whose)
    · exact checked.unmapped whose other (before.unmapped whose other unmapped)
    · obtain ⟨tidBitmap, raStaId⟩ := checked.kept queue first second
      exact ⟨tidBitmap.trans (same.tidBitmap queue), raStaId.trans (same.raStaId queue)⟩

theorem staAllocQueue_sound {tid : Tid} {reply : AllocReply} (sound : mvm.Sound)
    (ok : mvm.AllocOk traffic staId tid reply) (ac : AcNumber) :
    (mvm.staAllocQueue traffic staId ac tid reply).Sound := by
  obtain ⟨guard, succeeds, inactivityOk⟩ := ok
  have unmapped : mvm.txqId staId tid = none := (sound.mac80211Txq staId tid).symm.trans guard
  unfold staAllocQueue
  cases entry : mvm.fwIdToMacId staId with
  | none => exact sound
  | some sta =>
    have present : (mvm.fwIdToMacId staId).isNone = false := by rw [entry, Option.isNone_some]
    have mask : mvm.tfdQueueMsk staId = sta.tfdQueueMsk := by
      rw [tfdQueueMsk, entry]
      rfl
    have checked := searchQueue_spec sound (inactivityOk sta entry) reply.inactivity
    dsimp only
    generalize mvm.searchQueue traffic staId sta tid reply.inactivity = found at checked ⊢
    have marked : ∀ queue status, status ≠ .reserved → SameMaps found.1
        (found.1.modifyQueue queue fun info => { info with status := status }) :=
      fun queue status other => sameMaps_modifyQueue queue _ rfl rfl (.inl rfl) (absurd · other)
    have ready : ∀ queue status sharedQueue, queue ≠ 0 → status ≠ .reserved →
        ((found.1.queueInfo queue).tidBitmap = ∅ ∨ (found.1.queueInfo queue).raStaId = staId) →
        ((found.1.modifyQueue queue fun info => { info with status := status }).enableQueue
          traffic staId ac tid queue sharedQueue reply).Sound := by
      intro queue status sharedQueue nonzero other own
      have same := marked queue status other
      refine enableQueue_sound (checked.sound.of_same same) ?_ ?_ ?_ ?_ nonzero succeeds ac _
      · exact (checked.present staId).trans present
      · exact checked.unmapped staId tid unmapped
      · rw [same.tidBitmap, same.raStaId]
        exact own
      · rw [queueInfo_modifyQueue, if_pos rfl]
        exact other
    cases own : found.2.filter (· ≠ 0) with
    | some queue =>
      obtain ⟨chosen, nonzero⟩ := Option.filter_eq_some_iff.mp own
      refine ready queue .ready false (by simpa using nonzero) ?_
        (.inl (checked.free queue chosen))
      intro free
      cases free
    | none =>
      dsimp only
      cases shared : found.1.getSharedQueue sta.tfdQueueMsk ac with
      | none => exact checked.sound
      | some queue =>
        obtain ⟨member, first, second⟩ := getSharedQueue_mem shared
        rw [← mask] at member
        refine ready queue .shared true first (fun free => by cases free) (.inr ?_)
        exact (checked.kept queue first second).2.trans (sound.owned staId queue member).2

/-! ## Runs -/

/-- A step keeps the tables in agreement. -/
def StepOk (mvm : DqaTables) : DqaEvent → Prop
  | .alloc traffic staId _ tid reply => mvm.AllocOk traffic staId tid reply
  | .inactivityCheck traffic allocForSta _ => mvm.InactivityOk traffic allocForSta
  | .freeInactive _ queue oldSta _ _ => mvm.FreeOk queue oldSta
  | .disableTxq _ queue tid _ => tid ∉ (mvm.queueInfo queue).tidBitmap
  | .unshare .. => True
  | .changeTid .. => True

instance : (event : DqaEvent) → Decidable (mvm.StepOk event)
  | .alloc traffic staId _ tid reply =>
    inferInstanceAs (Decidable (mvm.AllocOk traffic staId tid reply))
  | .inactivityCheck traffic allocForSta _ =>
    inferInstanceAs (Decidable (mvm.InactivityOk traffic allocForSta))
  | .freeInactive _ queue oldSta _ _ => inferInstanceAs (Decidable (mvm.FreeOk queue oldSta))
  | .disableTxq _ queue tid _ =>
    inferInstanceAs (Decidable (tid ∉ (mvm.queueInfo queue).tidBitmap))
  | .unshare .. | .changeTid .. => inferInstanceAs (Decidable True)

theorem Sound.step (sound : mvm.Sound) (event : DqaEvent) (ok : mvm.StepOk event) :
    (dqaStep mvm event).Sound := by
  cases event with
  | alloc traffic staId ac tid reply => exact staAllocQueue_sound sound ok ac
  | inactivityCheck traffic allocForSta reply => exact (inactivityCheck_spec sound ok reply).sound
  | freeInactive traffic queue oldSta newStaId reply =>
    exact sound.of_cleared (freeInactiveQueue_spec sound ok traffic newStaId reply)
  | disableTxq sta queue tid reply => exact sound.of_same (sameMaps_disableTxq sta reply ok)
  | unshare traffic queue reply => exact sound.of_same (sameMaps_unshareQueue traffic queue reply)
  | changeTid queue reply => exact sound.of_same (sameMaps_changeQueueTid queue reply)

end DqaTables

/-- In every run from fresh tables whose steps do not take one of the partial paths, the
tables agree. -/
theorem dqa_tables_consistent {mvm : DqaTables} (fresh : mvm.Fresh) (events : List DqaEvent)
    (run : Admissible dqaStep DqaTables.StepOk mvm events) :
    (events.foldl dqaStep mvm).Consistent :=
  (run.invariant (fun _ event sound ok => DqaTables.Sound.step sound event ok)
    fresh.sound).consistent

/-- A device with three stations, no TID of which has a queue. -/
def threeStations : DqaTables where
  queueInfo _ := ⟨0, false, 0, 0, ∅, .free⟩
  fwIdToMacId staId :=
    if staId < 3 then some ⟨fun _ => none, fun _ => none, ∅, 0xff, Finset.univ⟩ else none

theorem threeStations_fresh : threeStations.Fresh := by
  have entry : ∀ staId, threeStations.fwIdToMacId staId = none ∨
      threeStations.fwIdToMacId staId =
        some ⟨fun _ => none, fun _ => none, ∅, 0xff, Finset.univ⟩ := by
    intro staId
    dsimp only [threeStations]
    split
    · exact .inr rfl
    · exact .inl rfl
  refine ⟨fun _ => rfl, fun staId tid => ?_, fun staId tid => ?_, fun staId => ?_⟩
  · rw [DqaTables.txqId]
    rcases entry staId with absent | present
    · rw [absent, Option.bind_none]
    · rw [present, Option.bind_some]
  · rw [DqaTables.mac80211Txq]
    rcases entry staId with absent | present
    · rw [absent, Option.bind_none]
    · rw [present, Option.bind_some]
  · rw [DqaTables.tfdQueueMsk]
    rcases entry staId with absent | present
    · rw [absent]
      rfl
    · rw [present]
      rfl

/-- No frame is queued, no aggregation is on, and some queues had no frame for a while. -/
def quiet (timedOut : HwQueue → Bool) : DqaTraffic :=
  ⟨fun queue _ => timedOut queue, fun _ _ => false, fun _ _ => .off⟩

/-- All commands succeed, but for the one that updates the station. -/
def replies (staSent : Bool) : AllocReply :=
  ⟨⟨fun _ => ⟨true, true⟩, fun _ => true, true⟩, ⟨true, true⟩, staSent, true⟩

/-- Three TIDs get queues, and the queue of the first is freed when it is inactive. -/
def queuesRun : List DqaEvent :=
  [.alloc (quiet fun _ => false) 1 2 0 (replies true),
    .alloc (quiet fun _ => false) 2 2 3 (replies true),
    .alloc (quiet fun _ => false) 1 0 8 (replies true),
    .inactivityCheck (quiet (· = 10)) none (replies true).inactivity,
    .freeInactive (quiet (· = 10)) 10 (some 1) 2 true,
    .unshare (quiet fun _ => false) 11 ⟨true, true⟩, .changeTid 11 true,
    .disableTxq (some 1) 10 0 true]

theorem dqa_tables_consistent_queues :
    threeStations.Fresh ∧ Admissible dqaStep DqaTables.StepOk threeStations queuesRun ∧
      (queuesRun.foldl dqaStep threeStations).Consistent :=
  have run : Admissible dqaStep DqaTables.StepOk threeStations queuesRun := by decide +kernel
  ⟨threeStations_fresh, run, dqa_tables_consistent threeStations_fresh queuesRun run⟩

/-- The command that updates the station fails, and the queue goes to another station: the
first still names it. -/
theorem dqa_tables_not_consistent :
    threeStations.Fresh ∧
      ¬([.alloc (quiet fun _ => false) 1 2 0 (replies false),
          .alloc (quiet fun _ => false) 2 2 3 (replies true)].foldl dqaStep
        threeStations).Consistent := by
  refine ⟨threeStations_fresh, fun consistent => ?_⟩
  have named : ([.alloc (quiet fun _ => false) 1 2 0 (replies false),
      .alloc (quiet fun _ => false) 2 2 3 (replies true)].foldl dqaStep
      threeStations).txqId 1 0 = some 10 := by decide +kernel
  obtain ⟨sta, present, named⟩ := Option.bind_eq_some_iff.mp named
  have mapped := (consistent.mapped 1 sta present 0 10 (by decide) (by decide +kernel)).mpr named
  revert mapped
  decide +kernel

end Iwlwifi
