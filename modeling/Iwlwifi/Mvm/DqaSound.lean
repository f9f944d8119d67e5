import Iwlwifi.Mvm.DqaTables

/-!
# The four copies of the queue mapping

What it means for the tables to agree, and the three kinds of step that keep them so: one
that leaves the mapping alone, one that unmaps all TIDs of a queue, and one that maps a TID
that has no queue.
-/

namespace Iwlwifi

open Lib

namespace DqaTables

/-! ## The mapping of a station -/

def txqId (mvm : DqaTables) (staId : StaId) (tid : Tid) : Option HwQueue :=
  (mvm.fwIdToMacId staId).bind fun sta => sta.txqId tid

def mac80211Txq (mvm : DqaTables) (staId : StaId) (tid : Tid) : Option HwQueue :=
  (mvm.fwIdToMacId staId).bind fun sta => sta.mac80211Txq tid

def tfdQueueMsk (mvm : DqaTables) (staId : StaId) : Finset HwQueue :=
  ((mvm.fwIdToMacId staId).map DqaSta.tfdQueueMsk).getD ∅

/-- The tables of a device on which no queue carries a TID. -/
structure Fresh (mvm : DqaTables) : Prop where
  tidBitmap : ∀ queue, (mvm.queueInfo queue).tidBitmap = ∅
  txqId : ∀ staId tid, mvm.txqId staId tid = none
  mac80211Txq : ∀ staId tid, mvm.mac80211Txq staId tid = none
  tfdQueueMsk : ∀ staId, mvm.tfdQueueMsk staId = ∅

/-- The tables agree about every station, TID and enabled data queue. -/
structure Consistent (mvm : DqaTables) : Prop where
  mapped : ∀ staId sta, mvm.fwIdToMacId staId = some sta → ∀ tid queue, isDqaDataQueue queue →
    (mvm.queueInfo queue).tidBitmap ≠ ∅ →
    ((tid ∈ (mvm.queueInfo queue).tidBitmap ∧ (mvm.queueInfo queue).raStaId = staId) ↔
      sta.txqId tid = some queue)
  marked : ∀ staId sta, mvm.fwIdToMacId staId = some sta → ∀ tid queue, isDqaDataQueue queue →
    (mvm.queueInfo queue).tidBitmap ≠ ∅ → sta.txqId tid = some queue →
    sta.mac80211Txq tid = some queue ∧ queue ∈ sta.tfdQueueMsk
  carried : ∀ staId sta, mvm.fwIdToMacId staId = some sta → ∀ tid queue,
    sta.mac80211Txq tid = some queue →
    tid ∈ (mvm.queueInfo queue).tidBitmap ∧ (mvm.queueInfo queue).raStaId = staId

/-- The tables agree about every queue, whatever its use, and a station has no queue in its
mask that it does not own. -/
structure Sound (mvm : DqaTables) : Prop where
  mapped : ∀ staId tid queue,
    (tid ∈ (mvm.queueInfo queue).tidBitmap ∧ (mvm.queueInfo queue).raStaId = staId) ↔
      mvm.txqId staId tid = some queue
  mac80211Txq : ∀ staId tid, mvm.mac80211Txq staId tid = mvm.txqId staId tid
  marked : ∀ staId tid queue, mvm.txqId staId tid = some queue → queue ∈ mvm.tfdQueueMsk staId
  owned : ∀ staId queue, queue ∈ mvm.tfdQueueMsk staId →
    (mvm.queueInfo queue).tidBitmap ≠ ∅ ∧ (mvm.queueInfo queue).raStaId = staId
  owner : ∀ queue, (mvm.queueInfo queue).tidBitmap ≠ ∅ →
    (mvm.queueInfo queue).txqTid ∈ (mvm.queueInfo queue).tidBitmap
  reserved : ∀ queue, (mvm.queueInfo queue).status = .reserved →
    (mvm.queueInfo queue).tidBitmap = ∅
  command : (mvm.queueInfo 0).tidBitmap = ∅

variable {mvm mvm' : DqaTables}

theorem Fresh.sound (fresh : mvm.Fresh) : mvm.Sound where
  mapped staId tid queue := by
    rw [fresh.tidBitmap, fresh.txqId]
    exact ⟨fun mapped => absurd mapped.1 (Finset.notMem_empty tid), nofun⟩
  mac80211Txq staId tid := by rw [fresh.mac80211Txq, fresh.txqId]
  marked staId tid queue mapped := by
    rw [fresh.txqId] at mapped
    cases mapped
  owned staId queue member := by
    rw [fresh.tfdQueueMsk] at member
    exact absurd member (Finset.notMem_empty queue)
  owner queue used := absurd (fresh.tidBitmap queue) used
  reserved queue _ := fresh.tidBitmap queue
  command := fresh.tidBitmap 0

theorem Sound.consistent (sound : mvm.Sound) : mvm.Consistent := by
  have entry : ∀ {staId sta}, mvm.fwIdToMacId staId = some sta → ∀ tid,
      mvm.txqId staId tid = sta.txqId tid ∧ mvm.mac80211Txq staId tid = sta.mac80211Txq tid ∧
        mvm.tfdQueueMsk staId = sta.tfdQueueMsk := by
    intro staId sta present tid
    simp only [DqaTables.txqId, DqaTables.mac80211Txq, DqaTables.tfdQueueMsk, present,
      Option.bind_some, Option.map_some, Option.getD_some, and_self]
  refine ⟨fun staId sta present tid queue _ _ => ?_, fun staId sta present tid queue _ _ named => ?_,
    fun staId sta present tid queue named => ?_⟩
  · rw [← (entry present tid).1]
    exact sound.mapped staId tid queue
  · obtain ⟨txqId, txq, msk⟩ := entry present tid
    rw [← txq, ← msk, sound.mac80211Txq, txqId]
    rw [← txqId] at named
    exact ⟨txqId ▸ named, sound.marked staId tid queue named⟩
  · obtain ⟨-, txq, -⟩ := entry present tid
    rw [← txq, sound.mac80211Txq] at named
    exact (sound.mapped staId tid queue).mpr named

/-! ## Steps that leave the mapping alone -/

/-- The mapping is the same, up to which TID of a queue is its owner. -/
structure SameMaps (mvm mvm' : DqaTables) : Prop where
  tidBitmap : ∀ queue, (mvm'.queueInfo queue).tidBitmap = (mvm.queueInfo queue).tidBitmap
  raStaId : ∀ queue, (mvm'.queueInfo queue).raStaId = (mvm.queueInfo queue).raStaId
  txqTid : ∀ queue, (mvm'.queueInfo queue).txqTid = (mvm.queueInfo queue).txqTid ∨
    (mvm'.queueInfo queue).txqTid ∈ (mvm.queueInfo queue).tidBitmap
  status : ∀ queue, (mvm'.queueInfo queue).status = .reserved →
    (mvm.queueInfo queue).status = .reserved
  present : ∀ staId, (mvm'.fwIdToMacId staId).isNone = (mvm.fwIdToMacId staId).isNone
  txqId : ∀ staId tid, mvm'.txqId staId tid = mvm.txqId staId tid
  mac80211Txq : ∀ staId tid, mvm'.mac80211Txq staId tid = mvm.mac80211Txq staId tid
  tfdQueueMsk : ∀ staId, mvm'.tfdQueueMsk staId = mvm.tfdQueueMsk staId

theorem SameMaps.refl (mvm : DqaTables) : SameMaps mvm mvm :=
  ⟨fun _ => rfl, fun _ => rfl, fun _ => .inl rfl, fun _ h => h, fun _ => rfl, fun _ _ => rfl,
    fun _ _ => rfl, fun _ => rfl⟩

theorem SameMaps.trans {mvm'' : DqaTables} (first : SameMaps mvm mvm')
    (second : SameMaps mvm' mvm'') : SameMaps mvm mvm'' where
  tidBitmap queue := (second.tidBitmap queue).trans (first.tidBitmap queue)
  raStaId queue := (second.raStaId queue).trans (first.raStaId queue)
  txqTid queue := by
    rcases second.txqTid queue with same | member
    · rw [same]
      exact first.txqTid queue
    · exact .inr (first.tidBitmap queue ▸ member)
  status queue reserved := first.status queue (second.status queue reserved)
  present staId := (second.present staId).trans (first.present staId)
  txqId staId tid := (second.txqId staId tid).trans (first.txqId staId tid)
  mac80211Txq staId tid := (second.mac80211Txq staId tid).trans (first.mac80211Txq staId tid)
  tfdQueueMsk staId := (second.tfdQueueMsk staId).trans (first.tfdQueueMsk staId)

theorem Sound.of_same (sound : mvm.Sound) (same : SameMaps mvm mvm') : mvm'.Sound where
  mapped staId tid queue := by
    rw [same.tidBitmap, same.raStaId, same.txqId]
    exact sound.mapped staId tid queue
  mac80211Txq staId tid := by
    rw [same.mac80211Txq, same.txqId]
    exact sound.mac80211Txq staId tid
  marked staId tid queue := by
    rw [same.txqId, same.tfdQueueMsk]
    exact sound.marked staId tid queue
  owned staId queue := by
    rw [same.tfdQueueMsk, same.tidBitmap, same.raStaId]
    exact sound.owned staId queue
  owner queue := by
    rw [same.tidBitmap]
    intro used
    rcases same.txqTid queue with txqTid | member
    · rw [txqTid]
      exact sound.owner queue used
    · exact member
  reserved queue reserved := by
    rw [same.tidBitmap]
    exact sound.reserved queue (same.status queue reserved)
  command := by
    rw [same.tidBitmap]
    exact sound.command

section

variable (queue other : HwQueue) (staId : StaId) (tid : Tid)

theorem queueInfo_modifyQueue (f : DqaTxqInfo → DqaTxqInfo) :
    (mvm.modifyQueue queue f).queueInfo other =
      if other = queue then f (mvm.queueInfo queue) else mvm.queueInfo other :=
  Function.update_apply ..

theorem fwIdToMacId_modifySta (f : DqaSta → DqaSta) (whose : StaId) :
    (mvm.modifySta staId f).fwIdToMacId whose =
      if whose = staId then (mvm.fwIdToMacId staId).map f else mvm.fwIdToMacId whose :=
  Function.update_apply ..

end

/-- A change of a queue that leaves its mapping alone. -/
theorem sameMaps_modifyQueue (queue : HwQueue) (f : DqaTxqInfo → DqaTxqInfo)
    (tidBitmap : (f (mvm.queueInfo queue)).tidBitmap = (mvm.queueInfo queue).tidBitmap)
    (raStaId : (f (mvm.queueInfo queue)).raStaId = (mvm.queueInfo queue).raStaId)
    (txqTid : (f (mvm.queueInfo queue)).txqTid = (mvm.queueInfo queue).txqTid ∨
      (f (mvm.queueInfo queue)).txqTid ∈ (mvm.queueInfo queue).tidBitmap)
    (status : (f (mvm.queueInfo queue)).status = .reserved →
      (mvm.queueInfo queue).status = .reserved) :
    SameMaps mvm (mvm.modifyQueue queue f) := by
  refine ⟨fun other => ?_, fun other => ?_, fun other => ?_, fun other => ?_, fun _ => rfl,
    fun _ _ => rfl, fun _ _ => rfl, fun _ => rfl⟩ <;> rw [queueInfo_modifyQueue] <;>
    by_cases same : other = queue
  · rw [if_pos same, same, tidBitmap]
  · rw [if_neg same]
  · rw [if_pos same, same, raStaId]
  · rw [if_neg same]
  · rw [if_pos same, same]
    exact txqTid
  · rw [if_neg same]
    exact .inl rfl
  · rw [if_pos same, same]
    exact status
  · rw [if_neg same]
    exact id

section

variable (staId whose : StaId) (tid : Tid) (f : DqaSta → DqaSta)

/-- The entry of a station that may have changed. -/
theorem fwIdToMacId_modifySta_cases :
    (mvm.modifySta staId f).fwIdToMacId whose = mvm.fwIdToMacId whose ∨
      ∃ sta, mvm.fwIdToMacId whose = some sta ∧
        (mvm.modifySta staId f).fwIdToMacId whose = some (f sta) := by
  rw [fwIdToMacId_modifySta]
  by_cases same : whose = staId
  · rw [if_pos same, same]
    cases mvm.fwIdToMacId staId with
    | none => exact .inl rfl
    | some sta => exact .inr ⟨sta, rfl, rfl⟩
  · rw [if_neg same]
    exact .inl rfl

theorem isNone_modifySta :
    ((mvm.modifySta staId f).fwIdToMacId whose).isNone = (mvm.fwIdToMacId whose).isNone := by
  rcases fwIdToMacId_modifySta_cases staId whose f with same | ⟨sta, before, after⟩
  · rw [same]
  · rw [before, after]
    rfl

theorem txqId_modifySta (same : ∀ sta, (f sta).txqId = sta.txqId) :
    (mvm.modifySta staId f).txqId whose tid = mvm.txqId whose tid := by
  unfold txqId
  rcases fwIdToMacId_modifySta_cases staId whose f with unchanged | ⟨sta, before, after⟩
  · rw [unchanged]
  · rw [before, after, Option.bind_some, Option.bind_some, same]

theorem mac80211Txq_modifySta (same : ∀ sta, (f sta).mac80211Txq = sta.mac80211Txq) :
    (mvm.modifySta staId f).mac80211Txq whose tid = mvm.mac80211Txq whose tid := by
  unfold mac80211Txq
  rcases fwIdToMacId_modifySta_cases staId whose f with unchanged | ⟨sta, before, after⟩
  · rw [unchanged]
  · rw [before, after, Option.bind_some, Option.bind_some, same]

theorem tfdQueueMsk_modifySta (same : ∀ sta, (f sta).tfdQueueMsk = sta.tfdQueueMsk) :
    (mvm.modifySta staId f).tfdQueueMsk whose = mvm.tfdQueueMsk whose := by
  unfold tfdQueueMsk
  rcases fwIdToMacId_modifySta_cases staId whose f with unchanged | ⟨sta, before, after⟩
  · rw [unchanged]
  · rw [before, after, Option.map_some, Option.map_some, Option.getD_some, Option.getD_some, same]

end

/-- A change of a station that leaves its mapping alone. -/
theorem sameMaps_modifySta (staId : StaId) (f : DqaSta → DqaSta)
    (txqId : ∀ sta, (f sta).txqId = sta.txqId)
    (mac80211Txq : ∀ sta, (f sta).mac80211Txq = sta.mac80211Txq)
    (tfdQueueMsk : ∀ sta, (f sta).tfdQueueMsk = sta.tfdQueueMsk) :
    SameMaps mvm (mvm.modifySta staId f) :=
  ⟨fun _ => rfl, fun _ => rfl, fun _ => .inl rfl, fun _ => id, fun whose =>
    isNone_modifySta staId whose f, fun whose tid => txqId_modifySta staId whose tid f txqId,
    fun whose tid => mac80211Txq_modifySta staId whose tid f mac80211Txq,
    fun whose => tfdQueueMsk_modifySta staId whose f tfdQueueMsk⟩

theorem sameMaps_invalidateStaQueue (queue : HwQueue) (tids : Finset Tid) :
    SameMaps mvm (mvm.invalidateStaQueue queue tids) :=
  sameMaps_modifySta _ _ (fun _ => rfl) (fun _ => rfl) fun _ => rfl

/-- Redirecting a queue to one of its TIDs. -/
theorem sameMaps_redirectQueue {queue : HwQueue} {tid : Tid} (ac : AcNumber) (force : Bool)
    (reply : RedirectReply) (member : tid ∈ (mvm.queueInfo queue).tidBitmap) :
    SameMaps mvm (mvm.redirectQueue queue tid ac force reply).1 := by
  unfold redirectQueue
  split
  · exact .refl mvm
  · split
    · exact .refl mvm
    · exact @sameMaps_modifyQueue mvm queue
        (fun info => { info with txqTid := tid, mac80211Ac := ac }) rfl rfl (.inr member) id

theorem mem_of_firstTid {tidBitmap : Finset Tid} {tid : Tid}
    (first : firstTid tidBitmap = some tid) : tid ∈ tidBitmap :=
  by simpa using List.find?_some first

theorem sameMaps_changeQueueTid (queue : HwQueue) (reply : Bool) :
    SameMaps mvm (mvm.changeQueueTid queue reply) := by
  unfold changeQueueTid
  cases first : firstTid (mvm.queueInfo queue).tidBitmap with
  | none => exact .refl mvm
  | some tid =>
      dsimp only
      split
      · exact sameMaps_modifyQueue queue _ rfl rfl (.inr (mem_of_firstTid first)) id
      · exact .refl mvm

theorem sameMaps_unshareQueue (traffic : DqaTraffic) (queue : HwQueue) (reply : RedirectReply) :
    SameMaps mvm (mvm.unshareQueue traffic queue reply) := by
  unfold unshareQueue
  dsimp only
  cases first : firstTid (mvm.queueInfo queue).tidBitmap with
  | none => exact .refl mvm
  | some tid =>
      have redirected := sameMaps_redirectQueue (tidToMac80211Ac tid) true reply
        (mem_of_firstTid first)
      have ready : ∀ mvm : DqaTables,
          SameMaps mvm (mvm.modifyQueue queue fun info => { info with status := .ready }) :=
        fun mvm => sameMaps_modifyQueue queue _ rfl rfl (.inl rfl) nofun
      dsimp only
      split
      · exact .refl mvm
      · split
        · exact .refl mvm
        · split
          · exact redirected
          · split
            · refine (redirected.trans ?_).trans (ready _)
              exact sameMaps_modifySta _ _ (fun _ => rfl) (fun _ => rfl) fun _ => rfl
            · exact redirected.trans (ready _)

/-! ## Steps that change the mapping -/

/-- All TIDs of a queue are unmapped from it. -/
structure Cleared (mvm mvm' : DqaTables) (queue : HwQueue) : Prop where
  tidBitmap : ∀ other, (mvm'.queueInfo other).tidBitmap =
    if other = queue then ∅ else (mvm.queueInfo other).tidBitmap
  raStaId : ∀ other, (mvm'.queueInfo other).raStaId = (mvm.queueInfo other).raStaId
  txqTid : ∀ other, (mvm'.queueInfo other).txqTid = (mvm.queueInfo other).txqTid ∨
    (mvm'.queueInfo other).txqTid ∈ (mvm.queueInfo other).tidBitmap
  status : ∀ other, (mvm'.queueInfo other).status = .reserved →
    (mvm.queueInfo other).status = .reserved
  present : ∀ staId, (mvm'.fwIdToMacId staId).isNone = (mvm.fwIdToMacId staId).isNone
  txqId : ∀ staId tid, mvm'.txqId staId tid =
    if staId = (mvm.queueInfo queue).raStaId ∧ tid ∈ (mvm.queueInfo queue).tidBitmap then none
    else mvm.txqId staId tid
  mac80211Txq : ∀ staId tid, mvm'.mac80211Txq staId tid =
    if staId = (mvm.queueInfo queue).raStaId ∧ tid ∈ (mvm.queueInfo queue).tidBitmap then none
    else mvm.mac80211Txq staId tid
  tfdQueueMsk : ∀ staId, mvm'.tfdQueueMsk staId =
    if staId = (mvm.queueInfo queue).raStaId then (mvm.tfdQueueMsk staId).erase queue
    else mvm.tfdQueueMsk staId

theorem Sound.of_cleared {queue : HwQueue} (sound : mvm.Sound)
    (cleared : Cleared mvm mvm' queue) : mvm'.Sound := by
  have kept : ∀ {staId tid other}, mvm'.txqId staId tid = some other →
      mvm.txqId staId tid = some other ∧ other ≠ queue := by
    intro staId tid other named
    rw [cleared.txqId] at named
    split at named
    · cases named
    · rename_i outside
      refine ⟨named, fun same => outside ?_⟩
      subst same
      obtain ⟨member, owner⟩ := (sound.mapped staId tid other).mpr named
      exact ⟨owner.symm, member⟩
  refine ⟨fun staId tid other => ?_, fun staId tid => ?_, fun staId tid other named => ?_,
    fun staId other member => ?_, fun other used => ?_, fun other reserved => ?_, ?_⟩
  · rw [cleared.tidBitmap, cleared.raStaId]
    constructor
    · intro ⟨member, owner⟩
      by_cases same : other = queue
      · rw [if_pos same] at member
        exact absurd member (Finset.notMem_empty tid)
      · rw [if_neg same] at member
        have named := (sound.mapped staId tid other).mp ⟨member, owner⟩
        rw [cleared.txqId, if_neg]
        · exact named
        · rintro ⟨whose, member'⟩
          have again := (sound.mapped staId tid queue).mp ⟨member', whose.symm⟩
          rw [named] at again
          exact same (Option.some.inj again)
    · intro named
      obtain ⟨before, different⟩ := kept named
      rw [if_neg different]
      exact (sound.mapped staId tid other).mpr before
  · rw [cleared.mac80211Txq, cleared.txqId, sound.mac80211Txq]
  · obtain ⟨before, different⟩ := kept named
    have marked := sound.marked staId tid other before
    rw [cleared.tfdQueueMsk]
    split
    · exact Finset.mem_erase.mpr ⟨different, marked⟩
    · exact marked
  · rw [cleared.tfdQueueMsk] at member
    rw [cleared.tidBitmap, cleared.raStaId]
    by_cases whose : staId = (mvm.queueInfo queue).raStaId
    · rw [if_pos whose] at member
      obtain ⟨different, before⟩ := Finset.mem_erase.mp member
      rw [if_neg different]
      exact sound.owned staId other before
    · rw [if_neg whose] at member
      obtain ⟨used, owner⟩ := sound.owned staId other member
      have different : other ≠ queue := by
        intro same
        rw [same] at owner
        exact whose owner.symm
      rw [if_neg different]
      exact ⟨used, owner⟩
  · rw [cleared.tidBitmap] at used ⊢
    by_cases same : other = queue
    · rw [if_pos same] at used
      exact absurd rfl used
    · rw [if_neg same] at used ⊢
      rcases cleared.txqTid other with txqTid | member
      · rw [txqTid]
        exact sound.owner other used
      · exact member
  · rw [cleared.tidBitmap]
    split
    · rfl
    · exact sound.reserved other (cleared.status other reserved)
  · rw [cleared.tidBitmap]
    split
    · rfl
    · exact sound.command

/-- A TID is mapped to a queue. -/
structure Enabled (mvm mvm' : DqaTables) (staId : StaId) (tid : Tid) (queue : HwQueue) :
    Prop where
  tidBitmap : ∀ other, (mvm'.queueInfo other).tidBitmap =
    if other = queue then insert tid (mvm.queueInfo queue).tidBitmap
    else (mvm.queueInfo other).tidBitmap
  raStaId : ∀ other, (mvm'.queueInfo other).raStaId =
    if other = queue then staId else (mvm.queueInfo other).raStaId
  txqTid : ∀ other, (mvm'.queueInfo other).txqTid =
    if other = queue ∧ (mvm.queueInfo queue).tidBitmap = ∅ then tid
    else (mvm.queueInfo other).txqTid
  status : ∀ other, (mvm'.queueInfo other).status = (mvm.queueInfo other).status
  txqId : ∀ whose other, mvm'.txqId whose other =
    if whose = staId ∧ other = tid then some queue else mvm.txqId whose other
  mac80211Txq : ∀ whose other, mvm'.mac80211Txq whose other =
    if whose = staId ∧ other = tid then some queue else mvm.mac80211Txq whose other
  tfdQueueMsk : ∀ whose, mvm'.tfdQueueMsk whose =
    if whose = staId then insert queue (mvm.tfdQueueMsk whose) else mvm.tfdQueueMsk whose

/-- A TID without a queue is mapped to one that carries nothing, or to one of its station. -/
theorem Sound.of_enabled {staId : StaId} {tid : Tid} {queue : HwQueue} (sound : mvm.Sound)
    (enabled : Enabled mvm mvm' staId tid queue) (unmapped : mvm.txqId staId tid = none)
    (own : (mvm.queueInfo queue).tidBitmap = ∅ ∨ (mvm.queueInfo queue).raStaId = staId)
    (status : (mvm.queueInfo queue).status ≠ .reserved) (command : queue ≠ 0) : mvm'.Sound := by
  refine ⟨fun whose other at_queue => ?_, fun whose other => ?_, fun whose other at_queue => ?_,
    fun whose at_queue member => ?_, fun at_queue used => ?_, fun at_queue reserved => ?_, ?_⟩
  · rw [enabled.tidBitmap, enabled.raStaId, enabled.txqId]
    have before := sound.mapped whose other at_queue
    by_cases same : at_queue = queue
    · rw [if_pos same, if_pos same, same, Finset.mem_insert]
      rw [same] at before
      by_cases this : whose = staId ∧ other = tid
      · rw [if_pos this]
        exact ⟨fun _ => rfl, fun _ => ⟨.inl this.2, this.1.symm⟩⟩
      · rw [if_neg this, ← before]
        constructor
        · intro ⟨member, owner⟩
          rcases member with new | old
          · exact absurd ⟨owner.symm, new⟩ this
          · rcases own with empty | own
            · rw [empty] at old
              exact absurd old (Finset.notMem_empty other)
            · exact ⟨old, own.trans owner⟩
        · intro ⟨member, owner⟩
          rcases own with empty | own
          · rw [empty] at member
            exact absurd member (Finset.notMem_empty other)
          · exact ⟨.inr member, own.symm.trans owner⟩
    · rw [if_neg same, if_neg same, before]
      by_cases this : whose = staId ∧ other = tid
      · rw [if_pos this, this.1, this.2, unmapped]
        exact ⟨nofun, fun named => absurd (Option.some.inj named).symm same⟩
      · rw [if_neg this]
  · rw [enabled.mac80211Txq, enabled.txqId, sound.mac80211Txq]
  · rw [enabled.txqId, enabled.tfdQueueMsk]
    by_cases this : whose = staId ∧ other = tid
    · rw [if_pos this, if_pos this.1]
      intro named
      rw [← Option.some.inj named]
      exact Finset.mem_insert_self _ _
    · rw [if_neg this]
      intro named
      have marked := sound.marked whose other at_queue named
      split
      · exact Finset.mem_insert_of_mem marked
      · exact marked
  · rw [enabled.tfdQueueMsk] at member
    rw [enabled.tidBitmap, enabled.raStaId]
    by_cases same : at_queue = queue
    · rw [if_pos same, if_pos same]
      refine ⟨Finset.insert_ne_empty _ _, ?_⟩
      by_contra different
      rw [if_neg fun whose => different whose.symm, same] at member
      obtain ⟨used, owner⟩ := sound.owned whose queue member
      rcases own with empty | own
      · exact used empty
      · exact different (own.symm.trans owner)
    · rw [if_neg same, if_neg same]
      refine sound.owned whose at_queue ?_
      split at member
      · exact (Finset.mem_insert.mp member).resolve_left same
      · exact member
  · rw [enabled.tidBitmap] at used ⊢
    rw [enabled.txqTid]
    by_cases same : at_queue = queue
    · rw [if_pos same]
      by_cases empty : (mvm.queueInfo queue).tidBitmap = ∅
      · rw [if_pos ⟨same, empty⟩]
        exact Finset.mem_insert_self _ _
      · rw [if_neg fun both => empty both.2, same]
        exact Finset.mem_insert_of_mem (sound.owner queue empty)
    · rw [if_neg same] at used ⊢
      rw [if_neg fun both => same both.1]
      exact sound.owner at_queue used
  · rw [enabled.status] at reserved
    rw [enabled.tidBitmap]
    by_cases same : at_queue = queue
    · rw [same] at reserved
      exact absurd reserved status
    · rw [if_neg same]
      exact sound.reserved at_queue reserved
  · rw [enabled.tidBitmap, if_neg command.symm]
    exact sound.command

/-! ## Disabling and freeing -/

/-- Disabling a queue for a TID that it does not carry. -/
theorem sameMaps_disableTxq (sta : Option StaId) {queue : HwQueue} {tid : Tid} (reply : Bool)
    (foreign : tid ∉ (mvm.queueInfo queue).tidBitmap) :
    SameMaps mvm (mvm.disableTxq sta queue tid reply).1 := by
  unfold disableTxq
  dsimp only
  by_cases empty : (mvm.queueInfo queue).tidBitmap = ∅
  · rw [if_pos empty]
    exact .refl mvm
  · have unchanged := Finset.erase_eq_of_notMem foreign
    rw [if_neg empty, unchanged, if_pos empty]
    dsimp only
    exact sameMaps_modifyQueue queue _ unchanged rfl (.inl rfl) id

section

variable (staId whose : StaId) (tid other : Tid)

theorem mac80211Txq_clear :
    (mvm.modifySta staId fun sta =>
        { sta with mac80211Txq := Function.update sta.mac80211Txq tid none }).mac80211Txq whose
          other =
      if whose = staId ∧ other = tid then none else mvm.mac80211Txq whose other := by
  unfold mac80211Txq
  rw [fwIdToMacId_modifySta]
  by_cases same : whose = staId
  · rw [if_pos same, same]
    cases mvm.fwIdToMacId staId with
    | none => simp
    | some sta => simp [Function.update_apply]
  · rw [if_neg same, if_neg fun both => same both.1]

end

/-- What the removal of the marking of a queue leaves. -/
theorem removeStaQueueMarking_spec (queue : HwQueue) (staId : StaId) :
    (∀ tid, (mvm.removeStaQueueMarking queue).txqId staId tid =
      if staId = (mvm.queueInfo queue).raStaId ∧ tid ∈ (mvm.queueInfo queue).tidBitmap then none
      else mvm.txqId staId tid) ∧
    (∀ tid, (mvm.removeStaQueueMarking queue).mac80211Txq staId tid =
      if staId = (mvm.queueInfo queue).raStaId ∧ tid ∈ (mvm.queueInfo queue).tidBitmap then none
      else mvm.mac80211Txq staId tid) ∧
    (mvm.removeStaQueueMarking queue).tfdQueueMsk staId =
      if staId = (mvm.queueInfo queue).raStaId then (mvm.tfdQueueMsk staId).erase queue
      else mvm.tfdQueueMsk staId := by
  unfold removeStaQueueMarking txqId mac80211Txq tfdQueueMsk
  dsimp only
  rw [fwIdToMacId_modifySta]
  by_cases same : staId = (mvm.queueInfo queue).raStaId
  · rw [if_pos same, if_pos same, ← same]
    cases mvm.fwIdToMacId staId with
    | none => simp
    | some sta => exact ⟨fun tid => by simp, fun tid => by simp, rfl⟩
  · simp only [same, false_and, if_false, implies_true, and_self]

/-- Freeing an inactive queue keeps the tables in agreement: the queue carries at most one
TID, and the station that is passed as its owner is, or has no queue for that TID. -/
def FreeOk (mvm : DqaTables) (queue : HwQueue) (oldSta : Option StaId) : Prop :=
  (mvm.queueInfo queue).tidBitmap.card ≤ 1 ∧
    ∀ tid ∈ (mvm.queueInfo queue).tidBitmap, ∀ old ∈ oldSta,
      old = (mvm.queueInfo queue).raStaId ∨ mvm.mac80211Txq old tid = none

instance (queue : HwQueue) (oldSta : Option StaId) : Decidable (mvm.FreeOk queue oldSta) :=
  inferInstanceAs (Decidable (_ ∧ _))

/-- Changes that leave the mapping alone may follow. -/
theorem Cleared.trans_same {mvm'' : DqaTables} {queue : HwQueue}
    (cleared : Cleared mvm mvm' queue) (same : SameMaps mvm' mvm'') :
    Cleared mvm mvm'' queue where
  tidBitmap other := (same.tidBitmap other).trans (cleared.tidBitmap other)
  raStaId other := (same.raStaId other).trans (cleared.raStaId other)
  txqTid other := by
    rcases same.txqTid other with txqTid | member
    · rw [txqTid]
      exact cleared.txqTid other
    · rw [cleared.tidBitmap] at member
      split at member
      · exact absurd member (Finset.notMem_empty _)
      · exact .inr member
  status other reserved := cleared.status other (same.status other reserved)
  present staId := (same.present staId).trans (cleared.present staId)
  txqId staId tid := (same.txqId staId tid).trans (cleared.txqId staId tid)
  mac80211Txq staId tid := (same.mac80211Txq staId tid).trans (cleared.mac80211Txq staId tid)
  tfdQueueMsk staId := (same.tfdQueueMsk staId).trans (cleared.tfdQueueMsk staId)

/-- A queue without an owner carries nothing. -/
theorem Sound.empty_of_absent (sound : mvm.Sound) {queue : HwQueue}
    (absent : mvm.fwIdToMacId (mvm.queueInfo queue).raStaId = none) :
    (mvm.queueInfo queue).tidBitmap = ∅ := by
  by_contra used
  have named := (sound.mapped _ _ queue).mp ⟨sound.owner queue used, rfl⟩
  rw [DqaTables.txqId, absent] at named
  cases named

theorem Sound.notMem_of_empty (sound : mvm.Sound) {queue : HwQueue}
    (empty : (mvm.queueInfo queue).tidBitmap = ∅) (staId : StaId) :
    queue ∉ mvm.tfdQueueMsk staId :=
  fun member => (sound.owned staId queue member).1 empty

/-- The marking is removed and the last TID of the queue disabled. -/
theorem cleared_of_marking {queue : HwQueue} {oldSta : Option StaId} (sound : mvm.Sound)
    (freeOk : mvm.FreeOk queue oldSta) (reply : Bool)
    (marking : SameMaps (mvm.removeStaQueueMarking queue) mvm') :
    Cleared mvm (mvm'.disableTxq oldSta queue (mvm.queueInfo queue).txqTid reply).1 queue := by
  have txqId : ∀ staId tid, mvm'.txqId staId tid = _ := fun staId tid =>
    (marking.txqId staId tid).trans ((removeStaQueueMarking_spec queue staId).1 tid)
  have txq : ∀ staId tid, mvm'.mac80211Txq staId tid = _ := fun staId tid =>
    (marking.mac80211Txq staId tid).trans ((removeStaQueueMarking_spec queue staId).2.1 tid)
  have msk : ∀ staId, mvm'.tfdQueueMsk staId = _ := fun staId =>
    (marking.tfdQueueMsk staId).trans (removeStaQueueMarking_spec queue staId).2.2
  have present : ∀ staId, (mvm'.fwIdToMacId staId).isNone = (mvm.fwIdToMacId staId).isNone :=
    fun staId => (marking.present staId).trans (isNone_modifySta _ _ _)
  have bitmap : (mvm'.queueInfo queue).tidBitmap = (mvm.queueInfo queue).tidBitmap :=
    marking.tidBitmap queue
  by_cases empty : (mvm.queueInfo queue).tidBitmap = ∅
  · have same : (mvm'.disableTxq oldSta queue (mvm.queueInfo queue).txqTid reply).1 = mvm' := by
      unfold disableTxq
      dsimp only
      rw [if_pos (bitmap.trans empty)]
    rw [same]
    refine ⟨fun other => ?_, marking.raStaId, marking.txqTid, marking.status, present, txqId, txq,
      msk⟩
    split
    · rename_i this
      rw [this]
      exact bitmap.trans empty
    · exact marking.tidBitmap other
  · have member := sound.owner queue empty
    have single : (mvm.queueInfo queue).tidBitmap = {(mvm.queueInfo queue).txqTid} :=
      (Finset.card_le_one_iff_subset_singleton.mp freeOk.1).elim fun tid subset => by
        have only := Finset.mem_singleton.mp (subset member)
        rw [only]
        exact Finset.Subset.antisymm subset
          (Finset.singleton_subset_iff.mpr (only ▸ member))
    have last : (mvm'.queueInfo queue).tidBitmap.erase (mvm.queueInfo queue).txqTid = ∅ := by
      rw [bitmap, single, Finset.erase_singleton]
    have cleared : Cleared mvm (mvm'.modifyQueue queue fun info =>
        { info with tidBitmap := ∅, status := .free, reserved := false }) queue := by
      refine ⟨fun other => ?_, fun other => ?_, fun other => ?_, fun other => ?_, present, txqId,
        txq, msk⟩ <;> rw [queueInfo_modifyQueue] <;> by_cases same : other = queue
      · rw [if_pos same, if_pos same]
      · rw [if_neg same, if_neg same]
        exact marking.tidBitmap other
      · rw [if_pos same, same]
        exact marking.raStaId queue
      · rw [if_neg same]
        exact marking.raStaId other
      · rw [if_pos same, same]
        exact marking.txqTid queue
      · rw [if_neg same]
        exact marking.txqTid other
      · rw [if_pos same]
        exact nofun
      · rw [if_neg same]
        exact marking.status other
    unfold disableTxq
    dsimp only
    rw [if_neg (bitmap ▸ empty), if_neg (not_not.mpr last)]
    cases oldSta with
    | none => exact cleared
    | some old =>
        dsimp only
        refine ⟨cleared.tidBitmap, cleared.raStaId, cleared.txqTid, cleared.status,
          fun staId => (isNone_modifySta _ _ _).trans (present staId),
          fun staId tid => ?_, fun staId tid => ?_, fun staId => ?_⟩
        · refine (txqId_modifySta _ _ _ _ ?_).trans (txqId staId tid)
          exact fun _ => rfl
        · rw [mac80211Txq_clear, cleared.mac80211Txq]
          by_cases this : staId = old ∧ tid = (mvm.queueInfo queue).txqTid
          · rw [if_pos this, this.1, this.2]
            rcases freeOk.2 _ member old rfl with owner | free
            · rw [if_pos ⟨owner, member⟩]
            · rw [free, ite_self]
          · rw [if_neg this]
        · refine (tfdQueueMsk_modifySta _ _ _ ?_).trans (msk staId)
          exact fun _ => rfl

/-- Freeing an inactive queue unmaps its TID. -/
theorem freeInactiveQueue_spec {queue : HwQueue} {oldSta : Option StaId} (sound : mvm.Sound)
    (freeOk : mvm.FreeOk queue oldSta) (traffic : DqaTraffic) (newStaId : StaId)
    (reply : Bool) :
    Cleared mvm (mvm.freeInactiveQueue traffic queue oldSta newStaId reply).1 queue := by
  unfold freeInactiveQueue
  dsimp only
  cases owner : mvm.fwIdToMacId (mvm.queueInfo queue).raStaId with
  | none =>
      have empty := sound.empty_of_absent owner
      rw [Option.isNone_none, if_pos rfl]
      refine ⟨fun other => ?_, fun _ => rfl, fun _ => .inl rfl, fun _ => id, fun _ => rfl,
        fun staId tid => ?_, fun staId tid => ?_, fun staId => ?_⟩
      · split
        · rename_i same
          rw [same]
          exact empty
        · rfl
      · rw [empty, if_neg fun both => Finset.notMem_empty tid both.2]
      · rw [empty, if_neg fun both => Finset.notMem_empty tid both.2]
      · change mvm.tfdQueueMsk staId = _
        rw [Finset.erase_eq_of_notMem (sound.notMem_of_empty empty staId), ite_self]
  | some sta =>
      have marking : ∀ tids, SameMaps (mvm.removeStaQueueMarking queue)
          (if tids ≠ ∅ then (mvm.removeStaQueueMarking queue).invalidateStaQueue queue tids
          else mvm.removeStaQueueMarking queue) := by
        intro tids
        split
        · exact sameMaps_invalidateStaQueue queue tids
        · exact .refl _
      have cleared := cleared_of_marking sound freeOk reply
        (marking (mvm.getQueueAggTids traffic queue))
      rw [Option.isNone_some, if_neg Bool.false_ne_true]
      generalize (if mvm.getQueueAggTids traffic queue ≠ ∅ then _ else _) = marked at cleared ⊢
      split
      · exact cleared
      · split
        · exact cleared.trans_same (sameMaps_invalidateStaQueue queue ∅)
        · exact cleared

end DqaTables

end Iwlwifi
