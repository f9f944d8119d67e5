import Mathlib.Data.Fintype.Basic
import Mathlib.Data.Finset.Card
import Iwlwifi.Lib.Run

/-!
# DQA queue tables

In dynamic queue allocation a TID of a station has a hardware queue, alone or shared with
other TIDs of the station.  The mapping is written down four times: in the bitmap and the
owner of the queue, in the TID data of the station, in the queue mask of the station, and in
the mac80211 queue of the TID.  This module embeds the functions that change it, for the
devices without the new Tx API.

What the driver finds out from elsewhere is an argument: which TIDs had no frame for a while,
which have frames queued, the state of their aggregation, and whether a firmware command
succeeds.
-/

namespace Iwlwifi

open Function (update)

/-- An index below `IWL_MAX_HW_QUEUES`, `IWL_MVM_STATION_COUNT` and `IWL_MAX_TID_COUNT + 1`. -/
abbrev HwQueue := Fin 32

abbrev StaId := Fin 16

abbrev Tid := Fin 9

/-- `enum ieee80211_ac_numbers`: voice, video, best effort and background. -/
abbrev AcNumber := Fin 4

/-- `IWL_MAX_TID_COUNT`, the TID of management frames. -/
def mgmtTid : Tid := 8

def tidToMac80211Ac : Tid → AcNumber
  | 0 | 3 => 2
  | 1 | 2 => 3
  | 4 | 5 => 1
  | 6 | 7 | 8 => 0

def dqaBssClientQueue : HwQueue := 4
def dqaMinMgmtQueue : HwQueue := 5
def dqaMaxMgmtQueue : HwQueue := 8
def dqaMinDataQueue : HwQueue := 10
def dqaMaxDataQueue : HwQueue := 31

def isDqaDataQueue (queue : HwQueue) : Prop :=
  dqaMinDataQueue ≤ queue ∧ queue ≤ dqaMaxDataQueue

def isDqaMgmtQueue (queue : HwQueue) : Prop :=
  dqaMinMgmtQueue ≤ queue ∧ queue ≤ dqaMaxMgmtQueue

instance : DecidablePred isDqaDataQueue := fun _ => inferInstanceAs (Decidable (_ ∧ _))

instance : DecidablePred isDqaMgmtQueue := fun _ => inferInstanceAs (Decidable (_ ∧ _))

inductive MvmQueueStatus
  | free
  | reserved
  | ready
  | shared
deriving DecidableEq

inductive MvmAggState
  | off
  | queued
  | starting
  | on
  | emptyingHwQueueAddba
  | emptyingHwQueueDelba
deriving DecidableEq

/-- `struct iwl_mvm_dqa_txq_info`. -/
structure DqaTxqInfo where
  raStaId : StaId
  reserved : Bool
  mac80211Ac : AcNumber
  txqTid : Tid
  tidBitmap : Finset Tid
  status : MvmQueueStatus

/-- `struct iwl_mvm_sta`: the queue of each TID, which is `none` for
`IWL_MVM_INVALID_QUEUE`, the one that its mac80211 queue names, and the queues of the
station.  `reservedQueue` is a byte that is 0xff where there is none. -/
structure DqaSta where
  txqId : Tid → Option HwQueue
  mac80211Txq : Tid → Option HwQueue
  tfdQueueMsk : Finset HwQueue
  reservedQueue : Nat
  tidDisableAgg : Finset Tid

structure DqaTables where
  queueInfo : HwQueue → DqaTxqInfo
  fwIdToMacId : StaId → Option DqaSta

/-- What the driver sees of the traffic. -/
structure DqaTraffic where
  timedOut : HwQueue → Tid → Bool
  queued : StaId → Tid → Bool
  aggState : StaId → Tid → MvmAggState

/-- Whether a queue is drained, and whether the command that disables it succeeds. -/
structure RedirectReply where
  drained : Bool
  disabled : Bool

/-- The replies to the commands of an inactivity check. -/
structure InactivityReply where
  unshared : HwQueue → RedirectReply
  changed : HwQueue → Bool
  freed : Bool

/-- The replies to the commands of an allocation. -/
structure AllocReply where
  inactivity : InactivityReply
  redirected : RedirectReply
  staSent : Bool
  aggStarted : Bool

namespace DqaTables

def modifyQueue (mvm : DqaTables) (queue : HwQueue) (f : DqaTxqInfo → DqaTxqInfo) : DqaTables :=
  { mvm with queueInfo := update mvm.queueInfo queue (f (mvm.queueInfo queue)) }

def modifySta (mvm : DqaTables) (sta : StaId) (f : DqaSta → DqaSta) : DqaTables :=
  { mvm with fwIdToMacId := update mvm.fwIdToMacId sta ((mvm.fwIdToMacId sta).map f) }

/-- The TIDs of a queue with an aggregation that is on. -/
def getQueueAggTids (mvm : DqaTables) (traffic : DqaTraffic) (queue : HwQueue) : Finset Tid :=
  let info := mvm.queueInfo queue
  info.tidBitmap.filter fun tid => traffic.aggState info.raStaId tid = .on

/-- `iwl_mvm_invalidate_sta_queue`; no caller looks at its result. -/
def invalidateStaQueue (mvm : DqaTables) (queue : HwQueue) (disableAggTids : Finset Tid) :
    DqaTables :=
  mvm.modifySta (mvm.queueInfo queue).raStaId fun sta =>
    { sta with tidDisableAgg := sta.tidDisableAgg ∪ disableAggTids }

/-- `iwl_mvm_disable_txq`, and whether it succeeds; `sta` is `none` for a null pointer. -/
def disableTxq (mvm : DqaTables) (sta : Option StaId) (queue : HwQueue) (tid : Tid)
    (reply : Bool) : DqaTables × Bool :=
  let info := mvm.queueInfo queue
  if info.tidBitmap = ∅ then (mvm, true)
  else if info.tidBitmap.erase tid ≠ ∅ then
    (mvm.modifyQueue queue fun info => { info with tidBitmap := info.tidBitmap.erase tid }, true)
  else
    let mvm := mvm.modifyQueue queue fun info =>
      { info with tidBitmap := ∅, status := .free, reserved := false }
    match sta with
    | none => (mvm, reply)
    | some sta =>
        (mvm.modifySta sta fun sta =>
          { sta with mac80211Txq := update sta.mac80211Txq tid none }, reply)

/-- `iwl_mvm_remove_sta_queue_marking`, up to the TIDs it returns. -/
def removeStaQueueMarking (mvm : DqaTables) (queue : HwQueue) : DqaTables :=
  let info := mvm.queueInfo queue
  mvm.modifySta info.raStaId fun sta =>
    { sta with
      txqId := fun tid => if tid ∈ info.tidBitmap then none else sta.txqId tid
      mac80211Txq := fun tid => if tid ∈ info.tidBitmap then none else sta.mac80211Txq tid
      tfdQueueMsk := sta.tfdQueueMsk.erase queue }

/-- `iwl_mvm_free_inactive_queue`, and whether it succeeds. -/
def freeInactiveQueue (mvm : DqaTables) (traffic : DqaTraffic) (queue : HwQueue)
    (oldSta : Option StaId) (newStaId : StaId) (reply : Bool) : DqaTables × Bool :=
  let info := mvm.queueInfo queue
  if (mvm.fwIdToMacId info.raStaId).isNone then (mvm, false)
  else
    let disableAggTids := mvm.getQueueAggTids traffic queue
    let mvm := mvm.removeStaQueueMarking queue
    let mvm := if disableAggTids ≠ ∅ then mvm.invalidateStaQueue queue disableAggTids else mvm
    let (mvm, disabled) := mvm.disableTxq oldSta queue info.txqTid reply
    if !disabled then (mvm, false)
    else if info.raStaId ≠ newStaId then (mvm.invalidateStaQueue queue ∅, true)
    else (mvm, true)

/-- The last of the data queues in a mask that has an access category. -/
def queueOfAc (mvm : DqaTables) (tfdQueueMask : Finset HwQueue) (ac : AcNumber) :
    Option HwQueue :=
  (List.finRange 32).reverse.find? fun queue =>
    queue ∈ tfdQueueMask ∧ queue < dqaMaxDataQueue ∧
      (dqaMinDataQueue ≤ queue ∨ queue = dqaBssClientQueue) ∧
      (mvm.queueInfo queue).mac80211Ac = ac

/-- `iwl_mvm_get_shared_queue`: a best effort queue, one of the same access category, a video
queue for voice, or any. -/
def getSharedQueue (mvm : DqaTables) (tfdQueueMask : Finset HwQueue) (ac : AcNumber) :
    Option HwQueue :=
  let acToQueue := mvm.queueOfAc tfdQueueMask
  let queue :=
    ((acToQueue 2).or ((acToQueue ac).or ((if ac = 0 then acToQueue 1 else none).or
      ((acToQueue 3).or ((acToQueue 1).or (acToQueue 0)))))).getD 0
  if isDqaDataQueue queue ∨ isDqaMgmtQueue queue ∨ queue = dqaBssClientQueue then some queue
  else none

/-- `iwl_mvm_redirect_queue`, and whether it succeeds. -/
def redirectQueue (mvm : DqaTables) (queue : HwQueue) (tid : Tid) (ac : AcNumber)
    (force : Bool) (reply : RedirectReply) : DqaTables × Bool :=
  if ac ≤ (mvm.queueInfo queue).mac80211Ac ∧ force = false then (mvm, true)
  else if !reply.drained then (mvm, false)
  else
    (mvm.modifyQueue queue fun info => { info with txqTid := tid, mac80211Ac := ac },
      reply.disabled)

/-- `iwl_mvm_find_free_queue`. -/
def findFreeQueue (mvm : DqaTables) (minq maxq : HwQueue) : Option HwQueue :=
  (List.finRange 32).find? fun queue =>
    minq ≤ queue ∧ queue ≤ maxq ∧ (mvm.queueInfo queue).tidBitmap = ∅ ∧
      (mvm.queueInfo queue).status = .free

/-- `iwl_mvm_update_txq_mapping`.  Whether the queue is enabled concerns the firmware. -/
def updateTxqMapping (mvm : DqaTables) (sta : StaId) (queue : HwQueue) (tid : Tid) : DqaTables :=
  let info := mvm.queueInfo queue
  if tid ∈ info.tidBitmap then mvm
  else
    let mvm := mvm.modifyQueue queue fun info =>
      { info with
        tidBitmap := insert tid info.tidBitmap
        raStaId := sta
        mac80211Ac := if info.tidBitmap = ∅ then tidToMac80211Ac tid else info.mac80211Ac
        txqTid := if info.tidBitmap = ∅ then tid else info.txqTid }
    mvm.modifySta sta fun sta =>
      { sta with mac80211Txq := update sta.mac80211Txq tid (some queue) }

/-- `find_first_bit`. -/
def firstTid (tidBitmap : Finset Tid) : Option Tid :=
  (List.finRange 9).find? fun tid => tid ∈ tidBitmap

/-- `iwl_mvm_change_queue_tid`. -/
def changeQueueTid (mvm : DqaTables) (queue : HwQueue) (reply : Bool) : DqaTables :=
  match firstTid (mvm.queueInfo queue).tidBitmap with
  | none => mvm
  | some tid =>
      if reply then mvm.modifyQueue queue fun info => { info with txqTid := tid } else mvm

/-- `iwl_mvm_unshare_queue`. -/
def unshareQueue (mvm : DqaTables) (traffic : DqaTraffic) (queue : HwQueue)
    (reply : RedirectReply) : DqaTables :=
  let info := mvm.queueInfo queue
  match firstTid info.tidBitmap with
  | none => mvm
  | some tid =>
      if info.tidBitmap ≠ {tid} then mvm
      else if (mvm.fwIdToMacId info.raStaId).isNone then mvm
      else
        let (mvm, redirected) := mvm.redirectQueue queue tid (tidToMac80211Ac tid) true reply
        if !redirected then mvm
        else
          let mvm :=
            if traffic.aggState info.raStaId tid = .on then
              mvm.modifySta info.raStaId fun sta =>
                { sta with tidDisableAgg := sta.tidDisableAgg.erase tid }
            else mvm
          mvm.modifyQueue queue fun info => { info with status := .ready }

/-! ## Inactivity -/

/-- The local variables of `iwl_mvm_inactivity_check`. -/
structure InactivityScan where
  mvm : DqaTables
  unshareQueues : Finset HwQueue
  changetidQueues : Finset HwQueue
  freeQueue : Option HwQueue
  queueOwner : Option StaId

/-- The TIDs that `iwl_mvm_remove_inactive_tids` keeps of those that timed out. -/
def inactiveTids (traffic : DqaTraffic) (sta : StaId) (timedOut : Finset Tid) : Finset Tid :=
  timedOut.filter fun tid => traffic.queued sta tid = false ∧ traffic.aggState sta tid = .off

/-- Unmap a TID from a queue in `iwl_mvm_remove_inactive_tids`. -/
def removeTid (sta : StaId) (queue : HwQueue) (scan : InactivityScan) (tid : Tid) :
    InactivityScan :=
  let mvm := scan.mvm.modifySta sta fun sta =>
    { sta with txqId := update sta.txqId tid none }
  let mvm := mvm.modifyQueue queue fun info => { info with tidBitmap := info.tidBitmap.erase tid }
  { scan with
    mvm := mvm
    changetidQueues :=
      if (mvm.queueInfo queue).txqTid ∉ (mvm.queueInfo queue).tidBitmap then
        insert queue scan.changetidQueues
      else scan.changetidQueues }

/-- `iwl_mvm_remove_inactive_tids`, and whether all TIDs of the queue are inactive. -/
def removeInactiveTids (traffic : DqaTraffic) (sta : StaId) (queue : HwQueue)
    (timedOut : Finset Tid) (scan : InactivityScan) : InactivityScan × Bool :=
  let tids := inactiveTids traffic sta timedOut
  if tids = (scan.mvm.queueInfo queue).tidBitmap then (scan, true)
  else
    let scan := ((List.finRange 9).filter (· ∈ tids)).foldl (removeTid sta queue) scan
    let info := scan.mvm.queueInfo queue
    if info.tidBitmap.card = 1 ∧ info.status = .shared then
      ({ scan with unshareQueues := insert queue scan.unshareQueues }, false)
    else (scan, false)

/-- The loop of `iwl_mvm_inactivity_check`, for one queue.  `free_queue` is set to the result
of `iwl_mvm_remove_inactive_tids`, which is a truth value and never negative. -/
def scanQueue (traffic : DqaTraffic) (scan : InactivityScan) (queue : HwQueue) :
    InactivityScan :=
  let info := scan.mvm.queueInfo queue
  let timedOut := info.tidBitmap.filter fun tid => traffic.timedOut queue tid
  if info.status ≠ .ready ∧ info.status ≠ .shared then scan
  else if timedOut = ∅ then scan
  else if (scan.mvm.fwIdToMacId info.raStaId).isNone then scan
  else
    let (scan, ret) := removeInactiveTids traffic info.raStaId queue timedOut scan
    if scan.freeQueue = none then
      { scan with freeQueue := some (if ret then 1 else 0), queueOwner := some info.raStaId }
    else scan

/-- `iwl_mvm_inactivity_check`; a negative result is `none`, and so is
`IWL_MVM_INVALID_STA`. -/
def inactivityCheck (mvm : DqaTables) (traffic : DqaTraffic) (allocForSta : Option StaId)
    (reply : InactivityReply) : DqaTables × Option HwQueue :=
  let scan := ((List.finRange 32).filter (· ≠ 0)).foldl (scanQueue traffic)
    ⟨mvm, ∅, ∅, none, none⟩
  let mvm := ((List.finRange 32).filter (· ∈ scan.unshareQueues)).foldl
    (fun mvm queue => mvm.unshareQueue traffic queue (reply.unshared queue)) scan.mvm
  let mvm := ((List.finRange 32).filter (· ∈ scan.changetidQueues)).foldl
    (fun mvm queue => mvm.changeQueueTid queue (reply.changed queue)) mvm
  match scan.freeQueue, allocForSta with
  | some queue, some newStaId =>
      let (mvm, freed) := mvm.freeInactiveQueue traffic queue scan.queueOwner newStaId reply.freed
      if freed then (mvm, some queue) else (mvm, none)
  | _, _ => (mvm, scan.freeQueue)

/-! ## Allocation -/

/-- The reserved queue of a station, as an index: a byte beyond the queues is the last one. -/
def reservedIndex (reservedQueue : Nat) : HwQueue := ⟨min reservedQueue 31, by omega⟩

/-- `iwl_mvm_sta_alloc_queue` up to where it looks for an inactive queue. -/
def takeFreeQueue (mvm : DqaTables) (staId : StaId) (sta : DqaSta) (tid : Tid) :
    DqaTables × Option HwQueue :=
  let mgmt :=
    if tid = mgmtTid then mvm.findFreeQueue dqaMinMgmtQueue dqaMaxMgmtQueue else none
  let reserved := reservedIndex sta.reservedQueue
  let mvm := mvm.modifySta staId fun sta => { sta with reservedQueue := reserved }
  match mgmt with
  | some queue => (mvm, some queue)
  | none =>
      if (mvm.queueInfo reserved).status = .reserved then
        (mvm.modifyQueue reserved fun info => { info with reserved := true }, some reserved)
      else (mvm, mvm.findFreeQueue dqaMinDataQueue dqaMaxDataQueue)

/-- `iwl_mvm_sta_alloc_queue` up to where it has to share a queue. -/
def searchQueue (mvm : DqaTables) (traffic : DqaTraffic) (staId : StaId) (sta : DqaSta)
    (tid : Tid) (reply : InactivityReply) : DqaTables × Option HwQueue :=
  let (mvm, free) := mvm.takeFreeQueue staId sta tid
  match free with
  | some queue => (mvm, some queue)
  | none => mvm.inactivityCheck traffic (some staId) reply

/-- `iwl_mvm_sta_alloc_queue` once it has a queue. -/
def enableQueue (mvm : DqaTables) (traffic : DqaTraffic) (staId : StaId) (ac : AcNumber)
    (tid : Tid) (queue : HwQueue) (sharedQueue : Bool) (reply : AllocReply) : DqaTables :=
  let mvm :=
    if sharedQueue ∧ mvm.getQueueAggTids traffic queue ≠ ∅ then
      mvm.invalidateStaQueue queue (mvm.getQueueAggTids traffic queue)
    else mvm
  let mvm := mvm.updateTxqMapping staId queue tid
  let mvm := mvm.modifySta staId fun sta =>
    { sta with
      txqId := update sta.txqId tid (some queue)
      tfdQueueMsk := insert queue sta.tfdQueueMsk
      reservedQueue := if sta.reservedQueue = queue then 0xff else sta.reservedQueue }
  let (mvm, done) :=
    if sharedQueue then mvm.redirectQueue queue tid ac false reply.redirected
    else if !reply.staSent then (mvm, false)
    else if traffic.aggState staId tid = .on then
      (mvm.modifySta staId fun sta =>
        { sta with tidDisableAgg := sta.tidDisableAgg.erase tid }, reply.aggStarted)
    else (mvm, true)
  if done then mvm else (mvm.disableTxq (some staId) queue tid true).1

/-- `iwl_mvm_sta_alloc_queue`. -/
def staAllocQueue (mvm : DqaTables) (traffic : DqaTraffic) (staId : StaId) (ac : AcNumber)
    (tid : Tid) (reply : AllocReply) : DqaTables :=
  match mvm.fwIdToMacId staId with
  | none => mvm
  | some sta =>
      let (mvm, own) := mvm.searchQueue traffic staId sta tid reply.inactivity
      match own.filter (· ≠ 0) with
      | some queue =>
          let mvm := mvm.modifyQueue queue fun info => { info with status := .ready }
          mvm.enableQueue traffic staId ac tid queue false reply
      | none =>
          match mvm.getSharedQueue sta.tfdQueueMsk ac with
          | none => mvm
          | some queue =>
              let mvm := mvm.modifyQueue queue fun info => { info with status := .shared }
              mvm.enableQueue traffic staId ac tid queue true reply

end DqaTables

/-! ## Steps -/

inductive DqaEvent
  | alloc (traffic : DqaTraffic) (staId : StaId) (ac : AcNumber) (tid : Tid) (reply : AllocReply)
  | inactivityCheck (traffic : DqaTraffic) (allocForSta : Option StaId) (reply : InactivityReply)
  | freeInactive (traffic : DqaTraffic) (queue : HwQueue) (oldSta : Option StaId)
      (newStaId : StaId) (reply : Bool)
  | disableTxq (sta : Option StaId) (queue : HwQueue) (tid : Tid) (reply : Bool)
  | unshare (traffic : DqaTraffic) (queue : HwQueue) (reply : RedirectReply)
  | changeTid (queue : HwQueue) (reply : Bool)

def dqaStep (mvm : DqaTables) : DqaEvent → DqaTables
  | .alloc traffic staId ac tid reply => mvm.staAllocQueue traffic staId ac tid reply
  | .inactivityCheck traffic allocForSta reply =>
      (mvm.inactivityCheck traffic allocForSta reply).1
  | .freeInactive traffic queue oldSta newStaId reply =>
      (mvm.freeInactiveQueue traffic queue oldSta newStaId reply).1
  | .disableTxq sta queue tid reply => (mvm.disableTxq sta queue tid reply).1
  | .unshare traffic queue reply => mvm.unshareQueue traffic queue reply
  | .changeTid queue reply => mvm.changeQueueTid queue reply

end Iwlwifi
