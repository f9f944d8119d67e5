import Iwlwifi.Lib.Slots
import Iwlwifi.Mvm.RxMpdu

/-!
# The receive reorder buffer

`iwl_mvm_reorder` of `mvm/rxmq.c` and what it calls, for one block-ack session on one
receive queue.  A session is the part of `struct iwl_mvm_baid_data` that belongs to the
queue: its reorder buffer and the slots `entries[0 .. buf_size)`.  Frames handed to
mac80211, NSSN synchronisation messages to the other queues and requests to stop the
session are the outputs of a call, in the order in which the source makes them.

`num_stored` is a natural number here; `ReorderStep` shows that it fits the `u16`
of the source.  `jiffies` is a clock that does not wrap.
-/

namespace Iwlwifi

open Function (update)

/-! ## State -/

structure IwlMvmReorderBuffer where
  headSn : Nat
  numStored : Nat
  bufSize : Nat
  lastAmsdu : Nat
  lastSubIndex : Nat
  /-- The expiry time of `reorder_timer` while the timer is pending. -/
  reorderTimer : Option Nat
  removed : Bool
  valid : Bool
  consecOldsnDrops : Nat
  consecOldsnAmpduGp2 : Nat
  consecOldsnPrevDrop : Bool

structure IwlMvmReorderBufEntry where
  frames : List RxMpdu
  reorderTime : Nat

structure IwlMvmBaidData where
  staId : Nat
  tid : Nat
  baid : Nat
  reorderBuf : IwlMvmReorderBuffer
  entries : Nat → IwlMvmReorderBufEntry

/-- What a call does to the outside. -/
inductive RxOutput
  | passPacketToMac80211 (skb : RxMpdu)
  | syncNssn (baid nssn : Nat)
  | stopRxBaSession (tid : Nat)

/-- The frame an output hands to mac80211. -/
def RxOutput.passed : RxOutput → Option RxMpdu
  | .passPacketToMac80211 skb => some skb
  | .syncNssn _ _ => none
  | .stopRxBaSession _ => none

namespace IwlMvmBaidData

/-- The frames in each slot. -/
def slots (data : IwlMvmBaidData) (i : Nat) : List RxMpdu := (data.entries i).frames

def setHeadSn (data : IwlMvmBaidData) (headSn : Nat) : IwlMvmBaidData :=
  { data with reorderBuf := { data.reorderBuf with headSn } }

def setTimerPending (data : IwlMvmBaidData) (reorderTimer : Option Nat) : IwlMvmBaidData :=
  { data with reorderBuf := { data.reorderBuf with reorderTimer } }

def setValid (data : IwlMvmBaidData) : IwlMvmBaidData :=
  { data with reorderBuf := { data.reorderBuf with valid := true } }

variable (data : IwlMvmBaidData) (headSn : Nat) (reorderTimer : Option Nat)

@[simp] theorem setHeadSn_reorderBuf :
    (data.setHeadSn headSn).reorderBuf = { data.reorderBuf with headSn } := rfl

@[simp] theorem setHeadSn_slots : (data.setHeadSn headSn).slots = data.slots := rfl

end IwlMvmBaidData

/-- `iwl_mvm_init_reorder_buffer` on the zeroed memory of a new session. -/
def iwlMvmInitReorderBuffer (staId tid baid ssn bufSize : Nat) : IwlMvmBaidData where
  staId := staId
  tid := tid
  baid := baid
  reorderBuf :=
    { headSn := ssn, numStored := 0, bufSize := bufSize, lastAmsdu := 0, lastSubIndex := 0
      reorderTimer := none, removed := false, valid := false, consecOldsnDrops := 0
      consecOldsnAmpduGp2 := 0, consecOldsnPrevDrop := false }
  entries := fun _ => { frames := [], reorderTime := 0 }

/-! ## Releasing frames -/

/-- `iwl_mvm_is_sn_less`. -/
def iwlMvmIsSnLess (sn1 sn2 bufferSize : Nat) : Bool :=
  ieee80211SnLess sn1 sn2 && !ieee80211SnLess sn1 (u16 ((sn2 : Int) - bufferSize))

def rxReorderBufTimeoutMq (hz : Nat) : Nat := hz / 10

structure IwlMvmReleaseFlags where
  sendRssSync : Bool := false
  fromRssSync : Bool := false

/-- One pass of the release loop at `ssn`: the slot of `ssn` is emptied. -/
def releaseSlot (data : IwlMvmBaidData) (ssn : Nat) : IwlMvmBaidData :=
  let index := ssn % data.reorderBuf.bufSize
  { data with
    reorderBuf :=
      { data.reorderBuf with
        numStored := data.reorderBuf.numStored - (data.slots index).length }
    entries := update data.entries index { data.entries index with frames := [] } }

/-- What one pass of the release loop at `ssn` puts out. -/
def releaseSlotOutputs (data : IwlMvmBaidData) (ssn : Nat) (flags : IwlMvmReleaseFlags) :
    List RxOutput :=
  let next := ieee80211SnInc ssn
  (if flags.sendRssSync && (next == 2048 || next == 0) then
    [.syncNssn data.baid next] else []) ++
  (data.slots (ssn % data.reorderBuf.bufSize)).map .passPacketToMac80211

/-- The loop of `iwl_mvm_release_frames` from `ssn`.  The number of passes left is an
argument; `releaseLoop_done` shows that the distance to `nssn` is enough. -/
def releaseLoop (nssn : Nat) (flags : IwlMvmReleaseFlags) :
    Nat → Nat → IwlMvmBaidData → IwlMvmBaidData × List RxOutput
  | 0, _, data => (data, [])
  | passes + 1, ssn, data =>
      if iwlMvmIsSnLess ssn nssn data.reorderBuf.bufSize then
        let rest := releaseLoop nssn flags passes (ieee80211SnInc ssn) (releaseSlot data ssn)
        (rest.1, releaseSlotOutputs data ssn flags ++ rest.2)
      else (data, [])

/-- The search of the `set_timer` block for an occupied slot, `passes` slots at most. -/
def firstOccupied (data : IwlMvmBaidData) : Nat → Nat → Nat
  | 0, index => index
  | passes + 1, index =>
      if (data.slots index).isEmpty then
        firstOccupied data passes ((index + 1) % data.reorderBuf.bufSize)
      else index

/-- The expiry time the `set_timer` block gives the timer, `none` where it deletes it. -/
def timerDue (hz : Nat) (data : IwlMvmBaidData) : Option Nat :=
  let buf := data.reorderBuf
  if buf.numStored != 0 && !buf.removed then
    let index := firstOccupied data buf.bufSize (buf.headSn % buf.bufSize)
    some ((data.entries index).reorderTime + 1 + rxReorderBufTimeoutMq hz)
  else none

/-- The `set_timer` block of `iwl_mvm_release_frames`. -/
def setTimer (hz : Nat) (data : IwlMvmBaidData) : IwlMvmBaidData :=
  data.setTimerPending (timerDue hz data)

@[simp] theorem setTimer_reorderBuf (hz : Nat) (data : IwlMvmBaidData) :
    (setTimer hz data).reorderBuf =
      { data.reorderBuf with reorderTimer := timerDue hz data } := rfl

@[simp] theorem setTimer_entries (hz : Nat) (data : IwlMvmBaidData) :
    (setTimer hz data).entries = data.entries := rfl

@[simp] theorem setTimer_slots (hz : Nat) (data : IwlMvmBaidData) :
    (setTimer hz data).slots = data.slots := rfl

/-- `iwl_mvm_release_frames`. -/
def iwlMvmReleaseFrames (hz : Nat) (data : IwlMvmBaidData) (nssn : Nat)
    (flags : IwlMvmReleaseFlags) : IwlMvmBaidData × List RxOutput :=
  let ssn := data.reorderBuf.headSn
  if flags.fromRssSync && ieee80211SnLess nssn ssn then (setTimer hz data, [])
  else if iwlMvmIsSnLess nssn ssn data.reorderBuf.bufSize then (setTimer hz data, [])
  else
    let released := releaseLoop nssn flags (ieee80211SnSub nssn ssn) ssn data
    (setTimer hz (released.1.setHeadSn nssn), released.2)

/-! ## The reorder timer -/

def timeAfter (a b : Nat) : Bool := decide (b < a)

/-- The variables of the loop of `iwl_mvm_reorder_timer_expired`. -/
structure ExpiryScan where
  index : Nat
  sn : Nat
  expired : Bool
  cont : Bool

/-- The loop of `iwl_mvm_reorder_timer_expired`, `left` slots from the `i`-th on. -/
def expiryScan (hz jiffies : Nat) (data : IwlMvmBaidData) : Nat → Nat → ExpiryScan → ExpiryScan
  | 0, _, scan => scan
  | left + 1, i, scan =>
      let index := (data.reorderBuf.headSn + i) % data.reorderBuf.bufSize
      if (data.slots index).isEmpty then
        -- a hole: do not advance past it unless the next frame expired too
        expiryScan hz jiffies data left (i + 1) { scan with index, cont := false }
      else if !scan.cont &&
          !timeAfter jiffies ((data.entries index).reorderTime + rxReorderBufTimeoutMq hz) then
        { scan with index }
      else
        expiryScan hz jiffies data left (i + 1)
          { index, sn := ieee80211SnAdd data.reorderBuf.headSn (i + 1)
            expired := true, cont := true }

/-- `iwl_mvm_reorder_timer_expired`. -/
def iwlMvmReorderTimerExpired (hz jiffies : Nat) (data : IwlMvmBaidData) :
    IwlMvmBaidData × List RxOutput :=
  let buf := data.reorderBuf
  if buf.numStored == 0 || buf.removed then (data, [])
  else
    let scan := expiryScan hz jiffies data buf.bufSize 0
      { index := 0, sn := 0, expired := false, cont := false }
    if scan.expired then iwlMvmReleaseFrames hz data scan.sn { sendRssSync := true }
    else
      (data.setTimerPending
        (some ((data.entries scan.index).reorderTime + 1 + rxReorderBufTimeoutMq hz)), [])

/-! ## Notifications -/

def iwlMaxBaid : Nat := 32

/-- `iwl_mvm_release_frames_from_notif`: `none` where no session is touched. -/
def iwlMvmReleaseFramesFromNotif (hz : Nat) (baidMap : Nat → Option IwlMvmBaidData)
    (fwIdToMacId : Nat → Bool) (baid nssn : Nat) (flags : IwlMvmReleaseFlags) :
    Option (IwlMvmBaidData × List RxOutput) :=
  if baid == RxMpdu.iwlRxReorderDataInvalidBaid || decide (iwlMaxBaid ≤ baid) then none
  else
    match baidMap baid with
    | none => none
    | some data =>
        if !fwIdToMacId data.staId then none
        else some (iwlMvmReleaseFrames hz data nssn flags)

/-- `iwl_mvm_rx_frame_release`. -/
def iwlMvmRxFrameRelease (hz : Nat) (baidMap : Nat → Option IwlMvmBaidData)
    (fwIdToMacId : Nat → Bool) (baid nssn : Nat) : Option (IwlMvmBaidData × List RxOutput) :=
  iwlMvmReleaseFramesFromNotif hz baidMap fwIdToMacId baid nssn {}

/-- `iwl_mvm_nssn_sync`. -/
def iwlMvmNssnSync (hz : Nat) (baidMap : Nat → Option IwlMvmBaidData)
    (fwIdToMacId : Nat → Bool) (baid nssn : Nat) : Option (IwlMvmBaidData × List RxOutput) :=
  iwlMvmReleaseFramesFromNotif hz baidMap fwIdToMacId baid nssn { fromRssSync := true }

/-- `iwl_mvm_del_ba`. -/
def iwlMvmDelBa (hz : Nat) (baidMap : Nat → Option IwlMvmBaidData)
    (fwIdToMacId : Nat → Bool) (baid : Nat) : Option (IwlMvmBaidData × List RxOutput) :=
  if iwlMaxBaid ≤ baid then none
  else
    match baidMap baid with
    | none => none
    | some data =>
        if !fwIdToMacId data.staId then none
        else
          let buf := data.reorderBuf
          let released :=
            iwlMvmReleaseFrames hz data (ieee80211SnAdd buf.headSn buf.bufSize) {}
          some (released.1.setTimerPending none, released.2)

/-! ## Receiving a frame -/

def iwlMvmAmpduConsecDropsDelba : Nat := 10

/-- The count of drops before a frame at `gp2` is looked at: a new (A-)MPDU resets it
unless the one before it had an old SN. -/
def oldsnDrops (buf : IwlMvmReorderBuffer) (gp2 : Nat) : Nat :=
  if gp2 != buf.consecOldsnAmpduGp2 && !buf.consecOldsnPrevDrop then 0
  else buf.consecOldsnDrops

/-- `iwl_mvm_oldsn_workaround`. -/
def iwlMvmOldsnWorkaround (data : IwlMvmBaidData) (skb : RxMpdu) :
    IwlMvmBaidData × List RxOutput :=
  let buf := data.reorderBuf
  let gp2 := skb.deviceTimestamp
  if gp2 == buf.consecOldsnAmpduGp2 && buf.consecOldsnPrevDrop then (data, [])
  else
    let drops := oldsnDrops buf gp2
    if !skb.baOldSn then
      ({ data with
          reorderBuf := { buf with consecOldsnDrops := drops, consecOldsnAmpduGp2 := gp2 } }, [])
    else if drops + 1 == iwlMvmAmpduConsecDropsDelba then
      ({ data with
          reorderBuf :=
            { buf with
              consecOldsnDrops := 0, consecOldsnAmpduGp2 := gp2, consecOldsnPrevDrop := false } },
        [.stopRxBaSession data.tid])
    else
      ({ data with
          reorderBuf :=
            { buf with
              consecOldsnDrops := drops + 1, consecOldsnAmpduGp2 := gp2
              consecOldsnPrevDrop := true } }, [])

/-- What a call did to a session: `taken` is the return value, `true` when the frame was
buffered or dropped. -/
structure ReorderResult where
  taken : Bool
  data : IwlMvmBaidData
  outputs : List RxOutput

/-- The BAID under which `iwl_mvm_reorder` looks a frame's session up. -/
def baidIndex (skb : RxMpdu) : Nat :=
  if iwlMaxBaid ≤ skb.baid then iwlMaxBaid - 1 else skb.baid

/-- The session of a frame, as far as `iwl_mvm_reorder` looks before it takes the
buffer's lock: `none` where it returns `false` without it.  `sta` is the station's
`sta_id`. -/
def reorderSession (baidMap : Nat → Option IwlMvmBaidData) (sta : Option Nat)
    (skb : RxMpdu) : Option IwlMvmBaidData :=
  if skb.baid == RxMpdu.iwlRxReorderDataInvalidBaid then none
  else
    match sta with
    | none => none
    | some staId =>
        if !ieee80211IsBackReq skb.frameControl &&
            (!ieee80211IsDataQos skb.frameControl || skb.multicast) then none
        else if !ieee80211IsDataPresent skb.frameControl then none
        else
          match baidMap (baidIndex skb) with
          | none => none
          | some data =>
              if skb.tid != data.tid || staId != data.staId then none else some data

/-- Whether the window test of `iwl_mvm_reorder` asks for a jump. -/
def windowJump (buf : IwlMvmReorderBuffer) (skb : RxMpdu) : Bool :=
  !iwlMvmIsSnLess skb.nssn (u16 ((buf.headSn : Int) + buf.bufSize)) buf.bufSize ||
    !ieee80211SnLess skb.sn (u16 ((buf.headSn : Int) + buf.bufSize))

/-- The smaller of a frame's SN and NSSN. -/
def minSn (skb : RxMpdu) : Nat :=
  if ieee80211SnLess skb.sn skb.nssn then skb.sn else skb.nssn

/-- The jump of `iwl_mvm_reorder`: release up to the smaller of SN and NSSN. -/
def adjustWindow (hz : Nat) (data : IwlMvmBaidData) (skb : RxMpdu) :
    IwlMvmBaidData × List RxOutput :=
  if windowJump data.reorderBuf skb then
    iwlMvmReleaseFrames hz data (minSn skb) { sendRssSync := true }
  else (data, [])

/-- The sync message for a queue whose head crosses SN 2048 or 0 at `sn`. -/
def crossSync (baid sn : Nat) : List RxOutput :=
  if sn == 2048 || sn == 0 then [.syncNssn baid sn] else []

/-- Whether the slot of a frame holds something the frame does not continue. -/
def retransmission (data : IwlMvmBaidData) (skb : RxMpdu) : Bool :=
  !(data.slots (skb.sn % data.reorderBuf.bufSize)).isEmpty &&
    (!skb.amsdu || skb.sn != data.reorderBuf.lastAmsdu ||
      decide (data.reorderBuf.lastSubIndex ≥ skb.subFrameIdx))

/-- `skb` at the tail of its slot. -/
def storeFrame (jiffies : Nat) (data : IwlMvmBaidData) (skb : RxMpdu) : IwlMvmBaidData :=
  let buf := data.reorderBuf
  let index := skb.sn % buf.bufSize
  { data with
    reorderBuf :=
      { buf with
        numStored := buf.numStored + 1
        lastAmsdu := if skb.amsdu then skb.sn else buf.lastAmsdu
        lastSubIndex := if skb.amsdu then skb.subFrameIdx else buf.lastSubIndex }
    entries :=
      update data.entries index { frames := data.slots index ++ [skb], reorderTime := jiffies } }

/-- The part of `iwl_mvm_reorder` after the window has been adjusted. -/
def placeFrame (hz jiffies baid : Nat) (data : IwlMvmBaidData) (skb : RxMpdu) :
    ReorderResult :=
  let buf := data.reorderBuf
  if ieee80211SnLess skb.sn buf.headSn then ⟨true, data, []⟩
  else if buf.numStored == 0 && ieee80211SnLess skb.sn skb.nssn then
    if iwlMvmIsSnLess buf.headSn skb.nssn buf.bufSize && (!skb.amsdu || skb.lastSubframe) then
      ⟨false, data.setHeadSn skb.nssn, crossSync baid skb.sn⟩
    else ⟨false, data, []⟩
  else if buf.numStored == 0 && skb.sn == buf.headSn then
    if !skb.amsdu || skb.lastSubframe then
      ⟨false, data.setHeadSn (ieee80211SnInc buf.headSn), crossSync baid skb.sn⟩
    else ⟨false, data, []⟩
  else if retransmission data skb then ⟨true, data, []⟩
  else if !skb.amsdu || skb.lastSubframe then
    let released :=
      iwlMvmReleaseFrames hz (storeFrame jiffies data skb) skb.nssn { sendRssSync := true }
    ⟨true, released.1, released.2⟩
  else ⟨true, storeFrame jiffies data skb, []⟩

/-- The part of `iwl_mvm_reorder` under the buffer's lock. -/
def reorderLocked (hz jiffies baid : Nat) (data : IwlMvmBaidData) (skb : RxMpdu) :
    ReorderResult :=
  if !data.reorderBuf.valid && skb.baOldSn then ⟨false, data, []⟩
  else
    let data := data.setValid
    if ieee80211IsBackReq skb.frameControl then
      let released := iwlMvmReleaseFrames hz data skb.nssn {}
      ⟨true, released.1, released.2⟩
    else
      let adjusted := adjustWindow hz data skb
      let counted := iwlMvmOldsnWorkaround adjusted.1 skb
      let placed := placeFrame hz jiffies baid counted.1 skb
      { placed with outputs := adjusted.2 ++ counted.2 ++ placed.outputs }

/-- `iwl_mvm_reorder`: `none` where it returns `false` without taking a buffer's lock. -/
def iwlMvmReorder (hz jiffies : Nat) (baidMap : Nat → Option IwlMvmBaidData)
    (sta : Option Nat) (skb : RxMpdu) : Option ReorderResult :=
  (reorderSession baidMap sta skb).map fun data =>
    reorderLocked hz jiffies (baidIndex skb) data skb

/-! ## One session over time -/

/-- What can happen to a session on its queue.  A notification comes with the station
table it is handled under; a timer handler may run at any time, also after the timer has
been armed again while the handler waited for the lock. -/
inductive RxEvent
  | elapse (ticks : Nat)
  | frame (sta : Option Nat) (skb : RxMpdu)
  | frameRelease (fwIdToMacId : Nat → Bool) (baid nssn : Nat)
  | nssnSync (fwIdToMacId : Nat → Bool) (baid nssn : Nat)
  | timerExpired
  | delBa (fwIdToMacId : Nat → Bool) (baid : Nat)

structure RxSession where
  jiffies : Nat
  data : IwlMvmBaidData

namespace RxSession

def init (jiffies staId tid baid ssn bufSize : Nat) : RxSession where
  jiffies := jiffies
  data := iwlMvmInitReorderBuffer staId tid baid ssn bufSize

/-- `baid_map` with the one session. -/
def baidMap (s : RxSession) (baid : Nat) : Option IwlMvmBaidData :=
  if baid = s.data.baid then some s.data else none

/-- The session with a pending timer taken off once it is due. -/
def timerTaken (s : RxSession) : IwlMvmBaidData :=
  match s.data.reorderBuf.reorderTimer with
  | none => s.data
  | some due => if due ≤ s.jiffies then s.data.setTimerPending none else s.data

/-- The session's data after an event, `none` where it is not touched, and the outputs. -/
def handle (hz : Nat) (s : RxSession) : RxEvent → Option (IwlMvmBaidData × List RxOutput)
  | .elapse _ => none
  | .frame sta skb =>
      (iwlMvmReorder hz s.jiffies s.baidMap sta skb).map fun result =>
        (result.data, result.outputs)
  | .frameRelease fwIdToMacId baid nssn =>
      iwlMvmRxFrameRelease hz s.baidMap fwIdToMacId baid nssn
  | .nssnSync fwIdToMacId baid nssn => iwlMvmNssnSync hz s.baidMap fwIdToMacId baid nssn
  | .timerExpired => some (iwlMvmReorderTimerExpired hz s.jiffies s.timerTaken)
  | .delBa fwIdToMacId baid => iwlMvmDelBa hz s.baidMap fwIdToMacId baid

/-- The frames an event hands to mac80211, in order: those it releases, and after them the
frame itself when `iwl_mvm_reorder` returns `false` once the buffer is valid. -/
def handedBy (hz : Nat) (s : RxSession) : RxEvent → List RxMpdu
  | .frame sta skb =>
      match iwlMvmReorder hz s.jiffies s.baidMap sta skb with
      | none => []
      | some result =>
          result.outputs.filterMap RxOutput.passed ++
            if !result.taken && result.data.reorderBuf.valid then [skb] else []
  | event =>
      match s.handle hz event with
      | none => []
      | some after => after.2.filterMap RxOutput.passed

def tick (s : RxSession) : RxEvent → Nat
  | .elapse ticks => s.jiffies + ticks
  | _ => s.jiffies

def step (hz : Nat) (s : RxSession) (event : RxEvent) : RxSession where
  jiffies := s.tick event
  data := ((s.handle hz event).map Prod.fst).getD s.data

end RxSession

end Iwlwifi
