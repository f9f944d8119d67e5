import Mathlib.Data.Fintype.Basic

/-!
# Channel switches of managed interfaces

An access point announces that it moves to another channel, and may ask its stations not to send
before it has moved.  A managed interface then stops the hardware queues it uses, for the reason
`csa`, and wakes them when the switch is over, given up, or ends in a disconnection.  Interfaces
may share queues, so stops are counted for each queue and reason.

What a stopped queue does to the network device, the work items that are queued and the driver's
own part of a switch are left out; what the driver and the channel contexts answer is an input.
-/

namespace Iwlwifi.Chanswitch

/-- `enum queue_stop_reason` -/
inductive StopReason
  | driver
  | ps
  | csa
  | aggregation
  | suspend
  | skbAdd
  | offchannel
  | flush
  | tdlsTeardown
  | reserveTid
deriving DecidableEq, Repr

/-- `struct cfg80211_chan_def` -/
structure Chandef where
  chan : Nat
  width : Nat
  centerFreq1 : Nat
  centerFreq2 : Nat := 0
deriving DecidableEq, Repr

/-- The hardware and the queues it gave to the interfaces; `cabQueue` is `none` for
`IEEE80211_INVAL_HW_QUEUE`. -/
structure Hw (ι : Type*) where
  queues : Nat
  queueControl : Bool
  hwQueue : ι → List Nat
  cabQueue : ι → Option Nat
  flushOp : Bool := true
  abortChannelSwitchOp : Bool := true
  useChanctx : Bool := true
  chanctxStaCsa : Bool := true

/-- For one queue and one reason, `q_stop_reasons` and the bit in `queue_stop_reasons`. -/
structure Stop where
  count : Int := 0
  bit : Bool := false
deriving DecidableEq, Repr

def Stop.stop (refcounted : Bool) (stop : Stop) : Stop where
  count := if refcounted then stop.count + 1 else 1
  bit := true

def Stop.wake (refcounted : Bool) (stop : Stop) : Stop :=
  if stop.bit = false then stop
  else
    let count := if refcounted then (if stop.count - 1 < 0 then 0 else stop.count - 1) else 0
    { count, bit := if count = 0 then false else stop.bit }

/-- Of `struct ieee80211_sub_if_data`, what a channel switch reads and writes.  `silenced` is
set while the interface has stopped its queues for a switch and not woken them since; no function
reads it. -/
structure Sdata where
  associated : Bool := false
  chandef : Chandef
  csaChandef : Chandef
  csaActive : Bool := false
  csaBlockTx : Bool := false
  csaWaitingBcn : Bool := false
  csaIgnoredSameChan : Bool := false
  silenced : Bool := false
deriving DecidableEq, Repr

structure Local (ι : Type*) where
  stops : Nat → StopReason → Stop := fun _ _ => {}
  sdata : ι → Sdata

variable {ι : Type*} [DecidableEq ι]

namespace Local

def onSdata (s : Local ι) (i : ι) (change : Sdata → Sdata) : Local ι :=
  { s with sdata := Function.update s.sdata i (change (s.sdata i)) }

/-! ## Queues -/

def onStop (s : Local ι) (queue : Nat) (reason : StopReason) (change : Stop → Stop) : Local ι :=
  { s with
    stops := Function.update s.stops queue
      (Function.update (s.stops queue) reason (change (s.stops queue reason))) }

/-- `__ieee80211_stop_queue` -/
def stopQueue (s : Local ι) (hw : Hw ι) (queue : Nat) (reason : StopReason) (refcounted : Bool) :
    Local ι :=
  if queue ≥ hw.queues then s else s.onStop queue reason (Stop.stop refcounted)

/-- `__ieee80211_wake_queue` -/
def wakeQueue (s : Local ι) (hw : Hw ι) (queue : Nat) (reason : StopReason) (refcounted : Bool) :
    Local ι :=
  if queue ≥ hw.queues then s else s.onStop queue reason (Stop.wake refcounted)

/-- `for_each_set_bit(i, &queues, hw->queues)` -/
def setBits (hw : Hw ι) (queues : Nat → Bool) : List Nat := (List.range hw.queues).filter queues

def stopQueuesByReason (s : Local ι) (hw : Hw ι) (queues : Nat → Bool) (reason : StopReason)
    (refcounted : Bool) : Local ι :=
  (setBits hw queues).foldl (fun s queue => s.stopQueue hw queue reason refcounted) s

def wakeQueuesByReason (s : Local ι) (hw : Hw ι) (queues : Nat → Bool) (reason : StopReason)
    (refcounted : Bool) : Local ι :=
  (setBits hw queues).foldl (fun s queue => s.wakeQueue hw queue reason refcounted) s

/-- `ieee80211_get_vif_queues` -/
def getVifQueues (hw : Hw ι) (i : ι) (queue : Nat) : Bool :=
  if hw.queueControl then (hw.hwQueue i).contains queue || hw.cabQueue i == some queue
  else true

/-- `ieee80211_stop_vif_queues` for the reason `csa` -/
def stopVifQueues (s : Local ι) (hw : Hw ι) (i : ι) : Local ι :=
  (s.stopQueuesByReason hw (getVifQueues hw i) .csa true).onSdata i fun sdata =>
    { sdata with silenced := true }

/-- `ieee80211_wake_vif_queues` for the reason `csa` -/
def wakeVifQueues (s : Local ι) (hw : Hw ι) (i : ι) : Local ι :=
  (s.wakeQueuesByReason hw (getVifQueues hw i) .csa true).onSdata i fun sdata =>
    { sdata with silenced := false }

/-- `ieee80211_flush_queues` -/
def flushQueues (s : Local ι) (hw : Hw ι) (i : ι) : Local ι :=
  if hw.flushOp then
    (s.stopQueuesByReason hw (getVifQueues hw i) .flush false).wakeQueuesByReason hw
      (getVifQueues hw i) .flush false
  else s

/-! ## The end of a switch -/

/-- The interface wakes its queues if it was asked not to send. -/
def unblockTx (s : Local ι) (hw : Hw ι) (i : ι) : Local ι :=
  if (s.sdata i).csaBlockTx then
    (s.wakeVifQueues hw i).onSdata i fun sdata => { sdata with csaBlockTx := false }
  else s

def chswitchPostBeacon (s : Local ι) (hw : Hw ι) (i : ι) : Local ι :=
  (s.unblockTx hw i).onSdata i fun sdata =>
    { sdata with csaActive := false, csaWaitingBcn := false }

def staAbortChanswitch (s : Local ι) (hw : Hw ι) (i : ι) : Local ι :=
  if hw.abortChannelSwitchOp = false then s
  else (s.unblockTx hw i).onSdata i fun sdata => { sdata with csaActive := false }

/-- Of `ieee80211_set_disassoc`, what concerns the queues and the switch. -/
def setDisassoc (s : Local ι) (hw : Hw ι) (i : ι) (tx : Bool) : Local ι :=
  let s := s.onSdata i fun sdata => { sdata with associated := false }
  let s := if tx then (s.flushQueues hw i).flushQueues hw i else s
  let s := s.onSdata i fun sdata =>
    { sdata with csaActive := false, csaWaitingBcn := false, csaIgnoredSameChan := false }
  s.unblockTx hw i

/-- `__ieee80211_disconnect` -/
def disconnect (s : Local ι) (hw : Hw ι) (i : ι) : Local ι :=
  if (s.sdata i).associated = false then s
  else
    let tx := !(s.sdata i).csaBlockTx
    let s := s.setDisassoc hw i tx
    let s := s.onSdata i fun sdata => { sdata with csaActive := false, csaWaitingBcn := false }
    s.unblockTx hw i

end Local

/-! ## The start of a switch -/

/-- An announcement and what is answered to it.  `res` is what `ieee80211_parse_ch_switch_ie`
returns, with the mode and the channel it found. -/
structure Announcement where
  scanning : Bool := false
  res : Int := 0
  mode : UInt8
  chandef : Chandef
  beacon : Bool := true
  chandefUsable : Bool := true
  chanctxConf : Bool := true
  preChannelSwitchFails : Bool := false
  reserveChanctxFails : Bool := false
deriving DecidableEq, Repr

def Announcement.blockTx (rx : Announcement) : Bool := if rx.beacon then rx.mode != 0 else false

namespace Local

/-- What sends the announced switch to `drop_connection`. -/
def dropsConnection (hw : Hw ι) (rx : Announcement) : Bool :=
  !rx.chanctxConf || (hw.useChanctx && !hw.chanctxStaCsa) || rx.preChannelSwitchFails ||
    rx.reserveChanctxFails

def staProcessChanswitch (s : Local ι) (hw : Hw ι) (i : ι) (rx : Announcement) : Local ι :=
  if (s.sdata i).associated = false then s
  else if rx.scanning then s
  else if rx.res < 0 then s
  else if rx.beacon && (s.sdata i).csaActive && !(s.sdata i).csaWaitingBcn then
    if rx.res ≠ 0 then s.staAbortChanswitch hw i else s
  else if (s.sdata i).csaActive || decide (rx.res ≠ 0) then s
  else if rx.chandefUsable = false then s
  else if rx.chandef = (s.sdata i).chandef ∧ (rx.mode = 0 ∨ rx.beacon = false) then
    s.onSdata i fun sdata => { sdata with csaIgnoredSameChan := true }
  else if dropsConnection hw rx then
    -- the queues are not stopped here
    s.onSdata i fun sdata => { sdata with csaActive := true, csaBlockTx := rx.blockTx }
  else
    let s := s.onSdata i fun sdata =>
      { sdata with
        csaActive := true
        csaChandef := rx.chandef
        csaBlockTx := rx.blockTx
        csaIgnoredSameChan := false }
    if rx.blockTx then s.stopVifQueues hw i else s

end Local

/-! ## Runs -/

/-- `moved` is an interface on its new channel that waits for a beacon there, as
`ieee80211_chswitch_work` leaves it. -/
inductive Event (ι : Type*)
  | associate (i : ι) (chandef : Chandef)
  | staProcessChanswitch (i : ι) (rx : Announcement)
  | moved (i : ι)
  | staAbortChanswitch (i : ι)
  | chswitchPostBeacon (i : ι)
  | disconnect (i : ι)

def Local.step (hw : Hw ι) (s : Local ι) : Event ι → Local ι
  | .associate i chandef => s.onSdata i fun sdata => { sdata with associated := true, chandef }
  | .staProcessChanswitch i rx => s.staProcessChanswitch hw i rx
  | .moved i =>
      if (s.sdata i).associated && (s.sdata i).csaActive then
        s.onSdata i fun sdata =>
          { sdata with chandef := sdata.csaChandef, csaWaitingBcn := true }
      else s
  | .staAbortChanswitch i => s.staAbortChanswitch hw i
  | .chswitchPostBeacon i => s.chswitchPostBeacon hw i
  | .disconnect i => s.disconnect hw i

end Iwlwifi.Chanswitch
