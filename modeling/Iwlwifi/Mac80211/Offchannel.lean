import Iwlwifi.Lib.Sweep

/-!
# Off-channel requests

A request to remain on a channel, or to send a management frame on a channel the device is not
operating on, waits in `roc_list` until the device goes to its channel.  Either the driver offers
`remain_on_channel`, takes a group of requests for one interface and channel at a time and calls
back when it has begun and when it is over, or mac80211 does the same in software with the delayed
work `roc_work`.  A scan and radar detection keep requests waiting, and waiting requests keep a
scan from starting; while the device is being reconfigured no request is started from the list.

A request is known by a number, the one the next allocation gives it, so that what becomes of it
can be told from `log`; `accepted` is the list of the requests that were taken in, each with its
frame.  Failing allocations, the delays of the works and what leaving and returning to the
operating channel does to the interfaces are left out.
-/

namespace Iwlwifi.Offchannel

open Lib

/-- `enum ieee80211_roc_type` -/
inductive RocType
  | normal
  | mgmtTx
deriving DecidableEq, Repr

def RocType.max : RocType → RocType → RocType
  | normal, other => other
  | mgmtTx, _ => mgmtTx

/-- `enum nl80211_chan_width`, as far as it is told apart here. -/
inductive ChanWidth
  | width5
  | width10
  | wider
deriving DecidableEq, Repr

structure ChanDef (κ : Type*) where
  chan : κ
  width : ChanWidth
deriving DecidableEq, Repr

/-- `struct ieee80211_roc_work` -/
structure RocWork (ι κ φ : Type*) where
  id : Nat
  sdata : ι
  chan : κ
  started : Bool := false
  abort : Bool := false
  hwBegun : Bool := false
  notified : Bool := false
  onChannel : Bool := false
  startTime : UInt64 := 0
  duration : UInt32
  reqDuration : UInt32
  frame : Option φ
  cookie : UInt64 := 0
  mgmtTxCookie : UInt64 := 0
  type : RocType
deriving DecidableEq, Repr

/-- What the driver, user space and the transmit path get to see. -/
inductive Event (ι κ φ : Type*)
  | remainOnChannel (sdata : ι) (chan : κ) (duration : UInt32) (type : RocType)
  | cancelRemainOnChannel (sdata : Option ι)
  | readyOnChannel (id : Nat) (cookie : UInt64) (duration : UInt32)
  | remainOnChannelExpired (id : Nat) (cookie : UInt64)
  | transmitted (id : Nat) (frame : φ)
  | notTransmitted (id : Nat) (frame : φ)
  | freed (id : Nat)
deriving DecidableEq, Repr

/-- What the driver and the build offer. -/
structure Hw where
  remainOnChannel : Bool
  useChanctx : Bool
  maxRemainOnChannelDuration : UInt32
  msecsToJiffies : UInt32 → UInt64
  jiffiesToMsecs : UInt64 → UInt32

/-- `struct ieee80211_local`.  Of the works, the flag says that the work is queued. -/
structure Local (ι κ φ : Type*) where
  rocList : List (RocWork ι κ φ) := []
  hwRocStart : Bool := false
  hwRocDone : Bool := false
  rocWork : Bool := false
  hwRocStartTime : UInt64 := 0
  rocCookieCounter : UInt64 := 0
  operChandef : ChanDef κ
  scanning : Bool := false
  scanReq : Option ι := none
  scanWork : Bool := false
  connectionPoll : ι → Bool := fun _ => false
  radarRequired : Bool := false
  inReconfig : Bool := false
  nextId : Nat := 0
  accepted : List (Nat × Option φ) := []
  log : List (Event ι κ φ) := []

variable {ι κ φ : Type*}

def eopnotsupp : Int := -95
def enoent : Int := -2
def ebusy : Int := -16

def longMax : Int64 := Int64.maxValue

def Local.emit (loc : Local ι κ φ) (events : List (Event ι κ φ)) : Local ι κ φ :=
  { loc with log := loc.log ++ events }

/-- The list as a walk leaves it, with what the walk said. -/
def Local.setRocs (loc : Local ι κ φ) (walk : List (RocWork ι κ φ) × List (Event ι κ φ)) :
    Local ι κ φ :=
  { loc with rocList := walk.1, log := loc.log ++ walk.2 }

/-! ## One request -/

def rocNotifyDestroy (roc : RocWork ι κ φ) : List (Event ι κ φ) :=
  roc.frame.toList.map (.notTransmitted roc.id) ++
    (if roc.mgmtTxCookie = 0 then [.remainOnChannelExpired roc.id roc.cookie] else []) ++
    [.freed roc.id]

/-- A visit that takes the request off the list. -/
def destroy (roc : RocWork ι κ φ) : Option (RocWork ι κ φ) × List (Event ι κ φ) :=
  (none, rocNotifyDestroy roc)

def handleRocStarted (startTime : UInt64) (roc : RocWork ι κ φ) :
    RocWork ι κ φ × List (Event ι κ φ) :=
  if roc.notified then
    (roc, [])
  else if roc.mgmtTxCookie = 0 then
    ({ roc with startTime, started := true, notified := true },
      [.readyOnChannel roc.id roc.cookie roc.reqDuration])
  else
    ({ roc with startTime, started := true, frame := none, notified := true },
      roc.frame.toList.map (.transmitted roc.id))

/-- A visit that leaves the request on the list. -/
def stay (visited : RocWork ι κ φ × List (Event ι κ φ)) :
    Option (RocWork ι κ φ) × List (Event ι κ φ) :=
  (some visited.1, visited.2)

/-! ## The end of requests -/

section

variable (hw : Hw) (now : UInt64)

def remaining (roc : RocWork ι κ φ) : Int64 :=
  (roc.startTime + hw.msecsToJiffies roc.duration - now).toInt64

def finished (roc : RocWork ι κ φ) : Bool :=
  roc.abort || roc.hwBegun || remaining hw now roc ≤ 0

/-- The walk of `ieee80211_end_finished_rocs`. -/
def endFinishedRocs (rocs : List (RocWork ι κ φ)) :
    List (RocWork ι κ φ) × List (Event ι κ φ) :=
  sweep (·.started) (fun roc => if finished hw now roc then destroy roc else (some roc, [])) rocs

/-- What `ieee80211_end_finished_rocs` returns. -/
def remainingDurMin (rocs : List (RocWork ι κ φ)) : Int64 :=
  ((rocs.takeWhile (·.started)).filter (fun roc => !finished hw now roc)).foldl
    (fun least roc => min least (remaining hw now roc)) longMax

def recalcSwWork (loc : Local ι κ φ) : Local ι κ φ × Bool :=
  let dur := remainingDurMin hw now loc.rocList
  let loc := loc.setRocs (endFinishedRocs hw now loc.rocList)
  if dur = longMax then (loc, false) else ({ loc with rocWork := true }, true)

end

/-! ## The start of the next request -/

/-- The work `ieee80211_hw_roc_start`. -/
def hwRocStart (loc : Local ι κ φ) : Local ι κ φ :=
  { loc with hwRocStart := false }.setRocs
    (sweep (·.started)
      (fun roc => stay (handleRocStarted loc.hwRocStartTime { roc with hwBegun := true }))
      loc.rocList)

/-- `ieee80211_ready_on_channel` -/
def readyOnChannel (now : UInt64) (loc : Local ι κ φ) : Local ι κ φ :=
  { loc with hwRocStartTime := now, hwRocStart := true }

def canScan (loc : Local ι κ φ) (sdata : ι) : Bool :=
  !loc.radarRequired && loc.rocList.isEmpty && !loc.connectionPoll sdata

def runDeferredScan (loc : Local ι κ φ) : Local ι κ φ :=
  match loc.scanReq with
  | none => loc
  | some sdata =>
      if loc.scanning || !canScan loc sdata then loc else { loc with scanWork := true }

section

variable [DecidableEq ι] [DecidableEq κ] (hw : Hw)

def sameGroup (roc tmp : RocWork ι κ φ) : Bool :=
  tmp.sdata = roc.sdata && tmp.chan = roc.chan

/-- `_ieee80211_start_next_roc`; `ret` is what the driver answers. -/
def startNextGroup (now : UInt64) (ret : Int) (loc : Local ι κ φ) : Local ι κ φ :=
  match loc.rocList with
  | [] => loc
  | roc :: rest =>
      if roc.started then
        loc
      else
        let group := rest.takeWhile (sameGroup roc)
        let maxDur := group.foldl (fun dur tmp => max tmp.duration dur) roc.duration
        let type := group.foldl (fun type tmp => tmp.type.max type) roc.type
        if hw.remainOnChannel then
          let loc := loc.emit [.remainOnChannel roc.sdata roc.chan maxDur type]
          if ret ≠ 0 then
            { loc.setRocs (sweep (sameGroup roc)
                (fun tmp => stay ({ tmp with started := true, abort := true }, []))
                loc.rocList) with hwRocDone := true }
          else
            loc.setRocs (sweep (sameGroup roc)
              (fun tmp => stay ({ tmp with started := true }, [])) loc.rocList)
        else
          let onChannel := decide (roc.chan = loc.operChandef.chan) &&
            loc.operChandef.width != .width5 && loc.operChandef.width != .width10
          { loc.setRocs (sweep (sameGroup roc)
              (fun tmp => stay (handleRocStarted now { tmp with onChannel })) loc.rocList) with
            rocWork := true }

def startNextRoc (now : UInt64) (ret : Int) (loc : Local ι κ φ) : Local ι κ φ :=
  match loc.rocList with
  | [] => runDeferredScan loc
  | roc :: _ =>
      if loc.inReconfig then loc
      else if roc.started then loc
      else if hw.remainOnChannel then startNextGroup hw now ret loc
      else { loc with rocWork := true }

/-- `__ieee80211_roc_work` -/
def rocWorkLocked (now : UInt64) (loc : Local ι κ φ) : Local ι κ φ :=
  if hw.remainOnChannel then
    loc
  else
    match loc.rocList with
    | [] => loc
    | roc :: _ =>
        if !roc.started then
          startNextGroup hw now 0 loc
        else
          let recalculated := recalcSwWork hw now loc
          if recalculated.2 then recalculated.1 else startNextRoc hw now 0 recalculated.1

/-- The work `ieee80211_roc_work`. -/
def rocWork (now : UInt64) (loc : Local ι κ φ) : Local ι κ φ :=
  rocWorkLocked hw now { loc with rocWork := false }

/-- The work `ieee80211_hw_roc_done`. -/
def hwRocDone (now : UInt64) (ret : Int) (loc : Local ι κ φ) : Local ι κ φ :=
  startNextRoc hw now ret
    ({ loc with hwRocDone := false }.setRocs (endFinishedRocs hw now loc.rocList))

/-- `ieee80211_remain_on_channel_expired` -/
def remainOnChannelExpired (loc : Local ι κ φ) : Local ι κ φ := { loc with hwRocDone := true }

end

/-! ## A new request -/

section

variable (hw : Hw) (now : UInt64)

/-- The new request as it is added behind `cur`, or nothing if the two cannot be combined. -/
def coalesceHwStartedRoc (new cur : RocWork ι κ φ) :
    Option (RocWork ι κ φ × List (Event ι κ φ)) :=
  if !cur.started then
    none
  else if !cur.hwBegun && new.duration > cur.duration then
    none
  else if new.duration >
      hw.jiffiesToMsecs (cur.startTime + hw.msecsToJiffies cur.duration - now) then
    none
  else if cur.hwBegun then
    some (handleRocStarted now { new with hwBegun := true })
  else
    some (new, [])

/-- The loop that queues a new request: the list with the request in it, what is said, and whether
it has joined a group that is running in software. -/
def queueRoc [DecidableEq ι] [DecidableEq κ] (roc : RocWork ι κ φ) :
    Bool → List (RocWork ι κ φ) → (List (RocWork ι κ φ) × List (Event ι κ φ)) × Bool
  | _, [] => (([roc], []), false)
  | combineStarted, tmp :: rest =>
      if tmp.chan ≠ roc.chan ∨ tmp.sdata ≠ roc.sdata then
        let queued := queueRoc roc combineStarted rest
        ((tmp :: queued.1.1, queued.1.2), queued.2)
      else if !tmp.started then
        ((tmp :: roc :: rest, []), false)
      else if !combineStarted then
        let queued := queueRoc roc combineStarted rest
        ((tmp :: queued.1.1, queued.1.2), queued.2)
      else if !hw.remainOnChannel then
        if hw.jiffiesToMsecs (now - tmp.startTime) + roc.duration >
            hw.maxRemainOnChannelDuration then
          let queued := queueRoc roc false rest
          ((tmp :: queued.1.1, queued.1.2), queued.2)
        else
          let added := handleRocStarted now { roc with onChannel := tmp.onChannel }
          ((tmp :: added.1 :: rest, added.2), true)
      else
        match coalesceHwStartedRoc hw now roc tmp with
        | some added => ((tmp :: added.1 :: rest, added.2), false)
        | none =>
            let queued := queueRoc roc false rest
            ((tmp :: queued.1.1, queued.1.2), queued.2)

end

/-- `ieee80211_mgmt_tx_cookie` -/
def mgmtTxCookie (loc : Local ι κ φ) : Local ι κ φ × UInt64 :=
  let counter := if loc.rocCookieCounter + 1 = 0 then 1 else loc.rocCookieCounter + 1
  ({ loc with rocCookieCounter := counter }, counter)

/-- A request as `ieee80211_start_roc_work` gets it; `cookie` is read where there is a frame. -/
structure RocParams (ι κ φ : Type*) where
  sdata : ι
  channel : κ
  duration : UInt32
  cookie : UInt64
  txskb : Option φ
  type : RocType

/-- The request that is allocated, and the state with the cookie counter after it. -/
def newRoc (params : RocParams ι κ φ) (loc : Local ι κ φ) : RocWork ι κ φ × Local ι κ φ :=
  let duration := if params.duration = 0 then 10 else params.duration
  let roc : RocWork ι κ φ :=
    { id := loc.nextId, sdata := params.sdata, chan := params.channel, duration
      reqDuration := duration, frame := params.txskb, type := params.type }
  let loc := { loc with nextId := loc.nextId + 1 }
  match params.txskb with
  | none => ({ roc with cookie := (mgmtTxCookie loc).2 }, (mgmtTxCookie loc).1)
  | some _ => ({ roc with mgmtTxCookie := params.cookie }, loc)

/-- The request is taken in: it is on the list, and this is not an error any more. -/
def Local.accept (loc : Local ι κ φ) (roc : RocWork ι κ φ)
    (walk : List (RocWork ι κ φ) × List (Event ι κ φ)) : Local ι κ φ :=
  { loc.setRocs walk with accepted := loc.accepted ++ [(roc.id, roc.frame)] }

/-- `ret` is what the driver answers; the result is the state, what is returned and the cookie. -/
def startRocWork [DecidableEq ι] [DecidableEq κ] (hw : Hw) (now : UInt64) (ret : Int)
    (params : RocParams ι κ φ) (loc : Local ι κ φ) : Local ι κ φ × Int × UInt64 :=
  if hw.useChanctx && !hw.remainOnChannel then
    (loc, eopnotsupp, params.cookie)
  else
    let allocated := newRoc params loc
    let roc := allocated.1
    let loc := allocated.2
    let cookie := if params.txskb.isNone then roc.cookie else params.cookie
    if loc.rocList.isEmpty && !loc.scanning && !loc.radarRequired then
      if !hw.remainOnChannel then
        ({ loc.accept roc (loc.rocList ++ [roc], []) with rocWork := true }, 0, cookie)
      else
        let loc := loc.emit [.remainOnChannel roc.sdata roc.chan roc.duration roc.type]
        if ret ≠ 0 then
          (loc, ret, cookie)
        else
          (loc.accept roc (loc.rocList ++ [{ roc with started := true }], []), 0, cookie)
    else
      let queued := queueRoc hw now roc true loc.rocList
      let loc := loc.accept roc queued.1
      (if queued.2 then (recalcSwWork hw now loc).1 else loc, 0, cookie)

/-! ## The removal of requests -/

/-- `ieee80211_cancel_roc`; `cancelRet` and `ret` are what the driver answers. -/
def cancelRoc [DecidableEq ι] [DecidableEq κ] (hw : Hw) (now : UInt64) (cancelRet ret : Int)
    (cookie : UInt64) (mgmtTx : Bool) (loc : Local ι κ φ) : Local ι κ φ × Int :=
  if cookie = 0 then
    (loc, enoent)
  else
    let loc := if loc.hwRocStart then hwRocStart loc else loc
    match loc.rocList.find? (fun roc =>
        (if mgmtTx then roc.mgmtTxCookie else roc.cookie) == cookie) with
    | none => (loc, enoent)
    | some found =>
        if !found.started then
          (loc.setRocs (sweep (fun _ => true)
            (fun roc => if roc.id = found.id then destroy roc else (some roc, []))
            loc.rocList), 0)
        else if hw.remainOnChannel then
          let loc := loc.emit [.cancelRemainOnChannel (some found.sdata)]
          if cancelRet ≠ 0 then
            (loc, cancelRet)
          else
            (startNextRoc hw now ret (loc.setRocs (sweep (·.started) destroy loc.rocList)), 0)
        else
          ({ loc.setRocs (sweep (fun _ => true)
              (fun roc => if roc.id = found.id then (some { roc with abort := true }, [])
                else (some roc, [])) loc.rocList) with rocWork := true }, 0)

/-- The interface of the request is not the one whose requests go; `none` stands for all. -/
def spared [DecidableEq ι] (sdata : Option ι) (roc : RocWork ι κ φ) : Bool :=
  sdata.isSome && sdata != some roc.sdata

/-- One entry in the loop of `ieee80211_roc_purge`. -/
def purgeVisit [DecidableEq ι] (hw : Hw) (sdata : Option ι) (roc : RocWork ι κ φ) :
    Option (RocWork ι κ φ) × List (Event ι κ φ) :=
  if spared sdata roc then
    (some roc, [])
  else if roc.started then
    if hw.remainOnChannel then
      (none, .cancelRemainOnChannel sdata :: rocNotifyDestroy roc)
    else
      (some { roc with abort := true }, [])
  else
    destroy roc

def rocPurge [DecidableEq ι] [DecidableEq κ] (hw : Hw) (now : UInt64) (sdata : Option ι)
    (loc : Local ι κ φ) : Local ι κ φ :=
  let workToDo := !hw.remainOnChannel &&
    loc.rocList.any (fun roc => !spared sdata roc && roc.started)
  let loc := loc.setRocs (sweep (fun _ => true) (purgeVisit hw sdata) loc.rocList)
  if workToDo then rocWorkLocked hw now loc else loc

/-! ## Scans, radar detection and reconfiguration -/

/-- `__ieee80211_start_scan`; `ret` is how starting it in the driver or in software ends. -/
def startScan (ret : Int) (sdata : ι) (loc : Local ι κ φ) : Local ι κ φ × Int :=
  if loc.scanReq.isSome || loc.radarRequired then
    (loc, ebusy)
  else if !canScan loc sdata then
    ({ loc with scanReq := some sdata }, 0)
  else if ret ≠ 0 then
    (loc, ret)
  else
    ({ loc with scanReq := some sdata, scanning := true }, 0)

/-- `__ieee80211_scan_completed`; `more` says that a scan of the hardware was not aborted and has
another band, which the driver takes, and `ret` is what the driver answers for the request. -/
def scanCompleted [DecidableEq ι] [DecidableEq κ] (hw : Hw) (now : UInt64) (more : Bool)
    (ret : Int) (loc : Local ι κ φ) : Local ι κ φ :=
  if loc.scanReq.isNone then
    loc
  else if loc.scanning && more then
    loc
  else
    let done := { loc with scanReq := none, scanning := false }
    if loc.scanning then startNextRoc hw now ret done else done

/-- The part of `ieee80211_scan_work` that starts a scan that had to wait. -/
def scanWork (ret : Int) (loc : Local ι κ φ) : Local ι κ φ :=
  let loc := { loc with scanWork := false }
  match loc.scanReq with
  | none => loc
  | some sdata =>
      if loc.scanning then
        loc
      else
        let start := startScan ret sdata { loc with scanReq := none }
        if start.2 ≠ 0 then { start.1 with scanReq := none } else start.1

/-- The end of `ieee80211_reconfig`. -/
def reconfigEnd [DecidableEq ι] [DecidableEq κ] (hw : Hw) (now : UInt64) (ret : Int)
    (loc : Local ι κ φ) : Local ι κ φ :=
  if loc.inReconfig then startNextRoc hw now ret { loc with inReconfig := false } else loc

/-! ## Runs -/

inductive Input (ι κ φ : Type*)
  | startRocWork (now : UInt64) (ret : Int) (params : RocParams ι κ φ)
  | readyOnChannel (now : UInt64)
  | hwRocStart
  | remainOnChannelExpired
  | hwRocDone (now : UInt64) (ret : Int)
  | rocWork (now : UInt64)
  | cancelRoc (now : UInt64) (cancelRet ret : Int) (cookie : UInt64) (mgmtTx : Bool)
  | rocPurge (now : UInt64) (sdata : Option ι)
  | startScan (ret : Int) (sdata : ι)
  | scanWork (ret : Int)
  | scanCompleted (now : UInt64) (more : Bool) (ret : Int)
  | connectionPoll (polls : ι → Bool)
  | radarRequired (required : Bool)
  | operChandef (chandef : ChanDef κ)
  | restartHw
  | reconfigEnd (now : UInt64) (ret : Int)
  | reconfigFailure

/-- A work runs only when it is queued. -/
def step [DecidableEq ι] [DecidableEq κ] (hw : Hw) (loc : Local ι κ φ) :
    Input ι κ φ → Local ι κ φ
  | .startRocWork now ret params => (startRocWork hw now ret params loc).1
  | .readyOnChannel now => readyOnChannel now loc
  | .hwRocStart => if loc.hwRocStart then hwRocStart loc else loc
  | .remainOnChannelExpired => remainOnChannelExpired loc
  | .hwRocDone now ret => if loc.hwRocDone then hwRocDone hw now ret loc else loc
  | .rocWork now => if loc.rocWork then rocWork hw now loc else loc
  | .cancelRoc now cancelRet ret cookie mgmtTx =>
      (cancelRoc hw now cancelRet ret cookie mgmtTx loc).1
  | .rocPurge now sdata => rocPurge hw now sdata loc
  | .startScan ret sdata => (startScan ret sdata loc).1
  | .scanWork ret => if loc.scanWork then scanWork ret loc else loc
  | .scanCompleted now more ret => scanCompleted hw now more ret loc
  | .connectionPoll polls => { loc with connectionPoll := polls }
  | .radarRequired required => { loc with radarRequired := required }
  | .operChandef chandef => { loc with operChandef := chandef }
  | .restartHw => { loc with inReconfig := true }
  | .reconfigEnd now ret => reconfigEnd hw now ret loc
  | .reconfigFailure => { loc with inReconfig := false }

/-- The device after `ieee80211_roc_setup`. -/
def rocSetup (operChandef : ChanDef κ) : Local ι κ φ := { operChandef }

end Iwlwifi.Offchannel
