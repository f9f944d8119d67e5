import Mathlib.Logic.Function.Basic

/-!
# Time events and session protection

The driver asks the firmware to stay on a channel for a while: to hear a beacon of the network it
joins, to switch channels with it, or to remain on a channel for a P2P device.  Each interface has
a record for this, `time_event_data`, and one for hotspot requests, `hs_time_event_data`; the
records that the firmware knows are on `time_event_list` and `aux_roc_te_list`.  Older firmware has
a command for time events; newer firmware one for session protection, which uses the record of the
interface too.

The commands are sent under a mutex; notifications of the firmware are handled at any time, also
between the two parts of adding a record.  What a function returns, the queues that are
flushed when a remain-on-channel ends, and what else a channel switch does are left out.
-/

namespace Iwlwifi.TimeEvent

inductive VifType
  | station
  | p2pDevice
  | ap
  | other
deriving DecidableEq, Repr

def teBssStaAggressiveAssoc : UInt32 := 0
def teP2pDeviceDiscoverable : UInt32 := 4
def teP2pClientAssoc : UInt32 := 9
def teChannelSwitchPeriod : UInt32 := 15
def teMax : UInt32 := 16
def hotSpotCmd : UInt32 := 0x53

def hostEventStart : UInt32 := 0x1
def hostEventEnd : UInt32 := 0x2

/-- `struct iwl_mvm_time_event_data` -/
structure TeData (ι : Type*) where
  vif : Option ι := none
  endJiffies : UInt64 := 0
  duration : UInt32 := 0
  running : Bool := false
  uid : UInt32 := 0
  id : UInt32
deriving DecidableEq, Repr

/-- The records of an interface, `time_event_data` and `hs_time_event_data`. -/
inductive Te (ι : Type*)
  | timeEvent (i : ι)
  | hotSpot (i : ι)
deriving DecidableEq, Repr

structure Mvm (ι : Type*) where
  vifType : ι → VifType
  sessionProtCmd : Bool
  tuToJiffies : UInt32 → UInt64

/-- `adding` is the record for which a `TIME_EVENT_CMD` or a `HOT_SPOT_CMD` has been sent and not
answered. -/
structure State (ι : Type*) where
  te : Te ι → TeData ι
  timeEventList : List (Te ι) := []
  auxRocTeList : List (Te ι) := []
  adding : Option (Te ι) := none

/-- What is known of the network of an interface. -/
structure BssConf where
  csaBcnPending : Bool
  assoc : Bool
  dtimPeriod : UInt8
deriving DecidableEq, Repr

/-- `struct iwl_time_event_notif` -/
structure TimeEventNotif where
  uniqueId : UInt32
  action : UInt32
  status : UInt32
deriving DecidableEq, Repr

def TimeEventNotif.starts (notif : TimeEventNotif) : Bool := notif.action &&& hostEventStart != 0

def TimeEventNotif.ends (notif : TimeEventNotif) : Bool := notif.action &&& hostEventEnd != 0

/-- `struct iwl_mvm_session_prot_notif`, with the interface that `mac_id` stands for. -/
structure SessionProtNotif (ι : Type*) where
  vif : Option ι
  status : UInt32
  start : UInt32
deriving DecidableEq, Repr

inductive RocType
  | normal
  | mgmtTx
deriving DecidableEq, Repr

/-- `time_after` -/
def timeAfter (a b : UInt64) : Bool := decide ((b - a).toInt64 < 0)

def msecToTu (msec : UInt32) : UInt32 := msec * 1000 / 1024

variable {ι : Type*}

/-- `TU_TO_EXP_TIME` -/
def Mvm.tuToExpTime (mvm : Mvm ι) (jiffies : UInt64) (tu : UInt32) : UInt64 :=
  jiffies + mvm.tuToJiffies tu

/-- The record runs for long enough. -/
def TeData.enoughTime (mvm : Mvm ι) (jiffies : UInt64) (minDuration : UInt32) (te : TeData ι) :
    Bool :=
  te.running && timeAfter te.endJiffies (mvm.tuToExpTime jiffies minDuration)

def checkDisconnect (mvm : Mvm ι) (bss : ι → BssConf) (vif : ι) : Bool :=
  mvm.vifType vif = .station &&
    !(!(bss vif).csaBcnPending && (bss vif).assoc && (bss vif).dtimPeriod != 0)

/-- What `iwl_mvm_te_clear_data` leaves of a record. -/
def TeData.cleared (te : TeData ι) : TeData ι :=
  if te.vif.isNone then te
  else { te with running := false, uid := 0, id := teMax, vif := none }

section

variable [DecidableEq ι]

def State.setTe (s : State ι) (r : Te ι) (te : TeData ι) : State ι :=
  { s with te := Function.update s.te r te }

/-- A record is on one list at most. -/
def State.listDel (s : State ι) (r : Te ι) : State ι :=
  { s with timeEventList := s.timeEventList.erase r, auxRocTeList := s.auxRocTeList.erase r }

def teClearData (s : State ι) (r : Te ι) : State ι :=
  if (s.te r).vif.isNone then s else (s.listDel r).setTe r (s.te r).cleared

variable (mvm : Mvm ι)

/-! ## Notifications -/

def teHandleNotifyCsa (s : State ι) (r : Te ι) : State ι := teClearData s r

def teHandleNotif (jiffies : UInt64) (bss : ι → BssConf) (notif : TimeEventNotif) (s : State ι)
    (r : Te ι) : State ι :=
  match (s.te r).vif with
  | none => s
  | some vif =>
    if notif.status = 0 && checkDisconnect mvm bss vif then teClearData s r
    else if notif.ends then teClearData s r
    else if notif.starts then
      let te := s.te r
      let s := s.setTe r
        { te with running := true, endJiffies := mvm.tuToExpTime jiffies te.duration }
      if mvm.vifType vif = .p2pDevice then s
      else if te.id = teChannelSwitchPeriod then teHandleNotifyCsa s r
      else s
    else s

/-- `none` when the notification is not for a hotspot request. -/
def auxRocTeHandleNotif (s : State ι) (notif : TimeEventNotif) : Option (State ι) :=
  match s.auxRocTeList.find? fun r => (s.te r).uid = notif.uniqueId with
  | none => none
  | some r =>
    let te := s.te r
    if notif.status = 0 || notif.action = hostEventEnd then
      some ((s.listDel r).setTe r { te with running := false, vif := none, uid := 0, id := teMax })
    else if notif.action = hostEventStart then some (s.setTe r { te with running := true })
    else none

def rxTimeEventNotif (jiffies : UInt64) (bss : ι → BssConf) (notif : TimeEventNotif)
    (s : State ι) : State ι :=
  match auxRocTeHandleNotif s notif with
  | some s => s
  | none =>
    s.timeEventList.foldl (fun s r =>
      if notif.uniqueId = (s.te r).uid then teHandleNotif mvm jiffies bss notif s r else s) s

def rxSessionProtectNotif (jiffies : UInt64) (notif : SessionProtNotif ι) (s : State ι) :
    State ι :=
  match notif.vif with
  | none => s
  | some vif =>
    if mvm.vifType vif ≠ .p2pDevice then
      let r := .timeEvent vif
      let s := if notif.status = 0 then teClearData s r else s
      if notif.start ≠ 0 then
        let te := s.te r
        s.setTe r { te with running := true, endJiffies := mvm.tuToExpTime jiffies te.duration }
      else teClearData s r
    else s

/-! ## Commands -/

/-- The part of `iwl_mvm_time_event_send_add` up to the command. -/
def timeEventSendAdd (s : State ι) (vif : ι) (duration id : UInt32) : State ι :=
  let r := .timeEvent vif
  let te := s.te r
  if te.id ≠ teMax then s
  else
    { s.setTe r { te with vif := some vif, duration := duration, id := id } with
      timeEventList := s.timeEventList ++ [r]
      adding := some r }

/-- How a command that adds a record ends. -/
inductive Answer
  | failed
  | malformed
  | response (uid : UInt32)
deriving DecidableEq, Repr

/-- The rest of `iwl_mvm_time_event_send_add` and of `iwl_mvm_send_aux_roc_cmd`.  A hotspot request
is listed by the response, so that one whose command fails is removed from no list. -/
def timeEventAnswer (s : State ι) (answer : Answer) : State ι :=
  match s.adding with
  | none => s
  | some r =>
    let s := { s with adding := none }
    match answer with
    | .failed => teClearData s r
    | .malformed => s
    | .response uid =>
      let s := s.setTe r { s.te r with uid := uid }
      match r with
      | .timeEvent _ => s
      | .hotSpot _ => { s with auxRocTeList := s.auxRocTeList ++ [r] }

def removeTimeEvent (s : State ι) (r : Te ι) : State ι := teClearData s r

def stopSessionProtection (s : State ι) (vif : ι) : State ι :=
  if (s.te (.timeEvent vif)).id ≠ teBssStaAggressiveAssoc then s
  else removeTimeEvent s (.timeEvent vif)

def protectSession (s : State ι) (vif : ι) (jiffies : UInt64) (duration minDuration : UInt32) :
    State ι :=
  let te := s.te (.timeEvent vif)
  if te.enoughTime mvm jiffies minDuration then s
  else
    let s := if te.running then stopSessionProtection s vif else s
    timeEventSendAdd s vif duration teBssStaAggressiveAssoc

/-- Clearing the record again, when the command fails, changes nothing more. -/
def scheduleSessionProtection (s : State ι) (vif : ι) (jiffies : UInt64)
    (duration minDuration : UInt32) (sent : Bool) : State ι :=
  let r := .timeEvent vif
  if (s.te r).enoughTime mvm jiffies minDuration then s
  else
    let s := teClearData s r
    let s := s.setTe r { s.te r with duration := msecToTu duration }
    if sent then s else teClearData s r

def scheduleCsaPeriod (s : State ι) (vif : ι) (duration : UInt32) : State ι :=
  let r := .timeEvent vif
  if (s.te r).running then
    if (s.te r).id = teChannelSwitchPeriod then s
    else timeEventSendAdd (removeTimeEvent s r) vif duration teChannelSwitchPeriod
  else timeEventSendAdd s vif duration teChannelSwitchPeriod

def startP2pRoc (s : State ι) (vif : ι) (duration : UInt32) (type : RocType) : State ι :=
  if (s.te (.timeEvent vif)).running then s
  else if mvm.sessionProtCmd then s
  else
    let id := match type with
      | .normal => teP2pDeviceDiscoverable
      | .mgmtTx => teP2pClientAssoc
    timeEventSendAdd s vif (msecToTu duration) id

def getRocTe (s : State ι) : Option (Te ι) :=
  match s.timeEventList.find? fun r => (s.te r).vif.any fun vif =>
      mvm.vifType vif = .p2pDevice with
  | some r => some r
  | none => s.auxRocTeList.head?

/-- Both kinds of records are removed alike. -/
def stopRoc (s : State ι) : State ι :=
  if mvm.sessionProtCmd then s
  else
    match getRocTe mvm s with
    | none => s
    | some r => removeTimeEvent s r

/-- The part of `iwl_mvm_send_aux_roc_cmd` up to the command. -/
def sendAuxRocCmd (s : State ι) (vif : ι) (duration : UInt32) : State ι :=
  let r := .hotSpot vif
  let te := s.te r
  if te.id = hotSpotCmd then s
  else
    { s.setTe r { te with vif := some vif, duration := duration, id := hotSpotCmd } with
      adding := some r }

/-! ## Runs -/

/-- `sent` says whether the firmware took a command. -/
inductive Event (ι : Type*)
  | protectSession (vif : ι) (jiffies : UInt64) (duration minDuration : UInt32)
  | stopSessionProtection (vif : ι)
  | scheduleSessionProtection (vif : ι) (jiffies : UInt64) (duration minDuration : UInt32)
      (sent : Bool)
  | scheduleCsaPeriod (vif : ι) (duration : UInt32)
  | startP2pRoc (vif : ι) (duration : UInt32) (type : RocType)
  | stopRoc (vif : ι) (sent : Bool)
  | sendAuxRocCmd (vif : ι) (duration : UInt32)
  | timeEventAnswer (answer : Answer)
  | timeEventNotif (jiffies : UInt64) (bss : ι → BssConf) (notif : TimeEventNotif)
  | sessionProtectNotif (jiffies : UInt64) (notif : SessionProtNotif ι)

/-- What the mutex allows: while a record is being added, no other command. -/
def Event.allowed (s : State ι) : Event ι → Bool
  | .timeEventAnswer _ | .timeEventNotif .. | .sessionProtectNotif .. => true
  | _ => s.adding.isNone

def Event.run (s : State ι) : Event ι → State ι
  | .protectSession vif jiffies duration minDuration =>
    TimeEvent.protectSession mvm s vif jiffies duration minDuration
  | .stopSessionProtection vif => TimeEvent.stopSessionProtection s vif
  | .scheduleSessionProtection vif jiffies duration minDuration sent =>
    TimeEvent.scheduleSessionProtection mvm s vif jiffies duration minDuration sent
  | .scheduleCsaPeriod vif duration => TimeEvent.scheduleCsaPeriod s vif duration
  | .startP2pRoc vif duration type => TimeEvent.startP2pRoc mvm s vif duration type
  | .stopRoc _ _ => TimeEvent.stopRoc mvm s
  | .sendAuxRocCmd vif duration => TimeEvent.sendAuxRocCmd s vif duration
  | .timeEventAnswer answer => TimeEvent.timeEventAnswer s answer
  | .timeEventNotif jiffies bss notif => rxTimeEventNotif mvm jiffies bss notif s
  | .sessionProtectNotif jiffies notif => rxSessionProtectNotif mvm jiffies notif s

def step (s : State ι) (e : Event ι) : State ι :=
  if e.allowed s then e.run mvm s else s

end

/-- `iwl_mvm_mac_ctxt_init` -/
def State.init : State ι where
  te
    | .timeEvent _ => { id := teMax }
    | .hotSpot _ => { id := 0 }

end Iwlwifi.TimeEvent
