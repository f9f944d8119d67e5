import Iwlwifi.Wireless.Chan

/-!
# Transmit block-ack sessions

The session of one TID of a station, from `net/mac80211/agg-tx.c` and
`ieee80211_ba_session_work` of `net/mac80211/ht.c`.  What holds the mutex runs to its end before
anything else that needs it; interrupts, timers and requests come at any time, also between the
parts of the session work and of a stop (`Stage`).  Sessions are numbered, and the calls of the
driver recorded with these numbers, for reference only.
-/

namespace Iwlwifi.AggTx

/-! ## Sessions -/

/-- `enum ieee80211_ampdu_mlme_action`, of a transmit session. -/
inductive AmpduAction
  | start
  | stopCont
  | stopFlush
  | stopFlushCont
  | operational
  deriving DecidableEq

/-- `enum ieee80211_agg_stop_reason` -/
inductive AggStopReason
  | declined
  | localRequest
  | peerRequest
  | destroySta
  deriving DecidableEq

/-- What the driver answers to a start. -/
inductive StartAnswer
  | refused
  | immediate
  | deferred
  deriving DecidableEq

/-- `struct tid_ampdu_tx`.  A timer is whether it is pending. -/
structure TidAmpduTx where
  id : Nat
  dialogToken : Nat
  timeout : Nat
  bufSize : Nat := 0
  amsdu : Bool := false
  lastTx : Nat := 0
  /-- `stop_initiator == WLAN_BACK_INITIATOR` -/
  stopInitiator : Bool := false
  txStop : Bool := false
  addbaRespTimer : Bool := false
  sessionTimer : Bool := false
  drvReady : Bool := false
  responseReceived : Bool := false
  operational : Bool := false
  stopping : Bool := false
  wantStart : Bool := false
  wantStop : Bool := false
  startCb : Bool := false
  stopCb : Bool := false

/-- Where the holder of the mutex is: the mutex is free, the session work is before one of its
parts, or a stop, of the work or not, has set `STOPPING` and dropped the lock. -/
inductive Stage
  | idle
  | starting
  | startCb (blocked : Bool)
  | wantStop
  | stopCb
  | stopTx (reason : AggStopReason) (inWork : Bool)
  deriving DecidableEq

/-- What there is of one TID. -/
structure BaState where
  tidTx : Option TidAmpduTx := none
  tidStartTx : Option TidAmpduTx := none
  dialogTokenAllocator : Nat := 0
  addbaReqNum : Nat := 0
  lastAddbaReqTime : Nat := 0
  /-- `WLAN_STA_BLOCK_BA` -/
  blockBa : Bool := false
  txqStop : Bool := false
  txqAmpdu : Bool := false
  txqNoAmsdu : Bool := false
  /-- Sent frames: ADDBA requests with their tokens, and how many DELBA frames. -/
  addbaRequests : List Nat := []
  delbas : Nat := 0
  stage : Stage := .idle
  nextId : Nat := 0
  log : List (Nat × AmpduAction) := []
  /-- The sessions as they were when `OPERATIONAL` was set, for reference. -/
  setOperational : List TidAmpduTx := []

/-- The fixed facts about station, hardware and interface. -/
structure BaEnv where
  hz : Nat
  maxTxAggregationSubframes : Nat
  reservedTid : Bool
  htSupported : Bool
  ampduAction : Bool
  ampduAggregation : Bool
  txAmpduSetupInHw : Bool
  /-- `tid >= IEEE80211_FIRST_TSPEC_TSID` -/
  tspecTid : Bool
  vifType : Nl80211Iftype

namespace BaState

/-- A change of the state of the live session. -/
def modifyTx (s : BaState) (change : TidAmpduTx → TidAmpduTx) : BaState :=
  { s with tidTx := s.tidTx.map change }

/-- `drv_ampdu_action` for the live session -/
def drvAmpduAction (s : BaState) (action : AmpduAction) : BaState :=
  { s with log := s.log ++ s.tidTx.toList.map fun t => (t.id, action) }

/-- `ieee80211_agg_start_txq` -/
def aggStartTxq (s : BaState) (enable : Bool) : BaState :=
  { s with txqAmpdu := enable, txqStop := false }

/-! ## Requests and callbacks -/

/-- `ieee80211_start_tx_ba_session` -/
def startTxBaSession (env : BaEnv) (s : BaState) (timeout now : Nat) (allocated : Bool) :
    BaState × Int :=
  if env.reservedTid then (s, -22)
  else if !env.htSupported then (s, -22)
  else if !env.ampduAction then (s, -22)
  else if !env.ampduAggregation || env.txAmpduSetupInHw then (s, -22)
  else if env.tspecTid then (s, -22)
  else if env.vifType != .station && env.vifType != .meshPoint && env.vifType != .apVlan &&
      env.vifType != .ap && env.vifType != .adhoc then (s, -22)
  else if s.blockBa then (s, -22)
  else if env.vifType == .adhoc && !env.htSupported then (s, -22)
  else if 15 < s.addbaReqNum then (s, -16)
  else if 3 < s.addbaReqNum ∧ now < s.lastAddbaReqTime + 15 * env.hz then (s, -16)
  else if s.tidTx.isSome || s.tidStartTx.isSome then (s, -11)
  else if !allocated then (s, -12)
  else
    let token := (s.dialogTokenAllocator + 1) % 256
    ({ s with
        tidStartTx := some
          { id := s.nextId, dialogToken := token, timeout := timeout, wantStart := true }
        dialogTokenAllocator := token
        nextId := s.nextId + 1 }, 0)

/-- `ieee80211_stop_tx_ba_session` -/
def requestStop (env : BaEnv) (s : BaState) : BaState × Int :=
  if !env.ampduAction then (s, -22)
  else
    match s.tidTx with
    | none => (s, -2)
    | some t =>
        if t.stopping then (s, 0) else (s.modifyTx fun t => { t with wantStop := true }, 0)

/-- `sta_addba_resp_timer_expired` -/
def addbaRespTimerExpired (env : BaEnv) (s : BaState) : BaState :=
  match s.tidTx with
  | none => s
  | some t =>
      if !t.addbaRespTimer then s
      else
        let s := s.modifyTx fun t => { t with addbaRespTimer := false }
        if t.responseReceived then s else (s.requestStop env).1

/-- `sta_tx_agg_session_timer_expired`; a TU is 1024 µs. -/
def sessionTimerExpired (env : BaEnv) (s : BaState) (now : Nat) : BaState :=
  match s.tidTx with
  | none => s
  | some t =>
      if !t.sessionTimer then s
      else
        let s := s.modifyTx fun t => { t with sessionTimer := false }
        if t.stopping then s
        else if now < t.lastTx + t.timeout * 1024 * env.hz / 1000000 then
          s.modifyTx fun t => { t with sessionTimer := true }
        else (s.requestStop env).1

/-- `ieee80211_start_tx_ba_cb_irqsafe` -/
def startTxBaCbIrqsafe (s : BaState) : BaState := s.modifyTx fun t => { t with startCb := true }

/-- `ieee80211_stop_tx_ba_cb_irqsafe` -/
def stopTxBaCbIrqsafe (s : BaState) : BaState := s.modifyTx fun t => { t with stopCb := true }

/-- A frame of the session is sent: `ieee80211_tx_prep_agg`. -/
def transmit (s : BaState) (now : Nat) : BaState :=
  s.modifyTx fun t => if t.operational && t.timeout != 0 then { t with lastTx := now } else t

/-! ## Under the mutex -/

/-- `___ieee80211_stop_tx_ba_session` up to where it waits for the timers. -/
def stopTxBaSession (s : BaState) (reason : AggStopReason) : BaState × Int :=
  let s := { s with tidStartTx := none }
  match s.tidTx with
  | none => (s, -2)
  | some t =>
      if t.stopping then
        if reason ≠ .destroySta then (s, -114) else (s.drvAmpduAction .stopFlushCont, 0)
      else if t.wantStart then ({ s with tidTx := none }, 0)
      else
        let s := s.modifyTx fun t => { t with stopping := true }
        ({ s with txqStop := true, stage := .stopTx reason (s.stage = .stopCb) }, 0)

/-- The rest of `___ieee80211_stop_tx_ba_session`. -/
def stopTxBaSessionEnd (s : BaState) (reason : AggStopReason) (inWork : Bool) : BaState :=
  let action : AmpduAction := if reason = .destroySta then .stopFlush else .stopCont
  let s := s.modifyTx fun t => { t with
    addbaRespTimer := false
    sessionTimer := false
    operational := false
    stopInitiator := decide (reason ≠ .peerRequest)
    txStop := decide (reason = .localRequest) }
  { s with stage := if inWork then .stopCb else .idle }.drvAmpduAction action

/-- `ieee80211_tx_ba_session_handle_start` -/
def handleStart (s : BaState) (answer : StartAnswer) (now : Nat) : BaState :=
  let s := s.modifyTx fun t => { t with wantStart := false }
  let s := { s with txqStop := true }.drvAmpduAction .start
  if answer = .refused then { s with tidTx := none }.aggStartTxq false
  else
    let s := s.modifyTx fun t =>
      { t with drvReady := t.drvReady || decide (answer = .immediate), addbaRespTimer := true }
    { s with
      lastAddbaReqTime := now
      addbaReqNum := s.addbaReqNum + 1
      addbaRequests := s.addbaRequests ++ s.tidTx.toList.map (·.dialogToken) }

/-- `ieee80211_agg_tx_operational` -/
def aggTxOperational (s : BaState) : BaState :=
  let s := s.drvAmpduAction .operational
  let s := { s with setOperational := s.setOperational ++ s.tidTx.toList }
  (s.modifyTx fun t => { t with operational := true }).aggStartTxq true

/-- `ieee80211_start_tx_ba_cb` -/
def startTxBaCb (s : BaState) : BaState :=
  match s.tidTx with
  | none => s
  | some t =>
      if t.drvReady then s
      else
        let s := s.modifyTx fun t => { t with drvReady := true }
        if t.responseReceived then s.aggTxOperational else s

/-- `ieee80211_stop_tx_ba_cb` -/
def stopTxBaCb (s : BaState) : BaState :=
  match s.tidTx with
  | none => s
  | some t =>
      if !t.stopping then s
      else
        { s with
          tidTx := none
          delbas := s.delbas + if t.stopInitiator && t.txStop then 1 else 0 }.aggStartTxq false

/-- What is read of an ADDBA response. -/
structure AddbaResp where
  dialogToken : Nat
  success : Bool
  bufSize : Nat
  amsdu : Bool
  timeout : Nat

/-- `ieee80211_process_addba_resp` -/
def processAddbaResp (env : BaEnv) (s : BaState) (resp : AddbaResp) (now : Nat) : BaState :=
  let bufSize := min resp.bufSize env.maxTxAggregationSubframes
  let s := if resp.amsdu then s else { s with txqNoAmsdu := true }
  match s.tidTx with
  | none => s
  | some t =>
      if resp.dialogToken ≠ t.dialogToken then s
      else
        let s := s.modifyTx fun t => { t with addbaRespTimer := false }
        if t.wantStop || t.stopping then s
        else if resp.success && bufSize != 0 then
          if t.responseReceived then s
          else
            let s := s.modifyTx fun t => { t with
              responseReceived := true, bufSize := bufSize, amsdu := resp.amsdu }
            let s := if t.drvReady then s.aggTxOperational else s
            let s := { s with addbaReqNum := 0 }
            s.modifyTx fun t =>
              if resp.timeout != 0 then
                { t with timeout := resp.timeout, sessionTimer := true, lastTx := now }
              else { t with timeout := resp.timeout }
        else (s.stopTxBaSession .declined).1

/-! ## The session work -/

/-- `ieee80211_ba_session_work` comes to the TID.  It has read `WLAN_STA_BLOCK_BA` before. -/
def workBegin (s : BaState) (blocked : Bool) : BaState :=
  match s.tidStartTx with
  | some t =>
      if blocked then { s with stage := .startCb blocked }
      else
        { s with
          tidStartTx := none
          tidTx := if s.tidTx.isSome then s.tidTx else some t
          stage := .starting }
  | none => { s with stage := .startCb blocked }

/-- The callback of the driver to a start. -/
def workStartCb (s : BaState) (blocked : Bool) : BaState :=
  match s.tidTx with
  | none => { s with stage := .idle }
  | some t =>
      let s := { s with stage := .wantStop }
      if !blocked && t.startCb then (s.modifyTx fun t => { t with startCb := false }).startTxBaCb
      else s

/-- A stop that was requested. -/
def workWantStop (s : BaState) : BaState :=
  let s' := { s with stage := .stopCb }
  if s.tidTx.any (·.wantStop) then
    ((s'.modifyTx fun t => { t with wantStop := false }).stopTxBaSession .localRequest).1
  else s'

/-- The callback of the driver to a stop. -/
def workStopCb (s : BaState) : BaState :=
  let s' := { s with stage := .idle }
  if s.tidTx.any (·.stopCb) then (s'.modifyTx fun t => { t with stopCb := false }).stopTxBaCb
  else s'

/-- The end of `ieee80211_sta_tear_down_BA_sessions` for a station that is destroyed. -/
def tearDownEnd (s : BaState) : BaState :=
  if s.tidTx.any (·.stopCb) then (s.modifyTx fun t => { t with stopCb := false }).stopTxBaCb
  else s

end BaState

inductive Event
  | startTxBaSession (timeout now : Nat) (allocated : Bool)
  | otherTid
  | stopTxBaSession
  | addbaRespTimer
  | sessionTimer (now : Nat)
  | startTxBaCbIrqsafe
  | stopTxBaCbIrqsafe
  | transmit (now : Nat)
  | setBlockBa (blocked : Bool)
  | workBegin (blocked : Bool)
  | workPart (answer : StartAnswer) (now : Nat)
  | addbaResp (resp : BaState.AddbaResp) (now : Nat)
  | stop (reason : AggStopReason)
  | tearDownEnd

/-- What holds the mutex goes on; `answer` is what the driver says to a start. -/
def BaState.workPart (s : BaState) (answer : StartAnswer) (now : Nat) : BaState :=
  match s.stage with
  | .idle => s
  | .starting => { s with stage := .idle }.handleStart answer now
  | .startCb blocked => s.workStartCb blocked
  | .wantStop => s.workWantStop
  | .stopCb => s.workStopCb
  | .stopTx reason inWork => s.stopTxBaSessionEnd reason inWork

/-- One event.  What needs the mutex waits for its holder to end. -/
def step (env : BaEnv) (s : BaState) : Event → BaState
  | .startTxBaSession timeout now allocated => (s.startTxBaSession env timeout now allocated).1
  | .otherTid => { s with dialogTokenAllocator := (s.dialogTokenAllocator + 1) % 256 }
  | .stopTxBaSession => (s.requestStop env).1
  | .addbaRespTimer => s.addbaRespTimerExpired env
  | .sessionTimer now => s.sessionTimerExpired env now
  | .startTxBaCbIrqsafe => s.startTxBaCbIrqsafe
  | .stopTxBaCbIrqsafe => s.stopTxBaCbIrqsafe
  | .transmit now => s.transmit now
  | .setBlockBa blocked => { s with blockBa := blocked }
  | .workBegin blocked => if s.stage = .idle then s.workBegin blocked else s
  | .workPart answer now => s.workPart answer now
  | .addbaResp resp now => if s.stage = .idle then s.processAddbaResp env resp now else s
  | .stop reason => if s.stage = .idle then (s.stopTxBaSession reason).1 else s
  | .tearDownEnd => if s.stage = .idle then s.tearDownEnd else s

end Iwlwifi.AggTx
