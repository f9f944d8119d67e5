import Iwlwifi.Lib.Run
import Iwlwifi.Wireless.Chan

/-!
# TDLS channel switches

The state machine of `mvm->tdls_cs`: the operations of mac80211, the notification of the firmware
and the delayed work, which is the timeout of every switch.  The state leaves `IDLE` in
`iwl_mvm_tdls_config_channel_switch`; the work is armed by its callers.
`iwl_mvm_tdls_channel_switch` does so only after it has copied the template frame, and when the
copy fails the command is out and nothing ends the switch (`driven_run_iff`).

All of these hold `mvm->mutex`, so each is one step.  The flush at the end of
`iwl_mvm_tdls_cancel_channel_switch` comes after the lock is dropped and is a step of its own.
-/

namespace Iwlwifi.TdlsChannelSwitch

open Lib

/-! ## Data -/

abbrev Addr := BitVec 48

def iwlMvmStationCount : UInt8 := 16
def iwlMvmInvalidSta : UInt8 := 0xFF
def iwlTdlsChSwFrameMaxSize : Nat := 200
def wlanCipherSuiteCcmp : UInt32 := 0x000FAC04

inductive Errno where
  | ebusy
  | einval
  | enoent
  | enomem
  | command (code : Nat)
  deriving DecidableEq, Repr

/-- `enum iwl_mvm_tdls_cs_state`. -/
inductive CsState where
  | idle
  | reqSent
  | respRcvd
  | reqRcvd
  | active
  deriving DecidableEq, Repr

/-- `enum iwl_tdls_channel_switch_type`. -/
inductive SwitchType where
  | sendChanSwReq
  | sendChanSwRespAndMoveCh
  | moveCh
  deriving DecidableEq, Repr

def tuToMs (tu : Nat) : Nat := tu * 1024 / 1000
def tuToUs (tu : Nat) : Nat := tu * 1024

/-- An interface: what `bss_conf` says about its beacons, and its channel context. -/
structure Vif where
  dtimPeriod : UInt8
  beaconInt : UInt16
  chanctxConf : Option ChanDef

/-- The time between two DTIM beacons, in TU. -/
def Vif.dtim (vif : Vif) : Nat := vif.dtimPeriod.toNat * vif.beaconInt.toNat

/-- A station that has been added to the firmware, so that it has a number. -/
structure Sta where
  addr : Addr
  staId : UInt8
  tdls : Bool
  tdlsInitiator : Bool
  vif : Vif
  added : staId < iwlMvmStationCount

/-- A template frame; `hwKey` is the cipher of the key in its control block. -/
structure Skb where
  data : List UInt8
  hwKey : Option UInt32
  deriving DecidableEq, Repr

/-- `struct iwl_tdls_channel_switch_cmd`; `ccmp` stands for what `iwl_mvm_set_tx_cmd_ccmp` puts
into its `tx_cmd`. -/
structure ChannelSwitchCmd where
  switchType : SwitchType
  peerStaId : UInt8
  ci : Option ChanDef
  frameTimestamp : UInt32
  maxOffchanDuration : Nat
  switchTime : UInt16
  switchTimeout : UInt16
  switchTimeOffset : UInt32
  ccmp : Bool
  data : List UInt8

/-- What a call finds around it: the table `fw_id_to_mac_id`, `ieee80211_find_sta`, the time and
how the firmware takes a command, which is `none` when it succeeds. -/
structure Env where
  fwIdToMacId : UInt8 → Option Sta
  findSta : Vif → Addr → Option Sta
  systime : UInt32
  sendCmdPdu : ChannelSwitchCmd → Option Errno

/-- `tdls_cs.peer`. -/
structure Peer where
  staId : UInt8
  initiator : Bool
  chandef : ChanDef
  skb : Option Skb
  chSwTmIe : UInt32
  sentTimestamp : UInt32

/-- `mvm->tdls_cs`; `dwork` is the delay of the work, in milliseconds, while it is pending. -/
structure TdlsCs where
  state : CsState
  curStaId : UInt8
  peer : Peer
  dwork : Option Nat

/-- The state after `iwl_mvm_up`. -/
def initial : TdlsCs where
  state := .idle
  curStaId := 0
  peer :=
    { staId := iwlMvmInvalidSta
      initiator := false
      chandef := { chan := none, width := .w20NoHt, centerFreq1 := 0, centerFreq2 := 0 }
      skb := none
      chSwTmIe := 0
      sentTimestamp := 0 }
  dwork := none

/-! ## The shared helpers -/

/-- `iwl_mvm_tdls_update_cs_state`. -/
def TdlsCs.updateCsState (cs : TdlsCs) (systime : UInt32) (state : CsState) : TdlsCs :=
  if cs.state = state then cs
  else
    { cs with
      state
      curStaId := if state = .idle then iwlMvmInvalidSta else cs.curStaId
      peer :=
        { cs.peer with
          sentTimestamp := if state = .reqSent then systime else cs.peer.sentTimestamp } }

/-- A number beyond the table is replaced by the last one of the table. -/
def clampStaId (staId : UInt8) : UInt8 :=
  if iwlMvmStationCount ≤ staId then iwlMvmStationCount - 1 else staId

/-- The existing peer of a switch is looked up under a number within the table. -/
def TdlsCs.clampCurSta (cs : TdlsCs) : TdlsCs :=
  if cs.state ≠ .idle ∧ cs.curStaId ≠ iwlMvmInvalidSta then
    { cs with curStaId := clampStaId cs.curStaId }
  else cs

/-- The arguments of `iwl_mvm_tdls_config_channel_switch`. -/
structure Request where
  type : SwitchType
  peer : Addr
  peerInitiator : Bool
  chandef : Option ChanDef
  timestamp : UInt32
  switchTime : UInt16
  switchTimeout : UInt16
  skb : Option Skb
  chSwTmIe : UInt32

def samePeer (env : Env) (cs : TdlsCs) (peer : Addr) : Bool :=
  if cs.state ≠ .idle ∧ cs.curStaId ≠ iwlMvmInvalidSta then
    (env.fwIdToMacId cs.curStaId).any fun sta => peer == sta.addr
  else false

/-- `iwl_mvm_tdls_check_action`. -/
def checkAction (env : Env) (cs : TdlsCs) (req : Request) : Option Errno :=
  let same := samePeer env cs req.peer
  match cs.state with
  | .idle => if req.type = .moveCh then some .einval else none
  | .reqSent =>
    if !same then some .ebusy
    else if req.type = .sendChanSwRespAndMoveCh ∧ !req.peerInitiator then some .ebusy
    else if req.type = .sendChanSwReq then some .ebusy
    else if req.timestamp ≤ cs.peer.sentTimestamp then some .einval
    else none
  | .respRcvd => some .ebusy
  | .reqRcvd =>
    if req.type = .sendChanSwReq then
      if !same then some .ebusy else if req.peerInitiator then some .ebusy else none
    else if req.type = .moveCh then some .einval
    else none
  | .active => if req.type ≠ .moveCh ∨ !same then some .ebusy else none

/-- The channel to switch to, `none` where the interface should have a channel context and has
none. -/
def switchChandef (cs : TdlsCs) (vif : Vif) (req : Request) : Option (Option ChanDef) :=
  match req.chandef with
  | some chandef => some (some chandef)
  | none =>
    if cs.state = .reqSent ∧ cs.peer.chandef.chan.isSome then some (some cs.peer.chandef)
    else if cs.state = .active ∧ req.type = .moveCh then vif.chanctxConf.map some
    else some none

/-- `iwl_mvm_tdls_config_channel_switch` up to the command, which goes to the station that is
returned; an error may be that nothing is done and 0 returned. -/
def prepareCmd (env : Env) (cs : TdlsCs) (vif : Vif) (req : Request) :
    Except (Option Errno) (Sta × ChannelSwitchCmd) :=
  match req.skb with
  | none => .error (some .einval)
  | some skb =>
    if iwlTdlsChSwFrameMaxSize < skb.data.length then .error (some .einval)
    else
      match env.findSta vif req.peer with
      | none => .error (some .enoent)
      | some sta =>
        match switchChandef cs vif req with
        | none => .error none
        | some chandef =>
          if skb.hwKey.any (· != wlanCipherSuiteCcmp) then .error (some .einval)
          else
            .ok (sta,
              { switchType := req.type
                peerStaId := sta.staId
                ci := chandef
                frameTimestamp := req.timestamp
                maxOffchanDuration := tuToUs vif.dtim / 2
                switchTime := req.switchTime
                switchTimeout := req.switchTimeout
                switchTimeOffset := req.chSwTmIe + 2
                ccmp := skb.hwKey.isSome
                data := skb.data })

/-- The switch has started. -/
def TdlsCs.started (cs : TdlsCs) (systime : UInt32) (sta : Sta) : SwitchType → TdlsCs
  | .sendChanSwReq => { cs with curStaId := sta.staId }.updateCsState systime .reqSent
  | .sendChanSwRespAndMoveCh => { cs with curStaId := sta.staId }.updateCsState systime .reqRcvd
  | .moveCh => cs.updateCsState systime .respRcvd

/-- The end of `iwl_mvm_tdls_config_channel_switch`. -/
def sendSwitch (env : Env) (cs : TdlsCs) (type : SwitchType) :
    Except (Option Errno) (Sta × ChannelSwitchCmd) → Option Errno × TdlsCs
  | .error none => (none, cs)
  | .error (some ret) => (some ret, cs.updateCsState env.systime .idle)
  | .ok (sta, cmd) =>
    match env.sendCmdPdu cmd with
    | some ret => (some ret, cs.updateCsState env.systime .idle)
    | none => (none, cs.started env.systime sta type)

/-- `iwl_mvm_tdls_config_channel_switch`. -/
def configChannelSwitch (env : Env) (cs : TdlsCs) (vif : Vif) (req : Request) :
    Option Errno × TdlsCs :=
  let cs := cs.clampCurSta
  match checkAction env cs req with
  | some ret => (some ret, cs)
  | none => sendSwitch env cs req.type (prepareCmd env cs vif req)

/-! ## The operations -/

def switchRequest (sta : Sta) (chandef : ChanDef) (tmplSkb : Option Skb) (chSwTmIe : UInt32) :
    Request where
  type := .sendChanSwReq
  peer := sta.addr
  peerInitiator := sta.tdlsInitiator
  chandef := some chandef
  timestamp := 0
  switchTime := 0
  switchTimeout := 0
  skb := tmplSkb
  chSwTmIe

/-- `skb_copy`. -/
def skbCopy (copied : Bool) (skb : Option Skb) : Option Skb := if copied then skb else none

/-- `iwl_mvm_tdls_channel_switch` from the copy of the template on. -/
def keepPeer (cs : TdlsCs) (vif : Vif) (sta : Sta) (chandef : ChanDef) (chSwTmIe : UInt32) :
    Option Skb → Option Errno × TdlsCs
  | none => (some .enomem, { cs with peer := { cs.peer with skb := none } })
  | some skb =>
    (none,
      { cs with
        peer :=
          { cs.peer with
            skb := some skb
            staId := sta.staId
            chandef
            initiator := sta.tdlsInitiator
            chSwTmIe }
        dwork := some (2 * tuToMs vif.dtim) })

/-- `iwl_mvm_tdls_channel_switch`. -/
def channelSwitch (env : Env) (cs : TdlsCs) (vif : Vif) (sta : Sta) (chandef : ChanDef)
    (tmplSkb : Option Skb) (chSwTmIe : UInt32) (copied : Bool) : Option Errno × TdlsCs :=
  if cs.peer.staId ≠ iwlMvmInvalidSta then (some .ebusy, cs)
  else
    match configChannelSwitch env cs vif (switchRequest sta chandef tmplSkb chSwTmIe) with
    | (some ret, cs) => (some ret, cs)
    | (none, cs) => keepPeer cs vif sta chandef chSwTmIe (skbCopy copied tmplSkb)

/-- The switching peer is looked up under a number within the table. -/
def TdlsCs.clampPeer (cs : TdlsCs) : TdlsCs :=
  { cs with peer := { cs.peer with staId := clampStaId cs.peer.staId } }

/-- `iwl_mvm_tdls_cancel_channel_switch` under the lock; `same` compares the pointers of two
stations. -/
def cancelChannelSwitch (env : Env) (cs : TdlsCs) (same : Option Sta → Bool) : TdlsCs :=
  if cs.peer.staId = iwlMvmInvalidSta then cs
  else
    let cs := cs.clampPeer
    if same (env.fwIdToMacId cs.peer.staId) then
      { cs with peer := { cs.peer with staId := iwlMvmInvalidSta, skb := none } }
    else cs

/-- `struct ieee80211_tdls_ch_sw_params`, with the station it points to. -/
structure ChSwParams where
  sta : Sta
  request : Bool
  status : UInt32
  chandef : Option ChanDef
  timestamp : UInt32
  switchTime : UInt16
  switchTimeout : UInt16
  tmplSkb : Option Skb
  chSwTmIe : UInt32

def ChSwParams.toRequest (params : ChSwParams) : Request where
  type := if params.request then .sendChanSwRespAndMoveCh else .moveCh
  peer := params.sta.addr
  peerInitiator := params.sta.tdlsInitiator
  chandef := params.chandef
  timestamp := params.timestamp
  switchTime := params.switchTime
  switchTimeout := params.switchTimeout
  skb := params.tmplSkb
  chSwTmIe := params.chSwTmIe

/-- The peer of the outgoing request has refused it. -/
def refused (cs : TdlsCs) (params : ChSwParams) : Bool :=
  !params.request && params.status != 0 && cs.state == .reqSent &&
    cs.curStaId != iwlMvmInvalidSta

/-- `iwl_mvm_tdls_recv_channel_switch` before the timeout is armed. -/
def answerSwitch (env : Env) (cs : TdlsCs) (vif : Vif) (params : ChSwParams)
    (same : Option Sta → Bool) : TdlsCs :=
  if refused cs params then
    let cs := cs.clampCurSta
    if same (env.fwIdToMacId cs.curStaId) then cs.updateCsState env.systime .idle
    else (configChannelSwitch env cs vif params.toRequest).2
  else (configChannelSwitch env cs vif params.toRequest).2

/-- `iwl_mvm_tdls_recv_channel_switch`. -/
def recvChannelSwitch (env : Env) (cs : TdlsCs) (vif : Vif) (params : ChSwParams)
    (same : Option Sta → Bool) : TdlsCs :=
  { answerSwitch env cs vif params same with dwork := some (vif.dtim * 1024 / 1000) }

/-- `iwl_mvm_rx_tdls_notif`. -/
def rxTdlsNotif (env : Env) (cs : TdlsCs) (status staId : UInt32) : TdlsCs :=
  if status = 0 then cs.updateCsState env.systime .idle
  else if iwlMvmStationCount.toUInt32 ≤ staId then cs
  else
    match env.fwIdToMacId staId.toUInt8 with
    | none => cs
    | some sta =>
      if sta.tdls then
        { cs with dwork := some (tuToMs sta.vif.dtim) }.updateCsState env.systime .active
      else cs

/-- `schedule_delayed_work` leaves a pending work as it is. -/
def TdlsCs.scheduleDelayedWork (cs : TdlsCs) (delay : Nat) : TdlsCs :=
  { cs with dwork := cs.dwork.or (some delay) }

/-- The request that the work repeats. -/
def TdlsCs.retryRequest (cs : TdlsCs) (sta : Sta) : Request where
  type := .sendChanSwReq
  peer := sta.addr
  peerInitiator := cs.peer.initiator
  chandef := some cs.peer.chandef
  timestamp := 0
  switchTime := 0
  switchTimeout := 0
  skb := cs.peer.skb
  chSwTmIe := cs.peer.chSwTmIe

/-- The next switch with the peer, where it is still a TDLS peer. -/
def TdlsCs.retrySwitch (cs : TdlsCs) (env : Env) : Option Sta → TdlsCs
  | none => cs
  | some sta =>
    if sta.tdls then
      (configChannelSwitch env cs sta.vif (cs.retryRequest sta)).2.scheduleDelayedWork
        (tuToMs sta.vif.dtim)
    else cs

/-- `iwl_mvm_tdls_ch_switch_work`. -/
def chSwitchWork (env : Env) (cs : TdlsCs) : TdlsCs :=
  let cs := cs.updateCsState env.systime .idle
  if cs.peer.staId = iwlMvmInvalidSta then cs
  else
    let cs := cs.clampPeer
    cs.retrySwitch env (env.fwIdToMacId cs.peer.staId)

/-- The work runs when its time has come, and also when it is flushed, if it is pending. -/
def runWork (env : Env) (cs : TdlsCs) : TdlsCs :=
  if cs.dwork.isSome then chSwitchWork env { cs with dwork := none } else cs

/-! ## Runs -/

inductive Event where
  | channelSwitch (env : Env) (vif : Vif) (sta : Sta) (chandef : ChanDef) (tmplSkb : Option Skb)
      (chSwTmIe : UInt32) (copied : Bool)
  | cancelChannelSwitch (env : Env) (same : Option Sta → Bool)
  | recvChannelSwitch (env : Env) (vif : Vif) (params : ChSwParams) (same : Option Sta → Bool)
  | rxTdlsNotif (env : Env) (status staId : UInt32)
  | work (env : Env)

def step (cs : TdlsCs) : Event → TdlsCs
  | .channelSwitch env vif sta chandef tmplSkb chSwTmIe copied =>
    (channelSwitch env cs vif sta chandef tmplSkb chSwTmIe copied).2
  | .cancelChannelSwitch env same => cancelChannelSwitch env cs same
  | .recvChannelSwitch env vif params same => recvChannelSwitch env cs vif params same
  | .rxTdlsNotif env status staId => rxTdlsNotif env cs status staId
  | .work env => runWork env cs

/-! ## What the helpers leave alone -/

section

variable (cs : TdlsCs) (systime : UInt32) (state : CsState)

@[simp] theorem updateCsState_state : (cs.updateCsState systime state).state = state := by
  unfold TdlsCs.updateCsState
  split
  · assumption
  · rfl

@[simp] theorem updateCsState_dwork : (cs.updateCsState systime state).dwork = cs.dwork := by
  unfold TdlsCs.updateCsState
  split <;> rfl

@[simp] theorem updateCsState_staId :
    (cs.updateCsState systime state).peer.staId = cs.peer.staId := by
  unfold TdlsCs.updateCsState
  split <;> rfl

@[simp] theorem updateCsState_skb : (cs.updateCsState systime state).peer.skb = cs.peer.skb := by
  unfold TdlsCs.updateCsState
  split <;> rfl

@[simp] theorem clampCurSta_state : cs.clampCurSta.state = cs.state := by
  unfold TdlsCs.clampCurSta
  split <;> rfl

@[simp] theorem clampCurSta_dwork : cs.clampCurSta.dwork = cs.dwork := by
  unfold TdlsCs.clampCurSta
  split <;> rfl

@[simp] theorem clampCurSta_peer : cs.clampCurSta.peer = cs.peer := by
  unfold TdlsCs.clampCurSta
  split <;> rfl

end

theorem clampCurSta_idle {cs : TdlsCs} (idle : cs.state = .idle) : cs.clampCurSta = cs := by
  unfold TdlsCs.clampCurSta
  rw [if_neg fun held => held.1 idle]

/-- The two states agree in the guards of the machine: its timeout and its peer. -/
structure SameGuards (cs cs' : TdlsCs) : Prop where
  dwork : cs'.dwork = cs.dwork
  staId : cs'.peer.staId = cs.peer.staId
  skb : cs'.peer.skb = cs.peer.skb

theorem SameGuards.refl (cs : TdlsCs) : SameGuards cs cs := ⟨rfl, rfl, rfl⟩

theorem SameGuards.trans {cs cs' cs'' : TdlsCs} (first : SameGuards cs cs')
    (second : SameGuards cs' cs'') : SameGuards cs cs'' :=
  ⟨second.dwork.trans first.dwork, second.staId.trans first.staId, second.skb.trans first.skb⟩

theorem sameGuards_updateCsState (cs : TdlsCs) (systime : UInt32) (state : CsState) :
    SameGuards cs (cs.updateCsState systime state) :=
  ⟨updateCsState_dwork .., updateCsState_staId .., updateCsState_skb ..⟩

theorem sameGuards_clampCurSta (cs : TdlsCs) : SameGuards cs cs.clampCurSta :=
  ⟨clampCurSta_dwork cs, by rw [clampCurSta_peer], by rw [clampCurSta_peer]⟩

theorem sameGuards_started (cs : TdlsCs) (systime : UInt32) (sta : Sta) (type : SwitchType) :
    SameGuards cs (cs.started systime sta type) := by
  have target : SameGuards cs { cs with curStaId := sta.staId } := ⟨rfl, rfl, rfl⟩
  cases type with
  | sendChanSwReq => exact target.trans (sameGuards_updateCsState ..)
  | sendChanSwRespAndMoveCh => exact target.trans (sameGuards_updateCsState ..)
  | moveCh => exact sameGuards_updateCsState ..

/-! ## The configuration of a switch -/

/-- A switch goes out: its command can be made and the firmware takes it. -/
def GoesOut (env : Env) (cs : TdlsCs) (vif : Vif) (req : Request) : Prop :=
  ∃ sta cmd, prepareCmd env cs vif req = .ok (sta, cmd) ∧ env.sendCmdPdu cmd = none

/-- A configuration arms nothing and leaves the peer alone. -/
theorem sameGuards_config (env : Env) (cs : TdlsCs) (vif : Vif) (req : Request) :
    SameGuards cs (configChannelSwitch env cs vif req).2 := by
  apply (sameGuards_clampCurSta cs).trans
  unfold configChannelSwitch sendSwitch
  dsimp only
  split
  · exact .refl _
  · split
    · exact .refl _
    · exact sameGuards_updateCsState ..
    · split
      · exact sameGuards_updateCsState ..
      · exact sameGuards_started ..

variable {env : Env} {vif : Vif} {req : Request}

/-- A configuration that fails leaves the state alone or ends the switch. -/
theorem config_failed {cs : TdlsCs} {ret : Errno}
    (failed : (configChannelSwitch env cs vif req).1 = some ret) :
    (configChannelSwitch env cs vif req).2.state = cs.state ∨
      (configChannelSwitch env cs vif req).2.state = .idle := by
  revert failed
  unfold configChannelSwitch sendSwitch
  dsimp only
  split
  · exact fun _ => .inl (clampCurSta_state cs)
  · split
    · exact fun failed => absurd failed.symm (Option.some_ne_none ret)
    · exact fun _ => .inr (updateCsState_state ..)
    · split
      · exact fun _ => .inr (updateCsState_state ..)
      · exact fun failed => absurd failed.symm (Option.some_ne_none ret)

/-- A request for another channel is prepared with a frame and for a channel. -/
theorem prepareCmd_error_some {cs : TdlsCs} (chandef : req.chandef.isSome) :
    prepareCmd env cs vif req ≠ .error none := by
  obtain ⟨chandef, given⟩ := Option.isSome_iff_exists.mp chandef
  unfold prepareCmd switchChandef
  rw [given]
  dsimp only
  split
  · simp
  · split
    · simp
    · split
      · simp
      · split <;> simp

theorem prepareCmd_skb {cs : TdlsCs} {prepared : Sta × ChannelSwitchCmd}
    (ok : prepareCmd env cs vif req = .ok prepared) : req.skb.isSome := by
  unfold prepareCmd at ok
  split at ok
  · cases ok
  · next skb given => rw [given]; rfl

/-- A request for another channel that succeeds has gone out, with its template. -/
theorem config_succeeded {cs : TdlsCs} (request : req.type = .sendChanSwReq)
    (chandef : req.chandef.isSome) (succeeded : (configChannelSwitch env cs vif req).1 = none) :
    GoesOut env cs.clampCurSta vif req ∧ req.skb.isSome ∧
      (configChannelSwitch env cs vif req).2.state = .reqSent := by
  revert succeeded
  unfold configChannelSwitch sendSwitch
  dsimp only
  split
  · exact fun succeeded => absurd succeeded (Option.some_ne_none _)
  · split
    · next nothing => exact absurd nothing (prepareCmd_error_some chandef)
    · exact fun succeeded => absurd succeeded (Option.some_ne_none _)
    · next sta cmd prepared =>
        split
        · exact fun succeeded => absurd succeeded (Option.some_ne_none _)
        · next sent =>
            intro _
            refine ⟨⟨sta, cmd, prepared, sent⟩, prepareCmd_skb prepared, ?_⟩
            rw [request]
            exact updateCsState_state ..

/-- From the idle state a request that goes out succeeds. -/
theorem config_of_goesOut {cs : TdlsCs} (request : req.type = .sendChanSwReq)
    (idle : cs.state = .idle) (out : GoesOut env cs vif req) :
    (configChannelSwitch env cs vif req).1 = none := by
  obtain ⟨sta, cmd, prepared, sent⟩ := out
  have allowed : checkAction env cs req = none := by
    unfold checkAction
    rw [idle, request]
    rfl
  unfold configChannelSwitch
  dsimp only
  rw [clampCurSta_idle idle, allowed, prepared]
  dsimp only [sendSwitch]
  rw [sent]

/-! ## The timeout and the template -/

/-- Outside the idle state the timeout is pending, and there is a switching peer exactly when its
template is kept. -/
structure Driven (cs : TdlsCs) : Prop where
  timed : cs.state ≠ .idle → cs.dwork.isSome
  template : cs.peer.staId ≠ iwlMvmInvalidSta ↔ cs.peer.skb.isSome

/-- The condition on a step: a channel switch without a pending timeout does not lose the copy of
its template once its request is out. -/
def KeepsTemplate (cs : TdlsCs) : Event → Prop
  | .channelSwitch env vif sta chandef tmplSkb chSwTmIe copied =>
    cs.peer.staId = iwlMvmInvalidSta → cs.dwork = none →
      GoesOut env cs vif (switchRequest sta chandef tmplSkb chSwTmIe) → copied = true
  | _ => True

theorem driven_initial : Driven initial :=
  ⟨fun other => absurd rfl other, iff_of_false (fun other => other rfl) Bool.false_ne_true⟩

theorem Driven.idle_of_stopped {cs : TdlsCs} (driven : Driven cs) (stopped : cs.dwork = none) :
    cs.state = .idle := by
  by_contra other
  have pending := driven.timed other
  rw [stopped] at pending
  exact Bool.false_ne_true pending

/-- Another state with the same guards is driven when it is idle or the timeout is pending. -/
theorem Driven.of_sameGuards {cs cs' : TdlsCs} (driven : Driven cs) (same : SameGuards cs cs')
    (timed : cs'.state ≠ .idle → cs'.dwork.isSome) : Driven cs' :=
  ⟨timed, by rw [same.staId, same.skb]; exact driven.template⟩

theorem Driven.updateIdle {cs : TdlsCs} (driven : Driven cs) (systime : UInt32) :
    Driven (cs.updateCsState systime .idle) :=
  driven.of_sameGuards (sameGuards_updateCsState ..)
    fun other => absurd (updateCsState_state ..) other

/-- The timeout is armed again. -/
theorem Driven.armed {cs : TdlsCs} (template : cs.peer.staId ≠ iwlMvmInvalidSta ↔
    cs.peer.skb.isSome) (pending : cs.dwork.isSome) : Driven cs :=
  ⟨fun _ => pending, template⟩

theorem Sta.staId_ne_invalid (sta : Sta) : sta.staId ≠ iwlMvmInvalidSta := by
  intro invalid
  have below := sta.added
  rw [invalid] at below
  exact absurd below (by decide)

theorem clampStaId_ne_invalid {staId : UInt8} (valid : staId ≠ iwlMvmInvalidSta) :
    clampStaId staId ≠ iwlMvmInvalidSta := by
  unfold clampStaId
  split
  · decide
  · exact valid

theorem Driven.clampPeer {cs : TdlsCs} (driven : Driven cs)
    (valid : cs.peer.staId ≠ iwlMvmInvalidSta) : Driven cs.clampPeer :=
  ⟨driven.timed, iff_of_true (clampStaId_ne_invalid valid) (driven.template.mp valid)⟩

/-! ## One step -/

theorem driven_channelSwitch {cs : TdlsCs} {sta : Sta} {chandef : ChanDef} {tmplSkb : Option Skb}
    {chSwTmIe : UInt32} {copied : Bool} (driven : Driven cs) :
    Driven (channelSwitch env cs vif sta chandef tmplSkb chSwTmIe copied).2 ↔
      KeepsTemplate cs (.channelSwitch env vif sta chandef tmplSkb chSwTmIe copied) := by
  by_cases free : cs.peer.staId = iwlMvmInvalidSta
  swap
  · rw [channelSwitch, if_pos free]
    exact iff_of_true driven fun invalid => absurd invalid free
  have guards := sameGuards_config env cs vif (switchRequest sta chandef tmplSkb chSwTmIe)
  rw [channelSwitch, if_neg (not_not_intro free)]
  cases result : (configChannelSwitch env cs vif (switchRequest sta chandef tmplSkb chSwTmIe)).1
    with
  | some ret =>
    -- the request has not gone out
    have after : Driven
        (configChannelSwitch env cs vif (switchRequest sta chandef tmplSkb chSwTmIe)).2 := by
      apply driven.of_sameGuards guards
      intro other
      rw [guards.dwork]
      obtain same | idle := config_failed result
      · exact driven.timed (same ▸ other)
      · exact absurd idle other
    refine iff_of_true ?_ fun _ stopped out => ?_
    · rw [← Prod.eta (configChannelSwitch ..), result]
      exact after
    · have succeeded := config_of_goesOut rfl (driven.idle_of_stopped stopped) out
      rw [result] at succeeded
      exact absurd succeeded (Option.some_ne_none ret)
  | none =>
    obtain ⟨out, template, sent⟩ := config_succeeded rfl rfl result
    obtain ⟨skb, given⟩ := Option.isSome_iff_exists.mp template
    rw [← Prod.eta (configChannelSwitch ..), result]
    change tmplSkb = some skb at given
    subst given
    cases copied with
    | true =>
      exact iff_of_true (.armed (iff_of_true sta.staId_ne_invalid rfl) rfl) fun _ _ _ => rfl
    | false =>
      constructor
      · intro after _ stopped _
        have pending := after.timed (sent.trans_ne CsState.noConfusion)
        change (configChannelSwitch ..).2.dwork.isSome at pending
        rw [guards.dwork, stopped] at pending
        exact pending
      · intro keeps
        refine .armed (iff_of_false (not_not_intro (guards.staId.trans free))
          Bool.false_ne_true) ?_
        change (configChannelSwitch ..).2.dwork.isSome
        rw [guards.dwork]
        cases stopped : cs.dwork with
        | some delay => rfl
        | none =>
          rw [clampCurSta_idle (driven.idle_of_stopped stopped)] at out
          exact absurd (keeps free stopped out) Bool.false_ne_true

theorem driven_cancelChannelSwitch {cs : TdlsCs} {same : Option Sta → Bool} (driven : Driven cs) :
    Driven (cancelChannelSwitch env cs same) := by
  unfold cancelChannelSwitch
  split
  · exact driven
  · next valid =>
      dsimp only
      split
      · exact ⟨driven.timed, iff_of_false (fun other => other rfl) Bool.false_ne_true⟩
      · exact driven.clampPeer valid

theorem sameGuards_answerSwitch (env : Env) (cs : TdlsCs) (vif : Vif) (params : ChSwParams)
    (same : Option Sta → Bool) : SameGuards cs (answerSwitch env cs vif params same) := by
  unfold answerSwitch
  split
  · apply (sameGuards_clampCurSta cs).trans
    dsimp only
    split
    · exact sameGuards_updateCsState ..
    · exact sameGuards_config ..
  · exact sameGuards_config ..

theorem driven_recvChannelSwitch {cs : TdlsCs} {params : ChSwParams} {same : Option Sta → Bool}
    (driven : Driven cs) : Driven (recvChannelSwitch env cs vif params same) := by
  have guards := sameGuards_answerSwitch env cs vif params same
  refine ⟨fun _ => rfl, ?_⟩
  dsimp only [recvChannelSwitch]
  rw [guards.staId, guards.skb]
  exact driven.template

theorem driven_rxTdlsNotif {cs : TdlsCs} {status staId : UInt32} (driven : Driven cs) :
    Driven (rxTdlsNotif env cs status staId) := by
  unfold rxTdlsNotif
  split
  · exact driven.updateIdle _
  · split
    · exact driven
    · split
      · exact driven
      · split
        · exact Driven.armed (by simpa using driven.template) (by simp)
        · exact driven

theorem driven_chSwitchWork {cs : TdlsCs}
    (template : cs.peer.staId ≠ iwlMvmInvalidSta ↔ cs.peer.skb.isSome) :
    Driven (chSwitchWork env cs) := by
  have idle : Driven (cs.updateCsState env.systime .idle) :=
    ⟨fun other => absurd (updateCsState_state ..) other, by simpa using template⟩
  unfold chSwitchWork
  dsimp only
  split
  · exact idle
  · next valid =>
      have clamped := idle.clampPeer valid
      unfold TdlsCs.retrySwitch
      split
      · exact clamped
      · next sta _ =>
          split
          · have guards := sameGuards_config env (cs.updateCsState env.systime .idle).clampPeer
              sta.vif ((cs.updateCsState env.systime .idle).clampPeer.retryRequest sta)
            refine .armed ?_ ?_
            · dsimp only [TdlsCs.scheduleDelayedWork]
              rw [guards.staId, guards.skb]
              exact clamped.template
            · exact Option.isSome_or.trans (Bool.or_true _)
          · exact clamped

theorem driven_runWork {cs : TdlsCs} (driven : Driven cs) : Driven (runWork env cs) := by
  unfold runWork
  split
  · exact driven_chSwitchWork driven.template
  · exact driven

theorem driven_step (cs : TdlsCs) (event : Event) (driven : Driven cs) :
    Driven (step cs event) ↔ KeepsTemplate cs event := by
  cases event with
  | channelSwitch => exact driven_channelSwitch driven
  | cancelChannelSwitch => exact iff_of_true (driven_cancelChannelSwitch driven) trivial
  | recvChannelSwitch => exact iff_of_true (driven_recvChannelSwitch driven) trivial
  | rxTdlsNotif => exact iff_of_true (driven_rxTdlsNotif driven) trivial
  | work => exact iff_of_true (driven_runWork driven) trivial

/-! ## Every run -/

/-- The timeout is pending outside the idle state and the template is kept with its peer, in
every state of a run, exactly when no channel switch without a pending timeout loses the copy of
its template after its request has gone out. -/
theorem driven_run_iff (events : List Event) :
    (∀ before, before <+: events → Driven (before.foldl step initial)) ↔
      Admissible step KeepsTemplate initial events :=
  forall_reached_iff driven_step driven_initial

/-- A channel switch whose command the firmware takes and whose template cannot be copied. -/
def lostTemplate : Event :=
  let chan : Channel :=
    { band := 1, centerFreq := 5180, flags := 0, dfsState := .usable, dfsStateEntered := 0
      dfsCacMs := 0 }
  let vif : Vif :=
    { dtimPeriod := 1
      beaconInt := 100
      chanctxConf := none }
  let sta : Sta :=
    { addr := 1, staId := 3, tdls := true, tdlsInitiator := true, vif, added := by decide }
  .channelSwitch
    { fwIdToMacId := fun staId => if staId = 3 then some sta else none
      findSta := fun _ addr => if addr = 1 then some sta else none
      systime := 0
      sendCmdPdu := fun _ => none }
    vif sta { chan := some chan, width := .w20, centerFreq1 := 5180, centerFreq2 := 0 }
    (some { data := [], hwKey := none }) 0 false

/-- The run of a single channel switch: its request goes out, its template cannot be copied, and
the machine waits for an answer without a timeout. -/
theorem not_driven_run :
    ¬∀ before, before <+: [lostTemplate] → Driven (before.foldl step initial) := by
  intro driven
  have pending := (driven [lostTemplate] (List.prefix_refl _)).timed (by decide)
  exact absurd pending (by decide)

/-! ## The way back to the idle state -/

/-- A retry from the idle state ends there, or sends the request again and arms the timeout. -/
theorem retrySwitch_state {env : Env} {cs : TdlsCs} (idle : cs.state = .idle)
    (peer : Option Sta) :
    (cs.retrySwitch env peer).state = .idle ∨
      (cs.retrySwitch env peer).state = .reqSent ∧ (cs.retrySwitch env peer).dwork.isSome := by
  unfold TdlsCs.retrySwitch
  split
  · exact .inl idle
  · next sta =>
      split
      · cases result : (configChannelSwitch env cs sta.vif (cs.retryRequest sta)).1 with
        | none =>
          obtain ⟨-, -, sent⟩ := config_succeeded rfl rfl result
          exact .inr ⟨sent, Option.isSome_or.trans (Bool.or_true _)⟩
        | some ret =>
          obtain same | stopped := config_failed result
          · exact .inl (same.trans idle)
          · exact .inl stopped
      · exact .inl idle

/-- When the timeout comes, the switch ends: the machine is idle, or it has sent the next request
to its peer with a new timeout. -/
theorem runWork_state {env : Env} {cs : TdlsCs} (pending : cs.dwork.isSome) :
    (runWork env cs).state = .idle ∨
      (runWork env cs).state = .reqSent ∧ (runWork env cs).dwork.isSome := by
  rw [runWork, if_pos pending, chSwitchWork]
  dsimp only
  split
  · exact .inl (updateCsState_state ..)
  · apply retrySwitch_state
    exact updateCsState_state ..

end Iwlwifi.TdlsChannelSwitch
