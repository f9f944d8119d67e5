import Iwlwifi.Lib.Keyed

/-!
# Mesh peer links

The peering manager of a mesh interface.  A received OPEN, CONFIRM or CLOSE frame is turned
into an event for the peer that sent it (`meshPlinkGetEvent`), and the event steps the peer's
state machine (`Peer.fsm`).  Timers, the user and beacons of neighbours step it as well.

Peers are kept by address.  A timer may fire whenever its peer exists; of the timers only the
timeout and the number of retries are kept.  The rates, the power save state and the beacon
contents that follow from a link are left out.
-/

namespace Iwlwifi.MeshPlink

open Lib

abbrev Addr := BitVec 48

inductive PlinkState
  | listen
  | opnSnt
  | opnRcvd
  | cnfRcvd
  | estab
  | holding
  | blocked
deriving DecidableEq, Repr

inductive PlinkEvent
  | undefined
  | opnAcpt
  | opnRjct
  | opnIgnr
  | cnfAcpt
  | cnfRjct
  | cnfIgnr
  | clsAcpt
  | clsIgnr
deriving DecidableEq, Repr

/-- `enum ieee80211_self_protected_actioncode` -/
inductive ActionCode
  | meshPeeringOpen
  | meshPeeringConfirm
  | meshPeeringClose
  | other
deriving DecidableEq, Repr

def wlanReasonMeshPeerCanceled : UInt16 := 52
def wlanReasonMeshConfig : UInt16 := 54
def wlanReasonMeshClose : UInt16 := 55
def wlanReasonMeshMaxRetries : UInt16 := 56
def wlanReasonMeshConfirmTimeout : UInt16 := 57

/-! ## Frames -/

/-- `struct ieee80211_meshconf_ie` -/
structure MeshConfig where
  psel : UInt8
  pmetric : UInt8
  congest : UInt8
  synch : UInt8
  auth : UInt8
  cap : UInt8 := 0
deriving DecidableEq, Repr

/-- Of `struct ieee802_11_elems`, what peering reads. -/
structure Elems where
  peering : Option (List UInt8) := none
  rsnLen : Nat := 0
  meshId : Option (List UInt8) := none
  meshConfig : Option MeshConfig := none
  suppRates : List UInt8 := []
  extSuppRates : List UInt8 := []
  htOperation : Option (List UInt8) := none
  vhtOperation : Option (List UInt8) := none
deriving DecidableEq, Repr

/-- A peering frame with its elements; `aid` is read in a CONFIRM frame only. -/
structure Mgmt where
  sa : Addr
  actionCode : ActionCode
  aid : UInt16 := 0
  elems : Elems
deriving DecidableEq, Repr

/-- `get_unaligned_le16` -/
def le16 (bytes : List UInt8) (offset : Nat) : UInt16 :=
  (bytes.getD offset 0).toUInt16 ||| ((bytes.getD (offset + 1) 0).toUInt16 <<< 8)

def Elems.peeringLen (elems : Elems) : Nat := (elems.peering.getD []).length

/-- `PLINK_GET_LLID`: the sender's link id, which is the `plid` of the receiver. -/
def Elems.getLlid (elems : Elems) : UInt16 := le16 (elems.peering.getD []) 2

/-- `PLINK_GET_PLID` -/
def Elems.getPlid (elems : Elems) : UInt16 := le16 (elems.peering.getD []) 4

/-! ## The local profile -/

structure Bitrate where
  bitrate : Nat
  flags : UInt32 := 0
deriving DecidableEq, Repr

/-- What a mesh interface is set up with.  `bitrates` are those of its band and
`chandefCompatible` says whether the channel that HT and VHT operation elements describe fits
the interface's own. -/
structure Conf where
  meshId : List UInt8
  meshPpId : UInt8
  meshPmId : UInt8
  meshCcId : UInt8
  meshSpId : UInt8
  meshAuthId : UInt8
  security : UInt8 := 0
  bitrates : Option (List Bitrate)
  rateFlags : UInt32 := 0
  shift : Nat := 0
  basicRates : UInt32
  chandefCompatible : Option (List UInt8) → Option (List UInt8) → Bool

def meshSecNone : UInt8 := 0
def meshSecAuthed : UInt8 := 1

/-- The basic rates that `ieee80211_sta_get_rates` finds. -/
def ieee80211StaGetRates (conf : Conf) (bitrates : List Bitrate) (elems : Elems) : UInt32 :=
  (elems.suppRates ++ elems.extSuppRates).foldl
    (fun basicRates rate =>
      let ownRate := 5 * (rate &&& 0x7f).toNat
      let isBasic := rate &&& 0x80 != 0
      if isBasic && rate &&& 0x7f == 127 then basicRates
      else
        bitrates.zipIdx.foldl
          (fun basicRates entry =>
            let (own, j) := entry
            if conf.rateFlags &&& own.flags != conf.rateFlags then basicRates
            else
              let brate := (own.bitrate + 2 ^ conf.shift - 1) / 2 ^ conf.shift
              if brate == ownRate && isBasic then
                basicRates ||| ((1 : UInt32) <<< UInt32.ofNat j)
              else basicRates)
          basicRates)
    0

def meshMatchesLocal (conf : Conf) (ie : Elems) : Bool :=
  match ie.meshConfig with
  | none => false
  | some config =>
    if !(ie.meshId == some conf.meshId && conf.meshPpId == config.psel &&
        conf.meshPmId == config.pmetric && conf.meshCcId == config.congest &&
        conf.meshSpId == config.synch && conf.meshAuthId == config.auth) then false
    else
      match conf.bitrates with
      | none => false
      | some bitrates =>
        conf.basicRates == ieee80211StaGetRates conf bitrates ie &&
          conf.chandefCompatible ie.htOperation ie.vhtOperation

def meshPeerAcceptsPlinks (ie : Elems) : Bool :=
  match ie.meshConfig with
  | none => false
  | some config => config.cap &&& 1 != 0

/-! ## Peers -/

/-- `struct mesh_config` -/
structure Mshcfg where
  dot11MeshMaxPeerLinks : Int := 99
  dot11MeshMaxRetries : Nat := 3
  dot11MeshRetryTimeout : UInt32 := 100
  rssiThreshold : Int := 0
  autoOpenPlinks : Bool := true
deriving DecidableEq, Repr

/-- `struct mesh_sta`, with the station's authentication flag and average signal. -/
structure Peer where
  plinkState : PlinkState := .listen
  llid : UInt16 := 0
  plid : UInt16 := 0
  reason : UInt16 := 0
  plinkRetries : Nat := 0
  plinkTimeout : UInt32 := 0
  aid : UInt16 := 0
  auth : Bool := true
  signal : Int := 0
deriving DecidableEq, Repr

/-- `struct ieee80211_if_mesh` with the stations of the interface. -/
structure MeshIf where
  mshcfg : Mshcfg := {}
  acceptingPlinks : Bool := true
  estabPlinks : Int := 0
  peers : AList fun _ : Addr => Peer := ∅

/-- A frame sent by `mesh_plink_frame_tx`. -/
structure PlinkTx where
  action : ActionCode
  da : Addr
  llid : UInt16
  plid : UInt16
  reason : UInt16
deriving DecidableEq, Repr

def rssiThresholdCheck (s : MeshIf) (sta : Option Peer) : Bool :=
  s.mshcfg.rssiThreshold == 0 ||
    match sta with
    | some peer => decide (peer.signal > s.mshcfg.rssiThreshold)
    | none => false

def meshPlinkFreeCount (s : MeshIf) : Int := s.mshcfg.dot11MeshMaxPeerLinks - s.estabPlinks

def llidInUse (s : MeshIf) (llid : UInt16) : Bool :=
  s.peers.entries.any fun entry => entry.2.llid == llid

/-- `mesh_get_new_llid`: of the random numbers drawn, the first that is not in use.  Zero
stands for a loop that does not end. -/
def meshGetNewLlid (s : MeshIf) (random : List UInt16) : UInt16 :=
  (random.find? fun llid => !llidInUse s llid).getD 0

namespace Peer

/-- `mesh_plink_fsm_restart` -/
def fsmRestart (peer : Peer) : Peer :=
  { peer with plinkState := .listen, llid := 0, plid := 0, reason := 0, plinkRetries := 0 }

/-- `__mesh_plink_deactivate`, with what it adds to the number of established links. -/
def deactivate (peer : Peer) : Peer × Int :=
  ({ peer with plinkState := .blocked }, if peer.plinkState = .estab then -1 else 0)

/-- `mesh_plink_close` -/
def close (peer : Peer) (event : PlinkEvent) : Peer :=
  { peer with
    reason := if event = .clsAcpt then wlanReasonMeshClose else wlanReasonMeshConfig
    plinkState := .holding }

/-- `mesh_plink_establish` -/
def establish (peer : Peer) : Peer × Int := ({ peer with plinkState := .estab }, 1)

/-- The switch of `mesh_plink_fsm`: the peer, what is added to the number of established links
and the frame to send. -/
def fsm (cfg : Mshcfg) (newLlid : UInt16) (peer : Peer) (event : PlinkEvent) :
    (Peer × Int) × Option ActionCode :=
  match peer.plinkState with
  | .listen =>
    match event with
    | .clsAcpt => ((peer.fsmRestart, 0), none)
    | .opnAcpt =>
      (({ peer with
          plinkState := .opnRcvd, llid := newLlid
          plinkTimeout := cfg.dot11MeshRetryTimeout }, 0), some .meshPeeringOpen)
    | _ => ((peer, 0), none)
  | .opnSnt =>
    match event with
    | .opnRjct | .cnfRjct | .clsAcpt => ((peer.close event, 0), some .meshPeeringClose)
    | .opnAcpt => (({ peer with plinkState := .opnRcvd }, 0), some .meshPeeringConfirm)
    | .cnfAcpt => (({ peer with plinkState := .cnfRcvd }, 0), none)
    | _ => ((peer, 0), none)
  | .opnRcvd =>
    match event with
    | .opnRjct | .cnfRjct | .clsAcpt => ((peer.close event, 0), some .meshPeeringClose)
    | .opnAcpt => ((peer, 0), some .meshPeeringConfirm)
    | .cnfAcpt => (peer.establish, none)
    | _ => ((peer, 0), none)
  | .cnfRcvd =>
    match event with
    | .opnRjct | .cnfRjct | .clsAcpt => ((peer.close event, 0), some .meshPeeringClose)
    | .opnAcpt => (peer.establish, some .meshPeeringConfirm)
    | _ => ((peer, 0), none)
  | .estab =>
    match event with
    | .clsAcpt =>
      let (peer, estab) := peer.deactivate
      ((peer.close event, estab), some .meshPeeringClose)
    | .opnAcpt => ((peer, 0), some .meshPeeringConfirm)
    | _ => ((peer, 0), none)
  | .holding =>
    match event with
    | .clsAcpt => ((peer.fsmRestart, 0), none)
    | .opnAcpt | .cnfAcpt | .opnRjct | .cnfRjct => ((peer, 0), some .meshPeeringClose)
    | _ => ((peer, 0), none)
  | .blocked => ((peer, 0), none)

end Peer

namespace MeshIf

/-- A peer's new state, with what it adds to the number of established links. -/
def put (s : MeshIf) (a : Addr) (result : Peer × Int) : MeshIf :=
  { s with peers := s.peers.insert a result.1, estabPlinks := s.estabPlinks + result.2 }

end MeshIf

/-! ## Received frames -/

def meshPlinkFsm (s : MeshIf) (a : Addr) (peer : Peer) (event : PlinkEvent)
    (random : List UInt16) : MeshIf × List PlinkTx :=
  let (result, action) := peer.fsm s.mshcfg (meshGetNewLlid s random) event
  let sent := match action with
    | none => []
    | some action =>
      { action := action, da := a, llid := result.1.llid, plid := result.1.plid
        reason := result.1.reason } ::
        if action = .meshPeeringOpen then
          [{ action := .meshPeeringConfirm, da := a, llid := result.1.llid
             plid := result.1.plid, reason := 0 }]
        else []
  (s.put a result, sent)

def meshPlinkGetEvent (conf : Conf) (s : MeshIf) (sta : Option Peer) (elems : Elems)
    (ftype : ActionCode) (llid plid : UInt16) : PlinkEvent :=
  let matchesLocal := ftype = .meshPeeringClose || meshMatchesLocal conf elems
  match sta with
  | none =>
    if !matchesLocal then .opnRjct
    else if ftype ≠ .meshPeeringOpen then .undefined
    else if meshPlinkFreeCount s = 0 then .undefined
    else .opnAcpt
  | some peer =>
    if !peer.auth then .undefined
    else if peer.plinkState = .blocked then .undefined
    else
      match ftype with
      | .meshPeeringOpen =>
        -- the verdict of the first test is overwritten by the second
        let _event := if !matchesLocal then PlinkEvent.opnRjct else .undefined
        if meshPlinkFreeCount s = 0 || (peer.plid != 0 && peer.plid != plid) then .opnIgnr
        else .opnAcpt
      | .meshPeeringConfirm =>
        let _event := if !matchesLocal then PlinkEvent.cnfRjct else .undefined
        if meshPlinkFreeCount s = 0 || peer.llid != llid ||
            (peer.plid != 0 && peer.plid != plid) then .cnfIgnr
        else .cnfAcpt
      | .meshPeeringClose =>
        if peer.plinkState = .estab then .clsAcpt
        else if peer.plid ≠ plid then .clsIgnr
        else if elems.peeringLen = 8 && peer.llid != llid then .clsIgnr
        else .clsAcpt
      | .other => .undefined

/-- The tests on a frame's elements before its sender is looked up. -/
def plinkFrameFits (conf : Conf) (mgmt : Mgmt) : Bool :=
  let len := mgmt.elems.peeringLen
  mgmt.elems.peering.isSome &&
    !(mgmt.elems.rsnLen != 0 && conf.security == meshSecNone) &&
    (match mgmt.actionCode with
      | .meshPeeringOpen => len == 4
      | .meshPeeringConfirm => len == 6
      | .meshPeeringClose => len == 6 || len == 8
      | .other => true) &&
    (mgmt.actionCode == .meshPeeringClose ||
      (mgmt.elems.meshId.isSome && mgmt.elems.meshConfig.isSome))

/-- The local link id that a frame names. -/
def frameLlid (mgmt : Mgmt) : UInt16 :=
  if mgmt.actionCode = .meshPeeringConfirm ||
      (mgmt.actionCode = .meshPeeringClose && mgmt.elems.peeringLen = 8) then
    mgmt.elems.getPlid
  else 0

/-- `__mesh_sta_info_alloc` where the kernel allocates stations; `room` says that it finds an
association id and memory. -/
def meshStaInfoAlloc (conf : Conf) (room : Bool) : Option Peer :=
  if conf.security &&& meshSecAuthed != 0 then none
  else if room then some {} else none

/-- `mesh_sta_info_get` -/
def meshStaInfoGet (conf : Conf) (s : MeshIf) (a : Addr) (room : Bool) : Option Peer :=
  match s.peers.lookup a with
  | some peer => some peer
  | none => meshStaInfoAlloc conf room

def meshProcessPlinkFrame (conf : Conf) (s : MeshIf) (mgmt : Mgmt) (room : Bool)
    (random : List UInt16) : MeshIf × List PlinkTx :=
  if !plinkFrameFits conf mgmt then (s, [])
  else
    let plid := mgmt.elems.getLlid
    let llid := frameLlid mgmt
    let sta := s.peers.lookup mgmt.sa
    if mgmt.actionCode = .meshPeeringOpen && !rssiThresholdCheck s sta then (s, [])
    else
      match meshPlinkGetEvent conf s sta mgmt.elems mgmt.actionCode llid plid with
      | .opnAcpt =>
        match meshStaInfoGet conf s mgmt.sa room with
        | none => (s, [])
        | some peer => meshPlinkFsm s mgmt.sa { peer with plid := plid } .opnAcpt random
      | event =>
        match sta with
        | none =>
          if event = .opnRjct then
            (s, [{ action := .meshPeeringClose, da := mgmt.sa, llid := 0, plid := plid
                   reason := wlanReasonMeshConfig }])
          else (s, [])
        | some peer =>
          if event = .undefined then (s, [])
          else
            let peer :=
              if event = .cnfAcpt then
                { peer with
                  plid := if peer.plid = 0 then plid else peer.plid
                  aid := mgmt.aid }
              else peer
            meshPlinkFsm s mgmt.sa peer event random

/-! ## Local calls -/

def meshPlinkOpen (s : MeshIf) (a : Addr) (random : List UInt16) : MeshIf × List PlinkTx :=
  match s.peers.lookup a with
  | none => (s, [])
  | some peer =>
    if !peer.auth then (s, [])
    else
      -- the new link id is stored before the state is looked at
      let peer := { peer with llid := meshGetNewLlid s random }
      if peer.plinkState ≠ .listen ∧ peer.plinkState ≠ .blocked then (s.put a (peer, 0), [])
      else
        let peer :=
          { peer with
            plinkState := .opnSnt
            plinkTimeout := s.mshcfg.dot11MeshRetryTimeout }
        (s.put a (peer, 0),
          [{ action := .meshPeeringOpen, da := a, llid := peer.llid, plid := 0, reason := 0 }])

def meshPlinkBlock (s : MeshIf) (a : Addr) : MeshIf :=
  match s.peers.lookup a with
  | none => s
  | some peer => s.put a peer.deactivate

def meshPlinkDeactivate (s : MeshIf) (a : Addr) : MeshIf × List PlinkTx :=
  match s.peers.lookup a with
  | none => (s, [])
  | some peer =>
    let (peer, estab) := peer.deactivate
    let peer := { peer with reason := wlanReasonMeshPeerCanceled }
    (s.put a (peer, estab),
      [{ action := .meshPeeringClose, da := a, llid := peer.llid, plid := peer.plid
         reason := peer.reason }])

/-- `mesh_plink_timer`; `adjusted` says that the timer's time is not over yet. -/
def meshPlinkTimer (s : MeshIf) (a : Addr) (adjusted : Bool) (random : UInt32) :
    MeshIf × List PlinkTx :=
  match s.peers.lookup a with
  | none => (s, [])
  | some peer =>
    let hold (reason : UInt16) : MeshIf × List PlinkTx :=
      (s.put a ({ peer with plinkState := .holding }, 0),
        [{ action := .meshPeeringClose, da := a, llid := peer.llid, plid := peer.plid
           reason := reason }])
    if adjusted then (s, [])
    else
      match peer.plinkState with
      | .opnRcvd | .opnSnt =>
        if peer.plinkRetries < s.mshcfg.dot11MeshMaxRetries then
          let peer :=
            { peer with
              plinkTimeout := peer.plinkTimeout + random % peer.plinkTimeout
              plinkRetries := peer.plinkRetries + 1 }
          (s.put a (peer, 0),
            [{ action := .meshPeeringOpen, da := a, llid := peer.llid, plid := peer.plid
               reason := 0 }])
        else hold wlanReasonMeshMaxRetries
      | .cnfRcvd => hold wlanReasonMeshConfirmTimeout
      | .holding => (s.put a (peer.fsmRestart, 0), [])
      | _ => (s, [])

/-- `mesh_neighbour_update`, for a beacon whose elements match the local profile. -/
def meshNeighbourUpdate (conf : Conf) (s : MeshIf) (a : Addr) (elems : Elems) (room : Bool)
    (random : List UInt16) : MeshIf × List PlinkTx :=
  match meshStaInfoGet conf s a room with
  | none => (s, [])
  | some peer =>
    let s := s.put a (peer, 0)
    if meshPeerAcceptsPlinks elems && peer.plinkState = .listen && s.acceptingPlinks &&
        s.mshcfg.autoOpenPlinks && rssiThresholdCheck s (some peer) then
      meshPlinkOpen s a random
    else (s, [])

end Iwlwifi.MeshPlink
