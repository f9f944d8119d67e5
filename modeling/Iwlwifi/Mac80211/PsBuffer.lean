import Iwlwifi.Ieee80211
import Iwlwifi.Lib.Tally

/-!
# Frames buffered for sleeping stations

The access point and the mesh side of power save: frames for a station that sleeps wait in
the station's `ps_tx_buf`, one queue for each access category, and group frames wait in the
`bc_buf` of the interface until the beacon that announces them.  `total_ps_buffered` counts
both.  It is kept by every function that puts a frame into one of these queues or takes one
out, and it is computed anew by `purge_old_ps_buffers` when it has reached its limit.

Interfaces and stations are named by their positions in `local->interfaces` and
`local->sta_list`.  The traffic indication map and the frames' bytes are left out: nothing
here reads them.
-/

namespace Iwlwifi.Ps

open Lib

def totalMaxTxBuffer : Int := 512
def apMaxBcBuffer : Nat := 128
def staMaxTxBuffer : Nat := 64

/-! ## Access categories -/

inductive Ac
  | vo
  | vi
  | be
  | bk
deriving DecidableEq, Repr

/-- From `IEEE80211_AC_VO` up to `IEEE80211_AC_BK`. -/
def acs : List Ac := [.vo, .vi, .be, .bk]

/-- `ieee80211_ac_to_qos_mask` -/
def Ac.toQosMask : Ac → UInt8
  | .vo => 1
  | .vi => 2
  | .be => 8
  | .bk => 4

/-- `ieee80211_tids_for_ac` -/
def Ac.tids : Ac → Nat
  | .vo => 0xc0
  | .vi => 0x30
  | .be => 0x09
  | .bk => 0x06

/-- An array of `IEEE80211_NUM_ACS` entries. -/
structure PerAc (α : Type) where
  vo : α
  vi : α
  be : α
  bk : α
deriving DecidableEq, Repr

namespace PerAc

variable {α : Type}

def get (a : PerAc α) : Ac → α
  | .vo => a.vo
  | .vi => a.vi
  | .be => a.be
  | .bk => a.bk

def set (a : PerAc α) (x : α) : Ac → PerAc α
  | .vo => { a with vo := x }
  | .vi => { a with vi := x }
  | .be => { a with be := x }
  | .bk => { a with bk := x }

def replicate (x : α) : PerAc α := ⟨x, x, x, x⟩

/-- The number of entries in four queues. -/
def frames (queues : PerAc (List α)) : Nat :=
  queues.vo.length + queues.vi.length + queues.be.length + queues.bk.length

/-- The number of queues that have an entry. -/
def occupied (queues : PerAc (List α)) : Nat :=
  (acs.filter fun ac => !(queues.get ac).isEmpty).length

end PerAc

/-! ## The data -/

/-- Of a frame to send: its frame control, its queue mapping, the device it is sent on and
what is read and written of its `ieee80211_tx_info`. -/
structure TxSkb where
  frameControl : Nat
  queueMapping : Ac
  dev : Nat
  flags : UInt32 := 0
  hwQueue : Nat := 0
  jiffies : UInt64 := 0
  vif : Nat := 0
deriving DecidableEq, Repr

def txCtlSendAfterDtim : UInt32 := (1 : UInt32) <<< 5
def txIntflNeedTxprocessing : UInt32 := (1 : UInt32) <<< 14
def txCtlNoPsBuffer : UInt32 := (1 : UInt32) <<< 17

/-- `IEEE80211_TX_TEMPORARY_FLAGS`, bit by bit -/
def txTemporaryFlags : UInt32 :=
  ([2, 3, 4, 5, 6, 8, 9, 10, 11, 12, 17, 18, 22, 23, 24, 28] : List UInt32).foldl
    (fun flags bit => flags ||| (1 : UInt32) <<< bit) 0

/-- `struct ps_data` -/
structure PsData where
  bcBuf : List TxSkb := []
  numStaPs : Int := 0
  dtimCount : Nat := 0
  dtimBcMc : Bool := false
deriving DecidableEq, Repr

/-- The type of an interface with what it has of `u`.  Only an access point and a mesh have
a `ps` of their own, and `bss` points to an access point: for one itself it is set while the
interface is up. -/
inductive Vif
  | ap (ps : PsData) (bss : Bool)
  | apVlan (bss : Option Nat)
  | mesh (ps : PsData)
  | other
deriving DecidableEq, Repr

namespace Vif

def ps : Vif → Option PsData
  | .ap ps _ => some ps
  | .mesh ps => some ps
  | _ => none

def setPs (v : Vif) (ps : PsData) : Vif :=
  match v with
  | .ap _ bss => .ap ps bss
  | .mesh _ => .mesh ps
  | v => v

end Vif

structure Sdata where
  vif : Vif
  beaconInt : Nat := 100
  cabQueue : Nat := 0
deriving DecidableEq, Repr

/-- What other code decides about a station. -/
structure StaInfo.State where
  psSta : Bool := false
  psDriver : Bool := false
  psDeliver : Bool := false
  sp : Bool := false
  pspoll : Bool := false
  uapsd : Bool := false
  listenInterval : Nat := 0
  uapsdQueues : UInt8 := 0
  maxSp : Nat := 0
  driverBufferedTids : Nat := 0
  txqBufferedTids : Nat := 0
deriving DecidableEq, Repr

/-- `WLAN_STA_PS_STA`, `WLAN_STA_PS_DRIVER` or `WLAN_STA_PS_DELIVER` -/
def StaInfo.State.inPs (s : StaInfo.State) : Bool := s.psSta || s.psDriver || s.psDeliver

structure StaInfo where
  sdata : Nat
  state : StaInfo.State := {}
  txFiltered : PerAc (List TxSkb) := .replicate []
  psTxBuf : PerAc (List TxSkb) := .replicate []
deriving DecidableEq, Repr

/-- `struct ieee80211_local`, with the clock and its rate. -/
structure Local where
  interfaces : List Sdata
  staList : List StaInfo
  totalPsBuffered : Int := 0
  jiffies : UInt64 := 0
  hz : Nat := 250
  queueControl : Bool := false
  hostBroadcastPsBuffering : Bool := true
deriving DecidableEq, Repr

namespace Local

def vif (l : Local) (i : Nat) : Vif :=
  match l.interfaces[i]? with
  | some sdata => sdata.vif
  | none => .other

def setVif (l : Local) (i : Nat) (v : Vif) : Local :=
  match l.interfaces[i]? with
  | some sdata => { l with interfaces := l.interfaces.set i { sdata with vif := v } }
  | none => l

def setPs (l : Local) (i : Nat) (ps : PsData) : Local := l.setVif i ((l.vif i).setPs ps)

def setSta (l : Local) (s : Nat) (sta : StaInfo) : Local :=
  { l with staList := l.staList.set s sta }

def setTotal (l : Local) (total : Int) : Local := { l with totalPsBuffered := total }

end Local

/-! ## The purge -/

/-- `purge_old_ps_buffers`, its walk over the interfaces -/
def purgeInterfaces : List Sdata → Int → List Sdata × Int
  | [], total => ([], total)
  | sdata :: rest, total =>
    match sdata.vif.ps with
    | none =>
      let (rest, total) := purgeInterfaces rest total
      (sdata :: rest, total)
    | some ps =>
      let kept := ps.bcBuf.tail
      let (rest, total) := purgeInterfaces rest (total + kept.length)
      ({ sdata with vif := sdata.vif.setPs { ps with bcBuf := kept } } :: rest, total)

/-- `purge_old_ps_buffers`, the loop over the access categories of one station: it is left
with the first frame dropped. -/
def purgeSta : List Ac → PerAc (List TxSkb) → Int → PerAc (List TxSkb) × Int
  | [], queues, total => (queues, total)
  | ac :: rest, queues, total =>
    match queues.get ac with
    | [] => purgeSta rest queues total
    | _ :: kept => (queues.set kept ac, total + kept.length)

/-- `purge_old_ps_buffers`, its walk over the stations -/
def purgeStations : List StaInfo → Int → List StaInfo × Int
  | [], total => ([], total)
  | sta :: rest, total =>
    let (queues, total) := purgeSta [.bk, .be, .vi, .vo] sta.psTxBuf total
    let (rest, total) := purgeStations rest total
    ({ sta with psTxBuf := queues } :: rest, total)

def purgeOldPsBuffers (l : Local) : Local :=
  let (interfaces, total) := purgeInterfaces l.interfaces 0
  let (staList, total) := purgeStations l.staList total
  { l with interfaces := interfaces, staList := staList, totalPsBuffered := total }

/-! ## Buffering -/

inductive TxResult
  | continue
  | queued
deriving DecidableEq, Repr

/-- `struct ieee80211_tx_data`; `staThen` is what is found of the station's flags the second
time they are tested, under its lock. -/
structure TxData where
  sdata : Nat
  sta : Option Nat
  skb : TxSkb
  psBuffered : Bool := false
  unicast : Bool := true
  staThen : StaInfo.State := { psSta := true }
deriving DecidableEq, Repr

def ieee80211IsProbeReq (fc : Nat) : Bool :=
  fc &&& (ieee80211FctlFtype ||| ieee80211FctlStype) == 0x0040

def ieee80211IsBufferableMmpdu (fc : Nat) : Bool :=
  ieee80211IsMgmt fc &&
    [0x00d0, 0x00a0, 0x00c0].contains (fc &&& (ieee80211FctlFtype ||| ieee80211FctlStype))

/-- The interface whose `ps` holds the group frames sent on an interface. -/
def groupHolder (l : Local) (i : Nat) : Option Nat :=
  match l.vif i with
  | .ap _ bss => if bss then some i else none
  | .apVlan bss => bss
  | .mesh _ => some i
  | .other => none

/-- The tests before a group frame is buffered. -/
def multicastBuffers (l : Local) (ps : PsData) (skb : TxSkb) : Bool :=
  !ieee80211HasOrder skb.frameControl && !ieee80211IsProbeReq skb.frameControl &&
    !(ps.numStaPs == 0 && ps.bcBuf.isEmpty) && l.hostBroadcastPsBuffering

/-- What the frame's info is after the tests. -/
def multicastInfo (l : Local) (i : Nat) (ps : PsData) (skb : TxSkb) : TxSkb :=
  if ieee80211HasOrder skb.frameControl || ieee80211IsProbeReq skb.frameControl then skb
  else
    let skb :=
      match l.interfaces[i]? with
      | some sdata => if l.queueControl then { skb with hwQueue := sdata.cabQueue } else skb
      | none => skb
    if ps.numStaPs == 0 && ps.bcBuf.isEmpty then skb
    else { skb with flags := skb.flags ||| txCtlSendAfterDtim }

/-- The purge when the limit is reached, which both handlers start with. -/
def makeRoom (l : Local) : Local :=
  if totalMaxTxBuffer ≤ l.totalPsBuffered then purgeOldPsBuffers l else l

/-- The frame goes to the tail of the interface's queue, whose oldest frame makes place for
it when the queue is full. -/
def enqueueBc (l : Local) (j : Nat) (skb : TxSkb) : Local :=
  match (l.vif j).ps with
  | none => l
  | some ps =>
    if apMaxBcBuffer ≤ ps.bcBuf.length then
      l.setPs j { ps with bcBuf := ps.bcBuf.tail ++ [skb] }
    else
      (l.setPs j { ps with bcBuf := ps.bcBuf ++ [skb] }).setTotal (l.totalPsBuffered + 1)

def ieee80211TxHMulticastPsBuf (l : Local) (tx : TxData) : Local × TxResult × TxSkb :=
  match groupHolder l tx.sdata with
  | none => (l, .continue, tx.skb)
  | some j =>
    match (l.vif j).ps with
    | none => (l, .continue, tx.skb)
    | some ps =>
      let skb := multicastInfo l tx.sdata ps tx.skb
      if !multicastBuffers l ps tx.skb then (l, .continue, skb)
      else (enqueueBc (makeRoom l) j skb, .queued, skb)

/-- The tests before a unicast frame is buffered. -/
def unicastBuffers (sta : StaInfo) (skb : TxSkb) : Bool :=
  sta.state.inPs && skb.flags &&& txCtlNoPsBuffer == 0 &&
    !(ieee80211IsMgmt skb.frameControl && !ieee80211IsBufferableMmpdu skb.frameControl)

/-- As `enqueueBc`, for the queue of a station's access category. -/
def enqueueSta (l : Local) (s : Nat) (skb : TxSkb) : Local :=
  match l.staList[s]? with
  | none => l
  | some sta =>
    let ac := skb.queueMapping
    let queue := sta.psTxBuf.get ac
    if staMaxTxBuffer ≤ queue.length then
      l.setSta s { sta with psTxBuf := sta.psTxBuf.set (queue.tail ++ [skb]) ac }
    else
      (l.setSta s { sta with psTxBuf := sta.psTxBuf.set (queue ++ [skb]) ac }).setTotal
        (l.totalPsBuffered + 1)

def ieee80211TxHUnicastPsBuf (l : Local) (tx : TxData) : Local × TxResult × TxSkb :=
  match tx.sta with
  | none => (l, .continue, tx.skb)
  | some s =>
    match l.staList[s]? with
    | none => (l, .continue, tx.skb)
    | some sta =>
      if sta.state.inPs && tx.skb.flags &&& txCtlNoPsBuffer == 0 then
        if !unicastBuffers sta tx.skb then
          (l, .continue, { tx.skb with flags := tx.skb.flags ||| txCtlNoPsBuffer })
        else
          let l := makeRoom l
          -- the station woke up in the meantime
          if !tx.staThen.inPs then (l, .continue, tx.skb)
          else
            let skb :=
              { tx.skb with
                jiffies := l.jiffies
                vif := tx.sdata
                flags :=
                  (tx.skb.flags ||| txIntflNeedTxprocessing) &&& ~~~txTemporaryFlags }
            (enqueueSta l s skb, .queued, skb)
      else (l, .continue, tx.skb)

def ieee80211TxHPsBuf (l : Local) (tx : TxData) : Local × TxResult × TxSkb :=
  if tx.psBuffered then (l, .continue, tx.skb)
  else if tx.unicast then ieee80211TxHUnicastPsBuf l tx
  else ieee80211TxHMulticastPsBuf l tx

/-! ## Expiry -/

/-- An `int` -/
def s32 (x : Int) : Int := Int.bmod x (2 ^ 32)

/-- `time_after` -/
def timeAfter (a b : UInt64) : Bool := 2 ^ 63 ≤ (b - a).toNat

def staInfoBufferExpired (l : Local) (sta : StaInfo) (skb : TxSkb) : Bool :=
  let beaconInt := match l.interfaces[sta.sdata]? with
    | some sdata => sdata.beaconInt
    | none => 0
  let timeout := s32 ((s32 (s32 (sta.state.listenInterval * beaconInt) * 32)).tdiv 15625 * l.hz)
  let timeout := max timeout (10 * l.hz)
  timeAfter l.jiffies (skb.jiffies + UInt64.ofNat timeout.toNat)

/-- The loops of `sta_info_cleanup_expire_buffered_ac`: frames are taken from the head of a
queue while they have expired. -/
def expireQueue (l : Local) (sta : StaInfo) (queue : List TxSkb) : List TxSkb :=
  queue.dropWhile (staInfoBufferExpired l sta)

/-- `sta_info_cleanup_expire_buffered_ac`: only the frames of the second queue are counted. -/
def staInfoCleanupExpireBufferedAc (l : Local) (s : Nat) (ac : Ac) : Local :=
  match l.staList[s]? with
  | none => l
  | some sta =>
    let filtered := expireQueue l sta (sta.txFiltered.get ac)
    let queue := expireQueue l sta (sta.psTxBuf.get ac)
    let gone : Nat := (sta.psTxBuf.get ac).length - queue.length
    let sta :=
      { sta with
        txFiltered := sta.txFiltered.set filtered ac
        psTxBuf := sta.psTxBuf.set queue ac }
    (l.setSta s sta).setTotal (l.totalPsBuffered - gone)

/-- `sta->sdata->bss` is set or the interface is a mesh. -/
def Vif.serves : Vif → Bool
  | .ap _ bss => bss
  | .apVlan bss => bss.isSome
  | .mesh _ => true
  | .other => false

def staInfoCleanupExpireBuffered (l : Local) (s : Nat) : Local :=
  match l.staList[s]? with
  | none => l
  | some sta =>
    if !(l.vif sta.sdata).serves then l
    else acs.foldl (fun l ac => staInfoCleanupExpireBufferedAc l s ac) l

/-! ## Wake-up -/

/-- The interface whose `ps` counts a station of an interface as sleeping. -/
def wakeHolder (l : Local) (i : Nat) : Option Nat :=
  match l.vif i with
  | .ap _ _ => some i
  | .apVlan bss => bss
  | .mesh _ => some i
  | .other => none

/-- The frames of all queues of a station in the order in which they become pending. -/
def pendingFrames (sta : StaInfo) : List TxSkb :=
  acs.flatMap fun ac => sta.txFiltered.get ac ++ sta.psTxBuf.get ac

/-- The station's flags and TIDs once its frames are pending. -/
def wokenState (sta : StaInfo) : StaInfo.State :=
  { sta.state with
    sp := false
    driverBufferedTids := 0
    txqBufferedTids := 0
    psDeliver := false
    pspoll := false
    uapsd := false }

def ieee80211StaPsDeliverWakeup (l : Local) (s : Nat) : Local × List TxSkb :=
  match l.staList[s]? with
  | none => (l, [])
  | some sta =>
    match wakeHolder l sta.sdata with
    | none => (l, [])
    | some j =>
      match (l.vif j).ps with
      | none => (l, [])
      | some ps =>
        let woken : StaInfo := { sdata := sta.sdata, state := wokenState sta }
        let l := (l.setSta s woken).setPs j { ps with numStaPs := ps.numStaPs - 1 }
        (l.setTotal (l.totalPsBuffered - sta.psTxBuf.frames), pendingFrames sta)

/-! ## Responses to a poll and to a trigger frame -/

/-- What the loops of `ieee80211_sta_ps_get_frames` change. -/
structure Release where
  nFrames : Nat
  txFiltered : PerAc (List TxSkb)
  psTxBuf : PerAc (List TxSkb)
  total : Int
  frames : List TxSkb := []
  driverReleaseTids : Nat := 0
deriving DecidableEq, Repr

/-- The inner loop, over the two queues of an access category: the frames that are left in
each, those taken so far and the number of frames that may still be taken. -/
def takeFrames :
    Nat → List TxSkb → List TxSkb → List TxSkb → Int →
      Nat × List TxSkb × List TxSkb × List TxSkb × Int
  | 0, filtered, queue, frames, total => (0, filtered, queue, frames, total)
  | n + 1, skb :: filtered, queue, frames, total =>
    takeFrames n filtered queue (frames ++ [skb]) total
  | n + 1, [], skb :: queue, frames, total =>
    takeFrames n [] queue (frames ++ [skb]) (total - 1)
  | n + 1, [], [], frames, total => (n + 1, [], [], frames, total)

def Release.takeAc (r : Release) (ac : Ac) : Release :=
  let (nFrames, filtered, queue, frames, total) :=
    takeFrames r.nFrames (r.txFiltered.get ac) (r.psTxBuf.get ac) r.frames r.total
  { r with
    nFrames := nFrames
    txFiltered := r.txFiltered.set filtered ac
    psTxBuf := r.psTxBuf.set queue ac
    frames := frames
    total := total }

/-- The driver's own frames for an access category, which keep those of the queues back. -/
def Release.addTids (r : Release) (sta : StaInfo.State) (ac : Ac) : Release :=
  if r.frames.isEmpty then
    { r with
      driverReleaseTids := r.driverReleaseTids ||| (sta.driverBufferedTids &&& ac.tids) |||
        (sta.txqBufferedTids &&& ac.tids) }
  else r

def getFrames (sta : StaInfo.State) (ignoredAcs : UInt8) : List Ac → Release → Release
  | [], r => r
  | ac :: rest, r =>
    if ignoredAcs &&& ac.toQosMask != 0 then getFrames sta ignoredAcs rest r
    else
      let r := r.addTids sta ac
      let r := if r.driverReleaseTids == 0 then r.takeAc ac else r
      if !(r.txFiltered.get ac).isEmpty || !(r.psTxBuf.get ac).isEmpty then r
      else getFrames sta ignoredAcs rest r

/-- `ieee80211_sta_ps_get_frames`: the frames taken and the driver's TIDs to release. -/
def ieee80211StaPsGetFrames (l : Local) (s nFrames : Nat) (ignoredAcs : UInt8) :
    Local × List TxSkb × Nat :=
  match l.staList[s]? with
  | none => (l, [], 0)
  | some sta =>
    let r := getFrames sta.state ignoredAcs acs
      { nFrames := nFrames, txFiltered := sta.txFiltered, psTxBuf := sta.psTxBuf
        total := l.totalPsBuffered }
    let sta := { sta with txFiltered := r.txFiltered, psTxBuf := r.psTxBuf }
    ((l.setSta s sta).setTotal r.total, r.frames, r.driverReleaseTids)

/-- `ieee80211_sta_ps_deliver_response` up to the frames it hands on. -/
def ieee80211StaPsDeliverResponse (l : Local) (s nFrames : Nat) (ignoredAcs : UInt8) :
    Local × List TxSkb × Nat :=
  match l.staList[s]? with
  | none => (l, [], 0)
  | some sta =>
    let l := l.setSta s { sta with state := { sta.state with sp := true } }
    ieee80211StaPsGetFrames l s nFrames ignoredAcs

def ieee80211StaPsDeliverPollResponse (l : Local) (s : Nat) : Local × List TxSkb × Nat :=
  match l.staList[s]? with
  | none => (l, [], 0)
  | some sta =>
    let ignored := sta.state.uapsdQueues
    ieee80211StaPsDeliverResponse l s 1 (if ignored == 0x0f then 0 else ignored)

def ieee80211StaPsDeliverUapsd (l : Local) (s : Nat) : Local × List TxSkb × Nat :=
  match l.staList[s]? with
  | none => (l, [], 0)
  | some sta =>
    let enabled := sta.state.uapsdQueues
    if enabled == 0 then (l, [], 0)
    else
      let nFrames := match sta.state.maxSp with
        | 1 => 2
        | 2 => 4
        | 3 => 6
        | 0 => 128
        | n => n
      ieee80211StaPsDeliverResponse l s nFrames (~~~enabled)

/-! ## Group frames sent and dropped -/

/-- The loop of `ieee80211_get_buffered_bc`: frames are taken until `ieee80211_tx_prepare`
accepts one. -/
def takeBc (prepare : TxSkb → Bool) : List TxSkb → Int → List TxSkb × Int
  | [], total => ([], total)
  | skb :: rest, total =>
    if prepare skb then (rest, total - 1) else takeBc prepare rest (total - 1)

/-- `ieee80211_get_buffered_bc`; `beaconing` says that the interface has a channel and, for an
access point, a beacon. -/
def ieee80211GetBufferedBc (l : Local) (i : Nat) (beaconing : Bool) (prepare : TxSkb → Bool) :
    Local :=
  match (l.vif i).ps with
  | none => l
  | some ps =>
    if !beaconing || ps.dtimCount != 0 || !ps.dtimBcMc then l
    else
      let (rest, total) := takeBc prepare ps.bcBuf l.totalPsBuffered
      (l.setPs i { ps with bcBuf := rest }).setTotal total

/-- An access point or a mesh stops: `ieee80211_stop_ap`, `ieee80211_stop_mesh` -/
def stopBc (l : Local) (i : Nat) : Local :=
  match (l.vif i).ps with
  | none => l
  | some ps =>
    (l.setPs i { ps with bcBuf := [] }).setTotal (l.totalPsBuffered - ps.bcBuf.length)

/-- `__cleanup_single_sta`: the station's frames go with it. -/
def cleanupSingleSta (l : Local) (s : Nat) : Local :=
  match l.staList[s]? with
  | none => l
  | some sta =>
    { l with staList := l.staList.eraseIdx s }.setTotal
      (l.totalPsBuffered - sta.psTxBuf.frames)

end Iwlwifi.Ps
