import Iwlwifi.Mac80211.FastXmit

/-!
# Software A-MSDU aggregation

`ieee80211_amsdu_prepare_head` and `ieee80211_amsdu_aggregate` of `net/mac80211/tx.c`.  A frame
that waits at the end of its flow is converted in place to an A-MSDU of one sub-frame, and the
next frame becomes a sub-frame of its fragment list.
-/

namespace Iwlwifi.Xmit

open Lib

/-! ## Frames and flows -/

/-- A frame that `ieee80211_xmit_fast` is given. -/
structure TxSkb where
  bytes : List UInt8
  nrFrags : Nat
  isGso : Bool
  priority : Nat

/-- A frame that waits in a flow.  The fragment list holds the bytes of its skbs and their
`nr_frags`. -/
structure QueuedSkb where
  data : List UInt8
  nrFrags : Nat
  fragList : List (List UInt8 × Nat)
  isGso : Bool
  /-- `IEEE80211_TX_CTL_RATE_CTRL_PROBE` -/
  rateCtrlProbe : Bool
  /-- `IEEE80211_TX_CTRL_AMSDU` -/
  amsdu : Bool

namespace QueuedSkb

/-- The bytes of the fragment list. -/
def listed (skb : QueuedSkb) : List UInt8 := (skb.fragList.map Prod.fst).flatten

def bytes (skb : QueuedSkb) : List UInt8 := skb.data ++ skb.listed

def len (skb : QueuedSkb) : Nat := skb.bytes.length

end QueuedSkb

/-- `struct fq_flow` -/
structure TxFlow where
  queue : List QueuedSkb
  backlog : Nat

/-- What a call finds: the station, the hardware and the answers of what it calls. -/
structure AmsduCall where
  txAmsdu : Bool
  maxTxFragments : Nat
  maxAmsduLen : UInt16
  maxRcAmsduLen : UInt16
  maxTidAmsduLen : Nat → UInt16
  maxAmsduSubframes : UInt8
  /-- The queue of a TID, if there is one: whether it has `IEEE80211_TXQ_NO_AMSDU`. -/
  txq : Nat → Option Bool
  sdata : SubIfData
  /-- `drv_can_aggregate_in_amsdu`, which is asked twice. -/
  canAggregate : Bool
  canAggregateStill : Bool
  /-- Whether `ieee80211_amsdu_realloc_pad` succeeds for the head and for the new frame. -/
  headPadded : Bool
  skbPadded : Bool

/-- `max_amsdu_len` -/
def AmsduCall.limit (call : AmsduCall) (tid : Nat) : Nat :=
  let limit := call.maxAmsduLen.toNat
  let limit := if call.maxRcAmsduLen != 0 then min limit call.maxRcAmsduLen.toNat else limit
  if call.maxTidAmsduLen tid != 0 then min limit (call.maxTidAmsduLen tid).toNat else limit

/-! ## The head -/

/-- `bssid` of `ieee80211_amsdu_prepare_head` -/
def outerBssid (sdata : SubIfData) : Option EtherAddr :=
  match sdata.vifType with
  | .station => some sdata.mgdBssid
  | .ap | .apVlan => some sdata.vifAddr
  | _ => none

/-- The outer addresses and the QoS control field of an A-MSDU. -/
def outerHeader (sdata : SubIfData) (fast : FastTx) (data : List UInt8) : List UInt8 :=
  let fc := Skb.frameControl data
  let data := match outerBssid sdata with
    | some bssid => if ieee80211HasFromds fc then overwrite data fast.saOffs bssid.val else data
    | none => data
  let data := match outerBssid sdata with
    | some bssid => if ieee80211HasTods fc then overwrite data fast.daOffs bssid.val else data
    | none => data
  let qc := qosCtlOffset data
  overwrite data qc [Skb.byte data qc ||| 0x80]

/-- The data of the head with the header of its first sub-frame.  Before that is written, the
bytes behind the 802.11 header are what `memmove` left there. -/
def withSubframeHeader (fast : FastTx) (head : QueuedSkb) : List UInt8 :=
  let hdrLen := fast.machdrLen
  let subframeLen := head.len - hdrLen
  let data := head.data.take hdrLen ++ head.data.drop (hdrLen - 14)
  let data := overwrite data (hdrLen + 12) (be16Bytes subframeLen)
  let data := overwrite data (hdrLen + 6) (window data fast.saOffs 6)
  overwrite data hdrLen (window data fast.daOffs 6)

/-- `ieee80211_amsdu_prepare_head` -/
def amsduPrepareHead (call : AmsduCall) (fast : FastTx) (head : QueuedSkb) : QueuedSkb × Bool :=
  if head.rateCtrlProbe then (head, false)
  else if head.amsdu then (head, true)
  else if !call.headPadded then (head, false)
  else
    ({ head with
        data := outerHeader call.sdata fast (withSubframeHeader fast head), amsdu := true }, true)

/-! ## The new frame -/

/-- `pad` -/
def amsduPad (len : Nat) : Nat := if len % 4 != 0 then 4 - len % 4 else 0

/-- The sub-frame that is made of a frame: the padding of the one before, the addresses, the
length and the LLC/SNAP header. -/
def asSubframe (skb : TxSkb) (pad : Nat) : List UInt8 :=
  List.replicate pad 0 ++ (skb.bytes.take 12 ++ be16Bytes (skb.bytes.length - 6) ++
    rfc1042Header ++ skb.bytes.drop 12)

/-- The head with a frame behind it, if there is memory for the frame. -/
def appendTo (call : AmsduCall) (fast : FastTx) (head : QueuedSkb) (skb : TxSkb) :
    QueuedSkb × Bool :=
  if !call.skbPadded then (head, false)
  else
    let pad := amsduPad (head.len - fast.machdrLen)
    ({ head with fragList := head.fragList ++ [(asSubframe skb pad, skb.nrFrags)] }, true)

/-- `ieee80211_amsdu_aggregate` once the tail of the flow is found. -/
def aggregateInto (call : AmsduCall) (fast : FastTx) (head : QueuedSkb) (skb : TxSkb) :
    QueuedSkb × Bool :=
  let n := 2 + head.fragList.length
  let nfrags := 1 + skb.nrFrags + (1 + head.nrFrags) + (head.fragList.map fun p => 1 + p.2).sum
  if head.isGso then (head, false)
  else if skb.bytes.length + head.len > call.limit (skb.priority % 8) then (head, false)
  else if !call.canAggregate then (head, false)
  else if call.maxAmsduSubframes != 0 && decide (call.maxAmsduSubframes.toNat < n) then
    (head, false)
  else if call.maxTxFragments != 0 && decide (call.maxTxFragments < nfrags) then (head, false)
  else if !call.canAggregateStill then (head, false)
  else
    match amsduPrepareHead call fast head with
    | (head, false) => (head, false)
    | (head, true) => appendTo call fast head skb

/-- `ieee80211_amsdu_aggregate`, for the flow of the frame. -/
def amsduAggregate (call : AmsduCall) (fast : FastTx) (flow : TxFlow) (skb : TxSkb) :
    TxFlow × Bool :=
  if !call.txAmsdu then (flow, false)
  else if skb.isGso then (flow, false)
  else
    match call.txq (skb.priority % 8) with
    | none => (flow, false)
    | some noAmsdu =>
        if noAmsdu then (flow, false)
        else
          match flow.queue.getLast? with
          | none => (flow, false)
          | some head =>
              let (grown, ret) := aggregateInto call fast head skb
              (⟨flow.queue.dropLast ++ [grown], flow.backlog + (grown.len - head.len)⟩, ret)

/-- A call that may aggregate, on the open interface. -/
def openCall : AmsduCall :=
  ⟨true, 0, 3839, 0, fun _ => 0, 2, fun _ => some false, openStation, true, true, true, true⟩

end Iwlwifi.Xmit
