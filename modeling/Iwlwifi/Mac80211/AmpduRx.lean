import Mathlib.Data.Nat.Basic
import Mathlib.Logic.Function.Basic
import Iwlwifi.Ieee80211

/-!
# The receive reorder buffer of mac80211

`ieee80211_sta_manage_reorder_buf` of `net/mac80211/rx.c` and what it calls, and the session
that `___ieee80211_start_rx_ba_session` of `agg-rx.c` installs.  The frames that one
`ieee80211_release_reorder_frame` moves to the `frames` list are kept together, as the batch they
leave in.  `jiffies` is a clock that does not wrap, `stored_mpdu_num` is a natural number.
-/

namespace Iwlwifi

open Function (update)

/-- A QoS data frame of the session: its sequence number and `RX_FLAG_AMSDU_MORE`. -/
structure AmpduSkb where
  sn : Nat
  amsduMore : Bool
  sn_lt : sn < 4096
  deriving DecidableEq

/-- `struct tid_ampdu_rx` -/
structure TidAmpduRx where
  reorderBuf : Nat → List AmpduSkb
  reorderBufFiltered : Nat → Bool
  reorderTime : Nat → Nat
  /-- When `reorder_timer` expires, while it is pending. -/
  reorderTimer : Option Nat
  headSeqNum : Nat
  storedMpduNum : Nat
  ssn : Nat
  bufSize : Nat
  autoSeq : Bool
  removed : Bool
  started : Bool

/-! ## Starting a session -/

/-- What the request's parameters are checked against. -/
structure BaStation where
  htSupported : Bool
  blockBa : Bool
  hasHe : Bool
  delayBa : Bool
  maxRxAggregationSubframes : Nat
  supportsReorderingBuffer : Bool
  /-- The dialog token of a session that is valid on the TID. -/
  tidRxToken : Option Nat
  drvAmpduAction : Bool

structure BaRequest where
  tid : Nat
  dialogToken : Nat
  startSeqNum : Nat
  baPolicy : Nat
  bufSize : Nat
  autoSeq : Bool

/-- `IEEE80211_MAX_AMPDU_BUF` and `IEEE80211_MAX_AMPDU_BUF_HT` -/
def maxAmpduBuf (hasHe : Bool) : Nat := if hasHe then 0x100 else 0x40

namespace TidAmpduRx

/-- A session as it is installed. -/
def install (startSeqNum bufSize : Nat) (autoSeq : Bool) : TidAmpduRx where
  reorderBuf _ := []
  reorderBufFiltered _ := false
  reorderTime _ := 0
  reorderTimer := none
  headSeqNum := startSeqNum
  storedMpduNum := 0
  ssn := startSeqNum
  bufSize := bufSize
  autoSeq := autoSeq
  removed := false
  started := false

/-- `___ieee80211_start_rx_ba_session`, when it installs a session. -/
def startRxBaSession (sta : BaStation) (req : BaRequest) : Option TidAmpduRx :=
  if 8 ≤ req.tid then none
  else if ¬ sta.htSupported then none
  else if sta.blockBa then none
  else if (req.baPolicy ≠ 1 ∧ ¬ sta.delayBa) ∨ maxAmpduBuf sta.hasHe < req.bufSize then none
  else
    let bufSize := if req.bufSize = 0 then maxAmpduBuf sta.hasHe else req.bufSize
    let bufSize :=
      if sta.maxRxAggregationSubframes < bufSize then sta.maxRxAggregationSubframes else bufSize
    if sta.tidRxToken = some req.dialogToken then none
    else if sta.supportsReorderingBuffer then none
    else if ¬ sta.drvAmpduAction then none
    else some (install req.startSeqNum bufSize req.autoSeq)

/-! ## Releasing -/

/-- The last frame that was queued has no more sub-frames to come. -/
def complete (frames : List AmpduSkb) : Bool :=
  match frames.getLast? with
  | none => false
  | some tail => !tail.amsduMore

/-- `ieee80211_rx_reorder_ready` -/
def reorderReady (rx : TidAmpduRx) (index : Nat) : Bool :=
  rx.reorderBufFiltered index || complete (rx.reorderBuf index)

/-- The label `no_frame`: the slot is done with and the head moves on. -/
def noFrame (rx : TidAmpduRx) (index : Nat) : TidAmpduRx :=
  { rx with
    reorderBufFiltered := update rx.reorderBufFiltered index false
    headSeqNum := ieee80211SnInc rx.headSeqNum }

/-- `ieee80211_release_reorder_frame`: incomplete A-MSDUs are purged. -/
def releaseReorderFrame (rx : TidAmpduRx) (index : Nat) : TidAmpduRx × List (List AmpduSkb) :=
  if rx.reorderBuf index = [] then (rx.noFrame index, [])
  else if ¬ rx.reorderReady index then
    (noFrame { rx with reorderBuf := update rx.reorderBuf index [] } index, [])
  else
    (noFrame { rx with
        reorderBuf := update rx.reorderBuf index []
        storedMpduNum := rx.storedMpduNum - 1 } index,
      [rx.reorderBuf index])

/-- The passes of `ieee80211_release_reorder_frames`. -/
def releaseUpTo (headSeqNum : Nat) : Nat → TidAmpduRx → TidAmpduRx × List (List AmpduSkb)
  | 0, rx => (rx, [])
  | fuel + 1, rx =>
      if ieee80211SnLess rx.headSeqNum headSeqNum then
        let (rx, frames) := rx.releaseReorderFrame (rx.headSeqNum % rx.bufSize)
        let (rx, rest) := releaseUpTo headSeqNum fuel rx
        (rx, frames ++ rest)
      else (rx, [])

/-- `ieee80211_release_reorder_frames`; the head is never more than 2048 behind the new one. -/
def releaseReorderFrames (rx : TidAmpduRx) (headSeqNum : Nat) :
    TidAmpduRx × List (List AmpduSkb) :=
  releaseUpTo headSeqNum 2048 rx

/-- `HT_RX_REORDER_BUF_TIMEOUT` -/
def htRxReorderBufTimeout (hz : Nat) : Nat := hz / 10

/-- The frame completed in the slot has waited for longer than the time-out. -/
def timedOut (rx : TidAmpduRx) (hz jiffies index : Nat) : Bool :=
  rx.reorderTime index + htRxReorderBufTimeout hz < jiffies

/-- The loop over `i` from `index + 1` up to `j` that purges what the slots in between hold. -/
def purgeBetween (rx : TidAmpduRx) (j : Nat) : Nat → Nat → TidAmpduRx
  | 0, _ => rx
  | fuel + 1, i =>
      if i = j then rx
      else purgeBetween { rx with reorderBuf := update rx.reorderBuf i [] } j fuel
        ((i + 1) % rx.bufSize)

/-- `set_release_timer`: wait for the frame in slot `j`. -/
def setReleaseTimer (rx : TidAmpduRx) (hz j : Nat) : TidAmpduRx :=
  if rx.removed then rx
  else { rx with reorderTimer := some (rx.reorderTime j + 1 + htRxReorderBufTimeout hz) }

/-- How the search for timed-out frames ends. -/
inductive Scan
  | exhausted
  | setTimer (j : Nat)

/-- The loop of `ieee80211_sta_reorder_release` over `j`, which looks for frames that have timed
out and releases them, with everything in between given up.  `skipped` counts the slots passed
over since the head last moved. -/
def releaseTimedOut (hz jiffies index : Nat) :
    Nat → Nat → Nat → TidAmpduRx → TidAmpduRx × List (List AmpduSkb) × Scan
  | 0, _, _, rx => (rx, [], .exhausted)
  | fuel + 1, j, skipped, rx =>
      if j = index then (rx, [], .exhausted)
      else if ¬ rx.reorderReady j then
        releaseTimedOut hz jiffies index fuel ((j + 1) % rx.bufSize) (skipped + 1) rx
      else if skipped ≠ 0 ∧ ¬ rx.timedOut hz jiffies j then (rx, [], .setTimer j)
      else
        let rx := rx.purgeBetween j rx.bufSize ((index + 1) % rx.bufSize)
        let (rx, frames) := rx.releaseReorderFrame j
        let rx := { rx with headSeqNum := (rx.headSeqNum + skipped) % 4096 }
        let (rx, rest, scan) :=
          releaseTimedOut hz jiffies index fuel ((j + 1) % rx.bufSize) 0 rx
        (rx, frames ++ rest, scan)

/-- The loop that releases from the head on until a slot is not ready. -/
def releaseReady : Nat → TidAmpduRx → TidAmpduRx × List (List AmpduSkb)
  | 0, rx => (rx, [])
  | fuel + 1, rx =>
      let index := rx.headSeqNum % rx.bufSize
      if rx.reorderReady index then
        let (rx, frames) := rx.releaseReorderFrame index
        let (rx, rest) := releaseReady fuel rx
        (rx, frames ++ rest)
      else (rx, [])

/-- The slot whose frame the timer is set for: the first one that is ready, but the slot before
the head's is not looked at.  In C `(index - 1) % buf_size` is -1 for slot 0 of several. -/
def timerSlot (rx : TidAmpduRx) (index : Nat) : Nat → Nat → Nat
  | 0, j => j
  | fuel + 1, j =>
      if (j : Int) = ((index : Int) - 1).tmod rx.bufSize then j
      else if rx.reorderReady j then j
      else timerSlot rx index fuel ((j + 1) % rx.bufSize)

/-- What follows the releases: the timer waits for the first complete frame, if there is one. -/
def updateReleaseTimer (rx : TidAmpduRx) (hz : Nat) : TidAmpduRx :=
  if rx.storedMpduNum ≠ 0 then
    let index := rx.headSeqNum % rx.bufSize
    rx.setReleaseTimer hz (rx.timerSlot index rx.bufSize index)
  else { rx with reorderTimer := none }

/-- The end of the search: its own timer, or the one for the first complete frame. -/
def afterScan (rx : TidAmpduRx) (hz : Nat) : Scan → TidAmpduRx
  | .setTimer j => rx.setReleaseTimer hz j
  | .exhausted => rx.updateReleaseTimer hz

/-- `ieee80211_sta_reorder_release` -/
def staReorderRelease (rx : TidAmpduRx) (hz jiffies : Nat) :
    TidAmpduRx × List (List AmpduSkb) :=
  let index := rx.headSeqNum % rx.bufSize
  if ¬ rx.reorderReady index ∧ rx.storedMpduNum ≠ 0 then
    let found := releaseTimedOut hz jiffies index rx.bufSize ((index + 1) % rx.bufSize) 1 rx
    (found.1.afterScan hz found.2.2, found.2.1)
  else
    let found := releaseReady (rx.bufSize + 1) rx
    (found.1.updateReleaseTimer hz, found.2)

/-! ## Received frames -/

/-- Offloaded sessions take their first sequence number from the first frame. -/
def pickSsn (rx : TidAmpduRx) (sn : Nat) : TidAmpduRx :=
  if rx.autoSeq then { rx with autoSeq := false, ssn := sn, headSeqNum := sn } else rx

/-- Room for a frame beyond the window is made by moving the window up to it. -/
def makeRoom (rx : TidAmpduRx) (sn : Nat) : TidAmpduRx × List (List AmpduSkb) :=
  if ¬ ieee80211SnLess sn (rx.headSeqNum + rx.bufSize) then
    rx.releaseReorderFrames (ieee80211SnInc (ieee80211SnSub sn rx.bufSize))
  else (rx, [])

/-- The frame is now in range of the buffer: dropped, passed on directly or put into its slot.
A frame that is passed on follows what was released. -/
def acceptFrame (rx : TidAmpduRx) (hz jiffies : Nat) (skb : AmpduSkb) :
    TidAmpduRx × List (List AmpduSkb) :=
  let index := skb.sn % rx.bufSize
  if rx.reorderReady index then (rx, [])
  else if skb.sn = rx.headSeqNum ∧ rx.storedMpduNum = 0 then
    if skb.amsduMore then (rx, [[skb]])
    else ({ rx with headSeqNum := ieee80211SnInc rx.headSeqNum }, [[skb]])
  else
    let rx := { rx with
      reorderBuf := update rx.reorderBuf index (rx.reorderBuf index ++ [skb]) }
    if skb.amsduMore then (rx, [])
    else
      staReorderRelease
        { rx with
          reorderTime := update rx.reorderTime index jiffies
          storedMpduNum := rx.storedMpduNum + 1 } hz jiffies

/-- `ieee80211_sta_manage_reorder_buf`, from the frame's sequence number on.  A frame before the
start of the session is not reordered: it is the `none` case, in which the caller processes it
at once. -/
def staManageReorderBuf (rx : TidAmpduRx) (hz jiffies : Nat) (skb : AmpduSkb) :
    TidAmpduRx × Option (List (List AmpduSkb)) :=
  let rx := rx.pickSsn skb.sn
  if ¬ rx.started ∧ ieee80211SnLess skb.sn rx.headSeqNum then (rx, none)
  else
    let rx := { rx with started := true }
    if ieee80211SnLess skb.sn rx.headSeqNum then (rx, some [])
    else
      let room := rx.makeRoom skb.sn
      let accepted := room.1.acceptFrame hz jiffies skb
      (accepted.1, some (room.2 ++ accepted.2))

/-! ## Events -/

/-- What happens to a session: a frame, a block-ack request, or its reorder timer. -/
inductive BaEvent
  | mpdu (jiffies : Nat) (skb : AmpduSkb)
  | backReq (startSeqControl : Nat)
  | timeout (jiffies : Nat)

/-- The session after an event and the batches released by it. -/
def step (hz : Nat) (rx : TidAmpduRx) : BaEvent → TidAmpduRx × List (List AmpduSkb)
  | .mpdu jiffies skb =>
      let managed := rx.staManageReorderBuf hz jiffies skb
      (managed.1, managed.2.getD [])
  | .backReq startSeqControl => rx.releaseReorderFrames (startSeqControl % 2 ^ 16 / 16)
  | .timeout jiffies => rx.staReorderRelease hz jiffies

end TidAmpduRx

end Iwlwifi
