import Iwlwifi.Pcie.Queue
import Iwlwifi.Lib.Run

/-!
# Data Tx queues

A data queue keeps, for each entry of its window, the frame that the device is sending, and
an overflow queue of the frames for which there was no room on the ring.
`iwl_trans_pcie_tx` and `iwl_trans_pcie_gen2_tx` put a frame on the ring or on the overflow
queue; `iwl_trans_pcie_reclaim` takes the sent frames off the ring and, when there is room
again, transmits the overflow queue.

The descriptors, the DMA mappings and the watchdog of a queue do not decide where a frame
is kept: what a transmission meets outside the queue is a `TxEnv`.
-/

namespace Iwlwifi

/-- The queue sizes, and whether the device has the descriptors of the second generation. -/
structure TransConfig where
  sizes : QueueSizes
  gen2 : Bool

/-- `struct iwl_txq`, with the bits of `queue_used` and `queue_stopped` for it.  A slot of
`entries` from `nWindow` on lies outside the array. -/
structure Txq (Skb : Type) where
  readPtr : Nat
  writePtr : Nat
  entries : Nat → Option Skb
  overflowQ : List Skb
  queueUsed : Bool
  queueStopped : Bool

/-- What a transmission meets: a firmware that is alive, a header that the checksum can be
written to, a frame that can be linearized where it must be, and a descriptor that can be
built for it. -/
structure TxEnv where
  alive : Bool
  csumWritable : Bool
  linearized : Bool
  built : Bool
deriving DecidableEq

/-- The return value and the queue after a transmission; `onRing` says whether the frame
was put on the ring. -/
structure TxResult (Skb : Type) where
  ret : Int
  txq : Txq Skb
  onRing : Bool

variable {Skb : Type}

def iwlStopQueue (txq : Txq Skb) : Txq Skb := { txq with queueStopped := true }

def iwlWakeQueue (txq : Txq Skb) : Txq Skb := { txq with queueStopped := false }

/-- The part of a transmission under the queue's lock, the same in both generations but for
the entry that the frame is put in. -/
def txLocked (q : QueueSizes) (slot : Nat → Nat) (txq : Txq Skb) (skb : Skb) (built : Bool) :
    TxResult Skb :=
  let space := iwlQueueSpace q txq.readPtr txq.writePtr
  let txq := if space < highMark q then iwlStopQueue txq else txq
  if space < highMark q ∧ space < 3 then
    ⟨0, { txq with overflowQ := txq.overflowQ ++ [skb] }, false⟩
  else
    let txq := { txq with entries := Function.update txq.entries (slot txq.writePtr) (some skb) }
    if built then ⟨0, { txq with writePtr := iwlQueueIncWrap q txq.writePtr }, true⟩
    else ⟨-1, txq, false⟩

/-- `iwl_trans_pcie_tx` indexes the entries by the write pointer itself. -/
def iwlTransPcieTx (q : QueueSizes) (txq : Txq Skb) (skb : Skb) (env : TxEnv) :
    TxResult Skb :=
  if !txq.queueUsed then ⟨-22, txq, false⟩
  else if !env.csumWritable then ⟨-1, txq, false⟩
  else if !env.linearized then ⟨-12, txq, false⟩
  else txLocked q (fun writePtr => writePtr) txq skb env.built

def iwlTransPcieGen2Tx (q : QueueSizes) (txq : Txq Skb) (skb : Skb) (env : TxEnv) :
    TxResult Skb :=
  if !txq.queueUsed then ⟨-22, txq, false⟩
  else if !env.linearized then ⟨-12, txq, false⟩
  else txLocked q (iwlPcieGetCmdIndex q) txq skb env.built

/-- `iwl_trans_tx`, which refuses the frame when the firmware is not alive. -/
def iwlTransTx (c : TransConfig) (txq : Txq Skb) (skb : Skb) (env : TxEnv) : TxResult Skb :=
  if !env.alive then ⟨-5, txq, false⟩
  else if c.gen2 then iwlTransPcieGen2Tx c.sizes txq skb env
  else iwlTransPcieTx c.sizes txq skb env

/-- The loop of `iwl_trans_pcie_reclaim`: the frames of the entries up to `tfd_num` are
queued to `skbs`.  An entry without a frame is passed over. -/
def reclaimEntries (q : QueueSizes) (tfdNum : Nat) :
    Nat → Txq Skb → List Skb → Txq Skb × List Skb
  | 0, txq, skbs => (txq, skbs)
  | fuel + 1, txq, skbs =>
      let readPtr := iwlPcieGetCmdIndex q txq.readPtr
      if readPtr = tfdNum then (txq, skbs)
      else
        let next := iwlQueueIncWrap q txq.readPtr
        match txq.entries readPtr with
        | none => reclaimEntries q tfdNum fuel { txq with readPtr := next } skbs
        | some skb =>
            reclaimEntries q tfdNum fuel
              { txq with
                readPtr := next
                entries := Function.update txq.entries readPtr none }
              (skbs ++ [skb])

/-- The frames of the spliced overflow queue are transmitted one after the other; the
return values are not looked at.  The second component lists those put on the ring. -/
def txOverflow (c : TransConfig) (env : Skb → TxEnv) (txq : Txq Skb) :
    List Skb → Txq Skb × List Skb
  | [] => (txq, [])
  | skb :: rest =>
      let sent := iwlTransTx c txq skb (env skb)
      let (txq, onRing) := txOverflow c env sent.txq rest
      (txq, (if sent.onRing then [skb] else []) ++ onRing)

/-- The end of `iwl_trans_pcie_reclaim`: with room again on a stopped queue, the overflow
queue is transmitted, and the queue woken unless it has filled up again. -/
def restartOverflow (c : TransConfig) (env : Skb → TxEnv) (txq : Txq Skb) :
    Txq Skb × List Skb :=
  if iwlQueueSpace c.sizes txq.readPtr txq.writePtr > lowMark c.sizes ∧ txq.queueStopped then
    let overflowSkbs := txq.overflowQ
    let (txq, onRing) := txOverflow c env { txq with overflowQ := [] } overflowSkbs
    if iwlQueueSpace c.sizes txq.readPtr txq.writePtr > lowMark c.sizes then
      (iwlWakeQueue txq, onRing)
    else (txq, onRing)
  else (txq, [])

/-- The queue after a reclaim, the frames queued to `skbs`, and those of the overflow queue
that were put on the ring. -/
structure ReclaimResult (Skb : Type) where
  txq : Txq Skb
  skbs : List Skb
  onRing : List Skb

/-- `iwl_trans_pcie_reclaim` of a data queue. -/
def iwlTransPcieReclaim (c : TransConfig) (txq : Txq Skb) (ssn : Nat) (skbs : List Skb)
    (env : Skb → TxEnv) : ReclaimResult Skb :=
  let tfdNum := iwlPcieGetCmdIndex c.sizes ssn
  let readPtr := iwlPcieGetCmdIndex c.sizes txq.readPtr
  if !txq.queueUsed then ⟨txq, skbs, []⟩
  else if readPtr = tfdNum then ⟨txq, skbs, []⟩
  else
    let lastToFree := iwlQueueDecWrap c.sizes tfdNum
    if !iwlQueueUsed c.sizes txq.readPtr txq.writePtr lastToFree then ⟨txq, skbs, []⟩
    else if !skbs.isEmpty then ⟨txq, skbs, []⟩
    else
      let (txq, skbs) := reclaimEntries c.sizes tfdNum c.sizes.nWindow txq skbs
      let (txq, onRing) := restartOverflow c env txq
      ⟨txq, skbs, onRing⟩

/-- `iwl_trans_pcie_set_q_ptrs`. -/
def iwlTransPcieSetQPtrs (txq : Txq Skb) (ptr : Nat) : Txq Skb :=
  { txq with readPtr := ptr, writePtr := ptr }

/-! ## Runs -/

/-- A queue with the frames that were accepted from outside, put on the ring and reclaimed
so far. -/
structure TxRun (Skb : Type) where
  txq : Txq Skb
  accepted : List Skb
  entered : List Skb
  reclaimed : List Skb

/-- What can happen to a data queue: a transmission, a reclaim with an empty list of frames,
and new pointers. -/
inductive TxEvent (Skb : Type)
  | tx (skb : Skb) (env : TxEnv)
  | reclaim (ssn : Nat) (env : Skb → TxEnv)
  | setQPtrs (ptr : Nat)

/-- A queue after `iwl_queue_init`. -/
def Txq.init (queueUsed : Bool) : Txq Skb where
  readPtr := 0
  writePtr := 0
  entries := fun _ => none
  overflowQ := []
  queueUsed := queueUsed
  queueStopped := false

def TxRun.init (queueUsed : Bool) : TxRun Skb := ⟨.init queueUsed, [], [], []⟩

def TxRun.tx (c : TransConfig) (s : TxRun Skb) (skb : Skb) (env : TxEnv) : TxRun Skb :=
  let sent := iwlTransTx c s.txq skb env
  { s with
    txq := sent.txq
    accepted := s.accepted ++ if sent.ret = 0 then [skb] else []
    entered := s.entered ++ if sent.onRing then [skb] else [] }

def TxRun.reclaim (c : TransConfig) (s : TxRun Skb) (ssn : Nat) (env : Skb → TxEnv) :
    TxRun Skb :=
  let freed := iwlTransPcieReclaim c s.txq ssn [] env
  { s with
    txq := freed.txq
    entered := s.entered ++ freed.onRing
    reclaimed := s.reclaimed ++ freed.skbs }

def txStep (c : TransConfig) (s : TxRun Skb) : TxEvent Skb → TxRun Skb
  | .tx skb env => s.tx c skb env
  | .reclaim ssn env => s.reclaim c ssn env
  | .setQPtrs ptr => { s with txq := iwlTransPcieSetQPtrs s.txq ptr }

/-! ## What a transmission does -/

/-- There is no room on the ring: the frame goes on the overflow queue. -/
def QueueFull (q : QueueSizes) (txq : Txq Skb) : Prop :=
  iwlQueueSpace q txq.readPtr txq.writePtr < highMark q ∧
    iwlQueueSpace q txq.readPtr txq.writePtr < 3

/-- The entry that a frame is put in. -/
def TransConfig.slot (c : TransConfig) (writePtr : Nat) : Nat :=
  if c.gen2 then iwlPcieGetCmdIndex c.sizes writePtr else writePtr

/-- The frame is not refused before the queue is looked at. -/
def TxEnv.Sendable (c : TransConfig) (env : TxEnv) : Prop :=
  env.alive ∧ env.linearized ∧ (env.csumWritable ∨ c.gen2)

/-- The queue is marked as stopped when its space falls below the high mark. -/
def markStopped (q : QueueSizes) (txq : Txq Skb) : Bool :=
  txq.queueStopped || decide (iwlQueueSpace q txq.readPtr txq.writePtr < highMark q)

/-- The four ends of a transmission. -/
inductive TxOutcome (c : TransConfig) (txq : Txq Skb) (skb : Skb) (env : TxEnv) :
    TxResult Skb → Prop
  | refused (ret : Int) (failed : ret < 0) (reason : ¬(txq.queueUsed ∧ env.Sendable c)) :
      TxOutcome c txq skb env ⟨ret, txq, false⟩
  | overflowed (full : QueueFull c.sizes txq) :
      TxOutcome c txq skb env
        ⟨0, { txq with overflowQ := txq.overflowQ ++ [skb], queueStopped := true }, false⟩
  | unbuilt (room : ¬QueueFull c.sizes txq) (reason : env.built = false) :
      TxOutcome c txq skb env
        ⟨-1, { txq with
                entries := Function.update txq.entries (c.slot txq.writePtr) (some skb)
                queueStopped := markStopped c.sizes txq }, false⟩
  | placed (room : ¬QueueFull c.sizes txq) :
      TxOutcome c txq skb env
        ⟨0, { txq with
                entries := Function.update txq.entries (c.slot txq.writePtr) (some skb)
                writePtr := iwlQueueIncWrap c.sizes txq.writePtr
                queueStopped := markStopped c.sizes txq }, true⟩

variable {c : TransConfig} {txq : Txq Skb} {skb : Skb} {env : TxEnv}

theorem txLocked_outcome (slot : Nat → Nat) (entry : slot txq.writePtr = c.slot txq.writePtr) :
    TxOutcome c txq skb env (txLocked c.sizes slot txq skb env.built) := by
  unfold txLocked
  by_cases low : iwlQueueSpace c.sizes txq.readPtr txq.writePtr < highMark c.sizes
  · have stopped : markStopped c.sizes txq = true := by simp [markStopped, low]
    simp only [low, if_true, true_and, iwlStopQueue, entry]
    split
    · exact .overflowed ⟨low, ‹_›⟩
    · have room : ¬QueueFull c.sizes txq := fun full => ‹¬_› full.2
      cases built : env.built with
      | false => simpa [stopped] using @TxOutcome.unbuilt _ c txq skb env room built
      | true => simpa [stopped] using @TxOutcome.placed _ c txq skb env room
  · have stopped : markStopped c.sizes txq = txq.queueStopped := by simp [markStopped, low]
    have room : ¬QueueFull c.sizes txq := fun full => low full.1
    simp only [low, if_false, false_and, entry]
    cases built : env.built with
    | false => simpa [stopped] using @TxOutcome.unbuilt _ c txq skb env room built
    | true => simpa [stopped] using @TxOutcome.placed _ c txq skb env room

theorem iwlTransTx_outcome (c : TransConfig) (txq : Txq Skb) (skb : Skb) (env : TxEnv) :
    TxOutcome c txq skb env (iwlTransTx c txq skb env) := by
  unfold iwlTransTx
  split
  · exact .refused _ (by decide) (by simp_all [TxEnv.Sendable])
  · split
    · unfold iwlTransPcieGen2Tx
      split
      · exact .refused _ (by decide) (by simp_all)
      · split
        · exact .refused _ (by decide) (by simp_all [TxEnv.Sendable])
        · exact txLocked_outcome _ (by simp_all [TransConfig.slot])
    · unfold iwlTransPcieTx
      split
      · exact .refused _ (by decide) (by simp_all)
      · split
        · exact .refused _ (by decide) (by simp_all [TxEnv.Sendable])
        · split
          · exact .refused _ (by decide) (by simp_all [TxEnv.Sendable])
          · exact txLocked_outcome _ (by simp_all [TransConfig.slot])

end Iwlwifi
