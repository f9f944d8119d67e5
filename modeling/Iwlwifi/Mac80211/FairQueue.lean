import Mathlib.Data.Fintype.Sum
import Mathlib.Tactic.DeriveFintype
import Iwlwifi.Lib.Settle

/-!
# Fair queueing

`include/net/fq_impl.h`, in which mac80211 keeps the frames of its `txq`s.  A tin holds the flows of
one `txq`; a flow is one of the table or the `def_flow` of a tin.  Counters are natural numbers, of
which the limits see the low 32 bits; no backlog in bytes overflows while the limits are far below
2^32.  Deficits are 32-bit numbers, as any quantum can be set.  Statistics are left out.
`list_empty(&flow->flowchain)` is asked only for a flow that can be on the lists of one tin alone.
-/

namespace Iwlwifi.FairQueue

open Lib
open Function (update)

/-- What is read of an `skb`, and which one it is. -/
structure SkBuff where
  id : Nat
  len : Nat
  truesize : Nat
  len_pos : 0 < len

/-- A frame to which a sub-frame is added. -/
def SkBuff.grow (skb : SkBuff) (len truesize : Nat) : SkBuff :=
  { skb with
    len := skb.len + len
    truesize := skb.truesize + truesize
    len_pos := Nat.add_pos_left skb.len_pos len }

/-- An entry of `fq->flows`, or the `def_flow` that belongs to a tin. -/
inductive FlowId (n : Nat) (τ : Type)
  | hashed (idx : Fin n)
  | default (tin : τ)
  deriving DecidableEq, Fintype

/-- `struct fq_flow`.  The last two are what has come to the queue and what has left it. -/
structure FqFlow (τ : Type) where
  tin : Option τ
  queue : List SkBuff
  backlog : Nat
  deficit : Int32
  arrived : List Nat
  left : List Nat

/-- `struct fq_tin` -/
structure FqTin (n : Nat) (τ : Type) where
  newFlows : List (FlowId n τ)
  oldFlows : List (FlowId n τ)
  backlogBytes : Nat
  backlogPackets : Nat

def FqTin.chain {n : Nat} {τ : Type} (tin : FqTin n τ) : List (FlowId n τ) :=
  tin.newFlows ++ tin.oldFlows

/-- `struct fq`, with the tins that use it. -/
structure Fq (n : Nat) (τ : Type) where
  flows : FlowId n τ → FqFlow τ
  tins : τ → FqTin n τ
  backlogs : List (FlowId n τ)
  limit : Nat
  memoryLimit : Nat
  memoryUsage : Nat
  quantum : UInt32
  backlog : Nat

namespace Fq

variable {n : Nat} {τ : Type} [DecidableEq τ]

/-- The state after `fq_init` and `fq_tin_init`. -/
def init : Fq n τ where
  flows _ := ⟨none, [], 0, 0, [], []⟩
  tins _ := ⟨[], [], 0, 0⟩
  backlogs := []
  limit := 8192
  memoryLimit := 16777216
  memoryUsage := 0
  quantum := 300
  backlog := 0

/-- `ieee80211_txq_set_params`: a value of zero is one that is not given. -/
def txqSetParams (fq : Fq n τ) (limit memoryLimit : Nat) (quantum : UInt32) : Fq n τ :=
  { fq with
    limit := if limit = 0 then fq.limit else limit
    memoryLimit := if memoryLimit = 0 then fq.memoryLimit else memoryLimit
    quantum := if quantum = 0 then fq.quantum else quantum }

def onFlow (fq : Fq n τ) (f : FlowId n τ) (change : FqFlow τ → FqFlow τ) : Fq n τ :=
  { fq with flows := update fq.flows f (change (fq.flows f)) }

def onTin (fq : Fq n τ) : Option τ → (FqTin n τ → FqTin n τ) → Fq n τ
  | none, _ => fq
  | some t, change => { fq with tins := update fq.tins t (change (fq.tins t)) }

/-! ## Taking frames off -/

/-- `__skb_dequeue`, which leaves `queue`, and `fq_adjust_removal`. -/
def unlink (fq : Fq n τ) (f : FlowId n τ) (skb : SkBuff) (queue : List SkBuff) : Fq n τ :=
  let flow := fq.flows f
  { (fq.onTin flow.tin fun tin => { tin with
      backlogBytes := tin.backlogBytes - skb.len
      backlogPackets := tin.backlogPackets - 1 }) with
    flows := update fq.flows f { flow with
      queue := queue
      backlog := flow.backlog - skb.len
      left := flow.left ++ [skb.id] }
    backlog := fq.backlog - 1
    memoryUsage := fq.memoryUsage - skb.truesize }

/-- `fq_rejigger_backlog` -/
def rejiggerBacklog (fq : Fq n τ) (f : FlowId n τ) : Fq n τ :=
  { fq with
    backlogs := if (fq.flows f).backlog = 0 then fq.backlogs.erase f
      else settle (fun i => (fq.flows f).backlog ≤ (fq.flows i).backlog) f fq.backlogs }

/-- `fq_flow_dequeue` -/
def flowDequeue (fq : Fq n τ) (f : FlowId n τ) : Option SkBuff × Fq n τ :=
  match (fq.flows f).queue with
  | [] => (none, fq)
  | skb :: rest => (some skb, (fq.unlink f skb rest).rejiggerBacklog f)

/-- `fq_tin_dequeue_func`: CoDel drops as many frames as it wants to before the one that it
returns, if there are more. -/
def dequeueFunc (fq : Fq n τ) (f : FlowId n τ) : Nat → Option SkBuff × Fq n τ
  | 0 => fq.flowDequeue f
  | drops + 1 =>
      match fq.flowDequeue f with
      | (none, fq) => (none, fq)
      | (some _, fq) => fq.dequeueFunc f drops

/-- `list_move_tail(&flow->flowchain, &tin->old_flows)` -/
def moveToOld (fq : Fq n τ) (t : τ) (f : FlowId n τ) : Fq n τ :=
  fq.onTin (some t) fun tin => { tin with
    newFlows := tin.newFlows.erase f, oldFlows := tin.oldFlows.erase f ++ [f] }

/-- `list_del_init(&flow->flowchain)` and `flow->tin = NULL` -/
def unchain (fq : Fq n τ) (t : τ) (f : FlowId n τ) : Fq n τ :=
  (fq.onTin (some t) fun tin => { tin with
    newFlows := tin.newFlows.erase f, oldFlows := tin.oldFlows.erase f }).onFlow f
    fun flow => { flow with tin := none }

/-- `fq_tin_dequeue`: the outer `none` is a loop that has run out of fuel. -/
def tinDequeue (drops : FlowId n τ → Nat) (t : τ) :
    Nat → Fq n τ → Option (Option SkBuff) × Fq n τ
  | 0, fq => (none, fq)
  | fuel + 1, fq =>
      match (fq.tins t).chain with
      | [] => (some none, fq)
      | f :: _ =>
          if (fq.flows f).deficit ≤ 0 then
            tinDequeue drops t fuel ((fq.onFlow f fun flow =>
              { flow with deficit := flow.deficit + fq.quantum.toInt32 }).moveToOld t f)
          else
            match fq.dequeueFunc f (drops f) with
            | (some skb, fq) =>
                (some (some skb), fq.onFlow f fun flow =>
                  { flow with deficit := flow.deficit - .ofNat skb.len })
            | (none, fq) =>
                -- force a pass through old_flows to prevent starvation
                if (fq.tins t).newFlows ≠ [] ∧ (fq.tins t).oldFlows ≠ [] then
                  tinDequeue drops t fuel (fq.moveToOld t f)
                else tinDequeue drops t fuel (fq.unchain t f)

/-! ## Putting frames in -/

/-- `fq_flow_classify` -/
def flowClassify (fq : Fq n τ) (t : τ) (idx : Fin n) : FlowId n τ :=
  if (fq.flows (.hashed idx)).tin.any (· != t) then .default t else .hashed idx

/-- `fq_recalc_backlog` -/
def recalcBacklog (fq : Fq n τ) (f : FlowId n τ) : Fq n τ :=
  { fq with
    backlogs := (settle (fun i => (fq.flows i).backlog ≤ (fq.flows f).backlog) f
      (if f ∈ fq.backlogs then fq.backlogs else fq.backlogs ++ [f]).reverse).reverse }

/-- What `fq_tin_enqueue` adds to the counters and lists for a frame of the flow. -/
def accept (fq : Fq n τ) (t : τ) (f : FlowId n τ) (skb : SkBuff) : Fq n τ :=
  let flow := fq.flows f
  let chained := decide (f ∈ (fq.tins t).chain)
  { (fq.onTin (some t) fun tin => { tin with
      backlogBytes := tin.backlogBytes + skb.len
      backlogPackets := tin.backlogPackets + 1
      newFlows := if chained then tin.newFlows else tin.newFlows ++ [f] }) with
    flows := update fq.flows f { flow with
      tin := some t
      queue := flow.queue ++ [skb]
      backlog := flow.backlog + skb.len
      deficit := if chained then flow.deficit else fq.quantum.toInt32
      arrived := flow.arrived ++ [skb.id] }
    backlog := fq.backlog + 1
    memoryUsage := fq.memoryUsage + skb.truesize }

/-- The loop of `fq_tin_enqueue`, in which a turn takes a frame off. -/
def dropFat : Nat → Bool → Fq n τ → Fq n τ
  | 0, _, fq => fq
  | fuel + 1, oom, fq =>
      if fq.limit < fq.backlog % 2 ^ 32 ∨ oom = true then
        match fq.backlogs with
        | [] => fq
        | f :: _ =>
            match fq.flowDequeue f with
            | (none, fq) => fq
            | (some _, fq) =>
                dropFat fuel (oom && decide (fq.memoryLimit < fq.memoryUsage % 2 ^ 32)) fq
      else fq

/-- `fq_tin_enqueue` -/
def tinEnqueue (fq : Fq n τ) (t : τ) (idx : Fin n) (skb : SkBuff) : Fq n τ :=
  let f := fq.flowClassify t idx
  let fq := (fq.accept t f skb).recalcBacklog f
  dropFat (fq.backlog + 1) (decide (fq.memoryLimit < fq.memoryUsage % 2 ^ 32)) fq

/-- The last frame of a flow of `t` grows. -/
def growTail (fq : Fq n τ) (t : τ) (f : FlowId n τ) (head : SkBuff) (len truesize : Nat) : Fq n τ :=
  let flow := fq.flows f
  { (fq.onTin (some t) fun tin => { tin with backlogBytes := tin.backlogBytes + len }) with
    flows := update fq.flows f { flow with
      queue := flow.queue.dropLast ++ [head.grow len truesize]
      backlog := flow.backlog + len }
    memoryUsage := fq.memoryUsage + truesize }

/-- What `ieee80211_amsdu_aggregate` does to the queues, by the growth of the last frame. -/
def amsduAggregate (fq : Fq n τ) (t : τ) (idx : Fin n) (len truesize : Nat) : Fq n τ :=
  let f := fq.flowClassify t idx
  match (fq.flows f).queue.getLast? with
  | none => fq
  | some head =>
      let fq := fq.growTail t f head len truesize
      if len = 0 then fq else fq.recalcBacklog f

/-! ## Resets -/

/-- `fq_flow_reset` -/
def flowReset (t : τ) (fq : Fq n τ) (f : FlowId n τ) : Fq n τ :=
  let fq := (fq.dequeueFunc f (fq.flows f).queue.length).2
  { fq with backlogs := fq.backlogs.erase f }.unchain t f

/-- `fq_tin_reset`: each turn resets the first flow, which takes it off its list. -/
def tinReset (fq : Fq n τ) (t : τ) : Fq n τ := (fq.tins t).chain.foldl (flowReset t) fq

/-! ## Runs -/

/-- What happens to the queues, under `fq->lock`. -/
inductive Event (n : Nat) (τ : Type)
  | enqueue (t : τ) (idx : Fin n) (skb : SkBuff)
  | amsduAggregate (t : τ) (idx : Fin n) (len truesize : Nat)
  | dequeue (t : τ) (drops : FlowId n τ → Nat) (fuel : Nat)
  | reset (t : τ)
  | setParams (limit memoryLimit : Nat) (quantum : UInt32)

def step (fq : Fq n τ) : Event n τ → Fq n τ
  | .enqueue t idx skb => fq.tinEnqueue t idx skb
  | .amsduAggregate t idx len truesize => fq.amsduAggregate t idx len truesize
  | .dequeue t drops fuel => (tinDequeue drops t fuel fq).2
  | .reset t => fq.tinReset t
  | .setParams limit memory quantum => fq.txqSetParams limit memory quantum

end Fq

end Iwlwifi.FairQueue
