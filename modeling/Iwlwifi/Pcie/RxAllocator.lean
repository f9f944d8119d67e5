import Iwlwifi.Lib.Run
import Iwlwifi.Lib.Tally

/-!
# Rx buffer descriptors

Rx buffer descriptors circulate between the hardware rings, the `rx_free` and `rx_used`
lists of the queues and the two lists of the background allocator.  A queue that gives
pages to the stack keeps the empty descriptors on `rx_used`, moves them to the allocator in
batches, posts a request for every eight of them and claims eight allocated ones for a
request.

The handlers of the queues and the work of the allocator run at the same time.  A step is
one access to what they share: a list under the lock of the allocator, an atomic counter,
or the hardware rings; what a handler does to its own queue belongs to a neighbouring
step.  A descriptor is a member of one list at a time, and carries its page with it.
-/

namespace Iwlwifi

open Lib

/-- `RX_POST_REQ_ALLOC` and `RX_CLAIM_REQ_ALLOC`. -/
def rxPostReqAlloc : Nat := 2

def rxClaimReqAlloc : Nat := 8

/-- `struct iwl_rx_mem_buffer`: its `vid`, and whether a page is attached. -/
structure RxMemBuffer where
  vid : Nat
  page : Bool
deriving DecidableEq

/-- `struct iwl_rb_allocator`. -/
structure RbAllocator where
  reqPending : Nat
  reqReady : Nat
  rbdAllocated : List RxMemBuffer
  rbdEmpty : List RxMemBuffer

/-- What the handlers and the work share: the allocator, and the descriptors that are on the
hardware rings. -/
structure RxShared where
  rba : RbAllocator
  hw : List RxMemBuffer

/-! ## The handler of a queue -/

/-- Who called `iwl_pcie_rxq_alloc_rbs` and `iwl_pcie_rxq_restock`: `_iwl_pcie_rx_init`, the
handler before it starts over, or the handler before it returns. -/
inductive RefillCaller
  | init
  | restart
  | exit
deriving DecidableEq

/-- Where the handler of a queue is. -/
inductive HandlePc
  /-- not running -/
  | idle
  /-- at the head of the loop -/
  | loop
  /-- `req_pending` was read -/
  | check
  /-- about to take the next descriptor from the ring -/
  | take
  /-- processing a descriptor -/
  | handle (rxb : RxMemBuffer)
  /-- about to move the used descriptors to the allocator, before a request -/
  | move
  /-- about to post a request -/
  | post
  /-- the descriptor was handled -/
  | claim
  /-- a ready request was taken -/
  | get
  /-- past the claim -/
  | batch
  /-- after the loop -/
  | out
  | allocRbs (caller : RefillCaller)
  | restock (caller : RefillCaller)
deriving DecidableEq

/-- `struct iwl_rxq` with the local variables of its handler.  `handed` and `claimed` count
the descriptors moved to the allocator and taken back, for the account only. -/
structure Rxq where
  rxFree : List RxMemBuffer
  rxUsed : List RxMemBuffer
  freeCount : Nat
  usedCount : Nat
  emergency : Bool
  count : Nat
  rbPendingAlloc : Nat
  pc : HandlePc
  handed : Nat
  claimed : Nat

/-- What a handler meets: whether the device has closed a further buffer and which, whether
its page stays with the queue, whether a page is found and mapped, and whether the ring
has room. -/
structure HandleEnv where
  more : Bool
  pick : Nat
  pageKept : Bool
  page : Bool
  mapped : Bool
  room : Bool

/-- `iwl_pcie_rx_move_to_allocator`, on the allocator and on the queue. -/
def RxShared.moveToAllocator (sh : RxShared) (q : Rxq) : RxShared :=
  { sh with rba := { sh.rba with rbdEmpty := sh.rba.rbdEmpty ++ q.rxUsed } }

def Rxq.movedToAllocator (q : Rxq) : Rxq :=
  { q with rxUsed := [], handed := q.handed + q.rxUsed.length }

/-- `iwl_pcie_rx_reuse_rbd`, up to the request that it may post. -/
def Rxq.reuseRbd (q : Rxq) (rxb : RxMemBuffer) : Rxq :=
  let q := { q with rxUsed := q.rxUsed ++ [rxb] }
  if q.emergency then { q with pc := .claim }
  else
    let q := { q with usedCount := q.usedCount + 1 }
    if q.usedCount % rxClaimReqAlloc = rxPostReqAlloc then { q with pc := .move }
    else { q with pc := .claim }

/-- `iwl_pcie_rx_handle_rb`.  A page that stays with the queue but cannot be mapped is freed
as one that was stolen. -/
def Rxq.handleRb (q : Rxq) (rxb : RxMemBuffer) (env : HandleEnv) : Rxq :=
  if rxb.page && env.pageKept && env.mapped then
    { q with
      rxFree := q.rxFree ++ [rxb]
      freeCount := q.freeCount + 1
      pc := .claim }
  else q.reuseRbd { rxb with page := false }

/-- The queue after it took a batch of allocated descriptors: `list_move` puts each at the
head of `rx_free`. -/
def Rxq.allocatorGot (q : Rxq) (batch : List RxMemBuffer) : Rxq :=
  { q with
    rxFree := batch.reverse ++ q.rxFree
    usedCount := q.usedCount - rxClaimReqAlloc
    freeCount := q.freeCount + rxClaimReqAlloc
    claimed := q.claimed + batch.length
    pc := .batch }

/-- One turn of `iwl_pcie_rxq_alloc_rbs`. -/
def Rxq.allocRbs (q : Rxq) (caller : RefillCaller) (env : HandleEnv) : Rxq :=
  match q.rxUsed with
  | [] => { q with pc := .restock caller }
  | rxb :: rest =>
      if !env.page then { q with pc := .restock caller }
      else if !env.mapped then
        { q with rxUsed := { rxb with page := false } :: rest, pc := .restock caller }
      else
        { q with
          rxUsed := rest
          rxFree := q.rxFree ++ [{ rxb with page := true }]
          freeCount := q.freeCount + 1 }

/-- The loop of `iwl_pcie_rx_handle` after a descriptor was handled and what could be was
claimed, where it is not the used descriptors that are moved. -/
def Rxq.countEmergency (queueSize : Nat) (q : Rxq) : Rxq :=
  if q.emergency then
    if q.count + 1 = 8 then
      { q with
        count := 0
        emergency := !decide (q.rbPendingAlloc < queueSize / 3)
        pc := .allocRbs .restart }
    else { q with count := q.count + 1, pc := .loop }
  else { q with pc := .loop }

/-- After `iwl_pcie_rxq_restock`.  The local variables of the handler end with it. -/
def Rxq.restocked (q : Rxq) : RefillCaller → Rxq
  | .restart => { q with pc := .loop }
  | _ => { q with emergency := false, count := 0, rbPendingAlloc := 0, pc := .idle }

/-- A step of the handler of a queue. -/
def handleStep (queueSize : Nat) (env : HandleEnv) (sh : RxShared) (q : Rxq) :
    RxShared × Rxq :=
  match q.pc with
  | .idle => (sh, { q with pc := .loop })
  | .loop =>
      if env.more then
        (sh, { q with rbPendingAlloc := sh.rba.reqPending * rxClaimReqAlloc, pc := .check })
      else (sh, { q with pc := .out })
  | .check =>
      if q.rbPendingAlloc ≥ queueSize / 2 ∧ q.emergency = false then
        (sh.moveToAllocator q, { q.movedToAllocator with emergency := true, pc := .take })
      else (sh, { q with pc := .take })
  | .take =>
      match sh.hw[env.pick]? with
      | none => (sh, { q with pc := .out })
      | some rxb => ({ sh with hw := sh.hw.eraseIdx env.pick }, { q with pc := .handle rxb })
  | .handle rxb => (sh, q.handleRb rxb env)
  | .move => (sh.moveToAllocator q, { q.movedToAllocator with pc := .post })
  | .post =>
      ({ sh with rba := { sh.rba with reqPending := sh.rba.reqPending + 1 } },
        { q with pc := .claim })
  | .claim =>
      if q.usedCount ≥ rxClaimReqAlloc ∧ 0 < sh.rba.reqReady then
        ({ sh with rba := { sh.rba with reqReady := sh.rba.reqReady - 1 } },
          { q with pc := .get })
      else (sh, { q with pc := .batch })
  | .get =>
      ({ sh with
          rba := { sh.rba with rbdAllocated := sh.rba.rbdAllocated.drop rxClaimReqAlloc } },
        q.allocatorGot (sh.rba.rbdAllocated.take rxClaimReqAlloc))
  | .batch =>
      if q.usedCount % rxClaimReqAlloc = 0 ∧ q.emergency = false then
        (sh.moveToAllocator q, { q.movedToAllocator with pc := .loop })
      else (sh, q.countEmergency queueSize)
  | .out =>
      if q.emergency ∧ q.count ≠ 0 then (sh, { q with pc := .allocRbs .exit })
      else (sh, { q with pc := .restock .exit })
  | .allocRbs caller => (sh, q.allocRbs caller env)
  | .restock caller =>
      match q.rxFree with
      | rxb :: rest =>
          if q.freeCount ≠ 0 ∧ env.room then
            ({ sh with hw := sh.hw ++ [rxb] },
              { q with rxFree := rest, freeCount := q.freeCount - 1 })
          else (sh, q.restocked caller)
      | [] => (sh, q.restocked caller)

/-! ## The work of the allocator -/

/-- Where `iwl_pcie_rx_allocator` is. -/
inductive WorkPc
  | idle
  /-- `req_pending` was read -/
  | swap
  /-- at the head of the loop over the pending requests -/
  | loop
  /-- allocating the pages of a request -/
  | alloc
  /-- the pages of a request are allocated -/
  | dec
  /-- about to look for more requests -/
  | reread
  | splice
  /-- about to announce the request -/
  | inc
  | giveBack
  /-- one of the two `BUG_ON`s was hit -/
  | bug
deriving DecidableEq

/-- The local variables of `iwl_pcie_rx_allocator`. -/
structure RxWork where
  pc : WorkPc
  pending : Nat
  localEmpty : List RxMemBuffer
  localAllocated : List RxMemBuffer

/-- One turn of the innermost loop: `ok` says whether a page is found and mapped. -/
def RxWork.alloc (w : RxWork) (ok : Bool) : RxWork :=
  if w.localAllocated.length = rxClaimReqAlloc then { w with pc := .dec }
  else
    match w.localEmpty with
    | [] => { w with pc := .bug }
    | rxb :: rest =>
        if rxb.page then { w with pc := .bug }
        else if ok then
          { w with
            localEmpty := rest
            localAllocated := { rxb with page := true } :: w.localAllocated }
        else w

/-- A step of `iwl_pcie_rx_allocator`. -/
def workStep (ok : Bool) (sh : RxShared) (w : RxWork) : RxShared × RxWork :=
  match w.pc with
  | .idle => (sh, { w with pending := sh.rba.reqPending, pc := .swap })
  | .swap =>
      ({ sh with rba := { sh.rba with rbdEmpty := [] } },
        { w with localEmpty := sh.rba.rbdEmpty, pc := .loop })
  | .loop =>
      if w.pending ≠ 0 then (sh, { w with localAllocated := [], pc := .alloc })
      else (sh, { w with pc := .giveBack })
  | .alloc => (sh, w.alloc ok)
  | .dec =>
      ({ sh with rba := { sh.rba with reqPending := sh.rba.reqPending - 1 } },
        { w with pending := w.pending - 1, pc := .reread })
  | .reread =>
      (sh, { w with
              pending := if w.pending = 0 then sh.rba.reqPending else w.pending
              pc := .splice })
  | .splice =>
      ({ sh with
          rba := { sh.rba with
            rbdAllocated := sh.rba.rbdAllocated ++ w.localAllocated
            rbdEmpty := [] } },
        { w with
          localEmpty := w.localEmpty ++ sh.rba.rbdEmpty
          localAllocated := []
          pc := .inc })
  | .inc =>
      ({ sh with rba := { sh.rba with reqReady := sh.rba.reqReady + 1 } },
        { w with pc := .loop })
  | .giveBack =>
      ({ sh with rba := { sh.rba with rbdEmpty := sh.rba.rbdEmpty ++ w.localEmpty } },
        { w with localEmpty := [], pc := .idle })
  | .bug => (sh, w)

/-! ## The device -/

/-- The number of queues beside the default one, the size of the rings, and the number of
descriptors that the default queue starts with. -/
structure RxConfig where
  moreQueues : Nat
  queueSize : Nat
  ringBufs : Nat

structure RbState (c : RxConfig) where
  sh : RxShared
  queues : Fin (c.moreQueues + 1) → Rxq
  work : RxWork

inductive RbEvent (c : RxConfig)
  | handle (i : Fin (c.moreQueues + 1)) (env : HandleEnv)
  | work (ok : Bool)

variable {c : RxConfig}

def rbStep (s : RbState c) : RbEvent c → RbState c
  | .handle i env =>
      let next := handleStep c.queueSize env s.sh (s.queues i)
      { s with sh := next.1, queues := Function.update s.queues i next.2 }
  | .work ok =>
      let next := workStep ok s.sh s.work
      { s with sh := next.1, work := next.2 }

/-- The descriptors of the pool from one number to another, without pages, the last first. -/
def poolBufs (start count : Nat) : List RxMemBuffer :=
  (List.range count).reverse.map fun i => ⟨start + i + 1, false⟩

def Rxq.empty : Rxq := ⟨[], [], 0, 0, false, 0, 0, .idle, 0, 0⟩

/-- The spare descriptors of the allocator. -/
def allocatorPoolSize (c : RxConfig) : Nat :=
  (c.moreQueues + 1) * (rxClaimReqAlloc - rxPostReqAlloc)

/-- The state that `_iwl_pcie_rx_init` creates: the default queue is about to allocate the
pages of its descriptors. -/
def RbState.init (c : RxConfig) : RbState c where
  sh := ⟨⟨0, 0, [], poolBufs 0 (allocatorPoolSize c)⟩, []⟩
  queues := Function.update (fun _ => .empty) 0
    { Rxq.empty with
      rxUsed := poolBufs (allocatorPoolSize c) c.ringBufs
      pc := .allocRbs .init }
  work := ⟨.idle, 0, [], []⟩

end Iwlwifi
