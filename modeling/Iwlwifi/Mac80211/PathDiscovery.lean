import Mathlib.Algebra.Ring.Nat
import Mathlib.Data.List.Basic
import Mathlib.Logic.Function.Basic
import Iwlwifi.Lib.Run

/-!
# Path discovery

A mesh path that is being resolved is driven on by its timer and by the request nodes for it in
the PREQ queue of the interface: `mesh_path_start_discovery` takes a node from the queue, sends a
PREQ and arms the timer, and `mesh_path_timer` queues the next node.  `mesh_queue_preq` gives up
without a word when it gets no memory or the queue is full, and a node that starts a discovery is
dropped when the path is being resolved already.  `discovery_driven_iff` says when these two leave a
path behind with neither.

The frames that wait for a path have no part in this and are left out.  Jiffies are 64 bits wide
and are compared as signed differences; each call has its own reading of them.
-/

namespace Iwlwifi.PathDiscovery

open Lib

/-! ## Data -/

abbrev Addr := BitVec 48

def maxPreqQueueLen : Nat := 64

/-- `struct mesh_config`, the times in jiffies and the lifetime in TU, and the address of the
interface. -/
structure MeshConfig where
  elementTtl : UInt8
  maxPreqRetries : UInt8
  minPreqIntJiff : UInt64
  discTimeoutJiff : UInt32
  netTraversalJiffies : UInt64
  pathRefreshJiffies : UInt64
  defaultLifetime : UInt32
  vifAddr : Addr
  quiescing : Bool
  deriving DecidableEq, Repr

/-- `struct mesh_path`, with its flags one by one; `timer` is when the timer expires, while it is
pending. -/
structure MeshPath where
  nextHop : Option Addr := none
  timer : Option UInt64 := none
  sn : UInt32 := 0
  expTime : UInt64
  discoveryTimeout : UInt32 := 0
  discoveryRetries : UInt8 := 0
  rannSndAddr : Addr := BitVec.allOnes 48
  isRoot : Bool := false
  active : Bool := false
  resolving : Bool := false
  snValid : Bool := false
  fixed : Bool := false
  resolved : Bool := false
  reqQueued : Bool := false
  deleted : Bool := false
  deriving DecidableEq, Repr

/-- The flags of a request node. -/
structure PreqFlags where
  start : Bool
  refresh : Bool
  deriving DecidableEq, Repr

/-- `struct mesh_preq_queue`. -/
structure PreqNode where
  dst : Addr
  flags : PreqFlags
  deriving DecidableEq, Repr

/-- The arguments with which a PREQ is sent. -/
structure Preq where
  origSn : UInt32
  targetOnly : Bool
  target : Addr
  targetSn : UInt32
  da : Addr
  ttl : UInt8
  lifetime : UInt32
  preqId : UInt32
  deriving DecidableEq, Repr

/-- `struct ieee80211_if_mesh`, with the table of paths; `work` says that the work of the
interface is queued, and `meshPathTimer` is when the timer that queues it expires. -/
structure IfMesh where
  paths : Addr → Option MeshPath := fun _ => none
  preqQueue : List PreqNode := []
  preqQueueLen : Nat := 0
  lastPreq : UInt64 := 0
  lastSnUpdate : UInt64 := 0
  sn : UInt32 := 0
  preqId : UInt32 := 0
  work : Bool := false
  meshPathTimer : Option UInt64 := none
  droppedFramesTtl : Nat := 0
  sent : List Preq := []

def timeAfter (a b : UInt64) : Bool := (b - a).toInt64 < 0

def timeBefore (a b : UInt64) : Bool := timeAfter b a

def IfMesh.setPath (s : IfMesh) (dst : Addr) (mpath : MeshPath) : IfMesh :=
  { s with paths := Function.update s.paths dst (some mpath) }

/-! ## The functions -/

section

variable (cfg : MeshConfig) (jiffies : UInt64)

/-- `mpath_expired`, and what a lookup does about it. -/
def expire (mpath : MeshPath) : MeshPath :=
  if mpath.active && timeAfter jiffies mpath.expTime && !mpath.fixed then
    { mpath with active := false }
  else mpath

/-- `mesh_path_lookup`, the path that it finds being in the table afterwards. -/
def meshPathLookup (s : IfMesh) (dst : Addr) : IfMesh :=
  match s.paths dst with
  | none => s
  | some mpath => s.setPath dst (expire jiffies mpath)

/-- The end of `mesh_queue_preq`: the next PREQ is sent by the work, now or when the minimal
interval is over. -/
def kickDiscovery (s : IfMesh) : IfMesh :=
  if timeAfter jiffies (s.lastPreq + cfg.minPreqIntJiff) then { s with work := true }
  else if timeBefore jiffies s.lastPreq then
    { s with
      lastPreq := jiffies - cfg.minPreqIntJiff - 1
      work := true }
  else { s with meshPathTimer := some (s.lastPreq + cfg.minPreqIntJiff) }

/-- `mesh_queue_preq`; `alloc` says that there is memory for the node. -/
def meshQueuePreq (alloc : Bool) (s : IfMesh) (dst : Addr) (flags : PreqFlags) : IfMesh :=
  match s.paths dst with
  | none => s
  | some mpath =>
      if !alloc then s
      else if s.preqQueueLen = maxPreqQueueLen then s
      else if mpath.reqQueued then s
      else
        kickDiscovery cfg jiffies
          { s.setPath dst { mpath with reqQueued := true } with
            preqQueue := s.preqQueue ++ [{ dst, flags }]
            preqQueueLen := s.preqQueueLen + 1 }

/-- `mesh_path_start_discovery` from the node that it has taken and the path whose request is to
be sent. -/
def sendPreq (s : IfMesh) (node : PreqNode) (mpath : MeshPath) : IfMesh :=
  let s := { s with lastPreq := jiffies }
  let s :=
    if timeAfter jiffies (s.lastSnUpdate + cfg.netTraversalJiffies) ||
        timeBefore jiffies s.lastSnUpdate then
      { s with
        sn := s.sn + 1
        lastSnUpdate := jiffies }
    else s
  if cfg.elementTtl = 0 then
    { s.setPath node.dst mpath with droppedFramesTtl := s.droppedFramesTtl + 1 }
  else
    let preq : Preq :=
      { origSn := s.sn
        targetOnly := node.flags.refresh
        target := node.dst
        targetSn := mpath.sn
        da := if mpath.isRoot then mpath.rannSndAddr else BitVec.allOnes 48
        ttl := cfg.elementTtl
        lifetime := cfg.defaultLifetime
        preqId := s.preqId }
    let timer := jiffies + mpath.discoveryTimeout.toUInt64
    { s.setPath node.dst { mpath with timer := some timer } with
      preqId := s.preqId + 1
      sent := s.sent ++ [preq] }

/-- `mesh_path_start_discovery` for the path that the lookup has found. -/
def discover (s : IfMesh) (node : PreqNode) (mpath : MeshPath) : IfMesh :=
  if mpath.deleted || mpath.fixed then s.setPath node.dst mpath
  else
    let mpath := { mpath with reqQueued := false }
    if node.flags.start then
      if mpath.resolving then s.setPath node.dst mpath
      else
        sendPreq cfg jiffies s node
          { mpath with
            resolved := false
            resolving := true
            discoveryRetries := 0
            discoveryTimeout := cfg.discTimeoutJiff }
    else if !mpath.resolving || mpath.resolved then
      s.setPath node.dst { mpath with resolving := false }
    else sendPreq cfg jiffies s node mpath

/-- There is a request and the minimal interval since the last is over. -/
def due (s : IfMesh) : Bool :=
  s.preqQueueLen != 0 && !timeBefore jiffies (s.lastPreq + cfg.minPreqIntJiff)

/-- `mesh_path_start_discovery`. -/
def meshPathStartDiscovery (s : IfMesh) : IfMesh :=
  if due cfg jiffies s then
    match s.preqQueue with
    | [] => s
    | node :: rest =>
        let s := { s with preqQueue := rest, preqQueueLen := s.preqQueueLen - 1 }
        match s.paths node.dst with
        | none => s
        | some mpath => discover cfg jiffies s node (expire jiffies mpath)
  else s

/-- An active path is about to expire and has no discovery that refreshes it. -/
def wantsRefresh (own : Bool) (mpath : MeshPath) : Bool :=
  mpath.active && timeAfter jiffies (mpath.expTime - cfg.pathRefreshJiffies) && own &&
    !mpath.resolving && !mpath.fixed

/-- A path with this test gets a request. -/
def queueIf (test : MeshPath → Bool) (alloc : Bool) (s : IfMesh) (dst : Addr)
    (flags : PreqFlags) : IfMesh :=
  if (s.paths dst).any test then meshQueuePreq cfg jiffies alloc s dst flags else s

/-- `mesh_nexthop_lookup`; `own` says that the frame comes from this station. -/
def meshNexthopLookup (own alloc : Bool) (s : IfMesh) (dst : Addr) : IfMesh :=
  queueIf cfg jiffies (wantsRefresh cfg jiffies own) alloc (meshPathLookup jiffies s dst) dst
    { start := true, refresh := true }

/-- The next hop that `mesh_nexthop_lookup` has found. -/
def nexthopOf (s : IfMesh) (dst : Addr) : Option Addr :=
  (s.paths dst).bind fun mpath => if mpath.active then mpath.nextHop else none

/-- `mesh_path_add`, which does nothing when it fails. -/
def meshPathAdd (added : Bool) (s : IfMesh) (dst : Addr) : IfMesh :=
  if added && (s.paths dst).isNone then s.setPath dst { expTime := jiffies } else s

/-- `mesh_nexthop_resolve` of a frame that is routed by the mesh; `refresh` and `alloc` say that
there is memory for the node of a refresh and of a new discovery. -/
def meshNexthopResolve (own refresh alloc added : Bool) (s : IfMesh) (dst : Addr) : IfMesh :=
  let s := meshNexthopLookup cfg jiffies own refresh s dst
  if (nexthopOf s dst).isSome then s
  else
    queueIf cfg jiffies (!·.resolving) alloc
      (meshPathAdd jiffies added (meshPathLookup jiffies s dst) dst) dst
      { start := true, refresh := false }

/-- The path is resolved, or is not being resolved at all. -/
def settled (mpath : MeshPath) : Bool := mpath.resolved || !mpath.resolving

/-- `mesh_path_timer` for the path whose timer has expired. -/
def timerExpired (alloc : Bool) (s : IfMesh) (dst : Addr) (mpath : MeshPath) : IfMesh :=
  if cfg.quiescing then s.setPath dst mpath
  else if settled mpath then
    s.setPath dst { mpath with resolving := false, resolved := false }
  else if mpath.discoveryRetries < cfg.maxPreqRetries then
    let again :=
      { mpath with
        discoveryRetries := mpath.discoveryRetries + 1
        discoveryTimeout := mpath.discoveryTimeout * 2
        reqQueued := false }
    meshQueuePreq cfg jiffies alloc (s.setPath dst again) dst { start := false, refresh := false }
  else
    s.setPath dst
      { mpath with
        resolving := false
        resolved := false
        reqQueued := false
        expTime := jiffies }

/-- `mesh_path_timer`, if it is pending. -/
def meshPathTimer (alloc : Bool) (s : IfMesh) (dst : Addr) : IfMesh :=
  match s.paths dst with
  | none => s
  | some mpath =>
      if mpath.timer.isSome then
        timerExpired cfg jiffies alloc s dst { mpath with timer := none }
      else s

/-- The fresh routing information of `hwmp_route_info_get`. -/
def activate (nextHop : Addr) (sn : UInt32) (expTime : UInt64) (mpath : MeshPath) : MeshPath :=
  { mpath with
    nextHop := some nextHop
    snValid := true
    sn
    expTime := if timeAfter mpath.expTime expTime then mpath.expTime else expTime
    active := true
    resolved := true }

/-- `hwmp_route_info_get` where it takes the information for a path. -/
def routeActivate (added : Bool) (s : IfMesh) (dst nextHop : Addr) (sn : UInt32)
    (expTime : UInt64) : IfMesh :=
  let s := meshPathAdd jiffies added (meshPathLookup jiffies s dst) dst
  match s.paths dst with
  | none => s
  | some mpath => s.setPath dst (activate nextHop sn expTime mpath)

end

/-! ## Runs -/

inductive Event where
  | nexthopResolve (jiffies : UInt64) (own refresh alloc added : Bool) (dst : Addr)
  | queuePreq (jiffies : UInt64) (alloc : Bool) (dst : Addr) (flags : PreqFlags)
  | startDiscovery (jiffies : UInt64)
  | pathTimer (jiffies : UInt64) (alloc : Bool) (dst : Addr)
  | routeActivate (jiffies : UInt64) (added : Bool) (dst nextHop : Addr) (sn : UInt32)
      (expTime : UInt64)
  deriving DecidableEq, Repr

def step (cfg : MeshConfig) (s : IfMesh) : Event → IfMesh
  | .nexthopResolve jiffies own refresh alloc added dst =>
      meshNexthopResolve cfg jiffies own refresh alloc added s dst
  | .queuePreq jiffies alloc dst flags => meshQueuePreq cfg jiffies alloc s dst flags
  | .startDiscovery jiffies => meshPathStartDiscovery cfg jiffies s
  | .pathTimer jiffies alloc dst => meshPathTimer cfg jiffies alloc s dst
  | .routeActivate jiffies added dst nextHop sn expTime =>
      routeActivate jiffies added s dst nextHop sn expTime

/-! ## Driven paths -/

/-- A request node for the path is in the queue. -/
def Requested (queue : List PreqNode) (dst : Addr) : Prop := ∃ node ∈ queue, node.dst = dst

/-- Every path that is being resolved has its timer pending or a request in the queue, and the
length of the queue is counted and bounded. -/
structure Driven (s : IfMesh) : Prop where
  driven : ∀ dst mpath, s.paths dst = some mpath → mpath.resolving → mpath.timer.isSome ∨
    Requested s.preqQueue dst
  counted : s.preqQueueLen = s.preqQueue.length
  bounded : s.preqQueueLen ≤ maxPreqQueueLen

/-- The timer asks for the next PREQ. -/
def Retries (cfg : MeshConfig) (mpath : MeshPath) : Prop :=
  mpath.timer.isSome ∧ settled mpath = false ∧ mpath.discoveryRetries < cfg.maxPreqRetries

/-- The discovery drops the node and leaves the path being resolved. -/
def Drops (node : PreqNode) (mpath : MeshPath) : Prop :=
  mpath.resolving ∧ (mpath.deleted ∨ mpath.fixed ∨ node.flags.start)

/-- The condition on a step: a retry finds memory and room in the queue, or the path has another
request, and a request that is dropped is not the last thing that drives its path. -/
def KeepsDriving (cfg : MeshConfig) (s : IfMesh) : Event → Prop
  | .pathTimer _ alloc dst => ∀ mpath, s.paths dst = some mpath → Retries cfg mpath →
      (alloc ∧ s.preqQueueLen ≠ maxPreqQueueLen) ∨ Requested s.preqQueue dst
  | .startDiscovery jiffies => due cfg jiffies s → ∀ node rest mpath,
      s.preqQueue = node :: rest → s.paths node.dst = some mpath → Drops node mpath →
        mpath.timer.isSome ∨ Requested rest node.dst
  | _ => True

theorem driven_initial : Driven {} :=
  ⟨fun _ _ found => absurd found.symm (Option.some_ne_none _), rfl, Nat.zero_le _⟩

/-! ## All paths but one -/

/-- The same for all paths but one. -/
structure DrivenBut (dst : Addr) (s : IfMesh) : Prop where
  driven : ∀ other, other ≠ dst → ∀ mpath, s.paths other = some mpath → mpath.resolving →
    mpath.timer.isSome ∨ Requested s.preqQueue other
  counted : s.preqQueueLen = s.preqQueue.length
  bounded : s.preqQueueLen ≤ maxPreqQueueLen

section

variable {s s' : IfMesh} {dst : Addr} {mpath : MeshPath}

theorem Driven.but (driven : Driven s) (dst : Addr) : DrivenBut dst s :=
  ⟨fun other _ => driven.driven other, driven.counted, driven.bounded⟩

@[simp] theorem setPath_paths_self : (s.setPath dst mpath).paths dst = some mpath :=
  Function.update_self ..

theorem setPath_paths_ne {other : Addr} (differ : other ≠ dst) :
    (s.setPath dst mpath).paths other = s.paths other :=
  Function.update_of_ne differ ..

/-- Only the paths and the queue matter. -/
theorem driven_of_eq (driven : Driven s) (paths : s'.paths = s.paths)
    (queue : s'.preqQueue = s.preqQueue) (len : s'.preqQueueLen = s.preqQueueLen) : Driven s' := by
  refine ⟨?_, ?_, ?_⟩
  · rw [paths, queue]
    exact driven.driven
  · rw [len, queue]
    exact driven.counted
  · rw [len]
    exact driven.bounded

/-- The path that was left out is driven in its own right. -/
theorem driven_setPath_iff (but : DrivenBut dst s) :
    Driven (s.setPath dst mpath) ↔
      (mpath.resolving → mpath.timer.isSome ∨ Requested s.preqQueue dst) := by
  constructor
  · exact fun driven => driven.driven dst mpath setPath_paths_self
  · intro own
    refine ⟨fun other mpath' found resolving => ?_, but.counted, but.bounded⟩
    by_cases same : other = dst
    · subst same
      rw [setPath_paths_self] at found
      obtain rfl := Option.some.inj found
      exact own resolving
    · rw [setPath_paths_ne same] at found
      exact but.driven other same mpath' found resolving

/-- A path that is not being resolved, or has its timer, is driven. -/
theorem driven_setPath (but : DrivenBut dst s) (own : mpath.resolving → mpath.timer.isSome) :
    Driven (s.setPath dst mpath) :=
  (driven_setPath_iff but).mpr fun resolving => .inl (own resolving)

/-- A path that was driven stays so where neither its timer nor its discovery changes. -/
theorem Driven.setPath {mpath' : MeshPath} (driven : Driven s) (found : s.paths dst = some mpath)
    (resolving : mpath'.resolving → mpath.resolving) (timer : mpath'.timer = mpath.timer) :
    Driven (s.setPath dst mpath') := by
  apply (driven_setPath_iff (driven.but dst)).mpr
  intro still
  rw [timer]
  exact driven.driven dst mpath found (resolving still)

/-! ## Queueing a request -/

/-- A request in the queue drives its path. -/
theorem driven_queued (but : DrivenBut dst s) (room : s.preqQueueLen ≠ maxPreqQueueLen)
    (flags : PreqFlags) :
    Driven { s.setPath dst mpath with
      preqQueue := s.preqQueue ++ [{ dst, flags }]
      preqQueueLen := s.preqQueueLen + 1 } := by
  refine ⟨fun other mpath' found resolving => ?_, ?_, ?_⟩
  · by_cases same : other = dst
    · exact .inr ⟨_, List.mem_append_right _ List.mem_cons_self, same.symm⟩
    · change (s.setPath dst mpath).paths other = some mpath' at found
      rw [setPath_paths_ne same] at found
      obtain pending | ⟨node, member, its⟩ := but.driven other same mpath' found resolving
      · exact .inl pending
      · exact .inr ⟨node, List.mem_append_left _ member, its⟩
  · simp [but.counted]
  · exact Nat.lt_of_le_of_ne but.bounded room

theorem driven_kickDiscovery {cfg : MeshConfig} {jiffies : UInt64} (driven : Driven s) :
    Driven (kickDiscovery cfg jiffies s) := by
  unfold kickDiscovery
  split
  · exact driven_of_eq driven rfl rfl rfl
  · split
    · exact driven_of_eq driven rfl rfl rfl
    · exact driven_of_eq driven rfl rfl rfl

variable {cfg : MeshConfig} {jiffies : UInt64} {alloc : Bool} {flags : PreqFlags}

/-- A request that is queued. -/
theorem driven_meshQueuePreq_of_room (but : DrivenBut dst s) (found : s.paths dst = some mpath)
    (unqueued : mpath.reqQueued = false) (room : s.preqQueueLen ≠ maxPreqQueueLen) :
    Driven (meshQueuePreq cfg jiffies true s dst flags) := by
  rw [meshQueuePreq, found]
  dsimp only
  rw [if_neg (by decide), if_neg room, if_neg (by simpa using unqueued)]
  exact driven_kickDiscovery (driven_queued but room flags)

/-- A request that is not queued for want of memory or room. -/
theorem meshQueuePreq_of_full (full : ¬(alloc ∧ s.preqQueueLen ≠ maxPreqQueueLen)) :
    meshQueuePreq cfg jiffies alloc s dst flags = s := by
  unfold meshQueuePreq
  split
  · rfl
  · split
    · rfl
    · next given =>
        split
        · rfl
        · next room => exact absurd ⟨by simpa using given, room⟩ full

theorem Driven.meshQueuePreq (driven : Driven s) :
    Driven (meshQueuePreq cfg jiffies alloc s dst flags) := by
  by_cases full : alloc ∧ s.preqQueueLen ≠ maxPreqQueueLen
  swap
  · rw [meshQueuePreq_of_full full]
    exact driven
  obtain ⟨rfl, room⟩ := full
  cases found : s.paths dst with
  | none =>
      rw [PathDiscovery.meshQueuePreq, found]
      exact driven
  | some mpath =>
      cases queued : mpath.reqQueued with
      | false => exact driven_meshQueuePreq_of_room (driven.but dst) found queued room
      | true =>
          rw [PathDiscovery.meshQueuePreq, found]
          dsimp only
          rw [if_neg (by decide), if_neg room, if_pos queued]
          exact driven

/-! ## Steps that drop nothing -/

theorem expire_eq (jiffies : UInt64) (mpath : MeshPath) :
    ∃ active, expire jiffies mpath = { mpath with active } := by
  unfold expire
  split
  · exact ⟨false, rfl⟩
  · exact ⟨mpath.active, rfl⟩

theorem Driven.meshPathLookup (driven : Driven s) : Driven (meshPathLookup jiffies s dst) := by
  unfold PathDiscovery.meshPathLookup
  split
  · exact driven
  · next mpath found =>
      obtain ⟨active, expired⟩ := expire_eq jiffies mpath
      rw [expired]
      exact driven.setPath found (fun still => still) rfl

theorem Driven.queueIf {test : MeshPath → Bool} (driven : Driven s) :
    Driven (queueIf cfg jiffies test alloc s dst flags) := by
  unfold PathDiscovery.queueIf
  split
  · exact driven.meshQueuePreq
  · exact driven

theorem Driven.meshPathAdd {added : Bool} (driven : Driven s) :
    Driven (meshPathAdd jiffies added s dst) := by
  unfold PathDiscovery.meshPathAdd
  split
  · exact driven_setPath (driven.but dst) fun resolving => absurd resolving Bool.false_ne_true
  · exact driven

theorem Driven.meshNexthopResolve {own refresh added : Bool} (driven : Driven s) :
    Driven (meshNexthopResolve cfg jiffies own refresh alloc added s dst) := by
  have found : Driven (meshNexthopLookup cfg jiffies own refresh s dst) :=
    driven.meshPathLookup.queueIf
  unfold PathDiscovery.meshNexthopResolve
  dsimp only
  split
  · exact found
  · exact found.meshPathLookup.meshPathAdd.queueIf

theorem Driven.routeActivate {added : Bool} {nextHop : Addr} {sn : UInt32} {expTime : UInt64}
    (driven : Driven s) : Driven (routeActivate jiffies added s dst nextHop sn expTime) := by
  have added' : Driven (PathDiscovery.meshPathAdd jiffies added
      (PathDiscovery.meshPathLookup jiffies s dst) dst) := driven.meshPathLookup.meshPathAdd
  unfold PathDiscovery.routeActivate
  dsimp only
  split
  · exact added'
  · next mpath found => exact added'.setPath found (fun still => still) rfl

/-! ## The timer -/

theorem DrivenBut.setPath (but : DrivenBut dst s) : DrivenBut dst (s.setPath dst mpath) := by
  refine ⟨fun other differ mpath' found => ?_, but.counted, but.bounded⟩
  rw [setPath_paths_ne differ] at found
  exact but.driven other differ mpath' found

theorem settled_eq_false (mpath : MeshPath) :
    settled mpath = false ↔ mpath.resolved = false ∧ mpath.resolving = true := by
  rw [settled, Bool.or_eq_false_iff, Bool.not_eq_false']

/-- What remains of a path when its timer has asked for the next PREQ. -/
theorem driven_retry (but : DrivenBut dst s) (stopped : mpath.timer = none)
    (resolving : mpath.resolving) (unqueued : mpath.reqQueued = false) :
    Driven (meshQueuePreq cfg jiffies alloc (s.setPath dst mpath) dst flags) ↔
      (alloc ∧ s.preqQueueLen ≠ maxPreqQueueLen) ∨ Requested s.preqQueue dst := by
  by_cases room : alloc ∧ s.preqQueueLen ≠ maxPreqQueueLen
  · obtain ⟨rfl, room⟩ := room
    refine iff_of_true ?_ (.inl ⟨rfl, room⟩)
    exact driven_meshQueuePreq_of_room but.setPath setPath_paths_self unqueued room
  · have full : ¬(alloc ∧ (s.setPath dst mpath).preqQueueLen ≠ maxPreqQueueLen) := room
    rw [meshQueuePreq_of_full full, driven_setPath_iff but, or_iff_right room, stopped]
    exact ⟨fun own => (own resolving).resolve_left Bool.false_ne_true, fun own _ => .inr own⟩

theorem driven_timerExpired (awake : cfg.quiescing = false) (but : DrivenBut dst s)
    (stopped : mpath.timer = none) :
    Driven (timerExpired cfg jiffies alloc s dst mpath) ↔
      (settled mpath = false → mpath.discoveryRetries < cfg.maxPreqRetries →
        (alloc ∧ s.preqQueueLen ≠ maxPreqQueueLen) ∨ Requested s.preqQueue dst) := by
  unfold timerExpired
  rw [if_neg (by simp [awake])]
  split
  · next settles =>
      refine iff_of_true ?_ fun unsettled =>
        absurd (unsettled.symm.trans settles) Bool.false_ne_true
      exact driven_setPath but fun resolving => absurd resolving Bool.false_ne_true
  · next unsettled =>
      have unsettled := Bool.eq_false_iff.mpr unsettled
      split
      · next retries =>
          have resolving := ((settled_eq_false mpath).mp unsettled).2
          refine Iff.trans (driven_retry but ?_ ?_ ?_) ?_
          · exact stopped
          · exact resolving
          · rfl
          · exact ⟨fun own _ _ => own, fun own => own unsettled retries⟩
      · next spent =>
          refine iff_of_true ?_ fun _ retries => absurd retries spent
          exact driven_setPath but fun resolving => absurd resolving Bool.false_ne_true

theorem driven_meshPathTimer (awake : cfg.quiescing = false) (driven : Driven s) :
    Driven (meshPathTimer cfg jiffies alloc s dst) ↔
      KeepsDriving cfg s (.pathTimer jiffies alloc dst) := by
  unfold meshPathTimer
  cases found : s.paths dst with
  | none =>
      refine iff_of_true driven fun mpath known => ?_
      exact absurd (known.symm.trans found) (Option.some_ne_none _)
  | some mpath =>
      have only : KeepsDriving cfg s (.pathTimer jiffies alloc dst) ↔
          (Retries cfg mpath → (alloc ∧ s.preqQueueLen ≠ maxPreqQueueLen) ∨
            Requested s.preqQueue dst) := by
        refine ⟨fun keeps => keeps mpath found, fun keeps mpath' known => ?_⟩
        obtain rfl := Option.some.inj (found.symm.trans known)
        exact keeps
      rw [only]
      dsimp only
      split
      · next pending =>
          rw [driven_timerExpired awake (driven.but dst) rfl]
          exact ⟨fun own retries => own retries.2.1 retries.2.2,
            fun own unsettled retries => own ⟨pending, unsettled, retries⟩⟩
      · next stopped => exact iff_of_true driven fun retries => absurd retries.1 stopped

/-! ## The discovery -/

/-- Without its first request the queue drives all paths but the one it is for. -/
theorem Driven.taken {node : PreqNode} {rest : List PreqNode} (driven : Driven s)
    (queue : s.preqQueue = node :: rest) :
    DrivenBut node.dst { s with preqQueue := rest, preqQueueLen := s.preqQueueLen - 1 } := by
  have counted := driven.counted
  rw [queue, List.length_cons] at counted
  refine ⟨fun other differ mpath found resolving => ?_, ?_, ?_⟩
  · obtain pending | ⟨request, member, its⟩ := driven.driven other mpath found resolving
    · exact .inl pending
    · rw [queue] at member
      obtain here | later := List.mem_cons.mp member
      · exact absurd (here ▸ its).symm differ
      · exact .inr ⟨request, later, its⟩
  · dsimp only
    omega
  · exact Nat.le_trans (Nat.sub_le ..) driven.bounded

/-- A path that is not in the table needs nothing. -/
theorem driven_of_but (but : DrivenBut dst s)
    (own : ∀ mpath, s.paths dst = some mpath → mpath.resolving → mpath.timer.isSome ∨
      Requested s.preqQueue dst) : Driven s := by
  refine ⟨fun other mpath found => ?_, but.counted, but.bounded⟩
  by_cases same : other = dst
  · subst same
    exact own mpath found
  · exact but.driven other same mpath found

/-- A PREQ that is sent arms the timer. -/
theorem driven_sendPreq (ttl : cfg.elementTtl ≠ 0) {node : PreqNode}
    (but : DrivenBut node.dst s) : Driven (sendPreq cfg jiffies s node mpath) := by
  unfold sendPreq
  dsimp only
  rw [if_neg ttl]
  have armed : Driven (s.setPath node.dst { mpath with
      timer := some (jiffies + mpath.discoveryTimeout.toUInt64) }) :=
    driven_setPath but fun _ => rfl
  split
  · exact driven_of_eq armed rfl rfl rfl
  · exact driven_of_eq armed rfl rfl rfl

theorem driven_discover (ttl : cfg.elementTtl ≠ 0) {node : PreqNode}
    (but : DrivenBut node.dst s) :
    Driven (discover cfg jiffies s node mpath) ↔
      (Drops node mpath → mpath.timer.isSome ∨ Requested s.preqQueue node.dst) := by
  unfold discover
  split
  · next lost =>
      rw [driven_setPath_iff but]
      have gone : mpath.deleted ∨ mpath.fixed := by simpa using lost
      refine ⟨fun own drops => own drops.1, fun own resolving => own ⟨resolving, ?_⟩⟩
      exact gone.imp_right .inl
  · next kept =>
      obtain ⟨undeleted, unfixed⟩ : ¬mpath.deleted ∧ ¬mpath.fixed := by simpa using kept
      dsimp only
      split
      · next starts =>
          split
          · next resolving =>
              rw [driven_setPath_iff but]
              exact ⟨fun own _ => own resolving, fun own _ => own ⟨resolving, .inr (.inr starts)⟩⟩
          · next idle =>
              exact iff_of_true (driven_sendPreq ttl but) fun drops => absurd drops.1 idle
      · next goesOn =>
          have undropped : ¬Drops node mpath := by
            intro drops
            obtain deleted | fixed | starts := drops.2
            · exact undeleted deleted
            · exact unfixed fixed
            · exact goesOn starts
          refine iff_of_true ?_ fun drops => absurd drops undropped
          split
          · exact driven_setPath but fun resolving => absurd resolving Bool.false_ne_true
          · exact driven_sendPreq ttl but

theorem driven_meshPathStartDiscovery (ttl : cfg.elementTtl ≠ 0) (driven : Driven s) :
    Driven (meshPathStartDiscovery cfg jiffies s) ↔
      KeepsDriving cfg s (.startDiscovery jiffies) := by
  unfold meshPathStartDiscovery
  split
  swap
  · next early => exact iff_of_true driven fun now => absurd now early
  next now =>
  cases queue : s.preqQueue with
  | nil =>
      refine iff_of_true driven fun _ node rest mpath taken => ?_
      exact absurd (taken.symm.trans queue) (List.cons_ne_nil node rest)
  | cons node rest =>
      dsimp only
      have but := driven.taken queue
      cases found : s.paths node.dst with
      | none =>
          refine iff_of_true ?_ fun _ node' rest' mpath taken known => ?_
          · refine driven_of_but but fun mpath known => ?_
            exact absurd (known.symm.trans found) (Option.some_ne_none _)
          · obtain ⟨rfl, rfl⟩ := List.cons.inj (queue.symm.trans taken)
            exact absurd (known.symm.trans found) (Option.some_ne_none _)
      | some mpath =>
          obtain ⟨active, expired⟩ := expire_eq jiffies mpath
          dsimp only
          rw [expired, driven_discover ttl but]
          refine ⟨fun own _ node' rest' mpath' taken known => ?_, fun keeps drops => ?_⟩
          · obtain ⟨rfl, rfl⟩ := List.cons.inj (queue.symm.trans taken)
            obtain rfl := Option.some.inj (found.symm.trans known)
            exact own
          · exact keeps now node rest mpath queue found drops

end

/-! ## Every run -/

/-- The interface works: elements have a time to live, and the timers are not held. -/
structure MeshConfig.Running (cfg : MeshConfig) : Prop where
  ttl : cfg.elementTtl ≠ 0
  awake : cfg.quiescing = false

theorem driven_step {cfg : MeshConfig} (running : cfg.Running) (s : IfMesh) (event : Event)
    (driven : Driven s) : Driven (step cfg s event) ↔ KeepsDriving cfg s event := by
  cases event with
  | nexthopResolve => exact iff_of_true driven.meshNexthopResolve trivial
  | queuePreq => exact iff_of_true driven.meshQueuePreq trivial
  | startDiscovery => exact driven_meshPathStartDiscovery running.ttl driven
  | pathTimer => exact driven_meshPathTimer running.awake driven
  | routeActivate => exact iff_of_true driven.routeActivate trivial

/-- In every state of a run each path that is being resolved has its timer or a request, and the
queue its length and bound, exactly when no retry goes without memory and room while its path has
no other request, and no request is dropped that was the last to drive its path. -/
theorem discovery_driven_iff {cfg : MeshConfig} (running : cfg.Running) (events : List Event) :
    (∀ before, before <+: events → Driven (before.foldl (step cfg) {})) ↔
      Admissible (step cfg) (KeepsDriving cfg) {} events :=
  forall_reached_iff (driven_step running) driven_initial

def exampleConfig : MeshConfig where
  elementTtl := 31
  maxPreqRetries := 4
  minPreqIntJiff := 10
  discTimeoutJiff := 100
  netTraversalJiffies := 50
  pathRefreshJiffies := 1000
  defaultLifetime := 5000
  vifAddr := 1
  quiescing := false

/-- The first frame to a station, the PREQ for it, and a timer that queues the next. -/
def retried : List Event :=
  [.nexthopResolve 1000 true true true true 2, .startDiscovery 1000, .pathTimer 1100 true 2,
    .startDiscovery 1200]

theorem driven_run_example : Driven (retried.foldl (step exampleConfig) {}) := by
  refine (discovery_driven_iff ⟨by decide, rfl⟩ retried).mpr ⟨trivial, ?_, ?_, ?_, trivial⟩
    retried (List.prefix_refl _)
  · intro _ node rest mpath queue known drops
    obtain ⟨rfl, -⟩ := List.cons.inj queue
    obtain rfl := Option.some.inj known
    exact absurd drops.1 (by decide)
  · exact fun _ _ _ => .inl (by decide)
  · intro _ node rest mpath queue known drops
    obtain ⟨rfl, -⟩ := List.cons.inj queue
    obtain rfl := Option.some.inj known
    exact absurd drops.2 (by decide)

/-- The first frame to a station, the PREQ for it, and a timer that gets no memory for the next. -/
def lostRetry : List Event :=
  [.nexthopResolve 1000 true true true true 2, .startDiscovery 1000, .pathTimer 1100 false 2]

/-- The path is left being resolved, without a timer and without a request. -/
theorem not_driven_discovery :
    ¬∀ before, before <+: lostRetry → Driven (before.foldl (step exampleConfig) {}) := by
  intro driven
  obtain pending | ⟨node, member, -⟩ :=
    (driven lostRetry (List.prefix_refl _)).driven 2 _ rfl (by decide)
  · exact absurd pending (by decide)
  · exact List.not_mem_nil member

end Iwlwifi.PathDiscovery
