import Mathlib.Logic.Function.Basic
import Mathlib.Data.List.Basic

/-!
# Ranging requests

A peer measurement request is allocated by `nl80211_pmsr_start`, handed to the driver, and put
on the list of its wireless device once the driver has accepted it.  It is freed by
`cfg80211_pmsr_complete`, which the driver calls for the last range response or when the
firmware restarts, or by `cfg80211_pmsr_process_abort`, when its socket is closed or its device
goes down.

The parties interleave: the driver works under its own mutex, `nl80211_pmsr_start` under the
rtnl lock, and an abort under the lock of its wireless device, so that a range response may come
between any two steps of the others.  A request is named by its position in `reqs`, which keeps
freed requests with the number of times they have been freed.  The measured values are left
out of the results.
-/

namespace Iwlwifi.Ftm

open Function (update)

abbrev Addr := BitVec 48

/-- `struct cfg80211_pmsr_request`: what is read of it, and what has become of it. -/
structure Req where
  cookie : UInt64
  nlPortid : UInt32
  wdev : Nat
  peers : List Addr
  accepted : Bool := false
  inserted : Bool := false
  freed : Nat := 0
deriving DecidableEq, Repr

inductive PmsrStatus
  | success
  | timeout
  | failure (reason : Nat) (busyRetryTime : Nat)
deriving DecidableEq, Repr

/-- A result given to `cfg80211_pmsr_report`, and whether its request had been freed. -/
structure Report where
  req : Nat
  addr : Addr
  status : PmsrStatus
  final : Bool
  burstIndex : Nat
  stale : Bool
deriving DecidableEq, Repr

/-- An entry of a range response. -/
structure RespEntry where
  bssid : Addr
  measureStatus : UInt8
  refusalPeriod : Nat := 0
  lastBurst : Bool := false
deriving DecidableEq, Repr

/-- `struct iwl_tof_range_rsp_ntfy` -/
structure RangeRsp where
  requestId : UInt8
  ap : List RespEntry
  lastReport : Bool
deriving DecidableEq, Repr

def iwlMvmTofMaxAps : Nat := 5

def ftmFailureUnspecified : Nat := 0
def ftmFailureNoResponse : Nat := 1
def ftmFailurePeerBusy : Nat := 6

/-- The state of all parties.  `lists` are the `pmsr_list`s of the wireless devices; `starting`
is the request of an `nl80211_pmsr_start` that has returned from the driver; `aborting` holds,
for each device, what the loop of `cfg80211_pmsr_process_abort` has still to free, the first
being its current one, and `told` says that the driver has been told to abort that one.
`abortCmds` are the requests that the firmware has been asked to abort. -/
structure State where
  reqs : List Req := []
  lists : Nat → List Nat := fun _ => []
  starting : Option Nat := none
  aborting : Nat → List Nat := fun _ => []
  told : Nat → Bool := fun _ => false
  freeWk : Nat → Bool := fun _ => false
  cookieCounter : UInt64 := 0
  ftmReq : Option Nat := none
  responses : List Nat := List.replicate iwlMvmTofMaxAps 0
  newApi : Bool := true
  abortCmds : List UInt64 := []
  reports : List Report := []

namespace State

/-- A new request, at the end of `reqs`. -/
def alloc (s : State) (req : Req) (cookie : UInt64) : State :=
  { s with reqs := s.reqs ++ [req], cookieCounter := cookie }

/-- `kfree` -/
def kfree (s : State) (r : Nat) : State :=
  { s with reqs := s.reqs.modify r fun req => { req with freed := req.freed + 1 } }

/-- `list_del`, from whatever list the request is on.  The loop of an abort that goes on has
already read its current request and the one after. -/
def listDel (s : State) (r : Nat) : State :=
  { s with
    lists := fun w => (s.lists w).filter (· != r)
    aborting := fun w => (s.aborting w).take 2 ++ ((s.aborting w).drop 2).filter (· != r) }

end State

/-! ## Starting -/

/-- `cfg80211_assign_cookie` -/
def assignCookie (counter : UInt64) : UInt64 := if counter + 1 = 0 then 1 else counter + 1

/-- `iwl_mvm_ftm_start`; `sent` says that the command was built and sent without an error. -/
def iwlMvmFtmStart (s : State) (r : Nat) (sent : Bool) : State × Bool :=
  if s.ftmReq.isSome then (s, false)
  else if sent then ({ s with ftmReq := some r }, true) else (s, false)

/-- `nl80211_pmsr_start` up to its return from the driver. -/
def nl80211PmsrStart (s : State) (wdev : Nat) (portid : UInt32) (peers : List Addr)
    (sent : Bool) : State :=
  -- the rtnl lock
  if s.starting.isSome then s
  else
    let cookie := assignCookie s.cookieCounter
    let r := s.reqs.length
    let req : Req := { cookie := cookie, nlPortid := portid, wdev := wdev, peers := peers }
    match iwlMvmFtmStart s r sent with
    | (s, true) => { s.alloc { req with accepted := true } cookie with starting := some r }
    | (s, false) => (s.alloc req cookie).kfree r

/-- `nl80211_pmsr_start`, its `list_add_tail` -/
def pmsrInsert (s : State) : State :=
  match s.starting with
  | none => s
  | some r =>
      match s.reqs[r]? with
      | none => s
      | some req =>
          { s with
            starting := none
            reqs := s.reqs.set r { req with inserted := true }
            lists := update s.lists req.wdev (s.lists req.wdev ++ [r]) }

/-! ## Results -/

/-- `cfg80211_pmsr_report` -/
def pmsrReport (s : State) (r : Nat) (addr : Addr) (status : PmsrStatus) (final : Bool)
    (burstIndex : Nat) : State :=
  let stale := match s.reqs[r]? with
    | some req => req.freed != 0
    | none => true
  { s with
    reports := s.reports ++
      [{ req := r, addr := addr, status := status, final := final
         burstIndex := burstIndex, stale := stale }] }

/-- `cfg80211_pmsr_complete` -/
def cfg80211PmsrComplete (s : State) (r : Nat) : State := (s.listDel r).kfree r

/-- `iwl_mvm_ftm_reset` -/
def iwlMvmFtmReset (s : State) : State :=
  { s with ftmReq := none, responses := List.replicate iwlMvmTofMaxAps 0 }

/-- `iwl_mvm_ftm_range_resp_valid`; the cookie is cut to the width of the request id. -/
def rangeRespValid (req : Req) (rsp : RangeRsp) : Bool :=
  rsp.requestId == req.cookie.toUInt8 && rsp.ap.length ≤ req.peers.length

/-- The status of an entry. -/
def entryStatus (entry : RespEntry) : PmsrStatus :=
  if entry.measureStatus = 0 then .success
  else if entry.measureStatus = 5 then .timeout
  else if entry.measureStatus = 2 then .failure ftmFailureNoResponse 0
  else if entry.measureStatus = 3 then .failure ftmFailurePeerBusy entry.refusalPeriod
  else .failure ftmFailureUnspecified 0

/-- The loop of `iwl_mvm_ftm_range_resp` over the entries. -/
def reportEntries (req : Req) (r : Nat) : List RespEntry → State → State
  | [], s => s
  | entry :: rest, s =>
      match req.peers.findIdx? (· == entry.bssid) with
      | none => reportEntries req r rest s
      | some idx =>
          let burst := s.responses.getD idx 0
          let s := { s with responses := s.responses.set idx (burst + 1) }
          let final := s.newApi && entry.lastBurst
          reportEntries req r rest (pmsrReport s r entry.bssid (entryStatus entry) final burst)

def iwlMvmFtmRangeResp (s : State) (rsp : RangeRsp) : State :=
  match s.ftmReq with
  | none => s
  | some r =>
      match s.reqs[r]? with
      | none => s
      | some req =>
          if !rangeRespValid req rsp then s
          else
            let s := reportEntries req r (rsp.ap.take iwlMvmTofMaxAps) s
            if rsp.lastReport then iwlMvmFtmReset (cfg80211PmsrComplete s r) else s

/-- The loop of `iwl_mvm_ftm_restart` over the peers. -/
def reportPeers (r : Nat) (s : State) (peers : List Addr) : State :=
  peers.zipIdx.foldl
    (fun s peer =>
      pmsrReport s r peer.1 (.failure ftmFailureUnspecified 0) true (s.responses.getD peer.2 0))
    s

def iwlMvmFtmRestart (s : State) : State :=
  match s.ftmReq with
  | none => s
  | some r =>
      match s.reqs[r]? with
      | none => s
      | some req => iwlMvmFtmReset (cfg80211PmsrComplete (reportPeers r s req.peers) r)

/-! ## Aborting -/

/-- The owner of the requests on a list is cleared. -/
def clearOwner (s : State) (wdev : Nat) (own : Req → Bool) : State :=
  { s with
    reqs := s.reqs.mapIdx fun r req =>
      if r ∈ s.lists wdev && own req then { req with nlPortid := 0 } else req }

/-- A request without an owner. -/
def ownerless (s : State) (r : Nat) : Bool :=
  match s.reqs[r]? with
  | some req => req.nlPortid == 0
  | none => false

/-- `cfg80211_pmsr_process_abort`, its first loop -/
def processAbort (s : State) (wdev : Nat) : State :=
  -- the lock of the wireless device
  if s.aborting wdev ≠ [] then s
  else
    { s with
      lists := update s.lists wdev ((s.lists wdev).filter fun r => !ownerless s r)
      aborting := update s.aborting wdev ((s.lists wdev).filter (ownerless s))
      told := update s.told wdev false }

def cfg80211ReleasePmsr (s : State) (wdev : Nat) (portid : UInt32) : State :=
  let found := (s.lists wdev).any fun r =>
    match s.reqs[r]? with
    | some req => req.nlPortid == portid
    | none => false
  let s := clearOwner s wdev fun req => req.nlPortid == portid
  if found then { s with freeWk := update s.freeWk wdev true } else s

def cfg80211PmsrFreeWk (s : State) (wdev : Nat) : State :=
  if s.freeWk wdev && (s.aborting wdev).isEmpty then
    processAbort { s with freeWk := update s.freeWk wdev false } wdev
  else s

def cfg80211PmsrWdevDown (s : State) (wdev : Nat) : State :=
  if !(s.aborting wdev).isEmpty then s
  else
    let found := !(s.lists wdev).isEmpty
    let s := clearOwner s wdev fun _ => true
    if found then processAbort s wdev else s

/-- `iwl_mvm_ftm_abort`: a command is sent to the firmware, and that is all. -/
def iwlMvmFtmAbort (s : State) (r : Nat) : State :=
  match s.reqs[r]? with
  | none => s
  | some req =>
      if s.ftmReq ≠ some r then s else { s with abortCmds := s.abortCmds ++ [req.cookie] }

/-- `cfg80211_pmsr_process_abort`: the driver is told to abort the current request. -/
def abortCurrent (s : State) (wdev : Nat) : State :=
  match s.aborting wdev with
  | [] => s
  | r :: _ =>
      if s.told wdev then s
      else iwlMvmFtmAbort { s with told := update s.told wdev true } r

/-- `cfg80211_pmsr_process_abort`: the current request is freed. -/
def freeCurrent (s : State) (wdev : Nat) : State :=
  match s.aborting wdev with
  | [] => s
  | r :: rest =>
      if !s.told wdev then s
      else
        { s.kfree r with
          aborting := update s.aborting wdev rest
          told := update s.told wdev false }

/-! ## Steps -/

inductive Event
  | start (wdev : Nat) (portid : UInt32) (peers : List Addr) (sent : Bool)
  | insert
  | release (wdev : Nat) (portid : UInt32)
  | freeWk (wdev : Nat)
  | down (wdev : Nat)
  | abortCurrent (wdev : Nat)
  | freeCurrent (wdev : Nat)
  | rangeResp (rsp : RangeRsp)
  | restart
deriving DecidableEq, Repr

def step (s : State) : Event → State
  | .start wdev portid peers sent => nl80211PmsrStart s wdev portid peers sent
  | .insert => pmsrInsert s
  | .release wdev portid => cfg80211ReleasePmsr s wdev portid
  | .freeWk wdev => cfg80211PmsrFreeWk s wdev
  | .down wdev => cfg80211PmsrWdevDown s wdev
  | .abortCurrent wdev => abortCurrent s wdev
  | .freeCurrent wdev => freeCurrent s wdev
  | .rangeResp rsp => iwlMvmFtmRangeResp s rsp
  | .restart => iwlMvmFtmRestart s

end Iwlwifi.Ftm
