import Mathlib.Algebra.Ring.Nat
import Mathlib.Data.Nat.Bitwise
import Mathlib.Logic.Function.Basic
import Iwlwifi.Lib.Run

/-!
# Counting Rx block-ack sessions

`iwl_mvm_sta_rx_agg` starts and stops the block-ack session of a TID of a station.  The firmware
answers a start with the BAID of the session, under which the reordering data is kept, and the
driver bounds the number of sessions by a counter of its own.  A start counts the session before
it looks at the BAID, and a stop discounts it before it looks for the data, so an error after
either leaves the counter wrong: `sessions_exact_iff` says which steps those are.

An index beyond `baid_map` is an access outside of the array; nothing is said of what the driver
does after one.  The reordering data is reduced to what the function writes into it, without the
frames.
-/

namespace Iwlwifi.RxAgg

open Function (update update_of_ne update_self)

open Lib

local instance neZero_baid : NeZero 32 := ⟨by decide⟩
local instance neZero_tid : NeZero 8 := ⟨by decide⟩

/-- `IWL_MAX_RX_BA_SESSIONS` -/
def maxRxBaSessions : Nat := 16

/-- A TID below `IWL_MAX_TID_COUNT`. -/
abbrev Tid := Fin 8

/-- An index of `baid_map`, which has `IWL_MAX_BAID` entries. -/
abbrev Baid := Fin 32

/-- `struct iwl_mvm_baid_data` -/
structure BaidData (Sta : Type) where
  baid : Baid
  tid : Tid
  sta : Sta
  timeout : Nat
  headSn : Nat
  bufSize : Nat

/-- `rx_ba_sessions` and `baid_map` of `struct iwl_mvm`, and `tid_to_baid` of every station. -/
structure Mvm (Sta : Type) where
  rxBaSessions : Nat
  tidToBaid : Sta → Tid → Nat
  baidMap : Baid → Option (BaidData Sta)

/-- What `iwl_mvm_send_cmd_pdu_status` meets: the command fails, it is not sent as the radio is
killed, or the firmware answers with a status. -/
inductive CmdReply where
  | failed (err : Nat)
  | rfkill
  | status (status : Nat)
  deriving DecidableEq

/-- `ADD_STA_SUCCESS` -/
def addStaSuccess : Nat := 1

/-- `ADD_STA_IMMEDIATE_BA_FAILURE` -/
def addStaImmediateBaFailure : Nat := 4

/-- `iwl_mvm_send_cmd_pdu_status` for a status that was `ADD_STA_SUCCESS`: a command that is not
sent because of RFKILL leaves it so. -/
def sendCmdPduStatus : CmdReply → Except Int Nat
  | .failed err => .error (-(err + 1 : Nat))
  | .rfkill => .ok addStaSuccess
  | .status status => .ok status

/-- Send the command and tell a refusal from other failures; the status is returned if the
firmware was successful. -/
def sendAddSta (reply : CmdReply) : Except Int Nat :=
  match sendCmdPduStatus reply with
  | .error ret => .error ret
  | .ok status =>
    if status &&& 0xff = addStaSuccess then .ok status
    else if status &&& 0xff = addStaImmediateBaFailure then .error (-28)
    else .error (-5)

/-- A call of the function, with what it meets. -/
inductive Call (Sta : Type) where
  | start (sta : Sta) (tid : Tid) (ssn bufSize timeout : Nat) (allocated : Bool)
      (reply : CmdReply)
  | stop (sta : Sta) (tid : Tid) (reply : CmdReply)
  deriving DecidableEq

section

variable {Sta : Type} [DecidableEq Sta]

def Mvm.setBaid (mvm : Mvm Sta) (baid : Baid) (data : Option (BaidData Sta)) : Mvm Sta :=
  { mvm with baidMap := update mvm.baidMap baid data }

def Mvm.setTidToBaid (mvm : Mvm Sta) (sta : Sta) (tid : Tid) (baid : Nat) : Mvm Sta :=
  { mvm with
    tidToBaid := update mvm.tidToBaid sta (update (mvm.tidToBaid sta) tid baid) }

/-- `iwl_mvm_sta_rx_agg` for a start, once the firmware has started the session. -/
def startSession (newRxApi : Bool) (mvm : Mvm Sta) (sta : Sta) (tid : Tid)
    (ssn bufSize timeout : Nat) (status : Nat) : Option (Mvm Sta × Int) :=
  let mvm := { mvm with rxBaSessions := (mvm.rxBaSessions + 1) % 2 ^ 8 }
  if !newRxApi then some (mvm, 0)
  else if status &&& 0x8000 = 0 then some (mvm, -22)
  else
    let baid := (status &&& 0x7f00) >>> 8
    if inside : baid < 32 then
      let data : BaidData Sta :=
        { baid := ⟨baid, inside⟩, tid := tid, sta := sta, timeout := timeout,
          headSn := ssn, bufSize := bufSize }
      some ((mvm.setTidToBaid sta tid baid).setBaid ⟨baid, inside⟩ (some data), 0)
    else none

/-- `iwl_mvm_sta_rx_agg` for a stop, once the firmware has stopped the session.
`IWL_RX_REORDER_DATA_INVALID_BAID` is 0x7f. -/
def stopSession (newRxApi : Bool) (mvm : Mvm Sta) (sta : Sta) (tid : Tid) :
    Option (Mvm Sta × Int) :=
  let baid := mvm.tidToBaid sta tid
  -- check that restart flow didn't zero the counter
  let mvm := { mvm with rxBaSessions := mvm.rxBaSessions - 1 }
  if !newRxApi then some (mvm, 0)
  else if baid = 0x7f then some (mvm, -22)
  else if inside : baid < 32 then
    if mvm.baidMap ⟨baid, inside⟩ = none then some (mvm, -22)
    else some (mvm.setBaid ⟨baid, inside⟩ none, 0)
  else none

/-- `iwl_mvm_sta_rx_agg`: the state and the return code, or `none` for an access outside of
`baid_map`. -/
def staRxAgg (newRxApi : Bool) (mvm : Mvm Sta) : Call Sta → Option (Mvm Sta × Int)
  | .start sta tid ssn bufSize timeout allocated reply =>
    if maxRxBaSessions ≤ mvm.rxBaSessions then some (mvm, -28)
    else if newRxApi && !allocated then some (mvm, -12)
    else
      match sendAddSta reply with
      | .error ret => some (mvm, ret)
      | .ok status => startSession newRxApi mvm sta tid ssn bufSize timeout status
  | .stop sta tid reply =>
    match sendAddSta reply with
    | .error ret => some (mvm, ret)
    | .ok _ => stopSession newRxApi mvm sta tid

/-! ## Runs -/

/-- The driver beside the sessions that are open: those started successfully and not yet stopped
successfully.  `kept` says that every start so far that returned an error left the driver as it
was. -/
structure Watched (Sta : Type) where
  mvm : Mvm Sta
  sessions : List (Sta × Tid)
  kept : Prop

/-- The sessions that are open after a call. -/
def openAfter (sessions : List (Sta × Tid)) (ret : Int) : Call Sta → List (Sta × Tid)
  | .start sta tid .. => if ret = 0 then (sta, tid) :: sessions else sessions
  | .stop sta tid _ => if ret = 0 then sessions.erase (sta, tid) else sessions

def Call.isStart : Call Sta → Bool
  | .start .. => true
  | .stop .. => false

def step (newRxApi : Bool) (watched : Option (Watched Sta)) (call : Call Sta) :
    Option (Watched Sta) :=
  watched.bind fun w => (staRxAgg newRxApi w.mvm call).map fun result : Mvm Sta × Int =>
    { mvm := result.1
      sessions := openAfter w.sessions result.2 call
      kept := w.kept ∧ (call.isStart = true → result.2 ≠ 0 → result.1 = w.mvm) }

/-- A driver that was just set up: its memory is zeroed. -/
def Watched.init : Watched Sta where
  mvm := ⟨0, fun _ _ => 0, fun _ => none⟩
  sessions := []
  kept := True

/-- The counter is the number of open sessions, no start that failed has changed anything, and
no access was outside of the array. -/
def Exact (watched : Option (Watched Sta)) : Prop :=
  ∃ w, watched = some w ∧ w.mvm.rxBaSessions = w.sessions.length ∧ w.kept

/-- The step does not end in an error after the counter has changed: a session that the firmware
starts has a BAID that `baid_map` has an entry for, and one that it stops is open and its data is
there, unless no session is counted at all. -/
def StepOk (newRxApi : Bool) (watched : Option (Watched Sta)) (call : Call Sta) : Prop :=
  ∀ w ∈ watched, ∀ status, match call with
  | .start _ _ _ _ _ allocated reply =>
    w.mvm.rxBaSessions < maxRxBaSessions → newRxApi = true → allocated = true →
      sendAddSta reply = .ok status →
      status &&& 0x8000 ≠ 0 ∧ (status &&& 0x7f00) >>> 8 < 32
  | .stop sta tid reply =>
    sendAddSta reply = .ok status → w.mvm.rxBaSessions ≠ 0 →
      (sta, tid) ∈ w.sessions ∧
        (newRxApi = true → ∀ inside : w.mvm.tidToBaid sta tid < 32,
          w.mvm.baidMap ⟨w.mvm.tidToBaid sta tid, inside⟩ ≠ none)

/-! ## Single calls -/

variable {newRxApi : Bool} {mvm : Mvm Sta} {sta : Sta} {tid : Tid} {ssn bufSize timeout : Nat}
  {allocated : Bool} {reply : CmdReply} {status : Nat} {ret : Int}

theorem sendAddSta_error (sent : sendAddSta reply = .error ret) : ret ≠ 0 := by
  rw [sendAddSta] at sent
  cases reply with
  | failed err =>
    cases sent
    show -((err + 1 : Nat) : Int) ≠ 0
    omega
  | rfkill => cases sent
  | status status =>
    simp only [sendCmdPduStatus] at sent
    split at sent
    · cases sent
    · split at sent
      · cases sent
        decide
      · cases sent
        decide

/-- A start that does not get to the counter. -/
def StartsNot (newRxApi : Bool) (mvm : Mvm Sta) (allocated : Bool) (reply : CmdReply) : Prop :=
  maxRxBaSessions ≤ mvm.rxBaSessions ∨ newRxApi = true ∧ allocated = false ∨
    ∃ ret, sendAddSta reply = .error ret

theorem staRxAgg_of_startsNot (not : StartsNot newRxApi mvm allocated reply) :
    ∃ ret, ret ≠ 0 ∧
      staRxAgg newRxApi mvm (.start sta tid ssn bufSize timeout allocated reply) =
        some (mvm, ret) := by
  rw [staRxAgg]
  by_cases full : maxRxBaSessions ≤ mvm.rxBaSessions
  · rw [if_pos full]
    exact ⟨-28, by decide, rfl⟩
  rw [if_neg full]
  by_cases noMemory : (newRxApi && !allocated) = true
  · rw [if_pos noMemory]
    exact ⟨-12, by decide, rfl⟩
  rw [if_neg noMemory]
  rcases not with full' | ⟨api, failed⟩ | ⟨ret, failed⟩
  · exact absurd full' full
  · rw [api, failed] at noMemory
    exact absurd rfl noMemory
  · rw [failed]
    exact ⟨ret, sendAddSta_error failed, rfl⟩

theorem staRxAgg_of_starts (room : mvm.rxBaSessions < maxRxBaSessions)
    (memory : newRxApi = true → allocated = true) (sent : sendAddSta reply = .ok status) :
    staRxAgg newRxApi mvm (.start sta tid ssn bufSize timeout allocated reply) =
      startSession newRxApi mvm sta tid ssn bufSize timeout status := by
  have there : ¬(newRxApi && !allocated) = true := by
    intro missing
    rw [Bool.and_eq_true, Bool.not_eq_true'] at missing
    rw [memory missing.1] at missing
    cases missing.2
  rw [staRxAgg, if_neg (by omega), if_neg there, sent]

/-! ## One step of a run -/

variable {w : Watched Sta} {call : Call Sta} {mvm' : Mvm Sta}

theorem step_of_some (called : staRxAgg newRxApi w.mvm call = some (mvm', ret)) :
    step newRxApi (some w) call =
      some ⟨mvm', openAfter w.sessions ret call,
        w.kept ∧ (call.isStart = true → ret ≠ 0 → mvm' = w.mvm)⟩ := by
  rw [step, Option.bind_some, called, Option.map_some]

theorem step_of_none (called : staRxAgg newRxApi w.mvm call = none) :
    step newRxApi (some w) call = none := by
  rw [step, Option.bind_some, called, Option.map_none]

/-- The invariant: the counter is right, its bound holds, and the BAIDs on record are indices
of the array. -/
structure Booked (watched : Option (Watched Sta)) (w : Watched Sta) : Prop where
  state : watched = some w
  count : w.mvm.rxBaSessions = w.sessions.length
  kept : w.kept
  bounded : w.mvm.rxBaSessions ≤ maxRxBaSessions
  inside : ∀ sta tid, w.mvm.tidToBaid sta tid < 32

omit [DecidableEq Sta] in
theorem Booked.exact {watched : Option (Watched Sta)} (booked : Booked watched w) :
    Exact watched := ⟨w, booked.state, booked.count, booked.kept⟩

omit [DecidableEq Sta] in
theorem booked_init : Booked (some (Watched.init : Watched Sta)) Watched.init :=
  ⟨rfl, rfl, trivial, Nat.zero_le _, fun _ _ => Nat.zero_lt_succ _⟩

/-- An error that has changed nothing. -/
theorem Booked.of_error (booked : Booked (some w) w) (error : ret ≠ 0)
    (called : staRxAgg newRxApi w.mvm call = some (w.mvm, ret)) :
    ∃ w', Booked (step newRxApi (some w) call) w' := by
  have same : openAfter w.sessions ret call = w.sessions := by
    cases call with
    | start => exact if_neg error
    | stop => exact if_neg error
  rw [step_of_some called, same]
  exact ⟨_, rfl, booked.count, ⟨booked.kept, fun _ _ => rfl⟩, booked.bounded, booked.inside⟩

theorem setTidToBaid_lt {baid : Nat} (inside : ∀ sta tid, mvm.tidToBaid sta tid < 32)
    (below : baid < 32) (whose : Sta) (which : Tid) :
    (mvm.setTidToBaid sta tid baid).tidToBaid whose which < 32 := by
  show update mvm.tidToBaid sta (update (mvm.tidToBaid sta) tid baid) whose
    which < 32
  by_cases same : whose = sta
  · rw [same, update_self]
    by_cases this : which = tid
    · rwa [this, update_self]
    · rw [update_of_ne this]
      exact inside sta which
  · rw [update_of_ne same]
    exact inside whose which

/-- A session is started and counted, or the error exit behind the counter is taken. -/
theorem booked_startSession (booked : Booked (some w) w)
    (room : w.mvm.rxBaSessions < maxRxBaSessions)
    (called : staRxAgg newRxApi w.mvm (.start sta tid ssn bufSize timeout allocated reply) =
      startSession newRxApi w.mvm sta tid ssn bufSize timeout status) :
    ((newRxApi = true → status &&& 0x8000 ≠ 0 ∧ (status &&& 0x7f00) >>> 8 < 32) →
      ∃ w', Booked (step newRxApi (some w)
        (.start sta tid ssn bufSize timeout allocated reply)) w') ∧
    (Exact (step newRxApi (some w) (.start sta tid ssn bufSize timeout allocated reply)) →
      newRxApi = true → status &&& 0x8000 ≠ 0 ∧ (status &&& 0x7f00) >>> 8 < 32) := by
  have more : (w.mvm.rxBaSessions + 1) % 2 ^ 8 = w.mvm.rxBaSessions + 1 := by
    rw [maxRxBaSessions] at room
    exact Nat.mod_eq_of_lt (by omega)
  rw [startSession, more] at called
  cases newRxApi with
  | false =>
    refine ⟨fun _ => ?_, fun _ api => absurd api Bool.false_ne_true⟩
    rw [step_of_some called]
    refine ⟨_, rfl, ?_, ⟨booked.kept, fun _ error => absurd rfl error⟩, room, booked.inside⟩
    exact congrArg (· + 1) booked.count
  | true =>
    by_cases valid : status &&& 0x8000 = 0
    · rw [Bool.not_true, if_neg Bool.false_ne_true, if_pos valid] at called
      refine ⟨fun ok => absurd valid (ok rfl).1, fun exact => ?_⟩
      rw [step_of_some called] at exact
      obtain ⟨w', same, count, -⟩ := exact
      cases same
      have leaked : w.mvm.rxBaSessions + 1 = w.sessions.length := count
      have counted := booked.count
      omega
    · rw [Bool.not_true, if_neg Bool.false_ne_true, if_neg valid] at called
      by_cases inside : (status &&& 0x7f00) >>> 8 < 32
      · refine ⟨fun _ => ?_, fun _ _ => ⟨valid, inside⟩⟩
        rw [dif_pos inside] at called
        rw [step_of_some called]
        refine ⟨_, rfl, ?_, ⟨booked.kept, fun _ error => absurd rfl error⟩, room, ?_⟩
        · exact congrArg (· + 1) booked.count
        · exact setTidToBaid_lt booked.inside inside
      · refine ⟨fun ok => absurd (ok rfl).2 inside, fun exact => ?_⟩
        rw [dif_neg inside] at called
        rw [step_of_none called] at exact
        obtain ⟨w', none, -⟩ := exact
        cases none

/-- The counter stays right when it is decremented if the session that is stopped is open, or none
is. -/
theorem count_erase_iff {count : Nat} {sessions : List (Sta × Tid)}
    (counted : count = sessions.length) :
    count - 1 = (sessions.erase (sta, tid)).length ↔ (count ≠ 0 → (sta, tid) ∈ sessions) := by
  by_cases member : (sta, tid) ∈ sessions
  · rw [List.length_erase_of_mem member, counted]
    exact iff_of_true rfl fun _ => member
  · rw [List.erase_of_not_mem member, counted]
    constructor
    · intro same positive
      omega
    · intro zero
      have none : sessions.length = 0 := by
        by_contra positive
        exact member (zero positive)
      omega

/-- A session is stopped and discounted, or one of the error exits behind that is taken. -/
theorem booked_stopSession (booked : Booked (some w) w)
    (called : staRxAgg newRxApi w.mvm (.stop sta tid reply) =
      stopSession newRxApi w.mvm sta tid) :
    ((w.mvm.rxBaSessions ≠ 0 → (sta, tid) ∈ w.sessions ∧
        (newRxApi = true → ∀ inside : w.mvm.tidToBaid sta tid < 32,
          w.mvm.baidMap ⟨w.mvm.tidToBaid sta tid, inside⟩ ≠ none)) →
      ∃ w', Booked (step newRxApi (some w) (.stop sta tid reply)) w') ∧
    (Exact (step newRxApi (some w) (.stop sta tid reply)) →
      w.mvm.rxBaSessions ≠ 0 → (sta, tid) ∈ w.sessions ∧
        (newRxApi = true → ∀ inside : w.mvm.tidToBaid sta tid < 32,
          w.mvm.baidMap ⟨w.mvm.tidToBaid sta tid, inside⟩ ≠ none)) := by
  have bounded : w.mvm.rxBaSessions - 1 ≤ maxRxBaSessions :=
    (Nat.sub_le _ _).trans booked.bounded
  have erase := @count_erase_iff Sta _ sta tid _ _ booked.count
  have inside := booked.inside sta tid
  have valid : w.mvm.tidToBaid sta tid ≠ 0x7f := by omega
  rw [stopSession] at called
  cases newRxApi with
  | false =>
    rw [Bool.not_false, if_pos rfl] at called
    rw [step_of_some called]
    constructor
    · intro ok
      refine ⟨_, rfl, ?_, ⟨booked.kept, fun start => absurd start Bool.false_ne_true⟩, bounded,
        booked.inside⟩
      exact erase.mpr fun positive => (ok positive).1
    · rintro ⟨w', same, count, -⟩ positive
      cases same
      exact ⟨erase.mp count positive, fun api => absurd api Bool.false_ne_true⟩
  | true =>
    rw [Bool.not_true, if_neg Bool.false_ne_true, if_neg valid, dif_pos inside] at called
    by_cases gone : w.mvm.baidMap ⟨w.mvm.tidToBaid sta tid, inside⟩ = none
    · rw [if_pos gone] at called
      rw [step_of_some called]
      constructor
      · intro ok
        have none_open : w.mvm.rxBaSessions = 0 := by
          by_contra positive
          exact (ok positive).2 rfl inside gone
        refine ⟨_, rfl, ?_, ⟨booked.kept, fun start => absurd start Bool.false_ne_true⟩,
          bounded, booked.inside⟩
        show w.mvm.rxBaSessions - 1 = w.sessions.length
        rw [← booked.count, none_open]
      · rintro ⟨w', same, count, -⟩ positive
        cases same
        have discounted : w.mvm.rxBaSessions - 1 = w.sessions.length := count
        have counted := booked.count
        omega
    · rw [if_neg gone] at called
      rw [step_of_some called]
      constructor
      · intro ok
        refine ⟨_, rfl, ?_, ⟨booked.kept, fun start => absurd start Bool.false_ne_true⟩,
          bounded, booked.inside⟩
        exact erase.mpr fun positive => (ok positive).1
      · rintro ⟨w', same, count, -⟩ positive
        cases same
        exact ⟨erase.mp count positive, fun _ _ => gone⟩

theorem booked_step (booked : Booked (some w) w) (call : Call Sta) :
    (StepOk newRxApi (some w) call → ∃ w', Booked (step newRxApi (some w) call) w') ∧
      (Exact (step newRxApi (some w) call) → StepOk newRxApi (some w) call) := by
  cases call with
  | start sta tid ssn bufSize timeout allocated reply =>
    by_cases not : StartsNot newRxApi w.mvm allocated reply
    · obtain ⟨ret, error, called⟩ := @staRxAgg_of_startsNot Sta _ newRxApi w.mvm sta tid ssn
        bufSize timeout allocated reply not
      refine ⟨fun _ => booked.of_error error called, fun _ => ?_⟩
      rintro w' same status room api memory sent
      cases same
      rcases not with full | ⟨-, missing⟩ | ⟨ret, failed⟩
      · omega
      · rw [memory] at missing
        cases missing
      · rw [sent] at failed
        cases failed
    · obtain ⟨room, rest⟩ := not_or.mp not
      obtain ⟨memory, sent⟩ := not_or.mp rest
      have room : w.mvm.rxBaSessions < maxRxBaSessions := Nat.lt_of_not_le room
      have memory : newRxApi = true → allocated = true := by
        intro api
        by_contra missing
        exact memory ⟨api, Bool.eq_false_iff.mpr missing⟩
      cases answer : sendAddSta reply with
      | error ret => exact absurd ⟨ret, answer⟩ sent
      | ok status =>
        obtain ⟨keep, only⟩ := booked_startSession booked room
          (@staRxAgg_of_starts Sta _ newRxApi w.mvm sta tid ssn bufSize timeout allocated
            reply status room memory answer)
        constructor
        · exact fun ok => keep fun api => ok w rfl status room api (memory api) answer
        · rintro exact w' same status' - api - sent'
          cases same
          rw [answer] at sent'
          cases sent'
          exact only exact api
  | stop sta tid reply =>
    cases answer : sendAddSta reply with
    | error ret =>
      have called : staRxAgg newRxApi w.mvm (.stop sta tid reply) = some (w.mvm, ret) := by
        rw [staRxAgg, answer]
      refine ⟨fun _ => booked.of_error (sendAddSta_error answer) called, fun _ => ?_⟩
      rintro w' same status sent
      cases same
      rw [answer] at sent
      cases sent
    | ok status =>
      have called : staRxAgg newRxApi w.mvm (.stop sta tid reply) =
          stopSession newRxApi w.mvm sta tid := by rw [staRxAgg, answer]
      obtain ⟨keep, only⟩ := booked_stopSession booked called
      constructor
      · exact fun ok => keep fun positive => ok w rfl status answer positive
      · rintro exact w' same status' - positive
        cases same
        exact only exact positive

/-- In every run of starts and stops the counter is the number of open sessions, and a start that
returns an error changes nothing, exactly if no step ends in an error behind the counter. -/
theorem sessions_exact_iff (newRxApi : Bool) (calls : List (Call Sta)) :
    (∀ before, before <+: calls →
        Exact (before.foldl (step newRxApi) (some Watched.init))) ↔
      Admissible (step newRxApi) (StepOk newRxApi) (some (Watched.init : Watched Sta)) calls := by
  refine @forall_reached_iff_of_invariant (Option (Watched Sta)) (Call Sta) (step newRxApi)
    (StepOk newRxApi) (fun watched => ∃ w, Booked watched w) (some Watched.init) calls Exact
    ?_ ?_ ?_ ⟨Watched.init, booked_init⟩
  · rintro watched ⟨w, booked⟩
    exact booked.exact
  · rintro watched call ⟨w, booked⟩ ok
    have state := booked.state
    subst state
    exact (booked_step booked call).1 ok
  · rintro watched call ⟨w, booked⟩ exact
    have state := booked.state
    subst state
    exact (booked_step booked call).2 exact

end

/-- A session of a device with the new Rx API is started while the radio is killed. -/
def killedStart : Call Nat := .start 0 0 100 64 0 true .rfkill

/-- The command is not sent, the status stays `ADD_STA_SUCCESS` without a BAID, and the start
returns an error with the session counted. -/
theorem not_exact_killedStart :
    ¬∀ before, before <+: [killedStart] →
      Exact (before.foldl (step true) (some Watched.init)) := by
  intro all
  obtain ⟨w, state, count, -⟩ := all [killedStart] (List.prefix_refl _)
  cases state
  exact absurd count (by decide)

end Iwlwifi.RxAgg
