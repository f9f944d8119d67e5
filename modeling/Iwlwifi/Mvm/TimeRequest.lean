import Mathlib.Data.Fintype.Basic
import Mathlib.Logic.Function.Basic
import Iwlwifi.Lib.Run
import Iwlwifi.Mvm.TimingMeasurement

/-!
# Time requests to the firmware

`iwl_mvm_phc_get_syncdevicetime` and `iwl_mvm_cyclecounter_read` wait until
`firmware_operation_done` is 0, take `systim_lock`, set the flag to 1, send a command and poll
until the notification handler has set the flag to 2.  After a few polls they give up and set it
back to 0, while the firmware may still answer.

The answer carries no token.  An answer that comes after its request has given up sets the
flag with nobody there to clear it, or is taken for the answer to the next request; an
error status is stored as a time of 0 and reported as success; and the times are read after the
flag has been cleared and the lock released, so that the answer to the next request may be there
first.  `AnswersWaiting` is the condition that excludes these (`handshakeSafe_of_answersWaiting`).
-/

namespace Iwlwifi

open Lib

/-! ## Requesters and answers -/

/-- `iwl_mvm_phc_get_syncdevicetime`, which asks for `READ_BOTH`, and
`iwl_mvm_cyclecounter_read`, which asks for `READ_FIRMWARE_TIME`. -/
inductive TimeRequest where
  | syncDeviceTime
  | cyclecounterRead
  deriving DecidableEq, Repr

/-- Where a request stands.  `ready` is the time between the poll that finds the flag clear and
the lock, `sending` that of `iwl_mvm_send_cmd_pdu`, and the results are read after the flag has
been cleared and the lock released. -/
inductive RequestPhase where
  | idle
  | waitPending (kind : TimeRequest) (sleepCnt : Nat)
  | ready (kind : TimeRequest)
  | sending (kind : TimeRequest) (id : Nat)
  | waitDone (kind : TimeRequest) (id sleepCnt : Nat)
  | readDevice (kind : TimeRequest) (id : Nat)
  | readSystem (id : Nat) (device : UInt64)
  deriving DecidableEq, Repr

/-- What a request that succeeds returns: `*device` or the cycle counter, and the ART value
of which `*system` is made. -/
structure TimeResult where
  kind : TimeRequest
  id : Nat
  device : UInt64
  art : Option UInt64
  deriving DecidableEq, Repr

/-- The driver's state, where each thread `ρ` stands that may make requests, who holds the lock,
the commands that are not answered, and for the record the answers that have come and the results
returned. -/
structure TimeRequestState (ρ : Type) where
  time : TimeState
  systimLock : Option ρ
  phase : ρ → RequestPhase
  nextId : Nat
  inFlight : List Nat
  answered : List (Nat × IwlGetCorrelatedTime)
  returned : List TimeResult

def maxFwWaitCount : Nat := 3

inductive TimeEvent (ρ : Type) where
  | call (thread : ρ) (kind : TimeRequest)
  | advance (thread : ρ) (retval : Int)
  /-- The answer to a command in flight is handled. -/
  | notif (id : Nat) (gct : IwlGetCorrelatedTime)

variable {ρ : Type}

namespace TimeRequestState

def init : TimeRequestState ρ where
  time := .init
  systimLock := none
  phase _ := .idle
  nextId := 0
  inFlight := []
  answered := []
  returned := []

/-- The lock changes hands with the flag set. -/
def setLock (s : TimeRequestState ρ) (systimLock : Option ρ) (flag : UInt8) :
    TimeRequestState ρ :=
  { s with systimLock, time := { s.time with firmwareOperationDone := flag } }

variable [DecidableEq ρ]

def setPhase (s : TimeRequestState ρ) (thread : ρ) (phase : RequestPhase) : TimeRequestState ρ :=
  { s with phase := Function.update s.phase thread phase }

/-- The next step of a thread; `retval` is what `iwl_mvm_send_cmd_pdu` returns. -/
def advance (s : TimeRequestState ρ) (thread : ρ) (retval : Int) : TimeRequestState ρ :=
  match s.phase thread with
  | .idle => s
  | .waitPending kind sleepCnt =>
    if s.time.firmwareOperationDone ≠ 0 then
      match sleepCnt with
      | 0 => s.setPhase thread .idle
      | sleepCnt + 1 => s.setPhase thread (.waitPending kind sleepCnt)
    else s.setPhase thread (.ready kind)
  | .ready kind =>
    -- the lock spins
    if s.systimLock.isSome then s
    else
      { (s.setLock (some thread) 1).setPhase thread (.sending kind s.nextId) with
        nextId := s.nextId + 1
        inFlight := s.inFlight ++ [s.nextId] }
  | .sending kind id =>
    if retval ≠ 0 then (s.setLock none 0).setPhase thread .idle
    else s.setPhase thread (.waitDone kind id maxFwWaitCount)
  | .waitDone kind id sleepCnt =>
    if s.time.firmwareOperationDone ≠ 2 then
      match sleepCnt with
      | 0 => (s.setLock none 0).setPhase thread .idle
      | sleepCnt + 1 => s.setPhase thread (.waitDone kind id sleepCnt)
    else (s.setLock none 0).setPhase thread (.readDevice kind id)
  | .readDevice .cyclecounterRead id =>
    { s.setPhase thread .idle with
      returned := s.returned ++ [⟨.cyclecounterRead, id, s.time.gp2Ns, none⟩] }
  | .readDevice .syncDeviceTime id => s.setPhase thread (.readSystem id s.time.gp2Ns)
  | .readSystem id device =>
    { s.setPhase thread .idle with
      returned := s.returned ++ [⟨.syncDeviceTime, id, device, some s.time.artNs⟩] }

/-- A thread makes one request at a time, and a command that is not in flight has no answer. -/
def step (s : TimeRequestState ρ) : TimeEvent ρ → TimeRequestState ρ
  | .call thread kind =>
    if s.phase thread = .idle then s.setPhase thread (.waitPending kind maxFwWaitCount) else s
  | .advance thread retval => s.advance thread retval
  | .notif id gct =>
    if id ∈ s.inFlight then
      { s with
        time := iwlMvmGetCorrelatedTimeNotif s.time gct
        inFlight := s.inFlight.erase id
        answered := s.answered ++ [(id, gct)] }
    else s

end TimeRequestState

/-! ## Safety -/

/-- The device time and the ART value an answer carries. -/
def IwlGetCorrelatedTime.gp2Ns (gct : IwlGetCorrelatedTime) : UInt64 :=
  get64bitTs gct.gp2TimestampHi gct.gp2TimestampLo * 10

def IwlGetCorrelatedTime.artNs (gct : IwlGetCorrelatedTime) : UInt64 :=
  get64bitTs gct.platformTimestampHi gct.platformTimestampLo

/-- A request has started, by setting the flag, and has not finished, by clearing it. -/
def RequestPhase.started : RequestPhase → Bool
  | .sending _ _ | .waitDone _ _ _ => true
  | _ => false

/-- The result is that of the answer to its own command. -/
def OwnAnswer (answered : List (Nat × IwlGetCorrelatedTime)) (r : TimeResult) : Prop :=
  ∃ gct, (r.id, gct) ∈ answered ∧ r.device = gct.gp2Ns ∧
    (r.kind = .syncDeviceTime → r.art = some gct.artNs)

/-- Without a request between start and finish the flag is 0, and every result is that of
the answer to its own command. -/
structure HandshakeSafe (s : TimeRequestState ρ) : Prop where
  flag : (∀ thread, (s.phase thread).started = false) → s.time.firmwareOperationDone = 0
  own : ∀ r ∈ s.returned, OwnAnswer s.answered r

/-- The statuses that answer a request. -/
def TimeRequest.answeredBy (kind : TimeRequest) (gct : IwlGetCorrelatedTime) : Prop :=
  match kind with
  | .syncDeviceTime => gct.operationStatus = wnmReadBoth
  | .cyclecounterRead =>
    gct.operationStatus = wnmReadBoth ∨ gct.operationStatus = wnmReadFirmwareTime

/-- The answer is one that the request waits for. -/
def RequestPhase.Awaits (id : Nat) (gct : IwlGetCorrelatedTime) : RequestPhase → Prop
  | .sending kind waiting | .waitDone kind waiting _ => waiting = id ∧ kind.answeredBy gct
  | _ => False

/-- The answer does not overwrite a time that the request has finished for and not read. -/
def RequestPhase.Spared (gct : IwlGetCorrelatedTime) : RequestPhase → Prop
  | .readDevice _ _ => False
  | .readSystem _ _ => gct.operationStatus = wnmReadFirmwareTime
  | _ => True

/-- The condition on an event and the state before it: an answer that is handled comes
while its own request is between start and finish, with the status asked for, and no other
request has finished that has to read what the answer overwrites. -/
def AnswersWaiting (s : TimeRequestState ρ) : TimeEvent ρ → Prop
  | .notif id gct =>
    id ∈ s.inFlight →
      (∃ thread, (s.phase thread).Awaits id gct) ∧ ∀ thread, (s.phase thread).Spared gct
  | _ => True

instance (kind : TimeRequest) (gct : IwlGetCorrelatedTime) : Decidable (kind.answeredBy gct) := by
  unfold TimeRequest.answeredBy
  cases kind <;> infer_instance

instance (id : Nat) (gct : IwlGetCorrelatedTime) (phase : RequestPhase) :
    Decidable (phase.Awaits id gct) := by
  unfold RequestPhase.Awaits
  cases phase <;> infer_instance

instance (gct : IwlGetCorrelatedTime) (phase : RequestPhase) : Decidable (phase.Spared gct) := by
  unfold RequestPhase.Spared
  cases phase <;> infer_instance

instance [Fintype ρ] (s : TimeRequestState ρ) (event : TimeEvent ρ) :
    Decidable (AnswersWaiting s event) := by
  unfold AnswersWaiting
  cases event <;> infer_instance

/-! ## The invariant -/

/-- The state holds what an answer to a request of the kind carries. -/
def HoldsAnswer (kind : TimeRequest) (gct : IwlGetCorrelatedTime) (time : TimeState) : Prop :=
  time.gp2Ns = gct.gp2Ns ∧ (kind = .syncDeviceTime → time.artNs = gct.artNs)

/-- What the phase of a thread says about the lock, the flag and the times: a request that has
started holds the lock, and once the flag is 2 the times are those of its answer; they stay so
until they have been read. -/
def PhaseHolds (time : TimeState) (answered : List (Nat × IwlGetCorrelatedTime)) (locked : Prop) :
    RequestPhase → Prop
  | .idle | .waitPending _ _ | .ready _ => True
  | .sending kind id | .waitDone kind id _ =>
    locked ∧ (time.firmwareOperationDone = 2 →
      ∃ gct, (id, gct) ∈ answered ∧ HoldsAnswer kind gct time)
  | .readDevice kind id => ∃ gct, (id, gct) ∈ answered ∧ HoldsAnswer kind gct time
  | .readSystem id device =>
    ∃ gct, (id, gct) ∈ answered ∧ device = gct.gp2Ns ∧ time.artNs = gct.artNs

structure HandshakeInv (s : TimeRequestState ρ) : Prop where
  phase : ∀ thread, PhaseHolds s.time s.answered (s.systimLock = some thread) (s.phase thread)
  holder : ∀ thread, s.systimLock = some thread → (s.phase thread).started = true
  unlocked : s.systimLock = none → s.time.firmwareOperationDone = 0
  own : ∀ r ∈ s.returned, OwnAnswer s.answered r

section

variable {time : TimeState} {answered : List (Nat × IwlGetCorrelatedTime)} {held : Prop}
  {p : RequestPhase} {gct : IwlGetCorrelatedTime} {id : Nat}

theorem RequestPhase.Awaits.started (awaits : p.Awaits id gct) : p.started = true := by
  cases p with
  | sending kind waiting => rfl
  | waitDone kind waiting sleepCnt => rfl
  | _ => cases awaits

theorem PhaseHolds.locked (holds : PhaseHolds time answered held p) (started : p.started = true) :
    held := by
  cases p with
  | sending kind id => exact holds.1
  | waitDone kind id sleepCnt => exact holds.1
  | _ => cases started

/-- A request that has not started does not depend on the lock and the flag. -/
theorem PhaseHolds.of_not_started (holds : PhaseHolds time answered held p)
    (notStarted : p.started = false) (flag : UInt8) (held' : Prop) :
    PhaseHolds { time with firmwareOperationDone := flag } answered held' p := by
  cases p with
  | sending kind id => cases notStarted
  | waitDone kind id sleepCnt => cases notStarted
  | _ => exact holds

/-- An answer with the status asked for leaves its times in the state. -/
theorem holdsAnswer_notif {kind : TimeRequest} (answers : kind.answeredBy gct) (time : TimeState) :
    HoldsAnswer kind gct (iwlMvmGetCorrelatedTimeNotif time gct) := by
  unfold TimeRequest.answeredBy at answers
  unfold HoldsAnswer iwlMvmGetCorrelatedTimeNotif
  cases kind with
  | syncDeviceTime =>
    rw [if_neg (by simp [answers, wnmReadBoth]), if_pos answers]
    exact ⟨rfl, fun _ => rfl⟩
  | cyclecounterRead =>
    rcases answers with both | firmware
    · rw [if_neg (by simp [both, wnmReadBoth])]
      exact ⟨rfl, nofun⟩
    · rw [if_neg (by simp [firmware, wnmReadFirmwareTime])]
      exact ⟨rfl, nofun⟩

theorem artNs_notif (firmware : gct.operationStatus = wnmReadFirmwareTime) (time : TimeState) :
    (iwlMvmGetCorrelatedTimeNotif time gct).artNs = time.artNs := by
  unfold iwlMvmGetCorrelatedTimeNotif
  simp [firmware, wnmReadFirmwareTime, wnmReadBoth]

theorem PhaseHolds.notif (holds : PhaseHolds time answered held p) (spared : p.Spared gct)
    (mine : held → p.Awaits id gct) :
    PhaseHolds (iwlMvmGetCorrelatedTimeNotif time gct) (answered ++ [(id, gct)]) held p := by
  cases p with
  | sending kind waiting | waitDone kind waiting sleepCnt =>
    obtain ⟨rfl, answers⟩ := mine holds.1
    exact ⟨holds.1, fun _ => ⟨gct, by simp, holdsAnswer_notif answers time⟩⟩
  | readDevice kind waiting => cases spared
  | readSystem waiting device =>
    obtain ⟨own, member, isDevice, art⟩ := holds
    exact ⟨own, List.mem_append_left _ member, isDevice, (artNs_notif spared time).trans art⟩
  | _ => trivial

/-- A result is recorded from the phase that holds its answer. -/
theorem own_append {returned : List TimeResult} {result : TimeResult}
    (own : ∀ r ∈ returned, OwnAnswer answered r) (isOwn : OwnAnswer answered result) :
    ∀ r ∈ returned ++ [result], OwnAnswer answered r := by
  intro r member
  rcases List.mem_append.mp member with before | isNew
  · exact own r before
  · rw [List.mem_singleton.mp isNew]
    exact isOwn

end

namespace HandshakeInv

variable {s : TimeRequestState ρ} {thread : ρ} {p : RequestPhase}

theorem safe (inv : HandshakeInv s) : HandshakeSafe s where
  flag notStarted := by
    refine inv.unlocked (Option.eq_none_iff_forall_ne_some.mpr fun thread locked => ?_)
    exact absurd (inv.holder thread locked) (by rw [notStarted thread]; nofun)
  own := inv.own

/-- Without the lock a request has not started. -/
theorem not_started (inv : HandshakeInv s) (notLocked : s.systimLock ≠ some thread) :
    (s.phase thread).started = false :=
  Bool.eq_false_iff.mpr fun started => notLocked ((inv.phase thread).locked started)

variable [DecidableEq ρ]

theorem setPhase (inv : HandshakeInv s) (started : p.started = (s.phase thread).started)
    (holds : PhaseHolds s.time s.answered (s.systimLock = some thread) p) :
    HandshakeInv (s.setPhase thread p) where
  phase other := by
    by_cases same : other = thread
    · subst same
      simpa [TimeRequestState.setPhase] using holds
    · simpa [TimeRequestState.setPhase, same] using inv.phase other
  holder other locked := by
    by_cases same : other = thread
    · subst same
      simpa [TimeRequestState.setPhase, started] using inv.holder other locked
    · simpa [TimeRequestState.setPhase, same] using inv.holder other locked
  unlocked := inv.unlocked
  own := inv.own

/-- The lock is taken by a thread that starts, or dropped by the one that has it with the flag
cleared. -/
theorem setLock {systimLock : Option ρ} {flag : UInt8} (inv : HandshakeInv s)
    (only : ∀ other, other ≠ thread → s.systimLock ≠ some other)
    (moves : systimLock = some thread ∧ p.started = true ∨ systimLock = none ∧ flag = 0)
    (holds : PhaseHolds { s.time with firmwareOperationDone := flag } s.answered
      (systimLock = some thread) p) :
    HandshakeInv ((s.setLock systimLock flag).setPhase thread p) where
  phase other := by
    by_cases same : other = thread
    · subst same
      simpa [TimeRequestState.setPhase, TimeRequestState.setLock] using holds
    · simpa [TimeRequestState.setPhase, TimeRequestState.setLock, same] using
        (inv.phase other).of_not_started (inv.not_started (only other same)) flag _
  holder other locked := by
    rcases moves with ⟨rfl, started⟩ | ⟨rfl, -⟩
    · cases locked
      simpa [TimeRequestState.setPhase] using started
    · cases locked
  unlocked free := by
    rcases moves with ⟨rfl, -⟩ | ⟨-, rfl⟩
    · cases free
    · rfl
  own := inv.own

/-- The one that has the lock drops it. -/
theorem unlock (inv : HandshakeInv s) (started : (s.phase thread).started = true)
    (holds : PhaseHolds { s.time with firmwareOperationDone := 0 } s.answered
      (none = some thread) p) :
    HandshakeInv ((s.setLock none 0).setPhase thread p) := by
  refine inv.setLock (fun other ne locked => ne ?_) (.inr ⟨rfl, rfl⟩) holds
  exact Option.some.inj (locked.symm.trans ((inv.phase thread).locked started))

theorem advance (inv : HandshakeInv s) (thread : ρ) (retval : Int) :
    HandshakeInv (s.advance thread retval) := by
  have holds := inv.phase thread
  unfold TimeRequestState.advance
  cases phase : s.phase thread with
  | idle => exact inv
  | waitPending kind sleepCnt =>
    dsimp only
    split
    · cases sleepCnt with
      | zero => exact inv.setPhase (by rw [phase]; rfl) trivial
      | succ sleepCnt => exact inv.setPhase (by rw [phase]; rfl) trivial
    · exact inv.setPhase (by rw [phase]; rfl) trivial
  | ready kind =>
    dsimp only
    split
    · exact inv
    · next free =>
        have taken : HandshakeInv
            ((s.setLock (some thread) 1).setPhase thread (.sending kind s.nextId)) :=
          inv.setLock (fun other _ locked => free (by rw [locked]; rfl)) (.inl ⟨rfl, rfl⟩)
            ⟨rfl, fun two => absurd two (show ¬(1 : UInt8) = 2 by decide)⟩
        exact ⟨taken.phase, taken.holder, taken.unlocked, taken.own⟩
  | sending kind id =>
    rw [phase] at holds
    dsimp only
    split
    · exact inv.unlock (by rw [phase]; rfl) trivial
    · exact inv.setPhase (by rw [phase]; rfl) holds
  | waitDone kind id sleepCnt =>
    rw [phase] at holds
    dsimp only
    split
    · cases sleepCnt with
      | zero => exact inv.unlock (by rw [phase]; rfl) trivial
      | succ sleepCnt => exact inv.setPhase (by rw [phase]; rfl) holds
    · next done => exact inv.unlock (by rw [phase]; rfl) (holds.2 (not_not.mp done))
  | readDevice kind id =>
    rw [phase] at holds
    obtain ⟨gct, answered, device, art⟩ := holds
    cases kind with
    | syncDeviceTime =>
      exact inv.setPhase (by rw [phase]; rfl) ⟨gct, answered, device, art rfl⟩
    | cyclecounterRead =>
      have back := inv.setPhase (p := .idle) (by rw [phase]; rfl) trivial
      exact ⟨back.phase, back.holder, back.unlocked,
        own_append inv.own ⟨gct, answered, device, nofun⟩⟩
  | readSystem id device =>
    rw [phase] at holds
    obtain ⟨gct, answered, isDevice, art⟩ := holds
    have back := inv.setPhase (p := .idle) (by rw [phase]; rfl) trivial
    exact ⟨back.phase, back.holder, back.unlocked,
      own_append inv.own ⟨gct, answered, isDevice, fun _ => congrArg some art⟩⟩

theorem step {event : TimeEvent ρ} (inv : HandshakeInv s) (kept : AnswersWaiting s event) :
    HandshakeInv (s.step event) := by
  unfold TimeRequestState.step
  cases event with
  | call thread kind =>
    dsimp only
    split
    · next isIdle => exact inv.setPhase (by rw [isIdle]; rfl) trivial
    · exact inv
  | advance thread retval => exact inv.advance thread retval
  | notif id gct =>
    dsimp only
    split
    · next inFlight =>
        obtain ⟨⟨thread, awaits⟩, spared⟩ := kept inFlight
        have locked := (inv.phase thread).locked awaits.started
        refine ⟨fun other => (inv.phase other).notif (spared other) fun mine => ?_, inv.holder,
          fun free => absurd (free.symm.trans locked) nofun, fun r member => ?_⟩
        · rwa [← Option.some.inj (locked.symm.trans mine)]
        · -- the answers to earlier requests stay recorded
          obtain ⟨own, answered, values⟩ := inv.own r member
          exact ⟨own, List.mem_append_left _ answered, values⟩
    · exact inv

end HandshakeInv

/-- In every run from the state the driver is loaded in, all of whose events meet
`AnswersWaiting`, the handshake is safe. -/
theorem handshakeSafe_of_answersWaiting [DecidableEq ρ] {events : List (TimeEvent ρ)}
    (run : Admissible TimeRequestState.step AnswersWaiting .init events) :
    HandshakeSafe (events.foldl TimeRequestState.step .init) :=
  HandshakeInv.safe (run.invariant (P := HandshakeInv) (fun _ _ inv kept => inv.step kept)
    ⟨fun _ => trivial, nofun, fun _ => rfl, nofun⟩)

/-- An answer with GP2 at 7 and ART at 5. -/
def readBothAnswer : IwlGetCorrelatedTime where
  operationStatus := wnmReadBoth
  platformTimestampHi := 0
  platformTimestampLo := 5
  gp2TimestampHi := 0
  gp2TimestampLo := 7

/-- A thread makes a request of both times up to the command. -/
def sendReadBoth (thread : Bool) : List (TimeEvent Bool) :=
  [.call thread .syncDeviceTime, .advance thread 0, .advance thread 0, .advance thread 0]

/-- The answer comes while the request waits; another thread starts its request before the
times are read, and is answered after that. -/
def answeredInTime : List (TimeEvent Bool) :=
  [.notif 0 readBothAnswer, .advance false 0] ++ sendReadBoth true ++
    [.advance false 0, .advance false 0, .notif 1 readBothAnswer, .advance true 0,
      .advance true 0, .advance true 0]

/-- The answer comes after the request has given up. -/
def answeredLate : List (TimeEvent Bool) :=
  [.advance false 0, .advance false 0, .advance false 0, .advance false 0,
    .notif 0 readBothAnswer]

theorem handshakeSafe_of_answersWaiting_sync :
    ((sendReadBoth false ++ answeredInTime).foldl TimeRequestState.step .init).returned =
        [⟨.syncDeviceTime, 0, 70, some 5⟩, ⟨.syncDeviceTime, 1, 70, some 5⟩] ∧
      HandshakeSafe ((sendReadBoth false ++ answeredInTime).foldl TimeRequestState.step .init) :=
  ⟨by decide, handshakeSafe_of_answersWaiting (by decide)⟩

/-- Nobody clears the flag that a late answer sets. -/
theorem not_handshakeSafe_of_late_answer :
    ¬HandshakeSafe ((sendReadBoth false ++ answeredLate).foldl TimeRequestState.step .init) := by
  intro safe
  exact absurd (safe.flag (by decide)) (by decide)

end Iwlwifi
