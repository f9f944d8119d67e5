import Iwlwifi.Mac80211.Offchannel
import Iwlwifi.Lib.Run
import Mathlib.Data.List.Nodup

/-!
# Off-channel requests are concluded once

Whatever happens to a request, it is on the list or it was freed, and its frame is with it, was
transmitted or was reported as not transmitted.  Both are one kind of account: a weight `u` of the
requests that are on the list, and a weight `v` of what was said, which together stay what was
taken in.  A `Ledger` is such a pair, closed under freeing a request and under sending its frame;
every function keeps the account of every ledger (`Balanced`), and the two accounts are read off
at the end.
-/

namespace Iwlwifi.Offchannel

open Lib

variable {ι κ φ : Type*}

/-- What is accounted for: the number of a request and the frame that is with it. -/
def RocWork.request (roc : RocWork ι κ φ) : Nat × Option φ := (roc.id, roc.frame)

/-- Weights of requests and of what is said of them such that freeing a request says all it
weighs, and sending its frame what the frame weighs. -/
structure Ledger (u : Nat × Option φ → Nat) (v : Event ι κ φ → Nat) : Prop where
  destroyed : ∀ roc : RocWork ι κ φ, weigh v (rocNotifyDestroy roc) = u roc.request
  transmitted : ∀ id frame, u (id, none) + v (.transmitted id frame) = u (id, some frame)
  readyOnChannel : ∀ id cookie duration, v (.readyOnChannel id cookie duration) = 0
  remainOnChannel : ∀ sdata chan duration type, v (.remainOnChannel sdata chan duration type) = 0
  cancelRemainOnChannel : ∀ sdata, v (.cancelRemainOnChannel sdata) = 0

/-- A visit says what the request loses by it. -/
def Conserves (u : Nat × Option φ → Nat) (v : Event ι κ φ → Nat) (roc : RocWork ι κ φ)
    (visited : Option (RocWork ι κ φ) × List (Event ι κ φ)) : Prop :=
  weigh (fun roc => u roc.request) visited.1.toList + weigh v visited.2 = u roc.request

/-- The account is the same after a step that takes no request in. -/
structure Balanced (u : Nat × Option φ → Nat) (v : Event ι κ φ → Nat)
    (loc loc' : Local ι κ φ) : Prop where
  held : weigh (fun roc => u roc.request) loc'.rocList + weigh v loc'.log =
    weigh (fun roc => u roc.request) loc.rocList + weigh v loc.log
  accepted : loc'.accepted = loc.accepted
  nextId : loc'.nextId = loc.nextId

/-- What was taken in is on the list or has been said, and no number is given twice. -/
structure Accounted (u : Nat × Option φ → Nat) (v : Event ι κ φ → Nat)
    (loc : Local ι κ φ) : Prop where
  held : weigh (fun roc => u roc.request) loc.rocList + weigh v loc.log = weigh u loc.accepted
  old : ∀ request ∈ loc.accepted, request.1 < loc.nextId
  nodup : (loc.accepted.map Prod.fst).Nodup

section

variable {u : Nat × Option φ → Nat} {v : Event ι κ φ → Nat} {loc loc' : Local ι κ φ}

theorem Balanced.refl : Balanced u v loc loc := ⟨rfl, rfl, rfl⟩

theorem Balanced.trans {loc'' : Local ι κ φ} (one : Balanced u v loc loc')
    (two : Balanced u v loc' loc'') : Balanced u v loc loc'' :=
  ⟨two.held.trans one.held, two.accepted.trans one.accepted, two.nextId.trans one.nextId⟩

theorem Balanced.accounted (balanced : Balanced u v loc loc') (sound : Accounted u v loc) :
    Accounted u v loc' := by
  refine ⟨?_, ?_, ?_⟩
  · rw [balanced.held, balanced.accepted]
    exact sound.held
  · rw [balanced.accepted, balanced.nextId]
    exact sound.old
  · rw [balanced.accepted]
    exact sound.nodup

/-- A walk whose visits conserve the weights keeps the account. -/
theorem Balanced.setRocs {p : RocWork ι κ φ → Bool}
    {visit : RocWork ι κ φ → Option (RocWork ι κ φ) × List (Event ι κ φ)}
    (conserves : ∀ roc, p roc = true → Conserves u v roc (visit roc)) (loc : Local ι κ φ) :
    Balanced u v loc (loc.setRocs (sweep p visit loc.rocList)) := by
  refine ⟨?_, rfl, rfl⟩
  have walk := weigh_sweep (w := fun roc => u roc.request) (v := v) conserves loc.rocList
  simp only [Local.setRocs, weigh_append]
  omega

theorem conserves_keep {roc roc' : RocWork ι κ φ} (same : roc'.request = roc.request) :
    Conserves u v roc (some roc', []) := by
  rw [Conserves, Option.toList_some, weigh_cons, same]
  rfl

theorem Balanced.emit {events : List (Event ι κ φ)} (silent : weigh v events = 0) :
    Balanced u v loc (loc.emit events) := by
  refine ⟨?_, rfl, rfl⟩
  simp only [Local.emit, weigh_append, silent, Nat.add_zero]

variable (ledger : Ledger u v)

include ledger

theorem conserves_destroy (roc : RocWork ι κ φ) : Conserves u v roc (destroy roc) := by
  rw [Conserves, destroy, ledger.destroyed]
  exact Nat.zero_add _

theorem weigh_handleRocStarted (startTime : UInt64) (roc : RocWork ι κ φ) :
    u (handleRocStarted startTime roc).1.request +
      weigh v (handleRocStarted startTime roc).2 = u roc.request := by
  unfold handleRocStarted
  by_cases notified : roc.notified = true
  · rw [if_pos notified]
    rfl
  rw [if_neg notified]
  by_cases ready : roc.mgmtTxCookie = 0
  · rw [if_pos ready, weigh_cons, ledger.readyOnChannel]
    rfl
  rw [if_neg ready]
  cases with_ : roc.frame with
  | none =>
      rw [Option.toList_none, List.map_nil, weigh_nil, RocWork.request, RocWork.request, with_]
      rfl
  | some frame =>
      rw [Option.toList_some, List.map_cons, List.map_nil, weigh_cons, weigh_nil, Nat.add_zero,
        RocWork.request, RocWork.request, with_]
      exact ledger.transmitted roc.id frame

theorem conserves_handleRocStarted (startTime : UInt64) {roc roc' : RocWork ι κ φ}
    (same : roc'.request = roc.request) :
    Conserves u v roc (stay (handleRocStarted startTime roc')) := by
  rw [Conserves, stay, Option.toList_some, weigh_cons, weigh_nil, Nat.add_zero, ← same]
  exact weigh_handleRocStarted ledger startTime roc'

theorem conserves_endFinished (hw : Hw) (now : UInt64) (roc : RocWork ι κ φ) :
    Conserves u v roc (if finished hw now roc then destroy roc else (some roc, [])) := by
  split
  · exact conserves_destroy ledger roc
  · exact conserves_keep rfl

theorem conserves_purgeVisit [DecidableEq ι] (hw : Hw) (sdata : Option ι)
    (roc : RocWork ι κ φ) : Conserves u v roc (purgeVisit hw sdata roc) := by
  unfold purgeVisit
  split
  · exact conserves_keep rfl
  split
  · split
    · have destroyed := conserves_destroy ledger roc
      rw [Conserves, destroy] at destroyed
      rw [Conserves, weigh_cons, ledger.cancelRemainOnChannel, Nat.zero_add]
      exact destroyed
    · exact conserves_keep rfl
  · exact conserves_destroy ledger roc

/-! ## The functions keep the account -/

theorem balanced_recalcSwWork (hw : Hw) (now : UInt64) (loc : Local ι κ φ) :
    Balanced u v loc (recalcSwWork hw now loc).1 := by
  have walk : Balanced u v loc (loc.setRocs (endFinishedRocs hw now loc.rocList)) :=
    .setRocs (fun roc _ => conserves_endFinished ledger hw now roc) loc
  unfold recalcSwWork
  extract_lets dur loc'
  split
  · exact walk
  · exact ⟨walk.held, walk.accepted, walk.nextId⟩

theorem balanced_hwRocStart (loc : Local ι κ φ) : Balanced u v loc (hwRocStart loc) := by
  have walk : Balanced u v { loc with hwRocStart := false } (hwRocStart loc) := by
    refine Balanced.setRocs (fun roc _ => ?_) { loc with hwRocStart := false }
    exact conserves_handleRocStarted ledger loc.hwRocStartTime rfl
  exact ⟨walk.held, walk.accepted, walk.nextId⟩

omit ledger in
theorem balanced_runDeferredScan (loc : Local ι κ φ) :
    Balanced u v loc (runDeferredScan loc) := by
  unfold runDeferredScan
  split
  · exact .refl
  split
  · exact .refl
  · exact ⟨rfl, rfl, rfl⟩

variable [DecidableEq ι] [DecidableEq κ] (hw : Hw) (now : UInt64) (ret : Int)

theorem balanced_startNextGroup (loc : Local ι κ φ) :
    Balanced u v loc (startNextGroup hw now ret loc) := by
  unfold startNextGroup
  split
  · exact .refl
  rename_i roc rest _
  split
  · exact .refl
  extract_lets group maxDur type loc' refused onChannel begun
  split
  · have told : Balanced u v loc loc' := by
      refine .emit ?_
      rw [weigh_cons, ledger.remainOnChannel]
      rfl
    refine told.trans ?_
    split
    · have walk : Balanced u v loc' refused := by
        refine Balanced.setRocs (fun tmp _ => ?_) loc'
        exact conserves_keep rfl
      exact ⟨walk.held, walk.accepted, walk.nextId⟩
    · refine Balanced.setRocs (fun tmp _ => ?_) loc'
      exact conserves_keep rfl
  · have walk : Balanced u v loc begun := by
      refine Balanced.setRocs (fun tmp _ => ?_) loc
      exact conserves_handleRocStarted ledger now rfl
    exact ⟨walk.held, walk.accepted, walk.nextId⟩

theorem balanced_startNextRoc (loc : Local ι κ φ) :
    Balanced u v loc (startNextRoc hw now ret loc) := by
  unfold startNextRoc
  split
  · exact balanced_runDeferredScan loc
  split
  · exact .refl
  split
  · exact .refl
  split
  · exact balanced_startNextGroup ledger hw now ret loc
  · exact ⟨rfl, rfl, rfl⟩

theorem balanced_rocWorkLocked (loc : Local ι κ φ) :
    Balanced u v loc (rocWorkLocked hw now loc) := by
  unfold rocWorkLocked
  split
  · exact .refl
  split
  · exact .refl
  split
  · exact balanced_startNextGroup ledger hw now 0 loc
  extract_lets recalculated
  have before : Balanced u v loc recalculated.1 := balanced_recalcSwWork ledger hw now loc
  split
  · exact before
  · exact before.trans (balanced_startNextRoc ledger hw now 0 _)

theorem balanced_hwRocDone (loc : Local ι κ φ) :
    Balanced u v loc (hwRocDone hw now ret loc) := by
  have walk : Balanced u v { loc with hwRocDone := false }
      ({ loc with hwRocDone := false }.setRocs (endFinishedRocs hw now loc.rocList)) := by
    refine Balanced.setRocs (fun roc _ => ?_) { loc with hwRocDone := false }
    exact conserves_endFinished ledger hw now roc
  refine Balanced.trans ⟨walk.held, walk.accepted, walk.nextId⟩ ?_
  exact balanced_startNextRoc ledger hw now ret _

theorem balanced_cancelRoc (cancelRet : Int) (cookie : UInt64) (mgmtTx : Bool)
    (loc : Local ι κ φ) :
    Balanced u v loc (cancelRoc hw now cancelRet ret cookie mgmtTx loc).1 := by
  unfold cancelRoc
  split
  · exact .refl
  extract_lets flushed
  have flush : Balanced u v loc flushed := by
    show Balanced u v loc (if _ then _ else _)
    split
    · exact balanced_hwRocStart ledger loc
    · exact .refl
  refine flush.trans ?_
  split
  · exact .refl
  rename_i found _
  split
  · refine .setRocs (fun roc _ => ?_) flushed
    split
    · exact conserves_destroy ledger roc
    · exact conserves_keep rfl
  split
  · extract_lets told
    have told' : Balanced u v flushed told := by
      refine .emit ?_
      rw [weigh_cons, ledger.cancelRemainOnChannel]
      rfl
    refine told'.trans ?_
    split
    · exact .refl
    · exact (Balanced.setRocs (fun roc _ => conserves_destroy ledger roc) told).trans
        (balanced_startNextRoc ledger hw now ret _)
  · have walk : Balanced u v flushed (flushed.setRocs (sweep (fun _ => true)
        (fun roc => if roc.id = found.id then (some { roc with abort := true }, [])
          else (some roc, [])) flushed.rocList)) := by
      refine .setRocs (fun roc _ => ?_) flushed
      split <;> exact conserves_keep rfl
    exact ⟨walk.held, walk.accepted, walk.nextId⟩

theorem balanced_rocPurge (sdata : Option ι) (loc : Local ι κ φ) :
    Balanced u v loc (rocPurge hw now sdata loc) := by
  unfold rocPurge
  extract_lets workToDo purged
  have walk : Balanced u v loc purged :=
    .setRocs (fun roc _ => conserves_purgeVisit ledger hw sdata roc) loc
  split
  · exact walk.trans (balanced_rocWorkLocked ledger hw now purged)
  · exact walk

omit ledger [DecidableEq ι] [DecidableEq κ] in
theorem balanced_startScan (sdata : ι) (loc : Local ι κ φ) :
    Balanced u v loc (startScan ret sdata loc).1 := by
  unfold startScan
  repeat' split
  all_goals exact ⟨rfl, rfl, rfl⟩

omit ledger [DecidableEq ι] [DecidableEq κ] in
theorem balanced_scanWork (loc : Local ι κ φ) : Balanced u v loc (scanWork ret loc) := by
  unfold scanWork
  extract_lets loc'
  split
  · exact ⟨rfl, rfl, rfl⟩
  rename_i sdata _
  split
  · exact ⟨rfl, rfl, rfl⟩
  extract_lets start
  have started := balanced_startScan (u := u) (v := v) ret sdata { loc' with scanReq := none }
  split
  · exact ⟨started.held, started.accepted, started.nextId⟩
  · exact ⟨started.held, started.accepted, started.nextId⟩

theorem balanced_scanCompleted (more : Bool) (loc : Local ι κ φ) :
    Balanced u v loc (scanCompleted hw now more ret loc) := by
  unfold scanCompleted
  split
  · exact .refl
  split
  · exact .refl
  extract_lets done
  split
  · have started := balanced_startNextRoc ledger hw now ret done
    exact ⟨started.held, started.accepted, started.nextId⟩
  · exact ⟨rfl, rfl, rfl⟩

/-! ## A request that is taken in -/

omit [DecidableEq ι] [DecidableEq κ] in
theorem weigh_coalesceHwStartedRoc {new cur : RocWork ι κ φ}
    {added : RocWork ι κ φ × List (Event ι κ φ)}
    (fits : coalesceHwStartedRoc hw now new cur = some added) :
    u added.1.request + weigh v added.2 = u new.request := by
  unfold coalesceHwStartedRoc at fits
  split at fits
  · cases fits
  split at fits
  · cases fits
  split at fits
  · cases fits
  split at fits
  · obtain rfl := Option.some.inj fits
    exact weigh_handleRocStarted ledger now { new with hwBegun := true }
  · obtain rfl := Option.some.inj fits
    rfl

/-- Queueing a request adds what it weighs. -/
theorem weigh_queueRoc (roc : RocWork ι κ φ) (combineStarted : Bool)
    (rocs : List (RocWork ι κ φ)) :
    weigh (fun roc => u roc.request) (queueRoc hw now roc combineStarted rocs).1.1 +
        weigh v (queueRoc hw now roc combineStarted rocs).1.2 =
      weigh (fun roc => u roc.request) rocs + u roc.request := by
  fun_induction queueRoc hw now roc combineStarted rocs with
  | case1 => simp
  | case2 combineStarted tmp rest other queued ih
  | case4 combineStarted tmp rest same started later queued ih
  | case5 combineStarted tmp rest same started combine software tooLong queued ih
  | case8 combineStarted tmp rest same started combine hardware apart queued ih =>
      simp only [weigh_cons, queued]
      omega
  | case3 combineStarted tmp rest same waiting =>
      simp only [weigh_cons, weigh_nil]
      omega
  | case6 combineStarted tmp rest same started combine software fits added =>
      have one : u added.1.request + weigh v added.2 = u roc.request :=
        weigh_handleRocStarted ledger now { roc with onChannel := tmp.onChannel }
      simp only [weigh_cons]
      omega
  | case7 combineStarted tmp rest same started combine hardware added fits =>
      have one := weigh_coalesceHwStartedRoc ledger hw now fits
      simp only [weigh_cons]
      omega

omit ledger [DecidableEq ι] [DecidableEq κ] in
theorem newRoc_spec (params : RocParams ι κ φ) (loc : Local ι κ φ) :
    (newRoc params loc).1.id = loc.nextId ∧ (newRoc params loc).2.nextId = loc.nextId + 1 ∧
      (newRoc params loc).2.rocList = loc.rocList ∧
      (newRoc params loc).2.accepted = loc.accepted ∧ (newRoc params loc).2.log = loc.log := by
  unfold newRoc
  extract_lets duration roc loc'
  split <;> exact ⟨rfl, rfl, rfl, rfl, rfl⟩

omit ledger [DecidableEq ι] [DecidableEq κ] in
/-- A number that was not given before may be taken in, with what it weighs. -/
theorem Accounted.accept (sound : Accounted u v loc) {roc : RocWork ι κ φ}
    {walk : List (RocWork ι κ φ) × List (Event ι κ φ)} {taken : Local ι κ φ}
    (fresh : roc.id = loc.nextId) (next : taken.nextId = loc.nextId + 1)
    (accepted : taken.accepted = loc.accepted) (log : weigh v taken.log = weigh v loc.log)
    (added : weigh (fun roc => u roc.request) walk.1 + weigh v walk.2 =
      weigh (fun roc => u roc.request) loc.rocList + u roc.request) :
    Accounted u v (taken.accept roc walk) := by
  have held := sound.held
  refine ⟨?_, ?_, ?_⟩
  · simp only [Local.accept, Local.setRocs, weigh_append, weigh_cons, weigh_nil, accepted, log]
    rw [RocWork.request] at added
    omega
  · simp only [Local.accept, Local.setRocs, accepted, next, List.mem_append, List.mem_singleton]
    rintro request (old | rfl)
    · exact Nat.lt_succ_of_lt (sound.old request old)
    · rw [fresh]
      exact Nat.lt_succ_self loc.nextId
  · simp only [Local.accept, Local.setRocs, accepted, List.map_append, List.map_cons,
      List.map_nil]
    refine List.Nodup.append sound.nodup (List.nodup_singleton _) ?_
    rw [List.disjoint_singleton, fresh]
    intro member
    obtain ⟨request, within, same⟩ := List.mem_map.mp member
    exact Nat.lt_irrefl loc.nextId (same ▸ sound.old request within)

theorem accounted_startRocWork (params : RocParams ι κ φ) (loc : Local ι κ φ)
    (sound : Accounted u v loc) :
    Accounted u v (startRocWork hw now ret params loc).1 := by
  unfold startRocWork
  split
  · exact sound
  extract_lets allocated roc taken cookie first told queued added
  obtain ⟨fresh, next, list, accepted, log⟩ := newRoc_spec params loc
  have toldLog : weigh v told.log = weigh v loc.log := by
    show weigh v (taken.log ++ _) = _
    rw [weigh_append, weigh_cons, ledger.remainOnChannel, ← log]
    rfl
  split
  · split
    · have one : Accounted u v first := by
        refine sound.accept fresh next accepted (by rw [← log]) ?_
        simp only [weigh_append, weigh_cons, weigh_nil, Nat.add_zero]
        rw [← list]
      exact ⟨one.held, one.old, one.nodup⟩
    split
    · refine ⟨?_, ?_, ?_⟩
      · have held := sound.held
        rw [← toldLog, ← list, ← accepted] at held
        exact held
      · intro request member
        have old := sound.old request (accepted ▸ member)
        show request.1 < allocated.2.nextId
        rw [next]
        exact Nat.lt_succ_of_lt old
      · have nodup := sound.nodup
        rw [← accepted] at nodup
        exact nodup
    · refine sound.accept fresh next accepted toldLog ?_
      simp only [weigh_append, weigh_cons, weigh_nil, Nat.add_zero]
      show weigh _ taken.rocList + _ = _
      rw [← list]
      rfl
  · have one : Accounted u v added := by
      refine sound.accept fresh next accepted (by rw [← log]) ?_
      rw [weigh_queueRoc ledger hw now roc true taken.rocList, ← list]
    show Accounted u v (if _ then _ else _)
    split
    · exact (balanced_recalcSwWork ledger hw now added).accounted one
    · exact one

/-- Every step keeps the account. -/
theorem accounted_step (loc : Local ι κ φ) (input : Input ι κ φ) (sound : Accounted u v loc) :
    Accounted u v (step hw loc input) := by
  cases input with
  | startRocWork now ret params => exact accounted_startRocWork ledger hw now ret params loc sound
  | readyOnChannel now | remainOnChannelExpired | connectionPoll polls | radarRequired required
  | operChandef chandef | restartHw | reconfigFailure => exact ⟨sound.held, sound.old, sound.nodup⟩
  | hwRocStart =>
      simp only [step]
      split
      · exact (balanced_hwRocStart ledger loc).accounted sound
      · exact sound
  | hwRocDone now ret =>
      simp only [step]
      split
      · exact (balanced_hwRocDone ledger hw now ret loc).accounted sound
      · exact sound
  | rocWork now =>
      simp only [step]
      split
      · have done := balanced_rocWorkLocked ledger hw now { loc with rocWork := false }
        exact done.accounted ⟨sound.held, sound.old, sound.nodup⟩
      · exact sound
  | cancelRoc now cancelRet ret cookie mgmtTx =>
      exact (balanced_cancelRoc ledger hw now ret cancelRet cookie mgmtTx loc).accounted sound
  | rocPurge now sdata => exact (balanced_rocPurge ledger hw now sdata loc).accounted sound
  | startScan ret sdata => exact (balanced_startScan ret sdata loc).accounted sound
  | scanWork ret =>
      simp only [step]
      split
      · exact (balanced_scanWork ret loc).accounted sound
      · exact sound
  | scanCompleted now more ret =>
      exact (balanced_scanCompleted ledger hw now ret more loc).accounted sound
  | reconfigEnd now ret =>
      simp only [step, reconfigEnd]
      split
      · have started := balanced_startNextRoc ledger hw now ret { loc with inReconfig := false }
        exact started.accounted ⟨sound.held, sound.old, sound.nodup⟩
      · exact sound

end

/-! ## The two accounts -/

def isFreed (id : Nat) : Event ι κ φ → Bool
  | .freed i => i == id
  | _ => false

/-- The frame was transmitted, or reported as not transmitted. -/
def isOutcome [DecidableEq φ] (id : Nat) (frame : φ) : Event ι κ φ → Bool
  | .transmitted i f => (i, f) == (id, frame)
  | .notTransmitted i f => (i, f) == (id, frame)
  | _ => false

theorem ledger_freed (id : Nat) :
    Ledger (ι := ι) (κ := κ) (φ := φ) (fun request => (request.1 == id).toNat)
      (fun event => (isFreed id event).toNat) := by
  refine ⟨fun roc => ?_, fun _ _ => rfl, fun _ _ _ => rfl, fun _ _ _ _ => rfl, fun _ => rfl⟩
  have frame : weigh (fun event : Event ι κ φ => (isFreed id event).toNat)
      (roc.frame.toList.map (.notTransmitted roc.id)) = 0 := by
    cases roc.frame <;> rfl
  have expired : weigh (fun event : Event ι κ φ => (isFreed id event).toNat)
      (if roc.mgmtTxCookie = 0 then [.remainOnChannelExpired roc.id roc.cookie] else []) = 0 := by
    split <;> rfl
  rw [rocNotifyDestroy, weigh_append, weigh_append, frame, expired, weigh_cons, weigh_nil]
  simp only [Nat.zero_add, Nat.add_zero]
  rfl

theorem ledger_outcome [DecidableEq φ] (id : Nat) (frame : φ) :
    Ledger (ι := ι) (κ := κ) (φ := φ) (fun request => (request == (id, some frame)).toNat)
      (fun event => (isOutcome id frame event).toNat) := by
  have same : ∀ (i : Nat) (f : φ),
      ((i, f) == (id, frame)) = ((i, some f) == (id, some frame)) := fun i f => by
    rw [Bool.eq_iff_iff, beq_iff_eq, beq_iff_eq, Prod.mk.injEq, Prod.mk.injEq,
      Option.some.injEq]
  have empty : ∀ i : Nat, ((i, none) == (id, some frame)) = false := fun i => by
    rw [beq_eq_false_iff_ne]
    nofun
  refine ⟨fun roc => ?_, fun i f => ?_, fun _ _ _ => rfl, fun _ _ _ _ => rfl, fun _ => rfl⟩
  · have expired : weigh (fun event : Event ι κ φ => (isOutcome id frame event).toNat)
        (if roc.mgmtTxCookie = 0 then [.remainOnChannelExpired roc.id roc.cookie] else []) =
          0 := by
      split <;> rfl
    rw [rocNotifyDestroy, weigh_append, weigh_append, expired, RocWork.request]
    cases roc.frame with
    | none =>
        simp only [empty]
        rfl
    | some f =>
        simp only [Option.toList_some, List.map_cons, List.map_nil, weigh_cons, weigh_nil,
          isOutcome, same]
        rfl
  · simp only [isOutcome, empty, same, Bool.toNat_false, Nat.zero_add]

def Local.listed (loc : Local ι κ φ) (id : Nat) : Nat := loc.rocList.countP (·.id == id)

def Local.freed (loc : Local ι κ φ) (id : Nat) : Nat := loc.log.countP (isFreed id)

def Local.outcomes [DecidableEq φ] (loc : Local ι κ φ) (id : Nat) (frame : φ) : Nat :=
  loc.log.countP (isOutcome id frame)

/-- Every request that was taken in, known by a number of its own, is on the list or has left it
exactly once; its frame, and no other, then was transmitted once or reported as not transmitted
once, and no more than that before. -/
structure Concluded [DecidableEq φ] (loc : Local ι κ φ) : Prop where
  nodup : (loc.accepted.map Prod.fst).Nodup
  left : ∀ request ∈ loc.accepted, loc.listed request.1 + loc.freed request.1 = 1
  answered : ∀ request ∈ loc.accepted, ∀ frame,
    loc.outcomes request.1 frame ≤ (if request.2 = some frame then 1 else 0) ∧
      (loc.listed request.1 = 0 →
        loc.outcomes request.1 frame = if request.2 = some frame then 1 else 0)

/-- The account of every ledger is right. -/
def AllAccounted (loc : Local ι κ φ) : Prop :=
  ∀ (u : Nat × Option φ → Nat) (v : Event ι κ φ → Nat), Ledger u v → Accounted u v loc

theorem allAccounted_rocSetup (operChandef : ChanDef κ) :
    AllAccounted (rocSetup operChandef : Local ι κ φ) :=
  fun _ _ _ => ⟨rfl, nofun, List.nodup_nil⟩

theorem AllAccounted.step [DecidableEq ι] [DecidableEq κ] {loc : Local ι κ φ} (hw : Hw)
    (all : AllAccounted loc) (input : Input ι κ φ) : AllAccounted (step hw loc input) :=
  fun u v ledger => accounted_step ledger hw loc input (all u v ledger)

/-- In a list in which no number comes twice, a number comes once with what it stands for. -/
theorem countP_request [DecidableEq φ] {accepted : List (Nat × Option φ)}
    (nodup : (accepted.map Prod.fst).Nodup) {request : Nat × Option φ}
    (member : request ∈ accepted) (frame : φ) :
    accepted.countP (· == (request.1, some frame)) = if request.2 = some frame then 1 else 0 := by
  have once : accepted.Nodup := List.Nodup.of_map Prod.fst nodup
  split
  case isTrue its =>
    have same : (request.1, some frame) = request := by rw [← its]
    rw [same]
    exact List.count_eq_one_of_mem once member
  case isFalse other =>
    rw [List.countP_eq_zero]
    intro request' member' same
    obtain rfl := beq_iff_eq.mp same
    have equal := List.inj_on_of_nodup_map nodup member member' rfl
    exact other (by rw [equal])

theorem AllAccounted.concluded [DecidableEq φ] {loc : Local ι κ φ} (all : AllAccounted loc) :
    Concluded loc := by
  have nodup : (loc.accepted.map Prod.fst).Nodup :=
    (all _ _ (ledger_freed 0)).nodup
  have freed : ∀ request ∈ loc.accepted, loc.listed request.1 + loc.freed request.1 = 1 := by
    intro request member
    have held := (all _ _ (ledger_freed request.1)).held
    have one : (loc.accepted.map Prod.fst).count request.1 = 1 :=
      List.count_eq_one_of_mem nodup (List.mem_map_of_mem member)
    rw [List.count, List.countP_map, countP_eq_weigh] at one
    rw [Local.listed, Local.freed, countP_eq_weigh, countP_eq_weigh]
    exact held.trans one
  refine ⟨nodup, freed, fun request member frame => ?_⟩
  have held := (all _ _ (ledger_outcome request.1 frame)).held
  rw [← countP_eq_weigh, ← countP_eq_weigh, ← countP_eq_weigh (· == (request.1, some frame)),
    countP_request nodup member frame] at held
  have still : loc.rocList.countP (fun roc => roc.request == (request.1, some frame)) ≤
      loc.listed request.1 := by
    refine List.countP_mono_left fun roc _ same => ?_
    rw [beq_iff_eq] at same ⊢
    exact congrArg Prod.fst same
  rw [Local.outcomes]
  constructor
  · omega
  · intro gone
    omega

/-- Requests are concluded once in every run, whoever remains on channel. -/
theorem concluded_of_run [DecidableEq ι] [DecidableEq κ] [DecidableEq φ] (hw : Hw)
    (operChandef : ChanDef κ) (inputs : List (Input ι κ φ)) :
    Concluded (inputs.foldl (step hw) (rocSetup operChandef)) :=
  have all := run_invariant (P := AllAccounted) (fun _ input all => all.step hw input)
    (allAccounted_rocSetup operChandef) inputs
  all.concluded

end Iwlwifi.Offchannel
