import Iwlwifi.Lib.Run
import Iwlwifi.Mac80211.AggTx

/-!
# The life cycle of a transmit block-ack session

What the driver has seen of a session is read off the record of its calls (`actions`); a
`Phase` is how far the session has come by it.  The state bits of the live session say its
phase, where a stop that has set `STOPPING` and not yet cleared `OPERATIONAL` and told the driver
is still in the phase before: this is the invariant (`Kept`), and most events keep it because
they touch none of these bits (`Quiet`).
-/

namespace Iwlwifi.AggTx

/-! ## What the driver sees -/

/-- How far the driver has been taken with a session. -/
inductive Phase
  | fresh
  | started
  | operational
  | stopped
  deriving DecidableEq

/-- The calls of the driver for one session, in order. -/
inductive Seen : Phase → List AmpduAction → Prop
  | fresh : Seen .fresh []
  | start {calls : List AmpduAction} : Seen .fresh calls → Seen .started (calls ++ [.start])
  | operational {calls : List AmpduAction} :
      Seen .started calls → Seen .operational (calls ++ [.operational])
  | stop {calls : List AmpduAction} {phase : Phase} {action : AmpduAction} :
      Seen phase calls → phase = .started ∨ phase = .operational →
        action = .stopCont ∨ action = .stopFlush → Seen .stopped (calls ++ [action])
  | flush {calls : List AmpduAction} :
      Seen .stopped calls → Seen .stopped (calls ++ [.stopFlushCont])

/-- A stop has begun. -/
def Stage.atStop : Stage → Bool
  | .stopTx _ _ => true
  | _ => false

/-- The holder of the mutex is in the middle of a start or a stop. -/
def Stage.busy : Stage → Bool
  | .starting | .stopTx _ _ => true
  | _ => false

/-- The phase the state bits of a session stand for. -/
def TidAmpduTx.phase (atStop : Bool) (t : TidAmpduTx) : Phase :=
  if t.wantStart then .fresh
  else if t.stopping && !atStop then .stopped
  else if t.operational then .operational
  else .started

/-- What the life cycle reads of a session. -/
def TidAmpduTx.life (t : TidAmpduTx) : Nat × Bool × Bool × Bool × Bool × Bool :=
  (t.id, t.wantStart, t.stopping, t.operational, t.drvReady, t.responseReceived)

namespace BaState

/-- The calls of the driver for a session. -/
def actions (s : BaState) (id : Nat) : List AmpduAction :=
  (s.log.filter (·.1 == id)).map (·.2)

/-- The life cycle of the sessions of the TID. -/
structure LifeCycle (s : BaState) : Prop where
  driver : ∀ id, ∃ phase, Seen phase (s.actions id)
  exclusive : ∀ t ∈ s.setOperational, t.stopping = false
  /-- Both bits are set only where a stop is about to clear `OPERATIONAL`. -/
  cleared : ∀ t, s.tidTx = some t ∨ s.tidStartTx = some t →
    t.operational = true → t.stopping = true → s.stage.atStop = true
  single : s.tidTx = none ∨ s.tidStartTx = none
  /-- Where the work is about to call `ieee80211_tx_ba_session_handle_start`. -/
  starting : s.stage = .starting → ∃ t, s.tidTx = some t ∧ t.wantStart = true

/-! ## The invariant -/

/-- The bits of the live session agree with each other, with the calls of the driver and with
where the work is. -/
structure Live (s : BaState) (t : TidAmpduTx) : Prop where
  known : t.id < s.nextId
  seen : Seen (t.phase s.stage.atStop) (s.actions t.id)
  starting : t.wantStart = true ↔ s.stage = .starting
  stopping : s.stage.atStop = true → t.stopping = true
  fresh : t.wantStart = true →
    t.stopping = false ∧ t.drvReady = false ∧ t.responseReceived = false
  operational : t.operational =
    (t.drvReady && t.responseReceived && (!t.stopping || s.stage.atStop))

/-- The session that waits for the work to start it. -/
structure Waiting (s : BaState) (t : TidAmpduTx) : Prop where
  alone : s.tidTx = none
  known : t.id < s.nextId
  unseen : s.actions t.id = []
  wantStart : t.wantStart = true
  stopping : t.stopping = false
  operational : t.operational = false
  drvReady : t.drvReady = false
  responseReceived : t.responseReceived = false

structure Kept (s : BaState) : Prop where
  past : ∀ id, ∃ phase, Seen phase (s.actions id)
  unborn : ∀ id, s.nextId ≤ id → s.actions id = []
  live : ∀ t, s.tidTx = some t → s.Live t
  waiting : ∀ t, s.tidStartTx = some t → s.Waiting t
  busy : s.stage.busy = true → s.tidTx ≠ none
  exclusive : ∀ t ∈ s.setOperational, t.stopping = false

variable {env : BaEnv} {s s' : BaState} {t : TidAmpduTx}

theorem busy_iff : s.stage.busy = true ↔ s.stage = .starting ∨ s.stage.atStop = true := by
  cases s.stage <;> simp [Stage.busy, Stage.atStop]

theorem ne_starting (settled : s.stage.busy = false) : s.stage ≠ .starting := by
  intro starting
  rw [starting] at settled
  cases settled

theorem not_atStop (settled : s.stage.busy = false) : s.stage.atStop = false := by
  rw [← Bool.not_eq_true] at settled ⊢
  exact fun atStop => settled (busy_iff.mpr (.inr atStop))

/-- The invariant is more than the life cycle. -/
theorem Kept.lifeCycle (kept : s.Kept) : s.LifeCycle where
  driver := kept.past
  exclusive := kept.exclusive
  cleared := by
    rintro t (live | waiting) operational stopping
    · have agree := (kept.live t live).operational
      rw [operational, stopping, eq_comm, Bool.and_eq_true_iff] at agree
      exact agree.2
    · rw [(kept.waiting t waiting).stopping] at stopping
      cases stopping
  single := by
    rcases pending : s.tidStartTx with _ | t
    · exact Or.inr rfl
    · exact Or.inl (kept.waiting t pending).alone
  starting := by
    intro stage
    rcases Option.ne_none_iff_exists'.mp (kept.busy (busy_iff.mpr (.inl stage))) with ⟨t, live⟩
    exact ⟨t, live, (kept.live t live).starting.mpr stage⟩

/-- A live session leaves no other waiting. -/
theorem Kept.tidStartTx_eq_none (kept : s.Kept) (live : s.tidTx = some t) :
    s.tidStartTx = none := by
  rcases pending : s.tidStartTx with _ | t'
  · rfl
  · rw [(kept.waiting t' pending).alone] at live
    cases live

theorem kept_start : ({} : BaState).Kept where
  past _ := ⟨.fresh, .fresh⟩
  unborn _ _ := rfl
  live _ live := by cases live
  waiting _ waiting := by cases waiting
  busy stage := by cases stage
  exclusive _ set := absurd set List.not_mem_nil

/-! ## Events that touch no bit of the life cycle -/

/-- Nothing the invariant reads is changed. -/
structure Quiet (s s' : BaState) : Prop where
  nextId : s'.nextId = s.nextId
  log : s'.log = s.log
  setOperational : s'.setOperational = s.setOperational
  tidStartTx : s'.tidStartTx = s.tidStartTx
  stage : s'.stage = .starting ↔ s.stage = .starting
  atStop : s'.stage.atStop = s.stage.atStop
  life : s'.tidTx.map (·.life) = s.tidTx.map (·.life)

theorem Quiet.refl : Quiet s s := ⟨rfl, rfl, rfl, rfl, Iff.rfl, rfl, rfl⟩

theorem Quiet.trans {s'' : BaState} (first : Quiet s s') (second : Quiet s' s'') :
    Quiet s s'' where
  nextId := second.nextId.trans first.nextId
  log := second.log.trans first.log
  setOperational := second.setOperational.trans first.setOperational
  tidStartTx := second.tidStartTx.trans first.tidStartTx
  stage := second.stage.trans first.stage
  atStop := second.atStop.trans first.atStop
  life := second.life.trans first.life

theorem phase_eq_of_life {t t' : TidAmpduTx} (same : t'.life = t.life) (atStop : Bool) :
    t'.phase atStop = t.phase atStop := by
  simp only [TidAmpduTx.life, Prod.mk.injEq] at same
  rcases same with ⟨-, wantStart, stopping, operational, -, -⟩
  simp only [TidAmpduTx.phase, wantStart, stopping, operational]

theorem Quiet.kept (quiet : Quiet s s') (kept : s.Kept) : s'.Kept := by
  have sameActions : ∀ id, s'.actions id = s.actions id := by
    intro id
    rw [actions, actions, quiet.log]
  refine ⟨?_, ?_, ?_, ?_, ?_, quiet.setOperational ▸ kept.exclusive⟩
  · intro id
    rw [sameActions]
    exact kept.past id
  · intro id unborn
    rw [sameActions]
    exact kept.unborn id (quiet.nextId ▸ unborn)
  · intro t' live'
    have mapped := quiet.life
    rw [live', Option.map_some, eq_comm, Option.map_eq_some_iff] at mapped
    rcases mapped with ⟨t, live, same⟩
    have before := kept.live t live
    have phase := phase_eq_of_life same.symm s.stage.atStop
    simp only [TidAmpduTx.life, Prod.mk.injEq] at same
    rcases same with ⟨id, wantStart, stopping, operational, drvReady, responseReceived⟩
    refine ⟨?_, ?_, ?_, ?_, ?_, ?_⟩
    · rw [← id, quiet.nextId]
      exact before.known
    · rw [quiet.atStop, phase, ← id, sameActions]
      exact before.seen
    · rw [← wantStart, quiet.stage]
      exact before.starting
    · rw [quiet.atStop, ← stopping]
      exact before.stopping
    · rw [← wantStart, ← stopping, ← drvReady, ← responseReceived]
      exact before.fresh
    · rw [quiet.atStop, ← operational, ← stopping, ← drvReady, ← responseReceived]
      exact before.operational
  · intro t waiting
    rw [quiet.tidStartTx] at waiting
    have before := kept.waiting t waiting
    refine { before with alone := ?_, known := ?_, unseen := ?_ }
    · have mapped := quiet.life
      rw [before.alone] at mapped
      exact Option.map_eq_none_iff.mp mapped
    · rw [quiet.nextId]
      exact before.known
    · rw [sameActions]
      exact before.unseen
  · intro busy gone
    rw [busy_iff, quiet.stage, quiet.atStop, ← busy_iff] at busy
    refine kept.busy busy ?_
    have mapped := quiet.life
    rw [gone, eq_comm] at mapped
    exact Option.map_eq_none_iff.mp mapped

variable {change : TidAmpduTx → TidAmpduTx}

theorem quiet_modifyTx (same : ∀ t, (change t).life = t.life) : Quiet s (s.modifyTx change) where
  nextId := rfl
  log := rfl
  setOperational := rfl
  tidStartTx := rfl
  stage := Iff.rfl
  atStop := rfl
  life := by
    rw [modifyTx, Option.map_map]
    exact congrArg (fun f => s.tidTx.map f) (funext same)

theorem Kept.changed (kept : s.Kept) (same : ∀ t, (change t).life = t.life) :
    (s.modifyTx change).Kept :=
  (quiet_modifyTx same).kept kept

theorem quiet_requestStop : Quiet s (s.requestStop env).1 := by
  unfold requestStop
  split
  · exact Quiet.refl
  · split
    · exact Quiet.refl
    · split
      · exact Quiet.refl
      · exact quiet_modifyTx fun _ => rfl

theorem quiet_addbaRespTimerExpired : Quiet s (s.addbaRespTimerExpired env) := by
  unfold addbaRespTimerExpired
  split
  · exact Quiet.refl
  · split
    · exact Quiet.refl
    · have silenced : Quiet s (s.modifyTx fun t => { t with addbaRespTimer := false }) :=
        quiet_modifyTx fun _ => rfl
      split
      · exact silenced
      · exact silenced.trans quiet_requestStop

theorem quiet_sessionTimerExpired (now : Nat) : Quiet s (s.sessionTimerExpired env now) := by
  unfold sessionTimerExpired
  split
  · exact Quiet.refl
  · split
    · exact Quiet.refl
    · have silenced : Quiet s (s.modifyTx fun t => { t with sessionTimer := false }) :=
        quiet_modifyTx fun _ => rfl
      split
      · exact silenced
      · split
        · exact silenced.trans (quiet_modifyTx fun _ => rfl)
        · exact silenced.trans quiet_requestStop

theorem quiet_transmit (now : Nat) : Quiet s (s.transmit now) := by
  refine quiet_modifyTx fun t => ?_
  split <;> rfl

/-! ## Events that take the session on -/

theorem actions_drvAmpduAction (live : s.tidTx = some t) (action : AmpduAction) (id : Nat) :
    (s.drvAmpduAction action).actions id =
      s.actions id ++ if id = t.id then [action] else [] := by
  by_cases same : id = t.id
  · simp [actions, drvAmpduAction, live, same]
  · have other : ¬t.id = id := fun eq => same eq.symm
    simp [actions, drvAmpduAction, live, same, other]

/-- A step in which only the live session can have got on, or have been freed. -/
theorem Kept.of_advance (kept : s.Kept) (live : s.tidTx = some t)
    (nextId : s'.nextId = s.nextId) (noneWaiting : s'.tidStartTx = none)
    (others : ∀ id, id ≠ t.id → s'.actions id = s.actions id)
    (seen : ∃ phase, Seen phase (s'.actions t.id))
    (now : ∀ t', s'.tidTx = some t' → t'.id = t.id ∧ s'.Live t')
    (busy : s'.stage.busy = true → s'.tidTx ≠ none)
    (only : ∀ t ∈ s'.setOperational, t.stopping = false) : s'.Kept := by
  have known := (kept.live t live).known
  refine ⟨?_, ?_, fun t' live' => (now t' live').2, ?_, busy, only⟩
  · intro id
    by_cases same : id = t.id
    · rw [same]
      exact seen
    · rw [others id same]
      exact kept.past id
  · intro id unborn
    rw [nextId] at unborn
    rw [others id (by omega)]
    exact kept.unborn id unborn
  · intro t' waiting
    rw [noneWaiting] at waiting
    cases waiting

/-- A live session is freed without another word to the driver. -/
theorem Kept.of_freed (kept : s.Kept) (live : s.tidTx = some t)
    (nextId : s'.nextId = s.nextId) (noneWaiting : s'.tidStartTx = none)
    (log : s'.log = s.log) (only : s'.setOperational = s.setOperational) (freed : s'.tidTx = none)
    (settled : s'.stage.busy = false) : s'.Kept := by
  have sameActions : ∀ id, s'.actions id = s.actions id := by
    intro id
    rw [actions, actions, log]
  refine kept.of_advance live nextId noneWaiting (fun id _ => sameActions id) ?_ ?_
    (fun busy => absurd (settled.symm.trans busy) nofun) (only ▸ kept.exclusive)
  · rw [sameActions]
    exact kept.past t.id
  · intro t' live'
    rw [freed] at live'
    cases live'

/-- A request that is turned down changes nothing. -/
theorem Kept.of_guard {turnedDown : Prop} [Decidable turnedDown] {error : Int}
    {rest : BaState × Int} (kept : s.Kept) (goesOn : ¬turnedDown → rest.1.Kept) :
    (if turnedDown then (s, error) else rest).1.Kept := by
  split
  · exact kept
  · exact goesOn ‹_›

theorem kept_startTxBaSession (kept : s.Kept) (timeout now : Nat) (allocated : Bool) :
    (s.startTxBaSession env timeout now allocated).1.Kept := by
  unfold startTxBaSession
  iterate 10 refine kept.of_guard fun _ => ?_
  refine kept.of_guard fun noSession => ?_
  refine kept.of_guard fun _ => ?_
  simp only [Bool.or_eq_true, Option.isSome_iff_ne_none, not_or, not_not] at noSession
  rcases noSession with ⟨noLive, noWaiting⟩
  refine ⟨kept.past, fun id unborn => kept.unborn id (Nat.le_of_succ_le unborn), ?_, ?_, kept.busy,
    kept.exclusive⟩
  · intro t live
    rw [noLive] at live
    cases live
  · intro t waiting
    cases waiting
    exact ⟨noLive, Nat.lt_succ_self _, kept.unborn _ (Nat.le_refl _), rfl, rfl, rfl, rfl, rfl⟩

/-- A stop drops what waits to be started, and no session is live. -/
theorem kept_dropWaiting (kept : s.Kept) : { s with tidStartTx := none }.Kept where
  past := kept.past
  unborn := kept.unborn
  live t live := by
    have before := kept.live t live
    exact ⟨before.known, before.seen, before.starting, before.stopping, before.fresh,
      before.operational⟩
  waiting t waiting := by cases waiting
  busy := kept.busy
  exclusive := kept.exclusive

theorem stopTxBaSession_of_none (live : s.tidTx = none) (reason : AggStopReason) :
    (s.stopTxBaSession reason).1 = { s with tidStartTx := none } := by
  simp only [stopTxBaSession, live]

/-- A session that is being stopped is flushed again when the station goes, and left alone
otherwise. -/
theorem stopTxBaSession_of_stopping (live : s.tidTx = some t) (stopping : t.stopping = true)
    (reason : AggStopReason) :
    (s.stopTxBaSession reason).1 = { s with tidStartTx := none } ∨
      (s.stopTxBaSession reason).1 =
        { s with tidStartTx := none }.drvAmpduAction .stopFlushCont := by
  by_cases destroyed : reason = .destroySta
  · right
    simp [stopTxBaSession, live, stopping, destroyed]
  · left
    simp [stopTxBaSession, live, stopping, destroyed]

theorem stopTxBaSession_of_going (live : s.tidTx = some t) (going : t.stopping = false)
    (notFresh : t.wantStart = false) (reason : AggStopReason) :
    (s.stopTxBaSession reason).1 =
      { s with
        tidStartTx := none
        tidTx := some { t with stopping := true }
        txqStop := true
        stage := .stopTx reason (s.stage = .stopCb) } := by
  simp only [stopTxBaSession, live, going, notFresh, Bool.false_eq_true, if_false, modifyTx,
    Option.map_some]

theorem kept_stopTxBaSession (kept : s.Kept) (settled : s.stage.busy = false)
    (reason : AggStopReason) : (s.stopTxBaSession reason).1.Kept := by
  rcases live : s.tidTx with _ | t
  · rw [stopTxBaSession_of_none live]
    exact kept_dropWaiting kept
  have before := kept.live t live
  have seen := before.seen
  have agree := before.operational
  rw [not_atStop settled] at seen agree
  have notFresh : t.wantStart = false := by
    rw [← Bool.not_eq_true, before.starting]
    exact ne_starting settled
  rcases stopping : t.stopping with _ | _
  · -- the driver has not heard of the stop, and the session stays in its phase
    rw [stopTxBaSession_of_going live stopping notFresh reason]
    refine kept.of_advance live rfl rfl (fun _ _ => rfl) (kept.past t.id) ?_ nofun kept.exclusive
    intro t' live'
    cases live'
    refine ⟨rfl, before.known, ?_, ?_, fun _ => rfl, ?_, ?_⟩
    · simpa [TidAmpduTx.phase, Stage.atStop, notFresh, stopping, actions] using seen
    · simp [notFresh]
    · intro fresh
      rw [notFresh] at fresh
      cases fresh
    · simpa [Stage.atStop, stopping] using agree
  · rcases stopTxBaSession_of_stopping live stopping reason with same | same
    · rw [same]
      exact kept_dropWaiting kept
    · rw [same]
      have dropped := kept_dropWaiting kept
      have stopped : t.phase s.stage.atStop = .stopped := by
        simp [TidAmpduTx.phase, notFresh, stopping, not_atStop settled]
      have flushed : Seen .stopped (s.actions t.id ++ [.stopFlushCont]) :=
        .flush (stopped ▸ before.seen)
      have calls := actions_drvAmpduAction (s := { s with tidStartTx := none }) live
        .stopFlushCont
      refine dropped.of_advance live rfl rfl (fun id other => ?_) ⟨.stopped, ?_⟩ ?_ kept.busy
        kept.exclusive
      · rw [calls, if_neg other, List.append_nil]
      · rw [calls, if_pos rfl]
        exact flushed
      · intro t' live'
        cases live.symm.trans live'
        refine ⟨rfl, before.known, ?_, before.starting, before.stopping, before.fresh,
          before.operational⟩
        rw [calls, if_pos rfl]
        exact stopped ▸ flushed

theorem actions_stopTxBaSessionEnd (live : s.tidTx = some t) (reason : AggStopReason)
    (inWork : Bool) (id : Nat) :
    (s.stopTxBaSessionEnd reason inWork).actions id = s.actions id ++
      if id = t.id then [if reason = .destroySta then .stopFlush else .stopCont] else [] := by
  rw [← actions_drvAmpduAction live]
  simp [actions, stopTxBaSessionEnd, drvAmpduAction, modifyTx, live]

/-- The stop goes on, and the driver is told. -/
theorem kept_stopTxBaSessionEnd {reason : AggStopReason} {inWork : Bool} (kept : s.Kept)
    (stage : s.stage = .stopTx reason inWork) : (s.stopTxBaSessionEnd reason inWork).Kept := by
  have atStop : s.stage.atStop = true := by rw [stage]; rfl
  rcases Option.ne_none_iff_exists'.mp (kept.busy (busy_iff.mpr (.inr atStop))) with ⟨t, live⟩
  have before := kept.live t live
  have notFresh : t.wantStart = false := by
    rw [← Bool.not_eq_true, before.starting, stage]
    exact nofun
  have calls := actions_stopTxBaSessionEnd live reason inWork
  have seen : Seen .stopped (s.actions t.id ++
      [if reason = .destroySta then .stopFlush else .stopCont]) := by
    refine .stop before.seen ?_ (by split <;> simp)
    rw [TidAmpduTx.phase, notFresh, atStop, Bool.not_true, Bool.and_false]
    cases t.operational
    · exact .inl rfl
    · exact .inr rfl
  have settled : (s.stopTxBaSessionEnd reason inWork).stage.busy = false := by
    cases inWork <;> rfl
  refine kept.of_advance live rfl (kept.tidStartTx_eq_none live) (fun id other => ?_)
    ⟨.stopped, ?_⟩ ?_ (fun busy => absurd (settled.symm.trans busy) nofun) kept.exclusive
  · rw [calls, if_neg other, List.append_nil]
  · rw [calls, if_pos rfl]
    exact seen
  · intro t' live'
    have stopped : some t' = some { t with
        addbaRespTimer := false
        sessionTimer := false
        operational := false
        stopInitiator := decide (reason ≠ .peerRequest)
        txStop := decide (reason = .localRequest) } := by
      rw [← live']
      simp [stopTxBaSessionEnd, drvAmpduAction, modifyTx, live]
    cases stopped
    have stopping := before.stopping atStop
    refine ⟨rfl, before.known, ?_, ?_, fun _ => stopping, ?_, ?_⟩
    · rw [calls, if_pos rfl, not_atStop settled]
      simpa [TidAmpduTx.phase, notFresh, stopping] using seen
    · simp [notFresh, ne_starting settled]
    · intro fresh
      rw [notFresh] at fresh
      cases fresh
    · simp [stopping, not_atStop settled]

theorem handleStart_frame (answer : StartAnswer) (now : Nat) :
    (s.handleStart answer now).nextId = s.nextId ∧
      (s.handleStart answer now).tidStartTx = s.tidStartTx ∧
      (s.handleStart answer now).stage = s.stage ∧
      (s.handleStart answer now).setOperational = s.setOperational := by
  unfold handleStart
  simp only [drvAmpduAction, modifyTx, aggStartTxq]
  split <;> exact ⟨rfl, rfl, rfl, rfl⟩

theorem tidTx_handleStart (live : s.tidTx = some t) (answer : StartAnswer) (now : Nat) :
    (s.handleStart answer now).tidTx =
      if answer = .refused then none
      else some { t with
        wantStart := false
        drvReady := t.drvReady || decide (answer = .immediate)
        addbaRespTimer := true } := by
  unfold handleStart
  simp only [drvAmpduAction, modifyTx, aggStartTxq, live]
  split <;> rfl

theorem actions_handleStart (live : s.tidTx = some t) (answer : StartAnswer) (now id : Nat) :
    (s.handleStart answer now).actions id =
      s.actions id ++ if id = t.id then [.start] else [] := by
  rw [← actions_drvAmpduAction live]
  unfold handleStart
  simp only [actions, drvAmpduAction, modifyTx, aggStartTxq, live]
  split <;> rfl

/-- The work calls `ieee80211_tx_ba_session_handle_start`, and is done with the TID. -/
theorem kept_handleStart (kept : s.Kept) (stage : s.stage = .starting) (answer : StartAnswer)
    (now : Nat) : ({ s with stage := .idle }.handleStart answer now).Kept := by
  rcases Option.ne_none_iff_exists'.mp (kept.busy (busy_iff.mpr (.inl stage))) with ⟨t, live⟩
  have before := kept.live t live
  have wantStart : t.wantStart = true := before.starting.mpr stage
  rcases before.fresh wantStart with ⟨notStopping, notReady, notReceived⟩
  have seen : Seen .started (s.actions t.id ++ [.start]) := by
    have fresh : t.phase s.stage.atStop = .fresh := by simp [TidAmpduTx.phase, wantStart]
    exact .start (fresh ▸ before.seen)
  have calls (id : Nat) : ({ s with stage := .idle }.handleStart answer now).actions id =
      s.actions id ++ if id = t.id then [.start] else [] :=
    actions_handleStart (s := { s with stage := .idle }) live answer now id
  rcases handleStart_frame (s := { s with stage := .idle }) answer now with
    ⟨nextId, waiting, stays, only⟩
  refine kept.of_advance live nextId (waiting.trans (kept.tidStartTx_eq_none live))
    (fun id other => ?_) ⟨.started, ?_⟩ ?_ ?_ (by rw [only]; exact kept.exclusive)
  · rw [calls, if_neg other, List.append_nil]
  · rw [calls, if_pos rfl]
    exact seen
  · intro t' live'
    rw [tidTx_handleStart (s := { s with stage := .idle }) live] at live'
    split at live'
    · cases live'
    · cases live'
      have notOperational : t.operational = false := by
        rw [before.operational, notReceived, Bool.and_false, Bool.false_and]
      refine ⟨rfl, ?_, ?_, ?_, ?_, nofun, ?_⟩
      · rw [nextId]
        exact before.known
      · rw [calls, if_pos rfl]
        simpa [TidAmpduTx.phase, notStopping, notOperational] using seen
      · rw [stays]
        exact ⟨nofun, nofun⟩
      · rw [stays]
        exact nofun
      · simp only [notOperational, notReceived, Bool.and_false, Bool.false_and]
  · rw [stays]
    exact nofun

/-! ## The driver is ready -/

/-- The start callback of the driver does not come to a session that is being stopped though
it was accepted, and that the driver was not ready for. -/
def TimelyStart (t : TidAmpduTx) : Prop :=
  ¬(t.stopping = true ∧ t.responseReceived = true ∧ t.drvReady = false)

theorem tidTx_aggTxOperational (live : s.tidTx = some t) :
    s.aggTxOperational.tidTx = some { t with operational := true } := by
  simp only [aggTxOperational, drvAmpduAction, modifyTx, aggStartTxq, live, Option.map_some]

theorem actions_aggTxOperational (live : s.tidTx = some t) (id : Nat) :
    s.aggTxOperational.actions id =
      s.actions id ++ if id = t.id then [.operational] else [] := by
  rw [← actions_drvAmpduAction live]
  rfl

/-- Bits of the live session change that do not make another phase of it. -/
theorem Kept.of_samePhase (kept : s.Kept) (live : s.tidTx = some t) (settled : s.stage.busy = false)
    (id : (change t).id = t.id) (wantStart : (change t).wantStart = t.wantStart)
    (phase : (change t).phase false = t.phase false) (operational : (change t).operational =
      ((change t).drvReady && (change t).responseReceived && !(change t).stopping)) :
    (s.modifyTx change).Kept := by
  have before := kept.live t live
  have seen := before.seen
  rw [not_atStop settled, ← phase, ← id] at seen
  refine kept.of_advance live rfl (kept.tidStartTx_eq_none live) (fun _ _ => rfl)
    (kept.past t.id) ?_ (fun busy => absurd (settled.symm.trans busy) nofun) kept.exclusive
  intro t' live'
  rw [modifyTx, live, Option.map_some, Option.some.injEq] at live'
  rw [← live']
  have notAtStop : (s.modifyTx change).stage.atStop = false := not_atStop settled
  refine ⟨id, ?_, notAtStop ▸ seen, ?_, ?_, ?_, ?_⟩
  · rw [id]
    exact before.known
  · rw [wantStart]
    exact before.starting
  · rw [notAtStop]
    exact nofun
  · intro fresh
    exact absurd (before.starting.mp (wantStart ▸ fresh)) (ne_starting settled)
  · rw [notAtStop, Bool.or_false]
    exact operational

/-- A session that was started and is not being stopped becomes operational when the last of
the two bits it waits for is set. -/
theorem Kept.of_operational (kept : s.Kept) (live : s.tidTx = some t)
    (settled : s.stage.busy = false) (notYet : t.operational = false) (going : t.stopping = false)
    (id : (change t).id = t.id) (wantStart : (change t).wantStart = t.wantStart)
    (stopping : (change t).stopping = t.stopping) (ready : (change t).drvReady = true)
    (received : (change t).responseReceived = true) :
    (s.modifyTx change).aggTxOperational.Kept := by
  have before := kept.live t live
  have notFresh : t.wantStart = false := by
    rw [← Bool.not_eq_true, before.starting]
    exact ne_starting settled
  have changed : (s.modifyTx change).tidTx = some (change t) := by
    rw [modifyTx, live, Option.map_some]
  have seen : Seen .operational (s.actions t.id ++ [.operational]) := by
    have started : t.phase s.stage.atStop = .started := by
      simp [TidAmpduTx.phase, notFresh, going, notYet]
    exact .operational (started ▸ before.seen)
  have calls (id' : Nat) : (s.modifyTx change).aggTxOperational.actions id' =
      s.actions id' ++ if id' = t.id then [.operational] else [] := by
    rw [actions_aggTxOperational changed, id]
    rfl
  have notAtStop : (s.modifyTx change).aggTxOperational.stage.atStop = false := not_atStop settled
  refine kept.of_advance live rfl (kept.tidStartTx_eq_none live) (fun id' other => ?_)
    ⟨.operational, ?_⟩ ?_ (fun busy => absurd (settled.symm.trans busy) nofun) fun t' member => ?_
  · rw [calls, if_neg other, List.append_nil]
  · rw [calls, if_pos rfl]
    exact seen
  · intro t' live'
    rw [tidTx_aggTxOperational changed, Option.some.injEq] at live'
    rw [← live']
    refine ⟨id, ?_, ?_, ?_, ?_, ?_, ?_⟩
    · exact id ▸ before.known
    · rw [id, calls, if_pos rfl]
      simpa [TidAmpduTx.phase, wantStart, notFresh, stopping, going] using seen
    · exact wantStart ▸ before.starting
    · rw [notAtStop]
      exact nofun
    · intro fresh
      rw [wantStart, notFresh] at fresh
      cases fresh
    · simp only [ready, received, stopping, going, Bool.and_self, Bool.not_false, Bool.true_or]
  · rcases List.mem_append.mp member with earlier | here
    · exact kept.exclusive t' earlier
    · obtain rfl : t' = change t := by
        simpa [drvAmpduAction, changed] using here
      exact stopping.trans going

theorem kept_startTxBaCb (kept : s.Kept) (settled : s.stage.busy = false)
    (timely : ∀ t, s.tidTx = some t → TimelyStart t) : s.startTxBaCb.Kept := by
  unfold startTxBaCb
  split
  · exact kept
  rename_i t live
  split
  · exact kept
  rename_i notReady
  rw [Bool.not_eq_true] at notReady
  have before := kept.live t live
  have notYet : t.operational = false := by
    rw [before.operational, notReady, Bool.false_and, Bool.false_and]
  by_cases received : t.responseReceived = true
  · have going : t.stopping = false := by
      rw [← Bool.not_eq_true]
      exact fun stopping => timely t live ⟨stopping, received, notReady⟩
    rw [if_pos received]
    exact kept.of_operational live settled notYet going rfl rfl rfl rfl received
  · rw [if_neg received]
    rw [Bool.not_eq_true] at received
    refine kept.of_samePhase live settled rfl rfl rfl ?_
    simp only [notYet, received, Bool.and_false, Bool.false_and]

/-- The session is gone when the driver has stopped. -/
theorem kept_stopTxBaCb (kept : s.Kept) (settled : s.stage.busy = false) :
    s.stopTxBaCb.Kept := by
  unfold stopTxBaCb
  split
  · exact kept
  rename_i t live
  split
  · exact kept
  · exact kept.of_freed live rfl (kept.tidStartTx_eq_none live) rfl rfl rfl settled

theorem kept_processAddbaResp (kept : s.Kept) (settled : s.stage.busy = false)
    (resp : AddbaResp) (now : Nat) : (s.processAddbaResp env resp now).Kept := by
  unfold processAddbaResp
  extract_lets bufSize flagged silent received
  have keptFlagged : flagged.Kept := by
    unfold flagged
    split
    · exact kept
    · have quiet : Quiet s { s with txqNoAmsdu := true } := ⟨rfl, rfl, rfl, rfl, Iff.rfl, rfl, rfl⟩
      exact quiet.kept kept
  have stage : flagged.stage.busy = false := by
    unfold flagged
    split <;> exact settled
  clear_value flagged
  split
  · exact keptFlagged
  rename_i t live
  by_cases wrongToken : resp.dialogToken ≠ t.dialogToken
  · rw [if_pos wrongToken]
    exact keptFlagged
  rw [if_neg wrongToken]
  have keptSilent : silent.Kept := keptFlagged.changed fun _ => rfl
  have liveSilent : silent.tidTx = some { t with addbaRespTimer := false } := by
    unfold silent
    rw [modifyTx, live, Option.map_some]
  have stageSilent : silent.stage.busy = false := stage
  by_cases givenUp : (t.wantStop || t.stopping) = true
  · rw [if_pos givenUp]
    exact keptSilent
  rw [if_neg givenUp]
  simp only [Bool.or_eq_true, not_or, Bool.not_eq_true] at givenUp
  by_cases accepted : (resp.success && bufSize != 0) = true
  · by_cases duplicate : t.responseReceived = true
    · rw [if_pos accepted, if_pos duplicate]
      exact keptSilent
    rw [if_pos accepted, if_neg duplicate]
    rw [Bool.not_eq_true] at duplicate
    have notYet : t.operational = false := by
      rw [(keptFlagged.live t live).operational, duplicate, Bool.and_false, Bool.false_and]
    extract_lets taken counted
    have keptTaken : taken.Kept := by
      unfold taken
      split
      · rename_i ready
        exact keptSilent.of_operational liveSilent stageSilent notYet givenUp.2 rfl rfl rfl
          ready rfl
      · rename_i notReady
        rw [Bool.not_eq_true] at notReady
        refine keptSilent.of_samePhase liveSilent stageSilent rfl rfl rfl ?_
        simp only [notYet, notReady, Bool.false_and]
    have keptCounted : counted.Kept := by
      have quiet : Quiet taken counted := ⟨rfl, rfl, rfl, rfl, Iff.rfl, rfl, rfl⟩
      exact quiet.kept keptTaken
    refine keptCounted.changed fun t => ?_
    split <;> rfl
  · rw [if_neg accepted]
    exact kept_stopTxBaSession keptSilent stageSilent .declined

/-! ## The session work -/

/-- The work goes on to a part of it that neither starts nor stops a session. -/
theorem Kept.goOn (kept : s.Kept) (settled : s.stage.busy = false) (stage : Stage)
    (later : stage.busy = false) : { s with stage := stage }.Kept := by
  have quiet : Quiet s { s with stage := stage } :=
    ⟨rfl, rfl, rfl, rfl, iff_of_false (ne_starting (s := { s with stage := stage }) later)
      (ne_starting settled), (not_atStop (s := { s with stage := stage }) later).trans
        (not_atStop settled).symm, rfl⟩
  exact quiet.kept kept

theorem kept_workBegin (kept : s.Kept) (idle : s.stage = .idle) (blocked : Bool) :
    (s.workBegin blocked).Kept := by
  have quiet : { s with stage := .startCb blocked }.Kept := kept.goOn (idle ▸ rfl) _ rfl
  unfold workBegin
  split
  · rename_i t pending
    split
    · exact quiet
    · have waits := kept.waiting t pending
      refine ⟨kept.past, kept.unborn, ?_, ?_, ?_, kept.exclusive⟩
      · intro t' live
        rw [waits.alone] at live
        cases live
        refine ⟨waits.known, ?_, ?_, nofun, ?_, ?_⟩
        · rw [TidAmpduTx.phase, waits.wantStart, if_pos rfl]
          exact waits.unseen ▸ Seen.fresh
        · exact ⟨fun _ => rfl, fun _ => waits.wantStart⟩
        · exact fun _ => ⟨waits.stopping, waits.drvReady, waits.responseReceived⟩
        · rw [waits.operational, waits.drvReady, Bool.false_and, Bool.false_and]
      · intro t' moved
        cases moved
      · intro _ gone
        rw [waits.alone] at gone
        cases gone
  · exact quiet

theorem kept_workStartCb {blocked : Bool} (kept : s.Kept) (stage : s.stage = .startCb blocked)
    (timely : blocked = false → ∀ t, s.tidTx = some t → t.startCb = true → TimelyStart t) :
    (s.workStartCb blocked).Kept := by
  have settled : s.stage.busy = false := by rw [stage]; rfl
  unfold workStartCb
  split
  · exact kept.goOn settled .idle rfl
  rename_i t live
  extract_lets next
  have keptNext : next.Kept := kept.goOn settled .wantStop rfl
  split
  · rename_i called
    simp only [Bool.and_eq_true, Bool.not_eq_true'] at called
    refine kept_startTxBaCb (keptNext.changed fun _ => rfl) rfl ?_
    intro t' live'
    have taken : some { t with startCb := false } = some t' := by
      rw [← live', modifyTx, show next.tidTx = s.tidTx from rfl, live, Option.map_some]
    cases taken
    exact timely called.1 t live called.2
  · exact keptNext

theorem kept_workWantStop (kept : s.Kept) (stage : s.stage = .wantStop) :
    s.workWantStop.Kept := by
  have settled : s.stage.busy = false := by rw [stage]; rfl
  unfold workWantStop
  extract_lets next
  have keptNext : next.Kept := kept.goOn settled .stopCb rfl
  split
  · refine kept_stopTxBaSession ?_ ?_ .localRequest
    · exact keptNext.changed fun _ => rfl
    · rfl
  · exact keptNext

theorem kept_workStopCb (kept : s.Kept) (stage : s.stage = .stopCb) : s.workStopCb.Kept := by
  have settled : s.stage.busy = false := by rw [stage]; rfl
  unfold workStopCb
  extract_lets next
  have keptNext : next.Kept := kept.goOn settled .idle rfl
  split
  · exact kept_stopTxBaCb (keptNext.changed fun _ => rfl) rfl
  · exact keptNext

theorem kept_tearDownEnd (kept : s.Kept) (settled : s.stage.busy = false) :
    s.tearDownEnd.Kept := by
  unfold tearDownEnd
  split
  · exact kept_stopTxBaCb (kept.changed fun _ => rfl) settled
  · exact kept

end BaState

open BaState

/-! ## Runs -/

/-- The session work comes to no start callback for a session that is being stopped, was
accepted before, and that the driver had not been ready for. -/
def Proper (s : BaState) : Event → Prop
  | .workPart _ _ => s.stage = .startCb false →
      ∀ t, s.tidTx = some t → t.startCb = true → TimelyStart t
  | _ => True

theorem kept_step {env : BaEnv} (s : BaState) (event : Event) (kept : s.Kept)
    (proper : Proper s event) : (step env s event).Kept := by
  have settled : s.stage = .idle → s.stage.busy = false := by
    intro idle
    rw [idle]
    rfl
  cases event with
  | startTxBaSession timeout now allocated => exact kept_startTxBaSession kept timeout now allocated
  | otherTid =>
      have quiet : Quiet s (step env s .otherTid) := ⟨rfl, rfl, rfl, rfl, Iff.rfl, rfl, rfl⟩
      exact quiet.kept kept
  | stopTxBaSession => exact quiet_requestStop.kept kept
  | addbaRespTimer => exact quiet_addbaRespTimerExpired.kept kept
  | sessionTimer now => exact (quiet_sessionTimerExpired now).kept kept
  | startTxBaCbIrqsafe =>
      rw [step, startTxBaCbIrqsafe]
      exact kept.changed fun _ => rfl
  | stopTxBaCbIrqsafe =>
      rw [step, stopTxBaCbIrqsafe]
      exact kept.changed fun _ => rfl
  | transmit now => exact (quiet_transmit now).kept kept
  | setBlockBa blocked =>
      have quiet : Quiet s (step env s (.setBlockBa blocked)) :=
        ⟨rfl, rfl, rfl, rfl, Iff.rfl, rfl, rfl⟩
      exact quiet.kept kept
  | workBegin blocked =>
      simp only [step]
      split
      · exact kept_workBegin kept ‹_› blocked
      · exact kept
  | workPart answer now =>
      simp only [step, workPart]
      split
      · exact kept
      · exact kept_handleStart kept ‹_› answer now
      · rename_i blocked stage
        refine kept_workStartCb kept stage fun free => ?_
        exact proper (free ▸ stage)
      · exact kept_workWantStop kept ‹_›
      · exact kept_workStopCb kept ‹_›
      · exact kept_stopTxBaSessionEnd kept ‹_›
  | addbaResp resp now =>
      simp only [step]
      split
      · exact kept_processAddbaResp kept (settled ‹_›) resp now
      · exact kept
  | stop reason =>
      simp only [step]
      split
      · exact kept_stopTxBaSession kept (settled ‹_›) reason
      · exact kept
  | tearDownEnd =>
      simp only [step]
      split
      · exact kept_tearDownEnd kept (settled ‹_›)
      · exact kept

/-- A start callback that is not timely makes a session operational that is being stopped. -/
theorem proper_of_lifeCycle {env : BaEnv} (s : BaState) (event : Event)
    (life : (step env s event).LifeCycle) : Proper s event := by
  cases event with
  | workPart answer now =>
      rintro stage t live called ⟨stopping, received, notReady⟩
      have operational : (step env s (.workPart answer now)).tidTx =
          some { t with startCb := false, drvReady := true, operational := true } := by
        simp [step, workPart, stage, workStartCb, live, called, startTxBaCb, modifyTx, received,
          notReady, aggTxOperational, drvAmpduAction, aggStartTxq]
      have atStop := life.cleared _ (Or.inl operational) rfl stopping
      simp [step, workPart, stage, workStartCb, live, called, startTxBaCb, modifyTx, received,
        notReady, aggTxOperational, drvAmpduAction, aggStartTxq, Stage.atStop] at atStop
  | _ => trivial

/-- The life cycle of transmit block-ack sessions is kept in every state of a run exactly when
no start callback is taken up for a session that is being stopped after it was accepted. -/
theorem lifeCycle_iff_proper (env : BaEnv) (events : List Event) :
    (∀ before, before <+: events → (before.foldl (step env) {}).LifeCycle) ↔
      Lib.Admissible (step env) Proper {} events :=
  Lib.forall_reached_iff_of_invariant (fun _ kept => kept.lifeCycle) (fun s e => kept_step s e)
    (fun s e _ => proper_of_lifeCycle s e) kept_start

/-- A station with HT on hardware that takes its time to start. -/
def slowStation : BaEnv where
  hz := 250
  maxTxAggregationSubframes := 64
  reservedTid := false
  htSupported := true
  ampduAction := true
  ampduAggregation := true
  txAmpduSetupInHw := false
  tspecTid := false
  vifType := .station

/-- The peer accepts, then ends the session before the callback of the driver to its start is
taken up. -/
def lateStart : List Event :=
  [.startTxBaSession 0 0 true, .workBegin false, .workPart .deferred 0,
    .addbaResp { dialogToken := 1, success := true, bufSize := 64, amsdu := false, timeout := 0 } 1,
    .startTxBaCbIrqsafe, .stop .peerRequest, .workPart .deferred 2, .workBegin false,
    .workPart .deferred 2]

/-- The driver is told that the session is operational after it was told to stop it. -/
theorem lateStart_not_lifeCycle :
    (lateStart.foldl (step slowStation) {}).actions 0 = [.start, .stopCont, .operational] ∧
      ¬(lateStart.foldl (step slowStation) {}).LifeCycle := by
  refine ⟨by decide, fun life => ?_⟩
  have operational : ∃ t ∈ (lateStart.foldl (step slowStation) {}).setOperational,
      t.stopping = true := ⟨_, List.mem_singleton.mpr rfl, by decide⟩
  rcases operational with ⟨t, member, stopping⟩
  rw [life.exclusive t member] at stopping
  cases stopping

end Iwlwifi.AggTx
