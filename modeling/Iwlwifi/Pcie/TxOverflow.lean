import Iwlwifi.Pcie.TxReclaim

/-!
# The overflow queue

A frame for which the ring has no room is accepted on the overflow queue, and the queue is
marked as stopped.  A reclaim that makes room transmits the overflow queue again, in order,
and the frames that do not fit go back to it.  It does not look at what became of each: a
frame that the transmission refuses is on neither.
-/

namespace Iwlwifi

open Lib

variable {Skb : Type} {c : TransConfig} {txq : Txq Skb} {env : Skb → TxEnv}

/-- The overflow queue keeps the order and loses nothing: the accepted frames are those
reclaimed, those in flight and those of the overflow queue, in this order, and the queue is
stopped while there are any of the last. -/
def OverflowKept (c : TransConfig) (s : TxRun Skb) : Prop :=
  (∃ inflight, s.accepted = s.reclaimed ++ inflight ++ s.txq.overflowQ ∧
      s.entered = s.reclaimed ++ inflight ∧ InFlight c s.txq inflight) ∧
    (s.txq.overflowQ ≠ [] → s.txq.queueStopped = true)

/-- No frame is submitted from outside while the queue is stopped. -/
def RunsWhileAwake (s : TxRun Skb) : TxEvent Skb → Prop
  | .tx _ _ => s.txq.queueStopped = false
  | .reclaim _ _ => True
  | .setQPtrs _ => False

/-- Of the frames that are transmitted again with this space, none is refused, and those
that fit on the ring can be built. -/
def Resubmittable (c : TransConfig) (env : Skb → TxEnv) (space : Nat) (skbs : List Skb) :
    Prop :=
  ∀ i (before : i < skbs.length), (env skbs[i]).Sendable c ∧
    (i + min 3 (highMark c.sizes) ≤ space → (env skbs[i]).built = true)

/-- The space that a reclaim of `k` frames leaves. -/
def roomAfter (q : QueueSizes) (txq : Txq Skb) (k : Nat) : Nat :=
  iwlQueueSpace q ((txq.readPtr + k) % q.maxTfdQueueSize) txq.writePtr

/-- The reclaim of `k` frames makes enough room to transmit the overflow queue. -/
def Restarts (q : QueueSizes) (txq : Txq Skb) (ssn k : Nat) : Prop :=
  Before q txq ssn k ∧ k ≤ ringDist q.maxTfdQueueSize txq.readPtr txq.writePtr ∧
    lowMark q < roomAfter q txq k

/-- When a reclaim makes enough room on a stopped queue, the transmission of its overflow
queue fails for no frame. -/
def ResubmitsAll (c : TransConfig) (s : TxRun Skb) : TxEvent Skb → Prop
  | .reclaim ssn env =>
    ∀ k, Restarts c.sizes s.txq ssn k → s.txq.queueStopped = true →
      Resubmittable c env (roomAfter c.sizes s.txq k) s.txq.overflowQ
  | _ => True

/-- Every reclaim that makes enough room puts the first frames of the overflow queue on the
ring. -/
def Drains (c : TransConfig) (s : TxRun Skb) : Prop :=
  ∀ ssn env k, Restarts c.sizes s.txq ssn k → ResubmitsAll c s (.reclaim ssn env) →
    s.txq.queueUsed = true → s.txq.overflowQ ≠ [] →
    ∃ first rest, first ≠ [] ∧ s.txq.overflowQ = first ++ rest ∧
      (s.reclaim c ssn env).entered = s.entered ++ first

/-! ## Transmitting the overflow queue -/

theorem not_full_of_lowMark_lt
    (room : lowMark c.sizes < iwlQueueSpace c.sizes txq.readPtr txq.writePtr) :
    ¬QueueFull c.sizes txq := by
  have low := four_le_lowMark c.sizes
  rintro ⟨-, small⟩
  omega

/-- The frames that fit are put on the ring, the others go back in order. -/
theorem txOverflow_kept (skbs : List Skb) (used : txq.queueUsed = true)
    (stopped : txq.queueStopped = true)
    (sendable : Resubmittable c env (iwlQueueSpace c.sizes txq.readPtr txq.writePtr) skbs)
    (behind : txq.overflowQ ≠ [] → QueueFull c.sizes txq) :
    txq.overflowQ ++ skbs =
        (txOverflow c env txq skbs).2 ++ (txOverflow c env txq skbs).1.overflowQ ∧
      (txOverflow c env txq skbs).1.queueStopped = true ∧
      ((txOverflow c env txq skbs).1.overflowQ ≠ [] →
        QueueFull c.sizes (txOverflow c env txq skbs).1) := by
  induction skbs generalizing txq with
  | nil => exact ⟨by simp [txOverflow], stopped, behind⟩
  | cons skb rest ih =>
    have outcome := iwlTransTx_outcome c txq skb (env skb)
    obtain ⟨accepts, builds⟩ := sendable 0 (Nat.zero_lt_succ _)
    rw [List.getElem_cons_zero] at accepts builds
    rw [txOverflow]
    dsimp only
    generalize iwlTransTx c txq skb (env skb) = sent at *
    cases outcome with
    | refused ret failed reason => exact absurd ⟨used, accepts⟩ reason
    | overflowed full =>
      have after := @ih
        { txq with overflowQ := txq.overflowQ ++ [skb], queueStopped := true } used rfl
        (fun i before => ⟨(sendable (i + 1) (Nat.succ_lt_succ before)).1, fun fits => by
          obtain ⟨high, three⟩ := full
          dsimp only at fits
          omega⟩)
        fun _ => full
      simpa using after
    | unbuilt room reason =>
      have fits : 0 + min 3 (highMark c.sizes) ≤
          iwlQueueSpace c.sizes txq.readPtr txq.writePtr := by
        unfold QueueFull at room
        omega
      rw [builds fits] at reason
      cases reason
    | placed room =>
      have empty : txq.overflowQ = [] := by
        by_contra held
        exact room (behind held)
      have space := iwlQueueSpace_inc c.sizes (two_le_of_not_full room)
      obtain ⟨whole, after⟩ := @ih
        { txq with
          entries := Function.update txq.entries (c.slot txq.writePtr) (some skb)
          writePtr := iwlQueueIncWrap c.sizes txq.writePtr
          queueStopped := markStopped c.sizes txq } used
        (by dsimp only; rw [markStopped, stopped, Bool.true_or])
        (fun i before => by
          have later := sendable (i + 1) (Nat.succ_lt_succ before)
          rw [List.getElem_cons_succ] at later
          exact ⟨later.1, fun fits => later.2 (by dsimp only at fits; omega)⟩)
        (fun held => absurd empty held)
      refine ⟨?_, after⟩
      dsimp only at whole
      rw [empty, List.nil_append] at whole ⊢
      rw [if_pos rfl, List.singleton_append, List.cons_append, ← whole]

theorem restartOverflow_kept (used : txq.queueUsed = true)
    (sendable : lowMark c.sizes < iwlQueueSpace c.sizes txq.readPtr txq.writePtr →
      txq.queueStopped = true →
      Resubmittable c env (iwlQueueSpace c.sizes txq.readPtr txq.writePtr) txq.overflowQ)
    (held : txq.overflowQ ≠ [] → txq.queueStopped = true) :
    txq.overflowQ = (restartOverflow c env txq).2 ++ (restartOverflow c env txq).1.overflowQ ∧
      ((restartOverflow c env txq).1.overflowQ ≠ [] →
        (restartOverflow c env txq).1.queueStopped = true) := by
  unfold restartOverflow
  split
  · rename_i restarts
    obtain ⟨whole, stopped, full⟩ := @txOverflow_kept Skb c { txq with overflowQ := [] } env
      txq.overflowQ used restarts.2 (sendable restarts.1 restarts.2) (absurd rfl)
    dsimp only at whole ⊢
    split
    · rename_i room
      refine ⟨whole, fun some => absurd (full some) (not_full_of_lowMark_lt room)⟩
    · exact ⟨whole, fun _ => stopped⟩
  · exact ⟨rfl, held⟩

/-- The first frame of the overflow queue finds room. -/
theorem txOverflow_ne_nil {skbs : List Skb} (used : txq.queueUsed = true)
    (room : lowMark c.sizes < iwlQueueSpace c.sizes txq.readPtr txq.writePtr)
    (sendable : Resubmittable c env (iwlQueueSpace c.sizes txq.readPtr txq.writePtr) skbs)
    (some : skbs ≠ []) : (txOverflow c env txq skbs).2 ≠ [] := by
  have low := four_le_lowMark c.sizes
  cases skbs with
  | nil => exact absurd rfl some
  | cons skb rest =>
    have outcome := iwlTransTx_outcome c txq skb (env skb)
    obtain ⟨accepts, builds⟩ := sendable 0 (Nat.zero_lt_succ _)
    rw [List.getElem_cons_zero] at accepts builds
    rw [txOverflow]
    dsimp only
    generalize iwlTransTx c txq skb (env skb) = sent at *
    cases outcome with
    | refused ret failed reason => exact absurd ⟨used, accepts⟩ reason
    | overflowed full => exact absurd full (not_full_of_lowMark_lt room)
    | unbuilt _ reason =>
      rw [builds (by omega)] at reason
      cases reason
    | placed _ => simp

/-! ## Runs -/

/-- What a step does to the accepted frames and the stopped bit, beside the account of the
frames on the ring. -/
def InOrderKept (s : TxRun Skb) : Prop :=
  s.accepted = s.entered ++ s.txq.overflowQ ∧
    (s.txq.overflowQ ≠ [] → s.txq.queueStopped = true)

variable {s : TxRun Skb}

theorem overflowKept_iff : OverflowKept c s ↔ InOrderKept s ∧ Accounted c s := by
  constructor
  · rintro ⟨⟨inflight, accepted, entered, flight⟩, stopped⟩
    exact ⟨⟨by rw [accepted, entered], stopped⟩, inflight, entered, flight⟩
  · rintro ⟨⟨accepted, stopped⟩, inflight, entered, flight⟩
    exact ⟨⟨inflight, by rw [accepted, entered], entered, flight⟩, stopped⟩

theorem InOrderKept.tx (kept : InOrderKept s) (awake : s.txq.queueStopped = false) (skb : Skb)
    (env : TxEnv) : InOrderKept (s.tx c skb env) := by
  obtain ⟨accepted, stopped⟩ := kept
  have empty : s.txq.overflowQ = [] := by
    by_contra held
    rw [stopped held] at awake
    cases awake
  rw [empty, List.append_nil] at accepted
  have outcome := iwlTransTx_outcome c s.txq skb env
  unfold TxRun.tx InOrderKept
  dsimp only
  generalize iwlTransTx c s.txq skb env = sent at *
  cases outcome with
  | refused ret failed reason =>
    rw [if_neg (by dsimp only; omega)]
    simp [accepted, empty]
  | overflowed full => simp [accepted, empty]
  | unbuilt room reason => simp [accepted, empty]
  | placed room => simp [accepted, empty]

/-- A reclaim, with the overflow queue transmitted for which it makes room. -/
theorem InOrderKept.reclaim (kept : InOrderKept s) (accounted : Accounted c s) {ssn : Nat}
    {env : Skb → TxEnv} (resubmits : ResubmitsAll c s (.reclaim ssn env)) :
    InOrderKept (s.reclaim c ssn env) := by
  obtain ⟨accepted, stopped⟩ := kept
  obtain ⟨inflight, -, flight⟩ := accounted
  unfold TxRun.reclaim InOrderKept
  dsimp only
  rcases iwlTransPcieReclaim_cases flight ssn env with
    unchanged | ⟨first, rest, rfl, before, used⟩
  · rw [unchanged]
    exact ⟨by simpa using accepted, stopped⟩
  · have count := flight.count
    rw [List.length_append] at count
    obtain ⟨whole, held⟩ := @restartOverflow_kept Skb c (s.txq.freed c.sizes first.length) env
      used (fun room running => resubmits _ ⟨before, by omega, room⟩ running) stopped
    rw [reclaim_of_before flight before used env]
    refine ⟨?_, held⟩
    rw [accepted, List.append_assoc, ← whole]
    rfl

theorem OverflowKept.step (kept : OverflowKept c s) (indexed : c.Indexed) {event : TxEvent Skb}
    (awake : RunsWhileAwake s event) (resubmits : ResubmitsAll c s event) :
    OverflowKept c (txStep c s event) := by
  rw [overflowKept_iff] at kept ⊢
  cases event with
  | tx skb env => exact ⟨kept.1.tx awake skb env, kept.2.tx indexed skb env⟩
  | reclaim ssn env =>
    exact ⟨kept.1.reclaim kept.2 resubmits, kept.2.reclaim indexed ssn env⟩
  | setQPtrs ptr => exact awake.elim

theorem OverflowKept.drains (kept : OverflowKept c s) : Drains c s := by
  intro ssn env k restarts resubmits used held
  obtain ⟨⟨inflight, -, -, flight⟩, stopped⟩ := kept
  obtain ⟨before, within, room⟩ := restarts
  have sendable := resubmits k ⟨before, within, room⟩ (stopped held)
  rw [flight.count] at within
  have size := List.length_take_of_le within
  rw [← List.take_append_drop k inflight] at flight
  have taken := reclaim_of_before flight (by rwa [size]) used env
  rw [size] at taken
  obtain ⟨whole, -⟩ := @restartOverflow_kept Skb c (s.txq.freed c.sizes k) env used
    (fun _ _ => sendable) stopped
  refine ⟨_, _, ?_, whole, ?_⟩
  · unfold restartOverflow
    rw [if_pos ⟨room, stopped held⟩]
    dsimp only
    rw [apply_ite Prod.snd, ite_self]
    exact txOverflow_ne_nil used room sendable held
  · unfold TxRun.reclaim
    rw [taken]

/-- As long as every transmission of the overflow queue succeeds, frames enter the ring in
the order in which they were accepted, each is on the ring or on the overflow queue until it
is reclaimed, and the overflow queue is transmitted when there is room. -/
theorem overflow_kept (c : TransConfig) (indexed : c.Indexed) (queueUsed : Bool)
    (events : List (TxEvent Skb))
    (run : Admissible (txStep c)
      (fun s event => RunsWhileAwake s event ∧ ResubmitsAll c s event)
      (TxRun.init queueUsed) events) :
    OverflowKept c (events.foldl (txStep c) (TxRun.init queueUsed)) ∧
      Drains c (events.foldl (txStep c) (TxRun.init queueUsed)) := by
  have kept : OverflowKept c (events.foldl (txStep c) (TxRun.init queueUsed)) := by
    refine run.invariant (fun _ _ kept step => kept.step indexed step.1 step.2) ?_
    exact overflowKept_iff.mpr ⟨⟨rfl, absurd rfl⟩, accounted_init c queueUsed⟩
  exact ⟨kept, kept.drains⟩

instance (s : TxRun Skb) : (event : TxEvent Skb) → Decidable (RunsWhileAwake s event)
  | .tx _ _ => inferInstanceAs (Decidable (_ = false))
  | .reclaim _ _ => inferInstanceAs (Decidable True)
  | .setQPtrs _ => inferInstanceAs (Decidable False)

/-- A queue of 16 entries, as a management queue has on the second generation. -/
def managementConfig : TransConfig := ⟨.ofLog 4 8 (by decide), true⟩

/-- Sixteen frames, the last of which overflows. -/
def overflowing : List (TxEvent Nat) := (List.range 16).map fun skb => .tx skb clearWay

/-- The ring is emptied, and the frame of the overflow queue is put on it. -/
def overflowSentEvents : List (TxEvent Nat) :=
  overflowing ++ [.reclaim 15 fun _ => clearWay]

/-- A transmission that meets nothing in its way does not fail. -/
theorem resubmitsAll_clearWay (c : TransConfig) (s : TxRun Nat) (event : TxEvent Nat)
    (clear : ∀ ssn env, event = .reclaim ssn env → env = fun _ => clearWay) :
    ResubmitsAll c s event := by
  cases event with
  | tx skb env => trivial
  | reclaim ssn env =>
    rw [clear ssn env rfl]
    exact fun k _ _ i _ => ⟨⟨rfl, rfl, .inl rfl⟩, fun _ => rfl⟩
  | setQPtrs ptr => trivial

theorem overflowSent_clear :
    ∀ event ∈ overflowSentEvents, ∀ ssn env, event = .reclaim ssn env →
      env = fun _ => clearWay := by
  intro event member ssn env same
  rw [same, overflowSentEvents, List.mem_append, overflowing, List.mem_map] at member
  rcases member with ⟨_, _, impossible⟩ | last
  · cases impossible
  · cases List.mem_singleton.mp last
    rfl

theorem overflow_kept_sent :
    OverflowKept managementConfig (overflowSentEvents.foldl (txStep managementConfig)
        (TxRun.init true)) ∧
      Drains managementConfig (overflowSentEvents.foldl (txStep managementConfig)
        (TxRun.init true)) := by
  have awake : Admissible (txStep managementConfig) RunsWhileAwake (TxRun.init true)
      overflowSentEvents := by decide +kernel
  refine overflow_kept managementConfig (.inl rfl) true overflowSentEvents ?_
  exact (awake.and_forall overflowSent_clear).mono fun s event step =>
    ⟨step.1, resubmitsAll_clearWay _ s event step.2⟩

/-- The ring is emptied, and the frame of the overflow queue cannot be built. -/
def overflowLostEvents : List (TxEvent Nat) :=
  overflowing ++ [.reclaim 15 fun _ => { clearWay with built := false }]

theorem overflow_not_kept :
    ¬∀ (c : TransConfig) (queueUsed : Bool) (events : List (TxEvent Nat)), c.Indexed →
      Admissible (txStep c) RunsWhileAwake (TxRun.init queueUsed) events →
        OverflowKept c (events.foldl (txStep c) (TxRun.init queueUsed)) := by
  intro claimed
  have kept := claimed managementConfig true overflowLostEvents (.inl rfl)
    (by decide +kernel)
  have accepted := congrArg List.length (overflowKept_iff.mp kept).1.1
  exact absurd accepted (by decide +kernel)

end Iwlwifi
