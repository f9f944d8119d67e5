import Iwlwifi.Pcie.EnqueueFailure
import Iwlwifi.Lib.Run

/-!
# Reclaiming host commands

The response to a host command names the command by the index that the driver put in its
sequence number.  `iwl_pcie_cmdq_reclaim` moves the read pointer one past that command.  It
counts the steps from the read pointer to the command on the whole ring, but from their
positions in the window; and it asks `iwl_queue_used`, for which a full window is an empty
one.
-/

namespace Iwlwifi

open Lib

variable {z : QueueSizes} {q : CmdQueue}

/-- The loop of `iwl_pcie_cmdq_reclaim`, on `r` and `read_ptr`. -/
def advanceReadPtr (z : QueueSizes) (idx : Nat) : (fuel r readPtr : Nat) → Nat
  | 0, _, readPtr => readPtr
  | fuel + 1, r, readPtr =>
      if r = idx then readPtr
      else advanceReadPtr z idx fuel (iwlQueueIncWrap z r) (iwlQueueIncWrap z readPtr)

/-- `iwl_pcie_cmdq_reclaim`.  The loop comes around to the index within the ring. -/
def iwlPcieCmdqReclaim (z : QueueSizes) (apmgWakeUpWa : Bool) (q : CmdQueue) (idx : Nat) :
    CmdQueue :=
  let idx := iwlPcieGetCmdIndex z idx
  let r := iwlPcieGetCmdIndex z q.readPtr
  if idx ≥ z.maxTfdQueueSize ∨ iwlQueueUsed z q.readPtr q.writePtr idx = false then q
  else
    let readPtr := advanceReadPtr z (iwlQueueIncWrap z idx) z.maxTfdQueueSize r q.readPtr
    let q := { q with readPtr := readPtr }
    if q.readPtr = q.writePtr && apmgWakeUpWa then { q with cmdHoldNicAwake := false } else q

/-- A response to a command: `iwl_pcie_rx_handle_rb` frees the buffer of the entry, and
`iwl_pcie_hcmd_complete` unmaps the descriptor and reclaims the command. -/
def iwlPcieHcmdComplete (z : QueueSizes) (gen2 apmgWakeUpWa : Bool) (q : CmdQueue)
    (index : Nat) : CmdQueue :=
  let cmdIndex := iwlPcieGetCmdIndex z index
  let q := q.kfree (q.entries cmdIndex).freeBuf
  let q :=
    { q with
      entries := Function.update q.entries cmdIndex
        { q.entries cmdIndex with freeBuf := none, async := false, asyncCallback := false }
      tfds := Function.update q.tfds (if gen2 then cmdIndex else index) [] }
  iwlPcieCmdqReclaim z apmgWakeUpWa q index

/-! ## Runs -/

/-- The device that the command queue belongs to. -/
structure CmdConfig where
  sizes : QueueSizes
  gen2 : Bool
  cmdQueue : Nat
  apmgWakeUpWa : Bool

inductive CmdEvent
  | enqueue (env : HcmdEnv) (cmd : IwlHostCmd)
  | complete (index : Nat)

def enqueueHcmd (c : CmdConfig) (env : HcmdEnv) (q : CmdQueue) (cmd : IwlHostCmd) :
    Int × CmdQueue :=
  if c.gen2 then iwlPcieGen2EnqueueHcmd c.sizes c.cmdQueue env q cmd
  else iwlPcieEnqueueHcmd c.sizes c.cmdQueue env q cmd

def cmdStep (c : CmdConfig) (q : CmdQueue) : CmdEvent → CmdQueue
  | .enqueue env cmd => (enqueueHcmd c env q cmd).2
  | .complete index => iwlPcieHcmdComplete c.sizes c.gen2 c.apmgWakeUpWa q index

/-- The command on the `i`th used position is named by the index. -/
def Names (z : QueueSizes) (q : CmdQueue) (i idx : Nat) : Prop :=
  i < q.used z ∧ idx % z.nWindow = (q.readPtr + i) % z.nWindow

/-- The window is not full, and the command lies before its end. -/
def Reclaimable (z : QueueSizes) (q : CmdQueue) (i : Nat) : Prop :=
  q.used z < z.nWindow ∧ q.readPtr % z.nWindow ≤ (q.readPtr + i) % z.nWindow

/-- The index is accepted, and the read pointer moves one past the command, not beyond the
write pointer. -/
def ReclaimsExactly (c : CmdConfig) (q : CmdQueue) (i idx : Nat) : Prop :=
  let reclaimed := iwlPcieCmdqReclaim c.sizes c.apmgWakeUpWa q idx
  iwlQueueUsed c.sizes q.readPtr q.writePtr idx = true ∧
    reclaimed.readPtr = (q.readPtr + i + 1) % c.sizes.maxTfdQueueSize ∧
    ringDist c.sizes.maxTfdQueueSize q.readPtr reclaimed.readPtr ≤ q.used c.sizes

/-- A response names a command that can be reclaimed, or none. -/
def CompletesReclaimable (z : QueueSizes) (q : CmdQueue) : CmdEvent → Prop
  | .enqueue _ _ => True
  | .complete index => ∀ i, Names z q i index → Reclaimable z q i

instance (z : QueueSizes) (q : CmdQueue) (i : Nat) : Decidable (Reclaimable z q i) :=
  inferInstanceAs (Decidable (_ ∧ _))

instance (z : QueueSizes) (q : CmdQueue) : (event : CmdEvent) →
    Decidable (CompletesReclaimable z q event)
  | .enqueue _ _ => inferInstanceAs (Decidable True)
  | .complete index =>
      decidable_of_iff (∀ i < q.used z, index % z.nWindow = (q.readPtr + i) % z.nWindow →
          Reclaimable z q i)
        (forall_congr' fun _ => and_imp.symm)

/-! ## The loop -/

theorem advanceReadPtr_eq (z : QueueSizes) {idx fuel r readPtr : Nat}
    (small : r < z.maxTfdQueueSize) (small' : idx < z.maxTfdQueueSize)
    (readSmall : readPtr < z.maxTfdQueueSize)
    (enough : ringDist z.maxTfdQueueSize r idx ≤ fuel) :
    advanceReadPtr z idx fuel r readPtr =
      (readPtr + ringDist z.maxTfdQueueSize r idx) % z.maxTfdQueueSize := by
  have room := z.maxTfdQueueSize_pos
  induction fuel generalizing r readPtr with
  | zero =>
      have here : ringDist z.maxTfdQueueSize r idx = 0 := by omega
      rw [advanceReadPtr, here, Nat.add_zero, Nat.mod_eq_of_lt readSmall]
  | succ fuel ih =>
      rw [advanceReadPtr]
      split
      · rename_i here
        subst here
        rw [ringDist_self room, Nat.add_zero, Nat.mod_eq_of_lt readSmall]
      · rename_i apart
        have away : 1 ≤ ringDist z.maxTfdQueueSize r idx := by
          refine Nat.pos_of_ne_zero fun zero => apart ?_
          have arrives := add_ringDist room r idx
          rwa [zero, Nat.add_zero, Nat.mod_eq_of_lt small, Nat.mod_eq_of_lt small'] at arrives
        have less := ringDist_add room away
        rw [iwlQueueIncWrap_eq, iwlQueueIncWrap_eq,
          ih (Nat.mod_lt _ room) (Nat.mod_lt _ room) (by omega), less, Nat.mod_add_mod,
          Nat.add_assoc, Nat.add_sub_cancel' away]

/-- The pointers lie on the ring, with at most a window between them. -/
structure PtrsOnRing (z : QueueSizes) (q : CmdQueue) : Prop where
  read_lt : q.readPtr < z.maxTfdQueueSize
  write_lt : q.writePtr < z.maxTfdQueueSize
  used_le : q.used z ≤ z.nWindow

variable {c : CmdConfig} {i idx : Nat}

/-- The position of a command is the `i`th from the read pointer, in a window that is not
full. -/
theorem ringDist_of_names (names : Names z q i idx) (room : q.used z < z.nWindow) :
    ringDist z.nWindow q.readPtr idx = i :=
  ringDist_eq (Nat.lt_trans names.1 room) names.2.symm

theorem ringDist_write (room : q.used z < z.nWindow) :
    ringDist z.nWindow q.readPtr q.writePtr = q.used z :=
  ringDist_eq room (q.write_mod z)

/-- An index that is used names a command. -/
theorem names_of_used (ptrs : PtrsOnRing z q)
    (used : iwlQueueUsed z q.readPtr q.writePtr idx = true) : ∃ i, Names z q i idx := by
  rw [iwlQueueUsed_iff] at used
  refine ⟨_, ?_, (add_ringDist z.nWindow_pos q.readPtr idx).symm⟩
  rcases Nat.lt_or_eq_of_le ptrs.used_le with room | full
  · rwa [ringDist_write room] at used
  · rw [full]
    exact ringDist_lt z.nWindow_pos

/-- The index of a command is used exactly when the window is not full. -/
theorem iwlQueueUsed_iff_names (ptrs : PtrsOnRing z q) (names : Names z q i idx) :
    iwlQueueUsed z q.readPtr q.writePtr idx = true ↔ q.used z < z.nWindow := by
  rw [iwlQueueUsed_iff]
  constructor
  · intro used
    rcases Nat.lt_or_eq_of_le ptrs.used_le with room | full
    · exact room
    · have same := q.write_mod z
      rw [full, Nat.add_mod_right] at same
      rw [ringDist_eq z.nWindow_pos same] at used
      cases used
  · intro room
    rw [ringDist_of_names names room, ringDist_write room]
    exact names.1

/-- What a reclaim does to the read pointer. -/
theorem iwlPcieCmdqReclaim_readPtr (apmg : Bool) (ptrs : PtrsOnRing z q) (idx : Nat) :
    (iwlPcieCmdqReclaim z apmg q idx).readPtr =
      if iwlQueueUsed z q.readPtr q.writePtr idx then
        (q.readPtr + ringDist z.maxTfdQueueSize (q.readPtr % z.nWindow)
          (idx % z.nWindow + 1)) % z.maxTfdQueueSize
      else q.readPtr := by
  have small : idx % z.nWindow < z.maxTfdQueueSize :=
    Nat.lt_of_lt_of_le (Nat.mod_lt _ z.nWindow_pos) z.nWindow_le
  have small' : q.readPtr % z.nWindow < z.maxTfdQueueSize :=
    Nat.lt_of_lt_of_le (Nat.mod_lt _ z.nWindow_pos) z.nWindow_le
  have same : iwlQueueUsed z q.readPtr q.writePtr (idx % z.nWindow) =
      iwlQueueUsed z q.readPtr q.writePtr idx := by
    rw [Bool.eq_iff_iff, iwlQueueUsed_iff, iwlQueueUsed_iff, ringDist_mod_right]
  have room := z.maxTfdQueueSize_pos
  unfold iwlPcieCmdqReclaim
  rw [iwlPcieGetCmdIndex_eq, iwlPcieGetCmdIndex_eq]
  dsimp only
  rw [same]
  cases used : iwlQueueUsed z q.readPtr q.writePtr idx with
  | false => rw [if_pos (.inr rfl), if_neg (by decide)]
  | true =>
      have accepted : ¬(idx % z.nWindow ≥ z.maxTfdQueueSize ∨ true = false) := by
        rintro (large | impossible)
        · omega
        · cases impossible
      rw [if_neg accepted, if_pos rfl, iwlQueueIncWrap_eq,
        advanceReadPtr_eq z small' (Nat.mod_lt _ room) ptrs.read_lt
          (Nat.le_of_lt (ringDist_lt room)), ringDist_mod_right]
      split <;> rfl

theorem iwlPcieCmdqReclaim_writePtr (apmg : Bool) (q : CmdQueue) (idx : Nat) :
    (iwlPcieCmdqReclaim z apmg q idx).writePtr = q.writePtr := by
  unfold iwlPcieCmdqReclaim
  dsimp only
  split
  · rfl
  · split <;> rfl

/-- The steps of the loop, to a command that lies before the end of the window. -/
theorem loop_steps (window : z.nWindow < z.maxTfdQueueSize) (names : Names z q i idx)
    (room : q.used z < z.nWindow) :
    ringDist z.maxTfdQueueSize (q.readPtr % z.nWindow) (idx % z.nWindow + 1) = i + 1 ↔
      q.readPtr % z.nWindow ≤ (q.readPtr + i) % z.nWindow := by
  obtain ⟨before, position⟩ := names
  have below := Nat.mod_lt q.readPtr z.nWindow_pos
  rw [position]
  have wraps : (q.readPtr + i) % z.nWindow = q.readPtr % z.nWindow + i ∨
      (q.readPtr + i) % z.nWindow + z.nWindow = q.readPtr % z.nWindow + i := by
    rw [Nat.add_mod, Nat.mod_eq_of_lt (Nat.lt_trans before room)]
    rcases Nat.lt_or_ge (q.readPtr % z.nWindow + i) z.nWindow with small | large
    · exact .inl (Nat.mod_eq_of_lt small)
    · rw [Nat.mod_eq_sub_mod large, Nat.mod_eq_of_lt (by omega)]
      omega
  rcases wraps with straight | crossing
  · rw [straight]
    refine iff_of_true (ringDist_eq (by omega) (by rw [Nat.add_assoc])) (by omega)
  · refine iff_of_false (fun steps => ?_) (by omega)
    have arrives := add_ringDist z.maxTfdQueueSize_pos (q.readPtr % z.nWindow)
      ((q.readPtr + i) % z.nWindow + 1)
    rw [steps, ← Nat.add_assoc, ← crossing, Nat.add_right_comm] at arrives
    have none := eq_of_add_mod (j := 0) window z.maxTfdQueueSize_pos arrives
    omega

/-- A reclaim is exact when the window is not full and the command lies before its end. -/
theorem reclaimsExactly_iff (window : c.sizes.nWindow < c.sizes.maxTfdQueueSize)
    (ptrs : PtrsOnRing c.sizes q) (names : Names c.sizes q i idx) :
    ReclaimsExactly c q i idx ↔ Reclaimable c.sizes q i := by
  unfold ReclaimsExactly Reclaimable
  dsimp only
  rw [iwlQueueUsed_iff_names ptrs names, iwlPcieCmdqReclaim_readPtr c.apmgWakeUpWa ptrs]
  refine and_congr_right fun room => ?_
  have before := names.1
  rw [if_pos ((iwlQueueUsed_iff_names ptrs names).mpr room), ← loop_steps window names room,
    ringDist_mod_right, Nat.add_assoc]
  have less := ringDist_lt (a := q.readPtr % c.sizes.nWindow)
    (b := idx % c.sizes.nWindow + 1) c.sizes.maxTfdQueueSize_pos
  generalize ringDist _ _ (idx % c.sizes.nWindow + 1) = steps at *
  constructor
  · exact fun exact_ => eq_of_add_mod less (by omega) exact_.1
  · rintro rfl
    exact ⟨rfl, by rw [ringDist_eq less rfl]; omega⟩

/-! ## Runs -/

/-- What an enqueue does to the pointers. -/
def Advances (z : QueueSizes) (q q' : CmdQueue) : Prop :=
  q'.readPtr = q.readPtr ∧
    (q'.writePtr = q.writePtr ∨
      q.used z < z.nWindow ∧ q'.writePtr = (q.writePtr + 1) % z.maxTfdQueueSize)

theorem iwlPcieEnqueueHcmd_advances (z : QueueSizes) (cmdQueue : Nat) (env : HcmdEnv)
    (q : CmdQueue) (cmd : IwlHostCmd) :
    Advances z q (iwlPcieEnqueueHcmd z cmdQueue env q cmd).2 := by
  unfold iwlPcieEnqueueHcmd
  dsimp only
  split
  · exact ⟨rfl, .inl rfl⟩
  · split
    · exact ⟨rfl, .inl rfl⟩
    · split
      · exact ⟨rfl, .inl rfl⟩
      · split
        · exact ⟨rfl, .inl rfl⟩
        · rename_i space
          split
          · exact ⟨rfl, .inl rfl⟩
          · split
            · exact ⟨rfl, .inl rfl⟩
            · exact ⟨rfl, .inr ⟨used_lt_of_space (Bool.not_eq_true _ ▸ space),
                iwlQueueIncWrap_eq _ _⟩⟩

theorem iwlPcieGen2EnqueueHcmd_advances (z : QueueSizes) (cmdQueue : Nat) (env : HcmdEnv)
    (q : CmdQueue) (cmd : IwlHostCmd) :
    Advances z q (iwlPcieGen2EnqueueHcmd z cmdQueue env q cmd).2 := by
  unfold iwlPcieGen2EnqueueHcmd
  dsimp only
  split
  · exact ⟨rfl, .inl rfl⟩
  · split
    · exact ⟨rfl, .inl rfl⟩
    · split
      · exact ⟨rfl, .inl rfl⟩
      · rename_i space
        split
        · exact ⟨rfl, .inl rfl⟩
        · exact ⟨rfl, .inr ⟨used_lt_of_space (Bool.not_eq_true _ ▸ space),
            iwlQueueIncWrap_eq _ _⟩⟩

theorem PtrsOnRing.advances {q' : CmdQueue} (ptrs : PtrsOnRing z q)
    (window : z.nWindow < z.maxTfdQueueSize) (advances : Advances z q q') :
    PtrsOnRing z q' := by
  obtain ⟨readPtr, same | ⟨room, next⟩⟩ := advances
  · refine ⟨readPtr ▸ ptrs.read_lt, same ▸ ptrs.write_lt, ?_⟩
    rw [CmdQueue.used, readPtr, same]
    exact ptrs.used_le
  · refine ⟨readPtr ▸ ptrs.read_lt, next ▸ Nat.mod_lt _ z.maxTfdQueueSize_pos, ?_⟩
    unfold CmdQueue.used at room ⊢
    rw [readPtr, next, ringDist_succ (by omega)]
    exact room

/-- A response keeps the pointers on the ring. -/
theorem PtrsOnRing.reclaim (ptrs : PtrsOnRing c.sizes q)
    (window : c.sizes.nWindow < c.sizes.maxTfdQueueSize)
    (reclaimable : ∀ i, Names c.sizes q i idx → Reclaimable c.sizes q i) :
    PtrsOnRing c.sizes (iwlPcieCmdqReclaim c.sizes c.apmgWakeUpWa q idx) := by
  have room := c.sizes.maxTfdQueueSize_pos
  have readPtr := iwlPcieCmdqReclaim_readPtr c.apmgWakeUpWa ptrs idx
  have writePtr := iwlPcieCmdqReclaim_writePtr (z := c.sizes) c.apmgWakeUpWa q idx
  cases used : iwlQueueUsed c.sizes q.readPtr q.writePtr idx with
  | false =>
      rw [used, if_neg (by decide)] at readPtr
      refine ptrs.advances window ⟨readPtr, .inl writePtr⟩
  | true =>
      obtain ⟨i, names⟩ := names_of_used ptrs used
      obtain ⟨-, next, -⟩ := (reclaimsExactly_iff window ptrs names).mpr (reclaimable i names)
      refine ⟨next ▸ Nat.mod_lt _ room, writePtr ▸ ptrs.write_lt, ?_⟩
      have before := names.1
      have le := ptrs.used_le
      unfold CmdQueue.used at before le ⊢
      rw [next, writePtr, Nat.add_assoc, ringDist_add room before]
      omega

theorem PtrsOnRing.step (ptrs : PtrsOnRing c.sizes q)
    (window : c.sizes.nWindow < c.sizes.maxTfdQueueSize) {event : CmdEvent}
    (completes : CompletesReclaimable c.sizes q event) :
    PtrsOnRing c.sizes (cmdStep c q event) := by
  cases event with
  | enqueue env cmd =>
      refine ptrs.advances window ?_
      unfold cmdStep enqueueHcmd
      dsimp only
      split
      · exact iwlPcieGen2EnqueueHcmd_advances c.sizes c.cmdQueue env q cmd
      · exact iwlPcieEnqueueHcmd_advances c.sizes c.cmdQueue env q cmd
  | complete index =>
      have unmapped : ∀ q' : CmdQueue, q'.readPtr = q.readPtr → q'.writePtr = q.writePtr →
          PtrsOnRing c.sizes (iwlPcieCmdqReclaim c.sizes c.apmgWakeUpWa q' index) := by
        intro q' readPtr writePtr
        have ptrs' : PtrsOnRing c.sizes q' := ptrs.advances window ⟨readPtr, .inl writePtr⟩
        refine ptrs'.reclaim window fun i names => ?_
        unfold Names Reclaimable CmdQueue.used at *
        rw [readPtr, writePtr] at names ⊢
        exact completes i names
      exact unmapped _ rfl rfl

/-- A command queue after `iwl_queue_init`. -/
def CmdQueue.init : CmdQueue := outstandingQueue 0

/-- In every state that is reached by enqueues of any commands and by responses to commands
that can be reclaimed, the reclaim of an outstanding command is exact if and only if the
window is not full and the command lies before its end. -/
theorem cmdq_reclaim_iff (c : CmdConfig)
    (window : c.sizes.nWindow < c.sizes.maxTfdQueueSize) (events : List CmdEvent)
    (completes : Admissible (cmdStep c) (CompletesReclaimable c.sizes) .init events)
    (i idx : Nat) (names : Names c.sizes (events.foldl (cmdStep c) .init) i idx) :
    ReclaimsExactly c (events.foldl (cmdStep c) .init) i idx ↔
      Reclaimable c.sizes (events.foldl (cmdStep c) .init) i := by
  have room := c.sizes.maxTfdQueueSize_pos
  have start : PtrsOnRing c.sizes .init := by
    refine ⟨room, room, ?_⟩
    rw [show CmdQueue.init.used c.sizes = 0 from ringDist_self room 0]
    exact Nat.zero_le _
  have ptrs : PtrsOnRing c.sizes (events.foldl (cmdStep c) .init) :=
    completes.invariant (fun _ _ holds => holds.step window) start
  exact reclaimsExactly_iff window ptrs names

/-- A device that answers, and a command of four copied bytes. -/
def liveEnv : HcmdEnv := { deadEnv with transDead := false }

def copiedCommand (async : Bool) : IwlHostCmd where
  id := 0x0128
  first := ⟨[1, 2, 3, 4], false, false⟩
  second := ⟨[], false, false⟩
  async := async
  wantSkb := false
  asyncCallback := false

def cmdConfig : CmdConfig := ⟨cmdQueueSizes, true, 0, false⟩

/-- Three commands, the first of which is answered. -/
def answeredEvents : List CmdEvent :=
  [.enqueue liveEnv (copiedCommand true), .enqueue liveEnv (copiedCommand true),
    .enqueue liveEnv (copiedCommand false), .complete 0]

theorem cmdq_reclaim_iff_answered :
    ReclaimsExactly cmdConfig (answeredEvents.foldl (cmdStep cmdConfig) .init) 1 2 ↔
      Reclaimable cmdConfig.sizes (answeredEvents.foldl (cmdStep cmdConfig) .init) 1 :=
  cmdq_reclaim_iff cmdConfig (by decide) answeredEvents (by decide +kernel) 1 2
    ⟨by decide +kernel, by decide +kernel⟩

/-- Asynchronous commands up to the last entry, and a synchronous one on it. -/
def fullEvents : List CmdEvent :=
  List.replicate 31 (.enqueue liveEnv (copiedCommand true)) ++
    [.enqueue liveEnv (copiedCommand false)]

/-- Commands are answered in turn up to the last entry of the window; two more are
outstanding, on that entry and on the first. -/
def crossingEvents : List CmdEvent :=
  (List.range 31).flatMap (fun i => [.enqueue liveEnv (copiedCommand true), .complete i]) ++
    [.enqueue liveEnv (copiedCommand true), .enqueue liveEnv (copiedCommand true)]

theorem cmdq_reclaim_not_exact :
    (¬∀ (c : CmdConfig) (events : List CmdEvent) (i idx : Nat),
        c.sizes.nWindow < c.sizes.maxTfdQueueSize →
        Admissible (cmdStep c) (CompletesReclaimable c.sizes) .init events →
        Names c.sizes (events.foldl (cmdStep c) .init) i idx →
          ReclaimsExactly c (events.foldl (cmdStep c) .init) i idx) ∧
      Names cmdConfig.sizes (crossingEvents.foldl (cmdStep cmdConfig) .init) 1 0 ∧
      ¬ReclaimsExactly cmdConfig (crossingEvents.foldl (cmdStep cmdConfig) .init) 1 0 := by
  refine ⟨fun claimed => ?_, ⟨by decide +kernel, by decide +kernel⟩, fun exact_ => ?_⟩
  · have accepted := (claimed cmdConfig fullEvents 0 0 (by decide) (by decide +kernel)
      ⟨by decide +kernel, by decide +kernel⟩).1
    exact absurd accepted (by decide +kernel)
  · exact absurd exact_.2.1 (by decide +kernel)

end Iwlwifi
