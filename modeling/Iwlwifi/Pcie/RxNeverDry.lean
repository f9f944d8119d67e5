import Mathlib.Algebra.BigOperators.Ring.Finset
import Mathlib.Algebra.Group.Action.Defs
import Mathlib.Algebra.Order.BigOperators.Group.Finset
import Iwlwifi.Pcie.RxCounts

/-!
# The allocator never runs dry

A request is posted when two of its eight descriptors have been supplied; the six spare
ones of the queue stand in for the rest.  So eight times the requests that are posted and
not claimed never exceed what the queues have handed over and not taken back, together with
the spares.  Every descriptor of that account is on one of the two lists of the allocator
or on one of the two private lists of its work, and those allocated belong to the requests
that are ready.  What is left covers the pending ones: the work always finds a descriptor,
and one without a page.
-/

namespace Iwlwifi

open Lib

/-! ## The work -/

/-- One while a request is no longer pending and not yet ready. -/
def RxWork.inFlight (w : RxWork) : Nat :=
  match w.pc with
  | .reread | .splice | .inc => 1
  | _ => 0

/-- One while the descriptors of a request are allocated and the request is not yet ready. -/
def RxWork.announcing (w : RxWork) : Nat :=
  match w.pc with
  | .inc => 1
  | _ => 0

/-- What holds of the work at each of its places, with so many requests pending. -/
def RxWork.Placed (reqPending : Nat) (w : RxWork) : Prop :=
  match w.pc with
  | .idle => w.localEmpty = [] ∧ w.localAllocated = []
  | .swap => w.localEmpty = [] ∧ w.localAllocated = [] ∧ w.pending ≤ reqPending
  | .loop | .inc =>
      w.localAllocated = [] ∧ w.pending ≤ reqPending ∧ 8 * w.pending ≤ w.localEmpty.length
  | .alloc =>
      1 ≤ w.pending ∧ w.pending ≤ reqPending ∧ w.localAllocated.length ≤ 8 ∧
        8 * w.pending ≤ w.localEmpty.length + w.localAllocated.length
  | .dec =>
      1 ≤ w.pending ∧ w.pending ≤ reqPending ∧ w.localAllocated.length = 8 ∧
        8 * w.pending ≤ w.localEmpty.length + 8
  | .reread | .splice => w.pending ≤ reqPending ∧ w.localAllocated.length = 8
  | .giveBack => w.localAllocated = []
  | .bug => False

/-- More requests may come. -/
theorem RxWork.Placed.mono {w : RxWork} {reqPending more : Nat} (placed : w.Placed reqPending)
    (le : reqPending ≤ more) : w.Placed more := by
  unfold Placed at placed ⊢
  cases pc : w.pc <;> rw [pc] at placed <;> dsimp only at placed ⊢
  case idle | giveBack => exact placed
  case swap => exact ⟨placed.1, placed.2.1, placed.2.2.trans le⟩
  case loop | inc => exact ⟨placed.1, placed.2.1.trans le, placed.2.2⟩
  case alloc | dec => exact ⟨placed.1, placed.2.1.trans le, placed.2.2⟩
  case reread | splice => exact ⟨placed.1.trans le, placed.2⟩

/-- What a step of the work moves. -/
structure WorkDelta (sh sh' : RxShared) (w w' : RxWork) : Prop where
  hw : sh'.hw = sh.hw
  weight : ∀ f, weighVid f sh'.rba.rbdEmpty + weighVid f sh'.rba.rbdAllocated +
      weighVid f w'.localEmpty + weighVid f w'.localAllocated =
    weighVid f sh.rba.rbdEmpty + weighVid f sh.rba.rbdAllocated +
      weighVid f w.localEmpty + weighVid f w.localAllocated
  backed : sh'.rba.rbdAllocated.length + 8 * (sh.rba.reqReady + w.announcing) =
    sh.rba.rbdAllocated.length + 8 * (sh'.rba.reqReady + w'.announcing)
  requests : sh'.rba.reqPending + sh'.rba.reqReady + w'.inFlight =
    sh.rba.reqPending + sh.rba.reqReady + w.inFlight
  empty : (∀ rxb ∈ sh.rba.rbdEmpty, rxb.page = false) →
    ∀ rxb ∈ sh'.rba.rbdEmpty, rxb.page = false

variable {ok : Bool} {sh : RxShared} {w : RxWork}

/-- A step of the work that touches only its own variables and no list. -/
theorem WorkDelta.of_own {w' : RxWork} (localEmpty : w'.localEmpty = w.localEmpty)
    (localAllocated : w'.localAllocated = w.localAllocated)
    (inFlight : w'.inFlight = w.inFlight) (announcing : w'.announcing = w.announcing) :
    WorkDelta sh sh w w' := by
  refine ⟨rfl, fun f => ?_, ?_, ?_, fun empty => empty⟩
  · rw [localEmpty, localAllocated]
  · rw [announcing]
  · rw [inFlight]

theorem RxWork.inFlight_of {pc : WorkPc} (at_pc : w.pc = pc) :
    w.inFlight = (RxWork.mk pc 0 [] []).inFlight := by
  rw [inFlight, at_pc, inFlight]

theorem RxWork.announcing_of {pc : WorkPc} (at_pc : w.pc = pc) :
    w.announcing = (RxWork.mk pc 0 [] []).announcing := by
  rw [announcing, at_pc, announcing]

/-- A turn of the innermost loop finds a descriptor, and one without a page. -/
theorem RxWork.Placed.alloc_step (placed : w.Placed sh.rba.reqPending) (pc : w.pc = .alloc)
    (noPages : ∀ rxb ∈ w.localEmpty, rxb.page = false) :
    (w.alloc ok).Placed sh.rba.reqPending ∧ WorkDelta sh sh w (w.alloc ok) ∧
      ∀ rxb ∈ (w.alloc ok).localEmpty, rxb.page = false := by
  have inFlight := inFlight_of pc
  have announcing := announcing_of pc
  have before := placed
  unfold Placed at before
  rw [pc] at before
  obtain ⟨positive, le, few, stocked⟩ := before
  unfold alloc
  rw [rxClaimReqAlloc]
  by_cases full : w.localAllocated.length = 8
  · rw [if_pos full]
    exact ⟨⟨positive, le, full, by dsimp only; omega⟩, .of_own rfl rfl inFlight.symm announcing.symm,
      noPages⟩
  · rw [if_neg full]
    cases stock : w.localEmpty with
    | nil =>
        rw [stock, List.length_nil] at stocked
        omega
    | cons rxb rest =>
        have noPage := noPages rxb (by rw [stock]; exact List.mem_cons_self)
        rw [stock, List.length_cons] at stocked
        simp only [noPage, Bool.false_eq_true, if_false]
        cases ok with
        | false => exact ⟨placed, .of_own rfl rfl rfl rfl, by simpa using noPages⟩
        | true =>
            refine ⟨?_, ⟨rfl, fun f => ?_, ?_, ?_, fun empty => empty⟩, fun other member => ?_⟩
            · unfold Placed
              simp only [pc, if_true, List.length_cons]
              omega
            · simp only [stock, if_true, weighVid_cons]
              omega
            · simp only [if_true, RxWork.announcing, pc]
            · simp only [if_true, RxWork.inFlight, pc]
            · exact noPages other (by rw [stock]; exact List.mem_cons_of_mem _ member)

/-- The work moves what it should, and never meets one of its two assertions, when what it
is about to find on the empty list covers the pending requests. -/
theorem workStep_spec (placed : w.Placed sh.rba.reqPending)
    (noPages : ∀ rxb ∈ w.localEmpty, rxb.page = false)
    (emptyNoPages : ∀ rxb ∈ sh.rba.rbdEmpty, rxb.page = false)
    (stocked : w.pc = .swap ∨ w.pc = .splice →
      8 * sh.rba.reqPending ≤ w.localEmpty.length + sh.rba.rbdEmpty.length) :
    (workStep ok sh w).2.Placed (workStep ok sh w).1.rba.reqPending ∧
      WorkDelta sh (workStep ok sh w).1 w (workStep ok sh w).2 ∧
      ∀ rxb ∈ (workStep ok sh w).2.localEmpty, rxb.page = false := by
  have inFlight := RxWork.inFlight_of (w := w) rfl
  have announcing := RxWork.announcing_of (w := w) rfl
  have before := placed
  unfold RxWork.Placed at before
  cases pc : w.pc <;> rw [pc] at before inFlight announcing <;> unfold workStep <;> rw [pc] <;>
    dsimp only at before ⊢
  case idle =>
    exact ⟨⟨before.1, before.2, Nat.le_refl _⟩, .of_own rfl rfl inFlight.symm announcing.symm,
      noPages⟩
  case swap =>
    obtain ⟨noEmpty, noAllocated, le⟩ := before
    have enough := stocked (.inl pc)
    rw [noEmpty, List.length_nil] at enough
    refine ⟨⟨noAllocated, le, ?_⟩, ⟨rfl, fun f => ?_, ?_, ?_, fun _ => nofun⟩, emptyNoPages⟩
    · dsimp only
      omega
    · simp only [noEmpty, weighVid_nil]
      omega
    · rw [announcing]
      rfl
    · rw [inFlight]
      rfl
  case loop =>
    obtain ⟨noAllocated, le, covered⟩ := before
    by_cases more : w.pending ≠ 0
    · rw [if_pos more]
      refine ⟨⟨?_, le, Nat.zero_le _, ?_⟩, .of_own rfl noAllocated.symm inFlight.symm announcing.symm,
        noPages⟩
      · dsimp only
        omega
      · exact covered
    · rw [if_neg more]
      exact ⟨noAllocated, .of_own rfl rfl inFlight.symm announcing.symm, noPages⟩
  case alloc => exact placed.alloc_step pc noPages
  case dec =>
    obtain ⟨positive, le, full, covered⟩ := before
    refine ⟨⟨?_, full⟩, ⟨rfl, fun f => rfl, ?_, ?_, fun empty => empty⟩, noPages⟩
    · dsimp only
      omega
    · rw [announcing]
      rfl
    · rw [inFlight]
      dsimp only [RxWork.inFlight]
      omega
  case reread =>
    obtain ⟨le, full⟩ := before
    refine ⟨⟨?_, full⟩, .of_own rfl rfl inFlight.symm announcing.symm, noPages⟩
    dsimp only
    split
    · exact Nat.le_refl _
    · exact le
  case splice =>
    obtain ⟨le, full⟩ := before
    have enough := stocked (.inr pc)
    refine ⟨⟨rfl, le, ?_⟩, ⟨rfl, fun f => ?_, ?_, ?_, fun _ => nofun⟩, fun rxb member => ?_⟩
    · simp only [List.length_append]
      omega
    · simp only [weighVid_append, weighVid_nil]
      omega
    · rw [announcing, List.length_append, full]
      dsimp only [RxWork.announcing]
      omega
    · rw [inFlight]
      rfl
    · rcases List.mem_append.mp member with own | shared
      · exact noPages rxb own
      · exact emptyNoPages rxb shared
  case inc =>
    refine ⟨before, ⟨rfl, fun f => rfl, ?_, ?_, fun empty => empty⟩, noPages⟩
    · rw [announcing]
      rfl
    · rw [inFlight]
      dsimp only [RxWork.inFlight]
      omega
  case giveBack =>
    refine ⟨⟨rfl, before⟩, ⟨rfl, fun f => ?_, ?_, ?_, fun empty rxb member => ?_⟩, nofun⟩
    · simp only [weighVid_append, weighVid_nil]
      omega
    · rw [announcing]
      rfl
    · rw [inFlight]
      rfl
    · rcases List.mem_append.mp member with shared | own
      · exact empty rxb shared
      · exact noPages rxb own

/-! ## The device -/

/-- The number of requests that are taken but whose descriptors are not. -/
def RbState.getting (s : RbState c) : Nat := ∑ i, (s.queues i).getting

/-- The account of the allocator.  `backed` says what is on its allocated list, `requests`
where the requests are that the used counts of the queues stand for, and `holdings` what
became of the descriptors that were handed over. -/
structure RbState.Balanced (s : RbState c) : Prop where
  queues : ∀ i, (s.queues i).Ok
  backed : s.sh.rba.rbdAllocated.length =
    8 * (s.sh.rba.reqReady + s.getting + s.work.announcing)
  requests : s.sh.rba.reqPending + s.sh.rba.reqReady + s.getting + s.work.inFlight =
    ∑ i, (s.queues i).requests
  holdings : s.sh.rba.rbdEmpty.length + s.sh.rba.rbdAllocated.length +
      s.work.localEmpty.length + s.work.localAllocated.length + ∑ i, (s.queues i).claimed =
    (∑ i, (s.queues i).handed) + 6 * (c.moreQueues + 1)
  work : s.work.Placed s.sh.rba.reqPending
  localEmpty : ∀ rxb ∈ s.work.localEmpty, rxb.page = false
  rbdEmpty : ∀ rxb ∈ s.sh.rba.rbdEmpty, rxb.page = false

variable {s : RbState c}

/-- The requests of all queues, by what they handed over and took back. -/
theorem RbState.Balanced.covered (balanced : s.Balanced) :
    8 * (∑ i, (s.queues i).requests) + ∑ i, (s.queues i).claimed ≤
      (∑ i, (s.queues i).handed) + 6 * (c.moreQueues + 1) := by
  have each := Finset.sum_le_sum fun i (_ : i ∈ Finset.univ) => (balanced.queues i).supplied
  rw [Finset.sum_add_distrib, Finset.sum_add_distrib, ← Finset.mul_sum, Finset.sum_const,
    Finset.card_univ, Fintype.card_fin, smul_eq_mul, Nat.mul_comm (c.moreQueues + 1)] at each
  exact each

/-- The descriptors without a page that the allocator holds cover the pending requests. -/
theorem RbState.Balanced.stocked (balanced : s.Balanced)
    (pc : s.work.pc = .swap ∨ s.work.pc = .splice) :
    8 * s.sh.rba.reqPending ≤ s.work.localEmpty.length + s.sh.rba.rbdEmpty.length := by
  have covered := balanced.covered
  have backed := balanced.backed
  have requests := balanced.requests
  have holdings := balanced.holdings
  have placed := balanced.work
  unfold RxWork.Placed at placed
  rcases pc with pc | pc <;> rw [pc] at placed <;> rw [RxWork.announcing_of pc] at backed <;>
    rw [RxWork.inFlight_of pc] at requests <;> simp only [RxWork.announcing] at backed <;>
    simp only [RxWork.inFlight] at requests
  · obtain ⟨-, noAllocated, -⟩ := placed
    rw [noAllocated, List.length_nil] at holdings
    omega
  · obtain ⟨-, full⟩ := placed
    omega

/-- A request in hand has its descriptors on the allocated list. -/
theorem RbState.Balanced.held (balanced : s.Balanced) {i : Fin (c.moreQueues + 1)}
    (pc : (s.queues i).pc = .get) : 8 ≤ s.sh.rba.rbdAllocated.length := by
  have one : (s.queues i).getting = 1 := by rw [Rxq.getting, if_pos pc]
  have some : (s.queues i).getting ≤ s.getting :=
    Finset.single_le_sum (f := fun i => (s.queues i).getting) (fun _ _ => Nat.zero_le _)
      (Finset.mem_univ i)
  have backed := balanced.backed
  omega

/-- Each step keeps the account. -/
theorem RbState.Balanced.step (balanced : s.Balanced) (event : RbEvent c) :
    (rbStep s event).Balanced := by
  cases event with
  | work ok =>
      obtain ⟨placed, delta, noPages⟩ := @workStep_spec ok _ _ balanced.work
        balanced.localEmpty balanced.rbdEmpty balanced.stocked
      have lengths := delta.weight fun _ => 1
      simp only [weighVid, weigh_one] at lengths
      have backed := balanced.backed
      have requests := balanced.requests
      have holdings := balanced.holdings
      have movedBacked := delta.backed
      have movedRequests := delta.requests
      refine ⟨balanced.queues, ?_, ?_, ?_, placed, noPages, delta.empty balanced.rbdEmpty⟩
      · change _ = 8 * ((workStep ok s.sh s.work).1.rba.reqReady + s.getting + _)
        dsimp only [rbStep]
        omega
      · change _ + s.getting + _ = _
        dsimp only [rbStep]
        omega
      · dsimp only [rbStep]
        omega
  | handle i env =>
      obtain ⟨ok, delta⟩ := @handleStep_spec c.queueSize env _ _ (balanced.queues i) balanced.held
      have moved : ∀ f : Rxq → Nat, _ := fun f =>
        sum_update s.queues f i (handleStep c.queueSize env s.sh (s.queues i)).2
      have getting := moved Rxq.getting
      have posted := moved Rxq.requests
      have claimed := moved Rxq.claimed
      have handed := moved Rxq.handed
      have backed := balanced.backed
      have requests := balanced.requests
      have holdings := balanced.holdings
      have movedBacked := delta.backed
      have movedRequests := delta.requests
      have movedHoldings := delta.holdings
      unfold RbState.getting at backed requests
      refine ⟨fun j => ?_, ?_, ?_, ?_, balanced.work.mono delta.pending, balanced.localEmpty,
        delta.empty balanced.rbdEmpty⟩
      · dsimp only [rbStep]
        by_cases same : j = i
        · rw [same, Function.update_self]
          exact ok
        · rw [Function.update_of_ne same]
          exact balanced.queues j
      · dsimp only [rbStep, RbState.getting]
        omega
      · dsimp only [rbStep, RbState.getting]
        omega
      · dsimp only [rbStep]
        omega

theorem length_poolBufs (start count : Nat) : (poolBufs start count).length = count := by
  rw [poolBufs, List.length_map, List.length_reverse, List.length_range]

theorem page_of_mem_poolBufs {start count : Nat} {rxb : RxMemBuffer}
    (member : rxb ∈ poolBufs start count) : rxb.page = false := by
  obtain ⟨i, -, rfl⟩ := List.mem_map.mp member
  rfl

/-- A queue before its first descriptor is handled. -/
theorem RbState.init_queue (i : Fin (c.moreQueues + 1)) :
    (init c).queues i = .empty ∨
      (init c).queues i =
        { Rxq.empty with
          rxUsed := poolBufs (allocatorPoolSize c) c.ringBufs
          pc := .allocRbs .init } := by
  dsimp only [init]
  by_cases default : i = 0
  · rw [default, Function.update_self]
    exact .inr rfl
  · rw [Function.update_of_ne default]
    exact .inl rfl

theorem RbState.ok_init (i : Fin (c.moreQueues + 1)) : ((init c).queues i).Ok := by
  rcases init_queue i with queue | queue <;> rw [queue]
  · exact Rxq.ok_of_plain rfl rfl (Nat.le_refl _) (fun _ => Nat.le_refl _) (by decide) nofun
  · refine Rxq.ok_of_plain rfl rfl (Nat.zero_le _) (fun _ => Nat.le_refl _) ?_
      fun _ => page_of_mem_poolBufs
    dsimp only [Rxq.empty]
    decide

/-- The account that `_iwl_pcie_rx_init` opens. -/
theorem RbState.balanced_init : (init c).Balanced := by
  have zero : ∀ (f : Rxq → Nat), f .empty = 0 →
      f { Rxq.empty with
          rxUsed := poolBufs (allocatorPoolSize c) c.ringBufs
          pc := .allocRbs .init } = 0 → ∑ i, f ((init c).queues i) = 0 := by
    intro f empty default
    refine Finset.sum_eq_zero fun i _ => ?_
    rcases init_queue i with queue | queue <;> rw [queue]
    · exact empty
    · exact default
  refine ⟨ok_init, ?_, ?_, ?_, ⟨rfl, rfl⟩, nofun, fun _ => page_of_mem_poolBufs⟩
  · rw [getting, zero _ rfl rfl]
    rfl
  · have requests : ∀ q : Rxq, q.pc.plain = true → q.usedCount = 0 → q.requests = 0 := by
      intro q plain unused
      rw [Rxq.requests_of_plain plain, unused]
    rw [getting, zero _ rfl rfl, zero _ (requests _ rfl rfl) (requests _ rfl rfl)]
    rfl
  · rw [zero _ rfl rfl, zero _ rfl rfl]
    change (poolBufs 0 (allocatorPoolSize c)).length = 0 + 6 * (c.moreQueues + 1)
    rw [length_poolBufs, allocatorPoolSize, rxClaimReqAlloc, rxPostReqAlloc]
    omega

theorem RbState.balanced_run (events : List (RbEvent c)) :
    (events.foldl rbStep (init c)).Balanced :=
  run_invariant (fun _ event balanced => balanced.step event) balanced_init events

/-- In every run of the handlers of all queues and the work, the work hits none of its two
assertions. -/
theorem rxAllocator_never_bug (events : List (RbEvent c)) :
    (events.foldl rbStep (RbState.init c)).work.pc ≠ .bug := by
  intro bug
  have placed := (RbState.balanced_run events).work
  unfold RxWork.Placed at placed
  rw [bug] at placed
  exact placed

end Iwlwifi
