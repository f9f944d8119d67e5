import Iwlwifi.Pcie.RxNeverDry

/-!
# Rx buffer descriptors are conserved

Every descriptor of the pool is in one place, the free count of a queue is the length of its
list, and the ready requests are backed by allocated descriptors.  The used count of a queue
covers what the queue handed over and did not take back, unless descriptors that were used
in emergency, where they are not counted, are left on the used list when the emergency is
over: the next move hands them over with the others.  `iwl_pcie_rxq_alloc_rbs` is to empty
the list before that, and returns early when it finds no page.
-/

namespace Iwlwifi

open Lib

variable {c : RxConfig} {s : RbState c}

/-! ## Places -/

/-- How often the descriptor of a number occurs in a list. -/
def countVid (vid : Nat) (l : List RxMemBuffer) : Nat := (l.map RxMemBuffer.vid).count vid

/-- How often the descriptor of a number occurs in all places. -/
def RbState.places (s : RbState c) (vid : Nat) : Nat :=
  countVid vid s.sh.hw + countVid vid s.sh.rba.rbdEmpty + countVid vid s.sh.rba.rbdAllocated +
    countVid vid s.work.localEmpty + countVid vid s.work.localAllocated +
    ∑ i, (countVid vid (s.queues i).rxFree + countVid vid (s.queues i).rxUsed +
      countVid vid (s.queues i).inHand)

def RxConfig.poolSize (c : RxConfig) : Nat := allocatorPoolSize c + c.ringBufs

/-- The descriptors are conserved and accounted for. -/
structure RbState.Conserved (s : RbState c) : Prop where
  once : ∀ vid, 1 ≤ vid → vid ≤ c.poolSize → s.places vid = 1
  freeCount : ∀ i, (s.queues i).freeCount = (s.queues i).rxFree.length
  ready : 8 * s.sh.rba.reqReady ≤ s.sh.rba.rbdAllocated.length
  tracked : ∀ i, (s.queues i).handed ≤ (s.queues i).usedCount + (s.queues i).claimed

/-- One for the descriptor of a number. -/
def ofVid (vid v : Nat) : Nat := if v = vid then 1 else 0

theorem countVid_eq (vid : Nat) (l : List RxMemBuffer) :
    countVid vid l = weighVid (ofVid vid) l := by
  induction l with
  | nil => rfl
  | cons rxb l ih =>
      rw [weighVid_cons, ← ih, countVid, List.map_cons, List.count_cons, countVid, ofVid,
        Nat.add_comm]
      simp only [beq_iff_eq]

/-- A weight over all places. -/
def RbState.weight (f : Nat → Nat) (s : RbState c) : Nat :=
  weighVid f s.sh.hw + weighVid f s.sh.rba.rbdEmpty + weighVid f s.sh.rba.rbdAllocated +
    weighVid f s.work.localEmpty + weighVid f s.work.localAllocated +
    ∑ i, (s.queues i).weight f

theorem RbState.places_eq (vid : Nat) : s.places vid = s.weight (ofVid vid) := by
  simp only [places, weight, countVid_eq, Rxq.weight]

/-- No step creates a descriptor or loses one. -/
theorem RbState.Balanced.weight_step (balanced : s.Balanced) (f : Nat → Nat)
    (event : RbEvent c) : (rbStep s event).weight f = s.weight f := by
  cases event with
  | work ok =>
      obtain ⟨-, delta, -⟩ := @workStep_spec ok _ _ balanced.work balanced.localEmpty
        balanced.rbdEmpty balanced.stocked
      have moved := delta.weight f
      dsimp only [RbState.weight, rbStep]
      rw [delta.hw]
      omega
  | handle i env =>
      obtain ⟨-, delta⟩ := @handleStep_spec c.queueSize env _ _ (balanced.queues i) balanced.held
      have moved := delta.weight f
      have own := sum_update s.queues (Rxq.weight f) i
        (handleStep c.queueSize env s.sh (s.queues i)).2
      dsimp only [RbState.weight, rbStep]
      omega

theorem countVid_poolBufs (vid start count : Nat) :
    countVid vid (poolBufs start count) = if start < vid ∧ vid ≤ start + count then 1 else 0 := by
  have distinct : ((poolBufs start count).map RxMemBuffer.vid).Nodup := by
    rw [poolBufs, List.map_map, List.nodup_map_iff_inj_on (List.nodup_reverse.mpr List.nodup_range)]
    intro i _ j _ same
    simpa using same
  rw [countVid, distinct.count]
  refine if_congr ?_ rfl rfl
  simp only [poolBufs, List.map_map, List.mem_map, List.mem_reverse, List.mem_range,
    Function.comp_apply]
  constructor
  · rintro ⟨i, lt, rfl⟩
    omega
  · rintro ⟨lt, le⟩
    exact ⟨vid - start - 1, by omega, by omega⟩

/-- Each descriptor of the pool starts in one place, and there are no others. -/
theorem RbState.places_init_eq (vid : Nat) :
    (init c).places vid = if 1 ≤ vid ∧ vid ≤ c.poolSize then 1 else 0 := by
  have queues := sum_update (fun _ : Fin (c.moreQueues + 1) => Rxq.empty)
    (Rxq.weight (ofVid vid)) 0
    { Rxq.empty with
      rxUsed := poolBufs (allocatorPoolSize c) c.ringBufs
      pc := .allocRbs .init }
  have empties : ∑ _i : Fin (c.moreQueues + 1), Rxq.empty.weight (ofVid vid) = 0 :=
    Finset.sum_eq_zero fun _ _ => rfl
  rw [empties] at queues
  change (∑ i, ((init c).queues i).weight (ofVid vid)) + 0 =
    0 + (0 + weighVid _ (poolBufs (allocatorPoolSize c) c.ringBufs) + 0) at queues
  have spare := countVid_poolBufs vid 0 (allocatorPoolSize c)
  have ring := countVid_poolBufs vid (allocatorPoolSize c) c.ringBufs
  rw [countVid_eq] at spare ring
  rw [places_eq, weight]
  change 0 + weighVid _ (poolBufs 0 (allocatorPoolSize c)) + 0 + 0 + 0 + _ = _
  unfold RxConfig.poolSize
  rw [ring] at queues
  rw [spare]
  split at queues <;> split <;> split <;> omega

theorem RbState.places_init {vid : Nat} (positive : 1 ≤ vid) (le : vid ≤ c.poolSize) :
    (init c).places vid = 1 := by
  rw [places_init_eq, if_pos ⟨positive, le⟩]

/-- In every run, each descriptor of the pool is in one place. -/
theorem RbState.places_run (events : List (RbEvent c)) {vid : Nat} (positive : 1 ≤ vid)
    (le : vid ≤ c.poolSize) : (events.foldl rbStep (init c)).places vid = 1 := by
  have kept : ∀ (s : RbState c) (event : RbEvent c), s.Balanced ∧ s.places vid = 1 →
      (rbStep s event).Balanced ∧ (rbStep s event).places vid = 1 := by
    rintro s event ⟨balanced, once⟩
    rw [places_eq] at once ⊢
    exact ⟨balanced.step event, (balanced.weight_step _ event).trans once⟩
  exact (run_invariant kept ⟨balanced_init, places_init positive le⟩ events).2

theorem RbState.Balanced.ready (balanced : s.Balanced) :
    8 * s.sh.rba.reqReady ≤ s.sh.rba.rbdAllocated.length := by
  have backed := balanced.backed
  omega

/-- In every run, a ready request has its eight descriptors on the list. -/
theorem RbState.ready_of_run (events : List (RbEvent c)) :
    8 * (events.foldl rbStep (init c)).sh.rba.reqReady ≤
      (events.foldl rbStep (init c)).sh.rba.rbdAllocated.length :=
  (balanced_run events).ready

/-! ## What a queue handed over -/

/-- The descriptors that a queue handed over are covered by its used count.  Those that it is
about to hand over are too, unless they are not counted yet; and none of these is left when
the handler is about to return from an emergency. -/
structure Rxq.Tracked (q : Rxq) : Prop where
  handed : q.handed ≤ q.usedCount + q.claimed
  counted : ¬q.Uncounted → q.handed + q.rxUsed.length ≤ q.usedCount + q.claimed
  refilled : ∀ caller, q.pc = .restock caller → caller ≠ .restart → q.emergency = true →
    q.rxUsed = []

/-- No descriptor that is not counted stays behind in this step: where the refill gives up,
the used list is empty or the handler starts over in emergency, and where it is skipped,
the list is empty. -/
def Rxq.Refills (q : Rxq) (env : HandleEnv) : HandlePc → Prop
  | .allocRbs caller =>
      q.rxUsed = [] ∨ (env.page = true ∧ env.mapped = true) ∨
        (caller = .restart ∧ q.emergency = true)
  | .out => q.emergency = true → q.count = 0 → q.rxUsed = []
  | _ => True

instance Rxq.Refills.decidable (q : Rxq) (env : HandleEnv) :
    (pc : HandlePc) → Decidable (q.Refills env pc)
  | .allocRbs _ => inferInstanceAs (Decidable (_ ∨ (_ ∧ _) ∨ (_ ∧ _)))
  | .out => inferInstanceAs (Decidable (_ → _ → _))
  | .idle | .loop | .check | .take | .handle _ | .move | .post | .claim | .get | .batch
  | .restock _ => inferInstanceAs (Decidable True)

def RbState.Refills (s : RbState c) : RbEvent c → Prop
  | .handle i env => (s.queues i).Refills env (s.queues i).pc
  | .work _ => True

instance RbState.Refills.decidable (s : RbState c) :
    (event : RbEvent c) → Decidable (s.Refills event)
  | .handle i env => Rxq.Refills.decidable (s.queues i) env (s.queues i).pc
  | .work _ => inferInstanceAs (Decidable True)

variable {size : Nat} {env : HandleEnv} {sh : RxShared} {q : Rxq}

/-- A step that leaves the used list and the counts alone. -/
theorem Rxq.Tracked.of_same {q' : Rxq} (tracked : q.Tracked) (rxUsed : q'.rxUsed = q.rxUsed)
    (usedCount : q'.usedCount = q.usedCount) (handed : q'.handed = q.handed)
    (claimed : q'.claimed = q.claimed) (counting : ¬q'.Uncounted → q.Uncounted → q.rxUsed = [])
    (returning : ∀ caller, q'.pc = .restock caller → caller ≠ .restart →
      q'.emergency = true → q.rxUsed = []) : q'.Tracked := by
  refine ⟨?_, fun counted => ?_, fun caller pc other emergency => ?_⟩
  · rw [handed, usedCount, claimed]
    exact tracked.handed
  · rw [handed, usedCount, claimed, rxUsed]
    by_cases uncounted : q.Uncounted
    · rw [counting counted uncounted]
      exact tracked.handed
    · exact tracked.counted uncounted
  · rw [rxUsed]
    exact returning caller pc other emergency

/-- A step between places where a descriptor in emergency is not counted, and none else. -/
theorem Rxq.Tracked.of_plain {q' : Rxq} (tracked : q.Tracked) (rxUsed : q'.rxUsed = q.rxUsed)
    (usedCount : q'.usedCount = q.usedCount) (handed : q'.handed = q.handed)
    (claimed : q'.claimed = q.claimed) (emergency : q'.emergency = q.emergency)
    (allocs : ∀ caller, q.pc ≠ .allocRbs caller) (restocks : ∀ caller, q'.pc ≠ .restock caller) :
    q'.Tracked :=
  tracked.of_same rxUsed usedCount handed claimed
    (fun counted uncounted => absurd (uncounted.of_same emergency.symm allocs) counted)
    fun caller pc => absurd pc (restocks caller)

/-- The used descriptors are handed over, all of them counted. -/
theorem Rxq.Tracked.moved {q' : Rxq} (tracked : q.Tracked) (counted : ¬q.Uncounted)
    (rxUsed : q'.rxUsed = []) (usedCount : q'.usedCount = q.usedCount)
    (handed : q'.handed = q.handed + q.rxUsed.length) (claimed : q'.claimed = q.claimed) :
    q'.Tracked := by
  have before := tracked.counted counted
  refine ⟨?_, fun _ => ?_, fun _ _ _ _ => rxUsed⟩
  · rw [handed, usedCount, claimed]
    exact before
  · rw [handed, usedCount, claimed, rxUsed]
    exact before

theorem Rxq.counted_of (emergency : q.emergency = false)
    (allocs : ∀ caller, q.pc ≠ .allocRbs caller) : ¬q.Uncounted := by
  rintro (uncounted | ⟨caller, pc⟩)
  · rw [emergency] at uncounted
    cases uncounted
  · exact allocs caller pc

theorem Rxq.Tracked.handle_step (tracked : q.Tracked) {rxb : RxMemBuffer}
    (pc : q.pc = .handle rxb) : (q.handleRb rxb env).Tracked := by
  have allocs : ∀ caller, q.pc ≠ .allocRbs caller := by
    rw [pc]
    exact nofun
  unfold Rxq.handleRb
  split
  · exact tracked.of_plain rfl rfl rfl rfl rfl allocs nofun
  · have handed := tracked.handed
    unfold Rxq.reuseRbd
    dsimp only
    by_cases emergency : q.emergency = true
    · rw [if_pos emergency]
      exact ⟨handed, fun counted => absurd (.inl emergency) counted, nofun⟩
    · rw [if_neg emergency]
      have counted := tracked.counted (counted_of (by simpa using emergency) allocs)
      have length : (q.rxUsed ++ [{ rxb with page := false }]).length = q.rxUsed.length + 1 := by
        simp
      split <;>
      · refine ⟨?_, fun _ => ?_, nofun⟩
        · dsimp only
          omega
        · dsimp only
          omega

theorem Rxq.Tracked.alloc_step (tracked : q.Tracked) {caller : RefillCaller}
    (pc : q.pc = .allocRbs caller) (refills : q.Refills env q.pc) :
    (q.allocRbs caller env).Tracked := by
  rw [pc] at refills
  unfold Rxq.allocRbs
  cases used : q.rxUsed with
  | nil => exact tracked.of_same used.symm rfl rfl rfl (fun _ _ => used) fun _ _ _ _ => used
  | cons rxb rest =>
      have stays : ∀ {q' : Rxq}, q'.usedCount = q.usedCount → q'.handed = q.handed →
          q'.claimed = q.claimed → q'.emergency = q.emergency → q'.pc = .restock caller →
          caller = .restart ∧ q.emergency = true → q'.Tracked := by
        rintro q' usedCount handed claimed same pc' ⟨restart, emergency⟩
        refine ⟨?_, fun counted => ?_, fun other pc'' elsewhere => ?_⟩
        · rw [handed, usedCount, claimed]
          exact tracked.handed
        · exact absurd (.inl (same.trans emergency)) counted
        · rw [pc'] at pc''
          cases pc''
          exact absurd restart elsewhere
      rcases refills with empty | ⟨page, mapped⟩ | again
      · rw [used] at empty
        cases empty
      · simp only [page, mapped, Bool.not_true, Bool.false_eq_true, if_false]
        refine ⟨tracked.handed, fun counted => absurd (.inr ⟨caller, pc⟩) counted, ?_⟩
        intro other pc'
        rw [pc] at pc'
        cases pc'
      · dsimp only
        split
        · exact stays rfl rfl rfl rfl rfl again
        · split
          · exact stays rfl rfl rfl rfl rfl again
          · refine ⟨tracked.handed, fun counted => absurd (.inr ⟨caller, pc⟩) counted, ?_⟩
            intro other pc'
            rw [pc] at pc'
            cases pc'

theorem Rxq.Tracked.restock_step (tracked : q.Tracked) {caller : RefillCaller}
    (pc : q.pc = .restock caller) : (handleStep size env sh q).2.Tracked := by
  have allocs : ∀ caller, q.pc ≠ .allocRbs caller := by
    rw [pc]
    exact nofun
  have restocked : (q.restocked caller).Tracked := by
    cases caller with
    | restart => exact tracked.of_plain rfl rfl rfl rfl rfl allocs nofun
    | init | exit =>
        refine tracked.of_same rfl rfl rfl rfl (fun _ uncounted => ?_) nofun
        rcases uncounted with emergency | ⟨other, again⟩
        · exact tracked.refilled _ pc nofun emergency
        · exact absurd again (allocs other)
  unfold handleStep
  rw [pc]
  dsimp only
  split
  · split
    · refine tracked.of_same rfl rfl rfl rfl (fun counted uncounted => ?_) fun other pc' => ?_
      · exact (counted (uncounted.of_same rfl allocs)).elim
      · cases pc'
        exact tracked.refilled _ pc
    · exact restocked
  · exact restocked

theorem Rxq.pc_ne_allocRbs {pc : HandlePc} (here : q.pc = pc)
    (other : ∀ caller, pc ≠ .allocRbs caller) (caller : RefillCaller) :
    q.pc ≠ .allocRbs caller :=
  here ▸ other caller

theorem Rxq.Tracked.get_step (tracked : q.Tracked) (pc : q.pc = .get) (enough : 8 ≤ q.usedCount)
    (held : 8 ≤ sh.rba.rbdAllocated.length) : (handleStep size env sh q).2.Tracked := by
  have length : (sh.rba.rbdAllocated.take 8).length = 8 := List.length_take_of_le held
  have handed := tracked.handed
  have allocs := Rxq.pc_ne_allocRbs pc fun _ same => by cases same
  rw [handleStep, pc]
  dsimp only [Rxq.allocatorGot, rxClaimReqAlloc]
  refine ⟨?_, fun counted => ?_, fun caller same => by cases same⟩
  · dsimp only
    omega
  · have counting : ¬q.Uncounted := fun uncounted =>
      counted (uncounted.of_same rfl allocs)
    have before := tracked.counted counting
    dsimp only
    omega

theorem Rxq.Tracked.out_step (tracked : q.Tracked) (pc : q.pc = .out)
    (refills : q.Refills env .out) : (handleStep size env sh q).2.Tracked := by
  have allocs := Rxq.pc_ne_allocRbs pc fun _ same => by cases same
  rw [handleStep, pc]
  dsimp only
  split
  · exact tracked.of_same rfl rfl rfl rfl
      (fun counted => absurd (.inr ⟨.exit, rfl⟩) counted)
          fun caller same => by cases same
  · rename_i skipped
    refine tracked.of_same rfl rfl rfl rfl (fun counted uncounted => ?_)
      fun _ _ _ emergency => ?_
    · exact (counted (uncounted.of_same rfl allocs)).elim
    · refine refills emergency ?_
      by_contra counts
      exact skipped ⟨emergency, counts⟩

theorem Rxq.Tracked.batch_step (tracked : q.Tracked) (pc : q.pc = .batch) :
    (handleStep size env sh q).2.Tracked := by
  have allocs := Rxq.pc_ne_allocRbs pc fun _ same => by cases same
  rw [handleStep, pc]
  dsimp only
  split
  · rename_i full
    exact tracked.moved (Rxq.counted_of full.2 allocs) rfl rfl rfl rfl
  · unfold Rxq.countEmergency
    split
    · split
      · exact tracked.of_same rfl rfl rfl rfl
          (fun counted => absurd (.inr ⟨.restart, rfl⟩) counted)
          fun caller same => by cases same
      · exact tracked.of_plain rfl rfl rfl rfl rfl allocs fun caller same => by cases same
    · exact tracked.of_plain rfl rfl rfl rfl rfl allocs fun caller same => by cases same

/-- A step of a handler that leaves no descriptor uncounted keeps track of them. -/
theorem handleStep_tracked (ok : q.Ok) (held : q.pc = .get → 8 ≤ sh.rba.rbdAllocated.length)
    (tracked : q.Tracked) (refills : q.Refills env q.pc) :
    (handleStep size env sh q).2.Tracked := by
  cases pc : q.pc with
  | restock caller => exact tracked.restock_step pc
  | handle rxb =>
      rw [handleStep, pc]
      exact tracked.handle_step pc
  | allocRbs caller =>
      rw [handleStep, pc]
      exact tracked.alloc_step pc refills
  | move =>
      rw [handleStep, pc]
      have counting := (ok.requesting (.inl pc)).2
      have allocs := Rxq.pc_ne_allocRbs pc fun _ same => by cases same
      exact tracked.moved (Rxq.counted_of counting allocs) rfl rfl rfl rfl
  | get => exact tracked.get_step pc (ok.getting pc) (held pc)
  | out => exact tracked.out_step pc (pc ▸ refills)
  | check =>
      have allocs := Rxq.pc_ne_allocRbs pc fun _ same => by cases same
      rw [handleStep, pc]
      dsimp only
      split
      · rename_i entered
        exact tracked.moved (Rxq.counted_of entered.2 allocs) rfl rfl rfl rfl
      · exact tracked.of_plain rfl rfl rfl rfl rfl allocs fun caller same => by cases same
  | batch => exact tracked.batch_step pc
  | idle | loop | take | post | claim =>
      have allocs := Rxq.pc_ne_allocRbs pc fun _ same => by cases same
      rw [handleStep, pc]
      dsimp only
      try split
      all_goals
        refine tracked.of_plain rfl rfl rfl rfl rfl allocs ?_
        intro caller same
        cases same

/-- The account and what the queues handed over, step by step. -/
theorem RbState.tracked_step (s : RbState c) (event : RbEvent c)
    (kept : s.Balanced ∧ ∀ i, (s.queues i).Tracked) (refills : s.Refills event) :
    (rbStep s event).Balanced ∧ ∀ i, ((rbStep s event).queues i).Tracked := by
  obtain ⟨balanced, tracked⟩ := kept
  refine ⟨balanced.step event, ?_⟩
  cases event with
  | work ok => exact tracked
  | handle i env =>
      intro j
      dsimp only [rbStep]
      by_cases same : j = i
      · rw [same, Function.update_self]
        exact handleStep_tracked (balanced.queues i) balanced.held (tracked i) refills
      · rw [Function.update_of_ne same]
        exact tracked j

theorem RbState.tracked_init (i : Fin (c.moreQueues + 1)) : ((init c).queues i).Tracked := by
  rcases init_queue i with queue | queue <;> rw [queue]
  · exact ⟨Nat.le_refl _, fun _ => Nat.le_refl _, nofun⟩
  · exact ⟨Nat.le_refl _, fun counted => absurd (.inr ⟨.init, rfl⟩) counted, nofun⟩

/-- In every run in which no descriptor that is not counted stays behind, the descriptors are
conserved and accounted for. -/
theorem rx_conserved (events : List (RbEvent c))
    (run : Admissible rbStep RbState.Refills (RbState.init c) events) :
    (events.foldl rbStep (RbState.init c)).Conserved := by
  obtain ⟨balanced, tracked⟩ := run.invariant
    (P := fun s => s.Balanced ∧ ∀ i, (s.queues i).Tracked)
    (fun s event kept refills => s.tracked_step event kept refills)
    ⟨RbState.balanced_init, RbState.tracked_init⟩
  exact ⟨fun vid => RbState.places_run events, fun i => (balanced.queues i).freeCount,
    balanced.ready, fun i => (tracked i).handed⟩

/-- Pages are found, and the ring has room. -/
def HandleEnv.supplied : HandleEnv := ⟨true, 0, true, true, true, true⟩

/-- Pages are stolen, and none are found. -/
def HandleEnv.starved : HandleEnv := ⟨true, 0, false, false, false, false⟩

/-- As many steps of the handler of the only queue. -/
def handles (n : Nat) (env : HandleEnv) : List (RbEvent ⟨0, 256, 256⟩) :=
  List.replicate n (.handle 0 env)

/-- Some pages of a ring are stolen while the work allocates others. -/
def stealingRun : List (RbEvent ⟨0, 256, 256⟩) :=
  handles 512 .supplied ++ handles 100 .starved ++ List.replicate 30 (.work true)

theorem rx_conserved_stealing :
    Admissible rbStep RbState.Refills (RbState.init ⟨0, 256, 256⟩) stealingRun ∧
      (stealingRun.foldl rbStep (RbState.init ⟨0, 256, 256⟩)).Conserved :=
  have run : Admissible rbStep RbState.Refills (RbState.init ⟨0, 256, 256⟩) stealingRun := by
    decide +kernel
  ⟨run, rx_conserved _ run⟩

/-- Sixteen requests are pending when the next page is stolen: that descriptor is used in
emergency, no page is found for it when the handler returns, and the next time the handler
runs it is handed over without being counted. -/
theorem rx_not_conserved :
    ¬((handles 512 .supplied ++ handles 772 .starved ++
        handles 5 { HandleEnv.starved with more := false } ++ handles 2 .starved).foldl
      rbStep (RbState.init ⟨0, 256, 256⟩)).Conserved := by
  intro conserved
  have tracked := conserved.tracked 0
  revert tracked
  decide +kernel

end Iwlwifi
