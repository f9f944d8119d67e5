import Iwlwifi.Pcie.RxConserved

/-!
# Completions named by the device

On a device with several receive queues a completion names a virtual id.  `iwl_pcie_get_rxb`
looks the id up in `global_table` and trusts the `invalid` bit of the descriptor it finds: a
restock clears the bit, a completion sets it.  The table has room for the descriptors of sixteen
queues, and `_iwl_pcie_rx_init` fills it for the queues there are.

The bit is read and set under the lock of the queue, and all queues share the descriptors, so
the two accesses are steps of their own.
-/

namespace Iwlwifi

open Function (update update_of_ne)

open Lib

/-! ## The lookup -/

/-- `IWL_MAX_RX_HW_QUEUES` -/
def iwlMaxRxHwQueues : Nat := 16

/-- `RX_POOL_SIZE(num_rx_bufs)`: the default queue starts with `num_rx_bufs - 1` descriptors. -/
def RxConfig.rxPoolSize (c : RxConfig) : Nat :=
  c.ringBufs + iwlMaxRxHwQueues * (rxClaimReqAlloc - rxPostReqAlloc)

/-- `global_table`: the `vid` of the descriptor of an entry, none where it was left empty. -/
def globalTable (c : RxConfig) (i : Nat) : Option Nat :=
  if i < c.poolSize then some (i + 1) else none

/-- What `iwl_pcie_get_rxb` comes to before it sets the bit. -/
inductive RxbLookup
  /-- the id or the descriptor is invalid: it returns NULL -/
  | null
  /-- it dereferences an empty entry -/
  | missing
  | rxb (vid : Nat)
deriving DecidableEq

/-- `iwl_pcie_get_rxb` up to the test of the bit. -/
def iwlPcieGetRxb (c : RxConfig) (invalid : Nat → Bool) (vid : Nat) : RxbLookup :=
  if vid = 0 ∨ c.rxPoolSize < vid then .null
  else
    match globalTable c (vid - 1) with
    | none => .missing
    | some vid => if invalid vid then .null else .rxb vid

/-! ## The device -/

/-- The descriptors with their bits, and for each handler the descriptor that it found valid and
has not marked yet.  `oops` says that an empty entry was dereferenced; `strays` are the
descriptors that were returned while the hardware did not own them. -/
structure VidState (c : RxConfig) where
  rb : RbState c
  invalid : Nat → Bool
  found : Fin (c.moreQueues + 1) → Option Nat
  oops : Bool
  strays : List Nat

inductive VidEvent (c : RxConfig)
  /-- a step of a handler that does not take a descriptor from the ring -/
  | handle (i : Fin (c.moreQueues + 1)) (env : HandleEnv)
  | work (ok : Bool)
  /-- the device names an id, and the handler reads the bit -/
  | get (i : Fin (c.moreQueues + 1)) (vid : Nat)
  /-- the handler sets the bit and returns the descriptor -/
  | mark (i : Fin (c.moreQueues + 1))
  /-- `_iwl_pcie_rx_init`, after the handlers have come to their end -/
  | init

/-- The handler's next descriptor is the one in a place of the rings. -/
def HandleEnv.picking (pick : Nat) : HandleEnv := ⟨false, pick, false, false, false, false⟩

/-- The descriptor that a step of the handler puts on the ring. -/
def Rxq.posts (q : Rxq) (env : HandleEnv) : Option RxMemBuffer :=
  match q.pc, q.rxFree with
  | .restock _, rxb :: _ => if q.freeCount ≠ 0 ∧ env.room then some rxb else none
  | _, _ => none

/-- The place of a descriptor on the rings. -/
def RxShared.placeOf (sh : RxShared) (vid : Nat) : Option Nat :=
  sh.hw.findIdx? fun rxb => rxb.vid == vid

variable {c : RxConfig}

/-- The state that `_iwl_pcie_rx_init` creates. -/
def VidState.init (c : RxConfig) : VidState c :=
  ⟨RbState.init c, fun _ => true, fun _ => none, false, []⟩

def vidStep (s : VidState c) : VidEvent c → VidState c
  | .handle i env =>
    if (s.rb.queues i).pc = .take then s
    else
      { s with
        rb := rbStep s.rb (.handle i env)
        invalid := match (s.rb.queues i).posts env with
          | none => s.invalid
          | some rxb => update s.invalid rxb.vid false }
  | .work ok => { s with rb := rbStep s.rb (.work ok) }
  | .get i vid =>
    if (s.rb.queues i).pc = .take ∧ s.found i = none then
      match iwlPcieGetRxb c s.invalid vid with
      | .null => { s with rb := rbStep s.rb (.handle i (.picking s.rb.sh.hw.length)) }
      | .missing => { s with oops := true }
      | .rxb vid => { s with found := update s.found i (some vid) }
    else s
  | .mark i =>
    match s.found i with
    | none => s
    | some vid =>
      let s := { s with
        invalid := update s.invalid vid true
        found := update s.found i none }
      match s.rb.sh.placeOf vid with
      | some pick => { s with rb := rbStep s.rb (.handle i (.picking pick)) }
      | none =>
        -- the descriptor is on another list, which the handler will corrupt
        { s with
          rb := { s.rb with
            queues := update s.rb.queues i
              { s.rb.queues i with pc := .handle ⟨vid, false⟩ } }
          strays := vid :: s.strays }
  | .init =>
    if ∀ i, (s.rb.queues i).pc = .idle then
      { s with rb := RbState.init c, invalid := fun _ => true }
    else s

/-- The completions are validated: no empty entry was dereferenced, every descriptor returned
was owned by the hardware, and the one that a handler processes is neither on the rings nor in
the hands of another handler. -/
structure VidState.Validated (s : VidState c) : Prop where
  noOops : s.oops = false
  owned : s.strays = []
  once : ∀ i rxb, (s.rb.queues i).pc = .handle rxb →
    rxb.vid ∉ s.rb.sh.hw.map RxMemBuffer.vid ∧
    ∀ j other, (s.rb.queues j).pc = .handle other → other.vid = rxb.vid → j = i

/-- The device does not name a descriptor beyond those there are, up to the size of the table,
and no descriptor is completed by one handler between the two accesses of another. -/
def VidState.Honest (s : VidState c) : VidEvent c → Prop
  | .get i vid => (s.rb.queues i).pc = .take → s.found i = none →
      vid ≤ c.poolSize ∨ c.rxPoolSize < vid
  | .mark i => ∀ vid, s.found i = some vid → s.invalid vid = false
  | _ => True

/-! ## The rings -/

section Rings

variable {size : Nat} {env : HandleEnv} {sh : RxShared} {q : Rxq} {vid : Nat}

/-- Only a handler that restocks puts a descriptor on a ring. -/
theorem handleStep_hw (notTake : q.pc ≠ .take) :
    (handleStep size env sh q).1.hw = sh.hw ++ (q.posts env).toList := by
  have plain : q.posts env = none → (handleStep size env sh q).1.hw = sh.hw →
      (handleStep size env sh q).1.hw = sh.hw ++ (q.posts env).toList := by
    intro none same
    rw [none, same, Option.toList_none, List.append_nil]
  cases pc : q.pc with
  | take => exact absurd pc notTake
  | restock caller =>
    rw [handleStep, pc, Rxq.posts, pc]
    cases free : q.rxFree with
    | nil => exact (List.append_nil _).symm
    | cons rxb rest =>
      dsimp only
      split
      · rfl
      · exact (List.append_nil _).symm
  | idle | loop | check | handle rxb | move | post | claim | get | batch | out | allocRbs caller =>
    refine plain (by rw [Rxq.posts, pc]) ?_
    rw [handleStep, pc]
    first | done | rfl | (dsimp only; split <;> rfl)

theorem workStep_hw {ok : Bool} {w : RxWork} : (workStep ok sh w).1.hw = sh.hw := by
  rw [workStep]
  split <;> try rfl
  split <;> rfl

/-- A handler takes the descriptor that it picks. -/
theorem handleStep_take (pc : q.pc = .take) {rxb : RxMemBuffer}
    (here : sh.hw[env.pick]? = some rxb) :
    handleStep size env sh q =
      ({ sh with hw := sh.hw.eraseIdx env.pick }, { q with pc := .handle rxb }) := by
  rw [handleStep, pc]
  dsimp only
  rw [here]

theorem handleStep_take_none (pc : q.pc = .take) (none : sh.hw[env.pick]? = none) :
    handleStep size env sh q = (sh, { q with pc := .out }) := by
  rw [handleStep, pc]
  dsimp only
  rw [none]

theorem placeOf_eq_none : sh.placeOf vid = none ↔ vid ∉ sh.hw.map RxMemBuffer.vid := by
  rw [RxShared.placeOf, List.findIdx?_eq_none_iff, List.mem_map]
  constructor
  · rintro apart ⟨rxb, member, rfl⟩
    simpa using apart rxb member
  · intro absent rxb member
    rw [beq_eq_false_iff_ne]
    exact fun same => absent ⟨rxb, member, same⟩

theorem placeOf_eq_some {pick : Nat} (place : sh.placeOf vid = some pick) :
    (∃ rxb, sh.hw[pick]? = some rxb ∧ rxb.vid = vid) ∧
      (sh.hw.eraseIdx pick).map RxMemBuffer.vid = (sh.hw.map RxMemBuffer.vid).erase vid := by
  constructor
  · obtain ⟨lt, same, -⟩ := List.findIdx?_eq_some_iff_getElem.mp place
    exact ⟨sh.hw[pick], List.getElem?_eq_getElem lt, beq_iff_eq.mp same⟩
  · rw [List.erase_eq_eraseP', List.eraseP_map]
    have erased := @List.eraseP_eq_eraseIdx _ sh.hw fun rxb => rxb.vid == vid
    rw [show sh.hw.findIdx? (fun rxb => rxb.vid == vid) = some pick from place] at erased
    exact congrArg (List.map RxMemBuffer.vid) erased.symm

end Rings

/-! ## The bit says who owns a descriptor -/

/-- The descriptors are conserved, the bit of a descriptor is clear exactly while it is on a ring,
and a handler that has found one is about to take it. -/
structure VidState.Tracks (s : VidState c) : Prop where
  balanced : s.rb.Balanced
  places : ∀ vid, s.rb.places vid = if 1 ≤ vid ∧ vid ≤ c.poolSize then 1 else 0
  bit : ∀ vid, s.invalid vid = false ↔ vid ∈ s.rb.sh.hw.map RxMemBuffer.vid
  found : ∀ i vid, s.found i = some vid → (s.rb.queues i).pc = .take

section Tracks

variable {s : VidState c} {i : Fin (c.moreQueues + 1)}

theorem VidState.Tracks.places_le (tracks : s.Tracks) (vid : Nat) : s.rb.places vid ≤ 1 := by
  rw [tracks.places vid]
  split <;> omega

/-- A ring has each descriptor once. -/
theorem VidState.Tracks.nodup (tracks : s.Tracks) : (s.rb.sh.hw.map RxMemBuffer.vid).Nodup := by
  rw [List.nodup_iff_count_le_one]
  intro vid
  have le := tracks.places_le vid
  unfold RbState.places countVid at le
  omega

/-- The account after a step of the handlers and the work. -/
theorem VidState.Tracks.rbStep (tracks : s.Tracks) (event : RbEvent c) :
    (rbStep s.rb event).Balanced ∧
      ∀ vid, (Iwlwifi.rbStep s.rb event).places vid =
        if 1 ≤ vid ∧ vid ≤ c.poolSize then 1 else 0 := by
  refine ⟨tracks.balanced.step event, fun vid => ?_⟩
  rw [← tracks.places vid, RbState.places_eq, RbState.places_eq]
  exact tracks.balanced.weight_step _ event

theorem VidState.Tracks.init (c : RxConfig) : (VidState.init c).Tracks where
  balanced := RbState.balanced_init
  places := RbState.places_init_eq
  bit := fun _ => iff_of_false Bool.noConfusion List.not_mem_nil
  found := fun _ _ none => by cases none

theorem VidState.Tracks.handle_step (tracks : s.Tracks) (env : HandleEnv) :
    (vidStep s (.handle i env)).Tracks := by
  rw [vidStep]
  split
  · exact tracks
  next notTake =>
  obtain ⟨balanced, places⟩ := tracks.rbStep (.handle i env)
  refine ⟨balanced, places, fun vid => ?_, fun j vid found => ?_⟩
  · have hw := @handleStep_hw c.queueSize env s.rb.sh (s.rb.queues i) notTake
    have member : vid ∈ (Iwlwifi.rbStep s.rb (.handle i env)).sh.hw.map RxMemBuffer.vid ↔
        vid ∈ s.rb.sh.hw.map RxMemBuffer.vid ∨
          ∃ rxb ∈ (s.rb.queues i).posts env, rxb.vid = vid := by
      have same : (Iwlwifi.rbStep s.rb (.handle i env)).sh.hw =
          s.rb.sh.hw ++ ((s.rb.queues i).posts env).toList := hw
      rw [same, List.map_append, List.mem_append, List.mem_map]
      simp
    rw [member, ← tracks.bit vid]
    cases posts : (s.rb.queues i).posts env with
    | none => simp
    | some rxb =>
      dsimp only
      rcases eq_or_ne vid rxb.vid with rfl | apart
      · simp
      · rw [update_of_ne apart]
        simp [apart.symm]
  · have take := tracks.found j vid found
    have apart : j ≠ i := by
      rintro rfl
      exact notTake take
    exact (congrArg Rxq.pc (update_of_ne apart _ _)).trans take

theorem VidState.Tracks.work_step (tracks : s.Tracks) (ok : Bool) :
    (vidStep s (.work ok)).Tracks := by
  obtain ⟨balanced, places⟩ := tracks.rbStep (.work ok)
  refine ⟨balanced, places, fun vid => ?_, tracks.found⟩
  have same : (Iwlwifi.rbStep s.rb (.work ok)).sh.hw = s.rb.sh.hw := workStep_hw
  exact (tracks.bit vid).trans (by rw [← same]; rfl)

theorem VidState.Tracks.init_step (tracks : s.Tracks) : (vidStep s .init).Tracks := by
  rw [vidStep]
  split
  · next idle =>
      refine ⟨RbState.balanced_init, RbState.places_init_eq,
        fun _ => iff_of_false Bool.noConfusion List.not_mem_nil, fun i vid found => ?_⟩
      cases (idle i).symm.trans (tracks.found i vid found)
  · exact tracks

/-- A handler whose lookup returns NULL leaves the loop. -/
theorem VidState.Tracks.null_step (tracks : s.Tracks) (pc : (s.rb.queues i).pc = .take)
    (free : s.found i = none) :
    VidState.Tracks
      { s with rb := Iwlwifi.rbStep s.rb (.handle i (.picking s.rb.sh.hw.length)) } := by
  obtain ⟨balanced, places⟩ := tracks.rbStep (.handle i (.picking s.rb.sh.hw.length))
  have beyond : s.rb.sh.hw[(HandleEnv.picking s.rb.sh.hw.length).pick]? = none :=
    List.getElem?_eq_none (Nat.le_refl _)
  have step := @handleStep_take_none c.queueSize _ _ _ pc beyond
  refine ⟨balanced, places, fun vid => ?_, fun j vid found => ?_⟩
  · refine (tracks.bit vid).trans ?_
    dsimp only [Iwlwifi.rbStep]
    rw [step]
  · have apart : j ≠ i := by
      rintro rfl
      cases free.symm.trans found
    exact (congrArg Rxq.pc (update_of_ne apart _ _)).trans (tracks.found j vid found)

theorem VidState.Tracks.get_step (tracks : s.Tracks) (vid : Nat) :
    (vidStep s (.get i vid)).Tracks := by
  rw [vidStep]
  split
  · next ready =>
      obtain ⟨pc, free⟩ := ready
      split
      · exact tracks.null_step pc free
      · exact ⟨tracks.balanced, tracks.places, tracks.bit, tracks.found⟩
      · refine ⟨tracks.balanced, tracks.places, tracks.bit, fun j vid found => ?_⟩
        rcases eq_or_ne j i with rfl | apart
        · exact pc
        · dsimp only at found
          rw [update_of_ne apart] at found
          exact tracks.found j vid found
  · exact tracks

/-- A handler that marks a descriptor on a ring takes it from there. -/
theorem VidState.Tracks.mark_step (tracks : s.Tracks) (honest : s.Honest (.mark i)) :
    (vidStep s (.mark i)).Tracks ∧ (vidStep s (.mark i)).strays = s.strays ∧
      (vidStep s (.mark i)).oops = s.oops := by
  cases found : s.found i with
  | none =>
    have same : vidStep s (.mark i) = s := by simp only [vidStep, found]
    rw [same]
    exact ⟨tracks, rfl, rfl⟩
  | some vid =>
    have pc := tracks.found i vid found
    have onRing := (tracks.bit vid).mp (honest vid found)
    cases place : s.rb.sh.placeOf vid with
    | none => exact absurd onRing (placeOf_eq_none.mp place)
    | some pick =>
      obtain ⟨⟨rxb, here, -⟩, erased⟩ := placeOf_eq_some place
      obtain ⟨balanced, places⟩ := tracks.rbStep (.handle i (.picking pick))
      have step := @handleStep_take c.queueSize (.picking pick) _ _ pc rxb here
      simp only [vidStep, found, place]
      refine ⟨⟨balanced, places, fun other => ?_, fun j other found' => ?_⟩, trivial, trivial⟩
      · have member : other ∈ (Iwlwifi.rbStep s.rb (.handle i (.picking pick))).sh.hw.map
            RxMemBuffer.vid ↔ other ≠ vid ∧ other ∈ s.rb.sh.hw.map RxMemBuffer.vid := by
          dsimp only [Iwlwifi.rbStep]
          rw [step]
          dsimp only [HandleEnv.picking]
          rw [erased, tracks.nodup.mem_erase_iff]
        rw [member, ← tracks.bit other]
        rcases eq_or_ne other vid with rfl | apart
        · simp
        · simp [apart]
      · have apart : j ≠ i := by
          rintro rfl
          simp at found'
        dsimp only at found'
        rw [update_of_ne apart] at found'
        exact (congrArg Rxq.pc (update_of_ne apart _ _)).trans
          (tracks.found j other found')

/-! ## Validation -/

/-- While the bits are right, what a handler processes is in its hands alone. -/
theorem VidState.Tracks.once (tracks : s.Tracks) (rxb : RxMemBuffer)
    (pc : (s.rb.queues i).pc = .handle rxb) :
    rxb.vid ∉ s.rb.sh.hw.map RxMemBuffer.vid ∧
      ∀ j other, (s.rb.queues j).pc = .handle other → other.vid = rxb.vid → j = i := by
  have le := tracks.places_le rxb.vid
  have holds : ∀ j other, (s.rb.queues j).pc = .handle other → other.vid = rxb.vid →
      countVid rxb.vid (s.rb.queues j).inHand = 1 := by
    intro j other pc same
    rw [Rxq.inHand, pc]
    simp [countVid, same]
  have here := holds i rxb pc rfl
  have each := fun j => Finset.single_le_sum
    (f := fun k => countVid rxb.vid (s.rb.queues k).rxFree +
      countVid rxb.vid (s.rb.queues k).rxUsed + countVid rxb.vid (s.rb.queues k).inHand)
    (fun _ _ => Nat.zero_le _) (Finset.mem_univ j)
  unfold RbState.places at le
  constructor
  · intro onRing
    have some : 1 ≤ countVid rxb.vid s.rb.sh.hw := List.count_pos_iff.mpr onRing
    have mine := each i
    omega
  · intro j other pc' same
    by_contra apart
    have there := holds j other pc' same
    have both := Finset.add_le_sum
      (f := fun k => countVid rxb.vid (s.rb.queues k).rxFree +
        countVid rxb.vid (s.rb.queues k).rxUsed + countVid rxb.vid (s.rb.queues k).inHand)
      (fun _ _ => Nat.zero_le _) (Finset.mem_univ j) (Finset.mem_univ i) apart
    omega

/-- What every honest step keeps. -/
def VidState.Sound (s : VidState c) : Prop := s.Tracks ∧ s.oops = false ∧ s.strays = []

theorem VidState.Sound.validated (sound : s.Sound) : s.Validated :=
  ⟨sound.2.1, sound.2.2, fun _ rxb pc => sound.1.once rxb pc⟩

theorem VidState.Sound.step (sound : s.Sound) (event : VidEvent c) (honest : s.Honest event) :
    (vidStep s event).Sound := by
  obtain ⟨tracks, noOops, noStrays⟩ := sound
  cases event with
  | handle i env =>
    refine ⟨tracks.handle_step env, ?_⟩
    rw [vidStep]
    split <;> exact ⟨noOops, noStrays⟩
  | work ok => exact ⟨tracks.work_step ok, noOops, noStrays⟩
  | mark i =>
    obtain ⟨tracks', strays, oops⟩ := tracks.mark_step honest
    exact ⟨tracks', oops.trans noOops, strays.trans noStrays⟩
  | init =>
    refine ⟨tracks.init_step, ?_⟩
    rw [vidStep]
    split <;> exact ⟨noOops, noStrays⟩
  | get i vid =>
    refine ⟨tracks.get_step vid, ?_⟩
    rw [vidStep]
    split
    · next ready =>
        have known := honest ready.1 ready.2
        split
        · exact ⟨noOops, noStrays⟩
        · next missing =>
            rw [iwlPcieGetRxb] at missing
            split at missing
            · cases missing
            · next inTable =>
                have entry : globalTable c (vid - 1) = some (vid - 1 + 1) :=
                  if_pos (by omega)
                rw [entry] at missing
                dsimp only at missing
                split at missing <;> cases missing
        · exact ⟨noOops, noStrays⟩
    · exact ⟨noOops, noStrays⟩

theorem VidState.Sound.honest_of (sound : s.Sound) (event : VidEvent c)
    (validated : (vidStep s event).Validated) : s.Honest event := by
  obtain ⟨tracks, -, -⟩ := sound
  cases event with
  | handle i env => trivial
  | work ok => trivial
  | init => trivial
  | get i vid =>
    intro pc free
    by_contra beyond
    have oops := validated.noOops
    have looked : iwlPcieGetRxb c s.invalid vid = .missing := by
      have entry : globalTable c (vid - 1) = none := if_neg (by omega)
      rw [iwlPcieGetRxb, if_neg (by omega), entry]
    rw [vidStep, if_pos ⟨pc, free⟩, looked] at oops
    cases oops
  | mark i =>
    intro vid found
    by_contra marked
    have gone := placeOf_eq_none.mpr (mt (tracks.bit vid).mpr marked)
    have strays := validated.owned
    simp only [vidStep, found, gone] at strays
    cases strays

end Tracks

/-- In a run of the handlers, the allocator's work and the device, every completion is validated
exactly if the device names no id of an empty entry and no descriptor is completed by one handler
between the test and the marking of another. -/
theorem getRxb_validated_iff (c : RxConfig) (events : List (VidEvent c)) :
    (∀ before, before <+: events → (before.foldl vidStep (VidState.init c)).Validated) ↔
      Admissible vidStep VidState.Honest (VidState.init c) events :=
  forall_reached_iff_of_invariant (P := VidState.Sound) (fun _ sound => sound.validated)
    (fun _ event sound honest => sound.step event honest)
    (fun _ event sound validated => sound.honest_of event validated)
    ⟨VidState.Tracks.init c, rfl, rfl⟩

/-- A handler whose queue has nothing to do comes to its next descriptor. -/
def comesToTake {c : RxConfig} (i : Fin (c.moreQueues + 1)) : List (VidEvent c) :=
  List.replicate 3 (.handle i ⟨true, 0, false, false, false, false⟩)

/-- The default queue is left without descriptors, and the device names id 518 where the pool has
517. -/
def emptyEntryRun : List (VidEvent ⟨0, 512, 511⟩) :=
  List.replicate 2 (.handle 0 ⟨true, 0, false, false, false, false⟩) ++ comesToTake 0 ++
    [.get 0 518]

/-- The default queue posts one descriptor, and the device names it to two queues at a time. -/
def twoQueuesRun : List (VidEvent ⟨1, 512, 511⟩) :=
  [.handle 0 ⟨true, 0, false, true, true, true⟩] ++
    List.replicate 3 (.handle 0 ⟨true, 0, false, false, false, true⟩) ++
    comesToTake 0 ++ comesToTake 1 ++ [.get 0 523, .get 1 523, .mark 0, .mark 1]

theorem not_getRxb_validated :
    ¬(emptyEntryRun.foldl vidStep (VidState.init ⟨0, 512, 511⟩)).Validated ∧
      ¬(twoQueuesRun.foldl vidStep (VidState.init ⟨1, 512, 511⟩)).Validated := by
  constructor
  · intro validated
    have noOops := validated.noOops
    revert noOops
    decide +kernel
  · intro validated
    have owned := validated.owned
    revert owned
    decide +kernel

end Iwlwifi
