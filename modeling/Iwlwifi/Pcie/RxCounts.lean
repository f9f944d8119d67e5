import Iwlwifi.Pcie.RxAllocator

/-!
# What a step moves

Each step of a handler or of the allocator's work moves descriptors between lists and
requests between counters.  This module says what stays equal: any weight summed over the
descriptors a step touches, and three balances of numbers.
-/

namespace Iwlwifi

open Lib

/-! ## A handler -/

/-- A weight of descriptors that depends on their number alone. -/
def weighVid (w : Nat → Nat) (l : List RxMemBuffer) : Nat := weigh (fun rxb => w rxb.vid) l

section

variable (w : Nat → Nat)

@[simp] theorem weighVid_nil : weighVid w [] = 0 := rfl

@[simp] theorem weighVid_cons (rxb : RxMemBuffer) (l : List RxMemBuffer) :
    weighVid w (rxb :: l) = w rxb.vid + weighVid w l := weigh_cons _ _ _

@[simp] theorem weighVid_append (l l' : List RxMemBuffer) :
    weighVid w (l ++ l') = weighVid w l + weighVid w l' := weigh_append _ _ _

@[simp] theorem weighVid_reverse (l : List RxMemBuffer) :
    weighVid w l.reverse = weighVid w l := weigh_reverse _ _

end

/-- The descriptor that a handler is processing. -/
def Rxq.inHand (q : Rxq) : List RxMemBuffer :=
  match q.pc with
  | .handle rxb => [rxb]
  | _ => []

/-- The weight of the descriptors of a queue. -/
def Rxq.weight (w : Nat → Nat) (q : Rxq) : Nat :=
  weighVid w q.rxFree + weighVid w q.rxUsed + weighVid w q.inHand

/-- One while the handler has a ready request in hand. -/
def Rxq.getting (q : Rxq) : Nat := if q.pc = .get then 1 else 0

/-- The requests that the queue has posted and not claimed, by its used count. -/
def Rxq.requests (q : Rxq) : Nat :=
  (q.usedCount + 6) / 8 - if q.pc = .move ∨ q.pc = .post then 1 else 0

/-- The used descriptors of the queue are not counted: in emergency, and while their pages are
allocated. -/
def Rxq.Uncounted (q : Rxq) : Prop := q.emergency = true ∨ ∃ caller, q.pc = .allocRbs caller

/-- What holds of every queue between two steps. -/
structure Rxq.Ok (q : Rxq) : Prop where
  freeCount : q.freeCount = q.rxFree.length
  requesting : q.pc = .move ∨ q.pc = .post → q.usedCount % 8 = 2 ∧ q.emergency = false
  posting : q.pc = .post → q.usedCount + q.claimed ≤ q.handed
  getting : q.pc = .get → 8 ≤ q.usedCount
  counted : q.usedCount + q.claimed ≤ q.handed + q.rxUsed.length
  uncounted : q.Uncounted → q.usedCount + q.claimed ≤ q.handed
  supplied : 8 * q.requests + q.claimed ≤ q.handed + 6
  noPages : ∀ rxb ∈ q.rxUsed, rxb.page = false

/-- What a step of a handler moves. -/
structure HandleDelta (sh sh' : RxShared) (q q' : Rxq) : Prop where
  weight : ∀ w, weighVid w sh'.hw + weighVid w sh'.rba.rbdEmpty +
      weighVid w sh'.rba.rbdAllocated + q'.weight w =
    weighVid w sh.hw + weighVid w sh.rba.rbdEmpty + weighVid w sh.rba.rbdAllocated + q.weight w
  backed : sh'.rba.rbdAllocated.length + 8 * (sh.rba.reqReady + q.getting) =
    sh.rba.rbdAllocated.length + 8 * (sh'.rba.reqReady + q'.getting)
  requests : sh'.rba.reqPending + sh'.rba.reqReady + q'.getting + q.requests =
    sh.rba.reqPending + sh.rba.reqReady + q.getting + q'.requests
  holdings : sh'.rba.rbdEmpty.length + sh'.rba.rbdAllocated.length + q'.claimed + q.handed =
    sh.rba.rbdEmpty.length + sh.rba.rbdAllocated.length + q.claimed + q'.handed
  pending : sh.rba.reqPending ≤ sh'.rba.reqPending
  empty : (∀ rxb ∈ sh.rba.rbdEmpty, rxb.page = false) →
    ∀ rxb ∈ sh'.rba.rbdEmpty, rxb.page = false

variable {size : Nat} {env : HandleEnv} {sh : RxShared} {q : Rxq}

theorem weighVid_take_add_drop (w : Nat → Nat) (n : Nat) (l : List RxMemBuffer) :
    weighVid w (l.take n) + weighVid w (l.drop n) = weighVid w l := weigh_take_add_drop _ _ _

/-- A place of the handler where it has no descriptor and no request in hand. -/
def HandlePc.plain : HandlePc → Bool
  | .handle _ | .move | .post | .get => false
  | _ => true

theorem Rxq.inHand_of_plain (plain : q.pc.plain = true) : q.inHand = [] := by
  unfold Rxq.inHand
  cases pc : q.pc <;> first | rfl | (rw [pc] at plain; cases plain)

theorem Rxq.getting_of_plain (plain : q.pc.plain = true) : q.getting = 0 := by
  refine if_neg fun pc => ?_
  rw [pc] at plain
  cases plain

theorem Rxq.requests_of_plain (plain : q.pc.plain = true) :
    q.requests = (q.usedCount + 6) / 8 := by
  have between : ¬(q.pc = .move ∨ q.pc = .post) := by
    rintro (pc | pc) <;> rw [pc] at plain <;> cases plain
  rw [Rxq.requests, if_neg between, Nat.sub_zero]

/-- The lists and the counts of a queue. -/
structure Rxq.SameLists (q q' : Rxq) : Prop where
  rxFree : q'.rxFree = q.rxFree
  rxUsed : q'.rxUsed = q.rxUsed
  freeCount : q'.freeCount = q.freeCount
  usedCount : q'.usedCount = q.usedCount
  handed : q'.handed = q.handed
  claimed : q'.claimed = q.claimed

/-- A queue that is in order at a plain place. -/
theorem Rxq.ok_of_plain (plain : q.pc.plain = true) (freeCount : q.freeCount = q.rxFree.length)
    (counted : q.usedCount + q.claimed ≤ q.handed + q.rxUsed.length)
    (uncounted : q.Uncounted → q.usedCount + q.claimed ≤ q.handed)
    (supplied : 8 * ((q.usedCount + 6) / 8) + q.claimed ≤ q.handed + 6)
    (noPages : ∀ rxb ∈ q.rxUsed, rxb.page = false) : q.Ok where
  freeCount := freeCount
  requesting between := by
    rcases between with pc | pc <;> rw [pc] at plain <;> cases plain
  posting pc := by
    rw [pc] at plain
    cases plain
  getting pc := by
    rw [pc] at plain
    cases plain
  counted := counted
  uncounted := uncounted
  supplied := by
    rw [requests_of_plain plain]
    exact supplied
  noPages := noPages

theorem Rxq.Uncounted.of_same {q' : Rxq} (uncounted : q'.Uncounted)
    (same : q'.emergency = q.emergency) (other : ∀ caller, q'.pc ≠ .allocRbs caller) :
    q.Uncounted := by
  rcases uncounted with emergency | ⟨caller, pc⟩
  · exact .inl (same ▸ emergency)
  · exact absurd pc (other caller)

/-- A step between plain places that leaves the lists alone. -/
theorem Rxq.Ok.plain_step {q' : Rxq} (ok : q.Ok) (plain : q.pc.plain = true)
    (plain' : q'.pc.plain = true) (same : q.SameLists q') (stays : q'.Uncounted → q.Uncounted) :
    q'.Ok ∧ HandleDelta sh sh q q' := by
  obtain ⟨rxFree, rxUsed, freeCount, usedCount, handed, claimed⟩ := same
  have supplied := ok.supplied
  rw [requests_of_plain plain] at supplied
  refine ⟨ok_of_plain plain' ?_ ?_ ?_ ?_ ?_, ?_, ?_, ?_, ?_, Nat.le_refl _, fun empty => empty⟩
  · rw [freeCount, rxFree]
    exact ok.freeCount
  · rw [usedCount, claimed, handed, rxUsed]
    exact ok.counted
  · rw [usedCount, claimed, handed]
    exact fun uncounted => ok.uncounted (stays uncounted)
  · rw [usedCount, claimed, handed]
    exact supplied
  · rw [rxUsed]
    exact ok.noPages
  · intro w
    rw [Rxq.weight, Rxq.weight, inHand_of_plain plain, inHand_of_plain plain', rxFree, rxUsed]
  · rw [getting_of_plain plain, getting_of_plain plain']
  · rw [getting_of_plain plain, getting_of_plain plain', requests_of_plain plain,
      requests_of_plain plain', usedCount]
  · rw [claimed, handed]

/-- The used descriptors are moved to the allocator, from a plain place or before a
request. -/
theorem Rxq.Ok.move_step {q' : Rxq} (ok : q.Ok) (plain : q.pc.plain = true)
    (plain' : q'.pc.plain = true) (same : q.movedToAllocator.SameLists q') :
    q'.Ok ∧ HandleDelta sh (sh.moveToAllocator q) q q' := by
  obtain ⟨rxFree, rxUsed, freeCount, usedCount, handed, claimed⟩ := same
  have supplied := ok.supplied
  have counted := ok.counted
  rw [requests_of_plain plain] at supplied
  simp only [Rxq.movedToAllocator] at rxFree rxUsed freeCount usedCount handed claimed
  refine ⟨ok_of_plain plain' ?_ ?_ ?_ ?_ ?_, ?_, ?_, ?_, ?_, Nat.le_refl _, fun empty rxb => ?_⟩
  · rw [freeCount, rxFree]
    exact ok.freeCount
  · rw [usedCount, claimed, handed, rxUsed]
    exact counted
  · rw [usedCount, claimed, handed]
    exact fun _ => counted
  · rw [usedCount, claimed, handed]
    omega
  · rw [rxUsed]
    exact fun _ member => absurd member List.not_mem_nil
  · intro w
    rw [Rxq.weight, Rxq.weight, inHand_of_plain plain, inHand_of_plain plain', rxFree, rxUsed]
    simp only [RxShared.moveToAllocator, weighVid_append, weighVid_nil]
    omega
  · rw [getting_of_plain plain, getting_of_plain plain']
    rfl
  · rw [getting_of_plain plain, getting_of_plain plain', requests_of_plain plain,
      requests_of_plain plain', usedCount]
    rfl
  · rw [claimed, handed]
    simp only [RxShared.moveToAllocator, List.length_append]
    omega
  · simp only [RxShared.moveToAllocator, List.mem_append]
    rintro (before | used)
    · exact empty rxb before
    · exact ok.noPages rxb used

/-- The next descriptor is taken from the ring, or there is none. -/
theorem Rxq.Ok.take_step (ok : q.Ok) (pc : q.pc = .take) :
    (handleStep size env sh q).2.Ok ∧
      HandleDelta sh (handleStep size env sh q).1 q (handleStep size env sh q).2 := by
  have plain : q.pc.plain = true := by rw [pc]; rfl
  unfold handleStep
  rw [pc]
  dsimp only
  split
  · exact ok.plain_step plain rfl ⟨rfl, rfl, rfl, rfl, rfl, rfl⟩ fun h => h.of_same rfl nofun
  · rename_i rxb picked
    obtain ⟨within, rfl⟩ := List.getElem?_eq_some_iff.mp picked
    have supplied := ok.supplied
    rw [requests_of_plain plain] at supplied
    refine ⟨⟨ok.freeCount, nofun, nofun, nofun, ok.counted,
      fun h => ok.uncounted (h.of_same rfl nofun), supplied, ok.noPages⟩,
      ⟨fun w => ?_, ?_, ?_, rfl, Nat.le_refl _, fun empty => empty⟩⟩
    · have taken := weigh_eraseIdx (fun rxb => w rxb.vid) sh.hw env.pick within
      unfold Rxq.weight
      rw [inHand_of_plain plain]
      simp only [Rxq.inHand, weighVid_cons, weighVid_nil]
      unfold weighVid
      omega
    · rw [getting_of_plain plain]
      rfl
    · rw [getting_of_plain plain, requests_of_plain plain]
      rfl

/-- The descriptor in hand keeps its page and is free, or is used. -/
theorem Rxq.Ok.handle_step (ok : q.Ok) {rxb : RxMemBuffer} (pc : q.pc = .handle rxb) :
    (q.handleRb rxb env).Ok ∧ HandleDelta sh sh q (q.handleRb rxb env) := by
  have requests : q.requests = (q.usedCount + 6) / 8 := by simp [Rxq.requests, pc]
  have weighed : ∀ w, q.weight w = weighVid w q.rxFree + weighVid w q.rxUsed + w rxb.vid := by
    intro w
    rw [Rxq.weight, Rxq.inHand, pc, weighVid_cons, weighVid_nil]
    rfl
  have getting : q.getting = 0 := by simp [Rxq.getting, pc]
  have supplied := ok.supplied
  have counted := ok.counted
  rw [requests] at supplied
  have noPages : ∀ used ∈ q.rxUsed ++ [{ rxb with page := false }], used.page = false := by
    intro used member
    rcases List.mem_append.mp member with before | last
    · exact ok.noPages used before
    · rw [List.mem_singleton.mp last]
  unfold Rxq.handleRb
  split
  · refine ⟨ok_of_plain rfl ?_ counted (fun h => ok.uncounted (h.of_same rfl nofun)) supplied
      ok.noPages,
      ⟨fun w => ?_, ?_, ?_, rfl, Nat.le_refl _, fun empty => empty⟩⟩
    · simp [ok.freeCount]
    · rw [weighed, Rxq.weight, inHand_of_plain rfl]
      simp only [weighVid_append, weighVid_cons, weighVid_nil]
      omega
    · rw [getting]
      rfl
    · rw [getting, requests]
      rfl
  · have weight : ∀ w, weighVid w q.rxFree +
        weighVid w (q.rxUsed ++ [{ rxb with page := false }]) + weighVid w [] = q.weight w := by
      intro w
      simp only [weighed, weighVid_append, weighVid_cons, weighVid_nil]
      omega
    have length : (q.rxUsed ++ [{ rxb with page := false }]).length = q.rxUsed.length + 1 := by
      simp
    unfold Rxq.reuseRbd
    dsimp only
    by_cases emergency : q.emergency = true
    · rw [if_pos emergency]
      refine ⟨ok_of_plain rfl ok.freeCount ?_ (fun h => ok.uncounted (h.of_same rfl nofun))
        supplied noPages, ⟨fun w => ?_, ?_, ?_, rfl, Nat.le_refl _, fun empty => empty⟩⟩
      · dsimp only
        omega
      · rw [← weight w]
        rfl
      · rw [getting]
        rfl
      · rw [getting, requests]
        rfl
    · rw [if_neg emergency, rxClaimReqAlloc, rxPostReqAlloc]
      have counting : ∀ {q' : Rxq}, q'.emergency = q.emergency →
          (∀ caller, q'.pc ≠ .allocRbs caller) → ¬q'.Uncounted := by
        rintro q' same other (h | ⟨caller, h⟩)
        · exact emergency (same ▸ h)
        · exact other caller h
      by_cases full : (q.usedCount + 1) % 8 = 2
      · rw [if_pos full]
        refine ⟨⟨ok.freeCount, fun _ => ⟨full, by simpa using emergency⟩, nofun, nofun, ?_,
          fun h => absurd h (counting rfl nofun), ?_, noPages⟩,
          ⟨fun w => ?_, ?_, ?_, rfl, Nat.le_refl _, fun empty => empty⟩⟩
        · dsimp only
          omega
        · simp only [Rxq.requests, true_or, if_true]
          omega
        · rw [← weight w]
          rfl
        · rw [getting]
          rfl
        · rw [getting, requests]
          simp only [Rxq.requests, Rxq.getting, true_or, if_true, reduceCtorEq, if_false]
          omega
      · rw [if_neg full]
        have same : (q.usedCount + 1 + 6) / 8 = (q.usedCount + 6) / 8 := by omega
        refine ⟨ok_of_plain rfl ok.freeCount ?_ (fun h => absurd h (counting rfl nofun)) ?_ noPages,
          ⟨fun w => ?_, ?_, ?_, rfl, Nat.le_refl _, fun empty => empty⟩⟩
        · dsimp only
          omega
        · dsimp only
          rw [same]
          exact supplied
        · rw [← weight w]
          rfl
        · rw [getting]
          rfl
        · rw [getting, requests, ← same]
          rfl

/-- The used descriptors are moved to the allocator before the request is posted. -/
theorem Rxq.Ok.moving_step (ok : q.Ok) (pc : q.pc = .move) :
    Rxq.Ok { q.movedToAllocator with pc := .post } ∧
      HandleDelta sh (sh.moveToAllocator q) q { q.movedToAllocator with pc := .post } := by
  have supplied := ok.supplied
  have counted := ok.counted
  have requests : q.requests = (q.usedCount + 6) / 8 - 1 := by simp [Rxq.requests, pc]
  rw [requests] at supplied
  refine ⟨⟨ok.freeCount, fun _ => ok.requesting (.inl pc), fun _ => counted, nofun, ?_,
    fun _ => counted, ?_, nofun⟩, ⟨fun w => ?_, ?_, ?_, ?_, Nat.le_refl _, fun empty rxb => ?_⟩⟩
  · exact counted
  · simp only [Rxq.requests, Rxq.movedToAllocator, or_true, if_true]
    omega
  · have inHand : q.inHand = [] := by rw [Rxq.inHand, pc]
    rw [Rxq.weight, Rxq.weight, inHand]
    simp only [RxShared.moveToAllocator, Rxq.movedToAllocator, weighVid_append, weighVid_nil,
      Rxq.inHand]
    omega
  · simp [Rxq.getting, pc, RxShared.moveToAllocator]
  · rw [requests]
    simp [Rxq.getting, pc, RxShared.moveToAllocator, Rxq.requests, Rxq.movedToAllocator]
  · simp only [RxShared.moveToAllocator, Rxq.movedToAllocator, List.length_append]
    omega
  · simp only [RxShared.moveToAllocator, List.mem_append]
    rintro (before | used)
    · exact empty rxb before
    · exact ok.noPages rxb used

/-- The request is posted. -/
theorem Rxq.Ok.post_step (ok : q.Ok) (pc : q.pc = .post) :
    Rxq.Ok { q with pc := .claim } ∧
      HandleDelta sh { sh with rba := { sh.rba with reqPending := sh.rba.reqPending + 1 } } q
        { q with pc := .claim } := by
  have posted := ok.posting pc
  have full := (ok.requesting (.inr pc)).1
  have requests : q.requests = (q.usedCount + 6) / 8 - 1 := by simp [Rxq.requests, pc]
  have inHand : q.inHand = [] := by rw [Rxq.inHand, pc]
  refine ⟨ok_of_plain rfl ok.freeCount ok.counted (fun _ => posted) ?_ ok.noPages,
    ⟨fun w => ?_, ?_, ?_, rfl, Nat.le_succ _, fun empty => empty⟩⟩
  · dsimp only
    omega
  · rw [Rxq.weight, Rxq.weight, inHand]
    rfl
  · simp [Rxq.getting, pc]
  · rw [requests, requests_of_plain rfl, getting_of_plain rfl]
    simp only [Rxq.getting, pc, reduceCtorEq, if_false]
    omega

/-- A ready request is taken, or there is none to claim. -/
theorem Rxq.Ok.claim_step (ok : q.Ok) (pc : q.pc = .claim) :
    (handleStep size env sh q).2.Ok ∧
      HandleDelta sh (handleStep size env sh q).1 q (handleStep size env sh q).2 := by
  have plain : q.pc.plain = true := by rw [pc]; rfl
  have supplied := ok.supplied
  rw [requests_of_plain plain] at supplied
  unfold handleStep
  rw [pc]
  dsimp only
  split
  · rename_i ready
    obtain ⟨enough, positive⟩ := ready
    refine ⟨⟨ok.freeCount, nofun, nofun, fun _ => enough, ok.counted,
      fun h => ok.uncounted (h.of_same rfl nofun), supplied, ok.noPages⟩,
      ⟨fun w => ?_, ?_, ?_, rfl, Nat.le_refl _, fun empty => empty⟩⟩
    · rw [Rxq.weight, Rxq.weight, inHand_of_plain plain]
      rfl
    · rw [getting_of_plain plain]
      simp only [Rxq.getting, if_true]
      omega
    · rw [getting_of_plain plain, requests_of_plain plain]
      simp only [Rxq.getting, Rxq.requests, if_true, reduceCtorEq, or_self, if_false]
      omega
  · exact ok.plain_step plain rfl ⟨rfl, rfl, rfl, rfl, rfl, rfl⟩ fun h => h.of_same rfl nofun

/-- The descriptors of the request are taken from the allocator. -/
theorem Rxq.Ok.get_step (ok : q.Ok) (pc : q.pc = .get)
    (held : 8 ≤ sh.rba.rbdAllocated.length) :
    (handleStep size env sh q).2.Ok ∧
      HandleDelta sh (handleStep size env sh q).1 q (handleStep size env sh q).2 := by
  have enough := ok.getting pc
  have counted := ok.counted
  have supplied := ok.supplied
  have requests : q.requests = (q.usedCount + 6) / 8 := by simp [Rxq.requests, pc]
  have inHand : q.inHand = [] := by rw [Rxq.inHand, pc]
  have getting : q.getting = 1 := by simp [Rxq.getting, pc]
  have length : (sh.rba.rbdAllocated.take 8).length = 8 := List.length_take_of_le held
  rw [requests] at supplied
  unfold handleStep
  rw [pc]
  dsimp only [Rxq.allocatorGot, rxClaimReqAlloc]
  refine ⟨ok_of_plain rfl ?_ ?_ (fun h => ?_) ?_ ok.noPages,
    ⟨fun w => ?_, ?_, ?_, ?_, Nat.le_refl _, fun empty => empty⟩⟩
  · simp only [List.length_append, List.length_reverse, ok.freeCount, length]
    omega
  · dsimp only
    omega
  · have before := ok.uncounted (h.of_same rfl nofun)
    dsimp only
    omega
  · dsimp only
    omega
  · have split := weighVid_take_add_drop w 8 sh.rba.rbdAllocated
    rw [Rxq.weight, Rxq.weight, inHand, inHand_of_plain rfl, weighVid_append, weighVid_reverse]
    dsimp only
    omega
  · rw [getting, getting_of_plain rfl]
    simp only [List.length_drop]
    omega
  · rw [getting, getting_of_plain rfl, requests, requests_of_plain rfl]
    dsimp only
    omega
  · simp only [List.length_drop, length]
    omega

/-- A used descriptor gets a page, or not. -/
theorem Rxq.Ok.alloc_step (ok : q.Ok) {caller : RefillCaller} (pc : q.pc = .allocRbs caller) :
    (q.allocRbs caller env).Ok ∧ HandleDelta sh sh q (q.allocRbs caller env) := by
  have plain : q.pc.plain = true := by rw [pc]; rfl
  have before : q.Uncounted := .inr ⟨caller, pc⟩
  unfold Rxq.allocRbs
  split
  · exact ok.plain_step plain rfl ⟨rfl, rfl, rfl, rfl, rfl, rfl⟩ fun _ => before
  · rename_i rxb rest used
    split
    · exact ok.plain_step plain rfl ⟨rfl, rfl, rfl, rfl, rfl, rfl⟩ fun _ => before
    · split
      · refine ok.plain_step plain rfl ⟨rfl, ?_, rfl, rfl, rfl, rfl⟩ fun _ => before
        have page := ok.noPages rxb (by rw [used]; exact List.mem_cons_self)
        rw [used, ← page]
      · have counted := ok.uncounted before
        have supplied := ok.supplied
        have freeCount := ok.freeCount
        rw [requests_of_plain plain] at supplied
        refine ⟨ok_of_plain (by exact plain) ?_ ?_ (fun _ => counted) supplied fun other member => ?_,
          ⟨fun w => ?_, ?_, ?_, rfl, Nat.le_refl _, fun empty => empty⟩⟩
        · simp only [List.length_append, List.length_singleton, freeCount]
        · dsimp only
          omega
        · exact ok.noPages other (by rw [used]; exact List.mem_cons_of_mem _ member)
        · rw [Rxq.weight, Rxq.weight, inHand_of_plain plain,
            inHand_of_plain (by exact plain), used]
          simp only [weighVid_append, weighVid_cons, weighVid_nil]
          omega
        · rw [getting_of_plain plain, getting_of_plain (by exact plain)]
        · rw [getting_of_plain plain, getting_of_plain (by exact plain), requests_of_plain plain,
            requests_of_plain (by exact plain)]

/-- A free descriptor is put on a ring, or the queue is restocked. -/
theorem Rxq.Ok.restock_step (ok : q.Ok) {caller : RefillCaller} (pc : q.pc = .restock caller) :
    (handleStep size env sh q).2.Ok ∧
      HandleDelta sh (handleStep size env sh q).1 q (handleStep size env sh q).2 := by
  have plain : q.pc.plain = true := by rw [pc]; rfl
  have restocked : (q.restocked caller).Ok ∧ HandleDelta sh sh q (q.restocked caller) := by
    cases caller with
    | restart =>
        exact ok.plain_step plain rfl ⟨rfl, rfl, rfl, rfl, rfl, rfl⟩ fun h => h.of_same rfl nofun
    | init | exit =>
        refine ok.plain_step plain rfl ⟨rfl, rfl, rfl, rfl, rfl, rfl⟩ fun h => ?_
        rcases h with emergency | ⟨caller, pc⟩
        · cases emergency
        · cases pc
  have supplied := ok.supplied
  rw [requests_of_plain plain] at supplied
  unfold handleStep
  rw [pc]
  dsimp only
  split
  · rename_i rxb rest free
    split
    · have counted := ok.freeCount
      rw [free, List.length_cons] at counted
      refine ⟨ok_of_plain rfl ?_ ok.counted
        (fun h => ok.uncounted (h.of_same rfl nofun)) supplied ok.noPages,
        ⟨fun w => ?_, ?_, ?_, rfl, Nat.le_refl _, fun empty => empty⟩⟩
      · dsimp only
        omega
      · rw [Rxq.weight, Rxq.weight, inHand_of_plain plain, inHand_of_plain rfl, free]
        simp only [weighVid_append, weighVid_cons, weighVid_nil]
        omega
      · rw [getting_of_plain plain, getting_of_plain rfl]
      · rw [getting_of_plain plain, getting_of_plain rfl, requests_of_plain plain,
          requests_of_plain rfl]
    · exact restocked
  · exact restocked

/-- The handler moves what it should, and its queue stays in order, when the allocator holds
the descriptors of the request it has in hand. -/
theorem handleStep_spec (ok : q.Ok) (held : q.pc = .get → 8 ≤ sh.rba.rbdAllocated.length) :
    (handleStep size env sh q).2.Ok ∧
      HandleDelta sh (handleStep size env sh q).1 q (handleStep size env sh q).2 := by
  cases pc : q.pc with
  | take => exact ok.take_step pc
  | claim => exact ok.claim_step pc
  | get => exact ok.get_step pc (held pc)
  | restock caller => exact ok.restock_step pc
  | handle rxb =>
      rw [handleStep, pc]
      exact ok.handle_step pc
  | move =>
      rw [handleStep, pc]
      exact ok.moving_step pc
  | post =>
      rw [handleStep, pc]
      exact ok.post_step pc
  | allocRbs caller =>
      rw [handleStep, pc]
      exact ok.alloc_step pc
  | idle =>
      rw [handleStep, pc]
      exact ok.plain_step (by rw [pc]; rfl) rfl ⟨rfl, rfl, rfl, rfl, rfl, rfl⟩
        fun h => h.of_same rfl nofun
  | loop =>
      rw [handleStep, pc]
      dsimp only
      split <;> exact ok.plain_step (by rw [pc]; rfl) rfl ⟨rfl, rfl, rfl, rfl, rfl, rfl⟩
        fun h => h.of_same rfl nofun
  | out =>
      rw [handleStep, pc]
      dsimp only
      split
      · rename_i refill
        exact ok.plain_step (by rw [pc]; rfl) rfl ⟨rfl, rfl, rfl, rfl, rfl, rfl⟩
          fun _ => .inl refill.1
      · exact ok.plain_step (by rw [pc]; rfl) rfl ⟨rfl, rfl, rfl, rfl, rfl, rfl⟩
          fun h => h.of_same rfl nofun
  | check =>
      rw [handleStep, pc]
      dsimp only
      split
      · exact ok.move_step (by rw [pc]; rfl) rfl ⟨rfl, rfl, rfl, rfl, rfl, rfl⟩
      · exact ok.plain_step (by rw [pc]; rfl) rfl ⟨rfl, rfl, rfl, rfl, rfl, rfl⟩
          fun h => h.of_same rfl nofun
  | batch =>
      rw [handleStep, pc]
      dsimp only
      split
      · exact ok.move_step (by rw [pc]; rfl) rfl ⟨rfl, rfl, rfl, rfl, rfl, rfl⟩
      · unfold Rxq.countEmergency
        split
        · rename_i emergency
          split <;> exact ok.plain_step (by rw [pc]; rfl) rfl ⟨rfl, rfl, rfl, rfl, rfl, rfl⟩
            fun _ => .inl emergency
        · exact ok.plain_step (by rw [pc]; rfl) rfl ⟨rfl, rfl, rfl, rfl, rfl, rfl⟩
            fun h => h.of_same rfl nofun

end Iwlwifi
