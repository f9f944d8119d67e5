import Iwlwifi.Pcie.Txq

/-!
# Reclaim takes exactly the sent frames

The frames in flight stand in the entries from the read pointer on, as many as there are
positions between the pointers, and always fewer than the window has entries; so the
position that a sequence number names modulo the window is the only one it can mean.  A
reclaim takes the frames before it, in the order in which they were put on the ring.
-/

namespace Iwlwifi

open Lib

variable {Skb : Type} {c : TransConfig} {txq : Txq Skb} {skb : Skb} {env : TxEnv}
  {inflight : List Skb}

/-- The entries that the two generations use are those of the window: the first generation
takes the write pointer as the index, and its window is the whole ring. -/
def TransConfig.Indexed (c : TransConfig) : Prop :=
  c.gen2 = true ∨ c.sizes.nWindow = c.sizes.maxTfdQueueSize

/-- The frames in flight stand in the entries between the pointers, with room to spare. -/
structure InFlight (c : TransConfig) (txq : Txq Skb) (inflight : List Skb) : Prop where
  holds : Holds txq.entries c.sizes.nWindow txq.readPtr inflight
  count : ringDist c.sizes.maxTfdQueueSize txq.readPtr txq.writePtr = inflight.length
  few : inflight.length < c.sizes.nWindow
  onRing : c.gen2 = false → txq.writePtr < c.sizes.maxTfdQueueSize

/-- The frames in flight end at the write pointer, modulo the window. -/
theorem InFlight.write_mod (flight : InFlight c txq inflight) :
    (txq.readPtr + inflight.length) % c.sizes.nWindow = txq.writePtr % c.sizes.nWindow := by
  have arrives := add_ringDist c.sizes.maxTfdQueueSize_pos txq.readPtr txq.writePtr
  rw [flight.count] at arrives
  rw [← c.sizes.mod_mod, arrives, c.sizes.mod_mod]

theorem InFlight.slot_eq (flight : InFlight c txq inflight) (indexed : c.Indexed) :
    c.slot txq.writePtr = (txq.readPtr + inflight.length) % c.sizes.nWindow := by
  rw [flight.write_mod, TransConfig.slot]
  split
  · exact iwlPcieGetCmdIndex_eq _ _
  · rename_i first
    rcases indexed with second | whole
    · exact absurd second first
    · rw [whole, Nat.mod_eq_of_lt (flight.onRing (by simpa using first))]

/-! ## Transmissions -/

theorem two_le_of_not_full (room : ¬QueueFull c.sizes txq) :
    2 ≤ iwlQueueSpace c.sizes txq.readPtr txq.writePtr := by
  have high := two_le_highMark c.sizes
  unfold QueueFull at room
  omega

/-- What a transmission leaves in flight. -/
theorem InFlight.tx {sent : TxResult Skb} (flight : InFlight c txq inflight)
    (indexed : c.Indexed) (outcome : TxOutcome c txq skb env sent) :
    InFlight c sent.txq (inflight ++ if sent.onRing then [skb] else []) := by
  cases outcome with
  | refused ret failed reason => simpa using flight
  | overflowed full =>
      simpa using ⟨flight.holds, flight.count, flight.few, flight.onRing⟩
  | unbuilt room reason =>
      have other : ∀ i < inflight.length,
          (txq.readPtr + i) % c.sizes.nWindow ≠ c.slot txq.writePtr := by
        intro i before same
        rw [flight.slot_eq indexed] at same
        have := eq_of_add_mod (Nat.lt_trans before flight.few) flight.few same
        omega
      simpa using ⟨flight.holds.update_of_ne other, flight.count, flight.few, flight.onRing⟩
  | placed room =>
      have few := count_of_two_le_space c.sizes (two_le_of_not_full room)
      have next := ringDist_succ (Nat.lt_of_lt_of_le few c.sizes.nWindow_le)
      refine ⟨?_, ?_, ?_, ?_⟩
      · dsimp only
        rw [flight.slot_eq indexed, if_pos rfl]
        exact flight.holds.push flight.few skb
      · dsimp only
        rw [iwlQueueIncWrap_eq, next, flight.count]
        simp
      · rw [flight.count] at few
        simpa using few
      · intro _
        dsimp only
        rw [iwlQueueIncWrap_eq]
        exact Nat.mod_lt _ c.sizes.maxTfdQueueSize_pos

/-- The frames of the overflow queue that were put on the ring are in flight after the
others. -/
theorem InFlight.txOverflow (indexed : c.Indexed) (env : Skb → TxEnv) (skbs : List Skb)
    (flight : InFlight c txq inflight) :
    InFlight c (txOverflow c env txq skbs).1 (inflight ++ (txOverflow c env txq skbs).2) := by
  induction skbs generalizing txq inflight with
  | nil => simpa [Iwlwifi.txOverflow] using flight
  | cons skb rest ih =>
      have sent := flight.tx indexed (iwlTransTx_outcome c txq skb (env skb))
      simpa only [Iwlwifi.txOverflow, List.append_assoc] using ih sent

theorem InFlight.restart (indexed : c.Indexed) (env : Skb → TxEnv)
    (flight : InFlight c txq inflight) :
    InFlight c (restartOverflow c env txq).1 (inflight ++ (restartOverflow c env txq).2) := by
  unfold restartOverflow
  split
  · have emptied : InFlight c { txq with overflowQ := [] } inflight :=
      ⟨flight.holds, flight.count, flight.few, flight.onRing⟩
    have sent := emptied.txOverflow indexed env txq.overflowQ
    dsimp only
    split
    · exact ⟨sent.holds, sent.count, sent.few, sent.onRing⟩
    · exact sent
  · simpa using flight

/-! ## Reclaims -/

/-- A queue with the first `k` frames taken off. -/
def Txq.freed (q : QueueSizes) (txq : Txq Skb) (k : Nat) : Txq Skb :=
  { txq with
    readPtr := (txq.readPtr + k) % q.maxTfdQueueSize
    entries := clear txq.entries q.nWindow txq.readPtr k }

/-- The loop takes the frames before the entry it runs to. -/
theorem reclaimEntries_eq (q : QueueSizes) (first rest : List Skb) {tfdNum fuel : Nat}
    {skbs : List Skb}
    (holds : Holds txq.entries q.nWindow txq.readPtr (first ++ rest))
    (room : (first ++ rest).length ≤ q.nWindow) (enough : first.length ≤ fuel)
    (before : ∀ i < first.length, (txq.readPtr + i) % q.nWindow ≠ tfdNum)
    (arrives : (txq.readPtr + first.length) % q.nWindow = tfdNum) :
    reclaimEntries q tfdNum fuel txq skbs =
      (if first = [] then txq else txq.freed q first.length, skbs ++ first) := by
  induction first generalizing txq fuel skbs with
  | nil =>
      have stop : txq.readPtr % q.nWindow = tfdNum := arrives
      cases fuel with
      | zero => simp [reclaimEntries]
      | succ fuel => simp [reclaimEntries, stop]
  | cons skb first ih =>
      rw [List.length_cons] at enough before arrives
      obtain ⟨fuel, rfl⟩ : ∃ n, fuel = n + 1 := ⟨fuel - 1, by omega⟩
      have goOn : txq.readPtr % q.nWindow ≠ tfdNum := before 0 (Nat.zero_lt_succ _)
      have next : (txq.readPtr + 1) % q.maxTfdQueueSize % q.nWindow =
          (txq.readPtr + 1) % q.nWindow := q.mod_mod _
      have shift : ∀ i, ((txq.readPtr + 1) % q.maxTfdQueueSize + i) % q.nWindow =
          (txq.readPtr + (i + 1)) % q.nWindow := by
        intro i
        rw [Nat.ModEq.add_right i next, Nat.add_assoc, Nat.add_comm 1 i]
      rw [reclaimEntries]
      simp only [iwlPcieGetCmdIndex_eq, iwlQueueIncWrap_eq, goOn, if_false, holds.head]
      rw [ih]
      · simp only [Txq.freed, List.length_cons, reduceCtorEq, if_false, List.append_assoc,
          List.singleton_append, Prod.mk.injEq, and_true, ← clear_succ, clear_congr next,
          Nat.mod_add_mod]
        split
        · rename_i last
          subst last
          simp [clear_zero]
        · simp [Nat.add_assoc, Nat.add_comm 1]
      · exact (holds.tail room).congr next
      · simp only [List.cons_append, List.length_cons] at room
        omega
      · omega
      · intro i less
        rw [shift]
        exact before (i + 1) (by omega)
      · rw [shift]
        exact arrives

/-- The queue after the frames before a position were taken off holds the others. -/
theorem InFlight.freed {first rest : List Skb} (flight : InFlight c txq (first ++ rest)) :
    InFlight c (txq.freed c.sizes first.length) rest := by
  have few := flight.few
  have count := flight.count
  rw [List.length_append] at few count
  refine ⟨?_, ?_, ?_, flight.onRing⟩
  · exact (flight.holds.clear (Nat.le_of_lt flight.few)).congr (c.sizes.mod_mod _)
  · dsimp only [Txq.freed]
    rw [ringDist_add c.sizes.maxTfdQueueSize_pos (by omega), count]
    omega
  · omega

/-- The positions that a reclaim takes off: from the read pointer up to the first that is
congruent to `ssn`. -/
def Before (q : QueueSizes) (txq : Txq Skb) (ssn k : Nat) : Prop :=
  0 < k ∧ (txq.readPtr + k) % q.nWindow = ssn % q.nWindow ∧
    ∀ i < k, (txq.readPtr + i) % q.nWindow ≠ ssn % q.nWindow

/-- Either nothing changes, or the frames of the positions up to the first that is congruent
to `ssn` are returned in order, all before the write pointer, and exactly their entries are
cleared; the rest is the transmission of the overflow queue from there. -/
def ReclaimExact (c : TransConfig) (txq : Txq Skb) (ssn : Nat) (env : Skb → TxEnv) : Prop :=
  let freed := iwlTransPcieReclaim c txq ssn [] env
  freed = ⟨txq, [], []⟩ ∨
    ∃ k, Before c.sizes txq ssn k ∧
      k ≤ ringDist c.sizes.maxTfdQueueSize txq.readPtr txq.writePtr ∧
      freed.skbs.length = k ∧
      (∀ i (before : i < freed.skbs.length),
        txq.entries ((txq.readPtr + i) % c.sizes.nWindow) = some freed.skbs[i]) ∧
      (freed.txq, freed.onRing) = restartOverflow c env (txq.freed c.sizes k)

/-- The frames end at the write pointer, counted modulo the window. -/
theorem InFlight.ends (flight : InFlight c txq inflight) :
    ringDist c.sizes.nWindow txq.readPtr txq.writePtr = inflight.length :=
  ringDist_eq flight.few flight.write_mod

/-- The entry before the one of `ssn` is used when `ssn` is not beyond the write pointer. -/
theorem InFlight.last_used_iff (flight : InFlight c txq inflight) {ssn : Nat}
    (away : 0 < ringDist c.sizes.nWindow txq.readPtr ssn) :
    iwlQueueUsed c.sizes txq.readPtr txq.writePtr
        (iwlQueueDecWrap c.sizes (ssn % c.sizes.nWindow)) = true ↔
      ringDist c.sizes.nWindow txq.readPtr ssn ≤ inflight.length := by
  have room := c.sizes.nWindow_pos
  have less := ringDist_lt (a := txq.readPtr) (b := ssn) room
  have last : ringDist c.sizes.nWindow txq.readPtr
        (iwlQueueDecWrap c.sizes (ssn % c.sizes.nWindow)) =
      ringDist c.sizes.nWindow txq.readPtr ssn - 1 := by
    refine ringDist_eq (by omega) (Nat.ModEq.add_right_cancel' 1 ?_)
    have next := iwlQueueDecWrap_mod c.sizes (ssn % c.sizes.nWindow)
    rw [Nat.ModEq, next, Nat.mod_mod, Nat.add_assoc, Nat.sub_add_cancel away,
      add_ringDist room]
  rw [iwlQueueUsed_iff, last, flight.ends]
  omega

/-- A position beyond the read pointer that is not beyond the write pointer is the one that
its residue modulo the window names. -/
theorem before_iff (q : QueueSizes) {ssn k : Nat} (small : k < q.nWindow) :
    Before q txq ssn k ↔ 0 < k ∧ ringDist q.nWindow txq.readPtr ssn = k := by
  have arrives := add_ringDist q.nWindow_pos txq.readPtr ssn
  constructor
  · exact fun before => ⟨before.1, ringDist_eq small before.2.1⟩
  · rintro ⟨away, rfl⟩
    refine ⟨away, arrives, fun i earlier same => ?_⟩
    have := eq_of_add_mod (Nat.lt_trans earlier small) small (same.trans arrives.symm)
    omega

/-- What a reclaim does when it takes frames off. -/
theorem reclaim_of_before {ssn : Nat} {first rest : List Skb}
    (flight : InFlight c txq (first ++ rest)) (before : Before c.sizes txq ssn first.length)
    (used : txq.queueUsed = true) (env : Skb → TxEnv) :
    iwlTransPcieReclaim c txq ssn [] env =
      ⟨(restartOverflow c env (txq.freed c.sizes first.length)).1, first,
        (restartOverflow c env (txq.freed c.sizes first.length)).2⟩ := by
  have few := flight.few
  have within : first.length ≤ (first ++ rest).length := by simp
  have distance := (before_iff c.sizes (Nat.lt_of_le_of_lt within few)).mp before
  have last : iwlQueueUsed c.sizes txq.readPtr txq.writePtr
      (iwlQueueDecWrap c.sizes (ssn % c.sizes.nWindow)) = true := by
    rw [flight.last_used_iff (by omega)]
    omega
  have apart : ¬txq.readPtr % c.sizes.nWindow = ssn % c.sizes.nWindow :=
    before.2.2 0 before.1
  have filled : first ≠ [] := by
    rw [← List.length_pos_iff]
    exact before.1
  unfold iwlTransPcieReclaim
  rw [iwlPcieGetCmdIndex_eq, iwlPcieGetCmdIndex_eq]
  dsimp only
  rw [used, if_neg (by decide), if_neg apart, last, if_neg (by decide), if_neg (by simp),
    reclaimEntries_eq c.sizes first rest flight.holds (Nat.le_of_lt few) (by omega)
      before.2.2 before.2.1, if_neg filled, List.nil_append]

/-- A reclaim changes nothing, or takes off the frames before the position of `ssn`. -/
theorem iwlTransPcieReclaim_cases (flight : InFlight c txq inflight) (ssn : Nat)
    (env : Skb → TxEnv) :
    iwlTransPcieReclaim c txq ssn [] env = ⟨txq, [], []⟩ ∨
      ∃ first rest, inflight = first ++ rest ∧
        Before c.sizes txq ssn first.length ∧ txq.queueUsed = true := by
  unfold iwlTransPcieReclaim
  rw [iwlPcieGetCmdIndex_eq, iwlPcieGetCmdIndex_eq]
  dsimp only
  split
  · exact .inl rfl
  · rename_i used
    split
    · exact .inl rfl
    · rename_i apart
      split
      · exact .inl rfl
      · rename_i last
        refine .inr ?_
        have arrives := add_ringDist c.sizes.nWindow_pos txq.readPtr ssn
        have away : 0 < ringDist c.sizes.nWindow txq.readPtr ssn := by
          refine Nat.pos_of_ne_zero fun zero => apart ?_
          rwa [zero, Nat.add_zero] at arrives
        rw [Bool.not_eq_true', Bool.not_eq_false, flight.last_used_iff away] at last
        have size := List.length_take_of_le last
        refine ⟨inflight.take (ringDist c.sizes.nWindow txq.readPtr ssn), _,
          (List.take_append_drop _ inflight).symm, ?_, by simpa using used⟩
        rw [size, before_iff c.sizes (Nat.lt_of_le_of_lt last flight.few)]
        exact ⟨away, rfl⟩

/-- What a reclaim leaves in flight, and that it is exact. -/
theorem InFlight.reclaim (flight : InFlight c txq inflight) (indexed : c.Indexed) (ssn : Nat)
    (env : Skb → TxEnv) :
    ReclaimExact c txq ssn env ∧
      ∃ rest, inflight = (iwlTransPcieReclaim c txq ssn [] env).skbs ++ rest ∧
        InFlight c (iwlTransPcieReclaim c txq ssn [] env).txq
          (rest ++ (iwlTransPcieReclaim c txq ssn [] env).onRing) := by
  rcases iwlTransPcieReclaim_cases flight ssn env with
    unchanged | ⟨first, rest, whole, before, used⟩
  · refine ⟨.inl unchanged, inflight, ?_⟩
    rw [unchanged]
    exact ⟨rfl, by simpa using flight⟩
  · subst whole
    have count := flight.count
    have taken := reclaim_of_before flight before used env
    rw [List.length_append] at count
    refine ⟨.inr ⟨first.length, before, by omega, ?_⟩, rest, ?_⟩
    · rw [taken]
      refine ⟨rfl, fun i earlier => ?_, rfl⟩
      rw [flight.holds i (by rw [List.length_append]; exact Nat.lt_add_right _ earlier)]
      exact congrArg some (List.getElem_append_left earlier)
    · rw [taken]
      exact ⟨rfl, flight.freed.restart indexed env⟩

/-! ## Runs -/

/-- The frames that were put on the ring are those that were reclaimed and, after them,
those in flight. -/
def Accounted (c : TransConfig) (s : TxRun Skb) : Prop :=
  ∃ inflight, s.entered = s.reclaimed ++ inflight ∧ InFlight c s.txq inflight

/-- The pointers are set on an empty queue, and to a position of the ring where the entries are
indexed by the write pointer itself. -/
def SetsOnEmpty (c : TransConfig) (s : TxRun Skb) : TxEvent Skb → Prop
  | .setQPtrs ptr =>
      s.txq.readPtr = s.txq.writePtr ∧ (c.gen2 = false → ptr < c.sizes.maxTfdQueueSize)
  | _ => True

theorem accounted_init (c : TransConfig) (queueUsed : Bool) :
    Accounted c (TxRun.init queueUsed : TxRun Skb) := by
  refine ⟨[], rfl, Holds.nil, ?_, c.sizes.nWindow_pos, fun _ => c.sizes.maxTfdQueueSize_pos⟩
  exact ringDist_eq c.sizes.maxTfdQueueSize_pos rfl

theorem Accounted.tx {s : TxRun Skb} (accounted : Accounted c s) (indexed : c.Indexed)
    (skb : Skb) (env : TxEnv) : Accounted c (s.tx c skb env) := by
  obtain ⟨inflight, entered, flight⟩ := accounted
  refine ⟨_, ?_, flight.tx indexed (iwlTransTx_outcome c s.txq skb env)⟩
  simp only [TxRun.tx, entered, List.append_assoc]

theorem Accounted.reclaim {s : TxRun Skb} (accounted : Accounted c s) (indexed : c.Indexed)
    (ssn : Nat) (env : Skb → TxEnv) : Accounted c (s.reclaim c ssn env) := by
  obtain ⟨inflight, entered, flight⟩ := accounted
  obtain ⟨-, rest, whole, after⟩ := flight.reclaim indexed ssn env
  refine ⟨_, ?_, after⟩
  simp only [TxRun.reclaim, entered]
  nth_rewrite 1 [whole]
  simp only [List.append_assoc]

theorem Accounted.step {s : TxRun Skb} (accounted : Accounted c s) (indexed : c.Indexed)
    {event : TxEvent Skb} (sets : SetsOnEmpty c s event) : Accounted c (txStep c s event) := by
  cases event with
  | tx skb env => exact accounted.tx indexed skb env
  | reclaim ssn env => exact accounted.reclaim indexed ssn env
  | setQPtrs ptr =>
      obtain ⟨inflight, entered, flight⟩ := accounted
      obtain ⟨empty, within⟩ := sets
      have none : inflight.length = 0 := by
        rw [← flight.count, empty]
        exact ringDist_eq c.sizes.maxTfdQueueSize_pos rfl
      obtain rfl := List.eq_nil_of_length_eq_zero none
      exact ⟨[], entered, Holds.nil, ringDist_eq c.sizes.maxTfdQueueSize_pos rfl,
        c.sizes.nWindow_pos, within⟩

/-- From every state that a data queue reaches, a reclaim is exact, and no frame that was
put on the ring is ever lost or returned twice. -/
theorem reclaim_exact (c : TransConfig) (indexed : c.Indexed) (queueUsed : Bool)
    (events : List (TxEvent Skb))
    (sets : Admissible (txStep c) (SetsOnEmpty c) (TxRun.init queueUsed) events) (ssn : Nat)
    (env : Skb → TxEnv) :
    ReclaimExact c (events.foldl (txStep c) (TxRun.init queueUsed)).txq ssn env ∧
      Accounted c (events.foldl (txStep c) (TxRun.init queueUsed)) ∧
      Accounted c ((events.foldl (txStep c) (TxRun.init queueUsed)).reclaim c ssn env) := by
  have accounted : Accounted c (events.foldl (txStep c) (TxRun.init queueUsed)) :=
    sets.invariant (fun _ _ holds => holds.step indexed) (accounted_init c queueUsed)
  refine ⟨?_, accounted, accounted.reclaim indexed ssn env⟩
  obtain ⟨inflight, -, flight⟩ := accounted
  exact (flight.reclaim indexed ssn env).1

/-- A transmission that meets nothing in its way. -/
def clearWay : TxEnv := ⟨true, true, true, true⟩

/-- A frame on a wrapped second-generation ring of 8 entries over 16 descriptors, whose pointers
were set beyond the ring. -/
def wrappedEvents : List (TxEvent Nat) :=
  [.setQPtrs 31, .tx 1 clearWay, .tx 2 clearWay, .reclaim 16 fun _ => clearWay]

theorem reclaim_exact_wrapped :
    ReclaimExact ⟨.ofLog 3 4 (by decide), true⟩
        (wrappedEvents.foldl (txStep ⟨.ofLog 3 4 (by decide), true⟩) (TxRun.init true)).txq 17
        (fun _ => clearWay) ∧
      Accounted ⟨.ofLog 3 4 (by decide), true⟩
        (wrappedEvents.foldl (txStep ⟨.ofLog 3 4 (by decide), true⟩) (TxRun.init true)) ∧
      Accounted ⟨.ofLog 3 4 (by decide), true⟩
        ((wrappedEvents.foldl (txStep ⟨.ofLog 3 4 (by decide), true⟩)
          (TxRun.init true)).reclaim ⟨.ofLog 3 4 (by decide), true⟩ 17 (fun _ => clearWay)) :=
  reclaim_exact ⟨.ofLog 3 4 (by decide), true⟩ (.inl rfl) true wrappedEvents
    ⟨⟨rfl, nofun⟩, trivial, trivial, trivial, trivial⟩ 17 fun _ => clearWay

/-- A first-generation queue whose window is smaller than the ring. -/
def narrowConfig : TransConfig := ⟨.ofLog 6 8 (by decide), false⟩

/-- A first-generation queue whose window is the whole ring. -/
def wholeConfig : TransConfig := ⟨.ofLog 3 3 (by decide), false⟩

/-- The frame on position 100 is written to the entry 100, and reclaimed from the entry 36. -/
def narrowEvents : List (TxEvent Nat) := [.setQPtrs 100, .tx 1 clearWay]

/-- The frame on position 9 is written to the entry 9, and reclaimed from the entry 1. -/
def beyondEvents : List (TxEvent Nat) := [.setQPtrs 9, .tx 1 clearWay]

/-- A reclaim that moves on without a frame is not exact. -/
theorem not_exact_of_lost {txq : Txq Skb} {ssn : Nat} {env : Skb → TxEnv}
    (lost : (iwlTransPcieReclaim c txq ssn [] env).skbs = [])
    (moved : (iwlTransPcieReclaim c txq ssn [] env).txq.readPtr ≠ txq.readPtr) :
    ¬ReclaimExact c txq ssn env := by
  rintro (unchanged | ⟨k, before, -, taken, -⟩)
  · exact moved (by rw [unchanged])
  · rw [lost] at taken
    exact absurd before.1 (by rw [← taken]; exact Nat.lt_irrefl 0)

/-- Neither a window smaller than the ring nor, on the first generation, pointers beyond the ring
can be left in. -/
theorem reclaim_not_exact_narrow :
    (¬∀ (c : TransConfig) (queueUsed : Bool) (events : List (TxEvent Nat)),
      Admissible (txStep c) (SetsOnEmpty c) (TxRun.init queueUsed) events → ∀ ssn env,
        ReclaimExact c (events.foldl (txStep c) (TxRun.init queueUsed)).txq ssn env) ∧
    ¬∀ (c : TransConfig), c.Indexed → ∀ (queueUsed : Bool) (events : List (TxEvent Nat)),
      Admissible (txStep c)
        (fun s event => ∀ ptr, event = .setQPtrs ptr → s.txq.readPtr = s.txq.writePtr)
        (TxRun.init queueUsed) events → ∀ ssn env,
        ReclaimExact c (events.foldl (txStep c) (TxRun.init queueUsed)).txq ssn env := by
  constructor
  · intro claimed
    exact not_exact_of_lost (by decide +kernel) (by decide +kernel)
      (claimed narrowConfig true narrowEvents ⟨⟨rfl, fun _ => by decide⟩, trivial, trivial⟩ 101
        fun _ => clearWay)
  · intro claimed
    exact not_exact_of_lost (by decide +kernel) (by decide +kernel)
      (claimed wholeConfig (.inr rfl) true beyondEvents ⟨fun _ _ => rfl, nofun, trivial⟩ 10
        fun _ => clearWay)

end Iwlwifi
