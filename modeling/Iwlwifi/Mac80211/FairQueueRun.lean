import Mathlib.Algebra.Order.BigOperators.Group.Finset
import Iwlwifi.Lib.Run
import Iwlwifi.Lib.Tally
import Iwlwifi.Mac80211.FairQueue

/-!
# Runs of the fair queues

`Sound` is the invariant: the counters are exact, a flow is on the lists of its tin, a queue is
first in, first out, and the flows that hold frames are listed from the fattest down.
-/

namespace Iwlwifi.FairQueue

open Lib
open Function (update update_self update_of_ne forall_update_iff)

namespace Fq

variable {n : Nat} {τ : Type} [DecidableEq τ] [Fintype τ] {fq fq' : Fq n τ}
  {flows : FlowId n τ → FqFlow τ} {tins : τ → FqTin n τ} {f : FlowId n τ} {flow : FqFlow τ} {t : τ}
  {tin : FqTin n τ} {skb : SkBuff} {queue : List SkBuff} {c c' m m' : Nat}

/-! ## The invariant -/

/-- What a flow adds to a counter of a tin. -/
def share (t : τ) (w : SkBuff → Nat) (flow : FqFlow τ) : Nat :=
  if flow.tin = some t then weigh w flow.queue else 0

/-- The counters; frames weigh one, their length or their `truesize`. -/
structure Counted (flows : FlowId n τ → FqFlow τ) (tins : τ → FqTin n τ) (c m : Nat) : Prop where
  flow : ∀ f, (flows f).backlog = weigh SkBuff.len (flows f).queue
  packets : c = ∑ f, weigh (fun _ => 1) (flows f).queue
  memory : m = ∑ f, weigh SkBuff.truesize (flows f).queue
  tinPackets : ∀ t, (tins t).backlogPackets = ∑ f, share t (fun _ => 1) (flows f)
  tinBytes : ∀ t, (tins t).backlogBytes = ∑ f, share t SkBuff.len (flows f)

/-- A flow is on one list of its tin, and a flow that holds frames has a tin. -/
structure Linked (flows : FlowId n τ → FqFlow τ) (tins : τ → FqTin n τ) : Prop where
  once : ∀ t, (tins t).chain.Nodup
  listed : ∀ t f, f ∈ (tins t).chain ↔ (flows f).tin = some t
  own : ∀ t t', (flows (.default t)).tin = some t' → t' = t
  busy : ∀ f, (flows f).queue ≠ [] → (flows f).tin ≠ none

/-- Frames leave a queue in the order in which they came, and none is lost. -/
def Fifo (flow : FqFlow τ) : Prop := flow.left ++ flow.queue.map SkBuff.id = flow.arrived

structure Kept (fq : Fq n τ) : Prop where
  counted : Counted fq.flows fq.tins fq.backlog fq.memoryUsage
  linked : Linked fq.flows fq.tins
  fifo : ∀ f, Fifo (fq.flows f)

structure Sound (fq : Fq n τ) : Prop extends Kept fq where
  order : Listing (fun f => (fq.flows f).backlog) fq.backlogs

/-! ## One flow changes -/

/-- Flow `f` becomes `flow` and tin `t`, which alone it can be of, becomes `tin`. -/
structure Change (flows : FlowId n τ → FqFlow τ) (tins : τ → FqTin n τ) (t : τ) (f : FlowId n τ)
    (flow : FqFlow τ) (tin : FqTin n τ) : Prop where
  fits : ∀ t', f = .default t' → t' = t
  before : ∀ t', (flows f).tin = some t' → t' = t
  after : ∀ t', flow.tin = some t' → t' = t
  busy : flow.queue ≠ [] → flow.tin ≠ none
  once : tin.chain.Nodup
  others : ∀ g, g ≠ f → (g ∈ tin.chain ↔ g ∈ (tins t).chain)
  listed : f ∈ tin.chain ↔ flow.tin ≠ none
  count : flow.backlog = weigh SkBuff.len flow.queue
  packets : tin.backlogPackets + weigh (fun _ => 1) (flows f).queue =
    (tins t).backlogPackets + weigh (fun _ => 1) flow.queue
  bytes : tin.backlogBytes + weigh SkBuff.len (flows f).queue =
    (tins t).backlogBytes + weigh SkBuff.len flow.queue
  fifo : Fifo flow

omit [Fintype τ] in
/-- What a flow that can be of tin `t` alone adds to the tins. -/
theorem share_eq (only : ∀ t', flow.tin = some t' → t' = t)
    (busy : flow.queue ≠ [] → flow.tin ≠ none) (t' : τ) (w : SkBuff → Nat) :
    share t' w flow = if t' = t then weigh w flow.queue else 0 := by
  rw [share]
  cases chained : flow.tin with
  | none => rw [not_ne_iff.mp fun holds => busy holds chained, weigh_nil, ite_self, ite_self]
  | some s => simp only [only s chained, Option.some.injEq, eq_comm]

theorem Change.counted (change : Change flows tins t f flow tin) (counted : Counted flows tins c m)
    (linked : Linked flows tins)
    (packets : c' + weigh (fun _ => 1) (flows f).queue = c + weigh (fun _ => 1) flow.queue)
    (memory : m' + weigh SkBuff.truesize (flows f).queue = m + weigh SkBuff.truesize flow.queue) :
    Counted (update flows f flow) (update tins t tin) c' m' := by
  have total (w : FqFlow τ → Nat) {c c' : Nat} (was : c = ∑ i, w (flows i))
      (moved : c' + w (flows f) = c + w flow) : c' = ∑ i, w (update flows f flow i) := by
    have := sum_update flows w f flow
    omega
  have tinTotal {c : FqTin n τ → Nat} {w : SkBuff → Nat}
      (was : ∀ t, c (tins t) = ∑ i, share t w (flows i))
      (moved : c tin + weigh w (flows f).queue = c (tins t) + weigh w flow.queue) (t' : τ) :
      c (update tins t tin t') = ∑ i, share t' w (update flows f flow i) := by
    apply total _ (was t')
    rw [share_eq change.before (linked.busy f), share_eq change.after change.busy]
    by_cases same : t' = t
    · rw [same, update_self, if_pos rfl, if_pos rfl, moved]
    · rw [update_of_ne same, if_neg same, if_neg same]
  refine ⟨?_, total (weigh _ ·.queue) counted.packets packets,
    total (weigh _ ·.queue) counted.memory memory, tinTotal counted.tinPackets change.packets,
    tinTotal counted.tinBytes change.bytes⟩
  apply (forall_update_iff flows fun _ flow => flow.backlog = weigh SkBuff.len flow.queue).mpr
  exact ⟨change.count, fun g _ => counted.flow g⟩

omit [Fintype τ] in
theorem Change.linked (change : Change flows tins t f flow tin) (linked : Linked flows tins) :
    Linked (update flows f flow) (update tins t tin) := by
  refine ⟨?_, fun t' g => ?_, fun s s' => ?_, ?_⟩
  · apply (forall_update_iff tins fun _ tin => tin.chain.Nodup).mpr
    exact ⟨change.once, fun t' _ => linked.once t'⟩
  · by_cases same : t' = t <;> by_cases here : g = f
    · rw [same, here, update_self, update_self, change.listed, Option.ne_none_iff_exists']
      exact ⟨fun ⟨s, is⟩ => change.after s is ▸ is, fun is => ⟨t, is⟩⟩
    · rw [same, update_self, update_of_ne here, change.others g here, linked.listed]
    · rw [here, update_of_ne same, update_self, linked.listed]
      exact iff_of_false (fun is => same (change.before t' is)) fun is => same (change.after t' is)
    · rw [update_of_ne same, update_of_ne here, linked.listed]
  · by_cases here : .default s = f
    · rw [here, update_self]
      exact fun is => (change.after s' is).trans (change.fits s here.symm).symm
    · rw [update_of_ne here]
      exact linked.own s s'
  · apply (forall_update_iff flows fun _ flow => flow.queue ≠ [] → flow.tin ≠ none).mpr
    exact ⟨change.busy, fun g _ => linked.busy g⟩

theorem Change.kept (change : Change fq.flows fq.tins t f flow tin) (kept : Kept fq)
    (packets : c' + weigh (fun _ => 1) (fq.flows f).queue =
      fq.backlog + weigh (fun _ => 1) flow.queue)
    (memory : m' + weigh SkBuff.truesize (fq.flows f).queue =
      fq.memoryUsage + weigh SkBuff.truesize flow.queue) :
    Kept { fq with
      flows := update fq.flows f flow
      tins := update fq.tins t tin
      backlog := c'
      memoryUsage := m' } :=
  ⟨change.counted kept.counted kept.linked packets memory, change.linked kept.linked,
    (forall_update_iff _ fun _ => Fifo).mpr ⟨change.fifo, fun g _ => kept.fifo g⟩⟩

theorem Sound.listed (sound : Sound fq) : f ∈ fq.backlogs ↔ (fq.flows f).queue ≠ [] := by
  rw [sound.order.listed, sound.counted.flow]
  cases (fq.flows f).queue with
  | nil => exact iff_of_false (fun holds => holds rfl) fun holds => holds rfl
  | cons skb rest =>
    have := skb.len_pos
    rw [weigh_cons]
    exact iff_of_true (by omega) (List.cons_ne_nil _ _)

/-! ## Frames are taken off -/

/-- The first frame is taken off, and its flow put in its place. -/
theorem Sound.unlink (sound : Sound fq) (held : (fq.flows f).queue = skb :: queue) :
    Sound ((fq.unlink f skb queue).rejiggerBacklog f) ∧
      (fq.unlink f skb queue).backlog < fq.backlog := by
  have counted := sound.counted
  have linked := sound.linked
  have fifo := sound.fifo f
  obtain ⟨t, chained⟩ := Option.ne_none_iff_exists'.mp (linked.busy f (by simp [held]))
  have most {c : Nat} (w : FqFlow τ → Nat) (total : c = ∑ i, w (fq.flows i)) : w (fq.flows f) ≤ c :=
    total ▸ Finset.single_le_sum (fun i _ => Nat.zero_le (w (fq.flows i))) (Finset.mem_univ f)
  have packets := most (weigh _ ·.queue) counted.packets
  have memory := most (weigh _ ·.queue) counted.memory
  have tinPackets := most _ (counted.tinPackets t)
  have tinBytes := most _ (counted.tinBytes t)
  have count := counted.flow f
  simp only [held, weigh_cons] at packets memory count
  simp only [share, chained, if_true, held, weigh_cons] at tinPackets tinBytes
  have only (t' : τ) (is : (fq.flows f).tin = some t') : t' = t :=
    Option.some.inj (is.symm.trans chained)
  have kept : Kept (fq.unlink f skb queue) := by
    simp only [Fq.unlink, chained, onTin]
    refine Change.kept (t := t) ⟨?_, only, fun t' is => only t' (chained.trans is),
      fun _ => Option.some_ne_none t, linked.once t, fun _ _ => Iff.rfl, ?_, ?_, ?_, ?_, ?_⟩
      sound.toKept ?_ ?_
    · rintro t' rfl
      exact (linked.own t' t chained).symm
    · exact iff_of_true ((linked.listed t f).mpr chained) (Option.some_ne_none t)
    iterate 3 simp only [held, weigh_cons]; omega
    · simpa [Fifo, held] using fifo
    iterate 2 simp only [held, weigh_cons]; omega
  have backlogs : (fq.unlink f skb queue).backlogs = fq.backlogs := by
    rw [Fq.unlink, chained]
    rfl
  refine ⟨⟨⟨kept.1, kept.2, kept.3⟩, ?_⟩, Nat.sub_lt (by omega) Nat.one_pos⟩
  rw [rejiggerBacklog, backlogs]
  apply sound.order.lower
  · exact fun g other => congrArg _ (update_of_ne other _ _)
  · simp [Fq.unlink]

/-- What taking frames off leaves as it is. -/
def links (fq : Fq n τ) : (FlowId n τ → Option τ × Int32) ×
    (τ → List (FlowId n τ) × List (FlowId n τ)) × Nat × UInt32 :=
  (fun g => ((fq.flows g).tin, (fq.flows g).deficit),
    fun t => ((fq.tins t).newFlows, (fq.tins t).oldFlows), fq.memoryLimit, fq.quantum)

omit [Fintype τ] in
theorem unlink_links : (fq.unlink f skb queue).links = fq.links := by
  rw [Fq.unlink]
  refine Prod.ext (funext fun g => ?_) ?_
  · by_cases same : g = f <;> simp [links, same]
  · cases (fq.flows f).tin with
    | none => rfl
    | some s =>
      refine Prod.ext (funext fun t => ?_) rfl
      by_cases same : t = s <;> simp [links, onTin, same]

omit [DecidableEq τ] [Fintype τ] in
theorem of_links (same : fq'.links = fq.links) (t : τ) :
    (fq'.tins t).newFlows = (fq.tins t).newFlows ∧ (fq'.tins t).oldFlows = (fq.tins t).oldFlows ∧
      fq'.quantum = fq.quantum := by
  simp only [links, Prod.mk.injEq, funext_iff] at same
  exact ⟨(same.2.1 t).1, (same.2.1 t).2, same.2.2.2⟩

theorem Sound.flowDequeue (sound : Sound fq) (f : FlowId n τ) :
    (fq.flowDequeue f = (none, fq) ∧ (fq.flows f).queue = []) ∨
    ∃ skb after, fq.flowDequeue f = (some skb, after) ∧ Sound after ∧ after.links = fq.links ∧
      (fq.flows f).queue = skb :: (after.flows f).queue ∧ after.backlog < fq.backlog ∧
      after.memoryUsage ≤ fq.memoryUsage := by
  rw [Fq.flowDequeue]
  split
  · next empty => exact .inl ⟨rfl, empty⟩
  · next skb rest held =>
      obtain ⟨kept, less⟩ := sound.unlink held
      refine .inr ⟨skb, _, rfl, kept, unlink_links, ?_, less, ?_⟩
      · simp [rejiggerBacklog, Fq.unlink, held]
      · exact Nat.sub_le _ _

/-- The frames that CoDel drops and the one that it returns. -/
theorem Sound.dequeueFunc (sound : Sound fq) (f : FlowId n τ) (drops : Nat) :
    ∃ skb after, fq.dequeueFunc f drops = (skb, after) ∧ Sound after ∧ after.links = fq.links ∧
      (skb = none → (after.flows f).queue = []) ∧
      ((fq.flows f).queue.length ≤ drops → skb = none) := by
  induction drops generalizing fq with
  | zero =>
    rw [Fq.dequeueFunc]
    rcases sound.flowDequeue f with ⟨done, empty⟩ | ⟨skb, after, done, kept, same, held, -⟩
    · exact ⟨_, _, done, sound, rfl, fun _ => empty, fun _ => rfl⟩
    · rw [held]
      exact ⟨_, _, done, kept, same, nofun, nofun⟩
  | succ drops ih =>
    rw [Fq.dequeueFunc]
    rcases sound.flowDequeue f with ⟨done, empty⟩ | ⟨skb, after, done, kept, same, held, -⟩
    · rw [done]
      exact ⟨_, _, rfl, sound, rfl, fun _ => empty, fun _ => rfl⟩
    · obtain ⟨skb, last, rest, sound, links, emptied, all⟩ := ih kept
      rw [done, held]
      exact ⟨skb, last, rest, sound, links.trans same, emptied,
        fun few => all (Nat.le_of_succ_le_succ few)⟩

/-! ## The lists of a tin -/

/-- A flow on a list of `t` is put elsewhere on its lists, or is taken off. -/
theorem Sound.relink (sound : Sound fq) (member : f ∈ (fq.tins t).chain)
    (newFlows oldFlows : List (FlowId n τ)) (tin' : Option τ) (d : Int32)
    (after : ∀ t', tin' = some t' → t' = t) (busy : (fq.flows f).queue ≠ [] → tin' ≠ none)
    (once : (newFlows ++ oldFlows).Nodup)
    (others : ∀ g, g ≠ f → (g ∈ newFlows ++ oldFlows ↔ g ∈ (fq.tins t).chain))
    (listed : f ∈ newFlows ++ oldFlows ↔ tin' ≠ none) :
    Sound { fq with
      flows := update fq.flows f { fq.flows f with tin := tin', deficit := d }
      tins := update fq.tins t { fq.tins t with newFlows := newFlows, oldFlows := oldFlows } } := by
  have chained := (sound.linked.listed t f).mp member
  refine ⟨Change.kept (t := t) (f := f) ⟨?_, ?_, after, busy, once, others, listed,
    sound.counted.flow f, rfl, rfl, sound.fifo f⟩ sound.toKept rfl rfl, ?_⟩
  · intro t' same
    exact (sound.linked.own t' t (same ▸ chained)).symm
  · exact fun t' is => Option.some.inj (is.symm.trans chained)
  · have := sound.order
    grind

theorem Sound.deficit (sound : Sound fq) (member : f ∈ (fq.tins t).chain) (d : Int32) :
    Sound (fq.onFlow f fun flow => { flow with deficit := d }) := by
  have chained := (sound.linked.listed t f).mp member
  have := sound.relink member _ _ (fq.flows f).tin d (by simp [chained]) (by simp [chained])
    (sound.linked.once t) (fun _ _ => Iff.rfl) (by simpa [chained, FqTin.chain] using member)
  rwa [Function.update_eq_self] at this

theorem Sound.moveToOld (sound : Sound fq) (member : f ∈ (fq.tins t).chain) :
    Sound (fq.moveToOld t f) := by
  have chained := (sound.linked.listed t f).mp member
  have once := sound.linked.once t
  rw [FqTin.chain] at once
  have := sound.relink member ((fq.tins t).newFlows.erase f) ((fq.tins t).oldFlows.erase f ++ [f])
    (fq.flows f).tin (fq.flows f).deficit (by simp [chained]) (by simp [chained]) (by grind)
    (by grind [FqTin.chain]) (by simp [chained])
  rwa [Function.update_eq_self] at this

theorem Sound.unchain (sound : Sound fq) (member : f ∈ (fq.tins t).chain)
    (empty : (fq.flows f).queue = []) : Sound (fq.unchain t f) := by
  have once := sound.linked.once t
  rw [FqTin.chain] at once
  exact sound.relink member _ _ none (fq.flows f).deficit nofun (fun holds => absurd empty holds)
    (by grind) (by grind [FqTin.chain]) (by grind)

/-- No fewer than the quanta that a deficit takes to become positive.  A quantum that is negative as
an `int` takes it down until it wraps. -/
def refills (quantum deficit : Int32) : Nat :=
  if 0 < deficit then 0 else if 0 < quantum then (1 - deficit.toInt).toNat
  else (deficit.toInt + 2147483649).toNat

theorem refills_add {q d : Int32} (spent : d ≤ 0) (given : q ≠ 0) (odd : q ≠ Int32.minValue) :
    refills q (d + q) < refills q d := by
  have := d.le_toInt
  have := q.le_toInt
  have := q.toInt_lt
  have sum := Int32.toInt_add d q
  rw [Int.bmod] at sum
  simp only [ne_eq, ← Int32.toInt_inj, Int32.toInt_zero, Int32.toInt_minValue] at given odd
  simp only [refills, Int32.lt_iff_toInt_lt, Int32.le_iff_toInt_le, Int32.toInt_zero] at spent ⊢
  grind

/-- More than the turns that the loop of `fq_tin_dequeue` takes. -/
def turns (t : τ) (fq : Fq n τ) : Nat :=
  2 * (fq.tins t).newFlows.length + (fq.tins t).oldFlows.length +
    ∑ f, refills fq.quantum.toInt32 (fq.flows f).deficit + 1

omit [DecidableEq τ] in
theorem turns_congr (same : fq'.links = fq.links) : turns t fq' = turns t fq := by
  change 2 * (fq'.links.2.1 t).1.length + (fq'.links.2.1 t).2.length +
    ∑ f, refills fq'.links.2.2.2.toInt32 (fq'.links.1 f).2 + 1 = _
  rw [same]
  rfl

theorem turns_onFlow (change : FqFlow τ → FqFlow τ) : turns t (fq.onFlow f change) +
    refills fq.quantum.toInt32 (fq.flows f).deficit =
      turns t fq + refills fq.quantum.toInt32 (change (fq.flows f)).deficit := by
  have := sum_update fq.flows (fun flow => refills fq.quantum.toInt32 flow.deficit) f
    (change (fq.flows f))
  dsimp only [turns, onFlow]
  omega

theorem turns_moveToOld (member : f ∈ (fq.tins t).chain) :
    turns t (fq.moveToOld t f) + (if f ∈ (fq.tins t).newFlows then 1 else 0) ≤ turns t fq := by
  have := List.length_pos_of_mem (a := f) (l := (fq.tins t).newFlows)
  have := List.length_pos_of_mem (a := f) (l := (fq.tins t).oldFlows)
  simp only [FqTin.chain, List.mem_append] at member
  simp only [turns, moveToOld, onTin, update_self, List.length_append, List.length_erase,
    List.length_singleton]
  grind

theorem turns_unchain (member : f ∈ (fq.tins t).chain) :
    turns t (fq.unchain t f) < turns t fq := by
  rw [unchain, ← Nat.add_lt_add_iff_right, turns_onFlow, Nat.add_lt_add_iff_right]
  have := List.length_pos_of_mem (a := f) (l := (fq.tins t).newFlows)
  have := List.length_pos_of_mem (a := f) (l := (fq.tins t).oldFlows)
  simp only [FqTin.chain, List.mem_append] at member
  simp only [turns, onTin, update_self, List.length_erase]
  grind

/-- A quantum with which each deficit becomes positive. -/
def Paced (fq : Fq n τ) : Prop := fq.quantum ≠ 0 ∧ fq.quantum ≠ 2147483648

/-- What `fq_tin_dequeue` leaves, and that it returns where `paced`. -/
def Served (t : τ) (paced : Prop) (result : Option (Option SkBuff) × Fq n τ) : Prop :=
  Sound result.2 ∧ (result.1 = some none → (result.2.tins t).chain = []) ∧
    (paced → result.1 ≠ none)

theorem Sound.tinDequeue (sound : Sound fq) (drops : FlowId n τ → Nat) (fuel : Nat) :
    Served t (fq.Paced ∧ turns t fq ≤ fuel) (tinDequeue drops t fuel fq) := by
  induction fuel generalizing fq with
  | zero => exact ⟨sound, nofun, fun few => absurd few.2 (Nat.not_succ_le_zero _)⟩
  | succ fuel ih =>
    have again {next : Fq n τ} (kept : Sound next) (same : next.quantum = fq.quantum)
        (fewer : fq.Paced → turns t next < turns t fq) :
        Served t (fq.Paced ∧ turns t fq ≤ fuel + 1) (Fq.tinDequeue drops t fuel next) := by
      obtain ⟨sound, empty, returns⟩ := ih kept
      refine ⟨sound, empty, fun ⟨paced, few⟩ => returns ⟨?_, ?_⟩⟩
      · rwa [Paced, same]
      · exact Nat.le_of_lt_succ ((fewer paced).trans_le few)
    rw [Fq.tinDequeue]
    split
    · next empty => exact ⟨sound, fun _ => empty, nofun⟩
    next f behind first =>
    have member : f ∈ (fq.tins t).chain := first ▸ List.mem_cons_self
    split
    · next spent =>
        have chained : f ∈ (((fq.onFlow f fun flow => { flow with
          deficit := flow.deficit + fq.quantum.toInt32 }).tins t).chain) := member
        refine again ((sound.deficit member _).moveToOld chained) rfl fun ⟨given, odd⟩ => ?_
        have moved := turns_moveToOld chained
        have raised := @turns_onFlow _ _ _ _ fq f t
          fun flow => { flow with deficit := flow.deficit + fq.quantum.toInt32 }
        have fewer := refills_add (q := fq.quantum.toInt32) spent
          (fun zero => given (congrArg Int32.toUInt32 zero))
          fun half => odd (congrArg Int32.toUInt32 half)
        dsimp only at raised
        omega
    obtain ⟨skb, next, done, kept, same, emptied, -⟩ := sound.dequeueFunc f (drops f)
    obtain ⟨news, olds, paced⟩ := of_links same t
    have total : turns t next = turns t fq := turns_congr same
    have there : f ∈ (next.tins t).chain := by rwa [FqTin.chain, news, olds]
    rw [done]
    cases skb with
    | some skb => exact ⟨kept.deficit there _, nofun, nofun⟩
    | none =>
      dsimp only
      split
      · next both =>
          refine again (kept.moveToOld there) paced fun _ => ?_
          have head : f ∈ (next.tins t).newFlows := by
            rw [FqTin.chain, ← news] at first
            cases new : (next.tins t).newFlows with
            | nil => exact absurd new both.1
            | cons _ _ =>
              rw [new] at first
              exact (List.cons.inj first).1 ▸ List.mem_cons_self
          have := turns_moveToOld there
          rw [if_pos head] at this
          omega
      · refine again (kept.unchain there (emptied rfl)) paced fun _ => ?_
        exact total ▸ turns_unchain there

omit [Fintype τ] in
theorem Linked.classify (linked : Linked fq.flows fq.tins) (t : τ) (idx : Fin n) :
    (∀ t', (fq.flows (fq.flowClassify t idx)).tin = some t' → t' = t) ∧
      ∀ t', fq.flowClassify t idx = .default t' → t' = t := by
  rw [flowClassify]
  split
  · exact ⟨linked.own t, fun t' same => (FlowId.default.inj same).symm⟩
  · next free =>
      refine ⟨fun t' is => ?_, nofun⟩
      simpa [is] using free

/-- A flow whose backlog has grown moves up. -/
theorem Sound.raise (sound : Sound fq) (kept : Kept fq') (same : fq'.backlogs = fq.backlogs)
    (others : ∀ g, g ≠ f → (fq'.flows g).backlog = (fq.flows g).backlog)
    (more : (fq.flows f).backlog < (fq'.flows f).backlog) : Sound (fq'.recalcBacklog f) := by
  refine ⟨⟨kept.1, kept.2, kept.3⟩, ?_⟩
  rw [recalcBacklog, same]
  exact sound.order.raise others more.le (Nat.ne_zero_of_lt more)

theorem Sound.accept (sound : Sound fq) (t : τ) (idx : Fin n) (skb : SkBuff) :
    Sound ((fq.accept t (fq.flowClassify t idx) skb).recalcBacklog (fq.flowClassify t idx)) := by
  obtain ⟨only, fits⟩ := sound.linked.classify t idx
  generalize fq.flowClassify t idx = f at only fits
  have chained : f ∈ (fq.tins t).chain ↔ (fq.flows f).tin ≠ none := by
    rw [sound.linked.listed, Option.ne_none_iff_exists']
    exact ⟨fun is => ⟨t, is⟩, fun ⟨t', is⟩ => only t' is ▸ is⟩
  have once := sound.linked.once t
  have fifo := sound.fifo f
  rw [FqTin.chain] at once
  have kept : Kept (fq.accept t f skb) := by
    refine Change.kept (t := t) ⟨fits, only, ?_, ?_, ?_, ?_, ?_, ?_, ?_, ?_, ?_⟩ sound.toKept ?_ ?_
    · exact fun t' is => (Option.some.inj is).symm
    · exact fun _ => Option.some_ne_none t
    iterate 3 grind [FqTin.chain]
    · simp [sound.counted.flow f]
    iterate 2 simp only [weigh_append, weigh_cons, weigh_nil]; omega
    · rw [Fifo] at fifo ⊢
      simp [← fifo]
    iterate 2 simp only [weigh_append, weigh_cons, weigh_nil]; omega
  have more : ((fq.accept t f skb).flows f).backlog = (fq.flows f).backlog + skb.len :=
    congrArg _ (update_self ..)
  exact sound.raise kept rfl (fun g other => congrArg _ (update_of_ne other _ _))
    (more ▸ Nat.lt_add_of_pos_right skb.len_pos)

/-- The last frame of a flow grows in place. -/
theorem Sound.amsduAggregate (sound : Sound fq) (t : τ) (idx : Fin n) (len truesize : Nat) :
    Sound (fq.amsduAggregate t idx len truesize) := by
  rw [Fq.amsduAggregate]
  obtain ⟨only, fits⟩ := sound.linked.classify t idx
  generalize fq.flowClassify t idx = f at only fits
  dsimp only
  obtain empty | ⟨front, head, held⟩ := List.eq_nil_or_concat' (fq.flows f).queue
  · rwa [empty]
  have count := sound.counted.flow f
  have fifo := sound.fifo f
  obtain ⟨t', chained⟩ := Option.ne_none_iff_exists'.mp (sound.linked.busy f (by simp [held]))
  obtain rfl := only t' chained
  have kept : Kept (fq.growTail t' f head len truesize) := by
    refine Change.kept (t := t') ⟨fits, only, only, fun _ => chained ▸ Option.some_ne_none t',
      sound.linked.once t', fun _ _ => Iff.rfl, ?_, ?_, ?_, ?_, ?_⟩ sound.toKept ?_ ?_
    · exact iff_of_true ((sound.linked.listed t' f).mpr chained) (chained ▸ Option.some_ne_none t')
    all_goals
      simp only [Fifo, held, SkBuff.grow, List.dropLast_concat, weigh_append, weigh_cons,
        weigh_nil, List.map_append, List.map_cons, onTin] at count fifo ⊢
    iterate 2 omega
    · exact fifo
    · omega
  have others (g : FlowId n τ) (other : g ≠ f) :
      ((fq.growTail t' f head len truesize).flows g).backlog = (fq.flows g).backlog :=
    congrArg _ (update_of_ne other _ _)
  have more : ((fq.growTail t' f head len truesize).flows f).backlog =
      (fq.flows f).backlog + len := congrArg _ (update_self ..)
  rw [held, List.getLast?_concat]
  dsimp only
  split
  · next none =>
      refine ⟨kept, (congrArg (Listing · fq.backlogs) (funext fun g => ?_)).mp sound.order⟩
      by_cases here : g = f <;> grind
  · next some => exact sound.raise kept rfl others (by omega)

theorem Sound.empty (sound : Sound fq) (none : fq.backlogs = []) :
    fq.backlog = 0 ∧ fq.memoryUsage = 0 := by
  have empty (f : FlowId n τ) : (fq.flows f).queue = [] := by
    by_contra holds
    exact List.not_mem_nil (none ▸ sound.listed.mpr holds)
  rw [sound.counted.packets, sound.counted.memory]
  simp [empty]

def Limited (fq : Fq n τ) : Prop := fq.backlog ≤ fq.limit ∧ fq.memoryUsage ≤ fq.memoryLimit

/-- The loop of `fq_tin_enqueue` ends within the limits, unless a counter wraps around. -/
theorem Sound.dropFat (sound : Sound fq) {fuel : Nat} {oom : Bool} (enough : fq.backlog < fuel) :
    Sound (dropFat fuel oom fq) ∧
      (fq.backlog < 2 ^ 32 → fq.memoryUsage < 2 ^ 32 →
        (oom = false → fq.memoryUsage ≤ fq.memoryLimit) → Limited (dropFat fuel oom fq)) := by
  induction fuel generalizing fq oom with
  | zero => exact absurd enough (Nat.not_lt_zero _)
  | succ fuel ih =>
    rw [Fq.dropFat]
    by_cases more : fq.limit < fq.backlog % 2 ^ 32 ∨ oom = true
    · rw [if_pos more]
      split
      · next none =>
          obtain ⟨packets, memory⟩ := sound.empty none
          exact ⟨sound, fun _ _ _ =>
            ⟨packets ▸ Nat.zero_le fq.limit, memory ▸ Nat.zero_le fq.memoryLimit⟩⟩
      · next f behind first =>
          have fat : f ∈ fq.backlogs := first ▸ List.mem_cons_self
          rcases sound.flowDequeue f with ⟨-, empty⟩ | ⟨skb, after, done, kept, same, -, less, le⟩
          · exact absurd empty (sound.listed.mp fat)
          · rw [done]
            obtain ⟨ends, limited⟩ := @ih after kept
              (oom && decide (after.memoryLimit < after.memoryUsage % 2 ^ 32)) (by omega)
            refine ⟨ends, fun frames bytes told => limited (by omega) (by omega) fun calm => ?_⟩
            have bound : after.memoryLimit = fq.memoryLimit := congrArg (·.2.2.1) same
            rcases Bool.and_eq_false_iff.mp calm with calm | calm
            · exact bound ▸ le.trans (told calm)
            · have := of_decide_eq_false calm
              omega
    · rw [if_neg more]
      rw [not_or, Nat.not_lt, Bool.not_eq_true] at more
      exact ⟨sound, fun frames _ told => ⟨Nat.mod_eq_of_lt frames ▸ more.1, told more.2⟩⟩

theorem Sound.tinEnqueue (sound : Sound fq) (t : τ) (idx : Fin n) (skb : SkBuff) :
    Sound (fq.tinEnqueue t idx skb) ∧
      (fq.backlog + 1 < 2 ^ 32 → fq.memoryUsage + skb.truesize < 2 ^ 32 →
        Limited (fq.tinEnqueue t idx skb)) := by
  obtain ⟨ends, limited⟩ := (sound.accept t idx skb).dropFat (Nat.lt_succ_self _)
  refine ⟨ends, fun frames bytes => limited frames bytes fun calm => ?_⟩
  exact (Nat.mod_eq_of_lt bytes).ge.trans (Nat.le_of_not_lt (of_decide_eq_false calm))

theorem Sound.flowReset (sound : Sound fq) (member : f ∈ (fq.tins t).chain) :
    Sound (flowReset t fq f) ∧
      ∀ g, g ≠ f → (g ∈ ((flowReset t fq f).tins t).chain ↔ g ∈ (fq.tins t).chain) := by
  obtain ⟨skb, next, done, kept, same, emptied, all⟩ :=
    sound.dequeueFunc f (fq.flows f).queue.length
  have empty := emptied (all (Nat.le_refl _))
  obtain ⟨news, olds, -⟩ := of_links same t
  have there : f ∈ (next.tins t).chain := by rwa [FqTin.chain, news, olds]
  have unlisted : next.backlogs.erase f = next.backlogs :=
    List.erase_of_not_mem fun listed => kept.listed.mp listed empty
  rw [Fq.flowReset, done]
  dsimp only
  rw [unlisted]
  refine ⟨kept.unchain there empty, fun g other => ?_⟩
  simp only [Fq.unchain, onFlow, onTin, update_self, FqTin.chain, List.mem_append, news, olds,
    List.mem_erase_of_ne other]

theorem Sound.tinReset (sound : Sound fq) (t : τ) : Sound (fq.tinReset t) := by
  have all (flows : List (FlowId n τ)) {fq : Fq n τ} (sound : Sound fq) (once : flows.Nodup)
      (members : ∀ f ∈ flows, f ∈ (fq.tins t).chain) :
      Sound (flows.foldl (Fq.flowReset t) fq) := by
    induction flows generalizing fq with
    | nil => exact sound
    | cons f rest ih =>
      obtain ⟨fresh, once⟩ := List.nodup_cons.mp once
      obtain ⟨kept, others⟩ := sound.flowReset (members f List.mem_cons_self)
      refine ih kept once fun g member => (others g fun same => fresh (same ▸ member)).mpr ?_
      exact members g (List.mem_cons_of_mem f member)
  exact all _ sound (sound.linked.once t) fun _ => id

/-! ## Runs -/

theorem Sound.step (sound : Sound fq) (event : Event n τ) : Sound (fq.step event) := by
  cases event with
  | enqueue t idx skb => exact (sound.tinEnqueue t idx skb).1
  | amsduAggregate t idx len truesize => exact sound.amsduAggregate t idx len truesize
  | dequeue t drops fuel => exact (sound.tinDequeue drops fuel).1
  | reset t => exact sound.tinReset t
  | setParams => exact ⟨⟨sound.1.1, sound.1.2, sound.1.3⟩, sound.2⟩

theorem sound_init : Sound (init : Fq n τ) := by
  refine ⟨⟨⟨?_, ?_, ?_, ?_, ?_⟩, ⟨?_, ?_, ?_, ?_⟩, fun _ => rfl⟩, ⟨.nil, ?_, .nil⟩⟩
  all_goals simp [init, share, FqTin.chain]

theorem Sound.run (sound : Sound fq) (events : List (Event n τ)) :
    Sound (events.foldl Fq.step fq) :=
  run_invariant (P := Sound) (fun _ event kept => kept.step event) sound events

/-- In every state of every run the counters are exact, the flows of a tin are on its lists, those
that hold frames are in falling order, and no flow loses or reorders frames. -/
theorem sound_of_run (events : List (Event n τ)) : Sound (events.foldl step init) :=
  sound_init.run events

/-- Whatever came before, a frame put in leaves the queues within their limits, if it takes no
counter to 2^32. -/
theorem limited_of_run (events : List (Event n τ)) (t : τ) (idx : Fin n) (skb : SkBuff)
    (frames : (events.foldl step (init : Fq n τ)).backlog + 1 < 2 ^ 32)
    (bytes : (events.foldl step (init : Fq n τ)).memoryUsage + skb.truesize < 2 ^ 32) :
    Limited ((events.foldl step init).tinEnqueue t idx skb) :=
  ((sound_init.run events).tinEnqueue t idx skb).2 frames bytes

/-- A frame of 400 bytes. -/
def frame (id : Nat) : SkBuff := ⟨id, 400, 1000, by decide⟩

/-- Two flows get frames, and CoDel drops one of the first. -/
def twoFlows : List (Event 2 Unit) :=
  [.enqueue () 0 (frame 1), .enqueue () 0 (frame 2), .enqueue () 1 (frame 3),
    .enqueue () 0 (frame 4), .dequeue () (fun _ => 1) 9]

/-- Then the memory limit is lowered below what is left. -/
def lowered : List (Event 2 Unit) := twoFlows ++ [.setParams 0 1500 0]

/-- Two frames have to go when one comes. -/
theorem limited_of_run_lowered :
    (lowered.foldl step init).backlog = 2 ∧
      ((lowered.foldl step init).tinEnqueue () 1 (frame 5)).backlog = 1 ∧
      Limited ((lowered.foldl step init).tinEnqueue () 1 (frame 5)) :=
  ⟨by decide +kernel, by decide +kernel,
    limited_of_run lowered () 1 (frame 5) (by decide +kernel) (by decide +kernel)⟩

/-- With such a quantum `fq_tin_dequeue` returns, and no frame only if the tin has none left. -/
theorem tinDequeue_of_run (events : List (Event n τ)) (t : τ) (drops : FlowId n τ → Nat)
    (paced : (events.foldl step (init : Fq n τ)).Paced) :
    ∃ enough, ∀ fuel, enough ≤ fuel → ∃ skb after,
      tinDequeue drops t fuel (events.foldl step init) = (some skb, after) ∧
      (skb = none → (after.tins t).backlogPackets = 0) := by
  refine ⟨turns t (events.foldl step init), fun fuel few => ?_⟩
  obtain ⟨sound, empty, returns⟩ := (sound_init.run events).tinDequeue (t := t) drops fuel
  obtain ⟨skb, returned⟩ := Option.ne_none_iff_exists'.mp (returns ⟨paced, few⟩)
  refine ⟨skb, _, Prod.ext returned rfl, fun nothing => ?_⟩
  rw [sound.counted.tinPackets]
  refine Finset.sum_eq_zero fun f _ => if_neg fun chained => ?_
  have := (sound.linked.listed t f).mpr chained
  rw [empty (nothing ▸ returned)] at this
  exact List.not_mem_nil this

theorem tinDequeue_of_run_twoFlows :
    ((twoFlows.foldl step init).tins ()).backlogPackets = 2 ∧
      (twoFlows.foldl step init).memoryUsage = 2000 ∧
      ∃ enough, ∀ fuel, enough ≤ fuel → ∃ skb after,
        tinDequeue (fun _ => 1) () fuel (twoFlows.foldl step init) = (some skb, after) ∧
          (skb = none → (after.tins ()).backlogPackets = 0) :=
  ⟨by decide +kernel, by decide +kernel,
    tinDequeue_of_run twoFlows () (fun _ => 1) ⟨by decide +kernel, by decide +kernel⟩⟩

/-! ## A quantum of 2^31 -/

/-- The quantum takes each of these deficits to the other. -/
structure Halved (fq : Fq n τ) : Prop where
  quantum : fq.quantum = 2147483648
  deficit : ∀ f, (fq.flows f).deficit = 0 ∨ (fq.flows f).deficit = Int32.minValue

omit [Fintype τ] in
/-- The loop of `fq_tin_dequeue` has no end. -/
theorem Halved.tinDequeue (halved : Halved fq) (listed : (fq.tins t).chain ≠ [])
    (drops : FlowId n τ → Nat) (fuel : Nat) : (tinDequeue drops t fuel fq).1 = none := by
  induction fuel generalizing fq with
  | zero => rfl
  | succ fuel ih =>
    rw [Fq.tinDequeue]
    split
    · next empty => exact absurd empty listed
    next f behind first =>
    rw [if_pos (by rcases halved.deficit f with is | is <;> rw [is] <;> decide)]
    refine ih ⟨halved.quantum, fun g => ?_⟩ (by simp [Fq.moveToOld, onTin, FqTin.chain])
    by_cases same : g = f
    · simp only [Fq.moveToOld, onTin, onFlow, same, update_self, halved.quantum]
      rcases halved.deficit f with is | is <;> rw [is] <;> decide
    · simpa [Fq.moveToOld, onTin, onFlow, same] using halved.deficit g

omit [Fintype τ] in
theorem dropFat_links (fuel : Nat) (oom : Bool) : (dropFat fuel oom fq).links = fq.links := by
  induction fuel generalizing fq oom with
  | zero => rfl
  | succ fuel ih =>
    rw [Fq.dropFat]
    split
    · split
      · rfl
      · next f behind first =>
          rw [Fq.flowDequeue]
          cases (fq.flows f).queue with
          | nil => rfl
          | cons skb rest => exact (ih _).trans unlink_links
    · rfl

omit [Fintype τ] in
/-- A flow that joins its tin has the quantum as its deficit. -/
theorem Halved.tinEnqueue (halved : Halved fq) (t : τ) (idx : Fin n) (skb : SkBuff) :
    Halved (fq.tinEnqueue t idx skb) ∧ ((fq.tinEnqueue t idx skb).tins t).chain ≠ [] := by
  have same : (fq.tinEnqueue t idx skb).links =
      (fq.accept t (fq.flowClassify t idx) skb).links := dropFat_links _ _
  generalize fq.flowClassify t idx = f at same
  have links := of_links same t
  refine ⟨⟨links.2.2.trans halved.quantum, fun g => ?_⟩, ?_⟩
  · have deficit : ((fq.tinEnqueue t idx skb).flows g).deficit =
        ((fq.accept t f skb).flows g).deficit := congrArg (fun links => (links.1 g).2) same
    rw [deficit, Fq.accept]
    by_cases here : g = f
    · simp only [here, update_self, halved.quantum]
      split
      · exact halved.deficit f
      · exact .inr rfl
    · simpa only [update_of_ne here] using halved.deficit g
  · rw [FqTin.chain, links.1, links.2.1]
    simp only [Fq.accept, onTin, update_self]
    grind [FqTin.chain]

omit [Fintype τ] in
/-- Once the quantum is 2^31, `fq_tin_dequeue` does not return for a tin that was given a frame. -/
theorem tinDequeue_stuck (frames : List (τ × Fin n × SkBuff)) (t : τ) (idx : Fin n) (skb : SkBuff)
    (drops : FlowId n τ → Nat) (fuel : Nat) :
    (tinDequeue drops t fuel ((frames.foldl (fun fq (t, idx, skb) => fq.tinEnqueue t idx skb)
      (init.txqSetParams 0 0 2147483648)).tinEnqueue t idx skb)).1 = none := by
  have start : Halved (init.txqSetParams 0 0 2147483648 : Fq n τ) := ⟨rfl, fun _ => .inl rfl⟩
  have halved : Halved (frames.foldl (fun fq (t, idx, skb) => fq.tinEnqueue t idx skb)
      (init.txqSetParams 0 0 2147483648)) :=
    run_invariant (fun _ _ kept => (kept.tinEnqueue _ _ _).1) start frames
  obtain ⟨kept, listed⟩ := halved.tinEnqueue t idx skb
  exact kept.tinDequeue listed drops fuel

end Fq

end Iwlwifi.FairQueue
