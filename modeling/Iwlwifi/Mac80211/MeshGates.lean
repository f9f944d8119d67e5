import Mathlib.Algebra.Ring.Nat
import Mathlib.Data.List.Nodup
import Mathlib.Logic.Function.Basic

/-!
# Forwarding to mesh gates

When no path can be found, `mesh_path_send_to_gates` hands the frames that wait for it to the
active gates: it moves them to the queue of the first and copies them from each gate to the next.
`mesh_path_move_to_queue` takes the frames off their path before it looks at the room in the queue
of the gate and at the memory for a copy, and puts the rest back only when it copies.  What it
cannot move is on no queue any more and is not freed either (`lossless_iff`).

A path is named by its destination, and the fields of the paths do not change here.  A buffer is
known by its pointer; a copy gets a new one.  Every frame of a path has its interface, so that
`ieee80211_add_pending_skbs` puts all of them on the pending queues, which stand as one list.
-/

namespace Iwlwifi.MeshGates

/-! ## Frames -/

abbrev Addr := BitVec 48

def meshFlagsAe : UInt8 := 0x3
def meshFlagsAeA5A6 : UInt8 := 0x2
def meshFrameQueueLen : Nat := 10

/-- A mesh data frame: the addresses of its header, the fixed part of the mesh header, the
extended addresses and what follows them. -/
structure Frame where
  addr1 : Addr
  addr2 : Addr
  addr3 : Addr
  addr4 : Addr
  flags : UInt8
  ttl : UInt8
  seqnum : UInt32
  eaddrs : List Addr
  body : List UInt8
  deriving DecidableEq, Repr

structure Skb where
  ptr : Nat
  frame : Frame
  deriving DecidableEq, Repr

def Frame.extended (frame : Frame) : Bool := frame.flags &&& meshFlagsAe != 0

/-- `prepare_for_gate`, which makes room for the two extended addresses. -/
def Frame.extend (frame : Frame) : Frame :=
  if frame.extended then frame
  else
    { frame with
      flags := meshFlagsAeA5A6
      eaddrs := [frame.addr3, frame.addr4] }

/-- `prepare_for_gate`. -/
def prepareForGate (vifAddr gate nextHop : Addr) (frame : Frame) : Frame :=
  { frame.extend with
    addr1 := nextHop
    addr2 := vifAddr
    addr3 := gate }

/-! ## The queues -/

/-- What is read of a path. -/
structure MeshPath where
  active : Bool
  nextHop : Option Addr
  deriving DecidableEq, Repr

/-- The paths by their destinations, the address of the interface and which of the calls of
`skb_copy` succeed. -/
structure Net where
  vifAddr : Addr
  path : Addr → MeshPath
  skbCopy : Nat → Bool

/-- The frame queues of the paths, the pending queues of the device and the buffers freed;
`copies` counts the calls of `skb_copy`, and no buffer has a pointer from `nextPtr` on. -/
structure State where
  queue : Addr → List Skb
  pending : List Skb := []
  freed : List Skb := []
  copies : Nat := 0
  nextPtr : Nat

/-- A copy of a frame that has been put on the queue of a gate. -/
structure Handover where
  orig : Skb
  gate : Addr
  copy : Skb

def State.setQueue (s : State) (dst : Addr) (skbs : List Skb) : State :=
  { s with queue := Function.update s.queue dst skbs }

/-- A copy has been put on the queue of the gate; its original is freed when it is moved. -/
def State.handOver (s : State) (gate : Addr) (copy : Bool) (fskb skb : Skb) : State :=
  { s.setQueue gate (s.queue gate ++ [skb]) with
    copies := s.copies + 1
    nextPtr := s.nextPtr + 1
    freed := if copy then s.freed else s.freed ++ [fskb] }

section

variable (net : Net)

/-- The loop of `mesh_path_move_to_queue` over the private list, with what it leaves there. -/
def moveFrames (gate nextHop : Addr) (copy : Bool) :
    List Skb → State → State × List Skb × List Handover
  | [], s => (s, [], [])
  | fskb :: rest, s =>
    if meshFrameQueueLen ≤ (s.queue gate).length then (s, fskb :: rest, [])
    else if !net.skbCopy s.copies then ({ s with copies := s.copies + 1 }, fskb :: rest, [])
    else
      let skb : Skb :=
        { ptr := s.nextPtr
          frame := prepareForGate net.vifAddr gate nextHop fskb.frame }
      let more := moveFrames gate nextHop copy rest (s.handOver gate copy fskb skb)
      (more.1, if copy then fskb :: more.2.1 else more.2.1,
        { orig := fskb, gate, copy := skb } :: more.2.2)

/-- `mesh_path_move_to_queue`. -/
def meshPathMoveToQueue (gate src : Addr) (copy : Bool) (s : State) : State × List Handover :=
  if gate = src then (s, [])
  else
    match (net.path gate).nextHop with
    | none => (s, [])
    | some nextHop =>
      let done := moveFrames net gate nextHop copy (s.queue src) (s.setQueue src [])
      if copy then (done.1.setQueue src (done.2.1 ++ done.1.queue src), done.2.2)
      else (done.1, done.2.2)

/-- The first loop of `mesh_path_send_to_gates`, which also gives the path that the frames were
last taken from. -/
def forwardToGates : List Addr → Addr → Bool → State → State × List Handover × Addr
  | [], src, _, s => (s, [], src)
  | gate :: rest, src, copy, s =>
    if (net.path gate).active then
      let moved := meshPathMoveToQueue net gate src copy s
      let more := forwardToGates rest gate true moved.1
      (more.1, moved.2 ++ more.2.1, more.2.2)
    else forwardToGates rest src copy s

/-- `mesh_path_tx_pending`. -/
def meshPathTxPending (s : State) (dst : Addr) : State :=
  if (net.path dst).active then
    { s.setQueue dst [] with pending := s.pending ++ s.queue dst }
  else s

/-- `mesh_path_send_to_gates`, which says whether a gate was reachable. -/
def meshPathSendToGates (gates : List Addr) (mpath : Addr) (s : State) :
    State × List Handover × Bool :=
  let done := forwardToGates net gates mpath false s
  (gates.foldl (meshPathTxPending net) done.1, done.2.1, done.2.2 ≠ mpath)

end

/-! ## What is asked -/

/-- A frame as it has to reach a gate: sent on to its next hop and to the gate, with the addresses
between which it travels in the extension. -/
structure ForwardedTo (vifAddr gate nextHop : Addr) (orig copy : Frame) : Prop where
  addr1 : copy.addr1 = nextHop
  addr2 : copy.addr2 = vifAddr
  addr3 : copy.addr3 = gate
  addr4 : copy.addr4 = orig.addr4
  extended : copy.extended
  eaddrs : copy.eaddrs = if orig.extended then orig.eaddrs else [orig.addr3, orig.addr4]
  body : copy.body = orig.body

/-- The frame waits on the queue of the path or is being sent. -/
def Held (s : State) (dst : Addr) (skb : Skb) : Prop := skb ∈ s.queue dst ∨ skb ∈ s.pending

/-- The handover has brought a copy of the frame to an active gate. -/
structure Reached (net : Net) (gates : List Addr) (s : State) (skb : Skb) (h : Handover) :
    Prop where
  orig : h.orig = skb
  gate : h.gate ∈ gates
  active : (net.path h.gate).active
  held : Held s h.gate h.copy
  forwarded : ∃ nextHop, (net.path h.gate).nextHop = some nextHop ∧
    ForwardedTo net.vifAddr h.gate nextHop skb.frame h.copy.frame

/-- No frame of the failed path is lost, and none of a gate. -/
structure Lossless (net : Net) (gates : List Addr) (mpath : Addr) (before after : State)
    (handovers : List Handover) : Prop where
  frames : ∀ skb ∈ before.queue mpath, Held after mpath skb ∨
    ∃ h ∈ handovers, Reached net gates after skb h
  gates : ∀ gate, gate ≠ mpath → ∀ skb ∈ before.queue gate, Held after gate skb

/-- The buffers on the queues are different ones. -/
structure Owned (s : State) : Prop where
  nodup : ∀ dst, (s.queue dst).Nodup
  apart : ∀ dst dst' skb, skb ∈ s.queue dst → skb ∈ s.queue dst' → dst = dst'
  unsent : ∀ dst, ∀ skb ∈ s.queue dst, skb ∉ s.pending
  old : ∀ dst, ∀ skb ∈ s.queue dst, skb.ptr < s.nextPtr

/-- The condition: the first active gate, where it is another path and has a next hop, has room
for all the frames, and there is memory for the copies. -/
def Fits (net : Net) (gates : List Addr) (mpath : Addr) (s : State) : Prop :=
  ∀ gate nextHop, gates.find? (fun gate => (net.path gate).active) = some gate → gate ≠ mpath →
    (net.path gate).nextHop = some nextHop →
    ∀ k < (s.queue mpath).length,
      (s.queue gate).length + k < meshFrameQueueLen ∧ net.skbCopy (s.copies + k)

theorem prepareForGate_forwarded (vifAddr gate nextHop : Addr) (frame : Frame) :
    ForwardedTo vifAddr gate nextHop frame (prepareForGate vifAddr gate nextHop frame) := by
  have fields : frame.extend.addr4 = frame.addr4 ∧ frame.extend.extended ∧
      frame.extend.eaddrs =
        (if frame.extended then frame.eaddrs else [frame.addr3, frame.addr4]) ∧
      frame.extend.body = frame.body := by
    have flagged : (meshFlagsAeA5A6 &&& meshFlagsAe != 0) = true := rfl
    unfold Frame.extend
    split
    · next already => exact ⟨rfl, already, rfl, rfl⟩
    · exact ⟨rfl, flagged, rfl, rfl⟩
  obtain ⟨addr4, extended, eaddrs, body⟩ := fields
  exact ⟨rfl, rfl, rfl, addr4, extended, eaddrs, body⟩

/-! ## The loop over the frames -/

section

variable {net : Net} {gate nextHop : Addr} {copy : Bool}

@[simp] theorem setQueue_self (s : State) (dst : Addr) (skbs : List Skb) :
    (s.setQueue dst skbs).queue dst = skbs := Function.update_self ..

theorem setQueue_ne (s : State) {dst other : Addr} (differ : other ≠ dst) (skbs : List Skb) :
    (s.setQueue dst skbs).queue other = s.queue other := Function.update_of_ne differ ..

@[simp] theorem handOver_self (s : State) (fskb skb : Skb) :
    (s.handOver gate copy fskb skb).queue gate = s.queue gate ++ [skb] := Function.update_self ..

theorem handOver_ne (s : State) {other : Addr} (differ : other ≠ gate) (fskb skb : Skb) :
    (s.handOver gate copy fskb skb).queue other = s.queue other := Function.update_of_ne differ ..

/-- What the loop of `mesh_path_move_to_queue` has done. -/
structure Moved (net : Net) (gate nextHop : Addr) (copy : Bool) (failq : List Skb) (s : State)
    (done : State × List Skb × List Handover) : Prop where
  others : ∀ dst, dst ≠ gate → done.1.queue dst = s.queue dst
  queue : done.1.queue gate = s.queue gate ++ done.2.2.map Handover.copy
  pending : done.1.pending = s.pending
  nextPtr : s.nextPtr ≤ done.1.nextPtr
  handed : ∀ h ∈ done.2.2, h.gate = gate ∧ s.nextPtr ≤ h.copy.ptr ∧
    h.copy.frame = prepareForGate net.vifAddr gate nextHop h.orig.frame
  copied : copy → done.2.1 = failq ∧ ∀ h ∈ done.2.2, h.orig ∈ failq
  moved : copy = false → done.2.2.map Handover.orig ++ done.2.1 = failq

theorem moved_nothing (failq : List Skb) (s : State) :
    Moved net gate nextHop copy failq s (s, failq, []) :=
  { others := fun _ _ => rfl
    queue := (List.append_nil _).symm
    pending := rfl
    nextPtr := Nat.le_refl _
    handed := List.forall_mem_nil _
    copied := fun _ => ⟨rfl, List.forall_mem_nil _⟩
    moved := fun _ => rfl }

theorem moveFrames_moved (net : Net) (gate nextHop : Addr) (copy : Bool) (failq : List Skb)
    (s : State) :
    Moved net gate nextHop copy failq s (moveFrames net gate nextHop copy failq s) := by
  induction failq generalizing s with
  | nil => exact moved_nothing [] s
  | cons fskb rest ih =>
    have nothing : Moved net gate nextHop copy (fskb :: rest) s (s, fskb :: rest, []) :=
      moved_nothing _ s
    rw [moveFrames]
    split
    · exact nothing
    · split
      · exact ⟨nothing.others, nothing.queue, rfl, Nat.le_refl _, nothing.handed,
          nothing.copied, nothing.moved⟩
      · have more := ih (s.handOver gate copy fskb
          { ptr := s.nextPtr, frame := prepareForGate net.vifAddr gate nextHop fskb.frame })
        refine ⟨fun dst differ => ?_, ?_, more.pending, ?_, ?_, fun copies => ?_,
          fun moves => ?_⟩
        · exact (more.others dst differ).trans (handOver_ne s differ _ _)
        · refine more.queue.trans ?_
          rw [handOver_self, List.append_assoc, List.map_cons]
          rfl
        · exact Nat.le_trans (Nat.le_succ _) more.nextPtr
        · refine List.forall_mem_cons.mpr ⟨⟨rfl, Nat.le_refl _, rfl⟩, fun h member => ?_⟩
          obtain ⟨its, fresh, frame⟩ := more.handed h member
          exact ⟨its, Nat.le_trans (Nat.le_succ _) fresh, frame⟩
        · obtain ⟨left, origs⟩ := more.copied copies
          refine ⟨?_, List.forall_mem_cons.mpr ⟨List.mem_cons_self, fun h member =>
            List.mem_cons_of_mem _ (origs h member)⟩⟩
          exact (if_pos copies).trans (congrArg _ left)
        · have left := more.moved moves
          dsimp only
          rw [if_neg (Bool.eq_false_iff.mp moves), List.map_cons, List.cons_append, left]

/-- All frames are handed over exactly when the gate has room and there is memory for each. -/
theorem moveFrames_all_iff (failq : List Skb) (s : State) :
    (moveFrames net gate nextHop copy failq s).2.2.map Handover.orig = failq ↔
      ∀ k < failq.length, (s.queue gate).length + k < meshFrameQueueLen ∧
        net.skbCopy (s.copies + k) := by
  induction failq generalizing s with
  | nil => exact ⟨fun _ k short => absurd short (Nat.not_lt_zero k), fun _ => rfl⟩
  | cons fskb rest ih =>
    rw [moveFrames]
    split
    · next full =>
        refine ⟨fun all => absurd all.symm (List.cons_ne_nil _ _), fun fit => ?_⟩
        exact absurd (fit 0 (Nat.zero_lt_succ _)).1 (Nat.not_lt.mpr full)
    · next room =>
        split
        · next fails =>
            refine ⟨fun all => absurd all.symm (List.cons_ne_nil _ _), fun fit => ?_⟩
            have copies := (fit 0 (Nat.zero_lt_succ _)).2
            rw [Nat.add_zero] at copies
            simp [copies] at fails
        · next copies =>
            have copied : net.skbCopy s.copies = true := by simpa using copies
            have more := ih (s.handOver gate copy fskb
              { ptr := s.nextPtr, frame := prepareForGate net.vifAddr gate nextHop fskb.frame })
            rw [List.map_cons, List.cons.injEq, eq_self, true_and, more, handOver_self,
              List.length_append, List.length_singleton, List.length_cons]
            refine ⟨fun fit k short => ?_, fun fit k short => ?_⟩
            · cases k with
              | zero => exact ⟨Nat.not_le.mp room, copied⟩
              | succ k =>
                obtain ⟨space, memory⟩ := fit k (Nat.lt_of_succ_lt_succ short)
                refine ⟨by omega, ?_⟩
                rw [← Nat.add_assoc, Nat.add_right_comm]
                exact memory
            · obtain ⟨space, memory⟩ := fit (k + 1) (Nat.succ_lt_succ short)
              refine ⟨by omega, ?_⟩
              rw [← Nat.add_assoc, Nat.add_right_comm] at memory
              exact memory

end

/-! ## The later gates -/

/-- Only copies with new pointers have come onto the queues, made of frames that were there or of
such copies. -/
structure Grows (s s' : State) (handovers : List Handover) : Prop where
  kept : ∀ dst, ∀ skb ∈ s.queue dst, skb ∈ s'.queue dst
  fresh : ∀ dst, ∀ skb ∈ s'.queue dst, skb ∈ s.queue dst ∨ s.nextPtr ≤ skb.ptr
  pending : s'.pending = s.pending
  nextPtr : s.nextPtr ≤ s'.nextPtr
  origs : ∀ h ∈ handovers, (∃ dst, h.orig ∈ s.queue dst) ∨ s.nextPtr ≤ h.orig.ptr

theorem Grows.refl (s : State) : Grows s s [] :=
  { kept := fun _ _ member => member
    fresh := fun _ _ member => Or.inl member
    pending := rfl
    nextPtr := Nat.le_refl _
    origs := List.forall_mem_nil _ }

theorem Grows.trans {s₁ s₂ s₃ : State} {first second : List Handover} (one : Grows s₁ s₂ first)
    (two : Grows s₂ s₃ second) : Grows s₁ s₃ (first ++ second) := by
  refine ⟨fun dst skb member => two.kept dst skb (one.kept dst skb member),
    fun dst skb member => ?_, two.pending.trans one.pending,
    Nat.le_trans one.nextPtr two.nextPtr, fun h member => ?_⟩
  · rcases two.fresh dst skb member with older | newer
    · exact one.fresh dst skb older
    · exact Or.inr (Nat.le_trans one.nextPtr newer)
  · rcases List.mem_append.mp member with early | late
    · exact one.origs h early
    · rcases two.origs h late with ⟨dst, queued⟩ | newer
      · rcases one.fresh dst _ queued with older | newer
        · exact Or.inl ⟨dst, older⟩
        · exact Or.inr newer
      · exact Or.inr (Nat.le_trans one.nextPtr newer)

section

variable (net : Net)

theorem meshPathMoveToQueue_grows (gate src : Addr) (s : State) :
    Grows s (meshPathMoveToQueue net gate src true s).1
      (meshPathMoveToQueue net gate src true s).2 := by
  unfold meshPathMoveToQueue
  split
  · exact Grows.refl s
  · next differ =>
      split
      · exact Grows.refl s
      · next nextHop _ =>
          have moved := moveFrames_moved net gate nextHop true (s.queue src) (s.setQueue src [])
          dsimp only
          rw [if_pos rfl]
          generalize moveFrames net gate nextHop true (s.queue src) (s.setQueue src []) = done
            at moved ⊢
          obtain ⟨left, origs⟩ := moved.copied rfl
          rw [left]
          have others : ∀ dst, dst ≠ gate →
              (done.1.setQueue src (s.queue src ++ done.1.queue src)).queue dst =
                s.queue dst := by
            intro dst differs
            by_cases same : dst = src
            · rw [same, setQueue_self, moved.others src (Ne.symm differ), setQueue_self,
                List.append_nil]
            · rw [setQueue_ne _ same, moved.others dst differs, setQueue_ne _ same]
          have gates : (done.1.setQueue src (s.queue src ++ done.1.queue src)).queue gate =
              s.queue gate ++ done.2.2.map Handover.copy := by
            rw [setQueue_ne _ differ, moved.queue, setQueue_ne _ differ]
          refine ⟨fun dst skb member => ?_, fun dst skb member => ?_, moved.pending,
            moved.nextPtr, fun h member => Or.inl ⟨src, origs h member⟩⟩
          · by_cases same : dst = gate
            · rw [same] at member ⊢
              rw [gates]
              exact List.mem_append_left _ member
            · rw [others dst same]
              exact member
          · by_cases same : dst = gate
            · rw [same] at member ⊢
              rw [gates] at member
              rcases List.mem_append.mp member with older | copied
              · exact Or.inl older
              · obtain ⟨h, handed, rfl⟩ := List.mem_map.mp copied
                exact Or.inr (moved.handed h handed).2.1
            · rw [others dst same] at member
              exact Or.inl member

theorem forwardToGates_grows (gates : List Addr) (src : Addr) (s : State) :
    Grows s (forwardToGates net gates src true s).1 (forwardToGates net gates src true s).2.1 := by
  induction gates generalizing src s with
  | nil => exact Grows.refl s
  | cons gate rest ih =>
    rw [forwardToGates]
    split
    · exact (meshPathMoveToQueue_grows net gate src s).trans (ih gate _)
    · exact ih src s

/-! ## Sending -/

/-- Frames have gone from the queues to the pending ones. -/
structure Drains (s s' : State) : Prop where
  held : ∀ dst skb, Held s dst skb → Held s' dst skb
  queue : ∀ dst, ∀ skb ∈ s'.queue dst, skb ∈ s.queue dst
  pending : ∀ skb ∈ s'.pending, skb ∈ s.pending ∨ ∃ dst, skb ∈ s.queue dst

theorem meshPathTxPending_drains (s : State) (dst : Addr) :
    Drains s (meshPathTxPending net s dst) := by
  unfold meshPathTxPending
  split
  · refine ⟨fun other skb held => ?_, fun other skb member => ?_, fun skb member => ?_⟩
    · rcases held with queued | sent
      · by_cases same : other = dst
        · rw [same] at queued
          exact Or.inr (List.mem_append_right _ queued)
        · refine Or.inl ?_
          change skb ∈ (s.setQueue dst []).queue other
          rw [setQueue_ne s same]
          exact queued
      · exact Or.inr (List.mem_append_left _ sent)
    · change skb ∈ (s.setQueue dst []).queue other at member
      by_cases same : other = dst
      · rw [same, setQueue_self] at member
        exact absurd member List.not_mem_nil
      · rw [setQueue_ne s same] at member
        exact member
    · rcases List.mem_append.mp member with before | queued
      · exact Or.inl before
      · exact Or.inr ⟨dst, queued⟩
  · exact ⟨fun _ _ held => held, fun _ _ member => member, fun _ member => Or.inl member⟩

theorem foldl_meshPathTxPending_drains (gates : List Addr) (s : State) :
    Drains s (gates.foldl (meshPathTxPending net) s) := by
  induction gates generalizing s with
  | nil => exact ⟨fun _ _ held => held, fun _ _ member => member, fun _ member => Or.inl member⟩
  | cons gate rest ih =>
    have one := meshPathTxPending_drains net s gate
    have more := ih (meshPathTxPending net s gate)
    refine ⟨fun dst skb held => more.held dst skb (one.held dst skb held),
      fun dst skb member => one.queue dst skb (more.queue dst skb member), fun skb member => ?_⟩
    rcases more.pending skb member with before | ⟨dst, queued⟩
    · exact one.pending skb before
    · exact Or.inr ⟨dst, one.queue dst skb queued⟩

/-! ## The first gate -/

theorem forwardToGates_inactive (gates : List Addr) (src : Addr) (copy : Bool) (s : State)
    (inactive : gates.find? (fun gate => (net.path gate).active) = none) :
    forwardToGates net gates src copy s = (s, [], src) := by
  induction gates with
  | nil => rfl
  | cons gate rest ih =>
    rw [List.find?_cons] at inactive
    rw [forwardToGates]
    split at inactive
    · exact absurd inactive (Option.some_ne_none _)
    · next off =>
        rw [if_neg (Bool.eq_false_iff.mp off)]
        exact ih inactive

/-- The frames are moved to the first active gate, and from there only copied. -/
theorem forwardToGates_first {gates : List Addr} (src gate : Addr) (copy : Bool) (s : State)
    (first : gates.find? (fun gate => (net.path gate).active) = some gate) :
    ∃ later, Grows (meshPathMoveToQueue net gate src copy s).1
        (forwardToGates net gates src copy s).1 later ∧
      (forwardToGates net gates src copy s).2.1 =
        (meshPathMoveToQueue net gate src copy s).2 ++ later := by
  induction gates with
  | nil => exact absurd first.symm (Option.some_ne_none _)
  | cons head rest ih =>
    rw [List.find?_cons] at first
    rw [forwardToGates]
    split at first
    · next on =>
        obtain rfl : head = gate := Option.some.inj first
        rw [if_pos on]
        exact ⟨_, forwardToGates_grows net rest head _, rfl⟩
    · next off =>
        rw [if_neg (Bool.eq_false_iff.mp off)]
        exact ih first

end

/-! ## No frame is lost where all fit -/

section

variable {net : Net} {gates : List Addr} {mpath gate nextHop : Addr} {s s₁ s₂ after : State}
  {done : State × List Skb × List Handover} {later : List Handover}

/-- Where nothing has been moved, every frame waits on its queue or is sent. -/
theorem lossless_of_grows (grows : Grows s s₂ later) (drains : Drains s₂ after)
    (handovers : List Handover) : Lossless net gates mpath s after handovers :=
  { frames := fun skb member =>
      Or.inl (drains.held mpath skb (Or.inl (grows.kept mpath skb member)))
    gates := fun gate _ skb member => drains.held gate skb (Or.inl (grows.kept gate skb member)) }

/-- Where all frames have been moved, each has reached the first gate. -/
theorem lossless_of_moved (member : gate ∈ gates) (active : (net.path gate).active)
    (hop : (net.path gate).nextHop = some nextHop)
    (moved : Moved net gate nextHop false (s.queue mpath) (s.setQueue mpath []) done)
    (all : done.2.2.map Handover.orig = s.queue mpath)
    (grows : Grows done.1 s₂ later) (drains : Drains s₂ after) :
    Lossless net gates mpath s after (done.2.2 ++ later) := by
  refine ⟨fun skb waiting => Or.inr ?_, fun other differ skb waiting => ?_⟩
  · rw [← all] at waiting
    obtain ⟨h, handed, rfl⟩ := List.mem_map.mp waiting
    obtain ⟨its, -, frame⟩ := moved.handed h handed
    have queued : h.copy ∈ done.1.queue gate := by
      rw [moved.queue]
      exact List.mem_append_right _ (List.mem_map_of_mem handed)
    have held := drains.held gate h.copy (Or.inl (grows.kept gate h.copy queued))
    refine ⟨h, List.mem_append_left _ handed, rfl, ?_, ?_, ?_, nextHop, ?_, ?_⟩
    · exact its ▸ member
    · exact its ▸ active
    · exact its ▸ held
    · exact its ▸ hop
    · rw [frame, its]
      exact prepareForGate_forwarded _ _ _ _
  · have before : skb ∈ (s.setQueue mpath []).queue other := by
      rw [setQueue_ne s differ]
      exact waiting
    refine drains.held other skb (Or.inl (grows.kept other skb ?_))
    by_cases same : other = gate
    · rw [same] at before ⊢
      rw [moved.queue]
      exact List.mem_append_left _ before
    · rw [moved.others other same]
      exact before

/-- A frame that the first gate has left is on no queue any more, and no copy of it is made. -/
theorem not_lossless_of_left (owned : Owned s)
    (moved : Moved net gate nextHop false (s.queue mpath) (s.setQueue mpath []) done)
    {lost : Skb} (left : lost ∈ done.2.1)
    (grows : Grows done.1 s₂ later) (drains : Drains s₂ after) :
    ¬ Lossless net gates mpath s after (done.2.2 ++ later) := by
  intro lossless
  have split := moved.moved rfl
  have waited : lost ∈ s.queue mpath := by
    rw [← split]
    exact List.mem_append_right _ left
  have old : lost.ptr < s.nextPtr := owned.old mpath lost waited
  have older : lost.ptr < done.1.nextPtr := Nat.lt_of_lt_of_le old moved.nextPtr
  have gone : ∀ dst, lost ∉ done.1.queue dst := by
    intro dst queued
    have before : lost ∈ (s.setQueue mpath []).queue dst := by
      by_cases same : dst = gate
      · rw [same, moved.queue] at queued
        rw [same]
        rcases List.mem_append.mp queued with there | copied
        · exact there
        · obtain ⟨h, handed, rfl⟩ := List.mem_map.mp copied
          exact absurd old (Nat.not_lt.mpr (moved.handed h handed).2.1)
      · rw [moved.others dst same] at queued
        exact queued
    by_cases same : dst = mpath
    · rw [same, setQueue_self] at before
      exact List.not_mem_nil before
    · rw [setQueue_ne s same] at before
      exact same (owned.apart dst mpath lost before waited)
  have gone₂ : ∀ dst, lost ∉ s₂.queue dst := by
    intro dst queued
    rcases grows.fresh dst lost queued with there | new
    · exact gone dst there
    · exact absurd older (Nat.not_lt.mpr new)
  rcases lossless.frames lost waited with held | ⟨h, handed, reached⟩
  · rcases held with queued | sent
    · exact gone₂ mpath (drains.queue mpath lost queued)
    · rcases drains.pending lost sent with pending | ⟨dst, queued⟩
      · rw [grows.pending, moved.pending] at pending
        exact owned.unsent mpath lost waited pending
      · exact gone₂ dst queued
  · rcases List.mem_append.mp handed with early | late
    · have nodup := owned.nodup mpath
      rw [← split] at nodup
      refine (List.nodup_append.mp nodup).2.2 lost ?_ lost left rfl
      rw [← reached.orig]
      exact List.mem_map_of_mem early
    · have known := grows.origs h late
      rw [reached.orig] at known
      rcases known with ⟨dst, queued⟩ | new
      · exact gone dst queued
      · exact absurd older (Nat.not_lt.mpr new)

end

theorem meshPathMoveToQueue_move {net : Net} {gate nextHop src : Addr} (differ : gate ≠ src)
    (hop : (net.path gate).nextHop = some nextHop) (s : State) :
    meshPathMoveToQueue net gate src false s =
      ((moveFrames net gate nextHop false (s.queue src) (s.setQueue src [])).1,
        (moveFrames net gate nextHop false (s.queue src) (s.setQueue src [])).2.2) := by
  simp [meshPathMoveToQueue, differ, hop]

theorem meshPathMoveToQueue_none {net : Net} {gate src : Addr} {copy : Bool}
    (hop : (net.path gate).nextHop = none) (s : State) :
    meshPathMoveToQueue net gate src copy s = (s, []) := by
  simp [meshPathMoveToQueue, hop]

/-- No frame is lost exactly when the first active gate takes all of them. -/
theorem lossless_iff (net : Net) (gates : List Addr) (mpath : Addr) {s : State}
    (owned : Owned s) :
    Lossless net gates mpath s (meshPathSendToGates net gates mpath s).1
        (meshPathSendToGates net gates mpath s).2.1 ↔
      Fits net gates mpath s := by
  have drains := foldl_meshPathTxPending_drains net gates
    (forwardToGates net gates mpath false s).1
  change Lossless net gates mpath s
    (gates.foldl (meshPathTxPending net) (forwardToGates net gates mpath false s).1)
    (forwardToGates net gates mpath false s).2.1 ↔ _
  cases first : gates.find? (fun gate => (net.path gate).active) with
  | none =>
    rw [forwardToGates_inactive net gates mpath false s first] at drains ⊢
    refine iff_of_true (lossless_of_grows (Grows.refl s) drains _) ?_
    intro gate nextHop found
    exact absurd (first.symm.trans found) (Option.some_ne_none gate).symm
  | some gate =>
    obtain ⟨later, grows, handovers⟩ := forwardToGates_first net mpath gate false s first
    have found : ∀ other, gates.find? (fun gate => (net.path gate).active) = some other →
        other = gate := fun other found => Option.some.inj (found.symm.trans first)
    by_cases same : gate = mpath
    · have unmoved : meshPathMoveToQueue net gate mpath false s = (s, []) := if_pos same
      rw [unmoved] at grows
      refine iff_of_true (lossless_of_grows grows drains _) ?_
      intro other nextHop its differ
      exact absurd ((found other its).trans same) differ
    · cases hop : (net.path gate).nextHop with
      | none =>
        rw [meshPathMoveToQueue_none hop] at grows
        refine iff_of_true (lossless_of_grows grows drains _) ?_
        intro other nextHop its _ known
        rw [found other its, hop] at known
        exact absurd known.symm (Option.some_ne_none nextHop)
      | some nextHop =>
        rw [meshPathMoveToQueue_move same hop] at grows handovers
        have moved := moveFrames_moved net gate nextHop false (s.queue mpath)
          (s.setQueue mpath [])
        have fits : (moveFrames net gate nextHop false (s.queue mpath)
            (s.setQueue mpath [])).2.2.map Handover.orig = s.queue mpath ↔
            Fits net gates mpath s := by
          rw [moveFrames_all_iff, setQueue_ne s same]
          refine ⟨fun fit other hop' its _ known => ?_, fun fit =>
            fit gate nextHop first same hop⟩
          rw [found other its]
          exact fit
        rw [← fits, handovers]
        refine ⟨fun lossless => ?_, fun all => ?_⟩
        · have split := moved.moved rfl
          cases left : (moveFrames net gate nextHop false (s.queue mpath)
              (s.setQueue mpath [])).2.1 with
          | nil =>
            rw [left, List.append_nil] at split
            exact split
          | cons lost rest =>
            have there : lost ∈ (moveFrames net gate nextHop false (s.queue mpath)
                (s.setQueue mpath [])).2.1 := by
              rw [left]
              exact List.mem_cons_self
            exact absurd lossless (not_lossless_of_left owned moved there grows drains)
        · have active : (net.path gate).active :=
            List.find?_some (p := fun gate => (net.path gate).active) first
          exact lossless_of_moved (List.mem_of_find?_eq_some first) active hop moved all
            grows drains

/-! A failed path with destination 1 and a gate 2, on whose queue there are `k` frames. -/

def frameTo (dst : Addr) : Frame :=
  { addr1 := 0, addr2 := 9, addr3 := dst, addr4 := 9, flags := 0, ttl := 31, seqnum := 0,
    eaddrs := [], body := [] }

def oneGate : Net :=
  { vifAddr := 9
    path := fun dst => if dst = 2 then ⟨true, some 3⟩ else ⟨false, none⟩
    skbCopy := fun _ => true }

def waiting (k : Nat) : State :=
  { queue := fun dst =>
      if dst = 1 then [⟨100, frameTo 1⟩, ⟨101, frameTo 1⟩]
      else if dst = 2 then (List.range k).map (fun ptr => ⟨ptr, frameTo 2⟩)
      else []
    nextPtr := 200 }

theorem waiting_queue {k : Nat} {dst : Addr} {skb : Skb} (member : skb ∈ (waiting k).queue dst) :
    dst = 1 ∧ (skb.ptr = 100 ∨ skb.ptr = 101) ∨ dst = 2 ∧ skb.ptr < k := by
  simp only [waiting] at member
  split at member
  · next failed =>
      refine Or.inl ⟨failed, ?_⟩
      rcases List.mem_cons.mp member with rfl | second
      · exact Or.inl rfl
      · exact Or.inr (congrArg Skb.ptr (List.mem_singleton.mp second))
  · split at member
    · next gate =>
        obtain ⟨ptr, below, rfl⟩ := List.mem_map.mp member
        exact Or.inr ⟨gate, List.mem_range.mp below⟩
    · exact absurd member List.not_mem_nil

theorem owned_waiting {k : Nat} (few : k ≤ 100) : Owned (waiting k) := by
  refine ⟨fun dst => ?_, fun dst dst' skb one other => ?_, fun _ _ _ => List.not_mem_nil,
    fun dst skb member => ?_⟩
  · simp only [waiting]
    split
    · decide
    · split
      · exact List.Nodup.map (fun _ _ same => congrArg Skb.ptr same) List.nodup_range
      · exact List.nodup_nil
  · rcases waiting_queue one with ⟨first, ptr⟩ | ⟨first, ptr⟩ <;>
      rcases waiting_queue other with ⟨second, ptr'⟩ | ⟨second, ptr'⟩
    · exact first.trans second.symm
    · omega
    · omega
    · exact first.trans second.symm
  · change skb.ptr < 200
    rcases waiting_queue member with ⟨-, ptr⟩ | ⟨-, ptr⟩ <;> omega

theorem lossless_empty_gate :
    Lossless oneGate [2] 1 (waiting 0) (meshPathSendToGates oneGate [2] 1 (waiting 0)).1
      (meshPathSendToGates oneGate [2] 1 (waiting 0)).2.1 := by
  refine (lossless_iff oneGate [2] 1 (owned_waiting (Nat.zero_le _))).mpr ?_
  intro gate nextHop first other hop k below
  obtain rfl : 2 = gate := Option.some.inj first
  have few : k < 2 := below
  exact ⟨Nat.lt_of_le_of_lt (Nat.le_of_eq (Nat.zero_add k)) (Nat.lt_trans few (by decide)), rfl⟩

/-- The gate has room for one of two frames; the other is lost. -/
theorem not_lossless :
    Owned (waiting 9) ∧
      ¬ Lossless oneGate [2] 1 (waiting 9) (meshPathSendToGates oneGate [2] 1 (waiting 9)).1
        (meshPathSendToGates oneGate [2] 1 (waiting 9)).2.1 := by
  refine ⟨owned_waiting (by decide), fun lossless => ?_⟩
  rcases lossless.frames ⟨101, frameTo 1⟩ (by decide) with held | ⟨h, handed, reached⟩
  · rcases held with queued | sent
    · exact absurd queued (by decide)
    · exact absurd sent (by decide)
  · have others : ∀ h ∈ (meshPathSendToGates oneGate [2] 1 (waiting 9)).2.1,
        h.orig ≠ ⟨101, frameTo 1⟩ := by decide
    exact others h handed reached.orig

end Iwlwifi.MeshGates
