import Iwlwifi.Pcie.EnqueueHcmd

/-!
# A failed enqueue

A host command that is refused should leave the queue as it was: the pointers, and the
descriptors and entries of all outstanding commands; and no entry should own a buffer that
was freed.  The first generation hands the duplicate over to the entry before it wakes the
device, and frees it when that fails; the second clears the descriptor of the write pointer
before it looks at the space, which in a full window is the one of the oldest command.
-/

namespace Iwlwifi

open Function (update update_of_ne update_self)

open Lib

variable {z : QueueSizes} {q : CmdQueue} {cmd : IwlHostCmd} {env : HcmdEnv}

/-- The used positions of the ring. -/
def CmdQueue.used (z : QueueSizes) (q : CmdQueue) : Nat :=
  ringDist z.maxTfdQueueSize q.readPtr q.writePtr

/-- The descriptor of a position. -/
def tfdSlot (z : QueueSizes) (gen2 : Bool) (position : Nat) : Nat :=
  if gen2 then position % z.nWindow else position % z.maxTfdQueueSize

/-- No entry owns a buffer that was freed. -/
def BufsLive (z : QueueSizes) (q : CmdQueue) : Prop :=
  ∀ slot < z.nWindow, ∀ id, (q.entries slot).freeBuf = some (.buf id) → id ∉ q.freed

/-- A well-formed command queue: the pointers lie on the ring with at most a window between
them, and the entries own different buffers that were allocated and not freed. -/
structure CmdQueue.Wf (z : QueueSizes) (q : CmdQueue) : Prop where
  used_le : q.used z ≤ z.nWindow
  write_lt : q.writePtr < z.maxTfdQueueSize
  live : BufsLive z q
  allocated : ∀ slot < z.nWindow, ∀ id, (q.entries slot).freeBuf = some (.buf id) →
    id < q.allocated
  apart : ∀ slot < z.nWindow, ∀ slot' < z.nWindow, ∀ id,
    (q.entries slot).freeBuf = some (.buf id) → (q.entries slot').freeBuf = some (.buf id) →
      slot = slot'
  freed_lt : ∀ id ∈ q.freed, id < q.allocated

/-- The pointers, and the descriptors and entries of the outstanding commands, are those of
before. -/
structure Untouched (z : QueueSizes) (gen2 : Bool) (q q' : CmdQueue) : Prop where
  readPtr : q'.readPtr = q.readPtr
  writePtr : q'.writePtr = q.writePtr
  tfds : ∀ i < q.used z, q'.tfds (tfdSlot z gen2 (q.readPtr + i)) =
    q.tfds (tfdSlot z gen2 (q.readPtr + i))
  entries : ∀ i < q.used z, q'.entries ((q.readPtr + i) % z.nWindow) =
    q.entries ((q.readPtr + i) % z.nWindow)

/-- When the enqueue fails, the queue is untouched and no entry owns a freed buffer. -/
def FailsClean (z : QueueSizes) (gen2 : Bool) (q : CmdQueue) (result : Int × CmdQueue) : Prop :=
  result.1 < 0 → Untouched z gen2 q result.2 ∧ BufsLive z result.2

/-- All mappings of the command succeed. -/
def Mapped (env : HcmdEnv) (hdrSize tb0Size : Nat) (cmd : IwlHostCmd) : Prop :=
  (tb0Size < copiedSize hdrSize cmd → env.mapFirst.isSome) ∧
    (cmd.first.plain = false → 0 < restAfter hdrSize cmd.first → (env.mapChunk 0).isSome) ∧
    (cmd.second.plain = false → 0 < restAfter (sizeAfter hdrSize cmd.first) cmd.second →
      (env.mapChunk 1).isSome)

/-- The device is gone, or it has to be woken and does not wake. -/
def WakeFails (env : HcmdEnv) (q : CmdQueue) : Prop :=
  env.transDead ∨ (env.apmgWakeUpWa ∧ ¬q.cmdHoldNicAwake ∧ ¬env.wakes)

/-- The first generation gets as far as waking the device, with a duplicate, and fails. -/
def LeavesFreedBuf (z : QueueSizes) (env : HcmdEnv) (q : CmdQueue) (cmd : IwlHostCmd) : Prop :=
  (env.wideCmdHeader ∨ iwlCmdGroupid cmd.id ≤ iwlAlwaysLongGroup) ∧
    Scanned env.memory (hdrSizeOf cmd) cmd ∧
    copiedSize (hdrSizeOf cmd) cmd ≤ tfdMaxPayloadSize ∧ noSpace z q cmd = false ∧
    Mapped env (hdrSizeOf cmd) (min (min (copiedSize (hdrSizeOf cmd) cmd) iwlFirstTbSize)
      cmdHeaderSize) cmd ∧
    WakeFails env q ∧ HasDupBuf (hdrSizeOf cmd) cmd

/-- The second generation gets as far as looking at the space, of a full window whose oldest
command has a descriptor. -/
def ClearsOldest (z : QueueSizes) (env : HcmdEnv) (q : CmdQueue) (cmd : IwlHostCmd) : Prop :=
  Scanned env.memory cmdHeaderWideSize cmd ∧
    copiedSize cmdHeaderWideSize cmd ≤ tfdMaxPayloadSize ∧ q.used z = z.nWindow ∧
    q.tfds (q.readPtr % z.nWindow) ≠ []

/-! ## Outstanding commands -/

theorem CmdQueue.write_mod (z : QueueSizes) (q : CmdQueue) :
    (q.readPtr + q.used z) % z.nWindow = q.writePtr % z.nWindow := by
  have arrives := add_ringDist z.maxTfdQueueSize_pos q.readPtr q.writePtr
  rw [CmdQueue.used, ← z.mod_mod, arrives, z.mod_mod]

/-- With space left, the entry of the write pointer is that of no outstanding command. -/
theorem entry_ne {i : Nat} (room : q.used z < z.nWindow) (before : i < q.used z) :
    (q.readPtr + i) % z.nWindow ≠ q.writePtr % z.nWindow := by
  intro same
  rw [← q.write_mod z] at same
  have := eq_of_add_mod (Nat.lt_trans before room) room same
  omega

theorem tfdSlot_ne {i : Nat} (wf : q.Wf z) (before : i < q.used z) :
    tfdSlot z false (q.readPtr + i) ≠ q.writePtr := by
  intro same
  have room := ringDist_lt (a := q.readPtr) (b := q.writePtr) z.maxTfdQueueSize_pos
  have arrives := add_ringDist z.maxTfdQueueSize_pos q.readPtr q.writePtr
  rw [Nat.mod_eq_of_lt wf.write_lt] at arrives
  unfold CmdQueue.used at before
  have := eq_of_add_mod (Nat.lt_trans before room) room (same.trans arrives.symm)
  omega

theorem used_lt_of_space (space : noSpace z q cmd = false) : q.used z < z.nWindow := by
  unfold noSpace at space
  rw [decide_eq_false_iff_not] at space
  exact count_of_space_pos z (by split at space <;> omega)

/-! ## Buffers of a failed enqueue -/

/-- Only the entry and the descriptor of the write pointer were written, and the entry still
owns the buffer that it owned. -/
structure Filled (z : QueueSizes) (slot : Nat) (q q' : CmdQueue) : Prop where
  readPtr : q'.readPtr = q.readPtr
  writePtr : q'.writePtr = q.writePtr
  entries : ∀ i, i ≠ q.writePtr % z.nWindow → q'.entries i = q.entries i
  freeBuf : ∀ i, (q'.entries i).freeBuf = (q.entries i).freeBuf
  tfds : ∀ i, i ≠ slot → q'.tfds i = q.tfds i
  freed : q'.freed = q.freed

variable {q' : CmdQueue} {slot : Nat} {dupBuf : Option DupBuf} {gen2 : Bool}

/-- The entry that a command is written to keeps its buffer, and its descriptor is set. -/
theorem filled_write (wide : Bool) (cmdQueue cmdSize : Nat) (payload : List UInt8)
    (bufs : Nat → List UInt8) (tbs : List Tb) :
    Filled z slot q
      { q.duplicated dupBuf with
        entries := update q.entries (q.writePtr % z.nWindow)
          (writeEntry cmd wide cmdQueue cmdSize q.writePtr payload
            (q.entries (q.writePtr % z.nWindow)).freeBuf)
        firstTbBufs := bufs
        tfds := update q.tfds slot tbs } := by
  refine ⟨rfl, rfl, fun _ other => update_of_ne other _ _, fun i => ?_,
    fun _ other => update_of_ne other _ _, rfl⟩
  by_cases here : i = q.writePtr % z.nWindow
  · subst here
    dsimp only
    rw [update_self]
    rfl
  · dsimp only
    rw [update_of_ne here]

theorem Filled.untouched (filled : Filled z slot q q') (room : q.used z < z.nWindow)
    (apart : ∀ i < q.used z, tfdSlot z gen2 (q.readPtr + i) ≠ slot) :
    Untouched z gen2 q (q'.kfree dupBuf) where
  readPtr := filled.readPtr
  writePtr := filled.writePtr
  tfds i before := filled.tfds _ (apart i before)
  entries _ before := filled.entries _ (entry_ne room before)

theorem Filled.untouched_takeDupBuf (filled : Filled z slot q q') (cmd : IwlHostCmd)
    (dupBuf : Option DupBuf) (room : q.used z < z.nWindow)
    (apart : ∀ i < q.used z, tfdSlot z gen2 (q.readPtr + i) ≠ slot) :
    Untouched z gen2 q
      ((takeDupBuf q' (q.writePtr % z.nWindow) cmd dupBuf).kfree dupBuf) where
  readPtr := filled.readPtr
  writePtr := filled.writePtr
  tfds i before := filled.tfds _ (apart i before)
  entries _ before := by
    have other := entry_ne room before
    exact (update_of_ne other _ _).trans (filled.entries _ other)

/-- Freeing the duplicate that no entry owns leaves the buffers of the entries alone. -/
theorem bufsLive_kfree (wf : q.Wf z) (own : ∀ id, dupBuf = some (.buf id) → id = q.allocated)
    (entries : ∀ i, (q'.entries i).freeBuf = (q.entries i).freeBuf)
    (freed : q'.freed = q.freed) : BufsLive z (q'.kfree dupBuf) := by
  intro slot inside id held gone
  rw [CmdQueue.kfree] at held gone
  dsimp only at held gone
  rw [entries] at held
  rw [freed, List.mem_append, mem_bufIds] at gone
  rcases gone with same | gone
  · have fresh := own id same
    have := wf.allocated slot inside id held
    omega
  · exact wf.live slot inside id held gone

/-- An entry that owns the duplicate must not see it freed. -/
theorem Filled.bufsLive_takeDupBuf (filled : Filled z slot q q') (cmd : IwlHostCmd)
    (dupBuf : Option DupBuf) (wf : q.Wf z) :
    BufsLive z ((takeDupBuf q' (q.writePtr % z.nWindow) cmd dupBuf).kfree dupBuf) ↔
      ∀ id, dupBuf ≠ some (.buf id) := by
  have inside := Nat.mod_lt q.writePtr z.nWindow_pos
  generalize q.writePtr % z.nWindow = idx at *
  constructor
  · intro live id own
    refine live idx inside id ?_ (List.mem_append_left _ (mem_bufIds.mpr own))
    simp [takeDupBuf, CmdQueue.kfree, own]
  · intro notBuf slot within id held gone
    rw [CmdQueue.kfree, takeDupBuf, CmdQueue.kfree] at held gone
    dsimp only at held gone
    rw [List.mem_append, List.mem_append, mem_bufIds, mem_bufIds, filled.freed,
      filled.freeBuf] at gone
    by_cases here : slot = idx
    · subst here
      rw [update_self] at held
      exact notBuf id held
    · rw [update_of_ne here, filled.freeBuf] at held
      rcases gone with same | other | gone
      · exact notBuf id same
      · exact here (wf.apart slot within idx inside id held other)
      · exact wf.live slot within id held gone

/-! ## Mappings -/

theorem mapChunks_cons_isSome (env : HcmdEnv) (i len : Nat) (c : HcmdChunk)
    (rest : List (HcmdChunk × Nat)) :
    (mapChunks env i ((c, len) :: rest)).isSome = true ↔
      (c.plain = false → 0 < len → (env.mapChunk i).isSome = true) ∧
        (mapChunks env (i + 1) rest).isSome = true := by
  rw [mapChunks]
  split
  · rename_i skipped
    refine (and_iff_right fun mapped long => ?_).symm
    rcases skipped with none | plain
    · omega
    · rw [plain] at mapped
      cases mapped
  · rename_i goOn
    rw [not_or, Bool.not_eq_true] at goOn
    simp only [goOn.2, Nat.pos_of_ne_zero goOn.1, true_imp_iff]
    cases env.mapChunk i with
    | none => simp
    | some addr => cases mapChunks env (i + 1) rest <;> simp

theorem mapTbs_isSome {idx tb0Size hdrSize : Nat} {cmdlen : List Nat}
    (lens : cmdlen = [restAfter hdrSize cmd.first,
      restAfter (sizeAfter hdrSize cmd.first) cmd.second]) :
    (mapTbs env idx tb0Size (copiedSize hdrSize cmd) (cmd.chunks.zip cmdlen)).isSome = true ↔
      Mapped env hdrSize tb0Size cmd := by
  have chunks := mapChunks_cons_isSome env 0 (restAfter hdrSize cmd.first) cmd.first
    [(cmd.second, restAfter (sizeAfter hdrSize cmd.first) cmd.second)]
  have last : (mapChunks env 2 []).isSome = true := rfl
  rw [Nat.zero_add, mapChunks_cons_isSome env 1, and_iff_left last] at chunks
  subst lens
  unfold mapTbs Mapped IwlHostCmd.chunks
  rw [List.zip_cons_cons, List.zip_cons_cons, List.zip_nil_right, ← chunks]
  generalize mapChunks env 0 _ = rest
  split
  · rename_i more
    cases env.mapFirst <;> cases rest <;> simp [more]
  · rename_i whole
    cases rest <;> simp [whole]

/-! ## The two generations -/

/-- An exit at which nothing but the duplicate was allocated and freed. -/
theorem failsClean_early {ret : Int} {gen2 : Bool} {dupBuf : Option DupBuf} (wf : q.Wf z)
    (own : ∀ id, dupBuf = some (.buf id) → id = q.allocated) :
    FailsClean z gen2 q (ret, (q.duplicated dupBuf).kfree dupBuf) := by
  intro _
  exact ⟨⟨rfl, rfl, fun _ _ => rfl, fun _ _ => rfl⟩,
    bufsLive_kfree wf own (fun _ => rfl) rfl⟩

theorem iwlPcieSetCmdInFlight_error {ret : Int}
    (failed : iwlPcieSetCmdInFlight env q.cmdHoldNicAwake = .error ret) :
    ret < 0 ∧ WakeFails env q := by
  unfold iwlPcieSetCmdInFlight at failed
  unfold WakeFails
  grind

theorem iwlPcieSetCmdInFlight_ok {awake : Bool}
    (woken : iwlPcieSetCmdInFlight env q.cmdHoldNicAwake = .ok awake) : ¬WakeFails env q := by
  unfold iwlPcieSetCmdInFlight at woken
  unfold WakeFails
  grind

/-- The first generation fails cleanly unless it frees the duplicate that the entry owns. -/
theorem iwlPcieEnqueueHcmd_failsClean (wf : q.Wf z) (cmdQueue : Nat) (env : HcmdEnv)
    (cmd : IwlHostCmd) :
    FailsClean z false q (iwlPcieEnqueueHcmd z cmdQueue env q cmd) ↔
      ¬LeavesFreedBuf z env q cmd := by
  unfold iwlPcieEnqueueHcmd
  dsimp only
  split
  · rename_i unsupported
    refine iff_of_true (fun _ => ⟨⟨rfl, rfl, fun _ _ => rfl, fun _ _ => rfl⟩, wf.live⟩) ?_
    rintro ⟨supported, -⟩
    rw [Bool.and_eq_true, Bool.not_eq_true', decide_eq_true_eq] at unsupported
    rcases supported with wide | short
    · rw [unsupported.1] at wide
      cases wide
    · omega
  · rename_i supported
    rw [Bool.and_eq_true, Bool.not_eq_true', decide_eq_true_eq, not_and] at supported
    replace supported : env.wideCmdHeader = true ∨
        iwlCmdGroupid cmd.id ≤ iwlAlwaysLongGroup := by
      cases wide : env.wideCmdHeader with
      | true => exact .inl rfl
      | false => exact .inr (Nat.not_lt.mp (supported wide))
    have outcome := scanChunks_outcome env q (hdrSizeOf cmd) cmd
    generalize scanChunks _ _ _ = scanned at outcome ⊢
    cases outcome with
    | failed ret dupBuf negative own reason =>
      exact iff_of_true (failsClean_early wf own) fun leaves => reason leaves.2.1
    | passed scan scanned own size cmdlen cmddata =>
      have fresh : ∀ id, scan.dupBuf = some (.buf id) → id = q.allocated :=
        fun id held => ((own id).mp held).2
      dsimp only
      split
      · rename_i large
        refine iff_of_true (failsClean_early wf fresh) fun leaves => ?_
        have := leaves.2.2.1
        omega
      · rename_i fits
        rw [size, Nat.not_lt] at fits
        split
        · rename_i full
          change noSpace z q cmd = true at full
          refine iff_of_true (failsClean_early wf fresh) fun leaves => ?_
          rw [leaves.2.2.2.1] at full
          cases full
        · rename_i space
          change ¬noSpace z q cmd = true at space
          rw [Bool.not_eq_true] at space
          have room := used_lt_of_space space
          have apart : ∀ i < q.used z, tfdSlot z false (q.readPtr + i) ≠ q.writePtr :=
            fun i before => tfdSlot_ne wf before
          have mapped := @mapTbs_isSome cmd env (q.writePtr % z.nWindow)
            (min (min (copiedSize (hdrSizeOf cmd) cmd) iwlFirstTbSize) cmdHeaderSize) _ _ cmdlen
          have copied : (copyChunks cmd.chunks (hdrSizeOf cmd) (hdrSizeOf cmd)).2 =
              copiedSize (hdrSizeOf cmd) cmd := copyChunks_snd _ _ _
          simp only [copied, iwlPcieGetCmdIndex_eq]
          have filled := fun bufs tbs => @filled_write z q cmd q.writePtr scan.dupBuf
            (decide (iwlCmdGroupid cmd.id ≠ 0)) cmdQueue scan.cmdSize
            (copyChunks cmd.chunks (hdrSizeOf cmd) (hdrSizeOf cmd)).1 bufs tbs
          split
          · rename_i absent
            refine iff_of_true (fun _ => ?_) fun leaves => ?_
            · exact ⟨(filled _ []).untouched room apart,
                bufsLive_kfree wf fresh (filled _ []).freeBuf (filled _ []).freed⟩
            · have placed := mapped.mpr leaves.2.2.2.2.1
              exact absurd ((congrArg Option.isSome absent).symm.trans placed) Bool.false_ne_true
          · rename_i tbs placed
            split
            · rename_i ret failed
              have flight : iwlPcieSetCmdInFlight env q.cmdHoldNicAwake = .error ret := failed
              have live := fun bufs => (filled bufs tbs).bufsLive_takeDupBuf cmd scan.dupBuf wf
              obtain ⟨negative, wake⟩ := iwlPcieSetCmdInFlight_error flight
              constructor
              · intro clean leaves
                have held := (own q.allocated).mpr ⟨leaves.2.2.2.2.2.2, rfl⟩
                exact (live _).mp (clean negative).2 _ held
              · intro stays _
                refine ⟨(filled _ tbs).untouched_takeDupBuf cmd scan.dupBuf room apart,
                  (live _).mpr fun id held => stays ?_⟩
                exact ⟨supported, scanned, fits, space,
                  mapped.mp (congrArg Option.isSome placed), wake, ((own id).mp held).1⟩
            · rename_i cmdHoldNicAwake carried
              have flight : iwlPcieSetCmdInFlight env q.cmdHoldNicAwake =
                  .ok cmdHoldNicAwake := carried
              refine iff_of_true (fun negative => ?_) fun leaves => ?_
              · dsimp only at negative
                omega
              · exact iwlPcieSetCmdInFlight_ok flight leaves.2.2.2.2.2.1

/-- Clearing the descriptor of the write pointer touches no other command, unless the window
is full and its oldest command has a descriptor. -/
theorem untouched_clear_iff (wf : q.Wf z) :
    Untouched z true q
        (CmdQueue.kfree { q.duplicated dupBuf with
          tfds := update q.tfds (q.writePtr % z.nWindow) [] } dupBuf) ↔
      (q.used z = z.nWindow → q.tfds (q.readPtr % z.nWindow) = []) := by
  constructor
  · intro untouched full
    have same := untouched.tfds 0 (by rw [full]; exact z.nWindow_pos)
    have oldest : q.readPtr % z.nWindow = q.writePtr % z.nWindow := by
      rw [← q.write_mod z, full, Nat.add_mod_right]
    rw [Nat.add_zero, tfdSlot, if_pos rfl, oldest] at same
    rw [oldest, ← same]
    exact update_self _ _ _
  · intro empty
    refine ⟨rfl, rfl, fun i before => ?_, fun _ _ => rfl⟩
    change update q.tfds _ [] ((q.readPtr + i) % z.nWindow) =
      q.tfds ((q.readPtr + i) % z.nWindow)
    by_cases room : q.used z < z.nWindow
    · exact update_of_ne (entry_ne room before) _ _
    · have full : q.used z = z.nWindow := Nat.le_antisymm wf.used_le (Nat.not_lt.mp room)
      have oldest : q.readPtr % z.nWindow = q.writePtr % z.nWindow := by
        rw [← q.write_mod z, full, Nat.add_mod_right]
      rw [← oldest]
      by_cases here : (q.readPtr + i) % z.nWindow = q.readPtr % z.nWindow
      · rw [here, update_self, empty full]
      · exact update_of_ne here _ _

/-- The second generation fails cleanly unless it clears the oldest descriptor. -/
theorem iwlPcieGen2EnqueueHcmd_failsClean (wf : q.Wf z) (cmdQueue : Nat) (env : HcmdEnv)
    (cmd : IwlHostCmd) :
    FailsClean z true q (iwlPcieGen2EnqueueHcmd z cmdQueue env q cmd) ↔
      ¬ClearsOldest z env q cmd := by
  unfold iwlPcieGen2EnqueueHcmd
  dsimp only
  have outcome := scanChunks_outcome env q cmdHeaderWideSize cmd
  generalize scanChunks _ _ _ = scanned at outcome ⊢
  cases outcome with
  | failed ret dupBuf negative own reason =>
    exact iff_of_true (failsClean_early wf own) fun clears => reason clears.1
  | passed scan scanned own size cmdlen cmddata =>
    have fresh : ∀ id, scan.dupBuf = some (.buf id) → id = q.allocated :=
      fun id held => ((own id).mp held).2
    dsimp only
    rw [iwlPcieGetCmdIndex_eq]
    split
    · rename_i large
      refine iff_of_true (failsClean_early wf fresh) fun clears => ?_
      have := clears.2.1
      omega
    · rename_i fits
      rw [size, Nat.not_lt] at fits
      split
      · have untouched := @untouched_clear_iff z q scan.dupBuf wf
        have live : BufsLive z (CmdQueue.kfree { q.duplicated scan.dupBuf with
            tfds := update q.tfds (q.writePtr % z.nWindow) [] } scan.dupBuf) :=
          bufsLive_kfree wf fresh (fun _ => rfl) rfl
        constructor
        · intro clean clears
          exact clears.2.2.2
            (untouched.mp (clean (show (-28 : Int) < 0 by decide)).1 clears.2.2.1)
        · intro stays _
          refine ⟨untouched.mpr fun full => ?_, live⟩
          by_contra some
          exact stays ⟨scanned, fits, full, some⟩
      · rename_i space
        change ¬noSpace z q cmd = true at space
        rw [Bool.not_eq_true] at space
        have room := used_lt_of_space space
        have notFull : ¬ClearsOldest z env q cmd := fun clears => by
          have := clears.2.2.1
          omega
        refine iff_of_true ?_ notFull
        have filled := fun bufs => @filled_write z q cmd (q.writePtr % z.nWindow) scan.dupBuf
          true cmdQueue scan.cmdSize
          (copyChunks cmd.chunks cmdHeaderWideSize cmdHeaderWideSize).1 bufs []
        split
        · intro _
          exact ⟨(filled _).untouched room fun i before => entry_ne room before,
            bufsLive_kfree wf fresh (filled _).freeBuf (filled _).freed⟩
        · intro negative
          dsimp only at negative
          omega

/-- A failed enqueue leaves the queue as it was, in the first generation exactly when it does
not fail to wake the device for a command with a duplicate, in the second exactly when it
does not find a full window. -/
theorem enqueueHcmd_failsClean_iff (z : QueueSizes) (cmdQueue : Nat) (env : HcmdEnv)
    (q : CmdQueue) (wf : q.Wf z) (cmd : IwlHostCmd) :
    (FailsClean z false q (iwlPcieEnqueueHcmd z cmdQueue env q cmd) ↔
        ¬LeavesFreedBuf z env q cmd) ∧
      (FailsClean z true q (iwlPcieGen2EnqueueHcmd z cmdQueue env q cmd) ↔
        ¬ClearsOldest z env q cmd) :=
  ⟨iwlPcieEnqueueHcmd_failsClean wf cmdQueue env cmd,
    iwlPcieGen2EnqueueHcmd_failsClean wf cmdQueue env cmd⟩

/-- A command queue of 32 entries over 256 descriptors. -/
def cmdQueueSizes : QueueSizes := .ofLog 5 8 (by decide)

def emptyEntry : CmdEntry :=
  ⟨⟨false, 0, 0, 0, 0, 0⟩, [], false, false, false, none⟩

/-- A queue with so many outstanding commands, each of one transfer buffer. -/
def outstandingQueue (used : Nat) : CmdQueue where
  readPtr := 0
  writePtr := used
  entries := fun _ => emptyEntry
  tfds := fun position => if position < used then [⟨0, 20⟩] else []
  firstTbBufs := fun _ => []
  allocated := 0
  freed := []
  cmdHoldNicAwake := false

theorem outstandingQueue_wf {used : Nat} (le : used ≤ 32) :
    (outstandingQueue used).Wf cmdQueueSizes := by
  have size : cmdQueueSizes.maxTfdQueueSize = 256 := rfl
  have distance : (outstandingQueue used).used cmdQueueSizes = used :=
    ringDist_eq (by rw [size]; omega) (by rw [size]; simp [outstandingQueue])
  refine ⟨?_, ?_, nofun, nofun, nofun, nofun⟩
  · rw [distance]
    exact le
  · rw [size]
    exact Nat.lt_of_le_of_lt le (by decide)

/-- A device that is gone, with memory to spare. -/
def deadEnv : HcmdEnv where
  wideCmdHeader := true
  memory := true
  firstTbDma := fun idx => idx
  mapFirst := some 1000
  mapChunk := fun i => some (2000 + i)
  transDead := true
  apmgWakeUpWa := false
  wakes := true

/-- A synchronous command of 40 bytes that are duplicated. -/
def dupCommand : IwlHostCmd where
  id := 0x0128
  first := ⟨List.replicate 40 7, false, true⟩
  second := ⟨[], false, false⟩
  async := false
  wantSkb := false
  asyncCallback := false

theorem enqueueHcmd_failsClean_iff_dead :
    (FailsClean cmdQueueSizes false (outstandingQueue 3)
        (iwlPcieEnqueueHcmd cmdQueueSizes 0 deadEnv (outstandingQueue 3) dupCommand) ↔
        ¬LeavesFreedBuf cmdQueueSizes deadEnv (outstandingQueue 3) dupCommand) ∧
      (FailsClean cmdQueueSizes true (outstandingQueue 3)
        (iwlPcieGen2EnqueueHcmd cmdQueueSizes 0 deadEnv (outstandingQueue 3) dupCommand) ↔
        ¬ClearsOldest cmdQueueSizes deadEnv (outstandingQueue 3) dupCommand) :=
  enqueueHcmd_failsClean_iff cmdQueueSizes 0 deadEnv (outstandingQueue 3)
    (outstandingQueue_wf (by decide)) dupCommand

/-- The entry of the command owns the duplicate that was freed; with a full window, the
descriptor of the oldest command is cleared. -/
theorem enqueueHcmd_not_failsClean :
    (¬∀ z cmdQueue env q cmd, CmdQueue.Wf z q →
        FailsClean z false q (iwlPcieEnqueueHcmd z cmdQueue env q cmd)) ∧
      ¬∀ z cmdQueue env q cmd, CmdQueue.Wf z q →
        FailsClean z true q (iwlPcieGen2EnqueueHcmd z cmdQueue env q cmd) := by
  constructor
  · intro claimed
    obtain ⟨-, live⟩ := claimed cmdQueueSizes 0 deadEnv (outstandingQueue 0) dupCommand
      (outstandingQueue_wf (by decide)) (by decide +kernel)
    exact live 0 (by decide) 0 (by decide +kernel) (by decide +kernel)
  · intro claimed
    obtain ⟨untouched, -⟩ := claimed cmdQueueSizes 0 deadEnv (outstandingQueue 32) dupCommand
      (outstandingQueue_wf (by decide)) (by decide +kernel)
    exact absurd (untouched.tfds 0 (by decide +kernel)) (by decide +kernel)

end Iwlwifi
