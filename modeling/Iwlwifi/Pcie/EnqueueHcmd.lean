import Iwlwifi.Pcie.Queue

/-!
# Enqueueing a host command

`iwl_pcie_enqueue_hcmd` and `iwl_pcie_gen2_enqueue_hcmd` copy a host command into the entry
of the write pointer, map what is not copied, and advance the write pointer.  A chunk with
`IWL_HCMD_DFL_DUP` is copied to a buffer of its own, which the entry owns once it is in its
`free_buf` and which `iwl_pcie_rx_handle_rb` frees when the response arrives.

Buffers are numbered in the order of their allocation, and the queue carries the numbers of
those that were freed.  The watchdog does not touch the queue and is left out.
-/

namespace Iwlwifi

open Function (update)

/-! ## Commands -/

/-- `data[i]`, `len[i]` and `dataflags[i]` of a host command. -/
structure HcmdChunk where
  data : List UInt8
  nocopy : Bool
  dup : Bool

def HcmdChunk.len (c : HcmdChunk) : Nat := c.data.length

/-- A chunk that is copied to the entry. -/
def HcmdChunk.plain (c : HcmdChunk) : Bool := !c.nocopy && !c.dup

/-- `struct iwl_host_cmd`, with its two chunks and the flags that the queue looks at. -/
structure IwlHostCmd where
  id : Nat
  first : HcmdChunk
  second : HcmdChunk
  async : Bool
  wantSkb : Bool
  asyncCallback : Bool

def IwlHostCmd.chunks (cmd : IwlHostCmd) : List HcmdChunk := [cmd.first, cmd.second]

def iwlCmdOpcode (cmdid : Nat) : Nat := cmdid &&& 0xFF

def iwlCmdGroupid (cmdid : Nat) : Nat := (cmdid &&& 0xFF00) >>> 8

def iwlCmdVersion (cmdid : Nat) : Nat := (cmdid &&& 0xFF0000) >>> 16

def iwlAlwaysLongGroup : Nat := 1

def iwlFirstTbSize : Nat := 20

/-- `TFD_MAX_PAYLOAD_SIZE`, the size of `struct iwl_device_cmd`. -/
def tfdMaxPayloadSize : Nat := 324

/-- The sizes of `struct iwl_cmd_header` and `struct iwl_cmd_header_wide`. -/
def cmdHeaderSize : Nat := 4

def cmdHeaderWideSize : Nat := 8

/-- The size of the header that the first generation writes. -/
def hdrSizeOf (cmd : IwlHostCmd) : Nat :=
  if iwlCmdGroupid cmd.id ≠ 0 then cmdHeaderWideSize else cmdHeaderSize

/-! ## The queue -/

/-- What `kmemdup` returns: `ZERO_SIZE_PTR` for no bytes, else a buffer of its own. -/
inductive DupBuf
  | zeroSize
  | buf (id : Nat)
deriving DecidableEq

/-- The header of a command as it is written to the entry. -/
structure CmdHeader where
  wide : Bool
  cmd : Nat
  groupId : Nat
  version : Nat
  length : Nat
  sequence : Nat
deriving DecidableEq

/-- An entry of the command queue: the command, the flags of its `meta`, whether a response
is wanted in its source, and the buffer to free. -/
structure CmdEntry where
  hdr : CmdHeader
  payload : List UInt8
  wantSkb : Bool
  async : Bool
  asyncCallback : Bool
  freeBuf : Option DupBuf
deriving DecidableEq

/-- A field of two bytes, the lower byte first. -/
def cpuToLe16 (v : Nat) : List UInt8 := [.ofNat v, .ofNat (v / 256)]

/-- `struct iwl_cmd_header` and `struct iwl_cmd_header_wide` in memory. -/
def CmdHeader.bytes (hdr : CmdHeader) : List UInt8 :=
  if hdr.wide then
    [.ofNat hdr.cmd, .ofNat hdr.groupId] ++ cpuToLe16 hdr.sequence ++ cpuToLe16 hdr.length ++
      [0, .ofNat hdr.version]
  else [.ofNat hdr.cmd, .ofNat hdr.groupId] ++ cpuToLe16 hdr.sequence

/-- What was written to `struct iwl_device_cmd`. -/
def CmdEntry.bytes (entry : CmdEntry) : List UInt8 := entry.hdr.bytes ++ entry.payload

/-- A transfer buffer of a descriptor. -/
structure Tb where
  addr : Nat
  len : Nat
deriving DecidableEq

/-- The command queue with what was last copied to each of its `first_tb_bufs`, the buffers
allocated and freed so far, and `trans_pcie->cmd_hold_nic_awake`. -/
structure CmdQueue where
  readPtr : Nat
  writePtr : Nat
  entries : Nat → CmdEntry
  tfds : Nat → List Tb
  firstTbBufs : Nat → List UInt8
  allocated : Nat
  freed : List Nat
  cmdHoldNicAwake : Bool

/-- What an enqueue meets outside the queue: memory, the DMA mappings, and the state of the
device. -/
structure HcmdEnv where
  wideCmdHeader : Bool
  memory : Bool
  firstTbDma : Nat → Nat
  mapFirst : Option Nat
  mapChunk : Nat → Option Nat
  transDead : Bool
  apmgWakeUpWa : Bool
  wakes : Bool

/-- The buffer of `kmemdup` for so many bytes.  No bytes need no memory. -/
def CmdQueue.kmemdup (q : CmdQueue) (env : HcmdEnv) (len : Nat) : Option DupBuf :=
  if len = 0 then some .zeroSize else if env.memory then some (.buf q.allocated) else none

/-- The numbers of the buffers behind a pointer: none for `NULL` and `ZERO_SIZE_PTR`. -/
def bufIds : Option DupBuf → List Nat
  | some (.buf id) => [id]
  | _ => []

/-- The queue after `kmemdup` returned this. -/
def CmdQueue.duplicated (q : CmdQueue) (dupBuf : Option DupBuf) : CmdQueue :=
  { q with allocated := q.allocated + (bufIds dupBuf).length }

/-- `kfree` and `kzfree`. -/
def CmdQueue.kfree (q : CmdQueue) (dupBuf : Option DupBuf) : CmdQueue :=
  { q with freed := bufIds dupBuf ++ q.freed }

/-! ## Enqueueing -/

/-- What the first loop leaves: the sizes, the flag, the duplicate, and `cmdlen` and
`cmddata` of the chunks.  A duplicate has the bytes that `cmddata` points to. -/
structure HcmdScan where
  copySize : Nat
  cmdSize : Nat
  hadNocopy : Bool
  dupBuf : Option DupBuf
  cmdlen : List Nat
  cmddata : List (List UInt8)

/-- The bytes of a chunk that go to the first transfer buffer. -/
def firstTbShare (copySize len : Nat) : Nat :=
  if copySize < iwlFirstTbSize then min (iwlFirstTbSize - copySize) len else 0

/-- The body of the first loop of an enqueue.  A failure comes with the duplicate that is to
be freed. -/
def scanChunk (kmemdup : Nat → Option DupBuf) (s : HcmdScan) (c : HcmdChunk) :
    Except (Int × Option DupBuf) HcmdScan :=
  if c.len = 0 then .ok { s with cmdlen := s.cmdlen ++ [0], cmddata := s.cmddata ++ [c.data] }
  else
    let copy := firstTbShare s.copySize c.len
    let cmdlen := c.len - copy
    let s := { s with
                copySize := s.copySize + copy
                cmdlen := s.cmdlen ++ [cmdlen]
                cmddata := s.cmddata ++ [c.data.drop copy] }
    let cmdSize := (s.cmdSize + c.len) % 65536
    if c.nocopy then
      if c.dup then .error (-22, s.dupBuf)
      else .ok { s with hadNocopy := true, cmdSize := cmdSize }
    else if c.dup then
      if s.dupBuf.isSome then .error (-22, s.dupBuf)
      else
        match kmemdup cmdlen with
        | none => .error (-12, none)
        | some dupBuf =>
          .ok { s with hadNocopy := true, cmdSize := cmdSize, dupBuf := some dupBuf }
    else if s.hadNocopy then .error (-22, s.dupBuf)
    else .ok { s with copySize := (s.copySize + cmdlen) % 65536, cmdSize := cmdSize }

def scanChunks (kmemdup : Nat → Option DupBuf) (chunks : List HcmdChunk) (s : HcmdScan) :
    Except (Int × Option DupBuf) HcmdScan :=
  chunks.foldlM (scanChunk kmemdup) s

/-- The second loop: what is copied to the payload of the entry, from a position on, and the
size of it that the device reads from there. -/
def copyChunks : List HcmdChunk → (cmdPos copySize : Nat) → List UInt8 × Nat
  | [], _, copySize => ([], copySize)
  | c :: rest, cmdPos, copySize =>
    if c.len = 0 then copyChunks rest cmdPos copySize
    else if c.plain then
      let (payload, size) := copyChunks rest (cmdPos + c.len) ((copySize + c.len) % 65536)
      (c.data ++ payload, size)
    else
      let copy := min (tfdMaxPayloadSize - cmdPos) c.len
      let (payload, size) :=
        copyChunks rest (cmdPos + copy) (copySize + firstTbShare copySize c.len)
      (c.data.take copy ++ payload, size)

/-- The transfer buffers of the chunks that are not copied; none if a mapping fails. -/
def mapChunks (env : HcmdEnv) : Nat → List (HcmdChunk × Nat) → Option (List Tb)
  | _, [] => some []
  | i, (c, cmdlen) :: rest =>
    if cmdlen = 0 ∨ c.plain then mapChunks env (i + 1) rest
    else do
      let addr ← env.mapChunk i
      let tbs ← mapChunks env (i + 1) rest
      pure (⟨addr, cmdlen⟩ :: tbs)

/-- The transfer buffers of a command whose first one has `tb0Size` bytes. -/
def mapTbs (env : HcmdEnv) (idx tb0Size copySize : Nat) (chunks : List (HcmdChunk × Nat)) :
    Option (List Tb) := do
  let copied ←
    if copySize > tb0Size then env.mapFirst.map fun addr => [Tb.mk addr (copySize - tb0Size)]
    else some []
  let rest ← mapChunks env 0 chunks
  pure (⟨env.firstTbDma idx, tb0Size⟩ :: copied ++ rest)

/-- The entry that a command is written to, before it owns the duplicate. -/
def writeEntry (cmd : IwlHostCmd) (wide : Bool) (cmdQueue cmdSize writePtr : Nat)
    (payload : List UInt8) (freeBuf : Option DupBuf) : CmdEntry where
  hdr :=
    { wide := wide
      cmd := iwlCmdOpcode cmd.id
      groupId := if wide then iwlCmdGroupid cmd.id else 0
      version := if wide then iwlCmdVersion cmd.id else 0
      length := if wide then (cmdSize + 65536 - cmdHeaderWideSize) % 65536 else 0
      sequence := ((cmdQueue &&& 0x1f) <<< 8) ||| (writePtr &&& 0xff) }
  payload := payload
  wantSkb := cmd.wantSkb
  async := false
  asyncCallback := false
  freeBuf := freeBuf

/-- The `memcpy` to `first_tb_bufs`. -/
def CmdQueue.copyFirstTb (q : CmdQueue) (idx : Nat) (entry : CmdEntry) (tb0Size : Nat) :
    CmdQueue :=
  { q with firstTbBufs := update q.firstTbBufs idx (entry.bytes.take tb0Size) }

/-- The flags and the duplicate of a command whose mappings succeeded.  A buffer that was
still there is freed. -/
def takeDupBuf (q : CmdQueue) (idx : Nat) (cmd : IwlHostCmd) (dupBuf : Option DupBuf) :
    CmdQueue :=
  let q := q.kfree (q.entries idx).freeBuf
  { q with
    entries := update q.entries idx
      { q.entries idx with
        async := cmd.async
        asyncCallback := cmd.asyncCallback
        freeBuf := dupBuf } }

/-- `iwl_pcie_set_cmd_in_flight`: the error, or `cmd_hold_nic_awake` afterwards. -/
def iwlPcieSetCmdInFlight (env : HcmdEnv) (cmdHoldNicAwake : Bool) : Except Int Bool :=
  if env.transDead then .error (-19)
  else if env.apmgWakeUpWa && !cmdHoldNicAwake then
    if env.wakes then .ok true else .error (-5)
  else .ok cmdHoldNicAwake

/-- There are too few entries for the command. -/
def noSpace (z : QueueSizes) (q : CmdQueue) (cmd : IwlHostCmd) : Bool :=
  decide (iwlQueueSpace z q.readPtr q.writePtr < if cmd.async then 2 else 1)

/-- `iwl_pcie_enqueue_hcmd`.  The descriptors are those of the whole ring. -/
def iwlPcieEnqueueHcmd (z : QueueSizes) (cmdQueue : Nat) (env : HcmdEnv) (q : CmdQueue)
    (cmd : IwlHostCmd) : Int × CmdQueue :=
  let groupId := iwlCmdGroupid cmd.id
  if !env.wideCmdHeader && decide (groupId > iwlAlwaysLongGroup) then (-22, q)
  else
    let wide := decide (groupId ≠ 0)
    let hdrSize := hdrSizeOf cmd
    match scanChunks (q.kmemdup env) cmd.chunks ⟨hdrSize, hdrSize, false, none, [], []⟩ with
    | .error (ret, dupBuf) => (ret, (q.duplicated dupBuf).kfree dupBuf)
    | .ok scan =>
      let q := q.duplicated scan.dupBuf
      if scan.copySize > tfdMaxPayloadSize then (-22, q.kfree scan.dupBuf)
      else if noSpace z q cmd then (-28, q.kfree scan.dupBuf)
      else
        let idx := iwlPcieGetCmdIndex z q.writePtr
        let (payload, copySize) := copyChunks cmd.chunks hdrSize hdrSize
        let entry := writeEntry cmd wide cmdQueue scan.cmdSize q.writePtr payload
          (q.entries idx).freeBuf
        let q := { q with entries := update q.entries idx entry }
        let tb0Size := min (min copySize iwlFirstTbSize) cmdHeaderSize
        let q := q.copyFirstTb idx entry tb0Size
        match mapTbs env idx tb0Size copySize (cmd.chunks.zip scan.cmdlen) with
        | none =>
          (-12, { q with tfds := update q.tfds q.writePtr [] }.kfree scan.dupBuf)
        | some tbs =>
          let q := { q with tfds := update q.tfds q.writePtr tbs }
          let q := takeDupBuf q idx cmd scan.dupBuf
          match iwlPcieSetCmdInFlight env q.cmdHoldNicAwake with
          | .error ret => (ret, q.kfree scan.dupBuf)
          | .ok cmdHoldNicAwake =>
            (idx, { q with
                    cmdHoldNicAwake := cmdHoldNicAwake
                    writePtr := iwlQueueIncWrap z q.writePtr })

/-- `iwl_pcie_gen2_enqueue_hcmd`.  The descriptors are those of the window, and the one of
the write pointer is cleared before the space is looked at. -/
def iwlPcieGen2EnqueueHcmd (z : QueueSizes) (cmdQueue : Nat) (env : HcmdEnv) (q : CmdQueue)
    (cmd : IwlHostCmd) : Int × CmdQueue :=
  let hdrSize := cmdHeaderWideSize
  match scanChunks (q.kmemdup env) cmd.chunks ⟨hdrSize, hdrSize, false, none, [], []⟩ with
  | .error (ret, dupBuf) => (ret, (q.duplicated dupBuf).kfree dupBuf)
  | .ok scan =>
    let q := q.duplicated scan.dupBuf
    if scan.copySize > tfdMaxPayloadSize then (-22, q.kfree scan.dupBuf)
    else
      let idx := iwlPcieGetCmdIndex z q.writePtr
      let q := { q with tfds := update q.tfds idx [] }
      if noSpace z q cmd then (-28, q.kfree scan.dupBuf)
      else
        let (payload, copySize) := copyChunks cmd.chunks hdrSize hdrSize
        let entry := writeEntry cmd true cmdQueue scan.cmdSize q.writePtr payload
          (q.entries idx).freeBuf
        let q := { q with entries := update q.entries idx entry }
        let tb0Size := min copySize iwlFirstTbSize
        let q := q.copyFirstTb idx entry tb0Size
        match mapTbs env idx tb0Size copySize (cmd.chunks.zip scan.cmdlen) with
        | none => (-12, q.kfree scan.dupBuf)
        | some tbs =>
          let q := { q with tfds := update q.tfds idx tbs }
          let q := takeDupBuf q idx cmd scan.dupBuf
          (idx, { q with writePtr := iwlQueueIncWrap z q.writePtr })

theorem mem_bufIds {id : Nat} {dupBuf : Option DupBuf} :
    id ∈ bufIds dupBuf ↔ dupBuf = some (.buf id) := by
  rcases dupBuf with _ | _ | other
  · simp [bufIds]
  · simp [bufIds]
  · simp [bufIds, eq_comm]

/-! ## The checks of a command -/

/-- The size that the device reads from the entry after a chunk. -/
def sizeAfter (copySize : Nat) (c : HcmdChunk) : Nat :=
  if c.len = 0 then copySize
  else if c.plain then (copySize + c.len) % 65536
  else copySize + firstTbShare copySize c.len

/-- The bytes of a chunk that are left for a transfer buffer of its own. -/
def restAfter (copySize : Nat) (c : HcmdChunk) : Nat := c.len - firstTbShare copySize c.len

/-- Two chunks after each other: not both are duplicated, and none is copied after one that
is not. -/
def ChunkFollows (a b : HcmdChunk) : Prop :=
  ¬(a.dup ∧ b.dup) ∧ (a.nocopy ∨ a.dup → b.nocopy ∨ b.dup)

/-- The flags of a command are as the documentation of `enum iwl_hcmd_dataflag` has them. -/
def WellFlagged (cmd : IwlHostCmd) : Prop :=
  (0 < cmd.first.len → ¬(cmd.first.nocopy ∧ cmd.first.dup)) ∧
    (0 < cmd.second.len → ¬(cmd.second.nocopy ∧ cmd.second.dup)) ∧
    (0 < cmd.first.len → 0 < cmd.second.len → ChunkFollows cmd.first cmd.second)

/-- The chunk is duplicated to a buffer of its own: it is not wholly in the first transfer
buffer. -/
def OwnBuf (copySize : Nat) (c : HcmdChunk) : Prop := c.dup = true ∧ 0 < restAfter copySize c

def HasDupBuf (hdrSize : Nat) (cmd : IwlHostCmd) : Prop :=
  OwnBuf hdrSize cmd.first ∨ OwnBuf (sizeAfter hdrSize cmd.first) cmd.second

/-- The flags are in order, and there is memory for the duplicate. -/
def Scanned (memory : Bool) (hdrSize : Nat) (cmd : IwlHostCmd) : Prop :=
  WellFlagged cmd ∧ (HasDupBuf hdrSize cmd → memory = true)

/-- The part of a command that is copied to the entry, with the headers. -/
def copiedSize (hdrSize : Nat) (cmd : IwlHostCmd) : Nat :=
  sizeAfter (sizeAfter hdrSize cmd.first) cmd.second

theorem firstTbShare_le (copySize len : Nat) : firstTbShare copySize len ≤ len := by
  unfold firstTbShare
  split <;> omega

/-- What one chunk asks of the state of the loop. -/
def ChunkFits (memory : Bool) (s : HcmdScan) (c : HcmdChunk) : Prop :=
  0 < c.len → ¬(c.nocopy ∧ c.dup) ∧ (c.dup → s.dupBuf = none) ∧
    (c.dup → 0 < restAfter s.copySize c → memory = true) ∧
    (s.hadNocopy → c.nocopy ∨ c.dup)

/-- What one chunk does to the state of the loop. -/
inductive ChunkOutcome (env : HcmdEnv) (q : CmdQueue) (s : HcmdScan) (c : HcmdChunk) :
    Except (Int × Option DupBuf) HcmdScan → Prop
  | failed (ret : Int) (dupBuf : Option DupBuf) (negative : ret < 0)
      (own : dupBuf = none ∨ dupBuf = s.dupBuf) (reason : ¬ChunkFits env.memory s c) :
      ChunkOutcome env q s c (.error (ret, dupBuf))
  | passed (s' : HcmdScan) (fits : ChunkFits env.memory s c)
      (size : s'.copySize = sizeAfter s.copySize c)
      (cmdlen : s'.cmdlen = s.cmdlen ++ [restAfter s.copySize c])
      (cmddata : s'.cmddata = s.cmddata ++ [c.data.drop (firstTbShare s.copySize c.len)])
      (had : s'.hadNocopy ↔ s.hadNocopy ∨ 0 < c.len ∧ (c.nocopy ∨ c.dup))
      (none_iff : s'.dupBuf = none ↔ s.dupBuf = none ∧ ¬(0 < c.len ∧ c.dup))
      (own : ∀ id, s'.dupBuf = some (.buf id) ↔
        s.dupBuf = some (.buf id) ∨ OwnBuf s.copySize c ∧ id = q.allocated) :
      ChunkOutcome env q s c (.ok s')

theorem scanChunk_outcome (env : HcmdEnv) (q : CmdQueue) (s : HcmdScan) (c : HcmdChunk) :
    ChunkOutcome env q s c (scanChunk (q.kmemdup env) s c) := by
  have share := firstTbShare_le s.copySize c.len
  unfold scanChunk
  by_cases empty : c.len = 0
  · have rest : restAfter s.copySize c = 0 := by rw [restAfter, empty, Nat.zero_sub]
    rw [if_pos empty]
    have none : c.data = [] := List.eq_nil_of_length_eq_zero empty
    refine .passed _ (fun long => by omega) (by rw [sizeAfter, if_pos empty]) (by rw [rest])
      (by rw [none, List.drop_nil]) (by simp [empty]) (by simp [empty]) (by simp [OwnBuf, rest])
  · have long : 0 < c.len := Nat.pos_of_ne_zero empty
    rw [if_neg empty]
    dsimp only
    cases nocopy : c.nocopy with
    | true =>
      cases dup : c.dup with
      | true => exact .failed _ _ (by decide) (.inr rfl) (by simp [ChunkFits, *])
      | false =>
        refine .passed _ ?_ ?_ rfl rfl ?_ ?_ ?_ <;>
          simp [ChunkFits, sizeAfter, HcmdChunk.plain, OwnBuf, *]
    | false =>
      cases dup : c.dup with
      | true =>
        cases held : s.dupBuf with
        | some dupBuf =>
          exact .failed _ _ (by decide) (.inr held.symm) (by simp [ChunkFits, *])
        | none =>
          have fits : ChunkFits env.memory s c ↔
              (0 < restAfter s.copySize c → env.memory = true) := by
            simp [ChunkFits, *]
          change ChunkOutcome env q s c
            (match q.kmemdup env (restAfter s.copySize c) with
              | none => _
              | some dupBuf => _)
          cases buffer : q.kmemdup env (restAfter s.copySize c) with
          | none =>
            refine .failed _ _ (by decide) (.inl rfl) fun ok => ?_
            unfold CmdQueue.kmemdup at buffer
            grind
          | some dupBuf =>
            unfold CmdQueue.kmemdup at buffer
            refine .passed _ ?_ ?_ rfl rfl ?_ ?_ ?_ <;>
              grind [OwnBuf, sizeAfter, HcmdChunk.plain]
      | false =>
        cases had : s.hadNocopy with
        | true => exact .failed _ _ (by decide) (.inr rfl) (by simp [ChunkFits, *])
        | false =>
          have size : (s.copySize + firstTbShare s.copySize c.len +
              (c.len - firstTbShare s.copySize c.len)) % 65536 = sizeAfter s.copySize c := by
            have plain : c.plain = true := by rw [HcmdChunk.plain, nocopy, dup]; rfl
            rw [sizeAfter, if_neg empty, if_pos plain, Nat.add_assoc,
              Nat.add_sub_cancel' share]
          refine .passed _ ?_ size rfl rfl ?_ ?_ ?_ <;> simp [ChunkFits, OwnBuf, nocopy, dup, had]

/-- What the first loop comes to. -/
inductive ScanOutcome (env : HcmdEnv) (q : CmdQueue) (hdrSize : Nat) (cmd : IwlHostCmd) :
    Except (Int × Option DupBuf) HcmdScan → Prop
  | failed (ret : Int) (dupBuf : Option DupBuf) (negative : ret < 0)
      (own : ∀ id, dupBuf = some (.buf id) → id = q.allocated)
      (reason : ¬Scanned env.memory hdrSize cmd) :
      ScanOutcome env q hdrSize cmd (.error (ret, dupBuf))
  | passed (scan : HcmdScan) (scanned : Scanned env.memory hdrSize cmd)
      (own : ∀ id, scan.dupBuf = some (.buf id) ↔ HasDupBuf hdrSize cmd ∧ id = q.allocated)
      (size : scan.copySize = copiedSize hdrSize cmd)
      (cmdlen : scan.cmdlen = [restAfter hdrSize cmd.first,
        restAfter (sizeAfter hdrSize cmd.first) cmd.second])
      (cmddata : scan.cmddata = [cmd.first.data.drop (firstTbShare hdrSize cmd.first.len),
        cmd.second.data.drop (firstTbShare (sizeAfter hdrSize cmd.first) cmd.second.len)]) :
      ScanOutcome env q hdrSize cmd (.ok scan)

theorem scanChunks_outcome (env : HcmdEnv) (q : CmdQueue) (hdrSize : Nat) (cmd : IwlHostCmd) :
    ScanOutcome env q hdrSize cmd
      (scanChunks (q.kmemdup env) cmd.chunks ⟨hdrSize, hdrSize, false, none, [], []⟩) := by
  unfold scanChunks IwlHostCmd.chunks
  rw [List.foldlM_cons]
  have one := scanChunk_outcome env q ⟨hdrSize, hdrSize, false, none, [], []⟩ cmd.first
  generalize scanChunk (q.kmemdup env) ⟨hdrSize, hdrSize, false, none, [], []⟩ cmd.first = r at one
  cases one with
  | failed ret dupBuf negative own reason =>
    refine .failed _ _ negative (by simp_all) fun scanned => reason ?_
    obtain ⟨⟨flags, -, -⟩, memory⟩ := scanned
    exact fun long => ⟨flags long, fun _ => rfl,
      fun dup rest => memory (.inl ⟨dup, rest⟩), fun had => by cases had⟩
  | passed s fits size cmdlen cmddata had none_iff own =>
    change ScanOutcome env q hdrSize cmd (List.foldlM _ s [cmd.second])
    rw [List.foldlM_cons]
    have two := scanChunk_outcome env q s cmd.second
    generalize scanChunk (q.kmemdup env) s cmd.second = r at two
    cases two with
    | failed ret dupBuf negative own' reason =>
      refine .failed _ _ negative ?_ fun scanned => reason fun long => ?_
      · intro id held
        rcases own' with none | same
        · rw [none] at held
          cases held
        · rw [same, own] at held
          rcases held with impossible | ⟨-, fresh⟩
          · cases impossible
          · exact fresh
      · obtain ⟨⟨-, flags, follows⟩, memory⟩ := scanned
        refine ⟨flags long, fun dup => none_iff.mpr ⟨rfl, fun first => ?_⟩,
          fun dup rest => memory (.inr ⟨dup, by rwa [← size]⟩), fun had_ => ?_⟩
        · exact (follows first.1 long).1 ⟨first.2, dup⟩
        · rcases had.mp had_ with impossible | ⟨first, kind⟩
          · cases impossible
          · exact (follows first long).2 kind
    | passed s' fits' size' cmdlen' cmddata' had' none_iff' own' =>
      refine .passed _ ⟨⟨fun long => (fits long).1, fun long => (fits' long).1,
        fun first second => ⟨fun both => ?_, fun kind => ?_⟩⟩, ?_⟩ ?_ ?_ ?_ ?_
      · have none := (fits' second).2.1 both.2
        exact (none_iff.mp none).2 ⟨first, both.1⟩
      · exact (fits' second).2.2.2 (had.mpr (.inr ⟨first, kind⟩))
      · rintro (⟨dup, rest⟩ | ⟨dup, rest⟩)
        · exact (fits (Nat.lt_of_lt_of_le rest (Nat.sub_le _ _))).2.2.1 dup rest
        · exact (fits' (Nat.lt_of_lt_of_le rest (Nat.sub_le _ _))).2.2.1 dup (by rwa [size])
      · intro id
        rw [own', own, size, HasDupBuf, or_and_right]
        simp
      · rw [size', size, copiedSize]
      · rw [cmdlen', cmdlen, size]
        rfl
      · rw [cmddata', cmddata, size]
        rfl

/-- The second loop comes to the size of the first. -/
theorem copyChunks_snd (chunks : List HcmdChunk) (cmdPos copySize : Nat) :
    (copyChunks chunks cmdPos copySize).2 = chunks.foldl sizeAfter copySize := by
  induction chunks generalizing cmdPos copySize with
  | nil => rfl
  | cons c rest ih =>
    rw [copyChunks, List.foldl_cons, sizeAfter]
    split
    · exact ih _ _
    · split <;> exact ih _ _

end Iwlwifi
