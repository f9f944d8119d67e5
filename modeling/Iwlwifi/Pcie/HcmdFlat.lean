import Iwlwifi.Pcie.CmdQueue

/-!
# The bytes of a host command

A host command is sent in pieces: the first transfer buffer, what else was copied to the
entry, and what is left of each chunk that was not copied.  Both loops of the enqueue say on
their own what is left of a chunk, and the device concatenates the transfer buffers.  The
sizes are of 16 bits, and the length of a transfer buffer in a descriptor of the first
generation is of 12.
-/

namespace Iwlwifi

/-! ## What the device reads -/

/-- The lengths that a descriptor can hold lie below this: `tb_len` has 16 bits, and
`hi_n_len` has 12 bits for the length. -/
def tbLimit (gen2 : Bool) : Nat := if gen2 then 65536 else 4096

/-- The bytes that a transfer buffer describes, in a memory that has these bytes from an
address on. -/
def Tb.read (gen2 : Bool) (mem : Nat → List UInt8) (tb : Tb) : List UInt8 :=
  (mem tb.addr).take (tb.len % tbLimit gen2)

def readTfd (gen2 : Bool) (mem : Nat → List UInt8) (tbs : List Tb) : List UInt8 :=
  tbs.flatMap (Tb.read gen2 mem)

/-! ## The flat command -/

/-- The sizes of the header and of the first transfer buffer. -/
def hcmdHdrSize (c : CmdConfig) (cmd : IwlHostCmd) : Nat :=
  if c.gen2 then cmdHeaderWideSize else hdrSizeOf cmd

def hcmdTb0Size (c : CmdConfig) (cmd : IwlHostCmd) : Nat :=
  let copied := copiedSize (hcmdHdrSize c cmd) cmd
  if c.gen2 then min copied iwlFirstTbSize else min (min copied iwlFirstTbSize) cmdHeaderSize

/-- The entry and the descriptor of the write pointer. -/
def hcmdEntry (c : CmdConfig) (q q' : CmdQueue) : CmdEntry :=
  q'.entries (iwlPcieGetCmdIndex c.sizes q.writePtr)

def hcmdTfd (c : CmdConfig) (q q' : CmdQueue) : List Tb :=
  q'.tfds (if c.gen2 then iwlPcieGetCmdIndex c.sizes q.writePtr else q.writePtr)

/-- The first loop of the enqueue. -/
def hcmdScan (c : CmdConfig) (env : HcmdEnv) (q : CmdQueue) (cmd : IwlHostCmd) :
    Except (Int × Option DupBuf) HcmdScan :=
  scanChunks (q.kmemdup env) cmd.chunks
    ⟨hcmdHdrSize c cmd, hcmdHdrSize c cmd, false, none, [], []⟩

/-- The device reads what is in the first transfer buffer, and what was mapped: the entry
behind the first bytes, and what `cmddata` points to. -/
structure HcmdMapped (c : CmdConfig) (env : HcmdEnv) (mem : Nat → List UInt8) (q : CmdQueue)
    (cmd : IwlHostCmd) (q' : CmdQueue) : Prop where
  firstTb : q'.firstTbBufs (iwlPcieGetCmdIndex c.sizes q.writePtr) <+:
    mem (env.firstTbDma (iwlPcieGetCmdIndex c.sizes q.writePtr))
  entry : ∀ addr, env.mapFirst = some addr →
    (hcmdEntry c q q').bytes.drop (hcmdTb0Size c cmd) <+: mem addr
  chunks : ∀ scan, hcmdScan c env q cmd = .ok scan → ∀ (i : Nat) data addr,
    scan.cmddata[i]? = some data → env.mapChunk i = some addr → data <+: mem addr

/-- The transfer buffers describe the header and the chunks, each complete and once, and a
wide header has the length of the chunks. -/
def HcmdFlat (c : CmdConfig) (mem : Nat → List UInt8) (q : CmdQueue) (cmd : IwlHostCmd)
    (q' : CmdQueue) : Prop :=
  let hdr := (hcmdEntry c q q').hdr
  readTfd c.gen2 mem (hcmdTfd c q q') = hdr.bytes ++ cmd.chunks.flatMap HcmdChunk.data ∧
    (hdr.wide = true → hdr.length = (cmd.chunks.map HcmdChunk.len).sum)

/-- The lengths of the chunks that are copied. -/
def plainLen (chunks : List HcmdChunk) : Nat :=
  ((chunks.filter HcmdChunk.plain).map HcmdChunk.len).sum

/-- Of no chunk that is not copied, more lies behind the first bytes of the command than a
transfer buffer can have.  The chunks start at a position in the command. -/
def TailsFit (gen2 : Bool) : (position : Nat) → List HcmdChunk → Prop
  | _, [] => True
  | position, chunk :: rest =>
    (chunk.plain = false →
        min chunk.len (position + chunk.len - iwlFirstTbSize) < tbLimit gen2) ∧
      TailsFit gen2 (position + chunk.len) rest

/-- No size overflows: what is copied, the length of a wide header, and the lengths of the
transfer buffers. -/
structure HcmdFits (c : CmdConfig) (cmd : IwlHostCmd) : Prop where
  copied : hcmdHdrSize c cmd + plainLen cmd.chunks < 65536
  wide : hcmdHdrSize c cmd = cmdHeaderWideSize → (cmd.chunks.map HcmdChunk.len).sum < 65536
  tails : TailsFit c.gen2 (hcmdHdrSize c cmd) cmd.chunks

/-! ## What is left of the chunks -/

/-- `cmdlen` of the first loop. -/
def chunkLens : (copySize : Nat) → List HcmdChunk → List Nat
  | _, [] => []
  | copySize, chunk :: rest =>
    restAfter copySize chunk :: chunkLens (sizeAfter copySize chunk) rest

/-- The device reads what is left of the chunks where they were mapped. -/
def ChunksMapped (env : HcmdEnv) (mem : Nat → List UInt8) :
    (i copySize : Nat) → List HcmdChunk → Prop
  | _, _, [] => True
  | i, copySize, chunk :: rest =>
    (∀ addr, env.mapChunk i = some addr →
        chunk.data.drop (firstTbShare copySize chunk.len) <+: mem addr) ∧
      ChunksMapped env mem (i + 1) (sizeAfter copySize chunk) rest

/-- The bytes that are left of the chunks that are not copied. -/
def uncopied : (copySize : Nat) → List HcmdChunk → List UInt8
  | _, [] => []
  | copySize, chunk :: rest =>
    (if chunk.plain then [] else chunk.data.drop (firstTbShare copySize chunk.len)) ++
      uncopied (sizeAfter copySize chunk) rest

/-- What is left of the chunks that are not copied fits into transfer buffers. -/
def RestsFit (gen2 : Bool) : (copySize : Nat) → List HcmdChunk → Prop
  | _, [] => True
  | copySize, chunk :: rest =>
    (chunk.plain = false → restAfter copySize chunk < tbLimit gen2) ∧
      RestsFit gen2 (sizeAfter copySize chunk) rest

variable {env : HcmdEnv} {mem : Nat → List UInt8} {gen2 : Bool} {tbs : List Tb}

theorem tbLimit_pos (gen2 : Bool) : 0 < tbLimit gen2 := by
  cases gen2 <;> decide

theorem Tb.read_length_le (gen2 : Bool) (mem : Nat → List UInt8) (tb : Tb) :
    (tb.read gen2 mem).length ≤ tb.len % tbLimit gen2 := by
  rw [Tb.read, List.length_take]
  exact Nat.min_le_left _ _

/-- A transfer buffer of bytes that are mapped at its address describes these bytes. -/
theorem Tb.read_eq {bytes : List UInt8} {tb : Tb} (mapped : bytes <+: mem tb.addr)
    (len : tb.len = bytes.length) (fits : tb.len < tbLimit gen2) :
    tb.read gen2 mem = bytes := by
  obtain ⟨behind, whole⟩ := mapped
  rw [Tb.read, Nat.mod_eq_of_lt fits, ← whole, len, List.take_left' rfl]

theorem length_drop_share (copySize : Nat) (chunk : HcmdChunk) :
    (chunk.data.drop (firstTbShare copySize chunk.len)).length = restAfter copySize chunk := by
  rw [List.length_drop, restAfter, HcmdChunk.len]

theorem uncopied_skipped {copySize : Nat} {chunk : HcmdChunk} {rest : List HcmdChunk}
    (skipped : restAfter copySize chunk = 0 ∨ chunk.plain = true) :
    uncopied copySize (chunk :: rest) = uncopied (sizeAfter copySize chunk) rest := by
  rw [uncopied]
  rcases skipped with none | plain
  · rw [List.eq_nil_of_length_eq_zero ((length_drop_share copySize chunk).trans none), ite_self,
      List.nil_append]
  · rw [if_pos plain, List.nil_append]

/-- What mapping the chunks comes to: the first one needs no transfer buffer, or it has one. -/
theorem mapChunks_cons {i len : Nat} {chunk : HcmdChunk} {rest : List (HcmdChunk × Nat)}
    (mapped : mapChunks env i ((chunk, len) :: rest) = some tbs) :
    ((len = 0 ∨ chunk.plain = true) ∧ mapChunks env (i + 1) rest = some tbs) ∨
      ∃ addr behind, chunk.plain = false ∧ env.mapChunk i = some addr ∧
        mapChunks env (i + 1) rest = some behind ∧ tbs = ⟨addr, len⟩ :: behind := by
  rw [mapChunks] at mapped
  split at mapped
  · rename_i skipped
    exact .inl ⟨skipped, mapped⟩
  · rename_i goOn
    rw [not_or, Bool.not_eq_true] at goOn
    simp only [Option.bind_eq_bind, Option.bind_eq_some_iff, Option.pure_def,
      Option.some.injEq] at mapped
    obtain ⟨addr, placed, behind, others, same⟩ := mapped
    exact .inr ⟨addr, behind, goOn.2, placed, others, same.symm⟩

variable {chunks : List HcmdChunk}

/-- The transfer buffers of the chunks describe what is left of them, if they hold it. -/
theorem readTfd_mapChunks {i copySize : Nat}
    (mapped : mapChunks env i (chunks.zip (chunkLens copySize chunks)) = some tbs)
    (dma : ChunksMapped env mem i copySize chunks) (fits : RestsFit gen2 copySize chunks) :
    readTfd gen2 mem tbs = uncopied copySize chunks := by
  induction chunks generalizing i copySize tbs with
  | nil =>
    cases mapped
    rfl
  | cons chunk rest ih =>
    have left := length_drop_share copySize chunk
    rcases mapChunks_cons mapped with
      ⟨skipped, others⟩ | ⟨addr, behind, kept, placed, others, rfl⟩
    · rw [uncopied_skipped skipped]
      exact ih others dma.2 fits.2
    · have here : Tb.read gen2 mem ⟨addr, restAfter copySize chunk⟩ =
          chunk.data.drop (firstTbShare copySize chunk.len) :=
        Tb.read_eq (dma.1 addr placed) left.symm (fits.1 kept)
      rw [uncopied, kept, if_neg Bool.false_ne_true, ← ih others dma.2 fits.2, ← here]
      rfl

/-- Without that, they describe less. -/
theorem length_readTfd_mapChunks {i copySize : Nat} {chunks : List HcmdChunk}
    (mapped : mapChunks env i (chunks.zip (chunkLens copySize chunks)) = some tbs) :
    (readTfd gen2 mem tbs).length ≤ (uncopied copySize chunks).length ∧
      ((readTfd gen2 mem tbs).length = (uncopied copySize chunks).length →
        RestsFit gen2 copySize chunks) := by
  induction chunks generalizing i copySize tbs with
  | nil =>
    cases mapped
    exact ⟨Nat.le_refl _, fun _ => trivial⟩
  | cons chunk rest ih =>
    have left := length_drop_share copySize chunk
    rcases mapChunks_cons mapped with
      ⟨skipped, others⟩ | ⟨addr, behind, kept, placed, others, rfl⟩
    · rw [uncopied_skipped skipped]
      refine ⟨(ih others).1, fun same => ⟨fun kept => ?_, (ih others).2 same⟩⟩
      rcases skipped with none | plain
      · rw [none]
        exact tbLimit_pos gen2
      · rw [kept] at plain
        cases plain
    · have here := Tb.read_length_le gen2 mem ⟨addr, restAfter copySize chunk⟩
      have small := Nat.mod_lt (restAfter copySize chunk) (tbLimit_pos gen2)
      have le := Nat.mod_le (restAfter copySize chunk) (tbLimit gen2)
      obtain ⟨shorter, fit⟩ := ih others
      dsimp only at here
      rw [uncopied, kept, if_neg Bool.false_ne_true, List.length_append, left]
      change (Tb.read gen2 mem ⟨addr, _⟩ ++ readTfd gen2 mem behind).length ≤ _ ∧
        ((Tb.read gen2 mem ⟨addr, _⟩ ++ readTfd gen2 mem behind).length = _ → _)
      rw [List.length_append]
      exact ⟨by omega, fun same => ⟨fun _ => by omega, fit (by omega)⟩⟩

/-! ## The two loops -/

/-- No chunk is copied after one that is not. -/
def CopiedFirst (chunks : List HcmdChunk) : Prop :=
  chunks.Pairwise fun a b => 0 < a.len → 0 < b.len → a.plain = false → b.plain = false

theorem firstTbShare_of_le {copySize : Nat} (full : iwlFirstTbSize ≤ copySize) (len : Nat) :
    firstTbShare copySize len = 0 := by
  rw [firstTbShare, if_neg (Nat.not_lt.mpr full)]

/-- With the first transfer buffer full, chunks that are not copied are left whole. -/
theorem uncopied_of_full {copySize : Nat} (full : iwlFirstTbSize ≤ copySize)
    (kept : ∀ chunk ∈ chunks, 0 < chunk.len → chunk.plain = false) :
    chunks.foldl sizeAfter copySize = copySize ∧
      uncopied copySize chunks = chunks.flatMap HcmdChunk.data := by
  induction chunks with
  | nil => exact ⟨rfl, rfl⟩
  | cons chunk rest ih =>
    obtain ⟨size, bytes⟩ := ih fun other inside => kept other (List.mem_cons_of_mem _ inside)
    have whole := firstTbShare_of_le full chunk.len
    have stays : sizeAfter copySize chunk = copySize := by
      rw [sizeAfter, whole]
      split
      · rfl
      · rename_i long
        rw [kept chunk List.mem_cons_self (Nat.pos_of_ne_zero long)]
        exact if_neg Bool.false_ne_true
    refine ⟨by rw [List.foldl_cons, stays, size], ?_⟩
    rw [uncopied, stays, bytes, whole, List.drop_zero, List.flatMap_cons]
    by_cases long : 0 < chunk.len
    · rw [kept chunk List.mem_cons_self long, if_neg Bool.false_ne_true]
    · have none : chunk.data = [] := List.eq_nil_of_length_eq_zero (Nat.eq_zero_of_not_pos long)
      rw [none, ite_self]

theorem plainLen_of_plain {chunk : HcmdChunk} (rest : List HcmdChunk)
    (plain : chunk.plain = true) : plainLen (chunk :: rest) = chunk.len + plainLen rest := by
  simp [plainLen, plain]

theorem plainLen_of_not_plain {chunk : HcmdChunk} (rest : List HcmdChunk)
    (plain : chunk.plain = false) : plainLen (chunk :: rest) = plainLen rest := by
  simp [plainLen, plain]

theorem sizeAfter_le (copySize : Nat) {chunk : HcmdChunk} (plain : chunk.plain = true) :
    sizeAfter copySize chunk ≤ copySize + chunk.len := by
  rw [sizeAfter, plain, if_pos rfl]
  split
  · omega
  · exact Nat.mod_le _ _

theorem sizeAfter_of_not_plain (copySize : Nat) {chunk : HcmdChunk}
    (plain : chunk.plain = false) :
    sizeAfter copySize chunk = copySize + firstTbShare copySize chunk.len := by
  have share := firstTbShare_le copySize chunk.len
  rw [sizeAfter, plain, if_neg Bool.false_ne_true]
  split
  · omega
  · rfl

theorem plainLen_of_kept (kept : ∀ chunk ∈ chunks, 0 < chunk.len → chunk.plain = false) :
    plainLen chunks = 0 := by
  rw [plainLen, List.sum_eq_zero_iff_forall_eq_nat]
  intro len inside
  obtain ⟨chunk, plain, rfl⟩ := List.mem_map.mp inside
  obtain ⟨inside, copied⟩ := List.mem_filter.mp plain
  by_contra long
  rw [kept chunk inside (Nat.pos_of_ne_zero long)] at copied
  cases copied

/-- What the second loop copies, up to the size, and what the first leaves make up the
chunks.  As long as all is copied the size is the position; a chunk that is not copied whole
fills the first transfer buffer, and then nothing else is copied. -/
theorem take_copyChunks (before : List UInt8) (ordered : CopiedFirst chunks)
    (fits : before.length + plainLen chunks < 65536) :
    (before ++ (copyChunks chunks before.length before.length).1).take
          (chunks.foldl sizeAfter before.length) ++ uncopied before.length chunks =
      before ++ chunks.flatMap HcmdChunk.data := by
  induction chunks generalizing before with
  | nil =>
    change (before ++ []).take before.length ++ [] = before ++ []
    rw [List.append_nil, List.append_nil, List.take_length]
  | cons chunk rest ih =>
    obtain ⟨follows, ordered⟩ := List.pairwise_cons.mp ordered
    rw [copyChunks, List.foldl_cons, uncopied, sizeAfter, List.flatMap_cons]
    by_cases empty : chunk.len = 0
    · have none : chunk.data = [] := List.eq_nil_of_length_eq_zero empty
      rw [if_pos empty, if_pos empty, none, List.drop_nil, ite_self]
      refine ih before ordered (Nat.lt_of_le_of_lt (Nat.add_le_add_left ?_ _) fits)
      cases plain : chunk.plain with
      | true => simp [plainLen, plain]
      | false => simp [plainLen, plain]
    · rw [if_neg empty, if_neg empty]
      cases plain : chunk.plain with
      | true =>
        have sum := plainLen_of_plain rest plain
        have size : (before.length + chunk.len) % 65536 = (before ++ chunk.data).length := by
          rw [List.length_append, Nat.mod_eq_of_lt (by omega), HcmdChunk.len]
        have position : before.length + chunk.len = (before ++ chunk.data).length :=
          List.length_append.symm
        have whole := ih (before ++ chunk.data) ordered (by rw [← position]; omega)
        rw [if_pos rfl, if_pos rfl, if_pos rfl, size, position]
        dsimp only
        rw [List.nil_append, ← List.append_assoc, whole, List.append_assoc]
      | false =>
        have long : 0 < chunk.len := Nat.pos_of_ne_zero empty
        have kept : ∀ other ∈ rest, 0 < other.len → other.plain = false :=
          fun other inside otherLong => follows other inside long otherLong plain
        have sum := plainLen_of_not_plain rest plain
        rw [if_neg Bool.false_ne_true, if_neg Bool.false_ne_true, if_neg Bool.false_ne_true]
        dsimp only
        have share := firstTbShare_le before.length chunk.len
        rcases Nat.lt_or_eq_of_le share with part | all
        · have full : iwlFirstTbSize ≤
              before.length + firstTbShare before.length chunk.len := by
            unfold firstTbShare at part ⊢
            split at part
            · rw [if_pos ‹_›]
              omega
            · omega
          have within : firstTbShare before.length chunk.len ≤
              min (tfdMaxPayloadSize - before.length) chunk.len := by
            refine Nat.le_min.mpr ⟨?_, share⟩
            unfold firstTbShare tfdMaxPayloadSize iwlFirstTbSize
            split
            · omega
            · exact Nat.zero_le _
          obtain ⟨size, bytes⟩ := uncopied_of_full full kept
          have inside : firstTbShare before.length chunk.len ≤
              (chunk.data.take (min (tfdMaxPayloadSize - before.length) chunk.len)).length := by
            rw [List.length_take]
            exact Nat.le_min.mpr ⟨within, share⟩
          rw [size, bytes, List.take_length_add_append, List.take_append_of_le_length inside,
            List.take_take, Nat.min_eq_left within, List.append_assoc,
            ← List.append_assoc (chunk.data.take _), List.take_append_drop]
        · have short : before.length + chunk.len ≤ iwlFirstTbSize := by
            unfold firstTbShare at all
            split at all <;> omega
          have room : min (tfdMaxPayloadSize - before.length) chunk.len = chunk.len := by
            unfold iwlFirstTbSize at short
            unfold tfdMaxPayloadSize
            omega
          have position : before.length + chunk.len = (before ++ chunk.data).length :=
            List.length_append.symm
          have whole := ih (before ++ chunk.data) ordered (by
            rw [← position, plainLen_of_kept kept]
            exact Nat.lt_of_le_of_lt short (by decide))
          rw [room, all, HcmdChunk.len, List.take_length, List.drop_length, List.nil_append]
          rw [HcmdChunk.len] at position
          rw [position, ← List.append_assoc, whole, List.append_assoc]

/-- What is left of a chunk is what lies behind the first bytes of the command: the size and
the position are the same as long as they are below these. -/
theorem restsFit_iff {copySize position : Nat} (ordered : CopiedFirst chunks)
    (fits : copySize + plainLen chunks < 65536)
    (same : min copySize iwlFirstTbSize = min position iwlFirstTbSize) :
    RestsFit gen2 copySize chunks ↔ TailsFit gen2 position chunks := by
  induction chunks generalizing copySize position with
  | nil => exact Iff.rfl
  | cons chunk rest ih =>
    obtain ⟨follows, ordered⟩ := List.pairwise_cons.mp ordered
    have left : restAfter copySize chunk =
        min chunk.len (position + chunk.len - iwlFirstTbSize) := by
      unfold restAfter firstTbShare
      split <;> omega
    rw [RestsFit, TailsFit, left]
    refine and_congr_right fun _ => ih ordered ?_ ?_
    · cases plain : chunk.plain with
      | true =>
        have sum := plainLen_of_plain rest plain
        have size := sizeAfter_le copySize plain
        omega
      | false =>
        have sum := plainLen_of_not_plain rest plain
        unfold sizeAfter
        rw [plain, if_neg Bool.false_ne_true]
        split
        · omega
        · rename_i long
          have none := plainLen_of_kept fun other inside otherLong =>
            follows other inside (Nat.pos_of_ne_zero long) otherLong plain
          unfold firstTbShare iwlFirstTbSize
          split <;> omega
    · unfold sizeAfter firstTbShare
      split
      · omega
      · split
        · rename_i plain
          have sum := plainLen_of_plain rest plain
          rw [Nat.mod_eq_of_lt (by omega)]
          omega
        · split <;> omega

/-- The size and what is left make up the chunks too, unless the size overflows. -/
theorem size_add_uncopied_le (copySize : Nat) (chunks : List HcmdChunk) :
    chunks.foldl sizeAfter copySize + (uncopied copySize chunks).length ≤
        copySize + (chunks.map HcmdChunk.len).sum ∧
      (chunks.foldl sizeAfter copySize + (uncopied copySize chunks).length =
          copySize + (chunks.map HcmdChunk.len).sum → copySize < 65536 →
        copySize + plainLen chunks < 65536) := by
  induction chunks generalizing copySize with
  | nil => exact ⟨Nat.le_refl _, fun _ small => small⟩
  | cons chunk rest ih =>
    obtain ⟨le, fits⟩ := ih (sizeAfter copySize chunk)
    have left := length_drop_share copySize chunk
    have share := firstTbShare_le copySize chunk.len
    rw [List.foldl_cons, uncopied, List.length_append, List.map_cons, List.sum_cons]
    cases plain : chunk.plain with
    | true =>
      have sum := plainLen_of_plain rest plain
      have size := sizeAfter_le copySize plain
      rw [if_pos rfl, List.length_nil, sum]
      refine ⟨by omega, fun same small => ?_⟩
      have whole : sizeAfter copySize chunk = copySize + chunk.len := by omega
      have bounded : copySize + chunk.len < 65536 := by
        rw [← whole, sizeAfter, plain, if_pos rfl]
        split
        · exact small
        · exact Nat.mod_lt _ (by decide)
      have := fits (by omega) (by omega)
      omega
    | false =>
      have sum := plainLen_of_not_plain rest plain
      have size := sizeAfter_of_not_plain copySize plain
      rw [if_neg Bool.false_ne_true, left, restAfter, sum]
      refine ⟨by omega, fun same small => ?_⟩
      by_cases full : copySize < iwlFirstTbSize
      · have short : firstTbShare copySize chunk.len ≤ iwlFirstTbSize - copySize := by
          rw [firstTbShare, if_pos full]
          exact Nat.min_le_left _ _
        unfold iwlFirstTbSize at full short
        have := fits (by omega) (by omega)
        omega
      · have none := firstTbShare_of_le (Nat.not_lt.mp full) chunk.len
        have := fits (by omega) (by omega)
        omega

/-- The header, and what was copied from the chunks, up to the size: it was all written. -/
theorem size_le_copyChunks (before : List UInt8) (ordered : CopiedFirst chunks)
    (fits : before.length + plainLen chunks < 65536) :
    chunks.foldl sizeAfter before.length ≤
      (before ++ (copyChunks chunks before.length before.length).1).length := by
  have whole := congrArg List.length (take_copyChunks before ordered fits)
  have le := (size_add_uncopied_le before.length chunks).1
  have sum : (chunks.flatMap HcmdChunk.data).length = (chunks.map HcmdChunk.len).sum :=
    List.length_flatMap
  rw [List.length_append, List.length_take, @List.length_append _ before (chunks.flatMap _),
    sum] at whole
  omega

/-! ## The transfer buffers -/

/-- The transfer buffers of a command: the first one, one for the rest of what was copied, and
those of the chunks. -/
theorem mapTbs_eq {idx tb0Size copySize : Nat} {chunks : List (HcmdChunk × Nat)}
    (mapped : mapTbs env idx tb0Size copySize chunks = some tbs) :
    ∃ copied rest, tbs = ⟨env.firstTbDma idx, tb0Size⟩ :: copied ++ rest ∧
      mapChunks env 0 chunks = some rest ∧
      ((copySize ≤ tb0Size ∧ copied = []) ∨
        ∃ addr, env.mapFirst = some addr ∧ copied = [⟨addr, copySize - tb0Size⟩]) := by
  rw [mapTbs] at mapped
  split at mapped
  · obtain ⟨copied, first, mapped⟩ := Option.bind_eq_some_iff.mp mapped
    obtain ⟨rest, others, same⟩ := Option.bind_eq_some_iff.mp mapped
    obtain ⟨addr, placed, here⟩ := Option.map_eq_some_iff.mp first
    exact ⟨copied, rest, (Option.some.inj same).symm, others, .inr ⟨addr, placed, here.symm⟩⟩
  · rename_i whole
    obtain ⟨copied, first, mapped⟩ := Option.bind_eq_some_iff.mp mapped
    obtain ⟨rest, others, same⟩ := Option.bind_eq_some_iff.mp mapped
    exact ⟨copied, rest, (Option.some.inj same).symm, others,
      .inl ⟨Nat.not_lt.mp whole, (Option.some.inj first).symm⟩⟩

/-- The transfer buffers describe what was copied up to the size, and what is left of the
chunks. -/
theorem readTfd_mapTbs {idx tb0Size copySize hdrSize : Nat} {bytes : List UInt8}
    (mapped : mapTbs env idx tb0Size copySize (chunks.zip (chunkLens hdrSize chunks)) = some tbs)
    (first : bytes.take tb0Size <+: mem (env.firstTbDma idx))
    (behind : ∀ addr, env.mapFirst = some addr → bytes.drop tb0Size <+: mem addr)
    (dma : ChunksMapped env mem 0 hdrSize chunks) (written : copySize ≤ bytes.length)
    (tb0 : tb0Size ≤ copySize) (small : copySize < tbLimit gen2)
    (fits : RestsFit gen2 hdrSize chunks) :
    readTfd gen2 mem tbs = bytes.take copySize ++ uncopied hdrSize chunks := by
  obtain ⟨copied, rest, rfl, others, kind⟩ := mapTbs_eq mapped
  have head : Tb.read gen2 mem ⟨env.firstTbDma idx, tb0Size⟩ = bytes.take tb0Size := by
    refine Tb.read_eq first ?_ (Nat.lt_of_le_of_lt tb0 small)
    rw [List.length_take, Nat.min_eq_left (Nat.le_trans tb0 written)]
  have middle : readTfd gen2 mem copied = (bytes.take copySize).drop tb0Size := by
    rcases kind with ⟨whole, rfl⟩ | ⟨addr, placed, rfl⟩
    · rw [List.drop_eq_nil_of_le (Nat.le_trans (List.length_take_le _ _) whole)]
      rfl
    · have part : (bytes.take copySize).drop tb0Size <+: mem addr := by
        rw [List.drop_take]
        exact (List.take_prefix _ _).trans (behind addr placed)
      rw [← @Tb.read_eq mem gen2 _ ⟨addr, copySize - tb0Size⟩ part ?_ ?_]
      · exact List.append_nil _
      · rw [List.length_drop, List.length_take, Nat.min_eq_left written]
      · exact Nat.lt_of_le_of_lt (Nat.sub_le _ _) small
  have split : readTfd gen2 mem (⟨env.firstTbDma idx, tb0Size⟩ :: copied ++ rest) =
      Tb.read gen2 mem ⟨env.firstTbDma idx, tb0Size⟩ ++ readTfd gen2 mem copied ++
        readTfd gen2 mem rest := by
    simp [readTfd]
  have together : bytes.take tb0Size = (bytes.take copySize).take tb0Size := by
    rw [List.take_take, Nat.min_eq_left tb0]
  rw [split, head, middle, readTfd_mapChunks others dma fits, together, List.take_append_drop]

/-- They describe no more bytes than that, and fewer if they do not hold what is left. -/
theorem length_readTfd_mapTbs {idx tb0Size copySize hdrSize : Nat} {chunks : List HcmdChunk}
    (mapped : mapTbs env idx tb0Size copySize (chunks.zip (chunkLens hdrSize chunks)) = some tbs)
    (tb0 : tb0Size ≤ copySize) :
    (readTfd gen2 mem tbs).length ≤ copySize + (uncopied hdrSize chunks).length ∧
      ((readTfd gen2 mem tbs).length = copySize + (uncopied hdrSize chunks).length →
        RestsFit gen2 hdrSize chunks) := by
  obtain ⟨copied, rest, rfl, others, kind⟩ := mapTbs_eq mapped
  have head := Nat.le_trans (Tb.read_length_le gen2 mem ⟨env.firstTbDma idx, tb0Size⟩)
    (Nat.mod_le _ _)
  have middle : (readTfd gen2 mem copied).length ≤ copySize - tb0Size := by
    rcases kind with ⟨whole, rfl⟩ | ⟨addr, placed, rfl⟩
    · exact Nat.zero_le _
    · have part := Nat.le_trans (Tb.read_length_le gen2 mem ⟨addr, copySize - tb0Size⟩)
        (Nat.mod_le _ _)
      change (Tb.read gen2 mem _ ++ []).length ≤ _
      rwa [List.append_nil]
  have split : readTfd gen2 mem (⟨env.firstTbDma idx, tb0Size⟩ :: copied ++ rest) =
      Tb.read gen2 mem ⟨env.firstTbDma idx, tb0Size⟩ ++ readTfd gen2 mem copied ++
        readTfd gen2 mem rest := by
    simp [readTfd]
  obtain ⟨shorter, fit⟩ := @length_readTfd_mapChunks env mem gen2 rest 0 hdrSize chunks others
  rw [split, List.length_append, List.length_append]
  dsimp only at head
  exact ⟨by omega, fun same => fit (by omega)⟩

/-! ## Accepted commands -/

theorem scanChunk_cmdSize {kmemdup : Nat → Option DupBuf} {scan scan' : HcmdScan}
    {chunk : HcmdChunk} (passed : scanChunk kmemdup scan chunk = .ok scan')
    (small : scan.cmdSize < 65536) : scan'.cmdSize = (scan.cmdSize + chunk.len) % 65536 := by
  unfold scanChunk at passed
  split at passed
  · rename_i empty
    cases passed
    rw [empty, Nat.add_zero, Nat.mod_eq_of_lt small]
  · dsimp only at passed
    split at passed
    · split at passed
      · cases passed
      · cases passed
        rfl
    · split at passed
      · split at passed
        · cases passed
        · split at passed
          · cases passed
          · cases passed
            rfl
      · split at passed
        · cases passed
        · cases passed
          rfl

/-- `cmd_size` has the lengths of the header and of all chunks, in 16 bits. -/
theorem scanChunks_cmdSize {kmemdup : Nat → Option DupBuf} {chunks : List HcmdChunk}
    {scan scan' : HcmdScan} (passed : scanChunks kmemdup chunks scan = .ok scan')
    (small : scan.cmdSize < 65536) :
    scan'.cmdSize = (scan.cmdSize + (chunks.map HcmdChunk.len).sum) % 65536 := by
  induction chunks generalizing scan with
  | nil =>
    cases passed
    exact (Nat.mod_eq_of_lt small).symm
  | cons chunk rest ih =>
    rw [scanChunks, List.foldlM_cons] at passed
    cases here : scanChunk kmemdup scan chunk with
    | error failed =>
      rw [here] at passed
      cases passed
    | ok next =>
      rw [here] at passed
      have size := scanChunk_cmdSize here small
      have others := ih passed (by rw [size]; exact Nat.mod_lt _ (by decide))
      rw [others, size, List.map_cons, List.sum_cons, Nat.mod_add_mod, Nat.add_assoc]

theorem CopiedFirst.of_wellFlagged {cmd : IwlHostCmd} (flagged : WellFlagged cmd) :
    CopiedFirst cmd.chunks := by
  refine List.pairwise_pair.mpr fun first second kept => ?_
  have follows := (flagged.2.2 first second).2
  unfold HcmdChunk.plain at kept ⊢
  cases nocopy : cmd.second.nocopy with
  | true => rfl
  | false =>
    cases dup : cmd.second.dup with
    | true => rfl
    | false => simp_all

variable {c : CmdConfig} {q q' : CmdQueue} {cmd : IwlHostCmd}

/-- What an accepted command leaves in the entry and the descriptor of the write pointer. -/
structure HcmdSent (c : CmdConfig) (env : HcmdEnv) (q : CmdQueue) (cmd : IwlHostCmd)
    (q' : CmdQueue) : Prop where
  ordered : CopiedFirst cmd.chunks
  small : copiedSize (hcmdHdrSize c cmd) cmd ≤ tfdMaxPayloadSize
  mapped : mapTbs env (iwlPcieGetCmdIndex c.sizes q.writePtr) (hcmdTb0Size c cmd)
    (copiedSize (hcmdHdrSize c cmd) cmd)
    (cmd.chunks.zip (chunkLens (hcmdHdrSize c cmd) cmd.chunks)) = some (hcmdTfd c q q')
  firstTb : q'.firstTbBufs (iwlPcieGetCmdIndex c.sizes q.writePtr) =
    (hcmdEntry c q q').bytes.take (hcmdTb0Size c cmd)
  cmddata : ∃ scan, hcmdScan c env q cmd = .ok scan ∧
    scan.cmddata = [cmd.first.data.drop (firstTbShare (hcmdHdrSize c cmd) cmd.first.len),
      cmd.second.data.drop
        (firstTbShare (sizeAfter (hcmdHdrSize c cmd) cmd.first) cmd.second.len)]
  payload : (hcmdEntry c q q').payload =
    (copyChunks cmd.chunks (hcmdHdrSize c cmd) (hcmdHdrSize c cmd)).1
  wide : (hcmdEntry c q q').hdr.wide = decide (hcmdHdrSize c cmd = cmdHeaderWideSize)
  length : (hcmdEntry c q q').hdr.wide = true →
    (hcmdEntry c q q').hdr.length = (cmd.chunks.map HcmdChunk.len).sum % 65536

/-- What is written to the entry of a command. -/
def hcmdWritten (c : CmdConfig) (q : CmdQueue) (cmd : IwlHostCmd) (scan : HcmdScan)
    (wide : Bool) : CmdEntry :=
  writeEntry cmd wide c.cmdQueue scan.cmdSize q.writePtr
    (copyChunks cmd.chunks (hcmdHdrSize c cmd) (hcmdHdrSize c cmd)).1
    (q.entries (iwlPcieGetCmdIndex c.sizes q.writePtr)).freeBuf

theorem hcmdHdrSize_lt (c : CmdConfig) (cmd : IwlHostCmd) : hcmdHdrSize c cmd < 65536 := by
  unfold hcmdHdrSize hdrSizeOf
  split
  · decide
  · split <;> decide

/-- The last steps of an enqueue whose mappings succeeded. -/
theorem HcmdSent.of_written {wide awake : Bool} {scan : HcmdScan} {tfds : Nat → List Tb}
    {tbs : List Tb} {writePtr : Nat} (passed : hcmdScan c env q cmd = .ok scan)
    (flagged : WellFlagged cmd)
    (cmddata : scan.cmddata =
      [cmd.first.data.drop (firstTbShare (hcmdHdrSize c cmd) cmd.first.len),
        cmd.second.data.drop
          (firstTbShare (sizeAfter (hcmdHdrSize c cmd) cmd.first) cmd.second.len)])
    (small : copiedSize (hcmdHdrSize c cmd) cmd ≤ tfdMaxPayloadSize)
    (kind : wide = decide (hcmdHdrSize c cmd = cmdHeaderWideSize))
    (mapped : mapTbs env (iwlPcieGetCmdIndex c.sizes q.writePtr) (hcmdTb0Size c cmd)
      (copiedSize (hcmdHdrSize c cmd) cmd)
      (cmd.chunks.zip (chunkLens (hcmdHdrSize c cmd) cmd.chunks)) = some tbs) :
    let idx := iwlPcieGetCmdIndex c.sizes q.writePtr
    let entry := hcmdWritten c q cmd scan wide
    HcmdSent c env q cmd
      { takeDupBuf
          { q.duplicated scan.dupBuf with
            entries := Function.update q.entries idx entry
            firstTbBufs :=
              Function.update q.firstTbBufs idx (entry.bytes.take (hcmdTb0Size c cmd))
            tfds := Function.update tfds (if c.gen2 then idx else q.writePtr) tbs }
          idx cmd scan.dupBuf with
        cmdHoldNicAwake := awake
        writePtr := writePtr } := by
  intro idx entry
  generalize sent : CmdQueue.mk _ _ _ _ _ _ _ _ = q'
  have hdr : (hcmdEntry c q q').hdr = entry.hdr := by
    simp [← sent, hcmdEntry, takeDupBuf, CmdQueue.kfree, idx]
  have payload : (hcmdEntry c q q').payload = entry.payload := by
    simp [← sent, hcmdEntry, takeDupBuf, CmdQueue.kfree, idx]
  have slot : hcmdTfd c q q' = tbs := by
    rw [← sent, hcmdTfd]
    exact Function.update_self _ _ _
  have first : q'.firstTbBufs idx = entry.bytes.take (hcmdTb0Size c cmd) := by
    rw [← sent]
    exact Function.update_self _ _ _
  refine ⟨.of_wellFlagged flagged, small, by rw [slot]; exact mapped,
    by rw [first, CmdEntry.bytes, CmdEntry.bytes, hdr, payload], ⟨scan, passed, cmddata⟩,
    payload, by rw [hdr]; exact kind, ?_⟩
  rw [hdr]
  intro (isWide : wide = true)
  have size := scanChunks_cmdSize passed (hcmdHdrSize_lt c cmd)
  have wideSize := of_decide_eq_true (kind.symm.trans isWide)
  change (if wide then (scan.cmdSize + 65536 - cmdHeaderWideSize) % 65536 else 0) = _
  dsimp only at size
  rw [if_pos isWide, size, wideSize, cmdHeaderWideSize]
  omega

theorem hdrSizeOf_eq (cmd : IwlHostCmd) :
    decide (iwlCmdGroupid cmd.id ≠ 0) = decide (hdrSizeOf cmd = cmdHeaderWideSize) := by
  unfold hdrSizeOf
  by_cases short : iwlCmdGroupid cmd.id = 0
  · simp [short, cmdHeaderSize, cmdHeaderWideSize]
  · simp [short]

/-- The first generation. -/
theorem hcmdSent_gen1 (gen1 : c.gen2 = false) {ret : Int}
    (result : iwlPcieEnqueueHcmd c.sizes c.cmdQueue env q cmd = (ret, q'))
    (accepted : 0 ≤ ret) : HcmdSent c env q cmd q' := by
  obtain ⟨z, gen2, cmdQueue, apmg⟩ := c
  obtain rfl : gen2 = false := gen1
  unfold iwlPcieEnqueueHcmd at result
  dsimp only at result
  split at result
  · obtain ⟨rfl, -⟩ := Prod.mk.inj result
    exact absurd accepted (by decide)
  · have outcome := scanChunks_outcome env q (hdrSizeOf cmd) cmd
    generalize passed : scanChunks _ _ _ = scanned at outcome result
    cases outcome with
    | failed ret dupBuf negative own reason =>
      obtain ⟨rfl, -⟩ := Prod.mk.inj result
      omega
    | passed scan scanned own size cmdlen cmddata =>
      have copied : (copyChunks cmd.chunks (hdrSizeOf cmd) (hdrSizeOf cmd)).2 =
          copiedSize (hdrSizeOf cmd) cmd := copyChunks_snd _ _ _
      dsimp only at result
      split at result
      · obtain ⟨rfl, -⟩ := Prod.mk.inj result
        exact absurd accepted (by decide)
      · rename_i fits
        rw [size, Nat.not_lt] at fits
        split at result
        · obtain ⟨rfl, -⟩ := Prod.mk.inj result
          exact absurd accepted (by decide)
        · rw [copied, cmdlen] at result
          split at result
          · obtain ⟨rfl, -⟩ := Prod.mk.inj result
            exact absurd accepted (by decide)
          · rename_i tbs placed
            split at result
            · rename_i ret' failed
              obtain ⟨rfl, -⟩ := Prod.mk.inj result
              have negative := (iwlPcieSetCmdInFlight_error failed).1
              omega
            · obtain ⟨-, rfl⟩ := Prod.mk.inj result
              exact .of_written passed scanned.1 cmddata fits (hdrSizeOf_eq cmd) placed

/-- The second generation. -/
theorem hcmdSent_gen2 (second : c.gen2 = true) {ret : Int}
    (result : iwlPcieGen2EnqueueHcmd c.sizes c.cmdQueue env q cmd = (ret, q'))
    (accepted : 0 ≤ ret) : HcmdSent c env q cmd q' := by
  obtain ⟨z, gen2, cmdQueue, apmg⟩ := c
  obtain rfl : gen2 = true := second
  unfold iwlPcieGen2EnqueueHcmd at result
  dsimp only at result
  have outcome := scanChunks_outcome env q cmdHeaderWideSize cmd
  generalize passed : scanChunks _ _ _ = scanned at outcome result
  cases outcome with
  | failed ret dupBuf negative own reason =>
    obtain ⟨rfl, -⟩ := Prod.mk.inj result
    omega
  | passed scan scanned own size cmdlen cmddata =>
    have copied : (copyChunks cmd.chunks cmdHeaderWideSize cmdHeaderWideSize).2 =
        copiedSize cmdHeaderWideSize cmd := copyChunks_snd _ _ _
    dsimp only at result
    split at result
    · obtain ⟨rfl, -⟩ := Prod.mk.inj result
      exact absurd accepted (by decide)
    · rename_i fits
      rw [size, Nat.not_lt] at fits
      split at result
      · obtain ⟨rfl, -⟩ := Prod.mk.inj result
        exact absurd accepted (by decide)
      · rw [copied, cmdlen] at result
        split at result
        · obtain ⟨rfl, -⟩ := Prod.mk.inj result
          exact absurd accepted (by decide)
        · rename_i tbs placed
          obtain ⟨-, rfl⟩ := Prod.mk.inj result
          exact .of_written passed scanned.1 cmddata fits rfl placed

theorem hcmdSent (accepted : 0 ≤ (enqueueHcmd c env q cmd).1) :
    HcmdSent c env q cmd (enqueueHcmd c env q cmd).2 := by
  unfold enqueueHcmd at accepted ⊢
  cases gen2 : c.gen2 with
  | true =>
    rw [gen2, if_pos rfl] at accepted
    exact hcmdSent_gen2 gen2 rfl accepted
  | false =>
    rw [gen2, if_neg Bool.false_ne_true] at accepted
    exact hcmdSent_gen1 gen2 rfl accepted

theorem HcmdSent.hdr_length (sent : HcmdSent c env q cmd q') :
    (hcmdEntry c q q').hdr.bytes.length = hcmdHdrSize c cmd := by
  have wide := sent.wide
  rw [CmdHeader.bytes, wide]
  unfold hcmdHdrSize hdrSizeOf
  split
  · rfl
  · split <;> rfl

theorem hcmdTb0Size_le (c : CmdConfig) (cmd : IwlHostCmd) :
    hcmdTb0Size c cmd ≤ copiedSize (hcmdHdrSize c cmd) cmd := by
  unfold hcmdTb0Size
  dsimp only
  split <;> omega

theorem copied_lt_tbLimit (sent : HcmdSent c env q cmd q') (gen2 : Bool) :
    copiedSize (hcmdHdrSize c cmd) cmd < tbLimit gen2 := by
  refine Nat.lt_of_le_of_lt sent.small ?_
  cases gen2 <;> decide

/-- A command that is sent flat overflows no size. -/
theorem HcmdSent.fits (sent : HcmdSent c env q cmd q')
    (flat : HcmdFlat c mem q cmd q') : HcmdFits c cmd := by
  obtain ⟨shorter, rests⟩ := @length_readTfd_mapTbs env mem c.gen2 _ _ _ _ _ _ sent.mapped
    (hcmdTb0Size_le c cmd)
  obtain ⟨le, copied⟩ := size_add_uncopied_le (hcmdHdrSize c cmd) cmd.chunks
  have whole := congrArg List.length flat.1
  have sum : (cmd.chunks.flatMap HcmdChunk.data).length = (cmd.chunks.map HcmdChunk.len).sum :=
    List.length_flatMap
  have size : cmd.chunks.foldl sizeAfter (hcmdHdrSize c cmd) =
      copiedSize (hcmdHdrSize c cmd) cmd := rfl
  rw [List.length_append, sent.hdr_length, sum] at whole
  rw [size] at le copied
  have room := copied (by omega) (hcmdHdrSize_lt c cmd)
  refine ⟨room, fun wide => ?_, (restsFit_iff sent.ordered room rfl).mp (rests (by omega))⟩
  have isWide : (hcmdEntry c q q').hdr.wide = true := sent.wide.trans (decide_eq_true wide)
  have length := flat.2 isWide
  rw [sent.length isWide] at length
  rw [← length]
  exact Nat.mod_lt _ (by decide)

/-- A command that overflows no size is sent flat. -/
theorem HcmdSent.flat (sent : HcmdSent c env q cmd q')
    (mapped : HcmdMapped c env mem q cmd q') (fits : HcmdFits c cmd) :
    HcmdFlat c mem q cmd q' := by
  have hdr := sent.hdr_length
  have content := take_copyChunks (hcmdEntry c q q').hdr.bytes sent.ordered
    (by rw [hdr]; exact fits.copied)
  have written := size_le_copyChunks (hcmdEntry c q q').hdr.bytes sent.ordered
    (by rw [hdr]; exact fits.copied)
  rw [hdr, ← sent.payload] at content written
  constructor
  · rw [← content]
    obtain ⟨scan, passed, cmddata⟩ := sent.cmddata
    have chunks := mapped.chunks scan passed
    rw [cmddata] at chunks
    exact readTfd_mapTbs sent.mapped (sent.firstTb ▸ mapped.firstTb) mapped.entry
      ⟨fun addr => chunks 0 _ addr rfl, fun addr => chunks 1 _ addr rfl, trivial⟩ written
      (hcmdTb0Size_le c cmd) (copied_lt_tbLimit sent c.gen2)
      ((restsFit_iff sent.ordered fits.copied rfl).mpr fits.tails)
  · intro wide
    have long := of_decide_eq_true (sent.wide.symm.trans wide)
    rw [sent.length wide, Nat.mod_eq_of_lt (fits.wide long)]

/-- The transfer buffers of an accepted command describe its header and its chunks, each
complete and once, with the length of the chunks in a wide header, exactly when no size
overflows. -/
theorem enqueueHcmd_flat_iff (c : CmdConfig) (env : HcmdEnv) (mem : Nat → List UInt8)
    (q : CmdQueue) (cmd : IwlHostCmd) (accepted : 0 ≤ (enqueueHcmd c env q cmd).1)
    (mapped : HcmdMapped c env mem q cmd (enqueueHcmd c env q cmd).2) :
    HcmdFlat c mem q cmd (enqueueHcmd c env q cmd).2 ↔ HcmdFits c cmd :=
  ⟨(hcmdSent accepted).fits, (hcmdSent accepted).flat mapped⟩

/-- A device that is awake, and memory to spare. -/
def readyEnv : HcmdEnv := { deadEnv with transDead := false }

def hcmdConfig (gen2 : Bool) : CmdConfig := ⟨cmdQueueSizes, gen2, 0, false⟩

/-- The memory that the mappings of this device lead to. -/
def hcmdMem (c : CmdConfig) (q : CmdQueue) (cmd : IwlHostCmd) (q' : CmdQueue) (addr : Nat) :
    List UInt8 :=
  let hdrSize := hcmdHdrSize c cmd
  if addr = 1000 then (hcmdEntry c q q').bytes.drop (hcmdTb0Size c cmd)
  else if addr = 2000 then cmd.first.data.drop (firstTbShare hdrSize cmd.first.len)
  else if addr = 2001 then
    cmd.second.data.drop (firstTbShare (sizeAfter hdrSize cmd.first) cmd.second.len)
  else q'.firstTbBufs addr

theorem hcmdMapped_hcmdMem (gen2 : Bool) (q : CmdQueue) (cmd : IwlHostCmd) (q' : CmdQueue) :
    HcmdMapped (hcmdConfig gen2) readyEnv (hcmdMem (hcmdConfig gen2) q cmd q') q cmd q' where
  firstTb := by
    have small : iwlPcieGetCmdIndex cmdQueueSizes q.writePtr < 32 := by
      rw [iwlPcieGetCmdIndex_eq]
      exact Nat.mod_lt _ (by decide)
    have read : hcmdMem (hcmdConfig gen2) q cmd q' (iwlPcieGetCmdIndex cmdQueueSizes q.writePtr) =
        q'.firstTbBufs (iwlPcieGetCmdIndex cmdQueueSizes q.writePtr) := by
      rw [hcmdMem, if_neg (by omega), if_neg (by omega), if_neg (by omega)]
    exact ⟨[], (List.append_nil _).trans read.symm⟩
  entry addr placed := by
    cases placed
    exact List.prefix_refl _
  chunks scan passed i data addr here placed := by
    have outcome := scanChunks_outcome readyEnv q (hcmdHdrSize (hcmdConfig gen2) cmd) cmd
    rw [show scanChunks _ _ _ = _ from passed] at outcome
    cases outcome with
    | passed _ scanned own size cmdlen cmddata =>
      rw [cmddata] at here
      cases placed
      match i, here with
      | 0, rfl => exact List.prefix_refl _
      | 1, rfl => exact List.prefix_refl _

/-- A command of 6 bytes that are copied and 30 that are not, of which 6 come to the first
transfer buffer. -/
def straddlingHcmd : IwlHostCmd where
  id := 0x0128
  first := ⟨List.replicate 6 1, false, false⟩
  second := ⟨List.replicate 30 2, true, false⟩
  async := false
  wantSkb := false
  asyncCallback := false

def straddlingResult : Int × CmdQueue :=
  enqueueHcmd (hcmdConfig false) readyEnv (outstandingQueue 3) straddlingHcmd

theorem enqueueHcmd_flat_iff_straddling :
    HcmdFlat (hcmdConfig false)
        (hcmdMem (hcmdConfig false) (outstandingQueue 3) straddlingHcmd straddlingResult.2)
        (outstandingQueue 3) straddlingHcmd straddlingResult.2 ↔
      HcmdFits (hcmdConfig false) straddlingHcmd :=
  enqueueHcmd_flat_iff (hcmdConfig false) readyEnv _ (outstandingQueue 3) straddlingHcmd
    (by decide +kernel) (hcmdMapped_hcmdMem _ _ _ _)

/-- A command of one chunk. -/
def longHcmd (data : List UInt8) (nocopy : Bool) : IwlHostCmd where
  id := 0x0128
  first := ⟨data, nocopy, false⟩
  second := ⟨[], false, false⟩
  async := false
  wantSkb := false
  asyncCallback := false

/-- The size of 65535 bytes that are copied overflows to 7, and the command is accepted. -/
theorem longHcmd_accepted {data : List UInt8} (length : data.length = 65535) :
    0 ≤ (enqueueHcmd (hcmdConfig true) readyEnv (outstandingQueue 0) (longHcmd data false)).1 := by
  have len : (longHcmd data false).first.len = 65535 := length
  have first : scanChunk ((outstandingQueue 0).kmemdup readyEnv) ⟨8, 8, false, none, [], []⟩
      (longHcmd data false).first = .ok ⟨7, 7, false, none, [65523], [data.drop 12]⟩ := by
    have share : firstTbShare 8 65535 = 12 := rfl
    unfold scanChunk
    dsimp only
    rw [len, share]
    rfl
  have scanned : scanChunks ((outstandingQueue 0).kmemdup readyEnv) (longHcmd data false).chunks
      ⟨8, 8, false, none, [], []⟩ = .ok ⟨7, 7, false, none, [65523, 0], [data.drop 12, []]⟩ := by
    unfold scanChunks IwlHostCmd.chunks
    rw [List.foldlM_cons, first]
    rfl
  have size : (copyChunks (longHcmd data false).chunks 8 8).2 = 7 := by
    rw [copyChunks_snd]
    unfold IwlHostCmd.chunks
    rw [List.foldl_cons, sizeAfter, len]
    rfl
  change 0 ≤ (iwlPcieGen2EnqueueHcmd cmdQueueSizes 0 readyEnv (outstandingQueue 0) _).1
  unfold iwlPcieGen2EnqueueHcmd
  simp only [cmdHeaderWideSize, scanned, size]
  exact Int.le_refl 0

/-- In the first generation the transfer buffer of a chunk that is not copied has 88 of its
4184 bytes; in the second the copied bytes are described up to the seventh. -/
theorem not_enqueueHcmd_flat :
    (¬∀ (c : CmdConfig) (env : HcmdEnv) (mem : Nat → List UInt8) (q : CmdQueue)
        (cmd : IwlHostCmd), c.gen2 = false → 0 ≤ (enqueueHcmd c env q cmd).1 →
        HcmdMapped c env mem q cmd (enqueueHcmd c env q cmd).2 →
          HcmdFlat c mem q cmd (enqueueHcmd c env q cmd).2) ∧
      ¬∀ (c : CmdConfig) (env : HcmdEnv) (mem : Nat → List UInt8) (q : CmdQueue)
        (cmd : IwlHostCmd), c.gen2 = true → 0 ≤ (enqueueHcmd c env q cmd).1 →
        HcmdMapped c env mem q cmd (enqueueHcmd c env q cmd).2 →
          HcmdFlat c mem q cmd (enqueueHcmd c env q cmd).2 := by
  constructor
  · intro claimed
    have accepted : 0 ≤ (enqueueHcmd (hcmdConfig false) readyEnv (outstandingQueue 0)
        (longHcmd (List.replicate 4200 7) true)).1 := by decide +kernel
    have flat := claimed (hcmdConfig false) readyEnv _ (outstandingQueue 0)
      (longHcmd (List.replicate 4200 7) true) rfl accepted (hcmdMapped_hcmdMem _ _ _ _)
    have small := ((hcmdSent accepted).fits flat).tails.1 rfl
    have len : (longHcmd (List.replicate 4200 7) true).first.len = 4200 := List.length_replicate
    change min (longHcmd (List.replicate 4200 7) true).first.len _ < _ at small
    rw [len] at small
    exact absurd small (by decide)
  · intro claimed
    obtain ⟨data, length⟩ : ∃ data : List UInt8, data.length = 65535 :=
      ⟨List.replicate 65535 7, List.length_replicate⟩
    have accepted := longHcmd_accepted length
    have flat := claimed (hcmdConfig true) readyEnv _ (outstandingQueue 0) (longHcmd data false)
      rfl accepted (hcmdMapped_hcmdMem _ _ _ _)
    have small := ((hcmdSent accepted).fits flat).copied
    have plain : plainLen (longHcmd data false).chunks = 65535 := by
      simp [plainLen, IwlHostCmd.chunks, longHcmd, HcmdChunk.plain, HcmdChunk.len, length]
    rw [plain] at small
    change 8 + 65535 < 65536 at small
    omega

end Iwlwifi
