import Iwlwifi.Fw.ParseTlv

/-!
# What parsing one record reads and records

For a record whose value lies in the file, `handleTlv_handles` says when handling it stays in
the file, which for most types is always, and what it does to the sections of the images, which
for most types is nothing.
-/

namespace Iwlwifi

open Lib

/-- The image whose section a record stores behind an offset word. -/
def UcodeTlvType.sectionOf : UcodeTlvType → Option UcodeType
  | .secRt => some .regular
  | .secInit => some .init
  | .secWowlan => some .wowlan
  | .secureSecRt => some .regular
  | .secureSecInit => some .init
  | .secureSecWowlan => some .wowlan
  | .secRtUsniffer => some .regularUsniffer
  | _ => none

/-- The slot, with its device address, that a whole-image record sets. -/
def UcodeTlvType.imageOf : UcodeTlvType → Option (UcodeType × Nat × Nat)
  | .inst => some (.regular, 1, 0)
  | .data => some (.regular, 0, 0x800000)
  | .init => some (.init, 1, 0)
  | .initData => some (.init, 0, 0x800000)
  | .wowlanInst => some (.wowlan, 1, 0)
  | .wowlanData => some (.wowlan, 0, 0x800000)
  | _ => none

/-- The pieces after a record, as far as sections go. -/
def recordSections (raw : Firmware) (pieces : FirmwarePieces) (tlv : UcodeTlv) :
    FirmwarePieces :=
  match tlv.type.sectionOf, tlv.type.imageOf with
  | some type, _ => storeUcodeSec pieces type tlv.data tlv.len (le32At raw.data tlv.data)
  | none, some (type, sec, offset) =>
      setSec pieces type sec { data := tlv.data, size := tlv.len, offset := offset }
  | none, none => pieces

/-! ## The unchecked reads -/

variable (cfg : DrvConfig) (raw : Firmware) (drv : Drv) (tlv : UcodeTlv)

/-- A destination record's version is in the file, and where it is the first destination of a
known version, so is its monitor mode. -/
def DbgDestReads : Prop :=
  tlv.data + 1 ≤ raw.size ∧
    (u8At raw.data tlv.data ≤ 1 →
      (cfg.deviceTestmode && cfg.supportDebugOverrides && cfg.dbmDestinationPath) = false →
      drv.pieces.dbgDestTlvInit = false → tlv.data + 2 ≤ raw.size)

/-- A configuration's id is in the file, and for a new one so is its uSniffer flag. -/
def DbgConfReads : Prop :=
  tlv.data + 1 ≤ raw.size ∧
    (drv.pieces.dbgDestTlvInit = true → u8At raw.data tlv.data < fwDbgConfMax →
      drv.pieces.dbgConfTlv (u8At raw.data tlv.data) = none → tlv.data + 2 ≤ raw.size)

/-- An ini record's version is in the file, and for version 1 so are `words` more bytes. -/
def IniReads (words : Nat) : Prop :=
  cfg.enableIni = true → tlv.data + 4 ≤ raw.size ∧
    (le32At raw.data tlv.data = 1 → tlv.data + words ≤ raw.size)

/-- The debug configuration name, where it is printed, ends inside the file. -/
def DebugInfoReads : Prop :=
  cfg.enableIni = true → tlv.data + 4 ≤ raw.size ∧
    (le32At raw.data tlv.data = 1 → tlv.len = 76 → cfg.debugFw = true →
      (0 : UInt8) ∈ raw.data.drop (tlv.data + 12))

/-- What handling a record reads without having checked it lies inside the file. -/
def TlvReads : Prop :=
  match tlv.type with
  | .secRt | .secInit | .secWowlan | .secureSecRt | .secureSecInit | .secureSecWowlan
  | .secRtUsniffer | .fwDbgTrigger => tlv.data + 4 ≤ raw.size
  | .fwDbgDest => DbgDestReads cfg raw drv tlv
  | .fwDbgConf => DbgConfReads raw drv tlv
  | .fwFseqVersion => tlv.len = 52 → (0 : UInt8) ∈ raw.data.drop tlv.data
  | .debugInfo => DebugInfoReads cfg raw tlv
  | .bufferAllocation | .regions => IniReads cfg raw tlv 16
  | .hcmd | .triggers => IniReads cfg raw tlv 12
  | _ => True

/-- Handling a record stays in the file exactly if `reads` holds, and leaves `img` as the
images' sections. -/
structure Handles (reads : Prop) (img : UcodeType → List (Option FwSec)) (m : FwReading Drv) :
    Prop where
  inBounds : InBounds m ↔ reads
  sections : Yields (fun after => after.pieces.img = img) m

variable {cfg raw drv tlv} {img : UcodeType → List (Option FwSec)}

namespace Handles

theorem ok {after : Drv} (same : after.pieces.img = img) :
    Handles True img (.ok after) := by
  refine ⟨?_, yields_ok same⟩
  exact ⟨fun _ => trivial, fun _ => inBounds_ok _⟩

theorem ret (code : Int) : Handles True img (.error (.ret code)) := by
  refine ⟨?_, yields_error _⟩
  exact ⟨fun _ => trivial, fun _ => inBounds_ret _⟩

theorem congr {reads reads' : Prop} {m : FwReading Drv} (handles : Handles reads img m)
    (same : reads ↔ reads') : Handles reads' img m :=
  ⟨handles.inBounds.trans same, handles.sections⟩

theorem ite {c : Prop} [Decidable c] {yes no : Prop} {m n : FwReading Drv}
    (whenTrue : Handles yes img m) (whenFalse : Handles no img n) :
    Handles ((c → yes) ∧ (¬ c → no)) img (if c then m else n) := by
  refine ⟨?_, yields_ite whenTrue.sections whenFalse.sections⟩
  split
  · next holds =>
      rw [whenTrue.inBounds]
      exact ⟨fun reads => ⟨fun _ => reads, fun fails => absurd holds fails⟩,
        fun reads => reads.1 holds⟩
  · next fails =>
      rw [whenFalse.inBounds]
      exact ⟨fun reads => ⟨fun holds => absurd holds fails, fun _ => reads⟩,
        fun reads => reads.2 fails⟩

/-- A choice between two continuations that both stay in the file. -/
theorem quiet_ite {c : Prop} [Decidable c] {m n : FwReading Drv}
    (whenTrue : c → Handles True img m) (whenFalse : ¬ c → Handles True img n) :
    Handles True img (if c then m else n) := by
  split
  · next holds => exact whenTrue holds
  · next fails => exact whenFalse fails

variable {f : Nat → FwReading Drv}

theorem readU8 {ofs : Nat} {reads : Nat → Prop}
    (rest : ∀ value, Handles (reads value) img (f value)) :
    Handles (ofs + 1 ≤ raw.size ∧ reads (u8At raw.data ofs)) img
      (Lib.readU8 raw.data ofs >>= f) := by
  refine ⟨?_, yields_bind fun value => (rest value).sections⟩
  rw [inBounds_readU8_bind, (rest _).inBounds]
  rfl

theorem readLe32 {ofs : Nat} {reads : Nat → Prop}
    (rest : ∀ value, Handles (reads value) img (f value)) :
    Handles (ofs + 4 ≤ raw.size ∧ reads (le32At raw.data ofs)) img
      (Lib.readLe32 raw.data ofs >>= f) := by
  refine ⟨?_, yields_bind fun value => (rest value).sections⟩
  rw [inBounds_readLe32_bind, (rest _).inBounds]
  rfl

theorem quiet_readU8 {ofs : Nat} (inside : ofs + 1 ≤ raw.size)
    (rest : ∀ value, Handles True img (f value)) :
    Handles True img (Lib.readU8 raw.data ofs >>= f) :=
  (readU8 rest).congr ⟨fun _ => trivial, fun _ => ⟨inside, trivial⟩⟩

theorem quiet_readLe32 {ofs : Nat} (inside : ofs + 4 ≤ raw.size)
    (rest : ∀ value, Handles True img (f value)) :
    Handles True img (Lib.readLe32 raw.data ofs >>= f) :=
  (readLe32 rest).congr ⟨fun _ => trivial, fun _ => ⟨inside, trivial⟩⟩

theorem quiet_touch {ofs n : Nat} {f : Unit → FwReading Drv} (inside : ofs + n ≤ raw.size)
    (rest : Handles True img (f ())) : Handles True img (Lib.touch raw.data ofs n >>= f) := by
  rw [touch_of_le inside]
  exact rest

end Handles

/-! ## Records with a length check -/

section Inside

variable (inside : tlv.data + tlv.len ≤ raw.size)
include inside

theorem tlvError_handles : Handles True img (tlvError cfg raw tlv) := by
  rw [tlvError]
  refine .quiet_ite (fun _ => ?_) (fun _ => .ret _)
  exact .quiet_touch inside (.ret _)

theorem exactly_handles {size : Nat} {handler : FwReading Drv}
    (checked : tlv.len = size → Handles True img handler) :
    Handles True img (exactly cfg raw tlv size handler) := by
  rw [exactly]
  refine .quiet_ite (fun _ => tlvError_handles inside) fun size_eq => ?_
  exact checked (not_not.mp size_eq)

theorem storeU32_handles {set : Nat → Drv} (same : ∀ value, (set value).pieces.img = img) :
    Handles True img (storeU32 cfg raw tlv set) := by
  refine exactly_handles inside fun size => .quiet_readLe32 (by omega) fun value => ?_
  exact .ok (same value)

theorem storeU32Pair_handles {set : Nat → Nat → Drv}
    (same : ∀ first second, (set first second).pieces.img = img) :
    Handles True img (storeU32Pair cfg raw tlv set) := by
  refine exactly_handles inside fun size => .quiet_readLe32 (by omega) fun first => ?_
  exact .quiet_readLe32 (by omega) fun second => .ok (same first second)

theorem setFlags_handles : Handles True drv.pieces.img (setFlags cfg raw drv tlv) := by
  refine .quiet_ite (fun _ => tlvError_handles inside) fun checked => ?_
  exact .quiet_readLe32 (by omega) fun _ => .ok rfl

theorem setDefaultCalib_handles :
    Handles True drv.pieces.img (setDefaultCalib cfg raw drv tlv) := by
  refine exactly_handles inside fun size => .quiet_readLe32 (by omega) fun type => ?_
  cases UcodeType.ofCode type with
  | none => exact tlvError_handles inside
  | some type =>
      refine .quiet_readLe32 (by omega) fun _ => ?_
      exact .quiet_readLe32 (by omega) fun _ => .ok rfl

theorem setNumOfCpu_handles : Handles True drv.pieces.img (setNumOfCpu cfg raw drv tlv) := by
  refine exactly_handles inside fun size => .quiet_readLe32 (by omega) fun _ => ?_
  refine .quiet_ite (fun _ => .ok rfl) fun _ => ?_
  exact .quiet_ite (fun _ => .ok rfl) fun _ => .ret _

theorem storeCscheme_handles : Handles True drv.pieces.img (storeCscheme cfg raw drv tlv) := by
  refine .quiet_ite (fun _ => tlvError_handles inside) fun nonempty => ?_
  refine .quiet_readU8 (by omega) fun size => ?_
  refine .quiet_ite (fun _ => tlvError_handles inside) fun long => ?_
  refine .quiet_ite (fun _ => .ok rfl) fun size_ne => ?_
  refine .quiet_readLe32 (by omega) fun _ => ?_
  refine .quiet_ite (fun _ => .ok rfl) fun _ => ?_
  exact .quiet_touch (by omega) (.ok rfl)

theorem setPaging_handles : Handles True drv.pieces.img (setPaging cfg raw drv tlv) := by
  refine exactly_handles inside fun size => .quiet_readLe32 (by omega) fun _ => ?_
  exact .quiet_ite (fun _ => .ret _) fun _ => .ok rfl

theorem setIml_handles : Handles True drv.pieces.img (setIml raw drv tlv) :=
  .quiet_touch inside (.ok rfl)

theorem setCmdVersions_handles : Handles True drv.pieces.img (setCmdVersions raw drv tlv) := by
  refine .quiet_ite (fun _ => .ret _) fun _ => ?_
  exact .quiet_touch (by omega) (.ok rfl)

theorem setDumpMask_handles : Handles True drv.pieces.img (setDumpMask raw drv tlv) := by
  refine .quiet_ite (fun _ => .ok rfl) fun size => ?_
  exact .quiet_readLe32 (by omega) fun _ => .ok rfl

theorem addMemSeg_handles : Handles True drv.pieces.img (addMemSeg cfg raw drv tlv) := by
  refine exactly_handles inside fun size => .quiet_readLe32 (by omega) fun _ => ?_
  refine .quiet_readLe32 (by omega) fun _ => ?_
  exact .quiet_readLe32 (by omega) fun _ => .ok rfl

theorem errorEventTable_handles {size : Nat} {set : Nat → Drv} (word : 4 ≤ size)
    (same : ∀ value, (set value).pieces.img = drv.pieces.img) :
    Handles True drv.pieces.img (errorEventTable cfg raw drv tlv size set) := by
  refine exactly_handles inside fun size_eq => ?_
  refine .quiet_ite (fun _ => .ok rfl) fun _ => ?_
  exact .quiet_readLe32 (by omega) fun value => .ok (same _)

/-- The printed version is the one read that a length check does not cover. -/
theorem fseqVersion_handles :
    Handles (tlv.len = 52 → (0 : UInt8) ∈ raw.data.drop tlv.data) drv.pieces.img
      (fseqVersion cfg raw drv tlv) := by
  have printed : Handles ((0 : UInt8) ∈ raw.data.drop tlv.data) drv.pieces.img
      (touchStr raw.data tlv.data >>= fun _ => .ok drv) := by
    refine ⟨?_, yields_bind fun _ => yields_ok rfl⟩
    rw [inBounds_bind, inBounds_touchStr]
    exact ⟨And.left, fun ends => ⟨ends, fun _ _ => inBounds_ok _⟩⟩
  refine (Handles.ite (tlvError_handles inside) printed).congr ?_
  constructor
  · exact fun reads size => reads.2 (not_not.mpr size)
  · exact fun reads => ⟨fun _ => trivial, fun size => reads (not_not.mp size)⟩

end Inside

/-! ## Records without one -/

theorem storeSec_handles (type : UcodeType) :
    Handles (tlv.data + 4 ≤ raw.size)
      (storeUcodeSec drv.pieces type tlv.data tlv.len (le32At raw.data tlv.data)).img
      (storeSec raw drv tlv type) := by
  refine ⟨?_, ?_⟩
  · rw [storeSec, inBounds_readLe32_bind]
    exact and_iff_left (inBounds_pure _)
  · intro after stored
    have inside : tlv.data + 4 ≤ raw.data.length := by
      have stays : InBounds (storeSec raw drv tlv type) := by
        rw [stored]
        exact inBounds_ok after
      exact (inBounds_readLe32_bind.mp stays).1
    rw [storeSec, readLe32_of_le inside] at stored
    cases stored
    rfl

theorem storeMvmSec_handles (type : UcodeType) :
    Handles (tlv.data + 4 ≤ raw.size)
      (storeUcodeSec drv.pieces type tlv.data tlv.len (le32At raw.data tlv.data)).img
      (storeMvmSec raw drv tlv type) := by
  have stored : Handles _ _ (storeSec raw drv tlv type) := storeSec_handles type
  refine ⟨?_, ?_⟩
  · rw [storeMvmSec, inBounds_bind, stored.inBounds]
    exact and_iff_left fun _ _ => inBounds_pure _
  · intro after done
    cases sec : storeSec raw drv tlv type with
    | error stop => rw [storeMvmSec, sec] at done; cases done
    | ok drv' =>
        rw [storeMvmSec, sec] at done
        cases done
        exact stored.sections drv' sec

theorem setFwDbgDest_handles :
    Handles (DbgDestReads cfg raw drv tlv) drv.pieces.img (setFwDbgDest cfg raw drv tlv) := by
  refine Handles.congr (.readU8 fun version => .ite (.ok rfl) <| .ite (.ok rfl) <|
    .ite (.ok rfl) <| .readU8 fun _ => .ok rfl) ?_
  refine and_congr_right fun _ => ?_
  simp only [implies_true, true_and, and_true, Nat.not_lt, Bool.not_eq_true]

theorem setFwDbgConf_handles :
    Handles (DbgConfReads raw drv tlv) drv.pieces.img (setFwDbgConf raw drv tlv) := by
  refine Handles.congr (.readU8 fun id => .ite (.ok rfl) <| .ite (.ok rfl) <|
    .ite (.ok rfl) <| .readU8 fun _ => .ok rfl) ?_
  refine and_congr_right fun _ => ?_
  simp only [implies_true, true_and, and_true, Nat.not_le, Bool.not_eq_true,
    Bool.not_eq_false, Option.isSome_eq_false_iff, Option.isNone_iff_eq_none]

theorem setFwDbgTrigger_handles :
    Handles (tlv.data + 4 ≤ raw.size) drv.pieces.img (setFwDbgTrigger raw drv tlv) := by
  refine Handles.congr (.readLe32 fun id => .quiet_ite (fun _ => .ok rfl) fun _ =>
    .quiet_ite (fun _ => .ok rfl) fun _ => .ok rfl) ?_
  exact and_iff_left trivial

/-! ## Debug TLVs of the ini format -/

theorem dbgTlvAlloc_handles {alloc : FwReading Unit} {reads : Prop}
    (allocated : InBounds alloc ↔ reads) :
    Handles (cfg.enableIni = true → tlv.data + 4 ≤ raw.size ∧
        (le32At raw.data tlv.data = 1 → reads)) drv.pieces.img
      (dbgTlvAlloc cfg raw drv tlv alloc) := by
  have added : Handles reads drv.pieces.img (alloc >>= fun _ => .ok drv) := by
    refine ⟨?_, yields_bind fun _ => yields_ok rfl⟩
    rw [inBounds_bind, allocated]
    exact and_iff_left fun _ _ => inBounds_ok _
  refine Handles.congr (.ite (.ok rfl) (.readLe32 fun version => .ite (.ok rfl) added)) ?_
  simp only [implies_true, true_and, ne_eq, not_not]

section Inside

variable (header : 8 ≤ tlv.data) (inside : tlv.data + tlv.len ≤ raw.size)
include header inside

theorem inBounds_dbgTlvAdd : InBounds (dbgTlvAdd raw tlv) := by
  rw [dbgTlvAdd, inBounds_touch]
  change tlv.data - 8 + (8 + tlv.len) ≤ raw.size
  omega

theorem inBounds_dbgTlvAllocDebugInfo :
    InBounds (dbgTlvAllocDebugInfo cfg raw tlv) ↔
      (tlv.len = 76 → cfg.debugFw = true → (0 : UInt8) ∈ raw.data.drop (tlv.data + 12)) := by
  rw [dbgTlvAllocDebugInfo]
  split
  · next size => exact ⟨fun _ same => absurd same size, fun _ => inBounds_pure _⟩
  split
  · next size debug =>
      rw [inBounds_bind, inBounds_touchStr]
      constructor
      · exact fun reads _ _ => reads.1
      · exact fun reads => ⟨reads (not_not.mp size) debug,
          fun _ _ => inBounds_dbgTlvAdd header inside⟩
  · next debug =>
      exact ⟨fun _ _ same => absurd same debug, fun _ => inBounds_dbgTlvAdd header inside⟩

omit header in
theorem inBounds_dbgTlvAllocBufAlloc :
    InBounds (dbgTlvAllocBufAlloc raw tlv) ↔ tlv.data + 16 ≤ raw.size := by
  rw [dbgTlvAllocBufAlloc, inBounds_readLe32_bind]
  refine and_iff_left_of_imp fun read => ?_
  rw [inBounds_readLe32_bind]
  refine ⟨by omega, ?_⟩
  split
  · exact inBounds_pure _
  split
  · exact inBounds_pure _
  · next size _ =>
      rw [inBounds_touch]
      change tlv.data + 28 ≤ raw.size
      omega

theorem inBounds_dbgTlvAllocHcmd :
    InBounds (dbgTlvAllocHcmd raw tlv) ↔ tlv.data + 12 ≤ raw.size := by
  rw [dbgTlvAllocHcmd, inBounds_readLe32_bind]
  refine and_iff_left_of_imp fun _ => ?_
  split
  · exact inBounds_pure _
  split
  · exact inBounds_pure _
  · exact inBounds_dbgTlvAdd header inside

theorem inBounds_dbgTlvAllocRegion :
    InBounds (dbgTlvAllocRegion raw tlv) ↔ tlv.data + 16 ≤ raw.size := by
  rw [dbgTlvAllocRegion, inBounds_readLe32_bind, inBounds_readLe32_bind, ← and_assoc]
  change (tlv.data + 8 + 4 ≤ raw.size ∧ tlv.data + 12 + 4 ≤ raw.size) ∧ _ ↔ _
  constructor
  · exact fun reads => reads.1.2
  · intro read
    refine ⟨⟨by omega, read⟩, ?_⟩
    split
    · exact inBounds_pure _
    split
    · exact inBounds_pure _
    · rw [inBounds_touch]
      change tlv.data - 8 + (8 + tlv.len) % 2 ^ 32 ≤ raw.size
      have := Nat.mod_le (8 + tlv.len) (2 ^ 32)
      omega

theorem inBounds_dbgTlvAllocTrigger :
    InBounds (dbgTlvAllocTrigger raw tlv) ↔ tlv.data + 12 ≤ raw.size := by
  rw [dbgTlvAllocTrigger, inBounds_readLe32_bind]
  refine and_iff_left_of_imp fun _ => ?_
  split
  · exact inBounds_pure _
  split
  · exact inBounds_pure _
  · next size _ =>
      rw [inBounds_readLe32_bind]
      refine ⟨?_, inBounds_dbgTlvAdd header inside⟩
      change tlv.data + 24 + 4 ≤ raw.size
      omega

/-! ## Every type -/

/-- What one record does, type by type. -/
theorem handleTlv_handles :
    Handles (TlvReads cfg raw drv tlv) (recordSections raw drv.pieces tlv).img
      (handleTlv cfg raw drv tlv) := by
  obtain ⟨type, len, data⟩ := tlv
  cases type with
  | inst => exact .ok rfl
  | data => exact .ok rfl
  | init => exact .ok rfl
  | initData => exact .ok rfl
  | wowlanInst => exact .ok rfl
  | wowlanData => exact .ok rfl
  | secRt => exact storeMvmSec_handles .regular
  | secInit => exact storeMvmSec_handles .init
  | secWowlan => exact storeMvmSec_handles .wowlan
  | secureSecRt => exact storeMvmSec_handles .regular
  | secureSecInit => exact storeMvmSec_handles .init
  | secureSecWowlan => exact storeMvmSec_handles .wowlan
  | secRtUsniffer =>
      have stored : Handles _ _ (storeSec raw { drv with usnifferImages := true }
        ⟨.secRtUsniffer, len, data⟩ .regularUsniffer) := storeSec_handles .regularUsniffer
      exact stored
  | boot => exact .ok rfl
  | fwGscanCapa => exact .ok rfl
  | unknown => exact .ok rfl
  | probeMaxLen | initEvtlogPtr | initEvtlogSize | initErrlogPtr | runtEvtlogPtr | runtEvtlogSize
  | runtErrlogPtr | phyCalibrationSize | phySku | nScanChannels =>
      exact storeU32_handles inside fun _ => rfl
  | pan | enhanceSensTbl => exact exactly_handles inside fun _ => .ok rfl
  | fwVersion =>
      exact exactly_handles inside fun size => .quiet_touch (size ▸ inside) (.ok rfl)
  | flags => exact setFlags_handles inside
  | apiChangesSet =>
      refine storeU32Pair_handles inside fun index flags => ?_
      rw [setUcodeApiFlags]
      split <;> rfl
  | enabledCapabilities =>
      refine storeU32Pair_handles inside fun index flags => ?_
      rw [setUcodeCapabilities]
      split <;> rfl
  | fwRecoveryInfo => exact storeU32Pair_handles inside fun _ _ => rfl
  | fwFmacApiVersion =>
      exact .quiet_ite (fun _ => storeU32_handles inside fun _ => rfl) fun _ => .ok rfl
  | fwFmacRecoveryInfo =>
      exact .quiet_ite (fun _ => storeU32Pair_handles inside fun _ _ => rfl) fun _ => .ok rfl
  | defCalib => exact setDefaultCalib_handles inside
  | numOfCpu => exact setNumOfCpu_handles inside
  | cscheme => exact storeCscheme_handles inside
  | paging => exact setPaging_handles inside
  | iml => exact setIml_handles inside
  | cmdVersions => exact setCmdVersions_handles inside
  | fwDbgDumpLst => exact setDumpMask_handles inside
  | fwMemSeg => exact addMemSeg_handles inside
  | umacDebugAddrs => exact errorEventTable_handles inside (by decide : 4 ≤ 8) fun _ => rfl
  | lmacDebugAddrs => exact errorEventTable_handles inside (by decide : 4 ≤ 32) fun _ => rfl
  | fwFseqVersion => exact fseqVersion_handles inside
  | fwDbgDest => exact setFwDbgDest_handles
  | fwDbgConf => exact setFwDbgConf_handles
  | fwDbgTrigger => exact setFwDbgTrigger_handles
  | debugInfo => exact dbgTlvAlloc_handles (inBounds_dbgTlvAllocDebugInfo header inside)
  | bufferAllocation => exact dbgTlvAlloc_handles (inBounds_dbgTlvAllocBufAlloc inside)
  | hcmd => exact dbgTlvAlloc_handles (inBounds_dbgTlvAllocHcmd header inside)
  | regions => exact dbgTlvAlloc_handles (inBounds_dbgTlvAllocRegion header inside)
  | triggers => exact dbgTlvAlloc_handles (inBounds_dbgTlvAllocTrigger header inside)

end Inside

end Iwlwifi
