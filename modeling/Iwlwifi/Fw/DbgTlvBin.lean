import Mathlib.Data.Fintype.Basic
import Mathlib.Tactic.FinCases
import Iwlwifi.Lib.Overwrite
import Iwlwifi.Lib.ReadLoop
import Iwlwifi.Fw.TlvFile

/-!
# The debug configuration file

`iwl_dbg_tlv_parse_bin` walks over the TLVs of `iwl-debug-yoyo.bin` and hands each of them to
`iwl_dbg_tlv_alloc`, which looks up a handler for its type.  The handlers put it into one of
several tables, at an index that they take from the TLV.

Two things go wrong with the bounds.  The length of a TLV is checked against what is left of the
file before it is rounded up, so a last TLV without its padding makes `len` wrap around, and the
walk goes on behind the file.  And the version, the ids and the time point of a TLV are read
before its length is looked at.

A read behind the file and an index behind a table both stop the model with `outOfBounds`.
-/

namespace Iwlwifi.DbgTlvBin

open Lib

/-- The compilation and the device: whether texts for `IWL_DL_FW` are printed, and which sizes
`kzalloc` and `kmemdup` have memory for. -/
structure Config where
  debugFw : Bool
  allocates : Nat → Bool

/-- `struct iwl_ucode_tlv`: its type and length, and where its data are. -/
structure DbgTlv where
  type : Nat
  len : Nat
  data : Nat
  deriving DecidableEq, Repr

/-- `enum iwl_ini_cfg_state`. -/
inductive IniCfgState where
  | notLoaded
  | loaded
  | corrupted
  deriving DecidableEq, Repr

def allocationNum : Nat := 4

def maxRegionId : Nat := 64

def regionNum : Nat := 17

def timePointNum : Nat := 27

abbrev dbgTlvTypeNum : Nat := 5

def dbgTlvBase : Nat := 0x1000005

/-- What the handlers fill in, and the file, in which one of them writes. -/
structure DbgTrans where
  bin : List UInt8
  externalIniCfg : IniCfgState
  debugInfoList : List (List UInt8)
  fwMonCfg : Fin allocationNum → Option (List UInt8)
  activeRegions : Fin maxRegionId → Option (List UInt8)
  hcmdList : Fin timePointNum → List (List UInt8)
  trigList : Fin timePointNum → List (List UInt8)

def einval : Int := -22

def enomem : Int := -12

/-- An index into a table. -/
def index (size i : Nat) : FwReading (Fin size) :=
  if inside : i < size then .ok ⟨i, inside⟩ else .error .outOfBounds

/-! ## The handlers -/

section Handlers

variable (cfg : Config) (trans : DbgTrans) (tlv : DbgTlv)

/-- `iwl_dbg_tlv_add`: a copy of the TLV with its header goes into a list. -/
def dbgTlvAdd (put : List UInt8 → DbgTrans) : FwReading (DbgTrans × Int) :=
  if cfg.allocates (24 + tlv.len) then do
    touch trans.bin (tlv.data - 8) (8 + tlv.len)
    return (put (window trans.bin (tlv.data - 8) (8 + tlv.len)), 0)
  else return (trans, enomem)

/-- The text with `debug_cfg_name`. -/
def printCfgName : FwReading Unit :=
  if cfg.debugFw then touchStr trans.bin (tlv.data + 12) else return ()

/-- `iwl_dbg_tlv_alloc_debug_info`. -/
def allocDebugInfo : FwReading (DbgTrans × Int) :=
  if tlv.len ≠ 76 then return (trans, einval)
  else do
    printCfgName cfg trans tlv
    dbgTlvAdd cfg trans tlv fun copy =>
      { trans with debugInfoList := trans.debugInfoList ++ [copy] }

/-- `iwl_dbg_tlv_alloc_buf_alloc`. -/
def allocBufAlloc : FwReading (DbgTrans × Int) := do
  let bufLocation ← readLe32 trans.bin (tlv.data + 12)
  let allocId ← readLe32 trans.bin (tlv.data + 8)
  if tlv.len ≠ 28 ∨ (bufLocation ≠ 1 ∧ bufLocation ≠ 2) then return (trans, einval)
  else if (bufLocation = 1 ∧ allocId ≠ 1) ∨
      (bufLocation = 2 ∧ (allocId = 0 ∨ allocationNum ≤ allocId)) then
    return (trans, einval)
  else do
    let id ← index allocationNum allocId
    touch trans.bin tlv.data 28
    return ({ trans with
      fwMonCfg := Function.update trans.fwMonCfg id (some (window trans.bin tlv.data 28)) }, 0)

/-- `iwl_dbg_tlv_alloc_hcmd`. -/
def allocHcmd : FwReading (DbgTrans × Int) := do
  let tp ← readLe32 trans.bin (tlv.data + 8)
  if tlv.len ≤ 20 then return (trans, einval)
  else if tp = 0 ∨ timePointNum ≤ tp ∨ tp = 1 then return (trans, einval)
  else do
    let tp ← index timePointNum tp
    dbgTlvAdd cfg trans tlv fun copy =>
      { trans with
        hcmdList := Function.update trans.hcmdList tp (trans.hcmdList tp ++ [copy]) }

/-- `iwl_dbg_tlv_alloc_region`; the length of the copy is computed in 32 bits. -/
def allocRegion : FwReading (DbgTrans × Int) := do
  let id ← readLe32 trans.bin (tlv.data + 8)
  let type ← readLe32 trans.bin (tlv.data + 12)
  let tlvLen := (8 + tlv.len) % 2 ^ 32
  if tlv.len < 64 then return (trans, einval)
  else if maxRegionId ≤ id then return (trans, einval)
  else if type = 0 ∨ regionNum ≤ type then return (trans, einval)
  else do
    let id ← index maxRegionId id
    if cfg.allocates tlvLen then do
      touch trans.bin (tlv.data - 8) tlvLen
      return ({ trans with
        activeRegions := Function.update trans.activeRegions id
          (some (window trans.bin (tlv.data - 8) tlvLen)) }, 0)
    else
      return ({ trans with activeRegions := Function.update trans.activeRegions id none }, enomem)

/-- `trig->occurrences = cpu_to_le32(-1)`, where they are zero. -/
def setOccurrences (occurrences : Nat) : DbgTrans :=
  if occurrences = 0 then
    { trans with bin := overwrite trans.bin (tlv.data + 24) [255, 255, 255, 255] }
  else trans

/-- `iwl_dbg_tlv_alloc_trigger`. -/
def allocTrigger : FwReading (DbgTrans × Int) := do
  let tp ← readLe32 trans.bin (tlv.data + 8)
  if tlv.len < 52 then return (trans, einval)
  else if tp = 0 ∨ timePointNum ≤ tp then return (trans, einval)
  else do
    let occurrences ← readLe32 trans.bin (tlv.data + 24)
    let trans := setOccurrences trans tlv occurrences
    let tp ← index timePointNum tp
    dbgTlvAdd cfg trans tlv fun copy =>
      { trans with
        trigList := Function.update trans.trigList tp (trans.trigList tp ++ [copy]) }

/-- `dbg_tlv_alloc[]`. -/
def dbgTlvAllocTable : Fin dbgTlvTypeNum → FwReading (DbgTrans × Int)
  | 0 => allocDebugInfo cfg trans tlv
  | 1 => allocBufAlloc trans tlv
  | 2 => allocHcmd cfg trans tlv
  | 3 => allocRegion cfg trans tlv
  | 4 => allocTrigger cfg trans tlv

/-- `dbg_ver_table[]`: the least and the greatest version of a type. -/
def dbgVerTable : Fin dbgTlvTypeNum → Nat × Nat := fun _ => (1, 1)

end Handlers

/-- `iwl_dbg_tlv_ver_support`. -/
def verSupport (bin : List UInt8) (tlv : DbgTlv) (tlvIdx : Nat) : FwReading Bool := do
  let ver ← readLe32 bin tlv.data
  let i ← index dbgTlvTypeNum tlvIdx
  return decide ((dbgVerTable i).1 ≤ ver ∧ ver ≤ (dbgVerTable i).2)

/-- The end of `iwl_dbg_tlv_alloc`, behind the handler. -/
def allocated (trans : DbgTrans) (ret : Int) : DbgTrans :=
  if ret ≠ 0 then { trans with externalIniCfg := .corrupted }
  else if trans.externalIniCfg = .notLoaded then { trans with externalIniCfg := .loaded }
  else trans

@[irreducible] def tlvIdx (type : Nat) : Nat := (type + 2 ^ 32 - dbgTlvBase) % 2 ^ 32

/-- `iwl_dbg_tlv_alloc` for a TLV of the file. -/
def dbgTlvAlloc (cfg : Config) (trans : DbgTrans) (tlv : DbgTlv) : FwReading DbgTrans :=
  if dbgTlvTypeNum ≤ tlvIdx tlv.type then
    return { trans with externalIniCfg := .corrupted }
  else do
    let supported ← verSupport trans.bin tlv (tlvIdx tlv.type)
    if supported then do
      let i ← index dbgTlvTypeNum (tlvIdx tlv.type)
      let result ← dbgTlvAllocTable cfg trans tlv i
      return allocated result.1 result.2
    else return { trans with externalIniCfg := .corrupted }

/-! ## The walk over the file -/

/-- Where the walk stands: the next TLV, what `len` says is left, and the tables. -/
structure BinLoop where
  data : Nat
  len : Nat
  trans : DbgTrans

/-- The TLV that the walk stands at. -/
def BinLoop.tlv (loop : BinLoop) : DbgTlv where
  type := le32At loop.trans.bin loop.data
  len := le32At loop.trans.bin (loop.data + 4)
  data := loop.data + 8

/-- One turn of the loop of `iwl_dbg_tlv_parse_bin`. -/
def parseBinTlv (cfg : Config) (loop : BinLoop) : FwReading BinLoop := do
  let tlvLen ← readLe32 loop.trans.bin (loop.data + 4)
  if loop.len - 8 < tlvLen then .error (.ret einval)
  else do
    let type ← readLe32 loop.trans.bin loop.data
    let trans ← dbgTlvAlloc cfg loop.trans { type, len := tlvLen, data := loop.data + 8 }
    return { data := loop.data + 8 + align4 tlvLen
             len := (loop.len - 8 + 2 ^ 64 - align4 tlvLen) % 2 ^ 64
             trans }

def BinLoop.more (loop : BinLoop) : Bool := decide (8 ≤ loop.len)

/-- `iwl_dbg_tlv_parse_bin` of a file, with the tables as they are. -/
def parseBin (cfg : Config) (file : Firmware) (trans : DbgTrans) (fuel : Nat) :
    Option (FwReading BinLoop) :=
  readWhile BinLoop.more (parseBinTlv cfg) fuel
    { data := 0, len := file.size, trans := { trans with bin := file.data } }

/-! ## What is wanted -/

/-- The walk hands the TLV that it stands at to `iwl_dbg_tlv_alloc`. -/
structure PassesOn (loop : BinLoop) : Prop where
  more : 8 ≤ loop.len
  header : loop.data + 8 ≤ loop.trans.bin.length
  fits : loop.tlv.len ≤ loop.len - 8

/-- The states at the head of the loop for a file. -/
abbrev Reached (cfg : Config) (file : Firmware) (trans : DbgTrans) : BinLoop → Prop :=
  Turn BinLoop.more (parseBinTlv cfg)
    { data := 0, len := file.size, trans := { trans with bin := file.data } }

/-- The walk ends, reads only in the file, uses only indices of its tables, and passes on only
TLVs of the file. -/
structure StaysInFile (cfg : Config) (file : Firmware) (trans : DbgTrans) : Prop where
  returns : ∃ fuel outcome, parseBin cfg file trans fuel = some outcome ∧ InBounds outcome
  passed : ∀ loop, Reached cfg file trans loop → PassesOn loop →
    loop.tlv.data + loop.tlv.len ≤ file.size

/-- What the handler of a TLV of version 1 reads without a check lies in the file. -/
def FieldReads (cfg : Config) (bin : List UInt8) (tlv : DbgTlv) : Fin dbgTlvTypeNum → Prop
  | 0 => tlv.len = 76 → cfg.debugFw = true → (0 : UInt8) ∈ bin.drop (tlv.data + 12)
  | 1 => tlv.data + 16 ≤ bin.length
  | 2 => tlv.data + 12 ≤ bin.length
  | 3 => tlv.data + 16 ≤ bin.length
  | 4 => tlv.data + 12 ≤ bin.length

/-- The version of a TLV with a handler lies in the file, and so do the fields. -/
def DbgReads (cfg : Config) (bin : List UInt8) (tlv : DbgTlv) : Prop :=
  ∀ known : tlvIdx tlv.type < dbgTlvTypeNum, tlv.data + 4 ≤ bin.length ∧
    (le32At bin tlv.data = 1 → FieldReads cfg bin tlv ⟨tlvIdx tlv.type, known⟩)

/-- What has to hold where the walk takes up a TLV. -/
structure TlvReadable (cfg : Config) (file : Firmware) (loop : BinLoop) : Prop where
  /-- The padding of the TLV before has not made `len` wrap. -/
  remaining : loop.len ≤ file.size
  reads : loop.tlv.len ≤ loop.len - 8 → DbgReads cfg loop.trans.bin loop.tlv

variable {cfg : Config} {file : Firmware} {trans : DbgTrans} {tlv : DbgTlv} {loop after : BinLoop}

/-! ## The handlers -/

theorem inBounds_index_bind {β : Type} {size i : Nat} {f : Fin size → FwReading β}
    (inside : i < size) : InBounds (index size i >>= f) ↔ InBounds (f ⟨i, inside⟩) := by
  rw [index, dif_pos inside]
  rfl

theorem yields_pure {α : Type} {P : α → Prop} {a : α} (holds : P a) :
    Yields P (pure a : FwReading α) := yields_ok holds

/-- A handler stays in the file and in its tables exactly if `reads` holds, and keeps the length
of the file. -/
structure Handled (reads : Prop) (trans : DbgTrans) (m : FwReading (DbgTrans × Int)) : Prop where
  inBounds : InBounds m ↔ reads
  length : Yields (fun result => result.1.bin.length = trans.bin.length) m

section Inside

variable (header : 8 ≤ tlv.data) (inside : tlv.data + tlv.len ≤ trans.bin.length)
include header inside

theorem dbgTlvAdd_handled {put : List UInt8 → DbgTrans}
    (kept : ∀ copy, (put copy).bin.length = trans.bin.length) :
    Handled True trans (dbgTlvAdd cfg trans tlv put) := by
  rw [dbgTlvAdd]
  constructor
  · split
    · rw [inBounds_touch_bind]
      refine iff_true_intro ⟨?_, inBounds_pure _⟩
      omega
    · exact iff_true_intro (inBounds_pure _)
  · exact yields_ite (yields_bind fun _ => yields_pure (kept _)) (yields_pure rfl)

theorem allocDebugInfo_handled :
    Handled (tlv.len = 76 → cfg.debugFw = true → (0 : UInt8) ∈ trans.bin.drop (tlv.data + 12))
      trans (allocDebugInfo cfg trans tlv) := by
  have add : Handled True trans (dbgTlvAdd cfg trans tlv fun copy =>
      { trans with debugInfoList := trans.debugInfoList ++ [copy] }) :=
    dbgTlvAdd_handled header inside fun _ => rfl
  rw [allocDebugInfo]
  constructor
  · split
    · next other => exact ⟨fun _ same => absurd same other, fun _ => inBounds_pure _⟩
    · next same =>
        have print : InBounds (printCfgName cfg trans tlv) ↔
            (cfg.debugFw = true → (0 : UInt8) ∈ trans.bin.drop (tlv.data + 12)) := by
          rw [printCfgName]
          split
          · next on => exact inBounds_touchStr.trans ⟨fun ends _ => ends, fun ends => ends on⟩
          · next off => exact ⟨fun _ on => absurd on off, fun _ => inBounds_pure _⟩
        rw [inBounds_bind, print]
        constructor
        · exact fun stays _ => stays.1
        · exact fun reads => ⟨reads (not_not.mp same), fun _ _ => add.inBounds.mpr trivial⟩
  · exact yields_ite (yields_pure rfl) (yields_bind fun _ => add.length)

omit header in
theorem allocBufAlloc_handled :
    Handled (tlv.data + 16 ≤ trans.bin.length) trans (allocBufAlloc trans tlv) := by
  rw [allocBufAlloc]
  constructor
  · rw [inBounds_readLe32_bind]
    refine and_iff_left_of_imp fun read => ?_
    rw [inBounds_readLe32_bind]
    refine ⟨by omega, ?_⟩
    split
    · exact inBounds_pure _
    split
    · exact inBounds_pure _
    · next size id =>
        have bound : le32At trans.bin (tlv.data + 8) < allocationNum := by
          rw [allocationNum] at id ⊢
          omega
        rw [inBounds_index_bind bound, inBounds_touch_bind]
        refine ⟨?_, inBounds_pure _⟩
        omega
  · refine yields_bind fun _ => yields_bind fun _ => yields_ite (yields_pure rfl) ?_
    exact yields_ite (yields_pure rfl)
      (yields_bind fun _ => yields_bind fun _ => yields_pure rfl)

theorem allocHcmd_handled :
    Handled (tlv.data + 12 ≤ trans.bin.length) trans (allocHcmd cfg trans tlv) := by
  rw [allocHcmd]
  constructor
  · rw [inBounds_readLe32_bind]
    refine and_iff_left_of_imp fun _ => ?_
    split
    · exact inBounds_pure _
    split
    · exact inBounds_pure _
    · next _ tp =>
        rw [inBounds_index_bind (by omega)]
        refine (dbgTlvAdd_handled header inside ?_).inBounds.mpr trivial
        exact fun _ => rfl
  · refine yields_bind fun _ => yields_ite (yields_pure rfl) ?_
    refine yields_ite (yields_pure rfl) (yields_bind fun _ => ?_)
    refine (dbgTlvAdd_handled header inside ?_).length
    exact fun _ => rfl

theorem allocRegion_handled :
    Handled (tlv.data + 16 ≤ trans.bin.length) trans (allocRegion cfg trans tlv) := by
  rw [allocRegion]
  constructor
  · rw [inBounds_readLe32_bind, inBounds_readLe32_bind, ← and_assoc]
    constructor
    · exact fun stays => stays.1.2
    · intro read
      refine ⟨⟨by omega, read⟩, ?_⟩
      split
      · exact inBounds_pure _
      split
      · exact inBounds_pure _
      split
      · exact inBounds_pure _
      · next id _ =>
          rw [inBounds_index_bind (by omega)]
          split
          · rw [inBounds_touch_bind]
            refine ⟨?_, inBounds_pure _⟩
            have := Nat.mod_le (8 + tlv.len) (2 ^ 32)
            omega
          · exact inBounds_pure _
  · refine yields_bind fun _ => yields_bind fun _ => yields_ite (yields_pure rfl) ?_
    refine yields_ite (yields_pure rfl) (yields_ite (yields_pure rfl) ?_)
    refine yields_bind fun _ => yields_ite ?_ (yields_pure rfl)
    exact yields_bind fun _ => yields_pure rfl

omit header in
theorem length_setOccurrences (long : 52 ≤ tlv.len) (occurrences : Nat) :
    (setOccurrences trans tlv occurrences).bin.length = trans.bin.length := by
  rw [setOccurrences]
  split
  · refine overwrite_length ?_
    rw [List.length_cons, List.length_cons, List.length_cons, List.length_singleton]
    omega
  · rfl

theorem allocTrigger_handled :
    Handled (tlv.data + 12 ≤ trans.bin.length) trans (allocTrigger cfg trans tlv) := by
  have add (long : 52 ≤ tlv.len) (n : Nat) {put : List UInt8 → DbgTrans}
      (kept : ∀ copy, (put copy).bin.length = (setOccurrences trans tlv n).bin.length) :
      Handled True (setOccurrences trans tlv n)
        (dbgTlvAdd cfg (setOccurrences trans tlv n) tlv put) :=
    dbgTlvAdd_handled header (by rw [length_setOccurrences inside long]; exact inside) kept
  rw [allocTrigger]
  constructor
  · rw [inBounds_readLe32_bind]
    refine and_iff_left_of_imp fun _ => ?_
    split
    · exact inBounds_pure _
    split
    · exact inBounds_pure _
    · next short tp =>
        rw [inBounds_readLe32_bind]
        refine ⟨by omega, ?_⟩
        rw [inBounds_index_bind (by omega)]
        refine (add (by omega) _ ?_).inBounds.mpr trivial
        exact fun _ => rfl
  · refine yields_bind fun _ => ?_
    split
    · exact yields_pure rfl
    · next short =>
        refine yields_ite (yields_pure rfl) (yields_bind fun n => yields_bind fun _ => ?_)
        rw [← length_setOccurrences inside (by omega) n]
        refine (add (by omega) n ?_).length
        exact fun _ => rfl

/-- Every handler of the table. -/
theorem dbgTlvAllocTable_handled (cfg : Config) (i : Fin dbgTlvTypeNum) :
    Handled (FieldReads cfg trans.bin tlv i) trans (dbgTlvAllocTable cfg trans tlv i) := by
  fin_cases i
  · exact allocDebugInfo_handled header inside
  · exact allocBufAlloc_handled inside
  · exact allocHcmd_handled header inside
  · exact allocRegion_handled header inside
  · exact allocTrigger_handled header inside

/-- `iwl_dbg_tlv_alloc` stays in the file exactly if the version and the fields are there. -/
theorem inBounds_dbgTlvAlloc :
    InBounds (dbgTlvAlloc cfg trans tlv) ↔ DbgReads cfg trans.bin tlv := by
  rw [dbgTlvAlloc, DbgReads]
  split
  · next unsupported =>
      exact ⟨fun _ known => absurd known (Nat.not_lt.mpr unsupported), fun _ => inBounds_pure _⟩
  · next supported =>
      have known : tlvIdx tlv.type < dbgTlvTypeNum := Nat.not_le.mp supported
      have handled := dbgTlvAllocTable_handled header inside cfg ⟨_, known⟩
      rw [verSupport, bind_assoc, inBounds_readLe32_bind, bind_assoc, inBounds_index_bind known,
        pure_bind]
      have version : decide ((dbgVerTable ⟨tlvIdx tlv.type, known⟩).1 ≤ le32At trans.bin tlv.data ∧
          le32At trans.bin tlv.data ≤ (dbgVerTable ⟨tlvIdx tlv.type, known⟩).2) = true ↔
          le32At trans.bin tlv.data = 1 := by
        rw [decide_eq_true_iff]
        exact ⟨fun both => Nat.le_antisymm both.2 both.1, fun one => ⟨one.ge, one.le⟩⟩
      have passed : InBounds (if decide ((dbgVerTable ⟨tlvIdx tlv.type, known⟩).1 ≤
            le32At trans.bin tlv.data ∧ le32At trans.bin tlv.data ≤
              (dbgVerTable ⟨tlvIdx tlv.type, known⟩).2) = true then
          index dbgTlvTypeNum (tlvIdx tlv.type) >>= fun i =>
            dbgTlvAllocTable cfg trans tlv i >>= fun result =>
              pure (allocated result.1 result.2)
          else pure { trans with externalIniCfg := .corrupted }) ↔
          (le32At trans.bin tlv.data = 1 →
            FieldReads cfg trans.bin tlv ⟨tlvIdx tlv.type, known⟩) := by
        split
        · next one =>
            rw [inBounds_index_bind known, inBounds_bind, handled.inBounds]
            constructor
            · exact fun stays _ => stays.1
            · exact fun reads => ⟨reads (version.mp one), fun _ _ => inBounds_pure _⟩
        · next other =>
            exact ⟨fun _ one => absurd (version.mpr one) other, fun _ => inBounds_pure _⟩
      rw [passed]
      exact ⟨fun reads _ => reads, fun reads => reads known⟩

theorem length_dbgTlvAlloc (cfg : Config) :
    Yields (fun after => after.bin.length = trans.bin.length) (dbgTlvAlloc cfg trans tlv) := by
  rw [dbgTlvAlloc]
  refine yields_ite (yields_pure rfl) (yields_bind fun supported => ?_)
  refine yields_ite (yields_bind fun i => yields_bind_of fun result taken => ?_) (yields_pure rfl)
  have kept := (dbgTlvAllocTable_handled header inside cfg i).length result taken
  refine yields_pure ?_
  rw [allocated, ← kept]
  split
  · rfl
  split
  · rfl
  · rfl

end Inside

/-! ## The walk -/

/-- `len` is what is left of the file, or has wrapped to that modulo 2^64; and the file keeps its
length. -/
structure LenAgrees (file : Firmware) (loop : BinLoop) : Prop where
  length : loop.trans.bin.length = file.size
  placed : loop.data + loop.len = file.size ∨
    (file.size < loop.data ∧ file.size < loop.len)

/-- A turn that has its header in the file. -/
theorem parseBinTlv_eq (header : loop.data + 8 ≤ loop.trans.bin.length) :
    parseBinTlv cfg loop =
      if loop.len - 8 < loop.tlv.len then .error (.ret einval)
      else do
        let trans ← dbgTlvAlloc cfg loop.trans loop.tlv
        return { data := loop.data + 8 + align4 loop.tlv.len
                 len := (loop.len - 8 + 2 ^ 64 - align4 loop.tlv.len) % 2 ^ 64
                 trans } := by
  have second : (readLe32 loop.trans.bin (loop.data + 4) : FwReading Nat) =
      pure (le32At loop.trans.bin (loop.data + 4)) := readLe32_of_le (by omega)
  have first : (readLe32 loop.trans.bin loop.data : FwReading Nat) =
      pure (le32At loop.trans.bin loop.data) := readLe32_of_le (by omega)
  rw [parseBinTlv, second, pure_bind, first, pure_bind]
  simp only [BinLoop.tlv]
  rfl

/-- A turn whose header is in the file. -/
theorem inBounds_parseBinTlv (placed : loop.data + loop.len = file.size)
    (length : loop.trans.bin.length = file.size) (more : 8 ≤ loop.len) :
    InBounds (parseBinTlv cfg loop) ↔
      (loop.tlv.len ≤ loop.len - 8 → DbgReads cfg loop.trans.bin loop.tlv) := by
  rw [parseBinTlv_eq (by omega)]
  split
  · next long => exact ⟨fun _ fits => by omega, fun _ => inBounds_ret _⟩
  · next fits =>
      have header : 8 ≤ loop.tlv.data := Nat.le_add_left _ _
      have inside : loop.tlv.data + loop.tlv.len ≤ loop.trans.bin.length := by
        change loop.data + 8 + _ ≤ _
        omega
      rw [inBounds_bind, inBounds_dbgTlvAlloc header inside]
      constructor
      · exact fun stays _ => stays.1
      · exact fun reads => ⟨reads (Nat.not_lt.mp fits), fun _ _ => inBounds_pure _⟩

/-- A turn that does not stop has its header in the file, and moves on behind it. -/
theorem parseBinTlv_advances (taken : parseBinTlv cfg loop = .ok after) :
    loop.data + 8 ≤ loop.trans.bin.length ∧ loop.data + 8 ≤ after.data := by
  have stays : InBounds (parseBinTlv cfg loop) := by
    rw [taken]
    exact inBounds_ok after
  have header : loop.data + 8 ≤ loop.trans.bin.length := by
    have read := (inBounds_readLe32_bind.mp stays).1
    omega
  refine ⟨header, ?_⟩
  rw [parseBinTlv_eq header] at taken
  split at taken
  · cases taken
  · obtain ⟨trans, -, result⟩ := bind_eq_ok.mp taken
    rw [← Except.ok.inj result]
    exact Nat.le_add_right _ _

theorem align4_le (n : Nat) : align4 n ≤ n + 3 := by
  have := Nat.mod_le (n + 3) (2 ^ 32)
  rw [align4]
  omega

theorem LenAgrees.next (agrees : LenAgrees file loop) (more : 8 ≤ loop.len)
    (taken : parseBinTlv cfg loop = .ok after) : LenAgrees file after := by
  have header := (parseBinTlv_advances taken).1
  have length := agrees.length
  have placed : loop.data + loop.len = file.size := by
    rcases agrees.placed with inside | ⟨behind, -⟩
    · exact inside
    · omega
  rw [parseBinTlv_eq header] at taken
  split at taken
  · cases taken
  next fits =>
  obtain ⟨trans, allocated, result⟩ := bind_eq_ok.mp taken
  have tlvHeader : 8 ≤ loop.tlv.data := Nat.le_add_left _ _
  have tlvInside : loop.tlv.data + loop.tlv.len ≤ loop.trans.bin.length := by
    change loop.data + 8 + _ ≤ _
    omega
  have kept := length_dbgTlvAlloc tlvHeader tlvInside cfg trans allocated
  rw [← Except.ok.inj result]
  refine ⟨kept.trans length, ?_⟩
  have small : file.size < 2 ^ 63 := file.size_lt
  have padded := align4_le loop.tlv.len
  change loop.data + 8 + align4 _ + _ = _ ∨ _
  dsimp only
  generalize align4 loop.tlv.len = padding at padded ⊢
  by_cases room : padding ≤ loop.len - 8
  · left
    have left : loop.len - 8 + 2 ^ 64 - padding = loop.len - 8 - padding + 2 ^ 64 := by omega
    rw [left, Nat.add_mod_right, Nat.mod_eq_of_lt (by omega)]
    omega
  · right
    rw [Nat.mod_eq_of_lt (by omega)]
    omega

theorem agrees_start (file : Firmware) (trans : DbgTrans) :
    LenAgrees file { data := 0, len := file.size, trans := { trans with bin := file.data } } :=
  ⟨rfl, .inl (Nat.zero_add _)⟩

theorem agrees_of_reached (reached : Reached cfg file trans loop) : LenAgrees file loop := by
  refine reached.invariant (agrees_start file trans) fun t u agrees more taken => ?_
  exact agrees.next (of_decide_eq_true more) taken

/-- The walk comes to an end: every turn passes a header of the file. -/
theorem parseBin_returns (cfg : Config) (file : Firmware) (trans : DbgTrans) :
    ∃ fuel outcome, parseBin cfg file trans fuel = some outcome := by
  refine ⟨_, readWhile_returns (fun loop => file.size - loop.data) (P := LenAgrees file)
    (fun t u agrees more taken => ?_) (agrees_start file trans)⟩
  refine ⟨agrees.next (of_decide_eq_true more) taken, ?_⟩
  have passed := parseBinTlv_advances taken
  have length := agrees.length
  omega

/-- The walk over a file stays in it exactly if every TLV that it takes up is readable. -/
theorem staysInFile_iff (cfg : Config) (file : Firmware) (trans : DbgTrans) :
    StaysInFile cfg file trans ↔
      ∀ loop, Reached cfg file trans loop → 8 ≤ loop.len → TlvReadable cfg file loop := by
  obtain ⟨fuel, outcome, ended⟩ := parseBin_returns cfg file trans
  constructor
  · intro stays loop reached more
    obtain ⟨fuel', outcome', ended', inBounds⟩ := stays.returns
    have turn := (readWhile_inBounds_iff ended').mp inBounds loop reached (decide_eq_true more)
    have agrees := agrees_of_reached reached
    have header : loop.data + 8 ≤ loop.trans.bin.length := by
      have read := (inBounds_readLe32_bind.mp turn).1
      omega
    have placed : loop.data + loop.len = file.size := by
      have length := agrees.length
      rcases agrees.placed with inside | ⟨behind, -⟩
      · exact inside
      · omega
    exact ⟨by omega, (inBounds_parseBinTlv placed agrees.length more).mp turn⟩
  · intro readable
    have placed (loop : BinLoop) (reached : Reached cfg file trans loop) (more : 8 ≤ loop.len) :
        loop.data + loop.len = file.size := by
      have remaining := (readable loop reached more).remaining
      rcases (agrees_of_reached reached).placed with inside | ⟨-, wrapped⟩
      · exact inside
      · omega
    refine ⟨⟨fuel, outcome, ended, ?_⟩, fun loop reached passes => ?_⟩
    · refine (readWhile_inBounds_iff ended).mpr fun loop reached more => ?_
      have more := of_decide_eq_true more
      exact (inBounds_parseBinTlv (placed loop reached more) (agrees_of_reached reached).length
        more).mpr (readable loop reached more).reads
    · have here := placed loop reached passes.more
      have fits := passes.fits
      have more := passes.more
      change loop.data + 8 + _ ≤ _
      omega

/-- A file of one header, of a debug info TLV without data. -/
def emptyInfo : Firmware := ⟨[5, 0, 0, 1, 0, 0, 0, 0], by decide⟩

/-- The tables before anything is loaded. -/
def DbgTrans.init : DbgTrans where
  bin := []
  externalIniCfg := .notLoaded
  debugInfoList := []
  fwMonCfg _ := none
  activeRegions _ := none
  hcmdList _ := []
  trigList _ := []

/-- The version of an empty TLV is read behind the file. -/
theorem not_staysInFile :
    ¬ ∀ (cfg : Config) (file : Firmware) (trans : DbgTrans), StaysInFile cfg file trans := by
  intro all
  obtain ⟨fuel, outcome, ended, inBounds⟩ := (all ⟨false, fun _ => true⟩ emptyInfo .init).returns
  have turn := (readWhile_inBounds_iff ended).mp inBounds _ .start rfl
  have reads := (@inBounds_parseBinTlv _ emptyInfo _ rfl rfl (Nat.le_refl 8)).mp turn
    (by decide +kernel) (by decide +kernel)
  exact absurd reads.1 (by decide +kernel)

end Iwlwifi.DbgTlvBin
