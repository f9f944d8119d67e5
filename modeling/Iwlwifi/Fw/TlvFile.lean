import Iwlwifi.Lib.BoundedRead

/-!
# The firmware file and what is parsed out of it

A TLV firmware file is a header of 88 bytes followed by type-length-value records, each padded
to a multiple of four.  The parser keeps pointers into the file (modelled as offsets) in
`iwl_firmware_pieces` and copies the rest into the driver's own structures.
-/

namespace Iwlwifi

open Lib

/-- `struct firmware`: a buffer no longer than any object can be. -/
structure Firmware where
  data : List UInt8
  size_lt : data.length < 2 ^ 63

/-- `ucode_raw->size` -/
def Firmware.size (raw : Firmware) : Nat := raw.data.length

/-- A return code of the parser stops it, and so does a read outside the file. -/
abbrev FwReading (α : Type) : Type := BoundedRead Int α

/-- `-EINVAL` -/
def parseEinval : Int := -22

/-! ## TLV types -/

/-- `enum iwl_ucode_tlv_type`, as far as the parser tells the types apart. -/
inductive UcodeTlvType where
  | inst | data | init | initData | boot | probeMaxLen | pan
  | runtEvtlogPtr | runtEvtlogSize | runtErrlogPtr
  | initEvtlogPtr | initEvtlogSize | initErrlogPtr
  | enhanceSensTbl | phyCalibrationSize | wowlanInst | wowlanData | flags
  | secRt | secInit | secWowlan | defCalib | phySku
  | secureSecRt | secureSecInit | secureSecWowlan | numOfCpu | cscheme
  | apiChangesSet | enabledCapabilities | nScanChannels | paging | secRtUsniffer
  | fwVersion | fwDbgDest | fwDbgConf | fwDbgTrigger | cmdVersions | fwGscanCapa
  | fwMemSeg | iml | fwFmacApiVersion | umacDebugAddrs | lmacDebugAddrs
  | fwRecoveryInfo | fwFmacRecoveryInfo | fwFseqVersion
  | debugInfo | bufferAllocation | hcmd | regions | triggers
  | fwDbgDumpLst | unknown
  deriving DecidableEq

/-- The numbers of `enum iwl_ucode_tlv_type`. -/
def UcodeTlvType.ofCode : Nat → UcodeTlvType
  | 1 => .inst
  | 2 => .data
  | 3 => .init
  | 4 => .initData
  | 5 => .boot
  | 6 => .probeMaxLen
  | 7 => .pan
  | 8 => .runtEvtlogPtr
  | 9 => .runtEvtlogSize
  | 10 => .runtErrlogPtr
  | 11 => .initEvtlogPtr
  | 12 => .initEvtlogSize
  | 13 => .initErrlogPtr
  | 14 => .enhanceSensTbl
  | 15 => .phyCalibrationSize
  | 16 => .wowlanInst
  | 17 => .wowlanData
  | 18 => .flags
  | 19 => .secRt
  | 20 => .secInit
  | 21 => .secWowlan
  | 22 => .defCalib
  | 23 => .phySku
  | 24 => .secureSecRt
  | 25 => .secureSecInit
  | 26 => .secureSecWowlan
  | 27 => .numOfCpu
  | 28 => .cscheme
  | 29 => .apiChangesSet
  | 30 => .enabledCapabilities
  | 31 => .nScanChannels
  | 32 => .paging
  | 34 => .secRtUsniffer
  | 36 => .fwVersion
  | 38 => .fwDbgDest
  | 39 => .fwDbgConf
  | 40 => .fwDbgTrigger
  | 48 => .cmdVersions
  | 50 => .fwGscanCapa
  | 51 => .fwMemSeg
  | 52 => .iml
  | 53 => .fwFmacApiVersion
  | 54 => .umacDebugAddrs
  | 55 => .lmacDebugAddrs
  | 57 => .fwRecoveryInfo
  | 59 => .fwFmacRecoveryInfo
  | 60 => .fwFseqVersion
  | 0x1000 => .fwDbgDumpLst
  | 0x1000005 => .debugInfo
  | 0x1000006 => .bufferAllocation
  | 0x1000007 => .hcmd
  | 0x1000008 => .regions
  | 0x1000009 => .triggers
  | _ => .unknown

/-- A record as the parser sees it: its type, `tlv_len`, and the offset of `tlv_data`. -/
structure UcodeTlv where
  type : UcodeTlvType
  len : Nat
  data : Nat

/-! ## What the parser fills in -/

/-- `enum iwl_ucode_type` -/
inductive UcodeType where
  | regular | init | wowlan | regularUsniffer
  deriving DecidableEq

def UcodeType.ofCode : Nat → Option UcodeType
  | 0 => some .regular
  | 1 => some .init
  | 2 => some .wowlan
  | 3 => some .regularUsniffer
  | _ => none

/-- `struct fw_sec`: a section of the file and where it goes in the device. -/
structure FwSec where
  data : Nat
  size : Nat
  offset : Nat
  deriving DecidableEq

/-- `struct iwl_firmware_pieces`.  A slot of an image that was allocated but not written yet
holds no section. -/
structure FirmwarePieces where
  img : UcodeType → List (Option FwSec)
  initEvtlogPtr : Nat
  initEvtlogSize : Nat
  initErrlogPtr : Nat
  instEvtlogPtr : Nat
  instEvtlogSize : Nat
  instErrlogPtr : Nat
  dbgDestTlvInit : Bool
  dbgDestVer : Option Nat
  dbgDestTlv : Option Nat
  dbgConfTlv : Nat → Option (Nat × Nat)
  dbgTriggerTlv : Nat → Option (Nat × Nat)
  dbgMemTlv : List (Nat × Nat × Nat)

/-- `struct iwl_ucode_capabilities` -/
structure UcodeCapabilities where
  maxProbeLength : Nat
  nScanChannels : Nat
  standardPhyCalibrationSize : Nat
  flags : Nat
  errorLogAddr : Nat
  errorLogSize : Nat
  fmacApiVersion : Nat
  fmacErrorLogAddr : Nat
  fmacErrorLogSize : Nat
  api : Nat → Bool
  capa : Nat → Bool
  cmdVersions : Option (List UInt8)
  nCmdVersions : Nat

/-- `enum iwl_fw_type` -/
inductive FwType where
  | dvm | mvm | fmac
  deriving DecidableEq

/-- The fields of `struct iwl_fw` and of the transport's debug data that the records set. -/
structure Fw where
  isDualCpus : UcodeType → Bool
  pagingMemSize : UcodeType → Nat
  iml : List UInt8
  enhanceSensitivityTable : Bool
  defaultCalib : UcodeType → Nat × Nat
  phyConfig : Nat
  validTxAnt : Nat
  validRxAnt : Nat
  type : FwType
  cs : List UInt8
  nDestReg : Nat
  dumpMask : Nat
  umacErrorEventTable : Nat
  lmacErrorEventTable : Nat

/-- Everything the parser writes, its flags `usniffer_req` and `*usniffer_images` included. -/
structure Drv where
  pieces : FirmwarePieces
  capa : UcodeCapabilities
  fw : Fw
  usnifferReq : Bool
  usnifferImages : Bool

/-- The build's options, the module's parameters and the device. -/
structure DrvConfig where
  supportDebugOverrides : Bool
  deviceTestmode : Bool
  iwlfmac : Bool
  /-- `iwl_have_debug_level(IWL_DL_FW)` -/
  debugFw : Bool
  enableIni : Bool
  dbmDestinationPath : Bool
  validAnts : Nat
  /-- `device_family >= IWL_DEVICE_FAMILY_22000` -/
  family22000 : Bool

/-! ## Sections -/

/-- `alloc_sec_data`: the image has at least `sec + 1` slots afterwards. -/
def allocSecData (secs : List (Option FwSec)) (sec : Nat) : List (Option FwSec) :=
  if sec + 1 ≤ secs.length then secs
  else secs ++ List.replicate (sec + 1 - secs.length) none

/-- `set_sec_data`, `set_sec_size` and `set_sec_offset` on one slot. -/
def setSec (pieces : FirmwarePieces) (type : UcodeType) (sec : Nat) (written : FwSec) :
    FirmwarePieces :=
  { pieces with
    img := fun t =>
      if t = type then (allocSecData (pieces.img t) sec).set sec (some written)
      else pieces.img t }

/-- `size - sizeof(sec_parse->offset)`: `tlv_len` passed as an `int`, then taken as a `size_t`. -/
def ucodeSecSize (size : Nat) : Nat :=
  ((if size < 2 ^ 31 then size else size + 2 ^ 64 - 2 ^ 32) + 2 ^ 64 - 4) % 2 ^ 64

/-- `iwl_store_ucode_sec`, once the section's offset has been read: the section starts behind
that word. -/
def storeUcodeSec (pieces : FirmwarePieces) (type : UcodeType) (data size offset : Nat) :
    FirmwarePieces :=
  { pieces with
    img := fun t =>
      if t = type then
        pieces.img t ++
          [some { data := data + 4, size := ucodeSecSize size, offset := offset }]
      else pieces.img t }

/-- `ALIGN(tlv_len, 4)`, computed in 32 bits. -/
def align4 (len : Nat) : Nat := (len + 3) % 2 ^ 32 / 4 * 4

end Iwlwifi
