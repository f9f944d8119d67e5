import Iwlwifi.Fw.TlvFile

/-!
# Parsing a TLV firmware file

`iwl_parse_tlv_firmware` and what it calls, record type by record type.  `len` is a `size_t`, so
the subtraction of the padded length of a record is taken modulo 2^64.  Memory allocation always
succeeds here; texts that are only printed or kept for user space (`fw_version`,
`human_readable`) are left out, but not the reads of the file they need.
-/

namespace Iwlwifi

open Lib

section Handlers

variable (cfg : DrvConfig) (raw : Firmware) (drv : Drv) (tlv : UcodeTlv)

/-- The labels `invalid_tlv_len` and `tlv_error`: dump the record and give up. -/
def tlvError {α : Type} : FwReading α :=
  if cfg.debugFw then do
    touch raw.data tlv.data tlv.len
    .error (.ret parseEinval)
  else .error (.ret parseEinval)

/-- A record that has to be exactly `size` bytes long. -/
def exactly (size : Nat) (handler : FwReading Drv) : FwReading Drv :=
  if tlv.len ≠ size then tlvError cfg raw tlv else handler

/-- A record that is one word. -/
def storeU32 (set : Nat → Drv) : FwReading Drv :=
  exactly cfg raw tlv 4 do
    let value ← readLe32 raw.data tlv.data
    return set value

/-- A record that is two words. -/
def storeU32Pair (set : Nat → Nat → Drv) : FwReading Drv :=
  exactly cfg raw tlv 8 do
    let first ← readLe32 raw.data tlv.data
    let second ← readLe32 raw.data (tlv.data + 4)
    return set first second

def bytesAt (ofs n : Nat) : List UInt8 := (raw.data.drop ofs).take n

/-! ## Sections -/

/-- A whole image: `IWLAGN_RTC_INST_LOWER_BOUND` and `IWLAGN_RTC_DATA_LOWER_BOUND` are the
device addresses of the two sections. -/
def storeImage (type : UcodeType) (sec offset : Nat) : Drv :=
  { drv with
    pieces := setSec drv.pieces type sec { data := tlv.data, size := tlv.len, offset := offset } }

def storeInst (type : UcodeType) : Drv := storeImage drv tlv type 1 0

def storeData (type : UcodeType) : Drv := storeImage drv tlv type 0 0x800000

/-- A section of a newer image; no length is checked before `sec_parse->offset` is read. -/
def storeSec (type : UcodeType) : FwReading Drv := do
  let offset ← readLe32 raw.data tlv.data
  return { drv with pieces := storeUcodeSec drv.pieces type tlv.data tlv.len offset }

def storeMvmSec (type : UcodeType) : FwReading Drv := do
  let drv ← storeSec raw drv tlv type
  return { drv with fw := { drv.fw with type := .mvm } }

/-! ## Records of the image and the device -/

def setFlags : FwReading Drv :=
  if tlv.len < 4 ∨ tlv.len % 4 ≠ 0 then tlvError cfg raw tlv
  else do
    let value ← readLe32 raw.data tlv.data
    return { drv with capa := { drv.capa with flags := value } }

/-- The bits of word `index` set in `flags`, added to a bitmap. -/
def setBits (bits : Nat → Bool) (index flags : Nat) : Nat → Bool :=
  fun n => bits n || (n / 32 == index && flags.testBit (n % 32))

/-- `iwl_set_ucode_api_flags` -/
def setUcodeApiFlags (index flags : Nat) : Drv :=
  if 2 ≤ index then drv
  else { drv with capa := { drv.capa with api := setBits drv.capa.api index flags } }

/-- `iwl_set_ucode_capabilities` -/
def setUcodeCapabilities (index flags : Nat) : Drv :=
  if 4 ≤ index then drv
  else { drv with capa := { drv.capa with capa := setBits drv.capa.capa index flags } }

/-- `iwl_set_default_calib` -/
def setDefaultCalib : FwReading Drv :=
  exactly cfg raw tlv 12 do
    let ucodeType ← readLe32 raw.data tlv.data
    match UcodeType.ofCode ucodeType with
    | none => tlvError cfg raw tlv
    | some type => do
        let flowTrigger ← readLe32 raw.data (tlv.data + 4)
        let eventTrigger ← readLe32 raw.data (tlv.data + 8)
        return { drv with
          fw := { drv.fw with
            defaultCalib := fun t =>
              if t = type then (flowTrigger, eventTrigger) else drv.fw.defaultCalib t } }

/-- The chains `dbg_cfg.valid_ants` leaves of a PHY configuration. -/
def overridePhyConfig (phyConfig : Nat) : Nat :=
  let validAnts := cfg.validAnts &&& 7
  if cfg.supportDebugOverrides ∧ validAnts ≠ 0 then
    phyConfig &&& (0xff00ffff ||| (validAnts <<< 16) ||| (validAnts <<< 20))
  else phyConfig

def setPhySku (value : Nat) : Drv :=
  let phyConfig := overridePhyConfig cfg value
  { drv with
    fw := { drv.fw with
      phyConfig := phyConfig
      validTxAnt := phyConfig >>> 16 &&& 0xf
      validRxAnt := phyConfig >>> 20 &&& 0xf } }

def setNumOfCpu : FwReading Drv :=
  exactly cfg raw tlv 4 do
    let numOfCpus ← readLe32 raw.data tlv.data
    if numOfCpus = 2 then
      return { drv with fw := { drv.fw with isDualCpus := fun t =>
        t != .regularUsniffer || drv.fw.isDualCpus t } }
    else if numOfCpus = 1 then return drv
    else .error (.ret parseEinval)

/-- `iwl_store_cscheme`, for an `IWL_UCODE_MAX_CS` of one. -/
def storeCscheme : FwReading Drv :=
  if tlv.len < 1 then tlvError cfg raw tlv
  else do
    let size ← readU8 raw.data tlv.data
    if tlv.len < 1 + size * 13 then tlvError cfg raw tlv
    else if size = 0 then return drv
    else do
      let cipher ← readLe32 raw.data (tlv.data + 1)
      if cipher = 0 then return drv
      else do
        touch raw.data (tlv.data + 1) 13
        return { drv with fw := { drv.fw with cs := bytesAt raw (tlv.data + 1) 13 } }

/-- `MAX_PAGING_IMAGE_SIZE` is 1 MiB, in pages of 4 KiB. -/
def setPaging : FwReading Drv :=
  exactly cfg raw tlv 4 do
    let size ← readLe32 raw.data tlv.data
    if 0x100000 < size ∨ size % 0x1000 ≠ 0 then .error (.ret parseEinval)
    else return { drv with fw := { drv.fw with pagingMemSize := fun t =>
      if t = .regular ∨ t = .regularUsniffer then size else drv.fw.pagingMemSize t } }

def setIml : FwReading Drv := do
  touch raw.data tlv.data tlv.len
  return { drv with fw := { drv.fw with iml := bytesAt raw tlv.data tlv.len } }

/-- Only the four-byte entries that are complete are kept. -/
def setCmdVersions : FwReading Drv :=
  if drv.capa.cmdVersions.isSome then .error (.ret parseEinval)
  else do
    let len := tlv.len / 4 * 4
    touch raw.data tlv.data len
    return { drv with capa := { drv.capa with
      cmdVersions := some (bytesAt raw tlv.data len), nCmdVersions := len / 4 } }

/-- The version is printed as a string. -/
def fseqVersion : FwReading Drv :=
  exactly cfg raw tlv 52 do
    touchStr raw.data tlv.data
    return drv

/-! ## Debug records -/

/-- No length is checked here: the version and the monitor mode are read from wherever the
record starts. -/
def setFwDbgDest : FwReading Drv := do
  let version ← readU8 raw.data tlv.data
  let pieces := { drv.pieces with dbgDestVer := some tlv.data }
  if 1 < version then return { drv with pieces := pieces }
  else if cfg.deviceTestmode && cfg.supportDebugOverrides && cfg.dbmDestinationPath then
    return { drv with pieces := pieces }
  else if pieces.dbgDestTlvInit then return { drv with pieces := pieces }
  else do
    let _monMode ← readU8 raw.data (tlv.data + 1)
    let regOps := if version = 0 then 22 else 18
    return { drv with
      pieces := { pieces with dbgDestTlvInit := true, dbgDestTlv := some tlv.data }
      fw := { drv.fw with nDestReg := (tlv.len + 2 ^ 64 - regOps) % 2 ^ 8 / 12 } }

/-- `FW_DBG_CONF_MAX` -/
def fwDbgConfMax : Nat := 32

def setFwDbgConf : FwReading Drv := do
  let id ← readU8 raw.data tlv.data
  if ¬ drv.pieces.dbgDestTlvInit then return drv
  else if fwDbgConfMax ≤ id then return drv
  else if (drv.pieces.dbgConfTlv id).isSome then return drv
  else do
    let usniffer ← readU8 raw.data (tlv.data + 1)
    return { drv with
      pieces := { drv.pieces with
        dbgConfTlv := Function.update drv.pieces.dbgConfTlv id (some (tlv.data, tlv.len)) }
      usnifferReq := usniffer != 0 || drv.usnifferReq }

/-- `FW_DBG_TRIGGER_MAX` -/
def fwDbgTriggerMax : Nat := 18

def setFwDbgTrigger : FwReading Drv := do
  let id ← readLe32 raw.data tlv.data
  if fwDbgTriggerMax ≤ id then return drv
  else if (drv.pieces.dbgTriggerTlv id).isSome then return drv
  else return { drv with
    pieces := { drv.pieces with
      dbgTriggerTlv := Function.update drv.pieces.dbgTriggerTlv id (some (tlv.data, tlv.len)) } }

/-- A mask of the wrong size is skipped, not refused. -/
def setDumpMask : FwReading Drv :=
  if tlv.len ≠ 4 then return drv
  else do
    let mask ← readLe32 raw.data tlv.data
    return { drv with fw := { drv.fw with dumpMask := mask } }

def addMemSeg : FwReading Drv :=
  exactly cfg raw tlv 12 do
    let dataType ← readLe32 raw.data tlv.data
    let ofs ← readLe32 raw.data (tlv.data + 4)
    let len ← readLe32 raw.data (tlv.data + 8)
    return { drv with
      pieces := { drv.pieces with
        dbgMemTlv := drv.pieces.dbgMemTlv ++ [(dataType, ofs, len)] } }

/-- An address without the bits of `FW_ADDR_CACHE_CONTROL`. -/
def clearCacheControl (addr : Nat) : Nat := addr &&& 0x3fffffff

/-- The first word of `size` bytes of addresses, which only newer devices use. -/
def errorEventTable (size : Nat) (set : Nat → Drv) : FwReading Drv :=
  exactly cfg raw tlv size <|
    if ¬ cfg.family22000 then return drv
    else do
      let addr ← readLe32 raw.data tlv.data
      return set addr

/-! ## Debug TLVs of the ini format -/

/-- `iwl_dbg_tlv_add`: a copy of the record with its header. -/
def dbgTlvAdd : FwReading Unit := touch raw.data (tlv.data - 8) (8 + tlv.len)

def dbgTlvAllocDebugInfo : FwReading Unit :=
  if tlv.len ≠ 76 then return ()
  else if cfg.debugFw then do
    touchStr raw.data (tlv.data + 12)
    dbgTlvAdd raw tlv
  else dbgTlvAdd raw tlv

def dbgTlvAllocBufAlloc : FwReading Unit := do
  let bufLocation ← readLe32 raw.data (tlv.data + 12)
  let allocId ← readLe32 raw.data (tlv.data + 8)
  if tlv.len ≠ 28 ∨ (bufLocation ≠ 1 ∧ bufLocation ≠ 2) then return ()
  else if (bufLocation = 1 ∧ allocId ≠ 1) ∨ (bufLocation = 2 ∧ (allocId = 0 ∨ 4 ≤ allocId)) then
    return ()
  else touch raw.data tlv.data 28

/-- `IWL_FW_INI_TIME_POINT_NUM` -/
def timePointNum : Nat := 27

def dbgTlvAllocHcmd : FwReading Unit := do
  let tp ← readLe32 raw.data (tlv.data + 8)
  if tlv.len ≤ 20 then return ()
  else if tp = 0 ∨ timePointNum ≤ tp ∨ tp = 1 then return ()
  else dbgTlvAdd raw tlv

/-- The length of the copy is computed in 32 bits. -/
def dbgTlvAllocRegion : FwReading Unit := do
  let id ← readLe32 raw.data (tlv.data + 8)
  let type ← readLe32 raw.data (tlv.data + 12)
  if tlv.len < 64 then return ()
  else if 64 ≤ id ∨ type = 0 ∨ 17 ≤ type then return ()
  else touch raw.data (tlv.data - 8) ((8 + tlv.len) % 2 ^ 32)

/-- The occurrences are read, and set in place when they are zero; nothing reads them again. -/
def dbgTlvAllocTrigger : FwReading Unit := do
  let tp ← readLe32 raw.data (tlv.data + 8)
  if tlv.len < 52 then return ()
  else if tp = 0 ∨ timePointNum ≤ tp then return ()
  else do
    let _occurrences ← readLe32 raw.data (tlv.data + 24)
    dbgTlvAdd raw tlv

/-- `iwl_dbg_tlv_alloc`: the version is read first, and only version 1 is supported. -/
def dbgTlvAlloc (alloc : FwReading Unit) : FwReading Drv :=
  if ¬ cfg.enableIni then return drv
  else do
    let version ← readLe32 raw.data tlv.data
    if version ≠ 1 then return drv
    else do
      alloc
      return drv

/-! ## The `switch` on the type -/

def handleTlv : FwReading Drv :=
  match tlv.type with
  | .inst => return storeInst drv tlv .regular
  | .data => return storeData drv tlv .regular
  | .init => return storeInst drv tlv .init
  | .initData => return storeData drv tlv .init
  | .boot => return drv
  | .probeMaxLen => storeU32 cfg raw tlv fun value =>
      { drv with capa := { drv.capa with maxProbeLength := value } }
  | .pan => exactly cfg raw tlv 0 <|
      return { drv with capa := { drv.capa with flags := drv.capa.flags ||| 1 } }
  | .flags => setFlags cfg raw drv tlv
  | .apiChangesSet => storeU32Pair cfg raw tlv fun index flags => setUcodeApiFlags drv index flags
  | .enabledCapabilities => storeU32Pair cfg raw tlv fun index flags =>
      setUcodeCapabilities drv index flags
  | .initEvtlogPtr => storeU32 cfg raw tlv fun value =>
      { drv with pieces := { drv.pieces with initEvtlogPtr := value } }
  | .initEvtlogSize => storeU32 cfg raw tlv fun value =>
      { drv with pieces := { drv.pieces with initEvtlogSize := value } }
  | .initErrlogPtr => storeU32 cfg raw tlv fun value =>
      { drv with pieces := { drv.pieces with initErrlogPtr := value } }
  | .runtEvtlogPtr => storeU32 cfg raw tlv fun value =>
      { drv with pieces := { drv.pieces with instEvtlogPtr := value } }
  | .runtEvtlogSize => storeU32 cfg raw tlv fun value =>
      { drv with pieces := { drv.pieces with instEvtlogSize := value } }
  | .runtErrlogPtr => storeU32 cfg raw tlv fun value =>
      { drv with pieces := { drv.pieces with instErrlogPtr := value } }
  | .enhanceSensTbl => exactly cfg raw tlv 0 <|
      return { drv with fw := { drv.fw with enhanceSensitivityTable := true } }
  | .wowlanInst => return storeInst drv tlv .wowlan
  | .wowlanData => return storeData drv tlv .wowlan
  | .phyCalibrationSize => storeU32 cfg raw tlv fun value =>
      { drv with capa := { drv.capa with standardPhyCalibrationSize := value } }
  | .secRt => storeMvmSec raw drv tlv .regular
  | .secInit => storeMvmSec raw drv tlv .init
  | .secWowlan => storeMvmSec raw drv tlv .wowlan
  | .defCalib => setDefaultCalib cfg raw drv tlv
  | .phySku => storeU32 cfg raw tlv fun value => setPhySku cfg drv value
  | .secureSecRt => storeMvmSec raw drv tlv .regular
  | .secureSecInit => storeMvmSec raw drv tlv .init
  | .secureSecWowlan => storeMvmSec raw drv tlv .wowlan
  | .numOfCpu => setNumOfCpu cfg raw drv tlv
  | .cscheme => storeCscheme cfg raw drv tlv
  | .nScanChannels => storeU32 cfg raw tlv fun value =>
      { drv with capa := { drv.capa with nScanChannels := value } }
  | .fwVersion => exactly cfg raw tlv 12 do
      touch raw.data tlv.data 12
      return drv
  | .fwDbgDest => setFwDbgDest cfg raw drv tlv
  | .fwDbgConf => setFwDbgConf raw drv tlv
  | .fwDbgTrigger => setFwDbgTrigger raw drv tlv
  | .fwDbgDumpLst => setDumpMask raw drv tlv
  | .secRtUsniffer => storeSec raw { drv with usnifferImages := true } tlv .regularUsniffer
  | .paging => setPaging cfg raw drv tlv
  | .fwGscanCapa => return drv
  | .fwMemSeg => addMemSeg cfg raw drv tlv
  | .iml => setIml raw drv tlv
  | .fwRecoveryInfo => storeU32Pair cfg raw tlv fun addr size =>
      { drv with capa := { drv.capa with errorLogAddr := addr, errorLogSize := size } }
  | .fwFmacApiVersion =>
      if cfg.iwlfmac then storeU32 cfg raw tlv fun value =>
        { drv with capa := { drv.capa with fmacApiVersion := value } }
      else return drv
  | .fwFmacRecoveryInfo =>
      if cfg.iwlfmac then storeU32Pair cfg raw tlv fun addr size =>
        { drv with capa := { drv.capa with fmacErrorLogAddr := addr, fmacErrorLogSize := size } }
      else return drv
  | .fwFseqVersion => fseqVersion cfg raw drv tlv
  | .umacDebugAddrs => errorEventTable cfg raw drv tlv 8 fun addr =>
      { drv with fw := { drv.fw with umacErrorEventTable := clearCacheControl addr } }
  | .lmacDebugAddrs => errorEventTable cfg raw drv tlv 32 fun addr =>
      { drv with fw := { drv.fw with lmacErrorEventTable := clearCacheControl addr } }
  | .debugInfo => dbgTlvAlloc cfg raw drv tlv (dbgTlvAllocDebugInfo cfg raw tlv)
  | .bufferAllocation => dbgTlvAlloc cfg raw drv tlv (dbgTlvAllocBufAlloc raw tlv)
  | .hcmd => dbgTlvAlloc cfg raw drv tlv (dbgTlvAllocHcmd raw tlv)
  | .regions => dbgTlvAlloc cfg raw drv tlv (dbgTlvAllocRegion raw tlv)
  | .triggers => dbgTlvAlloc cfg raw drv tlv (dbgTlvAllocTrigger raw tlv)
  | .cmdVersions => setCmdVersions raw drv tlv
  | .unknown => return drv

end Handlers

/-! ## The loop over the records -/

/-- Where the loop stands: the next record and what is left of the file. -/
structure TlvLoop where
  data : Nat
  len : Nat
  drv : Drv

def parseTlv (cfg : DrvConfig) (raw : Firmware) (loop : TlvLoop) : FwReading TlvLoop := do
  let tlvLen ← readLe32 raw.data (loop.data + 4)
  let tlvType ← readLe32 raw.data loop.data
  let len := loop.len - 8
  if len < tlvLen then .error (.ret parseEinval)
  else do
    let drv ← handleTlv cfg raw loop.drv
      { type := .ofCode tlvType, len := tlvLen, data := loop.data + 8 }
    return { data := loop.data + 8 + align4 tlvLen
             len := (len + 2 ^ 64 - align4 tlvLen) % 2 ^ 64
             drv := drv }

/-- `while (len >= sizeof(*tlv))`, for at most `fuel` records. -/
def parseTlvs (cfg : DrvConfig) (raw : Firmware) : Nat → TlvLoop → Option (FwReading TlvLoop)
  | 0, loop => if loop.len < 8 then some (.ok loop) else none
  | fuel + 1, loop =>
      if loop.len < 8 then some (.ok loop)
      else match parseTlv cfg raw loop with
        | .error stop => some (.error stop)
        | .ok next => parseTlvs cfg raw fuel next

/-- The header of 88 bytes and its magic number. -/
def parseUcodeHeader (raw : Firmware) (drv : Drv) : FwReading TlvLoop :=
  if raw.size < 88 then .error (.ret parseEinval)
  else do
    let magic ← readLe32 raw.data 4
    if magic ≠ 0x0a4c5749 then .error (.ret parseEinval)
    else do
      touch raw.data 8 72
      return { data := 88, len := raw.size - 88, drv := drv }

/-- With debug overrides compiled in, a file of debug records has a magic number of its own,
which is looked for before the size of the file is. -/
def parseHeader (cfg : DrvConfig) (raw : Firmware) (drv : Drv) : FwReading TlvLoop :=
  if cfg.supportDebugOverrides then do
    let magic ← readLe32 raw.data 4
    if magic = 0xb5221389 then return { data := 8, len := raw.size - 8, drv := drv }
    else parseUcodeHeader raw drv
  else parseUcodeHeader raw drv

/-- Bit numbers of `enum iwl_ucode_tlv_capa`. -/
def capaUsnifferUnified : Nat := 77

def capaMlmeOffload : Nat := 96

/-- What follows the loop. -/
def parseDone (cfg : DrvConfig) (raw : Firmware) (loop : TlvLoop) : FwReading Drv :=
  if ¬ loop.drv.capa.capa capaUsnifferUnified ∧ loop.drv.usnifferReq ∧
      ¬ loop.drv.usnifferImages then
    .error (.ret parseEinval)
  else if loop.len ≠ 0 then
    if cfg.debugFw then do
      touch raw.data loop.data loop.len
      .error (.ret parseEinval)
    else .error (.ret parseEinval)
  else if cfg.iwlfmac && loop.drv.capa.capa capaMlmeOffload then
    return { loop.drv with fw := { loop.drv.fw with type := .fmac } }
  else return loop.drv

def iwlParseTlvFirmware (cfg : DrvConfig) (raw : Firmware) (drv : Drv) (fuel : Nat) :
    Option (FwReading Drv) :=
  match parseHeader cfg raw { drv with usnifferReq := false } with
  | .error stop => some (.error stop)
  | .ok start => (parseTlvs cfg raw fuel start).map (· >>= parseDone cfg raw)

end Iwlwifi
