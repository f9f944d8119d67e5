import Iwlwifi.Lib.PackedStruct
import Iwlwifi.Mvm.FtmInitiator

/-!
# Range responses

`iwl_mvm_ftm_range_resp` serves three layouts of the notification with one loop.  Version 6
differs from version 7 in the size of an entry, and the flag of the last burst is read from the
array of version 7 in both; version 5 has the distance where the later ones have the timestamp,
and is read through the later structure.  So the results are those of the layout of the firmware
exactly when these bytes happen to agree (`decoded_iff`).

The bytes of the notification are a function of the offset from `pkt->data`.  The text of the
location entries stands beside each notification as `iwl_mvm_ftm_lc_notif` has left it.
-/

namespace Iwlwifi.FtmRangeResp

open Lib Ftm

/-! ## Layouts -/

/-- The fields of an entry of any version. -/
inductive ApField where
  | bssid
  | measureStatus
  | measureBw
  | rtt
  | rttVariance
  | rttSpread
  | rssi
  | rssiSpread
  | reserved
  | lastBurst
  | refusalPeriod
  | range
  | rangeVariance
  | timestamp
  | startTsf
  | rxRateNFlags
  | txRateNFlags
  | t2t3Initiator
  | t1t4Responder
  | commonCalib
  | specificCalib
  | papdCalibOutput
  | rttConfidence
  deriving DecidableEq, Repr

/-- The fields of a notification of any version. -/
inductive NtfyField where
  | requestId
  | requestStatus
  | lastInBatch
  | numOfAps
  | lastReport
  | reserved
  | ap
  deriving DecidableEq, Repr

/-- `struct iwl_tof_range_rsp_ap_entry_ntfy_v3`. -/
def iwlTofRangeRspApEntryNtfyV3 : Packed ApField :=
  [(.bssid, 6), (.measureStatus, 1), (.measureBw, 1), (.rtt, 4), (.rttVariance, 4),
    (.rttSpread, 4), (.rssi, 1), (.rssiSpread, 1), (.reserved, 1), (.refusalPeriod, 1),
    (.range, 4), (.rangeVariance, 4), (.timestamp, 4), (.t2t3Initiator, 4), (.t1t4Responder, 4),
    (.commonCalib, 2), (.specificCalib, 2), (.papdCalibOutput, 4)]

/-- `struct iwl_tof_range_rsp_ap_entry_ntfy_v4`. -/
def iwlTofRangeRspApEntryNtfyV4 : Packed ApField :=
  [(.bssid, 6), (.measureStatus, 1), (.measureBw, 1), (.rtt, 4), (.rttVariance, 4),
    (.rttSpread, 4), (.rssi, 1), (.rssiSpread, 1), (.lastBurst, 1), (.refusalPeriod, 1),
    (.timestamp, 4), (.startTsf, 4), (.rxRateNFlags, 4), (.txRateNFlags, 4), (.t2t3Initiator, 4),
    (.t1t4Responder, 4), (.commonCalib, 2), (.specificCalib, 2), (.papdCalibOutput, 4)]

/-- `struct iwl_tof_range_rsp_ap_entry_ntfy`. -/
def iwlTofRangeRspApEntryNtfy : Packed ApField :=
  [(.bssid, 6), (.measureStatus, 1), (.measureBw, 1), (.rtt, 4), (.rttVariance, 4),
    (.rttSpread, 4), (.rssi, 1), (.rssiSpread, 1), (.lastBurst, 1), (.refusalPeriod, 1),
    (.timestamp, 4), (.startTsf, 4), (.rxRateNFlags, 4), (.txRateNFlags, 4), (.t2t3Initiator, 4),
    (.t1t4Responder, 4), (.commonCalib, 2), (.specificCalib, 2), (.papdCalibOutput, 4),
    (.rttConfidence, 1), (.reserved, 3)]

/-- `struct iwl_tof_range_rsp_ntfy_v5`. -/
def iwlTofRangeRspNtfyV5 : Packed NtfyField :=
  [(.requestId, 1), (.requestStatus, 1), (.lastInBatch, 1), (.numOfAps, 1),
    (.ap, iwlMvmTofMaxAps * iwlTofRangeRspApEntryNtfyV3.size)]

/-- `struct iwl_tof_range_rsp_ntfy_v6`. -/
def iwlTofRangeRspNtfyV6 : Packed NtfyField :=
  [(.requestId, 1), (.numOfAps, 1), (.lastReport, 1), (.reserved, 1),
    (.ap, iwlMvmTofMaxAps * iwlTofRangeRspApEntryNtfyV4.size)]

/-- `struct iwl_tof_range_rsp_ntfy`. -/
def iwlTofRangeRspNtfy : Packed NtfyField :=
  [(.requestId, 1), (.numOfAps, 1), (.lastReport, 1), (.reserved, 1),
    (.ap, iwlMvmTofMaxAps * iwlTofRangeRspApEntryNtfy.size)]

/-- The capabilities `FTM_NEW_RANGE_REQ` and `FTM_RTT_ACCURACY` of the firmware. -/
structure Capa where
  newRangeReq : Bool
  rttAccuracy : Bool
  deriving DecidableEq, Repr

section

variable (data : Nat → UInt8)

def readU8 {κ : Type} [DecidableEq κ] (s : Packed κ) (field : κ) (base : Nat) : UInt8 :=
  .ofNat (s.read field data base)

def readLe32 {κ : Type} [DecidableEq κ] (s : Packed κ) (field : κ) (base : Nat) : UInt32 :=
  .ofNat (s.read field data base)

end

/-! ## What is read of a notification -/

/-- What the loop reads of an entry; `apTsf` is `none` where it is not valid. -/
structure ApEntry where
  bssid : Addr
  final : Bool
  measureStatus : UInt8
  refusalPeriod : UInt8
  apTsf : Option UInt32
  timestamp : UInt32
  rssi : Int8
  rssiSpread : UInt8
  rtt : UInt32
  rttVariance : UInt32
  rttSpread : UInt32
  deriving DecidableEq, Repr

/-- A flag of one bit is assigned the low bit. -/
def flag (byte : UInt8) : Bool := byte &&& 1 = 1

/-- The pointer `fw_ap`, as an offset. -/
def fwAp (capa : Capa) (i : Nat) : Nat :=
  if capa.newRangeReq then
    if capa.rttAccuracy then
      iwlTofRangeRspNtfy.offset .ap + i * iwlTofRangeRspApEntryNtfy.size
    else iwlTofRangeRspNtfyV6.offset .ap + i * iwlTofRangeRspApEntryNtfyV4.size
  else iwlTofRangeRspNtfyV5.offset .ap + i * iwlTofRangeRspApEntryNtfyV3.size

/-- Entry `i` as the loop reads it, through a pointer to the latest structure except for the
flag of the last burst. -/
def readEntry (capa : Capa) (data : Nat → UInt8) (i : Nat) : ApEntry :=
  let s := iwlTofRangeRspApEntryNtfy
  let base := fwAp capa i
  { bssid := .ofNat 48 (s.read .bssid data base)
    final := capa.newRangeReq &&
      flag (readU8 data s .lastBurst (iwlTofRangeRspNtfy.offset .ap + i * s.size))
    measureStatus := readU8 data s .measureStatus base
    refusalPeriod := readU8 data s .refusalPeriod base
    apTsf := if capa.newRangeReq then some (readLe32 data s .startTsf base) else none
    timestamp := readLe32 data s .timestamp base
    rssi := (readU8 data s .rssi base).toInt8
    rssiSpread := readU8 data s .rssiSpread base
    rtt := readLe32 data s .rtt base
    rttVariance := readLe32 data s .rttVariance base
    rttSpread := readLe32 data s .rttSpread base }

structure Header where
  requestId : UInt8
  numOfAps : UInt8
  lastInBatch : UInt8
  deriving DecidableEq, Repr

def readHeader (capa : Capa) (data : Nat → UInt8) : Header :=
  if capa.newRangeReq then
    { requestId := readU8 data iwlTofRangeRspNtfy .requestId 0
      numOfAps := readU8 data iwlTofRangeRspNtfy .numOfAps 0
      lastInBatch := readU8 data iwlTofRangeRspNtfy .lastReport 0 }
  else
    { requestId := readU8 data iwlTofRangeRspNtfyV5 .requestId 0
      numOfAps := readU8 data iwlTofRangeRspNtfyV5 .numOfAps 0
      lastInBatch := readU8 data iwlTofRangeRspNtfyV5 .lastInBatch 0 }

/-! ## Results -/

/-- `struct iwl_mvm_loc_entry`. -/
structure LocEntry where
  addr : Addr
  lci : List UInt8
  civic : List UInt8
  deriving DecidableEq, Repr

/-- A notification, the location entries that are known when it comes, and the GP2 time and the
boot time as `iwl_mvm_get_sync_time` reads them for each of its entries. -/
structure Notification where
  data : Nat → UInt8
  locList : List LocEntry
  syncTime : Nat → UInt32 × UInt64

/-- The active request; nl80211 takes no more peers than the driver announces. -/
structure Request where
  cookie : UInt64
  peers : List Addr
  few : peers.length ≤ iwlMvmTofMaxAps

/-- `mvm->ftm_initiator`. -/
structure FtmInitiator where
  req : Option Request
  responses : List Nat

/-- `struct cfg80211_pmsr_result`, with `ap_tsf` where it is valid. -/
structure Result where
  addr : Addr
  final : Bool
  status : PmsrStatus
  hostTime : UInt64
  apTsf : Option UInt64
  burstIndex : Int16
  rssiAvg : Int32
  rssiSpread : Int32
  rttAvg : Int64
  rttVariance : Int64
  rttSpread : Int64
  lci : List UInt8
  civicloc : List UInt8
  deriving DecidableEq, Repr

/-- `iwl_mvm_ftm_find_peer`. -/
def ftmFindPeer (req : Request) (addr : Addr) : Option Nat := req.peers.findIdx? (· == addr)

/-- `iwl_mvm_ftm_get_host_time`. -/
def ftmGetHostTime (syncTime : UInt32 × UInt64) (gp2Ts : UInt32) : UInt64 :=
  let currGp2 := syncTime.1
  let diff :=
    if gp2Ts ≤ currGp2 then currGp2 - gp2Ts else currGp2 + (0xFFFFFFFF - gp2Ts + 1)
  syncTime.2 - diff.toUInt64 * 1000

/-- `iwl_mvm_ftm_get_lci_civic`. -/
def ftmGetLciCivic (locList : List LocEntry) (addr : Addr) : List UInt8 × List UInt8 :=
  match locList.find? (·.addr == addr) with
  | some entry => (entry.lci, entry.civic)
  | none => ([], [])

/-- `iwl_mvm_ftm_range_resp_valid`. -/
def ftmRangeRespValid (req : Request) (header : Header) : Bool :=
  header.requestId == req.cookie.toUInt8 && header.numOfAps.toNat ≤ req.peers.length

def ApEntry.toRespEntry (entry : ApEntry) : RespEntry where
  bssid := entry.bssid
  measureStatus := entry.measureStatus
  refusalPeriod := entry.refusalPeriod.toNat
  lastBurst := entry.final

/-- The result of an entry for a peer that has had `responses` results before. -/
def makeResult (entry : ApEntry) (locList : List LocEntry) (syncTime : UInt32 × UInt64)
    (responses : Nat) : Result where
  addr := entry.bssid
  final := entry.final
  status := entryStatus entry.toRespEntry
  hostTime := ftmGetHostTime syncTime entry.timestamp
  apTsf := entry.apTsf.map (·.toUInt64)
  burstIndex := .ofNat responses
  rssiAvg := entry.rssi.toInt32
  rssiSpread := entry.rssiSpread.toUInt32.toInt32
  rttAvg := entry.rtt.toInt32.toInt64
  rttVariance := entry.rttVariance.toUInt64.toInt64
  rttSpread := entry.rttSpread.toUInt64.toInt64
  lci := (ftmGetLciCivic locList entry.bssid).1
  civicloc := (ftmGetLciCivic locList entry.bssid).2

/-- A result given to `cfg80211_pmsr_report`, with the entry it was made for. -/
structure Report where
  ntfy : Notification
  index : Nat
  result : Result

section

variable (capa : Capa) (req : Request) (ntfy : Notification)

/-- The loop of `iwl_mvm_ftm_range_resp` over the entries: the numbers of responses after it and
what it reports. -/
def reportEntries : List Nat → List Nat → List Nat × List Report
  | [], responses => (responses, [])
  | i :: rest, responses =>
    let entry := readEntry capa ntfy.data i
    match ftmFindPeer req entry.bssid with
    | none => reportEntries rest responses
    | some idx =>
      let burst := responses.getD idx 0
      let more := reportEntries rest (responses.set idx (burst + 1))
      (more.1,
        { ntfy
          index := i
          result := makeResult entry ntfy.locList (ntfy.syncTime i) burst } :: more.2)

/-- The entries that the loop goes through. -/
def entryIndices : List Nat :=
  List.range (min (readHeader capa ntfy.data).numOfAps.toNat iwlMvmTofMaxAps)

end

/-- `iwl_mvm_ftm_range_resp`. -/
def ftmRangeResp (capa : Capa) (ftm : FtmInitiator) (ntfy : Notification) :
    FtmInitiator × List Report :=
  match ftm.req with
  | none => (ftm, [])
  | some req =>
    let header := readHeader capa ntfy.data
    if ftmRangeRespValid req header then
      let done := reportEntries capa req ntfy (entryIndices capa ntfy) ftm.responses
      if header.lastInBatch ≠ 0 then
        ({ req := none, responses := List.replicate iwlMvmTofMaxAps 0 }, done.2)
      else ({ ftm with responses := done.1 }, done.2)
    else (ftm, [])

/-- What is reported over a run of notifications. -/
def reported (capa : Capa) : FtmInitiator → List Notification → List Report
  | _, [] => []
  | ftm, ntfy :: rest =>
    (ftmRangeResp capa ftm ntfy).2 ++ reported capa (ftmRangeResp capa ftm ntfy).1 rest

/-- A request has just been started. -/
def started (req : Request) : FtmInitiator where
  req := some req
  responses := List.replicate iwlMvmTofMaxAps 0

/-! ## Results in the layout of the firmware -/

/-- A version of the notification. -/
structure Layout where
  ntfy : Packed NtfyField
  entry : Packed ApField

/-- The version that a firmware with these capabilities sends. -/
def Capa.layout (capa : Capa) : Layout :=
  if capa.newRangeReq then
    if capa.rttAccuracy then ⟨iwlTofRangeRspNtfy, iwlTofRangeRspApEntryNtfy⟩
    else ⟨iwlTofRangeRspNtfyV6, iwlTofRangeRspApEntryNtfyV4⟩
  else ⟨iwlTofRangeRspNtfyV5, iwlTofRangeRspApEntryNtfyV3⟩

/-- Entry `i` of a notification of the layout. -/
def ownEntry (layout : Layout) (data : Nat → UInt8) (i : Nat) : ApEntry :=
  let s := layout.entry
  let base := layout.ntfy.offset .ap + i * s.size
  { bssid := .ofNat 48 (s.read .bssid data base)
    final := s.has .lastBurst && flag (readU8 data s .lastBurst base)
    measureStatus := readU8 data s .measureStatus base
    refusalPeriod := readU8 data s .refusalPeriod base
    apTsf := if s.has .startTsf then some (readLe32 data s .startTsf base) else none
    timestamp := readLe32 data s .timestamp base
    rssi := (readU8 data s .rssi base).toInt8
    rssiSpread := readU8 data s .rssiSpread base
    rtt := readLe32 data s .rtt base
    rttVariance := readLe32 data s .rttVariance base
    rttSpread := readLe32 data s .rttSpread base }

/-- The result says what the entry says, measured at the age of the timestamp: of the 32-bit
clock and the boot time of `syncTime`, in microseconds and nanoseconds. -/
structure TakenFrom (entry : ApEntry) (syncTime : UInt32 × UInt64) (result : Result) : Prop where
  addr : result.addr = entry.bssid
  final : result.final = entry.final
  status : result.status = entryStatus entry.toRespEntry
  apTsf : result.apTsf = entry.apTsf.map (·.toUInt64)
  rssiAvg : result.rssiAvg = entry.rssi.toInt32
  rssiSpread : result.rssiSpread = entry.rssiSpread.toUInt32.toInt32
  rttAvg : result.rttAvg = entry.rtt.toInt32.toInt64
  rttVariance : result.rttVariance = entry.rttVariance.toUInt64.toInt64
  rttSpread : result.rttSpread = entry.rttSpread.toUInt64.toInt64
  hostTime : ∀ age < 2 ^ 32, entry.timestamp = syncTime.1 - UInt32.ofNat age →
    result.hostTime = syncTime.2 - UInt64.ofNat (age * 1000)

/-- The results of a run: each from its own entry, and for each peer with the burst indices from
zero on. -/
structure Decoded (capa : Capa) (reports : List Report) : Prop where
  own : ∀ report ∈ reports,
    TakenFrom (ownEntry capa.layout report.ntfy.data report.index)
      (report.ntfy.syncTime report.index) report.result
  bursts : ∀ addr,
    (reports.filter (·.result.addr = addr)).map (·.result.burstIndex.toInt) =
      (List.range (reports.countP (·.result.addr = addr))).map Int.ofNat

/-! ## The host time -/

theorem ftmGetHostTime_eq (syncTime : UInt32 × UInt64) (gp2Ts : UInt32) :
    ftmGetHostTime syncTime gp2Ts = syncTime.2 - (syncTime.1 - gp2Ts).toUInt64 * 1000 := by
  have wrapped : syncTime.1 + (0xFFFFFFFF - gp2Ts + 1) = syncTime.1 - gp2Ts := by
    have next : (0xFFFFFFFF : UInt32) + 1 = 0 := rfl
    rw [UInt32.sub_eq_add_neg 0xFFFFFFFF, UInt32.add_assoc, UInt32.add_comm (-gp2Ts),
      ← UInt32.add_assoc 0xFFFFFFFF, next, UInt32.zero_add, UInt32.add_neg_eq_sub]
  unfold ftmGetHostTime
  dsimp only
  split
  · rfl
  · rw [wrapped]

theorem toUInt64_mul_thousand (age : UInt32) :
    age.toUInt64 * 1000 = UInt64.ofNat (age.toNat * 1000) := by
  apply UInt64.toNat_inj.mp
  rw [UInt64.toNat_mul, UInt32.toNat_toUInt64, UInt64.toNat_ofNat']
  rfl

/-- The host time lies before the boot time by the age of the timestamp. -/
theorem ftmGetHostTime_of_age {syncTime : UInt32 × UInt64} {gp2Ts : UInt32} {age : Nat}
    (recent : age < 2 ^ 32) (taken : gp2Ts = syncTime.1 - UInt32.ofNat age) :
    ftmGetHostTime syncTime gp2Ts = syncTime.2 - UInt64.ofNat (age * 1000) := by
  have back : syncTime.1 - gp2Ts = UInt32.ofNat age := by
    rw [taken, UInt32.sub_eq_iff_eq_add, UInt32.add_comm, UInt32.sub_add_cancel]
  rw [ftmGetHostTime_eq, back, toUInt64_mul_thousand, UInt32.toNat_ofNat_of_lt' recent]

/-- Different timestamps have different host times. -/
theorem ftmGetHostTime_inj {syncTime : UInt32 × UInt64} {gp2Ts other : UInt32} :
    ftmGetHostTime syncTime gp2Ts = ftmGetHostTime syncTime other ↔ gp2Ts = other := by
  have small : ∀ age : UInt32, age.toNat * 1000 < UInt64.size := fun age =>
    calc age.toNat * 1000 < UInt32.size * 1000 := by
          exact Nat.mul_lt_mul_of_pos_right age.toNat_lt (by decide)
      _ < UInt64.size := by decide
  rw [ftmGetHostTime_eq, ftmGetHostTime_eq, UInt64.sub_right_inj, toUInt64_mul_thousand,
    toUInt64_mul_thousand]
  refine ⟨fun same => ?_, fun same => by rw [same]⟩
  have ages := congrArg UInt64.toNat same
  rw [UInt64.toNat_ofNat_of_lt' (small _), UInt64.toNat_ofNat_of_lt' (small _)] at ages
  exact (UInt32.sub_right_inj syncTime.1).mp
    (UInt32.toNat_inj.mp (Nat.eq_of_mul_eq_mul_right (by decide) ages))

/-- What the code makes of an entry is a result of another entry that differs at most in the flag
and the timestamp exactly when these agree. -/
theorem takenFrom_makeResult {entry own : ApEntry} {locList : List LocEntry}
    {syncTime : UInt32 × UInt64} {responses : Nat}
    (same : { entry with final := own.final, timestamp := own.timestamp } = own) :
    TakenFrom own syncTime (makeResult entry locList syncTime responses) ↔
      entry.final = own.final ∧ entry.timestamp = own.timestamp := by
  constructor
  · intro taken
    refine ⟨taken.final, (@ftmGetHostTime_inj syncTime _ _).mp ?_⟩
    have age : own.timestamp = syncTime.1 - UInt32.ofNat (syncTime.1 - own.timestamp).toNat := by
      rw [UInt32.ofNat_toNat, eq_comm, UInt32.sub_eq_iff_eq_add, UInt32.add_comm,
        UInt32.sub_add_cancel]
    have recent := (syncTime.1 - own.timestamp).toNat_lt
    exact (taken.hostTime _ recent age).trans (ftmGetHostTime_of_age recent age).symm
  · intro agree
    rw [← agree.1, ← agree.2] at same
    obtain rfl : entry = own := same
    exact ⟨rfl, rfl, rfl, rfl, rfl, rfl, rfl, rfl, rfl, fun _ => ftmGetHostTime_of_age⟩

/-! ## One entry -/

/-- The bytes in which the layouts differ agree: of version 5 the distance is read for the
timestamp, of version 6 the flag of the last burst is read where version 7 has it. -/
def OwnBytes (capa : Capa) (data : Nat → UInt8) (i : Nat) : Prop :=
  if capa.newRangeReq then
    if capa.rttAccuracy then True
    else
      flag (readU8 data iwlTofRangeRspApEntryNtfy .lastBurst
          (iwlTofRangeRspNtfy.offset .ap + i * iwlTofRangeRspApEntryNtfy.size)) =
        flag (readU8 data iwlTofRangeRspApEntryNtfyV4 .lastBurst
          (iwlTofRangeRspNtfyV6.offset .ap + i * iwlTofRangeRspApEntryNtfyV4.size))
  else
    readLe32 data iwlTofRangeRspApEntryNtfyV3 .range
        (iwlTofRangeRspNtfyV5.offset .ap + i * iwlTofRangeRspApEntryNtfyV3.size) =
      readLe32 data iwlTofRangeRspApEntryNtfyV3 .timestamp
        (iwlTofRangeRspNtfyV5.offset .ap + i * iwlTofRangeRspApEntryNtfyV3.size)

instance OwnBytes.decidable (capa : Capa) (data : Nat → UInt8) (i : Nat) :
    Decidable (OwnBytes capa data i) := by
  unfold OwnBytes
  infer_instance

/-- The fields that all versions begin with. -/
def commonFields : Packed ApField := iwlTofRangeRspApEntryNtfyV3.take 8

theorem commonFields_v3 : commonFields <+: iwlTofRangeRspApEntryNtfyV3 := List.take_prefix ..

theorem commonFields_ntfy : commonFields <+: iwlTofRangeRspApEntryNtfy := by
  decide

theorem v4_ntfy : iwlTofRangeRspApEntryNtfyV4 <+: iwlTofRangeRspApEntryNtfy := by
  decide

theorem read_v4 (field : ApField) (inside : iwlTofRangeRspApEntryNtfyV4.has field)
    (data : Nat → UInt8) (base : Nat) :
    iwlTofRangeRspApEntryNtfy.read field data base =
      iwlTofRangeRspApEntryNtfyV4.read field data base :=
  Packed.read_eq_of_prefix v4_ntfy inside data base

theorem read_v3 (field : ApField) (inside : commonFields.has field) (data : Nat → UInt8)
    (base : Nat) :
    iwlTofRangeRspApEntryNtfy.read field data base =
      iwlTofRangeRspApEntryNtfyV3.read field data base :=
  (Packed.read_eq_of_prefix commonFields_ntfy inside data base).trans
    (Packed.read_eq_of_prefix commonFields_v3 inside data base).symm

/-- Between the common beginning and the refusal period each version has a field of one byte. -/
theorem read_refusalPeriod_v3 (data : Nat → UInt8) (base : Nat) :
    iwlTofRangeRspApEntryNtfy.read .refusalPeriod data base =
      iwlTofRangeRspApEntryNtfyV3.read .refusalPeriod data base := rfl

/-- The later structures have the timestamp where version 5 has the distance. -/
theorem read_timestamp_v3 (data : Nat → UInt8) (base : Nat) :
    iwlTofRangeRspApEntryNtfy.read .timestamp data base =
      iwlTofRangeRspApEntryNtfyV3.read .range data base := rfl

/-- Apart from the flag and the timestamp, an entry is read as its own layout has it. -/
theorem readEntry_own (capa : Capa) (data : Nat → UInt8) (i : Nat) :
    { readEntry capa data i with
      final := (ownEntry capa.layout data i).final
      timestamp := (ownEntry capa.layout data i).timestamp } = ownEntry capa.layout data i := by
  obtain ⟨newRangeReq, rttAccuracy⟩ := capa
  cases newRangeReq with
  | false =>
    simp only [readEntry, fwAp, readU8, readLe32, read_refusalPeriod_v3,
      read_v3 .bssid rfl, read_v3 .measureStatus rfl, read_v3 .rssi rfl,
      read_v3 .rssiSpread rfl, read_v3 .rtt rfl, read_v3 .rttVariance rfl,
      read_v3 .rttSpread rfl]
    rfl
  | true =>
    cases rttAccuracy with
    | false =>
      simp only [readEntry, fwAp, readU8, readLe32, read_v4 .bssid rfl,
        read_v4 .measureStatus rfl, read_v4 .refusalPeriod rfl, read_v4 .startTsf rfl,
        read_v4 .rssi rfl, read_v4 .rssiSpread rfl, read_v4 .rtt rfl,
        read_v4 .rttVariance rfl, read_v4 .rttSpread rfl]
      rfl
    | true => rfl

theorem readEntry_agrees_iff (capa : Capa) (data : Nat → UInt8) (i : Nat) :
    (readEntry capa data i).final = (ownEntry capa.layout data i).final ∧
        (readEntry capa data i).timestamp = (ownEntry capa.layout data i).timestamp ↔
      OwnBytes capa data i := by
  obtain ⟨newRangeReq, rttAccuracy⟩ := capa
  cases newRangeReq with
  | false =>
    have timestamp : (readEntry ⟨false, rttAccuracy⟩ data i).timestamp =
        readLe32 data iwlTofRangeRspApEntryNtfyV3 .range
          (iwlTofRangeRspNtfyV5.offset .ap + i * iwlTofRangeRspApEntryNtfyV3.size) := by
      rw [readLe32, ← read_timestamp_v3]
      rfl
    rw [timestamp]
    exact and_iff_right rfl
  | true =>
    cases rttAccuracy with
    | false =>
      have timestamp : (readEntry ⟨true, false⟩ data i).timestamp =
          (ownEntry (Capa.layout ⟨true, false⟩) data i).timestamp := by
        simp only [readEntry, readLe32, read_v4 .timestamp rfl]
        rfl
      exact and_iff_left timestamp
    | true => exact iff_of_true ⟨rfl, rfl⟩ trivial

/-! ## The reports of a run -/

/-- A report is made of its own entry, as the code reads it, for a peer of the request. -/
structure Made (capa : Capa) (req : Request) (report : Report) : Prop where
  result : ∃ responses, report.result = makeResult (readEntry capa report.ntfy.data report.index)
    report.ntfy.locList (report.ntfy.syncTime report.index) responses
  peer : report.result.addr ∈ req.peers

/-- The address in an entry. -/
def bssidOf (capa : Capa) (place : Notification × Nat) : Addr :=
  (ownEntry capa.layout place.1.data place.2).bssid

def Report.place (report : Report) : Notification × Nat := (report.ntfy, report.index)

theorem readEntry_bssid (capa : Capa) (ntfy : Notification) (i : Nat) :
    (readEntry capa ntfy.data i).bssid = bssidOf capa (ntfy, i) := by
  rw [bssidOf, ← readEntry_own capa ntfy.data i]

theorem Made.addr_eq {capa : Capa} {req : Request} {report : Report}
    (made : Made capa req report) : report.result.addr = bssidOf capa report.place := by
  obtain ⟨responses, result⟩ := made.result
  rw [result]
  exact readEntry_bssid ..

/-- The entries with the address of a peer in the responses to a request, up to the last one. -/
def answered (capa : Capa) (req : Request) : List Notification → List (Notification × Nat)
  | [] => []
  | ntfy :: rest =>
    let header := readHeader capa ntfy.data
    if ftmRangeRespValid req header then
      ((entryIndices capa ntfy).map (ntfy, ·)).filter (bssidOf capa · ∈ req.peers) ++
        if header.lastInBatch ≠ 0 then [] else answered capa req rest
    else answered capa req rest

variable {addr : Addr}

section

variable {capa : Capa} {req : Request} {ntfy : Notification}

theorem ftmFindPeer_eq_none : ftmFindPeer req addr = none ↔ addr ∉ req.peers := by
  rw [ftmFindPeer, List.findIdx?_eq_none_iff]
  constructor
  · intro differ member
    exact absurd (differ addr member) (by simp)
  · intro absent peer member
    exact beq_eq_false_iff_ne.mpr fun same => absent (same ▸ member)

/-- Different peers have different numbers. -/
theorem ftmFindPeer_inj {addr other : Addr} {idx : Nat} (found : ftmFindPeer req addr = some idx)
    (found' : ftmFindPeer req other = some idx) : addr = other := by
  obtain ⟨_, here, -⟩ := List.findIdx?_eq_some_iff_getElem.mp found
  obtain ⟨_, there, -⟩ := List.findIdx?_eq_some_iff_getElem.mp found'
  exact (beq_iff_eq.mp here).symm.trans (beq_iff_eq.mp there)

theorem ftmFindPeer_lt {idx : Nat} (found : ftmFindPeer req addr = some idx) :
    idx < iwlMvmTofMaxAps := by
  obtain ⟨inside, -⟩ := List.findIdx?_eq_some_iff_getElem.mp found
  exact Nat.lt_of_lt_of_le inside req.few

theorem reportEntries_made (indices responses : List Nat) :
    ∀ report ∈ (reportEntries capa req ntfy indices responses).2, Made capa req report := by
  induction indices generalizing responses with
  | nil => exact List.forall_mem_nil _
  | cons i rest ih =>
    rw [reportEntries]
    split
    · exact ih responses
    · next idx found =>
        refine List.forall_mem_cons.mpr ⟨⟨⟨_, rfl⟩, ?_⟩, ih _⟩
        by_contra absent
        exact absurd (found.symm.trans (ftmFindPeer_eq_none.mpr absent)) (Option.some_ne_none _)

/-- A report for every entry with the address of a peer, in order. -/
theorem reportEntries_places (indices responses : List Nat) :
    (reportEntries capa req ntfy indices responses).2.map Report.place =
      (indices.map (ntfy, ·)).filter (bssidOf capa · ∈ req.peers) := by
  induction indices generalizing responses with
  | nil => rfl
  | cons i rest ih =>
    have read := readEntry_bssid capa ntfy i
    rw [reportEntries, List.map_cons]
    split
    · next found =>
        rw [read, ftmFindPeer_eq_none] at found
        rw [List.filter_cons_of_neg (by simpa using found)]
        exact ih responses
    · next idx found =>
        have known : bssidOf capa (ntfy, i) ∈ req.peers := by
          by_contra absent
          rw [read, ftmFindPeer_eq_none.mpr absent] at found
          exact absurd found.symm (Option.some_ne_none _)
        rw [List.filter_cons_of_pos (by simpa using known), List.map_cons, ih]
        rfl

theorem reportEntries_length (indices responses : List Nat) :
    (reportEntries capa req ntfy indices responses).1.length = responses.length := by
  induction indices generalizing responses with
  | nil => rfl
  | cons i rest ih =>
    rw [reportEntries]
    split
    · exact ih responses
    · exact (ih _).trans List.length_set

/-- The burst indices of a peer. -/
def burstsOf (addr : Addr) (reports : List Report) : List Int16 :=
  (reports.filter (·.result.addr = addr)).map (·.result.burstIndex)

def countOf (addr : Addr) (reports : List Report) : Nat :=
  reports.countP (·.result.addr = addr)

theorem bursts_cons_of_eq {report : Report} (same : report.result.addr = addr)
    (reports : List Report) :
    burstsOf addr (report :: reports) = report.result.burstIndex :: burstsOf addr reports ∧
      countOf addr (report :: reports) = countOf addr reports + 1 := by
  simp [burstsOf, countOf, same]

theorem bursts_cons_of_ne {report : Report} (differ : report.result.addr ≠ addr)
    (reports : List Report) :
    burstsOf addr (report :: reports) = burstsOf addr reports ∧
      countOf addr (report :: reports) = countOf addr reports := by
  simp [burstsOf, countOf, differ]

theorem bursts_append (addr : Addr) (first rest : List Report) :
    burstsOf addr (first ++ rest) = burstsOf addr first ++ burstsOf addr rest ∧
      countOf addr (first ++ rest) = countOf addr first + countOf addr rest := by
  rw [burstsOf, List.filter_append, List.map_append, countOf, List.countP_append]
  exact ⟨rfl, rfl⟩

/-- The burst indices of a peer go on from its number of responses, which they count. -/
theorem reportEntries_bursts {addr : Addr} {idx : Nat} (found : ftmFindPeer req addr = some idx)
    (indices responses : List Nat) (long : responses.length = iwlMvmTofMaxAps) :
    let done := reportEntries capa req ntfy indices responses
    burstsOf addr done.2 =
        (List.range' (responses.getD idx 0) (countOf addr done.2)).map Int16.ofNat ∧
      done.1.getD idx 0 = responses.getD idx 0 + countOf addr done.2 := by
  induction indices generalizing responses with
  | nil => exact ⟨rfl, rfl⟩
  | cons i rest ih =>
    dsimp only at ih ⊢
    rw [reportEntries]
    split
    · exact ih responses long
    · next other there =>
        have inside : idx < responses.length := long ▸ ftmFindPeer_lt found
        obtain ⟨bursts, count⟩ := ih (responses.set other (responses.getD other 0 + 1))
          (List.length_set.trans long)
        dsimp only
        generalize made : Report.mk ntfy i (makeResult (readEntry capa ntfy.data i) ntfy.locList
          (ntfy.syncTime i) (responses.getD other 0)) = report
        have bssid : report.result.addr = (readEntry capa ntfy.data i).bssid := by
          rw [← made]
          rfl
        have burst : report.result.burstIndex = .ofNat (responses.getD other 0) := by
          rw [← made]
          rfl
        by_cases same : report.result.addr = addr
        · obtain rfl : other = idx := by
            rw [← bssid, same, found] at there
            exact (Option.some.inj there).symm
          have next : (responses.set other (responses.getD other 0 + 1)).getD other 0 =
              responses.getD other 0 + 1 := by
            rw [List.getD_eq_getElem?_getD, List.getElem?_set_self inside, Option.getD_some]
          rw [next] at bursts count
          rw [(bursts_cons_of_eq same _).1, (bursts_cons_of_eq same _).2, burst, bursts, count,
            List.range'_succ, List.map_cons]
          exact ⟨rfl, by omega⟩
        · have apart : other ≠ idx := by
            intro equal
            exact same (bssid.trans (ftmFindPeer_inj there (equal ▸ found)))
          have kept : (responses.set other (responses.getD other 0 + 1)).getD idx 0 =
              responses.getD idx 0 := by
            rw [List.getD_eq_getElem?_getD, List.getElem?_set_ne apart,
              ← List.getD_eq_getElem?_getD]
          rw [kept] at bursts count
          rw [(bursts_cons_of_ne same _).1, (bursts_cons_of_ne same _).2]
          exact ⟨bursts, count⟩

end

/-- Without a request nothing is reported. -/
theorem reported_idle {capa : Capa} {ftm : FtmInitiator} (idle : ftm.req = none)
    (ntfys : List Notification) : reported capa ftm ntfys = [] := by
  induction ntfys with
  | nil => rfl
  | cons ntfy rest ih =>
    have ignored : ftmRangeResp capa ftm ntfy = (ftm, []) := by rw [ftmRangeResp, idle]
    rw [reported, ignored]
    exact ih

/-- What a notification does while its request is active. -/
theorem ftmRangeResp_active {capa : Capa} {req : Request} {responses : List Nat}
    {ntfy : Notification} :
    ftmRangeResp capa ⟨some req, responses⟩ ntfy =
      if ftmRangeRespValid req (readHeader capa ntfy.data) then
        let done := reportEntries capa req ntfy (entryIndices capa ntfy) responses
        if (readHeader capa ntfy.data).lastInBatch ≠ 0 then
          (⟨none, List.replicate iwlMvmTofMaxAps 0⟩, done.2)
        else (⟨some req, done.1⟩, done.2)
      else (⟨some req, responses⟩, []) := rfl

/-- A run is that of one notification after the other, up to the last response. -/
theorem reported_active {capa : Capa} {req : Request} {responses : List Nat}
    {ntfy : Notification} {rest : List Notification} :
    reported capa ⟨some req, responses⟩ (ntfy :: rest) =
      if ftmRangeRespValid req (readHeader capa ntfy.data) then
        let done := reportEntries capa req ntfy (entryIndices capa ntfy) responses
        done.2 ++
          if (readHeader capa ntfy.data).lastInBatch ≠ 0 then []
          else reported capa ⟨some req, done.1⟩ rest
      else reported capa ⟨some req, responses⟩ rest := by
  rw [reported, ftmRangeResp_active]
  split
  · dsimp only
    split
    · rw [reported_idle rfl]
    · rfl
  · rfl

section

variable {capa : Capa} {req : Request}

theorem reported_made (ntfys : List Notification) (responses : List Nat) :
    ∀ report ∈ reported capa ⟨some req, responses⟩ ntfys, Made capa req report := by
  induction ntfys generalizing responses with
  | nil => exact List.forall_mem_nil _
  | cons ntfy rest ih =>
    rw [reported_active]
    split
    · dsimp only
      intro report member
      obtain here | later := List.mem_append.mp member
      · exact reportEntries_made _ _ report here
      · split at later
        · exact absurd later List.not_mem_nil
        · exact ih _ report later
    · exact ih responses

theorem reported_places (ntfys : List Notification) (responses : List Nat) :
    (reported capa ⟨some req, responses⟩ ntfys).map Report.place = answered capa req ntfys := by
  induction ntfys generalizing responses with
  | nil => rfl
  | cons ntfy rest ih =>
    rw [reported_active, answered]
    dsimp only
    split
    · rw [List.map_append, reportEntries_places]
      split
      · rfl
      · rw [ih]
    · exact ih responses

theorem reported_bursts {idx : Nat} (found : ftmFindPeer req addr = some idx)
    (ntfys : List Notification) (responses : List Nat) (long : responses.length = iwlMvmTofMaxAps) :
    burstsOf addr (reported capa ⟨some req, responses⟩ ntfys) =
      (List.range' (responses.getD idx 0)
        (countOf addr (reported capa ⟨some req, responses⟩ ntfys))).map Int16.ofNat := by
  induction ntfys generalizing responses with
  | nil => rfl
  | cons ntfy rest ih =>
    rw [reported_active]
    split
    · obtain ⟨bursts, count⟩ := @reportEntries_bursts capa req ntfy addr idx found
        (entryIndices capa ntfy) responses long
      dsimp only at bursts count ⊢
      split
      · rw [List.append_nil]
        exact bursts
      · have later := ih (reportEntries capa req ntfy (entryIndices capa ntfy) responses).1
          ((reportEntries_length ..).trans long)
        rw [count] at later
        rw [(bursts_append ..).1, (bursts_append ..).2, bursts, later, ← List.map_append,
          List.range'_append_1]
    · exact ih responses long

end

/-! ## Every run of a request -/

/-- The condition on a run. -/
structure OwnRun (capa : Capa) (req : Request) (ntfys : List Notification) : Prop where
  own : ∀ place ∈ answered capa req ntfys, OwnBytes capa place.1.data place.2
  few : ∀ addr, (answered capa req ntfys).countP (bssidOf capa · = addr) ≤ 2 ^ 15

section

variable {capa : Capa} {req : Request} {ntfys : List Notification}

theorem countOf_reported (addr : Addr) :
    countOf addr (reported capa (started req) ntfys) =
      (answered capa req ntfys).countP (bssidOf capa · = addr) := by
  rw [← reported_places ntfys (started req).responses, List.countP_map, countOf]
  refine List.countP_congr fun report member => ?_
  rw [(reported_made ntfys _ report member).addr_eq]
  rfl

/-- The burst indices of a peer are the numbers from zero on, cut to their width. -/
theorem burstsOf_reported (addr : Addr) :
    burstsOf addr (reported capa (started req) ntfys) =
      (List.range (countOf addr (reported capa (started req) ntfys))).map Int16.ofNat := by
  cases found : ftmFindPeer req addr with
  | some idx =>
    have none' : (started req).responses.getD idx 0 = 0 := by
      rw [List.getD_eq_getElem?_getD, started, List.getElem?_replicate]
      split <;> rfl
    rw [List.range_eq_range', ← none']
    exact reported_bursts found ntfys _ List.length_replicate
  | none =>
    have absent := ftmFindPeer_eq_none.mp found
    have other : ∀ report ∈ reported capa (started req) ntfys, report.result.addr ≠ addr :=
      fun report member same => absent (same ▸ (reported_made ntfys _ report member).peer)
    have nothing : (reported capa (started req) ntfys).filter (·.result.addr = addr) = [] :=
      List.filter_eq_nil_iff.mpr fun report member => by simpa using other report member
    rw [burstsOf, countOf, List.countP_eq_length_filter, nothing]
    rfl

/-- The results are taken from their own entries exactly when the bytes agree. -/
theorem own_iff :
    (∀ report ∈ reported capa (started req) ntfys,
        TakenFrom (ownEntry capa.layout report.ntfy.data report.index)
          (report.ntfy.syncTime report.index) report.result) ↔
      ∀ place ∈ answered capa req ntfys, OwnBytes capa place.1.data place.2 := by
  rw [← reported_places ntfys (started req).responses, List.forall_mem_map]
  refine forall₂_congr fun report member => ?_
  obtain ⟨responses, result⟩ := (reported_made ntfys _ report member).result
  rw [result, takenFrom_makeResult (readEntry_own ..)]
  exact readEntry_agrees_iff ..

/-- Sixteen bits, one of them the sign, hold the first 2^15 indices and no more. -/
theorem bursts_iff (count : Nat) :
    ((List.range count).map Int16.ofNat).map Int16.toInt = (List.range count).map Int.ofNat ↔
      count ≤ 2 ^ 15 := by
  rw [List.map_map, List.map_inj_left]
  constructor
  · intro same
    by_contra many
    have first := same (2 ^ 15) (List.mem_range.mpr (by omega))
    exact absurd first (by decide)
  · intro few burst below
    have small := List.mem_range.mp below
    rw [Function.comp_apply, Int16.toInt_ofNat', Int.ofNat_eq_natCast]
    exact Int.bmod_eq_of_le (by omega) (by rw [Int16.size]; omega)

end

/-- Over every run of notifications for a request the results are decoded in the layout of the
firmware, with consecutive burst indices and the host times of their timestamps, exactly when
the entries agree in the bytes in which they are read in another layout and no peer gets more
results than the burst index has room for. -/
theorem decoded_iff (capa : Capa) (req : Request) (ntfys : List Notification) :
    Decoded capa (reported capa (started req) ntfys) ↔ OwnRun capa req ntfys := by
  have bursts : ∀ addr,
      (((reported capa (started req) ntfys).filter (·.result.addr = addr)).map
            (·.result.burstIndex.toInt) =
          (List.range (countOf addr (reported capa (started req) ntfys))).map Int.ofNat ↔
        (answered capa req ntfys).countP (bssidOf capa · = addr) ≤ 2 ^ 15) := by
    intro addr
    rw [← countOf_reported, ← bursts_iff, ← burstsOf_reported, burstsOf, List.map_map]
    rfl
  constructor
  · intro decoded
    exact ⟨own_iff.mp decoded.own, fun addr => (bursts addr).mp (decoded.bursts addr)⟩
  · intro run
    exact ⟨own_iff.mpr run.own, fun addr => (bursts addr).mpr (run.few addr)⟩

/-- A request to two peers. -/
def twoPeers : Request where
  cookie := 1
  peers := [2, 4]
  few := by decide

/-- A notification of version 6 for both: of the first, whose next burst is to come, and of the
second, whose last burst it was. -/
def lastOfSecond : Notification where
  data offset :=
    if offset = 0 then 1 else if offset = 1 then 2 else if offset = 4 then 2
    else if offset = 60 then 4 else if offset = 82 then 1 else 0
  locList := []
  syncTime _ := (0, 0)

/-- A notification of version 5 for the first peer, which is 7 cm away. -/
def nearFirst : Notification where
  data offset :=
    if offset = 0 then 1 else if offset = 3 then 1 else if offset = 4 then 2
    else if offset = 28 then 7 else 0
  locList := []
  syncTime _ := (0, 0)

/-- The flag of the second entry is lost, and the distance is taken for a timestamp. -/
theorem not_decoded :
    ¬Decoded ⟨true, false⟩ (reported ⟨true, false⟩ (started twoPeers) [lastOfSecond]) ∧
      ¬Decoded ⟨false, false⟩ (reported ⟨false, false⟩ (started twoPeers) [nearFirst]) := by
  constructor
  · intro decoded
    have second : (lastOfSecond, 1) ∈ answered ⟨true, false⟩ twoPeers [lastOfSecond] :=
      .tail _ (.head _)
    exact absurd (own_iff.mp decoded.own _ second) (by decide)
  · intro decoded
    have first : (nearFirst, 0) ∈ answered ⟨false, false⟩ twoPeers [nearFirst] := .head _
    exact absurd (own_iff.mp decoded.own _ first) (by decide)

end Iwlwifi.FtmRangeResp
