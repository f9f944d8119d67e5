import Iwlwifi.Mvm.DqaTables
import Iwlwifi.Mvm.GsoSkb

/-!
# TSO to A-MSDU conversion

A TCP packet longer than one segment is cut into A-MSDUs: `txTso` computes how many sub-frames
of one segment each fit into an A-MSDU, sets the A-MSDU bit, and lets the network stack cut the
payload into runs of that many segments.  The transport later makes the sub-frames of each
frame that has the bit.

`amsduLen` is the length of the A-MSDU a list of payload shares makes.  The number of sub-frames
is a rounded division, so it is zero for a segment that is longer than the A-MSDU limit; then
the stack is asked for runs of zero bytes.
-/

namespace Iwlwifi

local instance neZero_tsoTid : NeZero 16 := ⟨by decide⟩
local instance neZero_dqaTid : NeZero 9 := ⟨by decide⟩
local instance neZero_lmac : NeZero 2 := ⟨by decide⟩

/-! ## The length of an A-MSDU -/

/-- `sizeof(struct ethhdr)`, the sub-frame header. -/
def ethHdrLen : Nat := 14

/-- `(4 - len) & 0x3`, in `unsigned int`. -/
def amsduPad (len : Nat) : Nat := (2 ^ 32 + 4 - len) % 4

/-- The length of an A-MSDU whose sub-frames carry shares of these lengths behind `hdr` bytes of
headers; all but the last are padded to a multiple of four. -/
def amsduLen (hdr : Nat) : List Nat → Nat
  | [] => 0
  | [share] => hdr + share
  | share :: rest => hdr + share + amsduPad (hdr + share) + amsduLen hdr rest

theorem amsduPad_lt (len : Nat) : amsduPad len < 4 := Nat.mod_lt _ (by decide)

/-- A longer sub-frame is not shorter for its padding. -/
theorem add_amsduPad_mono {a b : Nat} (le : a ≤ b) (small : b < 2 ^ 32) :
    a + amsduPad a ≤ b + amsduPad b := by
  unfold amsduPad
  omega

/-- `n` sub-frames need at most `n * len + (n - 1) * pad` bytes. -/
theorem amsduLen_add_pad_le {hdr mss : Nat} (small : hdr + mss < 2 ^ 32) :
    ∀ {shares : List Nat}, shares ≠ [] → (∀ share ∈ shares, share ≤ mss) →
      amsduLen hdr shares + amsduPad (hdr + mss) ≤
        shares.length * (hdr + mss + amsduPad (hdr + mss))
  | [share], _, short => by
      have := short share (List.mem_singleton_self share)
      simp only [amsduLen, List.length_singleton, Nat.one_mul]
      omega
  | share :: next :: rest, _, short => by
      have first := short share List.mem_cons_self
      have padded := add_amsduPad_mono (Nat.add_le_add_left first hdr) small
      have others := amsduLen_add_pad_le small (List.cons_ne_nil next rest)
        fun other mem => short other (List.mem_cons_of_mem share mem)
      rw [List.length_cons, Nat.succ_mul]
      simp only [amsduLen]
      omega

/-! ## What decides the number of sub-frames -/

/-- `iwl_mvm_ac_to_tx_fifo`. -/
def acToTxFifo : Nat → Nat
  | 0 => 3
  | 1 => 2
  | 2 => 1
  | _ => 0

/-- `iwl_mvm_ac_to_gen2_tx_fifo`: the EDCA FIFOs, then those of trigger-based frames. -/
def acToGen2TxFifo : Nat → Nat
  | 0 => 4
  | 1 => 3
  | 2 => 2
  | 3 => 1
  | 4 => 8
  | 5 => 7
  | 6 => 6
  | _ => 5

/-- The device: the Tx API it has, and the sizes of the Tx FIFOs of its two LMACs. -/
structure TsoMvm where
  newTxApi : Bool
  cdbSupported : Bool
  txfifoSize : Fin 2 → Nat → UInt32

/-- `iwl_mvm_mac_ac_to_tx_fifo`. -/
def TsoMvm.macAcToTxFifo (mvm : TsoMvm) (ac : Nat) : Nat :=
  if mvm.newTxApi then acToGen2TxFifo ac else acToTxFifo ac

/-- `IWL_TFH_NUM_TBS` or `IWL_NUM_OF_TBS`. -/
def maxTbs (newTxApi : Bool) : Nat := if newTxApi then 25 else 20

/-- `IWL_PCIE_MAX_FRAGS`. -/
def TsoMvm.maxSkbFrags (mvm : TsoMvm) : Nat := maxTbs mvm.newTxApi - 3

/-- The station, as mac80211 and as the driver know it. -/
structure TsoSta where
  maxAmsduLen : UInt16
  maxAmsduSubframes : UInt8
  vhtSupported : Bool
  hasHe : Bool
  mvmMaxAmsduLen : UInt16
  amsduEnabled : UInt16
  amsduInAmpduAllowed : Fin 16 → Bool
  band5GHz : Bool
  lowLatency : Bool

/-- `iwl_mvm_max_amsdu_size`; the subtraction is one of `u32`. -/
def maxAmsduSize (mvm : TsoMvm) (sta : TsoSta) (tid : Fin 16) : Nat :=
  let ac := (tidToMac80211Ac (Fin.ofNat 9 tid)).val
  let lmac : Fin 2 := if mvm.cdbSupported && sta.band5GHz then 1 else 0
  let ac := if sta.hasHe && mvm.newTxApi then ac + 4 else ac
  let txf := mvm.macAcToTxFifo ac
  min sta.mvmMaxAmsduLen.toNat (mvm.txfifoSize lmac txf - 256).toNat

/-- The `max_amsdu_len` of `iwl_mvm_tx_tso`; `ampdu` is `IEEE80211_TX_CTL_AMPDU`. -/
def maxAmsduLen (mvm : TsoMvm) (sta : TsoSta) (ampdu : Bool) (tid : Fin 16) : Nat :=
  let len := min sta.maxAmsduLen.toNat (maxAmsduSize mvm sta tid)
  if ampdu && !sta.vhtSupported then min len 4095 else len

/-- Sub-frame header, SNAP, IP and TCP headers and one segment. -/
def subfLen (skb : GsoSkb) : Nat := ethHdrLen + skb.hdrs.snapIpTcp + skb.gsoSize

/-- `(max_amsdu_len + pad) / (subf_len + pad)`: `N` sub-frames need
`N * subf_len + (N - 1) * pad` bytes. -/
def fittingSubframes (mvm : TsoMvm) (sta : TsoSta) (ampdu : Bool) (skb : GsoSkb) : Nat :=
  let pad := amsduPad (subfLen skb)
  (maxAmsduLen mvm sta ampdu skb.mac.tid + pad) / (subfLen skb + pad)

/-- The limit the peer announced, when it announced one. -/
def limitSubframes (maxAmsduSubframes : UInt8) (num : Nat) : Nat :=
  if maxAmsduSubframes ≠ 0 ∧ maxAmsduSubframes.toNat < num then maxAmsduSubframes.toNat else num

/-- `num_subframes`: two transfer buffers for each sub-frame, one more for each fragment and one
for the data in the header have to suffice. -/
def numSubframes (mvm : TsoMvm) (sta : TsoSta) (ampdu : Bool) (skb : GsoSkb) : Nat :=
  let num := limitSubframes sta.maxAmsduSubframes (fittingSubframes mvm sta ampdu skb)
  if num * 2 + skb.frags.length + 1 > mvm.maxSkbFrags then 1 else num

/-! ## The conversion -/

def einval : Int := -22

/-- One run of the conversion: the sizes the segmentation was asked for, the frames queued, and
the return value. -/
structure TsoRun where
  segmentSizes : List Nat
  mpdus : List GsoSkb
  ret : Int

/-- `iph->id = htons(id)`. -/
def setIpId (id : Nat) (skb : GsoSkb) : GsoSkb :=
  skb.modifyIpv4 (putBe16 · 4 id) fun _ => length_putBe16 ..

/-- The ones' complement sum of the 16-bit words of a header. -/
def ipFastCsum (ip : List UInt8) : Nat :=
  let fold (sum : Nat) := sum % 65536 + sum / 65536
  0xffff - fold (fold ((List.range (ip.length / 2)).map fun i => getBe16 ip (2 * i)).sum)

/-- `ip_send_check`. -/
def ipSendCheck (skb : GsoSkb) : GsoSkb :=
  skb.modifyIpv4 (fun ip => putBe16 ip 10 (ipFastCsum (putBe16 ip 10 0)))
    fun _ => length_putBe16 ..

/-- The loop of `iwl_mvm_tx_tso_segment` over the segments, from the `i`-th on.  A segment that
is not longer than one sub-frame is no A-MSDU. -/
def finishSegments (mss numSubframes ipBaseId : Nat) (qos : Bool) :
    Nat → List GsoSkb → List GsoSkb
  | _, [] => []
  | i, tmp :: rest =>
      let tmp := setIpId ((ipBaseId + i * numSubframes) % 65536) tmp
      let tmp :=
        if tmp.tcpPayloadLen > mss then tmp.setGsoSize mss
        else if qos then ((ipSendCheck tmp).setAmsduPresent false).setGsoSize 0
        else tmp.setGsoSize 0
      tmp :: finishSegments mss numSubframes ipBaseId qos ((i + 1) % 65536) rest

/-- `iwl_mvm_tx_tso_segment`. -/
def txTsoSegment (skbGsoSegment : SkbGsoSegment) (skb : GsoSkb) (numSubframes : Nat)
    (csum : Bool) : TsoRun :=
  let mss := skb.gsoSize
  let ipBaseId := match skb.hdrs.protocol with
    | .ip => getBe16 skb.hdrs.ip 4
    | .ipv6 => 0
  let trick := skb.setGsoSize (numSubframes * mss)
  match skbGsoSegment csum trick with
  | none => ⟨[trick.gsoSize], [], einval⟩
  | some segs =>
      ⟨[trick.gsoSize], finishSegments mss numSubframes ipBaseId skb.isDataQos 0 segs, 0⟩

/-- The end of `iwl_mvm_tx_tso`, with the number of sub-frames settled: the buffer goes out whole
when it fits one A-MSDU, else the stack is tricked into runs that fit one each. -/
def txTsoAmsdu (skbGsoSegment : SkbGsoSegment) (skb : GsoSkb) (num : Nat) : TsoRun :=
  let marked := if num > 1 then skb.setAmsduPresent true else skb
  if num * skb.gsoSize ≥ skb.tcpPayloadLen then ⟨[], [marked], 0⟩
  else txTsoSegment skbGsoSegment marked num true

/-- `iwl_mvm_tx_tso`. -/
def txTso (skbGsoSegment : SkbGsoSegment) (mvm : TsoMvm) (sta : TsoSta) (ampdu : Bool)
    (skb : GsoSkb) : TsoRun :=
  if sta.mvmMaxAmsduLen = 0 ∨ ¬ skb.isDataQos ∨ sta.amsduEnabled = 0 then
    txTsoSegment skbGsoSegment skb 1 true
  else if skb.hdrs.protocol = .ipv6 ∧ ipv6Nexthdr skb.hdrs.ip ≠ ipprotoTcp then
    txTsoSegment skbGsoSegment skb 1 false
  else if mgmtTid.val ≤ skb.mac.tid then
    ⟨[], [], einval⟩
  else if ampdu ∧ ¬ sta.amsduInAmpduAllowed skb.mac.tid then
    txTsoSegment skbGsoSegment skb 1 true
  else if sta.lowLatency ∨ ¬ sta.amsduEnabled.toNat.testBit skb.mac.tid then
    txTsoSegment skbGsoSegment skb 1 true
  else
    txTsoAmsdu skbGsoSegment skb (numSubframes mvm sta ampdu skb)

/-! ## How many sub-frames fit -/

section NumSubframes

variable {mvm : TsoMvm} {sta : TsoSta} {ampdu : Bool} {skb : GsoSkb}

theorem subfLen_lt (skb : GsoSkb) : subfLen skb < 2 ^ 18 := by
  have headers := skb.hdrs.short
  have segment := skb.gsoSize_lt
  simp only [subfLen, ethHdrLen, TcpHdrs.snapIpTcp]
  omega

theorem maxAmsduLen_le_sta (tid : Fin 16) :
    maxAmsduLen mvm sta ampdu tid ≤ sta.maxAmsduLen.toNat := by
  unfold maxAmsduLen
  split
  · exact (Nat.min_le_left _ _).trans (Nat.min_le_left _ _)
  · exact Nat.min_le_left _ _

theorem maxAmsduLen_lt (tid : Fin 16) : maxAmsduLen mvm sta ampdu tid < 2 ^ 16 :=
  (maxAmsduLen_le_sta tid).trans_lt sta.maxAmsduLen.toNat_lt

theorem limitSubframes_le (limit : UInt8) (num : Nat) : limitSubframes limit num ≤ num := by
  unfold limitSubframes
  split
  · next smaller => exact smaller.2.le
  · exact le_rfl

theorem limitSubframes_eq_zero_iff {limit : UInt8} {num : Nat} :
    limitSubframes limit num = 0 ↔ num = 0 := by
  unfold limitSubframes
  split
  · next smaller =>
      have : limit.toNat ≠ 0 := fun zero => smaller.1 (UInt8.toNat_inj.mp zero)
      omega
  · rfl

/-- More than one sub-frame are only used where that many fit and the transfer buffers suffice
for them. -/
theorem numSubframes_of_several (several : 1 < numSubframes mvm sta ampdu skb) :
    numSubframes mvm sta ampdu skb ≤ fittingSubframes mvm sta ampdu skb ∧
      numSubframes mvm sta ampdu skb * 2 + skb.frags.length + 1 ≤ mvm.maxSkbFrags := by
  have limited := limitSubframes_le sta.maxAmsduSubframes (fittingSubframes mvm sta ampdu skb)
  unfold numSubframes at several ⊢
  dsimp only at several ⊢
  split at several
  · omega
  · next enough =>
      rw [if_neg enough]
      omega

theorem numSubframes_fit (several : 1 < numSubframes mvm sta ampdu skb) :
    numSubframes mvm sta ampdu skb * (subfLen skb + amsduPad (subfLen skb)) ≤
      maxAmsduLen mvm sta ampdu skb.mac.tid + amsduPad (subfLen skb) :=
  (Nat.le_div_iff_mul_le (by simp [subfLen, ethHdrLen, Nat.add_assoc])).mp
    (numSubframes_of_several several).1

theorem numSubframes_eq_zero_iff :
    numSubframes mvm sta ampdu skb = 0 ↔
      maxAmsduLen mvm sta ampdu skb.mac.tid < subfLen skb ∧
        skb.frags.length + 1 ≤ mvm.maxSkbFrags := by
  have positive : 0 < subfLen skb + amsduPad (subfLen skb) := by
    simp [subfLen, ethHdrLen, Nat.add_assoc]
  have none : fittingSubframes mvm sta ampdu skb = 0 ↔
      maxAmsduLen mvm sta ampdu skb.mac.tid < subfLen skb := by
    rw [fittingSubframes, Nat.div_eq_zero_iff_lt positive, Nat.add_lt_add_iff_right]
  have limited := @limitSubframes_eq_zero_iff sta.maxAmsduSubframes
    (fittingSubframes mvm sta ampdu skb)
  unfold numSubframes
  dsimp only
  split <;> omega

/-- The run length asked of the stack fits the 16 bits of `gso_size`. -/
theorem numSubframes_mul_lt :
    numSubframes mvm sta ampdu skb * skb.gsoSize < 2 ^ 16 := by
  by_cases several : 1 < numSubframes mvm sta ampdu skb
  · have fit := numSubframes_fit several
    have limit := @maxAmsduLen_lt mvm sta ampdu skb.mac.tid
    have pad := amsduPad_lt (subfLen skb)
    have one := Nat.mul_le_mul_left (numSubframes mvm sta ampdu skb)
      (show skb.gsoSize + ethHdrLen ≤ subfLen skb + amsduPad (subfLen skb) by
        simp only [subfLen]
        omega)
    rw [Nat.mul_add, ethHdrLen] at one
    omega
  · have segment := skb.gsoSize_lt
    have few : numSubframes mvm sta ampdu skb = 0 ∨ numSubframes mvm sta ampdu skb = 1 := by
      omega
    rcases few with none | one
    · rw [none, Nat.zero_mul]
      omega
    · rw [one, Nat.one_mul]
      exact segment

end NumSubframes

/-! ## The segments -/

section Segments

variable {skbGsoSegment : SkbGsoSegment} {mvm : TsoMvm} {sta : TsoSta} {ampdu csum qos : Bool}
  {skb out mpdu : GsoSkb} {segs : List GsoSkb} {mss num ipBaseId i : Nat}

/-- A frame the driver has marked for the transport to make an A-MSDU of. -/
def GsoSkb.IsAmsdu (skb : GsoSkb) : Prop := skb.isDataQos ∧ skb.mac.amsduPresent

/-- The shares of the payload the sub-frames of a frame carry. -/
def GsoSkb.subframes (skb : GsoSkb) : List (List UInt8) := Lib.chunks skb.gsoSize skb.payload

theorem finishSegments_payload :
    (finishSegments mss num ipBaseId qos i segs).map GsoSkb.payload =
      segs.map GsoSkb.payload := by
  induction segs generalizing i with
  | nil => rfl
  | cons seg segs ih =>
      simp only [finishSegments, List.map_cons, ih]
      congr 1
      split
      · rfl
      split <;> rfl

/-- A finished segment is a segment with its size set and, when it is short, its A-MSDU bit
cleared. -/
theorem of_mem_finishSegments (mem : out ∈ finishSegments mss num ipBaseId qos i segs) :
    ∃ seg ∈ segs, out.payload = seg.payload ∧
      (∀ skb, seg.SameFrame skb → out.SameFrame skb) ∧
      (mss < seg.payload.length → out.gsoSize = mss % 2 ^ 16) ∧
      (seg.payload.length ≤ mss → qos = true → out.mac.amsduPresent = false) := by
  induction segs generalizing i with
  | nil => cases mem
  | cons seg segs ih =>
      simp only [finishSegments] at mem
      cases mem with
      | tail _ mem =>
          obtain ⟨other, listed, same⟩ := ih mem
          exact ⟨other, List.mem_cons_of_mem seg listed, same⟩
      | head =>
          refine ⟨seg, List.mem_cons_self, ?_⟩
          split
          · next long =>
              exact ⟨rfl, fun _ same => (same.modifyIpv4 _ _).setGsoSize _,
                fun _ => rfl, fun short => absurd long (Nat.not_lt.mpr short)⟩
          · next short =>
              split
              · exact ⟨rfl, fun _ same =>
                    (((same.modifyIpv4 _ _).modifyIpv4 _ _).setAmsduPresent _).setGsoSize _,
                  fun long => absurd long short, fun _ _ => rfl⟩
              · next none =>
                  exact ⟨rfl, fun _ same => (same.modifyIpv4 _ _).setGsoSize _,
                    fun long => absurd long short, fun _ set => absurd set none⟩

/-- What holds of a frame that goes out as an A-MSDU of up to `num` sub-frames of `skb`. -/
structure AmsduOf (num : Nat) (skb mpdu : GsoSkb) : Prop where
  frame : mpdu.SameFrame skb
  gsoSize : mpdu.gsoSize = skb.gsoSize
  long : skb.gsoSize < mpdu.payload.length
  fits : mpdu.payload.length ≤ num * skb.gsoSize

/-- What asking the stack for runs of `num` segments gives. -/
structure SegmentedBy (num : Nat) (skb : GsoSkb) (run : TsoRun) : Prop where
  sizes : run.segmentSizes = [num * skb.gsoSize]
  ret : run.ret = 0
  payload : (run.mpdus.map GsoSkb.payload).flatten = skb.payload
  amsdu : ∀ mpdu ∈ run.mpdus, mpdu.IsAmsdu → AmsduOf num skb mpdu

theorem txTsoSegment_segmented (segments : SegmentsPayload skbGsoSegment)
    (gso : 0 < skb.gsoSize) (positive : 0 < num) (small : num * skb.gsoSize < 2 ^ 16) :
    SegmentedBy num skb (txTsoSegment skbGsoSegment skb num csum) := by
  have size : (skb.setGsoSize (num * skb.gsoSize)).gsoSize = num * skb.gsoSize :=
    Nat.mod_eq_of_lt small
  have asked : 0 < num * skb.gsoSize := Nat.mul_pos positive gso
  obtain ⟨segs, result, split⟩ :=
    segments.splits csum (skb.setGsoSize (num * skb.gsoSize)) (by rw [size]; exact asked)
  have runs : segs.map GsoSkb.payload = Lib.chunks (num * skb.gsoSize) skb.payload := by
    rw [← size]
    exact split
  unfold txTsoSegment
  dsimp only
  rw [result]
  refine ⟨by rw [size], rfl, ?_, fun mpdu mem marked => ?_⟩
  · rw [finishSegments_payload, runs]
    exact Lib.flatten_chunks asked _
  · obtain ⟨seg, listed, payload, frame, long, short⟩ := of_mem_finishSegments mem
    have same : mpdu.SameFrame skb :=
      frame skb (segments.copies csum _ _ result seg listed).of_setGsoSize
    have qos : skb.isDataQos = true := by
      rw [GsoSkb.isDataQos, ← same.frameControl]
      exact marked.1
    have longer : skb.gsoSize < seg.payload.length := by
      by_contra notLonger
      have cleared := short (Nat.not_lt.mp notLonger) qos
      exact absurd (cleared.symm.trans marked.2) Bool.false_ne_true
    refine ⟨same, ?_, payload ▸ longer, ?_⟩
    · rw [long longer]
      exact Nat.mod_eq_of_lt skb.gsoSize_lt
    · rw [payload]
      exact Lib.length_le_of_mem_chunks asked (runs ▸ List.mem_map_of_mem listed)

end Segments

/-! ## Every limit is respected -/

/-- The checks after which the driver computes a number of sub-frames: A-MSDUs are enabled for
the station and the TID, and nothing stands against one here. -/
def BuildsAmsdu (sta : TsoSta) (ampdu : Bool) (skb : GsoSkb) : Prop :=
  ¬ (sta.mvmMaxAmsduLen = 0 ∨ ¬ skb.isDataQos ∨ sta.amsduEnabled = 0) ∧
    ¬ (skb.hdrs.protocol = .ipv6 ∧ ipv6Nexthdr skb.hdrs.ip ≠ ipprotoTcp) ∧
    ¬ mgmtTid.val ≤ skb.mac.tid ∧
    ¬ (ampdu ∧ ¬ sta.amsduInAmpduAllowed skb.mac.tid) ∧
    ¬ (sta.lowLatency ∨ ¬ sta.amsduEnabled.toNat.testBit skb.mac.tid)

instance (sta : TsoSta) (ampdu : Bool) (skb : GsoSkb) : Decidable (BuildsAmsdu sta ampdu skb) :=
  inferInstanceAs (Decidable (_ ∧ _))

/-- What the conversion owes to a buffer: runs of at least one byte, the payload passed on
whole, and A-MSDUs of two sub-frames at least that keep the limit.  It refuses nothing but a
TID that carries no data. -/
structure RespectsLimits (run : TsoRun) (skb : GsoSkb) (limit : Nat) : Prop where
  sizes : ∀ size ∈ run.segmentSizes, 0 < size
  payload : run.ret = 0 → (run.mpdus.map GsoSkb.payload).flatten = skb.payload
  refused : run.ret = 0 ∨ run.mpdus = [] ∧ mgmtTid.val ≤ skb.mac.tid
  amsdu : ∀ mpdu ∈ run.mpdus, mpdu.IsAmsdu → 2 ≤ mpdu.subframes.length ∧
    amsduLen (ethHdrLen + mpdu.hdrs.snapIpTcp) (mpdu.subframes.map List.length) ≤ limit

section RespectsLimits

variable {skbGsoSegment : SkbGsoSegment} {mvm : TsoMvm} {sta : TsoSta} {ampdu csum : Bool}
  {skb mpdu : GsoSkb} {num limit : Nat} {run : TsoRun}

theorem AmsduOf.subframes_length (amsdu : AmsduOf num skb mpdu) (gso : 0 < skb.gsoSize) :
    2 ≤ mpdu.subframes.length ∧ mpdu.subframes.length ≤ num := by
  rw [GsoSkb.subframes, amsdu.gsoSize]
  exact ⟨Lib.two_le_chunks_length gso amsdu.long, Lib.chunks_length_le gso amsdu.fits⟩

/-- Where `num` sub-frames of one segment fit, what is cut into at most `num` of them fits. -/
theorem AmsduOf.amsduLen_le (amsdu : AmsduOf num skb mpdu) (gso : 0 < skb.gsoSize)
    (fit : num * (subfLen skb + amsduPad (subfLen skb)) ≤ limit + amsduPad (subfLen skb)) :
    amsduLen (ethHdrLen + mpdu.hdrs.snapIpTcp) (mpdu.subframes.map List.length) ≤ limit := by
  obtain ⟨two, few⟩ := amsdu.subframes_length gso
  have cut : mpdu.subframes.map List.length ≠ [] := by
    intro empty
    rw [List.map_eq_nil_iff] at empty
    rw [empty, List.length_nil] at two
    omega
  have shares : ∀ share ∈ mpdu.subframes.map List.length, share ≤ skb.gsoSize := by
    intro share mem
    obtain ⟨part, listed, rfl⟩ := List.mem_map.mp mem
    rw [GsoSkb.subframes, amsdu.gsoSize] at listed
    exact Lib.length_le_of_mem_chunks gso listed
  have short : ethHdrLen + skb.hdrs.snapIpTcp + skb.gsoSize < 2 ^ 32 :=
    (subfLen_lt skb).trans (by decide)
  have bound := amsduLen_add_pad_le short cut shares
  have most := Nat.mul_le_mul_right (subfLen skb + amsduPad (subfLen skb)) few
  rw [amsdu.frame.hdrs.snapIpTcp]
  rw [List.length_map] at bound
  simp only [subfLen] at most fit
  omega

/-- One segment a frame: no frame is marked. -/
theorem SegmentedBy.respectsLimits_one (segmented : SegmentedBy 1 skb run)
    (gso : 0 < skb.gsoSize) : RespectsLimits run skb limit where
  sizes := by
    intro size mem
    rw [segmented.sizes, List.mem_singleton] at mem
    omega
  payload := fun _ => segmented.payload
  refused := Or.inl segmented.ret
  amsdu := fun mpdu mem marked => by
    have amsdu := segmented.amsdu mpdu mem marked
    have long := amsdu.long
    have fits := amsdu.fits
    omega

theorem txTsoAmsdu_zero (gso : 0 < skb.gsoSize) (long : skb.gsoSize < skb.payload.length) :
    0 ∈ (txTsoAmsdu skbGsoSegment skb 0).segmentSizes := by
  unfold txTsoAmsdu txTsoSegment
  dsimp only
  rw [if_neg (by simp only [GsoSkb.tcpPayloadLen]; omega), if_neg (by omega)]
  split <;> simp [GsoSkb.setGsoSize]

/-- The frames queued once the driver has settled on a positive number of sub-frames. -/
theorem txTsoAmsdu_spec (segments : SegmentsPayload skbGsoSegment) (gso : 0 < skb.gsoSize)
    (long : skb.gsoSize < skb.payload.length) (positive : 0 < num)
    (small : num * skb.gsoSize < 2 ^ 16) :
    (∀ size ∈ (txTsoAmsdu skbGsoSegment skb num).segmentSizes, 0 < size) ∧
      (txTsoAmsdu skbGsoSegment skb num).ret = 0 ∧
      ((txTsoAmsdu skbGsoSegment skb num).mpdus.map GsoSkb.payload).flatten = skb.payload ∧
      ∀ mpdu ∈ (txTsoAmsdu skbGsoSegment skb num).mpdus, mpdu.IsAmsdu →
        AmsduOf num skb mpdu := by
  have asked : 0 < num * skb.gsoSize := Nat.mul_pos positive gso
  unfold txTsoAmsdu
  dsimp only
  by_cases whole : num * skb.gsoSize ≥ skb.tcpPayloadLen
  · have several : num > 1 := by
      by_contra one
      obtain rfl : num = 1 := by omega
      rw [Nat.one_mul] at whole
      exact absurd long (Nat.not_lt.mpr whole)
    rw [if_pos whole, if_pos several]
    refine ⟨by simp, rfl, by simp [GsoSkb.setAmsduPresent, GsoSkb.payload], ?_⟩
    intro mpdu mem _
    obtain rfl := List.mem_singleton.mp mem
    exact ⟨(GsoSkb.SameFrame.refl skb).setAmsduPresent true, rfl, long, whole⟩
  · rw [if_neg whole]
    by_cases several : num > 1
    · rw [if_pos several]
      have segmented := @txTsoSegment_segmented _ true (skb.setAmsduPresent true) _ segments gso
        positive small
      refine ⟨fun size mem => ?_, segmented.ret, segmented.payload, fun mpdu mem marked => ?_⟩
      · rw [segmented.sizes, List.mem_singleton] at mem
        exact mem ▸ asked
      · have amsdu := segmented.amsdu mpdu mem marked
        exact ⟨amsdu.frame.of_setAmsduPresent, amsdu.gsoSize, amsdu.long, amsdu.fits⟩
    · rw [if_neg several]
      have segmented := @txTsoSegment_segmented _ true skb _ segments gso positive small
      refine ⟨fun size mem => ?_, segmented.ret, segmented.payload, segmented.amsdu⟩
      rw [segmented.sizes, List.mem_singleton] at mem
      exact mem ▸ asked

/-- Either a check keeps the driver from A-MSDUs, and each segment goes out by itself or the
buffer is refused, or it settles on a number of sub-frames. -/
theorem txTso_cases :
    (¬ BuildsAmsdu sta ampdu skb ∧
      ((∃ csum, txTso skbGsoSegment mvm sta ampdu skb =
          txTsoSegment skbGsoSegment skb 1 csum) ∨
        mgmtTid.val ≤ skb.mac.tid ∧
          txTso skbGsoSegment mvm sta ampdu skb = ⟨[], [], einval⟩)) ∨
      BuildsAmsdu sta ampdu skb ∧ txTso skbGsoSegment mvm sta ampdu skb =
        txTsoAmsdu skbGsoSegment skb (numSubframes mvm sta ampdu skb) := by
  unfold txTso
  split
  · next disabled => exact Or.inl ⟨fun builds => builds.1 disabled, Or.inl ⟨true, rfl⟩⟩
  split
  · next extension =>
      exact Or.inl ⟨fun builds => builds.2.1 extension, Or.inl ⟨false, rfl⟩⟩
  split
  · next noData => exact Or.inl ⟨fun builds => builds.2.2.1 noData, Or.inr ⟨noData, rfl⟩⟩
  split
  · next session =>
      exact Or.inl ⟨fun builds => builds.2.2.2.1 session, Or.inl ⟨true, rfl⟩⟩
  split
  · next off => exact Or.inl ⟨fun builds => builds.2.2.2.2 off, Or.inl ⟨true, rfl⟩⟩
  · next enabled extension noData session off =>
      exact Or.inr ⟨⟨enabled, extension, noData, session, off⟩, rfl⟩

/-- The marked frames of a run, by the number of sub-frames the driver settled on. -/
theorem amsduOf_of_mem_txTso (segments : SegmentsPayload skbGsoSegment)
    (gso : 0 < skb.gsoSize) (long : skb.gsoSize < skb.payload.length)
    (positive : 0 < numSubframes mvm sta ampdu skb)
    (mem : mpdu ∈ (txTso skbGsoSegment mvm sta ampdu skb).mpdus) (marked : mpdu.IsAmsdu) :
    1 < numSubframes mvm sta ampdu skb ∧
      AmsduOf (numSubframes mvm sta ampdu skb) skb mpdu := by
  rcases @txTso_cases skbGsoSegment mvm sta ampdu skb with
    ⟨-, ⟨csum, one⟩ | ⟨-, refused⟩⟩ | ⟨-, run⟩
  · rw [one] at mem
    have segmented := @txTsoSegment_segmented _ csum skb 1 segments gso Nat.one_pos
      (by rw [Nat.one_mul]; exact skb.gsoSize_lt)
    have amsdu := segmented.amsdu mpdu mem marked
    have long := amsdu.long
    have fits := amsdu.fits
    omega
  · rw [refused] at mem
    cases mem
  · rw [run] at mem
    obtain ⟨-, -, -, amsdu⟩ :=
      txTsoAmsdu_spec segments gso long positive numSubframes_mul_lt
    have amsdu := amsdu mpdu mem marked
    refine ⟨?_, amsdu⟩
    by_contra few
    have long := amsdu.long
    have fits := amsdu.fits
    rw [show numSubframes mvm sta ampdu skb = 1 by omega] at fits
    omega

/-- The conversion respects every limit exactly where, if it computes a number of sub-frames at
all, either one sub-frame of a full segment fits the A-MSDU limit or so many page fragments
are in use that the number is overridden. -/
theorem txTso_respectsLimits_iff (segments : SegmentsPayload skbGsoSegment) (mvm : TsoMvm)
    (sta : TsoSta) (ampdu : Bool) (skb : GsoSkb) (gso : 0 < skb.gsoSize)
    (long : skb.gsoSize < skb.payload.length) :
    RespectsLimits (txTso skbGsoSegment mvm sta ampdu skb) skb
        (maxAmsduLen mvm sta ampdu skb.mac.tid) ↔
      (BuildsAmsdu sta ampdu skb → subfLen skb ≤ maxAmsduLen mvm sta ampdu skb.mac.tid ∨
        mvm.maxSkbFrags < skb.frags.length + 1) := by
  have zero := @numSubframes_eq_zero_iff mvm sta ampdu skb
  constructor
  · intro respects builds
    by_contra none
    rcases @txTso_cases skbGsoSegment mvm sta ampdu skb with ⟨notBuilds, -⟩ | ⟨-, run⟩
    · exact notBuilds builds
    · rw [zero.mpr (by omega)] at run
      have asked := @txTsoAmsdu_zero skbGsoSegment skb gso long
      rw [← run] at asked
      exact absurd (respects.sizes 0 asked) (Nat.lt_irrefl 0)
  · intro fits
    rcases @txTso_cases skbGsoSegment mvm sta ampdu skb with
      ⟨-, ⟨csum, one⟩ | ⟨noData, refused⟩⟩ | ⟨builds, run⟩
    · rw [one]
      exact (txTsoSegment_segmented segments gso Nat.one_pos
        (by rw [Nat.one_mul]; exact skb.gsoSize_lt)).respectsLimits_one gso
    · rw [refused]
      exact ⟨by simp, fun zero => absurd zero (by decide), Or.inr ⟨rfl, noData⟩, by simp⟩
    · have positive : 0 < numSubframes mvm sta ampdu skb := by
        have := fits builds
        omega
      have marked := fun mpdu => @amsduOf_of_mem_txTso _ mvm sta ampdu skb mpdu segments gso long
        positive
      rw [run] at marked ⊢
      obtain ⟨sizes, ret, payload, -⟩ :=
        txTsoAmsdu_spec segments gso long positive numSubframes_mul_lt
      refine ⟨sizes, fun _ => payload, Or.inl ret, fun mpdu mem isAmsdu => ?_⟩
      obtain ⟨several, amsdu⟩ := marked mpdu mem isAmsdu
      exact ⟨(amsdu.subframes_length gso).1, amsdu.amsduLen_le gso (numSubframes_fit several)⟩

/-! ### A concrete packet -/

/-- A QoS data frame to an access point: 2000 bytes of payload behind an IPv4 and a TCP header
of twenty bytes each, in segments of 1460 bytes. -/
def sampleSkb : GsoSkb where
  mac :=
    { frameControl := 0x0188
      addr1 := List.replicate 6 1
      addr2 := List.replicate 6 2
      addr3 := List.replicate 6 3
      addr4 := List.replicate 6 0
      tid := 0
      amsduPresent := false
      addr_length := by decide }
  iv := []
  hdrs :=
    { protocol := .ip
      snap := [0xaa, 0xaa, 3, 0, 0, 0, 8, 0]
      ip := 0x45 :: List.replicate 19 0
      tcp := List.replicate 20 0
      snap_length := rfl
      ip_length := by simp [IpLengthOk]
      tcp_length := by decide
      short := by decide }
  linear := List.replicate 2000 0
  frags := []
  gsoSize := 1460
  gsoSize_lt := by decide
  len_lt := by
    simp only [List.flatten_nil, List.append_nil, List.length_replicate]
    decide

def sampleMvm : TsoMvm where
  newTxApi := false
  cdbSupported := false
  txfifoSize := fun _ _ => 30720

/-- A station for which A-MSDUs of up to `amsduLen` bytes are in use on TID 0. -/
def sampleSta (amsduLen : UInt16) : TsoSta where
  maxAmsduLen := 3839
  maxAmsduSubframes := 0
  vhtSupported := false
  hasHe := false
  mvmMaxAmsduLen := amsduLen
  amsduEnabled := 1
  amsduInAmpduAllowed := fun _ => true
  band5GHz := false
  lowLatency := false

theorem txTso_respectsLimits_sample :
    RespectsLimits (txTso copySegment sampleMvm (sampleSta 3839) false sampleSkb) sampleSkb
      3839 :=
  (txTso_respectsLimits_iff segmentsPayload_copySegment sampleMvm (sampleSta 3839) false
    sampleSkb (by decide) (by decide +kernel)).mpr fun _ => Or.inl (by decide +kernel)

/-- With a limit of 1400 bytes the stack is asked for segments of zero bytes. -/
theorem not_txTso_respectsLimits :
    ¬ RespectsLimits (txTso copySegment sampleMvm (sampleSta 1400) false sampleSkb) sampleSkb
      1400 :=
  fun respects => absurd (respects.sizes 0 (by decide +kernel)) (Nat.lt_irrefl 0)

end RespectsLimits

end Iwlwifi
