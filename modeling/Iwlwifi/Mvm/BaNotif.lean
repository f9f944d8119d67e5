import Mathlib.Algebra.Ring.Nat
import Mathlib.Logic.Function.Basic
import Iwlwifi.Mvm.DqaTables

/-!
# Compressed block-ack notifications

On the new Tx API one notification lists the queues that a block-ack has moved on, each with the
TID it belongs to.  `iwl_mvm_rx_ba_notif` goes over the list: it writes the rate-table colour of
the notification into the station's TID data and has `iwl_mvm_tx_reclaim` release the frames,
which are reported with the colour that is on record for the TID.  The colour is written to the
TID data at the position in the list instead of that of the TID listed there.

The list is as long as the device says; an index beyond the nine TIDs is an access outside of the
station's table, after which nothing is said of the driver.
-/

namespace Iwlwifi.BaNotif

local instance neZero_tid : NeZero 9 := ⟨by decide⟩
local instance neZero_sta : NeZero 16 := ⟨by decide⟩

/-- `struct iwl_mvm_tid_data`, as far as block-acks are concerned. -/
structure TidData where
  seqNumber : Nat
  nextReclaimed : Nat
  lqColor : Nat
  state : MvmAggState
  txqId : Nat
  ssn : Nat

/-- `struct iwl_mvm_sta`; `vif` is whether it has a channel context. -/
structure Sta where
  tidData : Tid → TidData
  hasChanctx : Bool

/-- The stations by their index in the firmware, and what of the device the code asks for. -/
structure Mvm where
  fwIdToMacId : StaId → Option Sta
  gen2 : Bool
  tlcOffload : Bool

/-- `struct iwl_mvm_compressed_ba_tfd` -/
structure BaTfd where
  qNum : Nat
  tfdIndex : Nat
  tid : Nat
  deriving DecidableEq

/-- `struct iwl_mvm_compressed_ba_notif`; `tfd_cnt` is the length of the list. -/
structure CompressedBaNotif where
  staId : Nat
  reducedTxp : Nat
  tlcRateInfo : Nat
  txed : Nat
  done : Nat
  wirelessTime : Nat
  txRate : Nat
  tfds : List BaTfd

/-- `TX_RES_RATE_TABLE_COL_GET` -/
def rateTableColor (tlcRateInfo : Nat) : Nat := (tlcRateInfo &&& 0x70) >>> 4

/-- `IWL_MGMT_TID` stands for `IWL_MAX_TID_COUNT`. -/
def tfdTid (tfd : BaTfd) : Nat := if tfd.tid = 15 then 8 else tfd.tid

/-- The status that is reported with frames. -/
structure TxInfoStatus where
  ampduAckLen : Nat
  ampduLen : Nat
  txTime : Nat
  driverData0 : Nat
  driverData1 : Nat
  deriving DecidableEq

/-- A frame that comes back from a queue; it is a QoS data frame or not. -/
structure Skb where
  id : Nat
  dataQos : Bool
  deriving DecidableEq

/-- What the driver tells mac80211 and its rate scaling. -/
inductive Report where
  | setBuffered (tid : Tid)
  | startTxBaCb (tid : Tid)
  | stopTxBaCb (tid : Tid)
  /-- A frame; `status` is set on the frames that carry the data of the batch. -/
  | txStatus (skb : Skb) (status : Option TxInfoStatus)
  | rsTxStatus (tid : Tid) (status : TxInfoStatus)
  deriving DecidableEq

def Sta.modifyTid (sta : Sta) (tid : Tid) (f : TidData → TidData) : Sta :=
  { sta with tidData := Function.update sta.tidData tid (f (sta.tidData tid)) }

/-- `iwl_mvm_tid_queued`: the frames between the reclaimed index and the next sequence number. -/
def tidQueued (gen2 : Bool) (data : TidData) : Nat :=
  let sn := data.seqNumber >>> 4
  let normalizedSsn := if gen2 then sn &&& 0xff else sn
  (normalizedSsn + 2 ^ 16 - data.nextReclaimed) &&& 0xfff

/-- `iwl_mvm_check_ratid_empty` -/
def checkRatidEmpty (gen2 : Bool) (sta : Sta) (tid : Tid) : Sta × List Report :=
  let data := sta.tidData tid
  let buffered :=
    if (data.state = .on ∨ data.state = .emptyingHwQueueDelba) ∧ tidQueued gen2 data = 0 then
      [.setBuffered tid]
    else []
  let normalizedSsn := if gen2 then data.ssn &&& 0xff else data.ssn
  if normalizedSsn ≠ data.nextReclaimed then (sta, buffered)
  else
    match data.state with
    | .emptyingHwQueueAddba =>
        (sta.modifyTid tid fun data => { data with state := .starting },
          buffered ++ [.startTxBaCb tid])
    | .emptyingHwQueueDelba =>
        (sta.modifyTid tid fun data => { data with state := .off },
          buffered ++ [.stopTxBaCb tid])
    | _ => (sta, buffered)

/-- The walk over the reclaimed frames: the data of the batch is put on those that are met while
one QoS frame has been counted. -/
def walkReclaimed (status : TxInfoStatus) : Nat → List Skb → List Report
  | _, [] => []
  | freed, skb :: skbs =>
      let freed := if skb.dataQos then freed + 1 else freed
      .txStatus skb (if freed = 1 then some status else none) :: walkReclaimed status freed skbs

/-- `iwl_mvm_tx_reclaim`; `reclaimed` is what `iwl_trans_reclaim` returns. -/
def txReclaim (mvm : Mvm) (sta : Sta) (tid txq index : Nat) (baInfo : TxInfoStatus) (rate : Nat)
    (reclaimed : List Skb) : Sta × TxInfoStatus × List Report :=
  if inside : tid < 9 then
    let tid : Tid := ⟨tid, inside⟩
    if (sta.tidData tid).txqId ≠ txq then (sta, baInfo, [])
    else
      let sta := sta.modifyTid tid fun data => { data with nextReclaimed := index }
      let (sta, progress) := checkRatidEmpty mvm.gen2 sta tid
      let baInfo :=
        { baInfo with
          driverData0 := baInfo.driverData0 ||| (sta.tidData tid).lqColor <<< 8
          driverData1 := rate }
      let reports :=
        if reclaimed = [] then
          if sta.hasChanctx && !mvm.tlcOffload then [.rsTxStatus tid baInfo] else []
        else walkReclaimed baInfo 0 reclaimed
      (sta, baInfo, progress ++ reports)
  else (sta, baInfo, [])

/-- One call of `iwl_mvm_tx_reclaim`: the station when it is made, the TID, and what is
reported. -/
structure Reclaim where
  sta : Sta
  tid : Nat
  reports : List Report

/-- The loop of `iwl_mvm_rx_ba_notif` from entry `i` on; `none` is an access outside of
`tid_data`. -/
def freePerTid (mvm : Mvm) (notif : CompressedBaNotif) (reclaimed : BaTfd → List Skb) :
    Nat → List BaTfd → Sta → TxInfoStatus → Option (Sta × List Reclaim)
  | _, [], sta, _ => some (sta, [])
  | i, tfd :: tfds, sta, baInfo =>
      if inside : i < 9 then
        let tid := tfdTid tfd
        let sta := sta.modifyTid ⟨i, inside⟩ fun data =>
          { data with lqColor := rateTableColor notif.tlcRateInfo }
        let (sta', baInfo, reports) := txReclaim mvm sta tid tfd.qNum tfd.tfdIndex baInfo
          notif.txRate (reclaimed tfd)
        (freePerTid mvm notif reclaimed (i + 1) tfds sta' baInfo).map fun rest =>
          (rest.1, ⟨sta, tid, reports⟩ :: rest.2)
      else none

/-- `iwl_mvm_rx_ba_notif` on the new Tx API. -/
def rxBaNotif (mvm : Mvm) (notif : CompressedBaNotif) (reclaimed : BaTfd → List Skb) :
    Option (Mvm × List Reclaim) :=
  let baInfo : TxInfoStatus :=
    { ampduAckLen := notif.done % 2 ^ 8, ampduLen := notif.txed % 2 ^ 8,
      txTime := notif.wirelessTime % 2 ^ 16, driverData0 := notif.reducedTxp, driverData1 := 0 }
  if notif.tfds = [] then some (mvm, [])
  else if known : notif.staId < 16 then
    match mvm.fwIdToMacId ⟨notif.staId, known⟩ with
    | none => some (mvm, [])
    | some sta =>
        (freePerTid mvm notif reclaimed 0 notif.tfds sta baInfo).map fun result =>
          ({ mvm with
            fwIdToMacId := Function.update mvm.fwIdToMacId ⟨notif.staId, known⟩ (some result.1) },
            result.2)
  else some (mvm, [])

/-! ## What the notification is for -/

/-- The TID is listed. -/
def Listed (tfds : List BaTfd) (tid : Tid) : Prop := ∃ tfd ∈ tfds, tfdTid tfd = tid

/-- No index is outside of the table, the colour and the reclaimed index of a TID that is not
listed are as they were, and so are those of other stations; and the frames of a listed TID are
reclaimed, and so reported, with the colour of the notification on record for it. -/
def TouchesListed (mvm : Mvm) (notif : CompressedBaNotif)
    (result : Option (Mvm × List Reclaim)) : Prop :=
  ∃ mvm' calls, result = some (mvm', calls) ∧
    (∀ staId sta, mvm.fwIdToMacId staId = some sta →
      ∃ sta', mvm'.fwIdToMacId staId = some sta' ∧
        ∀ tid, ¬(staId.val = notif.staId ∧ Listed notif.tfds tid) →
          (sta'.tidData tid).lqColor = (sta.tidData tid).lqColor ∧
            (sta'.tidData tid).nextReclaimed = (sta.tidData tid).nextReclaimed) ∧
    ∀ call ∈ calls, ∀ inside : call.tid < 9,
      (call.sta.tidData ⟨call.tid, inside⟩).lqColor = rateTableColor notif.tlcRateInfo

/-- The list has no more entries than there are TIDs; a position in it is a listed TID, or has
the colour already; and the TID of an entry is not beyond its position, or has the colour
already. -/
structure InPlace (notif : CompressedBaNotif) (sta : Sta) : Prop where
  short : notif.tfds.length ≤ 9
  listed : ∀ tid : Tid, tid < notif.tfds.length → Listed notif.tfds tid ∨
    (sta.tidData tid).lqColor = rateTableColor notif.tlcRateInfo
  reached : ∀ i tfd, notif.tfds[i]? = some tfd → ∀ inside : tfdTid tfd < 9, tfdTid tfd ≤ i ∨
    (sta.tidData ⟨tfdTid tfd, inside⟩).lqColor = rateTableColor notif.tlcRateInfo

variable {mvm : Mvm} {notif : CompressedBaNotif} {reclaimed : BaTfd → List Skb} {sta : Sta}

/-! ## Single steps -/

theorem tidData_modifyTid (sta : Sta) (tid other : Tid) (f : TidData → TidData) :
    (sta.modifyTid tid f).tidData other =
      if other = tid then f (sta.tidData tid) else sta.tidData other :=
  Function.update_apply ..

theorem checkRatidEmpty_tidData (gen2 : Bool) (sta : Sta) (tid other : Tid) :
    (((checkRatidEmpty gen2 sta tid).1.tidData other).lqColor = (sta.tidData other).lqColor) ∧
      ((checkRatidEmpty gen2 sta tid).1.tidData other).nextReclaimed =
        (sta.tidData other).nextReclaimed := by
  have moved : ∀ state, ((sta.modifyTid tid fun data => { data with state := state }).tidData
      other).lqColor = (sta.tidData other).lqColor ∧
      ((sta.modifyTid tid fun data => { data with state := state }).tidData
        other).nextReclaimed = (sta.tidData other).nextReclaimed := by
    intro state
    rw [tidData_modifyTid]
    split
    · next same =>
        rw [same]
        exact ⟨rfl, rfl⟩
    · exact ⟨rfl, rfl⟩
  unfold checkRatidEmpty
  extract_lets data buffered normalizedSsn
  by_cases behind : normalizedSsn ≠ data.nextReclaimed
  · rw [if_pos behind]
    exact ⟨rfl, rfl⟩
  · rw [if_neg behind]
    split
    · exact moved _
    · exact moved _
    · exact ⟨rfl, rfl⟩

/-- A reclaim changes no colour, and the reclaimed index of its own TID only. -/
theorem txReclaim_tidData (tid txq index : Nat) (baInfo : TxInfoStatus) (rate : Nat)
    (skbs : List Skb) (other : Tid) :
    ((txReclaim mvm sta tid txq index baInfo rate skbs).1.tidData other).lqColor =
        (sta.tidData other).lqColor ∧
      (tid ≠ other →
        ((txReclaim mvm sta tid txq index baInfo rate skbs).1.tidData other).nextReclaimed =
          (sta.tidData other).nextReclaimed) := by
  unfold txReclaim
  by_cases inside : tid < 9
  · rw [dif_pos inside]
    dsimp only
    split
    · exact ⟨rfl, fun _ => rfl⟩
    · obtain ⟨color, next⟩ := checkRatidEmpty_tidData mvm.gen2
        (sta.modifyTid ⟨tid, inside⟩ fun data => { data with nextReclaimed := index })
        ⟨tid, inside⟩ other
      dsimp only
      rw [color, next, tidData_modifyTid]
      split
      · next same =>
          rw [same]
          exact ⟨rfl, fun different => absurd rfl different⟩
      · exact ⟨rfl, fun _ => rfl⟩
  · rw [dif_neg inside]
    exact ⟨rfl, fun _ => rfl⟩

/-! ## The loop -/

/-- What the loop from entry `i` on has done. -/
structure Freed (color i : Nat) (tfds : List BaTfd) (sta sta' : Sta) (calls : List Reclaim) :
    Prop where
  lqColor : ∀ tid : Tid, (sta'.tidData tid).lqColor =
    if i ≤ tid ∧ tid < i + tfds.length then color else (sta.tidData tid).lqColor
  nextReclaimed : ∀ tid : Tid, ¬Listed tfds tid →
    (sta'.tidData tid).nextReclaimed = (sta.tidData tid).nextReclaimed
  length : calls.length = tfds.length
  called : ∀ k call, calls[k]? = some call → (tfds[k]?).map tfdTid = some call.tid ∧
    ∀ tid : Tid, (call.sta.tidData tid).lqColor =
      if i ≤ tid ∧ tid ≤ i + k then color else (sta.tidData tid).lqColor

theorem Freed.nil (color i : Nat) (sta : Sta) : Freed color i [] sta sta [] where
  lqColor tid := by
    rw [if_neg]
    rw [List.length_nil]
    omega
  nextReclaimed _ _ := rfl
  length := rfl
  called k call found := by
    rw [List.getElem?_nil] at found
    cases found

/-- One more entry in front. -/
theorem Freed.cons {color i : Nat} {tfd : BaTfd} {tfds : List BaTfd} {sta sta' sta'' : Sta}
    {calls : List Reclaim} {reports : List Report} (inside : i < 9)
    (rest : Freed color (i + 1) tfds sta' sta'' calls)
    (kept : ∀ tid, (sta'.tidData tid).lqColor =
      ((sta.modifyTid ⟨i, inside⟩ fun data => { data with lqColor := color }).tidData
        tid).lqColor)
    (next : ∀ tid : Tid, tfdTid tfd ≠ tid →
      (sta'.tidData tid).nextReclaimed = (sta.tidData tid).nextReclaimed) :
    Freed color i (tfd :: tfds) sta sta''
      (⟨sta.modifyTid ⟨i, inside⟩ fun data => { data with lqColor := color }, tfdTid tfd,
        reports⟩ :: calls) := by
  have colored : ∀ tid : Tid, ((sta.modifyTid ⟨i, inside⟩ fun data =>
      { data with lqColor := color }).tidData tid).lqColor =
      if tid.val = i then color else (sta.tidData tid).lqColor := by
    intro tid
    rw [tidData_modifyTid]
    by_cases same : tid.val = i
    · rw [if_pos (Fin.ext same), if_pos same]
    · rw [if_neg fun equal => same (congrArg Fin.val equal), if_neg same]
  refine ⟨fun tid => ?_, fun tid unlisted => ?_, ?_, fun k call found => ?_⟩
  · rw [rest.lqColor, kept, colored, List.length_cons]
    by_cases here : tid.val = i
    · rw [if_neg (by omega), if_pos here, if_pos (by omega)]
    · rw [if_neg here]
      by_cases later : i + 1 ≤ tid.val ∧ tid.val < i + 1 + tfds.length
      · rw [if_pos later, if_pos (by omega)]
      · rw [if_neg later, if_neg (by omega)]
  · rw [rest.nextReclaimed tid fun listed => unlisted ?_, next tid fun same => unlisted ?_]
    · exact ⟨tfd, List.mem_cons_self, same⟩
    · obtain ⟨other, member, same⟩ := listed
      exact ⟨other, List.mem_cons_of_mem _ member, same⟩
  · rw [List.length_cons, List.length_cons, rest.length]
  · cases k with
    | zero =>
        rw [List.getElem?_cons_zero] at found
        cases found
        refine ⟨rfl, fun tid => ?_⟩
        rw [colored]
        by_cases here : tid.val = i
        · rw [if_pos here, if_pos (by omega)]
        · rw [if_neg here, if_neg (by omega)]
    | succ k =>
        rw [List.getElem?_cons_succ] at found
        obtain ⟨entry, color'⟩ := rest.called k call found
        rw [List.getElem?_cons_succ]
        refine ⟨entry, fun tid => ?_⟩
        rw [color', kept, colored]
        by_cases here : tid.val = i
        · rw [if_neg (by omega), if_pos here, if_pos (by omega)]
        · rw [if_neg here]
          by_cases later : i + 1 ≤ tid.val ∧ tid.val ≤ i + 1 + k
          · rw [if_pos later, if_pos (by omega)]
          · rw [if_neg later, if_neg (by omega)]

/-- The loop goes through if the entries fit into the table, and only then. -/
theorem freePerTid_spec (tfds : List BaTfd) :
    ∀ i sta baInfo, i ≤ 9 →
      (i + tfds.length ≤ 9 → ∃ sta' calls,
        freePerTid mvm notif reclaimed i tfds sta baInfo = some (sta', calls) ∧
          Freed (rateTableColor notif.tlcRateInfo) i tfds sta sta' calls) ∧
      (9 < i + tfds.length → freePerTid mvm notif reclaimed i tfds sta baInfo = none) := by
  induction tfds with
  | nil =>
      intro i sta baInfo bound
      refine ⟨fun _ => ⟨sta, [], rfl, .nil _ i sta⟩, fun long => ?_⟩
      rw [List.length_nil] at long
      omega
  | cons tfd tfds ih =>
      intro i sta baInfo bound
      rw [freePerTid, List.length_cons]
      by_cases inside : i < 9
      · rw [dif_pos inside]
        dsimp only
        have kept := @txReclaim_tidData mvm (sta.modifyTid ⟨i, inside⟩ fun data =>
          { data with lqColor := rateTableColor notif.tlcRateInfo }) (tfdTid tfd) tfd.qNum
          tfd.tfdIndex baInfo notif.txRate (reclaimed tfd)
        generalize txReclaim mvm _ (tfdTid tfd) _ _ baInfo _ _ = after at kept ⊢
        obtain ⟨goes, stops⟩ := ih (i + 1) after.1 after.2.1 inside
        constructor
        · intro fits
          obtain ⟨sta'', calls, rest, freed⟩ := goes (by omega)
          rw [rest, Option.map_some]
          refine ⟨sta'', _, rfl, freed.cons inside (fun tid => (kept tid).1) fun tid other => ?_⟩
          rw [(kept tid).2 other, tidData_modifyTid]
          split
          · next same => rw [same]
          · rfl
        · intro long
          rw [stops (by omega), Option.map_none]
      · rw [dif_neg inside]
        refine ⟨fun fits => ?_, fun _ => rfl⟩
        omega

/-! ## The notification -/

theorem touchesListed_unchanged (mvm : Mvm) (notif : CompressedBaNotif) :
    TouchesListed mvm notif (some (mvm, [])) :=
  ⟨mvm, [], rfl, fun _ sta entry => ⟨sta, entry, fun _ _ => ⟨rfl, rfl⟩⟩,
    fun _ member => absurd member List.not_mem_nil⟩

theorem not_touchesListed_none (mvm : Mvm) (notif : CompressedBaNotif) :
    ¬TouchesListed mvm notif none := by
  rintro ⟨mvm', calls, none, -⟩
  cases none

/-- Over one station the loop does what it is for exactly if the listed TIDs are in place. -/
theorem inPlace_iff {known : notif.staId < 16} {mvm' : Mvm} {sta' : Sta} {calls : List Reclaim}
    (entry : mvm.fwIdToMacId ⟨notif.staId, known⟩ = some sta) (short : notif.tfds.length ≤ 9)
    (freed : Freed (rateTableColor notif.tlcRateInfo) 0 notif.tfds sta sta' calls)
    (table : mvm'.fwIdToMacId =
      Function.update mvm.fwIdToMacId ⟨notif.staId, known⟩ (some sta')) :
    TouchesListed mvm notif (some (mvm', calls)) ↔ InPlace notif sta := by
  have entry' : mvm'.fwIdToMacId ⟨notif.staId, known⟩ = some sta' := by
    rw [table, Function.update_self]
  constructor
  · rintro ⟨_, _, same, frame, colored⟩
    cases same
    refine ⟨short, fun tid position => ?_, fun i tfd found inside => ?_⟩
    · by_cases listed : Listed notif.tfds tid
      · exact .inl listed
      · obtain ⟨after, known', kept⟩ := frame _ sta entry
        rw [entry'] at known'
        cases known'
        obtain ⟨color, -⟩ := kept tid fun both => listed both.2
        rw [freed.lqColor, if_pos ⟨Nat.zero_le _, by omega⟩] at color
        exact .inr color.symm
    · have within : i < calls.length := by
        rw [freed.length]
        exact (List.getElem?_eq_some_iff.mp found).1
      obtain ⟨tid, color⟩ := freed.called i _ (List.getElem?_eq_getElem within)
      rw [found, Option.map_some, Option.some_inj] at tid
      have recorded := colored _ (List.getElem_mem within) (tid ▸ inside)
      rw [color] at recorded
      simp only [← tid] at recorded
      by_cases reached : tfdTid tfd ≤ i
      · exact .inl reached
      · rw [if_neg (by rw [Nat.zero_add]; exact fun both => reached both.2)] at recorded
        exact .inr recorded
  · intro inPlace
    refine ⟨mvm', calls, rfl, fun staId before known' => ?_, fun call member inside => ?_⟩
    · rw [table]
      by_cases this : staId = ⟨notif.staId, known⟩
      · rw [this, Function.update_self]
        rw [this, entry] at known'
        cases known'
        refine ⟨sta', rfl, fun tid unlisted => ?_⟩
        have notListed : ¬Listed notif.tfds tid := fun listed => unlisted ⟨rfl, listed⟩
        refine ⟨?_, freed.nextReclaimed tid notListed⟩
        rw [freed.lqColor]
        split
        · next position =>
            exact ((inPlace.listed tid (by omega)).resolve_left notListed).symm
        · rfl
      · rw [Function.update_of_ne this]
        exact ⟨before, known', fun _ _ => ⟨rfl, rfl⟩⟩
    · obtain ⟨i, within, same⟩ := List.mem_iff_getElem.mp member
      obtain ⟨tid, color⟩ := freed.called i call (List.getElem?_eq_some_iff.mpr ⟨within, same⟩)
      obtain ⟨tfd, found, sameTid⟩ := Option.map_eq_some_iff.mp tid
      rw [color]
      split
      · rfl
      · next beyond =>
          have reached := inPlace.reached i tfd found (sameTid.symm ▸ inside)
          simp only [sameTid] at reached
          refine reached.resolve_left fun before => beyond ⟨Nat.zero_le _, ?_⟩
          rwa [Nat.zero_add]

/-- A compressed block-ack notification touches only what it lists, and every listed TID gets its
colour in time, exactly if the station is unknown or the listed TIDs are in place. -/
theorem rxBaNotif_touchesListed_iff (mvm : Mvm) (notif : CompressedBaNotif)
    (reclaimed : BaTfd → List Skb) :
    TouchesListed mvm notif (rxBaNotif mvm notif reclaimed) ↔
      ∀ known : notif.staId < 16, ∀ sta, mvm.fwIdToMacId ⟨notif.staId, known⟩ = some sta →
        InPlace notif sta := by
  unfold rxBaNotif
  extract_lets baInfo
  by_cases empty : notif.tfds = []
  · rw [if_pos empty]
    refine iff_of_true (touchesListed_unchanged mvm notif) fun known sta entry => ?_
    refine ⟨?_, fun tid position => ?_, fun i tfd found => ?_⟩
    · rw [empty, List.length_nil]
      exact Nat.zero_le 9
    · rw [empty, List.length_nil] at position
      exact absurd position (Nat.not_lt_zero _)
    · rw [empty, List.getElem?_nil] at found
      cases found
  rw [if_neg empty]
  by_cases known : notif.staId < 16
  · rw [dif_pos known]
    cases entry : mvm.fwIdToMacId ⟨notif.staId, known⟩ with
    | none =>
        refine iff_of_true (touchesListed_unchanged mvm notif) fun _ sta entry' => ?_
        rw [entry] at entry'
        cases entry'
    | some sta =>
        obtain ⟨goes, stops⟩ := @freePerTid_spec mvm notif reclaimed notif.tfds 0 sta baInfo
          (Nat.zero_le 9)
        rw [Nat.zero_add] at goes stops
        dsimp only
        have single : (∀ _ : notif.staId < 16, ∀ other, some sta = some other →
            InPlace notif other) ↔ InPlace notif sta := by
          constructor
          · exact fun all => all known sta rfl
          · intro inPlace _ other same
            cases same
            exact inPlace
        by_cases short : notif.tfds.length ≤ 9
        · obtain ⟨sta', calls, done, freed⟩ := goes short
          rw [done, Option.map_some, inPlace_iff entry short freed rfl, ← single, ← entry]
        · rw [stops (by omega), Option.map_none]
          refine iff_of_false (not_touchesListed_none mvm notif) fun all => ?_
          exact short (all known sta entry).short
  · rw [dif_neg known]
    exact iff_of_true (touchesListed_unchanged mvm notif) fun known' => absurd known' known

/-- A station with queue 10 for TID 5. -/
def oneSta : Mvm where
  fwIdToMacId staId := if staId = 3 then some ⟨fun _ => ⟨0, 0, 0, .on, 10, 0⟩, true⟩ else none
  gen2 := true
  tlcOffload := true

/-- A block-ack for TID 5 with colour 1. -/
def forTid5 : CompressedBaNotif := ⟨3, 0, 0x10, 1, 1, 100, 0, [⟨10, 1, 5⟩]⟩

/-- The colour goes to TID 0, and the frames of TID 5 are reclaimed with the old one. -/
theorem not_rxBaNotif_touchesListed :
    ¬TouchesListed oneSta forTid5 (rxBaNotif oneSta forTid5 fun _ => []) := by
  rintro ⟨mvm', calls, done, -, colored⟩
  cases done
  have recorded := colored _ List.mem_cons_self (by decide)
  exact absurd recorded (by decide)

end Iwlwifi.BaNotif
