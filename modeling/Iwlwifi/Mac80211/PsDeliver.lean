import Iwlwifi.Mac80211.PsFrames

/-!
# Responses to a sleeping station

The rest of `ieee80211_sta_ps_deliver_response` of `net/mac80211/sta_info.c`: what it makes of the
frames that `ieee80211_sta_ps_get_frames` took from the queues, and of the TIDs of which the driver
has frames.  Either the driver is told to release frames of its own, or frames from the queues are
handed on, or a null frame is sent because there is nothing to send.  The traffic indication map and
the flag of the TX control information that only later handlers read are left out.
-/

namespace Iwlwifi.PsDeliver

open Ps

/-! ## The function -/

def ieee80211FctlMoredata : Nat := 0x2000

def txCtlReqTxStatus : UInt32 := (1 : UInt32) <<< 0
def txStatusEosp : UInt32 := (1 : UInt32) <<< 28

/-- `enum ieee80211_frame_release_type` -/
inductive Reason
  | pspoll
  | uapsd
  deriving DecidableEq

/-- What is known of the interface and the station besides the queues: a managed interface with HE,
that memory for a null frame is there, that there is a channel context, and `sta->sta.wme`. -/
structure Surroundings where
  managedHe : Bool
  memory : Bool
  chanctx : Bool
  wme : Bool

/-- `drv_allow_buffered_frames` or `drv_release_buffered_frames` -/
inductive DriverCall
  | allow (tids numFrames : Nat) (reason : Reason) (moreData : Bool)
  | release (tids numFrames : Nat) (reason : Reason) (moreData : Bool)
  deriving DecidableEq

/-- A frame that is handed on, and whether `IEEE80211_QOS_CTL_EOSP` was set in it. -/
structure Sent where
  skb : TxSkb
  eosp : Bool := false
  deriving DecidableEq

/-- A null frame. -/
structure Null where
  priority : Nat
  queueMapping : Ac
  qos : Bool
  eosp : Bool
  moreData : Bool
  flags : UInt32
  deriving DecidableEq

/-- What the function does besides taking frames from the queues. -/
structure Response where
  calls : List DriverCall
  frames : List Sent
  null : Option Null
  deriving DecidableEq

/-- `ieee802_1d_to_ac` -/
def ieee8021dToAc : List Ac := [.be, .bk, .bk, .be, .vi, .vi, .vo, .vo]

/-- `ieee80211_send_null_response` -/
def ieee80211SendNullResponse (env : Surroundings) (tid : Int) (reason : Reason) (callDriver : Bool)
    (moreData : Bool) : List DriverCall × Option Null :=
  if env.managedHe then ([], none)
  else if !env.memory then ([], none)
  else
    -- a negative TID is a large `size_t`
    let index := min (tid % 2 ^ 64).toNat 7
    let null : Null :=
      { priority := (tid % 2 ^ 32).toNat
        queueMapping := ieee8021dToAc.getD index .vo
        qos := env.wme
        eosp := env.wme && reason == .uapsd
        moreData := env.wme && reason == .uapsd && moreData
        flags := txCtlNoPsBuffer ||| txStatusEosp ||| txCtlReqTxStatus }
    let calls := if callDriver then [.allow (2 ^ index) 1 reason false] else []
    if env.chanctx then (calls, some null) else (calls, none)

/-- `fls(tids) - 1` -/
def lastTid (tids : Nat) : Int := if tids = 0 then -1 else Nat.log2 tids

/-- `find_highest_prio_tid` -/
def findHighestPrioTid (tids : Nat) : Int :=
  if tids &&& 0xf8 ≠ 0 then lastTid tids else if tids &&& 1 ≠ 0 then 0 else lastTid tids

def hweight16 (x : Nat) : Nat := ((List.range 16).filter fun i => x.testBit i).length

/-- `ieee80211_sta_ps_more_data` -/
def ieee80211StaPsMoreData (sta : StaInfo) (ignoredAcs : UInt8) (reason : Reason)
    (driverReleaseTids : Nat) : Bool :=
  reason == .pspoll && 1 < hweight16 driverReleaseTids ||
    acs.any fun ac => ignoredAcs &&& ac.toQosMask == 0 &&
      (!(sta.txFiltered.get ac).isEmpty || !(sta.psTxBuf.get ac).isEmpty)

def setMoreData (moreData : Bool) (fc : Nat) : Nat :=
  if moreData then fc ||| ieee80211FctlMoredata else fc &&& 0xdfff

/-- What the loop over the frames has so far. -/
structure HandOn where
  num : Nat := 0
  tids : Nat := 0
  pending : List Sent := []
  needNull : Bool := false

/-- The last frame ends the service period, or a null frame has to. -/
def lastFrame (reason : Reason) (skb : TxSkb) (s : HandOn) : HandOn :=
  let ending := { skb with flags := skb.flags ||| (txStatusEosp ||| txCtlReqTxStatus) }
  if reason ≠ .uapsd then { s with pending := s.pending ++ [⟨ending, false⟩] }
  else if ieee80211IsDataQos skb.frameControl || ieee80211IsQosNullfunc skb.frameControl then
    { s with pending := s.pending ++ [⟨ending, true⟩] }
  else
    { s with
      pending := s.pending ++
        [⟨{ skb with frameControl := skb.frameControl ||| ieee80211FctlMoredata }, false⟩]
      needNull := true
      num := s.num + 1 }

/-- The loop over the frames.  `priority` stands for `skb->priority`. -/
def frameLoop (priority : TxSkb → Nat) (reason : Reason) (moreData : Bool) :
    List TxSkb → HandOn → HandOn
  | [], s => s
  | skb :: frames, s =>
      let skb' := { skb with
        flags := skb.flags ||| txCtlNoPsBuffer
        frameControl := setMoreData (moreData || !frames.isEmpty) skb.frameControl }
      let s := { s with num := s.num + 1, tids := s.tids ||| 2 ^ priority skb % 2 ^ 16 }
      if frames.isEmpty then lastFrame reason skb' s
      else frameLoop priority reason moreData frames
        { s with pending := s.pending ++ [⟨skb', false⟩] }

/-- The highest access category that is not ignored, as `ac` in the loop that looks for it. -/
def firstServed (ignoredAcs : UInt8) : Nat :=
  acs.findIdx fun ac => ignoredAcs &&& ac.toQosMask == 0

/-- What is made of the frames and the TIDs. -/
def respond (env : Surroundings) (priority : TxSkb → Nat) (sta : StaInfo) (frames : List TxSkb)
    (driverReleaseTids nFrames : Nat) (ignoredAcs : UInt8) (reason : Reason) : Response :=
  let moreData := ieee80211StaPsMoreData sta ignoredAcs reason driverReleaseTids
  let tids :=
    if driverReleaseTids ≠ 0 ∧ reason = .pspoll then
      2 ^ (findHighestPrioTid driverReleaseTids).toNat
    else driverReleaseTids
  if frames.isEmpty && tids == 0 then
    let (calls, null) :=
      ieee80211SendNullResponse env (7 - 2 * firstServed ignoredAcs) reason true false
    ⟨calls, [], null⟩
  else if tids = 0 then
    let s := frameLoop priority reason moreData frames {}
    let (calls, null) :=
      if s.needNull then
        ieee80211SendNullResponse env (findHighestPrioTid s.tids) reason false false
      else ([], none)
    ⟨.allow s.tids s.num reason moreData :: calls, s.pending, null⟩
  else ⟨[.release tids nFrames reason moreData], [], none⟩

/-- `ieee80211_sta_ps_deliver_response` as a whole. -/
def staPsDeliverResponse (env : Surroundings) (priority : TxSkb → Nat) (l : Local) (s nFrames : Nat)
    (ignoredAcs : UInt8) (reason : Reason) : Local × Response :=
  let (l, frames, tids) := ieee80211StaPsDeliverResponse l s nFrames ignoredAcs
  match l.staList[s]? with
  | none => (l, ⟨[], [], none⟩)
  | some sta => (l, respond env priority sta frames tids nFrames ignoredAcs reason)

/-! ## What a response is to do -/

/-- The categories above. -/
def above (ac : Ac) : List Ac := ahead acs ac

/-- Frames are there for the station, in a queue or at the driver. -/
def StillBuffered (sta : StaInfo) (ignoredAcs : UInt8) : Prop :=
  ∃ ac, served ignoredAcs ac = true ∧ (queue sta ac ≠ [] ∨ held sta.state ac ≠ 0)

namespace Sent

def moreData (f : Sent) : Prop := f.skb.frameControl &&& ieee80211FctlMoredata ≠ 0

/-- The frame is the last one of the service period. -/
def ends (f : Sent) : Bool := f.skb.flags &&& txStatusEosp != 0

end Sent

/-- A frame without the bits that a response sets or clears. -/
def content (skb : TxSkb) : TxSkb :=
  { skb with frameControl := skb.frameControl &&& 0xdfff, flags := 0 }

def DriverCall.isRelease : DriverCall → Bool
  | .allow .. => false
  | .release .. => true

/-- Frames come from the queues in their order, and from a category only if nothing is left of those
above, in their queues or at the driver. -/
structure HighestFirst (before after : StaInfo) (ignoredAcs : UInt8) (r : Response) : Prop where
  inOrder : r.frames.map (fun f => content f.skb) <+:
    (waiting before ignoredAcs acs).map content
  queues : ∀ ac, queue after ac ≠ queue before ac → ∀ higher ∈ above ac,
    served ignoredAcs higher = true → queue after higher = [] ∧ held before.state higher = 0
  driver : ∀ tids nFrames reason moreData, .release tids nFrames reason moreData ∈ r.calls →
    ∀ ac, tids &&& ac.tids ≠ 0 → ∀ higher ∈ above ac, served ignoredAcs higher = true →
      queue after higher = [] ∧ held before.state higher &&& tids = held before.state higher

/-- Every frame says whether something is there for the station behind it; the driver is told
whether something is there besides the frames of the TIDs that it is to release. -/
structure MoreDataRight (after : StaInfo) (ignoredAcs : UInt8) (r : Response) : Prop where
  frames : ∀ done f rest, r.frames = done ++ f :: rest →
    (f.moreData ↔ rest ≠ [] ∨ r.null.isSome ∨ StillBuffered after ignoredAcs)
  driver : ∀ tids nFrames reason moreData, .release tids nFrames reason moreData ∈ r.calls →
    (moreData = true ↔ ∃ ac, served ignoredAcs ac = true ∧
      (queue after ac ≠ [] ∨ held after.state ac &&& tids ≠ held after.state ac))

/-- The service period ends once: with a frame, with a null frame or with the frames of the
driver. -/
structure EndsOnce (reason : Reason) (r : Response) : Prop where
  once : r.frames.countP Sent.ends + r.null.toList.length + r.calls.countP DriverCall.isRelease = 1
  eosp : reason = .uapsd → ∀ f ∈ r.frames, f.ends = true → f.eosp = true

structure Truthful (before after : StaInfo) (nFrames : Nat) (ignoredAcs : UInt8) (reason : Reason)
    (r : Response) : Prop where
  atMost : r.frames.length ≤ nFrames ∧ ∀ tids n reason moreData,
    .release tids n reason moreData ∈ r.calls → n = nFrames
  order : HighestFirst before after ignoredAcs r
  ends : EndsOnce reason r
  moreData : MoreDataRight after ignoredAcs r

/-! ## When a response does so -/

/-- The frame can say itself that it ends the service period. -/
def endsItself (reason : Reason) (skb : TxSkb) : Bool :=
  reason == .pspoll || ieee80211IsDataQos skb.frameControl

/-- A null frame is needed: nothing is there, or the last frame cannot end the period. -/
def NeedsNull (sta : StaInfo) (nFrames : Nat) (ignoredAcs : UInt8) (reason : Reason) : Prop :=
  driverTids sta ignoredAcs acs = 0 ∧
    ∀ skb ∈ ((waiting sta ignoredAcs acs).take nFrames).getLast?, endsItself reason skb = false

/-- A null frame can be sent. -/
def CanSendNull (env : Surroundings) : Prop :=
  env.managedHe = false ∧ env.memory = true ∧ env.chanctx = true

/-- A frame is taken from the queues of a category although the driver has frames of a higher
one. -/
def Jumps (sta : StaInfo) (nFrames : Nat) (ignoredAcs : UInt8) : Prop :=
  driverTids sta ignoredAcs acs = 0 ∧ ∃ ac, ∃ higher ∈ above ac, served ignoredAcs ac = true ∧
    served ignoredAcs higher = true ∧ held sta.state higher ≠ 0 ∧ queue sta ac ≠ [] ∧
    (waiting sta ignoredAcs (above ac)).length < nFrames

/-- All frames of the queues are taken, the last one ends the period, and the driver has more. -/
def Forgets (sta : StaInfo) (nFrames : Nat) (ignoredAcs : UInt8) (reason : Reason) : Prop :=
  driverTids sta ignoredAcs acs = 0 ∧ (waiting sta ignoredAcs acs).length ≤ nFrames ∧
    (∃ skb ∈ (waiting sta ignoredAcs acs).getLast?, endsItself reason skb = true) ∧
    ∃ ac, served ignoredAcs ac = true ∧ held sta.state ac ≠ 0

/-! ## The frames that are taken -/

/-- What is left once frames were taken. -/
structure Left (before after : StaInfo) (nFrames : Nat) (ignoredAcs : UInt8) : Prop where
  held : held after.state = held before.state
  queues : ∀ ac, queue after ac =
    if driverTids before ignoredAcs acs = 0 then staying before ignoredAcs nFrames acs ac
    else queue before ac

section Deliver

variable (env : Surroundings) (priority : TxSkb → Nat) {l : Local} {s : Nat} (nFrames : Nat)
  (ignoredAcs : UInt8) (reason : Reason) {sta : StaInfo}

theorem staPsDeliverResponse_eq (found : l.staList[s]? = some sta) : ∃ after,
    (staPsDeliverResponse env priority l s nFrames ignoredAcs reason).1.staList[s]? = some after ∧
      Left sta after nFrames ignoredAcs ∧
      (staPsDeliverResponse env priority l s nFrames ignoredAcs reason).2 =
        respond env priority after
          (if driverTids sta ignoredAcs acs = 0 then (waiting sta ignoredAcs acs).take nFrames
            else [])
          (driverTids sta ignoredAcs acs) nFrames ignoredAcs reason := by
  have inside : s < l.staList.length := (List.getElem?_eq_some_iff.mp found).1
  let starts : StaInfo := { sta with state := { sta.state with sp := true } }
  let r : Release :=
    { nFrames := nFrames, txFiltered := starts.txFiltered, psTxBuf := starts.psTxBuf
      total := l.totalPsBuffered }
  have found' : (l.setSta s starts).staList[s]? = some starts := by
    rw [Local.setSta, List.getElem?_set_self inside]
  obtain ⟨tids, frames, queues⟩ := taken_getFrames starts ignoredAcs (by decide : acs.Nodup)
    (r := r) (fun some' => absurd rfl some')
  have same : driverTids (holding starts r) ignoredAcs acs = driverTids sta ignoredAcs acs :=
    driverTids_congr rfl fun _ _ => rfl
  have same' : waiting (holding starts r) ignoredAcs = waiting sta ignoredAcs :=
    funext fun _ => waiting_congr fun _ _ => rfl
  rw [if_pos rfl, same, show r.driverReleaseTids = 0 from rfl, Nat.zero_or] at tids
  rw [show r.frames = [] from rfl, List.nil_append, same', tids] at frames
  have handed : ieee80211StaPsDeliverResponse l s nFrames ignoredAcs =
      (((l.setSta s starts).setSta s
          (holding starts (getFrames starts.state ignoredAcs acs r))).setTotal
            (getFrames starts.state ignoredAcs acs r).total,
        (getFrames starts.state ignoredAcs acs r).frames,
        (getFrames starts.state ignoredAcs acs r).driverReleaseTids) := by
    simp only [ieee80211StaPsDeliverResponse, found, ieee80211StaPsGetFrames]
    simp only [show { sta with state := { sta.state with sp := true } } = starts from rfl, found']
    rfl
  have there : (((l.setSta s starts).setSta s
      (holding starts (getFrames starts.state ignoredAcs acs r))).setTotal
        (getFrames starts.state ignoredAcs acs r).total).staList[s]? =
      some (holding starts (getFrames starts.state ignoredAcs acs r)) := by
    simp only [Local.setTotal, Local.setSta]
    rw [List.getElem?_set_self (by rw [List.length_set]; exact inside)]
  rw [staPsDeliverResponse, handed]
  simp only [there]
  refine ⟨_, rfl, ⟨rfl, fun ac => ?_⟩, ?_⟩
  · rw [queues ac, tids]
    rfl
  · rw [tids, frames]

end Deliver

/-! ## What is made of them -/

theorem or_land (a b c : UInt32) : (a ||| b) &&& c = (a &&& c) ||| (b &&& c) := by
  refine UInt32.toBitVec_inj.mp (BitVec.eq_of_getLsbD_eq fun i _ => ?_)
  simp only [UInt32.toBitVec_and, UInt32.toBitVec_or, BitVec.getLsbD_and, BitVec.getLsbD_or,
    Bool.and_or_distrib_right]

theorem setMoreData_kind (moreData : Bool) (fc : Nat) :
    setMoreData moreData fc &&& fcKind = fc &&& fcKind := by
  cases moreData with
  | false => exact Nat.land_assoc _ _ _
  | true => exact (Nat.and_or_distrib_right _ _ _).trans (Nat.or_zero _)

theorem setMoreData_content (moreData : Bool) (fc : Nat) :
    setMoreData moreData fc &&& 0xdfff = fc &&& 0xdfff := by
  cases moreData with
  | false => exact Nat.land_assoc _ _ _
  | true => exact (Nat.and_or_distrib_right _ _ _).trans (Nat.or_zero _)

theorem setMoreData_iff (moreData : Bool) (fc : Nat) :
    setMoreData moreData fc &&& ieee80211FctlMoredata ≠ 0 ↔ moreData = true := by
  cases moreData with
  | false =>
      refine iff_of_false (not_not_intro ?_) Bool.false_ne_true
      exact (Nat.land_assoc _ _ _).trans (Nat.and_zero _)
  | true =>
      refine iff_of_true ?_ rfl
      rw [setMoreData, if_pos rfl, Nat.and_or_distrib_right, Nat.and_self]
      exact fun zero => absurd (Nat.or_eq_zero_iff.mp zero).2 (by decide)

theorem isDataQos_of_isQosNullfunc {fc : Nat} (null : ieee80211IsQosNullfunc fc = true) :
    ieee80211IsDataQos fc = true := by
  rw [ieee80211IsQosNullfunc, beq_iff_eq] at null
  rw [ieee80211IsDataQos, beq_iff_eq]
  have within : (ieee80211FctlFtype ||| ieee80211FctlStype) &&&
      (ieee80211FctlFtype ||| ieee80211StypeQosData) =
      ieee80211FctlFtype ||| ieee80211StypeQosData := rfl
  rw [← within, ← Nat.land_assoc, null]
  rfl

/-- The frame once it says whether there is more. -/
def handed (moreData : Bool) (skb : TxSkb) : TxSkb :=
  { skb with
    flags := skb.flags ||| txCtlNoPsBuffer
    frameControl := setMoreData moreData skb.frameControl }

theorem handed_content (moreData : Bool) (skb : TxSkb) :
    content (handed moreData skb) = content skb := by
  simp only [content, handed, setMoreData_content]

/-- The frame does not carry the mark of an earlier service period. -/
def Unmarked (skb : TxSkb) : Prop := skb.flags &&& txStatusEosp = 0

instance : DecidablePred Unmarked := fun _ => inferInstanceAs (Decidable (_ = (0 : UInt32)))

theorem handed_flags {skb : TxSkb} (fresh : Unmarked skb) (moreData : Bool) :
    (handed moreData skb).flags &&& txStatusEosp = 0 := by
  rw [handed, or_land, show skb.flags &&& txStatusEosp = 0 from fresh]
  rfl

section Loop

variable {priority : TxSkb → Nat} {reason : Reason} {moreData : Bool}

variable (priority reason moreData) in
theorem frameLoop_eq (init : List TxSkb) (last : TxSkb) (s : HandOn) :
    ∃ num tids, frameLoop priority reason moreData (init ++ [last]) s =
      lastFrame reason (handed moreData last)
        ⟨num, tids, s.pending ++ init.map (fun skb => ⟨handed true skb, false⟩), s.needNull⟩ := by
  induction init generalizing s with
  | nil =>
      refine ⟨s.num + 1, s.tids ||| 2 ^ priority last % 2 ^ 16, ?_⟩
      rw [List.nil_append, frameLoop, List.map_nil, List.append_nil]
      simp [handed]
  | cons skb init ih =>
      obtain ⟨num, tids, looped⟩ := ih
        { s with
          num := s.num + 1
          tids := s.tids ||| 2 ^ priority skb % 2 ^ 16
          pending := s.pending ++ [⟨handed true skb, false⟩] }
      refine ⟨num, tids, ?_⟩
      have more : (init ++ [last]).isEmpty = false := by
        cases init <;> rfl
      rw [List.cons_append, frameLoop, more, Bool.not_false, Bool.or_true]
      rw [List.append_assoc, List.singleton_append] at looped
      exact looped

theorem handed_qos (moreData : Bool) (skb : TxSkb) :
    (ieee80211IsDataQos (handed moreData skb).frameControl ||
      ieee80211IsQosNullfunc (handed moreData skb).frameControl) =
      ieee80211IsDataQos skb.frameControl := by
  rw [← ieee80211IsDataQos_congr (setMoreData_kind moreData skb.frameControl)]
  change (ieee80211IsDataQos (setMoreData moreData skb.frameControl) ||
    ieee80211IsQosNullfunc (setMoreData moreData skb.frameControl)) = _
  cases null : ieee80211IsQosNullfunc (setMoreData moreData skb.frameControl) with
  | false => exact Bool.or_false _
  | true => rw [isDataQos_of_isQosNullfunc null, Bool.or_true]

/-- What becomes of the last frame. -/
structure LastSent (reason : Reason) (moreData : Bool) (last : TxSkb) (final : Sent) : Prop where
  content : content final.skb = content last
  ends : final.ends = endsItself reason last
  eosp : reason = .uapsd → final.ends = true → final.eosp = true
  moreData : final.moreData ↔ moreData = true ∨ endsItself reason last = false

/-- A frame that is marked as the last one of the period. -/
theorem lastSent_ending {last : TxSkb} (fresh : Unmarked last)
    (itself : endsItself reason last = true) {eosp : Bool}
    (marked : reason = .uapsd → eosp = true) :
    LastSent reason moreData last ⟨{ handed moreData last with
      flags := (handed moreData last).flags ||| (txStatusEosp ||| txCtlReqTxStatus) }, eosp⟩ := by
  refine ⟨handed_content moreData last, ?_, fun uapsd _ => marked uapsd, ?_⟩
  · rw [itself, Sent.ends, bne_iff_ne]
    simp only [or_land (handed moreData last).flags, handed_flags fresh]
    decide
  · rw [itself]
    exact (setMoreData_iff _ _).trans (or_iff_left Bool.true_eq_false.mp).symm

variable (reason moreData) in
theorem lastFrame_spec {last : TxSkb} (fresh : Unmarked last) (s : HandOn) :
    ∃ final, (lastFrame reason (handed moreData last) s).pending = s.pending ++ [final] ∧
      (lastFrame reason (handed moreData last) s).needNull =
        (s.needNull || !endsItself reason last) ∧ LastSent reason moreData last final := by
  rw [lastFrame, handed_qos]
  cases reason with
  | pspoll =>
      rw [if_pos nofun]
      exact ⟨_, rfl, (Bool.or_false _).symm, lastSent_ending fresh rfl nofun⟩
  | uapsd =>
      rw [if_neg (not_not_intro rfl)]
      by_cases qos : ieee80211IsDataQos last.frameControl = true
      · rw [if_pos qos]
        have itself : endsItself .uapsd last = true := qos
        exact ⟨_, rfl, by rw [itself]; exact (Bool.or_false _).symm,
          lastSent_ending fresh itself fun _ => rfl⟩
      · have not : endsItself .uapsd last = false := Bool.of_not_eq_true qos
        rw [if_neg qos, not]
        refine ⟨_, rfl, (Bool.or_true _).symm, ?_, ?_, ?_, ?_⟩
        · refine Eq.trans ?_ (handed_content moreData last)
          simp only [content, Nat.and_or_distrib_right]
          rw [show ieee80211FctlMoredata &&& 0xdfff = 0 from rfl, Nat.or_zero]
        · rw [not, Sent.ends, handed_flags fresh]
          rfl
        · intro _ marked
          rw [Sent.ends, handed_flags fresh] at marked
          cases marked
        · refine iff_of_true ?_ (.inr not)
          rw [Sent.moreData]
          exact (setMoreData_iff true _).mpr rfl

end Loop

section Null

variable (env : Surroundings) (tid : Int) (reason : Reason) (callDriver moreData : Bool)

theorem sendNull_calls :
    (ieee80211SendNullResponse env tid reason callDriver moreData).1.countP DriverCall.isRelease =
      0 := by
  rw [ieee80211SendNullResponse]
  split
  · rfl
  · split
    · rfl
    · dsimp only
      split <;> cases callDriver <;> rfl

theorem sendNull_isSome :
    (ieee80211SendNullResponse env tid reason callDriver moreData).2.isSome = true ↔
      CanSendNull env := by
  obtain ⟨managedHe, memory, chanctx, wme⟩ := env
  cases managedHe <;> cases memory <;> cases chanctx <;>
    simp [ieee80211SendNullResponse, CanSendNull]

end Null

theorem moreData_iff {sta : StaInfo} {ignoredAcs : UInt8} {reason : Reason} {tids : Nat} :
    ieee80211StaPsMoreData sta ignoredAcs reason tids = true ↔
      reason = .pspoll ∧ 1 < hweight16 tids ∨
        ∃ ac, served ignoredAcs ac = true ∧ queue sta ac ≠ [] := by
  have every : ∀ ac, ac ∈ acs := fun ac => by cases ac <;> decide
  simp only [ieee80211StaPsMoreData, Bool.or_eq_true, Bool.and_eq_true, beq_iff_eq,
    decide_eq_true_eq, List.any_eq_true, every, true_and, served]
  refine or_congr_right (exists_congr fun ac => and_congr_right fun _ => ?_)
  rw [← Bool.or_eq_true]
  exact left_iff sta ⟨0, sta.txFiltered, sta.psTxBuf, 0, [], 0⟩ ac

/-! ## Frames of the driver -/

section Release

variable {before after : StaInfo} {nFrames : Nat} {ignoredAcs : UInt8} {reason : Reason}

/-- The TIDs that a PS-Poll or a trigger frame releases out of those that could be. -/
def released (reason : Reason) (tids : Nat) : Nat :=
  if reason = .pspoll then 2 ^ (findHighestPrioTid tids).toNat else tids

theorem hweight16_iff : ∀ tids < 2 ^ 8, tids ≠ 0 → (1 < hweight16 tids ↔
    ∃ ac ∈ acs, tids &&& ac.tids &&& 2 ^ (findHighestPrioTid tids).toNat ≠ tids &&& ac.tids) := by
  decide +kernel

theorem highest_first : ∀ tids < 2 ^ 8, tids ≠ 0 → ∀ ac ∈ acs,
    2 ^ (findHighestPrioTid tids).toNat &&& ac.tids ≠ 0 → tids &&& ac.tids ≠ 0 ∧
      ∀ higher ∈ above ac, tids &&& higher.tids = 0 := by
  decide +kernel

theorem respond_driver (env : Surroundings) (priority : TxSkb → Nat) (sta : StaInfo) {tids : Nat}
    (some' : tids ≠ 0) : respond env priority sta [] tids nFrames ignoredAcs reason =
      ⟨[.release (released reason tids) nFrames reason
        (ieee80211StaPsMoreData sta ignoredAcs reason tids)], [], none⟩ := by
  have choice : (if tids ≠ 0 ∧ reason = .pspoll then 2 ^ (findHighestPrioTid tids).toNat
      else tids) = released reason tids := by
    rw [released]
    exact if_congr (and_iff_right some') rfl rfl
  have chosen : released reason tids ≠ 0 := by
    rw [released]
    split
    · exact Nat.ne_of_gt (Nat.two_pow_pos _)
    · exact some'
  have chosen' : (released reason tids == 0) = false := beq_eq_false_iff_ne.mpr chosen
  simp only [respond, choice, chosen', Bool.and_false, Bool.false_eq_true, if_false, if_neg chosen]

theorem every_ac (ac : Ac) : ac ∈ acs := by cases ac <;> decide

theorem above_of_above {ac higher highest : Ac} (inside : higher ∈ above ac)
    (inside' : highest ∈ above higher) : highest ∈ above ac := by
  have all : ∀ ac ∈ acs, ∀ higher ∈ above ac, ∀ highest ∈ above higher, highest ∈ above ac := by
    decide
  exact all ac (every_ac ac) higher inside highest inside'

variable (left : Left before after nFrames ignoredAcs)
  (some' : driverTids before ignoredAcs acs ≠ 0)
include left some'

/-- The driver releases nothing of a category while there is more above it. -/
theorem driver_order {ac higher : Ac}
    (hit : released reason (driverTids before ignoredAcs acs) &&& ac.tids ≠ 0)
    (inside : higher ∈ above ac) (serves : served ignoredAcs higher = true) :
    queue after higher = [] ∧
      held before.state higher &&& released reason (driverTids before ignoredAcs acs) =
        held before.state higher := by
  have own : driverTids before ignoredAcs acs &&& ac.tids ≠ 0 ∧ (reason = .pspoll →
      ∀ higher ∈ above ac, driverTids before ignoredAcs acs &&& higher.tids = 0) := by
    by_cases poll : reason = .pspoll
    · rw [released, if_pos poll] at hit
      obtain ⟨own, none'⟩ := highest_first _ (driverTids_lt _ _ _) some' ac (every_ac ac) hit
      exact ⟨own, fun _ => none'⟩
    · rw [released, if_neg poll] at hit
      exact ⟨hit, fun yes => absurd yes poll⟩
  have reached := reached_of_driverTids own.1
  have reached' : Reached before ignoredAcs acs higher := fun highest further =>
    reached highest (above_of_above inside further)
  have held' := driverTids_reached (by decide) (every_ac higher) serves reached'
  refine ⟨?_, ?_⟩
  · rw [left.queues, if_neg some']
    exact reached higher inside serves
  · by_cases poll : reason = .pspoll
    · rw [← held', own.2 poll higher inside, Nat.zero_and]
    · rw [released, if_neg poll, ← held', Nat.land_comm, ← Nat.land_assoc, Nat.and_self]

/-- The driver is told whether there is more besides what it releases. -/
theorem driver_moreData :
    ieee80211StaPsMoreData after ignoredAcs reason (driverTids before ignoredAcs acs) = true ↔
      ∃ ac, served ignoredAcs ac = true ∧ (queue after ac ≠ [] ∨
        held after.state ac &&& released reason (driverTids before ignoredAcs acs) ≠
          held after.state ac) := by
  have same : ∀ ac, queue after ac = queue before ac := fun ac => by rw [left.queues, if_neg some']
  rw [moreData_iff, left.held]
  constructor
  · rintro (⟨poll, several⟩ | ⟨ac, serves, filled⟩)
    · obtain ⟨ac, -, rest⟩ := (hweight16_iff _ (driverTids_lt _ _ _) some').mp several
      have own : driverTids before ignoredAcs acs &&& ac.tids ≠ 0 :=
        fun zero => rest (by rw [zero, Nat.zero_and])
      have serves : served ignoredAcs ac = true :=
        Bool.of_not_eq_false fun ignored => own (driverTids_outside (.inr ignored))
      refine ⟨ac, serves, .inr ?_⟩
      rw [released, if_pos poll,
        ← driverTids_reached (by decide) (every_ac ac) serves (reached_of_driverTids own)]
      exact rest
    · exact ⟨ac, serves, .inl filled⟩
  · rintro ⟨ac, serves, filled | rest⟩
    · exact .inr ⟨ac, serves, filled⟩
    · by_cases filled : ∃ ac, served ignoredAcs ac = true ∧ queue after ac ≠ []
      · exact .inr filled
      · have reached : Reached before ignoredAcs acs ac := fun higher _ serves' =>
          Classical.not_not.mp fun filled' => filled ⟨higher, serves', by rwa [same]⟩
        rw [← driverTids_reached (by decide) (every_ac ac) serves reached] at rest
        by_cases poll : reason = .pspoll
        · rw [released, if_pos poll] at rest
          exact .inl ⟨poll, (hweight16_iff _ (driverTids_lt _ _ _) some').mpr
            ⟨ac, every_ac ac, rest⟩⟩
        · rw [released, if_neg poll, Nat.land_comm, ← Nat.land_assoc, Nat.and_self] at rest
          exact absurd rfl rest

theorem truthful_driver (moreData : Bool) (right : moreData =
      ieee80211StaPsMoreData after ignoredAcs reason (driverTids before ignoredAcs acs)) :
    Truthful before after nFrames ignoredAcs reason
      ⟨[.release (released reason (driverTids before ignoredAcs acs)) nFrames reason moreData], [],
        none⟩ := by
  refine ⟨⟨Nat.zero_le _, ?_⟩, ⟨List.nil_prefix, ?_, ?_⟩, ⟨rfl, nofun⟩, ⟨?_, ?_⟩⟩
  · intro tids n reason' moreData' call
    cases List.mem_singleton.mp call
    rfl
  · intro ac changed
    rw [left.queues, if_neg some'] at changed
    exact absurd rfl changed
  · intro tids n reason' moreData' call ac hit higher inside serves
    cases List.mem_singleton.mp call
    exact driver_order left some' hit inside serves
  · intro done f rest split
    cases done <;> cases split
  · intro tids n reason' moreData' call
    cases List.mem_singleton.mp call
    rw [right]
    exact driver_moreData left some'

end Release

/-! ## Frames of the queues -/

section Software

variable {before after : StaInfo} {nFrames : Nat} {ignoredAcs : UInt8} {reason : Reason}
  (left : Left before after nFrames ignoredAcs) (none' : driverTids before ignoredAcs acs = 0)
include left none'

theorem queue_changed {ac : Ac} : queue after ac ≠ queue before ac ↔
    served ignoredAcs ac = true ∧ queue before ac ≠ [] ∧
      (waiting before ignoredAcs (above ac)).length < nFrames := by
  rw [left.queues, if_pos none', staying, above]
  by_cases serves : served ignoredAcs ac = true
  · rw [if_pos ⟨every_ac ac, serves⟩, and_iff_right serves]
    constructor
    · intro changed
      refine ⟨fun empty => changed (by rw [empty, List.drop_nil]), ?_⟩
      refine Nat.lt_of_not_le fun enough => changed ?_
      rw [Nat.sub_eq_zero_of_le enough, List.drop_zero]
    · rintro ⟨some', room⟩ same
      have length := congrArg List.length same
      have filled := List.length_pos_of_ne_nil some'
      rw [List.length_drop] at length
      omega
  · rw [if_neg fun both => serves both.2]
    exact iff_of_false (not_not_intro rfl) fun all => serves all.1

theorem drained {ac higher : Ac} (room : (waiting before ignoredAcs (above ac)).length < nFrames)
    (inside : higher ∈ above ac) (serves : served ignoredAcs higher = true) :
    queue after higher = [] := by
  have behind : (waiting before ignoredAcs (ahead acs higher)).length +
      (queue before higher).length ≤ (waiting before ignoredAcs (ahead acs ac)).length :=
    waiting_ahead_le inside serves
  rw [left.queues, if_pos none', staying, if_pos ⟨every_ac higher, serves⟩]
  refine List.drop_eq_nil_iff.mpr ?_
  simp only [above] at room
  omega

theorem order_iff : (∀ ac, queue after ac ≠ queue before ac → ∀ higher ∈ above ac,
      served ignoredAcs higher = true →
        queue after higher = [] ∧ held before.state higher = 0) ↔
    ¬ Jumps before nFrames ignoredAcs := by
  constructor
  · rintro order ⟨-, ac, higher, inside, serves, serves', some', filled, room⟩
    have changed := (queue_changed left none').mpr ⟨serves, filled, room⟩
    exact some' (order ac changed higher inside serves').2
  · intro fine ac changed higher inside serves'
    obtain ⟨serves, filled, room⟩ := (queue_changed left none').mp changed
    refine ⟨drained left none' room inside serves', ?_⟩
    refine Classical.not_not.mp fun some' => fine ?_
    exact ⟨none', ac, higher, inside, serves, serves', some', filled, room⟩

/-- Frames stay behind if more wait than may be taken. -/
theorem left_iff_more : (∃ ac, served ignoredAcs ac = true ∧ queue after ac ≠ []) ↔
    nFrames < (waiting before ignoredAcs acs).length := by
  have rest : waiting after ignoredAcs acs = (waiting before ignoredAcs acs).drop nFrames :=
    waiting_staying (by decide) fun ac _ => by rw [left.queues, if_pos none']
  have some' : waiting after ignoredAcs acs ≠ [] ↔
      ∃ ac ∈ acs, served ignoredAcs ac = true ∧ queue after ac ≠ [] := waiting_ne_nil
  rw [rest, ne_eq, List.drop_eq_nil_iff, Nat.not_le] at some'
  rw [some']
  exact exists_congr fun ac => (and_iff_right (every_ac ac)).symm

end Software

theorem respond_nothing (env : Surroundings) (priority : TxSkb → Nat) (sta : StaInfo)
    (nFrames : Nat) (ignoredAcs : UInt8) (reason : Reason) : ∃ calls null,
    respond env priority sta [] 0 nFrames ignoredAcs reason = ⟨calls, [], null⟩ ∧
      calls.countP DriverCall.isRelease = 0 ∧ (null.isSome = true ↔ CanSendNull env) :=
  ⟨_, _, rfl, sendNull_calls .., sendNull_isSome ..⟩

theorem respond_frames (env : Surroundings) (priority : TxSkb → Nat) (sta : StaInfo) (nFrames : Nat)
    (ignoredAcs : UInt8) (reason : Reason) (init : List TxSkb) {last : TxSkb}
    (fresh : Unmarked last) : ∃ calls final null,
    respond env priority sta (init ++ [last]) 0 nFrames ignoredAcs reason =
        ⟨calls, init.map (fun skb => ⟨handed true skb, false⟩) ++ [final], null⟩ ∧
      calls.countP DriverCall.isRelease = 0 ∧
      LastSent reason (ieee80211StaPsMoreData sta ignoredAcs reason 0) last final ∧
      (null.isSome = true ↔ endsItself reason last = false ∧ CanSendNull env) := by
  obtain ⟨num, tids, looped⟩ := frameLoop_eq priority reason
    (ieee80211StaPsMoreData sta ignoredAcs reason 0) init last {}
  rw [List.nil_append] at looped
  obtain ⟨final, pending, needNull, sent⟩ := lastFrame_spec reason
    (ieee80211StaPsMoreData sta ignoredAcs reason 0) fresh
    ⟨num, tids, init.map (fun skb => ⟨handed true skb, false⟩), false⟩
  have filled : (init ++ [last]).isEmpty = false := by
    cases init <;> rfl
  have choice : (if 0 ≠ 0 ∧ reason = .pspoll then 2 ^ (findHighestPrioTid 0).toNat else 0) = 0 :=
    if_neg fun both => both.1 rfl
  simp only [respond, choice, filled, Bool.false_and, Bool.false_eq_true, if_false, if_true, looped,
    needNull, pending, Bool.false_or]
  cases itself : endsItself reason last with
  | true => exact ⟨_, final, none, rfl, rfl, sent, by simp⟩
  | false =>
      refine ⟨_, final, _, rfl, ?_, sent, ?_⟩
      · exact sendNull_calls ..
      · exact (sendNull_isSome ..).trans (and_iff_right rfl).symm

theorem no_release {calls : List DriverCall} (none' : calls.countP DriverCall.isRelease = 0)
    {tids nFrames : Nat} {reason : Reason} {moreData : Bool} :
    .release tids nFrames reason moreData ∉ calls :=
  fun inside => List.countP_eq_zero.mp none' _ inside rfl

/-- A frame of a list is the last one, or others follow. -/
theorem last_or_before {α : Type} {init done rest : List α} {last a : α}
    (split : init ++ [last] = done ++ a :: rest) :
    rest = [] ∧ a = last ∨ rest ≠ [] ∧ a ∈ init := by
  rcases List.eq_nil_or_concat rest with rfl | ⟨before, final, rfl⟩
  · exact .inl ⟨rfl, (List.singleton_inj.mp (List.append_inj' split rfl).2).symm⟩
  · rw [List.concat_eq_append, ← List.cons_append, ← List.append_assoc] at split
    have same := (List.append_inj' split rfl).1
    refine .inr ⟨by simp, ?_⟩
    rw [same]
    exact List.mem_append_right _ (.head _)

section Cases

variable {env : Surroundings} {before after : StaInfo} {nFrames : Nat} {ignoredAcs : UInt8}
  {reason : Reason} {calls : List DriverCall} {null : Option Null}
  (left : Left before after nFrames ignoredAcs) (none' : driverTids before ignoredAcs acs = 0)
  (quiet : calls.countP DriverCall.isRelease = 0)
include left none' quiet

/-- No frame is there, or none may be taken. -/
theorem truthful_nothing_iff (nothing : (waiting before ignoredAcs acs).take nFrames = [])
    (sends : null.isSome = true ↔ CanSendNull env) :
    Truthful before after nFrames ignoredAcs reason ⟨calls, [], null⟩ ↔
      (NeedsNull before nFrames ignoredAcs reason → CanSendNull env) ∧
        ¬ Jumps before nFrames ignoredAcs ∧ ¬ Forgets before nFrames ignoredAcs reason := by
  have needs : NeedsNull before nFrames ignoredAcs reason :=
    ⟨none', by rw [nothing]; exact nofun⟩
  have room : nFrames = 0 ∨ waiting before ignoredAcs acs = [] := List.take_eq_nil_iff.mp nothing
  have jumps : ¬ Jumps before nFrames ignoredAcs := by
    rintro ⟨-, ac, higher, inside, serves, serves', some', filled, less⟩
    rcases room with rfl | empty
    · exact absurd less (Nat.not_lt_zero _)
    · exact waiting_ne_nil.mpr ⟨ac, every_ac ac, serves, filled⟩ empty
  have forgets : ¬ Forgets before nFrames ignoredAcs reason := by
    rintro ⟨-, all, ⟨skb, last, -⟩, -⟩
    rw [List.take_of_length_le all] at nothing
    rw [nothing] at last
    cases last
  constructor
  · intro truthful
    refine ⟨fun _ => sends.mp ?_, jumps, forgets⟩
    have once := truthful.ends.once
    simp only [quiet, List.countP_nil] at once
    cases null with
    | none => cases once
    | some null => rfl
  · rintro ⟨can, -, -⟩
    have sent := sends.mpr (can needs)
    refine ⟨⟨Nat.zero_le _, fun _ _ _ _ call => absurd call (no_release quiet)⟩,
      ⟨List.nil_prefix, (order_iff left none').mpr jumps,
        fun _ _ _ _ call => absurd call (no_release quiet)⟩, ⟨?_, nofun⟩,
      ⟨?_, fun _ _ _ _ call => absurd call (no_release quiet)⟩⟩
    · obtain ⟨null, rfl⟩ := Option.isSome_iff_exists.mp sent
      simp only [quiet]
      rfl
    · intro done f rest split
      cases done <;> cases split

section Frames

variable {init : List TxSkb} {last : TxSkb} {final : Sent}
  (taken : (waiting before ignoredAcs acs).take nFrames = init ++ [last])

omit left quiet in
include taken in
/-- A null frame is needed if the last frame cannot end the period itself. -/
theorem needsNull_iff :
    NeedsNull before nFrames ignoredAcs reason ↔ endsItself reason last = false := by
  rw [NeedsNull, taken, List.getLast?_concat, and_iff_right none']
  exact ⟨fun all => all last rfl, fun not skb same => by cases same; exact not⟩

omit left quiet in
include taken in
theorem forgets_iff : Forgets before nFrames ignoredAcs reason ↔
    (waiting before ignoredAcs acs).length ≤ nFrames ∧ endsItself reason last = true ∧
      ∃ ac, served ignoredAcs ac = true ∧ held before.state ac ≠ 0 := by
  rw [Forgets, and_iff_right none']
  refine and_congr_right fun all => and_congr_left fun _ => ?_
  rw [List.take_of_length_le all] at taken
  rw [taken, List.getLast?_concat]
  exact ⟨fun ⟨skb, same, itself⟩ => by cases same; exact itself,
    fun itself => ⟨last, rfl, itself⟩⟩

omit left none' quiet in
/-- The frames before the last one do not end the period. -/
theorem not_ends_of_init (fresh : ∀ skb ∈ init, Unmarked skb) :
    ∀ f ∈ init.map (fun skb => (⟨handed true skb, false⟩ : Sent)), f.ends = false := by
  intro f inside
  obtain ⟨skb, listed, rfl⟩ := List.mem_map.mp inside
  rw [Sent.ends, handed_flags (fresh skb listed)]
  rfl

omit left none' in
/-- The last frame or a null frame ends the period. -/
theorem endsOnce_iff (fresh : ∀ skb ∈ init, Unmarked skb)
    (sent : LastSent reason (ieee80211StaPsMoreData after ignoredAcs reason 0) last final)
    (sends : null.isSome = true ↔ endsItself reason last = false ∧ CanSendNull env) :
    (init.map (fun skb => (⟨handed true skb, false⟩ : Sent)) ++ [final]).countP Sent.ends +
        null.toList.length + calls.countP DriverCall.isRelease = 1 ↔
      (endsItself reason last = false → CanSendNull env) := by
  rw [List.countP_append, List.countP_eq_zero.mpr fun f inside => by
    rw [not_ends_of_init fresh f inside]; exact Bool.false_ne_true, List.countP_singleton,
    sent.ends, quiet]
  cases itself : endsItself reason last with
  | true =>
      have nobody : null = none := by
        refine Option.not_isSome_iff_eq_none.mp fun some' => ?_
        exact Bool.true_eq_false.mp (itself.symm.trans (sends.mp some').1)
      rw [nobody]
      exact iff_of_true rfl nofun
  | false =>
      rw [itself, and_iff_right rfl] at sends
      rw [forall_prop_of_true rfl, ← sends]
      cases null with
      | none => exact iff_of_false nofun Bool.false_ne_true
      | some null => exact iff_of_true rfl rfl

omit left none' quiet in
/-- The bit of the frames before the last one is set, and so it is the last one that decides. -/
theorem moreData_frames_iff :
    (∀ done f rest,
        init.map (fun skb => (⟨handed true skb, false⟩ : Sent)) ++ [final] = done ++ f :: rest →
          (f.moreData ↔ rest ≠ [] ∨ null.isSome = true ∨ StillBuffered after ignoredAcs)) ↔
      (final.moreData ↔ null.isSome = true ∨ StillBuffered after ignoredAcs) := by
  constructor
  · intro all
    have atEnd := all _ final [] rfl
    rwa [or_iff_right (not_not_intro rfl)] at atEnd
  · intro atEnd done f rest split
    rcases last_or_before split with ⟨rfl, rfl⟩ | ⟨further, inside⟩
    · rwa [or_iff_right (not_not_intro rfl)]
    · obtain ⟨skb, -, rfl⟩ := List.mem_map.mp inside
      exact iff_of_true ((setMoreData_iff true _).mpr rfl) (.inl further)

omit quiet in
include taken in
/-- The bit of the last frame is right unless what the driver holds is forgotten. -/
theorem moreData_final_iff
    (sent : LastSent reason (ieee80211StaPsMoreData after ignoredAcs reason 0) last final)
    (sends : null.isSome = true ↔ endsItself reason last = false ∧ CanSendNull env)
    (can : endsItself reason last = false → CanSendNull env) :
    (final.moreData ↔ null.isSome = true ∨ StillBuffered after ignoredAcs) ↔
      ¬ Forgets before nFrames ignoredAcs reason := by
  have more : ieee80211StaPsMoreData after ignoredAcs reason 0 = true ↔
      nFrames < (waiting before ignoredAcs acs).length := by
    rw [moreData_iff, left_iff_more left none']
    exact or_iff_right fun several => absurd several.2 (by decide)
  have still : StillBuffered after ignoredAcs ↔ nFrames < (waiting before ignoredAcs acs).length ∨
      ∃ ac, served ignoredAcs ac = true ∧ held before.state ac ≠ 0 := by
    rw [← left_iff_more left none', StillBuffered, left.held, ← exists_or]
    exact exists_congr fun ac => and_or_left
  rw [sent.moreData, sends, still, forgets_iff none' taken, more, ← Nat.not_lt]
  cases itself : endsItself reason last with
  | true =>
      simp only [Bool.true_eq_false, false_and, false_or, or_false, true_and]
      by_cases room : nFrames < (waiting before ignoredAcs acs).length <;> simp [room]
  | false =>
      exact iff_of_true (iff_of_true (.inr rfl) (.inl ⟨rfl, can itself⟩)) fun all =>
        Bool.false_ne_true all.2.1

/-- Frames are taken from the queues. -/
theorem truthful_frames_iff
    (taken : (waiting before ignoredAcs acs).take nFrames = init ++ [last])
    (fresh : ∀ skb ∈ init, Unmarked skb)
    (sent : LastSent reason (ieee80211StaPsMoreData after ignoredAcs reason 0) last final)
    (sends : null.isSome = true ↔ endsItself reason last = false ∧ CanSendNull env) :
    Truthful before after nFrames ignoredAcs reason
        ⟨calls, init.map (fun skb => ⟨handed true skb, false⟩) ++ [final], null⟩ ↔
      (NeedsNull before nFrames ignoredAcs reason → CanSendNull env) ∧
        ¬ Jumps before nFrames ignoredAcs ∧ ¬ Forgets before nFrames ignoredAcs reason := by
  have once := endsOnce_iff quiet fresh sent sends
  have lastMore := moreData_final_iff left none' taken sent sends
  rw [needsNull_iff none' taken]
  constructor
  · intro truthful
    have can := once.mp truthful.ends.once
    exact ⟨can, (order_iff left none').mp truthful.order.queues,
      (lastMore can).mp (moreData_frames_iff.mp truthful.moreData.frames)⟩
  · rintro ⟨can, jumps, kept⟩
    refine ⟨⟨?_, fun _ _ _ _ call => absurd call (no_release quiet)⟩,
      ⟨?_, (order_iff left none').mpr jumps,
        fun _ _ _ _ call => absurd call (no_release quiet)⟩, ⟨once.mpr can, ?_⟩,
      ⟨moreData_frames_iff.mpr ((lastMore can).mpr kept),
        fun _ _ _ _ call => absurd call (no_release quiet)⟩⟩
    · have length := congrArg List.length taken
      simp only [List.length_take, List.length_append, List.length_map, List.length_singleton]
        at length ⊢
      omega
    · have same : (init.map (fun skb => (⟨handed true skb, false⟩ : Sent)) ++ [final]).map
          (fun f => content f.skb) =
          ((waiting before ignoredAcs acs).take nFrames).map content := by
        rw [taken, List.map_append, List.map_append, List.map_map, List.map_singleton,
          List.map_singleton, sent.content]
        exact congrArg (· ++ _) (List.map_congr_left fun skb _ => handed_content true skb)
      rw [same]
      exact (List.take_prefix _ _).map content
    · intro uapsd f inside marked
      rcases List.mem_append.mp inside with before' | atEnd
      · rw [not_ends_of_init fresh f before'] at marked
        cases marked
      · rw [List.mem_singleton.mp atEnd] at marked ⊢
        exact sent.eosp uapsd marked

end Frames

end Cases

/-! ## The response as a whole -/

/-- The response to a poll or a trigger frame of the station `s` is as it is to be. -/
def TellsTruth (env : Surroundings) (priority : TxSkb → Nat) (l : Local) (s nFrames : Nat)
    (ignoredAcs : UInt8) (reason : Reason) : Prop :=
  ∃ before after, l.staList[s]? = some before ∧
    (staPsDeliverResponse env priority l s nFrames ignoredAcs reason).1.staList[s]? = some after ∧
    Truthful before after nFrames ignoredAcs reason
      (staPsDeliverResponse env priority l s nFrames ignoredAcs reason).2

/-- A frame is buffered without the mark of an earlier service period. -/
theorem unmarked_of_buffered {l : Local} {tx : TxData}
    (queued : (ieee80211TxHUnicastPsBuf l tx).2.1 = .queued) :
    Unmarked (ieee80211TxHUnicastPsBuf l tx).2.2 := by
  have cleared : ∀ flags : UInt32, flags &&& ~~~txTemporaryFlags &&& txStatusEosp = 0 := by
    intro flags
    rw [UInt32.and_assoc, show ~~~txTemporaryFlags &&& txStatusEosp = 0 from by decide,
      UInt32.and_zero]
  revert queued
  rw [ieee80211TxHUnicastPsBuf]
  split
  · exact nofun
  · split
    · exact nofun
    · split
      · split
        · exact nofun
        · dsimp only
          split
          · exact nofun
          · exact fun _ => cleared _
      · exact nofun

/-- The response is as it is to be exactly if a null frame that is needed can be sent and the frames
of the driver are not forgotten over those of the queues. -/
theorem tellsTruth_iff (env : Surroundings) (priority : TxSkb → Nat) {l : Local} {s : Nat}
    {sta : StaInfo} (found : l.staList[s]? = some sta)
    (unmarked : ∀ ac, ∀ skb ∈ queue sta ac, Unmarked skb) (nFrames : Nat) (ignoredAcs : UInt8)
    (reason : Reason) :
    TellsTruth env priority l s nFrames ignoredAcs reason ↔
      (NeedsNull sta nFrames ignoredAcs reason → CanSendNull env) ∧
        ¬ Jumps sta nFrames ignoredAcs ∧ ¬ Forgets sta nFrames ignoredAcs reason := by
  obtain ⟨after, there, left, response⟩ := staPsDeliverResponse_eq env priority nFrames
    ignoredAcs reason found
  have only : TellsTruth env priority l s nFrames ignoredAcs reason ↔
      Truthful sta after nFrames ignoredAcs reason
        (staPsDeliverResponse env priority l s nFrames ignoredAcs reason).2 := by
    constructor
    · rintro ⟨before', after', found', there', truthful⟩
      cases found.symm.trans found'
      cases there.symm.trans there'
      exact truthful
    · exact fun truthful => ⟨sta, after, found, there, truthful⟩
  rw [only, response]
  by_cases none' : driverTids sta ignoredAcs acs = 0
  · rw [if_pos none', none']
    rcases List.eq_nil_or_concat ((waiting sta ignoredAcs acs).take nFrames) with
      nothing | ⟨init, last, taken⟩
    · obtain ⟨calls, null, responds, quiet, sends⟩ := respond_nothing env priority after nFrames
        ignoredAcs reason
      rw [nothing, responds]
      exact truthful_nothing_iff left none' quiet nothing sends
    · rw [List.concat_eq_append] at taken
      have fresh : ∀ skb ∈ init ++ [last], Unmarked skb := by
        intro skb inside
        rw [← taken] at inside
        obtain ⟨ac, -, queued⟩ := List.mem_flatMap.mp (List.mem_of_mem_take inside)
        exact unmarked ac skb queued
      obtain ⟨fresh, fresh'⟩ := List.forall_mem_append.mp fresh
      obtain ⟨calls, final, null, responds, quiet, sent, sends⟩ := respond_frames env priority after
        nFrames ignoredAcs reason init (fresh' last (.head _))
      rw [taken, responds]
      exact truthful_frames_iff left none' quiet taken fresh sent sends
  · rw [if_neg none', respond_driver env priority after none']
    refine iff_of_true (truthful_driver left none' _ rfl)
      ⟨fun needs => absurd needs.1 none', ?_, ?_⟩
    · exact fun jumps => none' jumps.1
    · exact fun forgets => none' forgets.1

/-- A QoS data frame waits in the highest category. -/
def dozer (driverBufferedTids : Nat) : StaInfo :=
  { sdata := 0
    state :=
      { psSta := true, uapsdQueues := 0x0f, maxSp := 1, driverBufferedTids := driverBufferedTids }
    psTxBuf := { PerAc.replicate [] with vo := [⟨0x0288, .vo, 0, 0, 0, 0, 0⟩] } }

def dozing (driverBufferedTids : Nat) : Local :=
  { interfaces := [⟨.ap {} true, 100, 0⟩], staList := [dozer driverBufferedTids] }

def accessPoint : Surroundings := ⟨false, true, true, true⟩

theorem tellsTruth_iff_alone : TellsTruth accessPoint (fun _ => 7) (dozing 0) 0 2 0xf0 .uapsd := by
  have unmarked : ∀ ac, ∀ skb ∈ queue (dozer 0) ac, Unmarked skb := fun ac => by
    cases ac <;> decide
  have nothing : ∀ ac, held (dozer 0).state ac = 0 := fun ac => by cases ac <;> decide
  refine (tellsTruth_iff accessPoint (fun _ => 7) (l := dozing 0) rfl unmarked 2 0xf0 .uapsd).mpr
    ⟨fun _ => ⟨rfl, rfl, rfl⟩, ?_, ?_⟩
  · rintro ⟨-, ac, higher, -, -, -, some', -⟩
    exact some' (nothing higher)
  · rintro ⟨-, -, -, ac, -, some'⟩
    exact some' (nothing ac)

/-- The frame says that there is no more, although the driver has frames of a lower category. -/
theorem not_tellsTruth : ¬ TellsTruth accessPoint (fun _ => 7) (dozing 1) 0 2 0xf0 .uapsd := by
  rintro ⟨before, after, -, there, truthful⟩
  have run : (staPsDeliverResponse accessPoint (fun _ => 7) (dozing 1) 0 2 0xf0 .uapsd).2 =
      ⟨[.allow 0x80 1 .uapsd false], [⟨⟨0x0288, .vo, 0, 0x10020001, 0, 0, 0⟩, true⟩], none⟩ := by
    decide +kernel
  have kept : ((staPsDeliverResponse accessPoint (fun _ => 7) (dozing 1) 0 2 0xf0
      .uapsd).1.staList[0]?.map fun sta => held sta.state .be) = some 1 := by decide +kernel
  rw [there, Option.map_some, Option.some.injEq] at kept
  rw [run] at truthful
  have more := (truthful.moreData.frames [] _ [] rfl).mpr
    (.inr (.inr ⟨.be, rfl, .inr (kept ▸ by decide)⟩))
  exact more rfl

end Iwlwifi.PsDeliver
