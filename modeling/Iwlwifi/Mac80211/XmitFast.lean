import Iwlwifi.Mac80211.AmsduAggregate
import Iwlwifi.Mac80211.BuildHdr

/-!
# The fast transmit path against the normal one

`ieee80211_xmit_fast` of `net/mac80211/tx.c` up to the frame it queues, and the comparison of
that frame with the one `ieee80211_build_hdr` makes of the same Ethernet frame for the same
station.  Both are compared address by address: `addressing_eq` says where the normal path puts
the addresses that the fast path patches in.
-/

namespace Iwlwifi.Xmit

open Lib

/-! ## `ieee80211_xmit_fast` -/

/-- What a call finds besides the station and its `fast_tx`. -/
structure FastCall where
  /-- `SKBTX_WIFI_STATUS` -/
  wifiStatus : Bool
  /-- The aggregation session of a TID, if there is one: whether it is operational. -/
  tidTx : Nat → Option Bool
  /-- The frame is not shared, or could be cloned. -/
  unshared : Bool
  resized : Bool
  /-- `ieee80211_tx_h_rate_ctrl` gives `TX_CONTINUE`, or the hardware has rate control. -/
  rateCtrl : Bool
  amsdu : AmsduCall
  flow : TxFlow

inductive FastVerdict
  | notTaken
  | dropped
  | aggregated (flow : TxFlow)
  | queued (frame : Skb)

/-- `ieee80211_xmit_fast`, which returns false if it says `notTaken`. -/
def xmitFast (call : FastCall) (sdata : SubIfData) (fast : FastTx) (skb : TxSkb) : FastVerdict :=
  let ethertype := be16At skb.bytes 12
  if ethertype = sdata.controlPortProtocol then .notTaken
  else if ethertype < 0x600 then .notTaken
  else if call.wifiStatus then .notTaken
  else if fast.isQos && call.tidTx (skb.priority % 8) == some false then .notTaken
  else if !call.unshared then .dropped
  else
    let (flow, taken) := amsduAggregate call.amsdu fast call.flow skb
    if fast.isQos && taken then .aggregated flow
    else if !call.resized then .dropped
    else if !call.rateCtrl then .dropped
    else .queued (fastFrame fast skb.bytes skb.priority)

/-- The frame that is queued is the one with the cached header, and not of a kind that the path
leaves to the other one. -/
theorem of_xmitFast {call : FastCall} {sdata : SubIfData} {fast : FastTx} {skb : TxSkb}
    {frame : Skb} (queued : xmitFast call sdata fast skb = .queued frame) :
    frame = fastFrame fast skb.bytes skb.priority ∧
      be16At skb.bytes 12 ≠ sdata.controlPortProtocol ∧ 0x600 ≤ be16At skb.bytes 12 := by
  unfold xmitFast at queued
  extract_lets ethertype at queued
  by_cases control : ethertype = sdata.controlPortProtocol
  · rw [if_pos control] at queued
    cases queued
  by_cases small : ethertype < 0x600
  · rw [if_neg control, if_pos small] at queued
    cases queued
  refine ⟨?_, control, Nat.not_lt.mp small⟩
  rw [if_neg control, if_neg small] at queued
  rcases answer : amsduAggregate call.amsdu fast call.flow skb with ⟨flow, taken⟩
  simp only [answer] at queued
  iterate 6 (split at queued; · cases queued)
  cases queued
  rfl

/-! ## The two frames -/

/-- The two frames agree in frame control but for the Protected bit, in the addresses and in all
that is behind the header.  Behind the header of the fast path is the space for the IV. -/
structure SameFrame (fast : FastTx) (frame built : Skb) : Prop where
  frameControl : frame.frameControl &&& 0xbfff = built.frameControl
  addr1 : frame.addr1 = built.addr1
  addr2 : frame.addr2 = built.addr2
  addr3 : window frame 16 6 = window built 16 6
  addr4 : ieee80211HasA4 built.frameControl = true → frame.addr4 = built.addr4
  body : frame.drop fast.machdrLen = built.drop built.hdrlen

section Addresses

variable {env : HdrEnv} {sdata : SubIfData} {sta : TxSta} {skb : Skb} {t : Template}
  {plan : HdrPlan}

/-- What the fast path puts at the place of an address. -/
def addressAt (t : Template) (skb : Skb) (ofs : Nat) : List UInt8 :=
  if ofs = t.daOffs then window skb 0 6
  else if ofs = t.saOffs then window skb 6 6
  else window t.hdr ofs 6

theorem window_emptyHdr {ofs : Nat} (addr : EtherAddr) (inside : ofs + 6 ≤ 56) :
    window (overwrite emptyHdr ofs addr.val) ofs 6 = addr.val := by
  have self : window (overwrite emptyHdr ofs addr.val) ofs addr.val.length = addr.val := by
    refine window_overwrite_self ?_
    rw [addr.property]
    exact inside
  rwa [addr.property] at self

/-- The two addresses in front of a header with four. -/
theorem window_fourAddr (ra ta : EtherAddr) :
    window (overwrite (overwrite emptyHdr 4 ra.val) 10 ta.val) 4 6 = ra.val ∧
      window (overwrite (overwrite emptyHdr 4 ra.val) 10 ta.val) 10 6 = ta.val := by
  have length : (overwrite emptyHdr 4 ra.val).length = 56 := by
    rw [overwrite_length]
    · rfl
    · rw [ra.property]
      decide
  have fits : 10 + ta.val.length ≤ (overwrite emptyHdr 4 ra.val).length := by
    rw [length, ta.property]
    decide
  have self := window_overwrite_self fits
  rw [ta.property] at self
  refine ⟨?_, self⟩
  rw [window_overwrite_before fits (by decide), window_emptyHdr ra (by decide)]

/-- A plan is the one that a template stands for. -/
structure PlanOf (t : Template) (skb : Skb) (plan : HdrPlan) : Prop where
  fc : plan.fc = t.fc
  meshHdr : plan.meshHdr = []
  length : plan.addr4.length + 24 = t.len
  places : ∀ place ∈ plan.places, place.2.length = 6 ∧ place.2 = addressAt t skb place.1

/-- A plan with three addresses. -/
theorem PlanOf.three {t : Template} {fc band : Nat} {addr1 addr2 addr3 : List UInt8}
    (sameFc : fc = t.fc) (length : t.len = 24)
    (first : addr1.length = 6 ∧ addr1 = addressAt t skb 4)
    (second : addr2.length = 6 ∧ addr2 = addressAt t skb 10)
    (third : addr3.length = 6 ∧ addr3 = addressAt t skb 16) :
    PlanOf t skb { fc := fc, addr1 := addr1, addr2 := addr2, addr3 := addr3, band := band } := by
  refine ⟨sameFc, rfl, length.symm, ?_⟩
  simp only [HdrPlan.places, List.cons_append, List.nil_append, if_true, List.forall_mem_cons]
  exact ⟨first, second, third, List.forall_mem_nil _⟩

theorem PlanOf.four {t : Template} {fc band : Nat} {addr1 addr2 addr3 addr4 : List UInt8}
    (sameFc : fc = t.fc) (length : t.len = 30)
    (first : addr1.length = 6 ∧ addr1 = addressAt t skb 4)
    (second : addr2.length = 6 ∧ addr2 = addressAt t skb 10)
    (third : addr3.length = 6 ∧ addr3 = addressAt t skb 16)
    (fourth : addr4.length = 6 ∧ addr4 = addressAt t skb 24) :
    PlanOf t skb { fc := fc, addr1 := addr1, addr2 := addr2, addr3 := addr3, addr4 := addr4
                   band := band } := by
  have sent : addr4 ≠ [] := by
    rintro rfl
    exact absurd fourth.1 (by decide)
  refine ⟨sameFc, rfl, ?_, ?_⟩
  · rw [length, fourth.1]
  · simp only [HdrPlan.places, List.cons_append, List.nil_append, if_neg sent,
      List.forall_mem_cons]
    exact ⟨first, second, third, fourth, List.forall_mem_nil _⟩

theorem of_map_bandOf {conf : Option Nat} {toPlan : Nat → HdrPlan}
    (planned : (bandOf conf).map toPlan = .ok plan) : ∃ band, plan = toPlan band := by
  rcases conf with _ | band
  · cases planned
  · cases planned
    exact ⟨band, rfl⟩

/-- The normal path plans the frame control and the addresses of the fast path. -/
theorem addressing_eq (cases : template sdata sta = some t)
    (notControl : be16At skb 12 ≠ sdata.controlPortProtocol) (long : 12 ≤ skb.length)
    (planned : addressing env sdata (some sta) skb = .ok plan) : PlanOf t skb plan := by
  have da : (window skb 0 6).length = 6 := window_length (by omega)
  have sa : (window skb 6 6).length = 6 := window_length (by omega)
  have regular : (be16At skb 12 != sdata.controlPortProtocol) = true := by
    rw [bne_iff_ne]
    exact notControl
  have direct (bssid : EtherAddr) (band : Nat) :
      PlanOf ⟨ieee80211FtypeData, overwrite emptyHdr 16 bssid.val, 4, 10, 24⟩ skb
        { fc := ieee80211FtypeData, addr1 := window skb 0 6, addr2 := window skb 6 6
          addr3 := bssid.val, band := band } :=
    .three rfl rfl ⟨da, rfl⟩ ⟨sa, rfl⟩
      ⟨bssid.property, (window_emptyHdr bssid (by decide)).symm⟩
  have fromAp (band : Nat) :
      PlanOf ⟨ieee80211FtypeData ||| fctlFromds, overwrite emptyHdr 10 sdata.vifAddr.val, 4, 16,
        24⟩ skb
        { fc := ieee80211FtypeData ||| fctlFromds, addr1 := window skb 0 6
          addr2 := sdata.vifAddr.val, addr3 := window skb 6 6, band := band } :=
    .three rfl rfl ⟨da, rfl⟩
      ⟨sdata.vifAddr.property, (window_emptyHdr sdata.vifAddr (by decide)).symm⟩ ⟨sa, rfl⟩
  have toAp (band : Nat) :
      PlanOf ⟨ieee80211FtypeData ||| fctlTods, overwrite emptyHdr 4 sdata.mgdBssid.val, 16, 10,
        24⟩ skb
        { fc := ieee80211FtypeData ||| fctlTods, addr1 := sdata.mgdBssid.val
          addr2 := window skb 6 6, addr3 := window skb 0 6, band := band } :=
    .three rfl rfl ⟨sdata.mgdBssid.property, (window_emptyHdr sdata.mgdBssid (by decide)).symm⟩
      ⟨sa, rfl⟩ ⟨da, rfl⟩
  have fourAddr (ra : EtherAddr) (band : Nat) :
      PlanOf ⟨ieee80211FtypeData ||| (fctlFromds ||| fctlTods),
        overwrite (overwrite emptyHdr 4 ra.val) 10 sdata.vifAddr.val, 16, 24, 30⟩ skb
        { fc := ieee80211FtypeData ||| (fctlFromds ||| fctlTods), addr1 := ra.val
          addr2 := sdata.vifAddr.val, addr3 := window skb 0 6, addr4 := window skb 6 6
          band := band } :=
    .four rfl rfl ⟨ra.property, (window_fourAddr ra sdata.vifAddr).1.symm⟩
      ⟨sdata.vifAddr.property, (window_fourAddr ra sdata.vifAddr).2.symm⟩ ⟨da, rfl⟩ ⟨sa, rfl⟩
  rw [template] at cases
  rw [addressing] at planned
  cases type : sdata.vifType
  all_goals simp only [type, regular, Bool.and_true] at cases planned
  case adhoc =>
    cases cases
    rcases of_map_bandOf planned with ⟨band, rfl⟩
    exact direct sdata.ibssBssid band
  case station =>
    split at cases
    · next tdls =>
        rw [if_pos tdls] at planned
        cases cases
        rcases of_map_bandOf planned with ⟨band, rfl⟩
        exact direct sdata.mgdBssid band
    · next notTdls =>
        rw [if_neg notTdls] at planned
        split at cases
        · next use4addr =>
            rw [if_pos use4addr] at planned
            cases cases
            rcases of_map_bandOf planned with ⟨band, rfl⟩
            exact fourAddr sdata.mgdBssid band
        · next threeAddr =>
            rw [if_neg threeAddr] at planned
            cases cases
            rcases of_map_bandOf planned with ⟨band, rfl⟩
            exact toAp band
  case apVlan =>
    split at cases
    · next use4addr =>
        rw [if_pos use4addr] at planned
        cases cases
        rcases of_map_bandOf planned with ⟨band, rfl⟩
        exact fourAddr sta.addr band
    · next threeAddr =>
        rw [if_neg threeAddr] at planned
        cases cases
        rcases of_map_bandOf planned with ⟨band, rfl⟩
        exact fromAp band
  case ap =>
    cases cases
    rcases of_map_bandOf planned with ⟨band, rfl⟩
    exact fromAp band
  all_goals cases cases

end Addresses

/-! ## The frame of the fast path -/

section Installed

variable {loc : TxLocal} {sdata : SubIfData} {sta : TxSta} {allocated : Bool} {fast : FastTx}
  {skb : Skb} (priority : Nat)

/-- The header of the fast path holds the addresses of the template, where they are sent. -/
theorem window_patched_of_installed
    (installed : checkFastXmit loc sdata sta allocated none = some fast)
    (long : 12 ≤ skb.length) :
    ∃ t, template sdata sta = some t ∧
      Skb.frameControl (fast.patched skb priority) =
        finalFc t.fc sta.wme (txKey sdata sta).isSome ∧
      t.len ≤ fast.machdrLen ∧
      ∀ ofs ∈ [4, 10, 16, 24], ofs + 6 ≤ t.len →
        window (fast.patched skb priority) ofs 6 = addressAt t skb ofs := by
  have shaped := shaped_of_checkFastXmit installed
  obtain ⟨t, iv, cases, small, -, -, hdrLen, saOffs, daOffs, hdr⟩ := of_checkFastXmit installed
  obtain ⟨frameControl, base, -⟩ := frameControl_of_installed cases small hdr
  have len := len_of_template cases
  obtain ⟨length, shape⟩ := of_template cases
  have most := shaped.machdrLen_add
  refine ⟨t, cases, ?_, ?_, ?_⟩
  · rw [frameControl_patched shaped priority long, frameControl]
  · have room := shaped.room
    rw [base] at room
    omega
  intro ofs member sent
  rw [addressAt]
  split
  · next here =>
      rw [here, ← daOffs]
      exact patched_da shaped priority long
  · next notDa =>
      split
      · next here =>
          rw [here, ← saOffs]
          exact patched_sa shaped priority long
      · next notSa =>
          have inner : (overwrite t.hdr 0
              (le16Bytes (finalFc t.fc sta.wme (txKey sdata sta).isSome))).length = 56 := by
            rw [overwrite_le16_length _ (by omega), length]
          have hdrFits : (if sta.wme then t.len + 2 else t.len) + iv + 6 ≤ 56 := by
            split <;> omega
          have atLeast : t.len ≤ (if sta.wme then t.len + 2 else t.len) := by split <;> omega
          simp only [List.mem_cons, List.not_mem_nil, or_false] at member
          rw [patched_elsewhere shaped priority long (by omega) (by omega) (by omega), hdr,
            window_overwrite_before (by rw [inner]; exact hdrFits) (by omega),
            window_overwrite_behind]
          · change 0 + 2 ≤ t.hdr.length
            omega
          · change 0 + 2 ≤ ofs
            omega

end Installed

/-! ## The frame of the normal path -/

/-- The frame control the normal path sends, and the header it calls for. -/
theorem plannedFc_of_template {sdata : SubIfData} {sta : TxSta} {t : Template}
    (cases : template sdata sta = some t) (wme keyed : Bool) :
    finalFc t.fc wme keyed &&& 0xbfff = (if wme then t.fc ||| ieee80211StypeQosData else t.fc) ∧
      (if wme then t.fc ||| ieee80211StypeQosData else t.fc) < 2 ^ 16 ∧
      ieee80211IsDataQos (if wme then t.fc ||| ieee80211StypeQosData else t.fc) = wme ∧
      ieee80211Hdrlen (if wme then t.fc ||| ieee80211StypeQosData else t.fc) =
        t.len + (if wme then 2 else 0) ∧
      (ieee80211HasA4 (if wme then t.fc ||| ieee80211StypeQosData else t.fc) = true →
        t.len = 30) := by
  obtain ⟨-, cases⟩ := of_template cases
  rcases cases with ⟨fc, -, -, len⟩ | ⟨fc, -, -, len⟩ | ⟨fc, -, -, len⟩ | ⟨fc, -, -, len⟩
  all_goals
    rw [fc, len]
    cases wme
    all_goals
      cases keyed
      all_goals decide

/-- The length of a planned header without the QoS control field. -/
theorem PlanOf.bytes_length {t : Template} {skb : Skb} {plan : HdrPlan} (planOf : PlanOf t skb plan)
    (fc : Nat) : (plan.bytes fc).length = t.len := by
  have one := (planOf.places (4, plan.addr1) (by simp [HdrPlan.places])).1
  have two := (planOf.places (10, plan.addr2) (by simp [HdrPlan.places])).1
  have three := (planOf.places (16, plan.addr3) (by simp [HdrPlan.places])).1
  rw [← planOf.length, HdrPlan.bytes]
  simp only [List.length_append, le16Bytes, List.length_cons, List.length_nil] at one two three ⊢
  omega

/-- A frame that is built and the template of the station. -/
theorem built_eq {env : HdrEnv} {sdata : SubIfData} {sta : TxSta} {skb built : Skb} {band : Nat}
    {t : Template} (cases : template sdata sta = some t)
    (notControl : be16At skb 12 ≠ sdata.controlPortProtocol) (long : 12 ≤ skb.length)
    (produced : buildHdr env sdata (some sta) skb = .ok (built, band)) :
    Skb.frameControl built = (if sta.wme then t.fc ||| ieee80211StypeQosData else t.fc) ∧
      (∀ ofs ∈ [4, 10, 16, 24], ofs + 6 ≤ t.len → window built ofs 6 = addressAt t skb ofs) ∧
      built.drop built.hdrlen =
        (encapsulation (be16At skb 12)).1 ++ skb.drop (encapsulation (be16At skb 12)).2 := by
  rcases of_buildHdr produced with ⟨plan, planned, spliced⟩
  have planOf := addressing_eq cases notControl long planned
  rcases plannedFc_of_template cases sta.wme false with ⟨-, small, qos, hdrlen, -⟩
  rw [planOf.fc, planOf.meshHdr, List.nil_append, qos] at spliced
  have frameControl : Skb.frameControl built =
      (if sta.wme then t.fc ||| ieee80211StypeQosData else t.fc) := by
    rw [spliced, HdrPlan.bytes]
    simp only [List.append_assoc]
    exact frameControl_le16 small _
  refine ⟨frameControl, ?_, ?_⟩
  · intro ofs member sent
    have place : ∃ addr, (ofs, addr) ∈ plan.places := by
      simp only [List.mem_cons, List.not_mem_nil, or_false] at member
      rcases member with rfl | rfl | rfl | rfl
      · exact ⟨plan.addr1, by simp [HdrPlan.places]⟩
      · exact ⟨plan.addr2, by simp [HdrPlan.places]⟩
      · exact ⟨plan.addr3, by simp [HdrPlan.places]⟩
      · have filled : plan.addr4 ≠ [] := by
          intro unsent
          have length := planOf.length
          rw [unsent, List.length_nil] at length
          omega
        exact ⟨plan.addr4, by simp [HdrPlan.places, filled]⟩
    rcases place with ⟨addr, member⟩
    rw [spliced, HdrPlan.window_bytes (fun p inside => (planOf.places p inside).1) member]
    exact (planOf.places (ofs, addr) member).2
  · rw [Skb.hdrlen, frameControl, hdrlen, spliced, ← List.append_assoc]
    refine List.drop_left' ?_
    rw [List.length_append, planOf.bytes_length]
    congr 1
    split <;> rfl

/-- Exactly two EtherTypes are encapsulated otherwise on the normal path. -/
theorem encapsulation_eq_iff (skb : Skb) {ethertype : Nat} (large : 0x600 ≤ ethertype) :
    rfc1042Header ++ skb.drop 12 =
        (encapsulation ethertype).1 ++ skb.drop (encapsulation ethertype).2 ↔
      ¬(ethertype = ethPAarp ∨ ethertype = ethPIpx) := by
  rw [encapsulation]
  split
  · next special =>
      refine ⟨fun same => ?_, fun not => absurd special not⟩
      exact absurd (List.append_cancel_right same) (by decide)
  · next regular =>
      exact ⟨fun _ => regular, fun _ => rfl⟩

/-- What the fast path queues is the frame the normal path builds, exactly if the EtherType is
none of the two that have a bridge tunnel header there. -/
theorem sameFrame_iff {loc : TxLocal} {sdata : SubIfData} {sta : TxSta} {allocated : Bool}
    {fast : FastTx} {call : FastCall} {env : HdrEnv} {skb : TxSkb} {frame built : Skb} {band : Nat}
    (installed : checkFastXmit loc sdata sta allocated none = some fast)
    (long : 14 ≤ skb.bytes.length)
    (queued : xmitFast call sdata fast skb = .queued frame)
    (produced : buildHdr env sdata (some sta) skb.bytes = .ok (built, band)) :
    SameFrame fast frame built ↔
      ¬(be16At skb.bytes 12 = ethPAarp ∨ be16At skb.bytes 12 = ethPIpx) := by
  have shaped := shaped_of_checkFastXmit installed
  have long' : 12 ≤ skb.bytes.length := by omega
  rcases of_xmitFast queued with ⟨frame_eq, notControl, large⟩
  rcases window_patched_of_installed skb.priority installed long' with
    ⟨t, cases, frameControl, most, addresses⟩
  rcases built_eq cases notControl long' produced with ⟨builtFc, builtAddresses, builtBody⟩
  rcases plannedFc_of_template cases sta.wme (txKey sdata sta).isSome with
    ⟨sameFc, -, -, -, fourth⟩
  have len := len_of_template cases
  have patched := patched_length shaped skb.priority long'
  rw [fastFrame_eq shaped skb.priority long'] at frame_eq
  have fc : frame.frameControl = finalFc t.fc sta.wme (txKey sdata sta).isSome := by
    rw [frame_eq, frameControl_append (by omega), frameControl]
  have body : frame.drop fast.machdrLen = rfc1042Header ++ skb.bytes.drop 12 := by
    rw [frame_eq]
    exact List.drop_left' patched
  have same (ofs : Nat) (member : ofs ∈ [4, 10, 16, 24]) (sent : ofs + 6 ≤ t.len) :
      window frame ofs 6 = window built ofs 6 := by
    rw [builtAddresses ofs member sent, ← addresses ofs member sent, frame_eq]
    exact window_append_left (by omega)
  rw [← encapsulation_eq_iff skb.bytes large, ← body, ← builtBody]
  refine ⟨fun same => same.body, fun sameBody => ⟨?_, ?_, ?_, ?_, ?_, sameBody⟩⟩
  · rw [fc, sameFc, builtFc]
  · exact same 4 (by decide) (by omega)
  · exact same 10 (by decide) (by omega)
  · exact same 16 (by decide) (by omega)
  · intro hasA4
    rw [builtFc] at hasA4
    have length := fourth hasA4
    exact same 24 (by decide) (by omega)

/-- A call for a frame alone in its flow. -/
def loneCall : FastCall := ⟨false, fun _ => none, true, true, true, openCall, ⟨[], 0⟩⟩

/-- Nothing fails, and there is no mesh. -/
def plainHdrEnv : HdrEnv :=
  ⟨⟨[0, 0, 0, 0, 0, 0], rfl⟩, 0, 0, 0, fun _ => none, fun _ => none, false, true, true⟩

/-- A frame of an EtherType with a few bytes. -/
def etherSkb (ethertype : Nat) : TxSkb :=
  ⟨[2, 0, 0, 0, 0, 3] ++ [2, 0, 0, 0, 0, 2] ++ be16Bytes ethertype ++ [1, 2, 3], 0, false, 0⟩

/-- The frame that the normal path builds. -/
def builtFrame (encaps : List UInt8) (ethertype : Nat) : Skb :=
  le16Bytes 0x0188 ++ [0, 0] ++ [2, 0, 0, 0, 0, 1] ++ [2, 0, 0, 0, 0, 2] ++ [2, 0, 0, 0, 0, 3] ++
    [0, 0] ++ [0, 0] ++ encaps ++ be16Bytes ethertype ++ [1, 2, 3]

theorem sameFrame_ipv4 :
    SameFrame qosFast (fastFrame qosFast (etherSkb 0x0800).bytes 0)
      (builtFrame rfc1042Header 0x0800) :=
  (@sameFrame_iff plainLocal openStation qosSta true qosFast loneCall plainHdrEnv (etherSkb 0x0800)
    _ _ 0 rfl (by decide) rfl rfl).mpr (by decide)

/-- The fast path sends an AppleTalk address resolution frame with the wrong LLC/SNAP header. -/
theorem not_sameFrame_aarp :
    checkFastXmit plainLocal openStation qosSta true none = some qosFast ∧
      xmitFast loneCall openStation qosFast (etherSkb 0x80f3) =
        .queued (fastFrame qosFast (etherSkb 0x80f3).bytes 0) ∧
      buildHdr plainHdrEnv openStation (some qosSta) (etherSkb 0x80f3).bytes =
        .ok (builtFrame bridgeTunnelHeader 0x80f3, 0) ∧
      ¬SameFrame qosFast (fastFrame qosFast (etherSkb 0x80f3).bytes 0)
        (builtFrame bridgeTunnelHeader 0x80f3) :=
  ⟨rfl, rfl, rfl, fun same => absurd same.body (by decide)⟩

end Iwlwifi.Xmit
