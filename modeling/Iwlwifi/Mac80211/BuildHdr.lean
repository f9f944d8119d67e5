import Iwlwifi.Mac80211.FastXmit

/-!
# The header built for each frame

`ieee80211_build_hdr` of `net/mac80211/tx.c`, which makes an 802.11 frame of an Ethernet frame
for every type of interface, with the two helpers for mesh headers from `net/mac80211/mesh.c`.
Where the function reads a station that it was not given, the model says so (`nullSta`).
-/

namespace Iwlwifi.Xmit

open Lib

/-! ## What is read and returned -/

/-- An entry of the mesh path table. -/
structure MeshPathEntry where
  dst : EtherAddr
  hasNextHop : Bool
  /-- `MESH_PATH_ACTIVE | MESH_PATH_RESOLVING` -/
  usable : Bool

/-- What a call finds besides the interface and the station. -/
structure HdrEnv where
  wdsRemoteAddr : EtherAddr
  /-- The band of `hw.conf.chandef`. -/
  hwBand : Nat
  dot11MeshTtl : UInt8
  meshSeqnum : Nat
  /-- `mesh_path_lookup` -/
  meshPath : List UInt8 → Option MeshPathEntry
  /-- `mpp_path_lookup`: the proxy `mpp`. -/
  mppPath : List UInt8 → Option EtherAddr
  /-- `IEEE80211_TX_CTRL_SKIP_MPATH_LOOKUP` -/
  skipMpathLookup : Bool
  /-- The frame is not shared, or could be cloned. -/
  unshared : Bool
  /-- There is room for the header, or there was memory for it. -/
  resized : Bool

inductive HdrError
  | errno (error : Int)
  | nullSta
  deriving DecidableEq

/-- `hdr`, `mesh_hdr` and `band` after the switch.  `addr4` is empty where it is not sent. -/
structure HdrPlan where
  fc : Nat
  addr1 : List UInt8
  addr2 : List UInt8
  addr3 : List UInt8
  addr4 : List UInt8 := []
  meshHdr : List UInt8 := []
  band : Nat

/-- The band of a channel context, or `-ENOTCONN`. -/
def bandOf : Option Nat → Except HdrError Nat
  | some band => .ok band
  | none => .error (.errno (-107))

/-! ## Mesh -/

/-- `ieee80211_fill_mesh_addresses` -/
def fillMeshAddresses (fc : Nat) (meshda meshsa : List UInt8) (band : Nat) : HdrPlan :=
  if isMulticastEtherAddr meshda then
    -- DA TA SA
    { fc := fc ||| fctlFromds, addr1 := meshda, addr2 := meshsa, addr3 := meshsa, band := band }
  else
    -- RA TA DA SA
    { fc := fc ||| (fctlFromds ||| fctlTods), addr1 := List.replicate 6 0, addr2 := meshsa
      addr3 := meshda, addr4 := meshsa, band := band }

/-- `ieee80211_new_mesh_header`, with the addresses of the extension. -/
def newMeshHeader (env : HdrEnv) (flags : UInt8) (extension : List UInt8) : List UInt8 :=
  [flags, env.dot11MeshTtl] ++ le16Bytes env.meshSeqnum ++ le16Bytes (env.meshSeqnum / 2 ^ 16) ++
    extension

/-- The case of `NL80211_IFTYPE_MESH_POINT`. -/
def meshPlan (env : HdrEnv) (sdata : SubIfData) (skb : Skb) (band : Nat) : HdrPlan :=
  let da := window skb 0 6
  let sa := window skb 6 6
  let multicast := isMulticastEtherAddr da
  let mpath := if multicast then none else env.meshPath da
  let mppLookup := match mpath with
    | some path => !path.hasNextHop || !path.usable
    | none => true
  let mppath := if !multicast && mppLookup then env.mppPath da else none
  let proxied := match mppath with
    | some mpp => mpp.val != da
    | none => false
  let plan :=
    if sdata.vifAddr.val == sa && !proxied then
      { fillMeshAddresses ieee80211FtypeData da sa band with meshHdr := newMeshHeader env 0 [] }
    else
      let meshDa := match mppath, mpath with
        | some mpp, _ => mpp.val
        | none, some path => path.dst.val
        | none, none => da
      { fillMeshAddresses ieee80211FtypeData meshDa sdata.vifAddr.val band with
        meshHdr :=
          if isMulticastEtherAddr meshDa then newMeshHeader env 1 sa
          else newMeshHeader env 2 (da ++ sa) }
  if env.skipMpathLookup && plan.addr1 == List.replicate 6 0 then { plan with addr1 := da }
  else plan

/-! ## `ieee80211_build_hdr` -/

/-- The switch over the interface type. -/
def addressing (env : HdrEnv) (sdata : SubIfData) (sta : Option TxSta) (skb : Skb) :
    Except HdrError HdrPlan :=
  let da := window skb 0 6
  let sa := window skb 6 6
  let fc := ieee80211FtypeData
  -- RA TA DA SA
  let fourAddr (ra : EtherAddr) (band : Nat) : HdrPlan :=
    { fc := fc ||| (fctlFromds ||| fctlTods), addr1 := ra.val, addr2 := sdata.vifAddr.val
      addr3 := da, addr4 := sa, band := band }
  -- DA BSSID SA
  let fromAp (band : Nat) : HdrPlan :=
    { fc := fc ||| fctlFromds, addr1 := da, addr2 := sdata.vifAddr.val, addr3 := sa, band := band }
  -- DA SA BSSID
  let direct (bssid : List UInt8) (band : Nat) : HdrPlan :=
    { fc := fc, addr1 := da, addr2 := sa, addr3 := bssid, band := band }
  -- BSSID SA DA
  let toAp (band : Nat) : HdrPlan :=
    { fc := fc ||| fctlTods, addr1 := sdata.mgdBssid.val, addr2 := sa, addr3 := da, band := band }
  match sdata.vifType with
  | .apVlan =>
      if sdata.wdevUse4addr then
        match sta with
        | none => .error .nullSta
        | some sta => (bandOf sdata.apChanctxConf).map (fourAddr sta.addr)
      else (bandOf sdata.apChanctxConf).map fromAp
  | .ap => (bandOf sdata.chanctxConf).map fromAp
  | .wds => .ok (fourAddr env.wdsRemoteAddr env.hwBand)
  | .meshPoint => (bandOf sdata.chanctxConf).map (meshPlan env sdata skb)
  | .station =>
      match sta with
      | none => .error .nullSta
      | some sta =>
          if sta.tdlsPeer then (bandOf sdata.chanctxConf).map (direct sdata.mgdBssid.val)
          else if sdata.mgdUse4addr && be16At skb 12 != sdata.controlPortProtocol then
            (bandOf sdata.chanctxConf).map (fourAddr sdata.mgdBssid)
          else (bandOf sdata.chanctxConf).map toAp
  | .ocb => (bandOf sdata.chanctxConf).map (direct (List.replicate 6 0xff))
  | .adhoc => (bandOf sdata.chanctxConf).map (direct sdata.ibssBssid.val)
  | _ => .error (.errno (-22))

/-- `encaps_data` and `skip_header_bytes` -/
def encapsulation (ethertype : Nat) : List UInt8 × Nat :=
  if ethertype = ethPAarp ∨ ethertype = ethPIpx then (bridgeTunnelHeader, 12)
  else if 0x600 ≤ ethertype then (rfc1042Header, 12)
  else ([], 14)

/-- The bytes of `hdr`, without the QoS control field. -/
def HdrPlan.bytes (plan : HdrPlan) (fc : Nat) : List UInt8 :=
  le16Bytes fc ++ [0, 0] ++ plan.addr1 ++ plan.addr2 ++ plan.addr3 ++ [0, 0] ++ plan.addr4

/-- `ieee80211_build_hdr`: the frame and its band. -/
def buildHdr (env : HdrEnv) (sdata : SubIfData) (sta : Option TxSta) (skb : Skb) :
    Except HdrError (Skb × Nat) := do
  let ethertype := be16At skb 12
  let plan ← addressing env sdata sta skb
  let authorized := sta.any (·.authorized)
  let wmeSta : Bool := match sta with
    | some sta => sta.wme
    | none => sdata.vifType == .meshPoint
  let fc := if wmeSta then plan.fc ||| ieee80211StypeQosData else plan.fc
  if sdata.vifType != .meshPoint && sdata.vifType != .ocb &&
      !isMulticastEtherAddr plan.addr1 && !authorized &&
      (ethertype != sdata.controlPortProtocol || sdata.vifAddr.val != window skb 6 6) then
    throw (.errno (-1))
  else if !env.unshared then throw (.errno (-12))
  else if !env.resized then throw (.errno (-12))
  else
    let qosControl := if ieee80211IsDataQos fc then [0, 0] else []
    let (encaps, skipHeaderBytes) := encapsulation ethertype
    return (plan.bytes fc ++ qosControl ++ plan.meshHdr ++ encaps ++ skb.drop skipHeaderBytes,
      plan.band)

/-! ## What is built -/

/-- A frame that is built has gone through all checks. -/
theorem of_buildHdr {env : HdrEnv} {sdata : SubIfData} {sta : TxSta} {skb : Skb} {built : Skb}
    {band : Nat} (produced : buildHdr env sdata (some sta) skb = .ok (built, band)) :
    ∃ plan, addressing env sdata (some sta) skb = .ok plan ∧
      built = plan.bytes (if sta.wme then plan.fc ||| ieee80211StypeQosData else plan.fc) ++
        ((if ieee80211IsDataQos (if sta.wme then plan.fc ||| ieee80211StypeQosData else plan.fc)
            then [0, 0] else []) ++
          (plan.meshHdr ++ ((encapsulation (be16At skb 12)).1 ++
            skb.drop (encapsulation (be16At skb 12)).2))) := by
  unfold buildHdr at produced
  rcases planned : addressing env sdata (some sta) skb with error | plan
  · rw [planned] at produced
    cases produced
  · rw [planned] at produced
    simp only [bind, Except.bind] at produced
    iterate 3 (split at produced; · cases produced)
    cases produced
    refine ⟨plan, rfl, ?_⟩
    simp only [List.append_assoc]

/-- The addresses of a plan with their places in the header. -/
def HdrPlan.places (plan : HdrPlan) : List (Nat × List UInt8) :=
  [(4, plan.addr1), (10, plan.addr2), (16, plan.addr3)] ++
    if plan.addr4 = [] then [] else [(24, plan.addr4)]

theorem HdrPlan.window_bytes {plan : HdrPlan} {fc : Nat} {rest : List UInt8}
    (six : ∀ place ∈ plan.places, place.2.length = 6) {place : Nat × List UInt8}
    (member : place ∈ plan.places) :
    window (plan.bytes fc ++ rest) place.1 6 = place.2 := by
  have one : plan.addr1.length = 6 := six (4, plan.addr1) (by simp [places])
  have two : plan.addr2.length = 6 := six (10, plan.addr2) (by simp [places])
  have three : plan.addr3.length = 6 := six (16, plan.addr3) (by simp [places])
  have four : (le16Bytes fc ++ [0, 0] : List UInt8).length = 4 := rfl
  simp only [places, List.cons_append, List.nil_append, List.mem_cons] at member
  rcases member with rfl | rfl | rfl | member
  · rw [bytes, List.append_assoc, List.append_assoc, List.append_assoc, List.append_assoc,
      List.append_assoc]
    exact window_middle four one
  · rw [bytes, List.append_assoc, List.append_assoc, List.append_assoc, List.append_assoc]
    refine window_middle ?_ two
    rw [List.length_append, four, one]
  · rw [bytes, List.append_assoc, List.append_assoc, List.append_assoc]
    refine window_middle ?_ three
    rw [List.length_append, List.length_append, four, one, two]
  · split at member
    · cases member
    · rw [List.mem_singleton] at member
      subst member
      have last : plan.addr4.length = 6 := six (24, plan.addr4) (by simp [places, *])
      rw [bytes, List.append_assoc]
      refine window_middle ?_ last
      simp [one, two, three, le16Bytes]

end Iwlwifi.Xmit
