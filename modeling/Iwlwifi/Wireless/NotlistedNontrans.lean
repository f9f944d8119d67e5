import Iwlwifi.Mac80211.ParseElems
import Iwlwifi.Ieee80211

/-!
# A non-transmitted network that a frame does not list

`cfg80211_update_notlisted_nontrans` of `net/wireless/scan.c` refreshes the elements of such a
network from a frame of the transmitting one: its own SSID element, and the elements of the frame
without the SSID and the Multiple-BSSID element.  The size of the new buffer counts the headers of
the removed elements, and the elements before the SSID, which are not copied; the lengths that are
copied are computed in eight bits.  So what is stored is never what is meant (`refreshed_iff`).
-/

namespace Iwlwifi.NotlistedNontrans

open Lib ParseElems

/-! ## The function -/

def ieee80211StypeProbeResp : Nat := 0x0050
def ieee80211StypeBeacon : Nat := 0x0080

def ieee80211IsProbeResp (fc : Nat) : Bool :=
  fc &&& (ieee80211FctlFtype ||| ieee80211FctlStype) ==
    ieee80211FtypeMgmt ||| ieee80211StypeProbeResp

def ieee80211IsBeacon (fc : Nat) : Bool :=
  fc &&& (ieee80211FctlFtype ||| ieee80211FctlStype) == ieee80211FtypeMgmt ||| ieee80211StypeBeacon

/-- `struct cfg80211_bss_ies` -/
structure BssIes where
  tsf : Nat
  fromBeacon : Bool
  data : List UInt8
  deriving DecidableEq

/-- The element buffers of `struct cfg80211_bss`. -/
structure Bss where
  ies : Option BssIes
  beaconIes : Option BssIes
  proberespIes : Option BssIes
  deriving DecidableEq

/-- A probe response or a beacon.  `variable'` is what follows the fixed fields. -/
structure Mgmt where
  frameControl : Nat
  timestamp : Nat
  variable' : List UInt8

/-- `memcpy` to an offset of a buffer. -/
def copyTo (buf : List UInt8) (pos : Nat) (src : List UInt8) : BoundedRead Empty (List UInt8) :=
  if pos + src.length ≤ buf.length then .ok (overwrite buf pos src) else .error .outOfBounds

/-- `ieee80211_bss_get_ie`, with the buffer that the element lies in. -/
def bssGetIe (bss : Bss) (id : Nat) : BoundedRead Empty (Option (List UInt8 × Elem)) :=
  match bss.ies with
  | none => return none
  | some ies => do return (← findElem ies.data id 0 ies.data.length).map (ies.data, ·)

/-- `cpy_len` of an element, which is a `u8`. -/
def cpyLen (e : Elem) : Nat := (e.len + 2) % 2 ^ 8

/-- What was copied into `new_ie`, and how many bytes that were. -/
structure NewIe where
  data : List UInt8
  copied : Nat

/-- The three copies. -/
def newIe (ie : List UInt8) (transSsid mbssid : Elem) (nontransIes : List UInt8)
    (nontransSsid : Elem) : BoundedRead Empty NewIe := do
  let newIeLen := ie.length - transSsid.len - mbssid.len + nontransSsid.len
  let buf := List.replicate newIeLen (0 : UInt8)
  -- the nontransmitted SSID
  let ⟨ssid, _⟩ ← readBytes nontransIes nontransSsid.ofs (cpyLen nontransSsid)
  let buf ← copyTo buf 0 ssid
  let pos := cpyLen nontransSsid
  -- the elements between SSID and MBSSID
  let between := transSsid.ofs + cpyLen transSsid
  let ⟨part, _⟩ ← readBytes ie between (mbssid.ofs - between)
  let buf ← copyTo buf pos part
  let pos := pos + (mbssid.ofs - between)
  -- the elements after MBSSID
  let rest := mbssid.ofs + cpyLen mbssid
  let ⟨part, _⟩ ← readBytes ie rest (ie.length - rest)
  let buf ← copyTo buf pos part
  return ⟨buf, pos + (ie.length - rest)⟩

/-- The network with its new elements. -/
def Bss.store (bss : Bss) (mgmt : Mgmt) (data : List UInt8) : Bss :=
  let newIes : BssIes := ⟨mgmt.timestamp, ieee80211IsBeacon mgmt.frameControl, data⟩
  if ieee80211IsProbeResp mgmt.frameControl then
    { bss with proberespIes := some newIes, ies := some newIes }
  else { bss with beaconIes := some newIes, ies := some newIes }

/-- `cfg80211_update_notlisted_nontrans`.  `allocated` says whether there is memory for the two
buffers.  Where the elements are replaced, the number of copied bytes is returned too. -/
def updateNotlistedNontrans (bss : Bss) (mgmt : Mgmt) (allocated : Bool) :
    BoundedRead Empty (Bss × Option Nat) := do
  let ie := mgmt.variable'
  match ← findElem ie eidSsid 0 ie.length with
  | none => return (bss, none)
  | some transSsid =>
      match ← findElem ie eidMultipleBssid 0 ie.length with
      | none => return (bss, none)
      | some mbssid =>
          if mbssid.ofs < transSsid.ofs then return (bss, none)
          else
            match ← bssGetIe bss eidSsid with
            | none => return (bss, none)
            | some (nontransIes, nontransSsid) =>
                if !allocated then return (bss, none)
                else
                  let new ← newIe ie transSsid mbssid nontransIes nontransSsid
                  return (bss.store mgmt new.data, some new.copied)

/-! ## What is meant -/

/-- The first element of a kind.  The length that is searched is passed through an `int`. -/
def firstOf (bytes : List UInt8) (eid : Nat) : Option Elem :=
  (elements bytes (0 + bytes.length % 2 ^ 32) 0).find? (·.id == eid)

/-- The elements that a refresh is made from. -/
structure Sources (bss : Bss) (mgmt : Mgmt) (transSsid mbssid : Elem) (nontransIes : List UInt8)
    (nontransSsid : Elem) : Prop where
  hasTransSsid : firstOf mgmt.variable' eidSsid = some transSsid
  hasMbssid : firstOf mgmt.variable' eidMultipleBssid = some mbssid
  order : transSsid.ofs ≤ mbssid.ofs
  hasIes : bss.ies.map BssIes.data = some nontransIes
  hasNontransSsid : firstOf nontransIes eidSsid = some nontransSsid

/-- The SSID of the network, then the elements of the frame without the two that are removed. -/
def meant (ie : List UInt8) (transSsid mbssid : Elem) (nontransIes : List UInt8)
    (nontransSsid : Elem) : List UInt8 :=
  window nontransIes nontransSsid.ofs (nontransSsid.len + 2) ++ (ie.take transSsid.ofs ++
    (window ie transSsid.after (mbssid.ofs - transSsid.after) ++ ie.drop mbssid.after))

/-- The function stays in its buffers, and where it replaces the elements of the network, it fills
the new buffer and stores what is meant. -/
def RefreshedExactly (bss : Bss) (mgmt : Mgmt) (allocated : Bool) : Prop :=
  ∃ bss' copied, updateNotlistedNontrans bss mgmt allocated = .ok (bss', copied) ∧
    ∀ n, copied = some n → ∃ ies, bss'.ies = some ies ∧ n = ies.data.length ∧
      ∃ transSsid mbssid nontransIes nontransSsid,
        Sources bss mgmt transSsid mbssid nontransIes nontransSsid ∧
        ies.data = meant mgmt.variable' transSsid mbssid nontransIes nontransSsid

/-- The frame has both elements in their order, the network has an SSID, and there is memory. -/
def Refreshes (bss : Bss) (mgmt : Mgmt) (allocated : Bool) : Prop :=
  allocated = true ∧ ∃ transSsid mbssid nontransIes nontransSsid,
    Sources bss mgmt transSsid mbssid nontransIes nontransSsid

variable {bytes : List UInt8} {bss : Bss} {mgmt : Mgmt} {allocated : Bool}

theorem findElem_first (bytes : List UInt8) (eid : Nat) :
    findElem bytes eid 0 bytes.length = .ok (firstOf bytes eid) := by
  have whole : 0 + bytes.length % 2 ^ 32 ≤ bytes.length := by
    rw [Nat.zero_add]
    exact Nat.mod_le _ _
  exact findElement_eq whole fun e _ => rfl

/-- A first element lies in the buffer, behind its header. -/
theorem firstOf_inside {eid : Nat} {e : Elem} (found : firstOf bytes eid = some e) :
    e.ofs + 2 + e.len ≤ bytes.length ∧ e.id = eid ∧ e.len < 2 ^ 8 ∧
      e ∈ elements bytes (0 + bytes.length % 2 ^ 32) 0 := by
  have listed := List.mem_of_find?_eq_some found
  obtain ⟨-, inside, same⟩ := mem_elements listed
  have cut := Nat.mod_le bytes.length (2 ^ 32)
  refine ⟨?_, beq_iff_eq.mp (List.find?_some (p := fun e : Elem => e.id == eid) found), ?_, listed⟩
  · rw [Elem.after] at inside
    omega
  · rw [same]
    exact u8At_lt _ _

theorem sources_unique {transSsid transSsid' mbssid mbssid' nontransSsid nontransSsid' : Elem}
    {nontransIes nontransIes' : List UInt8}
    (one : Sources bss mgmt transSsid mbssid nontransIes nontransSsid)
    (other : Sources bss mgmt transSsid' mbssid' nontransIes' nontransSsid') :
    transSsid = transSsid' ∧ mbssid = mbssid' ∧ nontransIes = nontransIes' ∧
      nontransSsid = nontransSsid' := by
  have t := one.hasTransSsid.symm.trans other.hasTransSsid
  have m := one.hasMbssid.symm.trans other.hasMbssid
  have i := one.hasIes.symm.trans other.hasIes
  cases t
  cases m
  cases i
  have n := one.hasNontransSsid.symm.trans other.hasNontransSsid
  cases n
  exact ⟨rfl, rfl, rfl, rfl⟩

variable {transSsid mbssid nontransSsid : Elem} {nontransIes : List UInt8}

/-- The SSID element ends where the Multiple-BSSID element begins or before. -/
theorem transSsid_after_le (sources : Sources bss mgmt transSsid mbssid nontransIes nontransSsid) :
    transSsid.after ≤ mbssid.ofs := by
  obtain ⟨-, ssid, -, listed⟩ := firstOf_inside sources.hasTransSsid
  obtain ⟨-, multiple, -, listed'⟩ := firstOf_inside sources.hasMbssid
  have order := sources.order
  rcases elements_apart listed listed' with rfl | before | behind
  · rw [ssid] at multiple
    cases multiple
  · exact before
  · rw [Elem.after] at behind
    omega

/-! ## What is stored -/

theorem copyTo_length {buf buf' src : List UInt8} {pos : Nat}
    (copied : copyTo buf pos src = .ok buf') : buf'.length = buf.length := by
  rw [copyTo] at copied
  split at copied
  · next fits =>
      cases copied
      exact overwrite_length fits
  · cases copied

/-- The new buffer keeps its size. -/
theorem newIe_length {ie nontransIes : List UInt8} :
    Yields (fun new : NewIe => new.data.length =
        ie.length - transSsid.len - mbssid.len + nontransSsid.len)
      (newIe ie transSsid mbssid nontransIes nontransSsid) := by
  refine yields_bind fun ssid => yields_bind_of fun buf first => ?_
  refine yields_bind fun between => yields_bind_of fun buf' second => ?_
  refine yields_bind fun rest => yields_bind_of fun buf'' third => yields_ok ?_
  rw [copyTo_length third, copyTo_length second, copyTo_length first, List.length_replicate]

theorem meant_length (sources : Sources bss mgmt transSsid mbssid nontransIes nontransSsid) :
    (meant mgmt.variable' transSsid mbssid nontransIes nontransSsid).length + 2 =
      mgmt.variable'.length - transSsid.len - mbssid.len + nontransSsid.len := by
  obtain ⟨insideT, -⟩ := firstOf_inside sources.hasTransSsid
  obtain ⟨insideM, -⟩ := firstOf_inside sources.hasMbssid
  obtain ⟨insideN, -⟩ := firstOf_inside sources.hasNontransSsid
  have apart := transSsid_after_le sources
  have between : transSsid.after + (mbssid.ofs - transSsid.after) ≤ mgmt.variable'.length := by
    omega
  have ssid : nontransSsid.ofs + (nontransSsid.len + 2) ≤ nontransIes.length := by omega
  rw [meant, List.length_append, List.length_append, List.length_append, List.length_take,
    List.length_drop, window_length between, window_length ssid]
  simp only [Elem.after] at apart ⊢
  omega

theorem store_ies (bss : Bss) (mgmt : Mgmt) (data : List UInt8) :
    ∃ ies, (bss.store mgmt data).ies = some ies ∧ ies.data = data := by
  rw [Bss.store]
  split
  · exact ⟨_, rfl, rfl⟩
  · exact ⟨_, rfl, rfl⟩

/-- Where the elements are there, the function goes on to the copies. -/
theorem update_of_sources (sources : Sources bss mgmt transSsid mbssid nontransIes nontransSsid) :
    updateNotlistedNontrans bss mgmt true = (do
      let new ← newIe mgmt.variable' transSsid mbssid nontransIes nontransSsid
      return (bss.store mgmt new.data, some new.copied)) := by
  have order := sources.order
  obtain ⟨ies, has, same⟩ := Option.map_eq_some_iff.mp sources.hasIes
  subst same
  have get : bssGetIe bss eidSsid = .ok (some (ies.data, nontransSsid)) := by
    rw [bssGetIe, has]
    change (findElem ies.data eidSsid 0 ies.data.length >>= _) = _
    rw [findElem_first, sources.hasNontransSsid]
    rfl
  rw [updateNotlistedNontrans, findElem_first, sources.hasTransSsid]
  change (findElem mgmt.variable' eidMultipleBssid 0 mgmt.variable'.length >>= _) = _
  rw [findElem_first, sources.hasMbssid]
  change (if mbssid.ofs < transSsid.ofs then _ else _ : BoundedRead Empty _) = _
  rw [if_neg (by omega), get]
  rfl

/-- Otherwise it leaves the network alone. -/
theorem update_of_not_refreshes (not : ¬ Refreshes bss mgmt allocated) :
    updateNotlistedNontrans bss mgmt allocated = .ok (bss, none) := by
  rw [updateNotlistedNontrans, findElem_first]
  cases t : firstOf mgmt.variable' eidSsid with
  | none => rfl
  | some transSsid =>
  change (findElem mgmt.variable' eidMultipleBssid 0 mgmt.variable'.length >>= _) = _
  rw [findElem_first]
  cases m : firstOf mgmt.variable' eidMultipleBssid with
  | none => rfl
  | some mbssid =>
  change (if mbssid.ofs < transSsid.ofs then _ else _ : BoundedRead Empty _) = _
  by_cases before : mbssid.ofs < transSsid.ofs
  · rw [if_pos before]
    rfl
  rw [if_neg before, bssGetIe]
  cases i : bss.ies with
  | none => rfl
  | some ies =>
  change ((findElem ies.data eidSsid 0 ies.data.length >>= _) >>= _) = _
  rw [findElem_first]
  cases n : firstOf ies.data eidSsid with
  | none => rfl
  | some nontransSsid =>
      cases allocated with
      | false => rfl
      | true =>
          refine absurd ⟨rfl, transSsid, mbssid, ies.data, nontransSsid, t, m, ?_, ?_, n⟩ not
          · exact Nat.le_of_not_lt before
          · rw [i]
            rfl

/-- The function does what is meant exactly where it does nothing. -/
theorem refreshed_iff (bss : Bss) (mgmt : Mgmt) (allocated : Bool) :
    RefreshedExactly bss mgmt allocated ↔ ¬ Refreshes bss mgmt allocated := by
  constructor
  · rintro ⟨bss', copied, result, exact'⟩ refreshes
    obtain ⟨rfl, transSsid, mbssid, nontransIes, nontransSsid, sources⟩ := refreshes
    rw [update_of_sources sources] at result
    obtain ⟨new, made, same⟩ := bind_eq_ok.mp result
    cases same
    obtain ⟨ies, has, -, t, m, i, n, sources', is⟩ := exact' new.copied rfl
    obtain ⟨rfl, rfl, rfl, rfl⟩ := sources_unique sources sources'
    obtain ⟨ies', has', data⟩ := store_ies bss mgmt new.data
    rw [has] at has'
    cases has'
    have size : new.data.length = _ := newIe_length new made
    rw [← data, is] at size
    have short := meant_length sources
    omega
  · intro not
    exact ⟨bss, none, update_of_not_refreshes not, fun n none' => by cases none'⟩

/-- A beacon with the SSID `A`, a Multiple-BSSID element and the supported rates. -/
def beaconOfA : Mgmt := ⟨0x80, 7, [0, 1, 0x41, 71, 1, 3, 1, 1, 2]⟩

/-- A network with the SSID `B`. -/
def networkB : Bss := ⟨some ⟨0, true, [0, 1, 0x42]⟩, some ⟨0, true, [0, 1, 0x42]⟩, none⟩

/-- Six bytes are copied into a buffer of eight. -/
theorem not_refreshedExactly : ¬ RefreshedExactly networkB beaconOfA true := by
  rintro ⟨bss', copied, result, exact'⟩
  have is : updateNotlistedNontrans networkB beaconOfA true =
      .ok (networkB.store beaconOfA [0, 1, 0x42, 1, 1, 2, 0, 0], some 6) := by decide +kernel
  obtain ⟨rfl, rfl⟩ := Prod.mk.inj (Except.ok.inj (is.symm.trans result))
  obtain ⟨ies, has, six, -⟩ := exact' 6 rfl
  cases has
  cases six

end Iwlwifi.NotlistedNontrans
