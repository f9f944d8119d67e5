import Mathlib.Logic.Function.Basic
import Iwlwifi.Lib.SearchTree

/-!
# Scan results

cfg80211 keeps what it has heard of each BSS in an entry, which is in a list and in a tree
that is sorted by `cmp_bss`.  A frame updates the entry that compares equal to it, or a new one
is made; entries with a hidden SSID are grouped with the probe responses that reveal it, in a
ring of which the beacon's entry is the head.

A wiphy has one channel for each center frequency, so a channel is its center frequency, and a
BSSID is a number whose first byte is the most significant one.  Reference counts and what is
freed, nontransmitted BSSes and the signal are left out.
-/

namespace Iwlwifi.Scan

open Lib

/-! ## Information elements -/

/-- `struct cfg80211_bss_ies`, with what tells it from others. -/
structure BssIes where
  id : Nat
  data : List UInt8
deriving DecidableEq

def wlanEidSsid : Nat := 0

def wlanEidMeshConfig : Nat := 113

def wlanEidMeshId : Nat := 114

/-- The data of the first element with this id, among as many elements. -/
def findIe (eid : Nat) : (fuel : Nat) → List UInt8 → Option (List UInt8)
  | fuel + 1, id :: datalen :: rest =>
      if rest.length < datalen.toNat then none
      else if id.toNat = eid then some (rest.take datalen.toNat)
      else findIe eid fuel (rest.drop datalen.toNat)
  | _, _ => none

/-- `cfg80211_find_ie` -/
def cfg80211FindIe (eid : Nat) (ies : BssIes) : Option (List UInt8) :=
  findIe eid ies.data.length ies.data

/-! ## Comparing entries -/

/-- What `cmp_bss` reads of a `struct cfg80211_bss`. -/
structure BssKey where
  channel : Nat
  bssid : BitVec 48
  capability : UInt16
  ies : Option BssIes
deriving DecidableEq

/-- `WLAN_CAPABILITY_IS_STA_BSS` -/
def isStaBss (capability : UInt16) : Bool := decide (capability &&& 3 = 0)

inductive BssCompareMode
  | regular
  | hideZlen
  | hideNul
deriving DecidableEq

def memcmp : List UInt8 → List UInt8 → Int
  | a :: as, b :: bs => if a = b then memcmp as bs else (a.toNat : Int) - b.toNat
  | _, _ => 0

/-- Elements by length first, the longer one before the shorter, then by contents. -/
def cmpIe (ie1 ie2 : List UInt8) : Int :=
  if ie1.length = ie2.length then memcmp ie1 ie2 else (ie2.length : Int) - ie1.length

/-- The mesh id and the mesh configuration of an entry that belongs to no AP and no IBSS. -/
def BssKey.mesh (b : BssKey) : Option (List UInt8 × List UInt8) := do
  let ies ← b.ies
  if isStaBss b.capability then
    let meshId ← cfg80211FindIe wlanEidMeshId ies
    let meshConfig ← cfg80211FindIe wlanEidMeshConfig ies
    pure (meshId, meshConfig)
  else none

def BssKey.ssid (b : BssKey) : Option (List UInt8) := b.ies.bind (cfg80211FindIe wlanEidSsid)

def allZero (bytes : List UInt8) : Bool := bytes.all fun byte => byte == 0

/-- The comparison of SSIDs, which finds a hidden one of the second entry in the other modes. -/
def cmpSsid (mode : BssCompareMode) : Option (List UInt8) → Option (List UInt8) → Int
  | none, none => 0
  | none, some _ => -1
  | some _, none => 1
  | some ie1, some ie2 =>
      match mode with
      | .hideZlen => ie2.length
      | .regular => cmpIe ie1 ie2
      | .hideNul =>
          if ie1.length = ie2.length then if allZero ie2 then 0 else -1
          else (ie2.length : Int) - ie1.length

/-- `cmp_bss` -/
def cmpBss (a b : BssKey) (mode : BssCompareMode) : Int :=
  if a.channel ≠ b.channel then (b.channel : Int) - a.channel
  else if a.ies = none then -1
  else if b.ies = none then 1
  else
    match a.mesh, b.mesh with
    | some (id1, config1), some (id2, config2) =>
        if cmpIe id1 id2 ≠ 0 then cmpIe id1 id2 else cmpIe config1 config2
    | _, _ =>
        if a.bssid ≠ b.bssid then (a.bssid.toNat : Int) - b.bssid.toNat
        else cmpSsid mode a.ssid b.ssid

/-! ## The store -/

/-- `struct cfg80211_internal_bss` -/
structure Bss where
  key : BssKey
  scanWidth : Nat
  beaconIes : Option BssIes
  proberespIes : Option BssIes
  hiddenBeaconBss : Option Nat
  hiddenNext : Nat
  hiddenPrev : Nat
  hold : Nat
  ts : UInt64

/-- What `struct cfg80211_registered_device` keeps of scan results, with the memory of the
entries. -/
structure Rdev where
  bss : Nat → Bss
  allocated : Nat
  bssList : List Nat
  bssTree : SearchTree Nat
  bssEntries : Nat

def timeAfter (a b : UInt64) : Bool := decide ((b - a).toInt64 < 0)

namespace Rdev

variable (s : Rdev)

def onBss (e : Nat) (change : Bss → Bss) : Rdev :=
  { s with bss := Function.update s.bss e (change (s.bss e)) }

/-! ## The rings -/

/-- `list_empty(&bss->hidden_list)` -/
def hiddenEmpty (e : Nat) : Bool := decide ((s.bss e).hiddenNext = e)

/-- `list_add(&new->hidden_list, &head->hidden_list)` -/
def hiddenAdd (new head : Nat) : Rdev :=
  let next := (s.bss head).hiddenNext
  ((s.onBss next fun b => { b with hiddenPrev := new }).onBss new fun b =>
      { b with hiddenNext := next, hiddenPrev := head }).onBss head fun b =>
    { b with hiddenNext := new }

/-- `list_del(&bss->hidden_list)` -/
def hiddenDel (e : Nat) : Rdev :=
  let b := s.bss e
  (s.onBss b.hiddenNext fun next => { next with hiddenPrev := b.hiddenPrev }).onBss b.hiddenPrev
    fun prev => { prev with hiddenNext := b.hiddenNext }

/-- `list_del_init(&bss->hidden_list)` -/
def hiddenDelInit (e : Nat) : Rdev :=
  (s.hiddenDel e).onBss e fun b => { b with hiddenNext := e, hiddenPrev := e }

/-- The entries from one on, up to the head. -/
def ringFrom (head : Nat) : (fuel e : Nat) → List Nat
  | 0, _ => []
  | fuel + 1, e => if e = head then [] else e :: ringFrom head fuel (s.bss e).hiddenNext

/-- What `list_for_each_entry` visits of `hidden_list`. -/
def hiddenList (head : Nat) : List Nat := s.ringFrom head s.allocated (s.bss head).hiddenNext

/-- Move an entry to the group of a new one, if it is a probe response to a hidden SSID of this
length.  The body of the loop of `cfg80211_combine_bsses`. -/
def combineBss (new ssidlen : Nat) (s : Rdev) (e : Nat) : Rdev :=
  let b := s.bss e
  let n := s.bss new
  let fits :=
    match b.key.ssid with
    | none => false
    | some ssid => ssidlen = 0 || ssid.length = ssidlen
  if b.key.bssid ≠ n.key.bssid ∨ b.key.channel ≠ n.key.channel ∨ b.scanWidth ≠ n.scanWidth ∨
      b.beaconIes.isSome ∨ !fits ∨ b.hiddenBeaconBss.isSome then s
  else
    let s := if s.hiddenEmpty e then s else s.hiddenDel e
    (s.hiddenAdd e new).onBss e fun b =>
      { b with hiddenBeaconBss := some new, beaconIes := n.beaconIes }

/-- `cfg80211_combine_bsses` -/
def cfg80211CombineBsses (new : Nat) : Option Rdev :=
  match (s.bss new).beaconIes with
  | none => none
  | some ies =>
      match cfg80211FindIe wlanEidSsid ies with
      | none => some s
      | some ssid =>
          if allZero ssid then some (s.bssList.foldl (combineBss new ssid.length) s)
          else some s

/-! ## The tree -/

/-- The probe of a search for an entry. -/
def probe (key : BssKey) (mode : BssCompareMode) (e : Nat) : Int := cmpBss key (s.bss e).key mode

/-- `rb_find_bss` -/
def rbFindBss (key : BssKey) (mode : BssCompareMode) : Option Nat :=
  s.bssTree.find (s.probe key mode)

/-- `rb_insert_bss`, after the entry was added to the list. -/
def rbInsertBss (rb : Balancer Nat) (new : Nat) : Rdev :=
  match s.bssTree.link (s.probe (s.bss new).key .regular) new with
  | none => s
  | some t => { s with bssTree := rb.insertColor t }

/-- `list_add_tail(&new->list, &rdev->bss_list)` and the insertion. -/
def insertBss (rb : Balancer Nat) (new : Nat) : Rdev :=
  { s with bssList := s.bssList ++ [new], bssEntries := s.bssEntries + 1 }.rbInsertBss rb new

/-! ## Unlinking and expiry -/

/-- `__cfg80211_unlink_bss` -/
def unlink (rb : Balancer Nat) (e : Nat) : Bool × Rdev :=
  if s.hiddenEmpty e = false ∧ (s.bss e).hiddenBeaconBss = none then (false, s)
  else
    let s := if s.hiddenEmpty e then s else s.hiddenDelInit e
    (true,
      { s with
        bssList := s.bssList.erase e
        bssTree := rb.erase e s.bssTree
        bssEntries := s.bssEntries - 1 })

/-- `cfg80211_unlink_bss` -/
def cfg80211UnlinkBss (rb : Balancer Nat) (e : Nat) : Rdev :=
  if e ∈ s.bssList then (s.unlink rb e).2 else s

/-- The body of the loop of `__cfg80211_bss_expire`. -/
def expireBss (rb : Balancer Nat) (expireTime : UInt64) (s : Rdev) (e : Nat) : Rdev :=
  if (s.bss e).hold ≠ 0 then s
  else if timeAfter expireTime (s.bss e).ts = false then s
  else (s.unlink rb e).2

/-- `__cfg80211_bss_expire` -/
def cfg80211BssExpire (rb : Balancer Nat) (expireTime : UInt64) : Rdev :=
  s.bssList.foldl (expireBss rb expireTime) s

/-- The older one of the oldest entry so far and another. -/
def older (oldest : Option Nat) (e : Nat) : Option Nat :=
  if (s.bss e).hold ≠ 0 then oldest
  else if s.hiddenEmpty e = false ∧ (s.bss e).hiddenBeaconBss = none then oldest
  else
    match oldest with
    | some o => if timeAfter (s.bss e).ts (s.bss o).ts then oldest else some e
    | none => some e

/-- `cfg80211_bss_expire_oldest` -/
def cfg80211BssExpireOldest (rb : Balancer Nat) : Bool × Rdev :=
  match s.bssList.foldl s.older none with
  | none => (false, s)
  | some oldest => s.unlink rb oldest

/-! ## Updates -/

/-- The new elements of an entry that was found; none if the frame is dropped. -/
def updateIes (found : Nat) (tmp : Bss) : Option Rdev :=
  let b := s.bss found
  match tmp.proberespIes with
  | some ies =>
      some (s.onBss found fun b =>
        { b with proberespIes := some ies, key := { b.key with ies := some ies } })
  | none =>
      match tmp.beaconIes with
      | some ies =>
          if b.hiddenBeaconBss.isSome ∧ s.hiddenEmpty found = false then none
          else
            -- the elements are overridden only if they were those of a beacon
            let keyIes := if b.beaconIes = b.key.ies then some ies else b.key.ies
            let s := s.onBss found fun b =>
              { b with beaconIes := some ies, key := { b.key with ies := keyIes } }
            some ((s.hiddenList found).foldl
              (fun s e => s.onBss e fun b => { b with beaconIes := some ies }) s)
      | none => some s

/-- The entry that was found is updated; none if the frame is dropped. -/
def updateFound (found : Nat) (tmp : Bss) : Option Rdev :=
  (s.updateIes found tmp).map fun s =>
    s.onBss found fun b =>
      { b with key := { b.key with capability := tmp.key.capability }, ts := tmp.ts }

/-- A new entry that is in no list yet. -/
def allocBss (tmp : Bss) : Rdev :=
  { s with
    bss := Function.update s.bss s.allocated
      { tmp with hiddenNext := s.allocated, hiddenPrev := s.allocated }
    allocated := s.allocated + 1 }

/-- The new entry is grouped: with the hidden beacon that it reveals, or with the probe
responses that reveal it. -/
def groupBss (new : Nat) (tmp : Bss) : Option Rdev :=
  if tmp.proberespIes.isSome then
    match (s.rbFindBss tmp.key .hideZlen).or (s.rbFindBss tmp.key .hideNul) with
    | none => some s
    | some hidden =>
        let beaconIes := (s.bss hidden).beaconIes
        some ((s.onBss new fun b => { b with hiddenBeaconBss := some hidden }).hiddenAdd new hidden
          |>.onBss new fun b => { b with beaconIes := beaconIes })
  else s.cfg80211CombineBsses new

/-- `cfg80211_bss_update`, with the limit of entries and whether there is memory for one. -/
def cfg80211BssUpdate (rb : Balancer Nat) (bssEntriesLimit : Nat) (tmp : Bss) (memory : Bool) :
    Option Nat × Rdev :=
  if tmp.key.ies = none then (none, s)
  else
    match s.rbFindBss tmp.key .regular with
    | some found =>
        match s.updateFound found tmp with
        | none => (none, s)
        | some s => (some found, s)
    | none =>
        if memory = false then (none, s)
        else
          let new := s.allocated
          match (s.allocBss tmp).groupBss new tmp with
          | none => (none, s.allocBss tmp)
          | some s =>
              if s.bssEntries ≥ bssEntriesLimit then
                match s.cfg80211BssExpireOldest rb with
                | (false, s) => (none, s)
                | (true, s) => (some new, s.insertBss rb new)
              else (some new, s.insertBss rb new)

end Rdev

/-! ## Runs -/

/-- A beacon or a probe response, with the channel that was made out for it. -/
structure Frame where
  channel : Nat
  scanWidth : Nat
  bssid : BitVec 48
  capability : UInt16
  ies : BssIes
  probeResp : Bool
  jiffies : UInt64

/-- The entry that `cfg80211_inform_single_bss_data` makes of a frame. -/
def Frame.tmp (frame : Frame) : Bss where
  key := ⟨frame.channel, frame.bssid, frame.capability, some frame.ies⟩
  scanWidth := frame.scanWidth
  beaconIes := if frame.probeResp then none else some frame.ies
  proberespIes := if frame.probeResp then some frame.ies else none
  hiddenBeaconBss := none
  hiddenNext := 0
  hiddenPrev := 0
  hold := 0
  ts := frame.jiffies

inductive ScanEvent
  | inform (frame : Frame) (memory : Bool)
  | unlink (e : Nat)
  | expire (expireTime : UInt64)
  | hold (e hold : Nat)

def step (rb : Balancer Nat) (bssEntriesLimit : Nat) (s : Rdev) : ScanEvent → Rdev
  | .inform frame memory => (s.cfg80211BssUpdate rb bssEntriesLimit frame.tmp memory).2
  | .unlink e => s.cfg80211UnlinkBss rb e
  | .expire expireTime => s.cfg80211BssExpire rb expireTime
  | .hold e hold => s.onBss e fun b => { b with hold := hold }

/-- A store without entries. -/
def emptyRdev : Rdev where
  bss := fun _ => ⟨⟨0, 0, 0, none⟩, 0, none, none, none, 0, 0, 0, 0⟩
  allocated := 0
  bssList := []
  bssTree := .leaf
  bssEntries := 0

end Iwlwifi.Scan
