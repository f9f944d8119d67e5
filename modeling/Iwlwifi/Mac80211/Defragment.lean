import Iwlwifi.Mac80211.Ccmp

/-!
# Decryption and defragmentation

`ieee80211_rx_h_decrypt` and `ieee80211_rx_h_defragment` of `net/mac80211/rx.c`.  Key objects
have identities; what a key object is made of does not change while it lives, and the receive
path finds it through the pointers of the station and the interface, which may change from frame
to frame.  CCMP and GCMP are those of `Ccmp`; the other ciphers, which store no packet number
that the fragment cache reads, are a parameter.
-/

namespace Iwlwifi

open Function (update)

/-! ## Selecting the key -/

inductive Cipher
  | wep40 | wep104 | tkip | ccmp | ccmp256 | aesCmac | bipCmac256 | bipGmac128 | bipGmac256
  | gcmp | gcmp256 | other
  deriving DecidableEq

/-- The fields of `struct ieee80211_cipher_scheme` that locate the key index. -/
structure CipherScheme where
  hdrLen : Nat
  keyIdxOff : Nat
  keyIdxShift : Nat
  keyIdxMask : Nat

/-- The key pointers of a station. -/
structure StaKeys where
  ptkIdx : Nat
  ptk : Nat → Option Nat
  gtk : Nat → Option Nat
  cipherScheme : Option CipherScheme
  mfp : Bool

/-- A frame as the receive handlers get it, with the pointers they follow. -/
structure RxData where
  skb : Skb
  status : RxStatus
  sta : Option StaKeys
  sdataKeys : Nat → Option Nat
  defaultMgmtKey : Option Nat
  tainted : Nat → Bool
  jiffies : Nat
  linearizeFails : Bool
  trimFails : Bool
  expandFails : Bool

/-- What the key objects are made of. -/
structure KeyObjects where
  cipher : Nat → Cipher
  aead : Nat → Aead
  stack : List UInt8
  otherDecrypt : Nat → CipherRx → RxResult × Skb

/-- `ieee80211_get_keyid`: `none` where it is negative. -/
def ieee80211GetKeyid (skb : Skb) (cs : Option CipherScheme) : Option Nat :=
  let hdrlen := skb.hdrlen
  let minlen := hdrlen + cs.elim 4 (·.hdrLen)
  let keyid := (skb.byte (hdrlen + cs.elim 3 (·.keyIdxOff))).toNat
  let keyid := cs.elim (keyid >>> 6) fun cs => (keyid &&& cs.keyIdxMask) >>> cs.keyIdxShift
  if skb.length < minlen then none else if 4 ≤ keyid then none else some keyid

/-- The key index in a management MIC element of a given size at the end of a frame. -/
def mmieKeyId (skb : Skb) (size : Nat) : Option Nat :=
  let mmie := skb.drop (skb.length - size)
  if skb.length < 24 + size then none
  else if mmie.getD 0 0 = 76 ∧ (mmie.getD 1 0).toNat = size - 2 then
    some ((mmie.getD 2 0).toNat + 256 * (mmie.getD 3 0).toNat)
  else none

/-- `ieee80211_get_mmie_keyidx` -/
def ieee80211GetMmieKeyidx (skb : Skb) : Option Nat :=
  if skb.length < 24 + 18 ∨ ¬ skb.multicast then none
  else if ¬ ieee80211IsRobustMgmtFrame skb then none
  else (mmieKeyId skb 18).or (mmieKeyId skb 26)

/-- `ieee80211_is_group_privacy_action` -/
def ieee80211IsGroupPrivacyAction (skb : Skb) : Bool :=
  decide (25 ≤ skb.length) &&
    skb.frameControl &&& (ieee80211FctlFtype ||| ieee80211FctlStype) == 0x00d0 &&
    skb.multicast && (skb.byte 24 == 13 || skb.byte 24 == 14)

/-- The first of the group keys. -/
def firstGroupKey (keys : Nat → Option Nat) : Option Nat :=
  (List.range 4).findSome? keys

/-- How the selection of `ieee80211_rx_h_decrypt` ends. -/
inductive KeyChoice
  | result (result : RxResult) (key : Option Nat)
  | decrypt (key : Option Nat)

/-- The key of a unicast frame that is not a pairwise one, or of a group-addressed frame. -/
def defaultKey (cipher : Nat → Cipher) (rx : RxData) (keyidx : Nat) : Option Nat :=
  let gtk := if rx.skb.multicast then rx.sta.bind fun sta => sta.gtk keyidx else none
  match gtk with
  | some key => some key
  | none =>
      match rx.sdataKeys keyidx with
      | some key =>
          if cipher key ≠ .wep40 ∧ cipher key ≠ .wep104 ∧ ¬ rx.skb.multicast then none
          else some key
      | none => none

/-- The key that could have protected an unprotected frame. -/
def unprotectedKey (rx : RxData) : Option Nat :=
  match (if ieee80211IsMgmt rx.skb.frameControl && rx.skb.multicast then rx.defaultMgmtKey
    else none) with
  | some key => some key
  | none => (rx.sta.bind fun sta => firstGroupKey sta.gtk).or (firstGroupKey rx.sdataKeys)

/-- The key selection of `ieee80211_rx_h_decrypt`. -/
def selectKey (cipher : Nat → Cipher) (rx : RxData) : KeyChoice :=
  let protect := ieee80211HasProtected rx.skb.frameControl
  let cs := if protect then rx.sta.bind (·.cipherScheme) else none
  let keyid := ieee80211GetKeyid rx.skb cs
  let stripped := rx.status.decrypted && rx.status.ivStripped
  let mmie := if protect then none else ieee80211GetMmieKeyidx rx.skb
  let staPtk := rx.sta.bind fun sta => sta.ptk sta.ptkIdx
  if rx.sta.isSome && protect && keyid.isNone then .result .dropUnusable none
  else
    let ptkIdx := if protect then rx.sta.bind fun sta => keyid.bind sta.ptk else none
    if ¬ rx.skb.multicast ∧ staPtk.isSome then
      let key := ptkIdx.or staPtk
      if stripped then .result .cont key
      else if ¬ protect then .result .cont key
      else .decrypt key
    else
      match mmie with
      | some mmieKeyidx =>
          if stripped then .result .cont none
          else if mmieKeyidx < 4 ∨ 6 ≤ mmieKeyidx then .result .dropMonitor none
          else if rx.sta.any (·.mfp) && ieee80211IsGroupPrivacyAction rx.skb then
            .result .dropMonitor none
          else .decrypt ((rx.sta.bind fun sta => sta.gtk mmieKeyidx).or (rx.sdataKeys mmieKeyidx))
      | none =>
          if ¬ protect then .result .cont (unprotectedKey rx)
          else if stripped then .result .cont none
          else
            match keyid with
            | none => .result .dropUnusable none
            | some keyidx => .decrypt (defaultKey cipher rx keyidx)

/-! ## Decryption -/

/-- What the ciphers are given of a frame. -/
def RxData.cipherRx (rx : RxData) : CipherRx where
  skb := rx.skb
  status := rx.status
  hasSta := rx.sta.isSome
  securityIdx := (ieee80211ParseQos rx.skb).2
  linearizeFails := rx.linearizeFails
  trimFails := rx.trimFails

/-- The frame after `ieee80211_rx_h_decrypt`, with `rx->key` and the keys' packet numbers. -/
structure DecryptOut where
  result : RxResult
  key : Option Nat
  skb : Skb
  keys : Nat → CcmpKey

/-- A cipher that keeps its packet numbers where the fragment cache reads them. -/
def Cipher.hasPn : Cipher → Bool
  | .ccmp | .ccmp256 | .gcmp | .gcmp256 => true
  | _ => false

def pnNonce : Cipher → Skb → Pn → List UInt8
  | .gcmp | .gcmp256 => gcmpNonce
  | _ => ccmpNonce

/-- `ieee80211_rx_h_decrypt` -/
def ieee80211RxHDecrypt (objects : KeyObjects) (keys : Nat → CcmpKey) (rx : RxData) :
    DecryptOut :=
  match selectKey objects.cipher rx with
  | .result result key => ⟨result, key, rx.skb, keys⟩
  | .decrypt none => ⟨.dropMonitor, none, rx.skb, keys⟩
  | .decrypt (some key) =>
      if rx.tainted key then ⟨.dropMonitor, some key, rx.skb, keys⟩
      else if (objects.cipher key).hasPn then
        let out := pnDecrypt (pnNonce (objects.cipher key)) (objects.aead key) objects.stack
          rx.cipherRx (keys key)
        ⟨out.result, some key, out.skb, update keys key out.key⟩
      else
        let out := objects.otherDecrypt key rx.cipherRx
        ⟨out.1, some key, out.2, keys⟩

/-! ## The fragment cache -/

/-- A fragment as the cache sees it, for reference: when it came, what it was and what it
decrypted with. -/
structure Arrival where
  time : Nat
  skb : Skb
  queue : Nat
  key : Option Nat
  /-- The packet number of a frame that CCMP or GCMP has checked and decrypted. -/
  pn : Option Pn

/-- An `sk_buff` of an entry's list. -/
structure QueuedSkb where
  data : Skb
  arrival : Arrival

/-- `struct ieee80211_fragment_entry` -/
structure FragmentEntry where
  skbList : List QueuedSkb
  firstFragTime : Nat
  seq : Nat
  lastFrag : Nat
  rxQueue : Nat
  checkSequentialPn : Bool
  lastPn : Pn

structure FragmentCache where
  fragments : Nat → FragmentEntry
  fragmentNext : Nat

/-- The fragment number of a frame. -/
def Skb.frag (skb : Skb) : Nat := skb.seqCtrl &&& 0x000f

def Skb.seq (skb : Skb) : Nat := (skb.seqCtrl &&& 0xfff0) >>> 4

def Skb.ftype (skb : Skb) : Nat := skb.frameControl &&& ieee80211FctlFtype

/-- `skb_pull`, which does nothing where the data are too short. -/
def Skb.pull (skb : Skb) (len : Nat) : Skb := if skb.length < len then skb else skb.drop len

/-- `ieee80211_reassemble_add`, with the packet number that its caller fills in. -/
def ieee80211ReassembleAdd (cache : FragmentCache) (frag seq rxQueue jiffies : Nat)
    (skb : QueuedSkb) (pn : Option Pn) : FragmentCache where
  fragments := update cache.fragments cache.fragmentNext
    { skbList := [skb]
      firstFragTime := jiffies
      seq := seq
      lastFrag := frag
      rxQueue := rxQueue
      checkSequentialPn := pn.isSome
      lastPn := pn.getD (cache.fragments cache.fragmentNext).lastPn }
  fragmentNext := if 4 ≤ cache.fragmentNext + 1 then 0 else cache.fragmentNext + 1

/-- The entry waits for this fragment of this frame. -/
def FragmentEntry.waitsFor (entry : FragmentEntry) (frag seq rxQueue : Nat) (hdr : Skb) : Bool :=
  match entry.skbList.head? with
  | none => false
  | some first =>
      entry.seq == seq && entry.rxQueue == rxQueue && entry.lastFrag + 1 == frag &&
        hdr.ftype == first.data.ftype && hdr.addr1 == first.data.addr1 &&
        hdr.addr2 == first.data.addr2

/-- The loop of `ieee80211_reassemble_find`, from the entry before `idx` on.  Entries that have
timed out are purged on the way. -/
def reassembleFindFrom (hz jiffies frag seq rxQueue : Nat) (hdr : Skb) :
    Nat → Nat → (Nat → FragmentEntry) → (Nat → FragmentEntry) × Option Nat
  | 0, _, fragments => (fragments, none)
  | fuel + 1, idx, fragments =>
      let idx := if idx = 0 then 3 else idx - 1
      let entry := fragments idx
      if entry.waitsFor frag seq rxQueue hdr then
        if entry.firstFragTime + 2 * hz < jiffies then
          reassembleFindFrom hz jiffies frag seq rxQueue hdr fuel idx
            (update fragments idx { entry with skbList := [] })
        else (fragments, some idx)
      else reassembleFindFrom hz jiffies frag seq rxQueue hdr fuel idx fragments

/-- `ieee80211_reassemble_find` -/
def ieee80211ReassembleFind (cache : FragmentCache) (hz jiffies frag seq rxQueue : Nat)
    (hdr : Skb) : FragmentCache × Option Nat :=
  let found := reassembleFindFrom hz jiffies frag seq rxQueue hdr 4 cache.fragmentNext
    cache.fragments
  ({ cache with fragments := found.1 }, found.2)

/-- The packet number plus one, with the carry going up from the last byte. -/
def Pn.next (pn : Pn) : Pn := .ofNat (pn.value + 1)

/-- What `ieee80211_rx_h_defragment` leaves: `rx->skb` and the fragments it was put together
from, where it has one. -/
structure DefragOut where
  result : RxResult
  output : Option (Skb × List Arrival)
  cache : FragmentCache

/-- The body of the fragment is added to its entry, and the frame handed on if it is the last. -/
def addToEntry (cache : FragmentCache) (idx : Nat) (arrival : Arrival) (lastPn : Pn)
    (expandFails : Bool) : DefragOut :=
  let entry := cache.fragments idx
  let skb := arrival.skb
  let list := entry.skbList ++ [⟨skb.pull skb.hdrlen, arrival⟩]
  let entry := { entry with lastFrag := skb.frag, lastPn := lastPn }
  if ieee80211HasMorefrags skb.frameControl then
    ⟨.queued, none,
      { cache with fragments := update cache.fragments idx { entry with skbList := list } }⟩
  else
    let cache := { cache with fragments := update cache.fragments idx { entry with skbList := [] } }
    if expandFails then ⟨.dropUnusable, none, cache⟩
    else
      ⟨.cont, some ((list.map (·.data)).flatten, list.map (·.arrival)), cache⟩

/-- `ieee80211_rx_h_defragment` on the frame that `ieee80211_rx_h_decrypt` let through. -/
def ieee80211RxHDefragment (objects : KeyObjects) (hz : Nat) (cache : FragmentCache)
    (rx : RxData) (keys : Nat → CcmpKey) (arrival : Arrival) : DefragOut :=
  let skb := arrival.skb
  let fc := skb.frameControl
  let frag := skb.frag
  let pnKey := arrival.key.filter fun key => (objects.cipher key).hasPn
  let rxPn (key : Nat) := (keys key).rxPn (ieee80211ParseQos rx.skb).2
  if ieee80211IsCtl fc then ⟨.cont, none, cache⟩
  else if skb.multicast then ⟨.cont, some (skb, [arrival]), cache⟩
  else if !ieee80211HasMorefrags fc && frag == 0 then ⟨.cont, some (skb, [arrival]), cache⟩
  else if rx.linearizeFails then ⟨.dropUnusable, none, cache⟩
  else if frag = 0 then
    let pn := if ieee80211HasProtected fc then pnKey.map rxPn else none
    ⟨.queued, none, ieee80211ReassembleAdd cache frag skb.seq arrival.queue rx.jiffies
      ⟨skb, arrival⟩ pn⟩
  else
    let found := ieee80211ReassembleFind cache hz rx.jiffies frag skb.seq arrival.queue skb
    match found.2 with
    | none => ⟨.dropMonitor, none, found.1⟩
    | some idx =>
        let entry := found.1.fragments idx
        if entry.checkSequentialPn then
          match pnKey with
          | none => ⟨.dropUnusable, none, found.1⟩
          | some key =>
              if entry.lastPn.next ≠ rxPn key then ⟨.dropUnusable, none, found.1⟩
              else addToEntry found.1 idx arrival entry.lastPn.next rx.expandFails
        else addToEntry found.1 idx arrival entry.lastPn rx.expandFails

/-! ## The interface -/

/-- An interface with its fragment cache, the packet numbers of all key objects, the number of
frames seen and the frames that defragmentation has put out. -/
structure RxInterface where
  cache : FragmentCache
  keys : Nat → CcmpKey
  frames : Nat
  outputs : List (Skb × List Arrival)

/-- The frame is decrypted in this pass by CCMP or GCMP under the key, with its packet number
checked. -/
def pnChecked (objects : KeyObjects) (rx : RxData) : Option Nat :=
  match selectKey objects.cipher rx with
  | .decrypt (some key) =>
      if (objects.cipher key).hasPn && !rx.status.pnValidated &&
          (ieee80211IsData rx.skb.frameControl || ieee80211IsRobustMgmtFrame rx.skb) then some key
      else none
  | _ => none

/-- The record of a frame that came out of `ieee80211_rx_h_decrypt`. -/
def RxInterface.arrival (s : RxInterface) (objects : KeyObjects) (rx : RxData) : Arrival :=
  let out := ieee80211RxHDecrypt objects s.keys rx
  { time := s.frames
    skb := out.skb
    queue := (ieee80211ParseQos rx.skb).1
    key := out.key
    pn := (pnChecked objects rx).map fun _ => ccmpHdr2pn (rx.skb.drop rx.skb.hdrlen) }

/-- A frame through both handlers. -/
def RxInterface.step (objects : KeyObjects) (hz : Nat) (s : RxInterface) (rx : RxData) :
    RxInterface :=
  let decrypted := ieee80211RxHDecrypt objects s.keys rx
  if decrypted.result = .cont then
    let out := ieee80211RxHDefragment objects hz s.cache rx decrypted.keys
      (s.arrival objects rx)
    { cache := out.cache
      keys := decrypted.keys
      frames := s.frames + 1
      outputs := s.outputs ++ out.output.toList }
  else { s with keys := decrypted.keys, frames := s.frames + 1 }

end Iwlwifi
