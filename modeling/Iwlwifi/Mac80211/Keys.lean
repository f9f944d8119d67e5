import Mathlib.Logic.Function.Basic

/-!
# Keys and the tailroom that software encryption needs

Every interface counts in `neededCnt` (`crypto_tx_tailroom_needed_cnt`) the keys for which frames
need room at their end: keys that are not in the hardware, and keys whose flags ask for the room
although they are.  The counter of an access point is mirrored into its VLAN interfaces.  Keys
that were removed from a station interface stay counted for a while, in `pendingDec`
(`crypto_tx_tailroom_pending_dec`).

Keys live at pointers; `keyList` holds the keys of an interface, and the arrays `ptk` and `gtk` of
a station and `keys` of an interface are one map of slots.  The cipher state of a key, default
keys, aggregation sessions and fast transmission are left out.
-/

namespace Iwlwifi.Keys

open Function (update)

/-- `vif.type`; a VLAN interface names its access point (`bss`). -/
inductive IfType (ι : Type*)
  | ap
  | apVlan (master : ι)
  | station
  | other
deriving DecidableEq

inductive Cipher
  | wep40
  | wep104
  | tkip
  | ccmp
  | ccmp256
  | aesCmac
  | bipCmac256
  | bipGmac128
  | bipGmac256
  | gcmp
  | gcmp256
  | other (suite : UInt32)
deriving DecidableEq, Repr

def eINVAL : Int := 22
def eOPNOTSUPP : Int := 95

def wlanKeyLenTkip : Nat := 32
def nl80211TkipDataOffsetTxMicKey : Nat := 16
def numDefaultKeys : Nat := 4
def numDefaultMgmtKeys : Nat := 2

/-- The flags of a key by which a driver asks for tailroom. -/
structure TailroomFlags where
  generateMmic : Bool := false
  putMicSpace : Bool := false
  reserveTailroom : Bool := false
deriving DecidableEq, Repr

def TailroomFlags.any (flags : TailroomFlags) : Bool :=
  flags.generateMmic || flags.putMicSpace || flags.reserveTailroom

/-- What a key is made of. -/
structure KeyConf where
  keyidx : Nat
  pairwise : Bool
  noAutoTx : Bool := false
  cipher : Cipher
  key : List UInt8
deriving DecidableEq, Repr

/-- `struct ieee80211_key`; `uploaded` is `KEY_FLAG_UPLOADED_TO_HARDWARE` and `tainted` is
`KEY_FLAG_TAINTED`. -/
structure Key (ι σ : Type*) where
  sdata : ι
  sta : Option σ
  conf : KeyConf
  flags : TailroomFlags := {}
  uploaded : Bool := false
  tainted : Bool := false
deriving DecidableEq

/-- The places at which a key can be installed. -/
inductive Slot (ι σ : Type*)
  | ptk (sta : σ) (idx : Nat)
  | gtk (sta : σ) (idx : Nat)
  | keys (sdata : ι) (idx : Nat)
deriving DecidableEq

/-- The hardware and its interfaces, in the order of `local->interfaces`. -/
structure Local (ι : Type*) where
  type : ι → IfType ι
  interfaces : List ι
  running : ι → Bool
  setKeyOp : Bool
  supportsPerStaGtk : Bool
  swCryptoControl : Bool
  masterIsAp : ∀ {v a}, type v = .apVlan a → type a = .ap
  once : interfaces.Nodup
  all : ∀ i, i ∈ interfaces

/-- What an operation finds: the driver's answer to `SET_KEY` for a key, and the flags it leaves
there; the stations the driver knows; and whether the system sleeps. -/
structure Env (σ κ : Type*) where
  setKey : κ → Int × TailroomFlags
  staUploaded : σ → Bool
  wowlan : Bool := false

structure State (ι σ κ : Type*) where
  keys : κ → Key ι σ
  keyList : ι → List κ
  slot : Slot ι σ → Option κ
  ptkIdx : σ → Nat
  neededCnt : ι → Int
  pendingDec : ι → Nat

variable {ι σ κ : Type*}

def Key.pairwise (key : Key ι σ) : Bool := key.conf.pairwise

/-- Where a key is installed. -/
def slotOf (sdata : ι) (sta : Option σ) (pairwise : Bool) (idx : Nat) : Slot ι σ :=
  match sta with
  | some sta => if pairwise then .ptk sta idx else .gtk sta idx
  | none => .keys sdata idx

def Key.slot (key : Key ι σ) : Slot ι σ :=
  slotOf key.sdata key.sta key.pairwise key.conf.keyidx

/-- Frames under this key need tailroom. -/
def Key.needsTailroom (key : Key ι σ) : Bool := !key.uploaded || key.flags.any

section

variable [DecidableEq ι] [DecidableEq σ] [DecidableEq κ]

/-- The access point that has a VLAN interface on `u.ap.vlans`, as long as it is up. -/
def Local.master (l : Local ι) (v : ι) : Option ι :=
  match l.type v with
  | .apVlan sdata => if l.running v then some sdata else none
  | _ => none

/-- `u.ap.vlans` -/
def Local.vlans (l : Local ι) (sdata : ι) : List ι :=
  l.interfaces.filter fun v => l.master v = some sdata

def State.setKeyAt (s : State ι σ κ) (k : κ) (key : Key ι σ) : State ι σ κ :=
  { s with keys := update s.keys k key }

def State.setSlot (s : State ι σ κ) (at' : Slot ι σ) (k : Option κ) : State ι σ κ :=
  { s with slot := update s.slot at' k }

def listAddTail (s : State ι σ κ) (k : κ) (sdata : ι) : State ι σ κ :=
  { s with keyList := update s.keyList sdata (s.keyList sdata ++ [k]) }

/-- A key is on the list of its own interface. -/
def listDel (s : State ι σ κ) (k : κ) : State ι σ κ :=
  { s with
    keyList := update s.keyList (s.keys k).sdata
      ((s.keyList (s.keys k).sdata).erase k) }

variable (l : Local ι) (env : Env σ κ) (s : State ι σ κ)

/-! ## The counters -/

def updateVlanTailroomNeedCount (sdata : ι) (delta : Int) : State ι σ κ :=
  if l.type sdata = .ap then
    { s with
      neededCnt := fun v =>
        if l.master v = some sdata then s.neededCnt v + delta else s.neededCnt v }
  else s

def incrementTailroomNeedCount (sdata : ι) : State ι σ κ :=
  let s := updateVlanTailroomNeedCount l s sdata 1
  { s with neededCnt := update s.neededCnt sdata (s.neededCnt sdata + 1) }

def decreaseTailroomNeedCount (sdata : ι) (delta : Int) : State ι σ κ :=
  let s := updateVlanTailroomNeedCount l s sdata (-delta)
  { s with neededCnt := update s.neededCnt sdata (s.neededCnt sdata - delta) }

/-! ## The hardware -/

/-- Why a key is not even offered to the driver. -/
def refusal (key : Key ι σ) : Option Int :=
  if !l.setKeyOp then some (-eOPNOTSUPP)
  else if key.sta.isSome && !key.pairwise && !l.supportsPerStaGtk then some (-eOPNOTSUPP)
  else if key.sta.any fun sta => !env.staUploaded sta then some (-eOPNOTSUPP)
  else
    match l.type key.sdata with
    | .apVlan _ => if !key.pairwise then some 1 else none
    | _ => none

/-- The end of `ieee80211_key_enable_hw_accel` for a key that the driver does not take. -/
def outUnsupported (ret : Int) : Cipher → Int
  | .other _ => -eINVAL
  | _ => if ret = 1 then 0 else if l.swCryptoControl then -eINVAL else 0

def keyEnableHwAccel (k : κ) : State ι σ κ × Int :=
  let key := s.keys k
  if key.tainted then
    let s :=
      if key.uploaded && !key.flags.any then incrementTailroomNeedCount l s key.sdata else s
    (s.setKeyAt k { key with uploaded := false }, -eINVAL)
  else
    match refusal l env key with
    | some ret => (s, outUnsupported l ret key.conf.cipher)
    | none =>
      let (ret, flags) := env.setKey k
      if ret = 0 then
        let s := s.setKeyAt k { key with flags := flags, uploaded := true }
        (if !flags.any then decreaseTailroomNeedCount l s key.sdata 1 else s, 0)
      else (s.setKeyAt k { key with flags := flags }, outUnsupported l ret key.conf.cipher)

def keyDisableHwAccel (k : κ) : State ι σ κ :=
  let key := s.keys k
  if !l.setKeyOp || !key.uploaded then s
  else
    let s := if !key.flags.any then incrementTailroomNeedCount l s key.sdata else s
    s.setKeyAt k { key with uploaded := false }

def hwKeyReplace (old : κ) (new : Option κ) (pairwise : Bool) : State ι σ κ × Int :=
  let oldKey := s.keys old
  if !oldKey.uploaded then (s, 0)
  else
    let current := oldKey.sta.any fun sta => s.slot (.ptk sta (s.ptkIdx sta)) = some old
    let s :=
      if new.isSome && pairwise && current then s.setKeyAt old { oldKey with tainted := true }
      else s
    let s := keyDisableHwAccel l s old
    match new with
    | some new => keyEnableHwAccel l env s new
    | none => (s, 0)

/-! ## Installing and removing keys -/

/-- The part of `ieee80211_key_replace` that puts the new key in place of the old one. -/
def assignSlot (sdata : ι) (sta : Option σ) (pairwise : Bool) (idx : Nat) (new : Option κ) :
    State ι σ κ :=
  let assigned := s.setSlot (slotOf sdata sta pairwise idx) new
  match sta, new with
  | some sta, some k =>
    if pairwise && !(s.keys k).conf.noAutoTx then
      { assigned with ptkIdx := update s.ptkIdx sta idx }
    else assigned
  | _, _ => assigned

def keyReplace (sdata : ι) (sta : Option σ) (pairwise : Bool) :
    (old new : Option κ) → State ι σ κ × Int
  | none, none => (s, 0)
  | some old, new =>
    let s := match new with
      | some new => listAddTail s new sdata
      | none => s
    let idx := (s.keys old).conf.keyidx
    let (s, ret) := hwKeyReplace l env s old new pairwise
    if ret ≠ 0 then (s, ret)
    else (listDel (assignSlot s sdata sta pairwise idx new) old, 0)
  | none, some new =>
    let s := listAddTail s new sdata
    let idx := (s.keys new).conf.keyidx
    let (s, ret) := if !env.wowlan then keyEnableHwAccel l env s new else (s, 0)
    if ret ≠ 0 then (s, ret)
    else (assignSlot s sdata sta pairwise idx (some new), 0)

def keyDestroy (k : κ) (delayTailroom : Bool) : State ι σ κ :=
  let sdata := (s.keys k).sdata
  if delayTailroom then
    { s with pendingDec := update s.pendingDec sdata (s.pendingDec sdata + 1) }
  else decreaseTailroomNeedCount l s sdata 1

/-- `ieee80211_key_free` of a key that is in use. -/
def keyFree (k : κ) (delayTailroom : Bool) : State ι σ κ :=
  let key := s.keys k
  keyDestroy l (keyReplace l env s key.sdata key.sta key.pairwise (some k) none).1 k delayTailroom

/-- A TKIP key without the key of the transmit MIC. -/
def maskTxMicKey (key : List UInt8) : List UInt8 :=
  key.take nl80211TkipDataOffsetTxMicKey ++ List.replicate 8 0 ++
    key.drop (nl80211TkipDataOffsetTxMicKey + 8)

def keyIdentical (sdata : ι) (old : Option (Key ι σ)) (new : KeyConf) : Bool :=
  match old with
  | none => false
  | some old =>
    if new.key.length ≠ old.conf.key.length then false
    else if l.type sdata = .station && new.cipher = .tkip && new.key.length = wlanKeyLenTkip &&
        !new.pairwise then
      maskTxMicKey old.conf.key = maskTxMicKey new.key
    else old.conf.key = new.key

/-- `ieee80211_key_link` of a key just allocated at `k`. -/
def keyLink (k : κ) (conf : KeyConf) (sdata : ι) (sta : Option σ) : State ι σ κ × Int :=
  let delayTailroom : Bool := l.type sdata = .station
  let old := s.slot (slotOf sdata sta conf.pairwise conf.keyidx)
  let otherCipher (other : Option κ) : Bool :=
    other.any fun other => (s.keys other).conf.cipher ≠ conf.cipher
  let clash := match sta, conf.pairwise with
    | some sta, true => otherCipher (s.slot (.ptk sta (conf.keyidx ^^^ 1))) || otherCipher old
    | none, true => false
    | _, false => otherCipher old
  if clash then (s, -eOPNOTSUPP)
  else if keyIdentical l sdata (old.map s.keys) conf then (s, 0)
  else
    let s := s.setKeyAt k { sdata := sdata, sta := sta, conf := conf }
    let s := incrementTailroomNeedCount l s sdata
    let (s, ret) := keyReplace l env s sdata sta conf.pairwise old (some k)
    if ret = 0 then
      (match old with
        | some old => keyDestroy l s old delayTailroom
        | none => s, ret)
    else (keyFree l env s k delayTailroom, ret)

/-! ## Groups of keys -/

def reenableKey (s : State ι σ κ) (k : κ) : State ι σ κ :=
  (keyEnableHwAccel l env (incrementTailroomNeedCount l s (s.keys k).sdata) k).1

def resetTailroomNeedCount (sdata : ι) : State ι σ κ :=
  let cleared (v : ι) : Bool := v = sdata || l.type sdata = .ap && l.master v = some sdata
  { s with
    neededCnt := fun v => if cleared v then 0 else s.neededCnt v
    pendingDec := fun v => if cleared v then 0 else s.pendingDec v }

def reenableKeys (s : State ι σ κ) (sdata : ι) : State ι σ κ :=
  let s := resetTailroomNeedCount l s sdata
  if l.running sdata then (s.keyList sdata).foldl (reenableKey l env) s else s

/-- The part of `ieee80211_reconfig` that adds the keys back. -/
def reconfig : State ι σ κ := l.interfaces.foldl (reenableKeys l env) s

/-- `ieee80211_delayed_tailroom_dec`, and the start of `ieee80211_free_keys_iface`. -/
def delayedTailroomDec (sdata : ι) : State ι σ κ :=
  let s := decreaseTailroomNeedCount l s sdata (s.pendingDec sdata)
  { s with pendingDec := update s.pendingDec sdata 0 }

def unlinkKey (s : State ι σ κ) (k : κ) : State ι σ κ :=
  let key := s.keys k
  (keyReplace l env s key.sdata key.sta key.pairwise (some k) none).1

/-- The keys taken off the list are collected. -/
def freeKeysIface (s : State ι σ κ × List κ) (sdata : ι) : State ι σ κ × List κ :=
  let s' := delayedTailroomDec l s.1 sdata
  ((s'.keyList sdata).foldl (unlinkKey l env) s', s.2 ++ s'.keyList sdata)

def freeKeys (sdata : ι) : State ι σ κ :=
  let (s, keys) := freeKeysIface l env (s, []) sdata
  let (s, keys) :=
    if l.type sdata = .ap then (l.vlans sdata).foldl (freeKeysIface l env) (s, keys)
    else (s, keys)
  keys.foldl (fun s k => keyDestroy l s k false) s

def freeSlot (s : State ι σ κ) (at' : Slot ι σ) : State ι σ κ :=
  match s.slot at' with
  | none => s
  | some k => keyDestroy l (unlinkKey l env s k) k (l.type (s.keys k).sdata = .station)

def freeStaKeys (sta : σ) : State ι σ κ :=
  let s := (List.range (numDefaultKeys + numDefaultMgmtKeys)).foldl
    (fun s i => freeSlot l env s (.gtk sta i)) s
  (List.range numDefaultKeys).foldl (fun s i => freeSlot l env s (.ptk sta i)) s

/-- The part of `ieee80211_resume_disconnect` that taints the keys. -/
def resumeDisconnect (sdata : ι) : State ι σ κ :=
  if l.type sdata = .station then
    { s with
      keys := fun k =>
        if k ∈ s.keyList sdata then { s.keys k with tainted := true } else s.keys k }
  else s

/-! ## Runs -/

inductive Op (ι σ κ : Type*)
  | keyLink (k : κ) (conf : KeyConf) (sdata : ι) (sta : Option σ)
  | keyFree (k : κ) (delayTailroom : Bool)
  | freeStaKeys (sta : σ)
  | freeKeys (sdata : ι)
  | delayedTailroomDec (sdata : ι)
  | resumeDisconnect (sdata : ι)
  | reconfig

/-- A key in use. -/
def Linked (k : κ) : Prop := k ∈ s.keyList (s.keys k).sdata

instance (k : κ) : Decidable (Linked s k) := inferInstanceAs (Decidable (_ ∈ _))

/-- The allocator gives no memory in use, `ieee80211_add_key` refuses an interface that is not
running, and no pointer to a freed key is kept. -/
def step (s : State ι σ κ) : Env σ κ × Op ι σ κ → State ι σ κ
  | (env, .keyLink k conf sdata sta) =>
    if l.running sdata ∧ ∀ i ∈ l.interfaces, k ∉ s.keyList i then
      (keyLink l env s k conf sdata sta).1
    else s
  | (env, .keyFree k delayTailroom) =>
    if Linked s k then keyFree l env s k delayTailroom else s
  | (env, .freeStaKeys sta) => freeStaKeys l env s sta
  | (env, .freeKeys sdata) => freeKeys l env s sdata
  | (_, .delayedTailroomDec sdata) => delayedTailroomDec l s sdata
  | (_, .resumeDisconnect sdata) => resumeDisconnect l s sdata
  | (env, .reconfig) => reconfig l env s

end

/-- No key is in use. -/
def State.init (keys : κ → Key ι σ) (ptkIdx : σ → Nat) : State ι σ κ where
  keys := keys
  keyList := fun _ => []
  slot := fun _ => none
  ptkIdx := ptkIdx
  neededCnt := fun _ => 0
  pendingDec := fun _ => 0

end Iwlwifi.Keys
