import Iwlwifi.Lib.Elements
import Mathlib.Logic.Function.Basic

/-!
# Parsing the elements of a frame

`ieee802_11_parse_elems_crc` of `net/mac80211/util.c`, and what it calls there and in
`net/wireless/scan.c`.  The elements of a frame are visited once, and a pointer to each is kept in
`struct ieee802_11_elems`.  Where the frame describes further networks, the elements of the one
that is asked for are put together in memory of their own, and a second pass over these overrides
the pointers of the first.  That memory is given back before the function returns.

A pointer is an offset into one of the two buffers.  Every byte that is looked at is read through
`BoundedRead`, which stops at the end of the buffer it reads.
-/

namespace Iwlwifi.ParseElems

open Lib

/-! ## The result -/

/-- The buffer that a pointer points into: the frame, or the copy of a profile. -/
inductive Mem where
  | frame
  | profile
  deriving DecidableEq

structure Ptr where
  mem : Mem
  ofs : Nat
  deriving DecidableEq

/-- The pointers of `struct ieee802_11_elems`. -/
inductive Field where
  | ieStart
  | lnkId
  | chSwTiming
  | extCapab
  | ssid
  | suppRates
  | dsParams
  | tim
  | challenge
  | rsn
  | erpInfo
  | extSuppRates
  | wmmInfo
  | wmmParam
  | htCapElem
  | htOperation
  | vhtCapElem
  | vhtOperation
  | meshConfig
  | heCap
  | heOperation
  | muEdcaParamSet
  | uoraElement
  | meshId
  | peering
  | awakeWindow
  | preq
  | prep
  | perr
  | rann
  | chSwitchIe
  | extChanswIe
  | wideBwChanswIe
  | maxChannelSwitchTime
  | countryElem
  | pwrConstrElem
  | ciscoDtpcElem
  | timeoutInt
  | opmodeNotif
  | secChanOffs
  | meshChanswParamsIe
  | maxIdlePeriodIe
  | mbssidConfigIe
  | bssidIndex
  deriving DecidableEq

/-- The size of what a pointer is declared to point to, where no length is kept beside it.  A
string of bytes that has its length beside it promises nothing more. -/
def Field.size : Field → Nat
  | .lnkId => 20
  | .chSwTiming => 4
  | .dsParams => 1
  | .tim => 4
  | .erpInfo => 1
  | .htCapElem => 26
  | .htOperation => 22
  | .vhtCapElem => 12
  | .vhtOperation => 5
  | .meshConfig => 7
  | .heOperation => 6
  | .muEdcaParamSet => 13
  | .uoraElement => 1
  | .awakeWindow => 2
  | .rann => 21
  | .chSwitchIe => 3
  | .extChanswIe => 4
  | .wideBwChanswIe => 3
  | .maxChannelSwitchTime => 1
  | .pwrConstrElem => 1
  | .ciscoDtpcElem => 1
  | .timeoutInt => 5
  | .opmodeNotif => 1
  | .secChanOffs => 1
  | .meshChanswParamsIe => 6
  | .maxIdlePeriodIe => 3
  | .mbssidConfigIe => 2
  | _ => 0

/-- `struct ieee802_11_elems`.  A pointer that has no length of its own has length zero. -/
structure Elems where
  ptr : Field → Option Ptr
  len : Field → Nat
  dtimCount : Nat
  dtimPeriod : Nat
  parseError : Bool

namespace Elems

/-- Store a pointer, and its length where one is kept. -/
def point (elems : Elems) (field : Field) (p : Ptr) (len : Nat) : Elems :=
  { elems with
    ptr := Function.update elems.ptr field (some p)
    len := Function.update elems.len field len }

/-- After the `memset`, with `ie_start` and `total_len`. -/
def initial (totalLen : Nat) : Elems :=
  Elems.point ⟨fun _ => none, fun _ => 0, 0, 0, false⟩ .ieStart ⟨.frame, 0⟩ totalLen

/-- How many bytes a pointer promises, by its length or by its type. -/
def promised (elems : Elems) (field : Field) : Nat := max field.size (elems.len field)

end Elems

/-! ## Element identifiers -/

def eidSsid : Nat := 0
def eidSuppRates : Nat := 1
def eidFhParams : Nat := 2
def eidDsParams : Nat := 3
def eidCfParams : Nat := 4
def eidTim : Nat := 5
def eidIbssParams : Nat := 6
def eidCountry : Nat := 7
def eidChallenge : Nat := 16
def eidPwrConstraint : Nat := 32
def eidChannelSwitch : Nat := 37
def eidErpInfo : Nat := 42
def eidHtCapability : Nat := 45
def eidRsn : Nat := 48
def eidExtSuppRates : Nat := 50
def eidTimeoutInterval : Nat := 56
def eidExtChanswitchAnn : Nat := 60
def eidHtOperation : Nat := 61
def eidSecondaryChannelOffset : Nat := 62
def eidMultipleBssid : Nat := 71
def eidNonTxBssidCap : Nat := 83
def eidMultiBssidIdx : Nat := 85
def eidBssMaxIdlePeriod : Nat := 90
def eidLinkId : Nat := 101
def eidChanSwitchTiming : Nat := 104
def eidMeshConfig : Nat := 113
def eidMeshId : Nat := 114
def eidPeerMgmt : Nat := 117
def eidChanSwitchParam : Nat := 118
def eidMeshAwakeWindow : Nat := 119
def eidRann : Nat := 126
def eidExtCapability : Nat := 127
def eidPreq : Nat := 130
def eidPrep : Nat := 131
def eidPerr : Nat := 132
def eidCiscoVendorSpecific : Nat := 150
def eidVhtCapability : Nat := 191
def eidVhtOperation : Nat := 192
def eidWideBwChannelSwitch : Nat := 194
def eidChannelSwitchWrapper : Nat := 196
def eidOpmodeNotif : Nat := 199
def eidVendorSpecific : Nat := 221
def eidExtension : Nat := 255

def eidExtHeCapability : Nat := 35
def eidExtHeOperation : Nat := 36
def eidExtUora : Nat := 37
def eidExtHeMuEdca : Nat := 38
def eidExtMaxChannelSwitchTime : Nat := 52
def eidExtMultipleBssidConfiguration : Nat := 55
def eidExtNonInheritance : Nat := 56

/-- The elements of the first `switch`, of which a second one is a parse error. -/
def onlyOnce : List Nat :=
  [eidSsid, eidSuppRates, eidFhParams, eidDsParams, eidCfParams, eidTim, eidIbssParams,
    eidChallenge, eidRsn, eidErpInfo, eidExtSuppRates, eidHtCapability, eidHtOperation,
    eidVhtCapability, eidVhtOperation, eidMeshId, eidMeshConfig, eidPeerMgmt, eidPreq, eidPrep,
    eidPerr, eidRann, eidChannelSwitch, eidExtChanswitchAnn, eidCountry, eidPwrConstraint,
    eidTimeoutInterval, eidSecondaryChannelOffset, eidWideBwChannelSwitch, eidChanSwitchParam,
    eidExtCapability, eidChanSwitchTiming, eidLinkId, eidBssMaxIdlePeriod]

/-! ## The plain cases of the second `switch` -/

/-- The length that an element must have. -/
inductive LengthRule where
  | any
  | atLeast (n : Nat)
  | exactly (n : Nat)

def LengthRule.fits : LengthRule → Nat → Bool
  | any, _ => true
  | atLeast n, len => n ≤ len
  | exactly n, len => len == n

/-- A case that keeps a pointer to the data of an element. -/
structure Kind where
  id : Nat
  field : Field
  rule : LengthRule
  /-- The length is kept too. -/
  keepsLen : Bool
  /-- An element of a wrong length is a parse error. -/
  strict : Bool

/-- A string of bytes, which is kept with its length whatever that is. -/
def Kind.bytes (id : Nat) (field : Field) : Kind := ⟨id, field, .any, true, false⟩

/-- Something of a fixed size. -/
def Kind.sized (id : Nat) (field : Field) (rule : LengthRule) : Kind :=
  ⟨id, field, rule, false, true⟩

/-- In the order of the source. -/
def kinds : List Kind :=
  [.sized eidChanSwitchTiming .chSwTiming (.exactly 4),
    .bytes eidExtCapability .extCapab,
    .bytes eidSsid .ssid,
    .bytes eidSuppRates .suppRates,
    .sized eidDsParams .dsParams (.atLeast 1),
    ⟨eidTim, .tim, .atLeast 4, true, true⟩,
    .bytes eidChallenge .challenge,
    .bytes eidRsn .rsn,
    .sized eidErpInfo .erpInfo (.atLeast 1),
    .bytes eidExtSuppRates .extSuppRates,
    .sized eidHtCapability .htCapElem (.atLeast 26),
    .sized eidHtOperation .htOperation (.atLeast 22),
    .sized eidVhtCapability .vhtCapElem (.atLeast 12),
    .sized eidVhtOperation .vhtOperation (.atLeast 5),
    .sized eidOpmodeNotif .opmodeNotif (.atLeast 1),
    .bytes eidMeshId .meshId,
    .sized eidMeshConfig .meshConfig (.atLeast 7),
    .bytes eidPeerMgmt .peering,
    ⟨eidMeshAwakeWindow, .awakeWindow, .atLeast 2, false, false⟩,
    .bytes eidPreq .preq,
    .bytes eidPrep .prep,
    .bytes eidPerr .perr,
    .sized eidRann .rann (.atLeast 21),
    .sized eidChannelSwitch .chSwitchIe (.exactly 3),
    .sized eidExtChanswitchAnn .extChanswIe (.exactly 4),
    .sized eidSecondaryChannelOffset .secChanOffs (.exactly 1),
    .sized eidChanSwitchParam .meshChanswParamsIe (.exactly 6),
    .bytes eidCountry .countryElem,
    .sized eidPwrConstraint .pwrConstrElem (.exactly 1),
    .sized eidTimeoutInterval .timeoutInt (.atLeast 5),
    ⟨eidBssMaxIdlePeriod, .maxIdlePeriodIe, .atLeast 3, false, false⟩]

/-! ## Searching -/

/-- `cfg80211_find_elem` and `cfg80211_find_ie`.  The length is passed through an `int`. -/
def findElem (bytes : List UInt8) (eid ofs len : Nat) : BoundedRead Empty (Option Elem) :=
  findElement bytes (fun e => return e.id == eid) (ofs + len % 2 ^ 32) ofs

/-- `cfg80211_find_ext_elem` -/
def findExtElem (bytes : List UInt8) (extEid ofs len : Nat) : BoundedRead Empty (Option Elem) :=
  findElement bytes
    (fun e =>
      if e.id == eidExtension && 1 ≤ e.len then do return (← readU8 bytes e.data) == extEid
      else return false)
    (ofs + len % 2 ^ 32) ofs

/-- `cfg80211_is_element_inherited`, for an element of `bytes` and a non-inheritance element of
`profile`. -/
def isElementInherited (bytes : List UInt8) (e : Elem) (profile : List UInt8)
    (nonInherit : Elem) : BoundedRead Empty Bool :=
  if e.id = eidMultipleBssid then return false
  else if nonInherit.len < 2 then return true
  else do
    let idLen ← readU8 profile (nonInherit.data + 1)
    if nonInherit.len < 3 + idLen then return true
    else
      let extIdLen ← readU8 profile (nonInherit.data + (2 + idLen))
      if nonInherit.len < 3 + idLen + extIdLen then return true
      else if e.id = eidExtension then
        if extIdLen = 0 then return true
        else
          let ⟨list, _⟩ ← readBytes profile (nonInherit.data + (3 + idLen)) extIdLen
          let id ← readU8 bytes e.data
          return !(list.map UInt8.toNat).contains id
      else if idLen = 0 then return true
      else
        let ⟨list, _⟩ ← readBytes profile (nonInherit.data + 2) idLen
        return !(list.map UInt8.toNat).contains e.id

/-! ## A pass -/

/-- What a pass is called with. -/
structure Pass where
  crc32 : Nat → List UInt8 → Nat
  bytes : List UInt8
  /-- What `bytes` is. -/
  mem : Mem
  action : Bool
  filter : Nat
  /-- The copied profile, and the element of it that says what is not inherited. -/
  checkInherit : Option (List UInt8 × Elem)

/-- The variables of a pass. -/
structure PassState where
  elems : Elems
  seen : List Nat
  crc : Nat

/-- What is left of the variables after the second `switch`, and `elem_parse_failed`. -/
structure Outcome where
  elems : Elems
  failed : Bool
  crc : Nat

namespace Pass

def calcCrc (pass : Pass) : Bool := pass.filter != 0

/-- `crc32_be(crc, pos - 2, elen + 2)` -/
def crc32Be (pass : Pass) (e : Elem) (crc : Nat) : BoundedRead Empty Nat := do
  let ⟨part, _⟩ ← readBytes pass.bytes e.ofs (e.len + 2)
  return pass.crc32 crc part

def crcIfCalc (pass : Pass) (e : Elem) (crc : Nat) : BoundedRead Empty Nat :=
  if pass.calcCrc then pass.crc32Be e crc else return crc

/-- The element is one of those the filter asks for. -/
def crcIfFiltered (pass : Pass) (e : Elem) (crc : Nat) : BoundedRead Empty Nat :=
  if pass.calcCrc ∧ e.id < 64 ∧ pass.filter.testBit e.id then pass.crc32Be e crc else return crc

def at' (pass : Pass) (ofs : Nat) : Ptr := ⟨pass.mem, ofs⟩

/-- A plain case. -/
def plain (pass : Pass) (kind : Kind) (e : Elem) (elems : Elems) (crc : Nat) : Outcome :=
  if kind.rule.fits e.len then
    ⟨elems.point kind.field (pass.at' e.data) (if kind.keepsLen then e.len else 0), false, crc⟩
  else ⟨elems, kind.strict, crc⟩

/-- The pointer is to the header of the element. -/
def linkId (pass : Pass) (e : Elem) (elems : Elems) (crc : Nat) : Outcome :=
  if e.len + 2 ≠ 20 then ⟨elems, true, crc⟩
  else ⟨elems.point .lnkId (pass.at' e.ofs) 0, false, crc⟩

def vendorSpecific (pass : Pass) (e : Elem) (elems : Elems) (crc : Nat) :
    BoundedRead Empty Outcome :=
  if e.len < 4 then return ⟨elems, false, crc⟩
  else do
    let ⟨oui, _⟩ ← readBytes pass.bytes e.data 3
    if oui ≠ [0x00, 0x50, 0xf2] then return ⟨elems, false, crc⟩
    else
      let crc ← pass.crcIfCalc e crc
      if e.len < 5 then return ⟨elems, false, crc⟩
      else
        let ouiType ← readU8 pass.bytes (e.data + 3)
        let subtype ← readU8 pass.bytes (e.data + 4)
        if ouiType = 2 ∧ subtype = 0 then
          return ⟨elems.point .wmmInfo (pass.at' e.data) e.len, false, crc⟩
        else if ouiType = 2 ∧ subtype = 1 then
          return ⟨elems.point .wmmParam (pass.at' e.data) e.len, false, crc⟩
        else return ⟨elems, false, crc⟩

def wideBwChannelSwitch (pass : Pass) (e : Elem) (elems : Elems) (crc : Nat) : Outcome :=
  if !pass.action || e.len != 3 then ⟨elems, true, crc⟩
  else ⟨elems.point .wideBwChanswIe (pass.at' e.data) 0, false, crc⟩

def channelSwitchWrapper (pass : Pass) (e : Elem) (elems : Elems) (crc : Nat) :
    BoundedRead Empty Outcome :=
  if pass.action then return ⟨elems, true, crc⟩
  else do
    match ← findElem pass.bytes eidWideBwChannelSwitch e.data e.len with
    | none => return ⟨elems, false, crc⟩
    | some ie =>
        if ie.len = 3 then
          return ⟨elems.point .wideBwChanswIe (pass.at' ie.data) 0, false, crc⟩
        else return ⟨elems, true, crc⟩

def ciscoVendorSpecific (pass : Pass) (e : Elem) (elems : Elems) (crc : Nat) :
    BoundedRead Empty Outcome :=
  if e.len < 4 then return ⟨elems, true, crc⟩
  else do
    let ⟨oui, _⟩ ← readBytes pass.bytes e.data 4
    if oui ≠ [0x00, 0x40, 0x96, 0x00] then return ⟨elems, false, crc⟩
    else if e.len ≠ 6 then return ⟨elems, true, crc⟩
    else
      let crc ← pass.crcIfCalc e crc
      return ⟨elems.point .ciscoDtpcElem (pass.at' e.data) 0, false, crc⟩

/-- `ieee80211_he_oper_size` -/
def heOperSize (bytes : List UInt8) (ofs : Nat) : BoundedRead Empty Nat := do
  let heOperParams ← readLe32 bytes ofs
  return 6 + (if heOperParams.testBit 14 then 3 else 0) +
    (if heOperParams.testBit 15 then 1 else 0) + (if heOperParams.testBit 17 then 4 else 0) + 1

/-- The first byte of the data is looked at whatever the length says. -/
def extension (pass : Pass) (e : Elem) (elems : Elems) (crc : Nat) : BoundedRead Empty Outcome := do
  let extId ← readU8 pass.bytes e.data
  let body := pass.at' (e.data + 1)
  if extId = eidExtHeMuEdca ∧ 13 + 1 ≤ e.len then
    let crc ← pass.crcIfCalc e crc
    return ⟨elems.point .muEdcaParamSet body 0, false, crc⟩
  else if extId = eidExtHeCapability then
    -- `he_cap_len` is a `u8`
    return ⟨elems.point .heCap body ((e.len + 2 ^ 8 - 1) % 2 ^ 8), false, crc⟩
  else if extId = eidExtHeOperation ∧ 6 ≤ e.len then
    let size ← heOperSize pass.bytes (e.data + 1)
    if size ≤ e.len then return ⟨elems.point .heOperation body 0, false, crc⟩
    else return ⟨elems, false, crc⟩
  else if extId = eidExtUora ∧ 1 ≤ e.len then
    return ⟨elems.point .uoraElement body 0, false, crc⟩
  else if extId = eidExtMaxChannelSwitchTime ∧ e.len = 4 then
    return ⟨elems.point .maxChannelSwitchTime body 0, false, crc⟩
  else if extId = eidExtMultipleBssidConfiguration ∧ e.len = 3 then
    return ⟨elems.point .mbssidConfigIe body 0, false, crc⟩
  else return ⟨elems, false, crc⟩

/-- The second `switch`. -/
def store (pass : Pass) (e : Elem) (elems : Elems) (crc : Nat) : BoundedRead Empty Outcome :=
  if e.id = eidLinkId then return pass.linkId e elems crc
  else if e.id = eidVendorSpecific then pass.vendorSpecific e elems crc
  else if e.id = eidWideBwChannelSwitch then return pass.wideBwChannelSwitch e elems crc
  else if e.id = eidChannelSwitchWrapper then pass.channelSwitchWrapper e elems crc
  else if e.id = eidCiscoVendorSpecific then pass.ciscoVendorSpecific e elems crc
  else if e.id = eidExtension then pass.extension e elems crc
  else
    match kinds.find? (·.id == e.id) with
    | some kind => return pass.plain kind e elems crc
    | none => return ⟨elems, false, crc⟩

/-- Whether the element is left out as not inherited. -/
def skips (pass : Pass) (e : Elem) : BoundedRead Empty Bool :=
  match pass.checkInherit with
  | none => return false
  | some (profile, nonInherit) => do
      return !(← isElementInherited pass.bytes e profile nonInherit)

/-- The body of the loop. -/
def parseElem (pass : Pass) (e : Elem) (s : PassState) :
    BoundedRead Empty (ForInStep PassState) := do
  if ← pass.skips e then return .yield s
  else if e.id ∈ onlyOnce ∧ e.id ∈ s.seen then
    return .yield { s with elems.parseError := true }
  else
    let crc ← pass.crcIfFiltered e s.crc
    let out ← pass.store e s.elems crc
    if out.failed then
      return .yield ⟨{ out.elems with parseError := true }, s.seen, out.crc⟩
    else return .yield ⟨out.elems, e.id :: s.seen, out.crc⟩

/-- `_ieee802_11_parse_elems_crc` -/
def parse (pass : Pass) (elems : Elems) (crc : Nat) : BoundedRead Empty (Elems × Nat) := do
  let (last, s) ← forEachElement pass.bytes pass.bytes.length pass.parseElem 0 ⟨elems, [], crc⟩
  -- `for_each_element_completed`
  if last = pass.bytes.length then return (s.elems, s.crc)
  else return ({ s.elems with parseError := true }, s.crc)

end Pass

/-! ## The profile of a network -/

/-- The next part of a profile, which has at least the two bytes that were looked at. -/
structure NextSub where
  sub : Elem
  two_le : 2 ≤ sub.len

/-- `cfg80211_get_profile_continuation`, with the sub-element that its caller takes from the
result. -/
def getProfileContinuation (ie : List UInt8) (mbssid sub : Elem) :
    BoundedRead Empty (Option NextSub) := do
  match ← findElem ie eidMultipleBssid mbssid.after (ie.length - mbssid.after) with
  | none => return none
  | some next =>
      if sub.after + 1 < mbssid.after then return none
      else if next.len < 4 then return none
      else
        let id ← readU8 ie (next.data + 1)
        let len ← readU8 ie (next.data + 2)
        let nextSub : Elem := ⟨next.data + 1, id, len⟩
        if next.after < nextSub.after then return none
        else if bad : nextSub.id ≠ 0 ∨ nextSub.len < 2 then return none
        else if (← readU8 ie nextSub.data) = eidNonTxBssidCap then return none
        else return some ⟨nextSub, by omega⟩

/-- The loop of `cfg80211_merge_profile`. -/
def mergeRest (ie : List UInt8) (mbssid sub : Elem) (maxCopyLen : Nat) (merged : List UInt8) :
    BoundedRead Empty (List UInt8) := do
  match ← getProfileContinuation ie mbssid sub with
  | none => return merged
  | some ⟨next, _⟩ =>
      if maxCopyLen < merged.length + next.len then return merged
      else
        let ⟨part, _⟩ ← readBytes ie next.data next.len
        mergeRest ie mbssid sub maxCopyLen (merged ++ part)
termination_by maxCopyLen - merged.length
decreasing_by
  rw [List.length_append]
  omega

/-- `cfg80211_merge_profile`, with what was copied in place of its length. -/
def mergeProfile (ie : List UInt8) (mbssid sub : Elem) (maxCopyLen : Nat) :
    BoundedRead Empty (List UInt8) :=
  if maxCopyLen < sub.len then return []
  else do
    let ⟨part, _⟩ ← readBytes ie sub.data sub.len
    mergeRest ie mbssid sub maxCopyLen part

/-- `GENMASK_ULL(max_bssid - 1, 0)`.  A shift by 64 or more, which C leaves open, uses the low six
bits of the count as the processor does. -/
def bssidMask (maxBssid : Nat) : BitVec 64 := BitVec.allOnes 64 >>> ((64 + 2 ^ 8 - maxBssid) % 64)

/-- `cfg80211_gen_new_bssid` -/
def genNewBssid (bssid : BitVec 48) (maxBssid mbssidIndex : Nat) : BitVec 48 :=
  let bssid64 : BitVec 64 := bssid.setWidth 64
  let mask := bssidMask maxBssid
  ((bssid64 &&& ~~~mask) ||| ((bssid64 &&& mask) + BitVec.ofNat 64 mbssidIndex) &&& mask).setWidth 48

/-- The variables of `ieee802_11_find_bssid_profile`: what was copied last, whether a profile was
found, and the element of it that `bssid_index` was set from. -/
structure Search where
  profile : List UInt8
  found : Bool
  index : Option Elem
  deriving DecidableEq

/-- The index that a copied profile gives, if that is valid. -/
def profileIndex (profile : List UInt8) : BoundedRead Empty (Option (Elem × Nat)) := do
  match ← findElem profile eidMultiBssidIdx 0 profile.length with
  | none => return none
  | some index =>
      if index.len < 1 then return none
      else
        let value ← readU8 profile index.data
        if value = 0 then return none else return some (index, value)

/-- The body of the inner loop. -/
def trySubelement (start : List UInt8) (tx bss : BitVec 48) (mbssid sub : Elem) (s : Search) :
    BoundedRead Empty (ForInStep Search) :=
  if sub.id ≠ 0 ∨ sub.len < 4 then return .yield s
  else do
    let first ← readU8 start sub.data
    let firstLen ← readU8 start (sub.data + 1)
    if first ≠ eidNonTxBssidCap ∨ firstLen ≠ 2 then return .yield s
    else
      let profile ← mergeProfile start mbssid sub start.length
      match ← profileIndex profile with
      | none => return .yield { s with profile := profile }
      | some (index, value) =>
          let maxBssid ← readU8 start mbssid.data
          if genNewBssid tx maxBssid value = bss then return .done ⟨profile, true, some index⟩
          else return .yield { s with profile := profile }

/-- The body of the outer loop, which leaving the inner one does not end. -/
def tryElement (start : List UInt8) (tx bss : BitVec 48) (mbssid : Elem) (s : Search) :
    BoundedRead Empty (ForInStep Search) :=
  if mbssid.id ≠ eidMultipleBssid ∨ mbssid.len < 2 then return .yield s
  else do
    let (_, s) ← forEachElement start mbssid.after (trySubelement start tx bss mbssid)
      (mbssid.data + 1) s
    return .yield s

/-- `ieee802_11_find_bssid_profile` -/
def findBssidProfile (start : List UInt8) (transmitterBssid bssBssid : Option (BitVec 48)) :
    BoundedRead Empty Search :=
  match transmitterBssid, bssBssid with
  | some tx, some bss => do
      let (_, s) ← forEachElement start start.length (tryElement start tx bss) 0
        ⟨[], false, none⟩
      return s
  | _, _ => return ⟨[], false, none⟩

/-! ## The function -/

/-- What the function is called with.  `allocated` says whether there is memory for the copy. -/
structure Call where
  crc32 : Nat → List UInt8 → Nat
  start : List UInt8
  action : Bool
  filter : Nat
  crc : Nat
  transmitterBssid : Option (BitVec 48)
  bssBssid : Option (BitVec 48)
  allocated : Bool

/-- Read a byte through a pointer. -/
def readPtr (start profile : List UInt8) (p : Ptr) (k : Nat) : BoundedRead Empty Nat :=
  match p.mem with
  | .frame => readU8 start (p.ofs + k)
  | .profile => readU8 profile (p.ofs + k)

/-- The DTIM fields, from the TIM element. -/
def dtimOfTim (start profile : List UInt8) (elems : Elems) : BoundedRead Empty Elems :=
  match elems.ptr .tim with
  | none => return elems
  | some tim =>
      if elems.parseError then return elems
      else do
        let dtimPeriod ← readPtr start profile tim 1
        let dtimCount ← readPtr start profile tim 0
        return { elems with dtimPeriod := dtimPeriod, dtimCount := dtimCount }

/-- `dtim_period` of the Multiple BSSID-Index element, if it is that long. -/
def periodOfIndex (start profile : List UInt8) (index : Ptr) (elems : Elems) :
    BoundedRead Empty Elems :=
  if 2 ≤ elems.len .bssidIndex then do
    let dtimPeriod ← readPtr start profile index 1
    return { elems with dtimPeriod := dtimPeriod }
  else return elems

/-- `dtim_count` of the Multiple BSSID-Index element, if it is that long. -/
def countOfIndex (start profile : List UInt8) (index : Ptr) (elems : Elems) :
    BoundedRead Empty Elems :=
  if 3 ≤ elems.len .bssidIndex then do
    let dtimCount ← readPtr start profile index 2
    return { elems with dtimCount := dtimCount }
  else return elems

/-- The DTIM fields, from the Multiple BSSID-Index element. -/
def dtimOfIndex (start profile : List UInt8) (elems : Elems) : BoundedRead Empty Elems :=
  match elems.ptr .bssidIndex with
  | none => return elems
  | some index => do
      let elems ← periodOfIndex start profile index elems
      countOfIndex start profile index elems

/-- What is copied, if there is memory for it. -/
def searchProfile (call : Call) : BoundedRead Empty Search :=
  if call.allocated then findBssidProfile call.start call.transmitterBssid call.bssBssid
  else return ⟨[], false, none⟩

/-- The profile that was found.  Its length is the `nontransmitted_profile_len`. -/
def Search.result (search : Search) : List UInt8 := if search.found then search.profile else []

/-- The structure as the search leaves it. -/
def Search.elems (search : Search) (totalLen : Nat) : Elems :=
  match search.index with
  | none => .initial totalLen
  | some index => (Elems.initial totalLen).point .bssidIndex ⟨.profile, index.data⟩ index.len

/-- The first pass. -/
def framePass (call : Call) (profile : List UInt8) (nonInherit : Option Elem) : Pass :=
  ⟨call.crc32, call.start, .frame, call.action, call.filter, nonInherit.map fun e => (profile, e)⟩

/-- The second pass, if a profile was found. -/
def parseProfile (call : Call) (profile : List UInt8) (elems : Elems) : BoundedRead Empty Elems :=
  if profile.length = 0 then return elems
  else do
    let (elems, _) ← Pass.parse ⟨call.crc32, profile, .profile, call.action, 0, none⟩ elems 0
    return elems

/-- `ieee802_11_parse_elems_crc` -/
def parseElemsCrc (call : Call) : BoundedRead Empty (Elems × Nat) := do
  let search ← searchProfile call
  let profile := search.result
  let nonInherit ← findExtElem profile eidExtNonInheritance 0 profile.length
  let (elems, crc) ← (framePass call profile nonInherit).parse (search.elems call.start.length)
    call.crc
  let elems ← parseProfile call profile elems
  let elems ← dtimOfTim call.start profile elems
  let elems ← dtimOfIndex call.start profile elems
  return (elems, crc)

end Iwlwifi.ParseElems
