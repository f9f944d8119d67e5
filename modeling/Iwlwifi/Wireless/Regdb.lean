import Mathlib.Algebra.Order.Ring.Int
import Iwlwifi.Lib.BoundedRead
import Iwlwifi.Wireless.Regdomain

/-!
# The regulatory database

The firmware file that holds the regulatory domains (`net/wireless/reg.c`): its validation and
the two queries.  A pointer into the file is its distance from the file's start.  Both sides
read the file through computed offsets: the validation reads the memory that the file lies in,
so that it may read past the end of the file, and a query reads the file alone.
-/

namespace Iwlwifi

open Lib

def enodata : Int := -61
def enomem : Int := -12

/-- `ALIGN(len, 2)` -/
def align2 (len : Nat) : Nat := (len + 1) / 2 * 2

/-- `ecw2cw` -/
def ecw2cw (ecw : Nat) : Nat := 2 ^ ecw - 1

/-! ## Validation -/

section Validation

variable {ε : Type}

/-- One turn of `valid_wmm`. -/
def validWmmAc (data : List UInt8) (ac : Nat) : BoundedRead ε Bool := do
  let ecw ← readU8 data ac
  let aifsn ← readU8 data (ac + 1)
  return decide (ecw2cw ((ecw &&& 0xf0) >>> 4) < ecw2cw (ecw &&& 0x0f)) && decide (1 ≤ aifsn)

def validWmmAcs (data : List UInt8) : Nat → Nat → BoundedRead ε Bool
  | 0, _ => return true
  | left + 1, ac => do
      if ← validWmmAc data ac then validWmmAcs data left (ac + 4) else return false

/-- `valid_wmm` -/
def validWmm (data : List UInt8) (wmm : Nat) : BoundedRead ε Bool := validWmmAcs data 8 wmm

/-- `valid_rule` -/
def validRule (data : List UInt8) (size rulePtr : Nat) : BoundedRead ε Bool := do
  let rule := rulePtr * 4
  if size < rule + 1 then return false
  else
    let len ← readU8 data rule
    if len < 16 then return false
    else if 20 ≤ len then
      let wmm ← readBe16 data (rule + 18)
      if size < wmm * 4 + 32 then return false
      else validWmm data (wmm * 4)
    else return true

def validRules (data : List UInt8) (size : Nat) : Nat → Nat → BoundedRead ε Bool
  | 0, _ => return true
  | left + 1, rulesPtr => do
      let rulePtr ← readBe16 data rulesPtr
      if ← validRule data size rulePtr then validRules data size left (rulesPtr + 2)
      else return false

/-- `valid_country` -/
def validCountry (data : List UInt8) (size country : Nat) : BoundedRead ε Bool := do
  let ptr ← readBe16 data (country + 2)
  let coll := ptr * 4
  if size < coll + 2 then return false
  else
    let len ← readU8 data coll
    let nRules ← readU8 data (coll + 1)
    if size < coll + align2 len + nRules * 2 then return false
    else if len < 3 then return false
    else validRules data size nRules (coll + align2 len)

/-- The loop of `valid_regdb`.  No more countries fit than `room` says. -/
def validCountries (data : List UInt8) (size : Nat) : Nat → Nat → BoundedRead ε Bool
  | 0, _ => return true
  | room + 1, country =>
      if size < country + 4 then return true
      else do
        let collPtr ← readBe16 data (country + 2)
        if collPtr = 0 then return true
        else if ← validCountry data size country then
          validCountries data size room (country + 4)
        else return false

/-- `valid_regdb` on a file of `size` bytes at the beginning of `data`.  `signature` is what
`regdb_has_valid_signature` says. -/
def validRegdb (data : List UInt8) (size : Nat) (signature : Bool) : BoundedRead ε Bool := do
  if size < 8 then return false
  else
    let magic ← readBe32 data 0
    if magic ≠ 0x52474442 then return false
    else
      let version ← readBe32 data 4
      if version ≠ 20 then return false
      else if !signature then return false
      else validCountries data size size 8

end Validation

/-! ## The rules of a country -/

def readWmmAc (db : List UInt8) (ac : Nat) : BoundedRead Int WmmAc := do
  let ecw ← readU8 db ac
  let aifsn ← readU8 db (ac + 1)
  let cot ← readBe16 db (ac + 2)
  return ⟨.ofNat (ecw2cw ((ecw &&& 0xf0) >>> 4)), .ofNat (ecw2cw (ecw &&& 0x0f)),
    .ofNat (1000 * cot), .ofNat aifsn⟩

def readWmmAcs (db : List UInt8) : Nat → Nat → BoundedRead Int (List WmmAc)
  | 0, _ => return []
  | left + 1, ac => do
      let first ← readWmmAc db ac
      let rest ← readWmmAcs db left (ac + 4)
      return first :: rest

/-- `set_wmm_rule`.  An invalid WMM rule is reported, with the range and the country, and left
out. -/
def setWmmRule (db : List UInt8) (country rule : Nat) (rrule : RegRule) :
    BoundedRead Int RegRule := do
  let ptr ← readBe16 db (rule + 18)
  let wmm := ptr * 4
  if ← validWmm db wmm then
    let client ← readWmmAcs db 4 wmm
    let ap ← readWmmAcs db 4 (wmm + 16)
    return { rrule with wmmRule := some ⟨client, ap⟩ }
  else
    touch db (rule + 4) 8
    touch db country 2
    return rrule

/-- The flag of a rule that a flag of the file stands for. -/
def fwdbFlag (flags bit : Nat) (rrf : UInt32) : UInt32 := if flags.testBit bit then rrf else 0

/-- One turn of `regdb_query_country`. -/
def regdbQueryRule (db : List UInt8) (country rule : Nat) : BoundedRead Int RegRule := do
  let start ← readBe32 db (rule + 4)
  let stop ← readBe32 db (rule + 8)
  let maxBw ← readBe32 db (rule + 12)
  let maxEirp ← readBe16 db (rule + 2)
  let flags ← readU8 db (rule + 1)
  let len ← readU8 db rule
  let cac ← if 18 ≤ len then readBe16 db (rule + 16) else pure 0
  let rrule : RegRule :=
    ⟨⟨.ofNat start, .ofNat stop, .ofNat maxBw⟩, ⟨0, .ofNat maxEirp⟩, none,
      fwdbFlag flags 0 nl80211RrfNoOfdm ||| fwdbFlag flags 1 nl80211RrfNoOutdoor |||
        fwdbFlag flags 2 nl80211RrfDfs ||| fwdbFlag flags 3 nl80211RrfNoIr |||
        fwdbFlag flags 4 nl80211RrfAutoBw,
      .ofNat (1000 * cac)⟩
  if 20 ≤ len then setWmmRule db country rule rrule else return rrule

def regdbQueryRules (db : List UInt8) (country : Nat) : Nat → Nat → BoundedRead Int (List RegRule)
  | 0, _ => return []
  | left + 1, rulesPtr => do
      let rulePtr ← readBe16 db rulesPtr
      let first ← regdbQueryRule db country (rulePtr * 4)
      let rest ← regdbQueryRules db country left (rulesPtr + 2)
      return first :: rest

/-- `regdb_query_country`: the domain that it hands to `reg_schedule_apply`, if the memory for
it could be `allocated`. -/
def regdbQueryCountry (db : List UInt8) (allocated : Bool) (country : Nat) :
    BoundedRead Int Regdomain := do
  let ptr ← readBe16 db (country + 2)
  let coll := ptr * 4
  let nRules ← readU8 db (coll + 1)
  if !allocated then .error (.ret enomem)
  else
    let first ← readU8 db country
    let second ← readU8 db (country + 1)
    let dfsRegion ← readU8 db (coll + 2)
    let len ← readU8 db coll
    let rules ← regdbQueryRules db country nRules (coll + align2 len)
    return ⟨(first, second), dfsRegion, rules⟩

/-- The loop of `__regdb_query_wmm`.  A frequency is compared as a `u32`. -/
def regdbQueryWmmFrom (db : List UInt8) (country : Nat) (freq : Int) (rrule : RegRule) :
    Nat → Nat → BoundedRead Int RegRule
  | 0, _ => .error (.ret enodata)
  | left + 1, rulesPtr => do
      let rulePtr ← readBe16 db rulesPtr
      let rule := rulePtr * 4
      let len ← readU8 db rule
      if len < 20 then regdbQueryWmmFrom db country freq rrule left (rulesPtr + 2)
      else
        let start ← readBe32 db (rule + 4)
        if (freq % 2 ^ 32).toNat < start / 1000 then
          regdbQueryWmmFrom db country freq rrule left (rulesPtr + 2)
        else
          let stop ← readBe32 db (rule + 8)
          if stop / 1000 < (freq % 2 ^ 32).toNat then
            regdbQueryWmmFrom db country freq rrule left (rulesPtr + 2)
          else setWmmRule db country rule rrule

/-- `__regdb_query_wmm`: the rule that it has set the WMM rule of. -/
def regdbQueryWmm (db : List UInt8) (freq : Int) (rrule : RegRule) (country : Nat) :
    BoundedRead Int RegRule := do
  let ptr ← readBe16 db (country + 2)
  let coll := ptr * 4
  let nRules ← readU8 db (coll + 1)
  let len ← readU8 db coll
  regdbQueryWmmFrom db country freq rrule nRules (coll + align2 len)

/-! ## The queries -/

/-- `regdb`: not loaded, an error or the file. -/
inductive Regdb
  | null
  | err (code : Int)
  | loaded (db : List UInt8)

/-- `alpha2_equal` -/
def alpha2Equal (x y : Nat × Nat) : Bool := x.1 == y.1 && x.2 == y.2

/-- The test whether an entry of the list is the country, where it is not the end of the
list. -/
def isCountry (db : List UInt8) (alpha2 : Nat × Nat) (country : Nat) : BoundedRead Int Bool := do
  let collPtr ← readBe16 db (country + 2)
  if collPtr = 0 then .error (.ret enodata)
  else
    let first ← readU8 db country
    let second ← readU8 db (country + 1)
    return alpha2Equal alpha2 (first, second)

/-- The loop of both queries over the countries. -/
def forCountry {α : Type} (db : List UInt8) (alpha2 : Nat × Nat) (query : Nat → BoundedRead Int α) :
    Nat → Nat → Option (BoundedRead Int α)
  | 0, _ => none
  | fuel + 1, country =>
      match isCountry db alpha2 country with
      | .error stop => some (.error stop)
      | .ok true => some (query country)
      | .ok false => forCountry db alpha2 query fuel (country + 4)

/-- `query_regdb`.  It is not called before the file was loaded. -/
def queryRegdb (regdb : Regdb) (alpha2 : Nat × Nat) (allocated : Bool) (fuel : Nat) :
    Option (BoundedRead Int Regdomain) :=
  match regdb with
  | .null => some (.error .outOfBounds)
  | .err code => some (.error (.ret code))
  | .loaded db => forCountry db alpha2 (regdbQueryCountry db allocated) fuel 8

/-- `reg_query_regdb_wmm` -/
def regQueryRegdbWmm (regdb : Regdb) (alpha2 : Nat × Nat) (freq : Int) (rule : RegRule)
    (fuel : Nat) : Option (BoundedRead Int RegRule) :=
  match regdb with
  | .null => some (.error (.ret enodata))
  | .err code => some (.error (.ret code))
  | .loaded db => forCountry db alpha2 (regdbQueryWmm db freq rule) fuel 8

end Iwlwifi
