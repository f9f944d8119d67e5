import Mathlib.Algebra.Order.Ring.Int
import Mathlib.Data.Int.Order.Basic
import Iwlwifi.Lib.BoundedRead

/-!
# The radiotap iterator

`ieee80211_radiotap_iterator_init` and `ieee80211_radiotap_iterator_next` of
`net/wireless/radiotap.c`.  A pointer into the header is its distance from the header's start.
`_next_ns_data` is not initialised, so it may lie anywhere, before the header too; the
comparisons of the source are unsigned, so what lies before the header is beyond its end.
-/

namespace Iwlwifi

open Lib

/-! ## Namespaces -/

/-- `struct radiotap_align_size` -/
structure RadiotapAlignSize where
  align : Nat
  size : Nat
  deriving DecidableEq

/-- `struct ieee80211_radiotap_namespace`: `n_bits` is the length of the table. -/
structure RadiotapNamespace where
  alignSize : List RadiotapAlignSize
  oui : Nat
  subns : Nat
  deriving DecidableEq

/-- `rtap_namespace_sizes`.  Field 18 is not defined. -/
def rtapNamespaceSizes : List RadiotapAlignSize :=
  [⟨8, 8⟩, ⟨1, 1⟩, ⟨1, 1⟩, ⟨2, 4⟩, ⟨2, 2⟩, ⟨1, 1⟩, ⟨1, 1⟩, ⟨2, 2⟩, ⟨2, 2⟩, ⟨2, 2⟩, ⟨1, 1⟩, ⟨1, 1⟩,
    ⟨1, 1⟩, ⟨1, 1⟩, ⟨2, 2⟩, ⟨2, 2⟩, ⟨1, 1⟩, ⟨1, 1⟩, ⟨0, 0⟩, ⟨1, 3⟩, ⟨4, 8⟩, ⟨2, 12⟩]

/-- `current_namespace`: `&radiotap_ns`, an entry of the table of the caller, or `NULL`. -/
inductive CurrentNamespace
  | radiotap
  | vendor (ns : RadiotapNamespace)
  | unknown
  deriving DecidableEq

/-- The table of a namespace. -/
def CurrentNamespace.table : CurrentNamespace → List RadiotapAlignSize
  | .radiotap => rtapNamespaceSizes
  | .vendor ns => ns.alignSize
  | .unknown => []

/-- `find_ns` -/
def findNs (vns : List RadiotapNamespace) (oui subns : Nat) : CurrentNamespace :=
  match vns.find? fun ns => ns.oui == oui && ns.subns == subns with
  | some ns => .vendor ns
  | none => .unknown

/-! ## The iterator -/

/-- `struct ieee80211_radiotap_iterator` -/
structure RadiotapIterator where
  currentNamespace : CurrentNamespace
  arg : Int
  nextNsData : Int
  nextBitmap : Nat
  thisArg : Int
  thisArgIndex : Nat
  thisArgSize : Nat
  isRadiotapNs : Bool
  maxLength : Nat
  argIndex : Nat
  bitmapShifter : Nat
  resetOnExt : Bool
  deriving DecidableEq

/-- `IEEE80211_RADIOTAP_EXT` of a bitmap. -/
def radiotapExt (bitmap : Nat) : Bool := bitmap.testBit 31

/-- The walk over the bitmaps that follow the first.  `room` is how many whole words the header
has from `arg` on, so it is zero where the source finds the bitmaps to go beyond the header. -/
def radiotapSkipBitmaps (bytes : List UInt8) : Nat → Nat → BoundedRead Int Nat
  | 0, _ => .error (.ret (-22))
  | room + 1, arg => do
      let bitmap ← readLe32 bytes arg
      if radiotapExt bitmap then radiotapSkipBitmaps bytes room (arg + 4)
      else return arg + 4

/-- `ieee80211_radiotap_iterator_init` on a buffer of `max_length` bytes.  `junk` is what the
fields hold that are not initialised. -/
def radiotapIteratorInit (bytes : List UInt8) (junk : RadiotapIterator) :
    BoundedRead Int RadiotapIterator := do
  if bytes.length < 8 then .error (.ret (-22))
  else
    let version ← readU8 bytes 0
    if version ≠ 0 then .error (.ret (-22))
    else
      let low ← readU8 bytes 2
      let high ← readU8 bytes 3
      let itLen := low + 256 * high
      if bytes.length < itLen then .error (.ret (-22))
      else
        let present ← readLe32 bytes 4
        let arg ← if radiotapExt present then radiotapSkipBitmaps bytes ((itLen - 8) / 4) 8
          else pure 8
        return { junk with
          currentNamespace := .radiotap, arg := arg, nextBitmap := 8, thisArg := arg,
          isRadiotapNs := true, maxLength := itLen, argIndex := 0, bitmapShifter := present,
          resetOnExt := false }

/-! ## The next argument -/

namespace RadiotapIterator

/-- The unsigned comparison of a distance with `_max_length`. -/
def Beyond (it : RadiotapIterator) (distance : Int) : Prop :=
  distance < 0 ∨ (it.maxLength : Int) < distance

instance (it : RadiotapIterator) (distance : Int) : Decidable (it.Beyond distance) :=
  inferInstanceAs (Decidable (_ ∨ _))

/-- The label `next_entry`. -/
def nextEntry (it : RadiotapIterator) : RadiotapIterator :=
  { it with bitmapShifter := it.bitmapShifter / 2, argIndex := it.argIndex + 1 }

/-- `pad` and the step past it.  The mask is applied to an unsigned long. -/
def padded (it : RadiotapIterator) (align : Nat) : RadiotapIterator :=
  let pad := (it.arg % 2 ^ 64).toNat &&& (align - 1)
  { it with arg := if pad = 0 then it.arg else it.arg + (align - pad : Nat) }

/-- What the switch over the index finds: no more arguments, a field of no known size, or an
alignment and a size. -/
inductive Entry
  | noEntry
  | skip
  | field (align size : Nat)
  deriving DecidableEq

def entry (it : RadiotapIterator) : Entry :=
  let bit := it.argIndex % 32
  if bit = 29 ∨ bit = 31 then .field 1 0
  else if bit = 30 then .field 2 6
  else
    match it.currentNamespace.table[it.argIndex]? with
    | none => if it.currentNamespace = .radiotap then .noEntry else .skip
    | some known => if known.align = 0 then .skip else .field known.align known.size

end RadiotapIterator

/-- A read at a pointer. -/
def readAt (bytes : List UInt8) (distance : Int) : BoundedRead (Int × RadiotapIterator) Nat :=
  if 0 ≤ distance then readU8 bytes distance.toNat else .error .outOfBounds

/-- The header of a vendor namespace: the iterator and the size of the argument. -/
def radiotapVendor (bytes : List UInt8) (vns : List RadiotapNamespace) (it : RadiotapIterator)
    (size : Nat) : BoundedRead (Int × RadiotapIterator) (RadiotapIterator × Nat) := do
  if it.Beyond (it.arg + size) then .error (.ret (-22, it))
  else
    let b0 ← readAt bytes it.arg
    let b1 ← readAt bytes (it.arg + 1)
    let b2 ← readAt bytes (it.arg + 2)
    let subns ← readAt bytes (it.arg + 3)
    let low ← readAt bytes (it.arg + 4)
    let high ← readAt bytes (it.arg + 5)
    let vnslen := low + 256 * high
    let ns := findNs vns (b0 * 2 ^ 16 + b1 * 2 ^ 8 + b2) subns
    return ({ it with currentNamespace := ns, nextNsData := it.arg + size + vnslen },
      if ns = .unknown then size + vnslen else size)

/-- The special arguments and the return. -/
def radiotapFinish (bytes : List UInt8) (it : RadiotapIterator) :
    BoundedRead (Int × RadiotapIterator) RadiotapIterator := do
  let bit := it.argIndex % 32
  if bit = 30 then
    let it := { it with resetOnExt := true, isRadiotapNs := false, thisArgIndex := 30 }
    if it.currentNamespace = .unknown then .error (.ret (0, it.nextEntry)) else return it.nextEntry
  else if bit = 29 then
    let it := { it with
      resetOnExt := true, currentNamespace := .radiotap, isRadiotapNs := true }
    return it.nextEntry
  else if bit = 31 then
    let bitmap ← readLe32 bytes it.nextBitmap
    return { it with
      bitmapShifter := bitmap, nextBitmap := it.nextBitmap + 4,
      argIndex := if it.resetOnExt then 0 else it.argIndex + 1, resetOnExt := false }
  else .error (.ret (0, it.nextEntry))

/-- The argument is handed out and moved past, if it ends inside the header. -/
def radiotapTake (bytes : List UInt8) (it : RadiotapIterator) (size : Nat) :
    BoundedRead (Int × RadiotapIterator) RadiotapIterator :=
  let it := { it with
    thisArgIndex := it.argIndex, thisArg := it.arg, thisArgSize := size, arg := it.arg + size }
  if it.Beyond it.arg then .error (.ret (-22, it)) else radiotapFinish bytes it

/-- One turn of the loop of `ieee80211_radiotap_iterator_next`. -/
def radiotapTurn (bytes : List UInt8) (vns : List RadiotapNamespace) (it : RadiotapIterator) :
    BoundedRead (Int × RadiotapIterator) RadiotapIterator := do
  let bit := it.argIndex % 32
  if bit = 31 ∧ it.bitmapShifter % 2 = 0 then .error (.ret (-2, it))
  else if it.bitmapShifter % 2 = 0 then return it.nextEntry
  else
    match it.entry with
    | .noEntry => .error (.ret (-2, it))
    | .skip => return { it with arg := it.nextNsData, currentNamespace := .unknown }.nextEntry
    | .field align size =>
        if bit = 30 then do
          let (it, size) ← radiotapVendor bytes vns (it.padded align) size
          radiotapTake bytes it size
        else radiotapTake bytes (it.padded align) size

/-- `ieee80211_radiotap_iterator_next`: the code it returns and the iterator it leaves. -/
def radiotapIteratorNext (bytes : List UInt8) (vns : List RadiotapNamespace) :
    Nat → RadiotapIterator → Option (Stop (Int × RadiotapIterator))
  | 0, _ => none
  | fuel + 1, it =>
      match radiotapTurn bytes vns it with
      | .ok it => radiotapIteratorNext bytes vns fuel it
      | .error stop => some stop

/-- The outcomes of some calls one after the other. -/
def radiotapCalls (bytes : List UInt8) (vns : List RadiotapNamespace) (fuel : Nat) :
    Nat → RadiotapIterator → List (Option (Stop (Int × RadiotapIterator)))
  | 0, _ => []
  | calls + 1, it =>
      match radiotapIteratorNext bytes vns fuel it with
      | some (.ret (code, it)) =>
          some (.ret (code, it)) :: radiotapCalls bytes vns fuel calls it
      | other => [other]

end Iwlwifi
