import Iwlwifi.Lib.ElementList
import Iwlwifi.Mac80211.ParseElemsSafe

/-!
# Elements of a non-transmitted BSS

`cfg80211_gen_new_ie` of `net/wireless/scan.c`.  The elements of a BSS that has no beacon of its own
are those of the beacon that describes it, as far as its profile does not replace them or say that
they are not inherited, and the further elements of the profile.  The function works on a copy of
the profile and marks what it has used by writing the id of an SSID over it.
-/

namespace Iwlwifi.GenNewIe

open Lib ParseElems

/-! ## The function -/

/-- The copy of the profile and what was written to `new_ie`. -/
structure Merge where
  sub : List UInt8
  out : List UInt8
  deriving DecidableEq

/-- A `memcpy` of a whole element to `pos`. -/
def copyElem (bytes : List UInt8) (e : Elem) (out : List UInt8) :
    BoundedRead Empty (List UInt8) := do
  let ⟨part, _⟩ ← readBytes bytes e.ofs (e.len + 2)
  return out ++ part

/-- The element of the profile is copied, and marked as copied. -/
def takeNew (s : Merge) (new : Elem) : BoundedRead Empty Merge := do
  return ⟨s.sub.set new.ofs 0, ← copyElem s.sub new s.out⟩

/-- The element of the profile that an element of the beacon meets. -/
def findNew (ie : List UInt8) (old : Elem) (sub : List UInt8) : BoundedRead Empty (Option Elem) :=
  if old.id = eidExtension then do
    let ext ← readU8 ie (old.ofs + 2)
    findExtElem sub ext 0 sub.length
  else findElem sub old.id 0 sub.length

/-- `cfg80211_is_element_inherited`, where the profile may have no non-inheritance element. -/
def inheritsOld (ie : List UInt8) (old : Elem) (sub : List UInt8) (nonInherit : Option Elem) :
    BoundedRead Empty Bool :=
  match nonInherit with
  | none => return old.id != eidMultipleBssid
  | some nonInherit => isElementInherited ie old sub nonInherit

/-- An element of the beacon. -/
def mergeOld (ie : List UInt8) (nonInherit : Option Elem) (old : Elem) (s : Merge) :
    BoundedRead Empty Merge := do
  match ← findNew ie old s.sub with
  | none =>
    if ← inheritsOld ie old s.sub nonInherit then
      return { s with out := ← copyElem ie old s.out }
    else return s
  | some new =>
    if old.id = eidVendorSpecific then do
      let ⟨oldType, _⟩ ← readBytes ie (old.ofs + 2) 5
      let ⟨newType, _⟩ ← readBytes s.sub (new.ofs + 2) 5
      if oldType = newType then takeNew s new
      else return { s with out := ← copyElem ie old s.out }
    else takeNew s new

/-- The loop over the elements of the beacon. -/
def oldLoop (ie : List UInt8) (nonInherit : Option Elem) (pos : Nat) (s : Merge) :
    BoundedRead Empty Merge := do
  let len ← readU8 ie (pos + 1)
  if pos + len + 2 ≤ ie.length then do
    let id ← readU8 ie pos
    if id = eidSsid then oldLoop ie nonInherit (pos + 1) s
    else do
      let s ← mergeOld ie nonInherit ⟨pos, id, len⟩ s
      if pos + len + 2 = ie.length then return s else oldLoop ie nonInherit (pos + len + 2) s
  else return s
termination_by ie.length - pos

/-- The loop over the elements of the profile that were not copied. -/
def newLoop (sub : List UInt8) (pos : Nat) (out : List UInt8) : BoundedRead Empty (List UInt8) := do
  let len ← readU8 sub (pos + 1)
  if pos + len + 2 ≤ sub.length then do
    let id ← readU8 sub pos
    let out ←
      if id = eidNonTxBssidCap ∨ id = eidSsid then pure out else copyElem sub ⟨pos, id, len⟩ out
    if pos + len + 2 = sub.length then return out else newLoop sub (pos + len + 2) out
  else return out
termination_by sub.length - pos

/-- The SSID of the profile is copied. -/
def copySsid (sub : List UInt8) : BoundedRead Empty (List UInt8) := do
  match ← findElem sub eidSsid 0 sub.length with
  | none => return []
  | some ssid => copyElem sub ssid []

/-- Where the loop over the elements of the beacon starts. -/
def startOld (ie : List UInt8) : BoundedRead Empty Nat := do
  match ← findElem ie eidSsid 0 ie.length with
  | none => return 0
  | some old => return old.after

/-- `cfg80211_gen_new_ie`, with what was written in place of its length.  `copied` says whether
there was memory for the copy of the profile. -/
def cfg80211GenNewIe (ie subelement : List UInt8) (copied : Bool) :
    BoundedRead Empty (List UInt8) :=
  if !copied then return []
  else do
    let out ← copySsid subelement
    let nonInherit ← findExtElem subelement eidExtNonInheritance 0 subelement.length
    let s ← oldLoop ie nonInherit (← startOld ie) ⟨subelement, out⟩
    newLoop s.sub 0 s.out

/-! ## Inheritance -/

/-- A non-inheritance element lists the element: two lists follow its extended id, each behind its
length, of ids and of extended ids. -/
def listedIn (nonInherit old : Ie) : Bool :=
  let idLen := u8At nonInherit.data 1
  let extIdLen := u8At nonInherit.data (2 + idLen)
  2 ≤ nonInherit.data.length && 3 + idLen + extIdLen ≤ nonInherit.data.length &&
    if old.id.toNat = eidExtension then
      ((window nonInherit.data (3 + idLen) extIdLen).map UInt8.toNat).contains (u8At old.data 0)
    else ((window nonInherit.data 2 idLen).map UInt8.toNat).contains old.id.toNat

/-- The profile's non-inheritance element. -/
def nonInheritance (ps : List Ie) : Option Ie :=
  ps.find? fun p => p.id == 255 && p.data.head? == some 56

def inherited (nonInherit : Option Ie) (old : Ie) : Bool :=
  old.id != 71 && nonInherit.all fun nonInherit => !listedIn nonInherit old

/-- The elements that do not say that they are an SSID. -/
def live (ps : List Ie) : List Ie := ps.filter fun p => p.id != 0

/-! ## What the loops do, element by element -/

/-- The search stops at this element of the profile. -/
def meets (old new : Ie) : Bool :=
  old.id == new.id && (old.id != 255 || old.data.head? == new.data.head?)

/-- The first element of a kind gets the id of an SSID. -/
def useFirst (p : Ie → Bool) : List Ie → List Ie
  | [] => []
  | e :: es => if p e then { e with id := 0 } :: es else e :: useFirst p es

/-- The profile behind an element of the beacon, and what is written for it. -/
def combineOne (nonInherit : Option Ie) (old : Ie) (qs : List Ie) : List Ie × List Ie :=
  match qs.find? (meets old) with
  | none => (qs, if inherited nonInherit old then [old] else [])
  | some new =>
    if old.id = 221 ∧ old.data.take 5 ≠ new.data.take 5 then (qs, [old])
    else (useFirst (meets old) qs, [new])

/-- The profile behind the elements of the beacon, and what is written for them. -/
def combine (nonInherit : Option Ie) : List Ie → List Ie → List Ie × List Ie
  | [], qs => (qs, [])
  | old :: olds, qs =>
    let (qs, out) := combineOne nonInherit old qs
    let (qs, out') := combine nonInherit olds qs
    (qs, out ++ out')

theorem combine_nil (nonInherit : Option Ie) (qs : List Ie) :
    combine nonInherit [] qs = (qs, []) := rfl

theorem combine_cons (nonInherit : Option Ie) (old : Ie) (olds qs : List Ie) :
    combine nonInherit (old :: olds) qs =
      ((combine nonInherit olds (combineOne nonInherit old qs).1).1,
        (combineOne nonInherit old qs).2 ++
          (combine nonInherit olds (combineOne nonInherit old qs).1).2) := rfl

/-- What is written behind the elements of the beacon. -/
def leftOver (qs : List Ie) : List Ie := (live qs).filter fun q => q.id != 83

/-- The element has the bytes that are looked at: an extended id, and five of a vendor element if it
is compared with one of the profile. -/
def Readable (old : Ie) (qs : List Ie) : Prop :=
  (old.id = 255 → old.data ≠ []) ∧
    (old.id = 221 → ∀ new ∈ qs.find? (meets old), 5 ≤ old.data.length ∧ 5 ≤ new.data.length)

def AllReadable (nonInherit : Option Ie) : List Ie → List Ie → Prop
  | [], _ => True
  | old :: olds, qs =>
    Readable old qs ∧ AllReadable nonInherit olds (combineOne nonInherit old qs).1

/-! ## Reading an element -/

theorem id_eq_iff {e : Ie} (id : UInt8) : e.id.toNat = id.toNat ↔ e.id = id := UInt8.toNat_inj

/-- A byte of an element's data. -/
theorem readU8_data (front : List UInt8) (e : Ie) (back : List UInt8) {k : Nat}
    (inside : k < e.data.length) :
    (readU8 (front ++ (e.bytes ++ back)) ((placeBehind front e).data + k) : BoundedRead Empty Nat) =
      .ok (u8At e.data k) := by
  have room : (placeBehind front e).data + k + 1 ≤ (front ++ (e.bytes ++ back)).length := by
    rw [List.length_append, List.length_append, e.bytes_length]
    change front.length + 2 + k + 1 ≤ _
    omega
  rw [readU8_of_le room]
  exact congrArg _ (u8At_data front e back inside)

/-- A part of an element's data. -/
theorem readBytes_data (front : List UInt8) (e : Ie) (back : List UInt8) {k n : Nat}
    (inside : k + n ≤ e.data.length) :
    ∃ length, (readBytes (front ++ (e.bytes ++ back)) ((placeBehind front e).data + k) n :
      BoundedRead Empty _) = .ok ⟨window e.data k n, length⟩ := by
  have room : (placeBehind front e).data + k + n ≤ (front ++ (e.bytes ++ back)).length := by
    rw [List.length_append, List.length_append, e.bytes_length]
    change front.length + 2 + k + n ≤ _
    omega
  have data : window (front ++ (e.bytes ++ back)) (placeBehind front e).data e.data.length =
      e.data := window_data front e back
  have part : window (front ++ (e.bytes ++ back)) ((placeBehind front e).data + k) n =
      window e.data k n := by
    calc window (front ++ (e.bytes ++ back)) ((placeBehind front e).data + k) n
        = window (window (front ++ (e.bytes ++ back)) (placeBehind front e).data e.data.length)
            k n := by
          rw [window, window, window, List.drop_take, List.drop_drop, List.take_take,
            Nat.min_eq_left (by omega)]
      _ = window e.data k n := by rw [data]
  refine ⟨window_length inside, ?_⟩
  rw [readBytes_of_le room]
  exact congrArg Except.ok (Subtype.ext part)

theorem copyElem_eq (front : List UInt8) (e : Ie) (back out : List UInt8) :
    copyElem (front ++ (e.bytes ++ back)) (placeBehind front e) out = .ok (out ++ e.bytes) := by
  have room : front.length + (e.data.length + 2) ≤ (front ++ (e.bytes ++ back)).length := by
    rw [List.length_append, List.length_append, e.bytes_length]
    omega
  have whole : window (front ++ (e.bytes ++ back)) front.length (e.data.length + 2) = e.bytes :=
    window_middle rfl e.bytes_length
  have read : (readBytes (front ++ (e.bytes ++ back)) (placeBehind front e).ofs
      ((placeBehind front e).len + 2) : BoundedRead Empty _) = .ok _ := readBytes_of_le room
  rw [copyElem, read]
  exact congrArg (fun bytes => Except.ok (out ++ bytes)) whole

/-! ## The non-inheritance element -/

theorem isElementInherited_eq (front : List UInt8) (old : Ie) (back pre : List UInt8) (m : Ie)
    (post : List UInt8) (some' : old.id = 255 → old.data ≠ []) :
    isElementInherited (front ++ (old.bytes ++ back)) (placeBehind front old)
      (pre ++ (m.bytes ++ post)) (placeBehind pre m) = .ok (inherited (some m) old) := by
  rw [isElementInherited, inherited, Option.all_some]
  change (if old.id.toNat = (71 : UInt8).toNat then _ else if m.data.length < 2 then _ else _ :
    BoundedRead Empty Bool) = _
  by_cases multiple : old.id = 71
  · rw [if_pos ((id_eq_iff 71).mpr multiple), multiple]
    rfl
  rw [if_neg ((id_eq_iff 71).not.mpr multiple), bne_iff_ne.mpr multiple, Bool.true_and, listedIn]
  by_cases none' : m.data.length < 2
  · rw [if_pos none', decide_eq_false (by omega : ¬ 2 ≤ m.data.length)]
    rfl
  rw [if_neg none', decide_eq_true (by omega : 2 ≤ m.data.length), Bool.true_and,
    readU8_data pre m post (by omega)]
  change (if m.data.length < 3 + u8At m.data 1 then _ else _ : BoundedRead Empty Bool) = _
  by_cases cut : m.data.length < 3 + u8At m.data 1
  · rw [if_pos cut, decide_eq_false (by omega)]
    rfl
  rw [if_neg cut, readU8_data pre m post (by omega)]
  change (if m.data.length < 3 + u8At m.data 1 + u8At m.data (2 + u8At m.data 1) then _ else _ :
    BoundedRead Empty Bool) = _
  generalize idLen : u8At m.data 1 = idLen' at *
  generalize extIdLen : u8At m.data (2 + idLen') = extIdLen'
  by_cases cut' : m.data.length < 3 + idLen' + extIdLen'
  · rw [if_pos cut', decide_eq_false (by omega)]
    rfl
  rw [if_neg cut', decide_eq_true (by omega), Bool.true_and]
  by_cases ext : old.id.toNat = eidExtension
  · have byte : (readU8 (front ++ (old.bytes ++ back)) (placeBehind front old).data :
        BoundedRead Empty Nat) = .ok (u8At old.data 0) :=
      readU8_data front old back (List.length_pos_iff.mpr (some' ((id_eq_iff 255).mp ext)))
    obtain ⟨length, list⟩ :=
      readBytes_data pre m post (by omega : 3 + idLen' + extIdLen' ≤ m.data.length)
    rw [if_pos (c := (placeBehind front old).id = eidExtension) ext, if_pos ext, list]
    change (if extIdLen' = 0 then _ else do
      let id ← readU8 (front ++ (old.bytes ++ back)) (placeBehind front old).data
      _ : BoundedRead Empty Bool) = _
    rw [byte]
    by_cases empty : extIdLen' = 0
    · rw [if_pos empty, empty]
      rfl
    · rw [if_neg empty]
      rfl
  · obtain ⟨length, list⟩ := readBytes_data pre m post (by omega : 2 + idLen' ≤ m.data.length)
    rw [if_neg (c := (placeBehind front old).id = eidExtension) ext, if_neg ext, list]
    by_cases empty : idLen' = 0
    · rw [if_pos empty, empty]
      rfl
    · rw [if_neg empty]
      rfl

/-- The non-inheritance element that was found, and where it lies among the elements, whose ids may
have changed since. -/
inductive NonInheritAt (qs : List Ie) : Option Ie → Option Elem → Prop
  | none : NonInheritAt qs none none
  | some (pre : List Ie) (m : Ie) (post : List Ie) (n : Ie) (here : qs = pre ++ m :: post)
    (data : m.data = n.data) : NonInheritAt qs (some n) (some (placeBehind (bytesOf pre) n))

theorem bytesOf_length_congr {qs ps : List Ie} (same : qs.map Ie.data = ps.map Ie.data) :
    (bytesOf qs).length = (bytesOf ps).length := by
  induction qs generalizing ps with
  | nil => rw [List.map_eq_nil_iff.mp same.symm]
  | cons q qs ih =>
    obtain ⟨p, ps, rfl, data, rest⟩ := List.map_eq_cons_iff.mp same.symm
    rw [bytesOf_cons, bytesOf_cons, List.length_append, List.length_append, q.bytes_length,
      p.bytes_length, data, ih rest.symm]

theorem NonInheritAt.congr {ps qs : List Ie} {n : Option Ie} {nonInherit : Option Elem}
    (known : NonInheritAt ps n nonInherit) (same : qs.map Ie.data = ps.map Ie.data) :
    NonInheritAt qs n nonInherit := by
  cases known with
  | none => exact .none
  | some pre m post n here data =>
    rw [here, List.map_append] at same
    obtain ⟨pre', rest, rfl, samePre, sameRest⟩ := List.map_eq_append_iff.mp same
    obtain ⟨m', post', rfl, sameM, -⟩ := List.map_eq_cons_iff.mp sameRest
    have place : placeBehind (bytesOf pre) n = placeBehind (bytesOf pre') n :=
      congrArg (Elem.mk · n.id.toNat n.data.length) (bytesOf_length_congr samePre).symm
    rw [place]
    exact .some pre' m' post' n rfl (sameM.trans data)

theorem inherited_congr {m n old : Ie} (data : m.data = n.data) :
    inherited (some m) old = inherited (some n) old := by
  rw [inherited, inherited, Option.all_some, Option.all_some, listedIn, listedIn, data]

theorem inheritsOld_eq {front : List UInt8} {old : Ie} {back : List UInt8} {qs : List Ie}
    {tail : List UInt8} {n : Option Ie} {nonInherit : Option Elem}
    (known : NonInheritAt qs n nonInherit) (some' : old.id = 255 → old.data ≠ []) :
    inheritsOld (front ++ (old.bytes ++ back)) (placeBehind front old) (bytesOf qs ++ tail)
      nonInherit = .ok (inherited n old) := by
  cases known with
  | none =>
    have same : (old.id.toNat != eidMultipleBssid) = (old.id != 71) := by
      rw [Bool.eq_iff_iff, bne_iff_ne, bne_iff_ne]
      exact (id_eq_iff 71).not
    rw [inherited, Option.all_none, Bool.and_true, ← same]
    rfl
  | some pre m post n here data =>
    have split : bytesOf qs ++ tail = bytesOf pre ++ (m.bytes ++ (bytesOf post ++ tail)) := by
      rw [here, bytesOf_middle]
    have len : placeBehind (bytesOf pre) n = ⟨(bytesOf pre).length, n.id.toNat, m.data.length⟩ :=
      congrArg (Elem.mk _ _) (congrArg List.length data.symm)
    rw [split, ← inherited_congr data, len]
    exact isElementInherited_eq front old back (bytesOf pre) m (bytesOf post ++ tail) some'

/-! ## Searching the profile -/

variable {before after : List Ie} {bytes : List UInt8} {ps olds : List Ie}

theorem find?_eq_of_append {p : Ie → Bool} {q : Ie} (found : p q = true)
    (not : ∀ q ∈ before, p q = false) : (before ++ q :: after).find? p = some q :=
  List.find?_eq_some_iff_append.mpr
    ⟨found, before, after, rfl, fun q listed => (Bool.not_eq_true' _).mpr (not q listed)⟩

section Search

variable {qs : List Ie} {tail : List UInt8}

theorem findElem_whole (eid : Nat) (short : bytes.length < 2 ^ 32) :
    findElem bytes eid 0 bytes.length =
      .ok ((elements bytes bytes.length 0).find? fun e => e.id == eid) := by
  have searched : findElem bytes eid 0 bytes.length = .ok _ :=
    findElem_eq (Nat.le_of_eq (Nat.zero_add bytes.length))
  rw [Nat.mod_eq_of_lt short, Nat.zero_add] at searched
  exact searched

theorem findExtElem_whole (extEid : Nat) (short : bytes.length < 2 ^ 32) :
    findExtElem bytes extEid 0 bytes.length = .ok ((elements bytes bytes.length 0).find? fun e =>
      (e.id == eidExtension && 1 ≤ e.len) && u8At bytes e.data == extEid) := by
  rw [findExtElem, Nat.mod_eq_of_lt short, Nat.zero_add]
  refine findElement_eq (Nat.le_refl _) fun e listed => ?_
  have inside := (mem_elements listed).2.1
  rw [Elem.after_eq] at inside
  by_cases ext : (e.id == eidExtension && 1 ≤ e.len) = true
  · have some' : 1 ≤ e.len := of_decide_eq_true (Bool.and_eq_true_iff.mp ext).2
    have read : (readU8 bytes e.data : BoundedRead Empty Nat) = .ok (u8At bytes e.data) :=
      readU8_of_le (by omega)
    rw [if_pos ext, read, ext]
    rfl
  · rw [if_neg ext, Bool.eq_false_iff.mpr ext]
    rfl

/-- What is found among the elements, as a place. -/
inductive FoundIn (qs : List Ie) (p : Ie → Bool) : Option Elem → Prop
  | none (nowhere : ∀ q ∈ qs, p q = false) : FoundIn qs p none
  | some (before : List Ie) (q : Ie) (after : List Ie) (here : qs = before ++ q :: after)
    (found : p q = true) (not : ∀ q ∈ before, p q = false) :
    FoundIn qs p (some (placeBehind (bytesOf before) q))

theorem foundIn {q : Elem → Bool} {p : Ie → Bool} (cut : CutOff tail)
    (whole : bytes = bytesOf qs ++ tail)
    (agrees : ∀ front e back, bytes = front ++ (e.bytes ++ back) →
      q (placeBehind front e) = p e) : FoundIn qs p ((elements bytes bytes.length 0).find? q) := by
  cases found : qs.find? p with
  | none =>
    have nowhere : ∀ e ∈ qs, p e = false := fun e listed =>
      Bool.eq_false_iff.mpr (List.find?_eq_none.mp found e listed)
    have none' : (elements bytes bytes.length 0).find? q = none :=
      find_bytesOf_none agrees [] cut whole nowhere
    rw [none']
    exact .none nowhere
  | some e =>
    obtain ⟨is, before, after, here, not⟩ := List.find?_eq_some_iff_append.mp found
    have not' : ∀ e ∈ before, p e = false := fun e listed => Bool.not_eq_true' _ ▸ not e listed
    rw [here] at whole
    have some' : (elements bytes bytes.length 0).find? q =
        some (placeBehind (bytesOf before) e) :=
      find_bytesOf_some agrees [] whole is not'
    rw [some']
    exact .some before e after here is not'

theorem foundIn_id (id : UInt8) (cut : CutOff tail) :
    FoundIn qs (fun q => q.id == id) ((elements (bytesOf qs ++ tail) (bytesOf qs ++ tail).length
      0).find? fun e => e.id == id.toNat) := by
  refine foundIn cut rfl fun front e back _ => ?_
  rw [Bool.eq_iff_iff, beq_iff_eq, beq_iff_eq]
  exact id_eq_iff id

theorem foundIn_ext (ext : UInt8) (cut : CutOff tail) :
    FoundIn qs (fun q => q.id == 255 && q.data.head? == some ext)
      ((elements (bytesOf qs ++ tail) (bytesOf qs ++ tail).length 0).find? fun e =>
        (e.id == eidExtension && 1 ≤ e.len) &&
          u8At (bytesOf qs ++ tail) e.data == ext.toNat) := by
  refine foundIn cut rfl fun front e back whole => ?_
  rw [Bool.eq_iff_iff, Bool.and_eq_true_iff, Bool.and_eq_true_iff, Bool.and_eq_true_iff, beq_iff_eq,
    beq_iff_eq, beq_iff_eq, beq_iff_eq, decide_eq_true_iff, and_assoc]
  refine and_congr (id_eq_iff 255) ?_
  cases none' : e.data with
  | nil =>
    refine ⟨fun both => absurd both.1 ?_, nofun⟩
    change ¬ 1 ≤ e.data.length
    rw [none']
    decide
  | cons b data =>
    have pos : 0 < e.data.length := by
      rw [none', List.length_cons]
      omega
    have byte : u8At (bytesOf qs ++ tail) (placeBehind front e).data = b.toNat := by
      rw [whole]
      refine (u8At_data front e back pos).trans ?_
      rw [none']
      rfl
    rw [byte]
    exact ⟨fun both => congrArg some (UInt8.toNat_inj.mp both.2), fun same =>
      ⟨pos, congrArg UInt8.toNat (Option.some.inj same)⟩⟩

theorem findNew_found {front : List UInt8} {old : Ie} {back : List UInt8} (cut : CutOff tail)
    (short : (bytesOf qs ++ tail).length < 2 ^ 32) (some' : old.id = 255 → old.data ≠ []) :
    ∃ found, findNew (front ++ (old.bytes ++ back)) (placeBehind front old) (bytesOf qs ++ tail) =
      .ok found ∧ FoundIn qs (meets old) found := by
  rw [findNew]
  by_cases ext : old.id = 255
  · obtain ⟨b, data, same⟩ := List.exists_cons_of_ne_nil (some' ext)
    have byte : (readU8 (front ++ (old.bytes ++ back)) ((placeBehind front old).ofs + 2) :
        BoundedRead Empty Nat) = .ok b.toNat := by
      refine (readU8_data front old back (List.length_pos_iff.mpr (some' ext))).trans ?_
      rw [same]
      rfl
    have kind : meets old = fun q => q.id == 255 && q.data.head? == some b := by
      funext q
      rw [meets, ext, same, List.head?_cons, Bool.eq_iff_iff]
      simp only [bne_self_eq_false, Bool.false_or, Bool.and_eq_true_iff, beq_iff_eq]
      exact and_congr eq_comm eq_comm
    refine ⟨_, ?_, kind ▸ foundIn_ext b cut⟩
    rw [if_pos (c := (placeBehind front old).id = eidExtension) ((id_eq_iff 255).mpr ext),
      byte]
    exact findExtElem_whole b.toNat short
  · have kind : meets old = fun q => q.id == old.id := by
      funext q
      rw [meets, bne_iff_ne.mpr ext, Bool.true_or, Bool.and_true, Bool.beq_comm]
    refine ⟨_, ?_, kind ▸ foundIn_id old.id cut⟩
    rw [if_neg (c := (placeBehind front old).id = eidExtension) ((id_eq_iff 255).not.mpr ext)]
    exact findElem_whole old.id.toNat short

end Search

/-! ## An element of the beacon -/

theorem useFirst_eq {p : Ie → Bool} {q : Ie} (found : p q = true)
    (not : ∀ q ∈ before, p q = false) :
    useFirst p (before ++ q :: after) = before ++ { q with id := 0 } :: after := by
  induction before with
  | nil => rw [List.nil_append, useFirst, if_pos found, List.nil_append]
  | cons e before ih =>
    rw [List.cons_append, useFirst, if_neg (Bool.eq_false_iff.mp (not e (.head _))),
      ih fun q later => not q (.tail _ later), List.cons_append]

theorem useFirst_data (p : Ie → Bool) (qs : List Ie) :
    (useFirst p qs).map Ie.data = qs.map Ie.data := by
  induction qs with
  | nil => rfl
  | cons e qs ih =>
    rw [useFirst]
    split
    · rfl
    · rw [List.map_cons, List.map_cons, ih]

theorem combineOne_data (nonInherit : Option Ie) (old : Ie) (qs : List Ie) :
    (combineOne nonInherit old qs).1.map Ie.data = qs.map Ie.data := by
  rw [combineOne]
  split
  · rfl
  · split
    · rfl
    · exact useFirst_data _ _

theorem combine_data (nonInherit : Option Ie) (olds qs : List Ie) :
    (combine nonInherit olds qs).1.map Ie.data = qs.map Ie.data := by
  induction olds generalizing qs with
  | nil => rfl
  | cons old olds ih => rw [combine_cons, ih, combineOne_data]

section Merge

variable {qs : List Ie} {tail : List UInt8} {n : Option Ie} {nonInherit : Option Elem}

theorem length_congr {qs ps : List Ie} (same : qs.map Ie.data = ps.map Ie.data) :
    (bytesOf qs ++ tail).length = (bytesOf ps ++ tail).length := by
  rw [List.length_append, List.length_append, bytesOf_length_congr same]

theorem takeNew_eq {q : Ie} {out : List UInt8} :
    takeNew ⟨bytesOf (before ++ q :: after) ++ tail, out⟩ (placeBehind (bytesOf before) q) =
      .ok ⟨bytesOf (before ++ { q with id := 0 } :: after) ++ tail, out ++ bytesOf [q]⟩ := by
  have room : (bytesOf before).length < (bytesOf (before ++ q :: after)).length := by
    rw [bytesOf_append, bytesOf_cons, List.length_append, List.length_append, q.bytes_length]
    omega
  have marked :
      (bytesOf (before ++ q :: after) ++ tail).set (placeBehind (bytesOf before) q).ofs 0 =
      bytesOf (before ++ { q with id := 0 } :: after) ++ tail :=
    (List.set_append_left _ _ room).trans
      (congrArg (· ++ tail) (set_bytesOf before q after 0))
  have copied : copyElem (bytesOf (before ++ q :: after) ++ tail) (placeBehind (bytesOf before) q)
      out = .ok (out ++ bytesOf [q]) := by
    rw [bytesOf_middle, copyElem_eq, bytesOf_cons, bytesOf_nil, List.append_nil]
  rw [takeNew, marked, copied]
  rfl

/-- The bytes that decide whether two vendor elements are the same. -/
theorem readType (front : List UInt8) (e : Ie) (back : List UInt8) (long : 5 ≤ e.data.length) :
    ∃ length, (readBytes (front ++ (e.bytes ++ back)) ((placeBehind front e).ofs + 2) 5 :
      BoundedRead Empty _) = .ok ⟨e.data.take 5, length⟩ :=
  readBytes_data front e back (by omega : 0 + 5 ≤ e.data.length)

theorem mergeOld_eq (front : List UInt8) (old : Ie) (back out : List UInt8) (cut : CutOff tail)
    (short : (bytesOf qs ++ tail).length < 2 ^ 32)
    (known : NonInheritAt qs n nonInherit) (readable : Readable old qs) :
    mergeOld (front ++ (old.bytes ++ back)) nonInherit (placeBehind front old)
        ⟨bytesOf qs ++ tail, out⟩ =
      .ok ⟨bytesOf (combineOne n old qs).1 ++ tail, out ++ bytesOf (combineOne n old qs).2⟩ := by
  obtain ⟨found, searched, place⟩ := @findNew_found qs tail front old back cut short readable.1
  have kept : (copyElem (front ++ (old.bytes ++ back)) (placeBehind front old) out) =
      .ok (out ++ bytesOf [old]) := by
    rw [copyElem_eq, bytesOf_cons, bytesOf_nil, List.append_nil]
  rw [mergeOld, searched, combineOne]
  cases place with
  | none nowhere =>
    have none' : qs.find? (meets old) = none :=
      List.find?_eq_none.mpr fun q listed => Bool.eq_false_iff.mp (nowhere q listed)
    simp only [none', inheritsOld_eq known readable.1, bind, Except.bind]
    cases inherited n old with
    | true =>
      rw [if_pos rfl, kept]
      rfl
    | false =>
      rw [if_neg Bool.false_ne_true, if_neg Bool.false_ne_true, bytesOf_nil, List.append_nil]
      rfl
  | some before q after here is not =>
    have some' : qs.find? (meets old) = some q := by rw [here, find?_eq_of_append is not]
    have used : useFirst (meets old) qs = before ++ { q with id := 0 } :: after := by
      rw [here, useFirst_eq is not]
    have taken : takeNew ⟨bytesOf qs ++ tail, out⟩ (placeBehind (bytesOf before) q) =
        .ok ⟨bytesOf (useFirst (meets old) qs) ++ tail, out ++ bytesOf [q]⟩ := by
      rw [used, here, takeNew_eq]
    simp only [some', bind, Except.bind]
    by_cases vendor : old.id = 221
    · obtain ⟨long, long'⟩ := readable.2 vendor q some'
      obtain ⟨length, oldType⟩ := readType front old back long
      obtain ⟨length', newType⟩ := readType (bytesOf before) q (bytesOf after ++ tail) long'
      rw [← bytesOf_middle, ← here] at newType
      rw [if_pos (c := (placeBehind front old).id = eidVendorSpecific)
        ((id_eq_iff 221).mpr vendor)]
      simp only [oldType, newType]
      by_cases same : old.data.take 5 = q.data.take 5
      · rw [if_pos same, if_neg fun both => both.2 same]
        exact taken
      · rw [if_neg same, if_pos ⟨vendor, same⟩, kept]
        rfl
    · rw [if_neg (c := (placeBehind front old).id = eidVendorSpecific)
        ((id_eq_iff 221).not.mpr vendor), if_neg fun both => vendor both.1]
      exact taken

end Merge

/-! ## The elements of the beacon -/

/-- The element whose first byte lies at `ofs`, as far as it is there. -/
def ieAt (bytes : List UInt8) (ofs : Nat) : Ie :=
  ⟨.ofNat (u8At bytes ofs), window bytes (ofs + 2) (u8At bytes (ofs + 1)),
    Nat.lt_of_le_of_lt (List.length_take_le _ _) (u8At_lt bytes (ofs + 1))⟩

/-- The elements that the loop over the beacon handles, unless it comes to stand at the last byte or
behind it.  Where an element has the id of an SSID the next byte is taken for the next element. -/
def handled (ie : List UInt8) (pos : Nat) : Option (List Ie) :=
  if pos + 2 ≤ ie.length then
    if (elemAt ie pos).after ≤ ie.length then
      if (elemAt ie pos).id = eidSsid then handled ie (pos + 1)
      else if (elemAt ie pos).after = ie.length then some [ieAt ie pos]
      else (handled ie (elemAt ie pos).after).map (ieAt ie pos :: ·)
    else some []
  else none
termination_by ie.length - pos
decreasing_by
  all_goals
    simp only [Elem.after, elemAt] at *
    omega

section OldLoop

variable {ie : List UInt8} {pos : Nat}

theorem ieAt_data_length (inside : (elemAt ie pos).after ≤ ie.length) :
    (ieAt ie pos).data.length = u8At ie (pos + 1) := window_length inside

theorem placeBehind_ieAt (inside : (elemAt ie pos).after ≤ ie.length) :
    placeBehind (ie.take pos) (ieAt ie pos) = elemAt ie pos := by
  have before : pos ≤ ie.length := by
    have inside' : pos + 2 + u8At ie (pos + 1) ≤ ie.length := inside
    omega
  rw [placeBehind, elemAt, ieAt_data_length inside, List.length_take, Nat.min_eq_left before]
  refine congrArg (Elem.mk pos · _) ?_
  exact (UInt8.toNat_ofNat' ..).trans (Nat.mod_eq_of_lt (u8At_lt ie pos))

/-- The buffer around the element. -/
theorem eq_around_ieAt (inside : (elemAt ie pos).after ≤ ie.length) :
    ie = ie.take pos ++ ((ieAt ie pos).bytes ++ ie.drop (elemAt ie pos).after) := by
  have inside' : pos + 2 + u8At ie (pos + 1) ≤ ie.length := inside
  have here : pos < ie.length := by omega
  have next : pos + 1 < ie.length := by omega
  have first : ie[pos] = (ieAt ie pos).id := by
    apply UInt8.toNat_inj.mp
    refine Eq.trans ?_ ((UInt8.toNat_ofNat' ..).trans (Nat.mod_eq_of_lt (u8At_lt ie pos))).symm
    rw [u8At, List.getD_eq_getElem?_getD, List.getElem?_eq_getElem here, Option.getD_some]
  have second : ie[pos + 1] = UInt8.ofNat (ieAt ie pos).data.length := by
    apply UInt8.toNat_inj.mp
    rw [ieAt_data_length inside, UInt8.toNat_ofNat', Nat.mod_eq_of_lt (u8At_lt ie (pos + 1)), u8At,
      List.getD_eq_getElem?_getD, List.getElem?_eq_getElem next, Option.getD_some]
  have data : ie.drop (pos + 2) = (ieAt ie pos).data ++ ie.drop (elemAt ie pos).after :=
    calc ie.drop (pos + 2)
        = window ie (pos + 2) (u8At ie (pos + 1)) ++
            (ie.drop (pos + 2)).drop (u8At ie (pos + 1)) := (List.take_append_drop _ _).symm
      _ = (ieAt ie pos).data ++ ie.drop (elemAt ie pos).after := by
          rw [List.drop_drop]
          rfl
  calc ie = ie.take pos ++ ie.drop pos := (List.take_append_drop _ _).symm
    _ = ie.take pos ++ ((ieAt ie pos).bytes ++ ie.drop (elemAt ie pos).after) := by
        rw [List.drop_eq_getElem_cons here, List.drop_eq_getElem_cons next, first, second, data]
        rfl

/-- Every buffer is a list of elements with something behind it that is none. -/
theorem exists_bytesOf (bytes : List UInt8) :
    ∃ ies tail, bytes = bytesOf ies ++ tail ∧ CutOff tail := by
  by_cases cut : CutOff bytes
  · exact ⟨[], bytes, rfl, cut⟩
  obtain ⟨two, whole⟩ := not_or.mp cut
  have inside : (elemAt bytes 0).after ≤ bytes.length := by
    change 0 + 2 + u8At bytes (0 + 1) ≤ _
    rw [Nat.zero_add, Nat.zero_add]
    omega
  have shorter : (bytes.drop (elemAt bytes 0).after).length < bytes.length := by
    have later : 2 ≤ (elemAt bytes 0).after := Nat.le_add_right _ _
    rw [List.length_drop]
    omega
  obtain ⟨ies, tail, rest, cut⟩ := exists_bytesOf (bytes.drop (elemAt bytes 0).after)
  refine ⟨ieAt bytes 0 :: ies, tail, ?_, cut⟩
  rw [bytesOf_cons, List.append_assoc, ← rest]
  exact eq_around_ieAt inside
termination_by bytes.length
decreasing_by exact shorter

theorem oldLoop_inside {nonInherit : Option Elem} {s : Merge} (room : pos + 2 ≤ ie.length)
    (inside : (elemAt ie pos).after ≤ ie.length) :
    oldLoop ie nonInherit pos s =
      if (elemAt ie pos).id = eidSsid then oldLoop ie nonInherit (pos + 1) s
      else mergeOld ie nonInherit (elemAt ie pos) s >>= fun s =>
        if (elemAt ie pos).after = ie.length then .ok s
        else oldLoop ie nonInherit (elemAt ie pos).after s := by
  have after : pos + u8At ie (pos + 1) + 2 = (elemAt ie pos).after := by
    change _ = pos + 2 + u8At ie (pos + 1)
    omega
  have read : (readU8 ie (pos + 1) : BoundedRead Empty Nat) = .ok (u8At ie (pos + 1)) :=
    readU8_of_le room
  have readId : (readU8 ie pos : BoundedRead Empty Nat) = .ok (u8At ie pos) :=
    readU8_of_le (by omega)
  rw [oldLoop, read]
  change (if pos + u8At ie (pos + 1) + 2 ≤ ie.length then _ else _ : BoundedRead Empty Merge) = _
  rw [if_pos (by rw [after]; exact inside), readId]
  simp only [after]
  rfl

theorem oldLoop_outside {nonInherit : Option Elem} {s : Merge} (room : pos + 2 ≤ ie.length)
    (outside : ¬ (elemAt ie pos).after ≤ ie.length) : oldLoop ie nonInherit pos s = .ok s := by
  have outside' : ¬ pos + 2 + u8At ie (pos + 1) ≤ ie.length := outside
  have read : (readU8 ie (pos + 1) : BoundedRead Empty Nat) = .ok (u8At ie (pos + 1)) :=
    readU8_of_le room
  rw [oldLoop, read]
  exact if_neg (by omega)

theorem oldLoop_eq {qs olds : List Ie} {tail : List UInt8} {n : Option Ie}
    {nonInherit : Option Elem} (out : List UInt8) (cut : CutOff tail)
    (short : (bytesOf qs ++ tail).length < 2 ^ 32) (known : NonInheritAt qs n nonInherit)
    (walk : handled ie pos = some olds) (readable : AllReadable n olds qs) :
    oldLoop ie nonInherit pos ⟨bytesOf qs ++ tail, out⟩ =
      .ok ⟨bytesOf (combine n olds qs).1 ++ tail, out ++ bytesOf (combine n olds qs).2⟩ := by
  have one : ∀ {pos : Nat} {qs : List Ie} {out : List UInt8},
      (elemAt ie pos).after ≤ ie.length → (bytesOf qs ++ tail).length < 2 ^ 32 →
      NonInheritAt qs n nonInherit → Readable (ieAt ie pos) qs →
      mergeOld ie nonInherit (elemAt ie pos) ⟨bytesOf qs ++ tail, out⟩ =
        .ok ⟨bytesOf (combineOne n (ieAt ie pos) qs).1 ++ tail,
          out ++ bytesOf (combineOne n (ieAt ie pos) qs).2⟩ := by
    intro pos qs out inside short known readable
    have merged := mergeOld_eq (ie.take pos) (ieAt ie pos) (ie.drop (elemAt ie pos).after) out cut
      short known readable
    rw [← eq_around_ieAt inside, placeBehind_ieAt inside] at merged
    exact merged
  fun_induction handled ie pos generalizing qs olds out with
  | case1 pos room inside ssid next =>
    rw [oldLoop_inside room inside, if_pos ssid]
    exact next out short known walk readable
  | case2 pos room inside plain last =>
    cases walk
    rw [oldLoop_inside room inside, if_neg plain, one inside short known readable.1, combine_cons,
      combine_nil, List.append_nil]
    exact if_pos last
  | case3 pos room inside plain more next =>
    obtain ⟨olds, further, rfl⟩ := Option.map_eq_some_iff.mp walk
    have data := combineOne_data n (ieAt ie pos) qs
    rw [oldLoop_inside room inside, if_neg plain, one inside short known readable.1, combine_cons]
    refine (if_neg more).trans ?_
    rw [next _ (length_congr data ▸ short) (known.congr data) further readable.2, bytesOf_append,
      List.append_assoc]
  | case4 pos room outside =>
    cases walk
    rw [oldLoop_outside room outside, combine_nil, bytesOf_nil, List.append_nil]
  | case5 pos atEnd => cases walk

/-- A walk that comes to stand at the last byte or behind it reads behind the buffer. -/
theorem oldLoop_none {nonInherit : Option Elem} {s : Merge} (walk : handled ie pos = none) :
    ¬ Returns (oldLoop ie nonInherit pos s) := by
  fun_induction handled ie pos generalizing s with
  | case1 pos room inside ssid next =>
    rw [oldLoop_inside room inside, if_pos ssid]
    exact next walk
  | case2 pos room inside plain last => cases walk
  | case3 pos room inside plain more next =>
    rw [oldLoop_inside room inside, if_neg plain]
    cases mergeOld ie nonInherit (elemAt ie pos) s with
    | error stopped => exact not_returns_error stopped
    | ok s =>
      change ¬ Returns (if _ then _ else _)
      rw [if_neg more]
      exact next (Option.map_eq_none_iff.mp walk)
  | case4 pos room outside => cases walk
  | case5 pos atEnd =>
    have read : (readU8 ie (pos + 1) : BoundedRead Empty Nat) = .error .outOfBounds := by
      rw [readU8, touch, if_neg (by omega)]
      rfl
    rw [oldLoop, read]
    exact not_returns_error _

end OldLoop

/-! ## What is left of the profile -/

theorem leftOver_cons (q : Ie) (qs : List Ie) :
    leftOver (q :: qs) = if q.id = 83 ∨ q.id = 0 then leftOver qs else q :: leftOver qs := by
  rw [leftOver, leftOver, live, live]
  by_cases ssid : q.id = 0
  · rw [if_pos (.inr ssid), List.filter_cons_of_neg]
    rw [ssid]
    decide
  · rw [List.filter_cons_of_pos (p := fun p : Ie => p.id != 0) (bne_iff_ne.mpr ssid)]
    by_cases cap : q.id = 83
    · rw [if_pos (.inl cap), List.filter_cons_of_neg]
      rw [cap]
      decide
    · rw [if_neg (not_or.mpr ⟨cap, ssid⟩), List.filter_cons_of_pos (p := fun q : Ie => q.id != 83)
        (bne_iff_ne.mpr cap)]

/-- The elements end the profile, or there is one more whose data are not all there. -/
def Ends (qs : List Ie) (tail : List UInt8) : Prop :=
  tail = [] ∧ qs ≠ [] ∨ 2 ≤ tail.length ∧ tail.length < 2 + u8At tail 1

theorem Ends.cutOff {qs : List Ie} {tail : List UInt8} (ends : Ends qs tail) : CutOff tail := by
  rcases ends with ⟨rfl, -⟩ | ⟨-, short⟩
  · exact cutOff_nil
  · exact .inr short

theorem newLoop_inside (front : List UInt8) (e : Ie) (back out : List UInt8) :
    newLoop (front ++ (e.bytes ++ back)) front.length out =
      if back = [] then .ok (out ++ bytesOf (leftOver [e]))
      else newLoop (front ++ e.bytes ++ back) (front ++ e.bytes).length
        (out ++ bytesOf (leftOver [e])) := by
  have length : (front ++ (e.bytes ++ back)).length =
      front.length + (2 + e.data.length + back.length) := by
    rw [List.length_append, List.length_append, e.bytes_length]
    omega
  have readLen : (readU8 (front ++ (e.bytes ++ back)) (front.length + 1) : BoundedRead Empty Nat) =
      .ok e.data.length := by
    rw [readU8_of_le (by omega), u8At_len]
  have readId : (readU8 (front ++ (e.bytes ++ back)) front.length : BoundedRead Empty Nat) =
      .ok e.id.toNat := by
    rw [readU8_of_le (by omega), u8At_id]
  have atEnd : front.length + e.data.length + 2 = (front ++ (e.bytes ++ back)).length ↔
      back = [] := by
    rw [← List.length_eq_zero_iff]
    omega
  have after : front.length + e.data.length + 2 = (front ++ e.bytes).length := by
    rw [List.length_append, e.bytes_length]
    omega
  rw [newLoop, readLen]
  change (if front.length + e.data.length + 2 ≤ _ then _ else _ : BoundedRead Empty _) = _
  rw [if_pos (by omega), readId]
  have skipped : e.id.toNat = eidNonTxBssidCap ∨ e.id.toNat = eidSsid ↔ e.id = 83 ∨ e.id = 0 :=
    or_congr (id_eq_iff 83) (id_eq_iff 0)
  rw [leftOver_cons, List.append_assoc]
  simp only [bind, Except.bind, skipped, atEnd]
  by_cases skip : e.id = 83 ∨ e.id = 0
  · have nothing : out ++ bytesOf (leftOver []) = out := List.append_nil out
    rw [if_pos skip, if_pos skip, nothing, ← after]
    rfl
  · have copied : copyElem (front ++ (e.bytes ++ back)) ⟨front.length, e.id.toNat, e.data.length⟩
        out = .ok (out ++ e.bytes) := copyElem_eq front e back out
    rw [if_neg skip, if_neg skip, copied, ← after]
    have alone : bytesOf (e :: leftOver []) = e.bytes := List.append_nil _
    rw [alone]
    rfl

theorem Ends.cons {qs : List Ie} {tail : List UInt8} (ends : Ends qs tail) (q : Ie) :
    Ends (q :: qs) tail :=
  ends.imp_left fun both => ⟨both.1, List.cons_ne_nil q qs⟩

/-- Where neither is the case, the loop reads behind the profile. -/
theorem newLoop_of_not_ends (front : List UInt8) {qs : List Ie} {tail out : List UInt8}
    (cut : CutOff tail) (not : ¬ Ends qs tail) :
    ¬ Returns (newLoop (front ++ (bytesOf qs ++ tail)) front.length out) := by
  induction qs generalizing front out with
  | nil =>
    have short : tail.length < 2 := by
      rcases cut with short | cut
      · exact short
      · by_cases two : 2 ≤ tail.length
        · exact absurd (.inr ⟨two, cut⟩) not
        · omega
    have length : (front ++ tail).length = front.length + tail.length := List.length_append
    have read : (readU8 (front ++ tail) (front.length + 1) : BoundedRead Empty Nat) =
        .error .outOfBounds := by
      rw [readU8, touch, if_neg (by omega)]
      rfl
    rw [bytesOf_nil, List.nil_append, newLoop, read]
    exact not_returns_error _
  | cons q qs ih =>
    have more : bytesOf qs ++ tail ≠ [] := fun last =>
      not (.inl ⟨(List.append_eq_nil_iff.mp last).2, List.cons_ne_nil q qs⟩)
    rw [bytesOf_cons, List.append_assoc, newLoop_inside, if_neg more]
    exact ih _ fun ends => not (ends.cons q)

theorem newLoop_eq (front : List UInt8) {qs : List Ie} {tail out : List UInt8}
    (ends : Ends qs tail) :
    newLoop (front ++ (bytesOf qs ++ tail)) front.length out =
      .ok (out ++ bytesOf (leftOver qs)) := by
  induction qs generalizing front out with
  | nil =>
    obtain ⟨-, some'⟩ | ⟨two, cut⟩ := ends
    · exact absurd rfl some'
    have length : (front ++ tail).length = front.length + tail.length := List.length_append
    have len : u8At (front ++ tail) (front.length + 1) = u8At tail 1 :=
      u8At_append_right front tail 1
    have read : (readU8 (front ++ tail) (front.length + 1) : BoundedRead Empty Nat) =
        .ok (u8At tail 1) := by
      rw [readU8_of_le (by omega), len]
    rw [bytesOf_nil, List.nil_append, newLoop, read]
    refine (if_neg ?_).trans (congrArg Except.ok (List.append_nil out).symm)
    omega
  | cons q qs ih =>
    rw [bytesOf_cons, List.append_assoc, newLoop_inside]
    have written : bytesOf (leftOver (q :: qs)) =
        bytesOf (leftOver [q]) ++ bytesOf (leftOver qs) := by
      rw [← bytesOf_append, leftOver, leftOver, leftOver, live, live, live, ← List.filter_append,
        ← List.filter_append]
      rfl
    by_cases last : bytesOf qs ++ tail = []
    · obtain ⟨none', -⟩ := List.append_eq_nil_iff.mp last
      have none'' : qs = [] := by
        cases qs with
        | nil => rfl
        | cons e es => cases none'
      rw [if_pos last, none'']
    · have ends' : Ends qs tail := by
        rcases ends with ⟨rfl, -⟩ | cut
        · refine .inl ⟨rfl, fun none' => last ?_⟩
          rw [none']
          rfl
        · exact .inr cut
      rw [if_neg last, ih _ ends', written, List.append_assoc]

/-! ## The function -/

/-- The offset behind the SSID of the beacon, or its beginning if there is none. -/
def behindSsid (ie : List UInt8) : Nat :=
  match (elements ie ie.length 0).find? fun e => e.id == eidSsid with
  | none => 0
  | some old => old.after

/-- What is written, as elements. -/
def combined (olds ps : List Ie) : List Ie :=
  let (qs, out) := combine (nonInheritance ps) olds ps
  (ps.find? fun p => p.id == 0).toList ++ (out ++ leftOver qs)

theorem startOld_eq {ie : List UInt8} (short : ie.length < 2 ^ 32) :
    startOld ie = .ok (behindSsid ie) := by
  rw [startOld, findElem_whole eidSsid short, behindSsid]
  cases (elements ie ie.length 0).find? fun e => e.id == eidSsid <;> rfl

theorem copySsid_eq {ps : List Ie} {tail : List UInt8} (cut : CutOff tail)
    (short : (bytesOf ps ++ tail).length < 2 ^ 32) :
    copySsid (bytesOf ps ++ tail) = .ok (bytesOf (ps.find? fun p => p.id == 0).toList) := by
  obtain ⟨ssid, searched, place⟩ : ∃ ssid, findElem (bytesOf ps ++ tail) eidSsid 0
      (bytesOf ps ++ tail).length = .ok ssid ∧ FoundIn ps (fun q => q.id == 0) ssid :=
    ⟨_, findElem_whole eidSsid short, foundIn_id 0 cut⟩
  rw [copySsid, searched]
  cases place with
  | none nowhere =>
    rw [List.find?_eq_none.mpr fun q listed => Bool.eq_false_iff.mp (nowhere q listed)]
    rfl
  | some before q after here is not =>
    have alone : bytesOf (some q).toList = [] ++ q.bytes := List.append_nil _
    have found : ps.find? (fun p => p.id == 0) = some q := by
      rw [here, find?_eq_of_append is not]
    rw [found, alone, here, bytesOf_middle]
    exact copyElem_eq (bytesOf before) q (bytesOf after ++ tail) []

theorem nonInheritAt {ps : List Ie} {tail : List UInt8} (cut : CutOff tail)
    (short : (bytesOf ps ++ tail).length < 2 ^ 32) :
    ∃ nonInherit, findExtElem (bytesOf ps ++ tail) eidExtNonInheritance 0
      (bytesOf ps ++ tail).length = .ok nonInherit ∧
        NonInheritAt ps (nonInheritance ps) nonInherit := by
  obtain ⟨nonInherit, searched, place⟩ : ∃ nonInherit, findExtElem (bytesOf ps ++ tail)
      eidExtNonInheritance 0 (bytesOf ps ++ tail).length = .ok nonInherit ∧
        FoundIn ps (fun q => q.id == 255 && q.data.head? == some 56) nonInherit :=
    ⟨_, findExtElem_whole eidExtNonInheritance short, foundIn_ext 56 cut⟩
  refine ⟨nonInherit, searched, ?_⟩
  cases place with
  | none nowhere =>
    have none' : nonInheritance ps = none :=
      List.find?_eq_none.mpr fun q listed => Bool.eq_false_iff.mp (nowhere q listed)
    rw [none']
    exact .none
  | some before q after here is not =>
    have some' : nonInheritance ps = some q := by
      rw [nonInheritance, here, find?_eq_of_append is not]
    rw [some']
    exact .some before q after q here rfl

theorem cfg80211GenNewIe_newLoop {ie : List UInt8} {tail : List UInt8} (short : ie.length < 2 ^ 32)
    (short' : (bytesOf ps ++ tail).length < 2 ^ 32) (cut : CutOff tail)
    (walk : handled ie (behindSsid ie) = some olds)
    (readable : AllReadable (nonInheritance ps) olds ps) :
    cfg80211GenNewIe ie (bytesOf ps ++ tail) true =
      newLoop (bytesOf (combine (nonInheritance ps) olds ps).1 ++ tail) 0
        (bytesOf (ps.find? fun p => p.id == 0).toList ++
          bytesOf (combine (nonInheritance ps) olds ps).2) := by
  obtain ⟨nonInherit, searched, known⟩ := nonInheritAt cut short'
  have merged := oldLoop_eq (bytesOf (ps.find? fun p => p.id == 0).toList) cut short' known walk
    readable
  simp only [cfg80211GenNewIe, Bool.not_true, Bool.false_eq_true, if_false, copySsid_eq cut short',
    searched, startOld_eq short, bind, Except.bind, merged]

theorem cfg80211GenNewIe_none {ie sub : List UInt8} (short : ie.length < 2 ^ 32)
    (walk : handled ie (behindSsid ie) = none) : ¬ Returns (cfg80211GenNewIe ie sub true) := by
  simp only [cfg80211GenNewIe, Bool.not_true, Bool.false_eq_true, if_false, startOld_eq short]
  cases copySsid sub with
  | error stopped => exact not_returns_error stopped
  | ok out =>
    cases findExtElem sub eidExtNonInheritance 0 sub.length with
    | error stopped => exact not_returns_error stopped
    | ok nonInherit =>
      simp only [bind, Except.bind]
      cases merged : oldLoop ie nonInherit (behindSsid ie) ⟨sub, out⟩ with
      | error stopped => exact not_returns_error stopped
      | ok s => exact absurd ⟨s, merged⟩ (oldLoop_none walk)

/-- Marking elements does not move the end of the profile. -/
theorem ends_combine {n : Option Ie} {tail : List UInt8} :
    Ends (combine n olds ps).1 tail ↔ Ends ps tail := by
  have data := combine_data n olds ps
  have none' : (combine n olds ps).1 = [] ↔ ps = [] := by
    rw [← List.map_eq_nil_iff, data, List.map_eq_nil_iff]
  rw [Ends, Ends, ne_eq, none']

theorem cfg80211GenNewIe_eq {ie : List UInt8} {tail : List UInt8} (short : ie.length < 2 ^ 32)
    (short' : (bytesOf ps ++ tail).length < 2 ^ 32) (ends : Ends ps tail)
    (walk : handled ie (behindSsid ie) = some olds)
    (readable : AllReadable (nonInheritance ps) olds ps) :
    cfg80211GenNewIe ie (bytesOf ps ++ tail) true = .ok (bytesOf (combined olds ps)) := by
  rw [cfg80211GenNewIe_newLoop short short' ends.cutOff walk readable]
  refine (newLoop_eq [] (ends_combine.mpr ends)).trans ?_
  rw [combined, bytesOf_append, bytesOf_append, List.append_assoc]

end Iwlwifi.GenNewIe
