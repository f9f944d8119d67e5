import Iwlwifi.Wireless.GenNewIe
import Mathlib.Data.List.Perm.Subperm

/-!
# What a non-transmitted BSS inherits

The elements that a BSS without a beacon of its own is meant to have, and where
`cfg80211_gen_new_ie` derives them.  It does not where it handles an element of the beacon otherwise
than `deriveOne`: the elements before the SSID and the Multiple-BSSID elements, an id that is
looked for in the wrong place, and vendor elements, of which only the first that is left of the
profile is compared.
-/

namespace Iwlwifi.GenNewIe

open Lib ParseElems

/-! ## The elements -/

/-- The element of the profile is of the same kind: it has the same id or extended id, and as a
vendor element also the same OUI, type and subtype. -/
def sameKind (old new : Ie) : Bool :=
  old.id == new.id &&
    (old.id != 255 || (!old.data.isEmpty && old.data.head? == new.data.head?)) &&
    (old.id != 221 || (5 ≤ old.data.length && old.data.take 5 == new.data.take 5))

/-- What is left of the profile behind an element of the beacon, and what is written for it: the
element of its kind, or itself if it is inherited. -/
def deriveOne (nonInherit : Option Ie) (old : Ie) (ps : List Ie) : List Ie × List Ie :=
  if old.id = 0 ∨ old.id = 71 then (ps, [])
  else match ps.find? (sameKind old) with
    | some new => (ps.eraseP (sameKind old), [new])
    | none => (ps, if inherited nonInherit old then [old] else [])

def derive (nonInherit : Option Ie) : List Ie → List Ie → List Ie × List Ie
  | [], ps => (ps, [])
  | old :: es, ps =>
    let (ps, out) := deriveOne nonInherit old ps
    let (ps, out') := derive nonInherit es ps
    (ps, out ++ out')

/-- The elements of the non-transmitted BSS. -/
def derived (es ps : List Ie) : List Ie :=
  let (ps', out) := derive (nonInheritance ps) es (live ps)
  (ps.find? fun p => p.id == 0).toList ++ (out ++ ps'.filter fun p => p.id != 83)

theorem derive_cons (n : Option Ie) (old : Ie) (es ps : List Ie) :
    derive n (old :: es) ps = ((derive n es (deriveOne n old ps).1).1,
      (deriveOne n old ps).2 ++ (derive n es (deriveOne n old ps).1).2) := rfl

/-- Nothing is written more often than it is there. -/
theorem deriveOne_subperm (n : Option Ie) (old : Ie) (ps : List Ie) :
    ((deriveOne n old ps).2 ++ (deriveOne n old ps).1).Subperm (old :: ps) := by
  have further : ps.Subperm (old :: ps) := (List.sublist_cons_self old ps).subperm
  rw [deriveOne]
  split
  · exact further
  · split
    · next new found =>
        obtain ⟨kind, before, after, rfl, not⟩ := List.find?_eq_some_iff_append.mp found
        have not' : ∀ q ∈ before, ¬ sameKind old q = true := fun q listed is => by
          have other := not q listed
          rw [is] at other
          cases other
        rw [List.eraseP_append_right _ not', List.eraseP_cons_of_pos kind]
        have here : (new :: (before ++ after)).Perm (before ++ new :: after) :=
          List.perm_middle.symm
        exact here.subperm.trans further
    · split
      · exact List.Subperm.refl _
      · exact further

theorem derive_subperm (n : Option Ie) (es ps : List Ie) :
    ((derive n es ps).2 ++ (derive n es ps).1).Subperm (es ++ ps) := by
  induction es generalizing ps with
  | nil => exact List.Subperm.refl _
  | cons old es ih =>
    rw [derive_cons]
    have one := deriveOne_subperm n old ps
    have rest := ih (deriveOne n old ps).1
    generalize deriveOne n old ps = step at *
    generalize derive n es step.1 = last at *
    have swapped : (step.2 ++ (es ++ step.1)).Perm (es ++ (step.2 ++ step.1)) := by
      rw [← List.append_assoc, ← List.append_assoc]
      exact List.perm_append_comm.append_right _
    rw [List.append_assoc]
    refine ((List.subperm_append_left step.2).mpr rest).trans ?_
    refine swapped.subperm.trans (((List.subperm_append_left es).mpr one).trans ?_)
    exact List.perm_middle.subperm

/-- Every element of the profile is there at most once. -/
theorem derived_subperm (es ps : List Ie) : (derived es ps).Subperm (es ++ ps) := by
  have walked := derive_subperm (nonInheritance ps) es (live ps)
  have rest : ((derive (nonInheritance ps) es (live ps)).1.filter fun p => p.id != 83).Subperm
      (derive (nonInheritance ps) es (live ps)).1 := List.filter_sublist.subperm
  have split : ((ps.find? fun p => p.id == 0).toList ++ live ps).Subperm ps := by
    cases found : ps.find? fun p => p.id == 0 with
    | none => exact List.filter_sublist.subperm
    | some ssid =>
      obtain ⟨is, before, after, rfl, -⟩ := List.find?_eq_some_iff_append.mp found
      have dead : (ssid.id != 0) = false := by
        rw [eq_of_beq is]
        rfl
      have live' : live (before ++ ssid :: after) = live (before ++ after) := by
        rw [live, live, List.filter_append, List.filter_append, List.filter_cons_of_neg]
        rw [dead]
        exact Bool.false_ne_true
      rw [live']
      exact ((List.subperm_cons ssid).mpr List.filter_sublist.subperm).trans
        List.perm_middle.symm.subperm
  have swapped : ∀ a : List Ie, (a ++ (es ++ live ps)).Perm (es ++ (a ++ live ps)) := by
    intro a
    rw [← List.append_assoc, ← List.append_assoc]
    exact List.perm_append_comm.append_right _
  rw [derived]
  refine ((List.subperm_append_left _).mpr ((List.subperm_append_left _).mpr rest)).trans ?_
  refine ((List.subperm_append_left _).mpr walked).trans ?_
  exact (swapped _).subperm.trans ((List.subperm_append_left es).mpr split)

/-! ## Where they are derived -/

/-- A vendor element meets the first one that is left of the profile only.  That is the one of its
kind, or there is none and the element is inherited. -/
def VendorSteady (nonInherit : Option Ie) (old : Ie) (ps : List Ie) : Prop :=
  ∀ new ∈ ps.find? fun p => p.id == 221, (5 ≤ old.data.length ∧ 5 ≤ new.data.length) ∧
    (sameKind old new = true ∨
      (∀ p ∈ ps, sameKind old p = false) ∧ inherited nonInherit old = true)

/-- No further SSID, no Multiple-BSSID element that meets one of the profile, no extension element
without an extended id, and no vendor element that is treated otherwise because of another one. -/
structure SteadyOne (nonInherit : Option Ie) (old : Ie) (ps : List Ie) : Prop where
  notSsid : old.id ≠ 0
  multiple : old.id = 71 → ∀ p ∈ ps, p.id ≠ 71
  extended : old.id = 255 → old.data ≠ []
  vendor : old.id = 221 → VendorSteady nonInherit old ps

def Steady (nonInherit : Option Ie) : List Ie → List Ie → Prop
  | [], _ => True
  | old :: es, ps =>
    SteadyOne nonInherit old ps ∧ Steady nonInherit es (deriveOne nonInherit old ps).1

/-- Nothing is written for the element. -/
def LeftOut (nonInherit : Option Ie) (ps : List Ie) (e : Ie) : Prop :=
  e.id ≠ 0 ∧ (e.id = 71 ∨ inherited nonInherit e = false ∧ ∀ p ∈ ps, sameKind e p = false)

/-- The elements that the loop goes through: all, or those behind the SSID, where nothing is to be
written for those before it. -/
def BehindSsid (nonInherit : Option Ie) (ps es rest : List Ie) : Prop :=
  (∀ e ∈ es, e.id ≠ 0) ∧ rest = es ∨
    ∃ before ssid, es = before ++ ssid :: rest ∧ ssid.id = 0 ∧ ∀ e ∈ before, LeftOut nonInherit ps e

structure Plain (es ps : List Ie) : Prop where
  short : (bytesOf es).length < 2 ^ 32
  short' : (bytesOf ps).length < 2 ^ 32
  some' : ps ≠ []
  rest : ∃ rest, BehindSsid (nonInheritance ps) (live ps) es rest ∧ rest ≠ [] ∧
    Steady (nonInheritance ps) rest (live ps)

/-! ### One element -/

theorem meets_id {old new : Ie} (is : meets old new = true) : old.id = new.id :=
  eq_of_beq (Bool.and_eq_true_iff.mp is).1

theorem meets_vendor {old : Ie} (vendor : old.id = 221) : meets old = fun p => p.id == 221 := by
  funext p
  have notExt : old.id ≠ 255 := by
    rw [vendor]
    decide
  rw [meets, bne_iff_ne.mpr notExt, Bool.true_or, Bool.and_true, vendor, Bool.beq_comm]

theorem meets_of_sameKind {old new : Ie} (kind : sameKind old new = true) :
    meets old new = true := by
  simp only [sameKind, meets, Bool.and_eq_true_iff, Bool.or_eq_true_iff] at kind ⊢
  exact ⟨kind.1.1, kind.1.2.imp_right And.right⟩

theorem sameKind_eq_meets {old : Ie} (plain : old.id ≠ 221)
    (extended : old.id = 255 → old.data ≠ []) : sameKind old = meets old := by
  funext new
  rw [sameKind, meets, bne_iff_ne.mpr plain, Bool.true_or, Bool.and_true]
  by_cases ext : old.id = 255
  · have some' : old.data.isEmpty = false :=
      Bool.eq_false_iff.mpr fun empty => extended ext (List.isEmpty_iff.mp empty)
    rw [some']
    rfl
  · rw [bne_iff_ne.mpr ext, Bool.true_or, Bool.true_or]

/-- Where both are vendor elements that are long enough, the first bytes decide. -/
theorem sameKind_vendor {old new : Ie} (vendor : old.id = 221) (same : old.id = new.id)
    (long : 5 ≤ old.data.length) :
    sameKind old new = (old.data.take 5 == new.data.take 5) := by
  have ext : old.id ≠ 255 := by
    rw [vendor]
    decide
  have is : (old.id == new.id) = true := beq_iff_eq.mpr same
  rw [sameKind, is, bne_iff_ne.mpr ext, decide_eq_true long, vendor]
  simp only [Bool.true_or, bne_self_eq_false, Bool.false_or, Bool.true_and]

section Lists

variable {p r : Ie → Bool} {qs : List Ie}

/-- What is marked goes out of the elements that are left. -/
theorem filter_useFirst (dead : ∀ e : Ie, r { e with id := 0 } = false)
    (kind : ∀ e, p e = true → r e = true) :
    (useFirst p qs).filter r = (qs.filter r).eraseP p := by
  induction qs with
  | nil => rfl
  | cons e qs ih =>
    rw [useFirst]
    by_cases is : p e = true
    · rw [if_pos is, List.filter_cons_of_neg (by rw [dead]; exact Bool.false_ne_true),
        List.filter_cons_of_pos (kind e is), List.eraseP_cons_of_pos is]
    · rw [if_neg is, List.filter_cons, List.filter_cons]
      split
      · rw [List.eraseP_cons_of_neg is, ih]
      · exact ih

theorem filter_useFirst_of_not (dead : ∀ e : Ie, r { e with id := 0 } = false)
    (kind : ∀ e, p e = true → r e = false) : (useFirst p qs).filter r = qs.filter r := by
  induction qs with
  | nil => rfl
  | cons e qs ih =>
    rw [useFirst]
    by_cases is : p e = true
    · rw [if_pos is, List.filter_cons_of_neg (by rw [dead]; exact Bool.false_ne_true),
        List.filter_cons_of_neg (by rw [kind e is]; exact Bool.false_ne_true)]
    · rw [if_neg is, List.filter_cons, List.filter_cons, ih]

theorem find?_filter_of_imp (kind : ∀ e, p e = true → r e = true) :
    (qs.filter r).find? p = qs.find? p := by
  induction qs with
  | nil => rfl
  | cons e qs ih =>
    rw [List.filter_cons, List.find?_cons]
    by_cases is : r e = true
    · rw [if_pos is, List.find?_cons, ih]
    · have not : p e = false := Bool.eq_false_iff.mpr fun found => is (kind e found)
      rw [if_neg is, not, ih]

/-- The first of a kind is the first of a smaller kind if it is of that. -/
theorem first_of_imp {a : Ie} (smaller : ∀ e, r e = true → p e = true) (is : r a = true)
    (found : qs.find? p = some a) : qs.find? r = some a ∧ qs.eraseP r = qs.eraseP p := by
  obtain ⟨is', before, after, rfl, not⟩ := List.find?_eq_some_iff_append.mp found
  have notP : ∀ e ∈ before, ¬ p e = true := fun e listed =>
    Bool.eq_false_iff.mp ((Bool.not_eq_true' _).mp (not e listed))
  have notR : ∀ e ∈ before, ¬ r e = true := fun e listed here => notP e listed (smaller e here)
  rw [find?_eq_of_append is fun e listed => Bool.eq_false_iff.mpr (notR e listed),
    List.eraseP_append_right _ notP, List.eraseP_append_right _ notR, List.eraseP_cons_of_pos is',
    List.eraseP_cons_of_pos is]
  exact ⟨rfl, rfl⟩

end Lists

section Step

variable {n : Option Ie} {old : Ie} {qs : List Ie}

theorem live_meets (notSsid : old.id ≠ 0) (e : Ie) (is : meets old e = true) :
    (e.id != 0) = true := bne_iff_ne.mpr (meets_id is ▸ notSsid)

theorem live_useFirst (notSsid : old.id ≠ 0) :
    live (useFirst (meets old) qs) = (live qs).eraseP (meets old) :=
  filter_useFirst (fun _ => rfl) (live_meets notSsid)

theorem find?_live (notSsid : old.id ≠ 0) : (live qs).find? (meets old) = qs.find? (meets old) :=
  find?_filter_of_imp (live_meets notSsid)

/-- Where the first element that is met is the one of the same kind. -/
theorem combineOne_of_kind (notSsid : old.id ≠ 0) (notMultiple : old.id ≠ 71)
    (notVendor : old.id ≠ 221) (same : sameKind old = meets old) :
    live (combineOne n old qs).1 = (deriveOne n old (live qs)).1 ∧
      (combineOne n old qs).2 = (deriveOne n old (live qs)).2 := by
  rw [combineOne, deriveOne, if_neg (not_or.mpr ⟨notSsid, notMultiple⟩), same, find?_live notSsid]
  cases qs.find? (meets old) with
  | none => exact ⟨rfl, rfl⟩
  | some new =>
    simp only [notVendor, false_and, if_false]
    exact ⟨live_useFirst notSsid, trivial⟩

theorem combineOne_of_vendor (vendor : old.id = 221)
    (steady : VendorSteady n old (live qs)) :
    Readable old qs ∧ live (combineOne n old qs).1 = (deriveOne n old (live qs)).1 ∧
      (combineOne n old qs).2 = (deriveOne n old (live qs)).2 := by
  have notSsid : old.id ≠ 0 := by
    rw [vendor]
    decide
  have notMultiple : old.id ≠ 71 := by
    rw [vendor]
    decide
  have notExt : old.id ≠ 255 := by
    rw [vendor]
    decide
  rw [VendorSteady, ← meets_vendor vendor, find?_live notSsid] at steady
  rw [Readable, combineOne, deriveOne, if_neg (not_or.mpr ⟨notSsid, notMultiple⟩)]
  cases found : qs.find? (meets old) with
  | none =>
    have none' : (live qs).find? (sameKind old) = none := by
      refine List.find?_eq_none.mpr fun p listed is => ?_
      have nowhere := List.find?_eq_none.mp ((find?_live notSsid).trans found) p listed
      exact nowhere (meets_of_sameKind is)
    rw [none']
    refine ⟨⟨fun ext => absurd ext notExt, fun _ new here => ?_⟩, rfl, rfl⟩
    exact absurd here (Option.not_mem_none new)
  | some new =>
    obtain ⟨⟨long, long'⟩, treated⟩ := steady new found
    have readable : (old.id = 255 → old.data ≠ []) ∧ (old.id = 221 → ∀ new' ∈ some new,
        5 ≤ old.data.length ∧ 5 ≤ new'.data.length) := by
      refine ⟨fun ext => absurd ext notExt, fun _ new' here => ?_⟩
      cases here
      exact ⟨long, long'⟩
    refine ⟨readable, ?_⟩
    have is : meets old new = true := List.find?_some found
    have decides := sameKind_vendor vendor (meets_id is) long
    rcases treated with alike | ⟨nowhere, kept⟩
    · obtain ⟨first, erased⟩ := first_of_imp
        (fun e (kind : sameKind old e = true) => meets_of_sameKind kind) alike
        ((find?_live notSsid).trans found)
      rw [alike] at decides
      have same := eq_of_beq decides.symm
      simp only [first, same, erased, ne_eq, not_true_eq_false, and_false, if_false]
      exact ⟨live_useFirst notSsid, trivial⟩
    · have none' : (live qs).find? (sameKind old) = none :=
        List.find?_eq_none.mpr fun p listed => Bool.eq_false_iff.mp (nowhere p listed)
      have listed : new ∈ live qs :=
        List.mem_of_find?_eq_some ((find?_live notSsid).trans found)
      rw [nowhere new listed] at decides
      have other := ne_of_beq_false decides.symm
      simp only [none', kept, vendor, other, ne_eq, not_false_eq_true, and_self, if_true]

theorem combineOne_of_steady (steady : SteadyOne n old (live qs)) :
    Readable old qs ∧ live (combineOne n old qs).1 = (deriveOne n old (live qs)).1 ∧
      (combineOne n old qs).2 = (deriveOne n old (live qs)).2 := by
  by_cases vendor : old.id = 221
  · exact combineOne_of_vendor vendor (steady.vendor vendor)
  refine ⟨⟨steady.extended, fun is => absurd is vendor⟩, ?_⟩
  by_cases multiple : old.id = 71
  · have none' : qs.find? (meets old) = none := by
      rw [← find?_live steady.notSsid]
      refine List.find?_eq_none.mpr fun p listed is => ?_
      exact steady.multiple multiple p listed ((meets_id is).symm.trans multiple)
    have out : inherited n old = false := by
      rw [inherited, multiple]
      rfl
    simp only [combineOne, deriveOne, none', multiple, or_true, if_true, out, Bool.false_eq_true,
      if_false, and_self]
  · exact combineOne_of_kind steady.notSsid multiple vendor
      (sameKind_eq_meets vendor steady.extended)

end Step

/-! ### The beacon -/

theorem combine_of_steady {n : Option Ie} {olds qs : List Ie} (steady : Steady n olds (live qs)) :
    AllReadable n olds qs ∧ live (combine n olds qs).1 = (derive n olds (live qs)).1 ∧
      (combine n olds qs).2 = (derive n olds (live qs)).2 := by
  induction olds generalizing qs with
  | nil => exact ⟨trivial, rfl, rfl⟩
  | cons old olds ih =>
    obtain ⟨readable, left, written⟩ := combineOne_of_steady steady.1
    have steady' := steady.2
    rw [← left] at steady'
    obtain ⟨readable', left', written'⟩ := ih steady'
    rw [combine_cons, derive_cons, ← left, ← written, ← left', ← written']
    exact ⟨⟨readable, readable'⟩, rfl, rfl⟩

theorem derive_of_leftOut {n : Option Ie} {before ps : List Ie} (es : List Ie)
    (out : ∀ e ∈ before, LeftOut n ps e) : derive n (before ++ es) ps = derive n es ps := by
  induction before with
  | nil => rfl
  | cons e before ih =>
    have one : deriveOne n e ps = (ps, []) := by
      rw [deriveOne]
      obtain ⟨-, multiple | ⟨listed, nowhere⟩⟩ := out e (.head _)
      · exact if_pos (.inr multiple)
      · have none' : ps.find? (sameKind e) = none :=
          List.find?_eq_none.mpr fun p here => Bool.eq_false_iff.mp (nowhere p here)
        rw [none', listed]
        exact ite_self _
    rw [List.cons_append, derive_cons, one, ih fun e later => out e (.tail _ later)]
    rfl

section Walk

variable {ies : List Ie}

theorem agrees_ssid {bytes : List UInt8} (front : List UInt8) (e : Ie) (back : List UInt8)
    (_ : bytes = front ++ (e.bytes ++ back)) :
    ((placeBehind front e).id == eidSsid) = (e.id == 0) := by
  rw [Bool.eq_iff_iff, beq_iff_eq, beq_iff_eq]
  exact id_eq_iff 0

theorem behindSsid_none (nowhere : ∀ e ∈ ies, e.id ≠ 0) : behindSsid (bytesOf ies) = 0 := by
  have none' : (elements (bytesOf ies) (bytesOf ies).length 0).find? (fun e => e.id == eidSsid) =
      none :=
    find_bytesOf_none agrees_ssid [] cutOff_nil (List.append_nil _).symm fun e listed =>
      beq_eq_false_iff_ne.mpr (nowhere e listed)
  rw [behindSsid, none']

theorem behindSsid_some {before : List Ie} {ssid : Ie} {rest : List Ie}
    (whole : ies = before ++ ssid :: rest) (is : ssid.id = 0) (not : ∀ e ∈ before, e.id ≠ 0) :
    behindSsid (bytesOf ies) = (bytesOf before ++ ssid.bytes).length := by
  have whole' : bytesOf ies = [] ++ (bytesOf (before ++ ssid :: rest) ++ []) := by
    rw [whole, List.append_nil, List.nil_append]
  have some' : (elements (bytesOf ies) (bytesOf ies).length 0).find? (fun e => e.id == eidSsid) =
      some (placeBehind (bytesOf before) ssid) :=
    find_bytesOf_some (P := fun e : Ie => e.id == 0) agrees_ssid [] whole' (beq_iff_eq.mpr is)
      fun e listed => beq_eq_false_iff_ne.mpr (not e listed)
  rw [behindSsid, some', List.length_append, ssid.bytes_length]
  change (bytesOf before).length + 2 + ssid.data.length = _
  omega

theorem ieAt_element (front : List UInt8) (e : Ie) (back : List UInt8) :
    ieAt (front ++ (e.bytes ++ back)) front.length = e := by
  have id : UInt8.ofNat (u8At (front ++ (e.bytes ++ back)) front.length) = e.id := by
    rw [u8At_id, UInt8.ofNat_toNat]
  have data : window (front ++ (e.bytes ++ back)) (front.length + 2)
      (u8At (front ++ (e.bytes ++ back)) (front.length + 1)) = e.data := by
    rw [u8At_len, window_data]
  cases e with
  | mk eid edata short =>
    rw [ieAt, Ie.mk.injEq]
    exact ⟨id, data⟩

/-- The loop over the beacon goes through elements none of which is an SSID. -/
theorem handled_bytesOf (front : List UInt8) (some' : ies ≠ []) (not : ∀ e ∈ ies, e.id ≠ 0) :
    handled (front ++ bytesOf ies) front.length = some ies := by
  induction ies generalizing front with
  | nil => exact absurd rfl some'
  | cons e ies ih =>
    have length : (front ++ (e.bytes ++ bytesOf ies)).length =
        front.length + (2 + e.data.length + (bytesOf ies).length) := by
      rw [List.length_append, List.length_append, e.bytes_length]
      omega
    have after : (placeBehind front e).after = (front ++ e.bytes).length := by
      rw [List.length_append, e.bytes_length]
      change front.length + 2 + e.data.length = _
      omega
    have after' : (front ++ e.bytes).length = front.length + (2 + e.data.length) := by
      rw [List.length_append, e.bytes_length]
      omega
    have notSsid : ¬ (placeBehind front e).id = eidSsid :=
      (id_eq_iff 0).not.mpr (not e (.head _))
    have here : elemAt (front ++ (e.bytes ++ bytesOf ies)) front.length = placeBehind front e :=
      elemAt_element front e (bytesOf ies)
    rw [bytesOf_cons, handled, if_pos (by omega), here, after, if_pos (by omega), if_neg notSsid,
      ieAt_element]
    cases ies with
    | nil =>
      rw [if_pos]
      rw [length, after']
      exact Nat.add_zero _
    | cons f ies =>
      have more : ¬ (front ++ e.bytes).length =
          (front ++ (e.bytes ++ bytesOf (f :: ies))).length := by
        rw [length, after', bytesOf_cons, List.length_append, f.bytes_length]
        omega
      rw [if_neg more, ← List.append_assoc, ih (front ++ e.bytes) (List.cons_ne_nil f ies)
        fun e later => not e (.tail _ later)]
      rfl

theorem notSsid_of_steady {n : Option Ie} {ps : List Ie} (steady : Steady n ies ps) :
    ∀ e ∈ ies, e.id ≠ 0 := by
  induction ies generalizing ps with
  | nil => exact List.forall_mem_nil _
  | cons e ies ih => exact List.forall_mem_cons.mpr ⟨steady.1.notSsid, ih steady.2⟩

end Walk

theorem genNewIe_of_plain {es ps : List Ie} (plain : Plain es ps) :
    cfg80211GenNewIe (bytesOf es) (bytesOf ps) true = .ok (bytesOf (derived es ps)) := by
  obtain ⟨rest, start, some', steady⟩ := plain.rest
  have not := notSsid_of_steady steady
  have walk : handled (bytesOf es) (behindSsid (bytesOf es)) = some rest ∧
      derive (nonInheritance ps) es (live ps) = derive (nonInheritance ps) rest (live ps) := by
    rcases start with ⟨nowhere, rfl⟩ | ⟨before, ssid, whole, is, out⟩
    · rw [behindSsid_none nowhere]
      exact ⟨handled_bytesOf [] some' not, rfl⟩
    · rw [behindSsid_some whole is fun e listed => (out e listed).1]
      have split : bytesOf es = bytesOf before ++ ssid.bytes ++ bytesOf rest := by
        rw [whole, bytesOf_append, bytesOf_cons, List.append_assoc]
      refine ⟨?_, ?_⟩
      · rw [split]
        exact handled_bytesOf (bytesOf before ++ ssid.bytes) some' not
      · have skipped : deriveOne (nonInheritance ps) ssid (live ps) = (live ps, []) :=
          if_pos (.inl is)
        rw [whole, derive_of_leftOut (ssid :: rest) out, derive_cons, skipped]
        rfl
  obtain ⟨readable, left, written⟩ := combine_of_steady steady
  have result : combined rest ps = derived es ps := by
    calc combined rest ps
        = (ps.find? fun p => p.id == 0).toList ++ ((combine (nonInheritance ps) rest ps).2 ++
            (live (combine (nonInheritance ps) rest ps).1).filter fun p => p.id != 83) := rfl
      _ = (ps.find? fun p => p.id == 0).toList ++
            ((derive (nonInheritance ps) rest (live ps)).2 ++
              (derive (nonInheritance ps) rest (live ps)).1.filter fun p => p.id != 83) := by
          rw [left, written]
      _ = derived es ps := by
          rw [derived, walk.2]
  have short' : (bytesOf ps ++ []).length < 2 ^ 32 := by
    rw [List.append_nil]
    exact plain.short'
  have run := cfg80211GenNewIe_eq plain.short short' (.inl ⟨rfl, plain.some'⟩) walk.1 readable
  rw [List.append_nil, result] at run
  exact run

/-! ## Any buffers -/

def vendors (es : List Ie) : List Ie := es.filter fun e => e.id == 221

/-- The vendor elements of the beacon that are compared with one of the profile, and those that they
are compared with, have the five bytes that are looked at. -/
def FiveBytes : List Ie → List Ie → Prop
  | [], _ => True
  | _ :: _, [] => True
  | old :: olds, new :: news => (5 ≤ old.data.length ∧ 5 ≤ new.data.length) ∧
      FiveBytes olds (if old.data.take 5 = new.data.take 5 then news else new :: news)

/-- No element is looked at that is too short for that. -/
def Legible (ie : List UInt8) (ps : List Ie) : Prop :=
  ∀ olds, handled ie (behindSsid ie) = some olds →
    (∀ old ∈ olds, old.id = 255 → old.data ≠ []) ∧ FiveBytes (vendors olds) (vendors ps)

theorem vendors_of_other {n : Option Ie} {old : Ie} {qs : List Ie} (other : old.id ≠ 221) :
    vendors (combineOne n old qs).1 = vendors qs := by
  rw [combineOne]
  cases qs.find? (meets old) with
  | none => rfl
  | some new =>
    simp only [other, false_and, if_false]
    exact filter_useFirst_of_not (fun _ => rfl) fun e is =>
      beq_eq_false_iff_ne.mpr (meets_id is ▸ other)

theorem vendors_of_vendor {n : Option Ie} {old new : Ie} {qs news : List Ie}
    (vendor : old.id = 221) (here : vendors qs = new :: news) :
    qs.find? (meets old) = some new ∧ vendors (combineOne n old qs).1 =
      if old.data.take 5 = new.data.take 5 then news else new :: news := by
  have is : (new.id == 221) = true :=
    (List.mem_filter.mp (here ▸ List.mem_cons_self : new ∈ vendors qs)).2
  have found : qs.find? (meets old) = some new := by
    rw [meets_vendor vendor, ← find?_filter_of_imp fun _ is => is]
    change (vendors qs).find? _ = _
    rw [here, List.find?_cons, is]
  have used : vendors (useFirst (meets old) qs) = news := by
    rw [vendors, meets_vendor vendor, filter_useFirst (fun _ => rfl) fun _ is => is]
    change (vendors qs).eraseP _ = _
    rw [here, List.eraseP_cons_of_pos (p := fun e : Ie => e.id == 221) is]
  refine ⟨found, ?_⟩
  rw [combineOne, found]
  by_cases same : old.data.take 5 = new.data.take 5
  · simp only [same, ne_eq, not_true_eq_false, and_false, if_false, if_true]
    exact used
  · simp only [vendor, same, ne_eq, not_false_eq_true, and_self, if_true, if_false]
    exact here

theorem allReadable_of_fiveBytes {n : Option Ie} {olds qs : List Ie}
    (extended : ∀ old ∈ olds, old.id = 255 → old.data ≠ [])
    (five : FiveBytes (vendors olds) (vendors qs)) : AllReadable n olds qs := by
  induction olds generalizing qs with
  | nil => trivial
  | cons old olds ih =>
    have further : ∀ e ∈ olds, e.id = 255 → e.data ≠ [] := fun e later =>
      extended e (.tail old later)
    by_cases vendor : old.id = 221
    · have listed : vendors (old :: olds) = old :: vendors olds :=
        List.filter_cons_of_pos (p := fun e : Ie => e.id == 221) (beq_iff_eq.mpr vendor)
      rw [listed] at five
      cases here : vendors qs with
      | nil =>
        have nowhere : qs.find? (meets old) = none := by
          rw [meets_vendor vendor, ← find?_filter_of_imp fun _ is => is]
          change (vendors qs).find? _ = _
          rw [here, List.find?_nil]
        have same : (combineOne n old qs).1 = qs := by rw [combineOne, nowhere]
        refine ⟨⟨extended old (.head _), fun _ new found => ?_⟩, ih further ?_⟩
        · rw [nowhere] at found
          exact absurd found (Option.not_mem_none new)
        · rw [same, here]
          cases vendors olds <;> trivial
      | cons new news =>
        obtain ⟨found, left⟩ := vendors_of_vendor (n := n) vendor here
        rw [here] at five
        refine ⟨⟨extended old (.head _), fun _ new' is => ?_⟩, ih further ?_⟩
        · rw [found] at is
          cases is
          exact five.1
        · rw [left]
          exact five.2
    · have listed : vendors (old :: olds) = vendors olds :=
        List.filter_cons_of_neg (by rw [beq_eq_false_iff_ne.mpr vendor]; exact Bool.false_ne_true)
      refine ⟨⟨extended old (.head _), fun is => absurd is vendor⟩, ih further ?_⟩
      rw [vendors_of_other vendor, ← listed]
      exact five

/-- The loop over the beacon must not come to stand at the last byte or behind it, and nothing but a
part of an element with its length may follow the elements of the profile. -/
theorem returns_iff {ie : List UInt8} {ps : List Ie} {tail : List UInt8}
    (short : ie.length < 2 ^ 32) (short' : (bytesOf ps ++ tail).length < 2 ^ 32)
    (cut : CutOff tail) (legible : Legible ie ps) :
    (∃ out, cfg80211GenNewIe ie (bytesOf ps ++ tail) true = .ok (bytesOf out)) ↔
      (handled ie (behindSsid ie)).isSome = true ∧ Ends ps tail := by
  cases walk : handled ie (behindSsid ie) with
  | none =>
    refine ⟨fun ⟨out, run⟩ => absurd ⟨_, run⟩ (cfg80211GenNewIe_none short walk), ?_⟩
    exact fun both => absurd both.1 Bool.false_ne_true
  | some olds =>
    obtain ⟨extended, five⟩ := legible olds walk
    have readable : AllReadable (nonInheritance ps) olds ps :=
      allReadable_of_fiveBytes extended five
    refine ⟨fun ⟨out, run⟩ => ⟨rfl, ?_⟩, fun both =>
      ⟨_, cfg80211GenNewIe_eq short short' both.2 walk readable⟩⟩
    rw [cfg80211GenNewIe_newLoop short short' cut walk readable] at run
    refine of_not_not fun not => ?_
    exact newLoop_of_not_ends [] cut (mt ends_combine.mp not) ⟨_, run⟩

/-! ## The claim -/

/-- The function reads only inside its buffers, and of two lists of elements it makes the one of the
non-transmitted BSS. -/
def Derives (ie sub : List UInt8) : Prop :=
  (∃ out, cfg80211GenNewIe ie sub true = .ok out) ∧
    ∀ es ps, ie = bytesOf es → sub = bytesOf ps →
      cfg80211GenNewIe ie sub true = .ok (bytesOf (derived es ps))

theorem genNewIe_derives (ie sub : List UInt8) :
    cfg80211GenNewIe ie sub false = .ok [] ∧
      (∃ ps tail, sub = bytesOf ps ++ tail ∧ CutOff tail) ∧
      (∀ ps tail, sub = bytesOf ps ++ tail → CutOff tail → ie.length < 2 ^ 32 →
        sub.length < 2 ^ 32 → Legible ie ps →
          ((∃ out, cfg80211GenNewIe ie sub true = .ok (bytesOf out)) ↔
            (handled ie (behindSsid ie)).isSome = true ∧ Ends ps tail)) ∧
      ∀ es ps, ie = bytesOf es → sub = bytesOf ps → Plain es ps →
        cfg80211GenNewIe ie sub true = .ok (bytesOf (derived es ps)) ∧
          (derived es ps).Subperm (es ++ ps) := by
  refine ⟨rfl, exists_bytesOf sub, ?_, ?_⟩
  · rintro ps tail rfl cut short short' legible
    exact returns_iff short short' cut legible
  · rintro es ps rfl rfl plain
    exact ⟨genNewIe_of_plain plain, derived_subperm es ps⟩

/-- A beacon with an SSID, rates, a Multiple-BSSID element and a vendor element, and a profile with
a capability, an SSID and an index; then one whose last element is cut off. -/
theorem genNewIe_derives_index :
    let es : List Ie := [⟨0, [65], by decide⟩, ⟨1, [130], by decide⟩,
      ⟨71, [1, 0, 10, 83, 2, 1, 0, 0, 1, 66, 85, 1, 1], by decide⟩,
      ⟨221, [0, 80, 242, 2, 1], by decide⟩]
    let ps : List Ie := [⟨83, [1, 0], by decide⟩, ⟨0, [66], by decide⟩, ⟨85, [1], by decide⟩]
    cfg80211GenNewIe (bytesOf es) (bytesOf ps) true =
        .ok [0, 1, 66, 1, 1, 130, 221, 5, 0, 80, 242, 2, 1, 85, 1, 1] ∧
      (derived es ps).Subperm (es ++ ps) ∧ ∃ out, cfg80211GenNewIe [0, 1, 65, 1, 1, 130]
        (bytesOf ps ++ [0, 5]) true = .ok (bytesOf out) := by
  intro es ps
  have plain : Plain es ps := by
    refine ⟨by decide, by decide, by decide, es.tail,
      .inr ⟨[], ⟨0, [65], by decide⟩, rfl, rfl, nofun⟩, by decide, ?_⟩
    refine ⟨⟨by decide, nofun, nofun, nofun⟩, ⟨by decide, ?_, nofun, nofun⟩,
      ⟨by decide, nofun, nofun, fun _ => ?_⟩, trivial⟩
    · decide
    · nofun
  obtain ⟨run, sub⟩ := (genNewIe_derives (bytesOf es) (bytesOf ps)).2.2.2 es ps rfl rfl plain
  have walk : handled [0, 1, 65, 1, 1, 130] (behindSsid [0, 1, 65, 1, 1, 130]) =
      some [⟨1, [130], by decide⟩] := by decide +kernel
  have legible : Legible [0, 1, 65, 1, 1, 130] ps := by
    intro olds here
    rw [walk] at here
    cases here
    exact ⟨by decide, trivial⟩
  refine ⟨run.trans (by decide +kernel), sub, ?_⟩
  refine ((genNewIe_derives [0, 1, 65, 1, 1, 130] (bytesOf ps ++ [0, 5])).2.2.1 ps [0, 5] rfl
    (.inr (by decide)) (by decide) (by decide) legible).mpr ⟨?_, .inr (by decide)⟩
  rw [walk]
  rfl

/-- Nothing follows the SSID of the beacon, or the profile has two vendor elements in another order
than the beacon. -/
theorem not_derives :
    ¬ Derives [71, 13, 1, 0, 10, 83, 2, 1, 0, 0, 1, 66, 85, 1, 1, 0, 1, 65]
        [83, 2, 1, 0, 0, 1, 66, 85, 1, 1] ∧
      ¬ Derives [0, 1, 65, 221, 5, 0, 80, 242, 2, 1, 221, 5, 0, 80, 242, 4, 16]
        [83, 2, 1, 0, 0, 1, 66, 85, 1, 1, 221, 6, 0, 80, 242, 4, 16, 7,
          221, 6, 0, 80, 242, 2, 1, 7] := by
  constructor
  · intro derives
    have stopped : cfg80211GenNewIe [71, 13, 1, 0, 10, 83, 2, 1, 0, 0, 1, 66, 85, 1, 1, 0, 1, 65]
        [83, 2, 1, 0, 0, 1, 66, 85, 1, 1] true = .error .outOfBounds := by decide +kernel
    obtain ⟨out, run⟩ := derives.1
    rw [stopped] at run
    cases run
  · intro derives
    have run := derives.2
      [⟨0, [65], by decide⟩, ⟨221, [0, 80, 242, 2, 1], by decide⟩,
        ⟨221, [0, 80, 242, 4, 16], by decide⟩]
      [⟨83, [1, 0], by decide⟩, ⟨0, [66], by decide⟩, ⟨85, [1], by decide⟩,
        ⟨221, [0, 80, 242, 4, 16, 7], by decide⟩, ⟨221, [0, 80, 242, 2, 1, 7], by decide⟩] rfl rfl
    exact absurd run (by decide +kernel)

end Iwlwifi.GenNewIe
