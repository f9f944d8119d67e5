import Iwlwifi.Wireless.DerivedElems
import Iwlwifi.Wireless.MergeProfile

/-!
# Networks behind a Multiple-BSSID element

`cfg80211_parse_mbssid_data` of `net/wireless/scan.c`.  Every profile of a Multiple-BSSID element is
put together by `cfg80211_merge_profile`, and if it has an index the elements of its network are
derived from it and reported.  The length of the profile is kept in a `u8`.  Every call that derives
elements is kept in a log before it is made, also one that leaves its buffers and ends the run.
-/

namespace Iwlwifi.ParseMbssid

open Lib ParseElems GenNewIe

/-! ## The function -/

/-- A profile that was passed on, where it comes from and what was made of it.  `capability` is set
if the network was reported. -/
structure Passed where
  mbssid : Elem
  sub : Elem
  profile : List UInt8
  bssidIndex : Nat
  maxBssidIndicator : Nat
  newBssid : BitVec 48
  newIe : Option (List UInt8)
  capability : Option Nat
  deriving DecidableEq

/-- What the function is called with and what the functions that it calls answer: the allocations,
and whether `cfg80211_inform_single_bss_data` returned a network. -/
structure Env where
  nonTxData : Bool
  supportMbssid : Bool
  supportOnlyHeMbssid : Bool
  newIe : Bool
  profile : Bool
  copied : List Passed → Bool
  informed : List Passed → Bool

/-- The profile that is looked at, whose length goes through a `u8`. -/
def keptProfile (merged : List UInt8) : List UInt8 := merged.take (merged.length % 2 ^ 8)

/-- The index of the profile, if it has one that is valid. -/
def indexOf (profile : List UInt8) : BoundedRead Empty (Option Nat) := do
  match ← findElem profile eidMultiBssidIdx 0 profile.length with
  | none => return none
  | some index =>
      if index.len < 1 then return none
      else
        let value ← readU8 profile index.data
        if value = 0 ∨ 46 < value then return none else return some value

/-- The network of a profile is derived and reported.  A call that leaves its buffers has no `newIe`
and ends the run. -/
def passOn (env : Env) (bssid : BitVec 48) (ie : List UInt8) (mbssid sub : Elem)
    (merged : List UInt8) (index : Nat) (log : List Passed) :
    BoundedRead Empty (ForInStep (List Passed)) := do
  let maxBssid ← readU8 ie mbssid.data
  let passed : Passed := ⟨mbssid, sub, keptProfile merged, index, maxBssid,
    genNewBssid bssid maxBssid index, none, none⟩
  match cfg80211GenNewIe ie (keptProfile merged) (env.copied log) with
  | .error _ => return .done (log ++ [passed])
  | .ok newIe =>
      let passed := { passed with newIe := some newIe }
      if newIe = [] then return .yield (log ++ [passed])
      else
        let low ← readU8 merged 2
        let high ← readU8 merged 3
        let log := log ++ [{ passed with capability := some (low + 2 ^ 8 * high) }]
        if env.informed log then return .yield log else return .done log

/-- The body of the inner loop. -/
def trySub (env : Env) (bssid : BitVec 48) (ie : List UInt8) (mbssid sub : Elem)
    (log : List Passed) : BoundedRead Empty (ForInStep (List Passed)) :=
  if sub.id ≠ 0 ∨ sub.len < 4 then return .yield log
  else do
    let first ← readU8 ie sub.data
    let firstLen ← readU8 ie (sub.data + 1)
    if first ≠ eidNonTxBssidCap ∨ firstLen ≠ 2 then return .yield log
    else
      let merged ← mergeProfile ie mbssid sub ie.length
      match ← indexOf (keptProfile merged) with
      | none => return .yield log
      | some index => passOn env bssid ie mbssid sub merged index log

/-- The body of the outer loop, which leaving the inner one does not end, unless the run is over. -/
def tryMbssid (env : Env) (bssid : BitVec 48) (ie : List UInt8) (elem : Elem) (log : List Passed) :
    BoundedRead Empty (ForInStep (List Passed)) :=
  if elem.id ≠ eidMultipleBssid ∨ elem.len < 4 then return .yield log
  else do
    let (_, log) ← forEachElement ie elem.after (trySub env bssid ie elem) (elem.data + 1) log
    if log.any fun passed => passed.newIe.isNone then return .done log else return .yield log

/-- Where only networks with HE capabilities are wanted, the beacon has them. -/
def heChecked (env : Env) (ie : List UInt8) : BoundedRead Empty Bool :=
  if env.supportOnlyHeMbssid then
    return (← findExtElem ie eidExtHeCapability 0 ie.length).isSome
  else return true

/-- `cfg80211_parse_mbssid_data` -/
def cfg80211ParseMbssidData (env : Env) (bssid : BitVec 48) (ie : List UInt8) :
    BoundedRead Empty (List Passed) :=
  if !env.nonTxData then return []
  else do
    if (← findElem ie eidMultipleBssid 0 ie.length).isNone then return []
    else if !env.supportMbssid then return []
    else if !(← heChecked env ie) then return []
    else if !env.newIe || !env.profile then return []
    else
      let (_, log) ← forEachElement ie ie.length (tryMbssid env bssid ie) 0 []
      return log

/-! ## What is passed on -/

/-- The sub-element starts a profile of a Multiple-BSSID element. -/
structure Starts (ie : List UInt8) (mbssid sub : Elem) : Prop where
  listed : mbssid ∈ elements ie ie.length 0
  kind : mbssid.id = eidMultipleBssid ∧ 4 ≤ mbssid.len
  within : sub ∈ elements ie mbssid.after (mbssid.data + 1)
  profile : sub.id = 0 ∧ 4 ≤ sub.len
  capability : u8At ie sub.data = eidNonTxBssidCap ∧ u8At ie (sub.data + 1) = 2

/-- An entry of the log is the profile of such a sub-element, as it was put together. -/
def Comes (ie : List UInt8) (passed : Passed) : Prop :=
  Starts ie passed.mbssid passed.sub ∧ ∃ merged,
    mergeProfile ie passed.mbssid passed.sub ie.length = .ok merged ∧
      passed.profile = keptProfile merged

section Run

variable {env : Env} {bssid : BitVec 48} {ie : List UInt8} {mbssid sub : Elem}
  {log : List Passed}

/-- All entries of the log are such profiles. -/
def AllCome (ie : List UInt8) (log : List Passed) : Prop := ∀ passed ∈ log, Comes ie passed

theorem AllCome.append {passed : Passed} (before : AllCome ie log) (here : Comes ie passed) :
    AllCome ie (log ++ [passed]) := by
  intro other listed
  rcases List.mem_append.mp listed with earlier | last
  · exact before other earlier
  · rw [List.mem_singleton.mp last]
    exact here

theorem passOn_comes {merged : List UInt8} {index : Nat} (starts : Starts ie mbssid sub)
    (copied : mergeProfile ie mbssid sub ie.length = .ok merged) (before : AllCome ie log) :
    Yields (fun next => AllCome ie next.value)
      (passOn env bssid ie mbssid sub merged index log) := by
  have here : ∀ maxBssid newBssid newIe capability, Comes ie
      ⟨mbssid, sub, keptProfile merged, index, maxBssid, newBssid, newIe, capability⟩ :=
    fun _ _ _ _ => ⟨starts, merged, copied, rfl⟩
  rw [passOn]
  refine yields_bind fun maxBssid => ?_
  cases cfg80211GenNewIe ie (keptProfile merged) (env.copied log) with
  | error stop => exact yields_ok (before.append (here _ _ _ _))
  | ok newIe =>
      refine yields_ite (yields_ok (before.append (here _ _ _ _))) ?_
      refine yields_bind fun low => yields_bind fun high => ?_
      exact yields_ite (yields_ok (before.append (here _ _ _ _)))
        (yields_ok (before.append (here _ _ _ _)))

/-- What one sub-element adds to the log. -/
theorem trySub_comes (inside : mbssid.after ≤ ie.length) (listed : mbssid ∈ elements ie ie.length 0)
    (kind : mbssid.id = eidMultipleBssid ∧ 4 ≤ mbssid.len)
    (within : sub ∈ elements ie mbssid.after (mbssid.data + 1)) (before : AllCome ie log) :
    Yields (fun next => AllCome ie next.value) (trySub env bssid ie mbssid sub log) := by
  have room : sub.data + sub.len ≤ ie.length := Nat.le_trans (mem_elements within).2.1 inside
  rw [trySub]
  by_cases other : sub.id ≠ 0 ∨ sub.len < 4
  · rw [if_pos other]
    exact yields_ok before
  obtain ⟨id, four⟩ := not_or.mp other
  rw [if_neg other, readU8_of_le (by omega), readU8_of_le (by omega)]
  change Yields _ (if u8At ie sub.data ≠ eidNonTxBssidCap ∨ u8At ie (sub.data + 1) ≠ 2 then _
    else _)
  by_cases noCap : u8At ie sub.data ≠ eidNonTxBssidCap ∨ u8At ie (sub.data + 1) ≠ 2
  · rw [if_pos noCap]
    exact yields_ok before
  obtain ⟨first, firstLen⟩ := not_or.mp noCap
  have starts : Starts ie mbssid sub :=
    ⟨listed, kind, within, ⟨of_not_not id, Nat.not_lt.mp four⟩, of_not_not first,
      of_not_not firstLen⟩
  rw [if_neg noCap]
  refine yields_bind_of fun merged copied => yields_bind fun found => ?_
  cases found with
  | none => exact yields_ok before
  | some index => exact passOn_comes starts copied before

theorem tryMbssid_comes (listed : mbssid ∈ elements ie ie.length 0) (before : AllCome ie log) :
    Yields (fun next => AllCome ie next.value) (tryMbssid env bssid ie mbssid log) := by
  have inside : mbssid.after ≤ ie.length := (mem_elements listed).2.1
  rw [tryMbssid]
  by_cases other : mbssid.id ≠ eidMultipleBssid ∨ mbssid.len < 4
  · rw [if_pos other]
    exact yields_ok before
  obtain ⟨id, four⟩ := not_or.mp other
  rw [if_neg other]
  refine yields_bind_of fun result run => ?_
  have after : AllCome ie result.2 := forEachElement_yields inside before
    (fun sub within log before =>
      trySub_comes inside listed ⟨of_not_not id, Nat.not_lt.mp four⟩ within before) result run
  exact yields_ite (yields_ok after) (yields_ok after)

/-- The log of a run. -/
theorem parse_comes : Yields (AllCome ie) (cfg80211ParseMbssidData env bssid ie) := by
  have none' : AllCome ie [] := List.forall_mem_nil _
  rw [cfg80211ParseMbssidData]
  refine yields_ite (yields_ok none') (yields_bind fun found => ?_)
  refine yields_ite (yields_ok none') (yields_ite (yields_ok none') (yields_bind fun he => ?_))
  refine yields_ite (yields_ok none') (yields_ite (yields_ok none') ?_)
  refine yields_bind_of fun result run => yields_ok ?_
  exact forEachElement_yields (Nat.le_refl _) none' (fun mbssid listed log before =>
    tryMbssid_comes listed before) result run

end Run

/-! ## The length -/

/-- What is copied fits into the `u8` that keeps its length. -/
def OneByte (ie : List UInt8) (mbssid sub : Elem) : Prop :=
  ∀ next nextSub, continuation ie mbssid sub = some (next, nextSub) →
    sub.len + (ie.length - sub.len) / nextSub.len * nextSub.len < 2 ^ 8

theorem keptProfile_eq_iff {merged : List UInt8} :
    keptProfile merged = merged ↔ merged.length < 2 ^ 8 := by
  rw [keptProfile]
  constructor
  · intro all
    have length := congrArg List.length all
    rw [List.length_take] at length
    have byte : merged.length % 2 ^ 8 < 2 ^ 8 := Nat.mod_lt _ (by decide)
    omega
  · exact fun short => List.take_of_length_le (Nat.le_of_eq (Nat.mod_eq_of_lt short).symm)

/-- How much is copied. -/
theorem mergeProfile_length {ie : List UInt8} {mbssid sub : Elem} {maxCopyLen : Nat}
    (inside : mbssid.after ≤ ie.length) (within : sub.after ≤ mbssid.after)
    (room : sub.len ≤ maxCopyLen) :
    ∃ merged, mergeProfile ie mbssid sub maxCopyLen = .ok merged ∧
      merged.length = match continuation ie mbssid sub with
        | none => sub.len
        | some (_, nextSub) =>
            sub.len + (maxCopyLen - sub.len) / nextSub.len * nextSub.len := by
  have length : (dataOf ie sub).length = sub.len := window_length (Nat.le_trans within inside)
  rw [mergeProfile_eq inside within room]
  cases goesOn : continuation ie mbssid sub with
  | none => exact ⟨_, mergeRest_of_none inside goesOn, length⟩
  | some pair =>
      obtain ⟨next, nextSub⟩ := pair
      have here : nextSub.data + nextSub.len ≤ ie.length :=
        Nat.le_trans (continuation_eq_some goesOn).2.1
          (Nat.le_trans (after_lt_of_continuation goesOn).2
            (Nat.max_le.mpr ⟨inside, Nat.le_refl _⟩))
      refine ⟨_, mergeRest_of_some inside goesOn (by omega), ?_⟩
      have part : (dataOf ie nextSub).length = nextSub.len := window_length here
      rw [List.length_append, List.length_flatten, List.map_replicate, List.sum_replicate_nat,
        length, part]

theorem keptProfile_iff {ie : List UInt8} {mbssid sub : Elem} (starts : Starts ie mbssid sub) :
    ∃ merged, mergeProfile ie mbssid sub ie.length = .ok merged ∧
      (keptProfile merged = merged ↔ OneByte ie mbssid sub) := by
  obtain ⟨-, inside, -⟩ := mem_elements starts.listed
  obtain ⟨-, within, same⟩ := mem_elements starts.within
  have byte : sub.len < 2 ^ 8 := by
    rw [same]
    exact u8At_lt ie (sub.ofs + 1)
  have room : sub.len ≤ ie.length := by
    rw [Elem.after] at within
    omega
  obtain ⟨merged, copied, length⟩ := mergeProfile_length inside within room
  refine ⟨merged, copied, ?_⟩
  rw [keptProfile_eq_iff, length, OneByte]
  cases continuation ie mbssid sub with
  | none =>
      refine ⟨fun _ next nextSub goesOn => ?_, fun _ => byte⟩
      cases goesOn
  | some pair =>
      obtain ⟨next, nextSub⟩ := pair
      constructor
      · intro short next' nextSub' same
        cases same
        exact short
      · exact fun fits => fits next nextSub rfl

/-! ## The claim -/

/-- The copy of a profile, and what is passed on of the copies in a run. -/
theorem reassembledAndPassed_iff {ie : List UInt8} {mbssid sub : Elem} (maxCopyLen : Nat)
    (inside : mbssid.after ≤ ie.length) (within : sub.after ≤ mbssid.after) :
    (∃ merged, mergeProfile ie mbssid sub maxCopyLen = .ok merged) ∧
      (Reassembles ie mbssid sub maxCopyLen ↔ CopiedRightly ie mbssid sub maxCopyLen) ∧
      ∀ env bssid log, cfg80211ParseMbssidData env bssid ie = .ok log → ∀ passed ∈ log,
        Starts ie passed.mbssid passed.sub ∧
          (mergeProfile ie passed.mbssid passed.sub ie.length = .ok passed.profile ↔
            OneByte ie passed.mbssid passed.sub) := by
  refine ⟨mergeProfile_returns inside within maxCopyLen, reassembles_iff inside within, ?_⟩
  intro env bssid log run passed listed
  obtain ⟨starts, merged, copied, kept⟩ := parse_comes log run passed listed
  obtain ⟨merged', copied', whole⟩ := keptProfile_iff starts
  rw [copied] at copied'
  cases copied'
  refine ⟨starts, ?_⟩
  rw [copied, kept, ← whole]
  exact ⟨fun same => (Except.ok.inj same).symm, fun same => congrArg Except.ok same.symm⟩

/-- Every allocation succeeds and every network is taken. -/
def Env.full : Env := ⟨true, true, false, true, true, fun _ => true, fun _ => true⟩

/-- A profile of which an element is split, at the end of a beacon that has room for the rest of it
once. -/
theorem reassembledAndPassed_iff_split :
    let ie : List UInt8 := [0, 1, 65, 71, 11, 1, 0, 8, 83, 2, 1, 0, 0, 1, 66, 85,
      71, 17, 1, 0, 14, 1, 1, 1, 4, 130, 132, 139, 150, 221, 4, 1, 2, 3, 4]
    let profile : List UInt8 :=
      [83, 2, 1, 0, 0, 1, 66, 85, 1, 1, 1, 4, 130, 132, 139, 150, 221, 4, 1, 2, 3, 4]
    Reassembles ie ⟨3, 71, 11⟩ ⟨6, 0, 8⟩ ie.length ∧
      cfg80211ParseMbssidData Env.full 0 ie = .ok [⟨⟨3, 71, 11⟩, ⟨6, 0, 8⟩, profile, 1, 1, 1,
        some ([0, 1, 66, 85, 1, 1] ++ profile.drop 10), some 1⟩] ∧
      mergeProfile ie ⟨3, 71, 11⟩ ⟨6, 0, 8⟩ ie.length = .ok profile := by
  intro ie profile
  obtain ⟨-, merges, passes⟩ := reassembledAndPassed_iff ie.length
    (by decide : (⟨3, 71, 11⟩ : Elem).after ≤ ie.length)
    (by decide : (⟨6, 0, 8⟩ : Elem).after ≤ (⟨3, 71, 11⟩ : Elem).after)
  have goesOn : continuation ie ⟨3, 71, 11⟩ ⟨6, 0, 8⟩ = some (⟨16, 71, 17⟩, ⟨19, 0, 14⟩) := by
    decide +kernel
  have ends : continuation ie ⟨16, 71, 17⟩ ⟨19, 0, 14⟩ = none := by decide +kernel
  have run : cfg80211ParseMbssidData Env.full 0 ie = .ok [⟨⟨3, 71, 11⟩, ⟨6, 0, 8⟩, profile, 1, 1, 1,
      some ([0, 1, 66, 85, 1, 1] ++ profile.drop 10), some 1⟩] := by decide +kernel
  refine ⟨merges.mpr ?_, run, (passes _ _ _ run _ (.head _)).2.mpr ?_⟩
  · intro next nextSub same room
    rw [goesOn] at same
    cases same
    rw [continuations_of_none ends]
    decide +kernel
  · intro next nextSub same
    rw [goesOn] at same
    cases same
    decide

/-- A profile that goes on in the next Multiple-BSSID element, in a beacon of 268 bytes: its last
four bytes are copied 64 times, and of the 266 bytes the first ten are passed on. -/
theorem not_reassembledAndPassed :
    let ie : List UInt8 := [0, 1, 65, 71, 13, 1, 0, 10, 83, 2, 1, 0, 0, 1, 66, 85, 1, 1,
      71, 7, 1, 0, 4, 1, 2, 8, 9, 221, 239] ++ List.replicate 239 0
    ¬ Reassembles ie ⟨3, 71, 13⟩ ⟨6, 0, 10⟩ ie.length ∧
      ∃ log, cfg80211ParseMbssidData Env.full 0 ie = .ok log ∧ ∃ passed ∈ log,
        mergeProfile ie passed.mbssid passed.sub ie.length ≠ .ok passed.profile := by
  intro ie
  constructor
  · unfold Reassembles
    decide +kernel
  · have run : cfg80211ParseMbssidData Env.full 0 ie = .ok [⟨⟨3, 71, 13⟩, ⟨6, 0, 10⟩,
        [83, 2, 1, 0, 0, 1, 66, 85, 1, 1], 1, 1, 1,
        some ([0, 1, 66, 221, 239] ++ List.replicate 239 0 ++ [85, 1, 1]), some 1⟩] := by
      decide +kernel
    refine ⟨_, run, _, .head _, ?_⟩
    decide +kernel

end Iwlwifi.ParseMbssid
