import Iwlwifi.Mac80211.ParseElemsProfile

/-!
# Split profiles

`cfg80211_merge_profile` of `net/wireless/scan.c`, whose model is part of `Mac80211/ParseElems`.
A profile that does not fit into its Multiple-BSSID element goes on in the next one, and from there
in the one behind that.  `continuations` follows such a chain and `reassembled` puts it together.
The loop of the source asks for the continuation of the first part in every round, so it finds the
same one again and copies it as often as there is room (`mergeRest_eq`).
-/

namespace Iwlwifi.ParseElems

open Lib

/-! ## The chain of a profile -/

/-- The next Multiple-BSSID element.  The length that is searched is passed through an `int`. -/
def mbssidBehind (ie : List UInt8) (ofs : Nat) : Option Elem :=
  (elements ie (ofs + (ie.length - ofs) % 2 ^ 32) ofs).find? (·.id == eidMultipleBssid)

/-- The first sub-element of a Multiple-BSSID element. -/
def firstSub (ie : List UInt8) (mbssid : Elem) : Elem := elemAt ie (mbssid.data + 1)

/-- The sub-element lies in its element and does not start a profile of its own. -/
def Proceeds (ie : List UInt8) (next nextSub : Elem) : Prop :=
  nextSub.after ≤ next.after ∧ nextSub.id = 0 ∧ 2 ≤ nextSub.len ∧
    u8At ie nextSub.data ≠ eidNonTxBssidCap

instance (ie : List UInt8) (next nextSub : Elem) : Decidable (Proceeds ie next nextSub) :=
  inferInstanceAs (Decidable (_ ∧ _ ∧ _ ∧ _))

/-- Where the profile that a sub-element is the end of so far goes on: the element and the first
sub-element of it. -/
def continuation (ie : List UInt8) (mbssid sub : Elem) : Option (Elem × Elem) :=
  (mbssidBehind ie mbssid.after).bind fun next =>
    if (mbssid.after ≤ sub.after + 1 ∧ 4 ≤ next.len) ∧ Proceeds ie next (firstSub ie next) then
      some (next, firstSub ie next)
    else none

variable {ie : List UInt8} {mbssid sub : Elem} {maxCopyLen : Nat}

theorem mem_mbssidBehind {ofs : Nat} {next : Elem} (found : mbssidBehind ie ofs = some next) :
    ofs ≤ next.ofs ∧ ofs < next.after ∧ next.after ≤ max ofs ie.length := by
  obtain ⟨behind, inside, -⟩ := mem_elements (List.mem_of_find?_eq_some found)
  have cut := Nat.mod_le (ie.length - ofs) (2 ^ 32)
  rw [Elem.after] at inside ⊢
  omega

variable {next nextSub : Elem} {merged : List UInt8}

theorem continuation_eq_some (goesOn : continuation ie mbssid sub = some (next, nextSub)) :
    mbssidBehind ie mbssid.after = some next ∧ nextSub.after ≤ next.after ∧ 2 ≤ nextSub.len ∧
      nextSub = firstSub ie next := by
  obtain ⟨found, behind, rest⟩ := Option.bind_eq_some_iff.mp goesOn
  split at rest
  · next continues =>
      cases rest
      exact ⟨behind, continues.2.1, continues.2.2.2.1, rfl⟩
  · cases rest

theorem after_lt_of_continuation (goesOn : continuation ie mbssid sub = some (next, nextSub)) :
    mbssid.after < next.after ∧ next.after ≤ max mbssid.after ie.length :=
  (mem_mbssidBehind (continuation_eq_some goesOn).1).2

/-- The parts of a profile behind the first. -/
def continuations (ie : List UInt8) (mbssid sub : Elem) : List Elem :=
  match _goesOn : continuation ie mbssid sub with
  | none => []
  | some (next, nextSub) => nextSub :: continuations ie next nextSub
termination_by ie.length - mbssid.after
decreasing_by
  have forward := after_lt_of_continuation _goesOn
  omega

/-- The parts at the front for which there is room. -/
def fitting : Nat → List Elem → List Elem
  | _, [] => []
  | room, e :: rest => if e.len ≤ room then e :: fitting (room - e.len) rest else []

/-- The data of an element. -/
def dataOf (ie : List UInt8) (e : Elem) : List UInt8 := window ie e.data e.len

/-- A profile: its first part and what it goes on with, each part once, as far as there is room. -/
def reassembled (ie : List UInt8) (mbssid sub : Elem) (maxCopyLen : Nat) : List UInt8 :=
  if maxCopyLen < sub.len then []
  else (sub :: fitting (maxCopyLen - sub.len) (continuations ie mbssid sub)).flatMap (dataOf ie)

theorem continuations_of_none (ends : continuation ie mbssid sub = none) :
    continuations ie mbssid sub = [] := by
  rw [continuations]
  split
  · rfl
  · next goesOn =>
      rw [ends] at goesOn
      cases goesOn

theorem continuations_of_some (goesOn : continuation ie mbssid sub = some (next, nextSub)) :
    continuations ie mbssid sub = nextSub :: continuations ie next nextSub := by
  rw [continuations]
  split
  · next ends =>
      rw [goesOn] at ends
      cases ends
  · next goesOn' =>
      rw [goesOn] at goesOn'
      cases goesOn'
      rfl

/-! ## The copy -/

section Copy

variable (inside : mbssid.after ≤ ie.length)
include inside

/-- The source decides on the continuation as `continuation` does. -/
theorem getProfileContinuation_eq :
    ∃ r, getProfileContinuation ie mbssid sub = .ok r ∧
      r.map NextSub.sub = (continuation ie mbssid sub).map Prod.snd := by
  have rest : mbssid.after + (ie.length - mbssid.after) ≤ ie.length := by omega
  have searched : findElem ie eidMultipleBssid mbssid.after (ie.length - mbssid.after) =
      .ok (mbssidBehind ie mbssid.after) := findElem_eq rest
  rw [getProfileContinuation, searched, continuation]
  cases found : mbssidBehind ie mbssid.after with
  | none => exact ⟨none, rfl, rfl⟩
  | some next =>
      have within : next.data + next.len ≤ ie.length :=
        Nat.le_trans (mem_mbssidBehind found).2.2 (Nat.max_le.mpr ⟨inside, Nat.le_refl _⟩)
      rw [Option.bind_some]
      change ∃ r, (if sub.after + 1 < mbssid.after then _ else _ : BoundedRead Empty _) = _ ∧ _
      by_cases early : sub.after + 1 < mbssid.after
      · rw [if_pos early, if_neg fun both => absurd both.1.1 (by omega)]
        exact ⟨none, rfl, rfl⟩
      by_cases short : next.len < 4
      · rw [if_neg early, if_pos short, if_neg fun both => absurd both.1.2 (by omega)]
        exact ⟨none, rfl, rfl⟩
      rw [if_neg early, if_neg short, readU8_of_le (by omega), readU8_of_le (by omega)]
      change ∃ r, (if next.after < (firstSub ie next).after then _ else _ :
        BoundedRead Empty _) = _ ∧ _
      by_cases cut : next.after < (firstSub ie next).after
      · rw [if_pos cut, if_neg fun both => absurd both.2.1 (by omega)]
        exact ⟨none, rfl, rfl⟩
      rw [if_neg cut]
      have first : (firstSub ie next).data + 1 ≤ ie.length := by
        change next.data + 1 + 2 + 1 ≤ ie.length
        omega
      split
      · next bad =>
          rw [if_neg fun both => bad.elim (· both.2.2.1) (Nat.not_lt.mpr both.2.2.2.1)]
          exact ⟨none, rfl, rfl⟩
      next proceeds =>
      have proceeds : ¬ ((firstSub ie next).id ≠ 0 ∨ (firstSub ie next).len < 2) := proceeds
      change ∃ r, (readU8 ie (firstSub ie next).data >>= _ : BoundedRead Empty _) = _ ∧ _
      rw [readU8_of_le first]
      change ∃ r, (if u8At ie (firstSub ie next).data = eidNonTxBssidCap then _ else _ :
        BoundedRead Empty _) = _ ∧ _
      by_cases fresh : u8At ie (firstSub ie next).data = eidNonTxBssidCap
      · rw [if_pos fresh, if_neg fun both => both.2.2.2.2 fresh]
        exact ⟨none, rfl, rfl⟩
      · rw [if_neg fresh, if_pos ⟨⟨by omega, by omega⟩, by omega, by omega, by omega, fresh⟩]
        exact ⟨_, rfl, rfl⟩

theorem mergeRest_of_none (ends : continuation ie mbssid sub = none) :
    mergeRest ie mbssid sub maxCopyLen merged = .ok merged := by
  obtain ⟨r, continued, same⟩ := @getProfileContinuation_eq ie mbssid sub inside
  rw [ends] at same
  cases r with
  | some next => cases same
  | none =>
      rw [mergeRest, continued]
      rfl

/-- The loop copies the first continuation as often as there is room for it. -/
theorem mergeRest_of_some (goesOn : continuation ie mbssid sub = some (next, nextSub))
    (room : merged.length ≤ maxCopyLen) :
    mergeRest ie mbssid sub maxCopyLen merged = .ok (merged ++ (List.replicate
      ((maxCopyLen - merged.length) / nextSub.len) (dataOf ie nextSub)).flatten) := by
  obtain ⟨r, continued, same⟩ := @getProfileContinuation_eq ie mbssid sub inside
  rw [goesOn] at same
  cases r with
  | none => cases same
  | some found =>
  obtain rfl : found.sub = nextSub := Option.some.inj same
  have here : found.sub.data + found.sub.len ≤ ie.length :=
    Nat.le_trans (continuation_eq_some goesOn).2.1
      (Nat.le_trans (after_lt_of_continuation goesOn).2 (Nat.max_le.mpr ⟨inside, Nat.le_refl _⟩))
  have two := found.two_le
  induction left : maxCopyLen - merged.length using Nat.strongRecOn generalizing merged with
  | ind left' ih =>
      rw [mergeRest, continued]
      change (if maxCopyLen < merged.length + found.sub.len then _ else _ :
        BoundedRead Empty _) = _
      by_cases full : maxCopyLen < merged.length + found.sub.len
      · rw [if_pos full, Nat.div_eq_of_lt (by omega)]
        exact congrArg Except.ok (List.append_nil _).symm
      · rw [if_neg full, readBytes_of_le here]
        change mergeRest ie mbssid sub maxCopyLen (merged ++ dataOf ie found.sub) = _
        have longer : (merged ++ dataOf ie found.sub).length = merged.length + found.sub.len := by
          rw [List.length_append, dataOf, window_length here]
        have again : left' / found.sub.len =
            (maxCopyLen - (merged.length + found.sub.len)) / found.sub.len + 1 := by
          rw [← Nat.add_div_right _ (by omega)]
          congr 1
          omega
        rw [ih (maxCopyLen - (merged.length + found.sub.len)) (by omega) (by omega)
          (by rw [longer]), again, List.replicate_succ, List.flatten_cons, List.append_assoc]

/-- What is copied begins with the sub-element. -/
theorem mergeProfile_eq (within : sub.after ≤ mbssid.after) (room : sub.len ≤ maxCopyLen) :
    mergeProfile ie mbssid sub maxCopyLen = mergeRest ie mbssid sub maxCopyLen (dataOf ie sub) := by
  have here : sub.data + sub.len ≤ ie.length := Nat.le_trans within inside
  rw [mergeProfile, if_neg (by omega), readBytes_of_le here]
  rfl

/-- The first part is always copied. -/
theorem len_le_of_merged (within : sub.after ≤ mbssid.after) (room : sub.len ≤ maxCopyLen)
    (result : mergeProfile ie mbssid sub maxCopyLen = .ok merged) : sub.len ≤ merged.length := by
  have length : (dataOf ie sub).length = sub.len := window_length (Nat.le_trans within inside)
  rw [mergeProfile_eq inside within room] at result
  cases goesOn : continuation ie mbssid sub with
  | none =>
      rw [mergeRest_of_none inside goesOn] at result
      cases result
      exact Nat.le_of_eq length.symm
  | some pair =>
      rw [mergeRest_of_some inside goesOn (by omega)] at result
      cases result
      rw [List.length_append]
      omega

end Copy

/-! ## Reassembly -/

/-- The copy is the profile, put together from its parts. -/
def Reassembles (ie : List UInt8) (mbssid sub : Elem) (maxCopyLen : Nat) : Prop :=
  mergeProfile ie mbssid sub maxCopyLen = .ok (reassembled ie mbssid sub maxCopyLen)

/-- No continuation has room, or what the further ones that have room add is the first one over
again, as often as there is room for it. -/
def CopiedRightly (ie : List UInt8) (mbssid sub : Elem) (maxCopyLen : Nat) : Prop :=
  ∀ next nextSub, continuation ie mbssid sub = some (next, nextSub) →
    sub.len + nextSub.len ≤ maxCopyLen →
      (fitting (maxCopyLen - (sub.len + nextSub.len))
          (continuations ie next nextSub)).flatMap (dataOf ie) =
        (List.replicate ((maxCopyLen - (sub.len + nextSub.len)) / nextSub.len)
          (dataOf ie nextSub)).flatten

theorem reassembles_iff (inside : mbssid.after ≤ ie.length) (within : sub.after ≤ mbssid.after) :
    Reassembles ie mbssid sub maxCopyLen ↔ CopiedRightly ie mbssid sub maxCopyLen := by
  have length : (dataOf ie sub).length = sub.len := window_length (Nat.le_trans within inside)
  rw [Reassembles, CopiedRightly]
  by_cases none' : maxCopyLen < sub.len
  · rw [mergeProfile, if_pos none', reassembled, if_pos none']
    exact ⟨fun _ _ _ _ room => absurd room (by omega), fun _ => rfl⟩
  rw [mergeProfile_eq inside within (by omega), reassembled, if_neg none', List.flatMap_cons]
  cases goesOn : continuation ie mbssid sub with
  | none =>
      rw [mergeRest_of_none inside goesOn, continuations_of_none goesOn]
      refine ⟨fun _ => nofun, fun _ => ?_⟩
      rw [fitting, List.flatMap_nil, List.append_nil]
  | some pair =>
      obtain ⟨next, nextSub⟩ := pair
      have two := (continuation_eq_some goesOn).2.2.1
      rw [mergeRest_of_some inside goesOn (by omega), continuations_of_some goesOn, length, fitting]
      by_cases room : nextSub.len ≤ maxCopyLen - sub.len
      · have again : (maxCopyLen - sub.len) / nextSub.len =
            (maxCopyLen - (sub.len + nextSub.len)) / nextSub.len + 1 := by
          rw [← Nat.add_div_right _ (by omega)]
          congr 1
          omega
        rw [if_pos room, List.flatMap_cons, again, List.replicate_succ, List.flatten_cons,
          Nat.sub_sub]
        constructor
        · rintro same next' nextSub' ⟨⟩ -
          exact (List.append_cancel_left (List.append_cancel_left (Except.ok.inj same))).symm
        · intro same
          rw [same next nextSub rfl (by omega)]
      · rw [if_neg room, Nat.div_eq_of_lt (by omega)]
        refine ⟨?_, fun _ => rfl⟩
        rintro - next' nextSub' ⟨⟩ room'
        exact absurd room' (by omega)

end Iwlwifi.ParseElems
