import Iwlwifi.Wireless.MergeProfile

/-!
# The profile that the search leaves behind

`ieee802_11_find_bssid_profile` copies every profile it comes across into one buffer.  A match ends
the walk over the profiles of its element, but not the walk over the elements, so the profiles of
the elements behind it are copied over it.  `Match` is the match the search ends with, and
`visit_leaves` says what is in the buffer then: the last profile of the elements behind the match
if there is one.
-/

namespace Iwlwifi.ParseElems

open Lib

/-! ## The profiles of a frame -/

/-- The sub-element starts a profile. -/
def begins (start : List UInt8) (sub : Elem) : Bool :=
  sub.id == 0 && 4 ≤ sub.len && u8At start sub.data == eidNonTxBssidCap &&
    u8At start (sub.data + 1) == 2

/-- The sub-elements of an element that start a profile. -/
def profilesOf (start : List UInt8) (mbssid : Elem) : List Elem :=
  if mbssid.id = eidMultipleBssid ∧ 2 ≤ mbssid.len then
    (elements start mbssid.after (mbssid.data + 1)).filter (begins start)
  else []

/-- The last profile of a list of elements. -/
def lastProfile (start : List UInt8) (list : List Elem) : Option (Elem × Elem) :=
  (list.flatMap fun mbssid => (profilesOf start mbssid).map (mbssid, ·)).getLast?

/-- What a profile consists of, as it is copied. -/
def contentOf (start : List UInt8) (mbssid sub : Elem) : BoundedRead Empty (List UInt8) :=
  mergeProfile start mbssid sub start.length

/-- The index element of a profile. -/
def indexOf (start : List UInt8) (mbssid sub : Elem) : BoundedRead Empty (Option Elem) := do
  let profile ← contentOf start mbssid sub
  return (← profileIndex profile).map Prod.fst

/-- The match that the search ends with: the first one of the last element that holds any. -/
structure Match (start : List UInt8) (tx bss : BitVec 48) (list : List Elem) (mbssid sub : Elem)
    (behind : List Elem) : Prop where
  place : ∃ before, list = before ++ mbssid :: behind
  first : ∃ earlier later, profilesOf start mbssid = earlier ++ sub :: later ∧
    ∀ e ∈ earlier, ¬ Describes start tx bss mbssid e
  describes : Describes start tx bss mbssid sub
  last : ∀ e ∈ behind, ∀ sub ∈ profilesOf start e, ¬ Describes start tx bss e sub

variable {start : List UInt8} {tx bss : BitVec 48} {mbssid sub : Elem} {s : Search}

theorem begins_iff : begins start sub = true ↔ sub.id = 0 ∧ 4 ≤ sub.len ∧
    u8At start sub.data = eidNonTxBssidCap ∧ u8At start (sub.data + 1) = 2 := by
  simp only [begins, Bool.and_eq_true, beq_iff_eq, decide_eq_true_eq, and_assoc]

theorem begins_of_describes (describes : Describes start tx bss mbssid sub) :
    begins start sub = true := begins_iff.mpr describes.1

/-! ## A sub-element -/

/-- The copy holds the profile, and the index is the one it gives. -/
def Search.Carries (start : List UInt8) (tx bss : BitVec 48) (mbssid sub : Elem) (s : Search) :
    Prop :=
  s.found = true ∧ contentOf start mbssid sub = .ok s.profile ∧
    ∃ index value, s.index = some index ∧ profileIndex s.profile = .ok (some (index, value)) ∧
      genNewBssid tx (u8At start mbssid.data) value = bss

/-- Nothing was found, and the profile was copied. -/
def Search.Copies (start : List UInt8) (last : Option (Elem × Elem)) (s s' : Search) : Prop :=
  s'.found = s.found ∧ s'.index = s.index ∧
    match last with
    | none => s'.profile = s.profile
    | some (mbssid, sub) => contentOf start mbssid sub = .ok s'.profile

section Subelement

variable (inside : mbssid.after ≤ start.length) (two : 2 ≤ mbssid.len)
  (within : sub.after ≤ mbssid.after)
include inside two within

/-- What a sub-element does: it is not a profile, it is the one that is looked for, or it is
another one. -/
theorem trySubelement_cases (tx bss : BitVec 48) (s : Search) :
    (begins start sub = false ∧ trySubelement start tx bss mbssid sub s = .ok (.yield s)) ∨
    (Describes start tx bss mbssid sub ∧ ∃ s', s'.Carries start tx bss mbssid sub ∧
      trySubelement start tx bss mbssid sub s = .ok (.done s')) ∨
    (begins start sub = true ∧ ¬ Describes start tx bss mbssid sub ∧
      ∃ s', s.Copies start (some (mbssid, sub)) s' ∧
        trySubelement start tx bss mbssid sub s = .ok (.yield s')) := by
  obtain ⟨profile, merged⟩ := mergeProfile_returns inside within start.length
  obtain ⟨found, valid⟩ := profileIndex_returns profile
  change mbssid.data + mbssid.len ≤ start.length at inside
  change sub.data + sub.len ≤ mbssid.data + mbssid.len at within
  rw [trySubelement]
  by_cases short : sub.id ≠ 0 ∨ sub.len < 4
  · refine .inl ⟨?_, ?_⟩
    · rw [← Bool.not_eq_true, begins_iff]
      rintro ⟨id, four, -⟩
      omega
    · rw [if_pos short]
      rfl
  rw [if_neg short, readU8_of_le (by omega), readU8_of_le (by omega)]
  change (begins start sub = false ∧ (if u8At start sub.data ≠ eidNonTxBssidCap ∨
      u8At start (sub.data + 1) ≠ 2 then _ else _) = Except.ok _) ∨
    (_ ∧ ∃ s', _ ∧ (if u8At start sub.data ≠ eidNonTxBssidCap ∨
      u8At start (sub.data + 1) ≠ 2 then _ else _) = Except.ok _) ∨
    (_ ∧ _ ∧ ∃ s', _ ∧ (if u8At start sub.data ≠ eidNonTxBssidCap ∨
      u8At start (sub.data + 1) ≠ 2 then _ else _) = Except.ok _)
  by_cases other : u8At start sub.data ≠ eidNonTxBssidCap ∨ u8At start (sub.data + 1) ≠ 2
  · refine .inl ⟨?_, ?_⟩
    · rw [← Bool.not_eq_true, begins_iff]
      rintro ⟨-, -, first, second⟩
      exact other.elim (· first) (· second)
    · rw [if_pos other]
      rfl
  have starts : begins start sub = true := begins_iff.mpr (by omega)
  rw [if_neg other, merged]
  change _ ∨ (_ ∧ ∃ s', _ ∧ (profileIndex profile >>= _) = Except.ok _) ∨
    (_ ∧ _ ∧ ∃ s', _ ∧ (profileIndex profile >>= _) = Except.ok _)
  rw [valid]
  cases found with
  | none =>
    refine .inr (.inr ⟨starts, ?_, ⟨profile, s.found, s.index⟩, ⟨rfl, rfl, merged⟩, rfl⟩)
    rintro ⟨-, profile', index, value, merged', valid', -⟩
    obtain rfl : profile = profile' := Except.ok.inj (merged.symm.trans merged')
    rw [valid] at valid'
    cases valid'
  | some pair =>
    obtain ⟨index, value⟩ := pair
    change _ ∨ (_ ∧ ∃ s', _ ∧ (readU8 start mbssid.data >>= _) = Except.ok _) ∨
      (_ ∧ _ ∧ ∃ s', _ ∧ (readU8 start mbssid.data >>= _) = Except.ok _)
    rw [readU8_of_le (by omega)]
    change _ ∨ (_ ∧ ∃ s', _ ∧ (if genNewBssid tx (u8At start mbssid.data) value = bss then _
        else _) = Except.ok _) ∨
      (_ ∧ _ ∧ ∃ s', _ ∧ (if genNewBssid tx (u8At start mbssid.data) value = bss then _
        else _) = Except.ok _)
    by_cases same : genNewBssid tx (u8At start mbssid.data) value = bss
    · refine .inr (.inl ⟨⟨begins_iff.mp starts, profile, index, value, merged, valid, same⟩,
        ⟨profile, true, some index⟩, ⟨rfl, merged, index, value, rfl, valid, same⟩, ?_⟩)
      exact if_pos same
    · refine .inr (.inr ⟨starts, ?_, ⟨profile, s.found, s.index⟩, ⟨rfl, rfl, merged⟩,
        if_neg same⟩)
      rintro ⟨-, profile', index', value', merged', valid', same'⟩
      obtain rfl : profile = profile' := Except.ok.inj (merged.symm.trans merged')
      rw [valid] at valid'
      cases valid'
      exact same same'

end Subelement

/-! ## An element -/

section Element

variable (inside : mbssid.after ≤ start.length) (two : 2 ≤ mbssid.len)
include inside two

/-- The walk over sub-elements ends with the first match, or has copied all their profiles. -/
theorem visit_subs (tx bss : BitVec 48) {subs : List Elem}
    (within : ∀ sub ∈ subs, sub.after ≤ mbssid.after) (s : Search) :
    ∃ s', visit (trySubelement start tx bss mbssid) subs s = .ok s' ∧
      ((∃ earlier sub later, subs.filter (begins start) = earlier ++ sub :: later ∧
          (∀ e ∈ earlier, ¬ Describes start tx bss mbssid e) ∧
          Describes start tx bss mbssid sub ∧ s'.Carries start tx bss mbssid sub) ∨
        ((∀ sub ∈ subs.filter (begins start), ¬ Describes start tx bss mbssid sub) ∧
          s.Copies start (((subs.filter (begins start)).map (mbssid, ·)).getLast?) s')) := by
  induction subs generalizing s with
  | nil => exact ⟨s, rfl, .inr ⟨List.forall_mem_nil _, rfl, rfl, rfl⟩⟩
  | cons sub rest ih =>
    have later := fun e (listed : e ∈ rest) => within e (.tail _ listed)
    rcases trySubelement_cases inside two (within sub (.head _)) tx bss s with
      ⟨not, passed⟩ | ⟨describes, s', carries, ended⟩ | ⟨starts, not, next, copies, passed⟩
    · rw [visit, passed, List.filter_cons_of_neg (by rw [not]; decide)]
      exact ih later s
    · rw [visit, ended, List.filter_cons_of_pos (begins_of_describes describes)]
      exact ⟨s', rfl, .inl ⟨[], sub, _, rfl, List.forall_mem_nil _, describes, carries⟩⟩
    · obtain ⟨s', visited, result⟩ := ih later next
      rw [visit, passed, List.filter_cons_of_pos starts]
      refine ⟨s', visited, ?_⟩
      rcases result with ⟨earlier, match', behind, split, none, rest'⟩ | ⟨none, kept⟩
      · refine .inl ⟨sub :: earlier, match', behind, by rw [split]; rfl, ?_, rest'⟩
        exact List.forall_mem_cons.mpr ⟨not, none⟩
      · refine .inr ⟨List.forall_mem_cons.mpr ⟨not, none⟩, ?_⟩
        rw [List.map_cons, List.getLast?_cons]
        obtain ⟨found, index, profile⟩ := kept
        refine ⟨found.trans copies.1, index.trans copies.2.1, ?_⟩
        revert profile
        cases ((rest.filter (begins start)).map (mbssid, ·)).getLast? with
        | none => exact fun same => same ▸ copies.2.2
        | some last => exact id

end Element

/-- What an element does to the search. -/
theorem tryElement_leaves (tx bss : BitVec 48) (inside : mbssid.after ≤ start.length)
    (s : Search) :
    ∃ s', tryElement start tx bss mbssid s = .ok (.yield s') ∧
      ((∃ earlier sub later, profilesOf start mbssid = earlier ++ sub :: later ∧
          (∀ e ∈ earlier, ¬ Describes start tx bss mbssid e) ∧
          Describes start tx bss mbssid sub ∧ s'.Carries start tx bss mbssid sub) ∨
        ((∀ sub ∈ profilesOf start mbssid, ¬ Describes start tx bss mbssid sub) ∧
          s.Copies start (((profilesOf start mbssid).map (mbssid, ·)).getLast?) s')) := by
  rw [tryElement, profilesOf]
  by_cases other : mbssid.id ≠ eidMultipleBssid ∨ mbssid.len < 2
  · rw [if_pos other, if_neg (by omega)]
    exact ⟨s, rfl, .inr ⟨List.forall_mem_nil _, rfl, rfl, rfl⟩⟩
  · rw [if_neg other, if_pos (by omega)]
    have within : ∀ sub ∈ elements start mbssid.after (mbssid.data + 1),
        sub.after ≤ mbssid.after := fun sub listed => (mem_elements listed).2.1
    obtain ⟨s', visited, result⟩ := visit_subs inside (by omega) tx bss within s
    obtain ⟨last, walked⟩ := forEachElement_of_visit inside visited
    refine ⟨s', ?_, result⟩
    rw [walked]
    rfl

/-! ## The frame -/

theorem lastProfile_cons (list : List Elem) :
    lastProfile start (mbssid :: list) =
      (lastProfile start list).or (((profilesOf start mbssid).map (mbssid, ·)).getLast?) := by
  rw [lastProfile, List.flatMap_cons, List.getLast?_append]
  rfl

/-- The search over elements ends with the last match, and holds what was copied last. -/
theorem visit_leaves (tx bss : BitVec 48) {list : List Elem}
    (inside : ∀ e ∈ list, e.after ≤ start.length) (s : Search) :
    ∃ s', visit (tryElement start tx bss) list s = .ok s' ∧
      ((∃ mbssid sub behind, Match start tx bss list mbssid sub behind ∧
          ∃ t : Search, t.Carries start tx bss mbssid sub ∧
            t.Copies start (lastProfile start behind) s') ∨
        ((∀ e ∈ list, ∀ sub ∈ profilesOf start e, ¬ Describes start tx bss e sub) ∧
          s.Copies start (lastProfile start list) s')) := by
  induction list generalizing s with
  | nil => exact ⟨s, rfl, .inr ⟨List.forall_mem_nil _, rfl, rfl, rfl⟩⟩
  | cons e rest ih =>
    obtain ⟨next, passed, here⟩ := tryElement_leaves tx bss (inside e (.head _)) s
    obtain ⟨s', visited, result⟩ := ih (fun e listed => inside e (.tail _ listed)) next
    refine ⟨s', ?_, ?_⟩
    · rw [visit, passed]
      exact visited
    rcases result with ⟨mbssid, sub, behind, matched, carried⟩ | ⟨none, kept⟩
    · obtain ⟨before, split⟩ := matched.place
      exact .inl ⟨mbssid, sub, behind, ⟨⟨e :: before, by rw [split]; rfl⟩, matched.first,
        matched.describes, matched.last⟩, carried⟩
    rcases here with ⟨earlier, sub, later, split, first, describes, carries⟩ | ⟨not, copies⟩
    · exact .inl ⟨e, sub, rest, ⟨⟨[], rfl⟩, ⟨earlier, later, split, first⟩, describes, none⟩,
        next, carries, kept⟩
    · refine .inr ⟨List.forall_mem_cons.mpr ⟨not, none⟩, ?_⟩
      obtain ⟨found, index, profile⟩ := kept
      refine ⟨found.trans copies.1, index.trans copies.2.1, ?_⟩
      rw [lastProfile_cons]
      revert profile
      cases lastProfile start rest with
      | none =>
        intro same
        have copied := copies.2.2
        revert copied
        rw [Option.none_or]
        cases ((profilesOf start e).map (e, ·)).getLast? with
        | none => exact fun copied => same.trans copied
        | some last => exact fun copied => same ▸ copied
      | some last => exact id

/-! ## The match is the only one of its kind -/

/-- The first element with a property is at one place only. -/
theorem first_unique {α : Type} {p : α → Prop} {a a' b b' : List α} {x x' : α}
    (same : a ++ x :: b = a' ++ x' :: b') (is : p x) (is' : p x') (none : ∀ e ∈ a, ¬ p e)
    (none' : ∀ e ∈ a', ¬ p e) : x = x' ∧ b = b' := by
  rcases List.append_eq_append_iff.mp same with ⟨more, front, back⟩ | ⟨more, front, back⟩
  · cases more with
    | nil =>
      cases back
      exact ⟨rfl, rfl⟩
    | cons e more =>
      cases back
      exact absurd is (none' x (by rw [front]; exact List.mem_append_right _ (.head _)))
  · cases more with
    | nil =>
      cases back
      exact ⟨rfl, rfl⟩
    | cons e more =>
      cases back
      exact absurd is' (none x' (by rw [front]; exact List.mem_append_right _ (.head _)))

theorem Match.mem {list behind : List Elem} (matched : Match start tx bss list mbssid sub behind) :
    mbssid ∈ list ∧ sub ∈ profilesOf start mbssid := by
  obtain ⟨before, place⟩ := matched.place
  obtain ⟨earlier, later, first, -⟩ := matched.first
  rw [place, first]
  exact ⟨List.mem_append_right _ (.head _), List.mem_append_right _ (.head _)⟩

theorem Match.unique {list behind behind' : List Elem} {mbssid' sub' : Elem}
    (matched : Match start tx bss list mbssid sub behind)
    (matched' : Match start tx bss list mbssid' sub' behind') :
    mbssid = mbssid' ∧ sub = sub' ∧ behind = behind' := by
  have held := matched.mem.2
  have held' := matched'.mem.2
  obtain ⟨before, place⟩ := matched.place
  obtain ⟨before', place'⟩ := matched'.place
  have reversed : behind.reverse ++ mbssid :: before.reverse =
      behind'.reverse ++ mbssid' :: before'.reverse := by
    have same := congrArg List.reverse (place.symm.trans place')
    simpa using same
  have elements : mbssid = mbssid' ∧ before.reverse = before'.reverse :=
    first_unique (p := fun e => ∃ sub ∈ profilesOf start e, Describes start tx bss e sub) reversed
      ⟨sub, held, matched.describes⟩ ⟨sub', held', matched'.describes⟩
      (fun e listed ⟨sub, is, describes⟩ =>
        matched.last e (List.mem_reverse.mp listed) sub is describes)
      (fun e listed ⟨sub, is, describes⟩ =>
        matched'.last e (List.mem_reverse.mp listed) sub is describes)
  obtain ⟨rfl, same⟩ := elements
  obtain rfl : before = before' := List.reverse_injective same
  obtain ⟨earlier, later, first, none⟩ := matched.first
  obtain ⟨earlier', later', first', none'⟩ := matched'.first
  have subs :=
    first_unique (first.symm.trans first') matched.describes matched'.describes none none'
  refine ⟨rfl, subs.1, ?_⟩
  exact (List.cons.inj (List.append_cancel_left (place.symm.trans place'))).2

/-! ## The search -/

/-- The frame describes the network with address `bss`. -/
def Listed (start : List UInt8) (tx bss : BitVec 48) : Prop :=
  ∃ mbssid ∈ elementsOf start, ∃ sub ∈ profilesOf start mbssid, Describes start tx bss mbssid sub

/-- The search returns a length other than zero only if the buffer it leaves holds a profile that
gives the address `bss` and the index is that of the profile, and it returns zero only if no
profile gives that address. -/
def RightProfile (start : List UInt8) (tx bss : BitVec 48) : Prop :=
  ∃ s, findBssidProfile start (some tx) (some bss) = .ok s ∧
    (s.result.length ≠ 0 → ∃ mbssid ∈ elementsOf start, ∃ sub ∈ profilesOf start mbssid,
      Describes start tx bss mbssid sub ∧ contentOf start mbssid sub = .ok s.profile ∧
        ∃ index value, s.index = some index ∧
          profileIndex s.profile = .ok (some (index, value))) ∧
    (s.result.length = 0 → ¬ Listed start tx bss)

/-- Another profile consists of the same bytes as one that gives the address `bss`, and these have
their index element where the match has it. -/
def Alike (start : List UInt8) (tx bss : BitVec 48) (mbssid sub other otherSub : Elem) : Prop :=
  ∃ m ∈ elementsOf start, ∃ sub' ∈ profilesOf start m, Describes start tx bss m sub' ∧
    contentOf start m sub' = contentOf start other otherSub ∧
    indexOf start m sub' = indexOf start mbssid sub

/-- The elements behind the one with the match hold no further profile, or the last one there is
the same as one that matches. -/
def Undisturbed (start : List UInt8) (tx bss : BitVec 48) : Prop :=
  ∀ mbssid sub behind, Match start tx bss (elementsOf start) mbssid sub behind →
    ∀ other otherSub, lastProfile start behind = some (other, otherSub) →
      Alike start tx bss mbssid sub other otherSub

theorem findBssidProfile_leaves (start : List UInt8) (tx bss : BitVec 48) :
    ∃ s, findBssidProfile start (some tx) (some bss) = .ok s ∧
      ((∃ mbssid sub behind, Match start tx bss (elementsOf start) mbssid sub behind ∧
          ∃ t : Search, t.Carries start tx bss mbssid sub ∧
            t.Copies start (lastProfile start behind) s) ∨
        (¬ Listed start tx bss ∧ s.found = false)) := by
  obtain ⟨s, visited, result⟩ := visit_leaves tx bss
    (fun e (listed : e ∈ elementsOf start) => inside_of_mem listed) ⟨[], false, none⟩
  obtain ⟨last, walked⟩ := forEachElement_of_visit (Nat.le_refl _) visited
  refine ⟨s, ?_, ?_⟩
  · rw [findBssidProfile, walked]
    rfl
  · rcases result with carried | ⟨none, copies⟩
    · exact .inl carried
    · refine .inr ⟨?_, copies.1⟩
      rintro ⟨mbssid, listed, sub, held, describes⟩
      exact none mbssid listed sub held describes

theorem indexOf_of_content {profile : List UInt8} {index : Elem} {value : Nat}
    (content : contentOf start mbssid sub = .ok profile)
    (valid : profileIndex profile = .ok (some (index, value))) :
    indexOf start mbssid sub = .ok (some index) := by
  rw [indexOf, content]
  change (profileIndex profile >>= _) = _
  rw [valid]
  rfl

theorem index_of_indexOf {profile : List UInt8} {index : Elem}
    (content : contentOf start mbssid sub = .ok profile)
    (found : indexOf start mbssid sub = .ok (some index)) :
    ∃ value, profileIndex profile = .ok (some (index, value)) := by
  rw [indexOf, content] at found
  change (profileIndex profile >>= _) = _ at found
  obtain ⟨pair, valid, same⟩ := bind_eq_ok.mp found
  cases pair with
  | none => cases same
  | some pair =>
    cases same
    exact ⟨pair.2, valid⟩

theorem profile_inside (listed : mbssid ∈ elementsOf start) (held : sub ∈ profilesOf start mbssid) :
    mbssid.after ≤ start.length ∧ sub.after ≤ mbssid.after ∧ 4 ≤ sub.len := by
  rw [profilesOf] at held
  split at held
  · obtain ⟨within, starts⟩ := List.mem_filter.mp held
    exact ⟨inside_of_mem listed, (mem_elements within).2.1, (begins_iff.mp starts).2.1⟩
  · cases held

/-- A profile is never empty. -/
theorem length_pos_of_content {profile : List UInt8} (listed : mbssid ∈ elementsOf start)
    (held : sub ∈ profilesOf start mbssid) (content : contentOf start mbssid sub = .ok profile) :
    profile.length ≠ 0 := by
  obtain ⟨inside, within, four⟩ := profile_inside listed held
  have room : sub.len ≤ start.length := by
    rw [Elem.after] at within
    omega
  have longer := len_le_of_merged inside within room content
  omega

theorem mem_of_lastProfile {list : List Elem} {other otherSub : Elem}
    (last : lastProfile start list = some (other, otherSub)) :
    other ∈ list ∧ otherSub ∈ profilesOf start other := by
  obtain ⟨e, listed, held⟩ := List.mem_flatMap.mp (List.mem_of_getLast? last)
  obtain ⟨sub, held, same⟩ := List.mem_map.mp held
  cases same
  exact ⟨listed, held⟩

theorem Match.behind_mem {list behind : List Elem} {e : Elem}
    (matched : Match start tx bss list mbssid sub behind) (later : e ∈ behind) : e ∈ list := by
  obtain ⟨before, place⟩ := matched.place
  rw [place]
  exact List.mem_append_right _ (.tail _ later)

/-- The search leaves the right profile exactly if it comes across no further one behind the last
element with a match, or one that is the same. -/
theorem rightProfile_iff (start : List UInt8) (tx bss : BitVec 48) :
    RightProfile start tx bss ↔ Undisturbed start tx bss := by
  obtain ⟨s, result, ⟨mbssid, sub, behind, matched, t, carries, copies⟩ | ⟨none, notFound⟩⟩ :=
    findBssidProfile_leaves start tx bss
  · obtain ⟨listed, held⟩ := matched.mem
    obtain ⟨found, content, index, value, has, valid, -⟩ := carries
    have indexed : indexOf start mbssid sub = .ok (some index) := indexOf_of_content content valid
    have index' : s.index = some index := copies.2.1.trans has
    have is : s.result = s.profile := by
      rw [Search.result, copies.1, found]
      rfl
    have here : Listed start tx bss := ⟨mbssid, listed, sub, held, matched.describes⟩
    cases last : lastProfile start behind with
    | none =>
      have profile : s.profile = t.profile := by
        have copied := copies.2.2
        rw [last] at copied
        exact copied
      constructor
      · rintro - mbssid' sub' behind' matched' other otherSub last'
        obtain ⟨-, -, rfl⟩ := matched.unique matched'
        rw [last] at last'
        cases last'
      · refine fun _ => ⟨s, result, fun _ => ?_, fun zero => ?_⟩
        · refine ⟨mbssid, listed, sub, held, matched.describes, ?_, index, value, index', ?_⟩
          · rw [profile, content]
          · rw [profile, valid]
        · rw [is, profile] at zero
          exact absurd zero (length_pos_of_content listed held content)
    | some pair =>
      obtain ⟨other, otherSub⟩ := pair
      have copied : contentOf start other otherSub = .ok s.profile := by
        have copied := copies.2.2
        rw [last] at copied
        exact copied
      have later := mem_of_lastProfile last
      have long := length_pos_of_content (matched.behind_mem later.1) later.2 copied
      constructor
      · rintro ⟨s', result', right, -⟩ mbssid' sub' behind' matched' other' otherSub' last'
        obtain ⟨rfl, rfl, rfl⟩ := matched.unique matched'
        obtain rfl : s = s' := Except.ok.inj (result.symm.trans result')
        rw [last] at last'
        cases last'
        obtain ⟨m, in', sub', held', describes, content', index'', value', has', valid'⟩ :=
          right (by rw [is]; exact long)
        refine ⟨m, in', sub', held', describes, content'.trans copied.symm, ?_⟩
        rw [indexOf_of_content content' valid', indexed, ← has', index']
      · intro undisturbed
        obtain ⟨m, in', sub', held', describes, same, sameIndex⟩ :=
          undisturbed mbssid sub behind matched other otherSub last
        have content' := same.trans copied
        obtain ⟨value', valid'⟩ := index_of_indexOf content' (sameIndex.trans indexed)
        refine ⟨s, result, fun _ => ?_, fun zero => ?_⟩
        · exact ⟨m, in', sub', held', describes, content', index, value', index', valid'⟩
        · rw [is] at zero
          exact absurd zero long
  · have empty : s.result.length = 0 := by
      rw [Search.result, notFound]
      rfl
    constructor
    · rintro - mbssid sub behind matched
      exact absurd ⟨mbssid, matched.mem.1, sub, matched.mem.2, matched.describes⟩ none
    · exact fun _ => ⟨s, result, fun some => absurd empty some, fun _ => none⟩

/-- Two Multiple-BSSID elements with one profile each, of which the first is that of the network
that is looked for. -/
def twoElements : List UInt8 :=
  [71, 10, 3, 0, 7, 83, 2, 1, 0, 85, 1, 1, 71, 10, 3, 0, 7, 83, 2, 1, 0, 85, 1, 2]

/-- The profile of the second element is left in place of the first. -/
theorem not_rightProfile : ¬ RightProfile twoElements 0x10 0x11 := by
  rintro ⟨s, result, right, -⟩
  have searched : findBssidProfile twoElements (some 0x10) (some 0x11) =
      .ok ⟨[83, 2, 1, 0, 85, 1, 2], true, some ⟨4, 85, 1⟩⟩ := by decide +kernel
  obtain rfl := Except.ok.inj (searched.symm.trans result)
  obtain ⟨mbssid, listed, sub, held, ⟨-, profile, index, value, merged, valid, same⟩, content, -⟩ :=
    right (by decide)
  obtain rfl : profile = [83, 2, 1, 0, 85, 1, 2] := Except.ok.inj (merged.symm.trans content)
  have second : profileIndex [83, 2, 1, 0, 85, 1, 2] = .ok (some (⟨4, 85, 1⟩, 2)) := by
    decide +kernel
  obtain ⟨-, rfl⟩ : index = ⟨4, 85, 1⟩ ∧ value = 2 :=
    Prod.mk.inj (Option.some.inj (Except.ok.inj (valid.symm.trans second)))
  have indicator : u8At twoElements mbssid.data = 3 := by
    have all : elementsOf twoElements = [⟨0, 71, 10⟩, ⟨12, 71, 10⟩] := by decide +kernel
    rw [all] at listed
    rcases List.mem_cons.mp listed with rfl | listed
    · rfl
    · obtain rfl := List.mem_singleton.mp listed
      rfl
  rw [indicator] at same
  exact absurd same (by decide)

end Iwlwifi.ParseElems
