import Iwlwifi.Mac80211.ParseElemsSafe

/-!
# Parsed elements and the profile of a network

The search for the profile of the network that is asked for stays in the frame and in its copy.
`Described` says of a frame that it holds such a profile, and `searchProfile_of_described` and
`searchProfile_of_not_described` that the search finds one exactly then.  What it finds is kept in
the copy, which is given back, so the pointers of the result are good for exactly the frames that
describe no such network and that a single pass handles (`pointIntoFrame_iff`).
-/

namespace Iwlwifi.ParseElems

open Lib

/-! ## Copying a profile -/

section Copy

variable {ie : List UInt8} {mbssid sub : Elem} (inside : mbssid.after ≤ ie.length)
include inside

theorem getProfileContinuation_returns : Returns (getProfileContinuation ie mbssid sub) := by
  have rest : mbssid.after + (ie.length - mbssid.after) ≤ ie.length := by omega
  obtain ⟨found, result⟩ : Returns (findElem ie eidMultipleBssid mbssid.after _) :=
    ⟨_, findElem_eq rest⟩
  refine returns_bind result ?_
  cases found with
  | none => exact returns_ok _
  | some next =>
      have within : next.data + next.len ≤ ie.length :=
        Nat.le_trans (findElem_inside rest result).2 rest
      refine returns_ite (fun _ => returns_ok _) fun _ => ?_
      refine returns_ite (fun _ => returns_ok _) fun four => ?_
      refine returns_bind (readU8_of_le (by omega)) (returns_bind (readU8_of_le (by omega)) ?_)
      refine returns_ite (fun _ => returns_ok _) fun _ => ?_
      split
      · exact returns_ok _
      · refine returns_bind (readU8_of_le ?_) ?_
        · change next.data + 1 + 2 + 1 ≤ ie.length
          omega
        · exact returns_ite (fun _ => returns_ok _) fun _ => returns_ok _

theorem getProfileContinuation_inside :
    Yields (fun r => ∀ next, r = some next → next.sub.after ≤ ie.length)
      (getProfileContinuation ie mbssid sub) := by
  have rest : mbssid.after + (ie.length - mbssid.after) ≤ ie.length := by omega
  refine yields_bind_of fun found result => ?_
  cases found with
  | none => exact yields_ok nofun
  | some next =>
      have within : next.after ≤ ie.length := Nat.le_trans (findElem_inside rest result).2 rest
      refine yields_ite (yields_ok nofun) (yields_ite (yields_ok nofun) ?_)
      refine yields_bind fun id => yields_bind fun len => ?_
      change Yields _ (if next.after < (⟨next.data + 1, id, len⟩ : Elem).after then _ else _)
      split
      · exact yields_ok nofun
      next fits =>
      split
      · exact yields_ok nofun
      · refine yields_bind fun first => yields_ite (yields_ok nofun) (yields_ok ?_)
        rintro next ⟨⟩
        exact Nat.le_trans (Nat.le_of_not_lt fits) within

/-- The loop ends, since each round adds at least two bytes to a copy of bounded length. -/
theorem mergeRest_returns {maxCopyLen : Nat} {merged : List UInt8} :
    Returns (mergeRest ie mbssid sub maxCopyLen merged) := by
  induction left : maxCopyLen - merged.length using Nat.strongRecOn generalizing merged with
  | ind left' ih =>
      rw [mergeRest]
      obtain ⟨r, continued⟩ := @getProfileContinuation_returns ie mbssid sub inside
      refine returns_bind continued ?_
      cases r with
      | none => exact returns_ok _
      | some next =>
          have here := getProfileContinuation_inside inside _ continued next rfl
          obtain ⟨nextSub, two⟩ := next
          refine returns_ite (fun _ => returns_ok _) fun room => ?_
          refine returns_bind (readBytes_of_le here) (ih _ ?_ rfl)
          rw [List.length_append, window_length here]
          change ¬ maxCopyLen < merged.length + nextSub.len at room
          change maxCopyLen - (merged.length + nextSub.len) < left'
          omega

theorem mergeProfile_returns (within : sub.after ≤ mbssid.after) (maxCopyLen : Nat) :
    Returns (mergeProfile ie mbssid sub maxCopyLen) :=
  returns_ite (fun _ => returns_ok _) fun _ =>
    returns_bind (readBytes_of_le (Nat.le_trans within inside)) (mergeRest_returns inside)

end Copy

theorem profileIndex_returns (profile : List UInt8) : Returns (profileIndex profile) := by
  have whole : 0 + profile.length ≤ profile.length := by omega
  obtain ⟨found, result⟩ : Returns (findElem profile eidMultiBssidIdx 0 profile.length) :=
    ⟨_, findElem_eq whole⟩
  refine returns_bind result ?_
  cases found with
  | none => exact returns_ok _
  | some index =>
      have within : index.data + index.len ≤ 0 + profile.length := (findElem_inside whole result).2
      refine returns_ite (fun _ => returns_ok _) fun one => ?_
      refine returns_bind (readU8_of_le (by omega)) ?_
      exact returns_ite (fun _ => returns_ok _) fun _ => returns_ok _

/-! ## The search -/

/-- The sub-element starts a profile, and the profile is that of the network with address `bss`. -/
def Describes (start : List UInt8) (tx bss : BitVec 48) (mbssid sub : Elem) : Prop :=
  (sub.id = 0 ∧ 4 ≤ sub.len ∧ u8At start sub.data = eidNonTxBssidCap ∧
    u8At start (sub.data + 1) = 2) ∧
  ∃ profile index value, mergeProfile start mbssid sub start.length = .ok profile ∧
    profileIndex profile = .ok (some (index, value)) ∧
    genNewBssid tx (u8At start mbssid.data) value = bss

/-- The element holds the profile of the network with address `bss`. -/
def Holds (start : List UInt8) (tx bss : BitVec 48) (mbssid : Elem) : Prop :=
  (mbssid.id = eidMultipleBssid ∧ 2 ≤ mbssid.len) ∧
    ∃ sub ∈ elements start mbssid.after (mbssid.data + 1), Describes start tx bss mbssid sub

/-- A profile was found, and `bssid_index` was set. -/
def Search.Found (s : Search) : Prop := s.found = true ∧ s.index.isSome = true

def Search.NotFound (s : Search) : Prop := s.found = false ∧ s.index = none

section Search

variable {start : List UInt8} {tx bss : BitVec 48} {mbssid sub : Elem}
  (inside : mbssid.after ≤ start.length)
include inside

theorem trySubelement_finds (two : 2 ≤ mbssid.len) (within : sub.after ≤ mbssid.after)
    (describes : Describes start tx bss mbssid sub) (s : Search) :
    ∃ s', Search.Found s' ∧ trySubelement start tx bss mbssid sub s = .ok (.done s') := by
  obtain ⟨⟨id, four, first, firstLen⟩, profile, index, value, merged, valid, same⟩ := describes
  change mbssid.data + mbssid.len ≤ start.length at inside
  change sub.data + sub.len ≤ mbssid.data + mbssid.len at within
  refine ⟨⟨profile, true, some index⟩, ⟨rfl, rfl⟩, ?_⟩
  rw [trySubelement, if_neg (by omega), readU8_of_le (by omega), readU8_of_le (by omega)]
  change (if u8At start sub.data ≠ eidNonTxBssidCap ∨ u8At start (sub.data + 1) ≠ 2 then _
    else _) = _
  rw [if_neg (by omega), merged]
  change (profileIndex profile >>= _) = _
  rw [valid]
  change (readU8 start mbssid.data >>= _) = _
  rw [readU8_of_le (by omega)]
  exact if_pos same

theorem trySubelement_passes (two : 2 ≤ mbssid.len) (within : sub.after ≤ mbssid.after)
    (not : ¬ Describes start tx bss mbssid sub) (s : Search) :
    ∃ profile, trySubelement start tx bss mbssid sub s = .ok (.yield { s with profile }) := by
  obtain ⟨profile, merged⟩ := mergeProfile_returns inside within start.length
  obtain ⟨found, valid⟩ := profileIndex_returns profile
  change mbssid.data + mbssid.len ≤ start.length at inside
  change sub.data + sub.len ≤ mbssid.data + mbssid.len at within
  rw [trySubelement]
  by_cases short : sub.id ≠ 0 ∨ sub.len < 4
  · rw [if_pos short]
    exact ⟨s.profile, rfl⟩
  rw [if_neg short, readU8_of_le (by omega), readU8_of_le (by omega)]
  change ∃ profile, (if u8At start sub.data ≠ eidNonTxBssidCap ∨
    u8At start (sub.data + 1) ≠ 2 then _ else _) = Except.ok _
  by_cases other : u8At start sub.data ≠ eidNonTxBssidCap ∨ u8At start (sub.data + 1) ≠ 2
  · rw [if_pos other]
    exact ⟨s.profile, rfl⟩
  rw [if_neg other, merged]
  change ∃ profile', (profileIndex profile >>= _) = Except.ok _
  rw [valid]
  cases found with
  | none => exact ⟨profile, rfl⟩
  | some pair =>
      obtain ⟨index, value⟩ := pair
      have different : ¬ genNewBssid tx (u8At start mbssid.data) value = bss := fun same =>
        not ⟨by omega, profile, index, value, merged, valid, same⟩
      change ∃ profile', (readU8 start mbssid.data >>= _) = Except.ok _
      rw [readU8_of_le (by omega)]
      exact ⟨profile, if_neg different⟩

theorem visit_subelements (two : 2 ≤ mbssid.len) (s : Search) :
    ∃ last s', forEachElement start mbssid.after (trySubelement start tx bss mbssid)
        (mbssid.data + 1) s = .ok (last, s') ∧
      ((∃ sub ∈ elements start mbssid.after (mbssid.data + 1),
        Describes start tx bss mbssid sub) → s'.Found) ∧
      ((¬ ∃ sub ∈ elements start mbssid.after (mbssid.data + 1),
        Describes start tx bss mbssid sub) → s.NotFound → s'.NotFound) ∧
      (s.Found → s'.Found) := by
  obtain ⟨s', visited, finds, not, stays⟩ := @visit_finds _ _ s
    (trySubelement start tx bss mbssid) (elements start mbssid.after (mbssid.data + 1))
    (Describes start tx bss mbssid) Search.Found Search.NotFound
    (fun sub listed describes s => by
      obtain ⟨s', found, leaves⟩ :=
        trySubelement_finds inside two (mem_elements listed).2.1 describes s
      exact ⟨s', found, .inr leaves⟩)
    (fun sub listed not s => by
      obtain ⟨profile, goesOn⟩ := trySubelement_passes inside two (mem_elements listed).2.1 not s
      exact ⟨_, goesOn, id, id⟩)
  obtain ⟨last, result⟩ := forEachElement_of_visit inside visited
  exact ⟨last, s', result, finds, not, stays⟩

theorem tryElement_finds (holds : Holds start tx bss mbssid) (s : Search) :
    ∃ s', Search.Found s' ∧ tryElement start tx bss mbssid s = .ok (.yield s') := by
  obtain ⟨⟨id, two⟩, described⟩ := holds
  obtain ⟨last, s', result, finds, -⟩ := @visit_subelements start tx bss mbssid inside two s
  refine ⟨s', finds described, ?_⟩
  rw [tryElement, if_neg (by omega), result]
  rfl

theorem tryElement_passes (not : ¬ Holds start tx bss mbssid) (s : Search) :
    ∃ s', tryElement start tx bss mbssid s = .ok (.yield s') ∧ (s.Found → s'.Found) ∧
      (s.NotFound → s'.NotFound) := by
  by_cases other : mbssid.id ≠ eidMultipleBssid ∨ mbssid.len < 2
  · refine ⟨s, ?_, id, id⟩
    rw [tryElement, if_pos other]
    rfl
  · have nowhere : ¬ ∃ sub ∈ elements start mbssid.after (mbssid.data + 1),
        Describes start tx bss mbssid sub := fun described => not ⟨by omega, described⟩
    obtain ⟨last, s', result, -, passes, stays⟩ :=
      @visit_subelements start tx bss mbssid inside (by omega) s
    refine ⟨s', ?_, stays, passes nowhere⟩
    rw [tryElement, if_neg other, result]
    rfl

end Search

/-- The frame describes the network that is asked for, and there is memory for its profile. -/
def Described (call : Call) : Prop :=
  call.allocated = true ∧ ∃ tx bss, call.transmitterBssid = some tx ∧ call.bssBssid = some bss ∧
    ∃ mbssid ∈ elementsOf call.start, Holds call.start tx bss mbssid

variable {call : Call}

theorem findBssidProfile_spec (start : List UInt8) (tx bss : BitVec 48) :
    ∃ s, findBssidProfile start (some tx) (some bss) = .ok s ∧
      ((∃ mbssid ∈ elementsOf start, Holds start tx bss mbssid) → s.Found) ∧
      ((¬ ∃ mbssid ∈ elementsOf start, Holds start tx bss mbssid) → s.NotFound) := by
  obtain ⟨s', visited, finds, not, -⟩ := @visit_finds _ _ ⟨[], false, none⟩
    (tryElement start tx bss) (elementsOf start) (Holds start tx bss) Search.Found Search.NotFound
    (fun mbssid listed holds s => by
      obtain ⟨s', found, goesOn⟩ := tryElement_finds (inside_of_mem listed) holds s
      exact ⟨s', found, .inl goesOn⟩)
    (fun mbssid listed not s => tryElement_passes (inside_of_mem listed) not s)
  obtain ⟨last, result⟩ := forEachElement_of_visit (Nat.le_refl _) visited
  refine ⟨s', ?_, finds, fun nowhere => not nowhere ⟨rfl, rfl⟩⟩
  rw [findBssidProfile, result]
  rfl

theorem searchProfile_of_described (described : Described call) :
    ∃ s, searchProfile call = .ok s ∧ s.Found := by
  obtain ⟨allocated, tx, bss, transmitter, network, holds⟩ := described
  obtain ⟨s, result, finds, -⟩ := findBssidProfile_spec call.start tx bss
  rw [searchProfile, if_pos allocated, transmitter, network]
  exact ⟨s, result, finds holds⟩

theorem searchProfile_of_not_described (not : ¬ Described call) :
    ∃ s, searchProfile call = .ok s ∧ s.NotFound := by
  rw [searchProfile]
  by_cases allocated : call.allocated = true
  · rw [if_pos allocated]
    cases transmitter : call.transmitterBssid with
    | none => exact ⟨_, rfl, rfl, rfl⟩
    | some tx =>
        cases network : call.bssBssid with
        | none => exact ⟨_, rfl, rfl, rfl⟩
        | some bss =>
            obtain ⟨s, result, -, misses⟩ := findBssidProfile_spec call.start tx bss
            exact ⟨s, result, misses fun holds =>
              not ⟨allocated, tx, bss, transmitter, network, holds⟩⟩
  · rw [if_neg allocated]
    exact ⟨_, rfl, rfl, rfl⟩

/-! ## The DTIM fields -/

section Dtim

variable {start profile : List UInt8} {elems : Elems}

theorem SamePtrs.trans {a b c : Elems} (first : SamePtrs a b) (second : SamePtrs b c) :
    SamePtrs a c := ⟨second.1.trans first.1, second.2.trans first.2⟩

theorem dtimOfTim_same : Yields (SamePtrs elems) (dtimOfTim start profile elems) := by
  rw [dtimOfTim]
  split
  · exact yields_ok ⟨rfl, rfl⟩
  · refine yields_ite (yields_ok ⟨rfl, rfl⟩) ?_
    exact yields_bind fun _ => yields_bind fun _ => yields_ok ⟨rfl, rfl⟩

theorem dtimOfIndex_same : Yields (SamePtrs elems) (dtimOfIndex start profile elems) := by
  have period : ∀ index elems, Yields (SamePtrs elems) (periodOfIndex start profile index elems) :=
    fun _ _ => yields_ite (yields_bind fun _ => yields_ok ⟨rfl, rfl⟩) (yields_ok ⟨rfl, rfl⟩)
  have count : ∀ index elems, Yields (SamePtrs elems) (countOfIndex start profile index elems) :=
    fun _ _ => yields_ite (yields_bind fun _ => yields_ok ⟨rfl, rfl⟩) (yields_ok ⟨rfl, rfl⟩)
  rw [dtimOfIndex]
  split
  · exact yields_ok ⟨rfl, rfl⟩
  · refine yields_bind_of fun elems' first => ?_
    exact fun elems'' second => (period _ _ _ first).trans (count _ _ _ second)

theorem dtim_same {crc : Nat} :
    Yields (fun r : Elems × Nat => SamePtrs elems r.1) (do
      let elems ← dtimOfTim start profile elems
      let elems ← dtimOfIndex start profile elems
      return (elems, crc)) :=
  yields_bind_of fun _ tim => yields_bind_of fun _ index =>
    yields_ok ((dtimOfTim_same _ tim).trans (dtimOfIndex_same _ index))

/-- The two bytes that are read are those of the TIM element in the frame. -/
theorem dtimOfTim_returns (tim : InFrame start elems .tim) :
    Returns (dtimOfTim start profile elems) := by
  rw [dtimOfTim]
  split
  · exact returns_ok _
  · next p points =>
      obtain ⟨mem, room⟩ := tim p points
      have four : 4 ≤ elems.promised .tim := Nat.le_max_left _ _
      have read : ∀ k < 4, Returns (readPtr start profile p k) := by
        intro k small
        rw [readPtr, mem]
        exact ⟨_, readU8_of_le (by omega)⟩
      obtain ⟨dtimPeriod, second⟩ := read 1 (by decide)
      obtain ⟨dtimCount, first⟩ := read 0 (by decide)
      exact returns_ite (fun _ => returns_ok _) fun _ =>
        returns_bind second (returns_bind first (returns_ok _))

end Dtim

/-! ## The function -/

theorem parse_bssidIndex {pass : Pass} {elems : Elems} {crc : Nat} :
    Yields (fun r => r.1.ptr .bssidIndex = elems.ptr .bssidIndex) (pass.parse elems crc) := by
  rintro ⟨elems', crc'⟩ parsed
  obtain ⟨s, visited, same⟩ := visit_of_parse parsed
  exact (congrFun same.1 _).trans (visit_bssidIndex visited)

theorem parseProfile_bssidIndex {profile : List UInt8} {elems : Elems} :
    Yields (fun elems' : Elems => elems'.ptr .bssidIndex = elems.ptr .bssidIndex)
      (parseProfile call profile elems) := by
  rw [parseProfile]
  refine yields_ite (yields_ok rfl) (yields_bind_of fun pair parsed => ?_)
  exact yields_ok (parse_bssidIndex pair parsed)

/-- Where a profile was found, the index of the network points into its copy. -/
theorem bssidIndex_of_found {s : Search} (search : searchProfile call = .ok s) (found : s.Found) :
    Yields (fun r => ∃ p, r.1.ptr .bssidIndex = some p ∧ p.mem = .profile)
      (parseElemsCrc call) := by
  obtain ⟨index, is⟩ := Option.isSome_iff_exists.mp found.2
  have start : (s.elems call.start.length).ptr .bssidIndex = some ⟨.profile, index.data⟩ := by
    rw [Search.elems, is]
    rfl
  rw [parseElemsCrc, search]
  change Yields _ (findExtElem s.result _ 0 s.result.length >>= _)
  refine yields_bind fun nonInherit => yields_bind_of fun first parsed => ?_
  obtain ⟨elems, crc⟩ := first
  refine yields_bind_of fun second overridden => ?_
  refine yields_bind_of fun third sameTim => yields_bind_of fun fourth sameIndex => yields_ok ?_
  refine ⟨⟨.profile, index.data⟩, ?_, rfl⟩
  change fourth.ptr .bssidIndex = _
  rw [(dtimOfIndex_same _ sameIndex).1, (dtimOfTim_same _ sameTim).1,
    parseProfile_bssidIndex _ overridden, ← start]
  exact parse_bssidIndex _ parsed

/-- Every pointer that the function stores is to memory that is still there when it returns, the
frame, and to as many bytes of it as its length or its type promises. -/
def PointIntoFrame (call : Call) : Prop :=
  ∃ elems crc, parseElemsCrc call = .ok (elems, crc) ∧ ∀ field, InFrame call.start elems field

theorem parseElemsCrc_of_notFound {s : Search} (search : searchProfile call = .ok s)
    (notFound : s.NotFound) :
    parseElemsCrc call = (do
      let (elems, crc) ← (framePass call [] none).parse (.initial call.start.length) call.crc
      let elems ← dtimOfTim call.start [] elems
      let elems ← dtimOfIndex call.start [] elems
      return (elems, crc)) := by
  have profile : s.result = [] := by
    rw [Search.result, notFound.1]
    rfl
  have elems : s.elems call.start.length = .initial call.start.length := by
    rw [Search.elems, notFound.2]
  rw [parseElemsCrc, search]
  change (findExtElem s.result _ 0 s.result.length >>= _) = _
  rw [profile, elems]
  change (findExtElem [] _ 0 0 >>= _) = _
  rw [findExtElem_nil]
  rfl

theorem inFrame_congr {start : List UInt8} {elems elems' : Elems} (same : SamePtrs elems elems')
    (field : Field) : InFrame start elems' field ↔ InFrame start elems field := by
  rw [InFrame, InFrame, Elems.promised, Elems.promised, same.1, same.2]

/-- The function stays inside its buffers and leaves only good pointers behind exactly if the
frame describes no network that was asked for, every extension element has the byte that says what
it is, and the two elements whose length is not checked far enough are not cut off. -/
theorem pointIntoFrame_iff (call : Call) :
    PointIntoFrame call ↔ ¬ Described call ∧ WellPlaced call.start := by
  by_cases described : Described call
  · obtain ⟨s, search, found⟩ := searchProfile_of_described described
    refine ⟨?_, fun both => absurd described both.1⟩
    rintro ⟨elems, crc, returned, points⟩
    obtain ⟨p, stored, profile⟩ := bssidIndex_of_found search found _ returned
    rw [(points .bssidIndex p stored).1] at profile
    cases profile
  obtain ⟨s, search, notFound⟩ := searchProfile_of_not_described described
  rw [and_iff_right described, PointIntoFrame, parseElemsCrc_of_notFound search notFound]
  constructor
  · rintro ⟨elems, crc, returned, points⟩
    cases parsed : (framePass call [] none).parse (.initial call.start.length) call.crc with
    | error stopped =>
        rw [parsed] at returned
        cases returned
    | ok pair =>
        obtain ⟨first, crc'⟩ := pair
        rw [parsed] at returned
        have same : SamePtrs first elems := dtim_same _ returned
        obtain ⟨s', visited, same'⟩ := visit_of_parse parsed
        have good : ∀ field, InFrame call.start s'.elems field := fun field =>
          (inFrame_congr same' field).mp ((inFrame_congr same field).mp (points field))
        have ends := (inFrame_iff rfl rfl visited).mp good
        exact ⟨(visit_returns_iff rfl).mp ⟨s', visited⟩, ends.1, ends.2⟩
  · intro placed
    obtain ⟨s', visited⟩ := (@visit_returns_iff (framePass call [] none)
      ⟨.initial call.start.length, [], call.crc⟩ rfl).mpr placed.extension
    have good := (inFrame_iff rfl rfl visited).mpr ⟨placed.heCap, placed.uora⟩
    obtain ⟨first, crc', parsed, same⟩ := parse_of_visit visited
    have points : ∀ field, InFrame call.start first field := fun field =>
      (inFrame_congr same field).mpr (good field)
    obtain ⟨second, tim⟩ := @dtimOfTim_returns call.start [] first (points .tim)
    have same2 := dtimOfTim_same _ tim
    have noIndex : second.ptr .bssidIndex = none := by
      rw [same2.1, same.1, visit_bssidIndex visited]
      rfl
    have index : dtimOfIndex call.start [] second = .ok second := by
      rw [dtimOfIndex, noIndex]
      rfl
    refine ⟨second, crc', ?_, fun field => (inFrame_congr same2 field).mpr (points field)⟩
    rw [parsed]
    change (dtimOfTim call.start [] first >>= _) = _
    rw [tim]
    change (dtimOfIndex call.start [] second >>= _) = _
    rw [index]
    rfl

/-- A frame that ends with an empty extension element. -/
def emptyExtension : Call := ⟨fun crc _ => crc, [0, 1, 0x61, 255, 0], false, 0, 0, none, none, true⟩

/-- The function reads behind the end of this frame. -/
theorem not_pointIntoFrame : ¬ PointIntoFrame emptyExtension := by
  rintro ⟨elems, crc, returned, -⟩
  have stops : (parseElemsCrc emptyExtension).isOk = false := by decide +kernel
  rw [returned] at stops
  cases stops

end Iwlwifi.ParseElems
