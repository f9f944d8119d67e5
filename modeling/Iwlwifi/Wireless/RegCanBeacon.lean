import Iwlwifi.Wireless.DfsState

/-!
# Beaconing on a channel definition

`cfg80211_reg_can_beacon` chooses the prohibited flags once for all channels.  Where the channel
definition requires DFS and every radar channel of it is available, only disabled channels are
prohibited: the initiation of radiation is then allowed on the channels without radar too.  The
loops count in 32 bits, so a segment whose first or last channel is out of their range has no
channel that is looked at.
-/

namespace Iwlwifi

open Lib

/-! ## The channels of a segment -/

/-- The centers of the segments. -/
def ChanDef.segments (chandef : ChanDef) : List UInt32 :=
  chandef.centerFreq1 :: if chandef.centerFreq2 = 0 then [] else [chandef.centerFreq2]

/-- The spectrum of a segment, in which a narrow channel takes a whole 20 MHz channel. -/
def ChanDef.spectrum (chandef : ChanDef) : Nat := max 20 chandef.getWidth.toNat

/-- A 20 MHz channel with this center frequency lies inside a segment, channel by channel from its
lower edge. -/
def ChanDef.Inside (chandef : ChanDef) (center : UInt32) (freq : Int) : Prop :=
  ∃ k : Nat, 20 * k + 20 ≤ chandef.spectrum ∧
    freq = center.toNat - (chandef.spectrum / 2 : Nat) + 10 + 20 * k

/-- The loops over a segment do not wrap around. -/
def ChanDef.NoWrap (chandef : ChanDef) (center : UInt32) : Prop :=
  chandef.spectrum / 2 ≤ center.toNat + 10 ∧ center.toNat + chandef.spectrum / 2 + 10 < 2 ^ 32

instance (chandef : ChanDef) (center : UInt32) : Decidable (chandef.NoWrap center) :=
  inferInstanceAs (Decidable (_ ∧ _))

/-- The channel at a frequency. -/
def Wiphy.HasChannel (wiphy : Wiphy) (freq : Int) (c : Channel) : Prop :=
  ∃ at32 : UInt32, (at32.toNat : Int) = freq ∧ wiphy.getChannel at32 = some c

/-- A radar channel that may be used. -/
def Wiphy.DfsDone (wiphy : Wiphy) (c : Channel) : Prop :=
  c.dfsState = .available ∨ c.dfsState = .usable ∧ wiphy.dfsOffload = true

/-- A segment of the channel definition has a radar channel. -/
def Wiphy.RadarInside (wiphy : Wiphy) (chandef : ChanDef) : Prop :=
  ∃ center ∈ chandef.segments, ∃ freq, chandef.Inside center freq ∧
    ∃ c, wiphy.HasChannel freq c ∧ c.has ieee80211ChanRadar = true

/-- The walk of the readers over a segment. -/
def ChanDef.walkOf (chandef : ChanDef) (fuel : Nat) (center : UInt32) : Option (List UInt32) :=
  walk 20 (cfg80211GetEndFreq center chandef.getWidth) fuel
    (cfg80211GetStartFreq center chandef.getWidth)

section Segment

variable {chandef : ChanDef} {fuel : Nat} {center : UInt32} {values : List UInt32}

theorem mem_segments :
    center ∈ chandef.segments ↔ center = chandef.centerFreq1 ∨
      chandef.centerFreq2 ≠ 0 ∧ center = chandef.centerFreq2 := by
  rw [ChanDef.segments, List.mem_cons]
  split
  · next absent => simp [absent]
  · next segment => simp [segment]

theorem getWidth_cases (chandef : ChanDef) :
    chandef.getWidth.toNat ≤ 20 ∨ 40 ≤ chandef.getWidth.toNat ∧ 40 ∣ chandef.getWidth.toNat := by
  rw [ChanDef.getWidth]
  cases chandef.width <;> decide

theorem bounds_of_noWrap (noWrap : chandef.NoWrap center) :
    (cfg80211GetStartFreq center chandef.getWidth).toNat + chandef.spectrum / 2 =
        center.toNat + 10 ∧
      (cfg80211GetEndFreq center chandef.getWidth).toNat + 10 =
        center.toNat + chandef.spectrum / 2 ∧
      20 ∣ chandef.spectrum := by
  obtain ⟨low, high⟩ := noWrap
  have twenty : (20 : UInt32).toNat = 20 := rfl
  have ten : (10 : UInt32).toNat = 10 := rfl
  have half : (chandef.getWidth / 2).toNat = chandef.getWidth.toNat / 2 := UInt32.toNat_div ..
  rw [cfg80211GetStartFreq, cfg80211GetEndFreq]
  rcases getWidth_cases chandef with narrow | ⟨wide, whole⟩
  · have one : chandef.spectrum = 20 := by rw [ChanDef.spectrum]; omega
    have small : chandef.getWidth ≤ 20 := UInt32.le_iff_toNat_le.mpr narrow
    rw [if_pos small, if_pos small, one]
    omega
  · have more : chandef.spectrum = chandef.getWidth.toNat := by rw [ChanDef.spectrum]; omega
    have large : ¬chandef.getWidth ≤ 20 := by
      rw [UInt32.le_iff_toNat_le]
      omega
    rw [if_neg large, if_neg large, UInt32.toNat_add, UInt32.toNat_sub, UInt32.toNat_sub,
      UInt32.toNat_add, half, ten]
    omega

/-- Without a wrap the readers walk the channels of the segment. -/
theorem mem_walkOf_iff (noWrap : chandef.NoWrap center)
    (ends : chandef.walkOf fuel center = some values) {freq : UInt32} :
    freq ∈ values ↔ chandef.Inside center freq.toNat := by
  obtain ⟨first, last, whole⟩ := bounds_of_noWrap noWrap
  have twenty : (20 : UInt32).toNat = 20 := rfl
  have wide : 20 ≤ chandef.spectrum := Nat.le_max_left _ _
  rw [ChanDef.walkOf] at ends
  rw [mem_walk_iff ends (by decide) (by have := noWrap.2; omega), twenty]
  constructor
  · rintro ⟨k, here, le⟩
    have le := UInt32.le_iff_toNat_le.mp le
    exact ⟨k, by omega, by omega⟩
  · rintro ⟨k, le, here⟩
    have low := noWrap.1
    exact ⟨k, by omega, by rw [UInt32.le_iff_toNat_le]; omega⟩

/-- Without a wrap the channels of the segment have frequencies. -/
theorem inside_toNat (noWrap : chandef.NoWrap center) {freq : Int}
    (inside : chandef.Inside center freq) : ∃ at32 : UInt32, (at32.toNat : Int) = freq := by
  obtain ⟨k, le, here⟩ := inside
  obtain ⟨low, high⟩ := noWrap
  refine ⟨UInt32.ofNat freq.toNat, ?_⟩
  rw [UInt32.toNat_ofNat_of_lt' (by rw [UInt32.size]; omega)]
  omega

end Segment

/-! ## What the readers have seen -/

section Readers

variable {wiphy : Wiphy} {chandef : ChanDef} {fuel : Nat} {center flags : UInt32}
  {visited : List UInt32}

/-- A reader with a result that it never gives up with has gone on at every channel. -/
theorem forChannels_goesOn {β : Type} {missing acc result : β} {body : Channel → β → Except β β}
    (given : result ≠ missing) (never : ∀ c acc, body c acc ≠ .error result)
    (run : forChannels wiphy missing body fuel center chandef.getWidth acc =
      some (visited, result)) :
    ∃ values, chandef.walkOf fuel center = some values ∧ ∀ freq ∈ values, ∃ c acc acc',
      wiphy.getChannel freq = some c ∧ body c acc = .ok acc' := by
  obtain ⟨values, ends, goesOn⟩ := walk_of_result (fun freq acc left => by
    rw [channelAt] at left
    split at left
    · exact given (Except.error.inj left).symm
    · next c _ => exact never c acc left) run
  refine ⟨values, ends, fun freq member => ?_⟩
  obtain ⟨acc, acc', turn⟩ := goesOn freq member
  rw [channelAt] at turn
  split at turn
  · cases turn
  · next c found => exact ⟨c, acc, acc', found, turn⟩

theorem secondaryChansOk_true
    (ok : cfg80211SecondaryChansOk fuel wiphy center chandef.getWidth flags = some true) :
    ∃ values, chandef.walkOf fuel center = some values ∧ ∀ freq ∈ values, ∃ c,
      wiphy.getChannel freq = some c ∧ c.has flags = false := by
  obtain ⟨⟨visited, result⟩, run, rfl⟩ := Option.map_eq_some_iff.mp ok
  obtain ⟨values, ends, goesOn⟩ := forChannels_goesOn (by decide) (fun c acc left => by
    rw [secondaryChanOk] at left
    split at left <;> cases left) run
  refine ⟨values, ends, fun freq member => ?_⟩
  obtain ⟨c, acc, acc', found, turn⟩ := goesOn freq member
  rw [secondaryChanOk] at turn
  split at turn
  · cases turn
  · next free => exact ⟨c, found, Bool.not_eq_true _ ▸ free⟩

theorem getChansDfsAvailable_true
    (run : getChansDfsAvailable fuel wiphy center chandef.getWidth = some (visited, true)) :
    ∃ values, chandef.walkOf fuel center = some values ∧ ∀ freq ∈ values, ∃ c,
      wiphy.getChannel freq = some c ∧ (c.has ieee80211ChanRadar = true → wiphy.DfsDone c) := by
  obtain ⟨values, ends, goesOn⟩ := forChannels_goesOn (by decide) (fun c acc left => by
    rw [dfsAvailableAt] at left
    split at left
    · cases left
    split at left <;> cases left) run
  refine ⟨values, ends, fun freq member => ?_⟩
  obtain ⟨c, acc, acc', found, turn⟩ := goesOn freq member
  refine ⟨c, found, fun radar => ?_⟩
  rw [dfsAvailableAt] at turn
  split at turn
  · cases turn
  split at turn
  · cases turn
  · next done =>
      by_contra pending
      apply done
      rw [Wiphy.DfsDone] at pending
      grind

end Readers

/-! ## A usable channel definition -/

theorem Channel.has_eq_false_of_or {c : Channel} {mask more : UInt32}
    (free : c.has (mask ||| more) = false) : c.has mask = false := by
  by_contra has
  rw [Channel.has_or (Bool.not_eq_false _ ▸ has)] at free
  cases free

/-- Every channel that the loops over the segments come to is found and has a property. -/
def Wiphy.Walked (wiphy : Wiphy) (chandef : ChanDef) (fuel : Nat) (P : Channel → Prop) : Prop :=
  ∀ center ∈ chandef.segments, ∃ values, chandef.walkOf fuel center = some values ∧
    ∀ freq ∈ values, ∃ c, wiphy.getChannel freq = some c ∧ P c

section Usable

variable {wiphy : Wiphy} {chandef : ChanDef} {fuel : Nat} {flags : UInt32}

theorem chandefUsable_true (usable : cfg80211ChandefUsable fuel wiphy chandef flags = some true) :
    cfg80211ChandefValid chandef = true ∧
      wiphy.Walked chandef fuel fun c => c.has flags = false := by
  rw [cfg80211ChandefUsable] at usable
  split at usable
  · cases usable
  next valid =>
  split at usable
  · cases usable
  next wider someFlags =>
  dsimp only at usable
  obtain ⟨chan, -, someFlags⟩ := Option.bind_eq_some_iff.mp someFlags
  generalize ofdm : (if 20 < chandef.getWidth ∨ chandef.getWidth < 20
    then wider ||| ieee80211ChanNoOfdm else wider) = all at usable
  have less : ∀ c : Channel, c.has all = false → c.has flags = false := by
    intro c free
    have free : c.has wider = false := by
      rw [← ofdm] at free
      split at free
      · exact Channel.has_eq_false_of_or free
      · exact free
    by_contra has
    rw [chandefUsableFlags_has someFlags (Bool.not_eq_false _ ▸ has)] at free
    cases free
  have segment : ∀ center,
      cfg80211SecondaryChansOk fuel wiphy center chandef.getWidth all = some true →
      ∃ values, chandef.walkOf fuel center = some values ∧
        ∀ freq ∈ values, ∃ c, wiphy.getChannel freq = some c ∧ c.has flags = false := by
    intro center ok
    obtain ⟨values, ends, free⟩ := secondaryChansOk_true ok
    refine ⟨values, ends, fun freq member => ?_⟩
    obtain ⟨c, found, free⟩ := free freq member
    exact ⟨c, found, less c free⟩
  refine ⟨by simpa using valid, fun center member => ?_⟩
  obtain ⟨ok, ok1, usable⟩ := Option.bind_eq_some_iff.mp usable
  cases ok with
  | false => cases usable
  | true =>
      rcases mem_segments.mp member with rfl | ⟨two, rfl⟩
      · exact segment _ ok1
      · rw [if_neg (by decide), if_neg two] at usable
        exact segment _ usable

theorem dfsAvailable_true {visited : List UInt32}
    (available : cfg80211ChandefDfsAvailable fuel wiphy chandef = some (visited, true)) :
    wiphy.Walked chandef fuel fun c => c.has ieee80211ChanRadar = true → wiphy.DfsDone c := by
  rw [cfg80211ChandefDfsAvailable] at available
  split at available
  · cases available
  next valid =>
  have valid : cfg80211ChandefValid chandef = true := by simpa using valid
  obtain ⟨⟨visited1, r⟩, run1, available⟩ := Option.bind_eq_some_iff.mp available
  cases r with
  | false => cases available
  | true =>
      intro center member
      rcases mem_segments.mp member with rfl | ⟨two, rfl⟩
      · exact getChansDfsAvailable_true run1
      · simp only [Bool.not_true, Bool.false_eq_true, if_false,
          if_pos ((centerFreq2_of_valid valid).mpr two)] at available
        obtain ⟨⟨visited2, r⟩, run2, same⟩ := Option.map_eq_some_iff.mp available
        cases same
        exact getChansDfsAvailable_true run2

/-- The flags that are prohibited, whatever they are, leave nothing disabled and, unless DFS is
required and done, neither radar nor a channel without initiation of radiation. -/
theorem regCanBeacon_true {iftype : Nl80211Iftype}
    (can : cfg80211RegCanBeacon fuel wiphy chandef iftype = some true) :
    cfg80211ChandefValid chandef = true ∧
      (wiphy.Walked chandef fuel (fun c => c.has (ieee80211ChanDisabled ||| ieee80211ChanRadar |||
          ieee80211ChanNoIr) = false) ∨
        wiphy.Walked chandef fuel (fun c => c.has ieee80211ChanDisabled = false) ∧
          wiphy.Walked chandef fuel
            (fun c => c.has ieee80211ChanRadar = true → wiphy.DfsDone c) ∧
          ∃ visited required, 0 < required ∧
            cfg80211ChandefDfsRequired fuel wiphy chandef iftype = some (visited, required)) := by
  obtain ⟨⟨visited, required⟩, runRequired, can⟩ := Option.bind_eq_some_iff.mp can
  dsimp only at can
  split at can
  · next positive =>
      obtain ⟨⟨looked, available⟩, runAvailable, can⟩ := Option.bind_eq_some_iff.mp can
      cases available with
      | false =>
          obtain ⟨valid, free⟩ := chandefUsable_true can
          exact ⟨valid, Or.inl free⟩
      | true =>
          obtain ⟨valid, free⟩ := chandefUsable_true can
          exact ⟨valid, Or.inr ⟨free, dfsAvailable_true runAvailable, visited, required, positive,
            runRequired⟩⟩
  · obtain ⟨valid, free⟩ := chandefUsable_true can
    exact ⟨valid, Or.inl free⟩

end Usable

/-! ## Cleared spectrum -/

section Cleared

variable {wiphy : Wiphy} {chandef : ChanDef} {fuel : Nat}

/-- Without a wrap, what holds of the channels that are walked holds of those in the segments. -/
theorem Wiphy.Walked.inside {P : Channel → Prop} (walked : wiphy.Walked chandef fuel P)
    {center : UInt32} (member : center ∈ chandef.segments) (noWrap : chandef.NoWrap center)
    {freq : Int} (inside : chandef.Inside center freq) :
    ∃ c, wiphy.HasChannel freq c ∧ P c := by
  obtain ⟨values, ends, all⟩ := walked center member
  obtain ⟨at32, rfl⟩ := inside_toNat noWrap inside
  obtain ⟨c, found, holds⟩ := all at32 ((mem_walkOf_iff noWrap ends).mpr inside)
  exact ⟨c, ⟨at32, rfl, found⟩, holds⟩

theorem Wiphy.HasChannel.unique {freq : Int} {c other : Channel} (here : wiphy.HasChannel freq c)
    (there : wiphy.HasChannel freq other) : c = other := by
  obtain ⟨at32, same, found⟩ := here
  obtain ⟨at32', same', found'⟩ := there
  obtain rfl : at32 = at32' := UInt32.toNat_inj.mp (by omega)
  exact Option.some.inj (found.symm.trans found')

/-- Without a wrap, only a channel definition with a radar channel requires DFS. -/
theorem radarInside_of_dfsRequired {iftype : Nl80211Iftype} {visited : List UInt32} {required : Int}
    {P : Channel → Prop} (valid : cfg80211ChandefValid chandef = true)
    (walked : wiphy.Walked chandef fuel P)
    (noWrap : ∀ center ∈ chandef.segments, chandef.NoWrap center)
    (run : cfg80211ChandefDfsRequired fuel wiphy chandef iftype = some (visited, required))
    (positive : 0 < required) : wiphy.RadarInside chandef := by
  have ofValues : ∀ center ∈ chandef.segments, ∀ values,
      chandef.walkOf fuel center = some values → wiphy.HasRadar values →
      wiphy.RadarInside chandef := by
    rintro center member values ends ⟨freq, visits, c, found, radar⟩
    exact ⟨center, member, freq.toNat, (mem_walkOf_iff (noWrap center member) ends).mp visits, c,
      ⟨freq, rfl, found⟩, radar⟩
  have one : chandef.centerFreq1 ∈ chandef.segments := mem_segments.mpr (Or.inl rfl)
  obtain ⟨first, walk1, -⟩ := walked _ one
  by_cases two : chandef.centerFreq2 = 0
  · have walks : ReadersWalk fuel chandef first [] := ⟨walk1, fun segment => absurd two segment⟩
    rcases radar_of_dfsRequired valid walks run positive with radar | ⟨segment, -⟩
    · exact ofValues _ one first walk1 radar
    · exact absurd two segment
  · have member : chandef.centerFreq2 ∈ chandef.segments := mem_segments.mpr (Or.inr ⟨two, rfl⟩)
    obtain ⟨second, walk2, -⟩ := walked _ member
    have walks : ReadersWalk fuel chandef first second := ⟨walk1, fun _ => walk2⟩
    rcases radar_of_dfsRequired valid walks run positive with radar | ⟨-, radar⟩
    · exact ofValues _ one first walk1 radar
    · exact ofValues _ member second walk2 radar

end Cleared

/-- Beaconing is on cleared spectrum only: every 20 MHz channel of the segments exists and is not
disabled, a radar channel may be used, and the others allow the initiation of radiation. -/
def Wiphy.BeaconCleared (wiphy : Wiphy) (chandef : ChanDef) : Prop :=
  ∀ center ∈ chandef.segments, ∀ freq, chandef.Inside center freq →
    ∃ c, wiphy.HasChannel freq c ∧ c.has ieee80211ChanDisabled = false ∧
      (c.has ieee80211ChanRadar = true → wiphy.DfsDone c) ∧
      (c.has ieee80211ChanRadar = false → c.has ieee80211ChanNoIr = false)

/-- Where beaconing is allowed and the loops do not wrap around, every 20 MHz channel exists and
is not disabled, and a radar channel may be used.  A channel without radar allows the initiation
of radiation too, unless another channel of the definition has radar. -/
theorem regCanBeacon_cleared (fuel : Nat) (wiphy : Wiphy) (chandef : ChanDef)
    (iftype : Nl80211Iftype) (noWrap : ∀ center ∈ chandef.segments, chandef.NoWrap center)
    (can : cfg80211RegCanBeacon fuel wiphy chandef iftype = some true) :
    (∀ center ∈ chandef.segments, ∀ freq, chandef.Inside center freq →
      ∃ c, wiphy.HasChannel freq c ∧ c.has ieee80211ChanDisabled = false ∧
        (c.has ieee80211ChanRadar = true → wiphy.DfsDone c)) ∧
    (¬wiphy.RadarInside chandef → wiphy.BeaconCleared chandef) := by
  obtain ⟨valid, free | ⟨enabled, done, visited, required, positive, run⟩⟩ := regCanBeacon_true can
  · have cleared : wiphy.BeaconCleared chandef := by
      intro center member freq inside
      obtain ⟨c, found, free⟩ := free.inside member (noWrap center member) inside
      have noIr := free
      rw [UInt32.or_comm] at noIr
      have prohibited := Channel.has_eq_false_of_or free
      have radar := prohibited
      rw [UInt32.or_comm] at radar
      have radar := Channel.has_eq_false_of_or radar
      refine ⟨c, found, Channel.has_eq_false_of_or prohibited, fun isRadar => ?_, fun _ =>
        Channel.has_eq_false_of_or noIr⟩
      rw [radar] at isRadar
      cases isRadar
    refine ⟨fun center member freq inside => ?_, fun _ => cleared⟩
    obtain ⟨c, found, enabled, radar, -⟩ := cleared center member freq inside
    exact ⟨c, found, enabled, radar⟩
  · refine ⟨fun center member freq inside => ?_, fun noRadar => ?_⟩
    · obtain ⟨c, found, enabled⟩ := enabled.inside member (noWrap center member) inside
      obtain ⟨other, found', done⟩ := done.inside member (noWrap center member) inside
      obtain rfl := found.unique found'
      exact ⟨c, found, enabled, done⟩
    · exact absurd (radarInside_of_dfsRequired valid enabled noWrap run positive) noRadar

/-- A 160 MHz channel definition: channels 36 to 48 without radar, with some flags, and channels
52 to 64 with an available radar channel each. -/
def mixedWiphy (flags : UInt32) : Wiphy where
  channels := [5180, 5200, 5220, 5240].map (fun freq => ⟨1, freq, flags, .usable, 0, 0⟩) ++
    [5260, 5280, 5300, 5320].map fun freq =>
      ⟨1, freq, ieee80211ChanRadar ||| ieee80211ChanNoIr, .available, 0, 60000⟩
  caps := fun _ => ⟨true, 0x0002, true, 0x00000008⟩
  dfsOffload := false

def mixedChandef : ChanDef := ⟨some ⟨1, 5180, 0, .usable, 0, 0⟩, .w160, 5250, 0⟩

theorem regCanBeacon_cleared_mixed :
    (∀ center ∈ mixedChandef.segments, ∀ freq, mixedChandef.Inside center freq →
      ∃ c, (mixedWiphy 0).HasChannel freq c ∧ c.has ieee80211ChanDisabled = false ∧
        (c.has ieee80211ChanRadar = true → (mixedWiphy 0).DfsDone c)) ∧
    (¬(mixedWiphy 0).RadarInside mixedChandef → (mixedWiphy 0).BeaconCleared mixedChandef) := by
  have noWrap : ∀ center ∈ mixedChandef.segments, mixedChandef.NoWrap center := by
    intro center member
    have only : center = 5250 := List.mem_singleton.mp member
    rw [only]
    decide
  exact regCanBeacon_cleared 9 (mixedWiphy 0) mixedChandef .ap noWrap (by decide +kernel)

/-- The second segment is around 10 MHz, its first channel below 0. -/
def wrapChandef : ChanDef := ⟨some ⟨1, 5180, 0, .usable, 0, 0⟩, .w80p80, 5210, 10⟩

/-- An access point may beacon on channels without radar that do not allow the initiation of
radiation, and on a segment without channels. -/
theorem not_beaconCleared :
    (cfg80211RegCanBeacon 9 (mixedWiphy ieee80211ChanNoIr) mixedChandef .ap = some true ∧
      ¬(mixedWiphy ieee80211ChanNoIr).BeaconCleared mixedChandef) ∧
    (cfg80211RegCanBeacon 9 (mixedWiphy 0) wrapChandef .ap = some true ∧
      ¬(mixedWiphy 0).BeaconCleared wrapChandef) := by
  refine ⟨⟨by decide +kernel, fun cleared => ?_⟩, by decide +kernel, fun cleared => ?_⟩
  · obtain ⟨c, found, -, -, plain⟩ :=
      cleared 5250 (by decide) 5180 ⟨0, by decide, by decide⟩
    have here : (mixedWiphy ieee80211ChanNoIr).HasChannel 5180
        ⟨1, 5180, ieee80211ChanNoIr, .usable, 0, 0⟩ := ⟨5180, rfl, by decide⟩
    obtain rfl := found.unique here
    have noIr := plain (by decide)
    revert noIr
    decide
  · obtain ⟨c, ⟨at32, below, -⟩, -⟩ :=
      cleared 10 (by decide) (-20) ⟨0, by decide, by decide⟩
    omega

end Iwlwifi
