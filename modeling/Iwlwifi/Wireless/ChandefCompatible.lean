import Iwlwifi.Wireless.DfsState

/-!
# Compatible channel definitions

`cfg80211_chandef_compatible` tells whether two channel definitions can share a channel context
and returns the one that the context is to have.  It compares where the primary 40 and 80 MHz
lie and then takes the larger value of the width.  A channel definition is described here by the
lowest of its 20 MHz channels and by the position of the control channel above it, from which
both primaries follow.
-/

namespace Iwlwifi.ChandefCompatible

/-! ## The function -/

/-- A `struct cfg80211_chan_def` whose `chan` is an address: channels are compared by address. -/
structure ChanDefAt (ι : Type) where
  chan : Option ι
  width : Nl80211ChanWidth
  centerFreq1 : UInt32
  centerFreq2 : UInt32
  deriving DecidableEq

/-- The values of `enum nl80211_chan_width`. -/
def widthCode : Nl80211ChanWidth → Nat
  | .w20NoHt => 0
  | .w20 => 1
  | .w40 => 2
  | .w80 => 3
  | .w80p80 => 4
  | .w160 => 5
  | .w5 => 6
  | .w10 => 7

section

variable {ι : Type} [DecidableEq ι] (heap : ι → Channel)

/-- What is found at the address. -/
def ChanDefAt.load (c : ChanDefAt ι) : ChanDef :=
  ⟨c.chan.map heap, c.width, c.centerFreq1, c.centerFreq2⟩

/-- `c->chan->center_freq` -/
def ChanDefAt.controlFreq (c : ChanDefAt ι) : UInt32 :=
  ((c.chan.map heap).map Channel.centerFreq).getD 0

/-- `cfg80211_chandef_identical` -/
def chandefIdentical (c1 c2 : ChanDefAt ι) : Bool :=
  decide (c1.chan = c2.chan) && c1.width == c2.width && c1.centerFreq1 == c2.centerFreq1 &&
    c1.centerFreq2 == c2.centerFreq2

/-- `chandef_primary_freqs`: the primary 40 and 80 MHz.  It is not called for other widths, for
which it sets neither. -/
def chandefPrimaryFreqs (c : ChanDefAt ι) : UInt32 × UInt32 :=
  match c.width with
  | .w40 => (c.centerFreq1, 0)
  | .w80 | .w80p80 =>
    let nP20 := (30 + c.controlFreq heap - c.centerFreq1) / 20
    let nP40 := nP20 / 2
    (c.centerFreq1 - 20 + 40 * nP40, c.centerFreq1)
  | .w160 =>
    let nP20 := (70 + c.controlFreq heap - c.centerFreq1) / 20
    let nP40 := nP20 / 2
    let nP80 := nP40 / 2
    (c.centerFreq1 - 60 + 40 * nP40, c.centerFreq1 - 40 + 80 * nP80)
  | _ => (0, 0)

/-- `cfg80211_chandef_compatible` -/
def chandefCompatible (c1 c2 : ChanDefAt ι) : Option (ChanDefAt ι) :=
  if chandefIdentical c1 c2 then some c1
  else if c1.chan ≠ c2.chan then none
  else if c1.width = c2.width then none
  else if c1.width = .w5 ∨ c1.width = .w10 ∨ c2.width = .w5 ∨ c2.width = .w10 then none
  else if c1.width = .w20NoHt ∨ c1.width = .w20 then some c2
  else if c2.width = .w20NoHt ∨ c2.width = .w20 then some c1
  else
    let (c1Pri40, c1Pri80) := chandefPrimaryFreqs heap c1
    let (c2Pri40, c2Pri80) := chandefPrimaryFreqs heap c2
    if c1Pri40 ≠ c2Pri40 then none
    else if c1Pri80 ≠ 0 ∧ c2Pri80 ≠ 0 ∧ c1Pri80 ≠ c2Pri80 then none
    else if widthCode c2.width < widthCode c1.width then some c1
    else some c2

/-! ## What it is for -/

/-- The centers of the 20 MHz channels of a segment. -/
def segment (center bandwidth : UInt32) : List UInt32 :=
  (List.range (bandwidth / 20).toNat).map fun k =>
    center - bandwidth / 2 + 10 + 20 * UInt32.ofNat k

/-- The centers of the 20 MHz channels of both segments. -/
def subChannels (c : ChanDefAt ι) : List UInt32 :=
  segment c.centerFreq1 (c.load heap).getWidth ++
    if c.centerFreq2 = 0 then [] else segment c.centerFreq2 (c.load heap).getWidth

/-- The result is one of the two, spans the channels of both, and is the same in the other
order. -/
structure UpperBound (a b : ChanDefAt ι) : Prop where
  bound : ∀ c, chandefCompatible heap a b = some c →
    (c = a ∨ c = b) ∧ subChannels heap a ⊆ subChannels heap c ∧
      subChannels heap b ⊆ subChannels heap c
  order : ∀ c, chandefCompatible heap a b = some c →
    ∃ d, chandefCompatible heap b a = some d ∧ chandefIdentical d c = true
  null : chandefCompatible heap a b = none → chandefCompatible heap b a = none

/-- The two pass the comparison of the primaries, for which 0 is no primary 80 MHz. -/
def SamePrimaries (a b : ChanDefAt ι) : Prop :=
  a.chan = b.chan ∧ (chandefPrimaryFreqs heap a).1 = (chandefPrimaryFreqs heap b).1 ∧
    ((chandefPrimaryFreqs heap a).2 = 0 ∨ (chandefPrimaryFreqs heap b).2 = 0 ∨
      (chandefPrimaryFreqs heap a).2 = (chandefPrimaryFreqs heap b).2)

/-- For a definition `a` of smaller width than `b`: they are not the two kinds of 20 MHz on one
channel; and 80+80 MHz that pass for a part of 160 MHz, or 80 MHz whose primary is another than
that of `b` and compared to a primary of 0, are a part of `b`. -/
structure Nested (a b : ChanDefAt ι) : Prop where
  twenty : a.width = .w20NoHt → b.width = .w20 → a.chan ≠ b.chan
  split : a.width = .w80p80 → b.width = .w160 → SamePrimaries heap a b →
    subChannels heap a ⊆ subChannels heap b
  zero : a.width = .w80 → b.width = .w80p80 ∨ b.width = .w160 → SamePrimaries heap a b →
    (chandefPrimaryFreqs heap a).2 ≠ (chandefPrimaryFreqs heap b).2 →
    subChannels heap a ⊆ subChannels heap b

/-! ## The position of the control channel -/

/-- The lowest 20 MHz channel of the first segment. -/
def lowest (c : ChanDefAt ι) : UInt32 := c.centerFreq1 - (c.load heap).getWidth / 2 + 10

/-- The number of 20 MHz channels of a segment. -/
def channels (c : ChanDefAt ι) : Nat := ((c.load heap).getWidth / 20).toNat

/-- The control channel is `position` channels above the lowest one. -/
structure Placed (c : ChanDefAt ι) (position : Nat) : Prop where
  below : position < channels heap c
  control : lowest heap c + 20 * UInt32.ofNat position = c.controlFreq heap

variable {heap} {a b c : ChanDefAt ι} {p q : Nat}

omit [DecidableEq ι] in
theorem exists_placed_of (bandwidth : UInt32) (n : Nat)
    (width : (c.load heap).getWidth = bandwidth) (count : (bandwidth / 20).toNat = n)
    (position : Nat) (below : position < n)
    (control : c.centerFreq1 - bandwidth / 2 + 10 + 20 * UInt32.ofNat position =
      c.controlFreq heap) : ∃ position, Placed heap c position := by
  refine ⟨position, ?_, ?_⟩
  · rwa [channels, width, count]
  · rwa [lowest, width]

omit [DecidableEq ι] in
/-- The control channel of a valid definition from 20 MHz on is one of its channels. -/
theorem exists_placed (valid : cfg80211ChandefValid (c.load heap) = true)
    (wide : ¬(c.load heap).Narrow) : ∃ position, Placed heap c position := by
  obtain ⟨chan, width, center1, center2⟩ := c
  cases chan with
  | none => cases valid
  | some addr =>
    cases width with
    | w5 => exact absurd (Or.inl rfl) wide
    | w10 => exact absurd (Or.inr rfl) wide
    | w20NoHt | w20 =>
      simp only [cfg80211ChandefValid, ChanDefAt.load, Option.map_some, Bool.and_eq_true,
        beq_iff_eq] at valid
      refine exists_placed_of 20 1 rfl (by decide) 0 Nat.zero_lt_one ?_
      show center1 - 20 / 2 + 10 + 20 * UInt32.ofNat 0 = (heap addr).centerFreq
      grind
    | w40 =>
      simp only [cfg80211ChandefValid, ChanDefAt.load, Option.map_some, Bool.and_eq_true,
        Bool.or_eq_true, beq_iff_eq] at valid
      have control : (⟨some addr, .w40, center1, center2⟩ : ChanDefAt ι).controlFreq heap =
        (heap addr).centerFreq := rfl
      rcases valid.1 with up | down
      · exact exists_placed_of 40 2 rfl (by decide) 0 (by decide) (by grind)
      · exact exists_placed_of 40 2 rfl (by decide) 1 (by decide) (by grind)
    | w80 =>
      simp only [cfg80211ChandefValid, ChanDefAt.load, Option.map_some, Bool.and_eq_true,
        Bool.or_eq_true, beq_iff_eq] at valid
      have control : (⟨some addr, .w80, center1, center2⟩ : ChanDefAt ι).controlFreq heap =
        (heap addr).centerFreq := rfl
      rcases valid.1 with ((up30 | up10) | down10) | down30
      · exact exists_placed_of 80 4 rfl (by decide) 0 (by decide) (by grind)
      · exact exists_placed_of 80 4 rfl (by decide) 1 (by decide) (by grind)
      · exact exists_placed_of 80 4 rfl (by decide) 2 (by decide) (by grind)
      · exact exists_placed_of 80 4 rfl (by decide) 3 (by decide) (by grind)
    | w80p80 =>
      simp only [cfg80211ChandefValid, ChanDefAt.load, Option.map_some, Bool.and_eq_true,
        Bool.or_eq_true, beq_iff_eq] at valid
      have control : (⟨some addr, .w80p80, center1, center2⟩ : ChanDefAt ι).controlFreq heap =
        (heap addr).centerFreq := rfl
      rcases valid.1.1 with ((up30 | up10) | down10) | down30
      · exact exists_placed_of 80 4 rfl (by decide) 0 (by decide) (by grind)
      · exact exists_placed_of 80 4 rfl (by decide) 1 (by decide) (by grind)
      · exact exists_placed_of 80 4 rfl (by decide) 2 (by decide) (by grind)
      · exact exists_placed_of 80 4 rfl (by decide) 3 (by decide) (by grind)
    | w160 =>
      simp only [cfg80211ChandefValid, ChanDefAt.load, Option.map_some, Bool.and_eq_true,
        Bool.or_eq_true, beq_iff_eq] at valid
      have control : (⟨some addr, .w160, center1, center2⟩ : ChanDefAt ι).controlFreq heap =
        (heap addr).centerFreq := rfl
      rcases valid.1 with
        ((((((up70 | up50) | up30) | up10) | down10) | down30) | down50) | down70
      · exact exists_placed_of 160 8 rfl (by decide) 0 (by decide) (by grind)
      · exact exists_placed_of 160 8 rfl (by decide) 1 (by decide) (by grind)
      · exact exists_placed_of 160 8 rfl (by decide) 2 (by decide) (by grind)
      · exact exists_placed_of 160 8 rfl (by decide) 3 (by decide) (by grind)
      · exact exists_placed_of 160 8 rfl (by decide) 4 (by decide) (by grind)
      · exact exists_placed_of 160 8 rfl (by decide) 5 (by decide) (by grind)
      · exact exists_placed_of 160 8 rfl (by decide) 6 (by decide) (by grind)
      · exact exists_placed_of 160 8 rfl (by decide) 7 (by decide) (by grind)

/-! ## The primaries -/

/-- `n_P20`, `n_P40` and `n_P80` from the distance to the lowest channel. -/
theorem primary_numbers : ∀ position < 8,
    20 * UInt32.ofNat position / 20 = UInt32.ofNat position ∧
      UInt32.ofNat position / 2 = UInt32.ofNat (position / 2) ∧
      UInt32.ofNat (position / 2) / 2 = UInt32.ofNat (position / 4) := by
  decide

omit [DecidableEq ι] in
theorem lowest_eq (bandwidth : UInt32) (width : (c.load heap).getWidth = bandwidth) :
    lowest heap c = c.centerFreq1 - bandwidth / 2 + 10 := by rw [lowest, width]

omit [DecidableEq ι] in
theorem channels_eq (bandwidth : UInt32) (width : (c.load heap).getWidth = bandwidth) :
    channels heap c = (bandwidth / 20).toNat := by rw [channels, width]

omit [DecidableEq ι] in
/-- Both primaries of a definition from 40 MHz on, by its lowest channel and the position of the
control channel. -/
theorem primaryFreqs_eq (placed : Placed heap c p) (forty : 2 ≤ widthCode c.width)
    (wide : ¬(c.load heap).Narrow) :
    chandefPrimaryFreqs heap c = (lowest heap c + 10 + 40 * UInt32.ofNat (p / 2),
      if c.width = .w40 then 0 else lowest heap c + 30 + 80 * UInt32.ofNat (p / 4)) := by
  obtain ⟨below, control⟩ := placed
  rw [chandefPrimaryFreqs]
  cases width : c.width with
  | w20NoHt | w20 =>
    rw [width] at forty
    exact absurd forty (by decide)
  | w5 => exact absurd (Or.inl width) wide
  | w10 => exact absurd (Or.inr width) wide
  | w40 =>
    have bandwidth : (c.load heap).getWidth = 40 := by
      rw [ChanDef.getWidth, ChanDefAt.load, width]
    have low := lowest_eq 40 bandwidth
    rw [channels_eq 40 bandwidth] at below
    have zero : p / 2 = 0 := by
      have two : ((40 : UInt32) / 20).toNat = 2 := by decide
      omega
    rw [zero, if_pos rfl]
    refine Prod.ext ?_ rfl
    show c.centerFreq1 = lowest heap c + 10 + 40 * UInt32.ofNat 0
    grind
  | w80 | w80p80 =>
    have bandwidth : (c.load heap).getWidth = 80 := by
      rw [ChanDef.getWidth, ChanDefAt.load, width]
    have low := lowest_eq 80 bandwidth
    rw [channels_eq 80 bandwidth] at below
    have four : ((80 : UInt32) / 20).toNat = 4 := by decide
    have zero : p / 4 = 0 := by omega
    have distance : 30 + c.controlFreq heap - c.centerFreq1 = 20 * UInt32.ofNat p := by grind
    obtain ⟨nP20, nP40, -⟩ := primary_numbers p (by omega)
    simp only [distance, nP20, nP40, zero]
    rw [if_neg (by decide)]
    refine Prod.ext ?_ ?_
    · show c.centerFreq1 - 20 + 40 * UInt32.ofNat (p / 2) =
        lowest heap c + 10 + 40 * UInt32.ofNat (p / 2)
      grind
    · show c.centerFreq1 = lowest heap c + 30 + 80 * UInt32.ofNat 0
      grind
  | w160 =>
    have bandwidth : (c.load heap).getWidth = 160 := by
      rw [ChanDef.getWidth, ChanDefAt.load, width]
    have low := lowest_eq 160 bandwidth
    rw [channels_eq 160 bandwidth] at below
    have eight : ((160 : UInt32) / 20).toNat = 8 := by decide
    have distance : 70 + c.controlFreq heap - c.centerFreq1 = 20 * UInt32.ofNat p := by grind
    obtain ⟨nP20, nP40, nP80⟩ := primary_numbers p (by omega)
    simp only [distance, nP20, nP40, nP80]
    rw [if_neg (by decide)]
    refine Prod.ext ?_ ?_
    · show c.centerFreq1 - 60 + 40 * UInt32.ofNat (p / 2) =
        lowest heap c + 10 + 40 * UInt32.ofNat (p / 2)
      grind
    · show c.centerFreq1 - 40 + 80 * UInt32.ofNat (p / 4) =
        lowest heap c + 30 + 80 * UInt32.ofNat (p / 4)
      grind

/-- On one control channel the primaries 40 MHz are the same if the positions have the same
parity, and the primaries 80 MHz if they are the same modulo four. -/
theorem primaries_positions : ∀ p < 8, ∀ q < 8,
    (40 * UInt32.ofNat (p / 2) - 20 * UInt32.ofNat p =
      40 * UInt32.ofNat (q / 2) - 20 * UInt32.ofNat q ↔ p % 2 = q % 2) ∧
    (80 * UInt32.ofNat (p / 4) - 20 * UInt32.ofNat p =
      80 * UInt32.ofNat (q / 4) - 20 * UInt32.ofNat q ↔ p % 4 = q % 4) := by
  decide

/-! ## The channels -/

omit [DecidableEq ι] in
theorem mem_segment_first {freq : UInt32} :
    freq ∈ segment c.centerFreq1 (c.load heap).getWidth ↔
      ∃ k < channels heap c, lowest heap c + 20 * UInt32.ofNat k = freq := by
  rw [segment, List.mem_map]
  simp only [List.mem_range]
  rfl

omit [DecidableEq ι] in
/-- The first segment of `a` is in that of `b` if it does not reach below or above it. -/
theorem segment_subset (placedA : Placed heap a p) (placedB : Placed heap b q)
    (control : a.controlFreq heap = b.controlFreq heap) (under : p ≤ q)
    (above : channels heap a + q ≤ channels heap b + p) :
    segment a.centerFreq1 (a.load heap).getWidth ⊆
      segment b.centerFreq1 (b.load heap).getWidth := by
  intro freq member
  obtain ⟨k, inside, same⟩ := mem_segment_first.mp member
  refine mem_segment_first.mpr ⟨k + (q - p), by omega, ?_⟩
  have positions : UInt32.ofNat (k + (q - p)) + UInt32.ofNat p =
      UInt32.ofNat k + UInt32.ofNat q := by
    rw [← UInt32.ofNat_add, ← UInt32.ofNat_add]
    congr 1
    omega
  have first := placedA.control
  have second := placedB.control
  grind

/-! ## The function by cases -/

instance : Decidable (SamePrimaries heap a b) := inferInstanceAs (Decidable (_ ∧ _ ∧ _))

omit [DecidableEq ι] in
theorem SamePrimaries.symm (same : SamePrimaries heap a b) : SamePrimaries heap b a := by
  obtain ⟨chan, pri40, pri80⟩ := same
  refine ⟨chan.symm, pri40.symm, ?_⟩
  rcases pri80 with zero | zero | eq
  · exact .inr (.inl zero)
  · exact .inl zero
  · exact .inr (.inr eq.symm)

/-- Two definitions of different widths from 20 MHz on. -/
theorem compatible_eq (apart : a.width ≠ b.width) (wideA : ¬(a.load heap).Narrow)
    (wideB : ¬(b.load heap).Narrow) :
    chandefCompatible heap a b =
      if a.chan ≠ b.chan then none
      else if a.width = .w20NoHt ∨ a.width = .w20 then some b
      else if b.width = .w20NoHt ∨ b.width = .w20 then some a
      else if SamePrimaries heap a b then
        if widthCode b.width < widthCode a.width then some a else some b
      else none := by
  have different : chandefIdentical a b = false := by
    rw [chandefIdentical, beq_false_of_ne apart, Bool.and_false, Bool.false_and, Bool.false_and]
  have wide : ¬(a.width = .w5 ∨ a.width = .w10 ∨ b.width = .w5 ∨ b.width = .w10) := by
    rintro (five | ten | five | ten)
    · exact wideA (.inl five)
    · exact wideA (.inr ten)
    · exact wideB (.inl five)
    · exact wideB (.inr ten)
  rw [chandefCompatible, different, if_neg Bool.false_ne_true]
  by_cases chan : a.chan ≠ b.chan
  · rw [if_pos chan, if_pos chan]
  rw [if_neg chan, if_neg chan, if_neg apart, if_neg wide]
  by_cases twentyA : a.width = .w20NoHt ∨ a.width = .w20
  · rw [if_pos twentyA, if_pos twentyA]
  rw [if_neg twentyA, if_neg twentyA]
  by_cases twentyB : b.width = .w20NoHt ∨ b.width = .w20
  · rw [if_pos twentyB, if_pos twentyB]
  rw [if_neg twentyB, if_neg twentyB]
  dsimp only
  by_cases pri40 : (chandefPrimaryFreqs heap a).1 = (chandefPrimaryFreqs heap b).1
  · rw [if_neg (not_not.mpr pri40)]
    by_cases pri80 : (chandefPrimaryFreqs heap a).2 ≠ 0 ∧ (chandefPrimaryFreqs heap b).2 ≠ 0 ∧
        (chandefPrimaryFreqs heap a).2 ≠ (chandefPrimaryFreqs heap b).2
    · have other : ¬SamePrimaries heap a b := by
        rintro ⟨-, -, zero | zero | eq⟩
        · exact pri80.1 zero
        · exact pri80.2.1 zero
        · exact pri80.2.2 eq
      rw [if_pos pri80, if_neg other]
    · have same : SamePrimaries heap a b := by
        refine ⟨not_not.mp chan, pri40, ?_⟩
        by_contra none
        rw [not_or, not_or] at none
        exact pri80 none
      rw [if_neg pri80, if_pos same]
  · rw [if_pos pri40, if_neg fun same => pri40 same.2.1]

omit [DecidableEq ι] in
theorem narrow_iff_code : (c.load heap).Narrow ↔ 6 ≤ widthCode c.width := by
  show c.width = .w5 ∨ c.width = .w10 ↔ 6 ≤ widthCode c.width
  cases c.width <;> decide

omit [DecidableEq ι] in
/-- The smaller of two widths, from 20 MHz on. -/
theorem not_narrow_of_lt (lt : widthCode a.width < widthCode b.width)
    (wideB : ¬(b.load heap).Narrow) : ¬(a.load heap).Narrow := by
  rw [narrow_iff_code] at wideB ⊢
  omega

theorem twenty_iff (width : Nl80211ChanWidth) :
    width = .w20NoHt ∨ width = .w20 ↔ widthCode width ≤ 1 := by
  cases width <;> decide

/-! ## The upper bound -/

theorem identical_refl (c : ChanDefAt ι) : chandefIdentical c c = true := by
  simp only [chandefIdentical, decide_true, beq_self_eq_true, Bool.and_self]

theorem eq_of_identical (same : chandefIdentical a b = true) : a = b := by
  obtain ⟨chanA, widthA, first, second⟩ := a
  obtain ⟨chanB, widthB, first', second'⟩ := b
  simp only [chandefIdentical, Bool.and_eq_true, decide_eq_true_eq, beq_iff_eq] at same
  obtain ⟨⟨⟨rfl, rfl⟩, rfl⟩, rfl⟩ := same
  rfl

theorem upperBound_of_none (ab : chandefCompatible heap a b = none)
    (ba : chandefCompatible heap b a = none) : UpperBound heap a b := by
  refine ⟨fun c result => ?_, fun c result => ?_, fun _ => ba⟩ <;> rw [ab] at result <;>
    cases result

/-- The two orders give the second definition: it is an upper bound if it spans the first. -/
theorem upperBound_iff_of_some (ab : chandefCompatible heap a b = some b)
    (ba : chandefCompatible heap b a = some b) :
    UpperBound heap a b ↔ subChannels heap a ⊆ subChannels heap b := by
  constructor
  · exact fun upper => (upper.bound b ab).2.1
  · intro subset
    refine ⟨fun c result => ?_, fun c result => ?_, fun none => ?_⟩
    · rw [ab] at result
      cases result
      exact ⟨.inr rfl, subset, fun _ member => member⟩
    · rw [ab] at result
      cases result
      exact ⟨b, ba, identical_refl b⟩
    · rw [ab] at none
      cases none

theorem UpperBound.symm (upper : UpperBound heap a b) : UpperBound heap b a := by
  have same : chandefCompatible heap b a = chandefCompatible heap a b := by
    cases result : chandefCompatible heap a b with
    | none => exact upper.null result
    | some c =>
      obtain ⟨d, other, identical⟩ := upper.order c result
      rw [other, eq_of_identical identical]
  refine ⟨fun c result => ?_, fun c result => ?_, fun none => same ▸ none⟩
  · obtain ⟨which, first, second⟩ := upper.bound c (same ▸ result)
    exact ⟨which.symm, second, first⟩
  · exact ⟨c, same ▸ result, identical_refl c⟩

omit [DecidableEq ι] in
theorem controlFreq_congr (chan : a.chan = b.chan) : a.controlFreq heap = b.controlFreq heap := by
  rw [ChanDefAt.controlFreq, ChanDefAt.controlFreq, chan]

omit [DecidableEq ι] in
theorem channels_of_width (wide : ¬(c.load heap).Narrow) :
    channels heap c = match c.width with
      | .w40 => 2
      | .w80 | .w80p80 => 4
      | .w160 => 8
      | _ => 1 := by
  cases width : c.width with
  | w5 => exact absurd (Or.inl width) wide
  | w10 => exact absurd (Or.inr width) wide
  | w20NoHt | w20 | w40 | w80 | w80p80 | w160 =>
    rw [channels, ChanDef.getWidth, ChanDefAt.load, width]
    dsimp only
    decide

omit [DecidableEq ι] in
/-- A definition of one segment is spanned if the segment does not reach out of the first one of
the other. -/
theorem subChannels_subset (placedA : Placed heap a p) (placedB : Placed heap b q)
    (single : a.centerFreq2 = 0) (chan : a.chan = b.chan) (under : p ≤ q)
    (above : channels heap a + q ≤ channels heap b + p) :
    subChannels heap a ⊆ subChannels heap b := by
  rw [subChannels, if_pos single, List.append_nil]
  exact fun freq member => List.mem_append_left _
    (segment_subset placedA placedB (controlFreq_congr chan) under above member)

omit [DecidableEq ι] in
theorem single_of_valid (valid : cfg80211ChandefValid (c.load heap) = true)
    (whole : c.width ≠ .w80p80) : c.centerFreq2 = 0 := by
  by_contra second
  exact whole ((centerFreq2_of_valid valid).mpr second)

section Pair

variable (validA : cfg80211ChandefValid (a.load heap) = true)
  (validB : cfg80211ChandefValid (b.load heap) = true) (wideB : ¬(b.load heap).Narrow)
  (lt : widthCode a.width < widthCode b.width)
include validA validB wideB lt

omit [DecidableEq ι] in
/-- Where the primaries are the same, the smaller definition is spanned unless it has two segments
or its primary 80 MHz is another one. -/
theorem subset_of_samePrimaries (same : SamePrimaries heap a b) (whole : a.width ≠ .w80p80)
    (forty : 2 ≤ widthCode a.width)
    (pri80 : a.width = .w80 →
      (chandefPrimaryFreqs heap a).2 = (chandefPrimaryFreqs heap b).2) :
    subChannels heap a ⊆ subChannels heap b := by
  have wideA := not_narrow_of_lt lt wideB
  obtain ⟨p, placedA⟩ := exists_placed validA wideA
  obtain ⟨q, placedB⟩ := exists_placed validB wideB
  obtain ⟨chan, pri40, -⟩ := same
  have countA := channels_of_width wideA
  have countB := channels_of_width wideB
  have first := placedA.control
  have second := placedB.control
  have below := placedA.below
  have below' := placedB.below
  rw [controlFreq_congr chan] at first
  have larger : channels heap b = 4 ∨ channels heap b = 8 := by
    cases width : b.width with
    | w80 | w80p80 =>
      rw [width] at countB
      exact .inl countB
    | w160 =>
      rw [width] at countB
      exact .inr countB
    | w5 => exact absurd (Or.inl width) wideB
    | w10 => exact absurd (Or.inr width) wideB
    | w20NoHt | w20 | w40 =>
      rw [width] at lt
      exact absurd (Nat.lt_of_le_of_lt forty lt) (by decide)
  have smaller : a.width = .w40 ∧ channels heap a = 2 ∨ a.width = .w80 ∧ channels heap a = 4 := by
    cases width : a.width with
    | w40 =>
      rw [width] at countA
      exact .inl ⟨rfl, countA⟩
    | w80 =>
      rw [width] at countA
      exact .inr ⟨rfl, countA⟩
    | w80p80 => exact absurd width whole
    | w5 => exact absurd (Or.inl width) wideA
    | w10 => exact absurd (Or.inr width) wideA
    | w20NoHt | w20 =>
      rw [width] at forty
      exact absurd forty (by decide)
    | w160 =>
      rw [width] at lt
      rw [narrow_iff_code] at wideB
      exact absurd lt (fun below => wideB below)
  obtain ⟨parity, quarter⟩ := primaries_positions p (by omega) q (by omega)
  rw [primaryFreqs_eq placedA forty wideA, primaryFreqs_eq placedB (by omega) wideB] at pri40 pri80
  have even : p % 2 = q % 2 := parity.mp (by grind)
  have aligned : a.width = .w80 → p % 4 = q % 4 := by
    intro width
    have equal := pri80 width
    have second40 : b.width ≠ .w40 := by
      intro forty
      rw [width, forty] at lt
      exact absurd lt (by decide)
    rw [if_neg (by rw [width]; decide), if_neg second40] at equal
    exact quarter.mp (by grind)
  refine subChannels_subset placedA placedB (single_of_valid validA whole) chan ?_ ?_
  · rcases smaller with ⟨-, two⟩ | ⟨width, four⟩
    · omega
    · have modulo := aligned width
      omega
  · rcases smaller with ⟨-, two⟩ | ⟨width, four⟩
    · omega
    · have modulo := aligned width
      omega

omit [DecidableEq ι] in
/-- A 20 MHz channel is spanned by whatever has it as its control channel. -/
theorem subset_of_twenty (twenty : widthCode a.width ≤ 1) (chan : a.chan = b.chan) :
    subChannels heap a ⊆ subChannels heap b := by
  have wideA := not_narrow_of_lt lt wideB
  obtain ⟨p, placedA⟩ := exists_placed validA wideA
  obtain ⟨q, placedB⟩ := exists_placed validB wideB
  have one : channels heap a = 1 := by
    rw [channels_of_width wideA]
    rcases (twenty_iff a.width).mpr twenty with noHt | ht
    · rw [noHt]
    · rw [ht]
  have whole : a.width ≠ .w80p80 := by
    intro split
    rw [split] at twenty
    exact absurd twenty (by decide)
  have below := placedA.below
  have below' := placedB.below
  exact subChannels_subset placedA placedB (single_of_valid validA whole) chan (by omega)
    (by omega)

/-- For two different widths: an upper bound exactly if the smaller one is nested. -/
theorem upperBound_iff_nested : UpperBound heap a b ↔ Nested heap a b := by
  have wideA := not_narrow_of_lt lt wideB
  have apart : a.width ≠ b.width := by
    intro same
    rw [same] at lt
    omega
  have ab := compatible_eq apart wideA wideB
  have ba := compatible_eq apart.symm wideB wideA
  simp only [twenty_iff] at ab ba
  by_cases chan : a.chan = b.chan
  swap
  · rw [if_pos chan] at ab
    rw [if_pos fun same => chan same.symm] at ba
    exact iff_of_true (upperBound_of_none ab ba)
      ⟨fun _ _ => chan, fun _ _ same => absurd same.1 chan, fun _ _ same => absurd same.1 chan⟩
  rw [if_neg (not_not.mpr chan)] at ab
  rw [if_neg (not_not.mpr chan.symm)] at ba
  by_cases twentyA : widthCode a.width ≤ 1
  · rw [if_pos twentyA] at ab
    have notWide : a.width ≠ .w80p80 ∧ a.width ≠ .w80 := by
      constructor <;> intro width <;> rw [width] at twentyA <;> exact absurd twentyA (by decide)
    by_cases twentyB : widthCode b.width ≤ 1
    · rw [if_pos twentyB] at ba
      have noHt : a.width = .w20NoHt := by
        rcases (twenty_iff a.width).mpr twentyA with noHt | ht
        · exact noHt
        · rw [ht] at lt
          exact absurd twentyB (Nat.not_le_of_lt lt)
      have ht : b.width = .w20 := by
        rcases (twenty_iff b.width).mpr twentyB with noHt' | ht
        · rw [noHt'] at lt
          exact absurd lt (Nat.not_lt_zero _)
        · exact ht
      refine iff_of_false (fun upper => ?_) fun nested => nested.twenty noHt ht chan
      obtain ⟨d, other, same⟩ := upper.order b ab
      rw [ba] at other
      cases other
      exact apart (congrArg ChanDefAt.width (eq_of_identical same))
    · rw [if_neg twentyB, if_pos twentyA] at ba
      rw [upperBound_iff_of_some ab ba]
      refine iff_of_true (subset_of_twenty validA validB wideB lt twentyA chan)
        ⟨fun _ ht => ?_, fun split => absurd split notWide.1, fun eighty => absurd eighty notWide.2⟩
      rw [ht] at twentyB
      exact absurd (by decide) twentyB
  rw [if_neg twentyA] at ab ba
  have twentyB : ¬widthCode b.width ≤ 1 := by omega
  rw [if_neg twentyB] at ab ba
  have noTwenty : a.width ≠ .w20NoHt := by
    intro noHt
    rw [noHt] at twentyA
    exact twentyA (by decide)
  by_cases same : SamePrimaries heap a b
  · rw [if_pos same, if_neg (by omega)] at ab
    rw [if_pos same.symm, if_pos lt] at ba
    rw [upperBound_iff_of_some ab ba]
    constructor
    · exact fun subset =>
        ⟨fun noHt => absurd noHt noTwenty, fun _ _ _ => subset, fun _ _ _ _ => subset⟩
    · intro nested
      by_cases split : a.width = .w80p80
      · have whole : b.width = .w160 := by
          rw [split] at lt
          rw [narrow_iff_code] at wideB
          cases width : b.width with
          | w160 => rfl
          | _ =>
            rw [width] at lt wideB
            first
              | exact absurd lt (by decide)
              | exact absurd (by decide) wideB
        exact nested.split split whole same
      · by_cases zero : a.width = .w80 ∧
            (chandefPrimaryFreqs heap a).2 ≠ (chandefPrimaryFreqs heap b).2
        · have larger : b.width = .w80p80 ∨ b.width = .w160 := by
            rw [zero.1] at lt
            rw [narrow_iff_code] at wideB
            cases width : b.width with
            | w160 => exact .inr rfl
            | w80p80 => exact .inl rfl
            | _ =>
              rw [width] at lt wideB
              first
                | exact absurd lt (by decide)
                | exact absurd (by decide) wideB
          exact nested.zero zero.1 larger same zero.2
        · refine subset_of_samePrimaries validA validB wideB lt same split (by omega)
            fun eighty => ?_
          by_contra other
          exact zero ⟨eighty, other⟩
  · rw [if_neg same] at ab
    rw [if_neg fun other => same other.symm] at ba
    exact iff_of_true (upperBound_of_none ab ba) ⟨fun noHt => absurd noHt noTwenty,
      fun _ _ passes => absurd passes same, fun _ _ passes => absurd passes same⟩

end Pair

omit [DecidableEq ι] in
/-- Nothing is asked of a definition that is not smaller. -/
theorem nested_of_le (le : widthCode b.width ≤ widthCode a.width) : Nested heap a b := by
  refine ⟨fun noHt ht => ?_, fun split whole => ?_, fun eighty larger => ?_⟩
  · rw [noHt, ht] at le
    exact absurd le (by decide)
  · rw [split, whole] at le
    exact absurd le (by decide)
  · rcases larger with split | whole
    · rw [eighty, split] at le
      exact absurd le (by decide)
    · rw [eighty, whole] at le
      exact absurd le (by decide)

theorem eq_of_widthCode {first second : Nl80211ChanWidth}
    (same : widthCode first = widthCode second) : first = second := by
  revert same
  cases first <;> cases second <;> decide

/-- Definitions of the same width are compatible only if they are identical. -/
theorem upperBound_of_same_width (same : a.width = b.width) : UpperBound heap a b := by
  by_cases identical : chandefIdentical a b = true
  · have equal := eq_of_identical identical
    subst equal
    have itself : chandefCompatible heap a a = some a := by
      rw [chandefCompatible, if_pos (identical_refl a)]
    exact (upperBound_iff_of_some itself itself).mpr fun _ member => member
  · have other : ¬chandefIdentical b a = true := by
      intro identical'
      rw [eq_of_identical identical'] at identical
      exact identical (identical_refl a)
    refine upperBound_of_none ?_ ?_
    · rw [chandefCompatible, if_neg identical, if_pos same, ite_self]
    · rw [chandefCompatible, if_neg other, if_pos same.symm, ite_self]

/-- The result of comparing two valid definitions from 20 MHz on is an upper bound, and the same in
both orders, exactly if the smaller one is nested in the larger. -/
theorem upperBound_iff (validA : cfg80211ChandefValid (a.load heap) = true)
    (validB : cfg80211ChandefValid (b.load heap) = true) (wideA : ¬(a.load heap).Narrow)
    (wideB : ¬(b.load heap).Narrow) :
    UpperBound heap a b ↔ Nested heap a b ∧ Nested heap b a := by
  rcases Nat.lt_trichotomy (widthCode a.width) (widthCode b.width) with lt | same | gt
  · rw [upperBound_iff_nested validA validB wideB lt]
    exact ⟨fun nested => ⟨nested, nested_of_le (Nat.le_of_lt lt)⟩, fun both => both.1⟩
  · exact iff_of_true (upperBound_of_same_width (eq_of_widthCode same))
      ⟨nested_of_le (Nat.le_of_eq same.symm), nested_of_le (Nat.le_of_eq same)⟩
  · have other := upperBound_iff_nested validB validA wideA gt
    constructor
    · exact fun upper => ⟨nested_of_le (Nat.le_of_lt gt), other.mp upper.symm⟩
    · exact fun both => (other.mpr both.2).symm

end

/-- The only channel in memory is 5180 MHz. -/
def lowChannel (_ : Unit) : Channel := ⟨1, 5180, 0, .usable, 0, 0⟩

/-- 80+80 MHz at 5210 and 5775 MHz. -/
def splitChandef : ChanDefAt Unit := ⟨some (), .w80p80, 5210, 5775⟩

/-- 160 MHz at 5250 MHz. -/
def wholeChandef : ChanDefAt Unit := ⟨some (), .w160, 5250, 0⟩

/-- 80 MHz at 5210 MHz. -/
def eightyChandef : ChanDefAt Unit := ⟨some (), .w80, 5210, 0⟩

theorem upperBound_iff_eighty :
    UpperBound lowChannel eightyChandef wholeChandef ↔
      Nested lowChannel eightyChandef wholeChandef ∧
        Nested lowChannel wholeChandef eightyChandef :=
  upperBound_iff (by decide) (by decide) (by decide) (by decide)

/-- The two share the primary 80 MHz, and the result is the 160 MHz, which has nothing of the
second segment. -/
theorem not_upperBound_split :
    cfg80211ChandefValid (splitChandef.load lowChannel) = true ∧
      cfg80211ChandefValid (wholeChandef.load lowChannel) = true ∧
      ¬UpperBound lowChannel splitChandef wholeChandef := by
  refine ⟨by decide, by decide, fun upper => ?_⟩
  have result : chandefCompatible lowChannel splitChandef wholeChandef = some wholeChandef := by
    decide
  have spanned := (upper.bound wholeChandef result).2.1
  have second : (5745 : UInt32) ∈ subChannels lowChannel splitChandef := by decide
  exact absurd (spanned second) (by decide)

end Iwlwifi.ChandefCompatible
