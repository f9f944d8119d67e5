import Mathlib.Data.List.Basic
import Mathlib.Data.Int.Order.Basic

/-!
# Ranges that touch

A list of half-open ranges `[lo, hi)` and a walk from one of them over those that touch
(`follow`).  Two facts decide how far it comes: what it passes is covered by the ranges
(`follow_covers`), and over ranges that are in order it passes everything that they cover without
a gap (`follow_le`).  Both are stated for the walk towards lower numbers; the walk towards higher
ones is the same walk on the mirrored line, where `lo` and `hi` change places and signs
(`covers_mirror`).
-/

namespace Iwlwifi.Lib

variable {ι : Type}

/-- The walk from `cur` over the ranges of a list, which ends at the first that `stops` it. -/
def follow (stops : ι → ι → Bool) : List ι → ι → ι
  | [], cur => cur
  | next :: rest, cur => if stops next cur then cur else follow stops rest next

/-- One of the ranges holds the point. -/
def Covers (lo hi : ι → ℤ) (ranges : List ι) (p : ℤ) : Prop :=
  ∃ range ∈ ranges, lo range ≤ p ∧ p < hi range

theorem covers_mirror {lo hi : ι → ℤ} {ranges : List ι} {p : ℤ} :
    Covers (fun range => -hi range) (fun range => -lo range) ranges p ↔
      Covers lo hi ranges (-p - 1) := by
  constructor
  · rintro ⟨range, member, low, high⟩
    simp only at low high
    exact ⟨range, member, by omega, by omega⟩
  · rintro ⟨range, member, low, high⟩
    refine ⟨range, member, ?_, ?_⟩
    · simp only
      omega
    · simp only
      omega

section Walk

variable {lo hi : ι → ℤ} {stops : ι → ι → Bool}
  (spec : ∀ next cur, stops next cur = true ↔ hi next < lo cur)
include spec

/-- What the walk has passed is covered. -/
theorem follow_covers {ranges : List ι} {cur : ι} {p : ℤ}
    (low : lo (follow stops ranges cur) ≤ p) (high : p < lo cur) : Covers lo hi ranges p := by
  induction ranges generalizing cur with
  | nil =>
      rw [follow] at low
      omega
  | cons next rest ih =>
      rw [follow] at low
      split at low
      · omega
      · next goesOn =>
          have touches : lo cur ≤ hi next := by
            by_contra apart
            exact goesOn ((spec next cur).mpr (by omega))
          rcases le_or_gt (lo next) p with inside | before
          · exact ⟨next, List.mem_cons_self, inside, by omega⟩
          · obtain ⟨range, member, holds⟩ := ih low before
            exact ⟨range, List.mem_cons_of_mem _ member, holds⟩

/-- The walk goes at least as far as the ranges cover without a gap. -/
theorem follow_le {ranges : List ι} {cur : ι}
    (ordered : (cur :: ranges).Pairwise fun later earlier => hi earlier ≤ lo later)
    (positive : ∀ range ∈ ranges, lo range < hi range) {a : ℤ} (le : a ≤ lo cur)
    (covered : ∀ p, a ≤ p → p < lo cur → Covers lo hi ranges p) :
    lo (follow stops ranges cur) ≤ a := by
  induction ranges generalizing cur a with
  | nil =>
      rcases lt_or_ge a (lo cur) with less | reached
      · obtain ⟨range, member, -⟩ := covered a (le_refl a) less
        cases member
      · exact reached
  | cons next rest ih =>
      obtain ⟨behindCur, orderedRest⟩ := List.pairwise_cons.mp ordered
      have nextPositive := positive next List.mem_cons_self
      rw [follow]
      split
      · next stopsHere =>
          have apart := (spec next cur).mp stopsHere
          rcases lt_or_ge a (lo cur) with less | reached
          · -- the cell before `cur` is covered, but no range reaches it
            exfalso
            obtain ⟨range, member, low, high⟩ := covered (lo cur - 1) (by omega) (by omega)
            rcases List.mem_cons.mp member with rfl | member
            · omega
            · have earlier := (List.pairwise_cons.mp orderedRest).1 range member
              omega
          · exact reached
      · have positiveRest : ∀ range ∈ rest, lo range < hi range :=
          fun range member => positive range (List.mem_cons_of_mem _ member)
        rcases le_or_gt a (lo next) with further | reached
        · refine ih orderedRest positiveRest further fun p low high => ?_
          have before := behindCur next List.mem_cons_self
          obtain ⟨range, member, holds⟩ := covered p low (by omega)
          rcases List.mem_cons.mp member with rfl | member
          · omega
          · exact ⟨range, member, holds⟩
        · have here := ih orderedRest positiveRest (le_refl (lo next)) fun p low high => by omega
          omega

/-- Over ranges in order the walk does not turn back. -/
theorem follow_le_self {ranges : List ι} {cur : ι}
    (ordered : (cur :: ranges).Pairwise fun later earlier => hi earlier ≤ lo later)
    (positive : ∀ range ∈ ranges, lo range < hi range) :
    lo (follow stops ranges cur) ≤ lo cur :=
  follow_le spec ordered positive (le_refl _) fun p low high => by omega

/-- A walk goes at least as far as one over ranges that cover less. -/
theorem follow_le_follow {outer inner : List ι} {cur curInner : ι}
    (ordered : (cur :: outer).Pairwise fun later earlier => hi earlier ≤ lo later)
    (positive : ∀ range ∈ outer, lo range < hi range) (le : lo cur ≤ lo curInner)
    (within : ∀ p < lo cur, Covers lo hi inner p → Covers lo hi outer p) :
    lo (follow stops outer cur) ≤ lo (follow stops inner curInner) := by
  rcases le_or_gt (lo cur) (lo (follow stops inner curInner)) with reached | further
  · exact Int.le_trans (follow_le_self spec ordered positive) reached
  · refine follow_le spec ordered positive (by omega) fun p low high => ?_
    exact within p high (follow_covers spec low (by omega))

end Walk

end Iwlwifi.Lib
