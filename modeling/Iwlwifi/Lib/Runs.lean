import Mathlib.Algebra.Ring.Nat
import Mathlib.Data.List.Basic

/-!
# Runs of neighbours

A pass over the items `0, 1, ...` skips those that are not live and puts a live one into the run
of the live item before it if the two join, else into a run of its own.  `Runs live joins k runs`
says what the pass has come to after `k` items: the first and the last item of each run, the
latest run in front.
-/

namespace Iwlwifi.Lib

inductive Runs (live : Nat → Prop) (joins : Nat → Nat → Prop) : Nat → List (Nat × Nat) → Prop
  | empty : Runs live joins 0 []
  | skip {k : Nat} {runs : List (Nat × Nat)} : Runs live joins k runs → ¬live k →
      Runs live joins (k + 1) runs
  | start {k : Nat} {runs : List (Nat × Nat)} : Runs live joins k runs → live k →
      (∀ run ∈ runs.head?, ¬joins run.2 k) → Runs live joins (k + 1) ((k, k) :: runs)
  | extend {k first last : Nat} {runs : List (Nat × Nat)} :
      Runs live joins k ((first, last) :: runs) → live k → joins last k →
      Runs live joins (k + 1) ((first, k) :: runs)

/-- Two live items without a live one between them. -/
structure Neighbours (live : Nat → Prop) (p n : Nat) : Prop where
  lt : p < n
  first : live p
  last : live n
  none : ∀ q, p < q → q < n → ¬live q

section Runs

variable {live : Nat → Prop} {joins : Nat → Nat → Prop} {k i p n : Nat} {run : Nat × Nat}
  {runs : List (Nat × Nat)}

/-- The latest run ends with the latest live item. -/
theorem Runs.latest (pass : Runs live joins k runs) (lt : i < k) (alive : live i) :
    ∃ run ∈ runs.head?, i ≤ run.2 := by
  induction pass with
  | empty => exact absurd lt (Nat.not_lt_zero i)
  | skip _ dead ih =>
      rcases Nat.lt_succ_iff_lt_or_eq.mp lt with before | rfl
      · exact ih before
      · exact absurd alive dead
  | start _ _ _ _ => exact ⟨_, rfl, Nat.lt_succ_iff.mp lt⟩
  | extend _ _ _ _ => exact ⟨_, rfl, Nat.lt_succ_iff.mp lt⟩

theorem Runs.mem (pass : Runs live joins k runs) (member : run ∈ runs) :
    run.1 ≤ run.2 ∧ run.2 < k ∧ live run.1 ∧ live run.2 := by
  induction pass generalizing run with
  | empty => exact absurd member List.not_mem_nil
  | skip _ _ ih =>
      obtain ⟨le, lt, lives⟩ := ih member
      exact ⟨le, Nat.lt_succ_of_lt lt, lives⟩
  | start _ alive _ ih =>
      rcases List.mem_cons.mp member with rfl | earlier
      · exact ⟨Nat.le_refl _, Nat.lt_succ_self _, alive, alive⟩
      · obtain ⟨le, lt, lives⟩ := ih earlier
        exact ⟨le, Nat.lt_succ_of_lt lt, lives⟩
  | extend _ alive _ ih =>
      rcases List.mem_cons.mp member with rfl | earlier
      · obtain ⟨le, lt, first, -⟩ := ih List.mem_cons_self
        exact ⟨Nat.le_trans le (Nat.le_of_lt lt), Nat.lt_succ_self _, first, alive⟩
      · obtain ⟨le, lt, lives⟩ := ih (List.mem_cons_of_mem _ earlier)
        exact ⟨le, Nat.lt_succ_of_lt lt, lives⟩

/-- A run ends before the later ones start. -/
theorem Runs.ordered (pass : Runs live joins k runs) :
    runs.Pairwise fun later earlier => earlier.2 < later.1 := by
  induction pass with
  | empty => exact List.Pairwise.nil
  | skip _ _ ih => exact ih
  | start before _ _ ih =>
      exact List.pairwise_cons.mpr ⟨fun run member => (before.mem member).2.1, ih⟩
  | extend _ _ _ ih =>
      rw [List.pairwise_cons] at ih
      exact List.pairwise_cons.mpr ih

/-- Every live item is in a run. -/
theorem Runs.cover (pass : Runs live joins k runs) (lt : i < k) (alive : live i) :
    ∃ run ∈ runs, run.1 ≤ i ∧ i ≤ run.2 := by
  induction pass with
  | empty => exact absurd lt (Nat.not_lt_zero i)
  | skip _ dead ih =>
      rcases Nat.lt_succ_iff_lt_or_eq.mp lt with before | rfl
      · exact ih before
      · exact absurd alive dead
  | start _ _ _ ih =>
      rcases Nat.lt_succ_iff_lt_or_eq.mp lt with before | rfl
      · obtain ⟨run, member, inside⟩ := ih before
        exact ⟨run, List.mem_cons_of_mem _ member, inside⟩
      · exact ⟨_, List.mem_cons_self, Nat.le_refl _, Nat.le_refl _⟩
  | extend before _ _ ih =>
      rcases Nat.lt_succ_iff_lt_or_eq.mp lt with earlier | rfl
      · obtain ⟨run, member, le, ge⟩ := ih earlier
        rcases List.mem_cons.mp member with rfl | other
        · exact ⟨_, List.mem_cons_self, le, Nat.le_of_lt earlier⟩
        · exact ⟨run, List.mem_cons_of_mem _ other, le, ge⟩
      · obtain ⟨le, lt, -⟩ := before.mem List.mem_cons_self
        exact ⟨_, List.mem_cons_self, Nat.le_trans le (Nat.le_of_lt lt), Nat.le_refl _⟩

/-- The live items of a run join one after the other: after each but the last one comes a
neighbour in the run that it joins. -/
theorem Runs.next (pass : Runs live joins k runs) (member : run ∈ runs) (alive : live i)
    (ge : run.1 ≤ i) (lt : i < run.2) :
    ∃ n, n ≤ run.2 ∧ Neighbours live i n ∧ joins i n := by
  induction pass generalizing run with
  | empty => exact absurd member List.not_mem_nil
  | skip _ _ ih => exact ih member ge lt
  | start _ _ _ ih =>
      rcases List.mem_cons.mp member with rfl | earlier
      · exact absurd lt (Nat.not_lt.mpr ge)
      · exact ih earlier ge lt
  | @extend k first last runs before here join ih =>
      rcases List.mem_cons.mp member with rfl | earlier
      · obtain ⟨-, below, -, ends⟩ := before.mem List.mem_cons_self
        rcases Nat.lt_or_ge i last with inside | after
        · obtain ⟨n, le, neighbours, join⟩ := ih List.mem_cons_self ge inside
          exact ⟨n, Nat.le_trans le (Nat.le_of_lt below), neighbours, join⟩
        · obtain ⟨latest, same, le⟩ := before.latest lt alive
          obtain rfl : (first, last) = latest := Option.some.inj same
          obtain rfl : i = last := Nat.le_antisymm le after
          refine ⟨k, Nat.le_refl _, ⟨below, ends, here, fun q gt lt' alive' => ?_⟩, join⟩
          obtain ⟨latest, same, le⟩ := before.latest lt' alive'
          obtain rfl : (first, i) = latest := Option.some.inj same
          exact absurd le (Nat.not_le.mpr gt)
      · exact ih (List.mem_cons_of_mem _ earlier) ge lt

/-- Neighbours that join are in one run. -/
theorem Runs.together (pass : Runs live joins k runs) (neighbours : Neighbours live p n)
    (lt : n < k) (join : joins p n) : ∃ run ∈ runs, run.1 ≤ p ∧ n ≤ run.2 := by
  induction pass with
  | empty => exact absurd lt (Nat.not_lt_zero n)
  | skip _ dead ih =>
      rcases Nat.lt_succ_iff_lt_or_eq.mp lt with before | rfl
      · exact ih before
      · exact absurd neighbours.last dead
  | start before _ apart ih =>
      rcases Nat.lt_succ_iff_lt_or_eq.mp lt with earlier | rfl
      · obtain ⟨run, member, inside⟩ := ih earlier
        exact ⟨run, List.mem_cons_of_mem _ member, inside⟩
      · obtain ⟨run, head, le⟩ := before.latest neighbours.lt neighbours.first
        obtain ⟨-, below, -, ends⟩ := before.mem (List.mem_of_mem_head? head)
        rcases Nat.lt_or_eq_of_le le with between | rfl
        · exact absurd ends (neighbours.none run.2 between below)
        · exact absurd join (apart run head)
  | @extend k first last runs before _ _ ih =>
      rcases Nat.lt_succ_iff_lt_or_eq.mp lt with earlier | rfl
      · obtain ⟨run, member, ge, le⟩ := ih earlier
        rcases List.mem_cons.mp member with rfl | other
        · exact ⟨_, List.mem_cons_self, ge, Nat.le_of_lt earlier⟩
        · exact ⟨run, List.mem_cons_of_mem _ other, ge, le⟩
      · obtain ⟨latest, same, le⟩ := before.latest neighbours.lt neighbours.first
        obtain rfl : (first, last) = latest := Option.some.inj same
        obtain ⟨ordered, below, -, ends⟩ := before.mem List.mem_cons_self
        rcases Nat.lt_or_eq_of_le le with between | rfl
        · exact absurd ends (neighbours.none _ between below)
        · exact ⟨_, List.mem_cons_self, ordered, Nat.le_refl _⟩

/-- Where neighbours that join have something in common, all live items of a run have. -/
theorem Runs.uniform {α : Type*} {value : Nat → α} (pass : Runs live joins k runs)
    (common : ∀ p n, joins p n → value p = value n) (member : run ∈ runs) (alive : live i)
    (ge : run.1 ≤ i) (le : i ≤ run.2) : value i = value run.2 := by
  induction left : run.2 - i using Nat.strong_induction_on generalizing i with
  | _ left ih =>
      rcases Nat.lt_or_eq_of_le le with lt | rfl
      · obtain ⟨n, within, neighbours, join⟩ := pass.next member alive ge lt
        have more := neighbours.lt
        rw [common i n join]
        exact ih (run.2 - n) (by omega) neighbours.last (by omega) within rfl
      · rfl

/-- An item that is not live and lies in a run is between neighbours that join. -/
theorem Runs.between (pass : Runs live joins k runs) (member : run ∈ runs) {q : Nat}
    (dead : ¬live q) (ge : run.1 ≤ q) (le : q ≤ run.2) :
    ∃ p n, Neighbours live p n ∧ joins p n ∧ p < q ∧ q < n ∧ n ≤ run.2 := by
  obtain ⟨-, -, first, last⟩ := pass.mem member
  have step : ∀ left p, live p → run.1 ≤ p → p < q → q - p = left →
      ∃ p n, Neighbours live p n ∧ joins p n ∧ p < q ∧ q < n ∧ n ≤ run.2 := by
    intro left
    induction left using Nat.strong_induction_on with
    | _ left ih =>
        intro p alive ge below away
        obtain ⟨n, within, neighbours, join⟩ := pass.next member alive ge (by omega)
        have more := neighbours.lt
        rcases Nat.lt_trichotomy n q with before | rfl | after
        · exact ih (q - n) (by omega) n neighbours.last (by omega) before rfl
        · exact absurd neighbours.last dead
        · exact ⟨p, n, neighbours, join, below, after, within⟩
  have strict : run.1 < q := by
    rcases Nat.lt_or_eq_of_le ge with lt | same
    · exact lt
    · exact absurd (same ▸ first) dead
  exact step _ run.1 first (Nat.le_refl _) strict rfl

end Runs

end Iwlwifi.Lib
