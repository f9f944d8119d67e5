import Mathlib.Data.List.Basic

/-!
# Scattered data

A byte string that lies in several regions, and is handed out in shares whose ends need not be
region ends.  `cut n regions` are the pieces that make up the first `n` elements, one for each
region touched, and the regions that are left.  The last region is never dropped, so a list of
regions stays nonempty.
-/

namespace Iwlwifi.Lib

variable {α : Type*} {n : Nat} {piece : List α} {regions : List (List α)}

def cut : Nat → List (List α) → List (List α) × List (List α)
  | _, [] => ([], [])
  | n, region :: rest =>
      if n = 0 then ([], region :: rest)
      else if n < region.length ∨ rest = [] then ([region.take n], region.drop n :: rest)
      else (region :: (cut (n - region.length) rest).1, (cut (n - region.length) rest).2)

/-- The pieces of consecutive shares. -/
def cutShares : List Nat → List (List α) → List (List (List α))
  | [], _ => []
  | n :: shares, regions => (cut n regions).1 :: cutShares shares (cut n regions).2

@[simp] theorem cut_zero (regions : List (List α)) : cut 0 regions = ([], regions) := by
  cases regions <;> simp [cut]

/-- Pieces and rest together are what was there. -/
theorem cut_flatten (enough : n ≤ regions.flatten.length) :
    (cut n regions).1.flatten = regions.flatten.take n ∧
      (cut n regions).2.flatten = regions.flatten.drop n := by
  induction regions generalizing n with
  | nil => simp [cut]
  | cons region rest ih =>
      rw [List.flatten_cons, List.length_append] at enough
      simp only [cut, List.flatten_cons]
      split
      · next none =>
          rw [none]
          exact ⟨rfl, rfl⟩
      split
      · next inside =>
          have within : n ≤ region.length := by
            rcases inside with less | empty
            · exact Nat.le_of_lt less
            · rw [empty, List.flatten_nil, List.length_nil] at enough
              exact enough
          refine ⟨?_, (List.drop_append_of_le_length within).symm⟩
          rw [List.flatten_singleton]
          exact (List.take_append_of_le_length within).symm
      · next beyond =>
          have past : region.length ≤ n := Nat.not_lt.mp fun less => beyond (Or.inl less)
          obtain ⟨pieces, left⟩ := ih (show n - region.length ≤ rest.flatten.length by omega)
          rw [List.flatten_cons, pieces, left, List.take_append, List.drop_append,
            List.take_of_length_le past, List.drop_of_length_le past, List.nil_append]
          exact ⟨rfl, rfl⟩

/-- Every piece but one uses up a region. -/
theorem cut_length (nonempty : regions ≠ []) :
    (cut n regions).1.length + (cut n regions).2.length ≤ regions.length + 1 ∧
      (cut n regions).2.length ≤ regions.length ∧ (cut n regions).2 ≠ [] := by
  induction regions generalizing n with
  | nil => exact absurd rfl nonempty
  | cons region rest ih =>
      simp only [cut]
      split
      · simp
      split
      · simp only [List.length_cons, List.length_nil]
        exact ⟨by omega, Nat.le_refl _, List.cons_ne_nil _ _⟩
      · next beyond =>
          have more : rest ≠ [] := fun empty => beyond (Or.inr empty)
          obtain ⟨bound, fewer, left⟩ := ih (n := n - region.length) more
          refine ⟨?_, ?_, left⟩ <;> simp only [List.length_cons] <;> omega

theorem length_le_of_mem_cut (mem : piece ∈ (cut n regions).1) : piece.length ≤ n := by
  induction regions generalizing n with
  | nil => simp [cut] at mem
  | cons region rest ih =>
      simp only [cut] at mem
      split at mem
      · cases mem
      split at mem
      · obtain rfl := List.mem_singleton.mp mem
        exact List.length_take_le n region
      · next beyond =>
          have past : region.length ≤ n := Nat.not_lt.mp fun less => beyond (Or.inl less)
          cases mem with
          | head => exact past
          | tail _ mem =>
              have := ih mem
              omega

end Iwlwifi.Lib
