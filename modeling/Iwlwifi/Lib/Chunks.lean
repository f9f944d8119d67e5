import Mathlib.Data.List.Basic
import Mathlib.Tactic.Ring

/-!
# Cutting a list into runs of a given length

`chunks n l` are the consecutive runs of `n` elements of `l`; only the last one may be
shorter.  The run length may be any positive number, so the recursion counts down the length
of the list.
-/

namespace Iwlwifi.Lib

variable {α : Type*} {n k : Nat} {l c : List α}

def chunksFrom (n : Nat) : Nat → List α → List (List α)
  | 0, _ => []
  | _ + 1, [] => []
  | fuel + 1, a :: l => (a :: l).take n :: chunksFrom n fuel ((a :: l).drop n)

def chunks (n : Nat) (l : List α) : List (List α) :=
  chunksFrom n l.length l

theorem chunksFrom_eq_of_le (positive : 0 < n) {fuel fuel' : Nat} (enough : l.length ≤ fuel)
    (enough' : l.length ≤ fuel') : chunksFrom n fuel l = chunksFrom n fuel' l := by
  induction fuel generalizing l fuel' with
  | zero =>
      obtain rfl := List.length_eq_zero_iff.mp (Nat.le_zero.mp enough)
      cases fuel' <;> rfl
  | succ fuel ih =>
      cases l with
      | nil => cases fuel' <;> rfl
      | cons a l =>
          cases fuel' with
          | zero => simp at enough'
          | succ fuel' =>
              simp only [List.length_cons] at enough enough'
              have shorter : ((a :: l).drop n).length ≤ fuel := by
                rw [List.length_drop, List.length_cons]
                omega
              have shorter' : ((a :: l).drop n).length ≤ fuel' := by
                rw [List.length_drop, List.length_cons]
                omega
              simp only [chunksFrom]
              rw [ih shorter shorter']

theorem chunks_eq_cons (positive : 0 < n) (nonempty : l ≠ []) :
    chunks n l = l.take n :: chunks n (l.drop n) := by
  cases l with
  | nil => exact absurd rfl nonempty
  | cons a l =>
      have shorter : ((a :: l).drop n).length ≤ l.length := by
        rw [List.length_drop, List.length_cons]
        omega
      simp only [chunks, List.length_cons, chunksFrom]
      rw [chunksFrom_eq_of_le positive shorter le_rfl]

/-- The induction the runs of a list call for: from what follows the first run to the list. -/
theorem chunks_induction {motive : List α → Prop} (positive : 0 < n) (nil : motive [])
    (cons : ∀ l, l ≠ [] → motive (l.drop n) → motive l) (l : List α) : motive l := by
  induction length : l.length using Nat.strong_induction_on generalizing l with
  | _ m ih =>
      by_cases empty : l = []
      · rw [empty]
        exact nil
      · have long := List.length_pos_iff.mpr empty
        refine cons l empty (ih _ ?_ _ rfl)
        rw [List.length_drop]
        omega

theorem flatten_chunks (positive : 0 < n) (l : List α) : (chunks n l).flatten = l := by
  induction l using chunks_induction positive with
  | nil => rfl
  | cons l nonempty ih =>
      rw [chunks_eq_cons positive nonempty, List.flatten_cons, ih, List.take_append_drop]

theorem length_le_of_mem_chunks (positive : 0 < n) (mem : c ∈ chunks n l) : c.length ≤ n := by
  induction l using chunks_induction positive with
  | nil => cases mem
  | cons l nonempty ih =>
      rw [chunks_eq_cons positive nonempty] at mem
      cases mem with
      | head => exact List.length_take_le n l
      | tail _ mem => exact ih mem

theorem chunks_length_le (positive : 0 < n) (bound : l.length ≤ k * n) :
    (chunks n l).length ≤ k := by
  induction l using chunks_induction positive generalizing k with
  | nil => exact Nat.zero_le k
  | cons l nonempty ih =>
      cases k with
      | zero =>
          rw [Nat.zero_mul] at bound
          exact absurd (List.length_eq_zero_iff.mp (Nat.le_zero.mp bound)) nonempty
      | succ k =>
          rw [Nat.succ_mul] at bound
          have rest := ih (k := k) (by rw [List.length_drop]; omega)
          rw [chunks_eq_cons positive nonempty, List.length_cons]
          omega

/-- A list longer than one run is cut into two runs at least. -/
theorem two_le_chunks_length (positive : 0 < n) (long : n < l.length) :
    2 ≤ (chunks n l).length := by
  have nonempty : l ≠ [] := List.ne_nil_of_length_pos (by omega)
  have rest : l.drop n ≠ [] := List.ne_nil_of_length_pos (by rw [List.length_drop]; omega)
  rw [chunks_eq_cons positive nonempty, chunks_eq_cons positive rest]
  simp only [List.length_cons]
  omega

end Iwlwifi.Lib
