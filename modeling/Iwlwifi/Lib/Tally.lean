import Mathlib.Algebra.Ring.Nat
import Mathlib.Algebra.BigOperators.Group.Finset.Basic
import Mathlib.Data.Fintype.Basic

/-!
# Counting over places

A population is kept in lists, one or more for each of finitely many owners.  A quantity
that is additive over the lists is followed through a step by what the step does to the
lists it touches: `weigh` is such a quantity of one list, and `sum_update` says what
changing one owner does to a sum over all of them.
-/

namespace Iwlwifi.Lib

open Function (update update_of_ne update_self)

variable {ι σ α : Type*}

/-- Changing one owner changes a sum over the owners by its own share. -/
theorem sum_update [Fintype ι] [DecidableEq ι] (f : ι → σ) (g : σ → Nat) (i : ι) (x : σ) :
    (∑ j, g (update f i x j)) + g (f i) = (∑ j, g (f j)) + g x := by
  have rest : ∀ h : ι → Nat, ∑ j, h j = h i + ∑ j ∈ Finset.univ.erase i, h j := fun h =>
    (Finset.add_sum_erase Finset.univ h (Finset.mem_univ i)).symm
  have others : ∑ j ∈ Finset.univ.erase i, g (update f i x j) =
      ∑ j ∈ Finset.univ.erase i, g (f j) :=
    Finset.sum_congr rfl fun j member => by
      rw [update_of_ne (Finset.ne_of_mem_erase member)]
  rw [rest (fun j => g (update f i x j)), rest (fun j => g (f j)), others,
    update_self]
  omega

/-- The weights of the members of a list. -/
def weigh (w : α → Nat) (l : List α) : Nat := (l.map w).sum

variable {l : List α}

section

variable (w : α → Nat)

@[simp] theorem weigh_nil : weigh w [] = 0 := rfl

@[simp] theorem weigh_cons (a : α) (l : List α) : weigh w (a :: l) = w a + weigh w l := by
  rw [weigh, List.map_cons, List.sum_cons]
  rfl

@[simp] theorem weigh_append (l l' : List α) : weigh w (l ++ l') = weigh w l + weigh w l' := by
  rw [weigh, List.map_append, List.sum_append]
  rfl

@[simp] theorem weigh_reverse (l : List α) : weigh w l.reverse = weigh w l := by
  rw [weigh, List.map_reverse, List.sum_reverse]
  rfl

theorem weigh_le_weigh {w w' : α → Nat} (le : ∀ a, w a ≤ w' a) (l : List α) :
    weigh w l ≤ weigh w' l := by
  induction l with
  | nil => exact Nat.le_refl 0
  | cons a l ih =>
      rw [weigh_cons, weigh_cons]
      exact Nat.add_le_add (le a) ih

/-- One taken off every member that has weight makes a list that has weight lighter. -/
theorem weigh_pred_lt (heavy : 0 < weigh w l) : weigh (fun a => w a - 1) l < weigh w l := by
  induction l with
  | nil => simp at heavy
  | cons a l ih =>
      rw [weigh_cons] at heavy
      rw [weigh_cons, weigh_cons]
      rcases Nat.eq_zero_or_pos (w a) with light | heavy'
      · have := ih (by omega)
        omega
      · have := weigh_le_weigh (fun a => Nat.sub_le (w a) 1) l
        omega

theorem weigh_take_add_drop (n : Nat) (l : List α) :
    weigh w (l.take n) + weigh w (l.drop n) = weigh w l := by
  rw [← weigh_append, List.take_append_drop]

theorem weigh_set {i : Nat} {a : α} (found : l[i]? = some a) (b : α) :
    weigh w (l.set i b) + w a = weigh w l + w b := by
  induction l generalizing i with
  | nil => simp at found
  | cons x l ih =>
      cases i with
      | zero =>
          obtain rfl : x = a := by simpa using found
          rw [List.set_cons_zero, weigh_cons, weigh_cons]
          omega
      | succ i =>
          have := ih (by simpa using found)
          rw [List.set_cons_succ, weigh_cons, weigh_cons]
          omega

theorem weigh_eraseIdx (l : List α) (i : Nat) (h : i < l.length) :
    w l[i] + weigh w (l.eraseIdx i) = weigh w l := by
  induction l generalizing i with
  | nil => cases h
  | cons a l ih =>
      cases i with
      | zero => rw [List.eraseIdx_cons_zero, weigh_cons, List.getElem_cons_zero]
      | succ i =>
          have := ih i (Nat.lt_of_succ_lt_succ h)
          rw [List.eraseIdx_cons_succ, weigh_cons, weigh_cons, List.getElem_cons_succ]
          omega

end

theorem weigh_congr {w w' : α → Nat} (same : ∀ a ∈ l, w a = w' a) : weigh w l = weigh w' l := by
  rw [weigh, weigh, List.map_congr_left same]

theorem weigh_add (w w' : α → Nat) (l : List α) :
    weigh (fun a => w a + w' a) l = weigh w l + weigh w' l := by
  induction l with
  | nil => rfl
  | cons a l ih =>
      rw [weigh_cons, weigh_cons, weigh_cons, ih]
      omega

theorem countP_eq_weigh (p : α → Bool) (l : List α) :
    l.countP p = weigh (fun a => (p a).toNat) l := by
  induction l with
  | nil => rfl
  | cons a l ih =>
      rw [List.countP_cons, weigh_cons, ih]
      cases p a <;> simp [Nat.add_comm]

/-- In a list without repetitions, changing the weight of one member changes the sum by that. -/
theorem weigh_update [DecidableEq α] (w : α → Nat) (nodup : l.Nodup) {a : α} (member : a ∈ l)
    (n : Nat) : weigh (update w a n) l + w a = weigh w l + n := by
  induction l with
  | nil => cases member
  | cons b l ih =>
      obtain ⟨fresh, nodup⟩ := List.nodup_cons.mp nodup
      rw [weigh_cons, weigh_cons]
      by_cases here : a = b
      · have rest : weigh (update w a n) l = weigh w l := by
          refine weigh_congr fun c within => ?_
          have other : c ≠ a := by
            rintro rfl
            exact fresh (here ▸ within)
          rw [update_of_ne other]
        rw [rest, ← here, update_self]
        omega
      · have := ih nodup ((List.mem_cons.mp member).resolve_left here)
        rw [update_of_ne (Ne.symm here)]
        omega

theorem weigh_erase [DecidableEq α] (w : α → Nat) {a : α} (member : a ∈ l) :
    weigh w (l.erase a) + w a = weigh w l := by
  induction l with
  | nil => cases member
  | cons b l ih =>
      by_cases here : b = a
      · rw [here, List.erase_cons_head, weigh_cons]
        omega
      · have := ih ((List.mem_cons.mp member).resolve_left (Ne.symm here))
        rw [List.erase_cons_tail (by simpa using here), weigh_cons, weigh_cons]
        omega

/-- Members counted one each. -/
theorem weigh_one (l : List α) : weigh (fun _ => 1) l = l.length := by
  induction l with
  | nil => rfl
  | cons a l ih => rw [weigh_cons, ih, List.length_cons, Nat.add_comm]

end Iwlwifi.Lib
