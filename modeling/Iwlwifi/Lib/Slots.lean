import Mathlib.Algebra.Order.BigOperators.Group.Finset
import Mathlib.Data.Finset.Range
import Mathlib.Logic.Function.Basic

/-!
# Families of queues

A table of `n` queues is a function from slot numbers to lists.  `held slots n` is the
number of elements the first `n` slots hold; replacing one slot changes it by the
difference of the two lengths, so a counter kept beside such a table stays right when
it is moved by that difference.  `marked p table n` is the number of slots with a property,
which a replaced slot changes in the same way.
-/

namespace Iwlwifi.Lib

open Function (update update_of_ne update_self)

variable {α : Type*}

/-- The number of elements the first `n` slots hold. -/
def held (slots : Nat → List α) (n : Nat) : Nat :=
  ∑ i ∈ Finset.range n, (slots i).length

variable {slots : Nat → List α} {n i j : Nat}

/-- Replacing a slot moves the count by the difference of the lengths. -/
theorem held_update (slots : Nat → List α) (bound : i < n) (elems : List α) :
    held (update slots i elems) n + (slots i).length =
      held slots n + elems.length := by
  have member : i ∈ Finset.range n := Finset.mem_range.mpr bound
  have others : ∀ j ∈ (Finset.range n).erase i,
      (update slots i elems j).length = (slots j).length := by
    intro j inRest
    rw [update_of_ne (Finset.ne_of_mem_erase inRest)]
  simp only [held]
  rw [← Finset.sum_erase_add _ _ member, ← Finset.sum_erase_add _ _ member,
    Finset.sum_congr rfl others, update_self]
  omega

theorem held_eq_zero_iff : held slots n = 0 ↔ ∀ i < n, slots i = [] := by
  simp [held, Finset.sum_eq_zero_iff]

theorem exists_ne_nil_of_held (nonempty : held slots n ≠ 0) : ∃ i < n, slots i ≠ [] := by
  by_contra none
  exact nonempty (held_eq_zero_iff.mpr (by simpa using none))

/-- A table none of whose slots holds more than `k` elements. -/
theorem held_le_mul {k : Nat} (each : ∀ i < n, (slots i).length ≤ k) :
    held slots n ≤ n * k := by
  have total := Finset.sum_le_card_nsmul (Finset.range n) (fun i => (slots i).length) k
    fun i inRange => each i (Finset.mem_range.mp inRange)
  simpa [held] using total

/-! ## Slots with a property -/

variable {β : Type*} {p : β → Bool} {table table' : Nat → β}

/-- How many of the first `n` slots have the property. -/
def marked (p : β → Bool) (table : Nat → β) (n : Nat) : Nat :=
  ∑ i ∈ Finset.range n, (p (table i)).toNat

theorem marked_congr (same : ∀ i < n, p (table i) = p (table' i)) :
    marked p table n = marked p table' n :=
  Finset.sum_congr rfl fun i member => by rw [same i (Finset.mem_range.mp member)]

/-- Replacing a slot moves the number by what the slot was and is. -/
theorem marked_update (table : Nat → β) (bound : i < n) (value : β) :
    marked p (update table i value) n + (p (table i)).toNat =
      marked p table n + (p value).toNat := by
  have member : i ∈ Finset.range n := Finset.mem_range.mpr bound
  have others : ∀ j ∈ (Finset.range n).erase i,
      (p (update table i value j)).toNat = (p (table j)).toNat := by
    intro j inRest
    rw [update_of_ne (Finset.ne_of_mem_erase inRest)]
  simp only [marked]
  rw [← Finset.sum_erase_add _ _ member, ← Finset.sum_erase_add _ _ member,
    Finset.sum_congr rfl others, update_self]
  omega

theorem marked_eq_zero_iff : marked p table n = 0 ↔ ∀ i < n, p (table i) = false := by
  simp [marked, Finset.sum_eq_zero_iff]

theorem marked_le : marked p table n ≤ n := by
  have total := Finset.sum_le_card_nsmul (Finset.range n) (fun i => (p (table i)).toNat) 1
    fun i _ => Bool.toNat_le _
  simpa [marked] using total

end Iwlwifi.Lib
