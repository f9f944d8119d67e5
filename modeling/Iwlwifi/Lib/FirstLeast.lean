import Mathlib.Order.Basic

/-!
# The first least value of a bounded search

A loop that keeps the best sample so far replaces it only by a strictly better one, and
starts from a bound that stands for no sample.  After `n` samples it holds the first
index whose value is least among the first `n`, if that value is below the bound.
-/

namespace Iwlwifi.Lib

variable {α : Type*} [LE α] [LT α]

/-- `j` is the first index below `n` at which `f` is least, with a value below the bound. -/
structure IsFirstLeast (f : Nat → α) (bound : α) (n j : Nat) : Prop where
  lt : j < n
  below : f j < bound
  least : ∀ k < n, f j ≤ f k
  first : ∀ k < j, f j < f k

/-- The index held after `n` samples. -/
def firstLeast [DecidableLT α] (f : Nat → α) (bound : α) : Nat → Option Nat
  | 0 => none
  | n + 1 =>
      if f n < ((firstLeast f bound n).map f).getD bound then some n else firstLeast f bound n

variable [Std.LawfulOrderLT α] [Std.IsLinearOrder α] {f : Nat → α} {bound : α} {n i j : Nat}

/-- There is at most one such index. -/
theorem IsFirstLeast.unique (left : IsFirstLeast f bound n i)
    (right : IsFirstLeast f bound n j) : i = j := by
  rcases Nat.lt_trichotomy i j with before | same | after
  · have earlier := right.first i before
    have least := left.least j right.lt
    grind
  · exact same
  · have earlier := left.first j after
    have least := right.least i left.lt
    grind

/-- A strictly better value than all before is the first least one. -/
theorem IsFirstLeast.of_better (below : f n < bound) (better : ∀ k < n, f n < f k) :
    IsFirstLeast f bound (n + 1) n where
  lt := n.lt_succ_self
  below := below
  least := Nat.forall_lt_succ_right.mpr
    ⟨fun k before => Std.le_of_lt (better k before), Std.le_refl _⟩
  first := better

/-- A first least value stays so next to one that is not better. -/
theorem IsFirstLeast.succ (isLeast : IsFirstLeast f bound n j) (notBetter : ¬f n < f j) :
    IsFirstLeast f bound (n + 1) j where
  lt := Nat.lt_succ_of_lt isLeast.lt
  below := isLeast.below
  least := Nat.forall_lt_succ_right.mpr ⟨isLeast.least, Std.not_lt.mp notBetter⟩
  first := isLeast.first

/-- The loop holds the first least index, or every value so far is at or above the bound. -/
theorem firstLeast_cases [DecidableLT α] (f : Nat → α) (bound : α) (n : Nat) :
    (firstLeast f bound n = none ∧ ∀ k < n, bound ≤ f k) ∨
      ∃ j, firstLeast f bound n = some j ∧ IsFirstLeast f bound n j := by
  induction n with
  | zero => exact .inl ⟨rfl, by omega⟩
  | succ n ih =>
      rw [firstLeast]
      rcases ih with ⟨none, above⟩ | ⟨j, held, isLeast⟩
      · rw [none, Option.map_none, Option.getD_none]
        split
        · next below =>
            exact .inr ⟨n, rfl, .of_better below fun k before =>
              Std.lt_of_lt_of_le below (above k before)⟩
        · next notBelow =>
            exact .inl ⟨rfl, Nat.forall_lt_succ_right.mpr ⟨above, Std.not_lt.mp notBelow⟩⟩
      · rw [held, Option.map_some, Option.getD_some]
        split
        · next better =>
            exact .inr ⟨n, rfl, .of_better (Std.lt_trans better isLeast.below) fun k before =>
              Std.lt_of_lt_of_le better (isLeast.least k before)⟩
        · next notBetter => exact .inr ⟨j, rfl, isLeast.succ notBetter⟩

/-- What the loop holds, as the first least index. -/
theorem firstLeast_eq_some [DecidableLT α] (isLeast : IsFirstLeast f bound n j) :
    firstLeast f bound n = some j := by
  rcases firstLeast_cases f bound n with ⟨-, above⟩ | ⟨i, held, isLeast'⟩
  · have := above j isLeast.lt
    have := isLeast.below
    grind
  · rw [held, isLeast'.unique isLeast]

end Iwlwifi.Lib
