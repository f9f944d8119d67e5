import Mathlib.Algebra.Order.Ring.Int
import Mathlib.Data.List.Lex
import Mathlib.Data.Prod.Lex

/-!
# Three-way comparisons

A comparison function gives an integer whose sign tells the order of its arguments.  `Compares`
ties the integer to the order of two ranks; comparisons that decide by one part first and go on
with another where that is equal compare ranks lexicographically.
-/

namespace Iwlwifi.Lib

/-- The integer is the result of comparing the two. -/
structure Compares {α : Type*} [LinearOrder α] (r : Int) (x y : α) : Prop where
  lt : r < 0 ↔ x < y
  eq : r = 0 ↔ x = y

section

variable {α β : Type*} [LinearOrder α] [LinearOrder β] {r r' : Int} {x y : α} {x' y' : β}

theorem Compares.gt (compares : Compares r x y) : 0 < r ↔ y < x := by
  have lt := compares.lt
  have eq := compares.eq
  constructor
  · intro positive
    rcases lt_trichotomy x y with less | same | greater
    · have := lt.mpr less
      omega
    · have := eq.mpr same
      omega
    · exact greater
  · intro greater
    have notLess : ¬ r < 0 := fun less => lt_asymm greater (lt.mp less)
    have other : r ≠ 0 := fun same => ne_of_gt greater (eq.mp same)
    omega

theorem Compares.le (compares : Compares r x y) : r ≤ 0 ↔ x ≤ y := by
  rw [← not_lt, compares.gt, not_lt]

theorem Compares.ge (compares : Compares r x y) : 0 ≤ r ↔ y ≤ x := by
  rw [← not_lt, compares.lt, not_lt]

/-- The first parts decide; where they are equal, the second parts do. -/
theorem Compares.prod (first : Compares r x y) (second : Compares r' x' y') :
    Compares (if r = 0 then r' else r) (toLex (x, x')) (toLex (y, y')) := by
  split
  · next zero =>
      have same := first.eq.mp zero
      refine ⟨?_, ?_⟩
      · rw [Prod.Lex.toLex_lt_toLex, second.lt, same]
        exact ⟨fun less => .inr ⟨rfl, less⟩, fun less =>
          less.elim (fun less => absurd less (lt_irrefl y)) And.right⟩
      · rw [toLex_inj, Prod.mk.injEq, second.eq]
        exact ⟨fun less => ⟨same, less⟩, And.right⟩
  · next other =>
      refine ⟨?_, ?_⟩
      · rw [Prod.Lex.toLex_lt_toLex, first.lt]
        exact ⟨.inl, fun less => less.elim id fun less =>
          absurd (first.eq.mpr less.1) other⟩
      · rw [toLex_inj, Prod.mk.injEq]
        exact iff_of_false other fun same => other (first.eq.mpr same.1)

end

theorem cons_le_cons_iff {a b : Int} {x y : List Int} :
    a :: x ≤ b :: y ↔ a < b ∨ a = b ∧ x ≤ y := by
  rw [le_iff_lt_or_eq, List.cons_lt_cons_iff, List.cons.injEq, le_iff_lt_or_eq, and_or_left,
    or_assoc]

/-- Different heads decide; with the same head the tails do. -/
theorem Compares.cons {r : Int} {x y : List Int} {a b : Int} (tails : a = b → Compares r x y) :
    Compares (if a = b then r else a - b) (a :: x) (b :: y) := by
  split
  · next same =>
      obtain ⟨lt, eq⟩ := tails same
      refine ⟨?_, ?_⟩
      · rw [List.cons_lt_cons_iff, lt, same]
        exact ⟨fun less => .inr ⟨rfl, less⟩, fun less =>
          less.elim (fun less => absurd less (lt_irrefl b)) And.right⟩
      · rw [List.cons.injEq, eq, same]
        exact ⟨fun less => ⟨rfl, less⟩, And.right⟩
  · next other =>
      refine ⟨?_, ?_⟩
      · rw [List.cons_lt_cons_iff]
        exact ⟨fun less => .inl (by omega), fun less =>
          less.elim (fun less => by omega) fun less => absurd less.1 other⟩
      · rw [List.cons.injEq]
        exact ⟨fun zero => absurd (by omega) other, fun same => absurd same.1 other⟩

end Iwlwifi.Lib
