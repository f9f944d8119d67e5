import Mathlib.Data.Nat.ModEq
import Mathlib.Logic.Function.Basic

/-!
# Positions on a ring

A ring of `n` slots is addressed by positions modulo `n`.  `ringDist n a b` is the number
of steps from `a` forward to `b`; it depends on the residues only, and steps fewer than
`n` are told apart by them.

`Holds slots n start items` says that the items stand in the slots of the positions from
`start` on, in order.  Putting an item on the next position and taking the first one away
keep it, as long as there are fewer than `n` of them.
-/

namespace Iwlwifi.Lib

/-- The steps from `a` forward to `b` on a ring of `n` slots. -/
def ringDist (n a b : Nat) : Nat := (b + (n - a % n)) % n

variable {n a b i j k : Nat}

theorem ringDist_lt (room : 0 < n) : ringDist n a b < n := Nat.mod_lt _ room

/-- The distance by the residues. -/
theorem ringDist_eq_ite (room : 0 < n) (a b : Nat) :
    ringDist n a b = if a % n ≤ b % n then b % n - a % n else b % n + n - a % n := by
  have smallA := Nat.mod_lt a room
  have smallB := Nat.mod_lt b room
  rw [ringDist, Nat.add_mod]
  generalize a % n = x at *
  generalize b % n = y at *
  rcases Nat.eq_zero_or_pos x with rfl | positive
  · rw [Nat.sub_zero, Nat.mod_self, if_pos (Nat.zero_le y), Nat.add_zero,
      Nat.mod_eq_of_lt smallB, Nat.sub_zero]
  · rw [Nat.mod_eq_of_lt (show n - x < n by omega)]
    split
    · rw [Nat.mod_eq_sub_mod (by omega), Nat.mod_eq_of_lt (by omega)]
      omega
    · rw [Nat.mod_eq_of_lt (by omega)]
      omega

/-- Going the distance arrives. -/
theorem add_ringDist (room : 0 < n) (a b : Nat) : (a + ringDist n a b) % n = b % n := by
  have smallA := Nat.mod_lt a room
  have smallB := Nat.mod_lt b room
  rw [ringDist_eq_ite room, Nat.add_mod]
  generalize a % n = x at *
  generalize b % n = y at *
  split
  · rw [Nat.mod_eq_of_lt (show y - x < n by omega), Nat.mod_eq_of_lt (by omega)]
    omega
  · rw [Nat.mod_eq_of_lt (show y + n - x < n by omega), Nat.mod_eq_sub_mod (by omega),
      Nat.mod_eq_of_lt (by omega)]
    omega

/-- Fewer than `n` steps are told apart by where they arrive. -/
theorem eq_of_add_mod (before : i < n) (before' : j < n) (same : (a + i) % n = (a + j) % n) :
    i = j := by
  have residues : i % n = j % n := Nat.ModEq.add_left_cancel' a same
  rwa [Nat.mod_eq_of_lt before, Nat.mod_eq_of_lt before'] at residues

/-- The distance is the number of steps below `n` that arrives. -/
theorem ringDist_eq (before : k < n) (arrives : (a + k) % n = b % n) : ringDist n a b = k := by
  have room : 0 < n := by omega
  exact eq_of_add_mod (ringDist_lt room) before ((add_ringDist room a b).trans arrives.symm)

theorem ringDist_self (room : 0 < n) (a : Nat) : ringDist n a a = 0 := ringDist_eq room rfl

/-- Only the residues matter. -/
theorem ringDist_mod_right (a b : Nat) : ringDist n a (b % n) = ringDist n a b := by
  rw [ringDist, ringDist, Nat.mod_add_mod]

/-- One step further, as long as the ring is not full. -/
theorem ringDist_succ (before : ringDist n a b + 1 < n) :
    ringDist n a ((b + 1) % n) = ringDist n a b + 1 := by
  refine ringDist_eq before ?_
  rw [Nat.mod_mod, ← Nat.add_assoc]
  exact Nat.ModEq.add_right 1 (add_ringDist (by omega) a b)

/-- Fewer steps remain after some of them. -/
theorem ringDist_add (room : 0 < n) (le : k ≤ ringDist n a b) :
    ringDist n ((a + k) % n) b = ringDist n a b - k := by
  have less := ringDist_lt (a := a) (b := b) room
  refine ringDist_eq (by omega) ?_
  rw [Nat.mod_add_mod, Nat.add_assoc, Nat.add_sub_cancel' le]
  exact add_ringDist room a b

/-! ## Items on a ring -/

variable {α : Type*} {slots : Nat → Option α} {start : Nat} {items : List α}

/-- The items stand in the slots from `start` on. -/
def Holds (slots : Nat → Option α) (n start : Nat) (items : List α) : Prop :=
  ∀ i (before : i < items.length), slots ((start + i) % n) = some items[i]

theorem Holds.nil : Holds slots n start ([] : List α) := fun _ before => by cases before

/-- Another start with the same residue. -/
theorem Holds.congr {start' : Nat} (holds : Holds slots n start items)
    (same : start' % n = start % n) : Holds slots n start' items := by
  intro i before
  rw [Nat.ModEq.add_right i same]
  exact holds i before

/-- A slot that holds none of the items may change. -/
theorem Holds.update_of_ne {slot : Nat} {value : Option α} (holds : Holds slots n start items)
    (other : ∀ i < items.length, (start + i) % n ≠ slot) :
    Holds (Function.update slots slot value) n start items := by
  intro i before
  rw [Function.update_of_ne (other i before)]
  exact holds i before

/-- Putting an item on the next position. -/
theorem Holds.push (holds : Holds slots n start items) (room : items.length < n) (item : α) :
    Holds (Function.update slots ((start + items.length) % n) (some item)) n start
      (items ++ [item]) := by
  intro i before
  rcases Nat.lt_or_ge i items.length with old | isNew
  · have other : (start + i) % n ≠ (start + items.length) % n := by
      intro same
      have := eq_of_add_mod (by omega) room same
      omega
    rw [Function.update_of_ne other, List.getElem_append_left old]
    exact holds i old
  · rw [List.length_append, List.length_singleton] at before
    obtain rfl : i = items.length := by omega
    rw [Function.update_self, List.getElem_append_right (Nat.le_refl _)]
    simp

theorem Holds.head {item : α} (holds : Holds slots n start (item :: items)) :
    slots (start % n) = some item :=
  holds 0 (Nat.zero_lt_succ _)

/-- Taking the first item away. -/
theorem Holds.tail {item : α} (holds : Holds slots n start (item :: items))
    (room : (item :: items).length ≤ n) :
    Holds (Function.update slots (start % n) none) n (start + 1) items := by
  rw [List.length_cons] at room
  intro i before
  have other : (start + 1 + i) % n ≠ start % n := by
    intro same
    have same : (start + (1 + i)) % n = (start + 0) % n := by
      rw [← Nat.add_assoc, Nat.add_zero]
      exact same
    have := eq_of_add_mod (by omega) (by omega) same
    omega
  rw [Function.update_of_ne other, Nat.add_assoc, Nat.add_comm 1 i]
  exact holds (i + 1) (by rw [List.length_cons]; omega)

/-- The slots after those of `k` positions from `start` on were emptied. -/
def clear (slots : Nat → Option α) (n start k : Nat) : Nat → Option α :=
  fun slot => if ∃ i < k, (start + i) % n = slot then none else slots slot

theorem clear_zero : clear slots n start 0 = slots := by
  funext slot
  rw [clear, if_neg (fun ⟨_, before, _⟩ => by omega)]

theorem clear_succ :
    clear (Function.update slots (start % n) none) n (start + 1) k =
      clear slots n start (k + 1) := by
  funext slot
  have first : (∃ i < k + 1, (start + i) % n = slot) ↔
      start % n = slot ∨ ∃ i < k, (start + 1 + i) % n = slot := by
    constructor
    · rintro ⟨i, before, at_slot⟩
      cases i with
      | zero => exact .inl at_slot
      | succ i => exact .inr ⟨i, by omega, by rwa [Nat.add_assoc, Nat.add_comm 1 i]⟩
    · rintro (at_slot | ⟨i, before, at_slot⟩)
      · exact ⟨0, by omega, at_slot⟩
      · exact ⟨i + 1, by omega, by rwa [Nat.add_comm i 1, ← Nat.add_assoc]⟩
  unfold clear
  by_cases here : start % n = slot
  · rw [if_pos (first.mpr (.inl here)), here, Function.update_self, ite_self]
  · rw [Function.update_of_ne (Ne.symm here)]
    exact if_congr ((first.trans (or_iff_right here)).symm) rfl rfl

/-- Only the residue of the start matters. -/
theorem clear_congr {start' : Nat} (same : start' % n = start % n) :
    clear slots n start' k = clear slots n start k := by
  funext slot
  unfold clear
  refine if_congr ?_ rfl rfl
  exact exists_congr fun i => and_congr_right fun _ => by rw [Nat.ModEq.add_right i same]

/-- The items after the first ones, with the slots of these emptied. -/
theorem Holds.clear {first rest : List α} (holds : Holds slots n start (first ++ rest))
    (room : (first ++ rest).length ≤ n) :
    Holds (clear slots n start first.length) n (start + first.length) rest := by
  induction first generalizing slots start with
  | nil =>
      rw [List.length_nil, clear_zero, Nat.add_zero]
      exact holds
  | cons item first ih =>
      rw [List.cons_append] at holds room
      rw [List.length_cons, ← clear_succ, Nat.add_comm first.length 1, ← Nat.add_assoc]
      refine ih (holds.tail room) ?_
      rw [List.length_cons] at room
      omega

end Iwlwifi.Lib
