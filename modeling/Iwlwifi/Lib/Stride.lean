import Mathlib.Algebra.Ring.Nat
import Mathlib.Data.List.Basic

/-!
# Loops over a range in steps

The loop `for (i = first; i <= last; i += step)` over a 32-bit counter, whose body may leave
it early.  The counter wraps around, so such a loop need not end: `forUpTo` is given fuel and
reports the values it has visited.  `walk` is the list of values the loop visits if its body
never leaves it.  Where the walk ends, the loop of any body is a run over its list
(`forUpTo_of_walk`), and the walk ends exactly if some value of the counter is beyond the last
one (`walk_ends_iff`).
-/

namespace Iwlwifi.Lib

variable {β : Type*} {step last first : UInt32} {body : UInt32 → β → Except β β} {fuel : Nat}
  {values : List UInt32} {acc : β}

/-- The values that are visited, and the result.  `none` is out of fuel. -/
def forUpTo (step last : UInt32) (body : UInt32 → β → Except β β) :
    Nat → UInt32 → β → Option (List UInt32 × β)
  | 0, _, _ => none
  | fuel + 1, i, acc =>
    if i ≤ last then
      match body i acc with
      | .error result => some ([i], result)
      | .ok acc =>
        (forUpTo step last body fuel (i + step) acc).map fun out => (i :: out.1, out.2)
    else some ([], acc)

/-- The values of the counter. -/
def walk (step last : UInt32) : Nat → UInt32 → Option (List UInt32)
  | 0, _ => none
  | fuel + 1, i =>
    if i ≤ last then (walk step last fuel (i + step)).map (i :: ·) else some []

/-- A body over a list of values. -/
def runOver (body : UInt32 → β → Except β β) : List UInt32 → β → List UInt32 × β
  | [], acc => ([], acc)
  | i :: rest, acc =>
    match body i acc with
    | .error result => ([i], result)
    | .ok acc => (i :: (runOver body rest acc).1, (runOver body rest acc).2)

/-! ## The loop over a walk -/

theorem forUpTo_of_walk (ends : walk step last fuel first = some values) :
    forUpTo step last body fuel first acc = some (runOver body values acc) := by
  induction fuel generalizing first values acc with
  | zero => cases ends
  | succ fuel ih =>
    rw [walk] at ends
    rw [forUpTo]
    split
    · next inside =>
        rw [if_pos inside, Option.map_eq_some_iff] at ends
        obtain ⟨rest, ends, rfl⟩ := ends
        rw [runOver]
        cases body first acc with
        | error result => rfl
        | ok acc => simp only [ih ends, Option.map_some]
    · next outside =>
        rw [if_neg outside] at ends
        cases ends
        rfl

/-- A body that never leaves the loop walks it to its end. -/
theorem walk_of_forUpTo {out : List UInt32 × β}
    (stays : ∀ i acc, ∃ acc', body i acc = .ok acc')
    (ends : forUpTo step last body fuel first acc = some out) :
    ∃ values, walk step last fuel first = some values := by
  induction fuel generalizing first acc out with
  | zero => cases ends
  | succ fuel ih =>
    rw [forUpTo] at ends
    rw [walk]
    split
    · next inside =>
        obtain ⟨acc', on⟩ := stays first acc
        simp only [if_pos inside, on, Option.map_eq_some_iff] at ends
        obtain ⟨rest, ends, -⟩ := ends
        obtain ⟨values, walked⟩ := ih ends
        exact ⟨first :: values, by rw [walked, Option.map_some]⟩
    · exact ⟨[], rfl⟩

/-- A loop with a result that its body never leaves with walks to its end, and the body goes on
at each value. -/
theorem walk_of_result {visited : List UInt32} {result : β}
    (never : ∀ i acc, body i acc ≠ .error result)
    (run : forUpTo step last body fuel first acc = some (visited, result)) :
    ∃ values, walk step last fuel first = some values ∧
      ∀ i ∈ values, ∃ acc acc', body i acc = .ok acc' := by
  induction fuel generalizing first acc visited with
  | zero => cases run
  | succ fuel ih =>
    rw [forUpTo] at run
    rw [walk]
    split
    · next inside =>
        rw [if_pos inside] at run
        cases turn : body first acc with
        | error left =>
          simp only [turn, Option.some.injEq, Prod.mk.injEq] at run
          exact absurd (run.2 ▸ turn) (never first acc)
        | ok acc' =>
          simp only [turn, Option.map_eq_some_iff] at run
          obtain ⟨⟨rest, out⟩, run, same⟩ := run
          obtain rfl : out = result := (Prod.mk.inj same).2
          obtain ⟨values, walked, goesOn⟩ := ih run
          refine ⟨first :: values, by rw [walked, Option.map_some], fun i member => ?_⟩
          rcases List.mem_cons.mp member with rfl | later
          · exact ⟨acc, acc', turn⟩
          · exact goesOn i later
    · exact ⟨[], rfl, fun i member => absurd member List.not_mem_nil⟩

theorem walk_mono {more : Nat} (ends : walk step last fuel first = some values)
    (le : fuel ≤ more) : walk step last more first = some values := by
  induction fuel generalizing first values more with
  | zero => cases ends
  | succ fuel ih =>
    obtain ⟨more, rfl⟩ : ∃ n, more = n + 1 := ⟨more - 1, by omega⟩
    rw [walk] at ends ⊢
    split
    · next inside =>
        rw [if_pos inside, Option.map_eq_some_iff] at ends
        obtain ⟨rest, ends, rfl⟩ := ends
        rw [ih ends (by omega), Option.map_some]
    · next outside => rwa [if_neg outside] at ends

/-! ## The values of a walk -/

/-- The value of the counter after some turns. -/
def counter (step first : UInt32) (turns : Nat) : UInt32 := first + step * .ofNat turns

theorem counter_zero : counter step first 0 = first := by
  simp [counter]

theorem counter_succ (turns : Nat) :
    counter step first (turns + 1) = counter step (first + step) turns := by
  simp only [counter, UInt32.ofNat_add, UInt32.mul_add]
  rw [UInt32.add_assoc, UInt32.add_comm (step * _)]
  simp

theorem walk_ends_iff :
    (∃ fuel values, walk step last fuel first = some values) ↔
      ∃ turns, last < counter step first turns := by
  constructor
  · rintro ⟨fuel, values, ends⟩
    induction fuel generalizing first values with
    | zero => cases ends
    | succ fuel ih =>
      rw [walk] at ends
      split at ends
      · obtain ⟨rest, ends, -⟩ := Option.map_eq_some_iff.mp ends
        obtain ⟨turns, beyond⟩ := ih rest ends
        exact ⟨turns + 1, by rwa [counter_succ]⟩
      · next outside => exact ⟨0, by rw [counter_zero]; exact UInt32.not_le.mp outside⟩
  · rintro ⟨turns, beyond⟩
    induction turns generalizing first with
    | zero =>
      rw [counter_zero] at beyond
      exact ⟨1, [], by rw [walk, if_neg (UInt32.not_le.mpr beyond)]⟩
    | succ turns ih =>
      rw [counter_succ] at beyond
      obtain ⟨fuel, values, ends⟩ := ih beyond
      refine ⟨fuel + 1, ?_⟩
      rw [walk, ends]
      split
      · exact ⟨first :: values, rfl⟩
      · exact ⟨[], rfl⟩

/-- What a walk visits was reached without a value beyond the last one. -/
theorem counter_of_mem_walk {value : UInt32} (ends : walk step last fuel first = some values)
    (member : value ∈ values) :
    ∃ turns, value = counter step first turns ∧
      ∀ before ≤ turns, counter step first before ≤ last := by
  induction fuel generalizing first values with
  | zero => cases ends
  | succ fuel ih =>
    rw [walk] at ends
    split at ends
    · next inside =>
        rw [Option.map_eq_some_iff] at ends
        obtain ⟨rest, ends, rfl⟩ := ends
        rcases List.mem_cons.mp member with rfl | later
        · refine ⟨0, counter_zero.symm, fun before le => ?_⟩
          obtain rfl : before = 0 := by omega
          rwa [counter_zero]
        · obtain ⟨turns, here, earlier⟩ := ih ends later
          refine ⟨turns + 1, by rw [counter_succ, here], fun before le => ?_⟩
          cases before with
          | zero => rwa [counter_zero]
          | succ before =>
            rw [counter_succ]
            exact earlier before (by omega)
    · cases ends
      cases member

theorem mem_walk_of_counter {turns : Nat} (ends : walk step last fuel first = some values)
    (inside : ∀ before ≤ turns, counter step first before ≤ last) :
    counter step first turns ∈ values := by
  induction fuel generalizing first values turns with
  | zero => cases ends
  | succ fuel ih =>
    have here := inside 0 (Nat.zero_le _)
    rw [counter_zero] at here
    rw [walk, if_pos here, Option.map_eq_some_iff] at ends
    obtain ⟨rest, ends, rfl⟩ := ends
    cases turns with
    | zero =>
      rw [counter_zero]
      exact List.mem_cons_self
    | succ turns =>
      rw [counter_succ]
      refine List.mem_cons_of_mem first (ih ends fun before le => ?_)
      rw [← counter_succ]
      exact inside (before + 1) (by omega)

/-- As long as the counter does not wrap, it grows by the step. -/
theorem toNat_counter {turns : Nat} (fits : first.toNat + step.toNat * turns < 2 ^ 32) :
    (counter step first turns).toNat = first.toNat + step.toNat * turns := by
  rw [counter, UInt32.toNat_add, UInt32.toNat_mul, UInt32.toNat_ofNat', Nat.mul_mod_mod,
    Nat.add_mod_mod, Nat.mod_eq_of_lt fits]

/-- Without a wrap the walk is over the values from the first one to the last one. -/
theorem mem_walk_iff {value : UInt32} (ends : walk step last fuel first = some values)
    (grows : 0 < step.toNat) (fits : last.toNat + step.toNat < 2 ^ 32) :
    value ∈ values ↔ ∃ turns, value.toNat = first.toNat + step.toNat * turns ∧ value ≤ last := by
  constructor
  · intro member
    obtain ⟨turns, rfl, inside⟩ := counter_of_mem_walk ends member
    suffices sum : ∀ before ≤ turns, first.toNat + step.toNat * before < 2 ^ 32 from
      ⟨turns, toNat_counter (sum turns (Nat.le_refl _)), inside turns (Nat.le_refl _)⟩
    intro before le
    induction before with
    | zero =>
      rw [Nat.mul_zero, Nat.add_zero]
      exact first.toNat_lt
    | succ before ih =>
      have lower := UInt32.le_iff_toNat_le.mp (inside before (by omega))
      rw [toNat_counter (ih (by omega))] at lower
      rw [Nat.mul_add_one]
      omega
  · rintro ⟨turns, here, le⟩
    have top := UInt32.le_iff_toNat_le.mp le
    have low : ∀ before ≤ turns, first.toNat + step.toNat * before ≤ last.toNat := by
      intro before le
      have := Nat.mul_le_mul_left step.toNat le
      omega
    have small : ∀ before ≤ turns, first.toNat + step.toNat * before < 2 ^ 32 := by
      intro before le
      have := low before le
      have := last.toNat_lt
      omega
    have same : value = counter step first turns := by
      apply UInt32.toNat_inj.mp
      rw [here, toNat_counter (small turns (Nat.le_refl _))]
    rw [same]
    refine mem_walk_of_counter ends fun before le => ?_
    rw [UInt32.le_iff_toNat_le, toNat_counter (small before le)]
    exact low before le

/-! ## A body over a list -/

theorem runOver_subset : (runOver body values acc).1 ⊆ values := by
  induction values generalizing acc with
  | nil => exact List.Subset.refl _
  | cons i rest ih =>
    rw [runOver]
    split
    · exact fun j member => List.mem_singleton.mp member ▸ List.mem_cons_self
    · exact List.cons_subset_cons i ih

/-- A run keeps what its body keeps, or its result is one that the body left with. -/
theorem runOver_result {Q : β → Prop} (keep : ∀ i acc acc', Q acc → body i acc = .ok acc' → Q acc')
    (start : Q acc) :
    Q (runOver body values acc).2 ∨
      ∃ i ∈ values, ∃ acc', body i acc' = .error (runOver body values acc).2 := by
  induction values generalizing acc with
  | nil => exact Or.inl start
  | cons i rest ih =>
    rw [runOver]
    cases turn : body i acc with
    | error result => exact Or.inr ⟨i, List.mem_cons_self, acc, turn⟩
    | ok acc' =>
      rcases ih (keep i acc acc' start turn) with kept | ⟨j, member, acc', left⟩
      · exact Or.inl kept
      · exact Or.inr ⟨j, List.mem_cons_of_mem i member, acc', left⟩

/-- Where the body leaves at one of the values, it leaves there or before. -/
theorem runOver_leaves {P : β → Prop}
    (leaves : ∀ i acc result, body i acc = .error result → P result)
    {i : UInt32} (member : i ∈ values) (here : ∀ acc, ∃ result, body i acc = .error result) :
    P (runOver body values acc).2 := by
  induction values generalizing acc with
  | nil => cases member
  | cons j rest ih =>
    rw [runOver]
    cases turn : body j acc with
    | error result => exact leaves j acc result turn
    | ok acc' =>
      rcases List.mem_cons.mp member with rfl | later
      · obtain ⟨result, left⟩ := here acc
        cases left.symm.trans turn
      · exact ih later

end Iwlwifi.Lib
