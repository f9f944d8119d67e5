import Iwlwifi.Lib.Tally

/-!
# A walk over the head of a list

A loop over a list that stops at the first entry failing a test, and that may change or unlink
each entry it passes and say something about it.  `sweep` is such a loop: what is left of the
list, and everything that was said.  A quantity that every visit conserves between the entry and
what is said of it is conserved by the whole walk, a property that every visit hands on holds of
what is left, and the entry that comes first afterwards is one that was passed and kept or one
that failed the test.
-/

namespace Iwlwifi.Lib

variable {α β : Type*}

/-- Visits the entries up to the first that fails the test; a visit gives what stands in the
entry's place, if anything, and what it says. -/
def sweep (p : α → Bool) (visit : α → Option α × List β) : List α → List α × List β
  | [] => ([], [])
  | a :: l =>
      if p a then
        ((visit a).1.toList ++ (sweep p visit l).1, (visit a).2 ++ (sweep p visit l).2)
      else
        (a :: l, [])

variable {p : α → Bool} {visit : α → Option α × List β} {l : List α}

theorem sweep_cons_pos {a : α} (passed : p a = true) :
    sweep p visit (a :: l) =
      ((visit a).1.toList ++ (sweep p visit l).1, (visit a).2 ++ (sweep p visit l).2) :=
  if_pos passed

theorem sweep_cons_neg {a : α} (failed : p a = false) :
    sweep p visit (a :: l) = (a :: l, []) :=
  if_neg (by rw [failed]; exact Bool.false_ne_true)

/-- What every visit conserves, the walk conserves. -/
theorem weigh_sweep {w : α → Nat} {v : β → Nat}
    (conserved : ∀ a, p a = true → weigh w (visit a).1.toList + weigh v (visit a).2 = w a)
    (l : List α) :
    weigh w (sweep p visit l).1 + weigh v (sweep p visit l).2 = weigh w l := by
  induction l with
  | nil => rfl
  | cons a l ih =>
      cases passed : p a with
      | false => rw [sweep_cons_neg passed, weigh_nil, Nat.add_zero]
      | true =>
          have one := conserved a passed
          rw [sweep_cons_pos passed, weigh_append, weigh_append, weigh_cons]
          omega

/-- What every visit hands on holds of what is left. -/
theorem forall_mem_sweep {P : α → Prop} (hands : ∀ a, P a → ∀ b ∈ (visit a).1, P b)
    (all : ∀ a ∈ l, P a) : ∀ b ∈ (sweep p visit l).1, P b := by
  induction l with
  | nil => nofun
  | cons a l ih =>
      have rest := ih fun b within => all b (List.mem_cons_of_mem a within)
      cases passed : p a with
      | false =>
          rw [sweep_cons_neg passed]
          exact all
      | true =>
          rw [sweep_cons_pos passed]
          intro b member
          rcases List.mem_append.mp member with here | later
          · exact hands a (all a List.mem_cons_self) b (Option.mem_toList.mp here)
          · exact rest b later

/-- The first entry afterwards is one that was passed and kept, or one that failed the test. -/
theorem head?_sweep {b : α} (first : b ∈ (sweep p visit l).1.head?) :
    (∃ a ∈ l, p a = true ∧ b ∈ (visit a).1) ∨ (b ∈ l ∧ p b = false) := by
  induction l with
  | nil => cases first
  | cons a l ih =>
      cases passed : p a with
      | false =>
          rw [sweep_cons_neg passed] at first
          obtain rfl : a = b := Option.some.inj first
          exact .inr ⟨List.mem_cons_self, passed⟩
      | true =>
          rw [sweep_cons_pos passed] at first
          cases kept : (visit a).1 with
          | some c =>
              rw [kept] at first
              obtain rfl : c = b := Option.some.inj first
              exact .inl ⟨a, List.mem_cons_self, passed, kept⟩
          | none =>
              rw [kept] at first
              rcases ih first with ⟨d, within, tested, same⟩ | ⟨within, failed⟩
              · exact .inl ⟨d, List.mem_cons_of_mem a within, tested, same⟩
              · exact .inr ⟨List.mem_cons_of_mem a within, failed⟩

/-- Where the first entry passes and is kept, it stays first. -/
theorem head?_sweep_cons {a b : α} (passed : p a = true) (kept : (visit a).1 = some b) :
    (sweep p visit (a :: l)).1.head? = some b := by
  rw [sweep_cons_pos passed, kept]
  rfl

/-- A walk that passes everything and keeps entries as they are leaves those it keeps. -/
theorem sweep_eq_filter {q : α → Bool} (passes : ∀ a, p a = true)
    (keeps : ∀ a, (visit a).1 = if q a then some a else none) (l : List α) :
    (sweep p visit l).1 = l.filter q := by
  induction l with
  | nil => rfl
  | cons a l ih =>
      rw [sweep_cons_pos (passes a), keeps, List.filter_cons, ih]
      split <;> rfl

end Iwlwifi.Lib
