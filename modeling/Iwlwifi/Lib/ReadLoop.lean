import Iwlwifi.Lib.BoundedRead

/-!
# Loops that read a buffer

`while (more s) s = body s` for a body that reads a buffer and may stop early.  Such a loop need
not end, so `readWhile` is given fuel.  `Turn` are the states at the head of the loop.  A loop
that has ended stayed in the buffer exactly if the body did at each of its turns
(`readWhile_inBounds_iff`).
-/

namespace Iwlwifi.Lib

variable {ε σ : Type} {more : σ → Bool} {body : σ → BoundedRead ε σ} {s t next : σ} {fuel : Nat}

/-- At most `fuel` turns; `none` is out of fuel. -/
def readWhile (more : σ → Bool) (body : σ → BoundedRead ε σ) : Nat → σ → Option (BoundedRead ε σ)
  | 0, s => if more s then none else some (.ok s)
  | fuel + 1, s =>
    if more s then
      match body s with
      | .error stop => some (.error stop)
      | .ok next => readWhile more body fuel next
    else some (.ok s)

/-- The states at the head of the loop from `s` on. -/
inductive Turn (more : σ → Bool) (body : σ → BoundedRead ε σ) (s : σ) : σ → Prop
  | start : Turn more body s s
  | next {t u : σ} : Turn more body s t → more t = true → body t = .ok u → Turn more body s u

theorem Turn.first (goes : more s = true) (first : body s = .ok next)
    (turn : Turn more body next t) : Turn more body s t := by
  induction turn with
  | start => exact .next .start goes first
  | next _ more taken ih => exact .next ih more taken

/-- An invariant of the turns. -/
theorem Turn.invariant {P : σ → Prop} (start : P s)
    (keep : ∀ t u, P t → more t = true → body t = .ok u → P u) (turn : Turn more body s t) :
    P t := by
  induction turn with
  | start => exact start
  | next _ goes taken ih => exact keep _ _ ih goes taken

/-- The first turn, and the turns from there on. -/
theorem Turn.eq_or_first (turn : Turn more body s t) :
    t = s ∨ ∃ next, more s = true ∧ body s = .ok next ∧ Turn more body next t := by
  induction turn with
  | start => exact .inl rfl
  | next _ goes taken ih =>
    rcases ih with same | ⟨next, first, begun, rest⟩
    · rw [same] at goes taken
      exact .inr ⟨_, goes, taken, .start⟩
    · exact .inr ⟨next, first, begun, .next rest goes taken⟩

/-- A loop that does not begin stays where it is. -/
theorem Turn.of_stopped (turn : Turn more body s t) (stops : ¬more s = true) : ¬more t = true := by
  rcases turn.eq_or_first with same | ⟨next, first, -⟩
  · rw [same]
    exact stops
  · exact absurd first stops

/-- A loop whose turns count down, under an invariant, comes to an end. -/
theorem readWhile_returns {P : σ → Prop} (count : σ → Nat)
    (keep : ∀ t u, P t → more t = true → body t = .ok u → P u ∧ count u < count t)
    (start : P s) : ∃ outcome, readWhile more body (count s + 1) s = some outcome := by
  have ends : ∀ fuel s, P s → count s ≤ fuel →
      ∃ outcome, readWhile more body (fuel + 1) s = some outcome := by
    intro fuel
    induction fuel with
    | zero =>
      intro s held enough
      rw [readWhile]
      split
      · next goes =>
          cases taken : body s with
          | error stop => exact ⟨_, rfl⟩
          | ok next =>
            have := (keep s next held goes taken).2
            omega
      · exact ⟨_, rfl⟩
    | succ fuel ih =>
      intro s held enough
      rw [readWhile]
      split
      · next goes =>
          cases taken : body s with
          | error stop => exact ⟨_, rfl⟩
          | ok next =>
            obtain ⟨kept, down⟩ := keep s next held goes taken
            exact ih next kept (by omega)
      · exact ⟨_, rfl⟩
  exact ends _ s start (Nat.le_refl _)

/-- A loop that has ended stayed in the buffer exactly if every turn does. -/
theorem readWhile_inBounds_iff {outcome : BoundedRead ε σ}
    (ended : readWhile more body fuel s = some outcome) :
    InBounds outcome ↔ ∀ t, Turn more body s t → more t = true → InBounds (body t) := by
  induction fuel generalizing s with
  | zero =>
    rw [readWhile] at ended
    split at ended
    · cases ended
    · next stops =>
        cases ended
        exact ⟨fun _ t turn goes => absurd goes (turn.of_stopped stops), fun _ => inBounds_ok s⟩
  | succ fuel ih =>
    rw [readWhile] at ended
    split at ended
    · next goes =>
        cases taken : body s with
        | error stop =>
          rw [taken] at ended
          cases ended
          constructor
          · intro stays t turn _
            rcases turn.eq_or_first with same | ⟨next, -, begun, -⟩
            · rw [same, taken]
              exact fun left => stays (by cases left; rfl)
            · rw [taken] at begun
              cases begun
          · intro all left
            refine all s .start goes ?_
            rw [taken]
            cases left
            rfl
        | ok next =>
          rw [taken] at ended
          rw [ih ended]
          constructor
          · intro all t turn goes'
            rcases turn.eq_or_first with same | ⟨next', -, begun, rest⟩
            · rw [same, taken]
              exact inBounds_ok next
            · rw [taken] at begun
              cases begun
              exact all t rest goes'
          · exact fun all t turn => all t (turn.first goes taken)
    · next stops =>
        cases ended
        exact ⟨fun _ t turn goes => absurd goes (turn.of_stopped stops), fun _ => inBounds_ok s⟩

end Iwlwifi.Lib
