import Mathlib.Logic.Basic

/-!
# Runs of a transition function

A machine is a state type `σ`, an input type `ι` and a transition function
`step : σ → ι → σ`; the state reached over a list of inputs is the left fold of
`step`.  An invariant of a machine is usually kept only by the steps that meet a
condition on the state before the step and its input.  `Admissible step ok s is`
says that every step of the run meets it, and `Admissible.invariant` packages the
induction over the run: an invariant kept by every step that meets the condition
holds in the state reached.
-/

namespace Iwlwifi.Lib

variable {σ ι : Type*}

/-- Along the run of `step` from `s` over the inputs, every input meets `ok` in
the state in which it is taken. -/
def Admissible (step : σ → ι → σ) (ok : σ → ι → Prop) : σ → List ι → Prop
  | _, [] => True
  | s, i :: rest => ok s i ∧ Admissible step ok (step s i) rest

instance Admissible.decidable (step : σ → ι → σ) (ok : σ → ι → Prop)
    [∀ s i, Decidable (ok s i)] :
    (s : σ) → (inputs : List ι) → Decidable (Admissible step ok s inputs)
  | _, [] => inferInstanceAs (Decidable True)
  | s, i :: rest =>
      have := Admissible.decidable step ok (step s i) rest
      inferInstanceAs (Decidable (ok s i ∧ Admissible step ok (step s i) rest))

variable {step : σ → ι → σ} {ok ok' : σ → ι → Prop} {P : σ → Prop}
  {s : σ} {inputs more : List ι}

/-- A run is admissible exactly when its first part is and its second part is
from the state the first part reaches. -/
theorem admissible_append :
    Admissible step ok s (inputs ++ more) ↔
      Admissible step ok s inputs ∧ Admissible step ok (inputs.foldl step s) more := by
  induction inputs generalizing s with
  | nil => simp [Admissible]
  | cons i rest ih => simp [Admissible, ih, and_assoc]

theorem Admissible.mono (weaker : ∀ s i, ok s i → ok' s i)
    (run : Admissible step ok s inputs) : Admissible step ok' s inputs := by
  induction inputs generalizing s with
  | nil => trivial
  | cons i rest ih => exact ⟨weaker s i run.1, ih run.2⟩

/-- A condition on the inputs alone may be added to the one on the steps. -/
theorem Admissible.and_forall {p : ι → Prop} (run : Admissible step ok s inputs)
    (all : ∀ i ∈ inputs, p i) : Admissible step (fun s i => ok s i ∧ p i) s inputs := by
  induction inputs generalizing s with
  | nil => trivial
  | cons i rest ih =>
      exact ⟨⟨run.1, all i List.mem_cons_self⟩,
        ih run.2 fun j member => all j (List.mem_cons_of_mem i member)⟩

/-- An invariant kept by every step holds in the state a run reaches. -/
theorem run_invariant (keep : ∀ s i, P s → P (step s i)) (start : P s) (inputs : List ι) :
    P (inputs.foldl step s) := by
  induction inputs generalizing s with
  | nil => exact start
  | cons i rest ih => exact ih (keep s i start)

/-- An invariant kept by every step that meets the condition holds in the state
an admissible run reaches. -/
theorem Admissible.invariant (keep : ∀ s i, P s → ok s i → P (step s i))
    (run : Admissible step ok s inputs) (start : P s) :
    P (inputs.foldl step s) := by
  induction inputs generalizing s with
  | nil => exact start
  | cons i rest ih => exact ih run.2 (keep s i start run.1)

/-- Under an invariant one condition on the steps follows from another. -/
theorem Admissible.imp_of_invariant (keep : ∀ s i, P s → ok s i → P (step s i))
    (imp : ∀ s i, P s → ok s i → ok' s i) (run : Admissible step ok s inputs) (start : P s) :
    Admissible step ok' s inputs := by
  induction inputs generalizing s with
  | nil => trivial
  | cons i rest ih => exact ⟨imp s i start run.1, ih run.2 (keep s i start run.1)⟩

/-- Where a step from a state of the invariant has the wanted property exactly when it meets the
condition, and then keeps the invariant, the property holds in every state of a run exactly
when the run is admissible. -/
theorem forall_reached_iff_of_invariant {Q : σ → Prop} (wanted : ∀ s, P s → Q s)
    (keep : ∀ s i, P s → ok s i → P (step s i)) (only : ∀ s i, P s → Q (step s i) → ok s i)
    (start : P s) :
    (∀ before, before <+: inputs → Q (before.foldl step s)) ↔ Admissible step ok s inputs := by
  constructor
  · intro all
    induction inputs generalizing s with
    | nil => trivial
    | cons i rest ih =>
        have first : ok s i := only s i start (all [i] (List.prefix_append [i] rest))
        refine ⟨first, ih (keep s i start first) fun before within => ?_⟩
        exact all (i :: before) (List.cons_prefix_cons.mpr ⟨rfl, within⟩)
  · rintro run before ⟨more, rfl⟩
    exact wanted _ ((admissible_append.mp run).1.invariant keep start)

/-- Where a step keeps an invariant exactly when it meets the condition, the invariant holds
in every state of a run exactly when the run is admissible. -/
theorem forall_reached_iff (keep : ∀ s i, P s → (P (step s i) ↔ ok s i)) (start : P s) :
    (∀ before, before <+: inputs → P (before.foldl step s)) ↔ Admissible step ok s inputs :=
  forall_reached_iff_of_invariant (fun _ held => held) (fun s i held => (keep s i held).mpr)
    (fun s i held => (keep s i held).mp) start

/-- What holds after every step of a run, as a condition on the steps. -/
theorem forall_after_iff {Q : ι → σ → Prop} :
    (∀ before i, before ++ [i] <+: inputs → Q i ((before ++ [i]).foldl step s)) ↔
      Admissible step (fun s i => Q i (step s i)) s inputs := by
  induction inputs generalizing s with
  | nil =>
      refine ⟨fun _ => trivial, fun _ before i inside => ?_⟩
      exact absurd (List.prefix_nil.mp inside) (List.append_ne_nil_of_right_ne_nil before
        (List.cons_ne_nil i []))
  | cons first rest ih =>
      constructor
      · intro all
        refine ⟨all [] first (List.prefix_append [first] rest), ih.mp fun before i inside => ?_⟩
        exact all (first :: before) i (List.cons_prefix_cons.mpr ⟨rfl, inside⟩)
      · intro run before i inside
        cases before with
        | nil =>
            obtain ⟨same, -⟩ := List.cons_prefix_cons.mp inside
            rw [same]
            exact run.1
        | cons other before =>
            obtain ⟨same, inside⟩ := List.cons_prefix_cons.mp inside
            rw [same]
            exact ih.mpr run.2 before i inside

/-- A step relation between the states before and after each step of an
admissible run, from an invariant that holds at its start. -/
theorem Admissible.step_of_append {Post : σ → σ → Prop} {i : ι}
    (keep : ∀ s i, P s → ok s i → P (step s i))
    (post : ∀ s i, P s → ok s i → Post s (step s i))
    (run : Admissible step ok s (inputs ++ [i])) (start : P s) :
    Post (inputs.foldl step s) ((inputs ++ [i]).foldl step s) := by
  obtain ⟨before, last⟩ := admissible_append.mp run
  rw [List.foldl_append]
  exact post _ _ (before.invariant keep start) last.1

end Iwlwifi.Lib
