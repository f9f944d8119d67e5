import Iwlwifi.Lib.Run

/-!
# Purging a run

A machine that answers every input has a trace: the inputs with their answers.
`purge` takes the entries that are not to count out of a trace.  The machine
does not notice them if the run on what is left answers as the whole run did.
`trace_purge` derives this from a relation between the state of the whole run
and that of the purged one, which every step of the whole run keeps.
-/

namespace Iwlwifi.Lib

variable {σ ι ω : Type*}

/-- The inputs with their answers. -/
def trace (step : σ → ι → σ × ω) : σ → List ι → List (ι × ω)
  | _, [] => []
  | s, i :: rest => (i, (step s i).2) :: trace step (step s i).1 rest

/-- The entries of a trace that count. -/
def purge (counts : ω → Bool) (entries : List (ι × ω)) : List (ι × ω) :=
  entries.filter fun entry => counts entry.2

variable {step : σ → ι → σ × ω} {counts : ω → Bool} {ok : σ → ι → Prop}

/-- Where an invariant makes an answer property of a step say the same as the condition on it,
the property holds of every answer exactly in the admissible runs. -/
theorem Admissible.forall_trace {P : σ → Prop} {Q : ι → ω → Prop} {s : σ} {inputs : List ι}
    (keep : ∀ s i, P s → P (step s i).1) (iff : ∀ s i, P s → (Q i (step s i).2 ↔ ok s i))
    (start : P s) :
    (∀ entry ∈ trace step s inputs, Q entry.1 entry.2) ↔
      Admissible (fun s i => (step s i).1) ok s inputs := by
  induction inputs generalizing s with
  | nil => simp [trace, Admissible]
  | cons i rest ih =>
      simp only [trace, Admissible, List.forall_mem_cons]
      exact and_congr (iff s i start) (ih (keep s i start))

/-- A relation between the two runs that a step of the whole run keeps: a step that
counts is answered alike in both, any other leaves the purged run where it is. -/
theorem trace_purge {R : σ → σ → Prop} {s t : σ} {inputs : List ι}
    (counted : ∀ s t i, R s t → ok s i → counts (step s i).2 = true →
      (step t i).2 = (step s i).2 ∧ R (step s i).1 (step t i).1)
    (purged : ∀ s t i, R s t → ok s i → counts (step s i).2 = false → R (step s i).1 t)
    (run : Admissible (fun s i => (step s i).1) ok s inputs) (start : R s t) :
    trace step t ((purge counts (trace step s inputs)).map Prod.fst) =
      purge counts (trace step s inputs) := by
  induction inputs generalizing s t with
  | nil => rfl
  | cons i rest ih =>
      cases count : counts (step s i).2 with
      | false =>
          have kept := purged s t i start run.1 count
          simpa only [trace, purge, List.filter_cons, count, Bool.false_eq_true, if_false]
            using ih run.2 kept
      | true =>
          obtain ⟨answer, kept⟩ := counted s t i start run.1 count
          have rest := ih run.2 kept
          simp only [purge] at rest
          simp only [trace, purge, List.filter_cons, count, if_true, List.map_cons, answer, rest]

end Iwlwifi.Lib
