import Mathlib.Data.List.Basic
import Mathlib.Algebra.Order.Group.Int

/-!
# Logs in order

A log of elements at integer positions.  It is in order when the positions never go back
and, of two elements at one position, at least one may share it.  A log goes up to a
front when it is in order, nothing in it is beyond the front and what is at the front may
share its position; so anything may be appended at or beyond the front.
-/

namespace Iwlwifi.Lib

variable {α : Type*}

/-- The positions never go back, and of two elements at one position one may share it. -/
def InOrder (shares : α → Bool) (log : List (Int × α)) : Prop :=
  log.Pairwise fun a b =>
    a.1 < b.1 ∨ (a.1 = b.1 ∧ (shares a.2 = true ∨ shares b.2 = true))

instance InOrder.decidable (shares : α → Bool) (log : List (Int × α)) :
    Decidable (InOrder shares log) :=
  inferInstanceAs (Decidable (List.Pairwise _ _))

structure UpTo (shares : α → Bool) (log : List (Int × α)) (front : Int) : Prop where
  inOrder : InOrder shares log
  behind : ∀ entry ∈ log, entry.1 < front ∨ (entry.1 = front ∧ shares entry.2 = true)

variable {shares : α → Bool} {log : List (Int × α)} {front next p : Int} {x : α}

theorem UpTo.nil : UpTo shares [] front where
  inOrder := List.Pairwise.nil
  behind _ member := by cases member

theorem UpTo.advance (upTo : UpTo shares log front) (forward : front ≤ next) :
    UpTo shares log next where
  inOrder := upTo.inOrder
  behind entry member := by
    rcases upTo.behind entry member with before | ⟨here, shared⟩
    · exact .inl (by omega)
    · rcases forward.lt_or_eq with further | same
      · exact .inl (by omega)
      · exact .inr ⟨here.trans same, shared⟩

/-- One more element at or beyond the front. -/
theorem UpTo.append (upTo : UpTo shares log front) (ahead : front ≤ p)
    (passed : p < next ∨ (p = next ∧ shares x = true)) :
    UpTo shares (log ++ [(p, x)]) next where
  inOrder := by
    refine List.pairwise_append.mpr ⟨upTo.inOrder, List.pairwise_singleton _ _, ?_⟩
    intro entry member added isNew
    rw [List.mem_singleton.mp isNew]
    rcases upTo.behind entry member with before | ⟨here, shared⟩
    · exact .inl (by simpa using before.trans_le ahead)
    · rcases ahead.lt_or_eq with further | same
      · exact .inl (by simpa [here] using further)
      · exact .inr ⟨by simpa [here] using same, .inl shared⟩
  behind entry member := by
    rcases List.mem_append.mp member with old | isNew
    · rcases upTo.behind entry old with before | ⟨here, shared⟩
      · exact .inl (by omega)
      · rcases passed with further | ⟨same, -⟩
        · exact .inl (by omega)
        · rcases ahead.lt_or_eq with further | atFront
          · exact .inl (by omega)
          · exact .inr ⟨by omega, shared⟩
    · rw [List.mem_singleton.mp isNew]
      exact passed

/-- A batch of elements at the front, all but the first of which may share it, and the
front moves on. -/
theorem UpTo.batch (upTo : UpTo shares log front) {batch : List α}
    (tails : ∀ x ∈ batch.tail, shares x = true) :
    UpTo shares (log ++ batch.map fun x => (front, x)) (front + 1) where
  inOrder := by
    refine List.pairwise_append.mpr ⟨upTo.inOrder, ?_, ?_⟩
    · rw [List.pairwise_map]
      cases batch with
      | nil => exact .nil
      | cons x rest =>
          refine List.pairwise_cons.mpr
            ⟨fun y member => .inr ⟨rfl, .inr (tails y member)⟩, ?_⟩
          exact List.pairwise_of_forall_mem_list fun y _ z member =>
            .inr ⟨rfl, .inr (tails z member)⟩
    · intro entry member added fromBatch
      obtain ⟨x, -, rfl⟩ := List.mem_map.mp fromBatch
      rcases upTo.behind entry member with before | ⟨here, shared⟩
      · exact .inl before
      · exact .inr ⟨here, .inl shared⟩
  behind entry member := by
    rcases List.mem_append.mp member with old | fromBatch
    · rcases upTo.behind entry old with before | ⟨here, -⟩
      · exact .inl (by omega)
      · exact .inl (by omega)
    · obtain ⟨x, -, rfl⟩ := List.mem_map.mp fromBatch
      exact .inl (by simp)

end Iwlwifi.Lib
