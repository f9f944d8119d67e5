import Iwlwifi.Lib.Ring

/-!
# Queue pointers

A Tx queue has `max_tfd_queue_size` descriptors, and the driver's own entries are a window
of `n_window` of them laid over the ring.  The read and write pointers count modulo the
ring, the entries are indexed modulo the window.  Both sizes are powers of two, so that
the masks of the source are remainders.
-/

namespace Iwlwifi

open Lib

/-- `base_params->max_tfd_queue_size` and `txq->n_window`. -/
structure QueueSizes where
  maxTfdQueueSize : Nat
  nWindow : Nat
  maxTfdQueueSize_pow : ∃ k, maxTfdQueueSize = 2 ^ k
  nWindow_pow : ∃ k, nWindow = 2 ^ k
  nWindow_le : nWindow ≤ maxTfdQueueSize

/-- The sizes of a window of `2 ^ k` entries over `2 ^ m` descriptors. -/
def QueueSizes.ofLog (k m : Nat) (le : k ≤ m) : QueueSizes where
  maxTfdQueueSize := 2 ^ m
  nWindow := 2 ^ k
  maxTfdQueueSize_pow := ⟨m, rfl⟩
  nWindow_pow := ⟨k, rfl⟩
  nWindow_le := Nat.pow_le_pow_right (by decide) le

def iwlQueueIncWrap (q : QueueSizes) (index : Nat) : Nat :=
  (index + 1) &&& (q.maxTfdQueueSize - 1)

/-- `--index` is `index + max_tfd_queue_size - 1` under the mask. -/
def iwlQueueDecWrap (q : QueueSizes) (index : Nat) : Nat :=
  (index + (q.maxTfdQueueSize - 1)) &&& (q.maxTfdQueueSize - 1)

def iwlPcieGetCmdIndex (q : QueueSizes) (index : Nat) : Nat := index &&& (q.nWindow - 1)

/-- The used entries: `write_ptr - read_ptr` under the mask. -/
def iwlQueueCount (q : QueueSizes) (readPtr writePtr : Nat) : Nat :=
  (writePtr + (q.maxTfdQueueSize - (readPtr &&& (q.maxTfdQueueSize - 1)))) &&&
    (q.maxTfdQueueSize - 1)

/-- `iwl_queue_space`. -/
def iwlQueueSpace (q : QueueSizes) (readPtr writePtr : Nat) : Nat :=
  let max := if q.nWindow < q.maxTfdQueueSize then q.nWindow else q.maxTfdQueueSize - 1
  let used := iwlQueueCount q readPtr writePtr
  if used > max then 0 else max - used

/-- `iwl_queue_used`. -/
def iwlQueueUsed (q : QueueSizes) (readPtr writePtr i : Nat) : Bool :=
  let index := iwlPcieGetCmdIndex q i
  let r := iwlPcieGetCmdIndex q readPtr
  let w := iwlPcieGetCmdIndex q writePtr
  if w ≥ r then decide (index ≥ r) && decide (index < w)
  else !(decide (index < r) && decide (index ≥ w))

/-- The marks that `iwl_queue_init` sets. -/
def lowMark (q : QueueSizes) : Nat := if q.nWindow / 4 < 4 then 4 else q.nWindow / 4

def highMark (q : QueueSizes) : Nat := if q.nWindow / 8 < 2 then 2 else q.nWindow / 8

/-! ## The masks as remainders -/

variable (q : QueueSizes)

theorem QueueSizes.nWindow_pos : 0 < q.nWindow := by
  obtain ⟨k, size⟩ := q.nWindow_pow
  rw [size]
  exact Nat.two_pow_pos k

theorem QueueSizes.maxTfdQueueSize_pos : 0 < q.maxTfdQueueSize :=
  Nat.lt_of_lt_of_le q.nWindow_pos q.nWindow_le

theorem QueueSizes.nWindow_dvd : q.nWindow ∣ q.maxTfdQueueSize := by
  obtain ⟨k, window⟩ := q.nWindow_pow
  obtain ⟨m, size⟩ := q.maxTfdQueueSize_pow
  have le := q.nWindow_le
  rw [window, size] at le ⊢
  exact Nat.pow_dvd_pow 2 ((Nat.pow_le_pow_iff_right (by decide)).mp le)

theorem QueueSizes.and_size (i : Nat) :
    i &&& (q.maxTfdQueueSize - 1) = i % q.maxTfdQueueSize := by
  obtain ⟨k, size⟩ := q.maxTfdQueueSize_pow
  rw [size, Nat.and_two_pow_sub_one_eq_mod]

@[simp] theorem iwlQueueIncWrap_eq (i : Nat) :
    iwlQueueIncWrap q i = (i + 1) % q.maxTfdQueueSize := q.and_size _

@[simp] theorem iwlQueueDecWrap_eq (i : Nat) :
    iwlQueueDecWrap q i = (i + (q.maxTfdQueueSize - 1)) % q.maxTfdQueueSize := q.and_size _

@[simp] theorem iwlPcieGetCmdIndex_eq (i : Nat) : iwlPcieGetCmdIndex q i = i % q.nWindow := by
  obtain ⟨k, window⟩ := q.nWindow_pow
  rw [iwlPcieGetCmdIndex, window, Nat.and_two_pow_sub_one_eq_mod]

@[simp] theorem iwlQueueCount_eq (readPtr writePtr : Nat) :
    iwlQueueCount q readPtr writePtr = ringDist q.maxTfdQueueSize readPtr writePtr := by
  rw [iwlQueueCount, q.and_size, q.and_size, ringDist]

/-- A position modulo the ring is the same modulo the window. -/
theorem QueueSizes.mod_mod (i : Nat) : i % q.maxTfdQueueSize % q.nWindow = i % q.nWindow :=
  Nat.mod_mod_of_dvd i q.nWindow_dvd

/-- An index is used when it comes before the write pointer, counted from the read pointer
modulo the window. -/
theorem iwlQueueUsed_iff (readPtr writePtr i : Nat) :
    iwlQueueUsed q readPtr writePtr i = true ↔
      ringDist q.nWindow readPtr i < ringDist q.nWindow readPtr writePtr := by
  have room := q.nWindow_pos
  have smallI := Nat.mod_lt i room
  have smallW := Nat.mod_lt writePtr room
  have smallR := Nat.mod_lt readPtr room
  rw [ringDist_eq_ite room, ringDist_eq_ite room]
  simp only [iwlQueueUsed, iwlPcieGetCmdIndex_eq]
  generalize i % q.nWindow = index at *
  generalize writePtr % q.nWindow = w at *
  generalize readPtr % q.nWindow = r at *
  split
  · rw [Bool.and_eq_true, decide_eq_true_eq, decide_eq_true_eq]
    split <;> omega
  · rw [Bool.not_eq_true', Bool.and_eq_false_iff, decide_eq_false_iff_not,
      decide_eq_false_iff_not]
    split <;> omega

/-- The one before an index, modulo the window. -/
theorem iwlQueueDecWrap_mod (i : Nat) :
    (iwlQueueDecWrap q i + 1) % q.nWindow = i % q.nWindow := by
  have room := q.maxTfdQueueSize_pos
  rw [iwlQueueDecWrap_eq, Nat.add_mod, q.mod_mod, ← Nat.add_mod, Nat.add_assoc,
    Nat.sub_add_cancel room, Nat.add_mod, Nat.mod_eq_zero_of_dvd q.nWindow_dvd, Nat.add_zero,
    Nat.mod_mod]

theorem two_le_highMark : 2 ≤ highMark q := by
  unfold highMark
  split <;> omega

theorem four_le_lowMark : 4 ≤ lowMark q := by
  unfold lowMark
  split <;> omega

/-- The space is what the used entries leave of the most that are used. -/
theorem iwlQueueSpace_eq (readPtr writePtr : Nat) :
    iwlQueueSpace q readPtr writePtr =
      (if q.nWindow < q.maxTfdQueueSize then q.nWindow else q.maxTfdQueueSize - 1) -
        ringDist q.maxTfdQueueSize readPtr writePtr := by
  unfold iwlQueueSpace
  rw [iwlQueueCount_eq]
  dsimp only
  generalize (if q.nWindow < q.maxTfdQueueSize then q.nWindow else q.maxTfdQueueSize - 1) = max
  split <;> omega

variable {readPtr writePtr : Nat}

theorem count_of_space_pos (space : 0 < iwlQueueSpace q readPtr writePtr) :
    ringDist q.maxTfdQueueSize readPtr writePtr < q.nWindow := by
  have le := q.nWindow_le
  rw [iwlQueueSpace_eq] at space
  split at space <;> omega

/-- With a space of two, one more entry leaves the window with one to spare. -/
theorem count_of_two_le_space (space : 2 ≤ iwlQueueSpace q readPtr writePtr) :
    ringDist q.maxTfdQueueSize readPtr writePtr + 1 < q.nWindow := by
  have le := q.nWindow_le
  rw [iwlQueueSpace_eq] at space
  split at space <;> omega

/-- An entry more is one less of space. -/
theorem iwlQueueSpace_inc (space : 2 ≤ iwlQueueSpace q readPtr writePtr) :
    iwlQueueSpace q readPtr (iwlQueueIncWrap q writePtr) + 1 =
      iwlQueueSpace q readPtr writePtr := by
  have few := count_of_two_le_space q space
  have next := ringDist_succ (Nat.lt_of_lt_of_le few q.nWindow_le)
  rw [iwlQueueSpace_eq] at space
  rw [iwlQueueSpace_eq, iwlQueueSpace_eq, iwlQueueIncWrap_eq, next]
  omega

end Iwlwifi
