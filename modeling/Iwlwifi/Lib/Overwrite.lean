import Mathlib.Data.List.Basic

/-!
# Overwriting a part of a buffer

`overwrite` replaces what lies at an offset and leaves the rest alone.  What is read back depends
on where the part that is read lies: on the part that was written, before it or behind it.
-/

namespace Iwlwifi.Lib

variable {α : Type*}

/-- The elements from an offset on. -/
def window (buf : List α) (ofs len : Nat) : List α := (buf.drop ofs).take len

def overwrite (buf : List α) (ofs : Nat) (src : List α) : List α :=
  buf.take ofs ++ (src ++ buf.drop (ofs + src.length))

variable {buf more src : List α} {ofs at' len : Nat}

theorem window_length (inside : ofs + len ≤ buf.length) : (window buf ofs len).length = len := by
  rw [window, List.length_take, List.length_drop]
  omega

theorem window_append_left (inside : ofs + len ≤ buf.length) :
    window (buf ++ more) ofs len = window buf ofs len := by
  rw [window, window, List.drop_append_of_le_length (by omega), List.take_append_of_le_length]
  rw [List.length_drop]
  omega

/-- The window on a part. -/
theorem window_middle {front here back : List α} (start : front.length = ofs)
    (length : here.length = len) : window (front ++ (here ++ back)) ofs len = here := by
  rw [window, ← start, List.drop_left, ← length, List.take_left]

theorem window_take {stop : Nat} (inside : ofs + len ≤ stop) :
    window (buf.take stop) ofs len = window buf ofs len := by
  rw [window, window, List.drop_take, List.take_take, Nat.min_eq_left (by omega)]

theorem overwrite_length (fits : ofs + src.length ≤ buf.length) :
    (overwrite buf ofs src).length = buf.length := by
  rw [overwrite, List.length_append, List.length_append, List.length_take, List.length_drop]
  omega

theorem overwrite_append_left (fits : ofs + src.length ≤ buf.length) :
    overwrite (buf ++ more) ofs src = overwrite buf ofs src ++ more := by
  rw [overwrite, overwrite, List.take_append_of_le_length (by omega),
    List.drop_append_of_le_length fits, List.append_assoc, List.append_assoc]

theorem overwrite_append_right {front : List α} (behind : front.length ≤ ofs) :
    overwrite (front ++ buf) ofs src = front ++ overwrite buf (ofs - front.length) src := by
  obtain ⟨further, rfl⟩ := Nat.exists_eq_add_of_le behind
  rw [overwrite, overwrite, Nat.add_sub_cancel_left, List.take_length_add_append, Nat.add_assoc,
    List.drop_length_add_append, List.append_assoc]

/-- A part of the same length is replaced. -/
theorem overwrite_middle {front here back : List α} (length : here.length = src.length) :
    overwrite (front ++ (here ++ back)) front.length src = front ++ (src ++ back) := by
  rw [overwrite_append_right (Nat.le_refl _), Nat.sub_self, overwrite, List.take_zero,
    List.nil_append, Nat.zero_add, ← length, List.drop_left]

theorem window_overwrite_self (fits : ofs + src.length ≤ buf.length) :
    window (overwrite buf ofs src) ofs src.length = src := by
  have before : (buf.take ofs).length = ofs := by
    rw [List.length_take]
    omega
  rw [window, overwrite, List.drop_append_of_le_length (Nat.le_of_eq before.symm),
    List.drop_eq_nil_of_le (Nat.le_of_eq before), List.nil_append, List.take_left]

theorem window_overwrite_before (fits : ofs + src.length ≤ buf.length) (before : at' + len ≤ ofs) :
    window (overwrite buf ofs src) at' len = window buf at' len := by
  have inside : at' + len ≤ (buf.take ofs).length := by
    rw [List.length_take]
    omega
  rw [overwrite, window_append_left inside, window_take before]

theorem drop_overwrite_behind (fits : ofs + src.length ≤ buf.length)
    (behind : ofs + src.length ≤ at') : (overwrite buf ofs src).drop at' = buf.drop at' := by
  obtain ⟨further, rfl⟩ := Nat.exists_eq_add_of_le behind
  have before : (buf.take ofs).length = ofs := by
    rw [List.length_take]
    omega
  rw [overwrite, ← List.append_assoc, List.drop_append,
    List.drop_eq_nil_of_le (by rw [List.length_append, before]; omega), List.nil_append,
    List.length_append, before, Nat.add_sub_cancel_left, List.drop_drop]

theorem window_overwrite_behind (fits : ofs + src.length ≤ buf.length)
    (behind : ofs + src.length ≤ at') :
    window (overwrite buf ofs src) at' len = window buf at' len := by
  rw [window, drop_overwrite_behind fits behind, window]

end Iwlwifi.Lib
