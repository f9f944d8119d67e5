import Mathlib.Algebra.Order.Ring.Nat
import Mathlib.Data.List.Basic

/-!
# Packed structures

A packed structure is the list of its fields with their sizes: a field lies where the sizes of
those before it end.  Two structures that begin with the same fields have them in the same place
(`read_eq_of_prefix`), which is what makes it safe to read one through the other.
-/

namespace Iwlwifi.Lib

variable {κ : Type*} [DecidableEq κ]

/-- The fields of a packed structure in order, each with its size in bytes. -/
abbrev Packed (κ : Type*) := List (κ × Nat)

/-- The unsigned little-endian number in the bytes from an offset on. -/
def littleEndian (data : Nat → UInt8) : Nat → Nat → Nat
  | _, 0 => 0
  | offset, size + 1 =>
      (data offset).toNat + 256 * littleEndian data (offset + 1) size

namespace Packed

def size (s : Packed κ) : Nat := (s.map Prod.snd).sum

/-- Where a field begins. -/
def offset : Packed κ → κ → Nat
  | [], _ => 0
  | (other, size) :: rest, field => if other = field then 0 else size + offset rest field

/-- The size of a field; a field that the structure does not have takes no bytes. -/
def width : Packed κ → κ → Nat
  | [], _ => 0
  | (other, size) :: rest, field => if other = field then size else width rest field

def has (s : Packed κ) (field : κ) : Bool := s.any fun entry => entry.1 = field

/-- The value of a field of the structure that begins at `base`. -/
def read (s : Packed κ) (field : κ) (data : Nat → UInt8) (base : Nat) : Nat :=
  littleEndian data (base + s.offset field) (s.width field)

variable {s first rest : Packed κ} {field : κ}

theorem offset_append (inside : first.has field) :
    offset (first ++ rest) field = offset first field := by
  induction first with
  | nil => exact absurd inside Bool.false_ne_true
  | cons entry first ih =>
      rw [List.cons_append, offset, offset]
      split
      · rfl
      · next other =>
          have later : has first field := by simpa [has, other] using inside
          rw [ih later]

theorem width_append (inside : first.has field) :
    width (first ++ rest) field = width first field := by
  induction first with
  | nil => exact absurd inside Bool.false_ne_true
  | cons entry first ih =>
      rw [List.cons_append, width, width]
      split
      · rfl
      · next other =>
          have later : has first field := by simpa [has, other] using inside
          exact ih later

/-- A field of a common beginning is read from the same bytes. -/
theorem read_eq_of_prefix (begins : first <+: s) (inside : first.has field)
    (data : Nat → UInt8) (base : Nat) :
    s.read field data base = read first field data base := by
  obtain ⟨rest, rfl⟩ := begins
  rw [read, read, offset_append inside, width_append inside]

end Packed

end Iwlwifi.Lib
