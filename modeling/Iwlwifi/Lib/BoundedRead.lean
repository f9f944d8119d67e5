import Mathlib.Algebra.Ring.Nat
import Mathlib.Data.List.Basic

/-!
# Reading a buffer

A program that reads a byte buffer through offsets it computed itself.  Every read says which
bytes it touches; one that leaves the buffer stops the program with `outOfBounds`, which is told
apart from the program's own return code.  `InBounds` says that this has not happened, and the
rules below follow the way such a program is put together: a read whose bytes are there gives
its value, and a sequence stays in bounds if both of its parts do.
-/

namespace Iwlwifi.Lib

/-- Why a reader stopped early. -/
inductive Stop (ε : Type) where
  | outOfBounds
  | ret (code : ε)
  deriving DecidableEq

/-- A computation that reads a buffer and may stop early. -/
abbrev BoundedRead (ε α : Type) : Type := Except (Stop ε) α

variable {ε α β : Type}

/-- Access the `n` bytes from `ofs` on. -/
def touch (bytes : List UInt8) (ofs n : Nat) : BoundedRead ε Unit :=
  if ofs + n ≤ bytes.length then .ok () else .error .outOfBounds

/-- Access a string from `ofs` up to its terminating zero. -/
def touchStr (bytes : List UInt8) (ofs : Nat) : BoundedRead ε Unit :=
  if (0 : UInt8) ∈ bytes.drop ofs then .ok () else .error .outOfBounds

/-- The byte at `ofs`. -/
def u8At (bytes : List UInt8) (ofs : Nat) : Nat := (bytes.getD ofs 0).toNat

/-- The little-endian word at `ofs`. -/
def le32At (bytes : List UInt8) (ofs : Nat) : Nat :=
  u8At bytes ofs + 2 ^ 8 * u8At bytes (ofs + 1) + 2 ^ 16 * u8At bytes (ofs + 2) +
    2 ^ 24 * u8At bytes (ofs + 3)

/-- The big-endian half word at `ofs`. -/
def be16At (bytes : List UInt8) (ofs : Nat) : Nat :=
  2 ^ 8 * u8At bytes ofs + u8At bytes (ofs + 1)

/-- The big-endian word at `ofs`. -/
def be32At (bytes : List UInt8) (ofs : Nat) : Nat :=
  2 ^ 16 * be16At bytes ofs + be16At bytes (ofs + 2)

def readU8 (bytes : List UInt8) (ofs : Nat) : BoundedRead ε Nat := do
  touch bytes ofs 1
  return u8At bytes ofs

def readLe32 (bytes : List UInt8) (ofs : Nat) : BoundedRead ε Nat := do
  touch bytes ofs 4
  return le32At bytes ofs

def readBe16 (bytes : List UInt8) (ofs : Nat) : BoundedRead ε Nat := do
  touch bytes ofs 2
  return be16At bytes ofs

def readBe32 (bytes : List UInt8) (ofs : Nat) : BoundedRead ε Nat := do
  touch bytes ofs 4
  return be32At bytes ofs

theorem u8At_lt (bytes : List UInt8) (ofs : Nat) : u8At bytes ofs < 2 ^ 8 :=
  UInt8.toNat_lt _

theorem le32At_lt (bytes : List UInt8) (ofs : Nat) : le32At bytes ofs < 2 ^ 32 := by
  have b0 := u8At_lt bytes ofs
  have b1 := u8At_lt bytes (ofs + 1)
  have b2 := u8At_lt bytes (ofs + 2)
  have b3 := u8At_lt bytes (ofs + 3)
  simp only [le32At]
  omega

/-! ## A buffer in a longer one -/

variable {bytes : List UInt8} {ofs : Nat} {f : Nat → BoundedRead ε β} {m : BoundedRead ε α}

theorem u8At_append (beyond : List UInt8) (inside : ofs < bytes.length) :
    u8At (bytes ++ beyond) ofs = u8At bytes ofs := by
  simp only [u8At, List.getD_eq_getElem?_getD, List.getElem?_append_left inside]

theorem be16At_append (beyond : List UInt8) (inside : ofs + 2 ≤ bytes.length) :
    be16At (bytes ++ beyond) ofs = be16At bytes ofs := by
  have first : ofs < bytes.length := by omega
  have second : ofs + 1 < bytes.length := by omega
  rw [be16At, be16At, u8At_append beyond first, u8At_append beyond second]

/-! ## Reads whose bytes are there -/

theorem touch_of_le {ofs n : Nat} (inside : ofs + n ≤ bytes.length) :
    (touch bytes ofs n : BoundedRead ε Unit) = .ok () := if_pos inside

theorem readU8_of_le (inside : ofs + 1 ≤ bytes.length) :
    (readU8 bytes ofs : BoundedRead ε Nat) = .ok (u8At bytes ofs) := by
  rw [readU8, touch_of_le inside]
  rfl

theorem readLe32_of_le (inside : ofs + 4 ≤ bytes.length) :
    (readLe32 bytes ofs : BoundedRead ε Nat) = .ok (le32At bytes ofs) := by
  rw [readLe32, touch_of_le inside]
  rfl

theorem readBe16_of_le (inside : ofs + 2 ≤ bytes.length) :
    (readBe16 bytes ofs : BoundedRead ε Nat) = .ok (be16At bytes ofs) := by
  rw [readBe16, touch_of_le inside]
  rfl

theorem readBe32_of_le (inside : ofs + 4 ≤ bytes.length) :
    (readBe32 bytes ofs : BoundedRead ε Nat) = .ok (be32At bytes ofs) := by
  rw [readBe32, touch_of_le inside]
  rfl

/-! ## Staying in bounds -/

/-- The computation has not left the buffer. -/
def InBounds (m : BoundedRead ε α) : Prop := m ≠ .error .outOfBounds

@[simp] theorem inBounds_ok (a : α) : InBounds (.ok a : BoundedRead ε α) := nofun

@[simp] theorem inBounds_pure (a : α) : InBounds (pure a : BoundedRead ε α) := nofun

@[simp] theorem inBounds_ret (code : ε) : InBounds (.error (.ret code) : BoundedRead ε α) := nofun

theorem inBounds_bind {f : α → BoundedRead ε β} :
    InBounds (m >>= f) ↔ InBounds m ∧ ∀ a, m = .ok a → InBounds (f a) := by
  cases m with
  | ok a =>
      constructor
      · intro stays
        refine ⟨inBounds_ok a, fun b same => ?_⟩
        cases same
        exact stays
      · exact fun stays => stays.2 a rfl
  | error stop =>
      constructor
      · intro stays
        refine ⟨fun left => stays ?_, nofun⟩
        cases left
        rfl
      · intro stays left
        cases left
        exact stays.1 rfl

theorem bind_eq_ok {f : α → BoundedRead ε β} {b : β} :
    m >>= f = .ok b ↔ ∃ a, m = .ok a ∧ f a = .ok b := by
  cases m with
  | error stop =>
      constructor
      · intro eq
        cases eq
      · rintro ⟨_, eq, _⟩
        cases eq
  | ok a =>
      constructor
      · exact fun eq => ⟨a, rfl, eq⟩
      · rintro ⟨_, same, eq⟩
        cases same
        exact eq

theorem inBounds_touch {ofs n : Nat} :
    InBounds (touch bytes ofs n : BoundedRead ε Unit) ↔ ofs + n ≤ bytes.length := by
  rw [touch]
  split
  · next inside => exact ⟨fun _ => inside, fun _ => inBounds_ok ()⟩
  · next outside =>
      exact ⟨fun stays => absurd rfl stays, fun inside => absurd inside outside⟩

theorem inBounds_touchStr :
    InBounds (touchStr bytes ofs : BoundedRead ε Unit) ↔ (0 : UInt8) ∈ bytes.drop ofs := by
  rw [touchStr]
  split
  · next ends => exact ⟨fun _ => ends, fun _ => inBounds_ok ()⟩
  · next runsOn => exact ⟨fun stays => absurd rfl stays, fun ends => absurd ends runsOn⟩

theorem inBounds_touch_bind {ofs n : Nat} {f : Unit → BoundedRead ε β} :
    InBounds (touch bytes ofs n >>= f) ↔ ofs + n ≤ bytes.length ∧ InBounds (f ()) := by
  rw [inBounds_bind, inBounds_touch]
  refine and_congr_right fun inside => ?_
  rw [touch_of_le inside]
  exact ⟨fun rest => rest () rfl, fun rest _ _ => rest⟩

theorem inBounds_readU8_bind :
    InBounds (readU8 bytes ofs >>= f) ↔
      ofs + 1 ≤ bytes.length ∧ InBounds (f (u8At bytes ofs)) := by
  rw [readU8, bind_assoc, inBounds_touch_bind]
  rfl

theorem inBounds_readLe32_bind :
    InBounds (readLe32 bytes ofs >>= f) ↔
      ofs + 4 ≤ bytes.length ∧ InBounds (f (le32At bytes ofs)) := by
  rw [readLe32, bind_assoc, inBounds_touch_bind]
  rfl

theorem inBounds_readBe16_bind :
    InBounds (readBe16 bytes ofs >>= f) ↔
      ofs + 2 ≤ bytes.length ∧ InBounds (f (be16At bytes ofs)) := by
  rw [readBe16, bind_assoc, inBounds_touch_bind]
  rfl

theorem inBounds_readBe32_bind :
    InBounds (readBe32 bytes ofs >>= f) ↔
      ofs + 4 ≤ bytes.length ∧ InBounds (f (be32At bytes ofs)) := by
  rw [readBe32, bind_assoc, inBounds_touch_bind]
  rfl

/-! ## Running to the end -/

/-- The computation stays in bounds and does not stop early. -/
def Returns (m : BoundedRead ε α) : Prop := ∃ a, m = .ok a

theorem returns_ok (a : α) : Returns (.ok a : BoundedRead ε α) := ⟨a, rfl⟩

theorem not_returns_error (stop : Stop ε) : ¬ Returns (.error stop : BoundedRead ε α) := by
  rintro ⟨a, run⟩
  cases run

theorem returns_bind {f : α → BoundedRead ε β} {a : α} (first : m = .ok a) (rest : Returns (f a)) :
    Returns (m >>= f) := by
  rw [first]
  exact rest

theorem returns_ite {c : Prop} [Decidable c] {m n : BoundedRead ε α} (yes : c → Returns m)
    (no : ¬ c → Returns n) : Returns (if c then m else n) := by
  split
  · next holds => exact yes holds
  · next fails => exact no fails

/-! ## What a computation that returns has done -/

/-- Every result of the computation has the property. -/
def Yields (P : α → Prop) (m : BoundedRead ε α) : Prop := ∀ a, m = .ok a → P a

variable {P : α → Prop}

theorem of_readU8 {ofs value : Nat} (result : (readU8 bytes ofs : BoundedRead ε Nat) = .ok value) :
    ofs < bytes.length ∧ value = u8At bytes ofs := by
  by_cases inside : ofs + 1 ≤ bytes.length
  · rw [readU8_of_le inside] at result
    exact ⟨inside, (Except.ok.inj result).symm⟩
  · rw [readU8, touch, if_neg inside] at result
    cases result

theorem yields_ok {a : α} (holds : P a) : Yields P (.ok a : BoundedRead ε α) := by
  intro b same
  cases same
  exact holds

theorem yields_error (stop : Stop ε) : Yields P (.error stop : BoundedRead ε α) := nofun

/-- The second part may use what the first one returned. -/
theorem yields_bind_of {m : BoundedRead ε β} {f : β → BoundedRead ε α}
    (rest : ∀ b, m = .ok b → Yields P (f b)) : Yields P (m >>= f) := by
  cases m with
  | ok b => exact rest b rfl
  | error stop => exact yields_error stop

theorem yields_bind {m : BoundedRead ε β} {f : β → BoundedRead ε α} (rest : ∀ b, Yields P (f b)) :
    Yields P (m >>= f) := yields_bind_of fun b _ => rest b

theorem yields_ite {c : Prop} [Decidable c] {m n : BoundedRead ε α} (yes : Yields P m)
    (no : Yields P n) : Yields P (if c then m else n) := by
  split
  · exact yes
  · exact no

end Iwlwifi.Lib
