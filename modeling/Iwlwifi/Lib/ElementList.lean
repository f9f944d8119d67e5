import Iwlwifi.Lib.Elements

/-!
# Buffers made of elements

A list of elements and the buffer it is written as.  A buffer is well-formed if it is written from
such a list; what a reader finds in it at the start of an element is stated for an element with
anything before and behind it.
-/

namespace Iwlwifi.Lib

/-- An element, whose length fits into a byte. -/
structure Ie where
  id : UInt8
  data : List UInt8
  short : data.length < 2 ^ 8
  deriving DecidableEq

namespace Ie

def bytes (e : Ie) : List UInt8 := e.id :: .ofNat e.data.length :: e.data

@[simp] theorem bytes_length (e : Ie) : e.bytes.length = e.data.length + 2 := rfl

theorem len_toNat (e : Ie) : (UInt8.ofNat e.data.length).toNat = e.data.length := by
  rw [UInt8.toNat_ofNat', Nat.mod_eq_of_lt e.short]

end Ie

/-- The buffer that the elements are written as. -/
def bytesOf (ies : List Ie) : List UInt8 := ies.flatMap Ie.bytes

@[simp] theorem bytesOf_nil : bytesOf [] = [] := rfl

theorem bytesOf_cons (e : Ie) (ies : List Ie) : bytesOf (e :: ies) = e.bytes ++ bytesOf ies := rfl

theorem bytesOf_append (ies ies' : List Ie) : bytesOf (ies ++ ies') = bytesOf ies ++ bytesOf ies' :=
  List.flatMap_append

/-- A buffer around one of its elements. -/
theorem bytesOf_middle (before : List Ie) (e : Ie) (after : List Ie) (tail : List UInt8) :
    bytesOf (before ++ e :: after) ++ tail =
      bytesOf before ++ (e.bytes ++ (bytesOf after ++ tail)) := by
  rw [bytesOf_append, bytesOf_cons, List.append_assoc, List.append_assoc]

/-! ## Reading an element -/

theorem u8At_append_right (front back : List UInt8) (k : Nat) :
    u8At (front ++ back) (front.length + k) = u8At back k := by
  simp only [u8At, List.getD_eq_getElem?_getD]
  rw [List.getElem?_append_right (Nat.le_add_right _ _), Nat.add_sub_cancel_left]

theorem window_append_right (front back : List UInt8) (k n : Nat) :
    window (front ++ back) (front.length + k) n = window back k n := by
  rw [window, window, List.drop_length_add_append]

section Element

variable (front : List UInt8) (e : Ie) (back : List UInt8)

theorem u8At_id : u8At (front ++ (e.bytes ++ back)) front.length = e.id.toNat :=
  u8At_append_right front (e.bytes ++ back) 0

theorem u8At_len : u8At (front ++ (e.bytes ++ back)) (front.length + 1) = e.data.length :=
  (u8At_append_right front (e.bytes ++ back) 1).trans e.len_toNat

theorem window_data :
    window (front ++ (e.bytes ++ back)) (front.length + 2) e.data.length = e.data := by
  rw [window_append_right]
  exact List.take_left

theorem u8At_data {k : Nat} (inside : k < e.data.length) :
    u8At (front ++ (e.bytes ++ back)) (front.length + 2 + k) = u8At e.data k := by
  have whole : 2 + k < e.bytes.length := by
    rw [e.bytes_length]
    omega
  rw [Nat.add_assoc, u8At_append_right, u8At_append back whole, Nat.add_comm]
  rfl

/-- The element as a walk sees it. -/
theorem elemAt_element : elemAt (front ++ (e.bytes ++ back)) front.length =
    ⟨front.length, e.id.toNat, e.data.length⟩ := by
  rw [elemAt, u8At_id, u8At_len]

end Element

/-! ## Walking over the elements -/

/-- Where an element lies behind others. -/
def placeBehind (front : List UInt8) (e : Ie) : Elem := ⟨front.length, e.id.toNat, e.data.length⟩

/-- No whole element is left. -/
def CutOff (tail : List UInt8) : Prop := tail.length < 2 ∨ tail.length < 2 + u8At tail 1

theorem cutOff_nil : CutOff [] := .inl (by decide)

theorem elements_cutOff (front : List UInt8) {tail : List UInt8} (cut : CutOff tail) :
    elements (front ++ tail) (front ++ tail).length front.length = [] := by
  have length : (front ++ tail).length = front.length + tail.length := List.length_append
  rcases cut with short | short
  · exact elements_of_end (by omega)
  · have len : (elemAt (front ++ tail) front.length).after = front.length + 2 + u8At tail 1 :=
      congrArg (front.length + 2 + ·) (u8At_append_right front tail 1)
    rw [elements, len, length, if_neg (c := front.length + 2 + u8At tail 1 ≤ _) (by omega),
      ite_self]

theorem elements_cons (front : List UInt8) (e : Ie) (back : List UInt8) :
    elements (front ++ (e.bytes ++ back)) (front ++ (e.bytes ++ back)).length front.length =
      placeBehind front e :: elements (front ++ e.bytes ++ back) (front ++ e.bytes ++ back).length
        (front ++ e.bytes).length := by
  have length : (front ++ (e.bytes ++ back)).length =
      front.length + (2 + e.data.length + back.length) := by
    rw [List.length_append, List.length_append, e.bytes_length]
    omega
  have here : elemAt (front ++ (e.bytes ++ back)) front.length = placeBehind front e :=
    elemAt_element front e back
  have after : (placeBehind front e).after = (front ++ e.bytes).length := by
    rw [List.length_append, e.bytes_length]
    change front.length + 2 + e.data.length = _
    omega
  rw [elements, if_pos (by omega), here, if_pos, after, List.append_assoc]
  rw [after, length, List.length_append, e.bytes_length]
  omega

section Find

variable {bytes tail : List UInt8} {q : Elem → Bool} {P : Ie → Bool}
  (agrees : ∀ front e back, bytes = front ++ (e.bytes ++ back) → q (placeBehind front e) = P e)
include agrees

theorem find_bytesOf_none (front : List UInt8) {ies : List Ie} (cut : CutOff tail)
    (whole : bytes = front ++ (bytesOf ies ++ tail)) (nowhere : ∀ e ∈ ies, P e = false) :
    (elements bytes bytes.length front.length).find? q = none := by
  induction ies generalizing front with
  | nil =>
      rw [whole, bytesOf_nil, List.nil_append, elements_cutOff front cut]
      rfl
  | cons e ies ih =>
      have here : bytes = front ++ (e.bytes ++ (bytesOf ies ++ tail)) := by
        rw [whole, bytesOf_cons, List.append_assoc]
      have rest : bytes = front ++ e.bytes ++ (bytesOf ies ++ tail) := by
        rw [here, List.append_assoc]
      have further := ih _ rest fun e later => nowhere e (.tail _ later)
      rw [rest] at further
      have not : q (placeBehind front e) = false :=
        (agrees front e _ here).trans (nowhere e (.head _))
      rw [here, elements_cons, List.find?_cons, not]
      exact further

theorem find_bytesOf_some (front : List UInt8) {before : List Ie} {e : Ie} {after : List Ie}
    (whole : bytes = front ++ (bytesOf (before ++ e :: after) ++ tail)) (found : P e = true)
    (not : ∀ e ∈ before, P e = false) :
    (elements bytes bytes.length front.length).find? q =
      some (placeBehind (front ++ bytesOf before) e) := by
  induction before generalizing front with
  | nil =>
      have here : bytes = front ++ (e.bytes ++ (bytesOf after ++ tail)) := by
        rw [whole, List.nil_append, bytesOf_cons, List.append_assoc]
      rw [here, elements_cons, List.find?_cons, (agrees front e _ here).trans found, bytesOf_nil,
        List.append_nil]
  | cons f before ih =>
      have here : bytes = front ++ (f.bytes ++ (bytesOf (before ++ e :: after) ++ tail)) := by
        rw [whole, List.cons_append, bytesOf_cons, List.append_assoc]
      have rest : bytes = front ++ f.bytes ++ (bytesOf (before ++ e :: after) ++ tail) := by
        rw [here, List.append_assoc]
      have further := ih _ rest fun e later => not e (.tail _ later)
      rw [rest] at further
      have other : q (placeBehind front f) = false :=
        (agrees front f _ here).trans (not f (.head _))
      rw [here, elements_cons, List.find?_cons, other]
      refine further.trans ?_
      rw [bytesOf_cons, List.append_assoc]

end Find

/-- Another id is written over that of an element. -/
theorem set_bytesOf (before : List Ie) (e : Ie) (after : List Ie) (id : UInt8) :
    (bytesOf (before ++ e :: after)).set (bytesOf before).length id =
      bytesOf (before ++ { e with id := id } :: after) := by
  rw [bytesOf_append, bytesOf_append, List.set_append_right _ _ (Nat.le_refl _), Nat.sub_self]
  rfl

end Iwlwifi.Lib
