import Mathlib.Data.Nat.Bitwise
import Mathlib.Logic.Function.Iterate
import Iwlwifi.Wireless.Radiotap

/-!
# Calls of the radiotap iterator

The initialisation has walked the chain of bitmaps once, so every later bitmap is inside the
header and their number bounds the turns that are left (`Sound`).  One turn goes on, hands out
an argument or ends the iteration (`TurnOutcome`).  The argument pointer only moves forward,
except where the rest of a namespace is skipped: that moves it to `_next_ns_data`, which may lie
before it.
-/

namespace Iwlwifi

open Lib

/-! ## The chain of bitmaps -/

/-- The bitmaps from `nextBitmap` on are in the header, at most `room` of them. -/
def Chained (bytes : List UInt8) (maxLength : Nat) : Nat → Nat → Prop
  | 0, _ => False
  | room + 1, nextBitmap => nextBitmap + 4 ≤ maxLength ∧
      (radiotapExt (le32At bytes nextBitmap) = true →
        Chained bytes maxLength room (nextBitmap + 4))

/-- What is left of the current bitmap, and the bitmaps behind it if it says that there are
more. -/
structure BitmapsLeft (bytes : List UInt8) (room : Nat) (it : RadiotapIterator) : Prop where
  shifter : it.bitmapShifter < 2 ^ (32 - it.argIndex % 32)
  chain : it.bitmapShifter.testBit (31 - it.argIndex % 32) = true →
    Chained bytes it.maxLength room it.nextBitmap

/-- A bound on the turns that are left. -/
def RadiotapIterator.turnsLeft (room : Nat) (it : RadiotapIterator) : Nat :=
  32 * room + (32 - it.argIndex % 32)

section Bitmaps

variable {bytes : List UInt8} {room : Nat} {it : RadiotapIterator}

theorem BitmapsLeft.nextEntry (left : BitmapsLeft bytes room it) (bit : it.argIndex % 32 < 31) :
    BitmapsLeft bytes room it.nextEntry ∧ it.nextEntry.turnsLeft room < it.turnsLeft room := by
  have next : (it.argIndex + 1) % 32 = it.argIndex % 32 + 1 := by omega
  refine ⟨⟨?_, ?_⟩, ?_⟩
  · have bound := left.shifter
    obtain ⟨rest, more⟩ : ∃ rest, 32 - it.argIndex % 32 = rest + 1 :=
      ⟨31 - it.argIndex % 32, by omega⟩
    have less : 32 - (it.argIndex + 1) % 32 = rest := by omega
    simp only [RadiotapIterator.nextEntry, less]
    rw [more, pow_succ] at bound
    omega
  · intro ext
    refine left.chain ?_
    simp only [RadiotapIterator.nextEntry, next] at ext
    rw [← Nat.testBit_succ] at ext
    rwa [show 31 - it.argIndex % 32 = 31 - (it.argIndex % 32 + 1) + 1 by omega]
  · simp only [RadiotapIterator.turnsLeft, RadiotapIterator.nextEntry, next]
    omega

/-- At the last bit of a bitmap that says that there are more, the next one is there. -/
theorem BitmapsLeft.ext (left : BitmapsLeft bytes room it) (bit : it.argIndex % 32 = 31)
    (present : it.bitmapShifter % 2 = 1) :
    ∃ rest, room = rest + 1 ∧ it.nextBitmap + 4 ≤ it.maxLength ∧
      (radiotapExt (le32At bytes it.nextBitmap) = true →
        Chained bytes it.maxLength rest (it.nextBitmap + 4)) := by
  have chain := left.chain (by rw [bit]; simp [present])
  cases room with
  | zero => exact absurd chain id
  | succ rest => exact ⟨rest, rfl, chain⟩

end Bitmaps

/-! ## One turn -/

/-- What holds of the iterator between two turns. -/
structure RadiotapIterator.Sound (bytes : List UInt8) (room : Nat) (it : RadiotapIterator) :
    Prop where
  bitmaps : BitmapsLeft bytes room it
  length : it.maxLength ≤ bytes.length
  start : 8 ≤ it.arg
  /-- Beyond the header it does not matter, since no argument is handed out any more. -/
  kind : it.arg ≤ it.maxLength → it.isRadiotapNs = true → ∀ ns, it.currentNamespace ≠ .vendor ns

/-- An argument that lies in the header and, in the standard namespace, where it is aligned. -/
structure RadiotapIterator.Found (it : RadiotapIterator) : Prop where
  inside : it.thisArg + it.thisArgSize ≤ it.maxLength
  aligned : it.isRadiotapNs = true → ∃ known, rtapNamespaceSizes[it.thisArgIndex]? = some known ∧
    it.thisArgSize = known.size ∧ it.thisArg % known.align = 0

/-- How a turn ends that began with the pointer at `arg` and `left` turns left. -/
inductive TurnOutcome (bytes : List UInt8) (maxLength left : Nat) (arg : Int) :
    BoundedRead (Int × RadiotapIterator) RadiotapIterator → Prop
  | goesOn {it : RadiotapIterator} {room : Nat} : it.Sound bytes room → it.maxLength = maxLength →
    arg ≤ it.arg → it.turnsLeft room < left → TurnOutcome bytes maxLength left arg (.ok it)
  | found {it : RadiotapIterator} {room : Nat} : it.Sound bytes room → it.maxLength = maxLength →
    it.Found → arg ≤ it.thisArg → it.thisArg + it.thisArgSize = it.arg →
    it.turnsLeft room < left → TurnOutcome bytes maxLength left arg (.error (.ret (0, it)))
  | ended {code : Int} {it : RadiotapIterator} {room : Nat} : code ≠ 0 → it.Sound bytes room →
    it.maxLength = maxLength → arg ≤ it.arg → it.turnsLeft room ≤ left →
    TurnOutcome bytes maxLength left arg (.error (.ret (code, it)))

theorem TurnOutcome.of_le {bytes : List UInt8} {maxLength left : Nat} {arg before : Int}
    {out : BoundedRead (Int × RadiotapIterator) RadiotapIterator}
    (outcome : TurnOutcome bytes maxLength left arg out) (le : before ≤ arg) :
    TurnOutcome bytes maxLength left before out := by
  cases outcome with
  | goesOn sound same moved less => exact .goesOn sound same (le.trans moved) less
  | found sound same found moved ends less =>
    exact .found sound same found (le.trans moved) ends less
  | ended nonzero sound same moved less => exact .ended nonzero sound same (le.trans moved) less

section Turn

variable {bytes : List UInt8} {vns : List RadiotapNamespace} {room size : Nat}
  {it : RadiotapIterator}

/-- The end of a turn.  `it` has been padded and, at a vendor namespace, has read its header. -/
theorem radiotapTake_spec (bitmaps : BitmapsLeft bytes room it)
    (present : it.bitmapShifter % 2 = 1) (length : it.maxLength ≤ bytes.length)
    (start : 8 ≤ it.arg)
    (kind : it.arg ≤ it.maxLength → it.argIndex % 32 ≠ 30 → it.isRadiotapNs = true →
      ∀ ns, it.currentNamespace ≠ .vendor ns)
    (standard : it.arg ≤ it.maxLength → it.argIndex % 32 < 29 → it.isRadiotapNs = true →
      ∃ known, rtapNamespaceSizes[it.argIndex]? = some known ∧ size = known.size ∧
        it.arg % known.align = 0) :
    TurnOutcome bytes it.maxLength (it.turnsLeft room) it.arg (radiotapTake bytes it size) := by
  have moved : it.arg ≤ it.arg + size := by omega
  rw [radiotapTake]
  split
  · next beyond =>
      have outside : (it.maxLength : Int) < it.arg + size := by
        rcases beyond with before | after
        · simp only at before
          omega
        · exact after
      refine .ended (by decide) ⟨⟨bitmaps.shifter, bitmaps.chain⟩, length, ?_, ?_⟩ rfl moved
        (Nat.le_refl _)
      · exact start.trans moved
      · intro inside
        exact absurd inside (not_le.mpr outside)
  · next notBeyond =>
      have inside : it.arg + size ≤ it.maxLength := by
        by_contra outside
        exact notBeyond (Or.inr (not_le.mp outside))
      have here : it.arg ≤ it.maxLength := moved.trans inside
      rw [radiotapFinish]
      split
      · next bit =>
          -- a vendor namespace, handed out where nobody knows it
          have low : it.argIndex % 32 < 31 := by
            simp only at bit
            omega
          obtain ⟨next, less⟩ := @BitmapsLeft.nextEntry bytes room
            { it with
              thisArgIndex := 30, thisArg := it.arg, thisArgSize := size, arg := it.arg + size,
              resetOnExt := true, isRadiotapNs := false }
            ⟨bitmaps.shifter, bitmaps.chain⟩ low
          simp only
          split
          · exact .found ⟨next, length, start.trans moved, fun _ => nofun⟩ rfl ⟨inside, nofun⟩
              (le_refl _) rfl less
          · exact .goesOn ⟨next, length, start.trans moved, fun _ => nofun⟩ rfl moved less
      split
      · next bit =>
          have low : it.argIndex % 32 < 31 := by
            simp only at bit
            omega
          obtain ⟨next, less⟩ := @BitmapsLeft.nextEntry bytes room
            { it with
              thisArgIndex := it.argIndex, thisArg := it.arg, thisArgSize := size,
              arg := it.arg + size, resetOnExt := true, currentNamespace := .radiotap,
              isRadiotapNs := true }
            ⟨bitmaps.shifter, bitmaps.chain⟩ low
          exact .goesOn ⟨next, length, start.trans moved, fun _ _ => nofun⟩ rfl moved less
      split
      · next bit =>
          obtain ⟨rest, rfl, fits, chained⟩ := bitmaps.ext bit present
          have word : (readLe32 bytes it.nextBitmap :
              BoundedRead (Int × RadiotapIterator) Nat) = .ok (le32At bytes it.nextBitmap) :=
            readLe32_of_le (by omega)
          simp only [word, bind, Except.bind]
          have first : (if it.resetOnExt then 0 else it.argIndex + 1) % 32 = 0 := by
            simp only at bit
            split <;> omega
          refine @TurnOutcome.goesOn _ _ _ _ _ rest
            ⟨⟨?_, ?_⟩, length, start.trans moved, ?_⟩ rfl moved ?_
          · simp only [first]
            exact le32At_lt bytes it.nextBitmap
          · simp only [first]
            exact chained
          · exact fun _ standard => kind here (by omega) standard
          · simp only [RadiotapIterator.turnsLeft, first, bit]
            omega
      · next vendor radiotap ext =>
          simp only at vendor radiotap ext
          obtain ⟨next, less⟩ := @BitmapsLeft.nextEntry bytes room
            { it with
              thisArgIndex := it.argIndex, thisArg := it.arg, thisArgSize := size,
              arg := it.arg + size }
            ⟨bitmaps.shifter, bitmaps.chain⟩ (by simp only; omega)
          refine .found ⟨next, length, start.trans moved, ?_⟩ rfl ⟨inside, ?_⟩ (le_refl _) rfl less
          · exact fun _ standard => kind here vendor standard
          · exact fun isStandard => standard here (by omega) isStandard

theorem readAt_of_inside (distance : Int) (start : 0 ≤ distance)
    (inside : distance + 1 ≤ bytes.length) :
    readAt bytes distance = .ok (u8At bytes distance.toNat) := by
  rw [readAt, if_pos start]
  exact readU8_of_le (by omega)

/-- The header of a vendor namespace is read only inside the header. -/
theorem radiotapVendor_spec (length : it.maxLength ≤ bytes.length) (start : 8 ≤ it.arg) :
    radiotapVendor bytes vns it 6 = .error (.ret (-22, it)) ∨
      ∃ ns rest size, radiotapVendor bytes vns it 6 =
        .ok ({ it with currentNamespace := ns, nextNsData := rest }, size) := by
  rw [radiotapVendor]
  split
  · exact Or.inl rfl
  · next notBeyond =>
      have inside : it.arg + 6 ≤ it.maxLength := by
        by_contra outside
        exact notBeyond (Or.inr (not_le.mp outside))
      right
      simp only [@readAt_of_inside bytes it.arg (by omega) (by omega),
        @readAt_of_inside bytes (it.arg + 1) (by omega) (by omega),
        @readAt_of_inside bytes (it.arg + 2) (by omega) (by omega),
        @readAt_of_inside bytes (it.arg + 3) (by omega) (by omega),
        @readAt_of_inside bytes (it.arg + 4) (by omega) (by omega),
        @readAt_of_inside bytes (it.arg + 5) (by omega) (by omega), bind,
        Except.bind]
      exact ⟨_, _, _, rfl⟩

theorem RadiotapIterator.arg_le_padded (align : Nat) : it.arg ≤ (it.padded align).arg := by
  simp only [RadiotapIterator.padded]
  split <;> omega

/-- Every defined field of the standard namespace is aligned to a power of two. -/
theorem rtapNamespaceSizes_align {known : RadiotapAlignSize} {index : Nat}
    (entry : rtapNamespaceSizes[index]? = some known) (defined : known.align ≠ 0) :
    ∃ k ≤ 3, known.align = 2 ^ k := by
  have member := List.mem_of_getElem? entry
  simp only [rtapNamespaceSizes, List.mem_cons, List.not_mem_nil, or_false] at member
  rcases member with rfl | rfl | rfl | rfl | rfl | rfl | rfl | rfl | rfl | rfl | rfl | rfl | rfl |
    rfl | rfl | rfl | rfl | rfl | rfl | rfl | rfl | rfl
  all_goals first
    | exact absurd rfl defined
    | exact ⟨0, by decide, rfl⟩
    | exact ⟨1, by decide, rfl⟩
    | exact ⟨2, by decide, rfl⟩
    | exact ⟨3, by decide, rfl⟩

theorem RadiotapIterator.padded_aligned {k : Nat} (small : k ≤ 3) :
    (it.padded (2 ^ k)).arg % (2 ^ k : Nat) = 0 := by
  have low : ((it.arg % 2 ^ 64).toNat &&& (2 ^ k - 1) : Nat) = ((it.arg % 2 ^ 64).toNat % 2 ^ k) :=
    Nat.and_two_pow_sub_one_eq_mod _ k
  simp only [RadiotapIterator.padded, low]
  obtain rfl | rfl | rfl | rfl : k = 0 ∨ k = 1 ∨ k = 2 ∨ k = 3 := by omega
  all_goals
    split <;> omega

/-- Where the rest of a namespace is skipped, its end does not lie before the pointer. -/
def RadiotapIterator.SkipsForward (it : RadiotapIterator) : Prop :=
  it.bitmapShifter % 2 = 1 → it.entry = .skip → it.arg ≤ it.nextNsData

instance (it : RadiotapIterator) : Decidable it.SkipsForward :=
  inferInstanceAs (Decidable (_ → _ → _))

theorem RadiotapIterator.entry_field {align : Nat} (entry : it.entry = .field align size) :
    (it.argIndex % 32 = 30 → align = 2 ∧ size = 6) ∧
      (it.argIndex % 32 < 29 → ∃ known, it.currentNamespace.table[it.argIndex]? = some known ∧
        known.align ≠ 0 ∧ align = known.align ∧ size = known.size) := by
  rw [RadiotapIterator.entry] at entry
  split at entry
  · exact ⟨fun bit => by omega, fun bit => by omega⟩
  split at entry
  · next bit =>
      cases entry
      exact ⟨fun _ => ⟨rfl, rfl⟩, fun low => by omega⟩
  · next special vendor =>
      refine ⟨fun bit => absurd bit vendor, fun _ => ?_⟩
      split at entry
      · split at entry <;> cases entry
      · next known found =>
          split at entry
          · cases entry
          · next defined =>
              cases entry
              exact ⟨known, found, defined, rfl, rfl⟩

theorem radiotapTurn_spec (sound : it.Sound bytes room) (forward : it.SkipsForward) :
    TurnOutcome bytes it.maxLength (it.turnsLeft room) it.arg (radiotapTurn bytes vns it) := by
  have bit : it.argIndex % 32 < 32 := Nat.mod_lt _ (by decide)
  rw [radiotapTurn]
  split
  · exact .ended (by decide) sound rfl (le_refl _) (Nat.le_refl _)
  split
  · next last absent =>
      obtain ⟨next, less⟩ := sound.bitmaps.nextEntry (by omega)
      exact .goesOn ⟨next, sound.length, sound.start, sound.kind⟩ rfl (le_refl _) less
  · next absent =>
      have present : it.bitmapShifter % 2 = 1 := by omega
      split
      · exact .ended (by decide) sound rfl (le_refl _) (Nat.le_refl _)
      · next skips =>
          have moved := forward present skips
          obtain ⟨next, less⟩ := @BitmapsLeft.nextEntry bytes room
            { it with arg := it.nextNsData, currentNamespace := .unknown }
            ⟨sound.bitmaps.shifter, sound.bitmaps.chain⟩ (by
              by_contra high
              have ext : it.argIndex % 32 = 31 := by
                simp only at high
                omega
              rw [RadiotapIterator.entry, ext] at skips
              cases skips)
          exact .goesOn ⟨next, sound.length, sound.start.trans moved, fun _ _ => nofun⟩ rfl moved
            less
      · next align size entry =>
          obtain ⟨vendor, field⟩ := RadiotapIterator.entry_field entry
          have moved := @RadiotapIterator.arg_le_padded it align
          have start := sound.start.trans moved
          split
          · next isVendor =>
              obtain ⟨rfl, rfl⟩ := vendor isVendor
              rcases @radiotapVendor_spec bytes vns (it.padded 2) sound.length start with
                fails | ⟨ns, rest, size, header⟩
              · rw [fails]
                exact .ended (by decide) ⟨⟨sound.bitmaps.shifter, sound.bitmaps.chain⟩,
                  sound.length, start, fun inside => sound.kind (moved.trans inside)⟩ rfl moved
                  (Nat.le_refl _)
              · rw [header]
                refine (@radiotapTake_spec bytes room size
                  { it.padded 2 with currentNamespace := ns, nextNsData := rest }
                  ⟨sound.bitmaps.shifter, sound.bitmaps.chain⟩ present sound.length start
                  (fun _ other => absurd isVendor other) ?_).of_le moved
                intro _ low
                have high : it.argIndex % 32 < 29 := low
                omega
          · next notVendor =>
              refine (@radiotapTake_spec bytes room size (it.padded align)
                ⟨sound.bitmaps.shifter, sound.bitmaps.chain⟩ present sound.length start
                (fun inside _ => sound.kind (moved.trans inside)) ?_).of_le moved
              intro inside low standard
              obtain ⟨known, found, defined, rfl, rfl⟩ := field low
              have notRegistered := sound.kind (moved.trans inside) standard
              cases current : it.currentNamespace with
              | radiotap =>
                rw [current] at found
                obtain ⟨k, small, power⟩ := rtapNamespaceSizes_align found defined
                refine ⟨known, found, rfl, ?_⟩
                rw [power]
                exact RadiotapIterator.padded_aligned small
              | vendor ns => exact absurd current (notRegistered ns)
              | unknown =>
                rw [current] at found
                cases found

end Turn

/-! ## One call -/

/-- The iterator after a turn, whether the call goes on or not. -/
def radiotapStep (bytes : List UInt8) (vns : List RadiotapNamespace) (it : RadiotapIterator) :
    RadiotapIterator :=
  match radiotapTurn bytes vns it with
  | .ok it => it
  | .error (.ret (_, it)) => it
  | .error .outOfBounds => it

/-- No turn of any number of calls skips backward. -/
def SkipsForwardAlways (bytes : List UInt8) (vns : List RadiotapNamespace)
    (it : RadiotapIterator) : Prop :=
  ∀ turns, ((radiotapStep bytes vns)^[turns] it).SkipsForward

section Calls

variable {bytes : List UInt8} {vns : List RadiotapNamespace} {fuel room : Nat}
  {it : RadiotapIterator}

theorem SkipsForwardAlways.step (forward : SkipsForwardAlways bytes vns it) :
    SkipsForwardAlways bytes vns (radiotapStep bytes vns it) :=
  fun turns => forward (turns + 1)

/-- How a call ends. -/
structure CallOutcome (bytes : List UInt8) (vns : List RadiotapNamespace) (room : Nat)
    (it : RadiotapIterator) (code : Int) (after : RadiotapIterator) : Prop where
  sound : after.Sound bytes room
  forward : SkipsForwardAlways bytes vns after
  sameLength : after.maxLength = it.maxLength
  moved : it.arg ≤ after.arg
  found : code = 0 → after.Found ∧ it.arg ≤ after.thisArg ∧
    after.thisArg + after.thisArgSize = after.arg

/-- A call returns as soon as there is a turn for everything that is left of the bitmaps. -/
theorem radiotapIteratorNext_spec (sound : it.Sound bytes room)
    (forward : SkipsForwardAlways bytes vns it) (enough : it.turnsLeft room ≤ fuel) :
    ∃ code after room', radiotapIteratorNext bytes vns fuel it = some (.ret (code, after)) ∧
      CallOutcome bytes vns room' it code after ∧ after.turnsLeft room' ≤ it.turnsLeft room ∧
      (code = 0 → after.turnsLeft room' < it.turnsLeft room) := by
  induction fuel generalizing it room with
  | zero =>
    have bit : it.argIndex % 32 < 32 := Nat.mod_lt _ (by decide)
    simp only [RadiotapIterator.turnsLeft] at enough
    omega
  | succ fuel ih =>
    have outcome := @radiotapTurn_spec bytes vns room it sound (forward 0)
    have later := forward.step
    rw [radiotapStep] at later
    rw [radiotapIteratorNext]
    generalize radiotapTurn bytes vns it = turn at outcome later ⊢
    cases outcome with
    | @goesOn next room' soundNext same moved less =>
      obtain ⟨code, after, final, returns, call, atMost, fewer⟩ :=
        ih soundNext later (by omega)
      refine ⟨code, after, final, returns, ⟨call.sound, call.forward, ?_, ?_, ?_⟩, by omega,
        fun zero => by have := fewer zero; omega⟩
      · exact call.sameLength.trans same
      · exact moved.trans call.moved
      · intro zero
        obtain ⟨found, after, ends⟩ := call.found zero
        exact ⟨found, moved.trans after, ends⟩
    | @found next room' soundNext same found after ends less =>
      have moved : it.arg ≤ next.arg := by omega
      exact ⟨0, next, room', rfl, ⟨soundNext, later, same, moved,
        fun _ => ⟨found, after, ends⟩⟩, Nat.le_of_lt less, fun _ => less⟩
    | @ended code next room' nonzero soundNext same moved le =>
      exact ⟨code, next, room', rfl, ⟨soundNext, later, same, moved,
        fun zero => absurd zero nonzero⟩, le, fun zero => absurd zero nonzero⟩

/-! ## Any number of calls -/

/-- The range of an argument, once handed out. -/
def HandsOut (outcome : Option (Stop (Int × RadiotapIterator))) (start stop : Int) : Prop :=
  ∃ it, outcome = some (.ret (0, it)) ∧ it.thisArg = start ∧ it.thisArg + it.thisArgSize = stop

/-- What is said of the outcomes of some calls on a header of `itLen` bytes: every call returns,
an argument that is handed out lies in the header and in the standard namespace is aligned, and
no two arguments overlap. -/
structure RadiotapOutcomes (itLen : Nat)
    (outcomes : List (Option (Stop (Int × RadiotapIterator)))) :
    Prop where
  returns : ∀ outcome ∈ outcomes, ∃ code it, outcome = some (.ret (code, it))
  found : ∀ it, some (.ret (0, it)) ∈ outcomes →
    it.maxLength = itLen ∧ 0 ≤ it.thisArg ∧ it.Found
  apart : outcomes.Pairwise fun earlier later => ∀ start stop start' stop',
    HandsOut earlier start stop → HandsOut later start' stop' → stop ≤ start'

theorem radiotapCalls_spec (sound : it.Sound bytes room)
    (forward : SkipsForwardAlways bytes vns it) (enough : it.turnsLeft room ≤ fuel) (calls : Nat) :
    RadiotapOutcomes it.maxLength (radiotapCalls bytes vns fuel calls it) ∧
      ∀ outcome ∈ radiotapCalls bytes vns fuel calls it, ∀ start stop,
        HandsOut outcome start stop → it.arg ≤ start := by
  induction calls generalizing it room with
  | zero =>
    exact ⟨⟨List.forall_mem_nil _, fun _ member => absurd member List.not_mem_nil, .nil⟩,
      List.forall_mem_nil _⟩
  | succ calls ih =>
    obtain ⟨code, after, room', returns, call, atMost, -⟩ :=
      radiotapIteratorNext_spec sound forward enough
    obtain ⟨rest, behind⟩ := ih call.sound call.forward (atMost.trans enough)
    simp only [radiotapCalls, returns]
    refine ⟨⟨?_, ?_, ?_⟩, ?_⟩
    · intro outcome member
      rcases List.mem_cons.mp member with rfl | later
      · exact ⟨code, after, rfl⟩
      · exact rest.returns outcome later
    · intro found member
      rcases List.mem_cons.mp member with same | later
      · cases same
        obtain ⟨inHeader, afterArg, -⟩ := call.found rfl
        have start := sound.start
        exact ⟨call.sameLength, by omega, inHeader⟩
      · obtain ⟨length, inside⟩ := rest.found found later
        exact ⟨length.trans call.sameLength, inside⟩
    · refine List.pairwise_cons.mpr ⟨?_, rest.apart⟩
      rintro later member start stop start' stop' ⟨here, same, -, rfl⟩ handed
      cases same
      obtain ⟨-, -, ends⟩ := call.found rfl
      have next := behind later member start' stop' handed
      omega
    · intro outcome member start stop handed
      rcases List.mem_cons.mp member with rfl | later
      · obtain ⟨here, same, rfl, -⟩ := handed
        cases same
        exact (call.found rfl).2.1
      · exact call.moved.trans (behind outcome later start stop handed)

/-- Arguments are handed out at most as often as there are turns left. -/
theorem radiotapCalls_ends (sound : it.Sound bytes room)
    (forward : SkipsForwardAlways bytes vns it) (enough : it.turnsLeft room ≤ fuel) {calls : Nat}
    (many : it.turnsLeft room < calls) :
    ∃ code after, code ≠ 0 ∧ some (.ret (code, after)) ∈ radiotapCalls bytes vns fuel calls it := by
  induction calls generalizing it room with
  | zero => omega
  | succ calls ih =>
    obtain ⟨code, after, room', returns, call, atMost, fewer⟩ :=
      radiotapIteratorNext_spec sound forward enough
    simp only [radiotapCalls, returns]
    rcases eq_or_ne code 0 with zero | nonzero
    · have less := fewer zero
      obtain ⟨code', last, nonzero, member⟩ :=
        ih call.sound call.forward (atMost.trans enough) (by omega)
      exact ⟨code', last, nonzero, List.mem_cons_of_mem _ member⟩
    · exact ⟨code, after, nonzero, List.mem_cons_self⟩

end Calls

/-! ## The initialisation -/

section Init

variable {bytes : List UInt8}

theorem radiotapSkipBitmaps_spec {maxLength : Nat} (length : maxLength ≤ bytes.length)
    {room arg : Nat} (fits : arg + 4 * room ≤ maxLength) :
    radiotapSkipBitmaps bytes room arg = .error (.ret (-22)) ∨
      ∃ first, radiotapSkipBitmaps bytes room arg = .ok first ∧ arg ≤ first ∧
        Chained bytes maxLength room arg := by
  induction room generalizing arg with
  | zero => exact Or.inl rfl
  | succ room ih =>
    have inside : arg + 4 ≤ bytes.length := by omega
    rw [radiotapSkipBitmaps, readLe32_of_le inside]
    simp only [bind, Except.bind]
    split
    · rcases @ih (arg + 4) (by omega) with stops | ⟨first, walked, le, chained⟩
      · exact Or.inl stops
      · exact Or.inr ⟨first, walked, by omega, by omega, fun _ => chained⟩
    · next last => exact Or.inr ⟨arg + 4, rfl, by omega, by omega, fun ext => absurd ext last⟩

/-- What the initialisation leaves, if it succeeds. -/
theorem radiotapIteratorInit_spec (junk : RadiotapIterator) :
    InBounds (radiotapIteratorInit bytes junk) ∧
      ∀ it, radiotapIteratorInit bytes junk = .ok it → ∃ room, it.Sound bytes room := by
  rw [radiotapIteratorInit]
  split
  · exact ⟨inBounds_ret _, nofun⟩
  · next long =>
      have version : (readU8 bytes 0 : BoundedRead Int Nat) = .ok (u8At bytes 0) :=
        readU8_of_le (by omega)
      have low : (readU8 bytes 2 : BoundedRead Int Nat) = .ok (u8At bytes 2) :=
        readU8_of_le (by omega)
      have high : (readU8 bytes 3 : BoundedRead Int Nat) = .ok (u8At bytes 3) :=
        readU8_of_le (by omega)
      have present : (readLe32 bytes 4 : BoundedRead Int Nat) = .ok (le32At bytes 4) :=
        readLe32_of_le (by omega)
      simp only [version, low, high, present, bind, Except.bind]
      split
      · exact ⟨inBounds_ret _, nofun⟩
      split
      · exact ⟨inBounds_ret _, nofun⟩
      · next _ fits =>
          have length := Nat.le_of_not_lt fits
          generalize u8At bytes 2 + 256 * u8At bytes 3 = itLen at length ⊢
          split
          · next ext =>
              have walked : radiotapSkipBitmaps bytes ((itLen - 8) / 4) 8 = .error (.ret (-22)) ∨
                  ∃ first, radiotapSkipBitmaps bytes ((itLen - 8) / 4) 8 = .ok first ∧
                    8 ≤ first ∧ Chained bytes itLen ((itLen - 8) / 4) 8 := by
                rcases Nat.lt_or_ge itLen 8 with short | whole
                · rw [show (itLen - 8) / 4 = 0 by omega]
                  exact Or.inl rfl
                · exact radiotapSkipBitmaps_spec length (by omega)
              rcases walked with stops | ⟨first, walked, behind, chained⟩
              · rw [stops]
                exact ⟨inBounds_ret _, nofun⟩
              · rw [walked]
                refine ⟨inBounds_ok _, fun it same => ⟨(itLen - 8) / 4, ?_⟩⟩
                cases same
                exact ⟨⟨le32At_lt bytes 4, fun _ => chained⟩, length, by simp only; omega,
                  fun _ _ => nofun⟩
          · next last =>
              refine ⟨inBounds_ok _, fun it same => ⟨0, ?_⟩⟩
              cases same
              exact ⟨⟨le32At_lt bytes 4, fun more => absurd more last⟩, length, le_refl _,
                fun _ _ => nofun⟩

end Init

/-! ## Any buffer -/

/-- The iteration over a buffer: the initialisation stays in the buffer, and if it succeeds so do
any number of calls, which end. -/
def RadiotapIterates (bytes : List UInt8) (vns : List RadiotapNamespace)
    (junk : RadiotapIterator) : Prop :=
  InBounds (radiotapIteratorInit bytes junk) ∧
    ∀ it, radiotapIteratorInit bytes junk = .ok it → ∃ fuel,
      (∀ calls, RadiotapOutcomes it.maxLength (radiotapCalls bytes vns fuel calls it)) ∧
      ∃ calls code after, code ≠ 0 ∧
        some (.ret (code, after)) ∈ radiotapCalls bytes vns fuel calls it

theorem radiotapIterates_of_skipsForward (bytes : List UInt8) (vns : List RadiotapNamespace)
    (junk : RadiotapIterator)
    (forward : ∀ it, radiotapIteratorInit bytes junk = .ok it → SkipsForwardAlways bytes vns it) :
    RadiotapIterates bytes vns junk := by
  obtain ⟨inBounds, ready⟩ := @radiotapIteratorInit_spec bytes junk
  refine ⟨inBounds, fun it started => ?_⟩
  obtain ⟨room, sound⟩ := ready it started
  have enough := Nat.le_refl (it.turnsLeft room)
  exact ⟨it.turnsLeft room,
    fun calls => (radiotapCalls_spec sound (forward it started) enough calls).1,
    it.turnsLeft room + 1,
    radiotapCalls_ends sound (forward it started) enough (Nat.lt_succ_self _)⟩

/-- The iteration stands still once a turn leaves the iterator as it is. -/
theorem SkipsForwardAlways.of_fixed {bytes : List UInt8} {vns : List RadiotapNamespace}
    {it : RadiotapIterator} {turns : Nat}
    (fixed : radiotapStep bytes vns ((radiotapStep bytes vns)^[turns] it) =
      (radiotapStep bytes vns)^[turns] it)
    (forward : ∀ before ≤ turns, ((radiotapStep bytes vns)^[before] it).SkipsForward) :
    SkipsForwardAlways bytes vns it := by
  intro more
  rcases Nat.le_total more turns with before | after
  · exact forward more before
  · obtain ⟨rest, rfl⟩ := Nat.exists_eq_add_of_le after
    rw [Nat.add_comm, Function.iterate_add_apply, Function.iterate_fixed fixed]
    exact forward turns (Nat.le_refl turns)

def littleEndian32 (word : Nat) : List UInt8 :=
  [.ofNat word, .ofNat (word / 2 ^ 8), .ofNat (word / 2 ^ 16), .ofNat (word / 2 ^ 24)]

def zeroedIterator : RadiotapIterator :=
  ⟨.unknown, 0, 0, 0, 0, 0, 0, false, 0, 0, 0, false⟩

/-- A time stamp and flags. -/
def stampedHeader : List UInt8 := [0, 0, 17, 0] ++ littleEndian32 3 ++ List.replicate 9 0

/-- The iterator that the initialisation leaves on a header. -/
def startedIterator (bytes : List UInt8) : RadiotapIterator :=
  match radiotapIteratorInit bytes zeroedIterator with
  | .ok it => it
  | .error _ => zeroedIterator

theorem radiotapIterates_stampedHeader : RadiotapIterates stampedHeader [] zeroedIterator := by
  refine radiotapIterates_of_skipsForward stampedHeader [] zeroedIterator fun it started => ?_
  have same : it = startedIterator stampedHeader := by
    rw [startedIterator, started]
  rw [same]
  exact @SkipsForwardAlways.of_fixed _ _ _ 31 (by decide +kernel) (by decide +kernel)

/-! ## A field that is not defined -/

/-- A vendor namespace nobody knows, without data; then the standard namespace with a time stamp
and the undefined field 18; then the standard namespace with a time stamp. -/
def undefinedFieldHeader : List UInt8 :=
  [0, 0, 40, 0] ++ littleEndian32 (2 ^ 30 + 2 ^ 31) ++ littleEndian32 (2 ^ 29 + 2 ^ 31) ++
    littleEndian32 (1 + 2 ^ 18 + 2 ^ 29 + 2 ^ 31) ++ littleEndian32 1 ++ List.replicate 20 0

instance (outcome : Option (Stop (Int × RadiotapIterator))) (start stop : Int) :
    Decidable (HandsOut outcome start stop) :=
  match outcome with
  | some (.ret (code, it)) =>
    decidable_of_iff (code = 0 ∧ it.thisArg = start ∧ it.thisArg + it.thisArgSize = stop)
      ⟨fun ⟨zero, range⟩ => ⟨it, by rw [zero], range⟩,
        fun ⟨_, same, range⟩ => by cases same; exact ⟨rfl, range⟩⟩
  | some .outOfBounds => isFalse fun ⟨_, same, _⟩ => nomatch same
  | none => isFalse fun ⟨_, same, _⟩ => nomatch same

/-- How many turns a call may take does not matter, as long as it returns. -/
theorem radiotapIteratorNext_fuel {bytes : List UInt8} {vns : List RadiotapNamespace}
    {fuel fuel' : Nat} {it : RadiotapIterator}
    (returns : radiotapIteratorNext bytes vns fuel it ≠ none)
    (returns' : radiotapIteratorNext bytes vns fuel' it ≠ none) :
    radiotapIteratorNext bytes vns fuel it = radiotapIteratorNext bytes vns fuel' it := by
  induction fuel generalizing fuel' it with
  | zero => exact absurd rfl returns
  | succ fuel ih =>
    cases fuel' with
    | zero => exact absurd rfl returns'
    | succ fuel' =>
      simp only [radiotapIteratorNext] at returns returns' ⊢
      split
      · next turn =>
          simp only [turn] at returns returns'
          exact ih returns returns'
      · rfl

theorem radiotapCalls_fuel {bytes : List UInt8} {vns : List RadiotapNamespace}
    {fuel fuel' calls : Nat} {it : RadiotapIterator}
    (returns : none ∉ radiotapCalls bytes vns fuel calls it)
    (returns' : none ∉ radiotapCalls bytes vns fuel' calls it) :
    radiotapCalls bytes vns fuel calls it = radiotapCalls bytes vns fuel' calls it := by
  induction calls generalizing it with
  | zero => rfl
  | succ calls ih =>
    have same : radiotapIteratorNext bytes vns fuel it =
        radiotapIteratorNext bytes vns fuel' it := by
      refine radiotapIteratorNext_fuel ?_ ?_
      · intro endless
        exact returns (by simp [radiotapCalls, endless])
      · intro endless
        exact returns' (by simp [radiotapCalls, endless])
    simp only [radiotapCalls, same] at returns returns' ⊢
    split
    · next code after call =>
        simp only [call, List.mem_cons, not_or] at returns returns'
        rw [ih returns.2 returns'.2]
    · rfl

/-- The undefined field moves the pointer back to the end of the vendor namespace, and the time
stamp is handed out twice. -/
theorem not_radiotapIterates : ¬RadiotapIterates undefinedFieldHeader [] zeroedIterator := by
  rintro ⟨-, iterates⟩
  obtain ⟨fuel, outcomes, -⟩ := iterates (startedIterator undefinedFieldHeader) (by decide +kernel)
  have returns : none ∉ radiotapCalls undefinedFieldHeader [] fuel 3
      (startedIterator undefinedFieldHeader) := by
    intro endless
    obtain ⟨code, it, same⟩ := (outcomes 3).returns none endless
    cases same
  have apart := (outcomes 3).apart
  rw [@radiotapCalls_fuel _ _ fuel 200 3 _ returns (by decide +kernel)] at apart
  have twice := List.pairwise_iff_getElem.mp apart 1 2 (by decide +kernel) (by decide +kernel)
    (by decide) 32 40 32 40 (by decide +kernel) (by decide +kernel)
  exact absurd twice (by decide)

end Iwlwifi
