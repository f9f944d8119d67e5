import Iwlwifi.Lib.Run
import Iwlwifi.Mvm.CorrelatedSample
import Mathlib.Data.List.Chain

/-!
# The device time over runs of calls

The GP2 register is the low 32 bits of an unbounded count of microseconds.  A call adjusts
the register for one wrap since the saved value, but it saves the register as it is read:
the call after one that saw a wrap starts from a value 2^32 too small, and its device time
falls back behind the one before.

`CarriesNoWrap` is the condition on the state before a call and its readings under which
the device time advances by what the counter does (`unwrapped_of_carriesNoWrap`).  The
counts behind the device time and behind the saved register are kept beside the state.
-/

namespace Iwlwifi

open Lib

variable {time : TimeState} {reads : Nat → Reading} {polled : Nat → UInt8}

/-! ## The passes behind the device time and the saved register -/

/-- The pass at which a call ends. -/
def endPass (time : TimeState) (reads : Nat → Reading) : Nat :=
  if time.counted then
    ((List.range (numTryAgain - 1)).find? fun n => decide (passError time reads n < 1024)).getD
      (numTryAgain - 1)
  else 0

/-- The pass whose register value is in `GP2_ns`: the last one, or the good one when the
tries are used up. -/
def gp2Pass (time : TimeState) (reads : Nat → Reading) : Nat :=
  let n := endPass time reads
  if time.counted = true ∧ 1024 ≤ passError time reads n then
    (goodPass time reads (n + 1)).getD n
  else n

/-- The pass whose register value is saved: the good one, unless it read 0. -/
def savedPass (time : TimeState) (reads : Nat → Reading) : Nat :=
  let n := endPass time reads
  let good :=
    if time.counted then
      if passError time reads n < 0 then goodPass time reads n else goodPass time reads (n + 1)
    else none
  match good with
  | some j => if (reads j).gp2 ≠ 0 then j else n
  | none => n

theorem endPass_of_counted {n : Nat} (counted : time.counted = true) (inRange : n < numTryAgain)
    (before : ∀ k < n, 1024 ≤ passError time reads k)
    (ends : passError time reads n < 1024 ∨ n = numTryAgain - 1) : endPass time reads = n := by
  have notBefore : ∀ k < n, decide (passError time reads k < 1024) = false := by
    intro k earlier
    have := before k earlier
    exact decide_eq_false (by grind)
  rw [endPass, if_pos counted]
  by_cases last : n = numTryAgain - 1
  · have none : ((List.range (numTryAgain - 1)).find?
        fun n => decide (passError time reads n < 1024)) = none := by
      refine List.find?_eq_none.mpr fun k member => ?_
      rw [List.mem_range, ← last] at member
      simp [notBefore k member]
    rw [none, last]
    rfl
  · have found : ((List.range (numTryAgain - 1)).find?
        fun n => decide (passError time reads n < 1024)) = some n := by
      refine List.find?_range_eq_some.mpr ⟨?_, ?_, ?_⟩
      · exact decide_eq_true (ends.resolve_right last)
      · exact List.mem_range.mpr (by simp only [numTryAgain] at *; omega)
      · intro k earlier
        simp [notBefore k earlier]
    rw [found]
    rfl

/-- The passes behind what a call leaves. -/
structure PassesOf (time : TimeState) (reads : Nat → Reading) (after : TimeState)
    (gp2 saved : Nat) : Prop where
  gp2InRange : gp2 < numTryAgain
  savedInRange : saved < numTryAgain
  gp2Ns : after.gp2Ns = u64GP2 time.sLastGP2 (reads gp2).gp2
  sLastGP2 : after.sLastGP2 = (reads saved).gp2
  /-- The saved register is an earlier one, or the good sample read 0 and is not saved. -/
  order : saved = gp2 ∨ time.sLastGP2 ≠ 0 ∧ (saved < gp2 ∨ (reads gp2).gp2 = 0)

/-- `gp2Pass` and `savedPass` are the passes behind what a call leaves, if some error is
usable. -/
theorem passesOf_call (time : TimeState) (reads : Nat → Reading)
    (ready : waitPending 5 polled = true)
    (usable : time.counted = true → ∃ k < numTryAgain, passError time reads k < noDelta) :
    PassesOf time reads (iwlMvmGetCorrelatedTime time polled reads).2 (gp2Pass time reads)
      (savedPass time reads) := by
  cases iwlMvmGetCorrelatedTime_cases time reads ready with
  | first notCounted times saved =>
    have last : endPass time reads = 0 := by rw [endPass, notCounted]; rfl
    have gp2 : gp2Pass time reads = 0 := by simp [gp2Pass, last, notCounted]
    have isSaved : savedPass time reads = 0 := by simp [savedPass, last, notCounted]
    rw [gp2, isSaved]
    exact ⟨by decide, by decide, times.gp2Ns, saved, .inl rfl⟩
  | negative n counted inRange before below times saved =>
    have last : endPass time reads = n :=
      endPass_of_counted counted inRange before (.inl (by grind))
    have gp2 : gp2Pass time reads = n := by
      rw [gp2Pass, last]
      exact if_neg (by grind)
    rw [gp2, savedPass, last, if_pos counted, if_pos below]
    rcases firstLeast_cases (passError time reads) noDelta n with
      ⟨none, -⟩ | ⟨j, held, isLeast⟩
    · rw [goodAfter, goodPass, none] at saved
      rw [goodPass, none]
      exact ⟨inRange, inRange, times.gp2Ns, saved, .inl rfl⟩
    · rw [goodAfter_of_isFirstLeast isLeast, savedGP2, GoodSample.ofReading] at saved
      rw [goodPass, held]
      dsimp only at saved ⊢
      split
      · next nonzero =>
          rw [if_pos nonzero] at saved
          exact ⟨inRange, isLeast.lt.trans inRange, times.gp2Ns, saved,
            .inr ⟨sLastGP2_ne_zero counted, .inl isLeast.lt⟩⟩
      · next zero =>
          rw [if_neg zero] at saved
          exact ⟨inRange, inRange, times.gp2Ns, saved, .inl rfl⟩
  | small n counted inRange before nonneg below times saved =>
    have last : endPass time reads = n :=
      endPass_of_counted counted inRange before (.inl below)
    have gp2 : gp2Pass time reads = n := by
      rw [gp2Pass, last]
      exact if_neg (by grind)
    have good : goodPass time reads (n + 1) = some n :=
      firstLeast_eq_some (isFirstLeast_of_small before below)
    have isSaved : savedPass time reads = n := by
      rw [savedPass, last, if_pos counted, if_neg (by grind), good]
      dsimp only
      split <;> rfl
    rw [gp2, isSaved]
    exact ⟨inRange, inRange, times.gp2Ns, saved, .inl rfl⟩
  | outOfTries counted large gp2Ns sysRealtimeNs sysMonorawNs saved =>
    have last : endPass time reads = numTryAgain - 1 :=
      endPass_of_counted counted (by decide) (fun k before => large k (by omega)) (.inr rfl)
    have lastLarge := large (numTryAgain - 1) (by decide)
    rcases firstLeast_cases (passError time reads) noDelta numTryAgain with
      ⟨none, above⟩ | ⟨j, held, isLeast⟩
    · obtain ⟨k, inRange, below⟩ := usable counted
      have := above k inRange
      grind
    have all : numTryAgain - 1 + 1 = numTryAgain := rfl
    have gp2 : gp2Pass time reads = j := by
      rw [gp2Pass, last, all, if_pos ⟨counted, lastLarge⟩, goodPass, held]
      rfl
    rw [goodAfter_of_isFirstLeast isLeast] at gp2Ns saved
    rw [savedGP2, GoodSample.ofReading] at saved
    rw [gp2, savedPass, last, if_pos counted, if_neg (by grind), all, goodPass, held]
    dsimp only at saved ⊢
    split
    · next nonzero =>
        rw [if_pos nonzero] at saved
        exact ⟨isLeast.lt, isLeast.lt, gp2Ns, saved, .inl rfl⟩
    · next zero =>
        rw [if_neg zero] at saved
        exact ⟨isLeast.lt, by decide, gp2Ns, saved,
          .inr ⟨sLastGP2_ne_zero counted, .inr (not_not.mp zero)⟩⟩

/-! ## Runs -/

/-- What the passes of a call find: the count of the device, of which the register has the
low 32 bits, and the clocks. -/
structure DeviceClock where
  count : Nat → Nat
  timeOfDay : Nat → UInt64
  timeOfDayAfter : Nat → UInt64
  monotonic : Nat → UInt64

def DeviceClock.reading (clock : DeviceClock) (k : Nat) : Reading where
  timeOfDay := clock.timeOfDay k
  gp2 := UInt32.ofNat (clock.count k)
  timeOfDayAfter := clock.timeOfDayAfter k
  monotonic := clock.monotonic k

/-- A call of `iwl_mvm_get_correlated_time`, or of it by a cross-timestamp, with the flag
as the polls find it. -/
inductive Gp2Call where
  | correlatedTime (polled : Nat → UInt8) (clock : DeviceClock)
  | crosstimestamp (polled polledAgain : Nat → UInt8) (clock : DeviceClock)

namespace Gp2Call

/-- Whether the call gets past its waits. -/
def ready : Gp2Call → Bool
  | correlatedTime polled _ => waitPending 5 polled
  | crosstimestamp polled polledAgain _ => waitPending 3 polled && waitPending 5 polledAgain

def clock : Gp2Call → DeviceClock
  | correlatedTime _ clock => clock
  | crosstimestamp _ _ clock => clock

def apply (time : TimeState) : Gp2Call → TimeState
  | correlatedTime polled clock => (iwlMvmGetCorrelatedTime time polled clock.reading).2
  | crosstimestamp polled polledAgain clock =>
    (iwlMvmPhcGetCrosstimestamp time polled polledAgain clock.reading).1

/-- What a call leaves of the device time and the saved register, with the passes behind
them. -/
theorem apply_passesOf (time : TimeState) (call : Gp2Call) (ready : call.ready = true)
    (usable : time.counted = true →
      ∃ k < numTryAgain, passError time call.clock.reading k < noDelta) :
    PassesOf time call.clock.reading (call.apply time) (gp2Pass time call.clock.reading)
      (savedPass time call.clock.reading) := by
  cases call with
  | correlatedTime polled clock => exact passesOf_call time _ ready usable
  | crosstimestamp polled polledAgain clock =>
    rw [Gp2Call.ready, Bool.and_eq_true] at ready
    have passes := passesOf_call time clock.reading ready.2 usable
    rw [apply, iwlMvmPhcGetCrosstimestamp, if_pos ready.1]
    exact ⟨passes.gp2InRange, passes.savedInRange, passes.gp2Ns, passes.sLastGP2,
      passes.order⟩

/-- A call that does not get past its waits keeps the device time and the saved register. -/
theorem apply_of_not_ready (time : TimeState) (call : Gp2Call) (notReady : call.ready = false) :
    (call.apply time).gp2Ns = time.gp2Ns ∧ (call.apply time).sLastGP2 = time.sLastGP2 := by
  cases call with
  | correlatedTime polled clock =>
    rw [Gp2Call.ready] at notReady
    rw [apply, iwlMvmGetCorrelatedTime, notReady]
    exact ⟨rfl, rfl⟩
  | crosstimestamp polled polledAgain clock =>
    rw [Gp2Call.ready, Bool.and_eq_false_iff] at notReady
    rw [apply, iwlMvmPhcGetCrosstimestamp]
    split
    · next ready =>
        rw [iwlMvmGetCorrelatedTime, notReady.resolve_left (by simp [ready])]
        exact ⟨rfl, rfl⟩
    · exact ⟨rfl, rfl⟩

end Gp2Call

/-- A run: the state, the counts behind `GP2_ns` and `s_last_GP2`, and for each call the
device time it left with the count behind it. -/
structure Gp2Track where
  time : TimeState
  gp2Count : Nat
  lastCount : Nat
  left : List (UInt64 × Nat)

def Gp2Track.init : Gp2Track where
  time := .init
  gp2Count := 0
  lastCount := 0
  left := []

def Gp2Track.step (t : Gp2Track) (call : Gp2Call) : Gp2Track :=
  let time := call.apply t.time
  if call.ready then
    let gp2Count := call.clock.count (gp2Pass t.time call.clock.reading)
    { time
      gp2Count
      lastCount := call.clock.count (savedPass t.time call.clock.reading)
      left := t.left ++ [(time.gp2Ns, gp2Count)] }
  else { t with time }

/-- From one call to the next the device time advances by 1000 times the counter, and is
larger if the counter advanced. -/
def Unwrapped (a b : UInt64 × Nat) : Prop :=
  (b.1.toNat : Int) - a.1.toNat = 1000 * ((b.2 : Int) - a.2) ∧ (a.2 < b.2 → a.1 < b.1)

instance (a b : UInt64 × Nat) : Decidable (Unwrapped a b) :=
  inferInstanceAs (Decidable (_ ∧ (_ → _)))

/-- The condition on a call and the state before it.  The device time left by the call
before was not adjusted for a wrap; the readings do not go back, and are less than 2^32
beyond the count behind the saved register; and not every error is the largest. -/
structure CarriesNoWrap (t : Gp2Track) (clock : DeviceClock) : Prop where
  notAdjusted : t.left ≠ [] → t.time.gp2Ns.toNat < 1000 * 2 ^ 32
  within : t.left ≠ [] → ∀ k < numTryAgain,
    t.lastCount ≤ clock.count k ∧ clock.count k < t.lastCount + 2 ^ 32
  forward : ∀ k < numTryAgain, ∀ j < k, clock.count j ≤ clock.count k
  usable : t.time.counted = true →
    ∃ k < numTryAgain, passError t.time clock.reading k < noDelta

instance (t : Gp2Track) (clock : DeviceClock) : Decidable (CarriesNoWrap t clock) :=
  decidable_of_iff (_ ∧ _ ∧ _ ∧ _)
    ⟨fun ⟨notAdjusted, within, forward, usable⟩ => ⟨notAdjusted, within, forward, usable⟩,
      fun ⟨notAdjusted, within, forward, usable⟩ => ⟨notAdjusted, within, forward, usable⟩⟩

def CallCarriesNoWrap (t : Gp2Track) (call : Gp2Call) : Prop :=
  call.ready = true → CarriesNoWrap t call.clock

instance (t : Gp2Track) (call : Gp2Call) : Decidable (CallCarriesNoWrap t call) :=
  inferInstanceAs (Decidable (_ → _))

/-- The saved register is the count behind it, and a device time that was not adjusted is
the count behind it in the same wrap. -/
structure Gp2Inv (t : Gp2Track) : Prop where
  saved : t.time.sLastGP2.toNat = t.lastCount % 2 ^ 32
  fresh : t.left = [] → t.time.sLastGP2 = 0
  aligned : t.left ≠ [] → t.time.gp2Ns.toNat < 1000 * 2 ^ 32 →
    (t.time.gp2Ns.toNat : Int) =
      1000 * (t.time.sLastGP2.toNat + ((t.gp2Count : Int) - t.lastCount))
  last : ∀ entry ∈ t.left.getLast?, entry = (t.time.gp2Ns, t.gp2Count)
  unwrapped : t.left.IsChain Unwrapped

/-- Within 2^32 of the saved count the adjusted register is the saved one and the advance
of the count. -/
theorem adjusted_register {last count : Nat} (from_ : last ≤ count)
    (within : count < last + 2 ^ 32) :
    count % 2 ^ 32 + (if count % 2 ^ 32 < last % 2 ^ 32 then 2 ^ 32 else 0) =
      last % 2 ^ 32 + (count - last) := by
  split <;> omega

/-- What a call in range leaves, in counts: the device time is the saved register and the
advance since; and if it was not adjusted, so is the register saved now. -/
theorem PassesOf.counts {after : TimeState} {clock : DeviceClock} {gp2 saved lastCount : Nat}
    (passes : PassesOf time clock.reading after gp2 saved)
    (isSaved : time.sLastGP2.toNat = lastCount % 2 ^ 32)
    (within : ∀ k < numTryAgain, lastCount ≤ clock.count k ∧ clock.count k < lastCount + 2 ^ 32)
    (forward : ∀ k < numTryAgain, ∀ j < k, clock.count j ≤ clock.count k) :
    (after.gp2Ns.toNat : Int) =
        1000 * (time.sLastGP2.toNat + ((clock.count gp2 : Int) - lastCount)) ∧
      (after.gp2Ns.toNat < 1000 * 2 ^ 32 →
        (after.gp2Ns.toNat : Int) =
          1000 * (after.sLastGP2.toNat + ((clock.count gp2 : Int) - clock.count saved))) := by
  obtain ⟨gp2From, gp2Within⟩ := within gp2 passes.gp2InRange
  obtain ⟨savedFrom, savedWithin⟩ := within saved passes.savedInRange
  have register := adjusted_register gp2From gp2Within
  have unwrapped := congrArg UInt64.toNat passes.gp2Ns
  have sLast := congrArg UInt32.toNat passes.sLastGP2
  rw [u64GP2_toNat, DeviceClock.reading, UInt32.toNat_ofNat', isSaved, register] at unwrapped
  rw [DeviceClock.reading, UInt32.toNat_ofNat'] at sLast
  refine ⟨by omega, fun notAdjusted => ?_⟩
  rw [sLast]
  rcases passes.order with rfl | ⟨nonzero, earlier | zero⟩
  · omega
  · have := forward gp2 passes.gp2InRange saved earlier
    omega
  · -- a register of 0 is below the saved one, so that the device time is adjusted
    have positive : time.sLastGP2.toNat ≠ 0 := fun isZero =>
      nonzero (UInt32.toNat_inj.mp isZero)
    have zero := congrArg UInt32.toNat zero
    rw [DeviceClock.reading, UInt32.toNat_ofNat', UInt32.toNat_zero] at zero
    omega

/-- The first call finds no saved register. -/
theorem PassesOf.counts_of_fresh {after : TimeState} {clock : DeviceClock} {gp2 saved : Nat}
    (passes : PassesOf time clock.reading after gp2 saved) (fresh : time.sLastGP2 = 0) :
    (after.gp2Ns.toNat : Int) =
      1000 * (after.sLastGP2.toNat + ((clock.count gp2 : Int) - clock.count saved)) := by
  obtain rfl : saved = gp2 := passes.order.resolve_right fun both => both.1 fresh
  have unwrapped := congrArg UInt64.toNat passes.gp2Ns
  rw [u64GP2_toNat, fresh, UInt32.toNat_zero, if_neg (Nat.not_lt_zero _)] at unwrapped
  rw [unwrapped, passes.sLastGP2]
  omega

/-- The invariant is about the device time and the saved register only. -/
theorem Gp2Inv.congr {t : Gp2Track} {after : TimeState} (inv : Gp2Inv t)
    (sameGp2 : after.gp2Ns = t.time.gp2Ns) (sameSaved : after.sLastGP2 = t.time.sLastGP2) :
    Gp2Inv { t with time := after } where
  saved := sameSaved ▸ inv.saved
  fresh := fun none => sameSaved.trans (inv.fresh none)
  aligned := by simpa only [sameGp2, sameSaved] using inv.aligned
  last := by simpa only [sameGp2] using inv.last
  unwrapped := inv.unwrapped

theorem Gp2Inv.step {t : Gp2Track} (inv : Gp2Inv t) (call : Gp2Call)
    (kept : CallCarriesNoWrap t call) : Gp2Inv (t.step call) := by
  cases ready : call.ready with
  | false =>
    obtain ⟨sameGp2, sameSaved⟩ := call.apply_of_not_ready t.time ready
    rw [Gp2Track.step, if_neg (by simp [ready])]
    exact inv.congr sameGp2 sameSaved
  | true =>
    have kept := kept ready
    have passes := call.apply_passesOf t.time ready kept.usable
    have isSaved := congrArg UInt32.toNat passes.sLastGP2
    rw [DeviceClock.reading, UInt32.toNat_ofNat'] at isSaved
    rw [Gp2Track.step, if_pos ready]
    refine
      { saved := isSaved
        fresh := fun none => absurd none (by simp)
        aligned := fun _ notAdjusted => ?_
        last := by simp
        unwrapped := ?_ }
    · by_cases first : t.left = []
      · exact passes.counts_of_fresh (inv.fresh first)
      · exact (passes.counts inv.saved (kept.within first) kept.forward).2 notAdjusted
    · refine List.isChain_append.mpr ⟨inv.unwrapped, List.isChain_singleton _, ?_⟩
      intro entry isLast next isNext
      have called : t.left ≠ [] := by
        rintro none
        rw [none] at isLast
        cases isLast
      obtain rfl := inv.last entry isLast
      simp only [List.head?_cons, Option.mem_def, Option.some.injEq] at isNext
      subst isNext
      have before := inv.aligned called (kept.notAdjusted called)
      have now := (passes.counts inv.saved (kept.within called) kept.forward).1
      have advance : (((call.apply t.time).gp2Ns.toNat : Int)) - t.time.gp2Ns.toNat =
          1000 * ((call.clock.count (gp2Pass t.time call.clock.reading) : Int) -
            t.gp2Count) := by
        omega
      exact ⟨advance, fun ahead => UInt64.lt_iff_toNat_lt.mpr (by dsimp only at ahead ⊢; omega)⟩

/-- In every run from the state the driver is loaded in, all of whose calls meet
`CarriesNoWrap`, the device time advances from call to call by what the counter does. -/
theorem unwrapped_of_carriesNoWrap {calls : List Gp2Call}
    (run : Admissible Gp2Track.step CallCarriesNoWrap .init calls) :
    (calls.foldl Gp2Track.step .init).left.IsChain Unwrapped :=
  (run.invariant (P := Gp2Inv) (fun _ call inv kept => inv.step call kept)
    { saved := rfl
      fresh := fun _ => rfl
      aligned := fun called => absurd rfl called
      last := fun _ none => by cases none
      unwrapped := List.isChain_nil }).unwrapped

/-- A cross-timestamp that finds the flag clear, the count and the system time in msec. -/
def crosstimestampAt (count : Nat) (msec : UInt64) : Gp2Call :=
  .crosstimestamp idle idle
    { count := fun _ => count
      timeOfDay := fun _ => msec * 1000000
      timeOfDayAfter := fun _ => msec * 1000000
      monotonic := fun _ => msec * 1000000 }

/-- Two calls with a wrap between them. -/
theorem unwrapped_of_carriesNoWrap_wrap :
    ([crosstimestampAt 4294966296 1000, crosstimestampAt 4294968296 1002].foldl Gp2Track.step
      .init).left.IsChain Unwrapped :=
  unwrapped_of_carriesNoWrap (by decide +kernel)

/-- A third call: the second one's device time was adjusted, the third one's is not. -/
theorem not_unwrapped_after_wrap :
    ¬([crosstimestampAt 4294966296 1000, crosstimestampAt 4294968296 1002,
      crosstimestampAt 4294969296 1003].foldl Gp2Track.step .init).left.IsChain Unwrapped := by
  decide +kernel

end Iwlwifi
