import Iwlwifi.Lib.FirstLeast
import Iwlwifi.Mvm.TimingMeasurement

/-!
# Which samples a cross-timestamp is made of

The passes of `iwl_mvm_get_correlated_time` end at the first whose error is below 1024 ns,
and after sixteen at the latest (`iwlMvmGetCorrelatedTime_cases`).  The first least error
among the passes belongs to the good sample.

The device time, the two system times and the register value saved for the next call are
meant to be one sample.  They are unless the call ends with a negative error after the
register of an earlier pass has been kept, or by running out of tries, which copies back
the good device and system time but not the raw monotonic time.  `SampleKept` is the exact
condition (`oneSample_iff_sampleKept`).
-/

namespace Iwlwifi

open Lib

variable {time : TimeState} {reads : Nat → Reading} {polled : Nat → UInt8}

/-! ## The passes of a call -/

/-- The error of the `k`-th pass. -/
def passError (time : TimeState) (reads : Nat → Reading) (k : Nat) : Int64 :=
  errorInChange time (reads k)

/-- A pass as the good sample. -/
def GoodSample.ofReading (time : TimeState) (r : Reading) : GoodSample where
  minErrorInChange := errorInChange time r
  goodGP2 := r.gp2
  goodGP2Ns := u64GP2 time.sLastGP2 r.gp2
  goodSysRealtimeNs := r.sysRealtimeNs

/-- The pass that is the good sample after `n` passes. -/
def goodPass (time : TimeState) (reads : Nat → Reading) (n : Nat) : Option Nat :=
  firstLeast (passError time reads) noDelta n

/-- The good sample after `n` passes. -/
def goodAfter (time : TimeState) (reads : Nat → Reading) (n : Nat) : GoodSample :=
  ((goodPass time reads n).map fun j => .ofReading time (reads j)).getD {}

theorem goodAfter_succ (time : TimeState) (reads : Nat → Reading) (n : Nat) :
    goodAfter time reads (n + 1) =
      (goodAfter time reads n).keepBest (passError time reads n)
        (u64GP2 time.sLastGP2 (reads n).gp2) (reads n).gp2 (reads n).sysRealtimeNs := by
  have least : (goodAfter time reads n).minErrorInChange =
      ((goodPass time reads n).map (passError time reads)).getD noDelta := by
    rw [goodAfter]
    cases goodPass time reads n <;> rfl
  rw [GoodSample.keepBest, least, goodAfter, goodPass, firstLeast, ← goodPass]
  split
  · rfl
  · rfl

/-- The least error is at least 1024 if every error is. -/
theorem le_minErrorInChange {n : Nat} (large : ∀ k < n, 1024 ≤ passError time reads k) :
    1024 ≤ (goodAfter time reads n).minErrorInChange := by
  rw [goodAfter]
  rcases firstLeast_cases (passError time reads) noDelta n with ⟨none, -⟩ | ⟨j, held, isLeast⟩
  · rw [goodPass, none]
    exact show (1024 : Int64) ≤ noDelta by decide
  · rw [goodPass, held]
    exact large j isLeast.lt

/-- What a pass leaves in the state once the counter has been saved. -/
def afterPass (time : TimeState) (r : Reading) : TimeState :=
  { time with
    firmwareOperationDone := 2
    sysRealtimeNs := r.sysRealtimeNs
    gp2Ns := u64GP2 time.sLastGP2 r.gp2
    sysMonorawNs := r.monotonic }

/-- A pass once the counter has been saved: with a negative error it is the last and the
good sample stays; otherwise it counts towards the good sample. -/
theorem correlatePass_of_counted (counted : time.counted = true) (locals : CorrelationLocals)
    (r : Reading) :
    ∃ delta, correlatePass time locals r =
      if errorInChange time r < 0 then
        ⟨afterPass time r, { locals with delta, gp2 := r.gp2 }, false⟩
      else
        let good := locals.good.keepBest (errorInChange time r)
          (u64GP2 time.sLastGP2 r.gp2) r.gp2 r.sysRealtimeNs
        ⟨afterPass time r, { delta, gp2 := r.gp2, good },
          decide (1024 ≤ good.minErrorInChange)⟩ := by
  refine ⟨(u64GP2 time.sLastGP2 r.gp2 - time.sLastGP2.toUInt64 * 1000).toInt64, ?_⟩
  have counted' : (time.sCumulativeGp2 != 0 && time.sLastGP2 != 0) = true := counted
  simp only [correlatePass, counted', if_true, ne_eq, delta_ne_noDelta, not_false_eq_true,
    UInt64.toUInt64_toInt64]
  have isError : (r.sysRealtimeNs - time.lastSystemTimeNs -
      (u64GP2 time.sLastGP2 r.gp2 - time.sLastGP2.toUInt64 * 1000)).toInt64 =
      errorInChange time r := rfl
  rw [isError]
  by_cases negative : errorInChange time r < 0
  · rw [if_pos negative]
    split
    · rfl
    · next notSmall =>
        rw [if_pos ⟨negative, by grind⟩]
        rfl
  · rw [if_neg negative, if_neg (by grind), if_neg (by grind)]
    rfl

/-- The first pass after the driver is loaded, or after the counter read 0: there is no
earlier value, and it is the only pass. -/
theorem correlatePass_of_not_counted (notCounted : time.counted = false) (r : Reading) :
    (correlatePass time {} r).again = false ∧
      (correlatePass time {} r).time =
        { afterPass time r with sCumulativeGp2 := r.sysRealtimeNs } ∧
      (correlatePass time {} r).locals = { gp2 := r.gp2 } := by
  have notCounted' : (time.sCumulativeGp2 != 0 && time.sLastGP2 != 0) = false := notCounted
  simp only [correlatePass, notCounted', Bool.false_eq_true, if_false, ne_eq,
    not_true_eq_false]
  exact ⟨trivial, rfl, trivial⟩

/-- How the passes end, at pass `n`: with a negative error, with a small one, or out of
tries. -/
inductive Ended (time : TimeState) (reads : Nat → Reading) (last n : Nat) :
    TimeState × CorrelationLocals → Prop where
  | negative (locals : CorrelationLocals) (below : passError time reads n < 0)
      (gp2 : locals.gp2 = (reads n).gp2) (good : locals.good = goodAfter time reads n) :
      Ended time reads last n (afterPass time (reads n), locals)
  | small (locals : CorrelationLocals) (nonneg : 0 ≤ passError time reads n)
      (below : passError time reads n < 1024) (gp2 : locals.gp2 = (reads n).gp2)
      (good : locals.good = goodAfter time reads (n + 1)) :
      Ended time reads last n (afterPass time (reads n), locals)
  | outOfTries (locals : CorrelationLocals) (isLast : n = last)
      (large : 1024 ≤ passError time reads n) (gp2 : locals.gp2 = (reads n).gp2)
      (good : locals.good = goodAfter time reads (n + 1)) :
      Ended time reads last n
        (bail (afterPass time (reads n)) (goodAfter time reads (n + 1)), locals)

/-- A pass that does not ask for another one is the last. -/
theorem tryAgain_of_not_again {left i : Nat} {locals : CorrelationLocals}
    (done : (correlatePass time locals (reads i)).again = false) :
    tryAgain reads left i time locals =
      ((correlatePass time locals (reads i)).time, (correlatePass time locals (reads i)).locals) := by
  cases left with
  | zero => rw [tryAgain, done]; rfl
  | succ left => rw [tryAgain, done]; rfl

/-- Pass `i`, after passes that all had a large error: it ends the call, or its error is
large too and it counts towards the good sample. -/
theorem correlatePass_cases (last : Nat) {i : Nat} {locals : CorrelationLocals}
    (counted : time.counted = true) (good : locals.good = goodAfter time reads i)
    (before : ∀ k < i, 1024 ≤ passError time reads k) :
    ((correlatePass time locals (reads i)).again = false ∧
      Ended time reads last i
        ((correlatePass time locals (reads i)).time,
          (correlatePass time locals (reads i)).locals)) ∨
    ((correlatePass time locals (reads i)).again = true ∧ 1024 ≤ passError time reads i ∧
      (correlatePass time locals (reads i)).time = afterPass time (reads i) ∧
      (correlatePass time locals (reads i)).locals.gp2 = (reads i).gp2 ∧
      (correlatePass time locals (reads i)).locals.good = goodAfter time reads (i + 1)) := by
  obtain ⟨delta, pass⟩ := correlatePass_of_counted counted locals (reads i)
  have isError : errorInChange time (reads i) = passError time reads i := rfl
  rw [isError] at pass
  have leastLarge := le_minErrorInChange before
  by_cases negative : passError time reads i < 0
  · rw [if_pos negative] at pass
    rw [pass]
    exact .inl ⟨rfl, .negative _ negative rfl good⟩
  rw [if_neg negative, good, ← goodAfter_succ] at pass
  rw [pass]
  by_cases small : passError time reads i < 1024
  · have kept : ¬1024 ≤ (goodAfter time reads (i + 1)).minErrorInChange := by
      rw [goodAfter_succ, GoodSample.keepBest]
      split <;> grind
    exact .inl ⟨decide_eq_false kept, .small _ (by grind) small rfl rfl⟩
  · have large : 1024 ≤ passError time reads i := by grind
    have kept := le_minErrorInChange (Nat.forall_lt_succ_right.mpr ⟨before, large⟩)
    exact .inr ⟨decide_eq_true kept, large, rfl, rfl, rfl⟩

/-- The passes from the `i`-th on end at the first whose error is below 1024, or at the
last one. -/
theorem tryAgain_cases (reads : Nat → Reading) (left i : Nat) (now : TimeState)
    (locals : CorrelationLocals) (counted : time.counted = true)
    (same : ∀ locals r, correlatePass now locals r = correlatePass time locals r)
    (good : locals.good = goodAfter time reads i)
    (before : ∀ k < i, 1024 ≤ passError time reads k) :
    ∃ n, n ≤ i + left ∧ (∀ k < n, 1024 ≤ passError time reads k) ∧
      Ended time reads (i + left) n (tryAgain reads left i now locals) := by
  induction left generalizing i now locals with
  | zero =>
      refine ⟨i, Nat.le_refl i, before, ?_⟩
      rw [tryAgain, same]
      rcases correlatePass_cases i counted good before with
        ⟨done, ended⟩ | ⟨again, large, isTime, gp2, isGood⟩
      · rw [done]
        exact ended
      · rw [again, if_pos rfl, isTime, isGood]
        exact .outOfTries _ rfl large gp2 isGood
  | succ left ih =>
      rw [tryAgain, same]
      rcases correlatePass_cases (i + (left + 1)) counted good before with
        ⟨done, ended⟩ | ⟨again, large, isTime, -, isGood⟩
      · rw [done]
        exact ⟨i, by omega, before, ended⟩
      · -- the state after a pass reads like the state before it
        rw [again, if_pos rfl, isTime]
        obtain ⟨n, upTo, allLarge, ended⟩ := ih (i + 1) (afterPass time (reads i)) _
          (fun _ _ => rfl) isGood (Nat.forall_lt_succ_right.mpr ⟨before, large⟩)
        have sameLast : i + 1 + left = i + (left + 1) := by omega
        exact ⟨n, by omega, allLarge, sameLast ▸ ended⟩

/-! ## What a call leaves -/

/-- The device time and the two system times are those of pass `n`. -/
structure TimesOf (time : TimeState) (reads : Nat → Reading) (n : Nat) (after : TimeState) :
    Prop where
  gp2Ns : after.gp2Ns = u64GP2 time.sLastGP2 (reads n).gp2
  sysRealtimeNs : after.sysRealtimeNs = (reads n).sysRealtimeNs
  sysMonorawNs : after.sysMonorawNs = (reads n).monotonic

/-- The register value saved for the next call. -/
def savedGP2 (good : GoodSample) (gp2 : UInt32) : UInt32 :=
  if good.goodGP2 ≠ 0 then good.goodGP2 else gp2

/-- How a call that gets past its wait ends, and what it leaves. -/
inductive CallLeaves (time : TimeState) (reads : Nat → Reading) (after : TimeState) : Prop where
  | first (notCounted : time.counted = false) (times : TimesOf time reads 0 after)
      (saved : after.sLastGP2 = (reads 0).gp2)
  | negative (n : Nat) (counted : time.counted = true) (inRange : n < numTryAgain)
      (before : ∀ k < n, 1024 ≤ passError time reads k) (below : passError time reads n < 0)
      (times : TimesOf time reads n after)
      (saved : after.sLastGP2 = savedGP2 (goodAfter time reads n) (reads n).gp2)
  | small (n : Nat) (counted : time.counted = true) (inRange : n < numTryAgain)
      (before : ∀ k < n, 1024 ≤ passError time reads k)
      (nonneg : 0 ≤ passError time reads n) (below : passError time reads n < 1024)
      (times : TimesOf time reads n after) (saved : after.sLastGP2 = (reads n).gp2)
  | outOfTries (counted : time.counted = true)
      (large : ∀ k < numTryAgain, 1024 ≤ passError time reads k)
      (gp2Ns : after.gp2Ns = (goodAfter time reads numTryAgain).goodGP2Ns)
      (sysRealtimeNs :
        after.sysRealtimeNs = (goodAfter time reads numTryAgain).goodSysRealtimeNs)
      (sysMonorawNs : after.sysMonorawNs = (reads (numTryAgain - 1)).monotonic)
      (saved : after.sLastGP2 =
        savedGP2 (goodAfter time reads numTryAgain) (reads (numTryAgain - 1)).gp2)

/-- A small error is the least so far, so that the pass becomes the good sample. -/
theorem isFirstLeast_of_small {n : Nat} (before : ∀ k < n, 1024 ≤ passError time reads k)
    (below : passError time reads n < 1024) :
    IsFirstLeast (passError time reads) noDelta (n + 1) n := by
  have bound : (1024 : Int64) < noDelta := by decide
  refine .of_better (by grind) fun k inRange => ?_
  have := before k inRange
  grind

/-- The good sample, as a pass of the call. -/
theorem goodAfter_of_isFirstLeast {n j : Nat}
    (isLeast : IsFirstLeast (passError time reads) noDelta n j) :
    goodAfter time reads n = .ofReading time (reads j) := by
  rw [goodAfter, goodPass, firstLeast_eq_some isLeast]
  rfl

/-- `iwl_mvm_get_correlated_time` past its wait. -/
theorem iwlMvmGetCorrelatedTime_cases (time : TimeState) (reads : Nat → Reading)
    (ready : waitPending 5 polled = true) :
    CallLeaves time reads (iwlMvmGetCorrelatedTime time polled reads).2 := by
  rw [iwlMvmGetCorrelatedTime, if_pos ready]
  cases counted : time.counted with
  | false =>
      obtain ⟨done, isTime, isLocals⟩ := correlatePass_of_not_counted counted (reads 0)
      rw [tryAgain_of_not_again done, isTime, isLocals]
      exact .first counted ⟨rfl, rfl, rfl⟩ rfl
  | true =>
      obtain ⟨n, upTo, before, ended⟩ := tryAgain_cases reads (numTryAgain - 1) 0 time {}
        counted (fun _ _ => rfl) rfl (by omega)
      generalize tryAgain reads (numTryAgain - 1) 0 time {} = result at ended
      have inRange : n < numTryAgain := by simp only [numTryAgain] at upTo ⊢; omega
      cases ended with
      | negative locals below gp2 good =>
          refine .negative n counted inRange before below ⟨rfl, rfl, rfl⟩ ?_
          rw [savedGP2, ← good, ← gp2]
      | small locals nonneg below gp2 good =>
          refine .small n counted inRange before nonneg below ⟨rfl, rfl, rfl⟩ ?_
          rw [goodAfter_of_isFirstLeast (isFirstLeast_of_small before below)] at good
          simp only [good, gp2, GoodSample.ofReading]
          split <;> rfl
      | outOfTries locals isLast large gp2 good =>
          have all : n + 1 = numTryAgain := by simp only [isLast, numTryAgain]
          have isLast : numTryAgain - 1 = n := by rw [← all, Nat.add_one_sub_one]
          rw [all] at good ⊢
          refine .outOfTries counted ?_ (by rw [bail]) (by rw [bail]) (by rw [isLast]; rfl) ?_
          · rw [← all]
            exact Nat.forall_lt_succ_right.mpr ⟨before, large⟩
          · rw [isLast, ← good, ← gp2, savedGP2]

/-! ## One sample -/

/-- Pass `i` is made when every pass before it had a large error. -/
def Made (time : TimeState) (reads : Nat → Reading) (i : Nat) : Prop :=
  (0 < i → time.counted = true) ∧ ∀ k < i, 1024 ≤ passError time reads k

/-- The device time, the system times and the saved register value are of one pass. -/
def OneSample (time : TimeState) (reads : Nat → Reading) (after : TimeState) : Prop :=
  ∃ i < numTryAgain, Made time reads i ∧ TimesOf time reads i after ∧
    after.sLastGP2 = (reads i).gp2

/-- The condition on the readings.  Either there is no earlier value; or the first error
below 1024 is not negative, or the good sample before it has the same register value (or
0, which counts as none); or all errors are large, and some pass has the device and system
time of the best one and the raw monotonic time of the last one. -/
def SampleKept (time : TimeState) (reads : Nat → Reading) : Prop :=
  time.counted = false ∨
  (∃ n < numTryAgain, (∀ k < n, 1024 ≤ passError time reads k) ∧
    passError time reads n < 1024 ∧
    (0 ≤ passError time reads n ∨
      ∀ j, IsFirstLeast (passError time reads) noDelta n j →
        (reads j).gp2 = 0 ∨ (reads j).gp2 = (reads n).gp2)) ∨
  ((∀ k < numTryAgain, 1024 ≤ passError time reads k) ∧
    ∃ j, IsFirstLeast (passError time reads) noDelta numTryAgain j ∧
      ((reads j).gp2 ≠ 0 ∨ (reads (numTryAgain - 1)).gp2 = 0) ∧
      ∃ i < numTryAgain, (reads i).gp2 = (reads j).gp2 ∧
        (reads i).sysRealtimeNs = (reads j).sysRealtimeNs ∧
        (reads i).monotonic = (reads (numTryAgain - 1)).monotonic)

theorem u64GP2_injective {sLastGP2 a b : UInt32}
    (same : u64GP2 sLastGP2 a = u64GP2 sLastGP2 b) : a = b := by
  have sameNat := congrArg UInt64.toNat same
  rw [u64GP2_toNat, u64GP2_toNat] at sameNat
  have smallA := a.toNat_lt
  have smallB := b.toNat_lt
  refine UInt32.toNat_inj.mp ?_
  split at sameNat <;> split at sameNat <;> omega

theorem sLastGP2_ne_zero (counted : time.counted = true) : time.sLastGP2 ≠ 0 :=
  bne_iff_ne.mp (Bool.and_eq_true _ _ ▸ counted : _ ∧ _).2

/-- Once the counter has been saved the device time is not 0: a register value of 0 is
taken as a wrap. -/
theorem u64GP2_ne_zero (counted : time.counted = true) (gp2 : UInt32) :
    u64GP2 time.sLastGP2 gp2 ≠ 0 := by
  have positive : time.sLastGP2.toNat ≠ 0 := fun zero =>
    sLastGP2_ne_zero counted (UInt32.toNat_inj.mp zero)
  intro zero
  have zeroNat := congrArg UInt64.toNat zero
  rw [u64GP2_toNat, UInt64.toNat_zero] at zeroNat
  split at zeroNat <;> omega

/-- Two passes that both end the call are the same one. -/
theorem ending_unique {m n : Nat} (beforeM : ∀ k < m, 1024 ≤ passError time reads k)
    (belowM : passError time reads m < 1024)
    (beforeN : ∀ k < n, 1024 ≤ passError time reads k)
    (belowN : passError time reads n < 1024) : m = n := by
  rcases Nat.lt_trichotomy m n with less | same | greater
  · have := beforeN m less
    grind
  · exact same
  · have := beforeM n greater
    grind

/-- After `n` passes, none of the two first-least tests applies or the good sample is one. -/
theorem goodAfter_cases (time : TimeState) (reads : Nat → Reading) (n : Nat) :
    (goodAfter time reads n = {} ∧ ∀ k < n, noDelta ≤ passError time reads k) ∨
      ∃ j, goodAfter time reads n = .ofReading time (reads j) ∧
        IsFirstLeast (passError time reads) noDelta n j := by
  rcases firstLeast_cases (passError time reads) noDelta n with ⟨none, above⟩ | ⟨j, -, isLeast⟩
  · refine .inl ⟨?_, above⟩
    rw [goodAfter, goodPass, none]
    rfl
  · exact .inr ⟨j, goodAfter_of_isFirstLeast isLeast, isLeast⟩

/-- With a negative error at pass `n`, the call leaves one sample exactly when no other
register value has been kept. -/
theorem oneSample_iff_of_negative {after : TimeState} {n : Nat}
    (made : Made time reads n) (inRange : n < numTryAgain) (times : TimesOf time reads n after)
    (saved : after.sLastGP2 = savedGP2 (goodAfter time reads n) (reads n).gp2) :
    OneSample time reads after ↔
      ∀ j, IsFirstLeast (passError time reads) noDelta n j →
        (reads j).gp2 = 0 ∨ (reads j).gp2 = (reads n).gp2 := by
  constructor
  · rintro ⟨i, -, -, times', saved'⟩ j isLeast
    have sameGp2 := u64GP2_injective (times'.gp2Ns.symm.trans times.gp2Ns)
    rw [saved', sameGp2, goodAfter_of_isFirstLeast isLeast, savedGP2] at saved
    by_cases zero : (reads j).gp2 = 0
    · exact .inl zero
    · rw [GoodSample.ofReading, if_pos zero] at saved
      exact .inr saved.symm
  · intro kept
    refine ⟨n, inRange, made, times, ?_⟩
    rw [saved, savedGP2]
    rcases goodAfter_cases time reads n with ⟨isGood, -⟩ | ⟨j, isGood, isLeast⟩
    · rw [isGood]
      rfl
    · rw [isGood]
      split
      · next nonzero => exact (kept j isLeast).resolve_left nonzero
      · rfl

/-- Out of tries, the call leaves one sample exactly when some pass has the device and
system time of the best one and the raw monotonic time of the last one. -/
theorem oneSample_iff_of_outOfTries {after : TimeState} (counted : time.counted = true)
    (large : ∀ k < numTryAgain, 1024 ≤ passError time reads k)
    (gp2Ns : after.gp2Ns = (goodAfter time reads numTryAgain).goodGP2Ns)
    (sysRealtimeNs :
      after.sysRealtimeNs = (goodAfter time reads numTryAgain).goodSysRealtimeNs)
    (sysMonorawNs : after.sysMonorawNs = (reads (numTryAgain - 1)).monotonic)
    (saved : after.sLastGP2 =
      savedGP2 (goodAfter time reads numTryAgain) (reads (numTryAgain - 1)).gp2) :
    OneSample time reads after ↔
      ∃ j, IsFirstLeast (passError time reads) noDelta numTryAgain j ∧
        ((reads j).gp2 ≠ 0 ∨ (reads (numTryAgain - 1)).gp2 = 0) ∧
        ∃ i < numTryAgain, (reads i).gp2 = (reads j).gp2 ∧
          (reads i).sysRealtimeNs = (reads j).sysRealtimeNs ∧
          (reads i).monotonic = (reads (numTryAgain - 1)).monotonic := by
  rcases goodAfter_cases time reads numTryAgain with ⟨isGood, above⟩ | ⟨j, isGood, isLeast⟩
  · -- without a usable sample the device time is 0, which no pass reads
    rw [isGood] at gp2Ns
    constructor
    · rintro ⟨i, -, -, times, -⟩
      exact absurd (times.gp2Ns.symm.trans gp2Ns) (u64GP2_ne_zero counted _)
    · rintro ⟨j, isLeast, -⟩
      have := above j isLeast.lt
      have := isLeast.below
      grind
  · rw [isGood] at gp2Ns sysRealtimeNs saved
    constructor
    · rintro ⟨i, inRange, -, times, saved'⟩
      have sameGp2 := u64GP2_injective (times.gp2Ns.symm.trans gp2Ns)
      refine ⟨j, isLeast, ?_, i, inRange, sameGp2, times.sysRealtimeNs.symm.trans sysRealtimeNs,
        times.sysMonorawNs.symm.trans sysMonorawNs⟩
      by_cases zero : (reads j).gp2 = 0
      · rw [savedGP2, GoodSample.ofReading, if_neg (not_not_intro zero), saved', sameGp2] at saved
        exact .inr (saved.symm.trans zero)
      · exact .inl zero
    · rintro ⟨j', isLeast', nonzero, i, inRange, sameGp2, sameRealtime, sameMonoraw⟩
      obtain rfl := isLeast'.unique isLeast
      refine ⟨i, inRange, ⟨fun _ => counted, fun k before => large k (by omega)⟩, ⟨?_, ?_, ?_⟩, ?_⟩
      · rw [gp2Ns, sameGp2]
        rfl
      · rw [sysRealtimeNs, sameRealtime]
        rfl
      · rw [sysMonorawNs, sameMonoraw]
      · rw [saved, sameGp2, savedGP2, GoodSample.ofReading]
        split
        · rfl
        · next zero =>
            have zero : (reads j').gp2 = 0 := not_not.mp zero
            rw [zero, nonzero.resolve_left (not_not_intro zero)]

/-- A call that gets past its wait leaves one sample exactly when `SampleKept` holds of its
readings. -/
theorem oneSample_iff_sampleKept (time : TimeState) (reads : Nat → Reading)
    {polled : Nat → UInt8} (ready : waitPending 5 polled = true) :
    OneSample time reads (iwlMvmGetCorrelatedTime time polled reads).2 ↔
      SampleKept time reads := by
  cases iwlMvmGetCorrelatedTime_cases time reads ready with
  | first notCounted times saved =>
      have one : OneSample time reads (iwlMvmGetCorrelatedTime time polled reads).2 :=
        ⟨0, by decide, ⟨by omega, by omega⟩, times, saved⟩
      exact iff_of_true one (.inl notCounted)
  | negative n counted inRange before below times saved =>
      rw [oneSample_iff_of_negative ⟨fun _ => counted, before⟩ inRange times saved]
      constructor
      · intro kept
        exact .inr (.inl ⟨n, inRange, before, by grind, .inr kept⟩)
      · rintro (notCounted | ⟨m, -, before', below', kept⟩ | ⟨large, -⟩)
        · rw [counted] at notCounted
          cases notCounted
        · obtain rfl := ending_unique before (by grind) before' below'
          exact kept.resolve_left (by grind)
        · have := large n inRange
          grind
  | small n counted inRange before nonneg below times saved =>
      have one : OneSample time reads (iwlMvmGetCorrelatedTime time polled reads).2 :=
        ⟨n, inRange, ⟨fun _ => counted, before⟩, times, saved⟩
      exact iff_of_true one (.inr (.inl ⟨n, inRange, before, below, .inl nonneg⟩))
  | outOfTries counted large gp2Ns sysRealtimeNs sysMonorawNs saved =>
      rw [oneSample_iff_of_outOfTries counted large gp2Ns sysRealtimeNs sysMonorawNs saved]
      constructor
      · exact fun best => .inr (.inr ⟨large, best⟩)
      · rintro (notCounted | ⟨m, inRange, -, below', -⟩ | ⟨-, best⟩)
        · rw [counted] at notCounted
          cases notCounted
        · have := large m inRange
          grind
        · exact best

/-- A pass whose reads of the system time are equal. -/
def Reading.atTime (gp2 : UInt32) (timeOfDay : UInt64) : Reading where
  timeOfDay := timeOfDay
  gp2 := gp2
  timeOfDayAfter := timeOfDay
  monotonic := timeOfDay

/-- The flag is clear at every poll. -/
def idle : Nat → UInt8 := fun _ => 0

/-- The state after a first cross-timestamp, with the counter at 1000 usec and the system
time at 1 sec. -/
def firstCrosstimestamp : TimeState :=
  (iwlMvmPhcGetCrosstimestamp .init idle idle fun _ => .atTime 1000 1000000000).1

/-- A second call one millisecond later, with no error. -/
theorem oneSample_iff_sampleKept_millisecond :
    waitPending 5 idle = true ∧
      OneSample firstCrosstimestamp (fun _ => .atTime 2000 1001000000)
        (iwlMvmGetCorrelatedTime firstCrosstimestamp idle
          fun _ => .atTime 2000 1001000000).2 :=
  ⟨by decide, (oneSample_iff_sampleKept firstCrosstimestamp _ (by decide)).mpr
    (.inr (.inl ⟨0, by decide, by decide, by decide +kernel, .inl (by decide +kernel)⟩))⟩

/-- Sixteen passes with errors that rise from 2000 ns: the device and system time are those
of the first pass, the raw monotonic time that of the last. -/
theorem not_oneSample_of_outOfTries :
    ¬OneSample firstCrosstimestamp (fun k => .atTime 2000 (1001002000 + 100 * UInt64.ofNat k))
      (iwlMvmGetCorrelatedTime firstCrosstimestamp idle
        fun k => .atTime 2000 (1001002000 + 100 * UInt64.ofNat k)).2 := by
  rintro ⟨i, -, -, times, -⟩
  have realtime : (iwlMvmGetCorrelatedTime firstCrosstimestamp idle
      fun k => .atTime 2000 (1001002000 + 100 * UInt64.ofNat k)).2.sysRealtimeNs =
      1001002000 := by decide +kernel
  have monoraw : (iwlMvmGetCorrelatedTime firstCrosstimestamp idle
      fun k => .atTime 2000 (1001002000 + 100 * UInt64.ofNat k)).2.sysMonorawNs =
      1001003500 := by decide +kernel
  rw [times.sysRealtimeNs] at realtime
  rw [times.sysMonorawNs] at monoraw
  simp only [Reading.atTime, Reading.sysRealtimeNs, UInt64.sub_self, UInt64.zero_mul,
    UInt64.zero_div, UInt64.add_zero] at realtime monoraw
  rw [monoraw] at realtime
  exact absurd realtime (by decide)

end Iwlwifi
