import Mathlib.Algebra.Ring.Nat
import Mathlib.Logic.Basic

/-!
# The device clock and the system clock

`iwl_mvm_get_correlated_time` reads the device's GP2 register between two reads of the
system time, up to sixteen times.  It keeps the first sample whose system time has
advanced by less than 1024 ns more than its GP2 since the last call, and after sixteen
samples the best of them.  The previous GP2 register value is a static of the file.

The register and the clocks are read from the environment: a `Reading` is what one pass
sees.  The firmware's answer to a time request is `iwl_mvm_get_correlated_time_notif`.
-/

namespace Iwlwifi

/-! ## State -/

/-- The clock fields of `struct iwl_mvm` and the two statics of the file. -/
structure TimeState where
  gp2Ns : UInt64
  artNs : UInt64
  sysRealtimeNs : UInt64
  sysMonorawNs : UInt64
  error : Int64
  /-- 0: no pending operation, 1: pending operation, 2: operation complete. -/
  firmwareOperationDone : UInt8
  lastGP2Ns : UInt64
  lastSystemTimeNs : UInt64
  /-- In nsec units. -/
  sCumulativeGp2 : UInt64
  /-- Last GP2 register value in usec units, not adjusted for wraps. -/
  sLastGP2 : UInt32
  deriving DecidableEq, Repr

/-- The driver's state when it is loaded. -/
def TimeState.init : TimeState where
  gp2Ns := 0
  artNs := 0
  sysRealtimeNs := 0
  sysMonorawNs := 0
  error := 0
  firmwareOperationDone := 0
  lastGP2Ns := 0
  lastSystemTimeNs := 0
  sCumulativeGp2 := 0
  sLastGP2 := 0

/-- What one pass reads: the time of day, the GP2 register, the time of day again and the
raw monotonic clock, all but the register in nsec. -/
structure Reading where
  timeOfDay : UInt64
  gp2 : UInt32
  timeOfDayAfter : UInt64
  monotonic : UInt64

/-- The wait for a pending firmware operation: whether a poll finds the flag clear before
the sleep count runs out. -/
def waitPending : (sleepCnt : Nat) → (polled : Nat → UInt8) → Bool
  | 0, polled => polled 0 == 0
  | sleepCnt + 1, polled => polled 0 == 0 || waitPending sleepCnt fun k => polled (k + 1)

/-! ## One pass -/

/-- The initial value of `delta` and `min_error_in_change`. -/
def noDelta : Int64 := 0x7EADBEEFDEADBEEF

/-- The GP2 register in nsec, adjusted for one wrap since the saved value. -/
def u64GP2 (sLastGP2 gp2 : UInt32) : UInt64 :=
  if sLastGP2 > gp2 then (gp2.toUInt64 + 0x100000000) * 1000 else gp2.toUInt64 * 1000

/-- The system time of a pass, three quarters of the way between its two reads. -/
def Reading.sysRealtimeNs (r : Reading) : UInt64 :=
  r.timeOfDay + (r.timeOfDayAfter - r.timeOfDay) * 12 / 16

/-- The sample with the least error so far. -/
structure GoodSample where
  minErrorInChange : Int64 := noDelta
  goodGP2 : UInt32 := 0
  goodGP2Ns : UInt64 := 0
  goodSysRealtimeNs : UInt64 := 0

/-- The locals of `iwl_mvm_get_correlated_time` that outlive a pass. -/
structure CorrelationLocals where
  delta : Int64 := noDelta
  gp2 : UInt32 := 0
  good : GoodSample := {}

def GoodSample.keepBest (good : GoodSample) (errorInChange : Int64) (u64GP2 : UInt64)
    (gp2 : UInt32) (sysRealtimeNs : UInt64) : GoodSample :=
  if errorInChange < good.minErrorInChange then
    { minErrorInChange := errorInChange
      goodGP2 := gp2
      goodGP2Ns := u64GP2
      goodSysRealtimeNs := sysRealtimeNs }
  else good

/-- The state, the locals and whether the pass asks for another one. -/
structure PassResult where
  time : TimeState
  locals : CorrelationLocals
  again : Bool

/-- The body of `TRY_AGAIN`, up to the count of the tries. -/
def correlatePass (time : TimeState) (locals : CorrelationLocals) (r : Reading) : PassResult :=
  let u64 := u64GP2 time.sLastGP2 r.gp2
  let realtime := r.sysRealtimeNs
  let counted := time.sCumulativeGp2 != 0 && time.sLastGP2 != 0
  let delta := if counted then (u64 - time.sLastGP2.toUInt64 * 1000).toInt64 else locals.delta
  let time := { time with
    firmwareOperationDone := 2
    sysRealtimeNs := realtime
    sCumulativeGp2 := if counted then time.sCumulativeGp2 else realtime
    gp2Ns := u64
    sysMonorawNs := r.monotonic }
  let locals := { locals with delta, gp2 := r.gp2 }
  if delta ≠ noDelta then
    let errorInChange := (realtime - time.lastSystemTimeNs - delta.toUInt64).toInt64
    if errorInChange < 0 ∧ errorInChange > -1024 then ⟨time, locals, false⟩
    else if errorInChange < 0 ∧ errorInChange ≤ -1024 then ⟨time, locals, false⟩
    else
      let good := locals.good.keepBest errorInChange u64 r.gp2 realtime
      ⟨time, { locals with good }, decide (1024 ≤ good.minErrorInChange)⟩
  else ⟨time, locals, false⟩

/-- What is done when the tries are used up: the best sample's device and system time. -/
def bail (time : TimeState) (good : GoodSample) : TimeState :=
  { time with sysRealtimeNs := good.goodSysRealtimeNs, gp2Ns := good.goodGP2Ns }

/-- The passes from the `i`-th on, with `left` more tries after it. -/
def tryAgain (reads : Nat → Reading) :
    (left i : Nat) → TimeState → CorrelationLocals → TimeState × CorrelationLocals
  | 0, i, time, locals =>
      let pass := correlatePass time locals (reads i)
      (if pass.again then bail pass.time pass.locals.good else pass.time, pass.locals)
  | left + 1, i, time, locals =>
      let pass := correlatePass time locals (reads i)
      if pass.again then tryAgain reads left (i + 1) pass.time pass.locals
      else (pass.time, pass.locals)

def numTryAgain : Nat := 16

/-- `iwl_mvm_get_correlated_time`: its result and the state it leaves. -/
def iwlMvmGetCorrelatedTime (time : TimeState) (polled : Nat → UInt8) (reads : Nat → Reading) :
    Int × TimeState :=
  if waitPending 5 polled then
    let (time, locals) := tryAgain reads (numTryAgain - 1) 0 time {}
    (0, { time with
      firmwareOperationDone := 0
      sCumulativeGp2 :=
        time.sCumulativeGp2 + (locals.good.goodGP2Ns - time.sLastGP2.toUInt64)
      sLastGP2 := if locals.good.goodGP2 ≠ 0 then locals.good.goodGP2 else locals.gp2 })
  else (-1, time)

/-! ## The cross-timestamp -/

structure SystemDeviceCrosststamp where
  device : UInt64
  sysRealtime : UInt64
  sysMonoraw : UInt64
  deriving DecidableEq, Repr

/-- `iwl_mvm_phc_get_crosstimestamp` from the point where the timestamps are known. -/
def recordCrosstimestamp (time : TimeState) (xtstamp : SystemDeviceCrosststamp) :
    TimeState × SystemDeviceCrosststamp :=
  let error : Int64 :=
    if time.lastGP2Ns ≠ 0 then
      (xtstamp.sysRealtime - time.lastSystemTimeNs - (xtstamp.device - time.lastGP2Ns)).toInt64
    else 0
  ({ time with
      error
      lastGP2Ns := xtstamp.device
      lastSystemTimeNs := xtstamp.sysRealtime },
    { xtstamp with sysRealtime := xtstamp.sysRealtime + error.toUInt64 })

/-- `iwl_mvm_phc_get_crosstimestamp` on discrete hardware; the polls of its own wait come
before those of `iwl_mvm_get_correlated_time`, whose result it ignores. -/
def iwlMvmPhcGetCrosstimestamp (time : TimeState) (polled polledAgain : Nat → UInt8)
    (reads : Nat → Reading) : TimeState × Option SystemDeviceCrosststamp :=
  if waitPending 3 polled then
    let time := (iwlMvmGetCorrelatedTime time polledAgain reads).2
    let (time, xtstamp) :=
      recordCrosstimestamp time ⟨time.gp2Ns, time.sysRealtimeNs, time.sysMonorawNs⟩
    (time, some xtstamp)
  else (time, none)

/-! ## The firmware's answer -/

/-- Convert from 32-bit timestamp values to a 64-bit value. -/
def get64bitTs (hi lo : UInt32) : UInt64 := (hi.toUInt64 <<< 32) + lo.toUInt64

/-- `struct iwl_get_correlated_time`. -/
structure IwlGetCorrelatedTime where
  operationStatus : UInt32
  platformTimestampHi : UInt32
  platformTimestampLo : UInt32
  gp2TimestampHi : UInt32
  gp2TimestampLo : UInt32
  deriving DecidableEq, Repr

/-- `WNM_80211V_TIMING_OPERATION_READ_FIRMWARE_TIME`. -/
def wnmReadFirmwareTime : UInt32 := 2

/-- `WNM_80211V_TIMING_OPERATION_READ_BOTH`. -/
def wnmReadBoth : UInt32 := 3

/-- `iwl_mvm_get_correlated_time_notif`; the firmware counts GP2 in units of 10 ns. -/
def iwlMvmGetCorrelatedTimeNotif (time : TimeState) (gct : IwlGetCorrelatedTime) : TimeState :=
  if gct.operationStatus ≠ 3 ∧ gct.operationStatus ≠ 2 then
    { time with gp2Ns := 0, artNs := 0, firmwareOperationDone := 2 }
  else
    { time with
      gp2Ns := get64bitTs gct.gp2TimestampHi gct.gp2TimestampLo * 10
      artNs :=
        if gct.operationStatus = wnmReadBoth then
          get64bitTs gct.platformTimestampHi gct.platformTimestampLo
        else time.artNs
      firmwareOperationDone := 2 }

/-! ## The system time error of a sample -/

/-- Whether the counter was saved by an earlier call, so that its advance is known. -/
def TimeState.counted (time : TimeState) : Bool :=
  time.sCumulativeGp2 != 0 && time.sLastGP2 != 0

/-- By how much the system time has advanced more than GP2 since the last call. -/
def errorInChange (time : TimeState) (r : Reading) : Int64 :=
  (r.sysRealtimeNs - time.lastSystemTimeNs -
    (u64GP2 time.sLastGP2 r.gp2 - time.sLastGP2.toUInt64 * 1000)).toInt64

/-- The register in nsec as a number. -/
theorem u64GP2_toNat (sLastGP2 gp2 : UInt32) :
    (u64GP2 sLastGP2 gp2).toNat =
      1000 * (gp2.toNat + if gp2.toNat < sLastGP2.toNat then 2 ^ 32 else 0) := by
  have small := gp2.toNat_lt
  rw [u64GP2]
  split
  · next wrapped =>
      rw [if_pos (UInt32.lt_iff_toNat_lt.mp wrapped)]
      simp only [UInt64.toNat_mul, UInt64.toNat_add, UInt32.toNat_toUInt64, UInt64.reduceToNat]
      omega
  · next notWrapped =>
      rw [if_neg (mt UInt32.lt_iff_toNat_lt.mpr notWrapped)]
      simp only [UInt64.toNat_mul, UInt32.toNat_toUInt64, UInt64.reduceToNat]
      omega

/-- The advance of the counter is never the value that stands for none. -/
theorem delta_ne_noDelta (sLastGP2 gp2 : UInt32) :
    (u64GP2 sLastGP2 gp2 - sLastGP2.toUInt64 * 1000).toInt64 ≠ noDelta := by
  have unwrapped := u64GP2_toNat sLastGP2 gp2
  have small := gp2.toNat_lt
  have smallLast := sLastGP2.toNat_lt
  have last : (sLastGP2.toUInt64 * 1000).toNat = 1000 * sLastGP2.toNat := by
    simp only [UInt64.toNat_mul, UInt32.toNat_toUInt64, UInt64.reduceToNat]
    omega
  intro same
  have same := congrArg (fun d : Int64 => d.toUInt64.toNat) same
  simp only [UInt64.toUInt64_toInt64] at same
  rw [UInt64.toNat_sub, last, unwrapped] at same
  have value : noDelta.toUInt64.toNat = 0x7EADBEEFDEADBEEF := by decide
  rw [value] at same
  split at same <;> omega

end Iwlwifi
