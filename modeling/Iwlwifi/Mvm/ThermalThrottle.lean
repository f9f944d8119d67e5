import Mathlib.Data.List.Basic
import Iwlwifi.Lib.Run
import Iwlwifi.Lib.Signed

/-!
# Thermal throttling

`iwl_mvm_tt_handler` switches dynamic SMPS, Tx protection and the Tx back-off by the temperature,
each with a threshold at which it starts and one at which it ends, and `throttle` while any of
them is on.  It returns early at a temperature of CT kill, and also at or below the temperature
at which CT kill ends, where it does nothing but end CT kill.  So a measure ends only on the way
down, at a temperature above `ct_kill_exit` (`calm_handled_iff`); below it everything stays as it
is.

The thresholds are unsigned, and a temperature below zero is compared with them as a large
number.
-/

namespace Iwlwifi.ThermalThrottle

open Lib

/-! ## Parameters and state -/

/-- `struct iwl_tt_tx_backoff`. -/
structure TxBackoff where
  temperature : Int32
  backoff : UInt32
  deriving DecidableEq, Repr

/-- `struct iwl_tt_params`. -/
structure TtParams where
  ctKillEntry : UInt32
  ctKillExit : UInt32
  ctKillDuration : UInt32
  dynamicSmpsEntry : UInt32
  dynamicSmpsExit : UInt32
  txProtectionEntry : UInt32
  txProtectionExit : UInt32
  txBackoff : List TxBackoff
  supportCtKill : Bool
  supportDynamicSmps : Bool
  supportTxProtection : Bool
  supportTxBackoff : Bool
  deriving DecidableEq, Repr

/-- What the handler reads and does not change: `params` and `min_backoff` of the device, whether
the firmware throttles, whether the temperature is one of a test, and the antennas. -/
structure Config where
  params : TtParams
  minBackoff : UInt32
  ttInFw : Bool
  temperatureTest : Bool
  rxAntennas : Nat
  deriving DecidableEq, Repr

inductive SmpsMode where
  | automatic
  | dynamic
  deriving DecidableEq, Repr

/-- An active interface, with its `smps_requests[IWL_MVM_SMPS_REQ_TT]`. -/
structure Vif where
  station : Bool
  ttSmps : SmpsMode
  deriving DecidableEq, Repr

structure MvmSta where
  ttTxProtection : Bool
  deriving DecidableEq, Repr

/-- The state of thermal throttling, the stations by their number and the interfaces;
`ctKillExit` is the delay, in seconds, of the work that ends CT kill, if it is scheduled. -/
structure Mvm where
  temperature : Int32
  hwCtkill : Bool
  ctKillExit : Option UInt32
  dynamicSmps : Bool
  txBackoff : UInt32
  throttle : Bool
  stations : List (Option MvmSta)
  vifs : List Vif
  deriving DecidableEq, Repr

/-- Which of the commands of a call succeed: Tx protection of a station, and the back-off. -/
structure Commands where
  txProtection : Nat → Bool
  txBackoff : Bool

def Commands.succeed : Commands where
  txProtection _ := true
  txBackoff := true

/-! ## The measures -/

/-- `iwl_mvm_enter_ctkill`. -/
def enterCtkill (cfg : Config) (mvm : Mvm) : Mvm :=
  if mvm.hwCtkill then mvm
  else
    { mvm with
      hwCtkill := true
      throttle := mvm.throttle && cfg.ttInFw
      dynamicSmps := mvm.dynamicSmps && cfg.ttInFw
      ctKillExit :=
        if cfg.temperatureTest then mvm.ctKillExit else some cfg.params.ctKillDuration }

/-- `iwl_mvm_exit_ctkill`. -/
def exitCtkill (mvm : Mvm) : Mvm :=
  if mvm.hwCtkill then { mvm with hwCtkill := false } else mvm

/-- `iwl_mvm_tt_smps_iterator`. -/
def ttSmpsIterator (cfg : Config) (dynamicSmps : Bool) (vif : Vif) : Vif :=
  if vif.station ∧ cfg.rxAntennas ≠ 1 then
    { vif with ttSmps := if dynamicSmps then .dynamic else .automatic }
  else vif

def Mvm.setDynamicSmps (mvm : Mvm) (cfg : Config) (enable : Bool) : Mvm :=
  { mvm with
    dynamicSmps := enable
    vifs := mvm.vifs.map (ttSmpsIterator cfg enable) }

/-- `iwl_mvm_tt_tx_protection`. -/
def ttTxProtection (commands : Commands) (mvm : Mvm) (enable : Bool) : Mvm :=
  { mvm with
    stations := mvm.stations.mapIdx fun i slot => slot.map fun sta =>
      if enable = sta.ttTxProtection then sta
      else if commands.txProtection i then { sta with ttTxProtection := enable }
      else sta }

/-- `iwl_mvm_tt_tx_backoff`. -/
def ttTxBackoff (cfg : Config) (commands : Commands) (mvm : Mvm) (backoff : UInt32) : Mvm :=
  if commands.txBackoff then { mvm with txBackoff := max backoff cfg.minBackoff } else mvm

/-- The loop over the back-off thresholds, from the value that the earlier ones have left. -/
def backoffAt (minBackoff : UInt32) (temperature : Int32) : UInt32 → List TxBackoff → UInt32
  | held, [] => held
  | held, entry :: rest =>
      if temperature < entry.temperature then held
      else backoffAt minBackoff temperature (max minBackoff entry.backoff) rest

/-! ## The handler -/

/-- The first measure of the handler, and whether it sets `throttle_enable`. -/
def handleDynamicSmps (cfg : Config) (mvm : Mvm) : Mvm × Bool :=
  if cfg.params.supportDynamicSmps then
    if !mvm.dynamicSmps ∧ mvm.temperature.toUInt32 ≥ cfg.params.dynamicSmpsEntry then
      (mvm.setDynamicSmps cfg true, true)
    else if mvm.dynamicSmps ∧ mvm.temperature.toUInt32 ≤ cfg.params.dynamicSmpsExit then
      (mvm.setDynamicSmps cfg false, false)
    else (mvm, false)
  else (mvm, false)

/-- The second measure. -/
def handleTxProtection (cfg : Config) (commands : Commands) (mvm : Mvm) : Mvm × Bool :=
  if cfg.params.supportTxProtection then
    if mvm.temperature.toUInt32 ≥ cfg.params.txProtectionEntry then
      (ttTxProtection commands mvm true, true)
    else if mvm.temperature.toUInt32 ≤ cfg.params.txProtectionExit then
      (ttTxProtection commands mvm false, false)
    else (mvm, false)
  else (mvm, false)

/-- The third measure. -/
def handleTxBackoff (cfg : Config) (commands : Commands) (mvm : Mvm) : Mvm × Bool :=
  if cfg.params.supportTxBackoff then
    let txBackoff :=
      backoffAt cfg.minBackoff mvm.temperature cfg.minBackoff cfg.params.txBackoff
    (if mvm.txBackoff ≠ txBackoff then ttTxBackoff cfg commands mvm txBackoff else mvm,
      txBackoff != cfg.minBackoff)
  else (mvm, false)

/-- The end of the handler. -/
def handleThrottle (cfg : Config) (mvm : Mvm) (throttleEnable : Bool) : Mvm :=
  if !mvm.throttle ∧ throttleEnable then { mvm with throttle := true }
  else if mvm.throttle ∧ !mvm.dynamicSmps ∧ mvm.txBackoff = cfg.minBackoff ∧
      mvm.temperature.toUInt32 ≤ cfg.params.txProtectionExit then
    { mvm with throttle := false }
  else mvm

/-- What the handler does between the two temperatures of CT kill. -/
def handleMeasures (cfg : Config) (commands : Commands) (mvm : Mvm) : Mvm :=
  let (mvm, bySmps) := handleDynamicSmps cfg mvm
  let (mvm, byProtection) := handleTxProtection cfg commands mvm
  let (mvm, byBackoff) := handleTxBackoff cfg commands mvm
  handleThrottle cfg mvm (bySmps || byProtection || byBackoff)

/-- `iwl_mvm_tt_handler`. -/
def ttHandler (cfg : Config) (commands : Commands) (mvm : Mvm) : Mvm :=
  if cfg.params.supportCtKill ∧ mvm.temperature.toUInt32 ≥ cfg.params.ctKillEntry then
    enterCtkill cfg mvm
  else if cfg.params.supportCtKill ∧ mvm.temperature.toUInt32 ≤ cfg.params.ctKillExit then
    exitCtkill mvm
  else handleMeasures cfg commands mvm

/-- A temperature is fed to the handler, and all commands succeed. -/
def step (cfg : Config) (mvm : Mvm) (temperature : Int32) : Mvm :=
  ttHandler cfg .succeed { mvm with temperature }

/-! ## What is wanted -/

/-- Each measure is supported and ends below the temperature at which it starts. -/
structure TtParams.Sane (params : TtParams) : Prop where
  ctKill : params.ctKillExit < params.ctKillEntry
  dynamicSmps : params.dynamicSmpsExit < params.dynamicSmpsEntry
  txProtection : params.txProtectionExit < params.txProtectionEntry
  supported : params.supportCtKill ∧ params.supportDynamicSmps ∧ params.supportTxProtection ∧
    params.supportTxBackoff

/-- The temperature is at or below every exit threshold and below every back-off threshold. -/
structure TtParams.Cool (params : TtParams) (temperature : Int32) : Prop where
  ctKill : temperature.toInt ≤ params.ctKillExit.toNat
  dynamicSmps : temperature.toInt ≤ params.dynamicSmpsExit.toNat
  txProtection : temperature.toInt ≤ params.txProtectionExit.toNat
  txBackoff : ∀ entry ∈ params.txBackoff, temperature < entry.temperature

/-- No station has Tx protection. -/
def Unprotected (mvm : Mvm) : Prop :=
  ∀ slot ∈ mvm.stations, ∀ sta ∈ slot, sta.ttTxProtection = false

/-- No station interface is asked for dynamic SMPS. -/
def SmpsOff (cfg : Config) (vifs : List Vif) : Prop :=
  ∀ vif ∈ vifs, vif.station = true → cfg.rxAntennas ≠ 1 → vif.ttSmps = .automatic

/-- No measure is on. -/
structure Calm (cfg : Config) (mvm : Mvm) : Prop where
  dynamicSmps : mvm.dynamicSmps = false ∧ SmpsOff cfg mvm.vifs
  txProtection : Unprotected mvm
  txBackoff : mvm.txBackoff = cfg.minBackoff
  throttle : mvm.throttle = false

/-- Where the measures are looked at, this temperature leaves none of them on.  The interfaces are
told of the end of dynamic SMPS only where its flag was set. -/
structure EndsMeasures (cfg : Config) (mvm : Mvm) (temperature : UInt32) : Prop where
  dynamicSmps : temperature < cfg.params.dynamicSmpsEntry ∧
    if mvm.dynamicSmps then temperature ≤ cfg.params.dynamicSmpsExit else SmpsOff cfg mvm.vifs
  txProtection : temperature < cfg.params.txProtectionEntry ∧
    (Unprotected mvm ∨ temperature ≤ cfg.params.txProtectionExit)
  throttle : mvm.throttle = false ∨ temperature ≤ cfg.params.txProtectionExit

/-- The state before a call that leaves no measure on at a temperature below every back-off
threshold. -/
def CalmBefore (cfg : Config) (mvm : Mvm) (temperature : Int32) : Prop :=
  if cfg.params.ctKillEntry ≤ temperature.toUInt32 then
    (mvm.hwCtkill = true ∨ cfg.ttInFw = true → mvm.dynamicSmps = false ∧ mvm.throttle = false) ∧
      SmpsOff cfg mvm.vifs ∧ Unprotected mvm ∧ mvm.txBackoff = cfg.minBackoff
  else if temperature.toUInt32 ≤ cfg.params.ctKillExit then Calm cfg mvm
  else EndsMeasures cfg mvm temperature.toUInt32

variable {cfg : Config} {mvm : Mvm}

/-! ## The measures one by one -/

theorem handleDynamicSmps_keeps (cfg : Config) (mvm : Mvm) :
    ∃ enable vifs, (handleDynamicSmps cfg mvm).1 =
      { mvm with dynamicSmps := enable, vifs := vifs } := by
  rw [handleDynamicSmps]
  repeat' split
  all_goals exact ⟨_, _, rfl⟩

theorem smpsOff_setDynamicSmps (mvm : Mvm) : SmpsOff cfg (mvm.setDynamicSmps cfg false).vifs := by
  intro vif member station antennas
  obtain ⟨before, -, rfl⟩ := List.mem_map.mp member
  rw [ttSmpsIterator] at station ⊢
  split
  · rfl
  · next skipped =>
      rw [if_neg skipped] at station
      exact absurd ⟨station, antennas⟩ skipped

theorem handleDynamicSmps_off_iff (sane : cfg.params.Sane) :
    ((handleDynamicSmps cfg mvm).1.dynamicSmps = false ∧
        SmpsOff cfg (handleDynamicSmps cfg mvm).1.vifs) ↔
      mvm.temperature.toUInt32 < cfg.params.dynamicSmpsEntry ∧
        if mvm.dynamicSmps then mvm.temperature.toUInt32 ≤ cfg.params.dynamicSmpsExit
        else SmpsOff cfg mvm.vifs := by
  have order := UInt32.lt_iff_toNat_lt.mp sane.dynamicSmps
  simp only [handleDynamicSmps, sane.supported.2.1, if_true, ge_iff_le, UInt32.le_iff_toNat_le,
    UInt32.lt_iff_toNat_lt]
  cases before : mvm.dynamicSmps with
  | false =>
      simp only [Bool.not_false, true_and, Bool.false_eq_true, false_and, if_false]
      split
      · next high => simp [Mvm.setDynamicSmps, Nat.not_lt.mpr high]
      · next low => simp [before, Nat.not_le.mp low]
  | true =>
      simp only [Bool.not_true, Bool.false_eq_true, false_and, if_false, true_and, if_true]
      split
      · next low =>
          exact iff_of_true ⟨rfl, smpsOff_setDynamicSmps mvm⟩
            ⟨Nat.lt_of_le_of_lt low order, low⟩
      · next high => simp [before, high]

/-- Dynamic SMPS that has not started does not throttle. -/
theorem handleDynamicSmps_quiet (off : (handleDynamicSmps cfg mvm).1.dynamicSmps = false) :
    (handleDynamicSmps cfg mvm).2 = false := by
  revert off
  rw [handleDynamicSmps]
  repeat' split
  all_goals simp [Mvm.setDynamicSmps]

theorem unprotected_ttTxProtection_false (mvm : Mvm) :
    Unprotected (ttTxProtection .succeed mvm false) := by
  intro slot member sta here
  obtain ⟨i, inside, same⟩ := List.mem_mapIdx.mp member
  rw [← same, Option.mem_def, Option.map_eq_some_iff] at here
  obtain ⟨before, -, after⟩ := here
  rw [← after]
  cases protection : before.ttTxProtection with
  | false => rw [if_pos rfl, protection]
  | true => rfl

theorem handleTxProtection_keeps (cfg : Config) (commands : Commands) (mvm : Mvm) :
    ∃ stations, (handleTxProtection cfg commands mvm).1 = { mvm with stations := stations } := by
  rw [handleTxProtection]
  repeat' split
  all_goals exact ⟨_, rfl⟩

theorem handleTxProtection_on (sane : cfg.params.Sane) (commands : Commands) :
    (handleTxProtection cfg commands mvm).2 = true ↔
      cfg.params.txProtectionEntry ≤ mvm.temperature.toUInt32 := by
  simp only [handleTxProtection, sane.supported.2.2.1, if_true, ge_iff_le]
  split
  · next high => simp [high]
  · next low => split <;> simp [low]

/-- Below its threshold Tx protection ends or stays as it is. -/
theorem handleTxProtection_off_iff (sane : cfg.params.Sane)
    (low : mvm.temperature.toUInt32 < cfg.params.txProtectionEntry) :
    Unprotected (handleTxProtection cfg .succeed mvm).1 ↔
      Unprotected mvm ∨ mvm.temperature.toUInt32 ≤ cfg.params.txProtectionExit := by
  simp only [handleTxProtection, sane.supported.2.2.1, if_true, ge_iff_le,
    if_neg (UInt32.not_le.mpr low)]
  split
  · next ends => simp [ends, unprotected_ttTxProtection_false]
  · next stays => simp [stays]

variable {temperature : Int32}

theorem backoffAt_below {entries : List TxBackoff} {least held : UInt32}
    (below : ∀ entry ∈ entries, temperature < entry.temperature) :
    backoffAt least temperature held entries = held := by
  cases entries with
  | nil => rfl
  | cons entry rest => rw [backoffAt, if_pos (below entry List.mem_cons_self)]

/-- Below all its thresholds the back-off is the least one. -/
theorem handleTxBackoff_below (sane : cfg.params.Sane)
    (below : ∀ entry ∈ cfg.params.txBackoff, mvm.temperature < entry.temperature) :
    handleTxBackoff cfg .succeed mvm = ({ mvm with txBackoff := cfg.minBackoff }, false) := by
  rw [handleTxBackoff, if_pos sane.supported.2.2.2, backoffAt_below below]
  have least : max cfg.minBackoff cfg.minBackoff = cfg.minBackoff := ite_self _
  simp only [ttTxBackoff, Commands.succeed, if_true, least, bne_self_eq_false]
  split
  · rfl
  · next same => rw [← Decidable.not_not.mp same]

/-! ## The end of the handler -/

theorem handleThrottle_keeps (cfg : Config) (mvm : Mvm) (enable : Bool) :
    ∃ throttle, handleThrottle cfg mvm enable = { mvm with throttle := throttle } := by
  rw [handleThrottle]
  repeat' split
  all_goals exact ⟨_, rfl⟩

/-- With no measure on, throttling ends or stays as it is. -/
theorem handleThrottle_off_iff (smps : mvm.dynamicSmps = false)
    (backoff : mvm.txBackoff = cfg.minBackoff) :
    (handleThrottle cfg mvm false).throttle = false ↔
      mvm.throttle = false ∨ mvm.temperature.toUInt32 ≤ cfg.params.txProtectionExit := by
  simp only [handleThrottle, Bool.false_eq_true, and_false, if_false, smps, Bool.not_false,
    backoff, true_and]
  split
  · next ends => simp [ends.2]
  · next stays =>
      cases before : mvm.throttle with
      | false => simp
      | true =>
          rw [before] at stays
          simpa using stays

/-- Tx protection that has started throttles. -/
theorem handleThrottle_on (high : cfg.params.txProtectionExit < mvm.temperature.toUInt32) :
    (handleThrottle cfg mvm true).throttle = true := by
  rw [handleThrottle]
  split
  · rfl
  · next running =>
      rw [if_neg fun ends => absurd ends.2.2.2 (UInt32.not_le.mpr high)]
      simpa using running

theorem handleMeasures_eq (cfg : Config) (commands : Commands) (mvm : Mvm) :
    handleMeasures cfg commands mvm =
      let smps := handleDynamicSmps cfg mvm
      let protection := handleTxProtection cfg commands smps.1
      let backoff := handleTxBackoff cfg commands protection.1
      handleThrottle cfg backoff.1 (smps.2 || protection.2 || backoff.2) :=
  rfl

/-- What the measures leave below every back-off threshold, measure by measure. -/
theorem calm_measures_iff (sane : cfg.params.Sane)
    (below : ∀ entry ∈ cfg.params.txBackoff, mvm.temperature < entry.temperature) :
    ∃ afterSmps afterProtection afterBackoff : Mvm,
      afterSmps = (handleDynamicSmps cfg mvm).1 ∧
      afterProtection = (handleTxProtection cfg .succeed afterSmps).1 ∧
      afterSmps.temperature = mvm.temperature ∧ afterSmps.stations = mvm.stations ∧
      afterBackoff.temperature = mvm.temperature ∧ afterBackoff.throttle = mvm.throttle ∧
      afterBackoff.dynamicSmps = afterSmps.dynamicSmps ∧
      afterBackoff.txBackoff = cfg.minBackoff ∧
      (Calm cfg (handleMeasures cfg .succeed mvm) ↔
        (afterSmps.dynamicSmps = false ∧ SmpsOff cfg afterSmps.vifs) ∧
          Unprotected afterProtection ∧ (handleThrottle cfg afterBackoff
            (handleTxProtection cfg .succeed afterSmps).2).throttle = false) := by
  obtain ⟨enable, vifs, first⟩ := handleDynamicSmps_keeps cfg mvm
  obtain ⟨stations, second⟩ :=
    handleTxProtection_keeps cfg .succeed (handleDynamicSmps cfg mvm).1
  have temperature : (handleTxProtection cfg .succeed (handleDynamicSmps cfg mvm).1).1.temperature =
      mvm.temperature := by
    rw [second, first]
  refine ⟨_, _, { (handleTxProtection cfg .succeed (handleDynamicSmps cfg mvm).1).1 with
    txBackoff := cfg.minBackoff }, rfl, rfl, by rw [first], by rw [first], temperature,
    by rw [second, first], by rw [second], rfl, ?_⟩
  simp only [handleMeasures_eq]
  rw [handleTxBackoff_below sane (by rwa [temperature]), Bool.or_false]
  generalize third :
    ({ (handleTxProtection cfg .succeed (handleDynamicSmps cfg mvm).1).1 with
        txBackoff := cfg.minBackoff } : Mvm) = afterBackoff
  have smps : afterBackoff.dynamicSmps = (handleDynamicSmps cfg mvm).1.dynamicSmps := by
    rw [← third, second]
  have vifs' : afterBackoff.vifs = (handleDynamicSmps cfg mvm).1.vifs := by rw [← third, second]
  have slots : afterBackoff.stations =
      (handleTxProtection cfg .succeed (handleDynamicSmps cfg mvm).1).1.stations := by
    rw [← third]
  have backoff : afterBackoff.txBackoff = cfg.minBackoff := by rw [← third]
  constructor
  · intro calm
    obtain ⟨last, kept⟩ := handleThrottle_keeps cfg afterBackoff
      ((handleDynamicSmps cfg mvm).2 ||
        (handleTxProtection cfg .succeed (handleDynamicSmps cfg mvm).1).2)
    have off := calm.dynamicSmps
    have unprotected := calm.txProtection
    have throttle := calm.throttle
    rw [kept] at off unprotected
    rw [Unprotected, slots] at unprotected
    rw [smps, vifs'] at off
    rw [handleDynamicSmps_quiet off.1, Bool.false_or] at throttle
    exact ⟨off, unprotected, throttle⟩
  · intro cooled
    obtain ⟨off, unprotected, throttle⟩ := cooled
    rw [handleDynamicSmps_quiet off.1, Bool.false_or]
    obtain ⟨last, kept⟩ := handleThrottle_keeps cfg afterBackoff
      (handleTxProtection cfg .succeed (handleDynamicSmps cfg mvm).1).2
    rw [kept] at throttle ⊢
    rw [Unprotected, ← slots] at unprotected
    rw [← smps, ← vifs'] at off
    exact ⟨off, unprotected, backoff, throttle⟩

/-- Between the temperatures of CT kill and below every back-off threshold, what the call leaves
is calm exactly when this temperature ends the measures. -/
theorem calm_handled_iff (sane : cfg.params.Sane)
    (below : ∀ entry ∈ cfg.params.txBackoff, mvm.temperature < entry.temperature) :
    Calm cfg (handleMeasures cfg .succeed mvm) ↔
      EndsMeasures cfg mvm mvm.temperature.toUInt32 := by
  obtain ⟨afterSmps, afterProtection, afterBackoff, smpsEq, protectionEq, temperature, stations,
    temperature', throttle, smps, backoff, calmIff⟩ := calm_measures_iff sane below
  have smpsIff := @handleDynamicSmps_off_iff cfg mvm sane
  rw [← smpsEq] at smpsIff
  have on := @handleTxProtection_on cfg afterSmps sane .succeed
  rw [temperature] at on
  have protection := @handleTxProtection_off_iff cfg afterSmps sane
  rw [← protectionEq, Unprotected, Unprotected, stations, temperature] at protection
  have quiet : mvm.temperature.toUInt32 < cfg.params.txProtectionEntry →
      (handleTxProtection cfg .succeed afterSmps).2 = false := by
    intro low
    rw [← Bool.not_eq_true, on]
    exact UInt32.not_le.mpr low
  have throttleIff : afterSmps.dynamicSmps = false →
      ((handleThrottle cfg afterBackoff false).throttle = false ↔ mvm.throttle = false ∨
        mvm.temperature.toUInt32 ≤ cfg.params.txProtectionExit) := by
    intro off
    have ends := handleThrottle_off_iff (smps.trans off) backoff
    rwa [temperature', throttle] at ends
  rw [calmIff]
  constructor
  · intro calm
    obtain ⟨off, unprotected, running⟩ := calm
    have low : mvm.temperature.toUInt32 < cfg.params.txProtectionEntry := by
      rw [← UInt32.not_le]
      intro high
      have above : cfg.params.txProtectionExit < afterBackoff.temperature.toUInt32 := by
        rw [temperature']
        exact UInt32.lt_of_lt_of_le sane.txProtection high
      rw [on.mpr high, handleThrottle_on above] at running
      exact Bool.noConfusion running
    rw [quiet low] at running
    exact ⟨smpsIff.mp off, ⟨low, (protection low).mp unprotected⟩, (throttleIff off.1).mp running⟩
  · intro ends
    obtain ⟨smpsEnds, ⟨low, protectionEnds⟩, throttleEnds⟩ := ends
    have off := smpsIff.mpr smpsEnds
    rw [quiet low]
    exact ⟨off, (protection low).mpr protectionEnds, (throttleIff off.1).mpr throttleEnds⟩

/-! ## A call at a cool temperature -/

theorem calm_enterCtkill_iff :
    Calm cfg (enterCtkill cfg mvm) ↔
      (mvm.hwCtkill = true ∨ cfg.ttInFw = true → mvm.dynamicSmps = false ∧ mvm.throttle = false) ∧
        SmpsOff cfg mvm.vifs ∧ Unprotected mvm ∧ mvm.txBackoff = cfg.minBackoff := by
  rw [enterCtkill]
  constructor
  · intro calm
    split at calm
    · exact ⟨fun _ => ⟨calm.dynamicSmps.1, calm.throttle⟩, calm.dynamicSmps.2, calm.txProtection,
        calm.txBackoff⟩
    · next fresh =>
        refine ⟨fun keeps => ?_, calm.dynamicSmps.2, calm.txProtection, calm.txBackoff⟩
        have inFw : cfg.ttInFw = true := keeps.resolve_left fresh
        have smps := calm.dynamicSmps.1
        have throttle := calm.throttle
        simp only [inFw, Bool.and_true] at smps throttle
        exact ⟨smps, throttle⟩
  · intro before
    obtain ⟨keeps, vifs, protection, backoff⟩ := before
    split
    · next again =>
        exact ⟨⟨(keeps (.inl again)).1, vifs⟩, protection, backoff, (keeps (.inl again)).2⟩
    · cases inFw : cfg.ttInFw with
      | false => exact ⟨⟨Bool.and_false _, vifs⟩, protection, backoff, Bool.and_false _⟩
      | true =>
          obtain ⟨smps, throttle⟩ := keeps (.inr inFw)
          exact ⟨⟨(Bool.and_true _).trans smps, vifs⟩, protection, backoff,
            (Bool.and_true _).trans throttle⟩

theorem calm_exitCtkill_iff : Calm cfg (exitCtkill mvm) ↔ Calm cfg mvm := by
  rw [exitCtkill]
  split
  · exact ⟨fun calm => ⟨calm.1, calm.2, calm.3, calm.4⟩,
      fun calm => ⟨calm.1, calm.2, calm.3, calm.4⟩⟩
  · exact Iff.rfl

theorem calm_step_iff (sane : cfg.params.Sane)
    (below : ∀ entry ∈ cfg.params.txBackoff, temperature < entry.temperature) :
    Calm cfg (step cfg mvm temperature) ↔ CalmBefore cfg mvm temperature := by
  simp only [step, ttHandler, CalmBefore, sane.supported.1, true_and, ge_iff_le]
  split
  · exact calm_enterCtkill_iff
  split
  · exact calm_exitCtkill_iff.trans
      ⟨fun calm => ⟨calm.1, calm.2, calm.3, calm.4⟩, fun calm => ⟨calm.1, calm.2, calm.3, calm.4⟩⟩
  · exact (@calm_handled_iff cfg { mvm with temperature } sane below).trans
      ⟨fun ends => ⟨ends.1, ends.2, ends.3⟩, fun ends => ⟨ends.1, ends.2, ends.3⟩⟩

/-- At a cool temperature that is not below zero the call does nothing for the measures. -/
theorem calmBefore_iff_of_nonneg (sane : cfg.params.Sane) (cool : cfg.params.Cool temperature)
    (nonneg : ¬temperature < 0) : CalmBefore cfg mvm temperature ↔ Calm cfg mvm := by
  have value := toNat_toUInt32_of_nonneg nonneg
  have exit : temperature.toUInt32 ≤ cfg.params.ctKillExit := by
    have order := cool.ctKill
    rw [UInt32.le_iff_toNat_le]
    omega
  have entry : ¬cfg.params.ctKillEntry ≤ temperature.toUInt32 :=
    UInt32.not_le.mpr (UInt32.lt_of_le_of_lt exit sane.ctKill)
  rw [CalmBefore, if_neg entry, if_pos exit]

/-- Above the temperature at which CT kill ends, the call ends all measures, if the flag of dynamic
SMPS is set or no interface is asked for it. -/
theorem calm_step_of_above (sane : cfg.params.Sane)
    (told : mvm.dynamicSmps = false → SmpsOff cfg mvm.vifs)
    (ctKill : temperature.toUInt32 < cfg.params.ctKillEntry ∧
      cfg.params.ctKillExit < temperature.toUInt32)
    (smps : temperature.toUInt32 ≤ cfg.params.dynamicSmpsExit)
    (protection : temperature.toUInt32 ≤ cfg.params.txProtectionExit)
    (below : ∀ entry ∈ cfg.params.txBackoff, temperature < entry.temperature) :
    Calm cfg (step cfg mvm temperature) := by
  refine (calm_step_iff sane below).mpr ?_
  rw [CalmBefore, if_neg (UInt32.not_le.mpr ctKill.1), if_neg (UInt32.not_le.mpr ctKill.2)]
  exact
    { dynamicSmps := ⟨UInt32.lt_of_le_of_lt smps sane.dynamicSmps, by
        cases flag : mvm.dynamicSmps with
        | false => exact told flag
        | true => exact smps⟩
      txProtection := ⟨UInt32.lt_of_le_of_lt protection sane.txProtection, .inr protection⟩
      throttle := .inr protection }

/-- Along a run, each call at a cool temperature leaves all measures off exactly when it finds
them off, or ends them. -/
theorem calm_run_iff (sane : cfg.params.Sane) (start : Mvm) (temperatures : List Int32) :
    (∀ before temperature, before ++ [temperature] <+: temperatures →
        cfg.params.Cool temperature →
        Calm cfg ((before ++ [temperature]).foldl (step cfg) start)) ↔
      Admissible (step cfg)
        (fun mvm temperature => cfg.params.Cool temperature → CalmBefore cfg mvm temperature)
        start temperatures := by
  rw [forall_after_iff (Q := fun temperature mvm => cfg.params.Cool temperature → Calm cfg mvm)]
  constructor
  · intro run
    refine run.mono fun mvm temperature calm cool => ?_
    exact (calm_step_iff sane cool.txBackoff).mp (calm cool)
  · intro run
    refine run.mono fun mvm temperature calm cool => ?_
    exact (calm_step_iff sane cool.txBackoff).mpr (calm cool)

/-- `iwl_mvm_default_tt_params`. -/
def defaultTtParams : TtParams where
  ctKillEntry := 118
  ctKillExit := 96
  ctKillDuration := 5
  dynamicSmpsEntry := 114
  dynamicSmpsExit := 110
  txProtectionEntry := 114
  txProtectionExit := 108
  txBackoff := [⟨112, 200⟩, ⟨113, 600⟩, ⟨114, 1200⟩, ⟨115, 2000⟩, ⟨116, 4000⟩, ⟨117, 10000⟩]
  supportCtKill := true
  supportDynamicSmps := true
  supportTxProtection := true
  supportTxBackoff := true

/-- A device with the default parameters, and its state with one station and no measure on. -/
def defaultConfig : Config where
  params := defaultTtParams
  minBackoff := 0
  ttInFw := false
  temperatureTest := false
  rxAntennas := 2

def calmState : Mvm where
  temperature := 40
  hwCtkill := false
  ctKillExit := none
  dynamicSmps := false
  txBackoff := 0
  throttle := false
  stations := [some ⟨false⟩]
  vifs := [⟨true, .automatic⟩]

theorem sane_defaultConfig : defaultConfig.params.Sane := by
  constructor <;> decide

/-- On the way down through 100 degrees all measures end. -/
theorem calm_run_default :
    defaultConfig.params.Sane ∧
      ∀ before temperature, before ++ [temperature] <+: [117, 100, 90] →
        defaultConfig.params.Cool temperature →
        Calm defaultConfig ((before ++ [temperature]).foldl (step defaultConfig) calmState) := by
  refine ⟨sane_defaultConfig, (calm_run_iff sane_defaultConfig calmState [117, 100, 90]).mpr
    ⟨fun cool => absurd cool.ctKill (by decide), fun cool => absurd cool.ctKill (by decide),
      fun cool => ?_, trivial⟩⟩
  refine (calmBefore_iff_of_nonneg sane_defaultConfig cool (by decide)).mpr ?_
  exact calm_step_of_above sane_defaultConfig nofun (by decide) (by decide) (by decide) (by decide)

/-- From 117 degrees the temperature falls to 90 at once, and every measure stays on. -/
theorem not_calm_run :
    ¬ ∀ before temperature, before ++ [temperature] <+: [117, 90] →
      defaultConfig.params.Cool temperature →
      Calm defaultConfig ((before ++ [temperature]).foldl (step defaultConfig) calmState) := by
  intro all
  have cool : defaultConfig.params.Cool 90 := by constructor <;> decide
  have calm := all [117] 90 (List.prefix_refl _) cool
  exact absurd calm.throttle (by decide)

end Iwlwifi.ThermalThrottle
