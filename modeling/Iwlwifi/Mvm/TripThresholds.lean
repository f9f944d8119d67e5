import Mathlib.Data.List.FinRange
import Mathlib.Data.List.Sort
import Iwlwifi.Lib.Run
import Iwlwifi.Lib.Signed

/-!
# Temperature thresholds

The thermal zone of the driver has eight trips, each with a temperature or `S16_MIN`.
`iwl_mvm_send_temp_report_ths_cmd` sends the temperatures that are set to the firmware in
ascending order, and keeps in `fw_trips_index` which trip each of them belongs to, because the
firmware reports a crossed threshold by its place.

A place is matched back to its trip by value, with `le16_to_cpu` of the threshold, which is
unsigned, on one side and the `s16` of the trip on the other.  A negative temperature equals
none, and its place keeps what an earlier call has left there (`matchTrip_of_neg`).
-/

namespace Iwlwifi.TripThresholds

open Function (update update_of_ne update_self)

open Lib

abbrev iwlMaxDtsTrips : Nat := 8

/-- `S16_MIN`, for a trip without a temperature. -/
def s16Min : Int16 := Int16.minValue

def s16Max : Int32 := 32767

def einval : Int := -22

def eio : Int := -5

abbrev Trip := Fin iwlMaxDtsTrips

/-- `struct iwl_mvm_thermal_device`. -/
structure ThermalDevice where
  tempTrips : Trip → Int16
  fwTripsIndex : Fin iwlMaxDtsTrips → UInt8
  tzone : Bool

/-- `struct temp_report_ths_cmd`. -/
structure TempReportThsCmd where
  numTemps : Nat
  thresholds : List UInt16
  deriving DecidableEq, Repr

/-- The temperatures of a command, as the firmware reads them. -/
def TempReportThsCmd.temperatures (cmd : TempReportThsCmd) : List Int16 :=
  (cmd.thresholds.take cmd.numTemps).map UInt16.toInt16

/-- The thermal device and, for the record, the last command that was sent. -/
structure Mvm where
  tzDevice : ThermalDevice
  sent : Option TempReportThsCmd

/-! ## Sending the thresholds -/

/-- The temperatures of the trips that are set, as the command holds them. -/
def compress (trips : Trip → Int16) : List UInt16 :=
  ((List.finRange iwlMaxDtsTrips).filter fun i => trips i ≠ s16Min).map fun i => (trips i).toUInt16

def compareTemps (a b : UInt16) : Int := a.toInt16.toInt - b.toInt16.toInt

def sort (thresholds : List UInt16) : List UInt16 :=
  thresholds.insertionSort fun a b => compareTemps a b ≤ 0

/-- The inner loop over the trips, for a threshold at whose place `held` is.  Both sides of the
comparison are promoted to `int`. -/
def matchTrip (trips : Trip → Int16) (threshold : UInt16) (held : UInt8) : UInt8 :=
  (List.finRange iwlMaxDtsTrips).foldl
    (fun held j => if (threshold.toNat : Int) = (trips j).toInt then UInt8.ofNat j.val else held)
    held

/-- The loop over the thresholds, each of which writes at its own place only. -/
def saveIndexes (trips : Trip → Int16) (sorted : List UInt16)
    (index : Fin iwlMaxDtsTrips → UInt8) : Fin iwlMaxDtsTrips → UInt8 := fun i =>
  match sorted[i.val]? with
  | some threshold => matchTrip trips threshold (index i)
  | none => index i

/-- The command with these thresholds; the rest of its array is zero. -/
def command (sorted : List UInt16) : TempReportThsCmd where
  numTemps := sorted.length
  thresholds := sorted ++ List.replicate (iwlMaxDtsTrips - sorted.length) 0

/-- `iwl_mvm_send_temp_report_ths_cmd`, less the result of sending, which it returns. -/
def sendTempReportThsCmd (mvm : Mvm) : Mvm :=
  if mvm.tzDevice.tzone then
    let sorted := sort (compress mvm.tzDevice.tempTrips)
    { tzDevice :=
        { mvm.tzDevice with
          fwTripsIndex := saveIndexes mvm.tzDevice.tempTrips sorted mvm.tzDevice.fwTripsIndex }
      sent := some (command sorted) }
  else { mvm with sent := some (command []) }

/-- A call of `iwl_mvm_tzone_set_trip_temp`: its arguments, whether the regular firmware is
running, and what sending the command returns. -/
structure SetTripTemp where
  trip : Int
  temp : Int32
  running : Bool := true
  ret : Int := 0
  deriving DecidableEq, Repr

/-- `(s16)(temp / 1000)`. -/
def SetTripTemp.temperature (call : SetTripTemp) : Int16 := (call.temp / 1000).toInt16

def Mvm.setTemp (mvm : Mvm) (trip : Trip) (temperature : Int16) : Mvm :=
  { mvm with
    tzDevice :=
      { mvm.tzDevice with
        tempTrips := update mvm.tzDevice.tempTrips trip temperature } }

/-- `iwl_mvm_tzone_set_trip_temp`. -/
def tzoneSetTripTemp (mvm : Mvm) (call : SetTripTemp) : Mvm × Int :=
  if !call.running then (mvm, eio)
  else if inside : 0 ≤ call.trip ∧ call.trip.toNat < iwlMaxDtsTrips then
    if call.temp / 1000 > s16Max then (mvm, einval)
    else if mvm.tzDevice.tempTrips ⟨call.trip.toNat, inside.2⟩ = call.temperature then (mvm, 0)
    else if ∃ i, mvm.tzDevice.tempTrips i = call.temperature then (mvm, einval)
    else
      (sendTempReportThsCmd (mvm.setTemp ⟨call.trip.toNat, inside.2⟩ call.temperature), call.ret)
  else (mvm, einval)

def step (mvm : Mvm) (call : SetTripTemp) : Mvm := (tzoneSetTripTemp mvm call).1

/-- The zone after its registration: no trip is set. -/
def registered (index : Fin iwlMaxDtsTrips → UInt8) : Mvm where
  tzDevice := { tempTrips := fun _ => s16Min, fwTripsIndex := index, tzone := true }
  sent := none

/-! ## Temperatures in ascending order -/

/-- The temperatures are those of the trips that are set, in ascending order. -/
structure AscendingTrips (trips : Trip → Int16) (temps : List Int16) : Prop where
  ascending : temps.Pairwise (· < ·)
  mem : ∀ t, t ∈ temps ↔ ∃ j, trips j ≠ s16Min ∧ trips j = t

/-- Each place of the list that the firmware has belongs to the trip that `fw_trips_index` says. -/
def Mapped (trips : Trip → Int16) (index : Fin iwlMaxDtsTrips → UInt8) : Prop :=
  ∀ temps, AscendingTrips trips temps → ∀ (i : Fin iwlMaxDtsTrips) (t : Int16),
    temps[i.val]? = some t → ∃ j : Trip, (index i).toNat = j ∧ trips j = t

/-- The firmware has the temperatures that are set, and its places are mapped back to their
trips. -/
structure Reported (mvm : Mvm) : Prop where
  sent : ∀ cmd ∈ mvm.sent, AscendingTrips mvm.tzDevice.tempTrips cmd.temperatures
  mapped : Mapped mvm.tzDevice.tempTrips mvm.tzDevice.fwTripsIndex

/-- The places of negative temperatures belong to the trips that the index array says. -/
def NegativeMapped (trips : Trip → Int16) (index : Fin iwlMaxDtsTrips → UInt8) : Prop :=
  ∀ temps, AscendingTrips trips temps → ∀ (i : Fin iwlMaxDtsTrips) (t : Int16),
    temps[i.val]? = some t → t < 0 → ∃ j : Trip, (index i).toNat = j ∧ trips j = t

/-- The trip whose temperature the call changes. -/
def SetTripTemp.target (mvm : Mvm) (call : SetTripTemp) : Option Trip :=
  if inside : 0 ≤ call.trip ∧ call.trip.toNat < iwlMaxDtsTrips then
    if call.running ∧ call.temp / 1000 ≤ s16Max ∧
        ∀ i, mvm.tzDevice.tempTrips i ≠ call.temperature then
      some ⟨call.trip.toNat, inside.2⟩
    else none
  else none

/-- Before a call that changes a temperature, `fw_trips_index` has the trips of all negative
temperatures at the places that they are going to have. -/
def KeepsNegative (mvm : Mvm) (call : SetTripTemp) : Prop :=
  ∀ trip ∈ call.target mvm,
    NegativeMapped (update mvm.tzDevice.tempTrips trip call.temperature)
      mvm.tzDevice.fwTripsIndex

/-- No two trips have one temperature. -/
def Distinct (trips : Trip → Int16) : Prop :=
  ∀ i j, trips i ≠ s16Min → trips i = trips j → i = j

variable {trips : Trip → Int16} {temps temps' : List Int16} {threshold : UInt16} {held : UInt8}

theorem AscendingTrips.unique (left : AscendingTrips trips temps)
    (right : AscendingTrips trips temps') : temps = temps' := by
  refine @List.Perm.eq_of_pairwise _ (· < ·) _ _ (fun a b _ _ ab ba => ?_) left.ascending
    right.ascending ?_
  · exact absurd ba (Int16.lt_asymm ab)
  · refine (List.perm_ext_iff_of_nodup ?_ ?_).mpr fun t => (left.mem t).trans (right.mem t).symm
    · exact left.ascending.imp fun less => Std.ne_of_lt less
    · exact right.ascending.imp fun less => Std.ne_of_lt less

variable {t : Int16}

/-- A negative temperature has a bit pattern above every `s16`. -/
theorem ne_of_neg (neg : t < 0) (other : Int16) : (t.toUInt16.toNat : Int) ≠ other.toInt := by
  have below : t.toInt < 0 := Int16.lt_iff_toInt_lt.mp neg
  have pattern := toInt_eq_toUInt16 t
  have upper : other.toInt < 2 ^ 15 := Int16.toInt_lt other
  rw [Int.bmod_def] at pattern
  split at pattern <;> omega

theorem eq_iff_of_nonneg (nonneg : ¬t < 0) (other : Int16) :
    (t.toUInt16.toNat : Int) = other.toInt ↔ other = t := by
  rw [toNat_toUInt16_of_nonneg nonneg, ← Int16.toInt_inj]
  exact eq_comm

/-! ## Matching a threshold back -/

/-- The inner loop ends with a trip that matches, or with what was there. -/
theorem foldl_match (trips : Trip → Int16) (threshold : UInt16) (js : List Trip) (held : UInt8) :
    let result := js.foldl
      (fun held j =>
        if (threshold.toNat : Int) = (trips j).toInt then UInt8.ofNat j.val else held) held
    (∃ j ∈ js, (threshold.toNat : Int) = (trips j).toInt ∧ result = UInt8.ofNat j.val) ∨
      (∀ j ∈ js, (threshold.toNat : Int) ≠ (trips j).toInt) ∧ result = held := by
  induction js generalizing held with
  | nil => exact .inr ⟨List.forall_mem_nil _, rfl⟩
  | cons first rest ih =>
      simp only [List.foldl_cons]
      split
      · next matched =>
          rcases ih (UInt8.ofNat first.val) with ⟨j, inside, equal, result⟩ | ⟨none, result⟩
          · exact .inl ⟨j, List.mem_cons_of_mem first inside, equal, result⟩
          · exact .inl ⟨first, List.mem_cons_self, matched, result⟩
      · next differs =>
          rcases ih held with ⟨j, inside, equal, result⟩ | ⟨none, result⟩
          · exact .inl ⟨j, List.mem_cons_of_mem first inside, equal, result⟩
          · exact .inr ⟨List.forall_mem_cons.mpr ⟨differs, none⟩, result⟩

/-- Nothing matches a negative temperature. -/
theorem matchTrip_of_neg (neg : t < 0) : matchTrip trips t.toUInt16 held = held := by
  rcases foldl_match trips t.toUInt16 (List.finRange iwlMaxDtsTrips) held with
    ⟨j, -, equal, -⟩ | ⟨-, result⟩
  · exact absurd equal (ne_of_neg neg (trips j))
  · exact result

/-- Any other temperature of a trip is matched to a trip that has it. -/
theorem matchTrip_of_nonneg (nonneg : ¬t < 0) (some : ∃ j, trips j = t) :
    ∃ j : Trip, (matchTrip trips t.toUInt16 held).toNat = j ∧ trips j = t := by
  obtain ⟨k, here⟩ := some
  rcases foldl_match trips t.toUInt16 (List.finRange iwlMaxDtsTrips) held with
    ⟨j, -, equal, result⟩ | ⟨none, -⟩
  · refine ⟨j, ?_, (eq_iff_of_nonneg nonneg (trips j)).mp equal⟩
    have small : j.val < 2 ^ 8 := Nat.lt_trans j.isLt (by decide)
    rw [matchTrip, result, UInt8.toNat_ofNat', Nat.mod_eq_of_lt small]
  · exact absurd ((eq_iff_of_nonneg nonneg (trips k)).mpr here) (none k (List.mem_finRange k))

/-! ## The command -/

theorem temperatures_command (sorted : List UInt16) :
    (command sorted).temperatures = sorted.map UInt16.toInt16 := by
  rw [TempReportThsCmd.temperatures, command, List.take_left]

theorem mem_compress : t.toUInt16 ∈ compress trips ↔ ∃ j, trips j ≠ s16Min ∧ trips j = t := by
  simp only [compress, List.mem_map, List.mem_filter, List.mem_finRange, true_and,
    decide_eq_true_eq]
  refine exists_congr fun j => and_congr_right fun _ => ⟨fun same => ?_, congrArg _⟩
  exact congrArg UInt16.toInt16 same

theorem nodup_compress (distinct : Distinct trips) : (compress trips).Nodup := by
  refine List.Nodup.map_on (fun i member j _ same => ?_)
    ((List.nodup_finRange iwlMaxDtsTrips).filter _)
  have set : trips i ≠ s16Min := by
    simpa using (List.mem_filter.mp member).2
  exact distinct i j set (congrArg UInt16.toInt16 same)

/-- What is sent are the temperatures of the trips that are set, in ascending order. -/
theorem sort_compress (distinct : Distinct trips) :
    AscendingTrips trips ((sort (compress trips)).map UInt16.toInt16) where
  ascending := by
    have total : Std.Total fun a b : UInt16 => compareTemps a b ≤ 0 :=
      ⟨fun a b => by
        simp only [compareTemps]
        omega⟩
    have trans : IsTrans UInt16 fun a b => compareTemps a b ≤ 0 :=
      ⟨fun a b c => by
        simp only [compareTemps]
        omega⟩
    have sorted : (sort (compress trips)).Pairwise fun a b => compareTemps a b ≤ 0 :=
      List.pairwise_insertionSort _ _
    have nodup : (sort (compress trips)).Nodup :=
      (List.perm_insertionSort _ _).nodup_iff.mpr (nodup_compress distinct)
    refine List.pairwise_map.mpr ((sorted.and nodup).imp fun {a b} both => ?_)
    have less : a.toInt16.toInt ≤ b.toInt16.toInt := by
      have order := both.1
      simp only [compareTemps] at order
      omega
    have differ : a.toInt16.toInt ≠ b.toInt16.toInt := fun same =>
      both.2 (congrArg Int16.toUInt16 (Int16.toInt_inj.mp same))
    exact Int16.lt_iff_toInt_lt.mpr (by omega)
  mem t := by
    rw [← mem_compress, List.mem_map]
    constructor
    · intro found
      obtain ⟨u, member, same⟩ := found
      rw [← same]
      exact (List.mem_insertionSort _).mp member
    · intro member
      exact ⟨t.toUInt16, (List.mem_insertionSort _).mpr member, rfl⟩

/-! ## A call -/

/-- What holds between the calls, however they go. -/
structure Sound (mvm : Mvm) : Prop where
  tzone : mvm.tzDevice.tzone = true
  distinct : Distinct mvm.tzDevice.tempTrips
  sent : ∀ cmd ∈ mvm.sent, AscendingTrips mvm.tzDevice.tempTrips cmd.temperatures

variable {mvm : Mvm} {index : Fin iwlMaxDtsTrips → UInt8}

/-- A call changes one temperature and sends the thresholds, or nothing happens. -/
theorem step_cases (mvm : Mvm) (call : SetTripTemp) :
    (∃ trip, call.target mvm = some trip ∧
      (∀ i, mvm.tzDevice.tempTrips i ≠ call.temperature) ∧
      step mvm call = sendTempReportThsCmd (mvm.setTemp trip call.temperature)) ∨
    (call.target mvm = none ∧ step mvm call = mvm) := by
  simp only [step, tzoneSetTripTemp, SetTripTemp.target]
  by_cases running : call.running = true
  · by_cases inside : 0 ≤ call.trip ∧ call.trip.toNat < iwlMaxDtsTrips
    · by_cases low : call.temp / 1000 ≤ s16Max
      · have notHigh : ¬s16Max < call.temp / 1000 := Int32.not_lt.mpr low
        by_cases fresh : ∀ i, mvm.tzDevice.tempTrips i ≠ call.temperature
        · refine .inl ⟨⟨call.trip.toNat, inside.2⟩, ?_, fresh, ?_⟩
          · simp [running, inside, low, fresh]
          · simp [running, inside, notHigh, fresh]
        · refine .inr ⟨by simp [running, inside, low, fresh], ?_⟩
          have taken : ∃ i, mvm.tzDevice.tempTrips i = call.temperature := by
            simpa using fresh
          rw [if_neg (by simp [running]), dif_pos inside, if_neg notHigh, if_pos taken]
          split <;> rfl
      · refine .inr ⟨by simp [inside, low], ?_⟩
        rw [if_neg (by simp [running]), dif_pos inside, if_pos (Int32.not_le.mp low)]
    · exact .inr ⟨dif_neg inside, by rw [if_neg (by simp [running]), dif_neg inside]⟩
  · exact .inr ⟨by simp [running], by simp [running]⟩

/-- What the loop over the thresholds leaves at the place of a temperature. -/
theorem saveIndexes_place (distinct : Distinct trips) (sorted : AscendingTrips trips temps)
    {i : Fin iwlMaxDtsTrips} (place : temps[i.val]? = some t) :
    saveIndexes trips (sort (compress trips)) index i =
      matchTrip trips t.toUInt16 (index i) := by
  rw [sorted.unique (sort_compress distinct), List.getElem?_map,
    Option.map_eq_some_iff] at place
  obtain ⟨u, found, value⟩ := place
  have bits : u = t.toUInt16 := congrArg Int16.toUInt16 value
  rw [saveIndexes, found, bits]

/-- The places of temperatures that are not negative are mapped anew, the others keep what they
have. -/
theorem mapped_saveIndexes (distinct : Distinct trips) :
    Mapped trips (saveIndexes trips (sort (compress trips)) index) ↔
      NegativeMapped trips index := by
  constructor
  · intro mapped temps sorted i t place neg
    obtain ⟨j, here, same⟩ := mapped temps sorted i t place
    rw [saveIndexes_place distinct sorted place, matchTrip_of_neg neg] at here
    exact ⟨j, here, same⟩
  · intro mapped temps sorted i t place
    rw [saveIndexes_place distinct sorted place]
    by_cases neg : t < 0
    · rw [matchTrip_of_neg neg]
      exact mapped temps sorted i t place neg
    · obtain ⟨k, -, here⟩ := (sorted.mem t).mp (List.mem_of_getElem? place)
      exact matchTrip_of_nonneg neg ⟨k, here⟩

/-- Sending the thresholds, when a zone is registered. -/
theorem sound_send (tzone : mvm.tzDevice.tzone = true)
    (distinct : Distinct mvm.tzDevice.tempTrips) :
    Sound (sendTempReportThsCmd mvm) ∧
      (Mapped (sendTempReportThsCmd mvm).tzDevice.tempTrips
        (sendTempReportThsCmd mvm).tzDevice.fwTripsIndex ↔
        NegativeMapped mvm.tzDevice.tempTrips mvm.tzDevice.fwTripsIndex) := by
  rw [sendTempReportThsCmd, if_pos tzone]
  refine ⟨⟨tzone, distinct, fun cmd sent => ?_⟩, mapped_saveIndexes distinct⟩
  have same := Option.some.inj sent
  rw [← same, temperatures_command]
  exact sort_compress distinct

theorem distinct_update {trip : Trip} (distinct : Distinct trips) (fresh : ∀ i, trips i ≠ t) :
    Distinct (update trips trip t) := by
  intro i j set same
  by_cases first : i = trip
  · by_cases second : j = trip
    · rw [first, second]
    · rw [first, update_self, update_of_ne second] at same
      exact absurd same.symm (fresh j)
  · rw [update_of_ne first] at set same
    by_cases second : j = trip
    · rw [second, update_self] at same
      exact absurd same (fresh i)
    · rw [update_of_ne second] at same
      exact distinct i j set same

/-- A call keeps the mapping exactly when the negative temperatures have their trips. -/
theorem reported_step (sound : Sound mvm) (reported : Reported mvm) (call : SetTripTemp) :
    Sound (step mvm call) ∧ (Reported (step mvm call) ↔ KeepsNegative mvm call) := by
  rcases step_cases mvm call with ⟨trip, target, fresh, next⟩ | ⟨target, next⟩
  · rw [next]
    obtain ⟨after, mapped⟩ := @sound_send (mvm.setTemp trip call.temperature) sound.tzone
      (distinct_update sound.distinct fresh)
    refine ⟨after, ⟨fun report other chosen => ?_, fun keeps => ?_⟩⟩
    · have same : trip = other := Option.some.inj (target.symm.trans chosen)
      rw [← same]
      exact mapped.mp report.mapped
    · exact ⟨after.sent, mapped.mpr (keeps trip target)⟩
  · rw [next]
    refine ⟨sound, ⟨fun _ trip chosen => ?_, fun _ => reported⟩⟩
    rw [target] at chosen
    exact absurd chosen (Option.not_mem_none trip)

/-- No temperature below zero is set. -/
def Warm (mvm : Mvm) : Prop :=
  ∀ i, mvm.tzDevice.tempTrips i ≠ s16Min → ¬mvm.tzDevice.tempTrips i < 0

/-- A call that leaves no temperature below zero set keeps the mapping. -/
theorem Warm.keepsNegative {call : SetTripTemp} (warm : Warm mvm)
    (nonneg : ¬call.temperature < 0) : KeepsNegative mvm call := by
  intro trip _ temps sorted i t place neg
  obtain ⟨j, set, here⟩ := (sorted.mem t).mp (List.mem_of_getElem? place)
  by_cases same : j = trip
  · rw [same, update_self] at here
    exact absurd (here ▸ neg) nonneg
  · rw [update_of_ne same] at set here
    exact absurd (here ▸ neg) (warm j set)

theorem Warm.step {call : SetTripTemp} (warm : Warm mvm) (nonneg : ¬call.temperature < 0) :
    Warm (step mvm call) := by
  rcases step_cases mvm call with ⟨trip, -, -, next⟩ | ⟨-, next⟩
  · have trips : (TripThresholds.step mvm call).tzDevice.tempTrips =
        update mvm.tzDevice.tempTrips trip call.temperature := by
      rw [next, sendTempReportThsCmd]
      split <;> rfl
    intro i set
    rw [trips] at set ⊢
    by_cases same : i = trip
    · rw [same, update_self]
      exact nonneg
    · rw [update_of_ne same] at set ⊢
      exact warm i set
  · rw [next]
    exact warm

theorem registered_reported (index : Fin iwlMaxDtsTrips → UInt8) :
    Sound (registered index) ∧ Reported (registered index) := by
  have sent : ∀ cmd ∈ (registered index).sent,
      AscendingTrips (registered index).tzDevice.tempTrips cmd.temperatures := fun cmd none =>
    absurd none (Option.not_mem_none cmd)
  refine ⟨⟨rfl, fun i j set _ => absurd rfl set, sent⟩, sent, fun temps sorted i t place => ?_⟩
  obtain ⟨j, set, -⟩ := (sorted.mem t).mp (List.mem_of_getElem? place)
  exact absurd rfl set

/-! ## A run of calls -/

/-- After every call of a run the firmware has the temperatures in order and each place is mapped
back to its trip, exactly when every call of the run finds the negative ones mapped. -/
theorem reported_run_iff (index : Fin iwlMaxDtsTrips → UInt8) (calls : List SetTripTemp) :
    (∀ before, before <+: calls → Reported (before.foldl step (registered index))) ↔
      Admissible step KeepsNegative (registered index) calls := by
  refine forall_reached_iff_of_invariant (P := fun mvm => Sound mvm ∧ Reported mvm)
    (fun mvm held => held.2) (fun mvm call held keeps => ?_) (fun mvm call held report => ?_)
    (registered_reported index)
  · obtain ⟨sound, iff⟩ := reported_step held.1 held.2 call
    exact ⟨sound, iff.mpr keeps⟩
  · exact (reported_step held.1 held.2 call).2.mp report

/-- So it is while all temperatures are at or above zero. -/
theorem reported_of_nonneg (index : Fin iwlMaxDtsTrips → UInt8) (calls : List SetTripTemp)
    (nonneg : ∀ call ∈ calls, ¬call.temperature < 0) :
    Reported (calls.foldl step (registered index)) := by
  have start : (Sound (registered index) ∧ Reported (registered index)) ∧
      Warm (registered index) :=
    ⟨registered_reported index, fun i set _ => set rfl⟩
  refine (List.foldlRecOn (motive := fun mvm => (Sound mvm ∧ Reported mvm) ∧ Warm mvm)
    calls step start fun mvm held call member => ?_).1.2
  obtain ⟨sound, iff⟩ := reported_step held.1.1 held.1.2 call
  exact ⟨⟨sound, iff.mpr (held.2.keepsNegative (nonneg call member))⟩,
    held.2.step (nonneg call member)⟩

/-- The second trip is set below zero and reported as the first. -/
theorem not_reported_run :
    ¬ ∀ calls before : List SetTripTemp, before <+: calls →
      Reported (before.foldl step (registered fun _ => 0)) := by
  intro all
  have report := all [{ trip := 1, temp := -10000 }] _ (List.prefix_refl _)
  obtain ⟨j, here, same⟩ := report.mapped _ (report.sent _ rfl) 0 (-10) (by decide)
  have differ : ∀ j : Trip, (0 : UInt8).toNat = j →
      update (fun _ : Trip => s16Min) 1 (-10) j ≠ -10 := by decide
  exact differ j here same

end Iwlwifi.TripThresholds
