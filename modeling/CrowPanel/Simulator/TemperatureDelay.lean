import CrowPanel.Simulator.AlarmAlternation
import Mathlib.Data.List.DropRight

/-!
# The delay of the temperature alarm

`evaluate` times how long the temperature of a compressor has been too high, and compares this time
with the delay of the configuration.  A temperature that is not too high sets the time to zero, and
zero is compared as well: with a delay of zero the alarm is raised whatever the temperature.

## Strategy

`Spares` is what most parts of an evaluation do to the temperature alarm of a compressor, and
`Evaluates` what the part does that looks at its temperature.  They compose to
`evaluate_evaluates`.  After any calls the kept time is that of the maximal run of exceedances at
their end (`calls_duration`).
-/

namespace CrowPanel.Simulator

open Library

/-! ## The law -/

/-- The call evaluates the temperature of the compressor as too high. -/
def FaultCall.Exceeds (limit : ℚ) (identifier : Text) : FaultCall → Prop
  | .evaluate station _ => ∃ compressor ∈ station.compressors,
      compressor.identifier = identifier ∧ limit < compressor.temperatureCelsius
  | .reset _ => False

instance (limit : ℚ) (identifier : Text) : ∀ call : FaultCall,
    Decidable (call.Exceeds limit identifier)
  | .evaluate _ _ => inferInstanceAs (Decidable (∃ _ ∈ _, _))
  | .reset _ => inferInstanceAs (Decidable False)

def FaultCall.elapsedSeconds : FaultCall → ℚ
  | .evaluate _ elapsedSeconds => elapsedSeconds
  | .reset _ => 0

/-- The elapsed times of the maximal run of exceedances at the end of the calls. -/
def exceedanceTime (limit : ℚ) (identifier : Text) (calls : List FaultCall) : ℚ :=
  ((calls.rtakeWhile fun call => call.Exceeds limit identifier).map FaultCall.elapsedSeconds).sum

/-- The calls are made for stations with these compressors, which have different identifiers. -/
def MadeFor (identifiers : List Text) (calls : List FaultCall) : Prop :=
  identifiers.Nodup ∧
    ∀ call ∈ calls, call.station.compressors.map Compressor.identifier = identifiers

instance (identifiers : List Text) (calls : List FaultCall) :
    Decidable (MadeFor identifiers calls) :=
  inferInstanceAs (Decidable (_ ∧ _))

namespace FaultManager

/-- The fault manager after some calls. -/
def calls (faults : FaultManager) (calls : List FaultCall) : FaultManager :=
  calls.foldl (fun faults call => (faults.call call).1) faults

/-- The temperature alarm of the compressor is latched. -/
def Latched (faults : FaultManager) (identifier : Text) : Prop :=
  (identifier, highTemperature) ∈ faults.activeKeys

instance (faults : FaultManager) (identifier : Text) : Decidable (faults.Latched identifier) :=
  inferInstanceAs (Decidable (_ ∈ _))

/-- The call returns the transition of the temperature alarm to active. -/
def Activates (faults : FaultManager) (call : FaultCall) (identifier : Text) : Prop :=
  ∃ transition ∈ (faults.call call).2.2,
    transition.active = true ∧ transition.key = (identifier, highTemperature)

instance (faults : FaultManager) (call : FaultCall) (identifier : Text) :
    Decidable (faults.Activates call identifier) :=
  inferInstanceAs (Decidable (∃ _ ∈ _, _))

end FaultManager

/-- The last of the calls activates the temperature alarm exactly if the alarm is not latched, the
temperature is too high in the call, and it has been so for the delay. -/
def DelayLaw (configuration : AlarmConfiguration) (identifier : Text) (earlier : List FaultCall)
    (call : FaultCall) : Prop :=
  let faults := FaultManager.calls { configuration } earlier
  faults.Activates call identifier ↔
    ¬faults.Latched identifier ∧ call.Exceeds configuration.highTemperatureC identifier ∧
      configuration.highTemperatureDelaySeconds ≤
        exceedanceTime configuration.highTemperatureC identifier (earlier ++ [call])

theorem exceedanceTime_concat (limit : ℚ) (identifier : Text) (earlier : List FaultCall)
    (call : FaultCall) :
    exceedanceTime limit identifier (earlier ++ [call]) =
      if call.Exceeds limit identifier then
        exceedanceTime limit identifier earlier + call.elapsedSeconds
      else 0 := by
  simp only [exceedanceTime, List.rtakeWhile_concat, decide_eq_true_eq]
  split <;> simp

/-! ## One evaluation -/

namespace FaultManager

variable {faults next last : FaultManager} {transitions others : List AlarmTransition}
variable {identifier : Text} {duration : ℚ}

/-- A part of an evaluation that has nothing to do with the temperature of the compressor. -/
structure Spares (identifier : Text) (faults next : FaultManager)
    (transitions : List AlarmTransition) : Prop where
  configuration_eq : next.configuration = faults.configuration
  duration_eq : next.highTemperatureDurations identifier =
    faults.highTemperatureDurations identifier
  latched : next.Latched identifier ↔ faults.Latched identifier
  silent : (identifier, highTemperature) ∉ transitions.map AlarmTransition.key

/-- A part of an evaluation that finds the temperature to have been too high for this time. -/
structure Evaluates (identifier : Text) (duration : ℚ) (faults next : FaultManager)
    (transitions : List AlarmTransition) : Prop where
  configuration_eq : next.configuration = faults.configuration
  duration_eq : next.highTemperatureDurations identifier = duration
  raised : (identifier, highTemperature) ∈ transitions.map AlarmTransition.key ↔
    ¬faults.Latched identifier ∧ faults.configuration.highTemperatureDelaySeconds ≤ duration

theorem Spares.trans (hfirst : Spares identifier faults next transitions)
    (hsecond : Spares identifier next last others) :
    Spares identifier faults last (transitions ++ others) where
  configuration_eq := hsecond.configuration_eq.trans hfirst.configuration_eq
  duration_eq := hsecond.duration_eq.trans hfirst.duration_eq
  latched := hsecond.latched.trans hfirst.latched
  silent := by
    rw [List.map_append, List.mem_append, not_or]
    exact ⟨hfirst.silent, hsecond.silent⟩

theorem Spares.evaluates (hfirst : Spares identifier faults next transitions)
    (hsecond : Evaluates identifier duration next last others) :
    Evaluates identifier duration faults last (transitions ++ others) where
  configuration_eq := hsecond.configuration_eq.trans hfirst.configuration_eq
  duration_eq := hsecond.duration_eq
  raised := by
    rw [List.map_append, List.mem_append, or_iff_right hfirst.silent, hsecond.raised,
      hfirst.latched, hfirst.configuration_eq]

theorem Evaluates.spares (hfirst : Evaluates identifier duration faults next transitions)
    (hsecond : Spares identifier next last others) :
    Evaluates identifier duration faults last (transitions ++ others) where
  configuration_eq := hsecond.configuration_eq.trans hfirst.configuration_eq
  duration_eq := hsecond.duration_eq.trans hfirst.duration_eq
  raised := by rw [List.map_append, List.mem_append, or_iff_left hsecond.silent, hfirst.raised]

/-- An alarm with another key. -/
theorem setAlarm_spares {transition : AlarmTransition}
    (hother : transition.key ≠ (identifier, highTemperature)) (condition : Bool) :
    Spares identifier faults (faults.setAlarm transition condition).1
      (faults.setAlarm transition condition).2 := by
  unfold setAlarm
  split
  · exact ⟨rfl, rfl, by simp [Latched, activeKeys, hother.symm], by simpa using hother.symm⟩
  · exact ⟨rfl, rfl, Iff.rfl, List.not_mem_nil⟩

/-- The temperature alarm of the compressor. -/
theorem setAlarm_evaluates {transition : AlarmTransition}
    (hkey : transition.key = (identifier, highTemperature))
    (hduration : faults.highTemperatureDurations identifier = duration) {condition : Bool}
    (hcondition : condition = true ↔
      faults.configuration.highTemperatureDelaySeconds ≤ duration) :
    Evaluates identifier duration faults (faults.setAlarm transition condition).1
      (faults.setAlarm transition condition).2 := by
  have hnew : (condition && faults.activeAlarms.all fun alarm => alarm.key ≠ transition.key) =
      true ↔ ¬faults.Latched identifier ∧
        faults.configuration.highTemperatureDelaySeconds ≤ duration := by
    rw [Bool.and_eq_true, hcondition, and_comm, Latched, ← hkey, activeKeys]
    simp
  unfold setAlarm
  split
  · next hraised => exact ⟨rfl, hduration, by simp [hkey, hnew.mp hraised]⟩
  · next hquiet => exact ⟨rfl, hduration, by simpa using fun h => mt hnew.mpr hquiet ∘ .intro h⟩

theorem key_ne_highTemperature {compressor : Compressor} {alarmCode message : Text} {severity : ℕ}
    (hother : compressor.identifier ≠ identifier ∨ alarmCode ≠ highTemperature) :
    (compressorAlarm compressor alarmCode message severity).key ≠
      (identifier, highTemperature) := by
  intro hkey
  obtain ⟨hidentifier, hcode⟩ := Prod.ext_iff.mp hkey
  exact hother.elim (· hidentifier) (· hcode)

theorem evaluateCompressor_spares {compressor : Compressor}
    (hother : compressor.identifier ≠ identifier) (elapsedSeconds : ℚ) :
    Spares identifier faults (faults.evaluateCompressor compressor elapsedSeconds).1
      (faults.evaluateCompressor compressor elapsedSeconds).2.2 := by
  have htime : Spares identifier faults (faults.timeTemperature compressor elapsedSeconds) [] :=
    ⟨rfl, Function.update_of_ne hother.symm _ _, Iff.rfl, List.not_mem_nil⟩
  have hset {faults : FaultManager} {alarmCode message : Text} {severity : ℕ} (condition : Bool) :=
    @setAlarm_spares faults identifier
      (compressorAlarm compressor alarmCode message severity) (key_ne_highTemperature (.inl hother))
      condition
  exact ((htime.trans (hset _)).trans (hset _)).trans (hset _)

/-- The time that is kept for the compressor after its evaluation. -/
theorem timeTemperature_self (faults : FaultManager) (compressor : Compressor)
    (elapsedSeconds : ℚ) :
    (faults.timeTemperature compressor elapsedSeconds).highTemperatureDurations
        compressor.identifier =
      if faults.configuration.highTemperatureC < compressor.temperatureCelsius then
        faults.highTemperatureDurations compressor.identifier + elapsedSeconds
      else 0 :=
  Function.update_self _ _ _

theorem evaluateCompressor_evaluates (faults : FaultManager) (compressor : Compressor)
    (elapsedSeconds : ℚ) :
    Evaluates compressor.identifier
      (if faults.configuration.highTemperatureC < compressor.temperatureCelsius then
        faults.highTemperatureDurations compressor.identifier + elapsedSeconds
      else 0)
      faults (faults.evaluateCompressor compressor elapsedSeconds).1
      (faults.evaluateCompressor compressor elapsedSeconds).2.2 := by
  rw [← timeTemperature_self]
  have hset {faults : FaultManager} {alarmCode message : Text} {severity : ℕ}
      (hcode : alarmCode ≠ highTemperature) (condition : Bool) :=
    @setAlarm_spares faults compressor.identifier
      (compressorAlarm compressor alarmCode message severity) (key_ne_highTemperature (.inr hcode))
      condition
  have htemperature {message : Text} {severity : ℕ} :=
    @setAlarm_evaluates (faults.timeTemperature compressor elapsedSeconds) compressor.identifier _
      (compressorAlarm compressor highTemperature message severity) rfl rfl _ decide_eq_true_iff
  have hoverload : motorOverload ≠ highTemperature := by decide
  have hsensor : sensorFault ≠ highTemperature := by decide
  have hall : Evaluates compressor.identifier _ (faults.timeTemperature compressor elapsedSeconds)
      (faults.evaluateCompressor compressor elapsedSeconds).1
      (faults.evaluateCompressor compressor elapsedSeconds).2.2 :=
    (htemperature.spares (hset hoverload _)).spares (hset hsensor _)
  exact ⟨hall.configuration_eq, hall.duration_eq, hall.raised⟩

theorem evaluateCompressors_spares {compressors : List Compressor} (elapsedSeconds : ℚ)
    (hother : identifier ∉ compressors.map Compressor.identifier) :
    Spares identifier faults (faults.evaluateCompressors elapsedSeconds compressors).1
      (faults.evaluateCompressors elapsedSeconds compressors).2.2 := by
  induction compressors generalizing faults with
  | nil => exact ⟨rfl, rfl, Iff.rfl, List.not_mem_nil⟩
  | cons compressor compressors ih =>
      rw [List.map_cons, List.mem_cons, not_or] at hother
      exact (evaluateCompressor_spares (Ne.symm hother.1) elapsedSeconds).trans (ih hother.2)

/-- The pass for the compressor stands among passes for others. -/
theorem evaluateCompressors_evaluates {compressors : List Compressor} (elapsedSeconds : ℚ)
    (hnodup : (compressors.map Compressor.identifier).Nodup) :
    ∀ compressor ∈ compressors,
      Evaluates compressor.identifier
        (if faults.configuration.highTemperatureC < compressor.temperatureCelsius then
          faults.highTemperatureDurations compressor.identifier + elapsedSeconds
        else 0)
        faults (faults.evaluateCompressors elapsedSeconds compressors).1
        (faults.evaluateCompressors elapsedSeconds compressors).2.2 := by
  induction compressors generalizing faults with
  | nil => exact List.forall_mem_nil _
  | cons first compressors ih =>
      rw [List.map_cons, List.nodup_cons] at hnodup
      refine List.forall_mem_cons.mpr ⟨?_, fun compressor hmem => ?_⟩
      · exact (faults.evaluateCompressor_evaluates first elapsedSeconds).spares
          (evaluateCompressors_spares elapsedSeconds hnodup.1)
      · have hother : first.identifier ≠ compressor.identifier := by
          intro hsame
          exact hnodup.1 (hsame ▸ List.mem_map_of_mem hmem)
        have hfirst : Spares compressor.identifier faults _ _ :=
          evaluateCompressor_spares hother elapsedSeconds
        have hrest := hfirst.evaluates (ih hnodup.2 compressor hmem)
        rwa [hfirst.configuration_eq, hfirst.duration_eq] at hrest

theorem evaluate_evaluates (faults : FaultManager) {station : Station} (elapsedSeconds : ℚ)
    (hnodup : (station.compressors.map Compressor.identifier).Nodup) {compressor : Compressor}
    (hmem : compressor ∈ station.compressors) :
    Evaluates compressor.identifier
      (if faults.configuration.highTemperatureC < compressor.temperatureCelsius then
        faults.highTemperatureDurations compressor.identifier + elapsedSeconds
      else 0)
      faults (faults.evaluate station elapsedSeconds).1
      (faults.evaluate station elapsedSeconds).2.2 := by
  refine (evaluateCompressors_evaluates elapsedSeconds hnodup compressor hmem).spares
    (setAlarm_spares (fun hkey => ?_) _)
  exact absurd (Prod.ext_iff.mp hkey).2 (by decide : highPressure ≠ highTemperature)

/-! ## Many calls -/

variable {identifiers : List Text} {earlier : List FaultCall} {call : FaultCall}

/-- With one compressor for each identifier, its temperature is the one that the call evaluates. -/
theorem exceeds_evaluate_iff {station : Station} {elapsedSeconds limit : ℚ}
    (hnodup : (station.compressors.map Compressor.identifier).Nodup) {compressor : Compressor}
    (hmem : compressor ∈ station.compressors) :
    (FaultCall.evaluate station elapsedSeconds).Exceeds limit compressor.identifier ↔
      limit < compressor.temperatureCelsius := by
  constructor
  · rintro ⟨other, hother, hidentifier, hlimit⟩
    obtain rfl := List.inj_on_of_nodup_map hnodup hother hmem hidentifier
    exact hlimit
  · intro hlimit
    exact ⟨compressor, hmem, rfl, hlimit⟩

/-- The kept time after a call. -/
theorem call_duration (faults : FaultManager) (hmade : MadeFor identifiers [call])
    (hidentifier : identifier ∈ identifiers) :
    (faults.call call).1.configuration = faults.configuration ∧
      (faults.call call).1.highTemperatureDurations identifier =
        if call.Exceeds faults.configuration.highTemperatureC identifier then
          faults.highTemperatureDurations identifier + call.elapsedSeconds
        else 0 := by
  obtain ⟨hnodup, hstation⟩ := hmade
  obtain rfl := hstation call List.mem_cons_self
  obtain ⟨compressor, hmem, rfl⟩ := List.mem_map.mp hidentifier
  cases call with
  | evaluate station elapsedSeconds =>
      rw [FaultCall.station] at hnodup hmem
      have hevaluates := faults.evaluate_evaluates elapsedSeconds hnodup hmem
      refine ⟨hevaluates.configuration_eq, ?_⟩
      rw [if_congr (exceeds_evaluate_iff hnodup hmem) rfl rfl]
      exact hevaluates.duration_eq
  | reset station => exact ⟨rfl, (if_neg id).symm⟩

theorem calls_concat (faults : FaultManager) (earlier : List FaultCall) (call : FaultCall) :
    faults.calls (earlier ++ [call]) = ((faults.calls earlier).call call).1 := by
  rw [calls, List.foldl_concat, calls]

/-- After any calls the kept time is that of the run of exceedances at their end. -/
theorem calls_duration {configuration : AlarmConfiguration} (hmade : MadeFor identifiers earlier)
    (hidentifier : identifier ∈ identifiers) :
    (calls { configuration } earlier).configuration = configuration ∧
      (calls { configuration } earlier).highTemperatureDurations identifier =
        exceedanceTime configuration.highTemperatureC identifier earlier := by
  induction earlier using List.reverseRecOn with
  | nil => exact ⟨rfl, rfl⟩
  | append_singleton earlier call ih =>
      obtain ⟨hnodup, hstations⟩ := hmade
      obtain ⟨hearlier, hcall⟩ := List.forall_mem_append.mp hstations
      obtain ⟨hconfiguration, hduration⟩ := ih ⟨hnodup, hearlier⟩
      obtain ⟨hafter, htime⟩ :=
        (calls { configuration } earlier).call_duration ⟨hnodup, hcall⟩ hidentifier
      rw [calls_concat, exceedanceTime_concat]
      refine ⟨hafter.trans hconfiguration, ?_⟩
      rw [htime, hconfiguration, hduration]

/-- An evaluation returns transitions to active only. -/
theorem activates_iff (faults : FaultManager) (station : Station) (elapsedSeconds : ℚ)
    (identifier : Text) :
    faults.Activates (.evaluate station elapsedSeconds) identifier ↔
      (identifier, highTemperature) ∈
        (faults.evaluate station elapsedSeconds).2.2.map AlarmTransition.key := by
  have hactive := (faults.evaluate_raises station elapsedSeconds).1.active
  rw [List.mem_map]
  constructor
  · rintro ⟨transition, hmem, -, hkey⟩
    exact ⟨transition, hmem, hkey⟩
  · rintro ⟨transition, hmem, hkey⟩
    exact ⟨transition, hmem, hactive transition hmem, hkey⟩

end FaultManager

/-! ## Main theorem -/

/-- **Delay of the temperature alarm.**  After any calls, an evaluation obeys the delay law exactly if
the delay is positive, or the temperature is too high in this evaluation, or the alarm is latched. -/
theorem delayLaw_iff {configuration : AlarmConfiguration} {identifiers : List Text}
    {identifier : Text} {earlier : List FaultCall} {station : Station} {elapsedSeconds : ℚ}
    (hmade : MadeFor identifiers (earlier ++ [.evaluate station elapsedSeconds]))
    (hidentifier : identifier ∈ identifiers) :
    DelayLaw configuration identifier earlier (.evaluate station elapsedSeconds) ↔
      0 < configuration.highTemperatureDelaySeconds ∨
        (FaultCall.evaluate station elapsedSeconds).Exceeds configuration.highTemperatureC
          identifier ∨
        (FaultManager.calls { configuration } earlier).Latched identifier := by
  obtain ⟨hnodup, hstations⟩ := hmade
  obtain ⟨hearlier, hcall⟩ := List.forall_mem_append.mp hstations
  obtain rfl := List.forall_mem_singleton.mp hcall
  obtain ⟨compressor, hmem, rfl⟩ := List.mem_map.mp hidentifier
  rw [FaultCall.station] at hnodup hmem
  obtain ⟨hconfiguration, hduration⟩ :=
    @FaultManager.calls_duration _ _ _ configuration ⟨hnodup, hearlier⟩ hidentifier
  have hevaluates := (FaultManager.calls { configuration } earlier).evaluate_evaluates
    elapsedSeconds hnodup hmem
  have hactivates := FaultManager.activates_iff (FaultManager.calls { configuration } earlier)
    station elapsedSeconds compressor.identifier
  rw [hevaluates.raised, hconfiguration, hduration] at hactivates
  have hexceeds := @FaultManager.exceeds_evaluate_iff station elapsedSeconds
    configuration.highTemperatureC hnodup compressor hmem
  rw [DelayLaw, hactivates, exceedanceTime_concat]
  by_cases hlimit : configuration.highTemperatureC < compressor.temperatureCelsius
  · simp [hlimit, hexceeds.mpr hlimit, FaultCall.elapsedSeconds]
  · -- the kept time is zero, which a delay of zero is not longer than
    have hquiet := mt hexceeds.mp hlimit
    simp only [hlimit, hquiet, if_false, false_and, and_false, iff_false, false_or, not_and,
      not_le]
    tauto

/-- A compressor at the temperature, and its station. -/
private def stationAt (temperatureCelsius : ℚ) : Station where
  identifier := ascii "compressed_air_station"
  displayName := ascii "Compressed Air Station"
  compressors :=
    [{ identifier := ascii "compressor_1"
       displayName := ascii "Compressor 1"
       temperatureCelsius }]

/-- The temperature is too high for the whole delay, with a reset before. -/
theorem delayLaw_hot :
    DelayLaw alarmRules (ascii "compressor_1")
        [.evaluate (stationAt 90) 4, .reset (stationAt 90), .evaluate (stationAt 90) 3]
        (.evaluate (stationAt 90) 2) :=
  (delayLaw_iff (show MadeFor [ascii "compressor_1"] _ by decide +kernel)
    List.mem_cons_self).mpr (.inl (by decide +kernel))

/-- Without a delay a cold compressor has its alarm raised. -/
theorem not_delayLaw_cold :
    FaultManager.Activates { configuration := { alarmRules with highTemperatureDelaySeconds := 0 } }
        (.evaluate (stationAt 20) 1) (ascii "compressor_1") ∧
      ¬DelayLaw { alarmRules with highTemperatureDelaySeconds := 0 } (ascii "compressor_1") []
        (.evaluate (stationAt 20) 1) := by
  have hraised : FaultManager.Activates
      { configuration := { alarmRules with highTemperatureDelaySeconds := 0 } }
      (.evaluate (stationAt 20) 1) (ascii "compressor_1") := by decide +kernel
  refine ⟨hraised, fun hlaw => ?_⟩
  obtain ⟨-, hexceeds, -⟩ := hlaw.mp hraised
  exact absurd hexceeds (by decide +kernel)

end CrowPanel.Simulator
