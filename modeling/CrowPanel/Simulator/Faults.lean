import CrowPanel.OpcUa.NodeId
import Mathlib.Data.Rat.Defs
import Mathlib.Algebra.Order.Ring.Unbundled.Rat

/-!
# The faults of the simulated station

`FaultManager` latches the alarms of the compressors and of the station.  `evaluate` reports the ones
that have become active and `reset` clears them all; both return the transitions, which the simulator
emits as events later.

Measured quantities are rational numbers.  The physical model behind them is left out: what a cycle
computes for a compressor and for the receiver is an argument.  Texts are the bytes of their UTF-8
encoding.
-/

namespace CrowPanel.Simulator

open Library OpcUa

/-! ## The station -/

/-- `CompressorModel` with its `CompressorState`. -/
structure Compressor where
  identifier : Text
  displayName : Text
  manualRunCommand : Bool := false
  automaticMode : Bool := true
  sensorFaultCommand : Bool := false
  temperatureCelsius : ℚ := 0
  motorCurrentAmperes : ℚ := 0
  isRunning : Bool := false
  alarmActive : Bool := false
  deriving DecidableEq

/-- `StationModel` -/
structure Station where
  identifier : Text
  displayName : Text
  compressors : List Compressor
  receiverPressureBar : ℚ := 0
  deriving DecidableEq

/-- What the physical model computes for one compressor in a cycle. -/
structure CompressorReading where
  automaticRequest : Bool := false
  temperatureCelsius : ℚ := 0
  motorCurrentAmperes : ℚ := 0

/-- What the physical model computes in a cycle. -/
structure Readings where
  compressor : ℕ → CompressorReading := fun _ => {}
  receiverPressureBar : ℚ := 0

/-- `CompressorModel.update` -/
def Compressor.update (compressor : Compressor) (reading : CompressorReading) : Compressor :=
  let shouldRun :=
    if compressor.automaticMode then reading.automaticRequest else compressor.manualRunCommand
  { compressor with
    isRunning := shouldRun
    temperatureCelsius := reading.temperatureCelsius
    motorCurrentAmperes := reading.motorCurrentAmperes }

/-- `StationModel.update` -/
def Station.update (station : Station) (readings : Readings) : Station :=
  { station with
    compressors := station.compressors.mapIdx fun place compressor =>
      compressor.update (readings.compressor place)
    receiverPressureBar := readings.receiverPressureBar }

/-! ## Alarms -/

/-- `AlarmTransition` -/
structure AlarmTransition where
  sourceIdentifier : Text
  sourceName : Text
  alarmCode : Text
  message : Text
  severity : ℕ
  active : Bool
  deriving DecidableEq

/-- The source and the code of an alarm. -/
abbrev AlarmKey := Text × Text

def AlarmTransition.key (transition : AlarmTransition) : AlarmKey :=
  (transition.sourceIdentifier, transition.alarmCode)

/-- The alarm rules of the configuration. -/
structure AlarmConfiguration where
  highTemperatureC : ℚ
  highTemperatureDelaySeconds : ℚ
  highTemperatureSeverity : ℕ
  highPressureBar : ℚ
  highPressureSeverity : ℕ
  motorOverloadCurrentA : ℚ
  motorOverloadSeverity : ℕ
  sensorFaultSeverity : ℕ
  deriving DecidableEq

/-- The alarm rules of the simulator's configuration. -/
def alarmRules : AlarmConfiguration where
  highTemperatureC := 80
  highTemperatureDelaySeconds := 5
  highTemperatureSeverity := 700
  highPressureBar := 19 / 2
  highPressureSeverity := 800
  motorOverloadCurrentA := 30
  motorOverloadSeverity := 900
  sensorFaultSeverity := 600

/-- `FaultManager`; the dictionary of the active alarms is the list of its values. -/
structure FaultManager where
  configuration : AlarmConfiguration
  activeAlarms : List AlarmTransition := []
  highTemperatureDurations : Text → ℚ := fun _ => 0

/-- The nearest integer; of two, the even one. -/
def roundHalfEven (number : ℚ) : ℤ :=
  let below := number.floor
  let rest := number - below
  if rest < 1 / 2 then below
  else if 1 / 2 < rest then below + 1
  else if below % 2 = 0 then below else below + 1

/-- The format `.1f` -/
def oneDecimal (number : ℚ) : Text :=
  let tenths := (roundHalfEven (|number| * 10)).toNat
  (if number < 0 then ascii "-" else []) ++ printDigits 10 (tenths / 10) ++ ascii "." ++
    printDigits 10 (tenths % 10)

def highTemperature : Text := ascii "HIGH_TEMPERATURE"
def motorOverload : Text := ascii "MOTOR_OVERLOAD"
def sensorFault : Text := ascii "SENSOR_FAULT"
def highPressure : Text := ascii "HIGH_PRESSURE"

namespace FaultManager

/-- `has_alarm` -/
def hasAlarm (faults : FaultManager) (sourceIdentifier : Text) : Bool :=
  faults.activeAlarms.any fun alarm => alarm.sourceIdentifier = sourceIdentifier

/-- `_set_alarm`, for the transition that it makes when the condition holds. -/
def setAlarm (faults : FaultManager) (transition : AlarmTransition) (condition : Bool) :
    FaultManager × List AlarmTransition :=
  if condition && faults.activeAlarms.all fun alarm => alarm.key ≠ transition.key then
    ({ faults with activeAlarms := faults.activeAlarms ++ [transition] }, [transition])
  else (faults, [])

/-- The transition to an active alarm of a compressor. -/
def compressorAlarm (compressor : Compressor) (alarmCode message : Text) (severity : ℕ) :
    AlarmTransition where
  sourceIdentifier := compressor.identifier
  sourceName := compressor.displayName
  alarmCode := alarmCode
  message := message
  severity := severity
  active := true

/-- How long the temperature has been too high. -/
def timeTemperature (faults : FaultManager) (compressor : Compressor) (elapsedSeconds : ℚ) :
    FaultManager :=
  let duration :=
    if faults.configuration.highTemperatureC < compressor.temperatureCelsius then
      faults.highTemperatureDurations compressor.identifier + elapsedSeconds
    else 0
  { faults with
    highTemperatureDurations :=
      Function.update faults.highTemperatureDurations compressor.identifier duration }

/-- The pass of the loop in `evaluate` for one compressor. -/
def evaluateCompressor (faults : FaultManager) (compressor : Compressor) (elapsedSeconds : ℚ) :
    FaultManager × Compressor × List AlarmTransition :=
  let configuration := faults.configuration
  let faults := faults.timeTemperature compressor elapsedSeconds
  let (faults, temperature) := faults.setAlarm
    (compressorAlarm compressor highTemperature
      (ascii "Temperature exceeded " ++ oneDecimal configuration.highTemperatureC ++
        [0x20, 0xC2, 0xB0, 0x43])
      configuration.highTemperatureSeverity)
    (configuration.highTemperatureDelaySeconds ≤
      faults.highTemperatureDurations compressor.identifier)
  let (faults, overload) := faults.setAlarm
    (compressorAlarm compressor motorOverload
      (ascii "Motor current exceeded " ++ oneDecimal configuration.motorOverloadCurrentA ++
        ascii " A")
      configuration.motorOverloadSeverity)
    (configuration.motorOverloadCurrentA < compressor.motorCurrentAmperes)
  let (faults, sensor) := faults.setAlarm
    (compressorAlarm compressor sensorFault
      (ascii "Temperature and current sensor values are unreliable")
      configuration.sensorFaultSeverity)
    compressor.sensorFaultCommand
  (faults, { compressor with alarmActive := faults.hasAlarm compressor.identifier },
    temperature ++ overload ++ sensor)

/-- The loop in `evaluate` over the compressors. -/
def evaluateCompressors (faults : FaultManager) (elapsedSeconds : ℚ) :
    List Compressor → FaultManager × List Compressor × List AlarmTransition
  | [] => (faults, [], [])
  | compressor :: compressors =>
      let (faults, compressor, transitions) := faults.evaluateCompressor compressor elapsedSeconds
      let (faults, compressors, rest) := faults.evaluateCompressors elapsedSeconds compressors
      (faults, compressor :: compressors, transitions ++ rest)

/-- `evaluate` -/
def evaluate (faults : FaultManager) (station : Station) (elapsedSeconds : ℚ) :
    FaultManager × Station × List AlarmTransition :=
  let (faults, compressors, transitions) :=
    faults.evaluateCompressors elapsedSeconds station.compressors
  let configuration := faults.configuration
  let (faults, pressure) := faults.setAlarm
    { sourceIdentifier := station.identifier
      sourceName := station.displayName
      alarmCode := highPressure
      message := ascii "Receiver pressure exceeded " ++ oneDecimal configuration.highPressureBar ++
        ascii " bar"
      severity := configuration.highPressureSeverity
      active := true }
    (configuration.highPressureBar < station.receiverPressureBar)
  (faults, { station with compressors }, transitions ++ pressure)

/-- The transition by which `reset` clears an alarm. -/
def cleared (alarm : AlarmTransition) : AlarmTransition :=
  { alarm with message := ascii "Reset: " ++ alarm.message, severity := 0, active := false }

/-- `reset` -/
def reset (faults : FaultManager) (station : Station) :
    FaultManager × Station × List AlarmTransition :=
  ({ faults with activeAlarms := [], highTemperatureDurations := fun _ => 0 },
    { station with
      compressors := station.compressors.map fun compressor =>
        { compressor with alarmActive := false, sensorFaultCommand := false } },
    faults.activeAlarms.map cleared)

end FaultManager

/-- The message of the event that `emit_alarm_event` triggers. -/
def AlarmTransition.eventMessage (transition : AlarmTransition) : Text :=
  let stateText := if transition.active then ascii "ACTIVE" else ascii "CLEARED"
  ascii "[" ++ transition.alarmCode ++ ascii "] " ++ stateText ++ ascii ": " ++ transition.message

end CrowPanel.Simulator
