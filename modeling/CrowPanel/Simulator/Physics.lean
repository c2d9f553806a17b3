import CrowPanel.Simulator.Faults
import CrowPanel.Library.Machine
import CrowPanel.Library.RateLimit
import Mathlib.Algebra.BigOperators.Group.List.Basic
import Mathlib.Algebra.Order.Ring.Rat
import Mathlib.Algebra.Order.Field.Rat

/-!
# The physical model of the station

The compressors of `compressor_logic.py` warm up, ramp their motor current and count their hours; the
station turns a demand profile into dispatch, receiver pressure, network pressure and power.

Quantities are rational numbers, so nothing is rounded.  The two sine values of the demand profile
are arguments of a step, which leaves their periods out.
-/

namespace CrowPanel.Simulator

open Library

/-! ## A compressor -/

/-- What `CompressorModel` reads of the configuration of a compressor. -/
structure CompressorConfiguration where
  identifier : Text
  displayName : Text
  dispatchStartPercent : ℚ
  ratedFlowM3h : ℚ
  ratedPowerKw : ℚ
  stoppedTemperatureC : ℚ
  runningTemperatureC : ℚ
  heatingRateCPerSecond : ℚ
  coolingRateCPerSecond : ℚ
  runningCurrentA : ℚ
  currentRampAPerSecond : ℚ
  deriving DecidableEq

/-- `CompressorState`, without the alarm flag that `FaultManager` keeps there. -/
structure CompressorState where
  temperatureCelsius : ℚ
  motorCurrentAmperes : ℚ
  runtimeHours : ℚ := 0
  isRunning : Bool := false
  deriving DecidableEq

/-- `CompressorModel` -/
structure CompressorModel where
  configuration : CompressorConfiguration
  manualRunCommand : Bool := false
  automaticMode : Bool := true
  state : CompressorState
  deriving DecidableEq

/-- `_move_toward` -/
def moveToward (currentValue targetValue maximumStep : ℚ) : ℚ :=
  if currentValue < targetValue then min (currentValue + maximumStep) targetValue
  else max (currentValue - maximumStep) targetValue

theorem moveToward_approaches {maximumStep : ℚ} (hstep : 0 ≤ maximumStep)
    (currentValue targetValue : ℚ) :
    Approaches maximumStep currentValue targetValue
      (moveToward currentValue targetValue maximumStep) := by
  unfold moveToward
  split
  · next hbelow => exact .up hstep hbelow.le
  · next habove => exact .down hstep (not_lt.mp habove)

namespace CompressorModel

/-- `CompressorModel.__init__` -/
def init (configuration : CompressorConfiguration) : CompressorModel where
  configuration := configuration
  state :=
    { temperatureCelsius := configuration.stoppedTemperatureC
      motorCurrentAmperes := 0 }

/-- Whether the compressor is to run, given what the dispatch asks for. -/
def shouldRun (compressor : CompressorModel) (automaticRunRequest : Bool) : Bool :=
  if compressor.automaticMode then automaticRunRequest else compressor.manualRunCommand

/-- `CompressorModel.update` -/
def update (compressor : CompressorModel) (automaticRunRequest : Bool) (elapsedSeconds : ℚ) :
    CompressorModel :=
  let configuration := compressor.configuration
  let shouldRun := compressor.shouldRun automaticRunRequest
  let targetTemperature :=
    if shouldRun then configuration.runningTemperatureC else configuration.stoppedTemperatureC
  let temperatureRate :=
    if shouldRun then configuration.heatingRateCPerSecond else configuration.coolingRateCPerSecond
  let targetCurrent := if shouldRun then configuration.runningCurrentA else 0
  { compressor with
    state :=
      { isRunning := shouldRun
        temperatureCelsius := moveToward compressor.state.temperatureCelsius targetTemperature
          (temperatureRate * elapsedSeconds)
        motorCurrentAmperes := moveToward compressor.state.motorCurrentAmperes targetCurrent
          (configuration.currentRampAPerSecond * elapsedSeconds)
        runtimeHours :=
          if shouldRun then compressor.state.runtimeHours + elapsedSeconds / 3600
          else compressor.state.runtimeHours } }

/-- `delivered_flow` -/
def deliveredFlow (compressor : CompressorModel) : ℚ :=
  if compressor.state.isRunning then compressor.configuration.ratedFlowM3h else 0

/-- `power_consumption` -/
def powerConsumption (compressor : CompressorModel) : ℚ :=
  if compressor.configuration.runningCurrentA ≤ 0 then 0
  else
    let loadFraction :=
      min (compressor.state.motorCurrentAmperes / compressor.configuration.runningCurrentA) 1
    compressor.configuration.ratedPowerKw * loadFraction

end CompressorModel

/-! ## The station -/

/-- What `StationModel` reads of the configuration of the station. -/
structure StationConfiguration where
  identifier : Text
  displayName : Text
  initialDemandM3h : ℚ
  maximumDemandM3h : ℚ
  initialReceiverPressureBar : ℚ
  minimumPressureBar : ℚ
  maximumPressureBar : ℚ
  pressureResponseBarPerM3hSecond : ℚ
  networkPressureDropBarPerM3h : ℚ
  networkPressureResponseBarPerSecond : ℚ
  demandBaseFraction : ℚ
  demandSlowWaveFraction : ℚ
  demandFastWaveFraction : ℚ
  deriving DecidableEq

/-- The configuration of the equipment, as far as the physical model reads it. -/
structure EquipmentConfiguration where
  station : StationConfiguration
  compressors : List CompressorConfiguration
  deriving DecidableEq

/-- `StationModel` -/
structure StationModel where
  configuration : StationConfiguration
  compressors : List CompressorModel
  elapsedSimulationSeconds : ℚ := 0
  airDemandM3h : ℚ
  receiverPressureBar : ℚ
  networkPressureBar : ℚ
  totalPowerKw : ℚ := 0
  dryerRunning : Bool := false
  deriving DecidableEq

namespace StationModel

/-- `StationModel.__init__` -/
def init (configuration : EquipmentConfiguration) : StationModel where
  configuration := configuration.station
  compressors := configuration.compressors.map CompressorModel.init
  airDemandM3h := configuration.station.initialDemandM3h
  receiverPressureBar := configuration.station.initialReceiverPressureBar
  networkPressureBar := configuration.station.initialReceiverPressureBar

/-- `_calculate_demand`, given the values of the two sines. -/
def calculateDemand (station : StationModel) (slowSine fastSine : ℚ) : ℚ :=
  let maximumDemand := station.configuration.maximumDemandM3h
  let slowWave := station.configuration.demandSlowWaveFraction * slowSine
  let fastWave := station.configuration.demandFastWaveFraction * fastSine
  min maximumDemand
    (max 0 (maximumDemand * (station.configuration.demandBaseFraction + slowWave + fastWave)))

/-- The pressure that the network of the station tends to. -/
def targetNetworkPressure (station : StationModel) : ℚ :=
  max 0 (station.receiverPressureBar -
    station.airDemandM3h * station.configuration.networkPressureDropBarPerM3h)

/-- `StationModel.update` -/
def update (station : StationModel) (elapsedSeconds slowSine fastSine : ℚ) : StationModel :=
  let configuration := station.configuration
  let station :=
    { station with
      elapsedSimulationSeconds := station.elapsedSimulationSeconds + elapsedSeconds }
  let station := { station with airDemandM3h := station.calculateDemand slowSine fastSine }
  let demandPercent := 100 * station.airDemandM3h / configuration.maximumDemandM3h
  let station :=
    { station with
      compressors := station.compressors.map fun compressor : CompressorModel =>
        compressor.update (compressor.configuration.dispatchStartPercent ≤ demandPercent)
          elapsedSeconds }
  let totalSupply := (station.compressors.map CompressorModel.deliveredFlow).sum
  let pressureChange :=
    (totalSupply - station.airDemandM3h) * configuration.pressureResponseBarPerM3hSecond
  let station :=
    { station with
      receiverPressureBar := min configuration.maximumPressureBar
        (max configuration.minimumPressureBar
          (station.receiverPressureBar + pressureChange * elapsedSeconds)) }
  let station :=
    { station with
      networkPressureBar := moveToward station.networkPressureBar station.targetNetworkPressure
        (configuration.networkPressureResponseBarPerSecond * elapsedSeconds) }
  { station with
    dryerRunning := station.compressors.any fun compressor => compressor.state.isRunning
    totalPowerKw := (station.compressors.map CompressorModel.powerConsumption).sum }

/-- What other parts of the simulator set of a compressor between two updates: its operating mode and
its manual command. -/
def operate (station : StationModel) (place : ℕ) (automaticMode manualRunCommand : Bool) :
    StationModel :=
  { station with
    compressors := station.compressors.modify place fun compressor =>
      { compressor with automaticMode, manualRunCommand } }

/-- What an update computes for the alarm rules. -/
def readings (station : StationModel) (elapsedSeconds slowSine fastSine : ℚ) : Readings :=
  let next := station.update elapsedSeconds slowSine fastSine
  let demandPercent := 100 * next.airDemandM3h / station.configuration.maximumDemandM3h
  { compressor := fun place =>
      match next.compressors[place]? with
      | none => {}
      | some compressor =>
          { automaticRequest := compressor.configuration.dispatchStartPercent ≤ demandPercent
            temperatureCelsius := compressor.state.temperatureCelsius
            motorCurrentAmperes := compressor.state.motorCurrentAmperes }
    receiverPressureBar := next.receiverPressureBar }

end StationModel

/-! ## What the alarm rules see -/

/-- A compressor of the alarm rules shows the state of one of the physical model. -/
structure Compressor.Shows (compressor : Compressor) (model : CompressorModel) : Prop where
  identifier : compressor.identifier = model.configuration.identifier
  displayName : compressor.displayName = model.configuration.displayName
  manualRunCommand : compressor.manualRunCommand = model.manualRunCommand
  automaticMode : compressor.automaticMode = model.automaticMode
  temperatureCelsius : compressor.temperatureCelsius = model.state.temperatureCelsius
  motorCurrentAmperes : compressor.motorCurrentAmperes = model.state.motorCurrentAmperes
  isRunning : compressor.isRunning = model.state.isRunning

structure Station.Shows (station : Station) (model : StationModel) : Prop where
  identifier : station.identifier = model.configuration.identifier
  displayName : station.displayName = model.configuration.displayName
  length : station.compressors.length = model.compressors.length
  compressor : ∀ {place : ℕ} {compressor : Compressor} {part : CompressorModel},
    station.compressors[place]? = some compressor → model.compressors[place]? = some part →
    compressor.Shows part
  receiverPressureBar : station.receiverPressureBar = model.receiverPressureBar

/-- The station that takes its readings from the physical model goes on showing it. -/
theorem Station.Shows.update {station : Station} {model : StationModel} (hshows : station.Shows model)
    (elapsedSeconds slowSine fastSine : ℚ) :
    (station.update (model.readings elapsedSeconds slowSine fastSine)).Shows
      (model.update elapsedSeconds slowSine fastSine) where
  identifier := hshows.identifier
  displayName := hshows.displayName
  length := by simpa [Station.update, StationModel.update] using hshows.length
  compressor := by
    intro place compressor part hcompressor hpart
    have hread : (model.update elapsedSeconds slowSine fastSine).compressors[place]? = some part :=
      hpart
    rw [Station.update, List.getElem?_mapIdx, Option.map_eq_some_iff] at hcompressor
    obtain ⟨before, hbefore, rfl⟩ := hcompressor
    rw [StationModel.update, List.getElem?_map, Option.map_eq_some_iff] at hpart
    obtain ⟨partBefore, hpartBefore, rfl⟩ := hpart
    have hshown := hshows.compressor hbefore hpartBefore
    have hrun : ∀ automaticRequest,
        (if before.automaticMode then automaticRequest else before.manualRunCommand) =
          partBefore.shouldRun automaticRequest := by
      intro automaticRequest
      rw [CompressorModel.shouldRun, hshown.automaticMode, hshown.manualRunCommand]
    constructor <;> simp only [Compressor.update, StationModel.readings, hread]
    · exact hshown.identifier
    · exact hshown.displayName
    · exact hshown.manualRunCommand
    · exact hshown.automaticMode
    · exact hrun _
  receiverPressureBar := rfl

end CrowPanel.Simulator
