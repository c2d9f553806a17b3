import CrowPanel.Library.KeyedSlots
import CrowPanel.Simulator.Physics
import Mathlib.Algebra.Order.BigOperators.Group.List
import Mathlib.Tactic.Positivity
import Mathlib.Tactic.FieldSimp

/-!
# Bounds of the station model

However often the operating modes and the manual commands change, and however long the updates are
apart, the quantities of the station stay within the limits of its configuration and follow their
targets at the configured rates.

## Strategy

`WithinBounds` is the invariant: the configuration is kept, and every quantity has the limits that the
configuration gives it.  `update_withinBounds` proves that an update keeps it, one quantity at a time
and in the order in which the update computes them: the limits of the network pressure rest on those
of the demand and of the receiver pressure, the limits of the power on those of the currents.
-/

namespace CrowPanel.Simulator

open Library

/-! ## Sensible configurations -/

/-- A compressor with nonnegative rates and ratings that does not cool down by running. -/
structure CompressorConfiguration.Valid (configuration : CompressorConfiguration) : Prop where
  ratedFlow : 0 ≤ configuration.ratedFlowM3h
  ratedPower : 0 ≤ configuration.ratedPowerKw
  temperatures : configuration.stoppedTemperatureC ≤ configuration.runningTemperatureC
  heatingRate : 0 ≤ configuration.heatingRateCPerSecond
  coolingRate : 0 ≤ configuration.coolingRateCPerSecond
  runningCurrent : 0 < configuration.runningCurrentA
  currentRamp : 0 ≤ configuration.currentRampAPerSecond

/-- A station whose initial quantities are within its limits. -/
structure StationConfiguration.Valid (configuration : StationConfiguration) : Prop where
  maximumDemand : 0 < configuration.maximumDemandM3h
  initialDemand : configuration.initialDemandM3h ∈ Set.Icc 0 configuration.maximumDemandM3h
  minimumPressure : 0 ≤ configuration.minimumPressureBar
  pressures : configuration.minimumPressureBar ≤ configuration.maximumPressureBar
  initialPressure : configuration.initialReceiverPressureBar ∈
    Set.Icc configuration.minimumPressureBar configuration.maximumPressureBar
  pressureResponse : 0 ≤ configuration.pressureResponseBarPerM3hSecond
  networkPressureDrop : 0 ≤ configuration.networkPressureDropBarPerM3h
  networkPressureResponse : 0 ≤ configuration.networkPressureResponseBarPerSecond

structure EquipmentConfiguration.Valid (configuration : EquipmentConfiguration) : Prop where
  station : configuration.station.Valid
  compressors : ∀ compressor ∈ configuration.compressors, compressor.Valid

/-! ## Runs of the station -/

/-- What happens to the station model: an update, or a change of how a compressor is operated. -/
inductive StationEvent
  | update (elapsedSeconds slowSine fastSine : ℚ)
  | operate (place : ℕ) (automaticMode manualRunCommand : Bool)
  deriving DecidableEq

/-- Time does not run backwards, and a sine is between -1 and 1. -/
def StationEvent.Physical : StationEvent → Prop
  | .update elapsedSeconds slowSine fastSine =>
      0 ≤ elapsedSeconds ∧ slowSine ∈ Set.Icc (-1) 1 ∧ fastSine ∈ Set.Icc (-1) 1
  | .operate _ _ _ => True

/-- The runs of a station from its initial state. -/
def StationModel.machine (configuration : EquipmentConfiguration) :
    Machine StationModel StationEvent where
  start station := station = .init configuration
  step station
    | .update elapsedSeconds slowSine fastSine =>
        some (station.update elapsedSeconds slowSine fastSine)
    | .operate place automaticMode manualRunCommand =>
        some (station.operate place automaticMode manualRunCommand)

/-! ## What an update does -/

/-- A compressor before and after an update: temperature and current follow the targets of the state
that it runs in, and its hours count the time that it runs. -/
structure CompressorModel.Advances (elapsedSeconds : ℚ) (before after : CompressorModel) : Prop where
  temperature : Approaches
    ((if after.state.isRunning then before.configuration.heatingRateCPerSecond
      else before.configuration.coolingRateCPerSecond) * elapsedSeconds)
    before.state.temperatureCelsius
    (if after.state.isRunning then before.configuration.runningTemperatureC
      else before.configuration.stoppedTemperatureC)
    after.state.temperatureCelsius
  current : Approaches (before.configuration.currentRampAPerSecond * elapsedSeconds)
    before.state.motorCurrentAmperes
    (if after.state.isRunning then before.configuration.runningCurrentA else 0)
    after.state.motorCurrentAmperes
  runtime : after.state.runtimeHours =
    before.state.runtimeHours + if after.state.isRunning then elapsedSeconds / 3600 else 0
  runtime_le : before.state.runtimeHours ≤ after.state.runtimeHours

/-- A station before and after an update. -/
structure StationModel.Advances (elapsedSeconds : ℚ) (before after : StationModel) : Prop where
  compressors : List.Forall₂ (CompressorModel.Advances elapsedSeconds)
    before.compressors after.compressors
  networkPressure : Approaches
    (before.configuration.networkPressureResponseBarPerSecond * elapsedSeconds)
    before.networkPressureBar after.targetNetworkPressure after.networkPressureBar

namespace CompressorModel

/-- The limits of a compressor. -/
structure WithinBounds (compressor : CompressorModel) : Prop where
  temperature : compressor.state.temperatureCelsius ∈
    Set.Icc compressor.configuration.stoppedTemperatureC compressor.configuration.runningTemperatureC
  current : compressor.state.motorCurrentAmperes ∈ Set.Icc 0 compressor.configuration.runningCurrentA

variable {compressor : CompressorModel} {elapsedSeconds : ℚ} {automaticRunRequest : Bool}

theorem init_withinBounds {configuration : CompressorConfiguration} (hvalid : configuration.Valid) :
    (init configuration).WithinBounds where
  temperature := ⟨le_rfl, hvalid.temperatures⟩
  current := ⟨le_rfl, hvalid.runningCurrent.le⟩

theorem update_advances (hvalid : compressor.configuration.Valid) (helapsed : 0 ≤ elapsedSeconds) :
    Advances elapsedSeconds compressor (compressor.update automaticRunRequest elapsedSeconds) := by
  have hcurrent := mul_nonneg hvalid.currentRamp helapsed
  have hhours : 0 ≤ elapsedSeconds / 3600 := by positivity
  unfold update
  cases compressor.shouldRun automaticRunRequest with
  | true =>
      have hheating := mul_nonneg hvalid.heatingRate helapsed
      exact ⟨moveToward_approaches hheating _ _, moveToward_approaches hcurrent _ _, rfl,
        le_add_of_nonneg_right hhours⟩
  | false =>
      have hcooling := mul_nonneg hvalid.coolingRate helapsed
      exact ⟨moveToward_approaches hcooling _ _, moveToward_approaches hcurrent _ _,
        (add_zero _).symm, le_rfl⟩

/-- Whichever targets a compressor follows, they are within its limits. -/
theorem WithinBounds.update (hbounds : compressor.WithinBounds)
    (hvalid : compressor.configuration.Valid) (helapsed : 0 ≤ elapsedSeconds) :
    (compressor.update automaticRunRequest elapsedSeconds).WithinBounds := by
  have hadvances : Advances elapsedSeconds compressor
      (compressor.update automaticRunRequest elapsedSeconds) := update_advances hvalid helapsed
  refine ⟨hadvances.temperature.mem_Icc hbounds.temperature ?_,
    hadvances.current.mem_Icc hbounds.current ?_⟩
  · split
    · exact ⟨hvalid.temperatures, le_rfl⟩
    · exact ⟨le_rfl, hvalid.temperatures⟩
  · split
    · exact ⟨hvalid.runningCurrent.le, le_rfl⟩
    · exact ⟨le_rfl, hvalid.runningCurrent.le⟩

theorem WithinBounds.powerConsumption_mem (hbounds : compressor.WithinBounds)
    (hvalid : compressor.configuration.Valid) :
    compressor.powerConsumption ∈ Set.Icc 0 compressor.configuration.ratedPowerKw := by
  have hload : 0 ≤ min (compressor.state.motorCurrentAmperes /
      compressor.configuration.runningCurrentA) 1 :=
    le_min (div_nonneg hbounds.current.1 hvalid.runningCurrent.le) zero_le_one
  rw [powerConsumption, if_neg hvalid.runningCurrent.not_ge]
  exact ⟨mul_nonneg hvalid.ratedPower hload,
    mul_le_of_le_one_right hvalid.ratedPower (min_le_right _ _)⟩

end CompressorModel

namespace StationModel

/-- The limits of the station under a configuration that it keeps. -/
structure WithinBounds (configuration : EquipmentConfiguration) (station : StationModel) : Prop where
  configuration_eq : station.configuration = configuration.station
  compressors_eq : station.compressors.map CompressorModel.configuration = configuration.compressors
  compressors : ∀ compressor ∈ station.compressors, compressor.WithinBounds
  demand : station.airDemandM3h ∈ Set.Icc 0 configuration.station.maximumDemandM3h
  receiverPressure : station.receiverPressureBar ∈
    Set.Icc configuration.station.minimumPressureBar configuration.station.maximumPressureBar
  networkPressure : station.networkPressureBar ∈ Set.Icc 0 configuration.station.maximumPressureBar
  totalPower : station.totalPowerKw ∈
    Set.Icc 0 (configuration.compressors.map CompressorConfiguration.ratedPowerKw).sum

variable {configuration : EquipmentConfiguration} {station : StationModel}
  {elapsedSeconds slowSine fastSine : ℚ}

theorem WithinBounds.compressor_valid (hbounds : station.WithinBounds configuration)
    (hvalid : configuration.Valid) {compressor : CompressorModel}
    (hcompressor : compressor ∈ station.compressors) : compressor.configuration.Valid :=
  hvalid.compressors _ (hbounds.compressors_eq ▸ List.mem_map_of_mem hcompressor)

/-- Clamping to an interval that is not empty. -/
theorem clamp_mem_Icc {low high : ℚ} (hle : low ≤ high) (value : ℚ) :
    min high (max low value) ∈ Set.Icc low high :=
  ⟨le_min hle (le_max_left _ _), min_le_left _ _⟩

theorem init_withinBounds (hvalid : configuration.Valid) :
    (init configuration).WithinBounds configuration where
  configuration_eq := rfl
  compressors_eq := by
    rw [init, List.map_map]
    exact List.map_id _
  compressors := by
    intro compressor hcompressor
    obtain ⟨item, hitem, rfl⟩ := List.mem_map.mp hcompressor
    exact CompressorModel.init_withinBounds (hvalid.compressors item hitem)
  demand := hvalid.station.initialDemand
  receiverPressure := hvalid.station.initialPressure
  networkPressure := ⟨hvalid.station.minimumPressure.trans hvalid.station.initialPressure.1,
    hvalid.station.initialPressure.2⟩
  totalPower := by
    refine ⟨le_rfl, List.sum_nonneg fun power hpower => ?_⟩
    obtain ⟨item, hitem, rfl⟩ := List.mem_map.mp hpower
    exact (hvalid.compressors item hitem).ratedPower

/-! ## One update -/

section Update

variable (hvalid : configuration.Valid) (hbounds : station.WithinBounds configuration)
  (helapsed : 0 ≤ elapsedSeconds)
include hvalid hbounds helapsed

theorem WithinBounds.update_advances :
    Advances elapsedSeconds station (station.update elapsedSeconds slowSine fastSine) where
  compressors := List.forall₂_map_right_iff.mpr (List.forall₂_same.mpr fun _ hcompressor =>
    CompressorModel.update_advances (hbounds.compressor_valid hvalid hcompressor) helapsed)
  networkPressure := by
    have hresponse : 0 ≤ station.configuration.networkPressureResponseBarPerSecond := by
      rw [hbounds.configuration_eq]
      exact hvalid.station.networkPressureResponse
    exact moveToward_approaches (mul_nonneg hresponse helapsed) _ _

/-- The compressors of an updated station are updated compressors. -/
theorem WithinBounds.update_compressors {compressor : CompressorModel}
    (hcompressor : compressor ∈
      (station.update elapsedSeconds slowSine fastSine).compressors) :
    compressor.WithinBounds ∧ compressor.configuration.Valid := by
  obtain ⟨before, hbefore, rfl⟩ := List.mem_map.mp hcompressor
  have hbeforeValid := hbounds.compressor_valid hvalid hbefore
  exact ⟨(hbounds.compressors before hbefore).update hbeforeValid helapsed, hbeforeValid⟩

theorem WithinBounds.update : (station.update elapsedSeconds slowSine fastSine).WithinBounds
    configuration := by
  have hcompressors : (station.update elapsedSeconds slowSine fastSine).compressors.map
      CompressorModel.configuration = configuration.compressors := by
    rw [← hbounds.compressors_eq]
    simp only [StationModel.update, List.map_map]
    rfl
  have hdemand : (station.update elapsedSeconds slowSine fastSine).airDemandM3h ∈
      Set.Icc 0 configuration.station.maximumDemandM3h := by
    rw [← hbounds.configuration_eq]
    exact clamp_mem_Icc (hbounds.configuration_eq ▸ hvalid.station.maximumDemand.le) _
  have hreceiver : (station.update elapsedSeconds slowSine fastSine).receiverPressureBar ∈
      Set.Icc configuration.station.minimumPressureBar
        configuration.station.maximumPressureBar := by
    rw [← hbounds.configuration_eq]
    exact clamp_mem_Icc (hbounds.configuration_eq ▸ hvalid.station.pressures) _
  have htarget : (station.update elapsedSeconds slowSine fastSine).targetNetworkPressure ∈
      Set.Icc 0 configuration.station.maximumPressureBar := by
    have hdrop : 0 ≤ (station.update elapsedSeconds slowSine fastSine).airDemandM3h *
        station.configuration.networkPressureDropBarPerM3h :=
      mul_nonneg hdemand.1 (hbounds.configuration_eq ▸ hvalid.station.networkPressureDrop)
    exact ⟨le_max_left _ _, max_le
      (hvalid.station.minimumPressure.trans hvalid.station.pressures)
      ((sub_le_self _ hdrop).trans hreceiver.2)⟩
  have hpower {compressor : CompressorModel} (hcompressor : compressor ∈
      (station.update elapsedSeconds slowSine fastSine).compressors) :
      compressor.powerConsumption ∈ Set.Icc 0 compressor.configuration.ratedPowerKw := by
    obtain ⟨hwithin, hcompressorValid⟩ := hbounds.update_compressors hvalid helapsed hcompressor
    exact hwithin.powerConsumption_mem hcompressorValid
  refine ⟨hbounds.configuration_eq, hcompressors,
    fun _ hcompressor => (hbounds.update_compressors hvalid helapsed hcompressor).1, hdemand,
    hreceiver, (hbounds.update_advances hvalid helapsed).networkPressure.mem_Icc
      hbounds.networkPressure htarget, ?_, ?_⟩
  · exact List.sum_nonneg (List.forall_mem_map.mpr fun _ hcompressor => (hpower hcompressor).1)
  · rw [← hcompressors, List.map_map]
    exact List.sum_le_sum fun _ hcompressor => (hpower hcompressor).2

end Update

/-- How a compressor is operated is part of neither its configuration nor its state. -/
theorem operate_parts (place : ℕ) (automaticMode manualRunCommand : Bool) :
    (station.operate place automaticMode manualRunCommand).compressors.map
        (fun compressor => (compressor.configuration, compressor.state)) =
      station.compressors.map fun compressor => (compressor.configuration, compressor.state) := by
  refine KeyedSlots.map_modify (fun compressor => ?_) station.compressors place
  rfl

theorem WithinBounds.operate (hbounds : station.WithinBounds configuration) (place : ℕ)
    (automaticMode manualRunCommand : Bool) :
    (station.operate place automaticMode manualRunCommand).WithinBounds configuration where
  configuration_eq := hbounds.configuration_eq
  compressors_eq := by
    have hsame := congrArg (List.map Prod.fst)
      (@operate_parts station place automaticMode manualRunCommand)
    rw [← hbounds.compressors_eq]
    simpa only [List.map_map, Function.comp_def] using hsame
  compressors := by
    intro compressor hcompressor
    have hparts : (compressor.configuration, compressor.state) ∈
        (station.operate place automaticMode manualRunCommand).compressors.map
          fun compressor => (compressor.configuration, compressor.state) :=
      List.mem_map_of_mem hcompressor
    rw [operate_parts] at hparts
    obtain ⟨before, hbefore, heq⟩ := List.mem_map.mp hparts
    obtain ⟨hconfiguration, hstate⟩ := Prod.mk.inj heq
    have hwithin := hbounds.compressors before hbefore
    exact ⟨hconfiguration ▸ hstate ▸ hwithin.temperature, hconfiguration ▸ hstate ▸ hwithin.current⟩
  demand := hbounds.demand
  receiverPressure := hbounds.receiverPressure
  networkPressure := hbounds.networkPressure
  totalPower := hbounds.totalPower

/-! ## Runs -/

/-- In every run of a station with a sensible configuration all quantities stay within their limits,
and every update moves them towards their targets at the configured rates. -/
theorem reached_withinBounds (hvalid : configuration.Valid)
    (hreached : (machine configuration).ReachedBy (fun _ event => event.Physical) station) :
    station.WithinBounds configuration ∧
      ∀ elapsedSeconds slowSine fastSine,
        (StationEvent.update elapsedSeconds slowSine fastSine).Physical →
        Advances elapsedSeconds station (station.update elapsedSeconds slowSine fastSine) := by
  have hbounds : station.WithinBounds configuration := by
    refine hreached.invariant (fun first hfirst => ?_) fun before event next _ hbefore hok hstep => ?_
    · obtain rfl : first = .init configuration := hfirst
      exact init_withinBounds hvalid
    · cases event with
      | update elapsedSeconds slowSine fastSine =>
          obtain rfl := Option.some.inj hstep
          exact hbefore.update hvalid hok.1
      | operate place automaticMode manualRunCommand =>
          obtain rfl := Option.some.inj hstep
          exact hbefore.operate place automaticMode manualRunCommand
  exact ⟨hbounds, fun _ _ _ hphysical => hbounds.update_advances hvalid hphysical.1⟩

/-! ## The simulated station -/

/-- The compressors of the simulator's configuration, which differ in when they are dispatched. -/
def compressorDefaults (identifier displayName : String) (dispatchStartPercent : ℚ) :
    CompressorConfiguration where
  identifier := ascii identifier
  displayName := ascii displayName
  dispatchStartPercent := dispatchStartPercent
  ratedFlowM3h := 38
  ratedPowerKw := 15
  stoppedTemperatureC := 25
  runningTemperatureC := 80
  heatingRateCPerSecond := 35 / 100
  coolingRateCPerSecond := 20 / 100
  runningCurrentA := 20
  currentRampAPerSecond := 6

/-- The simulator's configuration. -/
def equipment : EquipmentConfiguration where
  station :=
    { identifier := ascii "compressed_air_station"
      displayName := ascii "Compressed Air Station"
      initialDemandM3h := 20
      maximumDemandM3h := 100
      initialReceiverPressureBar := 75 / 10
      minimumPressureBar := 0
      maximumPressureBar := 10
      pressureResponseBarPerM3hSecond := 45 / 100000
      networkPressureDropBarPerM3h := 2 / 1000
      networkPressureResponseBarPerSecond := 5 / 10
      demandBaseFraction := 50 / 100
      demandSlowWaveFraction := 38 / 100
      demandFastWaveFraction := 10 / 100 }
  compressors :=
    [compressorDefaults "compressor_1" "Compressor 1" 0,
      compressorDefaults "compressor_2" "Compressor 2" 30,
      compressorDefaults "compressor_3" "Compressor 3" (600001 / 10000)]

theorem compressorDefaults_valid (identifier displayName : String) (dispatchStartPercent : ℚ) :
    (compressorDefaults identifier displayName dispatchStartPercent).Valid := by
  constructor <;> simp only [compressorDefaults] <;> norm_num

theorem equipment_valid : equipment.Valid where
  station := by constructor <;> simp only [equipment, Set.mem_Icc] <;> norm_num
  compressors := by
    simp only [equipment, List.forall_mem_cons]
    exact ⟨compressorDefaults_valid _ _ _, compressorDefaults_valid _ _ _,
      compressorDefaults_valid _ _ _, by simp⟩

/-- The second compressor is stopped by hand between two updates. -/
def stoppedByHand : StationModel :=
  ((((init equipment).update 1 (1 / 2) 0).operate 1 false false).update (1 / 2) 1 (-1))

theorem reached_withinBounds_stoppedByHand : stoppedByHand.WithinBounds equipment ∧
    ∀ elapsedSeconds slowSine fastSine,
      (StationEvent.update elapsedSeconds slowSine fastSine).Physical →
      Advances elapsedSeconds stoppedByHand
        (stoppedByHand.update elapsedSeconds slowSine fastSine) := by
  have hfirst : (StationEvent.update 1 (1 / 2) 0).Physical := by
    refine ⟨?_, ⟨?_, ?_⟩, ?_, ?_⟩ <;> norm_num
  have hsecond : (StationEvent.update (1 / 2) 1 (-1)).Physical := by
    refine ⟨?_, ⟨?_, ?_⟩, ?_, ?_⟩ <;> norm_num
  exact reached_withinBounds equipment_valid
    (.step (.step (.step (.start rfl) hfirst rfl)
      (show (StationEvent.operate 1 false false).Physical from trivial) rfl) hsecond rfl)

end StationModel

end CrowPanel.Simulator
