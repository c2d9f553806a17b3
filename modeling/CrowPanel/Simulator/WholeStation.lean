import CrowPanel.Simulator.AlarmEdges
import CrowPanel.Simulator.PhysicsBounds

/-!
# The whole simulator

The cycle of `run_simulator` with the physical model behind it and with the variables that `publish`
writes.  The alarm rules and the physical model know different sides of one station, so it has two
records here; they agree wherever both know something.

## Strategy

A step of the whole is a step of the cycle that takes its readings from the physical model
(`step_simulation`), and the physical model makes a step of its own or none (`step_model`).  So whatever
is known of the two parts holds in every run of the whole, and so does their agreement (`station_shows`).
-/

namespace CrowPanel.Simulator

open Library OpcUa

/-- A variable that `publish` writes. -/
inductive PublishedVariable where
  | compressor (place : ℕ) (signal : Signal)
  | station (signal : StationSignal)
  deriving DecidableEq

/-- The action that writes a variable. -/
def PublishedVariable.publication : PublishedVariable → Action
  | .compressor place signal => .publish place signal
  | .station signal => .publishStation signal

/-- `uniform`, for a draw between 0 and 1 -/
def uniform (low high draw : ℚ) : ℚ :=
  low + (high - low) * draw

/-- `displayed_temperature` -/
def displayedTemperature (compressor : Compressor) (draw : ℚ) : ℚ :=
  if compressor.sensorFaultCommand then uniform (-40) 180 draw else compressor.temperatureCelsius

/-- `displayed_current` -/
def displayedCurrent (compressor : Compressor) (draw : ℚ) : ℚ :=
  if compressor.sensorFaultCommand then uniform (-10) 60 draw else compressor.motorCurrentAmperes

/-- The simulator with the physical model and the values of the published variables. -/
structure WholeSimulation where
  simulation : Simulation
  model : StationModel
  values : PublishedVariable → Variant

/-- What happens in the whole simulator; an action comes with the two sines of the demand profile and
with a number of the random generator. -/
inductive WholeEvent where
  | beginCycle
  | act (slowSine fastSine draw : ℚ)
  | write (write : ClientWrite)

/-- Sines and random numbers are where they belong, and time does not run backwards. -/
def WholeEvent.Physical (updateInterval : ℚ) : WholeEvent → Prop
  | .act slowSine fastSine draw =>
      0 ≤ updateInterval ∧ slowSine ∈ Set.Icc (-1) 1 ∧ fastSine ∈ Set.Icc (-1) 1 ∧
        draw ∈ Set.Icc 0 1
  | .beginCycle | .write _ => True

instance (updateInterval : ℚ) : ∀ event, Decidable (WholeEvent.Physical updateInterval event)
  | .act _ _ _ => inferInstanceAs (Decidable (_ ∧ _ ∧ _ ∧ _))
  | .beginCycle | .write _ => inferInstanceAs (Decidable True)

/-- The station as the alarm rules see it before the first cycle. -/
def StationModel.station (model : StationModel) : Station where
  identifier := model.configuration.identifier
  displayName := model.configuration.displayName
  compressors := model.compressors.map fun part =>
    { identifier := part.configuration.identifier
      displayName := part.configuration.displayName
      manualRunCommand := part.manualRunCommand
      automaticMode := part.automaticMode
      temperatureCelsius := part.state.temperatureCelsius
      motorCurrentAmperes := part.state.motorCurrentAmperes
      isRunning := part.state.isRunning }
  receiverPressureBar := model.receiverPressureBar

theorem StationModel.station_shows (model : StationModel) : model.station.Shows model where
  identifier := rfl
  displayName := rfl
  length := List.length_map _
  compressor := by
    intro place compressor part hcompressor hpart
    simp only [station, List.getElem?_map, hpart, Option.map_some, Option.some_inj] at hcompressor
    rw [← hcompressor]
    exact ⟨rfl, rfl, rfl, rfl, rfl, rfl, rfl⟩
  receiverPressureBar := rfl

/-- A number as a `Float` of OPC UA, without its rounding. -/
def floatVariant (number : ℚ) : Variant :=
  .float (.finite number)

/-- The physical model takes over how a compressor is operated. -/
def StationModel.commanded (model : StationModel) (station : Station) (place : ℕ) : StationModel :=
  match station.compressors[place]? with
  | none => model
  | some compressor => model.operate place compressor.automaticMode compressor.manualRunCommand

namespace WholeSimulation

/-- What `publish` writes into a variable of a compressor, if anything. -/
def signalValue (compressor : Compressor) (part : CompressorModel) (draw : ℚ) :
    Signal → Option Variant
  | .temperature => some (floatVariant (displayedTemperature compressor draw))
  | .motorCurrent => some (floatVariant (displayedCurrent compressor draw))
  | .runtime => some (floatVariant part.state.runtimeHours)
  | .runStatus => some (.boolean compressor.isRunning)
  | .runCommand => if compressor.automaticMode then some (.boolean compressor.isRunning) else none
  | .alarmStatus => some (.boolean compressor.alarmActive)

/-- What `publish` writes into a variable of the station. -/
def stationValue (model : StationModel) : StationSignal → Variant
  | .receiverPressure => floatVariant model.receiverPressureBar
  | .dryerStatus => .boolean model.dryerRunning
  | .networkPressure => floatVariant model.networkPressureBar
  | .airDemand => floatVariant model.airDemandM3h
  | .totalPower => floatVariant model.totalPowerKw

/-- What `publish` writes into a variable, if anything. -/
def published (whole : WholeSimulation) (draw : ℚ) : PublishedVariable → Option Variant
  | .compressor place signal => do
      let compressor ← whole.simulation.station.compressors[place]?
      let part ← whole.model.compressors[place]?
      signalValue compressor part draw signal
  | .station signal => some (stationValue whole.model signal)

/-- The variables after something was written into one of them, or nothing. -/
def writeValue (values : PublishedVariable → Variant) (target : PublishedVariable)
    (value : Option Variant) : PublishedVariable → Variant :=
  value.elim values (Function.update values target)

/-- The physical model after an action that leads to `station`. -/
def modelAfter (whole : WholeSimulation) (station : Station) (slowSine fastSine : ℚ) :
    Action → StationModel
  | .readAutomaticMode place | .readRunCommand place => whole.model.commanded station place
  | .update => whole.model.update whole.simulation.updateInterval slowSine fastSine
  | _ => whole.model

/-- The published variables after an action. -/
def valuesAfter (whole : WholeSimulation) (draw : ℚ) : Action → PublishedVariable → Variant
  | .publish place signal =>
      writeValue whole.values (.compressor place signal)
        (whole.published draw (.compressor place signal))
  | .publishStation signal =>
      writeValue whole.values (.station signal) (whole.published draw (.station signal))
  | _ => whole.values

/-- The published variables after a client's write. -/
def valuesWritten (values : PublishedVariable → Variant) : ClientWrite → PublishedVariable → Variant
  | .runCommand place value => Function.update values (.compressor place .runCommand) (.boolean value)
  | .automaticMode _ _ | .sensorFaultCommand _ _ | .resetAlarms _ => values

def step (whole : WholeSimulation) : WholeEvent → Option WholeSimulation
  | .beginCycle =>
      (whole.simulation.step .beginCycle).map fun simulation => { whole with simulation }
  | .act slowSine fastSine draw =>
      match whole.simulation.todo with
      | [] => none
      | action :: rest =>
          let readings := whole.model.readings whole.simulation.updateInterval slowSine fastSine
          let simulation := whole.simulation.act readings rest action
          some
            { simulation
              model := whole.modelAfter simulation.station slowSine fastSine action
              values := whole.valuesAfter draw action }
  | .write write =>
      some
        { whole with
          simulation := whole.simulation.clientWrite write
          values := valuesWritten whole.values write }

/-- The simulator as it starts with a configuration; the variables hold what the configuration gives
them. -/
structure Starts (configuration : EquipmentConfiguration) (whole : WholeSimulation) : Prop where
  initial : whole.simulation.Initial
  cycles : whole.simulation.cycles = 0
  model : whole.model = .init configuration
  shows : whole.simulation.station.Shows whole.model

def machine (configuration : EquipmentConfiguration) : Machine WholeSimulation WholeEvent where
  start := Starts configuration
  step := step

/-- The simulator before its first cycle, with variables that hold the given values. -/
def init (configuration : EquipmentConfiguration) (rules : AlarmConfiguration) (updateInterval : ℚ)
    (values : PublishedVariable → Variant) : WholeSimulation where
  simulation :=
    { station := (StationModel.init configuration).station
      faults := { configuration := rules }
      updateInterval
      compressorNodes := configuration.compressors.map fun _ => {} }
  model := .init configuration
  values

theorem init_starts (configuration : EquipmentConfiguration) (rules : AlarmConfiguration)
    (updateInterval : ℚ) (values : PublishedVariable → Variant) :
    Starts configuration (init configuration rules updateInterval values) where
  initial :=
    { idle := rfl
      noAlarms := rfl
      nodes := by simp [init, StationModel.station, StationModel.init] }
  cycles := rfl
  model := rfl
  shows := StationModel.station_shows _

/-- The events of a run are physical. -/
def Physical (whole : WholeSimulation) (event : WholeEvent) : Prop :=
  event.Physical whole.simulation.updateInterval

instance (whole : WholeSimulation) (event : WholeEvent) : Decidable (whole.Physical event) :=
  inferInstanceAs (Decidable (WholeEvent.Physical _ _))

variable {configuration : EquipmentConfiguration} {whole next : WholeSimulation} {event : WholeEvent}

/-! ## The parts of a step -/

/-- The event of the cycle. -/
def cycleEvent (whole : WholeSimulation) : WholeEvent → CycleEvent
  | .beginCycle => .beginCycle
  | .act slowSine fastSine _ =>
      .act (whole.model.readings whole.simulation.updateInterval slowSine fastSine)
  | .write write => .write write

theorem step_simulation (hstep : whole.step event = some next) :
    whole.simulation.step (whole.cycleEvent event) = some next.simulation := by
  cases event with
  | beginCycle =>
      obtain ⟨simulation, hsimulation, rfl⟩ := Option.map_eq_some_iff.mp hstep
      exact hsimulation
  | act slowSine fastSine draw =>
      simp only [step] at hstep
      split at hstep
      · cases hstep
      · next action rest htodo =>
          obtain rfl := Option.some.inj hstep
          rw [cycleEvent, Simulation.step, htodo]
  | write write =>
      obtain rfl := Option.some.inj hstep
      rfl

/-- An action of the cycle takes its readings from the physical model. -/
theorem step_act {slowSine fastSine draw : ℚ}
    (hstep : whole.step (.act slowSine fastSine draw) = some next) :
    ∃ action rest, whole.simulation.todo = action :: rest ∧
      next.simulation = whole.simulation.act
        (whole.model.readings whole.simulation.updateInterval slowSine fastSine) rest action ∧
      next.model = whole.modelAfter next.simulation.station slowSine fastSine action ∧
      next.values = whole.valuesAfter draw action := by
  simp only [step] at hstep
  split at hstep
  · cases hstep
  · next action rest htodo =>
      obtain rfl := Option.some.inj hstep
      exact ⟨action, rest, htodo, rfl, rfl, rfl⟩

/-- What a step does to the physical model. -/
inductive ModelCourse (whole next : WholeSimulation) : WholeEvent → Prop
  | kept {event : WholeEvent} (model : next.model = whole.model) : ModelCourse whole next event
  | operated {event : WholeEvent} (place : ℕ) (automaticMode manualRunCommand : Bool)
      (model : next.model = whole.model.operate place automaticMode manualRunCommand) :
      ModelCourse whole next event
  | updated (slowSine fastSine draw : ℚ)
      (model : next.model = whole.model.update whole.simulation.updateInterval slowSine fastSine) :
      ModelCourse whole next (.act slowSine fastSine draw)

theorem step_model (hstep : whole.step event = some next) : ModelCourse whole next event := by
  cases event with
  | beginCycle =>
      obtain ⟨simulation, -, rfl⟩ := Option.map_eq_some_iff.mp hstep
      exact .kept rfl
  | act slowSine fastSine draw =>
      simp only [step] at hstep
      split at hstep
      · cases hstep
      · next action rest htodo =>
          obtain rfl := Option.some.inj hstep
          have hcommanded : ∀ (station : Station) (place : ℕ),
              whole.model.commanded station place = whole.model ∨
              ∃ automaticMode manualRunCommand, whole.model.commanded station place =
                whole.model.operate place automaticMode manualRunCommand := by
            intro station place
            unfold StationModel.commanded
            split
            · exact .inl rfl
            · exact .inr ⟨_, _, rfl⟩
          cases action with
          | readAutomaticMode place | readRunCommand place =>
              rcases hcommanded _ place with hkept | ⟨automaticMode, manualRunCommand, hoperated⟩
              · exact .kept hkept
              · exact .operated place automaticMode manualRunCommand hoperated
          | update => exact .updated slowSine fastSine draw rfl
          | _ => exact .kept rfl
  | write write =>
      obtain rfl := Option.some.inj hstep
      exact .kept rfl

/-! ## The parts of a run -/

theorem simulation_reachable {ok : WholeSimulation → WholeEvent → Prop}
    (hreached : (machine configuration).ReachedBy ok whole) :
    Simulation.machine.Reachable whole.simulation := by
  induction hreached with
  | start hstart => exact .start hstart.initial
  | step _ _ hstep ih => exact .step ih trivial (step_simulation hstep)

theorem model_reached (hreached : (machine configuration).ReachedBy Physical whole) :
    (StationModel.machine configuration).ReachedBy (fun _ event => event.Physical) whole.model := by
  induction hreached with
  | start hstart => exact .start hstart.model
  | @step whole next event _ hphysical hstep ih =>
      cases step_model hstep with
      | kept hmodel => rwa [hmodel]
      | operated place automaticMode manualRunCommand hmodel =>
          have hok : (StationEvent.operate place automaticMode manualRunCommand).Physical := trivial
          exact hmodel ▸ .step ih hok rfl
      | updated slowSine fastSine draw hmodel =>
          obtain ⟨hinterval, hslow, hfast, -⟩ := hphysical
          have hok : (StationEvent.update whole.simulation.updateInterval slowSine fastSine).Physical :=
            ⟨hinterval, hslow, hfast⟩
          exact hmodel ▸ .step ih hok rfl

end WholeSimulation

/-! ## The two records of the station -/

section Records

variable {station after : Station} {model : StationModel}

/-- What the physical model knows of a compressor. -/
def Compressor.part (compressor : Compressor) : Compressor :=
  { compressor with sensorFaultCommand := false, alarmActive := false }

theorem Compressor.Shows.of_part {compressor other : Compressor} {part : CompressorModel}
    (hshows : compressor.Shows part) (hpart : other.part = compressor.part) : other.Shows part := by
  injection hpart with hidentifier hname hmanual hmode _ htemperature hcurrent hrunning
  exact ⟨hidentifier.trans hshows.identifier, hname.trans hshows.displayName,
    hmanual.trans hshows.manualRunCommand, hmode.trans hshows.automaticMode,
    htemperature.trans hshows.temperatureCelsius, hcurrent.trans hshows.motorCurrentAmperes,
    hrunning.trans hshows.isRunning⟩

/-- A station with other faults and alarms. -/
theorem Station.Shows.of_parts (hshows : station.Shows model)
    (hparts : after.compressors.map Compressor.part = station.compressors.map Compressor.part)
    (hidentifier : after.identifier = station.identifier)
    (hname : after.displayName = station.displayName)
    (hpressure : after.receiverPressureBar = station.receiverPressureBar) : after.Shows model where
  identifier := hidentifier.trans hshows.identifier
  displayName := hname.trans hshows.displayName
  length := by
    have hlength := congrArg List.length hparts
    rw [List.length_map, List.length_map] at hlength
    exact hlength.trans hshows.length
  compressor := by
    intro place compressor part hcompressor hpart
    have hat := congrArg (fun parts => parts[place]?) hparts
    simp only [List.getElem?_map, hcompressor, Option.map_some] at hat
    obtain ⟨before, hbefore, hsame⟩ := Option.map_eq_some_iff.mp hat.symm
    exact (hshows.compressor hbefore hpart).of_part hsame.symm
  receiverPressureBar := hpressure.trans hshows.receiverPressureBar

theorem FaultManager.evaluateCompressors_parts (faults : FaultManager) (elapsedSeconds : ℚ)
    (compressors : List Compressor) :
    (faults.evaluateCompressors elapsedSeconds compressors).2.1.map Compressor.part =
      compressors.map Compressor.part := by
  induction compressors generalizing faults with
  | nil => rfl
  | cons compressor compressors ih =>
      have hrest := ih (faults.evaluateCompressor compressor elapsedSeconds).1
      have hfirst : (faults.evaluateCompressor compressor elapsedSeconds).2.1.part = compressor.part :=
        rfl
      exact congrArg₂ List.cons hfirst hrest

theorem Station.Shows.evaluate (hshows : station.Shows model) (faults : FaultManager)
    (elapsedSeconds : ℚ) : (faults.evaluate station elapsedSeconds).2.1.Shows model :=
  hshows.of_parts (faults.evaluateCompressors_parts elapsedSeconds station.compressors) rfl rfl rfl

theorem Station.Shows.reset (hshows : station.Shows model) (faults : FaultManager) :
    (faults.reset station).2.1.Shows model := by
  refine hshows.of_parts ?_ rfl rfl rfl
  rw [FaultManager.reset, List.map_map]
  rfl

/-- A compressor is operated in another way, and the physical model takes it over. -/
theorem Station.Shows.commanded (hshows : station.Shows model) (place : ℕ)
    {change : Compressor → Compressor}
    (hchange : ∀ compressor : Compressor,
      { change compressor with
        automaticMode := compressor.automaticMode
        manualRunCommand := compressor.manualRunCommand } = compressor) :
    let after := { station with compressors := station.compressors.modify place change }
    after.Shows (model.commanded after place) := by
  intro after
  have hother : ∀ {other : ℕ}, place ≠ other →
      after.compressors[other]? = station.compressors[other]? ∧
        (model.commanded after place).compressors[other]? = model.compressors[other]? := by
    intro other hne
    refine ⟨List.getElem?_modify_ne _ _ hne, ?_⟩
    unfold StationModel.commanded
    split
    · rfl
    · exact List.getElem?_modify_ne _ _ hne
  have hlength : (model.commanded after place).compressors.length = model.compressors.length := by
    unfold StationModel.commanded
    split
    · rfl
    · exact List.length_modify _ _ _
  have hkept : (model.commanded after place).configuration = model.configuration ∧
      (model.commanded after place).receiverPressureBar = model.receiverPressureBar := by
    unfold StationModel.commanded
    split
    · exact ⟨rfl, rfl⟩
    · exact ⟨rfl, rfl⟩
  refine ⟨?_, ?_, ?_, ?_, ?_⟩
  · rw [hkept.1]
    exact hshows.identifier
  · rw [hkept.1]
    exact hshows.displayName
  · rw [hlength]
    exact (List.length_modify _ _ _).trans hshows.length
  · intro other compressor part hcompressor hpart
    by_cases hplace : place = other
    · subst hplace
      have hchanged : after.compressors[place]? = (station.compressors[place]?).map change :=
        List.getElem?_modify_eq _ _ _
      obtain ⟨before, hbefore, rfl⟩ := Option.map_eq_some_iff.mp (hchanged ▸ hcompressor)
      rw [StationModel.commanded, hcompressor] at hpart
      have hpartChanged := List.getElem?_modify_eq (fun compressor : CompressorModel =>
        { compressor with
          automaticMode := (change before).automaticMode
          manualRunCommand := (change before).manualRunCommand }) place model.compressors
      obtain ⟨partBefore, hpartBefore, rfl⟩ := Option.map_eq_some_iff.mp (hpartChanged ▸ hpart)
      have hshown := hshows.compressor hbefore hpartBefore
      have hsame := hchange before
      exact ⟨(congrArg Compressor.identifier hsame).trans hshown.identifier,
        (congrArg Compressor.displayName hsame).trans hshown.displayName, rfl, rfl,
        (congrArg Compressor.temperatureCelsius hsame).trans hshown.temperatureCelsius,
        (congrArg Compressor.motorCurrentAmperes hsame).trans hshown.motorCurrentAmperes,
        (congrArg Compressor.isRunning hsame).trans hshown.isRunning⟩
    · obtain ⟨hsame, hsamePart⟩ := hother hplace
      exact hshows.compressor (hsame ▸ hcompressor) (hsamePart ▸ hpart)
  · rw [hkept.2]
    exact hshows.receiverPressureBar

/-- What the alarm rules see of a compressor is within the limits of its configuration. -/
theorem Station.Shows.withinBounds (hshows : station.Shows model)
    {configuration : EquipmentConfiguration}
    (hbounds : model.WithinBounds configuration) {place : ℕ} {compressor : Compressor}
    (hcompressor : station.compressors[place]? = some compressor) :
    ∃ limits, configuration.compressors[place]? = some limits ∧
      compressor.identifier = limits.identifier ∧
      compressor.temperatureCelsius ∈
        Set.Icc limits.stoppedTemperatureC limits.runningTemperatureC ∧
      compressor.motorCurrentAmperes ∈ Set.Icc 0 limits.runningCurrentA := by
  have hplace : place < model.compressors.length := by
    rw [← hshows.length]
    exact (List.getElem?_eq_some_iff.mp hcompressor).1
  have hpart := List.getElem?_eq_getElem hplace
  have hshown := hshows.compressor hcompressor hpart
  have hwithin := hbounds.compressors _ (List.getElem_mem hplace)
  refine ⟨_, ?_, hshown.identifier, ?_, ?_⟩
  · rw [← hbounds.compressors_eq, List.getElem?_map, hpart]
    rfl
  · rw [hshown.temperatureCelsius]
    exact hwithin.temperature
  · rw [hshown.motorCurrentAmperes]
    exact hwithin.current

end Records

namespace WholeSimulation

variable {configuration : EquipmentConfiguration} {whole next : WholeSimulation} {event : WholeEvent}

theorem shows_step (hshows : whole.simulation.station.Shows whole.model)
    (hstep : whole.step event = some next) : next.simulation.station.Shows next.model := by
  cases event with
  | beginCycle =>
      obtain ⟨simulation, hsimulation, rfl⟩ := Option.map_eq_some_iff.mp hstep
      obtain ⟨-, hbegun⟩ := Option.ite_none_right_eq_some.mp hsimulation
      obtain rfl := Option.some.inj hbegun
      exact hshows
  | act slowSine fastSine draw =>
      simp only [step] at hstep
      split at hstep
      · cases hstep
      · next action rest htodo =>
          obtain rfl := Option.some.inj hstep
          cases action with
          -- the physical model takes over what was read
          | readAutomaticMode place | readRunCommand place =>
              exact hshows.commanded place fun _ => rfl
          -- a sensor fault is nothing that the physical model knows
          | readSensorFaultCommand place =>
              refine hshows.of_parts ?_ rfl rfl rfl
              refine KeyedSlots.map_modify (fun compressor => ?_) whole.simulation.station.compressors
                place
              rfl
          | readResetAlarms =>
              simp only [Simulation.act, modelAfter]
              split_ifs
              · exact hshows.reset whole.simulation.faults
              · exact hshows
          | update => exact (hshows.update _ _ _).evaluate _ _
          | publish place signal =>
              simp only [Simulation.act, modelAfter, (Simulation.publishSignal_model place signal).2]
              exact hshows
          | _ => exact hshows
  | write write =>
      obtain rfl := Option.some.inj hstep
      cases write with
      | _ => exact hshows

/-- The two records agree: what the alarm rules and the variables see of the station is what the
physical model has computed, in every run of the whole simulator. -/
theorem station_shows {ok : WholeSimulation → WholeEvent → Prop}
    (hreached : (machine configuration).ReachedBy ok whole) :
    whole.simulation.station.Shows whole.model := by
  induction hreached with
  | start hstart => exact hstart.shows
  | step _ _ hstep ih => exact shows_step ih hstep

/-- The quantities of the physical model stay within the limits of its configuration. -/
theorem model_withinBounds (hvalid : configuration.Valid)
    (hreached : (machine configuration).ReachedBy Physical whole) :
    whole.model.WithinBounds configuration := by
  refine (model_reached hreached).invariant (fun model hstart => ?_)
    fun model event next _ hbounds hphysical hstep => ?_
  · obtain rfl : model = .init configuration := hstart
    exact StationModel.init_withinBounds hvalid
  · cases event with
    | update elapsedSeconds slowSine fastSine =>
        obtain rfl := Option.some.inj hstep
        exact hbounds.update hvalid hphysical.1
    | operate place automaticMode manualRunCommand =>
        obtain rfl := Option.some.inj hstep
        exact hbounds.operate place automaticMode manualRunCommand

end WholeSimulation

end CrowPanel.Simulator
