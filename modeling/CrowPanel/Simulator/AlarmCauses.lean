import CrowPanel.Simulator.WholeStation

/-!
# What alarms can come from

In the whole simulator an alarm has a cause: a compressor whose configuration lets it get too hot or draw
too much current, a receiver that may exceed its threshold, or a client that has asked for a sensor fault.
An alarm whose threshold the configuration keeps out of reach is never raised.

## Strategy

`evaluate` adds only alarms whose condition holds in the station that it is given (`evaluate_caused`).
The physical model keeps the quantities of that station within the limits of the configuration, and a
history variable remembers which sensor faults were ever asked for.
-/

namespace CrowPanel.Simulator

open Library

/-- What the alarm of a key can come from, given the sensor faults that were ever asked for. -/
inductive Cause (configuration : EquipmentConfiguration) (rules : AlarmConfiguration)
    (requested : ℕ → Bool) : AlarmKey → Prop
  | temperature {compressor : CompressorConfiguration} (hmem : compressor ∈ configuration.compressors)
      (hhot : rules.highTemperatureC < compressor.runningTemperatureC ∨
        rules.highTemperatureDelaySeconds ≤ 0) :
      Cause configuration rules requested (compressor.identifier, highTemperature)
  | current {compressor : CompressorConfiguration} (hmem : compressor ∈ configuration.compressors)
      (hover : rules.motorOverloadCurrentA < compressor.runningCurrentA) :
      Cause configuration rules requested (compressor.identifier, motorOverload)
  | sensor {place : ℕ} {compressor : CompressorConfiguration}
      (hplace : configuration.compressors[place]? = some compressor)
      (hrequested : requested place = true) :
      Cause configuration rules requested (compressor.identifier, sensorFault)
  | pressure (hhigh : rules.highPressureBar < configuration.station.maximumPressureBar) :
      Cause configuration rules requested (configuration.station.identifier, highPressure)

theorem Cause.mono {configuration : EquipmentConfiguration} {rules : AlarmConfiguration}
    {requested later : ℕ → Bool} {key : AlarmKey}
    (hgrows : ∀ place, requested place = true → later place = true)
    (hcause : Cause configuration rules requested key) : Cause configuration rules later key := by
  cases hcause with
  | temperature hmem hhot => exact .temperature hmem hhot
  | current hmem hover => exact .current hmem hover
  | sensor hplace hrequested => exact .sensor hplace (hgrows _ hrequested)
  | pressure hhigh => exact .pressure hhigh

/-! ## One evaluation -/

namespace FaultManager

variable {faults : FaultManager} {station : Station} {P : AlarmKey → Prop}

/-- The keys of the active alarms satisfy `P`. -/
def Satisfy (P : AlarmKey → Prop) (faults : FaultManager) : Prop :=
  ∀ alarm ∈ faults.activeAlarms, P alarm.key

theorem setAlarm_satisfy (hactive : faults.Satisfy P) {transition : AlarmTransition} {condition : Bool}
    (hnew : condition = true → P transition.key) :
    (faults.setAlarm transition condition).1.Satisfy P := by
  unfold setAlarm
  split
  · next hraised =>
      refine List.forall_mem_append.mpr ⟨hactive, ?_⟩
      intro alarm halarm
      obtain rfl := List.mem_singleton.mp halarm
      exact hnew (Bool.and_eq_true_iff.mp hraised).1
  · exact hactive

@[simp] theorem setAlarm_configuration (transition : AlarmTransition) (condition : Bool) :
    (faults.setAlarm transition condition).1.configuration = faults.configuration := by
  unfold setAlarm
  split
  · rfl
  · rfl

@[simp] theorem evaluateCompressor_configuration (compressor : Compressor) (elapsedSeconds : ℚ) :
    (faults.evaluateCompressor compressor elapsedSeconds).1.configuration = faults.configuration := by
  simp [evaluateCompressor, timeTemperature]

theorem evaluateCompressors_configuration (compressors : List Compressor) (elapsedSeconds : ℚ) :
    (faults.evaluateCompressors elapsedSeconds compressors).1.configuration = faults.configuration := by
  induction compressors generalizing faults with
  | nil => rfl
  | cons compressor compressors ih => exact ih.trans (evaluateCompressor_configuration _ _)

theorem evaluate_configuration (elapsedSeconds : ℚ) :
    (faults.evaluate station elapsedSeconds).1.configuration = faults.configuration :=
  (setAlarm_configuration _ _).trans (evaluateCompressors_configuration _ _)

/-- The conditions under which the alarms of a compressor are raised. -/
structure Justifies (P : AlarmKey → Prop) (rules : AlarmConfiguration) (compressor : Compressor) :
    Prop where
  temperature : rules.highTemperatureC < compressor.temperatureCelsius ∨
    rules.highTemperatureDelaySeconds ≤ 0 → P (compressor.identifier, highTemperature)
  current : rules.motorOverloadCurrentA < compressor.motorCurrentAmperes →
    P (compressor.identifier, motorOverload)
  sensor : compressor.sensorFaultCommand = true → P (compressor.identifier, sensorFault)

/-- Time adds up only while the temperature is too high, so without delay or heat there is no alarm. -/
theorem evaluateCompressor_satisfy (hactive : faults.Satisfy P) {compressor : Compressor}
    (hjustifies : Justifies P faults.configuration compressor) (elapsedSeconds : ℚ) :
    (faults.evaluateCompressor compressor elapsedSeconds).1.Satisfy P := by
  have htimed : (faults.timeTemperature compressor elapsedSeconds).Satisfy P := hactive
  refine setAlarm_satisfy (setAlarm_satisfy (setAlarm_satisfy htimed ?_) ?_) ?_
  · intro hlong
    apply hjustifies.temperature
    by_cases hhot : faults.configuration.highTemperatureC < compressor.temperatureCelsius
    · exact .inl hhot
    · right
      have hdelay := of_decide_eq_true hlong
      simpa only [timeTemperature, Function.update_self, if_neg hhot] using hdelay
  · intro hover
    exact hjustifies.current (of_decide_eq_true hover)
  · intro hfault
    exact hjustifies.sensor hfault

theorem evaluateCompressors_satisfy (hactive : faults.Satisfy P) {compressors : List Compressor}
    (hjustifies : ∀ compressor ∈ compressors, Justifies P faults.configuration compressor)
    (elapsedSeconds : ℚ) : (faults.evaluateCompressors elapsedSeconds compressors).1.Satisfy P := by
  induction compressors generalizing faults with
  | nil => exact hactive
  | cons compressor compressors ih =>
      obtain ⟨hfirst, hrest⟩ := List.forall_mem_cons.mp hjustifies
      refine @ih (faults.evaluateCompressor compressor elapsedSeconds).1
        (evaluateCompressor_satisfy hactive hfirst elapsedSeconds) ?_
      rwa [evaluateCompressor_configuration]

/-- An evaluation raises only alarms whose conditions hold. -/
theorem evaluate_caused (hactive : faults.Satisfy P)
    (hjustifies : ∀ compressor ∈ station.compressors, Justifies P faults.configuration compressor)
    (hpressure : faults.configuration.highPressureBar < station.receiverPressureBar →
      P (station.identifier, highPressure)) (elapsedSeconds : ℚ) :
    (faults.evaluate station elapsedSeconds).1.Satisfy P := by
  refine setAlarm_satisfy (evaluateCompressors_satisfy hactive hjustifies elapsedSeconds) ?_
  intro hhigh
  have hover := of_decide_eq_true hhigh
  rw [evaluateCompressors_configuration] at hover
  exact hpressure hover

end FaultManager

/-! ## Sensor faults that were asked for -/

namespace WholeSimulation

/-- The sensor faults that a client has asked for. -/
def noteRequest (_ : WholeSimulation) (event : WholeEvent) (requested : ℕ → Bool) : ℕ → Bool :=
  match event with
  | .write (.sensorFaultCommand place true) => Function.update requested place true
  | _ => requested

/-- The sensor faults that are asked for from the start. -/
def firstRequests (whole : WholeSimulation) (place : ℕ) : Bool :=
  (whole.simulation.nodesAt place).sensorFaultCommand ||
    whole.simulation.station.compressors[place]?.any Compressor.sensorFaultCommand

/-- The whole simulator beside the sensor faults that were ever asked for. -/
def requestMachine (configuration : EquipmentConfiguration) :
    Machine (WholeSimulation × (ℕ → Bool)) WholeEvent :=
  (machine configuration).withHistoryFrom firstRequests noteRequest

/-- Every sensor fault in the variables and in the model was asked for. -/
structure Asked (simulation : Simulation) (requested : ℕ → Bool) : Prop where
  node : ∀ {place : ℕ},
    (simulation.compressorNodes.map CompressorNodes.sensorFaultCommand)[place]? = some true →
      requested place = true
  compressor : ∀ {place : ℕ},
    (simulation.station.compressors.map Compressor.sensorFaultCommand)[place]? = some true →
      requested place = true

/-- A flag after one slot was changed. -/
theorem flag_modify {ι : Type} {flag : ι → Bool} {change : ι → ι} {slots : List ι} {slot place : ℕ}
    (hflag : ((slots.modify slot change).map flag)[place]? = some true) :
    (place = slot ∧ ∃ item, slots[place]? = some item ∧ flag (change item) = true) ∨
      (slots.map flag)[place]? = some true := by
  rw [List.getElem?_map, List.getElem?_modify] at hflag
  obtain ⟨changed, hchanged, htrue⟩ := Option.map_eq_some_iff.mp hflag
  obtain ⟨item, hitem, rfl⟩ := Option.map_eq_some_iff.mp hchanged
  by_cases hslot : slot = place
  · rw [if_pos hslot] at htrue
    exact .inl ⟨hslot.symm, item, hitem, htrue⟩
  · rw [if_neg hslot] at htrue
    right
    rw [List.getElem?_map, hitem, Option.map_some]
    exact congrArg some htrue

variable {simulation : Simulation} {requested : ℕ → Bool}

theorem Asked.congr (hasked : Asked simulation requested) {next : Simulation}
    (hnodes : next.compressorNodes.map CompressorNodes.sensorFaultCommand =
      simulation.compressorNodes.map CompressorNodes.sensorFaultCommand)
    (hcompressors : next.station.compressors.map Compressor.sensorFaultCommand =
      simulation.station.compressors.map Compressor.sensorFaultCommand) : Asked next requested := by
  refine ⟨fun hflag => ?_, fun hflag => ?_⟩
  · rw [hnodes] at hflag
    exact hasked.node hflag
  · rw [hcompressors] at hflag
    exact hasked.compressor hflag

theorem evaluateCompressors_faults (faults : FaultManager) (elapsedSeconds : ℚ)
    (compressors : List Compressor) :
    (faults.evaluateCompressors elapsedSeconds compressors).2.1.map Compressor.sensorFaultCommand =
      compressors.map Compressor.sensorFaultCommand := by
  induction compressors generalizing faults with
  | nil => rfl
  | cons compressor compressors ih =>
      have hrest := ih (faults.evaluateCompressor compressor elapsedSeconds).1
      exact congrArg (compressor.sensorFaultCommand :: ·) hrest

theorem update_faults (station : Station) (readings : Readings) :
    (station.update readings).compressors.map Compressor.sensorFaultCommand =
      station.compressors.map Compressor.sensorFaultCommand := by
  refine List.ext_getElem? fun place => ?_
  simp only [Station.update, List.getElem?_map, List.getElem?_mapIdx]
  cases station.compressors[place]? with
  | none => rfl
  | some compressor => rfl

theorem publishSignal_faults (simulation : Simulation) (place : ℕ) (signal : Signal) :
    (simulation.publishSignal place signal).compressorNodes.map CompressorNodes.sensorFaultCommand =
      simulation.compressorNodes.map CompressorNodes.sensorFaultCommand := by
  unfold Simulation.publishSignal
  split
  · rfl
  · next compressor _ =>
      have hmodify : ∀ {change : CompressorNodes → CompressorNodes},
          (∀ nodes, (change nodes).sensorFaultCommand = nodes.sensorFaultCommand) →
          (simulation.changeNodes place change).compressorNodes.map
              CompressorNodes.sensorFaultCommand =
            simulation.compressorNodes.map CompressorNodes.sensorFaultCommand :=
        fun hchange => KeyedSlots.map_modify hchange simulation.compressorNodes place
      cases signal with
      | temperature | motorCurrent | runtime => rfl
      | runStatus => exact hmodify fun _ => rfl
      | alarmStatus => exact hmodify fun _ => rfl
      | runCommand =>
          dsimp only
          split_ifs
          · exact hmodify fun _ => rfl
          · rfl

/-- An action of the cycle asks for no sensor fault. -/
theorem Asked.act (hasked : Asked simulation requested) (readings : Readings) (rest : List Action)
    (action : Action) : Asked (simulation.act readings rest action) requested := by
  cases action with
  | readAutomaticMode place | readRunCommand place =>
      refine hasked.congr rfl (KeyedSlots.map_modify (fun _ => ?_) simulation.station.compressors place)
      rfl
  | readSensorFaultCommand place =>
      refine ⟨hasked.node, @fun other hflag => ?_⟩
      rcases flag_modify hflag with ⟨hsame, compressor, -, htrue⟩ | hbefore
      · rw [hsame]
        apply hasked.node
        rw [List.getElem?_map]
        have hnode : (simulation.nodesAt place).sensorFaultCommand = true := htrue
        rw [Simulation.nodesAt, List.getD_eq_getElem?_getD] at hnode
        cases hnodes : simulation.compressorNodes[place]? with
        | none =>
            rw [hnodes] at hnode
            cases hnode
        | some nodes =>
            rw [hnodes] at hnode
            exact congrArg some hnode
      · exact hasked.compressor hbefore
  | readResetAlarms =>
      simp only [Simulation.act]
      split_ifs
      · refine ⟨hasked.node, fun hflag => ?_⟩
        simp [FaultManager.reset, List.getElem?_map] at hflag
      · exact hasked.congr rfl rfl
  | clearSensorFaultCommand place =>
      refine ⟨fun hflag => ?_, hasked.compressor⟩
      rcases flag_modify hflag with ⟨-, nodes, -, hfalse⟩ | hbefore
      · cases hfalse
      · exact hasked.node hbefore
  | update =>
      refine hasked.congr rfl ?_
      exact (evaluateCompressors_faults _ _ _).trans (update_faults _ _)
  | publish place signal =>
      refine hasked.congr (publishSignal_faults simulation place signal) ?_
      exact congrArg (fun station : Station => station.compressors.map Compressor.sensorFaultCommand)
        (Simulation.publishSignal_model place signal).2
  | _ => exact hasked.congr rfl rfl

/-- Requests are not forgotten. -/
theorem noteRequest_grows (whole : WholeSimulation) (event : WholeEvent) {place : ℕ}
    (hplace : requested place = true) : noteRequest whole event requested place = true := by
  unfold noteRequest
  split
  · next requestedPlace =>
      by_cases hsame : place = requestedPlace
      · rw [hsame, Function.update_self]
      · rwa [Function.update_of_ne hsame]
  · exact hplace

theorem Asked.clientWrite (hasked : Asked simulation requested) (whole : WholeSimulation)
    (write : ClientWrite) :
    Asked (simulation.clientWrite write) (noteRequest whole (.write write) requested) := by
  cases write with
  | automaticMode place value | runCommand place value =>
      refine hasked.congr (KeyedSlots.map_modify (fun _ => ?_) simulation.compressorNodes place) rfl
      rfl
  | resetAlarms value => exact hasked.congr rfl rfl
  | sensorFaultCommand place value =>
      refine ⟨fun hflag => ?_, fun hflag => noteRequest_grows whole _ (hasked.compressor hflag)⟩
      rcases flag_modify hflag with ⟨rfl, nodes, -, htrue⟩ | hbefore
      · obtain rfl : value = true := htrue
        exact Function.update_self _ _ _
      · exact noteRequest_grows whole _ (hasked.node hbefore)

/-! ## Causes -/

variable {configuration : EquipmentConfiguration} {whole : WholeSimulation} {rules : AlarmConfiguration}

/-- The limits of the configuration are the causes of what an evaluation of the station can raise. -/
theorem justifies_of_shows {station : Station} {model : StationModel} (hshows : station.Shows model)
    (hbounds : model.WithinBounds configuration)
    (hasked : ∀ {place : ℕ},
      (station.compressors.map Compressor.sensorFaultCommand)[place]? = some true →
        requested place = true) :
    ∀ compressor ∈ station.compressors,
      FaultManager.Justifies (Cause configuration rules requested) rules compressor := by
  intro compressor hmem
  obtain ⟨place, hcompressor⟩ := List.mem_iff_getElem?.mp hmem
  obtain ⟨limits, hlimits, hidentifier, htemperature, hcurrent⟩ :=
    hshows.withinBounds hbounds hcompressor
  have hknown : limits ∈ configuration.compressors := List.mem_of_getElem? hlimits
  refine ⟨fun hhot => ?_, fun hover => ?_, fun hfault => ?_⟩
  · rw [hidentifier]
    refine .temperature hknown (hhot.imp_left fun hlt => ?_)
    exact hlt.trans_le htemperature.2
  · rw [hidentifier]
    exact .current hknown (hover.trans_le hcurrent.2)
  · rw [hidentifier]
    refine .sensor hlimits (hasked ?_)
    rw [List.getElem?_map, hcompressor, Option.map_some]
    exact congrArg some hfault

/-- An action keeps the rules, and the alarms that it raises have causes. -/
theorem satisfy_act (hvalid : configuration.Valid) (hbounds : whole.model.WithinBounds configuration)
    (hshows : whole.simulation.station.Shows whole.model)
    (hasked : Asked whole.simulation requested)
    (hactive : whole.simulation.faults.Satisfy
      (Cause configuration whole.simulation.faults.configuration requested))
    (hinterval : 0 ≤ whole.simulation.updateInterval) (slowSine fastSine : ℚ) (rest : List Action)
    (action : Action) :
    let readings := whole.model.readings whole.simulation.updateInterval slowSine fastSine
    let next := whole.simulation.act readings rest action
    next.faults.configuration = whole.simulation.faults.configuration ∧
      next.faults.Satisfy (Cause configuration whole.simulation.faults.configuration requested) := by
  intro readings next
  cases action with
  | readResetAlarms =>
      simp only [next, Simulation.act]
      split_ifs
      · exact ⟨rfl, fun alarm halarm => absurd halarm List.not_mem_nil⟩
      · exact ⟨rfl, hactive⟩
  -- only the update evaluates the alarms, on the station that it has just computed
  | update =>
      have hafter := hshows.update whole.simulation.updateInterval slowSine fastSine
      have hafterBounds := @StationModel.WithinBounds.update configuration whole.model
        whole.simulation.updateInterval slowSine fastSine hvalid hbounds hinterval
      refine ⟨FaultManager.evaluate_configuration _, ?_⟩
      refine FaultManager.evaluate_caused hactive (justifies_of_shows hafter hafterBounds ?_) ?_ _
      · intro place hflag
        rw [update_faults] at hflag
        exact hasked.compressor hflag
      · intro hhigh
        rw [hafter.identifier, hafterBounds.configuration_eq]
        rw [hafter.receiverPressureBar] at hhigh
        exact .pressure (hhigh.trans_le hafterBounds.receiverPressure.2)
  | publish place signal =>
      have hfaults : (whole.simulation.publishSignal place signal).faults = whole.simulation.faults :=
        (Simulation.publishSignal_model place signal).1
      simp only [next, Simulation.act, hfaults]
      exact ⟨trivial, hactive⟩
  | _ => exact ⟨rfl, hactive⟩

/-- The requests behind a run, and the causes of its alarms. -/
theorem causes_of_reached (hvalid : configuration.Valid) {state : WholeSimulation × (ℕ → Bool)}
    (hreached : (requestMachine configuration).ReachedBy
      (fun state event => state.1.Physical event) state) :
    Asked state.1.simulation state.2 ∧
      state.1.simulation.faults.Satisfy
        (Cause configuration state.1.simulation.faults.configuration state.2) := by
  induction hreached with
  | start hstart =>
      obtain ⟨hinitial, hfirst⟩ := hstart
      refine ⟨⟨fun hflag => ?_, fun hflag => ?_⟩, ?_⟩
      · rw [hfirst, firstRequests, Bool.or_eq_true]
        left
        rw [List.getElem?_map] at hflag
        obtain ⟨nodes, hnodes, htrue⟩ := Option.map_eq_some_iff.mp hflag
        rwa [Simulation.nodesAt, List.getD_eq_getElem?_getD, hnodes]
      · rw [hfirst, firstRequests, Bool.or_eq_true]
        right
        rw [List.getElem?_map] at hflag
        obtain ⟨compressor, hcompressor, htrue⟩ := Option.map_eq_some_iff.mp hflag
        rwa [hcompressor, Option.any_some]
      · intro alarm halarm
        rw [hinitial.initial.noAlarms] at halarm
        exact absurd halarm List.not_mem_nil
  | @step state next event hbefore hphysical hstep ih =>
      obtain ⟨hasked, hactive⟩ := ih
      obtain ⟨hmove, hnote⟩ := Machine.withHistoryFrom_step hstep
      have hwhole : (machine configuration).ReachedBy Physical state.1 :=
        Machine.ReachedBy.forgetFrom (fun _ _ hok => hok) hbefore
      have hsimulation := step_simulation hmove
      rw [hnote]
      cases event with
      | beginCycle =>
          obtain ⟨-, hbegun⟩ := Option.ite_none_right_eq_some.mp hsimulation
          rw [← Option.some.inj hbegun]
          exact ⟨hasked.congr rfl rfl, hactive⟩
      | act slowSine fastSine draw =>
          obtain ⟨action, rest, -, hnext, -⟩ := step_act hmove
          rw [hnext]
          obtain ⟨hrules, hcaused⟩ := satisfy_act hvalid (model_withinBounds hvalid hwhole)
            (station_shows hwhole) hasked hactive hphysical.1 slowSine fastSine rest action
          rw [hrules]
          exact ⟨hasked.act _ rest action, hcaused⟩
      | write write =>
          rw [← Option.some.inj hsimulation]
          have hasked' := hasked.clientWrite state.1 write
          have hfaults : (state.1.simulation.clientWrite write).faults = state.1.simulation.faults := by
            cases write with
            | _ => rfl
          refine ⟨hasked', fun alarm halarm => ?_⟩
          rw [hfaults] at halarm ⊢
          exact (hactive alarm halarm).mono fun _ => noteRequest_grows state.1 (.write write)

/-- **Every alarm has a cause.**  In every run of the whole simulator, whatever clients write and when:
an alarm is active, and its event is sent, only if the configuration lets its quantity exceed the
threshold, or a client has asked for the sensor fault of that compressor. -/
theorem alarms_caused (hvalid : configuration.Valid) {state : WholeSimulation × (ℕ → Bool)}
    (hreached : (requestMachine configuration).ReachedBy
      (fun state event => state.1.Physical event) state) :
    let simulation := state.1.simulation
    let cause := Cause configuration simulation.faults.configuration state.2
    (∀ alarm ∈ simulation.faults.activeAlarms, cause alarm.key) ∧
      ∀ event ∈ simulation.pending, event.active = true → cause event.key := by
  intro simulation cause
  obtain ⟨-, hactive⟩ := causes_of_reached hvalid hreached
  refine ⟨hactive, fun event hevent htrue => ?_⟩
  have hwhole : (machine configuration).ReachedBy Physical state.1 :=
    Machine.ReachedBy.forgetFrom (fun _ _ hok => hok) hreached
  have hedges : simulation.Edges :=
    Machine.Reachable.invariant (I := Simulation.Edges)
      (fun _ hinitial => Simulation.Initial.edges hinitial)
      (fun _ _ _ hedges hstep => hedges.step hstep) (simulation_reachable hwhole)
  obtain ⟨alarm, halarm, hkey⟩ := List.mem_map.mp ((hedges.pending_active event hevent).mp htrue)
  rw [← hkey]
  exact hactive alarm halarm

/-- A client asks for a sensor fault before the first cycle, which goes on until the alarms are
evaluated. -/
private def faultEvents : List WholeEvent :=
  .write (.sensorFaultCommand 1 true) :: .beginCycle :: List.replicate 11 (.act 0 0 0)

private def shippedStart : WholeSimulation × (ℕ → Bool) :=
  let whole := init StationModel.equipment alarmRules (1 / 10) fun _ => .boolean false
  (whole, whole.firstRequests)

private theorem faultEvents_isSome :
    ((requestMachine StationModel.equipment).replay shippedStart faultEvents).isSome := by
  decide +kernel

private def faulty : WholeSimulation × (ℕ → Bool) :=
  ((requestMachine StationModel.equipment).replay shippedStart faultEvents).get faultEvents_isSome

/-- In the configuration of the repository neither the temperature nor the current raises an alarm. -/
theorem alarms_caused_sensor :
    faulty.1.simulation.faults.activeAlarms.map AlarmTransition.key =
        [(ascii "compressor_2", sensorFault)] ∧
      ∀ alarm ∈ faulty.1.simulation.faults.activeAlarms,
        alarm.alarmCode ≠ highTemperature ∧ alarm.alarmCode ≠ motorOverload := by
  have hstart : (requestMachine StationModel.equipment).start shippedStart := ⟨init_starts _ _ _ _, rfl⟩
  have hreached : (requestMachine StationModel.equipment).ReachedBy
      (fun state event => state.1.Physical event) faulty :=
    Machine.ReachedBy.replay (.start hstart) (by decide +kernel)
      (Option.some_get faultEvents_isSome).symm
  obtain ⟨hcauses, -⟩ := alarms_caused StationModel.equipment_valid hreached
  refine ⟨by decide +kernel, fun alarm halarm => ?_⟩
  have hrules : faulty.1.simulation.faults.configuration = alarmRules := by decide +kernel
  have hcause := hcauses alarm halarm
  rw [hrules] at hcause
  generalize hkey : alarm.key = key at hcause
  have hcode : alarm.alarmCode = key.2 := congrArg Prod.snd hkey
  rw [hcode]
  cases hcause with
  | temperature hmem hhot =>
      exfalso
      revert hmem
      simp only [StationModel.equipment, List.mem_cons, List.not_mem_nil, or_false]
      rintro (rfl | rfl | rfl)
      all_goals revert hhot; decide +kernel
  | current hmem hover =>
      exfalso
      revert hmem
      simp only [StationModel.equipment, List.mem_cons, List.not_mem_nil, or_false]
      rintro (rfl | rfl | rfl)
      all_goals revert hover; decide +kernel
  | sensor =>
      show sensorFault ≠ highTemperature ∧ sensorFault ≠ motorOverload
      decide
  | pressure =>
      show highPressure ≠ highTemperature ∧ highPressure ≠ motorOverload
      decide

end WholeSimulation

end CrowPanel.Simulator
