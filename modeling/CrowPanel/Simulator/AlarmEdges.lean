import CrowPanel.OpcUa.AlarmEvents
import CrowPanel.Simulator.Cycle

/-!
# Alarms as edges

The simulator tells of an alarm twice: when it becomes active and when it is cleared.  This file says
how the events that a cycle is still to emit relate to the active alarms.

## Strategy

`Raises` is what every part of `evaluate` does; it composes, so one lemma about `setAlarm` is enough.
`step_alarms` then says once what a step of the cycle can do to the alarms and to the events that are
due, and `Edges` is the invariant that follows from it.
-/

namespace CrowPanel.Simulator

open Library OpcUa

/-- The keys of the alarms that a station can raise. -/
def Station.alarmKeys (station : Station) : List AlarmKey :=
  (station.compressors.map Compressor.identifier).flatMap
      (fun identifier => [highTemperature, motorOverload, sensorFault].map (identifier, ·)) ++
    [(station.identifier, highPressure)]

/-- An alarm with one of the keys, or its clearing. -/
structure AlarmTransition.Sound (keys : List AlarmKey) (transition : AlarmTransition) : Prop where
  key_mem : transition.key ∈ keys
  noMark : 0x56 ∉ transition.message

/-- The keys of the active alarms. -/
def FaultManager.activeKeys (faults : FaultManager) : List AlarmKey :=
  faults.activeAlarms.map AlarmTransition.key

theorem FaultManager.activeKeys_congr {faults next : FaultManager}
    (halarms : next.activeAlarms = faults.activeAlarms) : next.activeKeys = faults.activeKeys := by
  rw [activeKeys, activeKeys, halarms]

theorem FaultManager.activeKeys_eq_nil {faults : FaultManager} (halarms : faults.activeAlarms = []) :
    faults.activeKeys = [] := by
  rw [activeKeys, halarms, List.map_nil]

variable {station : Station} {keys : List AlarmKey} {transition : AlarmTransition}

theorem Station.alarmKeys_congr {other : Station}
    (hidentifier : other.identifier = station.identifier)
    (hcompressors : other.compressors.map Compressor.identifier =
      station.compressors.map Compressor.identifier) : other.alarmKeys = station.alarmKeys := by
  rw [Station.alarmKeys, hidentifier, hcompressors, Station.alarmKeys]

theorem Station.mem_alarmKeys {key : AlarmKey} (hkey : key ∈ station.alarmKeys) :
    key.2 ∈ [highTemperature, motorOverload, sensorFault, highPressure] := by
  rcases List.mem_append.mp hkey with hcompressor | hstation
  · obtain ⟨identifier, -, hcode⟩ := List.mem_flatMap.mp hcompressor
    obtain ⟨alarmCode, halarmCode, rfl⟩ := List.mem_map.mp hcode
    simp only [List.mem_cons, List.not_mem_nil, or_false] at halarmCode ⊢
    rcases halarmCode with rfl | rfl | rfl <;> simp
  · obtain rfl := List.mem_singleton.mp hstation
    simp

theorem Station.compressor_mem_alarmKeys {compressor : Compressor}
    (hcompressor : compressor ∈ station.compressors) {alarmCode : Text}
    (hcode : alarmCode ∈ [highTemperature, motorOverload, sensorFault]) :
    (compressor.identifier, alarmCode) ∈ station.alarmKeys :=
  List.mem_append_left _ (List.mem_flatMap.mpr
    ⟨compressor.identifier, List.mem_map_of_mem hcompressor, List.mem_map_of_mem hcode⟩)

/-- The simulator's alarm codes are kept by the panel as they are. -/
theorem Station.alarmCode_plain {key : AlarmKey} (hkey : key ∈ station.alarmKeys) :
    PlainCode key.2 := by
  have hcode := Station.mem_alarmKeys hkey
  simp only [List.mem_cons, List.not_mem_nil, or_false] at hcode
  rcases hcode with hcode | hcode | hcode | hcode <;> rw [hcode] <;>
    exact ⟨by decide, by decide, by decide, by decide⟩

/-- The message of an event tells the alarm. -/
theorem AlarmTransition.eventMessage_tells (hsound : transition.Sound keys) :
    Tells transition.eventMessage transition.alarmCode transition.active := by
  have hspace : 0x56 ∉ (0x20 :: transition.message) := by
    simpa using hsound.noMark
  refine ⟨0x20 :: transition.message, ?_, hspace⟩
  rw [eventMessage]
  cases transition.active <;> simp [stateMark, ascii]

/-! ## Raising alarms -/

namespace FaultManager

/-- What the parts of `evaluate` do: they add alarms for keys that have none, and return them. -/
structure Raises (keys : List AlarmKey) (faults next : FaultManager)
    (transitions : List AlarmTransition) : Prop where
  alarms : next.activeAlarms = faults.activeAlarms ++ transitions
  active : ∀ transition ∈ transitions, transition.active = true
  sound : ∀ transition ∈ transitions, transition.Sound keys
  nodup : faults.activeKeys.Nodup → next.activeKeys.Nodup

variable {faults next last : FaultManager} {transitions others : List AlarmTransition}

theorem Raises.none (halarms : next.activeAlarms = faults.activeAlarms) :
    Raises keys faults next [] where
  alarms := by rw [halarms, List.append_nil]
  active := by simp
  sound := by simp
  nodup hnodup := by rwa [activeKeys, halarms]

theorem Raises.trans (hfirst : Raises keys faults next transitions)
    (hsecond : Raises keys next last others) :
    Raises keys faults last (transitions ++ others) where
  alarms := by rw [hsecond.alarms, hfirst.alarms, List.append_assoc]
  active := List.forall_mem_append.mpr ⟨hfirst.active, hsecond.active⟩
  sound := List.forall_mem_append.mpr ⟨hfirst.sound, hsecond.sound⟩
  nodup hnodup := hsecond.nodup (hfirst.nodup hnodup)

theorem setAlarm_raises (hactive : transition.active = true) (hsound : transition.Sound keys)
    (condition : Bool) :
    Raises keys faults (faults.setAlarm transition condition).1
      (faults.setAlarm transition condition).2 := by
  unfold setAlarm
  split
  · next hnew =>
      have hfresh : transition.key ∉ faults.activeKeys := by
        intro hmem
        obtain ⟨alarm, halarm, hkey⟩ := List.mem_map.mp hmem
        have hother := List.all_eq_true.mp (Bool.and_eq_true_iff.mp hnew).2 alarm halarm
        exact absurd hkey (of_decide_eq_true hother)
      refine ⟨rfl, by simpa using hactive, by simpa using hsound, fun hnodup => ?_⟩
      rw [activeKeys, List.map_append]
      exact hnodup.append (List.nodup_singleton _) (by simpa using hfresh)
  · exact Raises.none rfl

theorem oneDecimal_noMark (number : ℚ) : 0x56 ∉ oneDecimal number := by
  have hdigits (digits : ℕ) : (0x56 : UInt8) ∉ printDigits 10 digits :=
    notMem_printDigits (by decide)
  have hsign : (0x56 : UInt8) ∉ if number < 0 then ascii "-" else [] := by
    split <;> decide
  simp only [oneDecimal, List.mem_append, not_or]
  exact ⟨⟨⟨hsign, hdigits _⟩, by decide⟩, hdigits _⟩

theorem compressorAlarm_sound {compressor : Compressor}
    (hcompressor : compressor ∈ station.compressors) {alarmCode message : Text} (severity : ℕ)
    (hcode : alarmCode ∈ [highTemperature, motorOverload, sensorFault])
    (hmessage : 0x56 ∉ message) :
    (compressorAlarm compressor alarmCode message severity).Sound station.alarmKeys where
  key_mem := Station.compressor_mem_alarmKeys hcompressor hcode
  noMark := hmessage

theorem evaluateCompressor_raises {compressor : Compressor}
    (hcompressor : compressor ∈ station.compressors) (elapsedSeconds : ℚ) :
    Raises station.alarmKeys faults (faults.evaluateCompressor compressor elapsedSeconds).1
      (faults.evaluateCompressor compressor elapsedSeconds).2.2 := by
  have htime : Raises station.alarmKeys faults (faults.timeTemperature compressor elapsedSeconds) [] :=
    Raises.none rfl
  have htext (before after : Text) (number : ℚ) (hbefore : 0x56 ∉ before) (hafter : 0x56 ∉ after) :
      0x56 ∉ before ++ oneDecimal number ++ after := by
    simp only [List.mem_append, not_or]
    exact ⟨⟨hbefore, oneDecimal_noMark number⟩, hafter⟩
  have htemperature := compressorAlarm_sound hcompressor
    faults.configuration.highTemperatureSeverity List.mem_cons_self
    (htext (ascii "Temperature exceeded ") [0x20, 0xC2, 0xB0, 0x43]
      faults.configuration.highTemperatureC (by decide) (by decide))
  have hoverload := compressorAlarm_sound hcompressor
    faults.configuration.motorOverloadSeverity (List.mem_cons_of_mem _ List.mem_cons_self)
    (htext (ascii "Motor current exceeded ") (ascii " A")
      faults.configuration.motorOverloadCurrentA (by decide) (by decide))
  have hsensor := @compressorAlarm_sound station compressor hcompressor sensorFault
    (ascii "Temperature and current sensor values are unreliable")
    faults.configuration.sensorFaultSeverity (by decide) (by decide)
  exact ((htime.trans (setAlarm_raises rfl htemperature _)).trans
    (setAlarm_raises rfl hoverload _)).trans (setAlarm_raises rfl hsensor _)

theorem evaluateCompressors_raises (elapsedSeconds : ℚ) {compressors : List Compressor}
    (hcompressors : ∀ compressor ∈ compressors, compressor ∈ station.compressors) :
    Raises station.alarmKeys faults (faults.evaluateCompressors elapsedSeconds compressors).1
        (faults.evaluateCompressors elapsedSeconds compressors).2.2 ∧
      (faults.evaluateCompressors elapsedSeconds compressors).2.1.map Compressor.identifier =
        compressors.map Compressor.identifier := by
  induction compressors generalizing faults with
  | nil => exact ⟨Raises.none rfl, rfl⟩
  | cons compressor compressors ih =>
      obtain ⟨hcompressor, hrest⟩ := List.forall_mem_cons.mp hcompressors
      have hfirst := @evaluateCompressor_raises station faults compressor hcompressor elapsedSeconds
      obtain ⟨hothers, hidentifiers⟩ :=
        @ih (faults.evaluateCompressor compressor elapsedSeconds).1 hrest
      exact ⟨hfirst.trans hothers, congrArg (compressor.identifier :: ·) hidentifiers⟩

/-- The evaluation of a station raises alarms, and leaves the station the keys it has. -/
theorem evaluate_raises (faults : FaultManager) (station : Station) (elapsedSeconds : ℚ) :
    Raises station.alarmKeys faults (faults.evaluate station elapsedSeconds).1
        (faults.evaluate station elapsedSeconds).2.2 ∧
      (faults.evaluate station elapsedSeconds).2.1.alarmKeys = station.alarmKeys := by
  obtain ⟨hcompressors, hidentifiers⟩ :=
    @evaluateCompressors_raises station faults elapsedSeconds _ fun _ hcompressor => hcompressor
  have hpressure : 0x56 ∉ ascii "Receiver pressure exceeded " ++
      oneDecimal (faults.evaluateCompressors elapsedSeconds
        station.compressors).1.configuration.highPressureBar ++ ascii " bar" := by
    simp only [List.mem_append, not_or]
    exact ⟨⟨by decide, oneDecimal_noMark _⟩, by decide⟩
  refine ⟨hcompressors.trans (setAlarm_raises rfl ⟨?_, hpressure⟩ _),
    Station.alarmKeys_congr rfl hidentifiers⟩
  exact List.mem_append_right _ (List.mem_singleton.mpr rfl)

theorem cleared_sound (hsound : transition.Sound keys) : (cleared transition).Sound keys where
  key_mem := hsound.key_mem
  noMark := by
    rw [cleared, List.mem_append, not_or]
    exact ⟨by decide, hsound.noMark⟩

end FaultManager

/-! ## The events of a cycle -/

/-- The event that an action emits. -/
def Action.emitted : Action → Option AlarmTransition
  | .emit transition => some transition
  | _ => none

namespace Simulation

/-- The event that a step emits. -/
def emitted (simulation : Simulation) : CycleEvent → Option AlarmTransition
  | .act _ => simulation.todo.head?.bind Action.emitted
  | _ => none

/-- The events that the cycle is still to emit. -/
def pending (simulation : Simulation) : List AlarmTransition :=
  simulation.todo.filterMap Action.emitted

/-- What a step that emits some event, or none, does to the active alarms and to the events that are
due. -/
inductive AlarmStep (simulation next : Simulation) : Option AlarmTransition → Prop
  | quiet (halarms : next.faults.activeAlarms = simulation.faults.activeAlarms)
      (hpending : next.pending = simulation.pending) : AlarmStep simulation next none
  | emit {transition : AlarmTransition}
      (halarms : next.faults.activeAlarms = simulation.faults.activeAlarms)
      (hpending : simulation.pending = transition :: next.pending) :
      AlarmStep simulation next (some transition)
  | raise (hpending : simulation.pending = [])
      (hraises : FaultManager.Raises simulation.station.alarmKeys simulation.faults next.faults
        next.pending) : AlarmStep simulation next none
  | clear (hpending : simulation.pending = []) (halarms : next.faults.activeAlarms = [])
      (hcleared : next.pending = simulation.faults.activeAlarms.map FaultManager.cleared) :
      AlarmStep simulation next none

variable {simulation next : Simulation}

theorem changeCompressor_alarmKeys {place : ℕ} {change : Compressor → Compressor}
    (hchange : ∀ compressor, (change compressor).identifier = compressor.identifier) :
    (simulation.changeCompressor place change).station.alarmKeys = simulation.station.alarmKeys :=
  Station.alarmKeys_congr rfl (KeyedSlots.map_modify hchange simulation.station.compressors place)

theorem update_alarmKeys (station : Station) (readings : Readings) :
    (station.update readings).alarmKeys = station.alarmKeys := by
  refine Station.alarmKeys_congr rfl (List.ext_getElem? fun index => ?_)
  simp only [Station.update, List.getElem?_map, List.getElem?_mapIdx]
  cases station.compressors[index]? <;> rfl

theorem emitted_emit (transitions : List AlarmTransition) :
    (transitions.map Action.emit).filterMap Action.emitted = transitions := by
  rw [List.filterMap_map]
  exact List.filterMap_some

theorem emitted_readCommands (compressors : ℕ) :
    (readCommands compressors).filterMap Action.emitted = [] := by
  refine List.filterMap_eq_nil_iff.mpr fun action haction => ?_
  rcases List.mem_append.mp haction with hcompressor | hreset
  · obtain ⟨place, -, hmem⟩ := List.mem_flatMap.mp hcompressor
    simp only [List.mem_cons, List.not_mem_nil, or_false] at hmem
    rcases hmem with rfl | rfl | rfl <;> rfl
  · obtain rfl := List.mem_singleton.mp hreset
    rfl

theorem emitted_acknowledge (compressors : ℕ) :
    (acknowledgeResetCommand compressors).filterMap Action.emitted = [] := by
  simp [acknowledgeResetCommand, Action.emitted]

theorem emitted_publish (compressors : ℕ) :
    (publish compressors).filterMap Action.emitted = [] := by
  refine List.filterMap_eq_nil_iff.mpr fun action haction => ?_
  rcases List.mem_append.mp haction with hcompressor | hstation
  · obtain ⟨place, -, hmem⟩ := List.mem_flatMap.mp hcompressor
    simp only [List.mem_cons, List.not_mem_nil, or_false] at hmem
    rcases hmem with rfl | rfl | rfl | rfl | rfl | rfl <;> rfl
  · simp only [List.mem_cons, List.not_mem_nil, or_false] at hstation
    rcases hstation with rfl | rfl | rfl | rfl | rfl <;> rfl

/-- Publishing a variable changes neither the alarms nor the station. -/
theorem publishSignal_model (place : ℕ) (signal : Signal) :
    (simulation.publishSignal place signal).faults = simulation.faults ∧
      (simulation.publishSignal place signal).station = simulation.station := by
  unfold publishSignal
  split
  · exact ⟨rfl, rfl⟩
  · next compressor _ =>
      cases signal with
      | runCommand =>
          dsimp only
          split <;> exact ⟨rfl, rfl⟩
      | _ => exact ⟨rfl, rfl⟩

/-- One action of the cycle.  A reset and an evaluation come when no event is due, as the last action
but for what they add. -/
theorem act_alarms (hordered : simulation.Ordered) {action : Action} {rest : List Action}
    (htodo : simulation.todo = action :: rest) (readings : Readings) :
    AlarmStep simulation (simulation.act readings rest action) action.emitted := by
  have hpending : simulation.pending = action.emitted.toList ++ rest.filterMap Action.emitted := by
    rw [pending, htodo]
    cases action <;> rfl
  cases action with
  | readResetAlarms =>
      obtain rfl := hordered.rest_of_readResetAlarms htodo
      simp only [act]
      split
      · refine .clear hpending rfl ?_
        simp only [pending, List.filterMap_append, List.filterMap_cons, List.filterMap_nil,
          emitted_emit, emitted_acknowledge, Action.emitted, List.append_nil]
        rfl
      · exact .quiet rfl hpending.symm
  | update =>
      obtain rfl := hordered.rest_of_update htodo
      obtain ⟨hraises, -⟩ := simulation.faults.evaluate_raises (simulation.station.update readings)
        simulation.updateInterval
      refine .raise hpending ?_
      rw [update_alarmKeys] at hraises
      simp only [pending, act, List.filterMap_append, emitted_emit,
        emitted_publish, List.nil_append, List.append_nil]
      exact hraises
  | emit transition => exact .emit rfl hpending
  | publish place signal =>
      refine .quiet ?_ hpending.symm
      exact congrArg FaultManager.activeAlarms (publishSignal_model place signal).1
  | _ => exact .quiet rfl hpending.symm

theorem act_alarmKeys (action : Action) (rest : List Action) (readings : Readings) :
    (simulation.act readings rest action).station.alarmKeys = simulation.station.alarmKeys := by
  cases action with
  | readAutomaticMode place | readRunCommand place | readSensorFaultCommand place =>
      exact changeCompressor_alarmKeys fun _ => rfl
  | readResetAlarms =>
      simp only [act]
      split
      · exact Station.alarmKeys_congr rfl (by simp [FaultManager.reset])
      · rfl
  | update =>
      have hevaluate := (simulation.faults.evaluate_raises (simulation.station.update readings)
        simulation.updateInterval).2
      exact hevaluate.trans (update_alarmKeys _ _)
  | publish place signal =>
      exact congrArg Station.alarmKeys (publishSignal_model place signal).2
  | _ => rfl

/-- A step of the simulator, as far as the alarms go. -/
theorem step_alarms (hordered : simulation.Ordered) {event : CycleEvent}
    (hstep : simulation.step event = some next) :
    AlarmStep simulation next (simulation.emitted event) ∧
      next.station.alarmKeys = simulation.station.alarmKeys := by
  cases event with
  | beginCycle =>
      simp only [step] at hstep
      split at hstep
      · next hidle =>
          obtain rfl := Option.some.inj hstep
          refine ⟨.quiet rfl ?_, rfl⟩
          rw [pending, emitted_readCommands, pending, hidle, List.filterMap_nil]
      · cases hstep
  | act readings =>
      simp only [step] at hstep
      split at hstep
      · cases hstep
      · next action rest htodo =>
          obtain rfl := Option.some.inj hstep
          refine ⟨?_, act_alarmKeys action rest readings⟩
          have hemitted : simulation.emitted (.act readings) = action.emitted := by
            simp [emitted, htodo]
          rw [hemitted]
          exact act_alarms hordered htodo readings
  | write write =>
      obtain rfl := Option.some.inj hstep
      cases write <;> exact ⟨.quiet rfl rfl, rfl⟩

/-! ## Active alarms and due events -/

/-- The active alarms and the events that are due.  An event tells whether its alarm is active now. -/
structure Edges (simulation : Simulation) : Prop where
  ordered : simulation.Ordered
  alarms_nodup : simulation.faults.activeKeys.Nodup
  alarms_active : ∀ alarm ∈ simulation.faults.activeAlarms, alarm.active = true
  alarms_sound : ∀ alarm ∈ simulation.faults.activeAlarms, alarm.Sound simulation.station.alarmKeys
  pending_nodup : (simulation.pending.map AlarmTransition.key).Nodup
  pending_sound : ∀ event ∈ simulation.pending, event.Sound simulation.station.alarmKeys
  pending_active : ∀ event ∈ simulation.pending,
    event.active = true ↔ event.key ∈ simulation.faults.activeKeys

theorem Initial.edges (hinitial : simulation.Initial) : simulation.Edges := by
  have hpending : simulation.pending = [] := by rw [pending, hinitial.idle, List.filterMap_nil]
  have hkeys : simulation.faults.activeKeys = [] :=
    FaultManager.activeKeys_eq_nil hinitial.noAlarms
  constructor <;> simp [Ordered, hinitial.idle, hinitial.noAlarms, hpending, hkeys]

/-- The active alarms stay, and no event becomes due. -/
theorem Edges.of_sublist (hedges : simulation.Edges) (hordered : next.Ordered)
    (hkeys : next.station.alarmKeys = simulation.station.alarmKeys)
    (halarms : next.faults.activeAlarms = simulation.faults.activeAlarms)
    (hpending : next.pending.Sublist simulation.pending) : next.Edges := by
  have hactive : next.faults.activeKeys = simulation.faults.activeKeys :=
    FaultManager.activeKeys_congr halarms
  exact
    { ordered := hordered
      alarms_nodup := hactive ▸ hedges.alarms_nodup
      alarms_active := halarms ▸ hedges.alarms_active
      alarms_sound := halarms ▸ hkeys ▸ hedges.alarms_sound
      pending_nodup := hedges.pending_nodup.sublist (hpending.map _)
      pending_sound := fun event hevent =>
        hkeys ▸ hedges.pending_sound event (hpending.subset hevent)
      pending_active := fun event hevent => by
        rw [hactive]
        exact hedges.pending_active event (hpending.subset hevent) }

/-- The new alarms are those of the events, which tell that they are active. -/
theorem Edges.raised (hedges : simulation.Edges) (hordered : next.Ordered)
    (hkeys : next.station.alarmKeys = simulation.station.alarmKeys)
    (hraises : FaultManager.Raises simulation.station.alarmKeys simulation.faults next.faults
      next.pending) : next.Edges := by
  have hnodup := hraises.nodup hedges.alarms_nodup
  have hactive : next.faults.activeKeys =
      simulation.faults.activeKeys ++ next.pending.map AlarmTransition.key := by
    rw [FaultManager.activeKeys, hraises.alarms, List.map_append, FaultManager.activeKeys]
  exact
    { ordered := hordered
      alarms_nodup := hnodup
      alarms_active := by
        rw [hraises.alarms]
        exact List.forall_mem_append.mpr ⟨hedges.alarms_active, hraises.active⟩
      alarms_sound := by
        rw [hraises.alarms, hkeys]
        exact List.forall_mem_append.mpr ⟨hedges.alarms_sound, hraises.sound⟩
      pending_nodup := (hactive ▸ hnodup).of_append_right
      pending_sound := hkeys ▸ hraises.sound
      pending_active := fun event hevent => by
        rw [hactive]
        exact iff_of_true (hraises.active event hevent)
          (List.mem_append_right _ (List.mem_map_of_mem hevent)) }

/-- No alarm is left, and every one that was there has its event. -/
theorem Edges.cleared (hedges : simulation.Edges) (hordered : next.Ordered)
    (hkeys : next.station.alarmKeys = simulation.station.alarmKeys)
    (halarms : next.faults.activeAlarms = [])
    (hcleared : next.pending = simulation.faults.activeAlarms.map FaultManager.cleared) :
    next.Edges := by
  have hsameKeys : next.pending.map AlarmTransition.key = simulation.faults.activeKeys := by
    rw [hcleared, List.map_map]
    rfl
  have hactive : next.faults.activeKeys = [] := FaultManager.activeKeys_eq_nil halarms
  have hevents : ∀ event ∈ next.pending, ∃ alarm ∈ simulation.faults.activeAlarms,
      FaultManager.cleared alarm = event := by
    rw [hcleared]
    exact fun event hevent => List.mem_map.mp hevent
  exact
    { ordered := hordered
      alarms_nodup := by simp [hactive]
      alarms_active := by simp [halarms]
      alarms_sound := by simp [halarms]
      pending_nodup := hsameKeys ▸ hedges.alarms_nodup
      pending_sound := fun event hevent => by
        obtain ⟨alarm, halarm, rfl⟩ := hevents event hevent
        rw [hkeys]
        exact FaultManager.cleared_sound (hedges.alarms_sound alarm halarm)
      pending_active := fun event hevent => by
        obtain ⟨alarm, -, rfl⟩ := hevents event hevent
        simp [hactive, FaultManager.cleared] }

theorem Edges.step (hedges : simulation.Edges) {event : CycleEvent}
    (hstep : simulation.step event = some next) : next.Edges := by
  obtain ⟨halarmStep, hkeys⟩ := step_alarms hedges.ordered hstep
  have hordered := step_ordered hedges.ordered hstep
  generalize simulation.emitted event = emitted at halarmStep
  cases halarmStep with
  | quiet halarms hpending =>
      refine hedges.of_sublist hordered hkeys halarms ?_
      rw [hpending]
  | emit halarms hpending =>
      refine hedges.of_sublist hordered hkeys halarms ?_
      rw [hpending]
      exact List.sublist_cons_self _ _
  | raise _ hraises => exact hedges.raised hordered hkeys hraises
  | clear _ halarms hcleared => exact hedges.cleared hordered hkeys halarms hcleared

end Simulation

end CrowPanel.Simulator
