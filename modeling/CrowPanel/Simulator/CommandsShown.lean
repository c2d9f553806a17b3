import CrowPanel.Simulator.Commands
import CrowPanel.Simulator.Snapshot

/-!
# Commands come back

An operator takes a compressor over and commands it to run or to stop.  The simulator reads the
command, updates its model, and publishes whether the compressor runs.  So the operator sees the command
carried out, in the first whole cycle after it and from then on until the next command.

## Strategy

`Commands` follows a command from its variable into the model, `Snapshot` what is published from the
model into the variables.  Between them lies the update: after it a compressor in manual mode does what
its command says (`updated_follows`).
-/

namespace CrowPanel.Simulator

open Library OpcUa

/-- In manual mode a compressor does what its command says. -/
def Compressor.FollowsCommand (compressor : Compressor) : Prop :=
  compressor.automaticMode = false → compressor.isRunning = compressor.manualRunCommand

theorem Compressor.update_followsCommand (compressor : Compressor) (reading : CompressorReading) :
    (compressor.update reading).FollowsCommand := by
  intro hmanual
  have hmode : compressor.automaticMode = false := hmanual
  show (if compressor.automaticMode then _ else _) = _
  rw [hmode]
  rfl

/-- An update makes every compressor follow its command; the alarms change nothing about that. -/
theorem evaluate_followsCommand (faults : FaultManager) (station : Station) (readings : Readings)
    (elapsedSeconds : ℚ) :
    ∀ compressor ∈ (faults.evaluate (station.update readings) elapsedSeconds).2.1.compressors,
      compressor.FollowsCommand := by
  intro compressor hmem
  have hparts := faults.evaluateCompressors_parts elapsedSeconds (station.update readings).compressors
  have hpart := List.mem_map_of_mem (f := Compressor.part) hmem
  rw [show (faults.evaluate (station.update readings) elapsedSeconds).2.1.compressors =
    (faults.evaluateCompressors elapsedSeconds (station.update readings).compressors).2.1 from rfl,
    hparts] at hpart
  obtain ⟨other, hother, hsame⟩ := List.mem_map.mp hpart
  obtain ⟨place, hplace, rfl⟩ := List.mem_mapIdx.mp hother
  have hfollows :
      (Compressor.update station.compressors[place] (readings.compressor place)).part.FollowsCommand :=
    Compressor.update_followsCommand _ _
  rw [hsame] at hfollows
  exact hfollows

namespace WholeSimulation

variable {configuration : EquipmentConfiguration} {whole next : WholeSimulation} {event : WholeEvent}

/-- Where only outputs are left, the last step was one of them or a client's write, or the update. -/
theorem updated_cases (hfresh : whole.Fresh) (hstep : whole.step event = some next)
    (hupdated : Updated next.simulation) :
    (Updated whole.simulation ∧ next.simulation.station = whole.simulation.station ∧
        next.simulation.cycles = whole.simulation.cycles) ∨
      ∃ readings, next.simulation.station =
        (whole.simulation.faults.evaluate (whole.simulation.station.update readings)
          whole.simulation.updateInterval).2.1 := by
  cases event with
  | beginCycle =>
      exfalso
      obtain ⟨simulation, hsimulation, rfl⟩ := Option.map_eq_some_iff.mp hstep
      obtain ⟨-, hbegun⟩ := Option.ite_none_right_eq_some.mp hsimulation
      obtain rfl := Option.some.inj hbegun
      exact (hupdated _ (List.mem_append_right _ List.mem_cons_self)).2.1 rfl
  | write write =>
      obtain rfl := Option.some.inj hstep
      left
      cases write with
      | _ => exact ⟨hupdated, rfl, rfl⟩
  | act slowSine fastSine draw =>
      obtain ⟨action, rest, htodo, hnext, -⟩ := step_act hstep
      rw [hnext] at hupdated ⊢
      -- until the update there is something ahead that is no output
      cases hread : action.isRead with
      | true =>
          exfalso
          have hrest : ∀ readings, (whole.simulation.act readings rest action).todo = rest := by
            intro readings
            cases action with
            | readAutomaticMode | readRunCommand | readSensorFaultCommand => rfl
            | _ => cases hread
          rw [Updated, hrest] at hupdated
          exact (hupdated _ (hfresh.reset_ahead htodo hread)).2.1 rfl
      | false =>
          by_cases hreset : action = .readResetAlarms
          · exfalso
            subst hreset
            obtain ⟨outputs, -, hactions⟩ := hfresh.update_ahead htodo _
            rw [Updated, hactions] at hupdated
            exact (hupdated _ (List.mem_append_right _ List.mem_cons_self)).2.2 rfl
          · by_cases hupdate : action = .update
            · right
              subst hupdate
              exact ⟨_, rfl⟩
            · left
              have houtput : action.IsOutput := ⟨hread, hreset, hupdate⟩
              obtain ⟨hstation, hrest, hcycles, -⟩ :=
                act_output houtput (whole.model.readings whole.simulation.updateInterval slowSine
                  fastSine) rest slowSine fastSine
              refine ⟨?_, hstation, hcycles⟩
              intro other hother
              rw [htodo] at hother
              rw [Updated, hrest] at hupdated
              rcases List.mem_cons.mp hother with rfl | hmem
              · exact houtput
              · exact hupdated other hmem

/-- After the update of a cycle, and until the next cycle begins, compressors in manual mode do what
their commands say. -/
theorem updated_follows (hreached : (machine configuration).ReachedBy Physical whole)
    (hbegun : 0 < whole.simulation.cycles) (hupdated : Updated whole.simulation) :
    ∀ compressor ∈ whole.simulation.station.compressors, compressor.FollowsCommand := by
  induction hreached with
  | start hstart =>
      rw [hstart.cycles] at hbegun
      exact absurd hbegun (lt_irrefl 0)
  | @step whole next event hbefore _ hstep ih =>
      rcases updated_cases (fresh hbefore) hstep hupdated with
        ⟨hupdatedBefore, hstation, hcycles⟩ | ⟨readings, hstation⟩
      · rw [hstation]
        exact ih (hcycles ▸ hbegun) hupdatedBefore
      · rw [hstation]
        exact evaluate_followsCommand _ _ readings _

/-! ## Commands -/

/-- The whole simulator beside the commands of the operator. -/
def commandMachine (configuration : EquipmentConfiguration) :
    Machine (WholeSimulation × (ℕ → Option Simulation.Command)) WholeEvent :=
  (machine configuration).withHistory (fun _ => none) fun whole event commands =>
    Simulation.noteCommand whole.simulation (whole.cycleEvent event) commands

/-- Steps are physical, and no command arrives while the cycle is bound to mirror the running state,
unless it asks for just this state. -/
def Undisturbed (state : WholeSimulation × (ℕ → Option Simulation.Command)) (event : WholeEvent) :
    Prop :=
  state.1.Physical event ∧ state.1.simulation.CommandKept (state.1.cycleEvent event)

instance (state : WholeSimulation × (ℕ → Option Simulation.Command)) (event : WholeEvent) :
    Decidable (Undisturbed state event) :=
  inferInstanceAs (Decidable (_ ∧ _))

theorem obeys_of_reached {state : WholeSimulation × (ℕ → Option Simulation.Command)}
    (hreached : (commandMachine configuration).ReachedBy Undisturbed state) :
    Simulation.Obeys (state.1.simulation, state.2) := by
  induction hreached with
  | @start state hstart =>
      obtain ⟨hwhole, hnone⟩ := hstart
      refine ⟨?_, fun place command hcommand => ?_⟩
      · show state.1.simulation.todo.Pairwise Simulation.Precedes
        rw [hwhole.initial.idle]
        exact .nil
      · have hcommanded : state.2 place = some command := hcommand
        rw [hnone] at hcommanded
        cases hcommanded
  | @step state next event hbefore hok hstep ih =>
      obtain ⟨hmove, hnote⟩ := Machine.withHistory_step hstep
      refine Simulation.step_obeys ih hok.2 ?_
      show (state.1.simulation.step (state.1.cycleEvent event)).map _ = _
      rw [step_simulation hmove, hnote]
      rfl

/-- **A command comes back to the operator.**  In a run in which no command arrives while the cycle is
bound to mirror the running state, unless it asks for just this state: after the update of a cycle that
began later than the command, and until the next cycle begins, the command is still in its variable,
the compressor runs if and only if it says so, and the run status shows it as soon as it is
published. -/
theorem command_shown {state : WholeSimulation × (ℕ → Option Simulation.Command)} {place : ℕ}
    {command : Simulation.Command}
    (hreached : (commandMachine configuration).ReachedBy Undisturbed state)
    (hcommand : state.2 place = some command) (hlater : command.cycle < state.1.simulation.cycles)
    (hupdated : Updated state.1.simulation)
    (hplace : place < state.1.simulation.station.compressors.length) :
    (state.1.simulation.nodesAt place).runCommand = command.value ∧
      (∀ compressor ∈ state.1.simulation.station.compressors[place]?,
        compressor.isRunning = command.value) ∧
      (.publish place .runStatus ∉ state.1.simulation.todo →
        state.1.values (.compressor place .runStatus) = .boolean command.value) := by
  have hwhole : (machine configuration).ReachedBy Physical state.1 :=
    Machine.ReachedBy.forget (fun _ _ hok => hok.1) hreached
  have hcommanded := (obeys_of_reached hreached).commanded place command hcommand
  have hbegun : 0 < state.1.simulation.cycles := (Nat.zero_le _).trans_lt hlater
  have hnoRead : ∀ {action : Action}, action.isRead = true → action ∉ state.1.simulation.todo := by
    intro action hread hmem
    rw [(hupdated action hmem).1] at hread
    cases hread
  have hruns : ∀ compressor ∈ state.1.simulation.station.compressors[place]?,
      compressor.isRunning = command.value := by
    intro compressor hcompressor
    have hcopy : compressor.command ∈ Simulation.copyAt state.1.simulation place := by
      simp [Simulation.copyAt, Option.mem_def.mp hcompressor]
    -- the reads of this cycle are over, and it began after the command
    have hmanual := (hcommanded.manual hlater).resolve_left (hnoRead rfl)
    have hcopied := (hcommanded.copied hlater).resolve_left (hnoRead rfl)
    have hfollows := updated_follows hwhole hbegun hupdated compressor
      (List.mem_of_getElem? hcompressor)
    calc compressor.isRunning
        = compressor.manualRunCommand := hfollows (hmanual _ hcopy)
      _ = command.value := hcopied _ hcopy
  refine ⟨hcommanded.runCommand, hruns, fun hwritten => ?_⟩
  have htarget : state.1.Publishes (.compressor place .runStatus) := by
    refine ⟨hplace, ?_⟩
    intro hsame
    cases hsame
  obtain ⟨draw, -, hpublished⟩ := (fresh hwhole).tells hbegun hupdated _ htarget hwritten
  obtain ⟨compressor, hcompressor, hrest⟩ := Option.bind_eq_some_iff.mp hpublished
  obtain ⟨part, -, hsignal⟩ := Option.bind_eq_some_iff.mp hrest
  rw [← Option.some.inj hsignal, hruns compressor hcompressor]

/-- The operator makes the third compressor run, before a cycle that publishes its run status. -/
private def startedEvents : List WholeEvent :=
  [.write (.automaticMode 2 false), .write (.runCommand 2 true), .beginCycle] ++
    List.replicate 27 (.act 0 0 0)

private def startedFrom : WholeSimulation × (ℕ → Option Simulation.Command) :=
  (init StationModel.equipment alarmRules (1 / 10) fun _ => .boolean false, fun _ => none)

private theorem startedEvents_isSome :
    ((commandMachine StationModel.equipment).replay startedFrom startedEvents).isSome := by
  decide +kernel

private def started : WholeSimulation × (ℕ → Option Simulation.Command) :=
  ((commandMachine StationModel.equipment).replay startedFrom startedEvents).get startedEvents_isSome

theorem command_shown_started : started.1.values (.compressor 2 .runStatus) = .boolean true := by
  have hstart : (commandMachine StationModel.equipment).start startedFrom := ⟨init_starts _ _ _ _, rfl⟩
  have hreached : (commandMachine StationModel.equipment).ReachedBy Undisturbed started :=
    Machine.ReachedBy.replay (.start hstart) (by decide +kernel)
      (Option.some_get startedEvents_isSome).symm
  have hcommand : started.2 2 = some ⟨true, 0⟩ := by decide +kernel
  have hupdated : Updated started.1.simulation := by decide +kernel
  obtain ⟨-, -, hshown⟩ := command_shown hreached hcommand (by decide +kernel) hupdated
    (by decide +kernel)
  exact hshown (by decide +kernel)

end WholeSimulation

end CrowPanel.Simulator
