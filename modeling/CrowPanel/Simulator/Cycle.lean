import CrowPanel.Library.Machine
import CrowPanel.Simulator.Faults

/-!
# The cycle of the simulator

`run_simulator` repeats one cycle: it reads the variables that clients write, handles a reset, advances
the model, evaluates the alarms, publishes the model and emits the events.  At every `await` the server
may process the requests of clients.  The rest of the cycle is the list `todo` of the actions between
these points; clients may write before each of them.

The compressors are told apart by their places.  Of the variables, the model keeps the ones which the
simulator reads or which mirror a command.
-/

namespace CrowPanel.Simulator

open Library

/-- The variables of one compressor, as far as they are kept. -/
structure CompressorNodes where
  runStatus : Bool := false
  runCommand : Bool := false
  automaticMode : Bool := true
  alarmStatus : Bool := false
  sensorFaultCommand : Bool := false
  deriving DecidableEq

/-- The variables that `publish` writes for a compressor. -/
inductive Signal where
  | temperature
  | motorCurrent
  | runtime
  | runStatus
  | runCommand
  | alarmStatus
  deriving DecidableEq

/-- The variables that `publish` writes for the station. -/
inductive StationSignal where
  | receiverPressure
  | dryerStatus
  | networkPressure
  | airDemand
  | totalPower
  deriving DecidableEq

/-- What the cycle does between two points at which it awaits. -/
inductive Action where
  /-- `read_commands` -/
  | readAutomaticMode (place : ℕ)
  | readRunCommand (place : ℕ)
  | readSensorFaultCommand (place : ℕ)
  | readResetAlarms
  /-- `acknowledge_reset_command` -/
  | clearResetAlarms
  | clearSensorFaultCommand (place : ℕ)
  /-- `station.update` and `fault_manager.evaluate` -/
  | update
  /-- `publish` -/
  | publish (place : ℕ) (signal : Signal)
  | publishStation (signal : StationSignal)
  /-- `emit_alarm_event` -/
  | emit (transition : AlarmTransition)
  deriving DecidableEq

/-- The reads that fetch the commands of a compressor. -/
def Action.isRead : Action → Bool
  | .readAutomaticMode _ | .readRunCommand _ | .readSensorFaultCommand _ => true
  | _ => false

/-- The actions by which the simulator tells what it has computed, and clears commands. -/
def Action.IsOutput (action : Action) : Prop :=
  action.isRead = false ∧ action ≠ .readResetAlarms ∧ action ≠ .update

/-- A variable that a client writes, with the value. -/
inductive ClientWrite where
  | automaticMode (place : ℕ) (value : Bool)
  | runCommand (place : ℕ) (value : Bool)
  | sensorFaultCommand (place : ℕ) (value : Bool)
  | resetAlarms (value : Bool)
  deriving DecidableEq

/-- The simulator between two actions. -/
structure Simulation where
  station : Station
  faults : FaultManager
  updateInterval : ℚ
  compressorNodes : List CompressorNodes
  resetAlarms : Bool := false
  todo : List Action := []
  /-- ghost: the number of cycles that have begun -/
  cycles : ℕ := 0

/-- A cycle begins, it goes on, or a client writes. -/
inductive CycleEvent where
  | beginCycle
  | act (readings : Readings)
  | write (write : ClientWrite)

namespace Simulation

/-- The actions of `read_commands`. -/
def readCommands (compressors : ℕ) : List Action :=
  (List.range compressors).flatMap (fun place =>
    [.readAutomaticMode place, .readRunCommand place, .readSensorFaultCommand place]) ++
    [.readResetAlarms]

/-- The actions of `acknowledge_reset_command`. -/
def acknowledgeResetCommand (compressors : ℕ) : List Action :=
  .clearResetAlarms :: (List.range compressors).map .clearSensorFaultCommand

/-- The actions of `publish`. -/
def publish (compressors : ℕ) : List Action :=
  (List.range compressors).flatMap (fun place =>
    [.publish place .temperature, .publish place .motorCurrent, .publish place .runtime,
      .publish place .runStatus, .publish place .runCommand, .publish place .alarmStatus]) ++
    [.publishStation .receiverPressure, .publishStation .dryerStatus,
      .publishStation .networkPressure, .publishStation .airDemand, .publishStation .totalPower]

def changeCompressor (simulation : Simulation) (place : ℕ) (change : Compressor → Compressor) :
    Simulation :=
  { simulation with
    station :=
      { simulation.station with compressors := simulation.station.compressors.modify place change } }

def changeNodes (simulation : Simulation) (place : ℕ)
    (change : CompressorNodes → CompressorNodes) : Simulation :=
  { simulation with compressorNodes := simulation.compressorNodes.modify place change }

def nodesAt (simulation : Simulation) (place : ℕ) : CompressorNodes :=
  simulation.compressorNodes.getD place {}

/-- `publish` writes one variable of a compressor; the run command only in automatic mode. -/
def publishSignal (simulation : Simulation) (place : ℕ) (signal : Signal) : Simulation :=
  match simulation.station.compressors[place]? with
  | none => simulation
  | some compressor =>
      match signal with
      | .temperature | .motorCurrent | .runtime => simulation
      | .runStatus => simulation.changeNodes place fun nodes =>
          { nodes with runStatus := compressor.isRunning }
      | .runCommand =>
          if compressor.automaticMode then
            simulation.changeNodes place fun nodes =>
              { nodes with runCommand := compressor.isRunning }
          else simulation
      | .alarmStatus => simulation.changeNodes place fun nodes =>
          { nodes with alarmStatus := compressor.alarmActive }

/-- One action, with the rest of the cycle. -/
def act (simulation : Simulation) (readings : Readings) (rest : List Action) : Action → Simulation
  | .readAutomaticMode place =>
      { simulation.changeCompressor place fun compressor =>
          { compressor with automaticMode := (simulation.nodesAt place).automaticMode } with
        todo := rest }
  | .readRunCommand place =>
      { simulation.changeCompressor place fun compressor =>
          { compressor with manualRunCommand := (simulation.nodesAt place).runCommand } with
        todo := rest }
  | .readSensorFaultCommand place =>
      { simulation.changeCompressor place fun compressor =>
          { compressor with
            sensorFaultCommand := (simulation.nodesAt place).sensorFaultCommand } with
        todo := rest }
  | .readResetAlarms =>
      if simulation.resetAlarms then
        let cleared := simulation.faults.reset simulation.station
        { simulation with
          faults := cleared.1
          station := cleared.2.1
          todo := cleared.2.2.map .emit ++
            acknowledgeResetCommand simulation.compressorNodes.length ++ .update :: rest }
      else { simulation with todo := .update :: rest }
  | .clearResetAlarms => { simulation with resetAlarms := false, todo := rest }
  | .clearSensorFaultCommand place =>
      { simulation.changeNodes place fun nodes =>
          { nodes with sensorFaultCommand := false } with
        todo := rest }
  | .update =>
      let station := simulation.station.update readings
      let evaluated := simulation.faults.evaluate station simulation.updateInterval
      { simulation with
        faults := evaluated.1
        station := evaluated.2.1
        todo := publish station.compressors.length ++ evaluated.2.2.map .emit ++ rest }
  | .publish place signal => { simulation.publishSignal place signal with todo := rest }
  | .publishStation _ | .emit _ => { simulation with todo := rest }

/-- The server processes a client's write. -/
def clientWrite (simulation : Simulation) : ClientWrite → Simulation
  | .automaticMode place value => simulation.changeNodes place fun nodes =>
      { nodes with automaticMode := value }
  | .runCommand place value => simulation.changeNodes place fun nodes =>
      { nodes with runCommand := value }
  | .sensorFaultCommand place value => simulation.changeNodes place fun nodes =>
      { nodes with sensorFaultCommand := value }
  | .resetAlarms value => { simulation with resetAlarms := value }

def step (simulation : Simulation) : CycleEvent → Option Simulation
  | .beginCycle =>
      if simulation.todo = [] then
        some
          { simulation with
            todo := readCommands simulation.station.compressors.length
            cycles := simulation.cycles + 1 }
      else none
  | .act readings =>
      match simulation.todo with
      | [] => none
      | action :: rest => some (simulation.act readings rest action)
  | .write write => some (simulation.clientWrite write)

/-- A simulator that has not begun a cycle; there are variables for each of its compressors. -/
structure Initial (simulation : Simulation) : Prop where
  idle : simulation.todo = []
  noAlarms : simulation.faults.activeAlarms = []
  nodes : simulation.compressorNodes.length = simulation.station.compressors.length

def machine : Machine Simulation CycleEvent where
  start := Initial
  step := step

/-! ## The order of a cycle -/

/-- What may still follow an action: nothing follows the read that ends `read_commands` or an update
before it is carried out, and reads come first. -/
def Precedes (first second : Action) : Prop :=
  first ≠ .readResetAlarms ∧ first ≠ .update ∧ (second.isRead = true → first.isRead = true)

/-- The rest of the cycle is in the order of the source. -/
def Ordered (simulation : Simulation) : Prop :=
  simulation.todo.Pairwise Precedes

variable {simulation next : Simulation} {readings : Readings} {rest : List Action}

theorem readCommands_ordered (compressors : ℕ) : (readCommands compressors).Pairwise Precedes := by
  have hreads : ∀ action ∈ (List.range compressors).flatMap (fun place =>
      [Action.readAutomaticMode place, .readRunCommand place, .readSensorFaultCommand place]),
      action.isRead = true := by
    intro action haction
    obtain ⟨place, -, hmem⟩ := List.mem_flatMap.mp haction
    simp only [List.mem_cons, List.not_mem_nil, or_false] at hmem
    rcases hmem with rfl | rfl | rfl <;> rfl
  have hprecedes (first second : Action) (hfirst : first.isRead = true) :
      Precedes first second := by
    refine ⟨?_, ?_, fun _ => hfirst⟩ <;> rintro rfl <;> cases hfirst
  refine List.pairwise_append.mpr ⟨?_, List.pairwise_singleton _ _, fun first hfirst second _ => ?_⟩
  · exact List.pairwise_of_forall_mem_list fun first hfirst second _ =>
      hprecedes first second (hreads first hfirst)
  · exact hprecedes first second (hreads first hfirst)

/-- Actions other than reads and updates may stand in any order. -/
theorem pairwise_of_output {actions : List Action}
    (houtput : ∀ action ∈ actions, action.IsOutput) : actions.Pairwise Precedes := by
  refine List.pairwise_of_forall_mem_list fun first hfirst second hsecond => ?_
  obtain ⟨-, hreset, hupdate⟩ := houtput first hfirst
  refine ⟨hreset, hupdate, fun hread => ?_⟩
  rw [(houtput second hsecond).1] at hread
  cases hread

theorem publish_output (compressors : ℕ) : ∀ action ∈ publish compressors, action.IsOutput := by
  intro action haction
  rcases List.mem_append.mp haction with hcompressor | hstation
  · obtain ⟨place, -, hmem⟩ := List.mem_flatMap.mp hcompressor
    simp only [List.mem_cons, List.not_mem_nil, or_false] at hmem
    rcases hmem with rfl | rfl | rfl | rfl | rfl | rfl <;> exact ⟨rfl, by simp, by simp⟩
  · simp only [List.mem_cons, List.not_mem_nil, or_false] at hstation
    rcases hstation with rfl | rfl | rfl | rfl | rfl <;> exact ⟨rfl, by simp, by simp⟩

theorem emit_output (transitions : List AlarmTransition) : ∀ action ∈ transitions.map Action.emit,
    action.IsOutput := by
  intro action haction
  obtain ⟨transition, -, rfl⟩ := List.mem_map.mp haction
  exact ⟨rfl, by simp, by simp⟩

theorem acknowledge_output (compressors : ℕ) : ∀ action ∈ acknowledgeResetCommand compressors,
    action.IsOutput := by
  intro action haction
  rcases List.mem_cons.mp haction with rfl | hmem
  · exact ⟨rfl, by simp, by simp⟩
  · obtain ⟨place, -, rfl⟩ := List.mem_map.mp hmem
    exact ⟨rfl, by simp, by simp⟩

/-- The read that ends `read_commands` is the last action until it is carried out. -/
theorem Ordered.rest_of_readResetAlarms (hordered : simulation.Ordered)
    (htodo : simulation.todo = .readResetAlarms :: rest) : rest = [] := by
  rw [Ordered, htodo] at hordered
  cases rest with
  | nil => rfl
  | cons second rest => exact absurd rfl (List.rel_of_pairwise_cons hordered List.mem_cons_self).1

theorem Ordered.rest_of_update (hordered : simulation.Ordered)
    (htodo : simulation.todo = .update :: rest) : rest = [] := by
  rw [Ordered, htodo] at hordered
  cases rest with
  | nil => rfl
  | cons second rest => exact absurd rfl (List.rel_of_pairwise_cons hordered List.mem_cons_self).2.1

/-- After an action that is no read there are no reads. -/
theorem Ordered.no_read (hordered : simulation.Ordered) {action other : Action}
    (htodo : simulation.todo = action :: rest) (haction : action.isRead = false)
    (hother : other ∈ rest) : other.isRead = false := by
  rw [Ordered, htodo] at hordered
  have hprecedes := (List.rel_of_pairwise_cons hordered hother).2.2
  rw [haction] at hprecedes
  exact Bool.eq_false_iff.mpr fun hread => Bool.false_ne_true (hprecedes hread)

theorem act_ordered (hordered : simulation.Ordered) {action : Action}
    (htodo : simulation.todo = action :: rest) : (simulation.act readings rest action).Ordered := by
  have hrest : rest.Pairwise Precedes := by
    rw [Ordered, htodo] at hordered
    exact hordered.of_cons
  cases action with
  | readResetAlarms =>
      obtain rfl := hordered.rest_of_readResetAlarms htodo
      simp only [Ordered, act]
      split
      · have houtput : ∀ action ∈ (simulation.faults.reset simulation.station).2.2.map Action.emit ++
            acknowledgeResetCommand simulation.compressorNodes.length, action.IsOutput := by
          intro action haction
          rcases List.mem_append.mp haction with hemit | hclear
          · exact emit_output _ action hemit
          · exact acknowledge_output _ action hclear
        refine List.pairwise_append.mpr ⟨pairwise_of_output houtput, List.pairwise_singleton _ _,
          fun first hfirst second hsecond => ?_⟩
        obtain rfl := List.mem_singleton.mp hsecond
        exact ⟨(houtput first hfirst).2.1, (houtput first hfirst).2.2, by simp [Action.isRead]⟩
      · exact List.pairwise_singleton _ _
  | update =>
      obtain rfl := hordered.rest_of_update htodo
      simp only [Ordered, act, List.append_nil]
      refine pairwise_of_output fun action haction => ?_
      rcases List.mem_append.mp haction with hpublish | hemit
      · exact publish_output _ action hpublish
      · exact emit_output _ action hemit
  | _ => exact hrest

theorem step_ordered (hordered : simulation.Ordered) {event : CycleEvent}
    (hstep : simulation.step event = some next) : next.Ordered := by
  cases event with
  | beginCycle =>
      simp only [step] at hstep
      split at hstep
      · obtain rfl := Option.some.inj hstep
        exact readCommands_ordered _
      · cases hstep
  | act readings =>
      simp only [step] at hstep
      split at hstep
      · cases hstep
      · rename_i action rest htodo
        obtain rfl := Option.some.inj hstep
        exact act_ordered hordered htodo
  | write write =>
      obtain rfl := Option.some.inj hstep
      cases write <;> exact hordered

end Simulation

end CrowPanel.Simulator
