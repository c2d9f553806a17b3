import CrowPanel.Library.KeyedSlots
import CrowPanel.Simulator.Cycle

/-!
# Operator commands

The HMI takes a compressor over by two writes: it turns the automatic mode off and then writes the run
command.  In automatic mode `publish` mirrors the running state into the run command, and whether the
compressor is in automatic mode it takes from the copy that `read_commands` made at the beginning of
the cycle.  Both writes may arrive in between, and then the command is overwritten and lost.

## Strategy

A history variable remembers the last command of each compressor, with the cycle it arrived in, until
the HMI writes again.  If the command does not arrive while the cycle is bound to mirror
(`MirrorsRun`), or asks for what will be mirrored (`Mirrors`), then until the automatic mode is read
again nothing in the cycle overwrites it with something else, and from that read on the simulator knows
that the automatic mode is off (`Commanded`).
-/

namespace CrowPanel.Simulator

open Library

/-- The commands of a compressor as the model has copied them. -/
def Compressor.command (compressor : Compressor) : Bool × Bool :=
  (compressor.automaticMode, compressor.manualRunCommand)

/-! ## The model keeps the copies -/

namespace FaultManager

variable (faults : FaultManager)

theorem evaluateCompressor_command (compressor : Compressor) (elapsedSeconds : ℚ) :
    (faults.evaluateCompressor compressor elapsedSeconds).2.1.command = compressor.command := rfl

theorem evaluateCompressors_command (elapsedSeconds : ℚ) (compressors : List Compressor) :
    (faults.evaluateCompressors elapsedSeconds compressors).2.1.map Compressor.command =
      compressors.map Compressor.command := by
  induction compressors generalizing faults with
  | nil => rfl
  | cons compressor compressors ih =>
      have hrest := ih (faults.evaluateCompressor compressor elapsedSeconds).1
      exact congrArg₂ List.cons (faults.evaluateCompressor_command compressor elapsedSeconds) hrest

theorem evaluate_command (station : Station) (elapsedSeconds : ℚ) :
    (faults.evaluate station elapsedSeconds).2.1.compressors.map Compressor.command =
      station.compressors.map Compressor.command :=
  faults.evaluateCompressors_command elapsedSeconds station.compressors

end FaultManager

theorem Station.update_command (station : Station) (readings : Readings) :
    (station.update readings).compressors.map Compressor.command =
      station.compressors.map Compressor.command := by
  refine List.ext_getElem? fun place => ?_
  simp only [Station.update, List.getElem?_map, List.getElem?_mapIdx]
  cases station.compressors[place]? <;> rfl

namespace Simulation

/-! ## Commands -/

/-- A command that the HMI has written, with the number of the cycle in which it arrived. -/
structure Command where
  value : Bool
  cycle : ℕ
  deriving DecidableEq

/-- The commands of the HMI: a run command counts when the automatic mode is off, and only until the
next write of one of the two variables. -/
def noteCommand (simulation : Simulation) (event : CycleEvent) (commands : ℕ → Option Command) :
    ℕ → Option Command :=
  match event with
  | .write (.automaticMode place _) => Function.update commands place none
  | .write (.runCommand place value) =>
      Function.update commands place
        (if (simulation.nodesAt place).automaticMode then none
          else some ⟨value, simulation.cycles⟩)
  | _ => commands

/-- The simulator with the commands of the HMI. -/
def commandMachine : Machine (Simulation × (ℕ → Option Command)) CycleEvent :=
  machine.withHistory (fun _ => none) noteCommand

/-- The cycle still has to publish the run command. -/
def PublishAhead (simulation : Simulation) (place : ℕ) : Prop :=
  .readResetAlarms ∈ simulation.todo ∨ .update ∈ simulation.todo ∨
    .publish place .runCommand ∈ simulation.todo

/-- The running state of a compressor. -/
def runningAt (simulation : Simulation) (place : ℕ) : Option Bool :=
  (simulation.station.compressors.map Compressor.isRunning)[place]?

/-- The update of the cycle is over, and the running state is this one. -/
def Mirrors (simulation : Simulation) (place : ℕ) (value : Bool) : Prop :=
  .readResetAlarms ∉ simulation.todo ∧ .update ∉ simulation.todo ∧
    ∀ running ∈ simulation.runningAt place, running = value

/-- The commands that the model has copied for a compressor. -/
def copyAt (simulation : Simulation) (place : ℕ) : Option (Bool × Bool) :=
  (simulation.station.compressors.map Compressor.command)[place]?

/-- The copy says that the compressor is not in automatic mode. -/
def ManualCopied (simulation : Simulation) (place : ℕ) : Prop :=
  ∀ copy ∈ simulation.copyAt place, copy.1 = false

/-- The cycle has found the compressor in automatic mode and will mirror its running state. -/
def MirrorsRun (simulation : Simulation) (place : ℕ) : Prop :=
  simulation.PublishAhead place ∧ .readAutomaticMode place ∉ simulation.todo ∧
    ¬simulation.ManualCopied place

/-- A run command that follows the end of the automatic mode does not arrive while the cycle is bound
to mirror the running state, unless the command asks for just this state. -/
def CommandKept (simulation : Simulation) : CycleEvent → Prop
  | .write (.runCommand place value) =>
      (simulation.nodesAt place).automaticMode = false →
        ¬simulation.MirrorsRun place ∨ simulation.Mirrors place value
  | _ => True

/-- The command is in its variable; once its cycle is over the model has copied it as well. -/
structure Commanded (simulation : Simulation) (place : ℕ) (command : Command) : Prop where
  runCommand : (simulation.nodesAt place).runCommand = command.value
  automaticMode : (simulation.nodesAt place).automaticMode = false
  notMirrored : simulation.PublishAhead place →
    .readAutomaticMode place ∈ simulation.todo ∨ simulation.ManualCopied place ∨
      simulation.Mirrors place command.value
  manual : command.cycle < simulation.cycles →
    .readAutomaticMode place ∈ simulation.todo ∨ simulation.ManualCopied place
  copied : command.cycle < simulation.cycles → .readRunCommand place ∈ simulation.todo ∨
    ∀ copy ∈ simulation.copyAt place, copy.2 = command.value

variable {simulation next : Simulation} {place : ℕ} {command : Command} {readings : Readings}
  {action : Action} {rest : List Action}

/-! ## One action -/

theorem changeNodes_nodesAt (simulation : Simulation) (place : ℕ)
    (change : CompressorNodes → CompressorNodes) (other : ℕ)
    (hrun : ∀ nodes, (change nodes).runCommand = nodes.runCommand)
    (hauto : ∀ nodes, (change nodes).automaticMode = nodes.automaticMode) :
    ((simulation.changeNodes other change).nodesAt place).runCommand =
        (simulation.nodesAt place).runCommand ∧
      ((simulation.changeNodes other change).nodesAt place).automaticMode =
        (simulation.nodesAt place).automaticMode := by
  simp only [changeNodes, nodesAt, List.getD_eq_getElem?_getD, List.getElem?_modify]
  cases simulation.compressorNodes[place]? with
  | none => simp
  | some nodes =>
      by_cases hplace : other = place <;> simp [hplace, hrun, hauto]

theorem changeNodes_nodesAt_of_ne (simulation : Simulation)
    (change : CompressorNodes → CompressorNodes) {other : ℕ} (hother : other ≠ place) :
    (simulation.changeNodes other change).nodesAt place = simulation.nodesAt place := by
  simp [changeNodes, nodesAt, hother]

/-- A run command that is written again. -/
theorem changeNodes_nodesAt_mirrored {running : Bool}
    (hrunning : running = (simulation.nodesAt place).runCommand) :
    (simulation.changeNodes place fun nodes => { nodes with runCommand := running }).nodesAt place =
      simulation.nodesAt place := by
  subst hrunning
  simp only [changeNodes, nodesAt, List.getD_eq_getElem?_getD, List.getElem?_modify_eq]
  cases simulation.compressorNodes[place]? <;> rfl

theorem changeCompressor_copyAt (change : Compressor → Compressor) (other : ℕ)
    (hcommand : ∀ compressor, (change compressor).command = compressor.command) :
    (simulation.changeCompressor other change).copyAt place = simulation.copyAt place := by
  rw [copyAt, changeCompressor, KeyedSlots.map_modify hcommand, copyAt]

theorem changeCompressor_runningAt (change : Compressor → Compressor) (other : ℕ)
    (hrunning : ∀ compressor, (change compressor).isRunning = compressor.isRunning) :
    (simulation.changeCompressor other change).runningAt place = simulation.runningAt place := by
  rw [runningAt, changeCompressor, KeyedSlots.map_modify hrunning, runningAt]

theorem changeCompressor_copyAt_of_ne (change : Compressor → Compressor) {other : ℕ}
    (hother : other ≠ place) :
    (simulation.changeCompressor other change).copyAt place = simulation.copyAt place := by
  simp [changeCompressor, copyAt, hother]

/-- The copy of a compressor that is changed comes from the copy before. -/
theorem copyAt_changeCompressor (change : Compressor → Compressor) {place : ℕ}
    {copy : Bool × Bool} (hcopy : copy ∈ (simulation.changeCompressor place change).copyAt place) :
    ∃ compressor : Compressor, compressor.command ∈ simulation.copyAt place ∧
      (change compressor).command = copy := by
  simp only [changeCompressor, copyAt, List.getElem?_map, List.getElem?_modify] at hcopy ⊢
  cases hcompressor : simulation.station.compressors[place]? with
  | none => simp [hcompressor] at hcopy
  | some compressor =>
      refine ⟨compressor, rfl, ?_⟩
      simpa [hcompressor] using hcopy

/-- What matters to a command. -/
structure SameCommands (simulation next : Simulation) (place : ℕ) : Prop where
  runCommand : (next.nodesAt place).runCommand = (simulation.nodesAt place).runCommand
  automaticMode : (next.nodesAt place).automaticMode = (simulation.nodesAt place).automaticMode
  copyAt : next.copyAt place = simulation.copyAt place

/-- What is mirrored stays the same without an update. -/
theorem Mirrors.mono {value : Bool} (hmirrors : simulation.Mirrors place value)
    (hsubset : ∀ action ∈ next.todo, action ∈ simulation.todo)
    (hrunning : next.runningAt place = simulation.runningAt place) : next.Mirrors place value := by
  obtain ⟨hreset, hupdate, hvalue⟩ := hmirrors
  exact ⟨mt (hsubset _) hreset, mt (hsubset _) hupdate, hrunning ▸ hvalue⟩

/-- A step that touches none of it, carries out no read and brings no publication closer. -/
theorem Commanded.congr (hcommanded : Commanded simulation place command)
    (hsame : SameCommands simulation next place) (hcycles : next.cycles = simulation.cycles)
    (hautomatic : .readAutomaticMode place ∈ simulation.todo → .readAutomaticMode place ∈ next.todo)
    (hrun : .readRunCommand place ∈ simulation.todo → .readRunCommand place ∈ next.todo)
    (hahead : next.PublishAhead place → simulation.PublishAhead place)
    (hmirrors : simulation.Mirrors place command.value → next.Mirrors place command.value) :
    Commanded next place command where
  runCommand := hsame.runCommand.trans hcommanded.runCommand
  automaticMode := hsame.automaticMode.trans hcommanded.automaticMode
  notMirrored hpublish := by
    rw [ManualCopied, hsame.copyAt]
    exact (hcommanded.notMirrored (hahead hpublish)).imp hautomatic (Or.imp_right hmirrors)
  manual hlater := by
    rw [ManualCopied, hsame.copyAt]
    exact (hcommanded.manual (hcycles ▸ hlater)).imp_left hautomatic
  copied hlater := by
    rw [hsame.copyAt]
    exact (hcommanded.copied (hcycles ▸ hlater)).imp_left hrun

theorem PublishAhead.mono (hahead : next.PublishAhead place)
    (hsubset : ∀ action ∈ next.todo, action ∈ simulation.todo) : simulation.PublishAhead place :=
  hahead.imp (hsubset _) fun hlater => hlater.imp (hsubset _) (hsubset _)

/-- An action that is done with leaves the other ones to do. -/
theorem mem_rest {other : Action} (htodo : simulation.todo = action :: rest)
    (hother : other ∈ simulation.todo) (hne : other ≠ action) : other ∈ rest := by
  rw [htodo] at hother
  exact (List.mem_cons.mp hother).resolve_left hne

/-- An action that carries out no read for the compressor and touches none of its commands. -/
theorem Commanded.after_action (hcommanded : Commanded simulation place command)
    (htodo : simulation.todo = action :: rest) (hautomatic : action ≠ .readAutomaticMode place)
    (hrun : action ≠ .readRunCommand place) (hrest : next.todo = rest)
    (hsame : SameCommands simulation next place) (hcycles : next.cycles = simulation.cycles)
    (hrunning : next.runningAt place = simulation.runningAt place) :
    Commanded next place command := by
  have hsubset : ∀ other ∈ next.todo, other ∈ simulation.todo := by
    intro other hother
    rw [htodo, ← hrest]
    exact List.mem_cons_of_mem _ hother
  refine hcommanded.congr hsame hcycles (fun hmem => ?_) (fun hmem => ?_) (fun hahead => ?_)
    fun hmirrors => ?_
  · exact hrest ▸ mem_rest htodo hmem hautomatic.symm
  · exact hrest ▸ mem_rest htodo hmem hrun.symm
  · exact hahead.mono hsubset
  · exact hmirrors.mono hsubset hrunning

theorem publishSignal_cycles (other : ℕ) (signal : Signal) :
    (simulation.publishSignal other signal).cycles = simulation.cycles := by
  unfold publishSignal
  split
  · rfl
  · cases signal with
    | runCommand =>
        dsimp only
        split <;> rfl
    | _ => rfl

theorem publishSignal_station (other : ℕ) (signal : Signal) :
    (simulation.publishSignal other signal).station = simulation.station := by
  unfold publishSignal
  split
  · rfl
  · cases signal with
    | runCommand =>
        dsimp only
        split <;> rfl
    | _ => rfl

/-- Publishing overwrites a command only when it mirrors a running state that is another one. -/
theorem publishSignal_same {other : ℕ} {signal : Signal}
    (hmirror : signal = .runCommand → other = place → simulation.ManualCopied place ∨
      ∀ running ∈ simulation.runningAt place, running = (simulation.nodesAt place).runCommand) :
    SameCommands simulation (simulation.publishSignal other signal) place := by
  unfold publishSignal
  cases hcompressor : simulation.station.compressors[other]? with
  | none => exact ⟨rfl, rfl, rfl⟩
  | some compressor =>
      cases signal with
      | temperature | motorCurrent | runtime => exact ⟨rfl, rfl, rfl⟩
      | runStatus =>
          obtain ⟨hrun, hautomatic⟩ := changeNodes_nodesAt simulation place
            (fun nodes => { nodes with runStatus := compressor.isRunning }) other (fun _ => rfl)
            fun _ => rfl
          exact ⟨hrun, hautomatic, rfl⟩
      | alarmStatus =>
          obtain ⟨hrun, hautomatic⟩ := changeNodes_nodesAt simulation place
            (fun nodes => { nodes with alarmStatus := compressor.alarmActive }) other (fun _ => rfl)
            fun _ => rfl
          exact ⟨hrun, hautomatic, rfl⟩
      | runCommand =>
          dsimp only
          split
          · rename_i hon
            by_cases hother : other = place
            · subst hother
              rcases hmirror rfl rfl with hmanual | hequal
              · have hoff := hmanual compressor.command (by simp [copyAt, hcompressor])
                simp [Compressor.command, hon] at hoff
              · have hrunning := hequal compressor.isRunning (by simp [runningAt, hcompressor])
                have hnodes := changeNodes_nodesAt_mirrored hrunning
                exact ⟨congrArg _ hnodes, congrArg _ hnodes, rfl⟩
            · have hnodes := changeNodes_nodesAt_of_ne simulation
                (fun nodes => { nodes with runCommand := compressor.isRunning }) hother
              exact ⟨congrArg _ hnodes, congrArg _ hnodes, rfl⟩
          · exact ⟨rfl, rfl, rfl⟩

/-- The cycle reads the automatic mode of the compressor, which is off. -/
theorem readAutomaticMode_commanded (hcommanded : Commanded simulation place command)
    (htodo : simulation.todo = .readAutomaticMode place :: rest) :
    Commanded (simulation.act readings rest (.readAutomaticMode place)) place command := by
  have hcopy : ∀ copy ∈ (simulation.act readings rest (.readAutomaticMode place)).copyAt place,
      copy.1 = false ∧ ∃ before ∈ simulation.copyAt place, before.2 = copy.2 := by
    intro copy hcopy
    obtain ⟨compressor, hbefore, rfl⟩ := copyAt_changeCompressor _ hcopy
    exact ⟨hcommanded.automaticMode, compressor.command, hbefore, rfl⟩
  refine ⟨hcommanded.runCommand, hcommanded.automaticMode, fun _ => .inr (.inl fun copy hmem => ?_),
    fun _ => .inr fun copy hmem => ?_, fun hlater => ?_⟩
  · exact (hcopy copy hmem).1
  · exact (hcopy copy hmem).1
  · refine (hcommanded.copied hlater).imp (fun hread => ?_) fun hvalue copy hmem => ?_
    · exact mem_rest htodo hread (by simp)
    · obtain ⟨-, before, hbefore, hsame⟩ := hcopy copy hmem
      rw [← hsame]
      exact hvalue before hbefore

/-- The cycle reads the command of the compressor. -/
theorem readRunCommand_commanded (hcommanded : Commanded simulation place command)
    (htodo : simulation.todo = .readRunCommand place :: rest) :
    Commanded (simulation.act readings rest (.readRunCommand place)) place command := by
  have hcopy : ∀ copy ∈ (simulation.act readings rest (.readRunCommand place)).copyAt place,
      copy.2 = command.value ∧ ∃ before ∈ simulation.copyAt place, before.1 = copy.1 := by
    intro copy hcopy
    obtain ⟨compressor, hbefore, rfl⟩ := copyAt_changeCompressor _ hcopy
    exact ⟨hcommanded.runCommand, compressor.command, hbefore, rfl⟩
  have hmanual (hbefore : simulation.ManualCopied place) :
      (simulation.act readings rest (.readRunCommand place)).ManualCopied place := by
    intro copy hmem
    obtain ⟨-, before, hmem, hsame⟩ := hcopy copy hmem
    rw [← hsame]
    exact hbefore before hmem
  have hstill (hread : .readAutomaticMode place ∈ simulation.todo) :
      .readAutomaticMode place ∈ rest := mem_rest htodo hread (by simp)
  have hsubset : ∀ other ∈ rest, other ∈ simulation.todo := by
    intro other hother
    rw [htodo]
    exact List.mem_cons_of_mem _ hother
  have hrunning : (simulation.act readings rest (.readRunCommand place)).runningAt place =
      simulation.runningAt place := changeCompressor_runningAt _ place fun _ => rfl
  refine ⟨hcommanded.runCommand, hcommanded.automaticMode, fun hahead => ?_, fun hlater => ?_,
    fun _ => .inr fun copy hmem => (hcopy copy hmem).1⟩
  · refine (hcommanded.notMirrored (hahead.mono hsubset)).imp hstill fun hkept => ?_
    exact hkept.imp hmanual fun hmirrors => hmirrors.mono hsubset hrunning
  · exact (hcommanded.manual hlater).imp hstill hmanual

theorem act_commanded (hordered : simulation.Ordered) (hcommanded : Commanded simulation place command)
    (htodo : simulation.todo = action :: rest) :
    Commanded (simulation.act readings rest action) place command := by
  cases action with
  | readAutomaticMode other =>
      by_cases hother : other = place
      · subst hother
        exact readAutomaticMode_commanded hcommanded htodo
      · refine hcommanded.after_action htodo (by simpa using hother) (by simp) rfl ⟨rfl, rfl, ?_⟩ rfl ?_
        · exact changeCompressor_copyAt_of_ne _ hother
        · exact changeCompressor_runningAt _ other fun _ => rfl
  | readRunCommand other =>
      by_cases hother : other = place
      · subst hother
        exact readRunCommand_commanded hcommanded htodo
      · refine hcommanded.after_action htodo (by simp) (by simpa using hother) rfl ⟨rfl, rfl, ?_⟩ rfl ?_
        · exact changeCompressor_copyAt_of_ne _ hother
        · exact changeCompressor_runningAt _ other fun _ => rfl
  | readSensorFaultCommand other =>
      refine hcommanded.after_action htodo (by simp) (by simp) rfl ⟨rfl, rfl, ?_⟩ rfl ?_
      · exact changeCompressor_copyAt _ other fun _ => rfl
      · exact changeCompressor_runningAt _ other fun _ => rfl
  | readResetAlarms =>
      obtain rfl := hordered.rest_of_readResetAlarms htodo
      have hahead : simulation.PublishAhead place := .inl (by simp [htodo])
      have hsame : SameCommands simulation (simulation.act readings [] .readResetAlarms) place := by
        simp only [act]
        split
        · refine ⟨rfl, rfl, ?_⟩
          simp only [copyAt, FaultManager.reset, List.map_map]
          rfl
        · exact ⟨rfl, rfl, rfl⟩
      have hcycles : (simulation.act readings [] .readResetAlarms).cycles = simulation.cycles := by
        simp only [act]
        split <;> rfl
      -- before the update nothing is decided
      exact hcommanded.congr hsame hcycles (by simp [htodo]) (by simp [htodo]) (fun _ => hahead)
        fun hmirrors => absurd (by simp [htodo]) hmirrors.1
  | update =>
      obtain rfl := hordered.rest_of_update htodo
      have hahead : simulation.PublishAhead place := .inr (.inl (by simp [htodo]))
      refine hcommanded.congr ⟨rfl, rfl, ?_⟩ rfl (by simp [htodo]) (by simp [htodo]) (fun _ => hahead)
        fun hmirrors => absurd (by simp [htodo]) hmirrors.2.1
      simp only [act, copyAt, FaultManager.evaluate_command, Station.update_command]
  | clearResetAlarms | publishStation | emit =>
      exact hcommanded.after_action htodo (by simp) (by simp) rfl ⟨rfl, rfl, rfl⟩ rfl rfl
  | clearSensorFaultCommand other =>
      obtain ⟨hrun, hautomatic⟩ := changeNodes_nodesAt simulation place
        (fun nodes => { nodes with sensorFaultCommand := false }) other (fun _ => rfl) fun _ => rfl
      exact hcommanded.after_action htodo (by simp) (by simp) rfl ⟨hrun, hautomatic, rfl⟩ rfl rfl
  | publish other signal =>
      have hsame : SameCommands simulation (simulation.publishSignal other signal) place := by
        refine publishSignal_same fun hsignal hother => ?_
        subst hsignal hother
        have hahead : simulation.PublishAhead other := .inr (.inr (by simp [htodo]))
        have hnoRead : .readAutomaticMode other ∉ simulation.todo := by
          -- the reads are over when the cycle publishes
          intro hread
          have hlater := mem_rest htodo hread (by simp)
          cases hordered.no_read htodo rfl hlater
        refine ((hcommanded.notMirrored hahead).resolve_left hnoRead).imp_right fun hmirrors => ?_
        rw [hcommanded.runCommand]
        exact hmirrors.2.2
      refine hcommanded.after_action htodo (by simp) (by simp) rfl ⟨hsame.1, hsame.2, hsame.3⟩
        (publishSignal_cycles other signal) ?_
      exact congrArg (fun station => (station.compressors.map Compressor.isRunning)[place]?)
        (publishSignal_station other signal)

/-! ## Runs -/

theorem beginCycle_commanded (hcommanded : Commanded simulation place command) :
    Commanded
      { simulation with
        todo := readCommands simulation.station.compressors.length
        cycles := simulation.cycles + 1 } place command := by
  have hread : place < simulation.station.compressors.length →
      Action.readAutomaticMode place ∈ readCommands simulation.station.compressors.length ∧
        Action.readRunCommand place ∈ readCommands simulation.station.compressors.length := by
    intro hplace
    constructor <;> simp [readCommands, hplace]
  have hnone (hplace : ¬place < simulation.station.compressors.length) :
      simulation.copyAt place = none := by
    simp [copyAt, Nat.le_of_not_lt hplace]
  have hmanual : Action.readAutomaticMode place ∈
      readCommands simulation.station.compressors.length ∨ simulation.ManualCopied place := by
    by_cases hplace : place < simulation.station.compressors.length
    · exact .inl (hread hplace).1
    · exact .inr (by simp [ManualCopied, hnone hplace])
  refine ⟨hcommanded.runCommand, hcommanded.automaticMode, fun _ => hmanual.imp_right .inl,
    fun _ => hmanual, fun _ => ?_⟩
  by_cases hplace : place < simulation.station.compressors.length
  · exact .inl (hread hplace).2
  · refine .inr fun copy hcopy => ?_
    have hcopy : copy ∈ simulation.copyAt place := hcopy
    simp [hnone hplace] at hcopy

/-- A new command, and an old one that another write leaves alone. -/
theorem clientWrite_commanded {write : ClientWrite} {commands : ℕ → Option Command}
    (hkept : simulation.CommandKept (.write write))
    (hcommanded : ∀ place command, commands place = some command →
      Commanded simulation place command)
    (hcommand : noteCommand simulation (.write write) commands place = some command) :
    Commanded (simulation.clientWrite write) place command := by
  have hother {change : CompressorNodes → CompressorNodes} {other : ℕ} (hne : other ≠ place)
      (hbefore : commands place = some command) :
      Commanded (simulation.changeNodes other change) place command := by
    have hnodes := changeNodes_nodesAt_of_ne simulation change hne
    exact (hcommanded place command hbefore).congr ⟨congrArg _ hnodes, congrArg _ hnodes, rfl⟩ rfl id
      id id id
  cases write with
  | automaticMode other value =>
      by_cases hne : other = place
      · simp [noteCommand, hne] at hcommand
      · rw [noteCommand, Function.update_of_ne (Ne.symm hne)] at hcommand
        exact hother hne hcommand
  | runCommand other value =>
      by_cases hne : other = place
      · subst hne
        simp only [noteCommand, Function.update_self] at hcommand
        split at hcommand
        · cases hcommand
        · rename_i hoff
          obtain rfl := Option.some.inj hcommand
          have hoff : (simulation.nodesAt other).automaticMode = false := by simpa using hoff
          have hwritten : (simulation.clientWrite (.runCommand other value)).nodesAt other =
              { simulation.nodesAt other with runCommand := value } := by
            simp only [clientWrite, changeNodes, nodesAt, List.getD_eq_getElem?_getD,
              List.getElem?_modify_eq] at hoff ⊢
            cases hnodes : simulation.compressorNodes[other]? with
            | none => simp [hnodes] at hoff
            | some nodes => simp
          refine ⟨by rw [hwritten], by rw [hwritten]; exact hoff, fun hahead => ?_,
            fun hlater => absurd hlater (Nat.lt_irrefl _),
            fun hlater => absurd hlater (Nat.lt_irrefl _)⟩
          by_cases hread : .readAutomaticMode other ∈ simulation.todo
          · exact .inl hread
          · rcases hkept hoff with hnot | hmirrors
            · exact .inr (.inl (not_not.mp fun hcopied => hnot ⟨hahead, hread, hcopied⟩))
            · exact .inr (.inr hmirrors)
      · rw [noteCommand, Function.update_of_ne (Ne.symm hne)] at hcommand
        exact hother hne hcommand
  | sensorFaultCommand other value =>
      obtain ⟨hrun, hautomatic⟩ := changeNodes_nodesAt simulation place
        (fun nodes => { nodes with sensorFaultCommand := value }) other (fun _ => rfl) fun _ => rfl
      exact (hcommanded place command hcommand).congr ⟨hrun, hautomatic, rfl⟩ rfl id id id id
  | resetAlarms value =>
      exact (hcommanded place command hcommand).congr ⟨rfl, rfl, rfl⟩ rfl id id id id

/-- The simulator and the commands of the HMI agree. -/
structure Obeys (state : Simulation × (ℕ → Option Command)) : Prop where
  ordered : state.1.Ordered
  commanded : ∀ place command, state.2 place = some command → Commanded state.1 place command

theorem step_obeys {state next : Simulation × (ℕ → Option Command)} {event : CycleEvent}
    (hobeys : Obeys state) (hkept : state.1.CommandKept event)
    (hstep : commandMachine.step state event = some next) : Obeys next := by
  obtain ⟨hstep, hnext⟩ := Machine.withHistory_step hstep
  refine ⟨step_ordered hobeys.ordered hstep, fun place command hcommand => ?_⟩
  rw [hnext] at hcommand
  cases event with
  | beginCycle =>
      simp only [machine, step] at hstep
      split at hstep
      · rw [← Option.some.inj hstep]
        exact beginCycle_commanded (hobeys.commanded place command hcommand)
      · cases hstep
  | act readings =>
      simp only [machine, step] at hstep
      split at hstep
      · cases hstep
      · rename_i action rest htodo
        rw [← Option.some.inj hstep]
        exact act_commanded hobeys.ordered (hobeys.commanded place command hcommand) htodo
  | write write =>
      rw [← Option.some.inj hstep]
      exact clientWrite_commanded hkept hobeys.commanded hcommand

/-- **Operator commands.**  In a run in which no command arrives while the cycle is bound to mirror the
running state (unless it asks for just this state), a command stays in its variable until the HMI
writes again; and when the reads of a
later cycle are over, the model has it as the command of a compressor in manual mode. -/
theorem command_kept {state : Simulation × (ℕ → Option Command)} {place : ℕ} {command : Command}
    (hreached : commandMachine.ReachedBy (fun state event => state.1.CommandKept event) state)
    (hcommand : state.2 place = some command) :
    (state.1.nodesAt place).runCommand = command.value ∧
      (command.cycle < state.1.cycles → .readAutomaticMode place ∉ state.1.todo →
        .readRunCommand place ∉ state.1.todo →
          ∀ compressor ∈ state.1.station.compressors[place]?,
            compressor.automaticMode = false ∧ compressor.manualRunCommand = command.value) := by
  have hobeys : Obeys state := by
    refine hreached.invariant ?_ fun _ _ _ _ hobeys hkept hstep => step_obeys hobeys hkept hstep
    rintro ⟨simulation, commands⟩ ⟨hinitial, rfl⟩
    refine ⟨?_, fun place command hcommand => by cases hcommand⟩
    rw [Ordered, hinitial.idle]
    exact .nil
  have hcommanded := hobeys.commanded place command hcommand
  refine ⟨hcommanded.runCommand, fun hlater hautomatic hrun compressor hcompressor => ?_⟩
  have hcopy : compressor.command ∈ state.1.copyAt place := by
    simp [copyAt, Option.mem_def.mp hcompressor]
  have hmanual := (hcommanded.manual hlater).resolve_left hautomatic
  have hcopied := (hcommanded.copied hlater).resolve_left hrun
  exact ⟨hmanual _ hcopy, hcopied _ hcopy⟩

/-! ## Runs of one compressor -/

/-- A station with one compressor, in automatic mode. -/
def oneCompressor : Simulation where
  station :=
    { identifier := ascii "compressed_air_station"
      displayName := ascii "Compressed Air Station"
      compressors :=
        [{ identifier := ascii "compressor_1", displayName := ascii "Compressor 1" }] }
  faults := { configuration := alarmRules }
  updateInterval := 1 / 10
  compressorNodes := [{}]

theorem oneCompressor_initial : machine.start oneCompressor :=
  ⟨rfl, rfl, rfl⟩

private theorem oneCompressor_start : commandMachine.start (oneCompressor, fun _ => none) :=
  ⟨oneCompressor_initial, rfl⟩

/-- Some actions of a cycle, with the demand for the compressor. -/
def acts (count : ℕ) (automaticRequest : Bool) : List CycleEvent :=
  List.replicate count (.act { compressor := fun _ => { automaticRequest } })

/-- The HMI stops the compressor. -/
def stopCompressor : List CycleEvent :=
  [.write (.automaticMode 0 false), .write (.runCommand 0 false)]

/-- The HMI stops the compressor before a cycle. -/
def stoppedRun : List CycleEvent :=
  stopCompressor ++ .beginCycle :: acts 4 true

instance (simulation : Simulation) (place : ℕ) : Decidable (simulation.MirrorsRun place) :=
  inferInstanceAs (Decidable ((_ ∨ _ ∨ _) ∧ _ ∧ ¬∀ _ ∈ _, _))

instance (simulation : Simulation) (place : ℕ) (value : Bool) :
    Decidable (simulation.Mirrors place value) :=
  inferInstanceAs (Decidable (_ ∉ _ ∧ _ ∉ _ ∧ ∀ _ ∈ _, _))

instance (simulation : Simulation) : ∀ event, Decidable (simulation.CommandKept event)
  | .write (.runCommand _ _) => inferInstanceAs (Decidable (_ → ¬_ ∨ _))
  | .beginCycle | .act _ | .write (.automaticMode _ _) | .write (.sensorFaultCommand _ _)
  | .write (.resetAlarms _) => inferInstanceAs (Decidable True)

/-- The cycle has read the command. -/
theorem command_kept_stopped :
    ∃ state, commandMachine.replay (oneCompressor, fun _ => none) stoppedRun = some state ∧
      ∀ compressor ∈ state.1.station.compressors[0]?,
        compressor.automaticMode = false ∧ compressor.manualRunCommand = false := by
  have hreplay : commandMachine.replay (oneCompressor, fun _ => none) stoppedRun =
      some ((commandMachine.replay (oneCompressor, fun _ => none) stoppedRun).get
        (by decide +kernel)) := (Option.some_get _).symm
  have hadmitted : commandMachine.Admitted (fun state event => state.1.CommandKept event)
      (oneCompressor, fun _ => none) stoppedRun := by decide +kernel
  have hreached := Machine.ReachedBy.replay (.start oneCompressor_start) hadmitted hreplay
  have hkept := @command_kept _ 0 ⟨false, 0⟩ hreached (by decide +kernel)
  exact ⟨_, hreplay, hkept.2 (by decide +kernel) (by decide +kernel) (by decide +kernel)⟩

/-- The HMI stops the compressor after the cycle has read its automatic mode. -/
def overwrittenRun : List CycleEvent :=
  .beginCycle :: acts 1 true ++ stopCompressor ++ acts 9 true

/-- The cycle then overwrites the command. -/
theorem overwritten_loses_command :
    ¬∀ state place command, commandMachine.Reachable state → state.2 place = some command →
      (state.1.nodesAt place).runCommand = command.value := by
  intro hclaim
  have hreplay : commandMachine.replay (oneCompressor, fun _ => none) overwrittenRun =
      some ((commandMachine.replay (oneCompressor, fun _ => none) overwrittenRun).get
        (by decide +kernel)) := (Option.some_get _).symm
  have hstored := hclaim _ 0 ⟨false, 1⟩ (Machine.reachable_of_replay oneCompressor_start hreplay)
    (by decide +kernel)
  exact absurd hstored (by decide +kernel)

end Simulation

end CrowPanel.Simulator
