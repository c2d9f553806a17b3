import CrowPanel.Simulator.WholeStation

/-!
# What the simulator publishes

`publish` writes the variables one after the other, and clients may read and write in between.  All the
same the variables that the cycle has written since its update are a snapshot of the station, and they
stay one until the next cycle begins.  Clients change nothing of it but the run commands.

## Strategy

Between the update and the next cycle nothing changes the records of the station (`IsOutput` actions
only write variables and send events), so what was written of them in this cycle is still the case.
`Fresh` is the invariant; a cycle that still has something to read, or its update ahead, satisfies it
trivially.
-/

namespace CrowPanel.Simulator

open Library OpcUa

namespace WholeSimulation

variable {configuration : EquipmentConfiguration} {whole next : WholeSimulation} {event : WholeEvent}
  {target : PublishedVariable}

/-- The variables that belong to the simulator alone; clients write the run commands too. -/
def Publishes (whole : WholeSimulation) : PublishedVariable → Prop
  | .compressor place signal =>
      place < whole.simulation.station.compressors.length ∧ signal ≠ .runCommand
  | .station _ => True

/-- A variable tells what is the case; the readings of a faulty sensor are drawn at random. -/
def Tells (whole : WholeSimulation) (target : PublishedVariable) : Prop :=
  ∃ draw ∈ Set.Icc (0 : ℚ) 1, whole.published draw target = some (whole.values target)

/-- Nothing is left of the cycle but to write variables and to send events. -/
def Updated (simulation : Simulation) : Prop :=
  ∀ action ∈ simulation.todo, action.IsOutput

instance (simulation : Simulation) : Decidable (Updated simulation) :=
  inferInstanceAs (Decidable (∀ action ∈ simulation.todo, _ ∧ _ ∧ _))

/-- What has been written since the update tells what is the case. -/
structure Fresh (whole : WholeSimulation) : Prop where
  ordered : whole.simulation.Ordered
  reads : ∀ action ∈ whole.simulation.todo, action.isRead = true →
    .readResetAlarms ∈ whole.simulation.todo
  tells : 0 < whole.simulation.cycles → Updated whole.simulation →
    ∀ target, whole.Publishes target → target.publication ∉ whole.simulation.todo → whole.Tells target

/-! ## Parts of a step -/

/-- The records of the station decide what is published. -/
theorem published_congr (hstation : next.simulation.station = whole.simulation.station)
    (hmodel : next.model = whole.model) (draw : ℚ) :
    next.published draw target = whole.published draw target := by
  cases target with
  | compressor place signal =>
      simp only [published, hstation, hmodel]
  | station signal =>
      simp only [published, hmodel]

theorem Tells.congr (htells : whole.Tells target)
    (hstation : next.simulation.station = whole.simulation.station)
    (hmodel : next.model = whole.model) (hvalue : next.values target = whole.values target) :
    next.Tells target := by
  obtain ⟨draw, hdraw, hpublished⟩ := htells
  exact ⟨draw, hdraw, by rw [published_congr hstation hmodel, hpublished, hvalue]⟩

/-- There is always something to publish in a variable of the simulator's own. -/
theorem published_isSome (hshows : whole.simulation.station.Shows whole.model)
    (htarget : whole.Publishes target) (draw : ℚ) :
    ∃ value, whole.published draw target = some value := by
  cases target with
  | station signal => exact ⟨_, rfl⟩
  | compressor place signal =>
      obtain ⟨hplace, hsignal⟩ := htarget
      have hcompressor := List.getElem?_eq_getElem hplace
      have hpart := List.getElem?_eq_getElem (hshows.length ▸ hplace)
      simp only [published, hcompressor, hpart, Option.bind_eq_bind, Option.bind_some]
      cases signal with
      | runCommand => exact absurd rfl hsignal
      | _ => exact ⟨_, rfl⟩

theorem mem_publish {compressors : ℕ} {place : ℕ} (hplace : place < compressors) (signal : Signal) :
    .publish place signal ∈ Simulation.publish compressors := by
  refine List.mem_append_left _ (List.mem_flatMap.mpr ⟨place, List.mem_range.mpr hplace, ?_⟩)
  cases signal with
  | _ => simp

theorem mem_publish_station (compressors : ℕ) (signal : StationSignal) :
    .publishStation signal ∈ Simulation.publish compressors := by
  refine List.mem_append_right _ ?_
  cases signal with
  | _ => simp

/-- Writing a variable leaves the others alone. -/
theorem writeValue_of_ne {values : PublishedVariable → Variant} {other : PublishedVariable}
    (hother : target ≠ other) (value : Option Variant) :
    writeValue values other value target = values target := by
  cases value with
  | none => rfl
  | some value => exact Function.update_of_ne hother _ _

/-- An action that writes a variable makes it tell what is the case. -/
theorem valuesAfter_publication (draw : ℚ) {value : Variant}
    (hvalue : whole.published draw target = some value) :
    whole.valuesAfter draw target.publication target = value := by
  cases target with
  | compressor place signal =>
      simp only [PublishedVariable.publication, valuesAfter, hvalue]
      exact Function.update_self _ _ _
  | station signal =>
      simp only [PublishedVariable.publication, valuesAfter, hvalue]
      exact Function.update_self _ _ _

theorem valuesAfter_of_ne (draw : ℚ) {action : Action} (hother : action ≠ target.publication) :
    whole.valuesAfter draw action target = whole.values target := by
  cases action with
  | publish place signal =>
      refine writeValue_of_ne (fun hsame => hother ?_) _
      rw [hsame]
      rfl
  | publishStation signal =>
      refine writeValue_of_ne (fun hsame => hother ?_) _
      rw [hsame]
      rfl
  | _ => rfl

/-- An output leaves the records of the station alone. -/
theorem act_output {action : Action} (houtput : action.IsOutput) (readings : Readings)
    (rest : List Action) (slowSine fastSine : ℚ) :
    (whole.simulation.act readings rest action).station = whole.simulation.station ∧
      (whole.simulation.act readings rest action).todo = rest ∧
      (whole.simulation.act readings rest action).cycles = whole.simulation.cycles ∧
      ∀ station, whole.modelAfter station slowSine fastSine action = whole.model := by
  obtain ⟨hread, hreset, hupdate⟩ := houtput
  cases action with
  | readAutomaticMode | readRunCommand | readSensorFaultCommand => cases hread
  | readResetAlarms => exact absurd rfl hreset
  | update => exact absurd rfl hupdate
  | publish place signal =>
      refine ⟨(Simulation.publishSignal_model place signal).2, rfl, ?_, fun _ => rfl⟩
      simp only [Simulation.act, Simulation.publishSignal]
      split
      · rfl
      · cases signal with
        | runCommand =>
            dsimp only
            split_ifs
            · rfl
            · rfl
        | _ => rfl
  | _ => exact ⟨rfl, rfl, rfl, fun _ => rfl⟩

/-! ## The invariant -/

/-- While the update is ahead, or something is to be read, there is nothing to show. -/
theorem Fresh.of_ahead (hordered : next.simulation.Ordered)
    (hreads : ∀ action ∈ next.simulation.todo, action.isRead = true →
      .readResetAlarms ∈ next.simulation.todo)
    {action : Action} (hahead : action ∈ next.simulation.todo) (haction : ¬ action.IsOutput) :
    next.Fresh where
  ordered := hordered
  reads := hreads
  tells := fun _ hupdated => absurd (hupdated action hahead) haction

variable {action : Action} {rest : List Action} {readings : Readings} {slowSine fastSine draw : ℚ}

/-- While something is to be read, the read that ends `read_commands` is ahead. -/
theorem Fresh.reset_ahead (hfresh : whole.Fresh) (htodo : whole.simulation.todo = action :: rest)
    (hread : action.isRead = true) : .readResetAlarms ∈ rest := by
  have hmem := hfresh.reads action (htodo ▸ List.mem_cons_self) hread
  rw [htodo] at hmem
  rcases List.mem_cons.mp hmem with rfl | hrest
  · cases hread
  · exact hrest

/-- That read leaves the update ahead, behind the outputs of a reset. -/
theorem Fresh.update_ahead (hfresh : whole.Fresh)
    (htodo : whole.simulation.todo = .readResetAlarms :: rest) (readings : Readings) :
    ∃ outputs : List Action, (∀ action ∈ outputs, action.IsOutput) ∧
      (whole.simulation.act readings rest .readResetAlarms).todo = outputs ++ [.update] := by
  obtain rfl := hfresh.ordered.rest_of_readResetAlarms htodo
  simp only [Simulation.act]
  split_ifs
  · refine ⟨_, fun action haction => ?_, rfl⟩
    rcases List.mem_append.mp haction with hemit | hclear
    · exact Simulation.emit_output _ action hemit
    · exact Simulation.acknowledge_output _ action hclear
  · exact ⟨[], fun action haction => absurd haction List.not_mem_nil, rfl⟩

theorem Fresh.read (hfresh : whole.Fresh) (htodo : whole.simulation.todo = action :: rest)
    (hread : action.isRead = true) (hnext : next.simulation.todo = rest)
    (hordered : next.simulation.Ordered) : next.Fresh := by
  have hreset : .readResetAlarms ∈ next.simulation.todo := by
    rw [hnext]
    exact hfresh.reset_ahead htodo hread
  exact .of_ahead hordered (fun _ _ _ => hreset) hreset fun houtput => houtput.2.1 rfl

theorem Fresh.readResetAlarms (hfresh : whole.Fresh)
    (htodo : whole.simulation.todo = .readResetAlarms :: rest)
    (hnext : next.simulation = whole.simulation.act readings rest .readResetAlarms) : next.Fresh := by
  have hordered : next.simulation.Ordered := hnext ▸ Simulation.act_ordered hfresh.ordered htodo
  obtain ⟨outputs, houtput, hactions⟩ := hfresh.update_ahead htodo readings
  rw [← hnext] at hactions
  have hupdate : .update ∈ next.simulation.todo := by
    rw [hactions]
    exact List.mem_append_right _ List.mem_cons_self
  refine .of_ahead hordered (fun action haction hread => ?_) hupdate fun houtput => houtput.2.2 rfl
  rw [hactions] at haction
  rcases List.mem_append.mp haction with hmem | hmem
  · rw [(houtput action hmem).1] at hread
    cases hread
  · obtain rfl := List.mem_singleton.mp hmem
    cases hread

/-- After the update all the variables are still to be written. -/
theorem Fresh.update (hfresh : whole.Fresh) (htodo : whole.simulation.todo = .update :: rest)
    (hnext : next.simulation = whole.simulation.act readings rest .update) : next.Fresh := by
  have hordered : next.simulation.Ordered := hnext ▸ Simulation.act_ordered hfresh.ordered htodo
  obtain rfl := hfresh.ordered.rest_of_update htodo
  have hlength : next.simulation.station.compressors.length =
      (whole.simulation.station.update readings).compressors.length := by
    have hparts := congrArg List.length (whole.simulation.faults.evaluateCompressors_parts
      whole.simulation.updateInterval (whole.simulation.station.update readings).compressors)
    rw [List.length_map, List.length_map] at hparts
    rw [hnext]
    exact hparts
  have hactions : next.simulation.todo =
      Simulation.publish next.simulation.station.compressors.length ++
        (whole.simulation.faults.evaluate (whole.simulation.station.update readings)
          whole.simulation.updateInterval).2.2.map .emit := by
    rw [hlength, hnext]
    exact List.append_nil _
  refine ⟨hordered, fun action haction hread => ?_, fun _ _ target htarget hwritten => ?_⟩
  · rw [hactions] at haction
    have houtput : action.IsOutput := by
      rcases List.mem_append.mp haction with hpublish | hemit
      · exact Simulation.publish_output _ action hpublish
      · exact Simulation.emit_output _ action hemit
    rw [houtput.1] at hread
    cases hread
  · exfalso
    apply hwritten
    rw [hactions]
    refine List.mem_append_left _ ?_
    cases target with
    | compressor place signal => exact mem_publish htarget.1 signal
    | station signal => exact mem_publish_station _ signal

/-- An output writes what is the case, and leaves what was written. -/
theorem Fresh.output (hfresh : whole.Fresh) (hshows : whole.simulation.station.Shows whole.model)
    (htodo : whole.simulation.todo = action :: rest) (houtput : action.IsOutput)
    (hdraw : draw ∈ Set.Icc 0 1)
    (hnext : next.simulation = whole.simulation.act readings rest action)
    (hmodel : next.model = whole.modelAfter next.simulation.station slowSine fastSine action)
    (hvalues : next.values = whole.valuesAfter draw action) : next.Fresh := by
  have hordered : next.simulation.Ordered := hnext ▸ Simulation.act_ordered hfresh.ordered htodo
  obtain ⟨hstation, hrest, hcycles, hkept⟩ :=
    @act_output whole action houtput readings rest slowSine fastSine
  rw [← hnext] at hstation hrest hcycles
  rw [hkept] at hmodel
  refine ⟨hordered, fun other hother hread => ?_, fun hbegun hupdated target htarget hwritten => ?_⟩
  · rw [hrest] at hother
    rw [hfresh.ordered.no_read htodo houtput.1 hother] at hread
    cases hread
  · have hbefore : whole.Publishes target := by
      cases target with
      | compressor place signal => exact ⟨hstation ▸ htarget.1, htarget.2⟩
      | station signal => trivial
    rw [hrest] at hwritten
    -- the variable is written now, or it was written before and is left alone
    by_cases hsame : target.publication = action
    · obtain ⟨value, hvalue⟩ := published_isSome hshows hbefore draw
      refine ⟨draw, hdraw, ?_⟩
      rw [published_congr hstation hmodel, hvalue, hvalues, ← hsame,
        valuesAfter_publication draw hvalue]
    · have hupdatedBefore : Updated whole.simulation := by
        intro other hother
        rw [htodo] at hother
        rcases List.mem_cons.mp hother with rfl | hmem
        · exact houtput
        · exact hupdated other (hrest ▸ hmem)
      have htells : whole.Tells target := by
        refine hfresh.tells (hcycles ▸ hbegun) hupdatedBefore target hbefore fun hmem => ?_
        rw [htodo] at hmem
        rcases List.mem_cons.mp hmem with hfirst | hlater
        · exact hsame hfirst
        · exact hwritten hlater
      refine htells.congr hstation hmodel ?_
      rw [hvalues]
      exact valuesAfter_of_ne draw (Ne.symm hsame)

/-- Clients write only what does not belong to the simulator. -/
theorem Fresh.write (hfresh : whole.Fresh) (write : ClientWrite)
    (hnext : whole.step (.write write) = some next) : next.Fresh := by
  obtain rfl := Option.some.inj hnext
  have hkept : (whole.simulation.clientWrite write).station = whole.simulation.station ∧
      (whole.simulation.clientWrite write).todo = whole.simulation.todo ∧
      (whole.simulation.clientWrite write).cycles = whole.simulation.cycles := by
    cases write with
    | _ => exact ⟨rfl, rfl, rfl⟩
  obtain ⟨hstation, htodo, hcycles⟩ := hkept
  refine ⟨?_, ?_, fun hbegun hupdated target htarget hwritten => ?_⟩
  · show (whole.simulation.clientWrite write).todo.Pairwise Simulation.Precedes
    rw [htodo]
    exact hfresh.ordered
  · show ∀ action ∈ (whole.simulation.clientWrite write).todo, _
    rw [htodo]
    exact hfresh.reads
  · have hbefore : whole.Publishes target := by
      cases target with
      | compressor place signal => exact ⟨hstation ▸ htarget.1, htarget.2⟩
      | station signal => trivial
    have htells : whole.Tells target :=
      hfresh.tells (hcycles ▸ hbegun) (fun action haction => hupdated action (htodo.symm ▸ haction))
        target hbefore fun hmem => hwritten (htodo.symm ▸ hmem)
    refine htells.congr hstation rfl ?_
    -- run commands belong to the clients as well
    cases write with
    | runCommand place value =>
        refine Function.update_of_ne (fun hsame => ?_) _ _
        rw [hsame] at htarget
        exact htarget.2 rfl
    | _ => rfl

theorem Fresh.step (hfresh : whole.Fresh) (hshows : whole.simulation.station.Shows whole.model)
    (hphysical : whole.Physical event) (hstep : whole.step event = some next) : next.Fresh := by
  cases event with
  | beginCycle =>
      have hordered := Simulation.step_ordered hfresh.ordered (step_simulation hstep)
      obtain ⟨simulation, hsimulation, rfl⟩ := Option.map_eq_some_iff.mp hstep
      obtain ⟨-, hbegun⟩ := Option.ite_none_right_eq_some.mp hsimulation
      obtain rfl := Option.some.inj hbegun
      have hreset : Action.readResetAlarms ∈
          Simulation.readCommands whole.simulation.station.compressors.length :=
        List.mem_append_right _ List.mem_cons_self
      exact .of_ahead hordered (fun _ _ _ => hreset) hreset fun houtput => houtput.2.1 rfl
  | act slowSine fastSine draw =>
      obtain ⟨action, rest, htodo, hnext, hmodel, hvalues⟩ := step_act hstep
      -- a cycle reads, comes to the end of the reads, updates, and tells
      cases hread : action.isRead with
      | true =>
          have hordered : next.simulation.Ordered :=
            hnext ▸ Simulation.act_ordered hfresh.ordered htodo
          refine hfresh.read htodo hread ?_ hordered
          rw [hnext]
          cases action with
          | readAutomaticMode | readRunCommand | readSensorFaultCommand => rfl
          | _ => cases hread
      | false =>
          by_cases hreset : action = .readResetAlarms
          · subst hreset
            exact hfresh.readResetAlarms htodo hnext
          · by_cases hupdate : action = .update
            · subst hupdate
              exact hfresh.update htodo hnext
            · exact hfresh.output hshows htodo ⟨hread, hreset, hupdate⟩ hphysical.2.2.2 hnext hmodel
                hvalues
  | write write => exact hfresh.write write hstep

theorem fresh (hreached : (machine configuration).ReachedBy Physical whole) : whole.Fresh := by
  refine hreached.invariant (fun whole hstart => ?_) fun whole event next hbefore hfresh hphysical
    hstep => hfresh.step (station_shows hbefore) hphysical hstep
  have hidle := hstart.initial.idle
  refine ⟨?_, fun action haction _ => ?_, fun hbegun => ?_⟩
  · rw [Simulation.Ordered, hidle]
    exact List.Pairwise.nil
  · rw [hidle] at haction
    exact absurd haction List.not_mem_nil
  · rw [hstart.cycles] at hbegun
    exact absurd hbegun (lt_irrefl 0)

/-- **The published variables are a snapshot.**  Whatever clients write meanwhile, and whenever: what
the simulator has written into its own variables since the update of a cycle is what the station is
like, until the next cycle begins. -/
theorem published_snapshot (hreached : (machine configuration).ReachedBy Physical whole)
    (hbegun : 0 < whole.simulation.cycles) (hupdated : Updated whole.simulation)
    (htarget : whole.Publishes target) (hwritten : target.publication ∉ whole.simulation.todo) :
    whole.Tells target := by
  have hfresh : whole.Fresh := fresh hreached
  exact hfresh.tells hbegun hupdated target htarget hwritten

/-- The first cycle up to the motor current of the second compressor; a client writes the run command
of the first one after the simulator did. -/
private def publishingEvents : List WholeEvent :=
  .beginCycle :: List.replicate 17 (.act 0 0 0) ++
    .write (.runCommand 0 true) :: List.replicate 2 (.act 0 0 0)

private def publishingStart : WholeSimulation :=
  init StationModel.equipment alarmRules (1 / 10) fun _ => .boolean false

private theorem publishingEvents_isSome :
    ((machine StationModel.equipment).replay publishingStart publishingEvents).isSome := by
  decide +kernel

private def publishing : WholeSimulation :=
  ((machine StationModel.equipment).replay publishingStart publishingEvents).get
    publishingEvents_isSome

theorem published_snapshot_second :
    publishing.simulation.todo ≠ [] ∧
      publishing.values (.compressor 0 .runCommand) = .boolean true ∧
      publishing.Tells (.compressor 0 .alarmStatus) ∧
      publishing.Tells (.compressor 1 .motorCurrent) := by
  have hreached : (machine StationModel.equipment).ReachedBy Physical publishing :=
    Machine.ReachedBy.replay (.start (init_starts _ _ _ _)) (by decide +kernel)
      (Option.some_get publishingEvents_isSome).symm
  have hbegun : 0 < publishing.simulation.cycles := by decide +kernel
  have hupdated : Updated publishing.simulation := by decide +kernel
  refine ⟨by decide +kernel, rfl, ?_, ?_⟩
  · apply published_snapshot hreached hbegun hupdated
    · exact ⟨by decide +kernel, by decide⟩
    · decide +kernel
  · apply published_snapshot hreached hbegun hupdated
    · exact ⟨by decide +kernel, by decide⟩
    · decide +kernel

end WholeSimulation

end CrowPanel.Simulator
