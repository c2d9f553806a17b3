import CrowPanel.DataModel.Representation
import CrowPanel.Library.Machine
import CrowPanel.Ui.Bound
import CrowPanel.Ui.Follows

/-!
# Convergence of the UI

The client task and the thread of the UI as one machine.  The task calls the data model, one call at
a time and without nesting its updates.  The UI rests or is in the middle of a program: the rebuild
with which it starts, a tick, or the operation of a switch.  Each read is a step of its own, so any
calls fall between any two of them.

`System.reached_sound` is the invariant of all runs in which no counter of the model comes to its end:
a resting generator follows the model, and a running program will end with one that does.  When no
update is open and the observed counters are those of the model, this says that the UI shows the
current model.
-/

namespace CrowPanel.Ui

open Library DataModel Reads

/-- What the thread of the UI is doing. -/
inductive Thread where
  | resting (ui : Generator)
  | running (program : Program Generator)

/-- The client task has no state of its own: it may call whatever it wants. -/
structure System where
  world : World
  thread : Thread

inductive SystemEvent where
  /-- a call of the client task -/
  | call (op : Op)
  /-- the clock of LVGL moves -/
  | pass (tick : ℕ)
  /-- the refresh timer fires -/
  | refresh
  /-- the timer of the trend charts fires -/
  | sample
  | toggle (mode : PageMode) (place : ℕ) (modeResult result : EspErr)
  | slide (mode : PageMode) (place : ℕ)
  /-- the next read of the running program, or its end -/
  | read
  deriving DecidableEq

namespace System

def step (system : System) : SystemEvent → Option System
  | .call op =>
      if op = .beginStructureUpdate ∧ system.world.model.structureUpdateActive = true then none
      else
        some
          { system with
            world := { system.world with model := (system.world.model.exec op).2 } }
  | .pass tick => some { system with world := { system.world with tick } }
  | .refresh =>
      match system.thread with
      | .resting ui => some { system with thread := .running ui.refreshTimerCallback }
      | .running _ => none
  | .sample =>
      match system.thread with
      | .resting ui => some { system with thread := .running ui.sampleTimerCallback }
      | .running _ => none
  | .toggle mode place modeResult result =>
      match system.thread with
      | .resting ui =>
          (ui.toggle mode place modeResult result).map fun program =>
            { system with thread := .running program }
      | .running _ => none
  | .slide mode place =>
      match system.thread with
      | .resting ui =>
          (ui.slide mode place).map fun after => { system with thread := .resting after }
      | .running _ => none
  | .read =>
      match system.thread with
      | .resting _ => none
      | .running (.done ui) => some { system with thread := .resting ui }
      | .running (.ask query next) =>
          some { system with thread := .running (next (query system.world)) }

/-- What each step requires, and where it leads. -/
inductive Moves : System → SystemEvent → System → Prop
  | call {system : System} (op : Op) (hnested : ¬ (op = .beginStructureUpdate ∧
      system.world.model.structureUpdateActive = true)) :
      Moves system (.call op)
        { system with
          world := { system.world with model := (system.world.model.exec op).2 } }
  | pass {system : System} (tick : ℕ) :
      Moves system (.pass tick) { system with world := { system.world with tick } }
  | refresh {world : World} {ui : Generator} :
      Moves ⟨world, .resting ui⟩ .refresh ⟨world, .running ui.refreshTimerCallback⟩
  | sample {world : World} {ui : Generator} :
      Moves ⟨world, .resting ui⟩ .sample ⟨world, .running ui.sampleTimerCallback⟩
  | toggle {world : World} {ui : Generator} {mode : PageMode} {place : ℕ}
      {modeResult result : EspErr} {program : Program Generator}
      (htoggle : ui.toggle mode place modeResult result = some program) :
      Moves ⟨world, .resting ui⟩ (.toggle mode place modeResult result) ⟨world, .running program⟩
  | slide {world : World} {ui after : Generator} {mode : PageMode} {place : ℕ}
      (hslide : ui.slide mode place = some after) :
      Moves ⟨world, .resting ui⟩ (.slide mode place) ⟨world, .resting after⟩
  | ended {world : World} {ui : Generator} :
      Moves ⟨world, .running (.done ui)⟩ .read ⟨world, .resting ui⟩
  | answered {world : World} {Answer : Type} {query : World → Answer}
      {following : Answer → Program Generator} :
      Moves ⟨world, .running (.ask query following)⟩ .read
        ⟨world, .running (following (query world))⟩

theorem step_moves {system next : System} {event : SystemEvent}
    (hstep : system.step event = some next) : Moves system event next := by
  obtain ⟨world, thread⟩ := system
  cases event with
  | call op =>
      simp only [System.step] at hstep
      split at hstep
      · cases hstep
      · next hnested =>
          obtain rfl := Option.some.inj hstep
          exact .call op hnested
  | pass tick =>
      obtain rfl := Option.some.inj hstep
      exact .pass tick
  | refresh =>
      cases thread with
      | resting ui =>
          obtain rfl := Option.some.inj hstep
          exact .refresh
      | running program => cases hstep
  | sample =>
      cases thread with
      | resting ui =>
          obtain rfl := Option.some.inj hstep
          exact .sample
      | running program => cases hstep
  | toggle mode place modeResult result =>
      cases thread with
      | resting ui =>
          obtain ⟨program, htoggle, rfl⟩ := Option.map_eq_some_iff.mp hstep
          exact .toggle htoggle
      | running program => cases hstep
  | slide mode place =>
      cases thread with
      | resting ui =>
          obtain ⟨after, hslide, rfl⟩ := Option.map_eq_some_iff.mp hstep
          exact .slide hslide
      | running program => cases hstep
  | read =>
      cases thread with
      | resting ui => cases hstep
      | running program =>
          cases program with
          | done ui =>
              obtain rfl := Option.some.inj hstep
              exact .ended
          | ask query following =>
              obtain rfl := Option.some.inj hstep
              exact .answered

/-- The model is created before the UI, and `ui_generator_create` begins with a rebuild. -/
def machine : Machine System SystemEvent where
  start := fun system => ∃ equipmentCapacity tagCapacity,
    create equipmentCapacity tagCapacity true = .ok system.world.model ∧
      system.thread = .running rebuildInterface
  step := step

/-- The states of runs in which no counter has come to its end, the last state included. -/
def Reached (system : System) : Prop :=
  machine.ReachedBy (fun system _ => system.world.model.Counting) system ∧
    system.world.model.Counting

/-- A resting generator follows the model, and a running program ends with one that does. -/
def Sound (system : System) : Prop :=
  match system.thread with
  | .resting ui => ui.KeepsUp system.world
  | .running program =>
      Ensures Advances program system.world fun ui later => ui.Follows later.model

/-- Whatever moves the world on keeps the promises. -/
theorem Sound.advance {system : System} {later : World} (hsound : system.Sound)
    (hlater : Advances system.world later) : Sound { system with world := later } := by
  obtain ⟨world, thread⟩ := system
  cases thread with
  | resting ui => exact Generator.KeepsUp.after hsound hlater
  | running program => exact Ensures.after hsound hlater

theorem Sound.step {system next : System} {event : SystemEvent} (hsound : system.Sound)
    (hcounting : system.world.model.Counting) (hstep : machine.step system event = some next) :
    next.Sound := by
  cases step_moves hstep with
  | call op hnested =>
      refine hsound.advance (exec_later hcounting fun hbegin => ?_)
      have hidle := not_and.mp hnested hbegin
      exact Bool.eq_false_iff.mpr hidle
  | pass tick => exact hsound.advance (Later.refl _)
  | refresh => exact Generator.refreshTimerCallback_ensures hsound
  | sample => exact Generator.sampleTimerCallback_ensures hsound
  | toggle htoggle => exact Generator.toggle_ensures htoggle hsound
  | slide hslide => exact Generator.KeepsUp.slide hsound hslide
  | ended => exact hsound
  | @answered world => exact hsound world (refl_of Advances world)

theorem reached_sound {system : System} (hreached : system.Reached) : system.Sound := by
  refine hreached.1.invariant (fun system hstart => ?_) fun _ _ _ _ hsound hcounting hstep =>
    hsound.step hcounting hstep
  obtain ⟨equipmentCapacity, tagCapacity, hcreate, hthread⟩ := hstart
  unfold Sound
  rw [hthread]
  exact rebuildInterface_ensures

/-- The model changes by calls only. -/
theorem step_model {system next : System} {event : SystemEvent}
    (hstep : machine.step system event = some next) :
    next.world.model = system.world.model ∨
      ∃ op, next.world.model = (system.world.model.exec op).2 := by
  cases step_moves hstep with
  | call op => exact .inr ⟨op, rfl⟩
  | pass | refresh | sample | toggle | slide | ended | answered => exact .inl rfl

/-- Left alone, a program comes to its end. -/
theorem reached_end {world : World} {program : Program Generator}
    (hreached : Reached ⟨world, .running program⟩) :
    Reached ⟨world, .resting (program.run world)⟩ := by
  induction program with
  | done ui =>
      have hstep : machine.step ⟨world, .running (.done ui)⟩ .read = some ⟨world, .resting ui⟩ := rfl
      exact ⟨.step hreached.1 hreached.2 hstep, hreached.2⟩
  | ask query next ih =>
      have hstep : machine.step ⟨world, .running (.ask query next)⟩ .read =
          some ⟨world, .running (next (query world))⟩ := rfl
      exact ih (query world) ⟨.step hreached.1 hreached.2 hstep, hreached.2⟩

/-- An undisturbed tick. -/
theorem reached_tick {world : World} {ui : Generator} (hreached : Reached ⟨world, .resting ui⟩) :
    Reached ⟨world, .resting (ui.refreshTimerCallback.run world)⟩ := by
  have hstep : machine.step ⟨world, .resting ui⟩ .refresh =
      some ⟨world, .running ui.refreshTimerCallback⟩ := rfl
  exact reached_end ⟨.step hreached.1 hreached.2 hstep, hreached.2⟩

/-- No other models are reached than those of a program with a single task. -/
theorem reached_model {system : System} {ok : System → SystemEvent → Prop}
    (hreached : machine.ReachedBy ok system) : system.world.model.Reachable := by
  induction hreached with
  | start hstart =>
      obtain ⟨equipmentCapacity, tagCapacity, hcreate, -⟩ := hstart
      exact ⟨equipmentCapacity, tagCapacity, _, [], hcreate, rfl⟩
  | step _ _ hstep ih =>
      rcases step_model hstep with hsame | ⟨op, hcall⟩
      · rwa [hsame]
      · obtain ⟨equipmentCapacity, tagCapacity, created, ops, hcreate, hrun⟩ := ih
        refine ⟨equipmentCapacity, tagCapacity, created, ops ++ [op], hcreate, ?_⟩
        rw [run_concat, hrun, hcall]

end System

/-! ## What is on the screen -/

/-- The UI displays the values of the model, but for the switches that hold a write. -/
structure Generator.Displays (ui : Generator) (model : DataModel) : Prop where
  tags : ∀ widget ∈ ui.equipment.tags ++ ui.controls.tags, ∃ tag ∈ model.tags,
    tag.index = widget.binding.tagIndex ∧
      (widget.HoldsWrite ∨ widget.ShowsTag tag model.records)
  states : ∀ widget ∈ ui.overview.nodes ++ ui.equipment.states ++ ui.controls.states,
    widget.displayed = some (widget.binding.stateIn model.records)
  signals : ∀ widget ∈ ui.overview.signals, ∃ tag ∈ model.tags,
    tag.index = widget.tagIndex ∧ widget.label = some (valueLabel tag)

section

variable {model : DataModel} {ui : Generator}

/-- A stored tag is found under its own index. -/
theorem readTag_of_mem (hrepresentation : Representation model) {tag : Tag}
    (hmem : tag ∈ model.tags) : (readTag tag.index).run model.records = some tag := by
  obtain ⟨place, hplace⟩ := List.mem_iff_getElem?.mp hmem
  simpa [readTag, records, hrepresentation.tags_indexed place tag hplace] using hplace

/-- The indices of the tags do not depend on the values. -/
theorem exists_tag_of_layout {index : Option ℕ}
    (hlayout : ∃ tag ∈ model.layout.tags, tag.index = index) :
    ∃ tag ∈ model.tags, tag.index = index := by
  obtain ⟨stored, hmem, hindex⟩ := hlayout
  obtain ⟨tag, htag, rfl⟩ := List.mem_map.mp hmem
  exact ⟨tag, htag, hindex⟩

theorem Generator.Shows.displays (hshows : ui.Shows model.records)
    (hrepresentation : Representation model)
    (hbindings : ui.bindings = createBindings.run model.layout) : ui.Displays model := by
  rw [run_createBindings] at hbindings
  have hoverview : ui.overview.view = createOverviewView.run model.layout :=
    congrArg Bindings.overview hbindings
  have hequipment : ui.equipment.view = (createEquipmentView .details).run model.layout :=
    congrArg Bindings.equipment hbindings
  have hcontrols : ui.controls.view = (createEquipmentView .controls).run model.layout :=
    congrArg Bindings.controls hbindings
  have hpage : ∀ {page : EquipmentPage} {mode : PageMode},
      page.view = (createEquipmentView mode).run model.layout → page.Shows model.records →
        ∀ widget ∈ page.tags, ∃ tag ∈ model.tags, tag.index = widget.binding.tagIndex ∧
          (widget.HoldsWrite ∨ widget.ShowsTag tag model.records) := by
    intro page mode hview hpage widget hwidget
    have hbinding : widget.binding ∈ ((createEquipmentView mode).run model.layout).tagBindings := by
      rw [← hview]
      exact List.mem_map_of_mem hwidget
    obtain ⟨stored, hstored, hindex⟩ := mem_createEquipmentView hbinding
    obtain ⟨tag, htag, hsame⟩ := exists_tag_of_layout ⟨stored, hstored, hindex.symm⟩
    refine ⟨tag, htag, hsame, (hpage.tags widget hwidget).imp_right fun hshows => ?_⟩
    exact hshows tag (hsame ▸ readTag_of_mem hrepresentation htag)
  refine ⟨fun widget hwidget => ?_, fun widget hwidget => ?_, fun widget hwidget => ?_⟩
  · rcases List.mem_append.mp hwidget with hwidget | hwidget
    · exact hpage hequipment hshows.equipment widget hwidget
    · exact hpage hcontrols hshows.controls widget hwidget
  · rcases List.mem_append.mp hwidget with hwidget | hwidget
    · rcases List.mem_append.mp hwidget with hwidget | hwidget
      · exact hshows.overview.nodes widget hwidget
      · exact hshows.equipment.states widget hwidget
    · exact hshows.controls.states widget hwidget
  · have hsignal : widget.tagIndex ∈ (createOverviewView.run model.layout).signals := by
      rw [← hoverview]
      exact List.mem_map_of_mem hwidget
    obtain ⟨tag, htag, hsame⟩ := exists_tag_of_layout (mem_createOverviewView.1 _ hsignal)
    exact ⟨tag, htag, hsame, hshows.overview.signals widget hwidget tag
      (hsame ▸ readTag_of_mem hrepresentation htag)⟩

/-- The rebuild records the counter of the model it reads. -/
theorem rebuildInterface_observed (world : World) :
    (rebuildInterface.run world).observedStructureGeneration = world.model.structureGeneration := by
  simp only [rebuildInterface, run_bind, run_read, run_pure]

theorem Generator.refreshStructure_observed (ui : Generator) (world : World) :
    (ui.refreshStructure.run world).observedStructureGeneration =
      world.model.structureGeneration := by
  rw [refreshStructure, run_read_bind]
  split
  · next hobserved => exact hobserved.symm
  · exact rebuildInterface_observed world

theorem Generator.refreshAlarms_observed (ui : Generator) (world : World) :
    (ui.refreshAlarms.run world).observedStructureGeneration = ui.observedStructureGeneration ∧
      (ui.refreshAlarms.run world).observedAlarmGeneration = world.model.alarmGeneration := by
  rw [refreshAlarms, run_read_bind]
  split
  · next hobserved => exact ⟨rfl, hobserved.symm⟩
  · simp only [run_bind, run_pure, and_self]

theorem Generator.refreshValues_observed (ui : Generator) (world : World) :
    (ui.refreshValues.run world).observedStructureGeneration = ui.observedStructureGeneration ∧
      (ui.refreshValues.run world).observedAlarmGeneration = ui.observedAlarmGeneration ∧
      (ui.refreshValues.run world).observedValueGeneration = world.model.valueGeneration := by
  rw [refreshValues, run_read_bind]
  split
  · next hobserved => exact ⟨rfl, rfl, hobserved.symm⟩
  · simp only [run_bind, run_pure, and_self]

/-- After one undisturbed tick everything is observed. -/
theorem Generator.refreshTimerCallback_observed (ui : Generator) (world : World) :
    let after := ui.refreshTimerCallback.run world
    after.observedStructureGeneration = world.model.structureGeneration ∧
      after.observedAlarmGeneration = world.model.alarmGeneration ∧
      after.observedValueGeneration = world.model.valueGeneration := by
  have hstructure := ui.refreshStructure_observed world
  obtain ⟨hsame, halarms⟩ := (ui.refreshStructure.run world).refreshAlarms_observed world
  obtain ⟨hstill, hkept, hvalues⟩ :=
    ((ui.refreshStructure.run world).refreshAlarms.run world).refreshValues_observed world
  simp only [refreshTimerCallback, run_bind]
  exact ⟨(hstill.trans hsame).trans hstructure, hkept.trans halarms, hvalues⟩

/-- When no update is open, the bindings of an undisturbed rebuild are those of the layout. -/
theorem rebuildInterface_bindings {world : World}
    (hidle : world.model.structureUpdateActive = false) :
    (rebuildInterface.run world).bindings = createBindings.run world.model.layout := by
  have hfollows : (rebuildInterface.run world).Follows world.model := rebuildInterface_ensures.run
  apply hfollows.bindings
  refine ⟨?_, nofun, nofun⟩
  rw [rebuildInterface_observed, pendingGeneration_of_idle hidle]

/-- The objects of a model carry different indices. -/
theorem nodup_indices (hrepresentation : Representation model) :
    (model.layout.equipment.map Equipment.index).Nodup := by
  refine List.pairwise_iff_getElem.mpr fun place other hplace hother hlt hsame => ?_
  simp only [List.length_map, layout] at hplace hother
  have hfirst := hrepresentation.equipment_indexed place _ (List.getElem?_eq_getElem hplace)
  have hsecond := hrepresentation.equipment_indexed other _ (List.getElem?_eq_getElem hother)
  simp only [List.getElem_map, layout, hfirst, hsecond, Option.some_inj] at hsame
  omega

/-- When no update is open, counters that are equal have been observed for good. -/
theorem Generator.upTo_of_observed {values alarms : Bool}
    (hidle : model.structureUpdateActive = false) (hcounting : model.Counting)
    (hstructure : ui.observedStructureGeneration = model.structureGeneration)
    (hvalues : values = true → ui.observedValueGeneration = model.valueGeneration)
    (halarms : alarms = true → ui.observedAlarmGeneration = model.alarmGeneration) :
    ui.UpTo values alarms model := by
  obtain ⟨-, hvalueCounting, halarmCounting⟩ := hcounting
  refine ⟨?_, fun hneeded => ?_, fun hneeded => ?_⟩
  · rw [pendingGeneration_of_idle hidle, hstructure]
  · have hobserved := hvalues hneeded
    omega
  · have hobserved := halarms hneeded
    omega

end

/-- The counter of the structure moves once for each update that changed something, at its end.  When
no update is open, a resting UI that has observed the counter of the structure has the bindings that a
rebuild would make, and every page is bound to the current objects and tags; with the counter of the
alarms it lists them, and with that of the values it displays them. -/
theorem ui_converges :
    (∀ (model : DataModel) (ops : List Op), model.structureGeneration < counterMax →
      (∀ op ∈ ops, op.withinUpdate = true) →
        (∀ done, done <+: ops →
          (model.beginStructureUpdate.run done).structureGeneration = model.structureGeneration) ∧
        (model.run (.beginStructureUpdate :: (ops ++ [.endStructureUpdate]))).structureGeneration =
          if structureChanged (model.beginStructureUpdate.transcript ops) then
            model.structureGeneration + 1
          else model.structureGeneration) ∧
    (∀ (model : DataModel) (op : Op), (model.exec op).1 ≠ .ok →
      (model.exec op).2.structureGeneration = model.structureGeneration) ∧
    ∀ (system : System) (ui : Generator), system.Reached → system.thread = .resting ui →
      system.world.model.structureUpdateActive = false →
      ui.observedStructureGeneration = system.world.model.structureGeneration →
        ui.bindings = (rebuildInterface.run system.world).bindings ∧
        ui.bindings.Binds system.world.model.layout ∧
        (ui.observedAlarmGeneration = system.world.model.alarmGeneration →
          ui.alarms =
            if system.world.model.objectCount = 0 then .waiting
            else if system.world.model.alarms.filter Alarm.active = [] then .clear
            else .listed (system.world.model.alarms.filter Alarm.active).length
              (system.world.model.alarms.filter Alarm.active)) ∧
        (ui.observedValueGeneration = system.world.model.valueGeneration →
          ui.Displays system.world.model) ∧
        (ui.observedAlarmGeneration = system.world.model.alarmGeneration →
          ui.observedValueGeneration = system.world.model.valueGeneration →
            ui.overview.summary = some (summarize.run (contents system.world.model))) := by
  refine ⟨fun model ops hlt hops => ⟨fun done hdone => ?_, ?_⟩, fun model op herror => ?_, ?_⟩
  · have hactive : model.beginStructureUpdate.structureUpdateActive = true := rfl
    exact (run_withinUpdate hactive fun op hop => hops op (hdone.subset hop)).1
  · exact update_structureGeneration hlt hops
  · rw [exec_error herror]
  · intro system ui hreached hresting hidle hstructure
    have hsound := System.reached_sound hreached
    simp only [System.Sound, hresting] at hsound
    have hfollows := hsound.follows
    have hrepresentation := (System.reached_model hreached.1).representation
    have hbindings := hfollows.bindings
      (Generator.upTo_of_observed hidle hreached.2 hstructure nofun nofun)
    have hbinds := createBindings_binds (nodup_indices hrepresentation)
    rw [← hbindings] at hbinds
    refine ⟨hbindings.trans (rebuildInterface_bindings hidle).symm, hbinds, fun hobserved => ?_,
      fun hobserved => ?_, fun hobservedAlarm hobservedValue => ?_⟩
    · have hupTo : ui.UpTo false true system.world.model :=
        Generator.upTo_of_observed hidle hreached.2 hstructure nofun fun _ => hobserved
      rw [hfollows.alarms hupTo, run_rebuildAlarmList]
      rfl
    · have hupTo : ui.UpTo true false system.world.model :=
        Generator.upTo_of_observed hidle hreached.2 hstructure (fun _ => hobserved) nofun
      exact (hfollows.shows hupTo).displays hrepresentation hbindings
    · exact hfollows.summary (Generator.upTo_of_observed hidle hreached.2 hstructure
        (fun _ => hobservedValue) fun _ => hobservedAlarm)

/-- The panel after it has been switched on. -/
private def switchedOn : System where
  world := { model := empty 1 1, tick := 0 }
  thread := .running rebuildInterface

private theorem switchedOn_reached : switchedOn.Reached :=
  ⟨.start ⟨1, 1, rfl, rfl⟩, by decide⟩

private def strayAlarm : Alarm :=
  { sourceNodeId := .ofText _ (ascii "ns=2;i=7"), alarmCode := .ofText _ (ascii "HIGH"), active := true }

private def pump : Equipment :=
  { browseName := .ofText _ (ascii "Pump"), entityKind := .activeEquipment, parentIndex := none }

private def pumpSpeed : Tag :=
  { dataType := .integer, readable := true, writable := true }

private def discovery : List Op :=
  [.beginStructureUpdate, .clear, .addEquipment (some pump), .addTag (some pumpSpeed),
    .endStructureUpdate]

/-- A discovery in the middle of the first rebuild. -/
private def straddlingRun : List SystemEvent :=
  [.read, .call .beginStructureUpdate, .read, .call .clear, .read,
    .call (.addEquipment (some pump)), .read, .read, .call (.addTag (some pumpSpeed)), .read,
    .call .endStructureUpdate, .call (.updateValue 0 (some { integerValue := 5 }) true),
    .call (.updateAlarm (some strayAlarm))]

private def afterStraddling : World where
  model := (empty 1 1).run (discovery ++
    [.updateValue 0 (some { integerValue := 5 }) true, .updateAlarm (some strayAlarm)])
  tick := 0

/-- The tick after the discovery shows what it has found. -/
theorem ui_converges_straddling :
    ((empty 1 1).run discovery).structureGeneration = 2 ∧
    ∃ (system : System) (ui : Generator), system.Reached ∧ system.thread = .resting ui ∧
      system.world.model.objectCount = 1 ∧ ui.bindings = (rebuildInterface.run system.world).bindings ∧
      ui.bindings.trends = [some 0] ∧
      ui.bindings.controls.tagBindings =
        [{ tagIndex := some 0, type := .numericSlider, control := true }] ∧
      ui.alarms = .listed 1 [strayAlarm] ∧ ui.Displays system.world.model := by
  have hbatch := (ui_converges.1 (empty 1 1)
    [.clear, .addEquipment (some pump), .addTag (some pumpSpeed)] (by decide) (by decide)).2
  refine ⟨hbatch.trans (by decide +kernel), ?_⟩
  have hadmitted : System.machine.Admitted (fun system _ => system.world.model.Counting) switchedOn
      straddlingRun := by decide +kernel
  obtain ⟨world, program, hreplay, hworld⟩ : ∃ world program,
      System.machine.replay switchedOn straddlingRun = some ⟨world, .running program⟩ ∧
        world = afterStraddling := ⟨_, _, rfl, by decide +kernel⟩
  have hcounting : world.model.Counting := hworld ▸ by decide +kernel
  have hidle : world.model.structureUpdateActive = false := hworld ▸ by decide +kernel
  have hobjects : world.model.objectCount = 1 := hworld ▸ by decide +kernel
  have hactive : world.model.alarms.filter Alarm.active = [strayAlarm] :=
    hworld ▸ by decide +kernel
  have htrends : ((world.model.layout.tags.filter isTrendCandidate).map Tag.index).take
      trendsMaxCharts = [some 0] := hworld ▸ by decide +kernel
  have hcells : pageCells world.model.layout .controls =
      [{ tagIndex := some 0, type := .numericSlider, control := true }] :=
    hworld ▸ by decide +kernel
  have hticked := System.reached_tick (System.reached_end
    ⟨switchedOn_reached.1.replay hadmitted hreplay, hcounting⟩)
  obtain ⟨hstructure, halarms, hvalues⟩ :=
    (program.run world).refreshTimerCallback_observed world
  obtain ⟨hbindings, hbinds, hlisted, hdisplays, -⟩ :=
    ui_converges.2.2 _ _ hticked rfl hidle hstructure
  refine ⟨_, _, hticked, rfl, hobjects, hbindings, hbinds.trends.trans ?_,
    hbinds.controls.tags.trans ?_, (hlisted halarms).trans ?_, hdisplays hvalues⟩
  · exact htrends
  · exact hcells
  · simp [hobjects, hactive]

private def alarmed : DataModel :=
  (empty 1 1).run [.updateAlarm (some strayAlarm)]

private def discovered : DataModel :=
  (empty 1 1).run discovery

private def measured : DataModel :=
  discovered.run [.updateValue 0 (some { integerValue := 5 }) true]

private def firstScreen : Generator :=
  rebuildInterface.run switchedOn.world

private def discoveredScreen : Generator :=
  firstScreen.refreshTimerCallback.run ⟨discovered, 0⟩

private def measuredScreen : Generator :=
  discoveredScreen.refreshTimerCallback.run ⟨measured, 0⟩

/-- The operator moves the slider on the page for controls. -/
private def movedScreen : Generator :=
  (measuredScreen.slide .controls 0).getD measuredScreen

private theorem measured_reached : System.Reached ⟨⟨measured, 0⟩, .resting measuredScreen⟩ := by
  have hfirst : System.Reached ⟨⟨empty 1 1, 0⟩, .resting firstScreen⟩ :=
    System.reached_end switchedOn_reached
  have hdiscovery : System.machine.replay ⟨⟨empty 1 1, 0⟩, .resting firstScreen⟩
      (discovery.map SystemEvent.call) = some ⟨⟨discovered, 0⟩, .resting firstScreen⟩ := rfl
  have hdiscovered : System.Reached ⟨⟨discovered, 0⟩, .resting discoveredScreen⟩ :=
    System.reached_tick ⟨hfirst.1.replay (by decide +kernel) hdiscovery, by decide +kernel⟩
  have hupdate : System.machine.step ⟨⟨discovered, 0⟩, .resting discoveredScreen⟩
      (.call (.updateValue 0 (some { integerValue := 5 }) true)) =
        some ⟨⟨measured, 0⟩, .resting discoveredScreen⟩ := rfl
  exact System.reached_tick ⟨.step hdiscovered.1 hdiscovered.2 hupdate, by decide +kernel⟩

/-- What the observed counters do not promise: the alarms of an empty model are not listed, a chart
waits for its own timer, and the knob of a slider stays where it was moved. -/
theorem displays_unobserved :
    (¬ ∀ (system : System) (ui : Generator), system.Reached → system.thread = .resting ui →
      system.world.model.structureUpdateActive = false →
      ui.observedStructureGeneration = system.world.model.structureGeneration →
      ui.observedAlarmGeneration = system.world.model.alarmGeneration →
        ui.alarms.alarms = system.world.model.alarms.filter Alarm.active) ∧
    (¬ ∀ (system : System) (ui : Generator), system.Reached → system.thread = .resting ui →
      system.world.model.structureUpdateActive = false →
      ui.observedStructureGeneration = system.world.model.structureGeneration →
      ui.observedValueGeneration = system.world.model.valueGeneration →
        ∀ widget ∈ ui.trends, ∀ tag ∈ system.world.model.tags, tag.index = widget.tagIndex →
          hasNumericValue tag = true → widget.label = some tag) ∧
    ¬ ∀ (system : System) (ui : Generator), system.Reached → system.thread = .resting ui →
      system.world.model.structureUpdateActive = false →
      ui.observedStructureGeneration = system.world.model.structureGeneration →
      ui.observedValueGeneration = system.world.model.valueGeneration →
        ∀ widget ∈ ui.controls.tags, ∀ tag ∈ system.world.model.tags,
          tag.index = widget.binding.tagIndex → widget.binding.type = .numericSlider →
            tag.valueValid = true → widget.knob = some tag := by
  refine ⟨fun hclaim => ?_, fun hclaim => ?_, fun hclaim => ?_⟩
  · have hfirst : System.Reached ⟨⟨empty 1 1, 0⟩, .resting firstScreen⟩ :=
      System.reached_end switchedOn_reached
    have hcall : System.machine.step ⟨⟨empty 1 1, 0⟩, .resting firstScreen⟩
        (.call (.updateAlarm (some strayAlarm))) =
          some ⟨⟨alarmed, 0⟩, .resting firstScreen⟩ := rfl
    have halarmed : System.Reached ⟨⟨alarmed, 0⟩, .resting firstScreen⟩ :=
      ⟨.step hfirst.1 hfirst.2 hcall, by decide +kernel⟩
    have hlisted := hclaim _ _ (System.reached_tick halarmed) rfl (by decide +kernel)
      (by decide +kernel) (by decide +kernel)
    exact absurd hlisted (by decide +kernel)
  · have hsampled := hclaim _ _ measured_reached rfl (by decide +kernel) (by decide +kernel)
      (by decide +kernel)
    exact absurd hsampled (by decide +kernel)
  · have hslide : measuredScreen.slide .controls 0 = some movedScreen := by decide +kernel
    have hstep : System.machine.step ⟨⟨measured, 0⟩, .resting measuredScreen⟩ (.slide .controls 0) =
        some ⟨⟨measured, 0⟩, .resting movedScreen⟩ := by
      simp only [System.machine, System.step, hslide, Option.map_some]
    have hmoved : System.Reached ⟨⟨measured, 0⟩, .resting movedScreen⟩ :=
      ⟨.step measured_reached.1 measured_reached.2 hstep, measured_reached.2⟩
    have hknob := hclaim _ _ hmoved rfl (by decide +kernel) (by decide +kernel) (by decide +kernel)
    exact absurd hknob (by decide +kernel)

end CrowPanel.Ui
