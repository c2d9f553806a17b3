import CrowPanel.Library.Machine
import CrowPanel.Ui.Convergence

/-!
# What a switch shows

A switch of the UI shows what the operator has chosen until the model agrees with it or the hold of
two seconds is over.  `update_tag_binding` decides this, but it is called only by a tick that finds
another value generation than the one it has seen.  So a choice that the server does not follow is
taken back by the first *update of some value* after the hold, not by the first tick after it.

## Strategy

Ticks, updates of values and accepted operations of switches are the events of a machine; a tick runs
undisturbed.  The invariant (`Remembers`) says of each switch: while a write is held it shows the
value that was written, and otherwise, when no value has changed since the last tick, it shows the
value of the model.  What one tick shows then follows by the cases of `update_tag_binding`.
-/

namespace CrowPanel.Ui

open Library DataModel

/-! ## One switch -/

namespace TagWidget

variable {widget : TagWidget} {world : World} {tag : Tag}

/-- The switch stands at the value and says so. -/
def ShowsValue (widget : TagWidget) (value : Bool) : Prop :=
  widget.checked = value ∧ widget.label = .switched value

instance (value : Bool) : Decidable (widget.ShowsValue value) :=
  inferInstanceAs (Decidable (_ ∧ _))

/-- The switch keeps the value that was written, against the value of the model. -/
def Keeps (widget : TagWidget) (value : Bool) (tick : ℕ) : Prop :=
  widget.writePending = true ∧ value ≠ widget.pendingValue ∧
    elapsedSince widget.writeStarted tick < writeHoldMs

instance (value : Bool) (tick : ℕ) : Decidable (widget.Keeps value tick) :=
  inferInstanceAs (Decidable (_ ∧ _))

/-- The valid tag behind a switch, if there is one. -/
def ValidTag (widget : TagWidget) (records : Records) (tag : Tag) : Prop :=
  (readTag widget.binding.tagIndex).run records = some tag ∧ tag.valueValid = true

theorem run_holds (value : Bool) :
    (widget.holds value).run world = true ↔ widget.Keeps value world.tick := by
  unfold holds
  by_cases hpending : widget.writePending ∧ value ≠ widget.pendingValue
  · rw [if_pos hpending, Reads.run_read_bind, Reads.run_pure, decide_eq_true_iff]
    exact ⟨fun helapsed => ⟨hpending.1, hpending.2, helapsed⟩, fun hkeeps => hkeeps.2.2⟩
  · rw [if_neg hpending, Reads.run_pure]
    exact ⟨nofun, fun hkeeps => absurd ⟨hkeeps.1, hkeeps.2.1⟩ hpending⟩

/-- An update of a switch that has a valid tag. -/
theorem run_update_of_valid (world : World) (hswitch : widget.binding.type = .booleanSwitch)
    (htag : widget.ValidTag world.model.records tag) :
    widget.update.run world =
      if widget.Keeps (modelValue tag world.model.records) world.tick then
        { widget with moved := false }
      else
        { widget with
          moved := false
          writePending := false
          checked := modelValue tag world.model.records
          label := .switched (modelValue tag world.model.records) } := by
  obtain ⟨hread, hvalid⟩ := htag
  have hinvalid : ¬ tag.valueValid = false := by simp [hvalid]
  simp only [update, onRecords, Reads.run_bind, Reads.run_through, hread, updateFrom,
    updateTagBinding, if_neg hinvalid, if_pos hswitch, run_switchValue]
  split
  · next hheld =>
      have hkeeps : widget.Keeps (modelValue tag world.model.records) world.tick :=
        (run_holds _).mp hheld
      rw [if_pos hkeeps, Reads.run_pure]
  · next hheld =>
      have hkeeps : ¬ widget.Keeps (modelValue tag world.model.records) world.tick :=
        fun hkeeps => hheld ((run_holds _).mpr hkeeps)
      rw [if_neg hkeeps, Reads.run_pure]

/-- Without a valid tag only the label of the switch can change. -/
theorem run_update_of_not_valid
    (htag : ∀ tag, ¬ widget.ValidTag world.model.records tag) :
    ∃ label, widget.update.run world = { widget with label, moved := false } := by
  cases hread : (readTag widget.binding.tagIndex).run world.model.records with
  | none =>
      refine ⟨widget.label, ?_⟩
      simp only [update, onRecords, Reads.run_bind, Reads.run_through, hread, updateFrom,
        Reads.run_pure]
  | some tag =>
      have hinvalid : tag.valueValid = false :=
        Bool.eq_false_iff.mpr fun hvalid => htag tag ⟨hread, hvalid⟩
      refine ⟨.noValue, ?_⟩
      simp only [update, onRecords, Reads.run_bind, Reads.run_through, hread, updateFrom,
        updateTagBinding, if_pos hinvalid, Reads.run_pure]

/-- A switch whose operation is accepted holds the value at which it stands now. -/
theorem run_booleanSwitchEvent_ok :
    (widget.booleanSwitchEvent .ok .ok).run world =
      { widget with
        checked := !widget.checked
        writePending := true
        pendingValue := !widget.checked
        writeStarted := world.tick
        label := .switched !widget.checked } := by
  simp [booleanSwitchEvent]

end TagWidget

/-! ## The pages -/

/-- The page for equipment or the one for controls. -/
def Generator.page (ui : Generator) : PageMode → EquipmentPage
  | .details => ui.equipment
  | .controls => ui.controls

/-- The switch at a place of a page. -/
def EquipmentPage.switchAt (page : EquipmentPage) (place : ℕ) : Option TagWidget :=
  page.tags[place]?.filter fun widget => widget.binding.type = .booleanSwitch

def Generator.switchAt (ui : Generator) (mode : PageMode) (place : ℕ) : Option TagWidget :=
  (ui.page mode).switchAt place

section

variable {ui : Generator} {world : World} {mode : PageMode} {place : ℕ} {widget : TagWidget}

theorem EquipmentPage.switchAt_eq_some {page : EquipmentPage} :
    page.switchAt place = some widget ↔
      page.tags[place]? = some widget ∧ widget.binding.type = .booleanSwitch := by
  rw [switchAt, Option.filter_eq_some_iff, decide_eq_true_iff]

theorem EquipmentPage.run_update_tags (page : EquipmentPage) :
    (page.update.run world).tags = page.tags.map fun widget => widget.update.run world := by
  simp only [EquipmentPage.update, Reads.run_bind, Reads.run_mapM', Reads.run_pure]

/-- An update does not change the binding. -/
theorem TagWidget.run_update_binding (widget : TagWidget) (world : World) :
    (widget.update.run world).binding = widget.binding :=
  (@TagWidget.update_ensures world widget).run.1

/-- The switches of an updated page are the updated switches. -/
theorem EquipmentPage.run_update_switchAt (page : EquipmentPage) :
    (page.update.run world).switchAt place =
      (page.switchAt place).map fun widget => widget.update.run world := by
  rw [switchAt, run_update_tags, List.getElem?_map, Option.filter_map, switchAt]
  simp only [Function.comp_def, TagWidget.run_update_binding]

/-- The alarms are not on the pages of the switches. -/
theorem Generator.run_refreshAlarms_page (ui : Generator) (world : World) (mode : PageMode) :
    (ui.refreshAlarms.run world).page mode = ui.page mode ∧
      (ui.refreshAlarms.run world).observedValueGeneration = ui.observedValueGeneration := by
  rw [Generator.refreshAlarms, Reads.run_read_bind]
  split
  · exact ⟨rfl, rfl⟩
  · cases mode <;> simp only [Reads.run_bind, Reads.run_pure, Generator.page, and_self]

theorem Generator.run_refreshValues_page (ui : Generator) (mode : PageMode) :
    (ui.refreshValues.run world).page mode =
      if world.model.valueGeneration = ui.observedValueGeneration then ui.page mode
      else (ui.page mode).update.run world := by
  rw [Generator.refreshValues, Reads.run_read_bind]
  split
  · rfl
  · simp only [Reads.run_bind, Reads.run_pure]
    cases mode <;> rfl

/-- As long as the structure stays, a tick updates the pages if it finds another value generation. -/
theorem Generator.run_refreshTimerCallback_page (world : World)
    (hstructure : world.model.structureGeneration = ui.observedStructureGeneration)
    (mode : PageMode) :
    (ui.refreshTimerCallback.run world).page mode =
      if world.model.valueGeneration = ui.observedValueGeneration then ui.page mode
      else (ui.page mode).update.run world := by
  have hkept : ui.refreshStructure.run world = ui := by
    rw [Generator.refreshStructure, Reads.run_read_bind, if_pos hstructure, Reads.run_pure]
  obtain ⟨hpage, hobserved⟩ := ui.run_refreshAlarms_page world mode
  simp only [Generator.refreshTimerCallback, Reads.run_bind, hkept,
    Generator.run_refreshValues_page, hpage, hobserved]

/-- A new page has been updated once. -/
theorem run_rebuildInterface_page (world : World) (mode : PageMode) :
    (rebuildInterface.run world).page mode =
      ((createEquipmentView mode).run world.model.layout).create.update.run world := by
  cases mode <;>
    simp only [rebuildInterface, EquipmentPage.create, onLayout, Reads.run_bind, Reads.run_read,
      Reads.run_through, Reads.run_pure, Generator.page]

theorem EquipmentPage.run_toggle {page : EquipmentPage} {program : Program EquipmentPage}
    (world : World) (htoggle : page.toggle place .ok .ok = some program) :
    ∃ widget, page.tags[place]? = some widget ∧ widget.binding.type = .booleanSwitch ∧
      ∀ otherPlace, (program.run world).tags[otherPlace]? =
        if otherPlace = place then some ((widget.booleanSwitchEvent .ok .ok).run world)
        else page.tags[otherPlace]? := by
  obtain ⟨widget, hfilter, rfl⟩ := Option.map_eq_some_iff.mp htoggle
  obtain ⟨hwidget, htype⟩ := Option.filter_eq_some_iff.mp hfilter
  refine ⟨widget, hwidget, of_decide_eq_true htype, fun otherPlace => ?_⟩
  obtain ⟨hlt, -⟩ := List.getElem?_eq_some_iff.mp hwidget
  simp only [Reads.run_bind, Reads.run_pure]
  by_cases hplace : otherPlace = place
  · rw [if_pos hplace, hplace, List.getElem?_set_self hlt]
  · rw [if_neg hplace, List.getElem?_set_ne fun hsame => hplace hsame.symm]

/-- An accepted operation changes one switch and nothing else. -/
theorem Generator.run_toggle {program : Program Generator} (world : World)
    (htoggle : ui.toggle mode place .ok .ok = some program) :
    ∃ widget, ui.switchAt mode place = some widget ∧
      (program.run world).observedStructureGeneration = ui.observedStructureGeneration ∧
      (program.run world).observedValueGeneration = ui.observedValueGeneration ∧
      ∀ otherMode otherPlace, (program.run world).switchAt otherMode otherPlace =
        if otherMode = mode ∧ otherPlace = place then
          some ((widget.booleanSwitchEvent .ok .ok).run world)
        else ui.switchAt otherMode otherPlace := by
  obtain ⟨pageProgram, hpage, hstructure, hvalue, hmode, hother⟩ : ∃ pageProgram,
      (ui.page mode).toggle place .ok .ok = some pageProgram ∧
      (program.run world).observedStructureGeneration = ui.observedStructureGeneration ∧
      (program.run world).observedValueGeneration = ui.observedValueGeneration ∧
      (program.run world).page mode = pageProgram.run world ∧
      ∀ otherMode, otherMode ≠ mode → (program.run world).page otherMode = ui.page otherMode := by
    cases mode <;>
    · obtain ⟨pageProgram, hpage, rfl⟩ := Option.map_eq_some_iff.mp htoggle
      refine ⟨pageProgram, hpage, ?_⟩
      simp only [Reads.run_bind, Reads.run_pure, true_and]
      refine ⟨rfl, fun otherMode hne => ?_⟩
      cases otherMode <;> first | rfl | exact absurd rfl hne
  obtain ⟨widget, hwidget, hswitch, hplaces⟩ := EquipmentPage.run_toggle world hpage
  refine ⟨widget, EquipmentPage.switchAt_eq_some.mpr ⟨hwidget, hswitch⟩, hstructure, hvalue,
    fun otherMode otherPlace => ?_⟩
  by_cases hsame : otherMode = mode
  · subst hsame
    rw [switchAt, hmode, EquipmentPage.switchAt, hplaces]
    by_cases hplace : otherPlace = place
    · rw [if_pos hplace, if_pos ⟨rfl, hplace⟩, TagWidget.run_booleanSwitchEvent_ok,
        Option.filter_some_pos (by simpa using hswitch)]
    · rw [if_neg hplace, if_neg fun hboth => hplace hboth.2]
      rfl
  · rw [if_neg fun hboth => hsame hboth.1, switchAt, hother otherMode hsame, switchAt]

end

/-! ## The display over time -/

/-- The model, the UI and the clock, from a rebuild of the interface on. -/
structure Display where
  model : DataModel
  /-- milliseconds, of which LVGL counts the lower 32 bits -/
  now : ℕ
  ui : Generator
  /-- when the operation of a switch was accepted last -/
  lastToggle : PageMode → ℕ → Option ℕ

inductive DisplayEvent where
  | pass (duration : ℕ)
  /-- `data_model_update_value` -/
  | update (tagIndex : ℕ) (value : Value) (valueValid : Bool)
  /-- `refresh_timer_callback` -/
  | refresh
  /-- an operation of a switch whose writes are accepted -/
  | toggle (mode : PageMode) (place : ℕ)
  deriving DecidableEq

namespace Display

/-- What the thread of the UI reads. -/
def world (display : Display) : World where
  model := display.model
  tick := display.now % 2 ^ 32

def step (display : Display) : DisplayEvent → Option Display
  | .pass duration => some { display with now := display.now + duration }
  | .update tagIndex value valueValid =>
      some { display with model := (display.model.updateValue tagIndex (some value) valueValid).2 }
  | .refresh => some { display with ui := display.ui.refreshTimerCallback.run display.world }
  | .toggle mode place =>
      (display.ui.toggle mode place .ok .ok).map fun program =>
        { display with
          ui := program.run display.world
          lastToggle := fun otherMode otherPlace =>
            if otherMode = mode ∧ otherPlace = place then some display.now
            else display.lastToggle otherMode otherPlace }

def machine : Machine Display DisplayEvent where
  start := fun display => display.ui = rebuildInterface.run display.world ∧
    ∀ mode place, display.lastToggle mode place = none
  step := step

/-- At the end of a tick the switch shows the value of its tag, if this is valid. -/
def Converged (display : Display) (mode : PageMode) (place : ℕ) : Prop :=
  ∀ widget tag, display.ui.switchAt mode place = some widget →
    widget.ValidTag display.model.records tag →
      widget.ShowsValue (modelValue tag display.model.records)

instance (display : Display) (mode : PageMode) (place : ℕ) :
    Decidable (display.Converged mode place) :=
  decidable_of_iff
    (∀ widget ∈ display.ui.switchAt mode place,
      ∀ tag ∈ (readTag widget.binding.tagIndex).run display.model.records, tag.valueValid = true →
        widget.ShowsValue (modelValue tag display.model.records))
    ⟨fun h widget tag hwidget htag => h widget hwidget tag htag.1 htag.2,
      fun h widget hwidget tag htag hvalid => h widget tag hwidget ⟨htag, hvalid⟩⟩

/-- The hold of the last accepted operation is over. -/
def Rested (display : Display) (mode : PageMode) (place : ℕ) : Prop :=
  ∀ toggled, display.lastToggle mode place = some toggled → toggled + writeHoldMs ≤ display.now

/-- The clock of LVGL has come round since an operation, and seems to be within its hold again. -/
def CameRound (display : Display) (toggled : ℕ) : Prop :=
  2 ^ 32 ≤ display.now - toggled ∧ (display.now - toggled) % 2 ^ 32 < writeHoldMs

/-- A tick takes back the choice of the operator: a write that is still held either agrees with the
model, or some value has been updated since the last tick. -/
def TakesBack (display : Display) (mode : PageMode) (place : ℕ) : Prop :=
  ∀ widget tag, display.ui.switchAt mode place = some widget →
    widget.ValidTag display.model.records tag → widget.writePending = true →
      widget.pendingValue ≠ modelValue tag display.model.records →
        display.model.valueGeneration ≠ display.ui.observedValueGeneration ∧
          ∀ toggled, display.lastToggle mode place = some toggled → ¬ display.CameRound toggled

/-- The counter of the values does not come round to what the last tick has seen. -/
def CountsOn (display : Display) : DisplayEvent → Prop
  | .update _ _ _ => bump display.model.valueGeneration ≠ display.ui.observedValueGeneration
  | _ => True

instance (display : Display) : (event : DisplayEvent) → Decidable (display.CountsOn event)
  | .update _ _ _ => inferInstanceAs (Decidable (_ ≠ _))
  | .pass _ | .refresh | .toggle _ _ => inferInstanceAs (Decidable True)

/-- What is known of a switch between two ticks. -/
structure Remembers (display : Display) (mode : PageMode) (place : ℕ) (widget : TagWidget) :
    Prop where
  checked_eq : widget.writePending = true → widget.checked = widget.pendingValue
  toggled : widget.writePending = true → ∃ toggled, display.lastToggle mode place = some toggled ∧
    toggled ≤ display.now ∧ widget.writeStarted = toggled % 2 ^ 32
  shows : display.model.valueGeneration = display.ui.observedValueGeneration →
    ∀ tag, widget.ValidTag display.model.records tag →
      (widget.writePending = true → widget.pendingValue = modelValue tag display.model.records) →
        widget.ShowsValue (modelValue tag display.model.records)

structure Invariant (display : Display) : Prop where
  structure_eq : display.model.structureGeneration = display.ui.observedStructureGeneration
  remembers : ∀ mode place widget, display.ui.switchAt mode place = some widget →
    display.Remembers mode place widget

section

variable {display after : Display} {event : DisplayEvent} {mode : PageMode} {place : ℕ}
  {widget : TagWidget}

/-- The two clocks agree about the time since an operation, but for turns of the shorter one. -/
theorem elapsedSince_eq {toggled now : ℕ} (hle : toggled ≤ now) :
    elapsedSince (toggled % 2 ^ 32) (now % 2 ^ 32) = (now - toggled) % 2 ^ 32 := by
  unfold elapsedSince
  omega

/-- Whatever a switch remembers, an update keeps; and afterwards it shows the model, unless it holds
another value. -/
theorem Remembers.update (hswitch : widget.binding.type = .booleanSwitch)
    (hchecked : widget.writePending = true → widget.checked = widget.pendingValue)
    (htoggled : widget.writePending = true → ∃ toggled, after.lastToggle mode place = some toggled ∧
      toggled ≤ after.now ∧ widget.writeStarted = toggled % 2 ^ 32) :
    after.Remembers mode place (widget.update.run after.world) := by
  by_cases hvalid : ∃ tag, widget.ValidTag after.model.records tag
  · obtain ⟨tag, htag⟩ := hvalid
    have hrun := TagWidget.run_update_of_valid after.world hswitch htag
    have honly : ∀ other, widget.ValidTag after.model.records other → other = tag :=
      fun other hother => Option.some.inj (hother.1.symm.trans htag.1)
    rw [hrun]
    split
    · next hkeeps =>
        refine ⟨hchecked, htoggled, fun _ other hother hagrees => ?_⟩
        obtain rfl := honly other hother
        exact absurd (hagrees hkeeps.1).symm hkeeps.2.1
    · refine ⟨nofun, nofun, fun _ other hother _ => ?_⟩
      obtain rfl := honly other hother
      exact ⟨rfl, rfl⟩
  · have hnone : ∀ tag, ¬ widget.ValidTag after.world.model.records tag :=
      fun tag htag => hvalid ⟨tag, htag⟩
    obtain ⟨label, hrun⟩ := TagWidget.run_update_of_not_valid hnone
    rw [hrun]
    exact ⟨hchecked, htoggled, fun _ tag htag => absurd htag (hnone tag)⟩

/-- The structure stays, so a tick depends on the counter of the values only. -/
theorem Invariant.refresh_page (hinvariant : display.Invariant) (mode : PageMode) :
    (display.ui.refreshTimerCallback.run display.world).page mode =
      if display.model.valueGeneration = display.ui.observedValueGeneration then
        display.ui.page mode
      else (display.ui.page mode).update.run display.world :=
  Generator.run_refreshTimerCallback_page display.world hinvariant.structure_eq mode

/-- The switches after a tick. -/
theorem Invariant.refresh_switchAt (hinvariant : display.Invariant) (mode : PageMode) (place : ℕ) :
    (display.ui.refreshTimerCallback.run display.world).switchAt mode place =
      if display.model.valueGeneration = display.ui.observedValueGeneration then
        display.ui.switchAt mode place
      else (display.ui.switchAt mode place).map fun widget => widget.update.run display.world := by
  rw [Generator.switchAt, hinvariant.refresh_page mode]
  split
  · rfl
  · rw [EquipmentPage.run_update_switchAt]
    rfl

/-- Once the hold is over, a write is kept only when the clock has come round. -/
theorem Remembers.keeps_iff (hremembers : display.Remembers mode place widget)
    (hrested : display.Rested mode place) (hpending : widget.writePending = true) {value : Bool}
    (hne : widget.pendingValue ≠ value) :
    widget.Keeps value display.world.tick ↔
      ∃ toggled, display.lastToggle mode place = some toggled ∧ display.CameRound toggled := by
  obtain ⟨toggled, hlast, hle, hstarted⟩ := hremembers.toggled hpending
  have helapsed : elapsedSince widget.writeStarted display.world.tick =
      (display.now - toggled) % 2 ^ 32 := by
    rw [hstarted]
    exact elapsedSince_eq hle
  have hover := hrested toggled hlast
  refine ⟨fun hkeeps => ⟨toggled, hlast, ?_, ?_⟩, ?_⟩
  · by_contra hfew
    have hkept := hkeeps.2.2
    rw [helapsed, Nat.mod_eq_of_lt (not_le.mp hfew)] at hkept
    omega
  · exact helapsed ▸ hkeeps.2.2
  · rintro ⟨other, hother, hround⟩
    obtain rfl := Option.some.inj (hlast.symm.trans hother)
    exact ⟨hpending, fun hsame => hne hsame.symm, helapsed ▸ hround.2⟩

/-- A switch that a step leaves alone.  It owes a value only if the last one has been observed. -/
theorem Remembers.later (hbefore : display.Remembers mode place widget)
    (hlast : after.lastToggle mode place = display.lastToggle mode place)
    (hnow : display.now ≤ after.now)
    (hobserved : after.model.valueGeneration = after.ui.observedValueGeneration →
      display.model.valueGeneration = display.ui.observedValueGeneration ∧
        after.model = display.model) : after.Remembers mode place widget where
  checked_eq := hbefore.checked_eq
  toggled := by
    intro hpending
    obtain ⟨toggled, hsome, hle, hstarted⟩ := hbefore.toggled hpending
    exact ⟨toggled, hlast.trans hsome, hle.trans hnow, hstarted⟩
  shows := by
    intro hafter
    obtain ⟨hearlier, hmodel⟩ := hobserved hafter
    rw [hmodel]
    exact hbefore.shows hearlier

theorem Invariant.step (hinvariant : display.Invariant) (hok : display.CountsOn event)
    (hstep : machine.step display event = some after) : after.Invariant := by
  cases event with
  | pass duration =>
      obtain rfl := Option.some.inj hstep
      refine ⟨hinvariant.structure_eq, fun mode place widget hwidget => ?_⟩
      -- time passes on, so the operation stays in the past
      exact (hinvariant.remembers mode place widget hwidget).later rfl (Nat.le_add_right _ _)
        fun hobserved => ⟨hobserved, rfl⟩
  | update tagIndex value valueValid =>
      obtain rfl := Option.some.inj hstep
      by_cases hplace : display.model.tags.length ≤ tagIndex
      · have hsame : (display.model.updateValue tagIndex (some value) valueValid).2 =
            display.model := by
          simp only [updateValue, if_pos hplace]
        rw [hsame]
        exact hinvariant
      · have hafter : (display.model.updateValue tagIndex (some value) valueValid).2 =
            { display.model with
              tags := display.model.tags.modify tagIndex fun tag => { tag with value, valueValid }
              valueGeneration := bump display.model.valueGeneration } := by
          simp only [updateValue, if_neg hplace]
        rw [hafter]
        refine ⟨hinvariant.structure_eq, fun mode place widget hwidget => ?_⟩
        -- the value counter has moved on, so nothing is owed until the next tick
        exact (hinvariant.remembers mode place widget hwidget).later rfl le_rfl
          fun hobserved => absurd hobserved hok
  | refresh =>
      obtain rfl := Option.some.inj hstep
      obtain ⟨hstructure, -, -⟩ := display.ui.refreshTimerCallback_observed display.world
      refine ⟨hstructure.symm, fun mode place updated hupdated => ?_⟩
      rw [hinvariant.refresh_switchAt] at hupdated
      split at hupdated
      · next hobserved =>
          exact (hinvariant.remembers mode place updated hupdated).later rfl le_rfl
            fun _ => ⟨hobserved, rfl⟩
      · obtain ⟨widget, hwidget, rfl⟩ := Option.map_eq_some_iff.mp hupdated
        have hbefore := hinvariant.remembers mode place widget hwidget
        have hswitch := (EquipmentPage.switchAt_eq_some.mp hwidget).2
        exact Remembers.update hswitch hbefore.checked_eq hbefore.toggled
  | toggle mode place =>
      obtain ⟨program, htoggle, rfl⟩ := Option.map_eq_some_iff.mp hstep
      obtain ⟨operated, hoperated, hstructure, hvalue, hplaces⟩ :=
        Generator.run_toggle display.world htoggle
      refine ⟨hinvariant.structure_eq.trans hstructure.symm,
        fun otherMode otherPlace widget hwidget => ?_⟩
      rw [hplaces] at hwidget
      -- only the operated switch changes
      by_cases hsame : otherMode = mode ∧ otherPlace = place
      · rw [if_pos hsame] at hwidget
        obtain rfl := Option.some.inj hwidget
        rw [TagWidget.run_booleanSwitchEvent_ok]
        refine ⟨fun _ => rfl, fun _ => ⟨display.now, if_pos hsame, le_rfl, rfl⟩,
          fun _ tag _ hagrees => ?_⟩
        have hvalue := hagrees rfl
        exact ⟨hvalue, congrArg ValueLabel.switched hvalue⟩
      · rw [if_neg hsame] at hwidget
        exact (hinvariant.remembers otherMode otherPlace widget hwidget).later (if_neg hsame) le_rfl
          fun hobserved => ⟨hobserved.trans hvalue, rfl⟩

theorem reached_invariant (hreached : machine.ReachedBy CountsOn display) : display.Invariant := by
  refine hreached.invariant (fun display hstart => ?_) fun _ _ _ _ hinvariant hok hstep =>
    hinvariant.step hok hstep
  obtain ⟨hui, hnever⟩ := hstart
  refine ⟨?_, fun mode place updated hupdated => ?_⟩
  · rw [hui, rebuildInterface_observed]
    rfl
  · rw [hui, Generator.switchAt, run_rebuildInterface_page, EquipmentPage.run_update_switchAt]
      at hupdated
    obtain ⟨widget, hplace, rfl⟩ := Option.map_eq_some_iff.mp hupdated
    obtain ⟨hwidget, hswitch⟩ := EquipmentPage.switchAt_eq_some.mp hplace
    have hcreated : widget.writePending = false := by
      obtain ⟨binding, -, rfl⟩ := List.mem_map.mp (List.mem_of_getElem? hwidget)
      rfl
    refine Remembers.update hswitch (fun hpending => ?_) fun hpending => ?_ <;>
      exact absurd (hcreated.symm.trans hpending) (by simp)

/-- In every run, a tick after the hold ends with the value of the model on the switch exactly if it
takes back what the model does not follow. -/
theorem converged_iff_takesBack (hreached : machine.ReachedBy CountsOn display)
    (hstep : machine.step display .refresh = some after) (hrested : display.Rested mode place) :
    after.Converged mode place ↔ display.TakesBack mode place := by
  have hinvariant := reached_invariant hreached
  obtain rfl := Option.some.inj hstep
  have hafter := hinvariant.refresh_switchAt mode place
  by_cases hobserved : display.model.valueGeneration = display.ui.observedValueGeneration
  -- no value has come: the tick leaves the switch alone
  · rw [if_pos hobserved] at hafter
    refine ⟨fun hconverged widget tag hwidget htag hpending hne => ?_,
      fun htakes widget tag hwidget htag => ?_⟩
    · have hshows := hconverged widget tag (hafter.trans hwidget) htag
      have hchecked := (hinvariant.remembers mode place widget hwidget).checked_eq hpending
      exact absurd (hchecked.symm.trans hshows.1) hne
    · rw [hafter] at hwidget
      refine (hinvariant.remembers mode place widget hwidget).shows hobserved tag htag
        fun hpending => ?_
      by_contra hne
      exact (htakes widget tag hwidget htag hpending hne).1 hobserved
  -- a value has come: the switch is updated, and keeps its own value only within a hold
  · rw [if_neg hobserved] at hafter
    refine ⟨fun hconverged widget tag hwidget htag hpending hne => ⟨hobserved, ?_⟩,
      fun htakes updated tag hupdated htag => ?_⟩
    · intro toggled hlast hround
      have hremembers := hinvariant.remembers mode place widget hwidget
      have hkeeps := (hremembers.keeps_iff hrested hpending hne).mpr ⟨toggled, hlast, hround⟩
      have hswitch := (EquipmentPage.switchAt_eq_some.mp hwidget).2
      have hrun : widget.update.run display.world = { widget with moved := false } :=
        (TagWidget.run_update_of_valid display.world hswitch htag).trans (if_pos hkeeps)
      have hkept : (display.ui.refreshTimerCallback.run display.world).switchAt mode place =
          some { widget with moved := false } := by
        rw [hafter, hwidget, Option.map_some, hrun]
      exact absurd ((hremembers.checked_eq hpending).symm.trans (hconverged _ tag hkept htag).1) hne
    · rw [hafter] at hupdated
      obtain ⟨widget, hwidget, rfl⟩ := Option.map_eq_some_iff.mp hupdated
      have hswitch := (EquipmentPage.switchAt_eq_some.mp hwidget).2
      have hvalid : widget.ValidTag display.model.records tag := by
        rwa [TagWidget.ValidTag, TagWidget.run_update_binding] at htag
      rw [TagWidget.run_update_of_valid display.world hswitch hvalid]
      split
      · next hkeeps =>
          have hne : widget.pendingValue ≠ modelValue tag display.model.records :=
            fun hsame => hkeeps.2.1 hsame.symm
          have hremembers := hinvariant.remembers mode place widget hwidget
          obtain ⟨toggled, hlast, hround⟩ := (hremembers.keeps_iff hrested hkeeps.1 hne).mp hkeeps
          exact absurd hround ((htakes widget tag hwidget hvalid hkeeps.1 hne).2 toggled hlast)
      · exact ⟨rfl, rfl⟩

end

private def valve : Equipment :=
  { browseName := .ofText _ (ascii "Valve"), entityKind := .activeEquipment, parentIndex := none }

private def valveCommand : Tag :=
  { equipmentIndex := some 0, dataType := .boolean, readable := true, writable := true }

/-- A valve that is closed. -/
private def closedValve : DataModel :=
  (empty 1 1).run
    [.beginStructureUpdate, .addEquipment (some valve), .addTag (some valveCommand),
      .endStructureUpdate, .updateValue 0 (some { booleanValue := false }) true]

private def shownValve : Display where
  model := closedValve
  now := 0
  ui := rebuildInterface.run ⟨closedValve, 0⟩
  lastToggle := fun _ _ => none

private theorem shownValve_start : machine.start shownValve :=
  ⟨rfl, fun _ _ => rfl⟩

/-- The operator opens the valve, and nothing comes of it for five seconds. -/
private def opened : List DisplayEvent :=
  [.refresh, .toggle .controls 0, .pass 5000]

/-- A server that goes on reporting the closed valve. -/
private def reported : List DisplayEvent :=
  opened ++ [.update 0 { booleanValue := false } true]

private def after (events : List DisplayEvent) : Display :=
  (machine.replay shownValve events).getD shownValve

private theorem after_reached {events : List DisplayEvent} {ok : Display → DisplayEvent → Prop}
    (hrun : (machine.replay shownValve events).isSome = true)
    (hadmitted : machine.Admitted ok shownValve events) : machine.ReachedBy ok (after events) := by
  obtain ⟨last, hlast⟩ := Option.isSome_iff_exists.mp hrun
  rw [after, hlast, Option.getD_some]
  exact Machine.ReachedBy.replay (.start shownValve_start) hadmitted hlast

private theorem after_rested {events : List DisplayEvent}
    (hlast : (after events).lastToggle .controls 0 = some 0) (hnow : (after events).now = 5000) :
    (after events).Rested .controls 0 := by
  intro toggled htoggled
  obtain rfl := Option.some.inj (hlast.symm.trans htoggled)
  rw [hnow]
  decide

/-- The choice that the server reports not to have followed is taken back. -/
theorem reported_converged :
    ((after reported).ui.switchAt .controls 0).isSome = true ∧
      Converged
        { after reported with
          ui := (after reported).ui.refreshTimerCallback.run (after reported).world }
        .controls 0 := by
  have hlast : (after reported).lastToggle .controls 0 = some 0 := by decide +kernel
  have hnow : (after reported).now = 5000 := by decide +kernel
  have hreached : machine.ReachedBy CountsOn (after reported) :=
    after_reached (by decide +kernel) (by decide +kernel)
  refine ⟨by decide +kernel,
    (converged_iff_takesBack hreached rfl (after_rested hlast hnow)).mpr ?_⟩
  refine fun _ _ _ _ _ _ => ⟨by decide +kernel, fun toggled htoggled hround => ?_⟩
  have hfew := hround.1
  rw [hnow] at hfew
  omega

/-- When nothing is reported, the switch goes on showing an open valve. -/
theorem opened_not_converged :
    ¬ ∀ (display after : Display) (mode : PageMode) (place : ℕ), machine.Reachable display →
      machine.step display .refresh = some after → display.Rested mode place →
        after.Converged mode place := by
  intro hclaim
  have hreached : machine.Reachable (after opened) :=
    after_reached (by decide +kernel) (Machine.admitted_true opened)
  have hconverged := hclaim (after opened) _ .controls 0 hreached rfl
    (after_rested (by decide +kernel) (by decide +kernel))
  exact absurd hconverged (by decide +kernel)

end Display

end CrowPanel.Ui
