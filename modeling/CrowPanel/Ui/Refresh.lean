import CrowPanel.DataModel.Alarms
import CrowPanel.Ui.Bindings

/-!
# Displaying the model

The pages of the UI with what they display, and the programs by which the UI follows the data model:
`rebuild_interface`, `refresh_timer_callback`, `sample_timer_callback` and the events of the widgets.
Every access to the model is a read of its own, and the programs run in one thread.

A label is what was written to it last.  Texts that are formatted from a tag are kept as the tag.
Nothing here depends on the results of the queue, so the outcome of a write is an argument.  Of a
trend chart only the label is kept.  The status line is left out.
-/

namespace CrowPanel.Ui

open Library DataModel

/-- What the thread of the UI reads: the model and the clock of LVGL. -/
structure World where
  model : DataModel
  tick : ℕ
  deriving DecidableEq

/-- A program of the UI. -/
abbrev Program := Reads World

/-- A lookup that does not depend on values. -/
def onLayout {α : Type} (lookup : Lookup α) : Program α :=
  lookup.through fun world => world.model.layout

def onRecords {α : Type} (lookup : Lookup α) : Program α :=
  lookup.through fun world => world.model.records

/-! ## States -/

/-- `displayed_running` and `displayed_alarm` -/
structure StateReading where
  running : Bool
  alarm : Bool
  deriving DecidableEq

/-- A tag that is valid and true. -/
def isRaised (tag : Option Tag) : Bool :=
  tag.any fun tag => tag.valueValid && tag.value.booleanValue

/-- The flag behind an index of a state binding. -/
def readFlag : Option ℕ → Lookup Bool
  | none => pure false
  | some index => do
      let tag ← readTag (some index)
      pure (isRaised tag)

/-- The state that an update finds for a binding. -/
def readState (binding : StateBinding) : Lookup StateReading := do
  let running ← readFlag binding.statusTagIndex
  let alarm ← readFlag binding.alarmTagIndex
  pure { running := running && binding.entityKind ≠ .passiveEquipment, alarm }

/-- The label of a state, a function of the binding and of what it displays; `none` is the label as
it was created. -/
structure StateWidget where
  binding : StateBinding
  displayed : Option StateReading := none
  deriving DecidableEq

def StateWidget.update (widget : StateWidget) : Program StateWidget := do
  let reading ← onRecords (readState widget.binding)
  pure { widget with displayed := some reading }

/-! ## Values -/

/-- What stands in the label of a value. -/
inductive ValueLabel where
  | noValue
  | switched (value : Bool)
  /-- the text that `ui_theme_format_tag_value` makes of a valid tag -/
  | formatted (tag : Tag)
  deriving DecidableEq

/-- An `equipment_tag_binding_t` with its label and the state of its switch or slider.  The knob of a
slider stands at the value of a tag, or where it was created or moved by hand; `moved` is a ghost: the
knob has been moved since the last update of the binding. -/
structure TagWidget where
  binding : TagBinding
  label : ValueLabel
  checked : Bool := false
  knob : Option Tag := none
  moved : Bool := false
  writePending : Bool := false
  pendingValue : Bool := false
  writeStarted : ℕ := 0
  deriving DecidableEq

/-- The widget as `create_metric` or `create_control` leaves it. -/
def TagBinding.create (binding : TagBinding) : TagWidget where
  binding
  label := if binding.control then .switched false else .noValue

/-- `EQUIPMENT_WRITE_HOLD_MS` -/
abbrev writeHoldMs : ℕ := 2000

/-- `lv_tick_elaps` -/
def elapsedSince (start tick : ℕ) : ℕ :=
  (tick + 2 ^ 32 - start) % 2 ^ 32

/-- The value that a switch shows for a valid tag: a command shows the status of its equipment. -/
def switchValue (tag : Tag) : Lookup Bool :=
  if tag.hasRole "operating_command" then do
    let status ← findTagByRole tag.equipmentIndex "operating_status"
    pure ((status.filter fun status => status.valueValid).elim tag.value.booleanValue
      fun status => status.value.booleanValue)
  else pure tag.value.booleanValue

/-- The tag that keeps the equipment of a command in automatic mode. -/
def readAutomaticMode : Option Tag → Lookup (Option Tag)
  | none => pure none
  | some command =>
      if command.hasRole "operating_command" then
        findTagByRole command.equipmentIndex "automatic_mode"
      else pure none

namespace TagWidget

/-- Whether a switch holds the value that was written last. -/
def holds (widget : TagWidget) (value : Bool) : Program Bool :=
  if widget.writePending ∧ value ≠ widget.pendingValue then do
    let tick ← Reads.read World.tick
    pure (elapsedSince widget.writeStarted tick < writeHoldMs)
  else pure false

/-- `update_tag_binding` -/
def updateTagBinding (widget : TagWidget) (tag : Tag) : Program TagWidget :=
  if tag.valueValid = false then pure { widget with label := .noValue }
  else if widget.binding.type = .booleanSwitch then do
    let value ← onRecords (switchValue tag)
    let held ← widget.holds value
    if held then pure widget
    else pure { widget with writePending := false, checked := value, label := .switched value }
  else
    pure
      { widget with
        label := .formatted tag
        knob := if widget.binding.type = .numericSlider then some tag else widget.knob }

/-- `update_tag_binding`, if `data_model_get_tag` has found the tag. -/
def updateFrom (widget : TagWidget) : Option Tag → Program TagWidget
  | none => pure widget
  | some tag => widget.updateTagBinding tag

/-- One binding in the last loop of `ui_equipment_update`. -/
def update (widget : TagWidget) : Program TagWidget := do
  let tag ← onRecords (readTag widget.binding.tagIndex)
  TagWidget.updateFrom { widget with moved := false } tag

/-- `boolean_switch_event`, with the results of the write that leaves the automatic mode and of the
write itself.  The switch has changed its state before the event. -/
def booleanSwitchEvent (widget : TagWidget) (modeResult result : EspErr) : Program TagWidget := do
  let toggled := { widget with checked := !widget.checked }
  let command ← onRecords (readTag widget.binding.tagIndex)
  let automaticMode ← onRecords (readAutomaticMode command)
  if isRaised automaticMode ∧ modeResult ≠ .ok then toggled.updateFrom command
  else if result ≠ .ok then toggled.updateFrom command
  else do
    let tick ← Reads.read World.tick
    pure
      { toggled with
        writePending := true
        pendingValue := toggled.checked
        writeStarted := tick
        label := .switched toggled.checked }

/-- A slider that is moved and released; `numeric_slider_event` only puts a write into the queue. -/
def numericSliderEvent (widget : TagWidget) : TagWidget :=
  { widget with knob := none, moved := true }

end TagWidget

/-! ## The pages for equipment and controls -/

/-- A `struct ui_equipment_view` with its widgets. -/
structure EquipmentPage where
  tagBindingCapacity : ℕ
  stateBindingCapacity : ℕ
  tags : List TagWidget
  states : List StateWidget
  deriving DecidableEq

/-- The page as its bindings are created. -/
def EquipmentView.create (view : EquipmentView) : EquipmentPage where
  tagBindingCapacity := view.tagBindingCapacity
  stateBindingCapacity := view.stateBindingCapacity
  tags := view.tagBindings.map TagBinding.create
  states := view.stateBindings.map fun binding => { binding }

namespace EquipmentPage

/-- The bindings of the page. -/
def view (page : EquipmentPage) : EquipmentView where
  tagBindingCapacity := page.tagBindingCapacity
  stateBindingCapacity := page.stateBindingCapacity
  tagBindings := page.tags.map TagWidget.binding
  stateBindings := page.states.map StateWidget.binding

/-- `ui_equipment_update` -/
def update (page : EquipmentPage) : Program EquipmentPage := do
  let states ← page.states.mapM' StateWidget.update
  let tags ← page.tags.mapM' TagWidget.update
  pure { page with tags, states }

/-- `ui_equipment_create` -/
def create (mode : PageMode) : Program EquipmentPage := do
  let view ← onLayout (createEquipmentView mode)
  view.create.update

/-- The operation of a switch on the page. -/
def toggle (page : EquipmentPage) (place : ℕ) (modeResult result : EspErr) :
    Option (Program EquipmentPage) :=
  (page.tags[place]?.filter fun widget => widget.binding.type = .booleanSwitch).map fun widget => do
    let widget ← widget.booleanSwitchEvent modeResult result
    pure { page with tags := page.tags.set place widget }

/-- The operation of a slider on the page. -/
def slide (page : EquipmentPage) (place : ℕ) : Option EquipmentPage :=
  (page.tags[place]?.filter fun widget => widget.binding.type = .numericSlider).map fun widget =>
    { page with tags := page.tags.set place widget.numericSliderEvent }

end EquipmentPage

/-! ## The overview -/

/-- The objects, the tags and the alarms. -/
structure Contents where
  records : Records
  alarms : List Alarm

def contents (model : DataModel) : Contents :=
  ⟨model.records, model.alarms⟩

/-- The texts above the overview. -/
structure Summary where
  runningCount : ℕ
  alarmCount : ℕ
  stateText : String
  stateDetail : String
  deriving DecidableEq

/-- One object in the second loop of `ui_overview_update`, which counts running and alarmed objects. -/
def countStates (counts : ℕ × ℕ) (index : ℕ) : Lookup (ℕ × ℕ) := do
  match ← readEquipment (some index) with
  | none => pure counts
  | some equipment =>
      let status ←
        if equipment.entityKind = .activeEquipment then
          findTagByRole (some index) "operating_status"
        else pure none
      let alarm ← findTagByRole (some index) "alarm_status"
      pure (counts.1 + (isRaised status).toNat, counts.2 + (isRaised alarm).toNat)

/-- The part of `ui_overview_update` that counts. -/
def summarize : Reads Contents Summary := do
  let objectCount ← readObjectCount.through Contents.records
  let (runningCount, semanticAlarmCount) ←
    ((List.range objectCount).foldlM countStates (0, 0)).through Contents.records
  let activeAlarmCount ← Reads.read fun contents => contents.alarms.countP Alarm.active
  let alarmCount := max semanticAlarmCount activeAlarmCount
  let state : String → String → Summary := fun stateText stateDetail =>
    { runningCount, alarmCount, stateText, stateDetail }
  if 0 < alarmCount then
    pure (state "Attention required" "An active OPC UA alarm requires operator attention")
  else do
    let objectCount ← readObjectCount.through Contents.records
    if objectCount = 0 then
      pure (state "Discovering equipment" "Waiting for the OPC UA address space")
    else if 0 < runningCount then
      pure (state "System operational" "All monitored equipment is responding normally")
    else do
      let activeCount ← Reads.read fun contents =>
        countEntityKind contents.records.equipment .activeEquipment
      if 0 < activeCount then
        pure (state "System ready" "Equipment is connected and standing by")
      else
        pure (state "System monitored" "Passive equipment and process signals are available")

/-- An `overview_signal_binding_t`; a label that was never written is `none`. -/
structure SignalWidget where
  tagIndex : Option ℕ
  label : Option ValueLabel := none
  deriving DecidableEq

/-- The label that `ui_theme_format_tag_value` gives to a tag. -/
def valueLabel (tag : Tag) : ValueLabel :=
  if tag.valueValid then .formatted tag else .noValue

def SignalWidget.update (widget : SignalWidget) : Program SignalWidget := do
  match ← onRecords (readTag widget.tagIndex) with
  | none => pure widget
  | some tag => pure { widget with label := some (valueLabel tag) }

/-- A `struct ui_overview` with its widgets. -/
structure OverviewPage where
  nodeCapacity : ℕ
  nodes : List StateWidget
  signals : List SignalWidget
  scope : Option Equipment
  summary : Option Summary
  deriving DecidableEq

/-- The page as its bindings are created. -/
def OverviewView.create (view : OverviewView) : OverviewPage where
  nodeCapacity := view.nodeCapacity
  nodes := view.nodes.map fun binding => { binding }
  signals := view.signals.map fun tagIndex => { tagIndex }
  scope := view.scope
  summary := none

namespace OverviewPage

/-- The bindings of the page. -/
def view (page : OverviewPage) : OverviewView where
  nodeCapacity := page.nodeCapacity
  nodes := page.nodes.map StateWidget.binding
  signals := page.signals.map SignalWidget.tagIndex
  scope := page.scope

/-- `ui_overview_update` -/
def update (page : OverviewPage) : Program OverviewPage := do
  let nodes ← page.nodes.mapM' StateWidget.update
  let summary ← summarize.through fun world => contents world.model
  let signals ← page.signals.mapM' SignalWidget.update
  pure { page with nodes, signals, summary := some summary }

/-- `ui_overview_create` -/
def create : Program OverviewPage := do
  let view ← onLayout createOverviewView
  view.create.update

end OverviewPage

/-! ## The trends -/

/-- A `trend_binding_t` with the label of its latest sample; a sample without a value is `none`. -/
structure TrendWidget where
  tagIndex : Option ℕ
  label : Option Tag := none
  deriving DecidableEq

/-- `tag_numeric_value` -/
def hasNumericValue (tag : Tag) : Bool :=
  tag.valueValid && isTrendCandidate tag &&
    (tag.dataType = .integer || tag.value.numericValue.isFinite)

/-- `sample_binding` -/
def TrendWidget.sample (widget : TrendWidget) : Program TrendWidget := do
  match ← onRecords (readTag widget.tagIndex) with
  | none => pure widget
  | some tag => pure { widget with label := if hasNumericValue tag then some tag else none }

/-- `trends_create` -/
def trendsCreate : Program (List TrendWidget) := do
  let charts ← onLayout createTrends
  (charts.map fun tagIndex => ({ tagIndex } : TrendWidget)).mapM' TrendWidget.sample

/-! ## The alarms -/

/-- What `rebuild_alarm_list` looks at. -/
structure AlarmCenter where
  objectCount : ℕ
  alarms : List Alarm

def alarmCenter (model : DataModel) : AlarmCenter :=
  ⟨model.objectCount, model.alarms⟩

/-- The page for alarms. -/
inductive AlarmPage where
  /-- "Waiting for equipment" -/
  | waiting
  /-- "All equipment is normal" -/
  | clear
  | listed (activeCount : ℕ) (alarms : List Alarm)
  deriving DecidableEq

/-- The alarms that have a card on the page. -/
def AlarmPage.alarms : AlarmPage → List Alarm
  | .waiting | .clear => []
  | .listed _ alarms => alarms

/-- `rebuild_alarm_list` -/
def rebuildAlarmList : Reads AlarmCenter AlarmPage := do
  let objectCount ← Reads.read AlarmCenter.objectCount
  if objectCount = 0 then pure .waiting
  else do
    let activeCount ← Reads.read fun center => center.alarms.countP Alarm.active
    if activeCount = 0 then pure .clear
    else do
      let found ← (List.range activeCount).mapM' fun activeIndex =>
        Reads.read fun center => activeAlarmFrom 0 activeIndex center.alarms
      pure (.listed activeCount found.reduceOption)

/-- Undisturbed, the page shows the active alarms in the order of their slots, once there are objects. -/
theorem run_rebuildAlarmList (center : AlarmCenter) :
    rebuildAlarmList.run center =
      if center.objectCount = 0 then .waiting
      else if center.alarms.filter Alarm.active = [] then .clear
      else .listed (center.alarms.filter Alarm.active).length
        (center.alarms.filter Alarm.active) := by
  have hslot : ∀ activeIndex, activeAlarmFrom 0 activeIndex center.alarms =
      (center.alarms.filter Alarm.active)[activeIndex]? := fun activeIndex => by
    simpa using activeAlarmFrom_eq center.alarms 0 activeIndex
  rw [rebuildAlarmList, Reads.run_read_bind]
  split
  · rfl
  · rw [Reads.run_read_bind, List.countP_eq_length_filter]
    by_cases hquiet : center.alarms.filter Alarm.active = []
    · rw [if_pos hquiet, hquiet]
      rfl
    · have hsome : (center.alarms.filter Alarm.active).length ≠ 0 := by
        rwa [ne_eq, List.length_eq_zero_iff]
      rw [if_neg hquiet, if_neg hsome]
      simp only [Reads.run_bind, Reads.run_mapM', Reads.run_read, Reads.run_pure, hslot,
        Reads.reduceOption_map_range_getElem?]

/-! ## The generator -/

/-- A `struct ui_generator`, as far as it follows the model. -/
structure Generator where
  observedStructureGeneration : ℕ
  observedValueGeneration : ℕ
  observedAlarmGeneration : ℕ
  overview : OverviewPage
  equipment : EquipmentPage
  controls : EquipmentPage
  trends : List TrendWidget
  alarms : AlarmPage
  deriving DecidableEq

/-- `rebuild_interface`.  Nothing of the former interface is used. -/
def rebuildInterface : Program Generator := do
  let structureGeneration ← Reads.read fun world => world.model.structureGeneration
  let overview ← OverviewPage.create
  let equipment ← EquipmentPage.create .details
  let controls ← EquipmentPage.create .controls
  let trends ← trendsCreate
  let alarms ← rebuildAlarmList.through fun world => alarmCenter world.model
  pure
    { observedStructureGeneration := structureGeneration
      observedValueGeneration := counterMax
      observedAlarmGeneration := counterMax
      overview
      equipment
      controls
      trends
      alarms }

namespace Generator

/-- The bindings of the whole interface. -/
def bindings (ui : Generator) : Bindings where
  overview := ui.overview.view
  equipment := ui.equipment.view
  controls := ui.controls.view
  trends := ui.trends.map TrendWidget.tagIndex

/-- The first part of `refresh_timer_callback`. -/
def refreshStructure (ui : Generator) : Program Generator := do
  let structureGeneration ← Reads.read fun world => world.model.structureGeneration
  if structureGeneration = ui.observedStructureGeneration then pure ui
  else rebuildInterface

/-- The part of `refresh_timer_callback` for the alarms. -/
def refreshAlarms (ui : Generator) : Program Generator := do
  let alarmGeneration ← Reads.read fun world => world.model.alarmGeneration
  if alarmGeneration = ui.observedAlarmGeneration then pure ui
  else do
    let alarms ← rebuildAlarmList.through fun world => alarmCenter world.model
    let overview ← ui.overview.update
    pure { ui with observedAlarmGeneration := alarmGeneration, alarms, overview }

/-- The part of `refresh_timer_callback` for the values. -/
def refreshValues (ui : Generator) : Program Generator := do
  let valueGeneration ← Reads.read fun world => world.model.valueGeneration
  if valueGeneration = ui.observedValueGeneration then pure ui
  else do
    let overview ← ui.overview.update
    let equipment ← ui.equipment.update
    let controls ← ui.controls.update
    pure { ui with observedValueGeneration := valueGeneration, overview, equipment, controls }

/-- `refresh_timer_callback` -/
def refreshTimerCallback (ui : Generator) : Program Generator := do
  let ui ← ui.refreshStructure
  let ui ← ui.refreshAlarms
  ui.refreshValues

/-- `sample_timer_callback` -/
def sampleTimerCallback (ui : Generator) : Program Generator := do
  let trends ← ui.trends.mapM' TrendWidget.sample
  pure { ui with trends }

/-- The operation of a switch on one of the two pages. -/
def toggle (ui : Generator) (mode : PageMode) (place : ℕ) (modeResult result : EspErr) :
    Option (Program Generator) :=
  match mode with
  | .details => (ui.equipment.toggle place modeResult result).map fun program => do
      let equipment ← program
      pure { ui with equipment }
  | .controls => (ui.controls.toggle place modeResult result).map fun program => do
      let controls ← program
      pure { ui with controls }

/-- The operation of a slider on one of the two pages. -/
def slide (ui : Generator) (mode : PageMode) (place : ℕ) : Option Generator :=
  match mode with
  | .details => (ui.equipment.slide place).map fun equipment => { ui with equipment }
  | .controls => (ui.controls.slide place).map fun controls => { ui with controls }

end Generator

end CrowPanel.Ui
