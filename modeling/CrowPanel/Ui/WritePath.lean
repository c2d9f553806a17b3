import CrowPanel.Library.Machine
import CrowPanel.OpcUa.WriteQueue

/-!
# From a widget to a write

The way of an operator's write through the panel, as a machine: the event handlers of the UI put
requests into the queue, the client task takes them out.  The two threads share the data model and
the queue.  Each access to either is a step of its own, so the discovery, which
`OpcUa.discoverAddressSpace` runs as a whole, is taken apart here, and so are the handlers and the
rebuild of the widgets.

An address space is free to hold anything: which objects and tags a discovery adds, and in which
order, is part of the events.  So is the order in which a rebuild creates its controls.  The handlers
of a widget and the rebuild run in one thread, and no handler runs while its binding is updated.
-/

namespace CrowPanel.Ui

open Library DataModel OpcUa

/-- `equipment_binding_type_t` -/
inductive BindingType where
  | value
  | booleanSwitch
  | numericSlider
  deriving DecidableEq

/-- The type that `create_control` gives to the binding of a tag. -/
def controlType : DataType → BindingType
  | .boolean => .booleanSwitch
  | .integer | .float | .double => .numericSlider
  | .unknown | .string => .value

/-- An equipment, for the ghosts: its index, and the discovery in which the index is its own. -/
structure Owner where
  discovery : ℕ
  equipmentIndex : Option ℕ
  deriving DecidableEq

/-- The binding of a widget made by `create_control`.  `builtFor` and `owner` are ghosts: the node of
the tag it was created for, and the equipment of that tag. -/
structure Control where
  tagIndex : Option ℕ
  type : BindingType
  builtFor : NodeId
  owner : Owner
  deriving DecidableEq

/-- The ghosts of the discoveries: the nodes for which the tags of the model were added, how often the
model has been cleared, and the node of every automatic mode that was ever added. -/
structure Known where
  tagNodes : List NodeId := []
  discovery : ℕ := 0
  modes : List (Owner × NodeId) := []
  deriving DecidableEq

namespace Known

/-- The model is cleared. -/
def forgotten (known : Known) : Known :=
  { known with tagNodes := [], discovery := known.discovery + 1 }

def withTag (known : Known) (tag : Tag) (nodeId : NodeId) : Known :=
  { known with
    tagNodes := known.tagNodes ++ [nodeId]
    modes :=
      if tag.hasRole "automatic_mode" then
        known.modes ++ [(⟨known.discovery, tag.equipmentIndex⟩, nodeId)]
      else known.modes }

/-- The node of the automatic mode of an equipment, the first one if there are several; the null node,
which is never mapped, if there is none. -/
def modeNode (known : Known) (owner : Owner) : NodeId :=
  (known.modes.lookup owner).getD .null

end Known

/-- The points of the client task, as far as they touch the model, the maps or the queue. -/
inductive TaskPlace where
  | disconnected
  | connected
  /-- in `discover_address_space`, before `data_model_clear` -/
  | begun
  /-- before `clear_tag_node_ids` -/
  | modelCleared
  /-- in `browse_children` -/
  | browsing
  /-- after `data_model_add_equipment`, with what it handed back -/
  | objectAdded (code : EspErr) (equipmentIndex : Option ℕ) (nodeId : NodeId)
  /-- after `data_model_add_tag` -/
  | tagAdded (code : EspErr) (tagIndex : Option ℕ) (nodeId : NodeId) (type : Option BuiltinType)
  /-- after a browse that failed, before `data_model_clear` -/
  | failed
  /-- before the second `clear_tag_node_ids` -/
  | abandoned
  /-- before `data_model_end_structure_update` -/
  | ending (good : Bool)
  /-- in the session loop -/
  | session
  deriving DecidableEq

/-- What the thread of the UI is doing.  A handler that may leave an automatic mode remembers the
`owner` of its widget, for the ghosts. -/
inductive Activity where
  | idle
  /-- before `rebuild_interface` records the structure generation -/
  | rebuild
  /-- in `rebuild_interface`, creating controls -/
  | building
  /-- in `boolean_switch_event`, before `data_model_get_tag` -/
  | toggled (owner : Owner) (request : WriteRequest)
  /-- in `ui_theme_find_tag_by_role`, before `data_model_tag_count` -/
  | countTags (owner : Owner) (request : WriteRequest) (equipmentIndex : Option ℕ)
  /-- in the loop of `ui_theme_find_tag_by_role` -/
  | findMode (owner : Owner) (request : WriteRequest) (equipmentIndex : Option ℕ)
      (tagCount index : ℕ)
  /-- before the write that switches the equipment to manual mode -/
  | leaveMode (mode request : WriteRequest)
  /-- before the write of the widget itself -/
  | send (request : WriteRequest)
  deriving DecidableEq

/-- The client and the UI.  `known` and `written` are ghosts: what the discoveries have added, and the
writes made so far, latest first. -/
structure Panel where
  context : Context
  known : Known := {}
  place : TaskPlace := .disconnected
  queue : List WriteRequest := []
  observedGeneration : ℕ
  controls : List Control := []
  activity : Activity := .rebuild
  written : List WriteCall := []
  deriving DecidableEq

/-- The steps of the client task and those of the UI. -/
inductive Event where
  | connect
  | disconnect
  /-- the end of the task -/
  | finish
  /-- the next step of the task, where there is no choice -/
  | proceed
  /-- requests to the server during a discovery -/
  | request (calls : List Call)
  | addObject (equipment : Equipment) (nodeId : NodeId)
  | addTag (tag : Tag) (nodeId : NodeId) (type : Option BuiltinType)
  /-- `browse_children` returns -/
  | browsed (good : Bool)
  /-- one request in the loop of `process_write_requests` -/
  | drain
  | updateValue (tagIndex : ℕ) (value : Value) (valueValid : Bool)
  | updateAlarm (alarm : Alarm)
  /-- the comparison of the generations in `refresh_timer_callback` -/
  | refresh
  | build (tagIndex : ℕ)
  | built
  | toggle (place : ℕ) (value : Bool)
  | release (place : ℕ) (value : Double)
  /-- the next step of the UI, where there is no choice -/
  | handle
  deriving DecidableEq

namespace Panel

def withModel (panel : Panel) (dataModel : DataModel) : Panel :=
  { panel with context := { panel.context with dataModel } }

/-! ## The client task -/

/-- The steps of `discover_address_space` around `browse_children`, and the check and the store after
an addition. -/
def proceed (panel : Panel) : Option Panel :=
  let model := panel.context.dataModel
  match panel.place with
  | .connected => some { panel.withModel model.beginStructureUpdate with place := .begun }
  | .begun =>
      some { panel.withModel model.clear with
        known := panel.known.forgotten
        place := .modelCleared }
  | .modelCleared =>
      some { panel with context := panel.context.clearTagNodeIds, place := .browsing }
  | .objectAdded _ none _ => some { panel with place := .failed }
  | .objectAdded code (some equipmentIndex) nodeId =>
      if code ≠ .ok ∨ panel.context.configuration.maximumEquipmentObjects ≤ equipmentIndex then
        some { panel with place := .failed }
      else
        let equipmentNodeIds :=
          storeLast panel.context.equipmentNodeIds equipmentIndex .null nodeId
        some { panel with context := { panel.context with equipmentNodeIds }, place := .browsing }
  | .tagAdded _ none _ _ => some { panel with place := .failed }
  | .tagAdded code (some tagIndex) nodeId type =>
      if code ≠ .ok ∨ panel.context.configuration.maximumTags ≤ tagIndex then
        some { panel with place := .failed }
      else
        let tagNodeIds := storeLast panel.context.tagNodeIds tagIndex .null nodeId
        let tagBuiltinTypeIndices :=
          storeLast panel.context.tagBuiltinTypeIndices tagIndex none type
        some
          { panel with
            context := { panel.context with tagNodeIds, tagBuiltinTypeIndices }
            place := .browsing }
  | .failed =>
      some { panel.withModel model.clear with
        known := panel.known.forgotten
        place := .abandoned }
  | .abandoned =>
      some { panel with context := panel.context.clearTagNodeIds, place := .ending false }
  | .ending good =>
      some
        { panel.withModel model.endStructureUpdate with
          place := if good then .session else .disconnected }
  | _ => none

/-- The call of `data_model_add_equipment` for a node that is not mapped yet. -/
def addObject (panel : Panel) (equipment : Equipment) (nodeId : NodeId) : Option Panel :=
  if panel.place = .browsing ∧ nodeId.namespaceIndex ≠ 0 ∧
      nodeId ∉ panel.context.equipmentNodeIds ∧ equipment.nodeId = nodeId.text then
    let added := panel.context.dataModel.addEquipment (some equipment)
    some { panel.withModel added.model with place := .objectAdded added.code added.index nodeId }
  else none

/-- The call of `data_model_add_tag` for a node that is not mapped yet. -/
def addTag (panel : Panel) (tag : Tag) (nodeId : NodeId) (type : Option BuiltinType) :
    Option Panel :=
  if panel.place = .browsing ∧ nodeId.namespaceIndex ≠ 0 ∧ nodeId ∉ panel.context.tagNodeIds ∧
      tag.nodeId = nodeId.text then
    let added := panel.context.dataModel.addTag (some tag)
    some
      { panel.withModel added.model with
        known := if added.index.isSome then panel.known.withTag tag nodeId else panel.known
        place := .tagAdded added.code added.index nodeId type }
  else none

/-- The loop of `process_write_requests` takes the next request. -/
def drain (panel : Panel) : Option Panel :=
  if panel.place = .session then
    match panel.queue with
    | [] => none
    | request :: queue =>
        some
          { panel with
            queue
            written := (processWriteRequest panel.context request).toList ++ panel.written }
  else none

/-! ## The UI -/

/-- One tag in the loops of a rebuild: a control for a writable tag. -/
def build (panel : Panel) (tagIndex : ℕ) : Option Panel :=
  if panel.activity = .building then
    match panel.context.dataModel.getTag tagIndex with
    | none => some panel
    | some tag =>
        if tag.writable = false then some panel
        else
          let control : Control :=
            { tagIndex := tag.index
              type := controlType tag.dataType
              builtFor := panel.known.tagNodes.getD tagIndex .null
              owner := ⟨panel.known.discovery, tag.equipmentIndex⟩ }
          some { panel with controls := panel.controls ++ [control] }
  else none

/-- An operated widget of the type, when the UI is idle. -/
def operated (panel : Panel) (place : ℕ) (type : BindingType) : Option Control :=
  if panel.activity = .idle then panel.controls[place]?.filter fun control => control.type = type
  else none

/-- The next step of `boolean_switch_event`, of `numeric_slider_event` or of a rebuild. -/
def handle (panel : Panel) : Option Panel :=
  let model := panel.context.dataModel
  match panel.activity with
  | .rebuild =>
      some
        { panel with
          observedGeneration := model.structureGeneration
          controls := []
          activity := .building }
  | .toggled owner request =>
      match request.tagIndex.bind model.getTag with
      | none => some { panel with activity := .send request }
      | some command =>
          if command.hasRole "operating_command" then
            some { panel with activity := .countTags owner request command.equipmentIndex }
          else some { panel with activity := .send request }
  | .countTags owner request equipmentIndex =>
      some { panel with activity := .findMode owner request equipmentIndex model.tagCount 0 }
  | .findMode owner request equipmentIndex tagCount index =>
      if tagCount ≤ index then some { panel with activity := .send request }
      else
        match model.getTag index with
        | none =>
            some
              { panel with activity := .findMode owner request equipmentIndex tagCount (index + 1) }
        | some mode =>
            if mode.equipmentIndex = equipmentIndex ∧ mode.hasRole "automatic_mode" then
              if mode.valueValid ∧ mode.value.booleanValue then
                let leave := booleanRequest mode.index false (panel.known.modeNode owner)
                some { panel with activity := .leaveMode leave request }
              else some { panel with activity := .send request }
            else
              some
                { panel with activity := .findMode owner request equipmentIndex tagCount (index + 1) }
  | .leaveMode mode request =>
      let (code, queue) := sendRequest panel.queue mode
      some { panel with queue, activity := if code = .ok then .send request else .idle }
  | .send request =>
      some { panel with queue := (sendRequest panel.queue request).2, activity := .idle }
  | _ => none

/-! ## The machine -/

def step (panel : Panel) : Event → Option Panel
  | .connect =>
      if panel.place = .disconnected then some { panel with place := .connected } else none
  | .disconnect =>
      if panel.place = .session then some { panel with place := .disconnected } else none
  | .finish =>
      if panel.place = .disconnected then
        some { panel with context := panel.context.clearTagNodeIds }
      else none
  | .proceed => panel.proceed
  | .request calls =>
      if panel.place = .browsing then
        some { panel with context := { panel.context with calls } }
      else none
  | .addObject equipment nodeId => panel.addObject equipment nodeId
  | .addTag tag nodeId type => panel.addTag tag nodeId type
  | .browsed good =>
      if panel.place = .browsing then
        some { panel with place := if good then .ending true else .failed }
      else none
  | .drain => panel.drain
  | .updateValue tagIndex value valueValid =>
      if panel.place = .session then
        some (panel.withModel
          (panel.context.dataModel.updateValue tagIndex (some value) valueValid).2)
      else none
  | .updateAlarm alarm =>
      if panel.place = .session then
        some (panel.withModel (panel.context.dataModel.updateAlarm (some alarm)).2)
      else none
  | .refresh =>
      if panel.activity = .idle then
        if panel.context.dataModel.structureGeneration = panel.observedGeneration then some panel
        else some { panel with activity := .rebuild }
      else none
  | .build tagIndex => panel.build tagIndex
  | .built => if panel.activity = .building then some { panel with activity := .idle } else none
  | .toggle place value =>
      (panel.operated place .booleanSwitch).map fun control =>
        { panel with
          activity :=
            .toggled control.owner (booleanRequest control.tagIndex value control.builtFor) }
  | .release place value =>
      (panel.operated place .numericSlider).map fun control =>
        { panel with activity := .send (numberRequest control.tagIndex value control.builtFor) }
  | .handle => panel.handle

/-- The runs of a panel that has just been created. -/
def machine : Machine Panel Event where
  start panel :=
    panel.context.dataModel.tags = [] ∧ panel.context.tagNodeIds = [] ∧ panel.known = {} ∧
      panel.place = .disconnected ∧ panel.queue = [] ∧ panel.controls = [] ∧
      panel.activity = .rebuild ∧ panel.written = []
  step := step

/-! ## What a step does -/

/-- The steps of `proceed`, each with the place of the task before it. -/
inductive Proceeds (panel : Panel) : Panel → Prop
  | began (hplace : panel.place = .connected) :
      Proceeds panel
        { panel.withModel panel.context.dataModel.beginStructureUpdate with place := .begun }
  | clearedModel (hplace : panel.place = .begun) :
      Proceeds panel
        { panel.withModel panel.context.dataModel.clear with
          known := panel.known.forgotten
          place := .modelCleared }
  | clearedMap (hplace : panel.place = .modelCleared) :
      Proceeds panel { panel with context := panel.context.clearTagNodeIds, place := .browsing }
  | objectLost {code : EspErr} {equipmentIndex : Option ℕ} {nodeId : NodeId}
      (hplace : panel.place = .objectAdded code equipmentIndex nodeId) :
      Proceeds panel { panel with place := .failed }
  | objectStored {code : EspErr} {equipmentIndex : ℕ} {nodeId : NodeId}
      (hplace : panel.place = .objectAdded code (some equipmentIndex) nodeId)
      (hfits : ¬ (code ≠ .ok ∨
        panel.context.configuration.maximumEquipmentObjects ≤ equipmentIndex)) :
      Proceeds panel
        { panel with
          context := { panel.context with
            equipmentNodeIds :=
              storeLast panel.context.equipmentNodeIds equipmentIndex .null nodeId }
          place := .browsing }
  | tagLost {code : EspErr} {tagIndex : Option ℕ} {nodeId : NodeId} {type : Option BuiltinType}
      (hplace : panel.place = .tagAdded code tagIndex nodeId type) :
      Proceeds panel { panel with place := .failed }
  | tagStored {code : EspErr} {tagIndex : ℕ} {nodeId : NodeId} {type : Option BuiltinType}
      (hplace : panel.place = .tagAdded code (some tagIndex) nodeId type)
      (hfits : ¬ (code ≠ .ok ∨ panel.context.configuration.maximumTags ≤ tagIndex)) :
      Proceeds panel
        { panel with
          context := { panel.context with
            tagNodeIds := storeLast panel.context.tagNodeIds tagIndex .null nodeId
            tagBuiltinTypeIndices :=
              storeLast panel.context.tagBuiltinTypeIndices tagIndex none type }
          place := .browsing }
  | failed (hplace : panel.place = .failed) :
      Proceeds panel
        { panel.withModel panel.context.dataModel.clear with
          known := panel.known.forgotten
          place := .abandoned }
  | abandoned (hplace : panel.place = .abandoned) :
      Proceeds panel
        { panel with context := panel.context.clearTagNodeIds, place := .ending false }
  | ended (good : Bool) (hplace : panel.place = .ending good) :
      Proceeds panel
        { panel.withModel panel.context.dataModel.endStructureUpdate with
          place := if good then .session else .disconnected }

theorem proceed_proceeds {panel next : Panel} (hproceed : panel.proceed = some next) :
    Proceeds panel next := by
  cases hplace : panel.place with
  | disconnected | browsing | session => simp [proceed, hplace] at hproceed
  | connected =>
      simp only [proceed, hplace] at hproceed
      exact Option.some.inj hproceed ▸ .began hplace
  | begun =>
      simp only [proceed, hplace] at hproceed
      exact Option.some.inj hproceed ▸ .clearedModel hplace
  | modelCleared =>
      simp only [proceed, hplace] at hproceed
      exact Option.some.inj hproceed ▸ .clearedMap hplace
  | objectAdded code index nodeId =>
      cases index <;> simp only [proceed, hplace] at hproceed
      · exact Option.some.inj hproceed ▸ .objectLost hplace
      · split at hproceed
        · exact Option.some.inj hproceed ▸ .objectLost hplace
        · next hfits => exact Option.some.inj hproceed ▸ .objectStored hplace hfits
  | tagAdded code index nodeId type =>
      cases index <;> simp only [proceed, hplace] at hproceed
      · exact Option.some.inj hproceed ▸ .tagLost hplace
      · split at hproceed
        · exact Option.some.inj hproceed ▸ .tagLost hplace
        · next hfits => exact Option.some.inj hproceed ▸ .tagStored hplace hfits
  | failed =>
      simp only [proceed, hplace] at hproceed
      exact Option.some.inj hproceed ▸ .failed hplace
  | abandoned =>
      simp only [proceed, hplace] at hproceed
      exact Option.some.inj hproceed ▸ .abandoned hplace
  | ending good =>
      simp only [proceed, hplace] at hproceed
      exact Option.some.inj hproceed ▸ .ended good hplace

/-! ## What the UI does -/

section

variable {panel next : Panel} {event : Event}

/-- The request that the next step of the UI puts into the queue. -/
def sending (panel : Panel) : Option WriteRequest :=
  match panel.activity with
  | .leaveMode mode _ => some mode
  | .send request => some request
  | _ => none

/-- Sending either finds the queue full or appends to it. -/
theorem sendRequest_cases (queue : List WriteRequest) (request : WriteRequest) :
    sendRequest queue request = (.timeout, queue) ∨
      queue.length < writeQueueLength ∧ sendRequest queue request = (.ok, queue ++ [request]) := by
  unfold sendRequest
  split
  · next hroom => exact .inr ⟨hroom, rfl⟩
  · exact .inl rfl

/-- The steps of `handle`, each with the activity before it. -/
inductive Handles (panel : Panel) : Panel → Prop
  | rebuilt (hactivity : panel.activity = .rebuild) :
      Handles panel
        { panel with
          observedGeneration := panel.context.dataModel.structureGeneration
          controls := []
          activity := .building }
  | plain {owner : Owner} {request : WriteRequest}
      (hactivity : panel.activity = .toggled owner request) :
      Handles panel { panel with activity := .send request }
  | command {owner : Owner} {request : WriteRequest} {command : Tag}
      (hactivity : panel.activity = .toggled owner request)
      (htag : request.tagIndex.bind panel.context.dataModel.getTag = some command)
      (hrole : command.hasRole "operating_command" = true) :
      Handles panel { panel with activity := .countTags owner request command.equipmentIndex }
  | counted {owner : Owner} {request : WriteRequest} {equipmentIndex : Option ℕ}
      (hactivity : panel.activity = .countTags owner request equipmentIndex) :
      Handles panel
        { panel with
          activity := .findMode owner request equipmentIndex panel.context.dataModel.tagCount 0 }
  | searched {owner : Owner} {request : WriteRequest} {equipmentIndex : Option ℕ}
      {tagCount index : ℕ}
      (hactivity : panel.activity = .findMode owner request equipmentIndex tagCount index)
      (hdone : tagCount ≤ index ∨ ∃ mode, panel.context.dataModel.getTag index = some mode ∧
        ¬ (mode.valueValid ∧ mode.value.booleanValue)) :
      Handles panel { panel with activity := .send request }
  | searching {owner : Owner} {request : WriteRequest} {equipmentIndex : Option ℕ}
      {tagCount index : ℕ}
      (hactivity : panel.activity = .findMode owner request equipmentIndex tagCount index)
      (hother : ∀ mode, panel.context.dataModel.getTag index = some mode →
        ¬ (mode.equipmentIndex = equipmentIndex ∧ mode.hasRole "automatic_mode")) :
      Handles panel
        { panel with activity := .findMode owner request equipmentIndex tagCount (index + 1) }
  | found {owner : Owner} {request : WriteRequest} {equipmentIndex : Option ℕ}
      {tagCount index : ℕ} {mode : Tag}
      (hactivity : panel.activity = .findMode owner request equipmentIndex tagCount index)
      (hmore : ¬ tagCount ≤ index) (htag : panel.context.dataModel.getTag index = some mode)
      (hrole : mode.equipmentIndex = equipmentIndex ∧ mode.hasRole "automatic_mode")
      (hforces : mode.valueValid ∧ mode.value.booleanValue) :
      Handles panel
        { panel with
          activity := .leaveMode
            (booleanRequest mode.index false (panel.known.modeNode owner)) request }
  | kept {leave request : WriteRequest} (hactivity : panel.activity = .leaveMode leave request)
      (hfull : ¬ panel.queue.length < writeQueueLength) :
      Handles panel { panel with activity := .idle }
  | left {leave request : WriteRequest} (hactivity : panel.activity = .leaveMode leave request)
      (hroom : panel.queue.length < writeQueueLength) :
      Handles panel
        { panel with queue := panel.queue ++ [leave], activity := .send request }
  | sent {request : WriteRequest} (hactivity : panel.activity = .send request) :
      Handles panel
        { panel with queue := (sendRequest panel.queue request).2, activity := .idle }

theorem handle_handles (hhandle : panel.handle = some next) : Handles panel next := by
  cases hactivity : panel.activity with
  | idle | building => simp [handle, hactivity] at hhandle
  | rebuild =>
      simp only [handle, hactivity] at hhandle
      exact Option.some.inj hhandle ▸ .rebuilt hactivity
  | toggled owner request =>
      simp only [handle, hactivity] at hhandle
      split at hhandle
      · exact Option.some.inj hhandle ▸ .plain hactivity
      · next htag =>
          split at hhandle
          · next hrole => exact Option.some.inj hhandle ▸ .command hactivity htag hrole
          · exact Option.some.inj hhandle ▸ .plain hactivity
  | countTags owner request equipmentIndex =>
      simp only [handle, hactivity] at hhandle
      exact Option.some.inj hhandle ▸ .counted hactivity
  | findMode owner request equipmentIndex tagCount index =>
      simp only [handle, hactivity] at hhandle
      split at hhandle
      · next hend => exact Option.some.inj hhandle ▸ .searched hactivity (.inl hend)
      · next hmore =>
          split at hhandle
          · next hnone =>
              refine Option.some.inj hhandle ▸ .searching hactivity fun mode hmode => ?_
              cases hnone.symm.trans hmode
          · next mode htag =>
              split at hhandle
              · next hrole =>
                  split at hhandle
                  · next hforces =>
                      exact Option.some.inj hhandle ▸ .found hactivity hmore htag hrole hforces
                  · next hfree =>
                      exact Option.some.inj hhandle ▸
                        .searched hactivity (.inr ⟨mode, htag, hfree⟩)
              · next hrole =>
                  refine Option.some.inj hhandle ▸ .searching hactivity fun other hother => ?_
                  exact Option.some.inj (htag.symm.trans hother) ▸ hrole
  | leaveMode leave request =>
      simp only [handle, hactivity, sendRequest] at hhandle
      split at hhandle
      · next hroom => exact Option.some.inj hhandle ▸ .left hactivity hroom
      · next hfull => exact Option.some.inj hhandle ▸ .kept hactivity hfull
  | send request =>
      simp only [handle, hactivity] at hhandle
      exact Option.some.inj hhandle ▸ .sent hactivity

/-- A step of a handler or of a rebuild touches the side of the UI only, but for a request that it
sends. -/
theorem handle_cases (hhandle : panel.handle = some next) :
    ∃ queue observedGeneration controls activity,
      next = { panel with queue, observedGeneration, controls, activity } ∧
        (queue = panel.queue ∨ ∃ request, panel.sending = some request ∧
          panel.queue.length < writeQueueLength ∧ queue = panel.queue ++ [request]) := by
  cases handle_handles hhandle with
  | rebuilt | plain | command | counted | searched | searching | found | kept =>
      exact ⟨_, _, _, _, rfl, .inl rfl⟩
  | @left leave request hactivity hroom =>
      exact ⟨_, _, _, _, rfl, .inr ⟨leave, by simp [sending, hactivity], hroom, rfl⟩⟩
  | @sent request hactivity =>
      rcases sendRequest_cases panel.queue request with hfull | ⟨hroom, hsent⟩
      · exact ⟨_, _, _, _, rfl, .inl (by rw [hfull])⟩
      · exact ⟨_, _, _, _, rfl, .inr ⟨request, by simp [sending, hactivity], hroom, by rw [hsent]⟩⟩

/-- The steps of the UI that concern its widgets only. -/
def OfWidgets : Event → Prop
  | .refresh | .build _ | .built | .toggle _ _ | .release _ _ => True
  | _ => False

theorem widgets_frame (hevent : OfWidgets event) (hstep : machine.step panel event = some next) :
    ∃ controls activity, next = { panel with controls, activity } := by
  cases event with
  | refresh =>
      simp only [machine, step] at hstep
      split_ifs at hstep <;> obtain rfl := Option.some.inj hstep <;> exact ⟨_, _, rfl⟩
  | build tagIndex =>
      simp only [machine, step, build] at hstep
      split at hstep
      · split at hstep
        · obtain rfl := Option.some.inj hstep
          exact ⟨_, _, rfl⟩
        · split at hstep <;> obtain rfl := Option.some.inj hstep <;> exact ⟨_, _, rfl⟩
      · cases hstep
  | built =>
      simp only [machine, step] at hstep
      split at hstep
      · obtain rfl := Option.some.inj hstep
        exact ⟨_, _, rfl⟩
      · cases hstep
  | toggle | release =>
      obtain ⟨control, _, rfl⟩ := Option.map_eq_some_iff.mp hstep
      exact ⟨_, _, rfl⟩
  | _ => exact hevent.elim

end

end Panel

end CrowPanel.Ui
