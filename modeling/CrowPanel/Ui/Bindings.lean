import CrowPanel.DataModel.Generations
import CrowPanel.Library.AtomicReads
import CrowPanel.Ui.WritePath

/-!
# The bindings of the UI

What `ui_overview_create`, `ui_equipment_create` and `trends_create` bind to the data model.  Each is
a program that reads the number of objects or tags, one object, or one tag at a time.  Between two
reads the client task may change the model, so a loop keeps the bound it has read, and an entry can
be gone when its turn comes.

The programs read `Records`.  None of them looks at a value, so the UI runs them on the layout of the
model; the updates that follow in the source are in `CrowPanel.Ui.Refresh`.  Headings, sizes and texts
of the pages are left out.
-/

namespace CrowPanel.Ui

open Library DataModel

/-- A program that looks at objects and tags. -/
abbrev Lookup := Reads Records

/-- `data_model_tag_count` -/
def readTagCount : Lookup ℕ :=
  Reads.read fun records => records.tags.length

/-- `data_model_object_count` -/
def readObjectCount : Lookup ℕ :=
  Reads.read fun records => records.equipment.length

/-- `data_model_asset_count` -/
def readAssetCount : Lookup ℕ :=
  Reads.read fun records => assetCount records.equipment

/-- `data_model_get_tag`; the invalid index is beyond every count. -/
def readTag (index : Option ℕ) : Lookup (Option Tag) :=
  Reads.read fun records => index.bind fun place => records.tags[place]?

/-- `data_model_get_equipment` -/
def readEquipment (index : Option ℕ) : Lookup (Option Equipment) :=
  Reads.read fun records => index.bind fun place => records.equipment[place]?

/-- `ui_theme_find_tag_by_role` -/
def findTagByRole (equipmentIndex : Option ℕ) (role : String) : Lookup (Option Tag) := do
  let tagCount ← readTagCount
  (List.range tagCount).findSomeM? fun index => do
    let tag ← readTag (some index)
    pure (tag.filter fun tag => tag.equipmentIndex = equipmentIndex && tag.hasRole role)

/-- A loop that counts tags. -/
def countTags (tagCount : ℕ) (counted : Tag → Bool) : Lookup ℕ :=
  (List.range tagCount).foldlM (fun count index => do
    let tag ← readTag (some index)
    pure (if tag.any counted then count + 1 else count)) 0

/-- Undisturbed, the search finds the first tag of the object with the role. -/
theorem run_findTagByRole (equipmentIndex : Option ℕ) (role : String) (records : Records) :
    (findTagByRole equipmentIndex role).run records =
      records.tags.find? fun tag => tag.equipmentIndex = equipmentIndex && tag.hasRole role := by
  have hloop := Reads.findSome?_range_getElem? records.tags <|
    Option.guard fun tag => tag.equipmentIndex = equipmentIndex && tag.hasRole role
  simp only [Option.bind_guard, List.findSome?_guard] at hloop
  simpa only [findTagByRole, readTagCount, readTag, Reads.run_bind, Reads.run_read,
    Reads.run_findSomeM?, Reads.run_pure, Option.bind_some] using hloop

/-! ## The pages for equipment and controls -/

/-- `ui_equipment_page_mode_t` -/
inductive PageMode where
  | details
  | controls
  deriving DecidableEq

/-- What is fixed in an `equipment_tag_binding_t`, with the function that made it: `create_control` or
`create_metric`. -/
structure TagBinding where
  tagIndex : Option ℕ
  type : BindingType
  control : Bool
  deriving DecidableEq

/-- What is fixed in an `equipment_state_binding_t` and in an `overview_equipment_binding_t`. -/
structure StateBinding where
  equipmentIndex : Option ℕ
  entityKind : EntityKind
  statusTagIndex : Option ℕ
  alarmTagIndex : Option ℕ
  deriving DecidableEq

/-- The bindings of a `struct ui_equipment_view`. -/
structure EquipmentView where
  tagBindingCapacity : ℕ
  stateBindingCapacity : ℕ
  tagBindings : List TagBinding := []
  stateBindings : List StateBinding := []
  deriving DecidableEq

/-- `is_status_role` -/
def isStatusRole (tag : Tag) : Bool :=
  tag.hasRole "operating_status" || tag.hasRole "alarm_status"

/-- The binding that a header, an identity or a node of the overview makes for its object. -/
def readStateBinding (equipment : Equipment) : Lookup StateBinding := do
  let status ← findTagByRole equipment.index "operating_status"
  let alarm ← findTagByRole equipment.index "alarm_status"
  pure
    { equipmentIndex := equipment.index
      entityKind := equipment.entityKind
      statusTagIndex := status.bind Tag.index
      alarmTagIndex := alarm.bind Tag.index }

namespace EquipmentView

/-- `allocate_tag_binding`, with what its callers store; nothing happens when no binding is left. -/
def allocateTagBinding (view : EquipmentView) (binding : TagBinding) : EquipmentView :=
  if view.tagBindingCapacity ≤ view.tagBindings.length then view
  else { view with tagBindings := view.tagBindings ++ [binding] }

/-- `create_metric` -/
def createMetric (view : EquipmentView) (tag : Tag) : EquipmentView :=
  view.allocateTagBinding { tagIndex := tag.index, type := .value, control := false }

/-- `create_control` -/
def createControl (view : EquipmentView) (tag : Tag) : EquipmentView :=
  view.allocateTagBinding
    { tagIndex := tag.index, type := controlType tag.dataType, control := true }

/-- The state binding of `create_equipment_header` and of `create_identity`. -/
def createState (view : EquipmentView) (equipment : Equipment) : Lookup EquipmentView :=
  if view.stateBindingCapacity ≤ view.stateBindings.length then pure view
  else do
    let binding ← readStateBinding equipment
    pure { view with stateBindings := view.stateBindings ++ [binding] }

/-- One tag in a loop that creates the cells of a card. -/
def createCell (equipment : Equipment) (shown : Tag → Bool)
    (create : EquipmentView → Tag → EquipmentView) (view : EquipmentView) (index : ℕ) :
    Lookup EquipmentView := do
  match ← readTag (some index) with
  | none => pure view
  | some tag =>
      pure (if tag.equipmentIndex = equipment.index && shown tag then create view tag else view)

/-- A loop that creates the cells of a card for tags of its object. -/
def createCells (view : EquipmentView) (equipment : Equipment) (tagCount : ℕ)
    (shown : Tag → Bool) (create : EquipmentView → Tag → EquipmentView) : Lookup EquipmentView :=
  (List.range tagCount).foldlM (createCell equipment shown create) view

/-- `create_equipment_card` -/
def createEquipmentCard (view : EquipmentView) (equipment : Equipment) : Lookup EquipmentView := do
  let tagCount ← readTagCount
  let controlCount ← countTags tagCount fun tag =>
    tag.equipmentIndex = equipment.index && tag.writable
  let view ← view.createState equipment
  let view ←
    if 0 < controlCount then
      view.createCells equipment tagCount (fun tag => tag.writable) createControl
    else pure view
  view.createCells equipment tagCount
    (fun tag => tag.readable && !tag.writable && !isStatusRole tag) createMetric

/-- `create_controls_card` -/
def createControlsCard (view : EquipmentView) (equipment : Equipment) : Lookup EquipmentView := do
  let tagCount ← readTagCount
  let writableCount ← countTags tagCount fun tag =>
    tag.equipmentIndex = equipment.index && tag.writable
  if writableCount = 0 then pure view
  else do
    let view ← view.createState equipment
    view.createCells equipment tagCount (fun tag => tag.writable) createControl

/-- One object in the loop of `ui_equipment_create`. -/
def createCard (mode : PageMode) (view : EquipmentView) (equipmentIndex : ℕ) :
    Lookup EquipmentView := do
  match ← readEquipment (some equipmentIndex) with
  | none => pure view
  | some equipment =>
      match mode with
      | .details =>
          if equipment.entityKind.isEquipment then view.createEquipmentCard equipment
          else pure view
      | .controls => view.createControlsCard equipment

/-- `ui_equipment_create` after it has counted. -/
def createCards (view : EquipmentView) (mode : PageMode) (objectCount equipmentCount : ℕ) :
    Lookup EquipmentView :=
  if objectCount = 0 ∨ mode = .details ∧ equipmentCount = 0 then pure view
  else (List.range objectCount).foldlM (createCard mode) view

end EquipmentView

/-- The bindings that `ui_equipment_create` makes. -/
def createEquipmentView (mode : PageMode) : Lookup EquipmentView := do
  let tagCapacity ← readTagCount
  let stateCapacity ← readObjectCount
  let view : EquipmentView :=
    { tagBindingCapacity := tagCapacity + 1, stateBindingCapacity := stateCapacity + 1 }
  let objectCount ← readObjectCount
  let equipmentCount ← readAssetCount
  view.createCards mode objectCount equipmentCount

/-! ## The overview -/

/-- The bindings of a `struct ui_overview`, with the object that the caption of the signals names. -/
structure OverviewView where
  nodeCapacity : ℕ
  nodes : List StateBinding := []
  signals : List (Option ℕ) := []
  scope : Option Equipment := none
  deriving DecidableEq

/-- The loop of `equipment_belongs_to_scope`. -/
def belongsToScopeFrom (root : Equipment) : ℕ → Option ℕ → Lookup Bool
  | 0, _ => pure false
  | guard + 1, parentIndex =>
      if parentIndex = none then pure false
      else if parentIndex = root.index then pure true
      else do
        match ← readEquipment parentIndex with
        | none => pure false
        | some parent =>
            if parent.parentIndex = parent.index then pure false
            else belongsToScopeFrom root guard parent.parentIndex

/-- `equipment_belongs_to_scope` -/
def equipmentBelongsToScope (equipment root : Equipment) (flatFallback : Bool) : Lookup Bool :=
  if equipment.entityKind.isEquipment = false then pure false
  else if flatFallback ∨ equipment.index = root.index then pure true
  else do
    let objectCount ← readObjectCount
    belongsToScopeFrom root objectCount equipment.parentIndex

/-- One object in the first loop of `create_hierarchy_card`. -/
def countChild (root : Equipment) (flatFallback : Bool) (count index : ℕ) : Lookup ℕ := do
  match ← readEquipment (some index) with
  | none => pure count
  | some child =>
      let belongs ← equipmentBelongsToScope child root flatFallback
      pure (if belongs then count + 1 else count)

namespace OverviewView

/-- `create_equipment_node` -/
def createEquipmentNode (view : OverviewView) (equipment : Equipment) : Lookup OverviewView :=
  if view.nodeCapacity ≤ view.nodes.length then pure view
  else do
    let binding ← readStateBinding equipment
    pure { view with nodes := view.nodes ++ [binding] }

/-- One object in the last loop of `create_hierarchy_card`. -/
def createChild (root : Equipment) (flatFallback : Bool) (kind : EntityKind)
    (view : OverviewView) (index : ℕ) : Lookup OverviewView := do
  match ← readEquipment (some index) with
  | none => pure view
  | some child =>
      if child.entityKind ≠ kind then pure view
      else do
        let belongs ← equipmentBelongsToScope child root flatFallback
        if belongs then view.createEquipmentNode child else pure view

/-- `create_hierarchy_card`, with whether it made a card. -/
def createHierarchyCard (view : OverviewView) (root : Equipment) (flatFallback : Bool) :
    Lookup (OverviewView × Bool) := do
  let equipmentCount ← readObjectCount
  let childCount ← (List.range equipmentCount).foldlM (countChild root flatFallback) 0
  if childCount = 0 then pure (view, false)
  else do
    -- the active equipment stands before the passive one
    let view ← [EntityKind.activeEquipment, .passiveEquipment].foldlM (fun view kind =>
      (List.range equipmentCount).foldlM (createChild root flatFallback kind) view) view
    pure (view, true)

/-- One object in the loop of `create_hierarchy_cards`, which has seen `equipmentCount` objects. -/
def createRoot (equipmentCount : ℕ) (made : OverviewView × ℕ) (index : ℕ) :
    Lookup (OverviewView × ℕ) := do
  match ← readEquipment (some index) with
  | none => pure made
  | some equipment =>
      if equipment.parentIndex.all fun parent => equipmentCount ≤ parent then do
        let (view, created) ← made.1.createHierarchyCard equipment false
        pure (view, if created then made.2 + 1 else made.2)
      else pure made

/-- `create_hierarchy_cards` -/
def createHierarchyCards (view : OverviewView) : Lookup OverviewView := do
  let equipmentCount ← readObjectCount
  if equipmentCount = 0 then pure view
  else do
    let (view, cardCount) ←
      (List.range equipmentCount).foldlM (createRoot equipmentCount) (view, 0)
    if cardCount = 0 then do
      match ← readEquipment (some 0) with
      | none => pure view
      | some first => do
          let (view, _) ← view.createHierarchyCard first true
          pure view
    else pure view

end OverviewView

/-- `OVERVIEW_SIGNAL_SLOTS` -/
def overviewSignalSlots : List (List String) :=
  [["pressure", "temperature"], ["demand", "flow"], ["power", "motor_current", "runtime"]]

/-- `tag_is_numeric_measurement` -/
def isNumericMeasurement (tag : Tag) : Bool :=
  tag.readable && !tag.writable && tag.isNumeric

/-- `role_belongs_to_overview_slots` -/
def roleBelongsToOverviewSlots (tag : Tag) : Bool :=
  overviewSignalSlots.any fun slot => slot.any tag.hasRole

/-- `count_equipment_overview_signals` -/
def countEquipmentOverviewSignals (equipmentIndex : Option ℕ) : Lookup ℕ := do
  let tagCount ← readTagCount
  countTags tagCount fun tag =>
    tag.equipmentIndex = equipmentIndex && isNumericMeasurement tag &&
      roleBelongsToOverviewSlots tag

/-- The loop of `equipment_hierarchy_depth`. -/
def hierarchyDepthFrom : ℕ → Option ℕ → Lookup ℕ
  | 0, _ => pure 0
  | guard + 1, equipmentIndex => do
      match ← readEquipment equipmentIndex with
      | none => pure 0
      | some equipment =>
          if equipment.parentIndex = none ∨ equipment.parentIndex = equipment.index then pure 0
          else do
            let depth ← hierarchyDepthFrom guard equipment.parentIndex
            pure (depth + 1)

/-- `equipment_hierarchy_depth` -/
def equipmentHierarchyDepth (equipmentIndex : Option ℕ) : Lookup ℕ := do
  let equipmentCount ← readObjectCount
  hierarchyDepthFrom equipmentCount equipmentIndex

/-- A tag that could fill a slot, with what it is compared by. -/
structure SignalCandidate where
  tagIndex : Option ℕ
  scope : ℕ
  coverage : ℕ
  depth : ℕ
  deriving DecidableEq

/-- Systems and processes come before equipment, and equipment before other objects. -/
def signalScope (kind : EntityKind) : ℕ :=
  if kind = .system ∨ kind = .process then 2
  else if kind.isEquipment then 1
  else 0

/-- The comparison in `select_signal_for_slot`. -/
def SignalCandidate.replaces (candidate best : SignalCandidate) : Bool :=
  best.scope < candidate.scope ||
    (candidate.scope = best.scope &&
      (candidate.depth < best.depth ||
        (candidate.depth = best.depth && best.coverage < candidate.coverage)))

/-- One tag in the loop of `select_signal_for_slot`. -/
def compareSignal (role : String) (best : Option SignalCandidate) (index : ℕ) :
    Lookup (Option SignalCandidate) := do
  match ← readTag (some index) with
  | none => pure best
  | some tag =>
      if isNumericMeasurement tag && tag.hasRole role then do
        let equipment ← readEquipment tag.equipmentIndex
        let coverage ← countEquipmentOverviewSignals tag.equipmentIndex
        let depth ← equipmentHierarchyDepth tag.equipmentIndex
        let candidate : SignalCandidate :=
          { tagIndex := tag.index
            scope := equipment.elim 0 fun equipment => signalScope equipment.entityKind
            coverage
            depth }
        pure (if best.all candidate.replaces then some candidate else best)
      else pure best

/-- `select_signal_for_slot`.  The first role for which there is a tag decides. -/
def selectSignalForSlot (slot : List String) : Lookup (Option (Option ℕ)) := do
  let tagCount ← readTagCount
  slot.findSomeM? fun role => do
    let best ← (List.range tagCount).foldlM (compareSignal role) none
    pure (best.map SignalCandidate.tagIndex)

/-- The inner loop of `find_shared_signal_scope`. -/
def sourceInScopeFrom (candidate : Equipment) : ℕ → Option ℕ → Lookup Bool
  | 0, _ => pure false
  | guard + 1, sourceIndex => do
      match ← readEquipment sourceIndex with
      | none => pure false
      | some source =>
          if source.index = candidate.index then pure true
          else if source.parentIndex = none ∨ source.parentIndex = source.index then pure false
          else sourceInScopeFrom candidate guard source.parentIndex

/-- The outer loop of `find_shared_signal_scope`. -/
def sharedScopeFrom (equipmentCount : ℕ) (tagIndices : List (Option ℕ)) :
    ℕ → Option ℕ → Lookup (Option Equipment)
  | 0, _ => pure none
  | guard + 1, candidateIndex => do
      match ← readEquipment candidateIndex with
      | none => pure none
      | some candidate =>
          let containsAll ← tagIndices.allM fun tagIndex => do
            match ← readTag tagIndex with
            | none => pure false
            | some tag => sourceInScopeFrom candidate equipmentCount tag.equipmentIndex
          if containsAll then pure (some candidate)
          else if candidate.parentIndex = none ∨ candidate.parentIndex = candidate.index then
            pure none
          else sharedScopeFrom equipmentCount tagIndices guard candidate.parentIndex

/-- `find_shared_signal_scope` -/
def findSharedSignalScope : List (Option ℕ) → Lookup (Option Equipment)
  | [] => pure none
  | first :: others => do
      match ← readTag first with
      | none => pure none
      | some firstTag =>
          let equipmentCount ← readObjectCount
          sharedScopeFrom equipmentCount others equipmentCount firstTag.equipmentIndex

/-- `create_priority_signals` -/
def OverviewView.createPrioritySignals (view : OverviewView) : Lookup OverviewView := do
  let slots ← overviewSignalSlots.mapM' selectSignalForSlot
  let selected := slots.reduceOption
  if selected = [] then pure view
  else do
    let scope ← findSharedSignalScope selected
    let found ← selected.mapM' readTag
    pure { view with signals := view.signals ++ found.reduceOption.map Tag.index, scope }

/-- The bindings that `ui_overview_create` makes. -/
def createOverviewView : Lookup OverviewView := do
  let nodeCapacity ← readObjectCount
  let view ← OverviewView.createHierarchyCards { nodeCapacity }
  view.createPrioritySignals

/-! ## The trends -/

/-- `TRENDS_MAX_CHARTS` -/
abbrev trendsMaxCharts : ℕ := 16

/-- `tag_is_trend_candidate` -/
def isTrendCandidate (tag : Tag) : Bool :=
  tag.readable && !tag.hasRole "runtime" && !tag.hasRole "operating_hours" && tag.isNumeric

/-- One tag in the loop of `trends_create`. -/
def createChartCard (charts : List (Option ℕ)) (index : ℕ) : Lookup (List (Option ℕ)) := do
  let tag ← readTag (some index)
  match tag.filter isTrendCandidate with
  | none => pure charts
  | some tag => pure (if charts.length < trendsMaxCharts then charts ++ [tag.index] else charts)

/-- The tags for which `trends_create` makes charts. -/
def createTrends : Lookup (List (Option ℕ)) := do
  let tagCount ← readTagCount
  (List.range tagCount).foldlM createChartCard []

/-! ## The whole interface -/

/-- Everything that a rebuild binds to the model. -/
structure Bindings where
  overview : OverviewView
  equipment : EquipmentView
  controls : EquipmentView
  trends : List (Option ℕ)
  deriving DecidableEq

/-- What `rebuild_interface` creates, page by page. -/
def createBindings : Lookup Bindings := do
  let overview ← createOverviewView
  let equipment ← createEquipmentView .details
  let controls ← createEquipmentView .controls
  let trends ← createTrends
  pure { overview, equipment, controls, trends }

end CrowPanel.Ui
