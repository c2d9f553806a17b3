import CrowPanel.Ui.Bindings

/-!
# What a rebuild binds

The bindings that a rebuild makes when nothing is changed in between, told without reads and loops:
which tags and objects have a widget on which page, and in which order.  Every widget leads to a tag
of the model.
-/

namespace CrowPanel.Ui

open Library DataModel Reads

/-- The binding of a metric. -/
def metricBinding (tag : Tag) : TagBinding :=
  { tagIndex := tag.index, type := .value, control := false }

/-- The binding of a control. -/
def controlBinding (tag : Tag) : TagBinding :=
  { tagIndex := tag.index, type := controlType tag.dataType, control := true }

section

variable (records : Records) (equipment : Equipment)

/-- The tag of an object with a role, the first one if there are several. -/
def roleTag (equipmentIndex : Option ℕ) (role : String) : Option Tag :=
  records.tags.find? fun tag => tag.equipmentIndex = equipmentIndex && tag.hasRole role

/-- The controls for the writable tags of an object. -/
def controlsOf : List TagBinding :=
  (records.tags.filter fun tag => tag.equipmentIndex = equipment.index && tag.writable).map
    controlBinding

/-- The metrics of an object, without those that its state shows. -/
def metricsOf : List TagBinding :=
  (records.tags.filter fun tag => tag.equipmentIndex = equipment.index &&
    (tag.readable && !tag.writable && !isStatusRole tag)).map metricBinding

/-- The binding for the state of an object. -/
def stateOf : StateBinding where
  equipmentIndex := equipment.index
  entityKind := equipment.entityKind
  statusTagIndex := (roleTag records equipment.index "operating_status").bind Tag.index
  alarmTagIndex := (roleTag records equipment.index "alarm_status").bind Tag.index

/-- Whether an object has a card. -/
def ownsCard (mode : PageMode) : Bool :=
  match mode with
  | .details => equipment.entityKind.isEquipment
  | .controls => !(controlsOf records equipment).isEmpty

/-- The cells of its card. -/
def cellsOf (mode : PageMode) : List TagBinding :=
  match mode with
  | .details => controlsOf records equipment ++ metricsOf records equipment
  | .controls => controlsOf records equipment

/-- The objects with a card on the page. -/
def cardOwners (mode : PageMode) : List Equipment :=
  records.equipment.filter fun equipment => ownsCard records equipment mode

end

/-! ## Loops over the tags -/

/-- Appending as long as there is room. -/
theorem foldl_appendBelow {α : Type} {capacity : ℕ} {first : List α}
    (hfit : first.length ≤ capacity) (items : List α) :
    items.foldl (fun kept item => if kept.length < capacity then kept ++ [item] else kept) first =
      (first ++ items).take capacity := by
  induction items generalizing first with
  | nil => simp [List.take_of_length_le hfit]
  | cons item items ih =>
      rw [List.foldl_cons]
      split
      · next hroom =>
          have hnext : (first ++ [item]).length ≤ capacity := by
            rw [List.length_append, List.length_singleton]
            omega
          rw [ih hnext, List.append_assoc, List.singleton_append]
      · next hfull =>
          have hlength : capacity ≤ first.length := Nat.le_of_not_lt hfull
          rw [ih hfit, List.take_append_of_le_length hlength, List.take_append_of_le_length hlength]

theorem take_append_take {α : Type} (first second : List α) (count : ℕ) :
    (first.take count ++ second).take count = (first ++ second).take count := by
  rw [List.take_append, List.take_append, List.take_take, min_self, List.length_take]
  congr 2
  omega

section

variable {records : Records} {equipment : Equipment} {view : EquipmentView}

/-- A loop that counts. -/
theorem foldl_countP {α : Type} (items : List α) (counted : α → Bool) (count : ℕ) :
    items.foldl (fun count item => if counted item then count + 1 else count) count =
      count + items.countP counted := by
  induction items generalizing count with
  | nil => simp
  | cons item items ih =>
      rw [List.foldl_cons, ih, List.countP_cons]
      split <;> omega

theorem run_countTags (counted : Tag → Bool) :
    (countTags records.tags.length counted).run records = records.tags.countP counted := by
  rw [countTags, run_foldlM]
  refine (foldl_range_getElem? records.tags
    (fun (count : ℕ) tag => if tag.any counted then count + 1 else count) 0).trans ?_
  simp only [Option.any_some]
  rw [foldl_countP, Nat.zero_add]

/-- Several bindings, one after the other. -/
def EquipmentView.allocateTagBindings (view : EquipmentView) (bindings : List TagBinding) :
    EquipmentView :=
  bindings.foldl allocateTagBinding view

theorem run_createCell (shown : Tag → Bool) (binding : Tag → TagBinding) (index : ℕ) :
    (EquipmentView.createCell equipment shown (fun view tag => view.allocateTagBinding (binding tag))
        view index).run records =
      records.tags[index]?.elim view fun tag =>
        if tag.equipmentIndex = equipment.index && shown tag then
          view.allocateTagBinding (binding tag)
        else view := by
  simp only [EquipmentView.createCell, readTag, run_bind, run_read, Option.bind_some]
  cases records.tags[index]? <;> rfl

theorem run_createCells (shown : Tag → Bool) (binding : Tag → TagBinding) :
    (view.createCells equipment records.tags.length shown fun view tag =>
        view.allocateTagBinding (binding tag)).run records =
      view.allocateTagBindings ((records.tags.filter fun tag =>
        tag.equipmentIndex = equipment.index && shown tag).map binding) := by
  rw [EquipmentView.createCells, run_foldlM]
  simp only [run_createCell]
  refine (foldl_range_getElem? records.tags (fun (view : EquipmentView) tag =>
    tag.elim view fun tag =>
      if tag.equipmentIndex = equipment.index && shown tag then
        view.allocateTagBinding (binding tag)
      else view) view).trans ?_
  rw [EquipmentView.allocateTagBindings, List.foldl_map, List.foldl_filter]
  rfl

theorem run_readStateBinding (equipment : Equipment) :
    (readStateBinding equipment).run records = stateOf records equipment := by
  simp only [readStateBinding, run_bind, run_findTagByRole, run_pure]
  rfl

/-! ## The pages for equipment and controls -/

namespace EquipmentView

/-- `allocate_state_binding`, with what its callers store. -/
def allocateStateBinding (view : EquipmentView) (binding : StateBinding) : EquipmentView :=
  if view.stateBindingCapacity ≤ view.stateBindings.length then view
  else { view with stateBindings := view.stateBindings ++ [binding] }

/-- A card for an object. -/
def addCard (records : Records) (mode : PageMode) (view : EquipmentView) (equipment : Equipment) :
    EquipmentView :=
  (view.allocateStateBinding (stateOf records equipment)).allocateTagBindings
    (cellsOf records equipment mode)

theorem run_createState :
    (view.createState equipment).run records =
      view.allocateStateBinding (stateOf records equipment) := by
  unfold createState allocateStateBinding
  split
  · rfl
  · rw [run_bind, run_readStateBinding, run_pure]

theorem controlsOf_eq_nil_iff : controlsOf records equipment = [] ↔
    (records.tags.countP fun tag => tag.equipmentIndex = equipment.index && tag.writable) = 0 := by
  rw [controlsOf, List.map_eq_nil_iff, List.filter_eq_nil_iff, List.countP_eq_zero]

theorem run_createControls : (view.createCells equipment records.tags.length
      (fun tag => tag.writable) createControl).run records =
    view.allocateTagBindings (controlsOf records equipment) :=
  run_createCells (fun tag => tag.writable) controlBinding

theorem run_createMetrics : (view.createCells equipment records.tags.length
      (fun tag => tag.readable && !tag.writable && !isStatusRole tag) createMetric).run records =
    view.allocateTagBindings (metricsOf records equipment) :=
  run_createCells (fun tag => tag.readable && !tag.writable && !isStatusRole tag) metricBinding

theorem run_createEquipmentCard :
    (view.createEquipmentCard equipment).run records = view.addCard records .details equipment := by
  simp only [createEquipmentCard, run_bind, readTagCount, run_read, run_countTags, run_createState,
    addCard, cellsOf, allocateTagBindings, List.foldl_append]
  split
  · simp only [run_bind, run_createControls, run_createMetrics, allocateTagBindings]
  · next hnone =>
      have hcontrols : controlsOf records equipment = [] := controlsOf_eq_nil_iff.mpr (by omega)
      simp only [run_bind, run_pure, run_createMetrics, hcontrols, allocateTagBindings,
        List.foldl_nil]

theorem run_createControlsCard :
    (view.createControlsCard equipment).run records =
      if ownsCard records equipment .controls then view.addCard records .controls equipment
      else view := by
  simp only [createControlsCard, run_bind, readTagCount, run_read, run_countTags]
  split
  · next hnone =>
      have howns : ownsCard records equipment .controls = false := by
        simp [ownsCard, controlsOf_eq_nil_iff.mpr hnone]
      simp only [howns, run_pure, Bool.false_eq_true, if_false]
  · next hsome =>
      have howns : ownsCard records equipment .controls = true := by
        simpa [ownsCard] using fun hnil => hsome (controlsOf_eq_nil_iff.mp hnil)
      simp only [howns, if_true, run_bind, run_createState, run_createControls, addCard, cellsOf]

/-- An object gets its card, or nothing happens. -/
theorem run_createCard (mode : PageMode) (index : ℕ) :
    (createCard mode view index).run records =
      records.equipment[index]?.elim view fun equipment =>
        if ownsCard records equipment mode then view.addCard records mode equipment else view := by
  simp only [createCard, readEquipment, run_bind, run_read, Option.bind_some]
  cases records.equipment[index]? with
  | none => rfl
  | some equipment =>
      cases mode with
      | details =>
          have howns : ownsCard records equipment .details = equipment.entityKind.isEquipment := rfl
          simp only [Option.elim_some, howns]
          cases equipment.entityKind.isEquipment with
          | false => rfl
          | true => exact run_createEquipmentCard
      | controls => exact run_createControlsCard

/-! ### What the cards hold -/

theorem allocateTagBindings_eq (hfit : view.tagBindings.length ≤ view.tagBindingCapacity)
    (bindings : List TagBinding) :
    view.allocateTagBindings bindings =
      { view with
        tagBindings := (view.tagBindings ++ bindings).take view.tagBindingCapacity } := by
  rw [← foldl_appendBelow hfit]
  clear hfit
  induction bindings generalizing view with
  | nil => rfl
  | cons binding bindings ih =>
      rw [allocateTagBindings, List.foldl_cons, ← allocateTagBindings, ih, allocateTagBinding]
      split
      · next hfull => rw [List.foldl_cons, if_neg (Nat.not_lt_of_le hfull)]
      · next hroom => rw [List.foldl_cons, if_pos (Nat.lt_of_not_le hroom)]

/-- The cells of the cards stand one after the other, as far as there are bindings for them. -/
theorem foldl_addCard {owners : List Equipment} {mode : PageMode}
    (hfit : view.tagBindings.length ≤ view.tagBindingCapacity)
    (hroom : view.stateBindings.length + owners.length ≤ view.stateBindingCapacity) :
    owners.foldl (addCard records mode) view =
      { view with
        tagBindings := (view.tagBindings ++
          owners.flatMap fun owner => cellsOf records owner mode).take view.tagBindingCapacity
        stateBindings := view.stateBindings ++ owners.map (stateOf records) } := by
  induction owners generalizing view with
  | nil => simp [List.take_of_length_le hfit]
  | cons owner owners ih =>
      rw [List.length_cons] at hroom
      have hstate : view.allocateStateBinding (stateOf records owner) =
          { view with stateBindings := view.stateBindings ++ [stateOf records owner] } :=
        if_neg (by omega)
      have hcard : view.addCard records mode owner =
          { view with
            tagBindings := (view.tagBindings ++ cellsOf records owner mode).take
              view.tagBindingCapacity
            stateBindings := view.stateBindings ++ [stateOf records owner] } := by
        rw [addCard, hstate]
        refine allocateTagBindings_eq ?_ _
        exact hfit
      have hnextFit : (view.addCard records mode owner).tagBindings.length ≤
          (view.addCard records mode owner).tagBindingCapacity := by
        rw [hcard]
        exact List.length_take_le _ _
      have hnextRoom : (view.addCard records mode owner).stateBindings.length + owners.length ≤
          (view.addCard records mode owner).stateBindingCapacity := by
        rw [hcard]
        simp only [List.length_append, List.length_singleton]
        omega
      rw [List.foldl_cons, ih hnextFit hnextRoom, hcard]
      simp only [take_append_take, List.append_assoc, List.flatMap_cons, List.singleton_append,
        List.map_cons]

end EquipmentView

/-- The page holds, card by card, the cells of every object that has a card. -/
theorem run_createEquipmentView (mode : PageMode) :
    (createEquipmentView mode).run records =
      { tagBindingCapacity := records.tags.length + 1
        stateBindingCapacity := records.equipment.length + 1
        tagBindings := ((cardOwners records mode).flatMap fun owner =>
          cellsOf records owner mode).take (records.tags.length + 1)
        stateBindings := (cardOwners records mode).map (stateOf records) } := by
  have hloop : (List.range records.equipment.length).foldl
      (fun view index => (EquipmentView.createCard mode view index).run records)
      { tagBindingCapacity := records.tags.length + 1
        stateBindingCapacity := records.equipment.length + 1 } =
      (cardOwners records mode).foldl (EquipmentView.addCard records mode)
        { tagBindingCapacity := records.tags.length + 1
          stateBindingCapacity := records.equipment.length + 1 } := by
    simp only [EquipmentView.run_createCard]
    refine (foldl_range_getElem? records.equipment (fun (view : EquipmentView) owner =>
      owner.elim view fun owner =>
        if ownsCard records owner mode then view.addCard records mode owner else view) _).trans ?_
    rw [cardOwners, List.foldl_filter]
    rfl
  have hfew : (cardOwners records mode).length ≤ records.equipment.length :=
    List.length_filter_le _ _
  have hcards := hloop.trans (EquipmentView.foldl_addCard (Nat.zero_le _) (by
    simp only [List.length_nil]
    omega))
  simp only [List.nil_append] at hcards
  simp only [createEquipmentView, run_bind, readTagCount, readObjectCount, readAssetCount, run_read]
  unfold EquipmentView.createCards
  split
  · next hempty =>
      have hnobody : cardOwners records mode = [] := by
        rcases hempty with hnone | ⟨rfl, hnone⟩
        · rw [cardOwners, List.length_eq_zero_iff.mp hnone, List.filter_nil]
        · exact List.filter_eq_nil_iff.mpr (List.countP_eq_zero.mp hnone)
      simp only [run_pure, hnobody, List.flatMap_nil, List.take_nil, List.map_nil]
  · rw [run_foldlM]
    exact hcards

/-- Every cell is for a tag of the model. -/
theorem mem_createEquipmentView {mode : PageMode} {binding : TagBinding}
    (hmem : binding ∈ ((createEquipmentView mode).run records).tagBindings) :
    ∃ tag ∈ records.tags, binding.tagIndex = tag.index := by
  rw [run_createEquipmentView] at hmem
  obtain ⟨owner, -, hcell⟩ := List.mem_flatMap.mp (List.mem_of_mem_take hmem)
  have hmade : ∀ (shown : Tag → Bool) (make : Tag → TagBinding),
      (∀ tag, (make tag).tagIndex = tag.index) → binding ∈ (records.tags.filter shown).map make →
        ∃ tag ∈ records.tags, binding.tagIndex = tag.index := by
    intro shown make hindex hmade
    obtain ⟨tag, htag, rfl⟩ := List.mem_map.mp hmade
    exact ⟨tag, List.mem_of_mem_filter htag, hindex tag⟩
  cases mode with
  | details =>
      rcases List.mem_append.mp hcell with hcontrol | hmetric
      · exact hmade _ controlBinding (fun _ => rfl) hcontrol
      · exact hmade _ metricBinding (fun _ => rfl) hmetric
  | controls => exact hmade _ controlBinding (fun _ => rfl) hcell

/-! ## The trends -/

theorem run_createChartCard (charts : List (Option ℕ)) (index : ℕ) :
    (createChartCard charts index).run records =
      records.tags[index]?.elim charts fun tag =>
        if isTrendCandidate tag then
          if charts.length < trendsMaxCharts then charts ++ [tag.index] else charts
        else charts := by
  simp only [createChartCard, readTag, run_bind, run_read, Option.bind_some]
  cases records.tags[index]? with
  | none => rfl
  | some tag =>
      cases hcandidate : isTrendCandidate tag with
      | false => simp [Option.filter_some, hcandidate]
      | true => simp [Option.filter_some, hcandidate]

/-- The first candidates have a chart. -/
theorem run_createTrends :
    createTrends.run records =
      ((records.tags.filter isTrendCandidate).map Tag.index).take trendsMaxCharts := by
  have hfirst : ([] : List (Option ℕ)).length ≤ trendsMaxCharts := Nat.zero_le _
  have hfold := foldl_appendBelow hfirst ((records.tags.filter isTrendCandidate).map Tag.index)
  rw [List.nil_append] at hfold
  simp only [createTrends, readTagCount, run_bind, run_read, run_foldlM, run_createChartCard]
  refine (foldl_range_getElem? records.tags (fun (charts : List (Option ℕ)) tag =>
    tag.elim charts fun tag =>
      if isTrendCandidate tag then
        if charts.length < trendsMaxCharts then charts ++ [tag.index] else charts
      else charts) []).trans ?_
  rw [← hfold, List.foldl_map, List.foldl_filter]
  rfl

/-! ## The overview -/

/-- The overview while its cards are made: it has no signals, and its nodes are physical objects. -/
structure OverviewView.Building (view : OverviewView) (records : Records) : Prop where
  signals_eq : view.signals = []
  scope_eq : view.scope = none
  nodes_physical : ∀ node ∈ view.nodes, ∃ equipment ∈ records.equipment,
    equipment.entityKind.isEquipment = true ∧ node = stateOf records equipment

theorem belongsToScope_physical {equipment root : Equipment} {flatFallback : Bool}
    (hbelongs : (equipmentBelongsToScope equipment root flatFallback).run records = true) :
    equipment.entityKind.isEquipment = true := by
  unfold equipmentBelongsToScope at hbelongs
  split at hbelongs
  · cases hbelongs
  · next hphysical => exact eq_true_of_ne_false hphysical

namespace OverviewView.Building

variable {view : OverviewView}

theorem empty {nodeCapacity : ℕ} : Building { nodeCapacity } records :=
  ⟨rfl, rfl, fun _ hnode => absurd hnode List.not_mem_nil⟩

theorem createEquipmentNode (hbuilding : view.Building records) (hmem : equipment ∈ records.equipment)
    (hphysical : equipment.entityKind.isEquipment = true) :
    ((view.createEquipmentNode equipment).run records).Building records := by
  unfold OverviewView.createEquipmentNode
  split
  · exact hbuilding
  · rw [run_bind, run_readStateBinding, run_pure]
    refine ⟨hbuilding.signals_eq, hbuilding.scope_eq, fun node hnode => ?_⟩
    rcases List.mem_append.mp hnode with hold | hnew
    · exact hbuilding.nodes_physical node hold
    · exact ⟨equipment, hmem, hphysical, List.mem_singleton.mp hnew⟩

theorem createChild (hbuilding : view.Building records) (root : Equipment) (flatFallback : Bool)
    (kind : EntityKind) (index : ℕ) :
    ((OverviewView.createChild root flatFallback kind view index).run records).Building records := by
  simp only [OverviewView.createChild, readEquipment, run_bind, run_read, Option.bind_some]
  cases hchild : records.equipment[index]? with
  | none => exact hbuilding
  | some child =>
      have hmem := List.mem_of_getElem? hchild
      dsimp only
      split
      · exact hbuilding
      · rw [run_bind]
        split
        · next hbelongs =>
            exact hbuilding.createEquipmentNode hmem (belongsToScope_physical hbelongs)
        · exact hbuilding

theorem createHierarchyCard (hbuilding : view.Building records) (root : Equipment)
    (flatFallback : Bool) :
    ((view.createHierarchyCard root flatFallback).run records).1.Building records := by
  simp only [OverviewView.createHierarchyCard, run_bind]
  split
  · exact hbuilding
  · rw [run_bind, run_pure]
    exact run_foldlM_induction (fun view => Building view records) hbuilding fun view kind hview =>
      run_foldlM_induction (fun view => Building view records) hview fun view index hview =>
        hview.createChild root flatFallback kind index

theorem createRoot {made : OverviewView × ℕ} (hbuilding : made.1.Building records)
    (equipmentCount index : ℕ) :
    ((OverviewView.createRoot equipmentCount made index).run records).1.Building records := by
  simp only [OverviewView.createRoot, readEquipment, run_bind, run_read, Option.bind_some]
  cases records.equipment[index]? with
  | none => exact hbuilding
  | some root =>
      dsimp only
      split
      · rw [run_bind]
        exact hbuilding.createHierarchyCard root false
      · exact hbuilding

theorem createHierarchyCards (hbuilding : view.Building records) :
    (view.createHierarchyCards.run records).Building records := by
  simp only [OverviewView.createHierarchyCards, run_bind]
  split
  · exact hbuilding
  · rw [run_bind]
    have hcards : (((List.range (readObjectCount.run records)).foldlM
        (OverviewView.createRoot (readObjectCount.run records)) (view, 0)).run
          records).1.Building records :=
      run_foldlM_induction (fun made : OverviewView × ℕ => Building made.1 records) hbuilding
        fun made index hmade =>
        hmade.createRoot _ index
    split
    · -- no card for a root: the flat fallback
      rw [run_bind]
      cases (readEquipment (some 0)).run records with
      | none => exact hcards
      | some first =>
          dsimp only
          rw [run_bind]
          exact hcards.createHierarchyCard first true
    · exact hcards

end OverviewView.Building

/-- Every signal of the overview is a tag of the model, and every node a physical object. -/
theorem mem_createOverviewView :
    (∀ index ∈ (createOverviewView.run records).signals, ∃ tag ∈ records.tags, tag.index = index) ∧
      ∀ node ∈ (createOverviewView.run records).nodes, ∃ equipment ∈ records.equipment,
        equipment.entityKind.isEquipment = true ∧ node = stateOf records equipment := by
  have hempty : OverviewView.Building { nodeCapacity := readObjectCount.run records } records :=
    .empty
  have hcards := hempty.createHierarchyCards
  simp only [createOverviewView, run_bind]
  generalize (OverviewView.createHierarchyCards _).run records = view at hcards
  simp only [OverviewView.createPrioritySignals, run_bind]
  split
  · refine ⟨fun index hindex => ?_, hcards.nodes_physical⟩
    rw [run_pure, hcards.signals_eq] at hindex
    exact absurd hindex List.not_mem_nil
  · rw [run_bind, run_bind, run_pure]
    refine ⟨fun index hindex => ?_, hcards.nodes_physical⟩
    rw [hcards.signals_eq, List.nil_append] at hindex
    obtain ⟨tag, htag, hsame⟩ := List.mem_map.mp hindex
    rw [List.reduceOption_mem_iff, run_mapM'] at htag
    obtain ⟨place, -, hread⟩ := List.mem_map.mp htag
    obtain ⟨position, -, hposition⟩ := Option.bind_eq_some_iff.mp hread
    exact ⟨tag, List.mem_of_getElem? hposition, hsame⟩

theorem run_createBindings :
    createBindings.run records =
      { overview := createOverviewView.run records
        equipment := (createEquipmentView .details).run records
        controls := (createEquipmentView .controls).run records
        trends := createTrends.run records } := by
  simp only [createBindings, run_bind, run_pure]

end

end CrowPanel.Ui
