import CrowPanel.OpcUa.Paging

/-!
# The discovery of a plant

Most servers show a plant: a tree of objects with their variables, each with properties that describe
it.  The discovery of a plant that is not too deep and for which there is room succeeds, and the data
model has an object for each object and a tag for each variable of the plant, in the order in which the
references come, with what the properties say.

## Strategy

`Plant` is the tree by first child and next sibling, so that one induction covers a level and the
levels below it.  `Records` says what the nodes add to a context; requests are not looked at.  One
reference adds the records of its node and of the nodes below it (`processReference_records`), and
`Plant.records` puts them together.
-/

namespace CrowPanel.OpcUa

open Library DataModel

/-! ## Plants -/

/-- A property, with the answer when it is read. -/
structure PropertyNode where
  reference : ReferenceDescription
  answer : StatusCode × Variant

/-- A variable, with the answers about it. -/
structure VariableNode where
  reference : ReferenceDescription
  dataType : NodeId
  accessLevel : UInt8
  value : StatusCode × Variant
  properties : List PropertyNode

/-- What the references of a node lead to, in their order. -/
inductive Plant where
  | nil
  /-- a reference that is not for the discovery -/
  | ignored (reference : ReferenceDescription) (rest : Plant)
  /-- an object of the standard, with what is below it -/
  | folder (reference : ReferenceDescription) (children rest : Plant)
  | object (reference : ReferenceDescription) (properties : List PropertyNode)
      (children rest : Plant)
  | leaf (node : VariableNode) (rest : Plant)

namespace Plant

/-- The references of the node. -/
def references : Plant → List ReferenceDescription
  | nil => []
  | ignored reference rest => reference :: rest.references
  | folder reference _ rest => reference :: rest.references
  | object reference _ _ rest => reference :: rest.references
  | leaf node rest => node.reference :: rest.references

/-- The levels below the node that must be browsed. -/
def levels : Plant → ℕ
  | nil => 0
  | ignored _ rest => rest.levels
  | folder _ children rest => max (children.levels + 1) rest.levels
  | object _ _ children rest => max (children.levels + 1) rest.levels
  | leaf _ rest => rest.levels

/-- The NodeIds of the objects, each before what is below it. -/
def objectIds : Plant → List NodeId
  | nil => []
  | ignored _ rest => rest.objectIds
  | folder _ children rest => children.objectIds ++ rest.objectIds
  | object reference _ children rest => reference.nodeId :: (children.objectIds ++ rest.objectIds)
  | leaf _ rest => rest.objectIds

/-- The NodeIds of the variables, in the order in which they are met. -/
def variableIds : Plant → List NodeId
  | nil => []
  | ignored _ rest => rest.variableIds
  | folder _ children rest => children.variableIds ++ rest.variableIds
  | object _ _ children rest => children.variableIds ++ rest.variableIds
  | leaf node rest => node.reference.nodeId :: rest.variableIds

end Plant

/-! ## The records -/

/-- What a property does to the record of an object. -/
def applyObjectProperty (equipment : Equipment) (property : PropertyNode) : Equipment :=
  if (uaStringToText nameLength property.reference.browseName).text ≠ ascii "EntityKind" then
    equipment
  else
    match property.answer.2.asString with
    | some entityKind =>
        let parsedKind := parseEntityKind (uaStringToText nameLength entityKind).text
        if property.answer.1 = .good ∧ parsedKind ≠ .unknown then
          { equipment with entityKind := parsedKind, entityKindExplicit := true }
        else equipment
    | none => equipment

/-- The record of an object. -/
def objectRecord (reference : ReferenceDescription) (properties : List PropertyNode)
    (parentIndex : Option ℕ) : Equipment :=
  properties.foldl applyObjectProperty (equipmentOf reference parentIndex)

/-- What a property does to the record of a variable. -/
def applyTagProperty (tag : Tag) (property : PropertyNode) : Tag :=
  if property.answer.1 ≠ .good then tag
  else
    applyVariableProperty (uaStringToText nameLength property.reference.browseName).text
      property.answer.2 tag

/-- The record of a variable before its properties are read. -/
def VariableNode.initialTag (node : VariableNode) (owner : ℕ) : Tag :=
  let tag := tagOf node.reference owner node.dataType node.accessLevel
  if tag.readable = true ∧ node.value.1 = .good then
    let value := variantToModelValue node.value.2 tag.dataType
    { tag with valueValid := value.isSome, value := value.getD {} }
  else tag

/-- The record of a variable. -/
def VariableNode.tag (node : VariableNode) (owner : ℕ) : Tag :=
  node.properties.foldl applyTagProperty (node.initialTag owner)

namespace Plant

/-- The records of the objects, if the first of them has the index `next`. -/
def objects (parentIndex : Option ℕ) (next : ℕ) : Plant → List Equipment
  | nil => []
  | ignored _ rest => rest.objects parentIndex next
  | folder _ children rest =>
      children.objects parentIndex next ++ rest.objects parentIndex (next + children.objectIds.length)
  | object reference properties children rest =>
      { objectRecord reference properties parentIndex with index := some next } ::
        (children.objects (some next) (next + 1) ++
          rest.objects parentIndex (next + (children.objectIds.length + 1)))
  | leaf _ rest => rest.objects parentIndex next

/-- The variables with the indices of their objects. -/
def owned (parentIndex : Option ℕ) (next : ℕ) : Plant → List (VariableNode × Option ℕ)
  | nil => []
  | ignored _ rest => rest.owned parentIndex next
  | folder _ children rest =>
      children.owned parentIndex next ++ rest.owned parentIndex (next + children.objectIds.length)
  | object _ _ children rest =>
      children.owned (some next) (next + 1) ++
        rest.owned parentIndex (next + (children.objectIds.length + 1))
  | leaf node rest => (node, parentIndex) :: rest.owned parentIndex next

end Plant

/-- The record of the tag with an index. -/
def tagRecord (index : ℕ) (entry : VariableNode × Option ℕ) : Tag :=
  { entry.1.tag (entry.2.getD 0) with index := some index }

/-- The records of some variables, if the first of them has the index `next`. -/
def tagRecords (next : ℕ) (entries : List (VariableNode × Option ℕ)) : List Tag :=
  entries.mapIdx fun position entry => tagRecord (next + position) entry

theorem Plant.objects_length (plant : Plant) (parentIndex : Option ℕ) (next : ℕ) :
    (plant.objects parentIndex next).length = plant.objectIds.length := by
  induction plant generalizing parentIndex next with
  | nil => rfl
  | ignored _ _ ih => exact ih parentIndex next
  | folder _ _ _ ihChildren ih => simp [objects, objectIds, ihChildren, ih]
  | object _ _ _ _ ihChildren ih => simp [objects, objectIds, ihChildren, ih]
  | leaf _ _ ih => exact ih parentIndex next

theorem Plant.owned_ids (plant : Plant) (parentIndex : Option ℕ) (next : ℕ) :
    (plant.owned parentIndex next).map (fun entry => entry.1.reference.nodeId) =
      plant.variableIds := by
  induction plant generalizing parentIndex next with
  | nil => rfl
  | ignored _ _ ih => exact ih parentIndex next
  | folder _ _ _ ihChildren ih => simp [owned, variableIds, ihChildren, ih]
  | object _ _ _ _ ihChildren ih => simp [owned, variableIds, ihChildren, ih]
  | leaf _ _ ih => simp [owned, variableIds, ih]

theorem tagRecords_append (next : ℕ) (first second : List (VariableNode × Option ℕ)) :
    tagRecords next (first ++ second) =
      tagRecords next first ++ tagRecords (next + first.length) second := by
  simp only [tagRecords, List.mapIdx_append, Nat.add_assoc, Nat.add_comm first.length]

/-! ## Servers of a plant -/

/-- A browse yields these references at once. -/
def Delivers (env : Environment) (description : BrowseDescription)
    (references : List ReferenceDescription) : Prop :=
  ∀ calls, env.browse calls description = { first := { results := [{ references }] } }

/-- The properties of a node are served. -/
def ServesProperties (env : Environment) (nodeId : NodeId) (properties : List PropertyNode) : Prop :=
  Delivers env (propertyDescription nodeId) (properties.map PropertyNode.reference) ∧
    ∀ property ∈ properties, ∀ calls,
      env.readValue calls property.reference.nodeId = property.answer

/-- A variable is served. -/
structure VariableNode.Served (env : Environment) (node : VariableNode) : Prop where
  dataType : ∀ calls, env.readDataType calls node.reference.nodeId = (.good, node.dataType)
  access : ∀ calls, env.readUserAccessLevel calls node.reference.nodeId = (.good, node.accessLevel)
  value : ∀ calls, env.readValue calls node.reference.nodeId = node.value
  properties : ServesProperties env node.reference.nodeId node.properties

/-- What is below the nodes of a plant is served. -/
def Plant.Served (env : Environment) : Plant → Prop
  | nil => True
  | ignored _ rest => rest.Served env
  | folder reference children rest =>
      Delivers env (childDescription reference.nodeId) children.references ∧ children.Served env ∧
        rest.Served env
  | object reference properties children rest =>
      ServesProperties env reference.nodeId properties ∧
        Delivers env (childDescription reference.nodeId) children.references ∧
          children.Served env ∧ rest.Served env
  | leaf node rest => node.Served env ∧ rest.Served env

/-- The discovery has no use for the reference of a node, which is below an object if `below`. -/
def Ignorable (below : Bool) (reference : ReferenceDescription) : Prop :=
  reference.serverIndex ≠ 0 ∨
    reference.nodeId.namespaceIndex = 0 ∧
      ¬(reference.nodeClass = .object ∧ reference.nodeId ≠ .server) ∨
    reference.nodeId.namespaceIndex ≠ 0 ∧
      (reference.nodeClass = .other ∨ reference.nodeClass = .variable ∧
        (below = false ∨ reference.referenceTypeId = .hasProperty))

/-- The nodes of a plant are what their constructors say; the plant is below an object if `below`. -/
def Plant.WellPlaced : Bool → Plant → Prop
  | _, nil => True
  | below, ignored reference rest => Ignorable below reference ∧ rest.WellPlaced below
  | below, folder reference children rest =>
      (reference.serverIndex = 0 ∧ reference.nodeId.namespaceIndex = 0 ∧
        reference.nodeClass = .object ∧ reference.nodeId ≠ .server) ∧
        children.WellPlaced below ∧ rest.WellPlaced below
  | below, object reference _ children rest =>
      (reference.serverIndex = 0 ∧ reference.nodeId.namespaceIndex ≠ 0 ∧
        reference.nodeClass = .object) ∧ children.WellPlaced true ∧ rest.WellPlaced below
  | below, leaf node rest =>
      (below = true ∧ node.reference.serverIndex = 0 ∧
        node.reference.nodeId.namespaceIndex ≠ 0 ∧ node.reference.nodeClass = .variable ∧
        node.reference.referenceTypeId ≠ .hasProperty) ∧ rest.WellPlaced below

/-! ## Servers for all plants -/

/-- What a server has of a node. -/
structure ServerEntry where
  nodeId : NodeId
  children : List ReferenceDescription := []
  properties : List PropertyNode := []
  dataType : NodeId := .null
  accessLevel : UInt8 := 0
  value : StatusCode × Variant := (.good, .other)

/-- The property as a node of its own. -/
def PropertyNode.entry (property : PropertyNode) : ServerEntry where
  nodeId := property.reference.nodeId
  value := property.answer

/-- The nodes of a plant. -/
def Plant.entries : Plant → List ServerEntry
  | nil => []
  | ignored _ rest => rest.entries
  | folder reference children rest =>
      { nodeId := reference.nodeId, children := children.references } ::
        (children.entries ++ rest.entries)
  | object reference properties children rest =>
      { nodeId := reference.nodeId, children := children.references, properties } ::
        (properties.map PropertyNode.entry ++ (children.entries ++ rest.entries))
  | leaf node rest =>
      { nodeId := node.reference.nodeId
        properties := node.properties
        dataType := node.dataType
        accessLevel := node.accessLevel
        value := node.value } :: (node.properties.map PropertyNode.entry ++ rest.entries)

/-- The Objects folder of a server with a plant and the nodes of the plant. -/
def Plant.table (plant : Plant) : List ServerEntry :=
  { nodeId := .objectsFolder, children := plant.references } :: plant.entries

section

variable {entries : List ServerEntry}

end

/-! ## What the discovery adds -/

/-- The context with new objects and variables, in the middle of a structure update. -/
def Context.grown (context : Context) (objects : List Equipment) (objectIds : List NodeId)
    (entries : List (VariableNode × Option ℕ)) (calls : List Call) : Context :=
  { context with
    dataModel :=
      { context.dataModel with
        equipment := context.dataModel.equipment ++ objects
        tags := context.dataModel.tags ++ tagRecords context.dataModel.tags.length entries }
    equipmentNodeIds := context.equipmentNodeIds ++ objectIds
    tagNodeIds := context.tagNodeIds ++ entries.map fun entry => entry.1.reference.nodeId
    tagBuiltinTypeIndices := context.tagBuiltinTypeIndices ++
      entries.map fun entry => mapBuiltinTypeIndex entry.1.dataType
    calls }

/-- The context with the records of a plant. -/
def Context.withPlant (context : Context) (plant : Plant) (parentIndex : Option ℕ)
    (calls : List Call) : Context :=
  context.grown (plant.objects parentIndex context.dataModel.equipment.length) plant.objectIds
    (plant.owned parentIndex context.dataModel.equipment.length) calls

/-- A structure update is going on that has room for new nodes. -/
structure Ready (context : Context) (objectIds variableIds : List NodeId) : Prop where
  active : context.dataModel.structureUpdateActive = true
  dirty : context.dataModel.structureDirty = true
  objects : context.equipmentNodeIds.length = context.dataModel.equipment.length
  tags : context.tagNodeIds.length = context.dataModel.tags.length
  types : context.tagBuiltinTypeIndices.length = context.dataModel.tags.length
  objectRoom : context.dataModel.equipment.length + objectIds.length ≤
    min context.dataModel.equipmentCapacity context.configuration.maximumEquipmentObjects
  tagRoom : context.dataModel.tags.length + variableIds.length ≤
    min context.dataModel.tagCapacity context.configuration.maximumTags
  newObjects : (context.equipmentNodeIds ++ objectIds).Nodup
  newTags : (context.tagNodeIds ++ variableIds).Nodup

section

variable {env : Environment} {context : Context} {objects : List Equipment}
  {objectIds moreObjects variableIds moreVariables : List NodeId}
  {entries : List (VariableNode × Option ℕ)} {calls : List Call}

theorem Context.grown_grown (others : List Equipment) (later : List (VariableNode × Option ℕ))
    (more : List Call) :
    (context.grown objects objectIds entries calls).grown others moreObjects later more =
      context.grown (objects ++ others) (objectIds ++ moreObjects) (entries ++ later) more := by
  have hlength : (tagRecords context.dataModel.tags.length entries).length = entries.length := by
    simp [tagRecords]
  simp [Context.grown, tagRecords_append, hlength]

theorem Ready.left (hready : Ready context (objectIds ++ moreObjects) (variableIds ++ moreVariables)) :
    Ready context objectIds variableIds where
  active := hready.active
  dirty := hready.dirty
  objects := hready.objects
  tags := hready.tags
  types := hready.types
  objectRoom := by
    have hroom := hready.objectRoom
    rw [List.length_append] at hroom
    omega
  tagRoom := by
    have hroom := hready.tagRoom
    rw [List.length_append] at hroom
    omega
  newObjects := by
    have hnew := hready.newObjects
    rw [← List.append_assoc] at hnew
    exact hnew.of_append_left
  newTags := by
    have hnew := hready.newTags
    rw [← List.append_assoc] at hnew
    exact hnew.of_append_left

theorem Ready.right (hready : Ready context (objectIds ++ moreObjects) (variableIds ++ moreVariables))
    (hobjects : objects.length = objectIds.length)
    (hentries : entries.map (fun entry => entry.1.reference.nodeId) = variableIds)
    (calls : List Call) :
    Ready (context.grown objects objectIds entries calls) moreObjects moreVariables where
  active := hready.active
  dirty := hready.dirty
  objects := by simp [Context.grown, hready.objects, hobjects]
  tags := by simp [Context.grown, hready.tags, tagRecords]
  types := by simp [Context.grown, hready.types, tagRecords]
  objectRoom := by
    have hroom := hready.objectRoom
    simp only [List.length_append] at hroom
    simp only [Context.grown, List.length_append, hobjects]
    omega
  tagRoom := by
    have hroom := hready.tagRoom
    have hlength : entries.length = variableIds.length := by simp [← hentries]
    simp only [List.length_append] at hroom
    simp only [Context.grown, List.length_append, tagRecords, List.length_mapIdx, hlength]
    omega
  newObjects := by simpa [Context.grown] using hready.newObjects
  newTags := by simpa [Context.grown, hentries] using hready.newTags

/-- There is room for the rest after one object. -/
theorem Ready.afterObject {nodeId : NodeId} (hready : Ready context (nodeId :: moreObjects) variableIds)
    (equipment : Equipment) (calls : List Call) :
    Ready (context.grown [equipment] [nodeId] [] calls) moreObjects variableIds := by
  have hsplit : Ready context ([nodeId] ++ moreObjects) ([] ++ variableIds) := hready
  exact hsplit.right rfl rfl calls

/-- There is room for the rest after one variable. -/
theorem Ready.afterLeaf {node : VariableNode}
    (hready : Ready context objectIds (node.reference.nodeId :: moreVariables))
    (owner : Option ℕ) (calls : List Call) :
    Ready (context.grown [] [] [(node, owner)] calls) objectIds moreVariables := by
  have hsplit : Ready context ([] ++ objectIds) ([node.reference.nodeId] ++ moreVariables) := hready
  exact hsplit.right rfl rfl calls

/-- Requests do not matter. -/
theorem Ready.asked (hready : Ready context objectIds variableIds) (calls : List Call) :
    Ready { context with calls } objectIds variableIds :=
  ⟨hready.active, hready.dirty, hready.objects, hready.tags, hready.types, hready.objectRoom,
    hready.tagRoom, hready.newObjects, hready.newTags⟩

/-! ## One node -/

/-- A read that applies the properties one by one, with requests in between. -/
theorem foldProperties_record (hplain : ∀ calls, env.newBrowseDescription calls = true)
    {nodeId : NodeId} {properties : List PropertyNode}
    (hserves : Delivers env (propertyDescription nodeId) (properties.map PropertyNode.reference))
    {α : Type} {visit : α × Context → ReferenceDescription → α × Context}
    {apply : α → PropertyNode → α}
    (hvisit : ∀ property ∈ properties, ∀ record context, ∃ calls,
      visit (record, context) property.reference = (apply record property, { context with calls }))
    (record : α) (context : Context) :
    ∃ calls, foldProperties env visit nodeId record context =
      (properties.foldl apply record, { context with calls }) := by
  have hfold : ∀ (rest : List PropertyNode), (∀ property ∈ rest, property ∈ properties) →
      ∀ record context, ∃ calls,
        (rest.map PropertyNode.reference).foldl visit (record, context) =
          (rest.foldl apply record, { context with calls }) := by
    intro rest hrest
    induction rest with
    | nil => exact fun record context => ⟨context.calls, rfl⟩
    | cons property rest ih =>
        intro record context
        obtain ⟨asked, hone⟩ := hvisit property (hrest property List.mem_cons_self) record context
        obtain ⟨calls, hlater⟩ := ih (fun other hother => hrest other (List.mem_cons_of_mem _ hother))
          (apply record property) { context with calls := asked }
        exact ⟨calls, by rw [List.map_cons, List.foldl_cons, hone, hlater]; rfl⟩
  obtain ⟨calls, hread⟩ := hfold properties (fun _ hmem => hmem) record
    ((context.record .newBrowseDescription).record (.browse (propertyDescription nodeId)))
  refine ⟨calls, ?_⟩
  change _ = (properties.foldl apply record, { context with calls }) at hread
  rw [foldProperties, if_neg (by simp [hplain])]
  simpa [hserves _] using hread

/-- Reading the properties of an object. -/
theorem readObjectMetadata_record (hplain : ∀ calls, env.newBrowseDescription calls = true)
    {nodeId : NodeId} {properties : List PropertyNode}
    (hserves : ServesProperties env nodeId properties) (equipment : Equipment) (context : Context) :
    ∃ calls, readObjectMetadata env nodeId equipment context =
      (properties.foldl applyObjectProperty equipment, { context with calls }) := by
  refine foldProperties_record hplain hserves.1 (fun property hmem equipment context => ?_)
    equipment context
  simp only [readObjectProperty, applyObjectProperty, hserves.2 property hmem context.calls]
  split
  · exact ⟨context.calls, rfl⟩
  · cases property.answer.2.asString with
    | none => exact ⟨_, rfl⟩
    | some entityKind =>
        dsimp only
        split <;> exact ⟨_, rfl⟩

/-- Reading the properties of a variable. -/
theorem readVariableMetadata_record (hplain : ∀ calls, env.newBrowseDescription calls = true)
    {nodeId : NodeId} {properties : List PropertyNode}
    (hserves : ServesProperties env nodeId properties) (tag : Tag) (context : Context) :
    ∃ calls, readVariableMetadata env nodeId tag context =
      (properties.foldl applyTagProperty tag, { context with calls }) := by
  refine foldProperties_record hplain hserves.1 (fun property hmem tag context => ?_) tag context
  simp only [readVariableProperty, applyTagProperty, hserves.2 property hmem context.calls]
  split <;> exact ⟨_, rfl⟩

/-- A change in the middle of a structure update is noted already. -/
theorem markStructureChanged_of_dirty {model : DataModel} (hactive : model.structureUpdateActive = true)
    (hdirty : model.structureDirty = true) : model.markStructureChanged = model := by
  rw [markStructureChanged, if_pos hactive, ← hdirty]

/-- A variable that is new gets its record. -/
theorem addVariable_record (hplain : ∀ calls, env.newBrowseDescription calls = true)
    {node : VariableNode} (hserved : node.Served env) (owner : ℕ)
    (hready : Ready context [] [node.reference.nodeId]) :
    ∃ calls, addVariable env node.reference owner context =
      (.good, context.grown [] [] [(node, some owner)] calls) := by
  have hnew : node.reference.nodeId ∉ context.tagNodeIds := by
    have hnodup := hready.newTags
    rw [List.nodup_append] at hnodup
    exact fun hmem => hnodup.2.2 _ hmem _ (List.mem_singleton_self _) rfl
  have hroom := hready.tagRoom
  rw [List.length_singleton] at hroom
  obtain ⟨asked, hvalue⟩ : ∃ calls, readInitialValue env node.reference.nodeId
      (tagOf node.reference owner node.dataType node.accessLevel)
      ((context.record (.readDataType node.reference.nodeId)).record
        (.readUserAccessLevel node.reference.nodeId)) =
      (node.initialTag owner, { context with calls }) := by
    simp only [readInitialValue, VariableNode.initialTag, hserved.value]
    by_cases hreadable :
        (tagOf node.reference owner node.dataType node.accessLevel).readable = true
    · rw [if_pos hreadable]
      by_cases hgood : node.value.1 = .good
      · rw [if_pos hgood, if_pos ⟨hreadable, hgood⟩]
        exact ⟨_, rfl⟩
      · rw [if_neg hgood, if_neg fun h => hgood h.2]
        exact ⟨_, rfl⟩
    · rw [if_neg hreadable, if_neg fun h => hreadable h.1]
      exact ⟨_, rfl⟩
  obtain ⟨calls, hmetadata⟩ := readVariableMetadata_record hplain hserved.properties
    (node.initialTag owner) { context with calls := asked }
  refine ⟨calls, ?_⟩
  have hunmapped : ¬(findMappedNodeId context.tagNodeIds node.reference.nodeId).isSome = true :=
    mt findMappedNodeId_isSome_iff.mp hnew
  have hadded : (context.dataModel.addTag (some (node.tag owner))).model =
      { context.dataModel with
        tags := context.dataModel.tags ++ [tagRecord context.dataModel.tags.length (node, some owner)] } := by
    rw [addTag, if_neg (by omega)]
    exact markStructureChanged_of_dirty hready.active hready.dirty
  have hindex : (context.dataModel.addTag (some (node.tag owner))).index =
      some context.dataModel.tags.length :=
    addTag_index_eq_some_iff.mpr ⟨by omega, rfl⟩
  have hcode : ¬((context.dataModel.addTag (some (node.tag owner))).code ≠ .ok ∨
      context.configuration.maximumTags ≤ context.dataModel.tags.length) := by
    rw [addTag_code_of_room (by omega)]
    simp
    omega
  have htag : node.properties.foldl applyTagProperty (node.initialTag owner) = node.tag owner := rfl
  simp only [addVariable, hserved.dataType, hserved.access, hvalue, hmetadata, htag]
  rw [if_neg hunmapped]
  simp only [ne_eq, not_true_eq_false, if_false, hindex, hadded, if_neg hcode]
  have hids : storeLast context.tagNodeIds context.dataModel.tags.length .null node.reference.nodeId =
      context.tagNodeIds ++ [node.reference.nodeId] := by
    rw [← hready.tags, storeLast_length]
  have htypes : storeLast context.tagBuiltinTypeIndices context.dataModel.tags.length none
      (mapBuiltinTypeIndex node.dataType) =
        context.tagBuiltinTypeIndices ++ [mapBuiltinTypeIndex node.dataType] := by
    rw [← hready.types, storeLast_length]
  simp [Context.grown, tagRecords, hids, htypes]

/-- An object that is new gets its record before its children are browsed. -/
theorem addObject_record (hplain : ∀ calls, env.newBrowseDescription calls = true)
    {reference : ReferenceDescription} {properties : List PropertyNode}
    (hserves : ServesProperties env reference.nodeId properties) (browse : Browse)
    (parentIndex : Option ℕ) (hready : Ready context [reference.nodeId] []) :
    ∃ calls, addObject env browse reference parentIndex context =
      browse reference.nodeId (some context.dataModel.equipment.length)
        (context.grown
          [{ objectRecord reference properties parentIndex with
             index := some context.dataModel.equipment.length }]
          [reference.nodeId] [] calls) := by
  have hroom := hready.objectRoom
  rw [List.length_singleton] at hroom
  obtain ⟨calls, hmetadata⟩ := readObjectMetadata_record hplain hserves
    (equipmentOf reference parentIndex) context
  refine ⟨calls, ?_⟩
  have hadded : (context.dataModel.addEquipment
      (some (objectRecord reference properties parentIndex))).model =
        { context.dataModel with
          equipment := context.dataModel.equipment ++
            [{ objectRecord reference properties parentIndex with
               index := some context.dataModel.equipment.length }] } := by
    rw [addEquipment, if_neg (by omega)]
    exact markStructureChanged_of_dirty hready.active hready.dirty
  have hindex : (context.dataModel.addEquipment
      (some (objectRecord reference properties parentIndex))).index =
        some context.dataModel.equipment.length :=
    addEquipment_index_eq_some_iff.mpr ⟨by omega, rfl⟩
  have hcode : ¬((context.dataModel.addEquipment
      (some (objectRecord reference properties parentIndex))).code ≠ .ok ∨
        context.configuration.maximumEquipmentObjects ≤ context.dataModel.equipment.length) := by
    rw [addEquipment_code_of_room (by omega)]
    simp
    omega
  have hids : storeLast context.equipmentNodeIds context.dataModel.equipment.length .null
      reference.nodeId = context.equipmentNodeIds ++ [reference.nodeId] := by
    rw [← hready.objects, storeLast_length]
  have hrecord : properties.foldl applyObjectProperty (equipmentOf reference parentIndex) =
      objectRecord reference properties parentIndex := rfl
  simp only [addObject, hmetadata, hrecord, hindex, hadded, if_neg hcode, hids]
  simp [Context.grown, tagRecords]

/-- A browse that yields all references at once. -/
theorem browseChildren_delivers (hplain : ∀ calls, env.newBrowseDescription calls = true)
    {nodeId : NodeId} {references : List ReferenceDescription}
    (hdelivers : Delivers env (childDescription nodeId) references) (remaining : ℕ)
    (parentIndex : Option ℕ) (context : Context) :
    ∃ calls, browseChildren env (remaining + 1) nodeId parentIndex context =
      processReferences env (browseChildren env remaining) parentIndex references
        { context with calls } := by
  refine ⟨.browse (childDescription nodeId) :: .newBrowseDescription :: context.calls, ?_⟩
  rw [browseChildren]
  simp only [hplain, hdelivers _, Bool.true_eq_false, if_false, processPage, processChildReferences,
    browsePages, ne_eq, not_true_eq_false, if_true]
  rfl

/-! ## A plant -/

/-- The references of a node, of which the first is handled well. -/
theorem processReferences_cons {browse : Browse} {parentIndex : Option ℕ}
    {reference : ReferenceDescription} {middle : Context}
    (hone : processReference env browse parentIndex reference context = (.good, middle))
    (references : List ReferenceDescription) :
    processReferences env browse parentIndex (reference :: references) context =
      processReferences env browse parentIndex references middle := by
  rw [processReferences, hone]
  rfl

theorem processReference_ignorable {parentIndex : Option ℕ} {reference : ReferenceDescription}
    (hignorable : Ignorable parentIndex.isSome reference) (browse : Browse) (context : Context) :
    processReference env browse parentIndex reference context = (.good, context) := by
  unfold processReference
  rcases hignorable with hserver | ⟨hstandard, hother⟩ | ⟨hcustom, hother | ⟨hvariable, hnone⟩⟩
  · rw [if_pos hserver]
  · split
    · rfl
    · rw [if_pos hstandard, if_neg hother]
  · split
    · rfl
    · rw [if_neg hcustom, hother]
  · split
    · rfl
    · rw [if_neg hcustom, hvariable]
      cases parentIndex with
      | none => rfl
      | some owner => exact if_pos (hnone.resolve_left (by simp))

theorem processReference_folder {parentIndex : Option ℕ} {reference : ReferenceDescription}
    (hfolder : reference.serverIndex = 0 ∧ reference.nodeId.namespaceIndex = 0 ∧
      reference.nodeClass = .object ∧ reference.nodeId ≠ .server) (browse : Browse)
    (context : Context) :
    processReference env browse parentIndex reference context =
      browse reference.nodeId parentIndex context := by
  obtain ⟨hserver, hstandard, hclass, hother⟩ := hfolder
  unfold processReference
  rw [if_neg (not_not.mpr hserver), if_pos hstandard, if_pos ⟨hclass, hother⟩]

theorem processReference_object {parentIndex : Option ℕ} {reference : ReferenceDescription}
    (hobject : reference.serverIndex = 0 ∧ reference.nodeId.namespaceIndex ≠ 0 ∧
      reference.nodeClass = .object) (browse : Browse)
    (hready : Ready context [reference.nodeId] []) :
    processReference env browse parentIndex reference context =
      addObject env browse reference parentIndex context := by
  obtain ⟨hserver, hcustom, hclass⟩ := hobject
  have hnew : ¬(findMappedNodeId context.equipmentNodeIds reference.nodeId).isSome = true := by
    rw [findMappedNodeId_isSome_iff]
    have hnodup := hready.newObjects
    rw [List.nodup_append] at hnodup
    exact fun hmem => hnodup.2.2 _ hmem _ (List.mem_singleton_self _) rfl
  unfold processReference
  rw [if_neg (not_not.mpr hserver), if_neg hcustom, hclass]
  exact if_neg hnew

theorem processReference_leaf {reference : ReferenceDescription} {owner : ℕ}
    (hleaf : reference.serverIndex = 0 ∧ reference.nodeId.namespaceIndex ≠ 0 ∧
      reference.nodeClass = .variable ∧ reference.referenceTypeId ≠ .hasProperty) (browse : Browse)
    (context : Context) :
    processReference env browse (some owner) reference context =
      addVariable env reference owner context := by
  obtain ⟨hserver, hcustom, hclass, hproperty⟩ := hleaf
  unfold processReference
  rw [if_neg (not_not.mpr hserver), if_neg hcustom, hclass]
  exact if_neg hproperty

/-- The records of a plant after others. -/
theorem Context.grown_withPlant (plant : Plant) (parentIndex : Option ℕ) (more : List Call) :
    (context.grown objects objectIds entries calls).withPlant plant parentIndex more =
      context.grown
        (objects ++ plant.objects parentIndex (context.dataModel.equipment.length + objects.length))
        (objectIds ++ plant.objectIds)
        (entries ++ plant.owned parentIndex (context.dataModel.equipment.length + objects.length))
        more := by
  have hlength : (context.grown objects objectIds entries calls).dataModel.equipment.length =
      context.dataModel.equipment.length + objects.length := by
    simp [Context.grown]
  rw [Context.withPlant, hlength, Context.grown_grown]

theorem Context.withPlant_withPlant (first second : Plant) (parentIndex : Option ℕ)
    (more : List Call) :
    (context.withPlant first parentIndex calls).withPlant second parentIndex more =
      context.grown
        (first.objects parentIndex context.dataModel.equipment.length ++
          second.objects parentIndex
            (context.dataModel.equipment.length + first.objectIds.length))
        (first.objectIds ++ second.objectIds)
        (first.owned parentIndex context.dataModel.equipment.length ++
          second.owned parentIndex (context.dataModel.equipment.length + first.objectIds.length))
        more := by
  rw [← first.objects_length parentIndex context.dataModel.equipment.length]
  exact context.grown_withPlant second parentIndex more

/-- Browsing the children of a node, given how their references are handled one level down. -/
theorem browseChildren_records (hplain : ∀ calls, env.newBrowseDescription calls = true)
    {nodeId : NodeId} {children : Plant}
    (hdelivers : Delivers env (childDescription nodeId) children.references) {remaining : ℕ}
    (hlevels : children.levels + 1 ≤ remaining) {parentIndex : Option ℕ} {middle : Context}
    (hready : Ready middle children.objectIds children.variableIds)
    (hchildren : ∀ remaining context, children.levels ≤ remaining →
      Ready context children.objectIds children.variableIds →
      ∃ calls, processReferences env (browseChildren env remaining) parentIndex children.references
        context = (.good, context.withPlant children parentIndex calls)) :
    ∃ calls, browseChildren env remaining nodeId parentIndex middle =
      (.good, middle.withPlant children parentIndex calls) := by
  obtain ⟨below, rfl⟩ : ∃ below, remaining = below + 1 := ⟨remaining - 1, by omega⟩
  obtain ⟨asked, hbrowse⟩ := browseChildren_delivers hplain hdelivers below parentIndex middle
  obtain ⟨calls, hrecords⟩ := hchildren below { middle with calls := asked } (by omega)
    (hready.asked asked)
  exact ⟨calls, hbrowse.trans hrecords⟩

/-- **The records of a plant.**  Handling the references of a node adds the records of all that is
below it. -/
theorem Plant.records (hplain : ∀ calls, env.newBrowseDescription calls = true) (plant : Plant)
    (hserved : plant.Served env) (remaining : ℕ) (parentIndex : Option ℕ) (context : Context)
    (hplaced : plant.WellPlaced parentIndex.isSome) (hlevels : plant.levels ≤ remaining)
    (hready : Ready context plant.objectIds plant.variableIds) :
    ∃ calls, processReferences env (browseChildren env remaining) parentIndex plant.references
      context = (.good, context.withPlant plant parentIndex calls) := by
  induction plant generalizing remaining parentIndex context with
  | nil =>
      exact ⟨context.calls, by simp [references, processReferences, Context.withPlant, Context.grown,
        objects, objectIds, owned, tagRecords]⟩
  | ignored reference rest ih =>
      obtain ⟨calls, hrest⟩ := ih hserved remaining parentIndex context hplaced.2 hlevels hready
      refine ⟨calls, ?_⟩
      rw [references, processReferences_cons (processReference_ignorable hplaced.1 _ context), hrest]
      rfl
  | folder reference children rest ihChildren ih =>
      obtain ⟨hdelivers, hchildren, hafter⟩ := hserved
      obtain ⟨hfolder, hchildrenPlaced, hrestPlaced⟩ := hplaced
      obtain ⟨hbelow, hbeside⟩ := max_le_iff.mp hlevels
      obtain ⟨before, hbrowse⟩ := browseChildren_records hplain hdelivers hbelow hready.left
        fun remaining context hlevels hready =>
          ihChildren hchildren remaining parentIndex context hchildrenPlaced hlevels hready
      have hrestReady : Ready (context.withPlant children parentIndex before) rest.objectIds
          rest.variableIds :=
        hready.right (children.objects_length ..) (children.owned_ids ..) before
      obtain ⟨calls, hrest⟩ := ih hafter remaining parentIndex _ hrestPlaced hbeside hrestReady
      refine ⟨calls, ?_⟩
      rw [references, processReferences_cons ((processReference_folder hfolder _ _).trans hbrowse),
        hrest, Context.withPlant_withPlant]
      rfl
  | object reference properties children rest ihChildren ih =>
      obtain ⟨hproperties, hdelivers, hchildren, hafter⟩ := hserved
      obtain ⟨hobject, hchildrenPlaced, hrestPlaced⟩ := hplaced
      obtain ⟨hbelow, hbeside⟩ := max_le_iff.mp hlevels
      have hall : Ready context ((reference.nodeId :: children.objectIds) ++ rest.objectIds)
          (children.variableIds ++ rest.variableIds) := hready
      have hnew : Ready context [reference.nodeId] [] := by
        have hfirst : Ready context ([reference.nodeId] ++ children.objectIds)
          ([] ++ children.variableIds) := hall.left
        exact hfirst.left
      obtain ⟨added, hadd⟩ := addObject_record hplain hproperties (browseChildren env remaining)
        parentIndex hnew
      -- the children are browsed once the object has its record
      have hchildrenReady := hall.left.afterObject
        { objectRecord reference properties parentIndex with
          index := some context.dataModel.equipment.length } added
      obtain ⟨before, hbrowse⟩ := browseChildren_records hplain hdelivers hbelow hchildrenReady
        fun remaining context hlevels hready => ihChildren hchildren remaining
          (some _) context hchildrenPlaced hlevels hready
      rw [Context.grown_withPlant] at hbrowse
      have hone := ((processReference_object hobject _ hnew).trans hadd).trans hbrowse
      have hlength : ∀ (equipment : Equipment) next, (equipment ::
          children.objects (some context.dataModel.equipment.length) next).length =
            (reference.nodeId :: children.objectIds).length := by
        intro equipment next
        rw [List.length_cons, List.length_cons, children.objects_length]
      obtain ⟨calls, hrest⟩ := ih hafter remaining parentIndex _ hrestPlaced hbeside
        (hall.right (hlength _ _) (children.owned_ids ..) before)
      refine ⟨calls, ?_⟩
      rw [references, processReferences_cons hone]
      refine hrest.trans ?_
      rw [Context.grown_withPlant, hlength]
      rfl
  | leaf node rest ih =>
      obtain ⟨hnode, hafter⟩ := hserved
      obtain ⟨⟨hbelow, hleaf⟩, hrestPlaced⟩ := hplaced
      obtain ⟨owner, rfl⟩ := Option.isSome_iff_exists.mp hbelow
      have hnew : Ready context ([] ++ rest.objectIds)
        ([node.reference.nodeId] ++ rest.variableIds) := hready
      obtain ⟨before, hone⟩ := addVariable_record hplain hnode owner hnew.left
      obtain ⟨calls, hrest⟩ := ih hafter remaining (some owner) _ hrestPlaced hlevels
        (hready.afterLeaf (some owner) before)
      refine ⟨calls, ?_⟩
      rw [references, processReferences_cons ((processReference_leaf hleaf _ _).trans hone), hrest,
        Context.grown_withPlant]
      rfl

end

end CrowPanel.OpcUa
