import CrowPanel.DataModel.Operations
import CrowPanel.OpcUa.Service

/-!
# Address space discovery

`discover_address_space` with everything it calls.  A function returns its status code beside the
context on every path, also on the error paths.  The recursion of `browse_children` is on
`remaining`, the number of levels that the configured depth still allows: it is
`maximum_browse_depth + 1 - depth`.  The functions between two levels take the browse of the next
level as the argument `browse`.

The NodeId maps are the lists of their cells in use; the cells after them hold null NodeIds.  Copying
a NodeId succeeds.
-/

namespace CrowPanel.OpcUa

open Library DataModel

/-- The fields of `opcua_client_config_t` that bound the discovery. -/
structure ClientConfig where
  maximumEquipmentObjects : ℕ
  maximumTags : ℕ
  maximumBrowseDepth : ℕ
  deriving DecidableEq

/-- The fields of `struct opcua_client` which the discovery uses, with the requests made so far
(latest first). -/
structure Context where
  configuration : ClientConfig
  dataModel : DataModel
  equipmentNodeIds : List NodeId := []
  tagNodeIds : List NodeId := []
  tagBuiltinTypeIndices : List (Option BuiltinType) := []
  calls : List Call := []
  deriving DecidableEq

/-- Browses the children of a node for the object at an index of the model. -/
abbrev Browse := NodeId → Option ℕ → Context → StatusCode × Context

namespace Context

/-- The context after one more request. -/
def record (context : Context) (call : Call) : Context :=
  { context with calls := call :: context.calls }

/-- `clear_tag_node_ids` -/
def clearTagNodeIds (context : Context) : Context :=
  { context with tagNodeIds := [], tagBuiltinTypeIndices := [], equipmentNodeIds := [] }

end Context

/-- `find_mapped_node_id` -/
def findMappedNodeId (mappedIds : List NodeId) (candidate : NodeId) : Option ℕ :=
  mappedIds.findIdx? fun mappedId => mappedId = candidate

/-- Writes the cell at `index` and makes it the last one in use. -/
def storeLast {α : Type} (cells : List α) (index : ℕ) (blank value : α) : List α :=
  cells.takeD index blank ++ [value]

section

variable (env : Environment)

/-! ## Metadata -/

/-- `parse_entity_kind` -/
def parseEntityKind (value : Text) : EntityKind :=
  if value = ascii "System" then .system
  else if value = ascii "Process" then .process
  else if value = ascii "ActiveEquipment" then .activeEquipment
  else if value = ascii "PassiveEquipment" then .passiveEquipment
  else if value = ascii "Group" then .group
  else .unknown

/-- One property in the loop of `read_object_metadata`. -/
def readObjectProperty (state : Equipment × Context) (property : ReferenceDescription) :
    Equipment × Context :=
  let (equipment, context) := state
  if (uaStringToText nameLength property.browseName).text ≠ ascii "EntityKind" then state
  else
    let (status, value) := env.readValue context.calls property.nodeId
    let context := context.record (.readValue property.nodeId)
    match value.asString with
    | some entityKind =>
        let parsedKind := parseEntityKind (uaStringToText nameLength entityKind).text
        if status = .good ∧ parsedKind ≠ .unknown then
          ({ equipment with entityKind := parsedKind, entityKindExplicit := true }, context)
        else (equipment, context)
    | none => (equipment, context)

/-- What one property in the loop of `read_variable_metadata` does to the tag. -/
def applyVariableProperty (propertyName : Text) (propertyValue : Variant) (tag : Tag) : Tag :=
  let bound := (variantToModelValue propertyValue .float).or
    (variantToModelValue propertyValue .double)
  if (propertyName = ascii "EngineeringUnit" ∨ propertyName = ascii "EngineeringUnits") ∧
      propertyValue.asString.isSome then
    { tag with engineeringUnit := uaStringToText unitLength (propertyValue.asString.getD none) }
  else if propertyName = ascii "SemanticRole" ∧ propertyValue.asString.isSome then
    { tag with semanticRole := uaStringToText semanticRoleLength (propertyValue.asString.getD none) }
  else if propertyName = ascii "Minimum" then
    match bound with
    | some value => { tag with minimum := value.numericValue, hasMinimum := true }
    | none => tag
  else if propertyName = ascii "Maximum" then
    match bound with
    | some value => { tag with maximum := value.numericValue, hasMaximum := true }
    | none => tag
  else if propertyName = ascii "EURange" then
    match propertyValue with
    | .range low high =>
        { tag with minimum := low, maximum := high, hasMinimum := true, hasMaximum := true }
    | _ => tag
  else tag

/-- One property in the loop of `read_variable_metadata`. -/
def readVariableProperty (state : Tag × Context) (property : ReferenceDescription) : Tag × Context :=
  let (tag, context) := state
  let (status, value) := env.readValue context.calls property.nodeId
  let context := context.record (.readValue property.nodeId)
  if status ≠ .good then (tag, context)
  else
    let propertyName := (uaStringToText nameLength property.browseName).text
    (applyVariableProperty propertyName value tag, context)

/-- The frame of `read_object_metadata` and `read_variable_metadata`: browses the properties of a
node and folds a record over the references of all results, whatever their status codes. -/
def foldProperties {α : Type} (visit : α × Context → ReferenceDescription → α × Context)
    (nodeId : NodeId) (record : α) (context : Context) : α × Context :=
  if env.newBrowseDescription context.calls = false then
    (record, context.record .newBrowseDescription)
  else
    let context := context.record .newBrowseDescription
    let response := (env.browse context.calls (propertyDescription nodeId)).first
    let context := context.record (.browse (propertyDescription nodeId))
    if response.serviceResult ≠ .good then (record, context)
    else (response.results.flatMap BrowseResult.references).foldl visit (record, context)

/-- `read_object_metadata` -/
def readObjectMetadata (objectNodeId : NodeId) (equipment : Equipment) (context : Context) :
    Equipment × Context :=
  foldProperties env (readObjectProperty env) objectNodeId equipment context

/-- `read_variable_metadata` -/
def readVariableMetadata (variableNodeId : NodeId) (tag : Tag) (context : Context) : Tag × Context :=
  foldProperties env (readVariableProperty env) variableNodeId tag context

/-! ## Objects and variables -/

/-- The display name of a reference, or its browse name where that is empty. -/
def displayNameOf (reference : ReferenceDescription) : CharArray nameLength :=
  let displayName := uaStringToText nameLength reference.displayName
  if displayName.text = [] then uaStringToText nameLength reference.browseName else displayName

/-- The reference kind that `process_child_references` gives to a new object. -/
def referenceKindOf (reference : ReferenceDescription) (parentEquipmentIndex : Option ℕ) :
    ReferenceKind :=
  if parentEquipmentIndex = none then .root
  else if reference.referenceTypeId = .organizes then .organizes
  else if reference.referenceTypeId = .hasComponent ∨
      reference.referenceTypeId = .hasOrderedComponent then .component
  else .unknown

/-- The record of a new object before its metadata is read. -/
def equipmentOf (reference : ReferenceDescription) (parentEquipmentIndex : Option ℕ) : Equipment :=
  let isFolder := reference.typeDefinition = .folderType
  { parentIndex := parentEquipmentIndex
    nodeId := reference.nodeId.text
    typeDefinitionId := reference.typeDefinition.text
    browseName := uaStringToText nameLength reference.browseName
    displayName := displayNameOf reference
    referenceKind := referenceKindOf reference parentEquipmentIndex
    entityKind := if isFolder then .group else .unknown
    entityKindExplicit := isFolder }

/-- The branch of `process_child_references` for an object which is not mapped yet. -/
def addObject (browse : Browse) (reference : ReferenceDescription)
    (parentEquipmentIndex : Option ℕ) (context : Context) : StatusCode × Context :=
  let childNodeId := reference.nodeId
  let (equipment, context) :=
    readObjectMetadata env childNodeId (equipmentOf reference parentEquipmentIndex) context
  let added := context.dataModel.addEquipment (some equipment)
  let context := { context with dataModel := added.model }
  match added.index with
  | none => (.badOutOfMemory, context)
  | some equipmentIndex =>
      if added.code ≠ .ok ∨ context.configuration.maximumEquipmentObjects ≤ equipmentIndex then
        (.badOutOfMemory, context)
      else
        browse childNodeId (some equipmentIndex)
          { context with
            equipmentNodeIds :=
              storeLast context.equipmentNodeIds equipmentIndex .null childNodeId }

/-- The record of a new tag before its value and its metadata are read. -/
def tagOf (reference : ReferenceDescription) (equipmentIndex : ℕ) (dataTypeId : NodeId)
    (accessLevel : UInt8) : Tag :=
  { equipmentIndex := some equipmentIndex
    dataType := mapDataType dataTypeId
    readable := accessLevel &&& 1 ≠ 0
    writable := accessLevel &&& 2 ≠ 0
    nodeId := reference.nodeId.text
    browseName := uaStringToText nameLength reference.browseName
    displayName := displayNameOf reference }

/-- The initial read of a readable tag in `add_variable`. -/
def readInitialValue (nodeId : NodeId) (tag : Tag) (context : Context) : Tag × Context :=
  if tag.readable then
    let (result, currentValue) := env.readValue context.calls nodeId
    let context := context.record (.readValue nodeId)
    if result = .good then
      let value := variantToModelValue currentValue tag.dataType
      ({ tag with valueValid := value.isSome, value := value.getD {} }, context)
    else (tag, context)
  else (tag, context)

/-- `add_variable` -/
def addVariable (reference : ReferenceDescription) (equipmentIndex : ℕ) (context : Context) :
    StatusCode × Context :=
  let nodeId := reference.nodeId
  if (findMappedNodeId context.tagNodeIds nodeId).isSome then (.good, context)
  else
    let (typeResult, dataTypeId) := env.readDataType context.calls nodeId
    let context := context.record (.readDataType nodeId)
    if typeResult ≠ .good then (typeResult, context)
    else
      let (accessResult, accessLevel) := env.readUserAccessLevel context.calls nodeId
      let context := context.record (.readUserAccessLevel nodeId)
      if accessResult ≠ .good then (accessResult, context)
      else
        let tag := tagOf reference equipmentIndex dataTypeId accessLevel
        let (tag, context) := readInitialValue env nodeId tag context
        let (tag, context) := readVariableMetadata env nodeId tag context
        let added := context.dataModel.addTag (some tag)
        let context := { context with dataModel := added.model }
        match added.index with
        | none => (.badOutOfMemory, context)
        | some tagIndex =>
            if added.code ≠ .ok ∨ context.configuration.maximumTags ≤ tagIndex then
              (.badOutOfMemory, context)
            else
              (.good,
                { context with
                  tagNodeIds := storeLast context.tagNodeIds tagIndex .null nodeId
                  tagBuiltinTypeIndices :=
                    storeLast context.tagBuiltinTypeIndices tagIndex none
                      (mapBuiltinTypeIndex dataTypeId) })

/-! ## The walk -/

/-- One reference in the loop of `process_child_references`; a `continue` is a good status. -/
def processReference (browse : Browse) (parentEquipmentIndex : Option ℕ)
    (reference : ReferenceDescription) (context : Context) : StatusCode × Context :=
  let childNodeId := reference.nodeId
  if reference.serverIndex ≠ 0 then (.good, context)
  else if childNodeId.namespaceIndex = 0 then
    if reference.nodeClass = .object ∧ childNodeId ≠ .server then
      browse childNodeId parentEquipmentIndex context
    else (.good, context)
  else
    match reference.nodeClass with
    | .object =>
        if (findMappedNodeId context.equipmentNodeIds childNodeId).isSome then (.good, context)
        else addObject env browse reference parentEquipmentIndex context
    | .variable =>
        match parentEquipmentIndex with
        | none => (.good, context)
        | some equipmentIndex =>
            if reference.referenceTypeId = .hasProperty then (.good, context)
            else addVariable env reference equipmentIndex context
    | .other => (.good, context)

/-- The loop of `process_child_references`. -/
def processReferences (browse : Browse) (parentEquipmentIndex : Option ℕ) :
    List ReferenceDescription → Context → StatusCode × Context
  | [], context => (.good, context)
  | reference :: references, context =>
      let (result, context) := processReference env browse parentEquipmentIndex reference context
      if result ≠ .good then (result, context)
      else processReferences browse parentEquipmentIndex references context

/-- `process_child_references` -/
def processChildReferences (browse : Browse) (parentEquipmentIndex : Option ℕ)
    (browseResult : BrowseResult) (context : Context) : StatusCode × Context :=
  if browseResult.statusCode ≠ .good then (browseResult.statusCode, context)
  else processReferences env browse parentEquipmentIndex browseResult.references context

/-- Processes one page of `browse_children` and copies its continuation point; the result also
carries the continuation point that the client holds then. -/
def processPage (browse : Browse) (parentEquipmentIndex : Option ℕ) (page : BrowseResult)
    (context : Context) : StatusCode × List UInt8 × Context :=
  let (result, context) := processChildReferences env browse parentEquipmentIndex page context
  if page.continuationPoint = [] then (result, [], context)
  else
    let copyResult := env.copyContinuationPoint context.calls
    let context := context.record (.copyContinuationPoint page.continuationPoint)
    if copyResult ≠ .good then (copyResult, [], context)
    else (result, page.continuationPoint, context)

/-- The rest of `browse_children` after a page: the loop over the `BrowseNext` responses and the
release of a continuation point that is left. -/
def browsePages (browse : Browse) (parentEquipmentIndex : Option ℕ) :
    List BrowseResponse → StatusCode × List UInt8 × Context → StatusCode × Context
  | pages, (result, continuationPoint, context) =>
      if continuationPoint = [] then (result, context)
      else if result ≠ .good then
        (result, context.record (.releaseContinuationPoint continuationPoint))
      else
        let context := context.record (.browseNext continuationPoint)
        match pages with
        | [] => (.badContinuationPointInvalid, context)
        | response :: pages =>
            if response.serviceResult ≠ .good then (response.serviceResult, context)
            else
              match response.results with
              | [page] =>
                  browsePages browse parentEquipmentIndex pages
                    (processPage env browse parentEquipmentIndex page context)
              | _ => (.badUnexpectedError, context)

/-- `browse_children` with `remaining` levels left. -/
def browseChildren : ℕ → Browse
  | 0, _, _, context => (.good, context)
  | remaining + 1, parentNodeId, parentEquipmentIndex, context =>
      let allocated := env.newBrowseDescription context.calls
      let context := context.record .newBrowseDescription
      if allocated = false then (.badOutOfMemory, context)
      else
        let answer := env.browse context.calls (childDescription parentNodeId)
        let context := context.record (.browse (childDescription parentNodeId))
        if answer.first.serviceResult ≠ .good then (answer.first.serviceResult, context)
        else
          match answer.first.results with
          | [page] =>
              browsePages env (browseChildren remaining) parentEquipmentIndex answer.next
                (processPage env (browseChildren remaining) parentEquipmentIndex page context)
          | _ => (.badUnexpectedError, context)

/-- `discover_address_space` -/
def discoverAddressSpace (context : Context) : StatusCode × Context :=
  let context := { context with dataModel := context.dataModel.beginStructureUpdate }
  let context := { context with dataModel := context.dataModel.clear }
  let context := context.clearTagNodeIds
  let (result, context) :=
    browseChildren env (context.configuration.maximumBrowseDepth + 1) .objectsFolder none context
  let context :=
    if result ≠ .good then
      { context with dataModel := context.dataModel.clear }.clearTagNodeIds
    else context
  (result, { context with dataModel := context.dataModel.endStructureUpdate })

end

end CrowPanel.OpcUa
