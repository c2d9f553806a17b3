import CrowPanel.OpcUa.Plant

/-!
# The address space of the simulator

`_build_address_space` turns the configuration file into objects, variables and properties.  The panel
knows nothing of that file: it discovers the address space, whatever the server has below the Objects
folder besides.

The nodes of the server are numbered in the order in which they are made, and the references of a node
come in that order.  A function that makes nodes takes the number of the next node and hands back the
one after its own.

## Strategy

What is built is a plant of `OpcUa.Plant`, an object with objects below it and variables below these.
The records of such a plant are computed from the lists of its nodes (`equipmentPlant_objects`,
`equipmentPlant_owned`), and the properties put the configuration of a signal back together
(`describe_tag`).  The numbers grow (`Numbered`), so the nodes are different.
-/

namespace CrowPanel.Simulator

open Library DataModel OpcUa

/-! ## The configuration -/

/-- The part of a signal or a command that is published; bounds are given as a `Float` of OPC UA. -/
structure SignalConfiguration where
  browseName : Text
  engineeringUnit : Option Text := none
  semanticRole : Option Text := none
  minimum : Option Double := none
  maximum : Option Double := none

/-- The part of an object that is published. -/
structure ObjectConfiguration where
  browseName : Text
  entityKind : Option Text := none

/-- An entry of `compressors`. -/
structure CompressorEntry where
  object : ObjectConfiguration
  temperature : SignalConfiguration
  motorCurrent : SignalConfiguration
  runtime : SignalConfiguration
  runStatus : SignalConfiguration
  runCommand : SignalConfiguration
  automaticMode : SignalConfiguration
  alarmStatus : SignalConfiguration
  sensorFaultCommand : SignalConfiguration

/-- The part of `equipment_configuration` that is published. -/
structure PublishedConfiguration where
  station : ObjectConfiguration
  resetAlarms : SignalConfiguration
  compressors : List CompressorEntry
  receiver : ObjectConfiguration
  receiverPressure : SignalConfiguration
  dryer : ObjectConfiguration
  dryerStatus : SignalConfiguration
  airNetwork : ObjectConfiguration
  networkPressure : SignalConfiguration
  airDemand : SignalConfiguration
  totalPower : SignalConfiguration

/-! ## The server -/

/-- `ua.ObjectIds.BaseObjectType` -/
abbrev baseObjectType : NodeId := .ns0 58

/-- A reference leads to a node of the same server, of this class and under this name. -/
structure LeadsTo (reference : ReferenceDescription) (nodeId : NodeId) (nodeClass : NodeClass)
    (browseName : Text) : Prop where
  nodeId : reference.nodeId = nodeId
  nodeClass : reference.nodeClass = nodeClass
  browseName : reference.browseName = some browseName
  serverIndex : reference.serverIndex = 0

/-- The OPC UA library: what it makes of the calls that add a node, given the number of the node, and
the nodes of the standard below the Objects folder, which have nothing below them that is of use to the
panel.  The laws are what the simulator relies on. -/
structure Asyncua where
  /-- the NodeIds that it chooses, which are different as long as there are enough numbers -/
  nodeId : ℕ → NodeId
  limit : ℕ
  /-- the reference to the object that `add_object` makes -/
  addObject : ℕ → Text → ReferenceDescription
  /-- the variable that `add_variable` makes -/
  addVariable : ℕ → Text → BuiltinType → VariableNode
  /-- the access level after `set_writable` -/
  setWritable : UInt8 → UInt8
  /-- the property that `add_property` makes -/
  addProperty : ℕ → Text → Variant → PropertyNode
  standard : List ReferenceDescription
  distinct : ∀ number < limit, ∀ other < limit, nodeId number = nodeId other → number = other
  custom : ∀ number, (nodeId number).namespaceIndex ≠ 0
  object : ∀ number name, LeadsTo (addObject number name) (nodeId number) .object name
  object_type : ∀ number name, (addObject number name).typeDefinition = baseObjectType
  signal : ∀ number name type,
    LeadsTo (addVariable number name type).reference (nodeId number) .variable name
  signal_reference : ∀ number name type,
    (addVariable number name type).reference.referenceTypeId = .hasComponent
  signal_type : ∀ number name type, (addVariable number name type).dataType = type.typeId
  signal_access : ∀ number name type, (addVariable number name type).accessLevel &&& 1 ≠ 0 ∧
    (addVariable number name type).accessLevel &&& 2 = 0
  signal_properties : ∀ number name type, (addVariable number name type).properties = []
  writable_access : ∀ accessLevel, setWritable accessLevel &&& 1 = accessLevel &&& 1 ∧
    setWritable accessLevel &&& 2 ≠ 0
  property : ∀ number name value,
    LeadsTo (addProperty number name value).reference (nodeId number) .variable name
  property_reference : ∀ number name value,
    (addProperty number name value).reference.referenceTypeId = .hasProperty
  property_value : ∀ number name value, (addProperty number name value).answer = (.good, value)
  standard_namespace : ∀ reference ∈ standard, reference.nodeId.namespaceIndex = 0

/-- A variable with its type and the right to write it. -/
structure SignalEntry where
  configuration : SignalConfiguration
  type : BuiltinType
  writable : Bool := false

/-- An object below the station with its variables. -/
structure EquipmentEntry where
  object : ObjectConfiguration
  signals : List SignalEntry

/-- An object that has been made. -/
structure EquipmentNode where
  reference : ReferenceDescription
  properties : List PropertyNode
  variableNodes : List VariableNode

section

variable (library : Asyncua)

/-- `_add_float_variable` -/
def floatVariable (configuration : SignalConfiguration) (writable : Bool) : SignalEntry :=
  ⟨configuration, .float, writable⟩

/-- `_add_boolean_variable` -/
def booleanVariable (configuration : SignalConfiguration) (writable : Bool) : SignalEntry :=
  ⟨configuration, .boolean, writable⟩

/-- `_add_compressor` -/
def CompressorEntry.equipment (entry : CompressorEntry) : EquipmentEntry where
  object := entry.object
  signals :=
    [floatVariable entry.temperature false, floatVariable entry.motorCurrent false,
      floatVariable entry.runtime false, booleanVariable entry.runStatus false,
      booleanVariable entry.runCommand true, booleanVariable entry.automaticMode true,
      booleanVariable entry.alarmStatus false, booleanVariable entry.sensorFaultCommand true]

/-- The objects below the station in the order of `_build_address_space`. -/
def PublishedConfiguration.equipment (configuration : PublishedConfiguration) : List EquipmentEntry :=
  configuration.compressors.map CompressorEntry.equipment ++
    [⟨configuration.receiver, [floatVariable configuration.receiverPressure false]⟩,
      ⟨configuration.dryer, [booleanVariable configuration.dryerStatus false]⟩,
      ⟨configuration.airNetwork,
        [floatVariable configuration.networkPressure false, floatVariable configuration.airDemand false,
          floatVariable configuration.totalPower false]⟩]

/-- Variables beside others; their properties are below them. -/
def leaves (nodes : List VariableNode) (rest : Plant) : Plant :=
  nodes.foldr Plant.leaf rest

end

/-! ## The records of what is built -/

section

variable (nodes : List VariableNode) (equipment : List EquipmentNode) (rest : Plant)
  (parentIndex : Option ℕ) (next : ℕ)

/-- The NodeIds of the variables of an object. -/
def EquipmentNode.variableIds (node : EquipmentNode) : List NodeId :=
  node.variableNodes.map fun variableNode => variableNode.reference.nodeId

end

/-! ## Signals -/

/-- What the panel knows of a tag besides its names for it and its value. -/
structure TagDescription where
  owner : Option ℕ
  browseName : CharArray nameLength
  dataType : DataType
  readable : Bool
  writable : Bool
  engineeringUnit : CharArray unitLength
  semanticRole : CharArray semanticRoleLength
  minimum : Option Double
  maximum : Option Double

def describe (tag : Tag) : TagDescription where
  owner := tag.equipmentIndex
  browseName := tag.browseName
  dataType := tag.dataType
  readable := tag.readable
  writable := tag.writable
  engineeringUnit := tag.engineeringUnit
  semanticRole := tag.semanticRole
  minimum := if tag.hasMinimum then some tag.minimum else none
  maximum := if tag.hasMaximum then some tag.maximum else none

/-- A text in a buffer of the panel; what is missing is an empty text. -/
def stored (size : ℕ) [NeZero size] (text : Option Text) : CharArray size :=
  .ofText size (text.getD [])

/-- A signal of the object with an index, as the configuration has it. -/
def SignalEntry.description (signal : SignalEntry) (owner : ℕ) : TagDescription where
  owner := some owner
  browseName := .ofText _ signal.configuration.browseName
  dataType := mapDataType signal.type.typeId
  readable := true
  writable := signal.writable
  engineeringUnit := stored _ signal.configuration.engineeringUnit
  semanticRole := stored _ signal.configuration.semanticRole
  minimum := signal.configuration.minimum
  maximum := signal.configuration.maximum

section

variable {library : Asyncua} {tag : Tag}

end

/-! ## Numbers -/

/-- The NodeIds have different numbers from `start` on and below `stop`. -/
structure Numbered (library : Asyncua) (ids : List NodeId) (start stop : ℕ) : Prop where
  le : start ≤ stop
  numbers : ∃ numbers : List ℕ, ids = numbers.map library.nodeId ∧ numbers.Nodup ∧
    ∀ number ∈ numbers, start ≤ number ∧ number < stop

section

variable {library : Asyncua} {ids others : List NodeId} {start middle stop : ℕ}

theorem Numbered.nil (hle : start ≤ stop) : Numbered library [] start stop :=
  ⟨hle, [], rfl, List.nodup_nil, by simp⟩

theorem Numbered.append (hfirst : Numbered library ids start middle)
    (hsecond : Numbered library others middle stop) : Numbered library (ids ++ others) start stop := by
  obtain ⟨hle, numbers, rfl, hnodup, hrange⟩ := hfirst
  obtain ⟨hle', numbers', rfl, hnodup', hrange'⟩ := hsecond
  refine ⟨hle.trans hle', numbers ++ numbers', (List.map_append ..).symm, ?_, ?_⟩
  · refine List.nodup_append.mpr ⟨hnodup, hnodup', fun number hnumber other hother => ?_⟩
    have hbelow := hrange number hnumber
    have habove := hrange' other hother
    omega
  · intro number hnumber
    rcases List.mem_append.mp hnumber with hold | hnew
    · have hbelow := hrange number hold
      omega
    · have habove := hrange' number hnew
      omega

/-- The node at which the numbers start. -/
theorem Numbered.single (hlt : start < stop) : Numbered library [library.nodeId start] start stop :=
  ⟨hlt.le, [start], rfl, List.nodup_singleton _, by simp [hlt]⟩

theorem Numbered.nodup (hnumbered : Numbered library ids start stop) (hstop : stop ≤ library.limit) :
    ids.Nodup := by
  obtain ⟨-, numbers, rfl, hnodup, hrange⟩ := hnumbered
  refine hnodup.map_on fun number hnumber other hother hsame => ?_
  exact library.distinct number ((hrange number hnumber).2.trans_le hstop) other
    ((hrange other hother).2.trans_le hstop) hsame

end

section

variable (library : Asyncua)

end

/-! ## Objects -/

/-- What the panel knows of an object besides its names for it: its own name, its parent, and its kind
if the server gives one. -/
structure ObjectDescription where
  browseName : CharArray nameLength
  parentIndex : Option ℕ
  kind : Option EntityKind

/-- An object as the configuration has it; a kind that the panel does not know is none. -/
def ObjectConfiguration.description (configuration : ObjectConfiguration) (parentIndex : Option ℕ) :
    ObjectDescription where
  browseName := .ofText _ configuration.browseName
  parentIndex := parentIndex
  kind :=
    let kind := parseEntityKind (stored nameLength configuration.entityKind).text
    if kind = .unknown then none else some kind

section

variable (library : Asyncua) (configuration : PublishedConfiguration)

variable {library configuration} {nodes : List EquipmentNode} {reset : VariableNode}

end

/-! ## The places of the nodes -/

section

variable {library : Asyncua}

end

/-! ## The discovery of the station -/

section

variable (library : Asyncua) (configuration : PublishedConfiguration)

end

end CrowPanel.Simulator
