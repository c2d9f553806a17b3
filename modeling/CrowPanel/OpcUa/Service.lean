import CrowPanel.OpcUa.NodeId

/-!
# What the client exchanges with the OPC UA stack

The parts of the stack's messages that the client reads, and the requests it makes.  Server, network
and allocator are an `Environment`: it answers every request, as it likes, from the history of the
requests made before.  A statement about all environments is a statement about every server and
every order in which it returns references.

A browse is answered by a first response and by the responses to the later `BrowseNext` requests for
it.  The list of the latter is finite: the client does not return from a browse which never ends.
-/

namespace CrowPanel.OpcUa

open Library DataModel

/-- `UA_StatusCode` -/
abbrev StatusCode := UInt32

namespace StatusCode

/-- `UA_STATUSCODE_GOOD` -/
abbrev good : StatusCode := 0

/-- `UA_STATUSCODE_BADUNEXPECTEDERROR` -/
abbrev badUnexpectedError : StatusCode := 0x80010000

/-- `UA_STATUSCODE_BADOUTOFMEMORY` -/
abbrev badOutOfMemory : StatusCode := 0x80030000

/-- `UA_STATUSCODE_BADCONTINUATIONPOINTINVALID` -/
abbrev badContinuationPointInvalid : StatusCode := 0x804A0000

end StatusCode

/-! ## Values -/

/-- The entries of `UA_TYPES` that the client maps to a type of the data model. -/
inductive BuiltinType where
  | boolean
  | sByte
  | byte
  | int16
  | uInt16
  | int32
  | uInt32
  | int64
  | uInt64
  | float
  | double
  | string
  deriving DecidableEq

/-- `UA_TYPES[type].typeId` -/
def BuiltinType.typeId : BuiltinType → NodeId
  | .boolean => .ns0 1
  | .sByte => .ns0 2
  | .byte => .ns0 3
  | .int16 => .ns0 4
  | .uInt16 => .ns0 5
  | .int32 => .ns0 6
  | .uInt32 => .ns0 7
  | .int64 => .ns0 8
  | .uInt64 => .ns0 9
  | .float => .ns0 10
  | .double => .ns0 11
  | .string => .ns0 12

/-- The array `supported_types` of `map_builtin_type_index`. -/
def supportedTypes : List BuiltinType :=
  [.boolean, .sByte, .byte, .int16, .uInt16, .int32, .uInt32, .int64, .uInt64, .float, .double,
    .string]

/-- `map_builtin_type_index`; `none` is `UINT16_MAX`. -/
def mapBuiltinTypeIndex (dataTypeId : NodeId) : Option BuiltinType :=
  supportedTypes.find? fun type => dataTypeId = type.typeId

/-- `map_data_type` -/
def mapDataType (dataTypeId : NodeId) : DataType :=
  match mapBuiltinTypeIndex dataTypeId with
  | some .boolean => .boolean
  | some .float => .float
  | some .double => .double
  | some .string => .string
  | some .sByte | some .byte | some .int16 | some .uInt16 | some .int32 | some .uInt32
  | some .int64 | some .uInt64 => .integer
  | none => .unknown

/-- `UA_Variant`: a scalar of one of the types the client looks for, or anything else. -/
inductive Variant where
  | boolean (value : Bool)
  | sByte (value : Int8)
  | byte (value : UInt8)
  | int16 (value : Int16)
  | uInt16 (value : UInt16)
  | int32 (value : Int32)
  | uInt32 (value : UInt32)
  | int64 (value : Int64)
  | uInt64 (value : UInt64)
  | float (value : Double)
  | double (value : Double)
  | string (value : UaString)
  | range (low high : Double)
  | other

/-- The integer that `variant_to_model_value` stores for a scalar of an integer type. -/
def Variant.toInteger : Variant → Option ℤ
  | .sByte value => some value.toInt
  | .byte value => some value.toNat
  | .int16 value => some value.toInt
  | .uInt16 value => some value.toNat
  | .int32 value => some value.toInt
  | .uInt32 value => some value.toNat
  | .int64 value => some value.toInt
  -- the cast to `int64_t` wraps
  | .uInt64 value => some value.toInt64.toInt
  | _ => none

/-- `variant_to_model_value`; `none` where it returns false, and the value is then zeroed. -/
def variantToModelValue (variant : Variant) : DataType → Option Value
  | .boolean =>
      match variant with
      | .boolean value => some { booleanValue := value }
      | _ => none
  | .float =>
      match variant with
      | .float value => some { numericValue := value }
      | _ => none
  | .double =>
      match variant with
      | .double value => some { numericValue := value }
      | _ => none
  | .string =>
      match variant with
      | .string value => some { stringValue := uaStringToText _ value }
      | _ => none
  | .integer => variant.toInteger.map fun value => { integerValue := value }
  | .unknown => none

/-- The string in a scalar variant of type String. -/
def Variant.asString : Variant → Option UaString
  | .string value => some value
  | _ => none

/-! ## Browsing -/

/-- `UA_NodeClass`, as far as the client tells classes apart. -/
inductive NodeClass where
  | object
  | variable
  | other
  deriving DecidableEq

/-- `UA_ReferenceDescription` -/
structure ReferenceDescription where
  referenceTypeId : NodeId := .null
  nodeId : NodeId
  serverIndex : UInt32 := 0
  browseName : UaString := none
  displayName : UaString := none
  nodeClass : NodeClass
  typeDefinition : NodeId := .null
  deriving DecidableEq

/-- `UA_BrowseResult` -/
structure BrowseResult where
  statusCode : StatusCode := .good
  continuationPoint : List UInt8 := []
  references : List ReferenceDescription

/-- `UA_BrowseResponse` and `UA_BrowseNextResponse` -/
structure BrowseResponse where
  serviceResult : StatusCode := .good
  results : List BrowseResult

/-- The responses to a browse and to the `BrowseNext` requests that continue it. -/
structure BrowseAnswer where
  first : BrowseResponse
  next : List BrowseResponse := []

/-- `UA_BrowseDescription`: every browse of the client goes forward and includes subtypes. -/
structure BrowseDescription where
  nodeId : NodeId
  referenceTypeId : NodeId
  nodeClassMask : List NodeClass
  deriving DecidableEq

/-- The description in the browse of `browse_children`. -/
def childDescription (nodeId : NodeId) : BrowseDescription :=
  ⟨nodeId, .hierarchicalReferences, [.object, .variable]⟩

/-- The description in the browse of `read_object_metadata` and of `read_variable_metadata`. -/
def propertyDescription (nodeId : NodeId) : BrowseDescription :=
  ⟨nodeId, .hasProperty, [.variable]⟩

/-! ## Requests and answers -/

/-- What the client asks of the stack. -/
inductive Call where
  | newBrowseDescription
  | browse (description : BrowseDescription)
  | copyContinuationPoint (point : List UInt8)
  | browseNext (point : List UInt8)
  | releaseContinuationPoint (point : List UInt8)
  | readDataType (nodeId : NodeId)
  | readUserAccessLevel (nodeId : NodeId)
  | readValue (nodeId : NodeId)
  deriving DecidableEq

/-- The answers to the client's requests, each given the requests made before it. -/
structure Environment where
  newBrowseDescription : List Call → Bool
  browse : List Call → BrowseDescription → BrowseAnswer
  copyContinuationPoint : List Call → StatusCode
  readDataType : List Call → NodeId → StatusCode × NodeId
  readUserAccessLevel : List Call → NodeId → StatusCode × UInt8
  readValue : List Call → NodeId → StatusCode × Variant

end CrowPanel.OpcUa
