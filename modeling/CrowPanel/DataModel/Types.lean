import CrowPanel.Library.CText
import CrowPanel.Library.Double

/-!
# The records of the data model

The enumerations and records of `data_model.h`.  Character fields carry their buffer size in their
type.  An index is `none` where the source stores `DATA_MODEL_INVALID_INDEX`.
-/

namespace CrowPanel

open Library

/-- The result codes used by the panel's components. -/
inductive EspErr where
  | ok
  | fail
  | noMem
  | invalidArg
  | invalidState
  | invalidSize
  | notFound
  | timeout
  deriving DecidableEq

namespace DataModel

/-- `DATA_MODEL_NAME_LENGTH` -/
abbrev nameLength : ℕ := 64

/-- `DATA_MODEL_NODE_ID_LENGTH` -/
abbrev nodeIdLength : ℕ := 128

/-- `DATA_MODEL_STRING_VALUE_LENGTH` -/
abbrev stringValueLength : ℕ := 96

/-- `DATA_MODEL_UNIT_LENGTH` -/
abbrev unitLength : ℕ := 24

/-- `DATA_MODEL_SEMANTIC_ROLE_LENGTH` -/
abbrev semanticRoleLength : ℕ := 32

/-- `DATA_MODEL_ALARM_CODE_LENGTH` -/
abbrev alarmCodeLength : ℕ := 48

/-- `DATA_MODEL_ALARM_REASON_LENGTH` -/
abbrev alarmReasonLength : ℕ := 128

/-- `DATA_MODEL_MAX_ALARMS` -/
abbrev maxAlarms : ℕ := 32

/-- `data_model_type_t` -/
inductive DataType where
  | unknown
  | boolean
  | integer
  | float
  | double
  | string
  deriving DecidableEq

/-- `data_model_entity_kind_t` -/
inductive EntityKind where
  | unknown
  | system
  | process
  | activeEquipment
  | passiveEquipment
  | group
  deriving DecidableEq

/-- `data_model_reference_kind_t` -/
inductive ReferenceKind where
  | unknown
  | root
  | organizes
  | component
  deriving DecidableEq

/-- `data_model_value_t` -/
structure Value where
  booleanValue : Bool := false
  integerValue : ℤ := 0
  numericValue : Double := .finite 0
  stringValue : CharArray stringValueLength := .empty
  deriving DecidableEq

/-- `data_model_equipment_t` -/
structure Equipment where
  index : Option ℕ := some 0
  parentIndex : Option ℕ := some 0
  nodeId : CharArray nodeIdLength := .empty
  typeDefinitionId : CharArray nodeIdLength := .empty
  browseName : CharArray nameLength := .empty
  displayName : CharArray nameLength := .empty
  entityKind : EntityKind := .unknown
  referenceKind : ReferenceKind := .unknown
  entityKindExplicit : Bool := false
  deriving DecidableEq

/-- `data_model_tag_t` -/
structure Tag where
  index : Option ℕ := some 0
  equipmentIndex : Option ℕ := some 0
  nodeId : CharArray nodeIdLength := .empty
  browseName : CharArray nameLength := .empty
  displayName : CharArray nameLength := .empty
  engineeringUnit : CharArray unitLength := .empty
  semanticRole : CharArray semanticRoleLength := .empty
  dataType : DataType := .unknown
  readable : Bool := false
  writable : Bool := false
  hasMinimum : Bool := false
  hasMaximum : Bool := false
  minimum : Double := .finite 0
  maximum : Double := .finite 0
  valueValid : Bool := false
  value : Value := {}
  deriving DecidableEq

/-- `data_model_alarm_t` -/
structure Alarm where
  sourceNodeId : CharArray nodeIdLength := .empty
  sourceName : CharArray nameLength := .empty
  alarmCode : CharArray alarmCodeLength := .empty
  reason : CharArray alarmReasonLength := .empty
  severity : ℕ := 0
  active : Bool := false
  deriving DecidableEq

/-- The key of an alarm, compared with `strcmp` on both parts. -/
abbrev AlarmKey := Text × Text

def Alarm.key (alarm : Alarm) : AlarmKey :=
  (alarm.sourceNodeId.text, alarm.alarmCode.text)

end DataModel

end CrowPanel
