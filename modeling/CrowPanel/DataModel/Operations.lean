import CrowPanel.DataModel.Types
import CrowPanel.Library.KeyedSlots
import Mathlib.Data.List.Basic

/-!
# The operations of the data model

`DataModel` is `struct data_model`.  The arrays are kept as the lists of their first
`equipment_count`, `tag_count` and `alarm_count` entries, so the counts are the lengths.  Each
operation runs under the model's mutex and is one atomic function of the model.  A pointer argument
which the source checks for `NULL` is an `Option`.

Operations return their result code beside the model, also on the error paths: that an error leaves
the model alone is a theorem (`exec_error`), not part of the types.
-/

namespace CrowPanel

open Library

/-- `struct data_model` without its mutex. -/
structure DataModel where
  equipment : List DataModel.Equipment
  tags : List DataModel.Tag
  alarms : List DataModel.Alarm
  equipmentCapacity : ℕ
  tagCapacity : ℕ
  structureGeneration : ℕ
  valueGeneration : ℕ
  alarmGeneration : ℕ
  structureUpdateActive : Bool
  structureDirty : Bool
  deriving DecidableEq

namespace DataModel

/-- The increment of a `uint32_t` generation counter. -/
def bump (generation : ℕ) : ℕ :=
  (generation + 1) % 2 ^ 32

/-- The zeroed model that `data_model_create` hands out. -/
def empty (equipmentCapacity tagCapacity : ℕ) : DataModel where
  equipment := []
  tags := []
  alarms := []
  equipmentCapacity
  tagCapacity
  structureGeneration := 1
  valueGeneration := 0
  alarmGeneration := 0
  structureUpdateActive := false
  structureDirty := false

/-- `data_model_create`; `allocated` is the outcome of its allocations. -/
def create (equipmentCapacity tagCapacity : ℕ) (allocated : Bool) : Except EspErr DataModel :=
  if equipmentCapacity = 0 ∨ tagCapacity = 0 then .error .invalidArg
  else if allocated = false then .error .noMem
  else .ok (empty equipmentCapacity tagCapacity)

/-- Creation succeeds with positive capacities and memory, and always hands out the empty model. -/
theorem create_eq_ok_iff {equipmentCapacity tagCapacity : ℕ} {allocated : Bool}
    {model : DataModel} :
    create equipmentCapacity tagCapacity allocated = .ok model ↔
      (equipmentCapacity ≠ 0 ∧ tagCapacity ≠ 0 ∧ allocated = true) ∧
        model = empty equipmentCapacity tagCapacity := by
  unfold create
  split
  · next hzero =>
      rcases hzero with hzero | hzero <;> simp [hzero]
  · next hpositive =>
      obtain ⟨hequipment, htags⟩ := not_or.mp hpositive
      cases allocated <;> simp [hequipment, htags, eq_comm]

/-! ## Structure updates -/

/-- `mark_structure_changed` -/
def markStructureChanged (model : DataModel) : DataModel :=
  if model.structureUpdateActive then { model with structureDirty := true }
  else
    { model with
      structureGeneration := bump model.structureGeneration
      structureDirty := false }

section MarkStructureChanged

variable (model : DataModel)

@[simp] theorem markStructureChanged_equipment :
    model.markStructureChanged.equipment = model.equipment := by
  unfold markStructureChanged; split <;> rfl

@[simp] theorem markStructureChanged_tags : model.markStructureChanged.tags = model.tags := by
  unfold markStructureChanged; split <;> rfl

@[simp] theorem markStructureChanged_alarms :
    model.markStructureChanged.alarms = model.alarms := by
  unfold markStructureChanged; split <;> rfl

@[simp] theorem markStructureChanged_equipmentCapacity :
    model.markStructureChanged.equipmentCapacity = model.equipmentCapacity := by
  unfold markStructureChanged; split <;> rfl

@[simp] theorem markStructureChanged_tagCapacity :
    model.markStructureChanged.tagCapacity = model.tagCapacity := by
  unfold markStructureChanged; split <;> rfl

@[simp] theorem markStructureChanged_structureUpdateActive :
    model.markStructureChanged.structureUpdateActive = model.structureUpdateActive := by
  unfold markStructureChanged; split <;> rfl

end MarkStructureChanged

/-- `data_model_clear` -/
def clear (model : DataModel) : DataModel :=
  let changed := markStructureChanged { model with equipment := [], tags := [], alarms := [] }
  { changed with
    valueGeneration := bump changed.valueGeneration
    alarmGeneration := bump changed.alarmGeneration }

/-- `data_model_begin_structure_update` -/
def beginStructureUpdate (model : DataModel) : DataModel :=
  { model with structureUpdateActive := true, structureDirty := false }

/-- `tag_is_numeric` -/
def Tag.isNumeric (tag : Tag) : Bool :=
  tag.dataType = .integer ∨ tag.dataType = .float ∨ tag.dataType = .double

/-- `strcmp(tag->semantic_role, role) == 0` -/
def Tag.hasRole (tag : Tag) (role : String) : Bool :=
  tag.semanticRole.text = ascii role

/-- The kind `classify_entities_locked` infers for the object at `index`. -/
def inferredKind (model : DataModel) (index : ℕ) : EntityKind :=
  let ownTags := model.tags.filter fun tag => tag.equipmentIndex = some index
  let hasChildren := model.equipment.any fun child => child.parentIndex = some index
  let hasTags := !ownTags.isEmpty
  let hasCommands := ownTags.any fun tag => tag.writable
  let hasOperatingStatus := ownTags.any fun tag => tag.hasRole "operating_status"
  let hasProcessContext := ownTags.any fun tag =>
    tag.hasRole "demand" || tag.hasRole "production_total" || tag.hasRole "consumption_total"
  let hasMeasurements := ownTags.any fun tag => tag.readable && !tag.writable && tag.isNumeric
  if hasChildren then .system
  else if hasProcessContext then .process
  else if hasCommands || hasOperatingStatus then .activeEquipment
  else if hasMeasurements || hasTags then .passiveEquipment
  else .group

/-- `classify_entities_locked`.  The loop only writes kinds and never reads one, so every object is
classified from the model before the loop. -/
def classifyEntities (model : DataModel) : DataModel :=
  { model with
    equipment := model.equipment.mapIdx fun index equipment =>
      if equipment.entityKindExplicit then equipment
      else { equipment with entityKind := model.inferredKind index } }

/-- `data_model_end_structure_update` -/
def endStructureUpdate (model : DataModel) : DataModel :=
  let published :=
    if model.structureUpdateActive && model.structureDirty then
      let classified := classifyEntities model
      { classified with structureGeneration := bump classified.structureGeneration }
    else model
  { published with structureUpdateActive := false, structureDirty := false }

/-- What an add operation hands back: `index` is what it stored through `index_out`. -/
structure Added where
  code : EspErr
  index : Option ℕ
  model : DataModel

/-- `data_model_add_equipment` -/
def addEquipment (model : DataModel) : Option Equipment → Added
  | none => ⟨.invalidArg, none, model⟩
  | some equipment =>
      if model.equipmentCapacity ≤ model.equipment.length then ⟨.noMem, none, model⟩
      else
        let index := model.equipment.length
        ⟨.ok, some index, markStructureChanged
          { model with equipment := model.equipment ++ [{ equipment with index := some index }] }⟩

/-- `data_model_add_tag` -/
def addTag (model : DataModel) : Option Tag → Added
  | none => ⟨.invalidArg, none, model⟩
  | some tag =>
      if model.tagCapacity ≤ model.tags.length then ⟨.noMem, none, model⟩
      else
        let index := model.tags.length
        ⟨.ok, some index, markStructureChanged
          { model with tags := model.tags ++ [{ tag with index := some index }] }⟩

/-- An addition succeeds exactly when there is room, and then hands back the next free index. -/
theorem addEquipment_index_eq_some_iff {model : DataModel} {equipment : Equipment} {index : ℕ} :
    (model.addEquipment (some equipment)).index = some index ↔
      model.equipment.length < model.equipmentCapacity ∧ model.equipment.length = index := by
  unfold addEquipment
  dsimp only
  split
  · next hfull => simp [hfull]
  · next hroom => simp [Nat.lt_of_not_le hroom]

theorem addTag_index_eq_some_iff {model : DataModel} {tag : Tag} {index : ℕ} :
    (model.addTag (some tag)).index = some index ↔
      model.tags.length < model.tagCapacity ∧ model.tags.length = index := by
  unfold addTag
  dsimp only
  split
  · next hfull => simp [hfull]
  · next hroom => simp [Nat.lt_of_not_le hroom]

section Added

variable {model : DataModel} {equipment : Equipment} {tag : Tag}

theorem addEquipment_index_eq_none_iff :
    (model.addEquipment (some equipment)).index = none ↔
      model.equipmentCapacity ≤ model.equipment.length := by
  unfold addEquipment
  dsimp only
  split <;> simp_all

theorem addTag_index_eq_none_iff :
    (model.addTag (some tag)).index = none ↔ model.tagCapacity ≤ model.tags.length := by
  unfold addTag
  dsimp only
  split <;> simp_all

theorem addEquipment_code_of_room (hroom : model.equipment.length < model.equipmentCapacity) :
    (model.addEquipment (some equipment)).code = .ok := by
  simp [addEquipment, Nat.not_le_of_lt hroom]

theorem addTag_code_of_room (hroom : model.tags.length < model.tagCapacity) :
    (model.addTag (some tag)).code = .ok := by
  simp [addTag, Nat.not_le_of_lt hroom]

theorem addEquipment_equipment (hroom : model.equipment.length < model.equipmentCapacity) :
    (model.addEquipment (some equipment)).model.equipment =
      model.equipment ++ [{ equipment with index := some model.equipment.length }] := by
  simp [addEquipment, Nat.not_le_of_lt hroom]

@[simp] theorem addEquipment_tags (added : Option Equipment) :
    (model.addEquipment added).model.tags = model.tags := by
  cases added <;> simp only [addEquipment]
  split <;> simp

theorem addTag_tags (hroom : model.tags.length < model.tagCapacity) :
    (model.addTag (some tag)).model.tags =
      model.tags ++ [{ tag with index := some model.tags.length }] := by
  simp [addTag, Nat.not_le_of_lt hroom]

@[simp] theorem addTag_equipment (added : Option Tag) :
    (model.addTag added).model.equipment = model.equipment := by
  cases added <;> simp only [addTag]
  split <;> simp

end Added

/-! ## Values -/

/-- `data_model_update_value` -/
def updateValue (model : DataModel) (tagIndex : ℕ) (value : Option Value) (valueValid : Bool) :
    EspErr × DataModel :=
  match value with
  | none => (.invalidArg, model)
  | some value =>
      if model.tags.length ≤ tagIndex then (.notFound, model)
      else
        (.ok, { model with
          tags := model.tags.modify tagIndex fun tag => { tag with value, valueValid }
          valueGeneration := bump model.valueGeneration })

/-- Storing a value changes of a tag its value only, and no other tag. -/
theorem updateValue_map_tags {model : DataModel} {index : ℕ} {value : Value} {valid : Bool}
    {α : Type} {field : Tag → α}
    (hfield : ∀ tag value valid, field { tag with value, valueValid := valid } = field tag) :
    (model.updateValue index (some value) valid).2.tags.map field = model.tags.map field := by
  simp only [updateValue]
  split
  · rfl
  · exact KeyedSlots.map_modify (fun tag => hfield tag value valid) model.tags index

/-- `data_model_get_equipment` -/
def getEquipment (model : DataModel) (equipmentIndex : ℕ) : Option Equipment :=
  model.equipment[equipmentIndex]?

/-- `data_model_get_tag` -/
def getTag (model : DataModel) (tagIndex : ℕ) : Option Tag :=
  model.tags[tagIndex]?

/-! ## Alarms -/

/-- `data_model_update_alarm` -/
def updateAlarm (model : DataModel) : Option Alarm → EspErr × DataModel
  | none => (.invalidArg, model)
  | some alarm =>
      if alarm.sourceNodeId.text = [] ∨ alarm.alarmCode.text = [] then (.invalidArg, model)
      else
        match model.alarms.findIdx? (fun other => other.key = alarm.key) with
        | some alarmIndex =>
            (.ok, { model with
              alarms := model.alarms.set alarmIndex alarm
              alarmGeneration := bump model.alarmGeneration })
        | none =>
            if alarm.active = false then (.ok, model)
            else if maxAlarms ≤ model.alarms.length then (.noMem, model)
            else
              (.ok, { model with
                alarms := model.alarms ++ [alarm]
                alarmGeneration := bump model.alarmGeneration })

/-- A report of an alarm either changes nothing or replaces the list of alarms. -/
theorem updateAlarm_cases (model : DataModel) (alarm : Option Alarm) :
    (∃ code, model.updateAlarm alarm = (code, model)) ∨
      ∃ alarms, model.updateAlarm alarm =
        (.ok, { model with alarms, alarmGeneration := bump model.alarmGeneration }) := by
  unfold updateAlarm
  split
  · exact .inl ⟨_, rfl⟩
  · split
    · exact .inl ⟨_, rfl⟩
    · split
      · exact .inr ⟨_, rfl⟩
      · split
        · exact .inl ⟨_, rfl⟩
        · split
          · exact .inl ⟨_, rfl⟩
          · exact .inr ⟨_, rfl⟩

@[simp] theorem updateAlarm_tags (model : DataModel) (alarm : Option Alarm) :
    (model.updateAlarm alarm).2.tags = model.tags := by
  rcases model.updateAlarm_cases alarm with ⟨code, hsame⟩ | ⟨alarms, hreplaced⟩
  · rw [hsame]
  · rw [hreplaced]

/-- `data_model_clear_alarms` -/
def clearAlarms (model : DataModel) : DataModel :=
  { model with alarms := [], alarmGeneration := bump model.alarmGeneration }

/-- The loop of `data_model_get_active_alarm`, with `current` active alarms passed so far. -/
def activeAlarmFrom (current activeIndex : ℕ) : List Alarm → Option Alarm
  | [] => none
  | alarm :: alarms =>
      if alarm.active = false then activeAlarmFrom current activeIndex alarms
      else if current = activeIndex then some alarm
      else activeAlarmFrom (current + 1) activeIndex alarms

/-- `data_model_get_active_alarm` -/
def getActiveAlarm (model : DataModel) (activeIndex : ℕ) : Option Alarm :=
  activeAlarmFrom 0 activeIndex model.alarms

/-- `data_model_active_alarm_count` -/
def activeAlarmCount (model : DataModel) : ℕ :=
  model.alarms.countP Alarm.active

/-! ## Counts -/

/-- `data_model_object_count` -/
def objectCount (model : DataModel) : ℕ :=
  model.equipment.length

/-- `data_model_tag_count` -/
def tagCount (model : DataModel) : ℕ :=
  model.tags.length

/-- `data_model_entity_is_equipment` -/
def EntityKind.isEquipment (kind : EntityKind) : Bool :=
  kind = .activeEquipment ∨ kind = .passiveEquipment

/-- `count_entity_kind`, over the objects of a model. -/
def countEntityKind (objects : List Equipment) (kind : EntityKind) : ℕ :=
  objects.countP fun equipment => equipment.entityKind = kind

/-- `data_model_asset_count`, over the objects of a model. -/
def assetCount (objects : List Equipment) : ℕ :=
  objects.countP fun equipment => equipment.entityKind.isEquipment

/-! ## Histories of calls -/

/-- The calls that take a writable model. -/
inductive Op where
  | clear
  | beginStructureUpdate
  | endStructureUpdate
  | addEquipment (equipment : Option Equipment)
  | addTag (tag : Option Tag)
  | updateValue (tagIndex : ℕ) (value : Option Value) (valueValid : Bool)
  | updateAlarm (alarm : Option Alarm)
  | clearAlarms
  deriving DecidableEq

/-- Executes one call; a `void` call counts as returning `ESP_OK`. -/
def exec (model : DataModel) : Op → EspErr × DataModel
  | .clear => (.ok, model.clear)
  | .beginStructureUpdate => (.ok, model.beginStructureUpdate)
  | .endStructureUpdate => (.ok, model.endStructureUpdate)
  | .addEquipment equipment => ((model.addEquipment equipment).code, (model.addEquipment equipment).model)
  | .addTag tag => ((model.addTag tag).code, (model.addTag tag).model)
  | .updateValue tagIndex value valueValid => model.updateValue tagIndex value valueValid
  | .updateAlarm alarm => model.updateAlarm alarm
  | .clearAlarms => (.ok, model.clearAlarms)

/-- The model after a sequence of calls. -/
def run (model : DataModel) : List Op → DataModel
  | [] => model
  | op :: ops => run (model.exec op).2 ops

/-- The calls of a sequence with the codes they returned. -/
def transcript (model : DataModel) : List Op → List (Op × EspErr)
  | [] => []
  | op :: ops => (op, (model.exec op).1) :: transcript (model.exec op).2 ops

/-- The models that a program can hold: created, then changed by calls only. -/
def Reachable (model : DataModel) : Prop :=
  ∃ equipmentCapacity tagCapacity created ops,
    create equipmentCapacity tagCapacity true = .ok created ∧ created.run ops = model

@[simp] theorem run_nil (model : DataModel) : model.run [] = model := rfl

theorem run_append (model : DataModel) (first second : List Op) :
    model.run (first ++ second) = (model.run first).run second := by
  induction first generalizing model with
  | nil => rfl
  | cons op ops ih => exact ih _

theorem transcript_append (model : DataModel) (first second : List Op) :
    model.transcript (first ++ second) =
      model.transcript first ++ (model.run first).transcript second := by
  induction first generalizing model with
  | nil => rfl
  | cons op ops ih => simp [transcript, run, ih]

theorem run_concat (model : DataModel) (ops : List Op) (op : Op) :
    model.run (ops ++ [op]) = ((model.run ops).exec op).2 := by
  rw [run_append]
  rfl

end DataModel

end CrowPanel
