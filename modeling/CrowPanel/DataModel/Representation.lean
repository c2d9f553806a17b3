import CrowPanel.DataModel.Operations
import Mathlib.Data.List.Nodup

/-!
# The representation invariant of the data model

`Representation` is what every operation may rely on: the tables fit their capacities, a stored
object or tag carries its own position as its index, and the alarm slots have non-empty, pairwise
distinct keys.  It holds of a created model and each call preserves it, whatever the caller passes
and whether or not a structure update is open.

The second half is the frame of the error paths: a call that does not return `ESP_OK` leaves every
field as it was.  The operations whose result is `void` cannot fail, so only the two adds, the value
update and the alarm report have error paths.
-/

namespace CrowPanel.DataModel

/-- The invariant of `struct data_model`. -/
structure Representation (model : DataModel) : Prop where
  equipment_fit : model.equipment.length ≤ model.equipmentCapacity
  tags_fit : model.tags.length ≤ model.tagCapacity
  alarms_fit : model.alarms.length ≤ maxAlarms
  equipment_indexed : ∀ (i : ℕ) (equipment : Equipment), model.equipment[i]? = some equipment →
    equipment.index = some i
  tags_indexed : ∀ (i : ℕ) (tag : Tag), model.tags[i]? = some tag → tag.index = some i
  alarm_keys_nonempty : ∀ alarm ∈ model.alarms,
    alarm.sourceNodeId.text ≠ [] ∧ alarm.alarmCode.text ≠ []
  alarm_keys_nodup : (model.alarms.map Alarm.key).Nodup

variable {model after : DataModel}

theorem create_representation {equipmentCapacity tagCapacity : ℕ} {allocated : Bool}
    (hcreate : create equipmentCapacity tagCapacity allocated = .ok model) :
    Representation model := by
  obtain ⟨-, rfl⟩ := create_eq_ok_iff.mp hcreate
  constructor <;> simp [empty]

/-! ## Each table separately -/

/-- Tables that agree, up to the marks and counters, are both well represented. -/
theorem Representation.congr (hrep : Representation model)
    (hequipment : after.equipment = model.equipment) (htags : after.tags = model.tags)
    (halarms : after.alarms = model.alarms)
    (hequipmentCapacity : after.equipmentCapacity = model.equipmentCapacity)
    (htagCapacity : after.tagCapacity = model.tagCapacity) : Representation after where
  equipment_fit := by rw [hequipment, hequipmentCapacity]; exact hrep.equipment_fit
  tags_fit := by rw [htags, htagCapacity]; exact hrep.tags_fit
  alarms_fit := by rw [halarms]; exact hrep.alarms_fit
  equipment_indexed := by rw [hequipment]; exact hrep.equipment_indexed
  tags_indexed := by rw [htags]; exact hrep.tags_indexed
  alarm_keys_nonempty := by rw [halarms]; exact hrep.alarm_keys_nonempty
  alarm_keys_nodup := by rw [halarms]; exact hrep.alarm_keys_nodup

theorem clear_representation : Representation model.clear := by
  constructor <;> simp [clear]

theorem clearAlarms_representation (hrep : Representation model) :
    Representation model.clearAlarms where
  equipment_fit := hrep.equipment_fit
  tags_fit := hrep.tags_fit
  alarms_fit := Nat.zero_le _
  equipment_indexed := hrep.equipment_indexed
  tags_indexed := hrep.tags_indexed
  alarm_keys_nonempty := by simp [clearAlarms]
  alarm_keys_nodup := by simp [clearAlarms]

/-- Classification rewrites kinds only. -/
theorem classifyEntities_getElem? (i : ℕ) :
    model.classifyEntities.equipment[i]? = model.equipment[i]?.map fun equipment =>
      if equipment.entityKindExplicit then equipment
      else { equipment with entityKind := model.inferredKind i } := by
  simp [classifyEntities, List.getElem?_mapIdx]

theorem classifyEntities_representation (hrep : Representation model) :
    Representation model.classifyEntities where
  equipment_fit := by simpa [classifyEntities] using hrep.equipment_fit
  tags_fit := hrep.tags_fit
  alarms_fit := hrep.alarms_fit
  equipment_indexed := by
    intro i equipment hget
    rw [classifyEntities_getElem?] at hget
    obtain ⟨old, hold, rfl⟩ := Option.map_eq_some_iff.mp hget
    have hindex := hrep.equipment_indexed i old hold
    split <;> exact hindex
  tags_indexed := hrep.tags_indexed
  alarm_keys_nonempty := hrep.alarm_keys_nonempty
  alarm_keys_nodup := hrep.alarm_keys_nodup

theorem endStructureUpdate_representation (hrep : Representation model) :
    Representation model.endStructureUpdate := by
  unfold endStructureUpdate
  split
  · exact (classifyEntities_representation hrep).congr rfl rfl rfl rfl rfl
  · exact hrep.congr rfl rfl rfl rfl rfl

/-- What holds of every entry of a table holds of the table with one more entry. -/
theorem forall_getElem?_concat {ι : Type*} {P : ℕ → ι → Prop} {table : List ι} {item : ι}
    (htable : ∀ i entry, table[i]? = some entry → P i entry) (hitem : P table.length item) :
    ∀ i entry, (table ++ [item])[i]? = some entry → P i entry := by
  intro i entry hget
  rcases Nat.lt_trichotomy i table.length with hlt | rfl | hgt
  · rw [List.getElem?_append_left hlt] at hget
    exact htable i entry hget
  · rw [List.getElem?_concat_length] at hget
    rwa [← Option.some.inj hget]
  · rw [List.getElem?_eq_none (by simp; omega)] at hget
    cases hget

theorem addEquipment_representation (hrep : Representation model) (equipment : Option Equipment) :
    Representation (model.addEquipment equipment).model := by
  unfold addEquipment
  split
  · exact hrep
  split
  · exact hrep
  · next hroom =>
      exact
        { equipment_fit := by simp; omega
          tags_fit := by simpa using hrep.tags_fit
          alarms_fit := by simpa using hrep.alarms_fit
          equipment_indexed := by
            simpa only [markStructureChanged_equipment] using
              forall_getElem?_concat hrep.equipment_indexed rfl
          tags_indexed := by simpa using hrep.tags_indexed
          alarm_keys_nonempty := by simpa using hrep.alarm_keys_nonempty
          alarm_keys_nodup := by simpa using hrep.alarm_keys_nodup }

theorem addTag_representation (hrep : Representation model) (tag : Option Tag) :
    Representation (model.addTag tag).model := by
  unfold addTag
  split
  · exact hrep
  split
  · exact hrep
  · next hroom =>
      exact
        { equipment_fit := by simpa using hrep.equipment_fit
          tags_fit := by simp; omega
          alarms_fit := by simpa using hrep.alarms_fit
          equipment_indexed := by simpa using hrep.equipment_indexed
          tags_indexed := by
            simpa only [markStructureChanged_tags] using forall_getElem?_concat hrep.tags_indexed rfl
          alarm_keys_nonempty := by simpa using hrep.alarm_keys_nonempty
          alarm_keys_nodup := by simpa using hrep.alarm_keys_nodup }

theorem updateValue_representation (hrep : Representation model) (tagIndex : ℕ)
    (value : Option Value) (valueValid : Bool) :
    Representation (model.updateValue tagIndex value valueValid).2 := by
  unfold updateValue
  split
  · exact hrep
  split
  · exact hrep
  · refine { hrep with tags_fit := by simpa using hrep.tags_fit, tags_indexed := ?_ }
    intro i tag hget
    rw [List.getElem?_modify] at hget
    obtain ⟨old, hold, rfl⟩ := Option.map_eq_some_iff.mp hget
    have hindex := hrep.tags_indexed i old hold
    split <;> exact hindex

/-- Overwriting the slot found for a key leaves the list of keys as it was. -/
theorem map_key_set_of_find {alarms : List Alarm} {alarm : Alarm} {slot : ℕ}
    (hslot : alarms.findIdx? (fun other => other.key = alarm.key) = some slot) :
    (alarms.set slot alarm).map Alarm.key = alarms.map Alarm.key := by
  obtain ⟨hlt, hkey, -⟩ := List.findIdx?_eq_some_iff_getElem.mp hslot
  have hlt' : slot < (alarms.map Alarm.key).length := by simpa using hlt
  have hsame : (alarms.map Alarm.key)[slot] = alarm.key := by simpa using hkey
  rw [List.map_set, ← hsame, List.set_getElem_self]

theorem updateAlarm_representation (hrep : Representation model) (alarm : Option Alarm) :
    Representation (model.updateAlarm alarm).2 := by
  unfold updateAlarm
  split
  · exact hrep
  next alarm =>
  split
  · exact hrep
  next hnonempty =>
  have hkey : alarm.sourceNodeId.text ≠ [] ∧ alarm.alarmCode.text ≠ [] := not_or.mp hnonempty
  split
  · next slot hslot =>
      refine { hrep with
        alarms_fit := by simpa using hrep.alarms_fit
        alarm_keys_nonempty := ?_
        alarm_keys_nodup := by
          simpa only [map_key_set_of_find hslot] using hrep.alarm_keys_nodup }
      intro other hmem
      rcases List.mem_or_eq_of_mem_set hmem with hold | rfl
      · exact hrep.alarm_keys_nonempty other hold
      · exact hkey
  · next hunknown =>
      split
      · exact hrep
      split
      · exact hrep
      · next hroom =>
          refine { hrep with
            alarms_fit := by simp only [List.length_append, List.length_singleton]; omega
            alarm_keys_nonempty := ?_
            alarm_keys_nodup := ?_ }
          · intro other hmem
            rcases List.mem_append.mp hmem with hold | hnew
            · exact hrep.alarm_keys_nonempty other hold
            · rw [List.mem_singleton.mp hnew]
              exact hkey
          · rw [List.map_append, List.map_singleton, ← List.concat_eq_append, List.nodup_concat]
            refine ⟨fun hmem => ?_, hrep.alarm_keys_nodup⟩
            obtain ⟨other, hother, hsame⟩ := List.mem_map.mp hmem
            simpa [hsame] using List.findIdx?_eq_none_iff.mp hunknown other hother

/-! ## Every call and every history -/

theorem exec_representation (hrep : Representation model) (op : Op) :
    Representation (model.exec op).2 := by
  cases op with
  | clear => exact clear_representation
  | beginStructureUpdate => exact hrep.congr rfl rfl rfl rfl rfl
  | endStructureUpdate => exact endStructureUpdate_representation hrep
  | addEquipment equipment => exact addEquipment_representation hrep equipment
  | addTag tag => exact addTag_representation hrep tag
  | updateValue tagIndex value valueValid =>
      exact updateValue_representation hrep tagIndex value valueValid
  | updateAlarm alarm => exact updateAlarm_representation hrep alarm
  | clearAlarms => exact clearAlarms_representation hrep

theorem run_representation (hrep : Representation model) (ops : List Op) :
    Representation (model.run ops) := by
  induction ops generalizing model with
  | nil => exact hrep
  | cons op ops ih => exact ih (exec_representation hrep op)

theorem Reachable.representation (hreachable : Reachable model) : Representation model := by
  obtain ⟨_, _, _, ops, hcreate, rfl⟩ := hreachable
  exact run_representation (create_representation hcreate) ops

/-- A call that reports an error has changed nothing. -/
theorem exec_error {op : Op} (herror : (model.exec op).1 ≠ .ok) : (model.exec op).2 = model := by
  cases op with
  | clear | beginStructureUpdate | endStructureUpdate | clearAlarms => exact absurd rfl herror
  | addEquipment equipment =>
      revert herror
      simp only [exec, addEquipment]
      split
      · simp
      · split <;> simp
  | addTag tag =>
      revert herror
      simp only [exec, addTag]
      split
      · simp
      · split <;> simp
  | updateValue tagIndex value valueValid =>
      revert herror
      simp only [exec, updateValue]
      split
      · simp
      · split <;> simp
  | updateAlarm alarm =>
      revert herror
      simp only [exec, updateAlarm]
      split
      · simp
      split
      · simp
      split
      · simp
      split
      · simp
      · split <;> simp

/-- A successful value update touches the value and its validity in one tag, and one counter. -/
theorem updateValue_ok {tagIndex : ℕ} {value : Value} {valueValid : Bool}
    (hok : (model.updateValue tagIndex (some value) valueValid).1 = .ok) :
    tagIndex < model.tags.length ∧
      (model.updateValue tagIndex (some value) valueValid).2 =
        { model with
          tags := model.tags.modify tagIndex fun tag => { tag with value, valueValid }
          valueGeneration := bump model.valueGeneration } := by
  revert hok
  simp only [updateValue]
  split
  · simp
  · exact fun _ => ⟨by omega, rfl⟩

/-- The representation invariant of every reachable model, with the frames of failing calls and of
successful value updates. -/
theorem Reachable.representation_and_frames (hreachable : Reachable model) :
    Representation model ∧
      (∀ op, (model.exec op).1 ≠ .ok → (model.exec op).2 = model) ∧
      ∀ tagIndex value valueValid,
        (model.updateValue tagIndex (some value) valueValid).1 = .ok →
          let after := (model.updateValue tagIndex (some value) valueValid).2
          after = { model with
            tags := after.tags
            valueGeneration := bump model.valueGeneration } ∧
          (∀ i, i ≠ tagIndex → after.tags[i]? = model.tags[i]?) ∧
          ∃ tag, model.tags[tagIndex]? = some tag ∧
            after.tags[tagIndex]? = some { tag with value, valueValid } := by
  refine ⟨hreachable.representation, fun op herror => exec_error herror, ?_⟩
  intro tagIndex value valueValid hok
  obtain ⟨hlt, hafter⟩ := updateValue_ok hok
  simp only [hafter, true_and]
  refine ⟨fun i hne => ?_, model.tags[tagIndex], by simp [hlt], ?_⟩
  · simp [Ne.symm hne]
  · simp [hlt]

/-- Two tanks, each with its level; one level is known, and one tank is empty. -/
def tankModel : DataModel :=
  (empty 2 2).run
    [.beginStructureUpdate,
      .addEquipment (some { nodeId := .ofText _ (Library.ascii "ns=2;i=1"), parentIndex := none }),
      .addEquipment (some { nodeId := .ofText _ (Library.ascii "ns=2;i=2"), parentIndex := none }),
      .addTag (some { nodeId := .ofText _ (Library.ascii "ns=2;i=3"), dataType := .integer }),
      .addTag (some
        { nodeId := .ofText _ (Library.ascii "ns=2;i=4"), equipmentIndex := some 1,
          dataType := .integer }),
      .endStructureUpdate, .updateValue 0 (some { integerValue := 70 }) true,
      .updateAlarm (some
        { sourceNodeId := .ofText _ (Library.ascii "ns=2;i=2"),
          alarmCode := .ofText _ (Library.ascii "EMPTY"), active := true })]

/-- There is no room for a third level, and a value of the second one leaves the first as it is. -/
theorem representation_and_frames_tanks :
    Representation tankModel ∧ (tankModel.exec (.addTag (some {}))).2 = tankModel ∧
      let after := (tankModel.updateValue 1 (some { integerValue := 0 }) true).2
      after.equipment = tankModel.equipment ∧ after.alarms = tankModel.alarms ∧
        after.tags[0]? = tankModel.tags[0]? ∧
        ∃ tag, tankModel.tags[1]? = some tag ∧
          after.tags[1]? = some { tag with value := { integerValue := 0 }, valueValid := true } := by
  have hreachable : Reachable tankModel := ⟨2, 2, _, _, rfl, rfl⟩
  obtain ⟨hrepresentation, herror, hupdate⟩ := Reachable.representation_and_frames hreachable
  obtain ⟨hafter, hothers, htag⟩ := hupdate 1 { integerValue := 0 } true (by decide)
  refine ⟨hrepresentation, herror _ (by decide), ?_, ?_, hothers 0 (by decide), htag⟩
  · rw [hafter]
  · rw [hafter]

end CrowPanel.DataModel
