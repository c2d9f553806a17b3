import CrowPanel.DataModel.Representation
import CrowPanel.Library.KeyedSlots

/-!
# The alarm table as a keyed map

The alarm slots are an instance of `KeyedSlots`: the key of an alarm is its source and code, and the
capacity is `DATA_MODEL_MAX_ALARMS`.  The abstract side is read off the calls that were made and the
codes they returned: `reportsSinceClear` collects the reports that returned `ESP_OK` since the alarms
were last cleared.

## Strategy

`updateAlarm_of_report` shows that one accepted report acts on the slots as `KeyedSlots.report`
does.  By induction on the history the slots are the `KeyedSlots.contents` of the reports
(`run_alarms`), and the dense enumeration of the active slots is a filter of that list.  The same
equation tells when a report is refused: not when too many alarms are active, but when too many keys
have been activated since the last clear.
-/

namespace CrowPanel.DataModel

open Library

variable {model created : DataModel} {alarm : Alarm}

/-! ## The history of reports -/

/-- What one call and its result contribute to the reports since the last clear. -/
def noteCall (reports : List Alarm) : Op × EspErr → List Alarm
  | (.clear, _) => []
  | (.clearAlarms, _) => []
  | (.updateAlarm (some alarm), .ok) => reports ++ [alarm]
  | _ => reports

/-- The alarm reports that returned `ESP_OK` since the alarms were last cleared. -/
def reportsSinceClear (calls : List (Op × EspErr)) : List Alarm :=
  calls.foldl noteCall []

/-- The keys activated by these reports, by their first activation. -/
abbrev activatedKeys (reports : List Alarm) : List AlarmKey :=
  KeyedSlots.activationOrder Alarm.key Alarm.active reports

/-- The last of these reports about a key. -/
abbrev latestReport (reports : List Alarm) (key : AlarmKey) : Option Alarm :=
  KeyedSlots.latest Alarm.key reports key

theorem reportsSinceClear_concat (ops : List Op) (op : Op) :
    reportsSinceClear (created.transcript (ops ++ [op])) =
      noteCall (reportsSinceClear (created.transcript ops))
        (op, ((created.run ops).exec op).1) := by
  simp [reportsSinceClear, transcript_append, transcript]

/-! ## One report -/

/-- An accepted report acts on the slots as on a keyed table. -/
theorem updateAlarm_of_report {slots : List Alarm}
    (hids : alarm.sourceNodeId.text ≠ [] ∧ alarm.alarmCode.text ≠ [])
    (hreport : KeyedSlots.report Alarm.key Alarm.active maxAlarms model.alarms alarm =
      some slots) :
    (model.updateAlarm (some alarm)).1 = .ok ∧
      (model.updateAlarm (some alarm)).2.alarms = slots := by
  have hids' : ¬(alarm.sourceNodeId.text = [] ∨ alarm.alarmCode.text = []) := not_or.mpr hids
  simp only [updateAlarm, if_neg hids']
  unfold KeyedSlots.report at hreport
  split at hreport
  · next slot hslot => simp [hslot, Option.some.inj hreport]
  · next hnone =>
      simp only [hnone]
      split at hreport
      · next hinactive => simp [hinactive, Option.some.inj hreport]
      split at hreport
      · cases hreport
      · next hactive hroom => simp [hactive, hroom, Option.some.inj hreport]

/-- A report the table has no slot for returns `ESP_ERR_NO_MEM` and changes nothing. -/
theorem updateAlarm_of_no_slot
    (hids : alarm.sourceNodeId.text ≠ [] ∧ alarm.alarmCode.text ≠ [])
    (hreport : KeyedSlots.report Alarm.key Alarm.active maxAlarms model.alarms alarm = none) :
    model.updateAlarm (some alarm) = (.noMem, model) := by
  have hids' : ¬(alarm.sourceNodeId.text = [] ∨ alarm.alarmCode.text = []) := not_or.mpr hids
  simp only [updateAlarm, if_neg hids']
  unfold KeyedSlots.report at hreport
  split at hreport
  · cases hreport
  · next hnone =>
      split at hreport
      · cases hreport
      split at hreport
      · next hactive hfull => simp [hnone, hactive, hfull]
      · cases hreport

/-- A report leaves the alarms of other keys as they are. -/
theorem mem_updateAlarm_of_key_ne {held : Alarm} (hheld : held ∈ model.alarms)
    (hkey : held.key ≠ alarm.key) : held ∈ (model.updateAlarm (some alarm)).2.alarms := by
  simp only [updateAlarm]
  split
  · exact hheld
  split
  · next slot hslot =>
      obtain ⟨hbound, hfound, -⟩ := List.findIdx?_eq_some_iff_getElem.mp hslot
      obtain ⟨place, hplace⟩ := List.mem_iff_getElem?.mp hheld
      have hother : slot ≠ place := by
        rintro rfl
        rw [List.getElem?_eq_getElem hbound] at hplace
        obtain rfl := Option.some.inj hplace
        exact hkey (of_decide_eq_true hfound)
      apply List.mem_iff_getElem?.mpr
      exact ⟨place, (List.getElem?_set_ne hother).trans hplace⟩
  · split
    · exact hheld
    split
    · exact hheld
    · exact List.mem_append_left _ hheld

/-! ## Every history -/

theorem updateAlarm_invalid {alarm : Option Alarm}
    (hids : ∀ a ∈ alarm, a.sourceNodeId.text = [] ∨ a.alarmCode.text = []) :
    model.updateAlarm alarm = (.invalidArg, model) := by
  cases alarm with
  | none => rfl
  | some alarm => simp [updateAlarm, hids alarm rfl]

/-- The calls that are not about alarms leave the slots alone. -/
theorem exec_alarms {op : Op} (hclear : op ≠ .clear) (hclearAlarms : op ≠ .clearAlarms)
    (hreport : ∀ alarm, op ≠ .updateAlarm alarm) :
    (model.exec op).2.alarms = model.alarms := by
  cases op with
  | clear => exact absurd rfl hclear
  | clearAlarms => exact absurd rfl hclearAlarms
  | updateAlarm alarm => exact absurd rfl (hreport alarm)
  | beginStructureUpdate => rfl
  | endStructureUpdate =>
      simp only [exec, endStructureUpdate]
      split <;> rfl
  | addEquipment equipment =>
      simp only [exec, addEquipment]
      split
      · rfl
      · split <;> simp
  | addTag tag =>
      simp only [exec, addTag]
      split
      · rfl
      · split <;> simp
  | updateValue tagIndex value valueValid =>
      simp only [exec, updateValue]
      split
      · rfl
      · split <;> rfl

/-- As long as no alarm is reported, an empty table stays empty. -/
theorem run_alarms_eq_nil {ops : List Op} (hops : ∀ op ∈ ops, ∀ alarm, op ≠ .updateAlarm alarm)
    (hempty : model.alarms = []) : (model.run ops).alarms = [] := by
  induction ops generalizing model with
  | nil => exact hempty
  | cons op ops ih =>
      obtain ⟨hop, hrest⟩ := List.forall_mem_cons.mp hops
      refine ih hrest ?_
      by_cases hclear : op = .clear
      · simp [hclear, exec, clear]
      · by_cases hclearAlarms : op = .clearAlarms
        · simp [hclearAlarms, exec, clearAlarms]
        · rw [exec_alarms hclear hclearAlarms hop]
          exact hempty

/-- The alarm slots of a model are the latest reports of the activated keys. -/
theorem run_alarms {equipmentCapacity tagCapacity : ℕ}
    (hcreate : create equipmentCapacity tagCapacity true = .ok created) (ops : List Op) :
    (created.run ops).alarms =
      KeyedSlots.contents Alarm.key Alarm.active
        (reportsSinceClear (created.transcript ops)) := by
  induction ops using List.reverseRecOn with
  | nil =>
      obtain ⟨-, rfl⟩ := create_eq_ok_iff.mp hcreate
      rfl
  | append_singleton ops op ih =>
      rw [run_concat, reportsSinceClear_concat]
      cases op with
      | clear => simp [exec, clear, noteCall]
      | clearAlarms => simp [exec, clearAlarms, noteCall]
      | updateAlarm alarm =>
          by_cases hvalid : ∃ a ∈ alarm, a.sourceNodeId.text ≠ [] ∧ a.alarmCode.text ≠ []
          · obtain ⟨alarm, rfl, hids⟩ := hvalid
            simp only [exec]
            cases hreport : KeyedSlots.report Alarm.key Alarm.active maxAlarms
                (created.run ops).alarms alarm with
            | none => simpa [updateAlarm_of_no_slot hids hreport, noteCall] using ih
            | some slots =>
                obtain ⟨hok, halarms⟩ := updateAlarm_of_report hids hreport
                rw [halarms, hok]
                rw [ih] at hreport
                exact KeyedSlots.report_contents hreport
          · have hinvalid : ∀ a ∈ alarm, a.sourceNodeId.text = [] ∨ a.alarmCode.text = [] := by
              intro a ha
              by_contra hids
              exact hvalid ⟨a, ha, not_or.mp hids⟩
            simp only [exec, updateAlarm_invalid hinvalid]
            cases alarm <;> exact ih
      | beginStructureUpdate | endStructureUpdate | addEquipment | addTag | updateValue =>
          rw [exec_alarms (by simp) (by simp) (by simp)]
          exact ih

/-! ## The dense enumeration of active alarms -/

theorem activeAlarmFrom_eq (alarms : List Alarm) (current offset : ℕ) :
    activeAlarmFrom current (current + offset) alarms = (alarms.filter Alarm.active)[offset]? := by
  induction alarms generalizing current offset with
  | nil => rfl
  | cons alarm alarms ih =>
      cases hactive : alarm.active with
      | false => simpa [activeAlarmFrom, hactive] using ih current offset
      | true =>
          cases offset with
          | zero => simp [activeAlarmFrom, hactive]
          | succ offset =>
              have hnext := ih (current + 1) offset
              rw [Nat.add_right_comm, Nat.add_assoc] at hnext
              simpa [activeAlarmFrom, hactive] using hnext

theorem getActiveAlarm_eq (activeIndex : ℕ) :
    model.getActiveAlarm activeIndex = (model.alarms.filter Alarm.active)[activeIndex]? := by
  simpa [getActiveAlarm] using activeAlarmFrom_eq model.alarms 0 activeIndex

theorem activeAlarmCount_eq :
    model.activeAlarmCount = (model.alarms.filter Alarm.active).length :=
  List.countP_eq_length_filter

/-- The keys of the enumerated alarms are those of the active slots. -/
theorem exists_getActiveAlarm_iff {key : AlarmKey} :
    (∃ activeIndex alarm, model.getActiveAlarm activeIndex = some alarm ∧ alarm.key = key) ↔
      ∃ alarm ∈ model.alarms, alarm.active = true ∧ alarm.key = key := by
  constructor
  · rintro ⟨activeIndex, alarm, hget, hkey⟩
    rw [getActiveAlarm_eq] at hget
    obtain ⟨hmem, hactive⟩ := List.mem_filter.mp (List.mem_of_getElem? hget)
    exact ⟨alarm, hmem, hactive, hkey⟩
  · rintro ⟨alarm, hmem, hactive, hkey⟩
    obtain ⟨activeIndex, hget⟩ := List.mem_iff_getElem?.mp (List.mem_filter.mpr ⟨hmem, hactive⟩)
    rw [← getActiveAlarm_eq] at hget
    exact ⟨activeIndex, alarm, hget, hkey⟩

/-- The keys of the active slots, in slot order. -/
private theorem map_key_filter_contents (reports : List Alarm) :
    ((KeyedSlots.contents Alarm.key Alarm.active reports).filter Alarm.active).map Alarm.key =
      (activatedKeys reports).filter fun key => (latestReport reports key).any Alarm.active := by
  rw [activatedKeys, ← KeyedSlots.contents_map_key, List.filter_map]
  congr 1
  refine List.filter_congr fun alarm hmem => ?_
  simp [KeyedSlots.latest_of_mem_contents hmem]

/-- The enumeration of the active alarms after any history: exactly the keys whose latest accepted
report since the last clear is active, in the order of their first activation, each once and with
the payload of that report. -/
theorem activeAlarms_enumerate_latestReports {equipmentCapacity tagCapacity : ℕ}
    (hcreate : create equipmentCapacity tagCapacity true = .ok created) (ops : List Op) :
    let model := created.run ops
    let reports := reportsSinceClear (created.transcript ops)
    ∃ listed : List Alarm,
      (∀ i, model.getActiveAlarm i = listed[i]?) ∧
      listed.length = model.activeAlarmCount ∧
      (∀ i, model.activeAlarmCount ≤ i → model.getActiveAlarm i = none) ∧
      (∀ alarm, alarm ∈ listed ↔
        latestReport reports alarm.key = some alarm ∧ alarm.active = true) ∧
      (listed.map Alarm.key).Nodup ∧
      listed.map Alarm.key =
        (activatedKeys reports).filter fun key => (latestReport reports key).any Alarm.active := by
  intro model reports
  have halarms : model.alarms = KeyedSlots.contents Alarm.key Alarm.active reports :=
    run_alarms hcreate ops
  have hkeys := map_key_filter_contents reports
  refine ⟨model.alarms.filter Alarm.active, getActiveAlarm_eq, activeAlarmCount_eq.symm, ?_, ?_,
    ?_, ?_⟩
  · intro i hi
    rw [getActiveAlarm_eq, List.getElem?_eq_none]
    rwa [← activeAlarmCount_eq]
  · intro alarm
    rw [List.mem_filter, halarms]
    constructor
    · rintro ⟨hmem, hactive⟩
      exact ⟨KeyedSlots.latest_of_mem_contents hmem, hactive⟩
    · rintro ⟨hlatest, hactive⟩
      refine ⟨List.mem_filterMap.mpr ⟨alarm.key, ?_, hlatest⟩, hactive⟩
      exact KeyedSlots.mem_activationOrder_of_latest hlatest hactive
  · rw [halarms, hkeys]
    exact KeyedSlots.nodup_activationOrder.filter _
  · rw [halarms, hkeys]

/-- An alarm of one fixed source, told apart by its code. -/
def numberedAlarm (code : UInt8) (active : Bool) : Alarm :=
  { sourceNodeId := .ofText _ (ascii "ns=2;i=1"), alarmCode := .ofText _ [code], active }

/-- An alarm that was raised, cleared and raised again is enumerated once. -/
theorem activeAlarms_enumerate_raised_again :
    let history : List Op :=
      [.updateAlarm (some (numberedAlarm 1 true)), .updateAlarm (some (numberedAlarm 1 false)),
        .updateAlarm (some (numberedAlarm 1 true))]
    ((empty 1 1).run history).activeAlarmCount = 1 ∧
      ∀ i, 1 ≤ i → ((empty 1 1).run history).getActiveAlarm i = none := by
  intro history
  have hcreate : create 1 1 true = .ok (empty 1 1) := rfl
  obtain ⟨_, -, -, habove, -⟩ := activeAlarms_enumerate_latestReports hcreate history
  have hcount : ((empty 1 1).run history).activeAlarmCount = 1 := by decide
  exact ⟨hcount, fun i hi => habove i (by rwa [hcount])⟩

/-! ## The room for new alarms

A cleared alarm retains its slot until the table is cleared, so what counts is not how many alarms
are active but how many keys have been activated since the last clear.
-/

/-- An active alarm is accepted, and then listed, exactly when its key has been activated since the
last clear or fewer than `DATA_MODEL_MAX_ALARMS` keys have.  Otherwise it is refused for lack of
memory and the model stays as it is. -/
theorem activeAlarm_accepted_iff {equipmentCapacity tagCapacity : ℕ}
    (hcreate : create equipmentCapacity tagCapacity true = .ok created) (ops : List Op)
    (hactive : alarm.active = true)
    (hids : alarm.sourceNodeId.text ≠ [] ∧ alarm.alarmCode.text ≠ []) :
    let model := created.run ops
    let activated := activatedKeys (reportsSinceClear (created.transcript ops))
    (alarm.key ∈ activated ∨ activated.length < maxAlarms →
      (model.updateAlarm (some alarm)).1 = .ok ∧
        ∃ i, (model.updateAlarm (some alarm)).2.getActiveAlarm i = some alarm) ∧
    (¬(alarm.key ∈ activated ∨ activated.length < maxAlarms) →
      model.updateAlarm (some alarm) = (.noMem, model)) := by
  intro model activated
  have halarms : model.alarms = KeyedSlots.contents Alarm.key Alarm.active
      (reportsSinceClear (created.transcript ops)) := run_alarms hcreate ops
  have hrefused : KeyedSlots.report Alarm.key Alarm.active maxAlarms model.alarms alarm = none ↔
      alarm.active = true ∧ alarm.key ∉ activated ∧ maxAlarms ≤ activated.length := by
    rw [halarms]
    exact KeyedSlots.report_eq_none_iff
  constructor
  · intro hroom
    cases hreport : KeyedSlots.report Alarm.key Alarm.active maxAlarms model.alarms alarm with
    | none =>
        obtain ⟨-, hunknown, hfull⟩ := hrefused.mp hreport
        rcases hroom with hknown | hroom
        · exact absurd hknown hunknown
        · exact absurd hroom (Nat.not_lt.mpr hfull)
    | some slots =>
        obtain ⟨hok, hslots⟩ := updateAlarm_of_report hids hreport
        refine ⟨hok, ?_⟩
        rw [halarms] at hreport
        have hlisted : alarm ∈ slots.filter Alarm.active := by
          rw [KeyedSlots.report_contents hreport]
          refine List.mem_filter.mpr ⟨List.mem_filterMap.mpr ⟨alarm.key, ?_, ?_⟩, hactive⟩
          · exact KeyedSlots.mem_activationOrder.mpr ⟨alarm, by simp, hactive, rfl⟩
          · rw [KeyedSlots.latest_concat, if_pos rfl]
        obtain ⟨i, hi⟩ := List.mem_iff_getElem?.mp hlisted
        exact ⟨i, by rw [getActiveAlarm_eq, hslots, hi]⟩
  · intro hfull
    obtain ⟨hunknown, hfull⟩ := not_or.mp hfull
    exact updateAlarm_of_no_slot hids (hrefused.mpr ⟨hactive, hunknown, Nat.not_lt.mp hfull⟩)

/-- As many alarms as there are slots, each raised and cleared again. -/
def raisedAndCleared : List Op :=
  (List.range maxAlarms).flatMap fun i =>
    [.updateAlarm (some (numberedAlarm (i + 1).toUInt8 true)),
      .updateAlarm (some (numberedAlarm (i + 1).toUInt8 false))]

/-- When every alarm that has a slot is cleared, one of them may be raised again, and a new one not. -/
theorem activeAlarm_accepted_cleared :
    let model := (empty 1 1).run raisedAndCleared
    (model.updateAlarm (some (numberedAlarm 2 true))).1 = .ok ∧
      (∃ i, (model.updateAlarm (some (numberedAlarm 2 true))).2.getActiveAlarm i =
        some (numberedAlarm 2 true)) ∧
      model.updateAlarm (some (numberedAlarm 40 true)) = (.noMem, model) := by
  intro model
  have hcreate : create 1 1 true = .ok (empty 1 1) := rfl
  obtain ⟨haccepted, -⟩ := activeAlarm_accepted_iff hcreate raisedAndCleared
    (rfl : (numberedAlarm 2 true).active = true) (by decide)
  obtain ⟨-, hrefused⟩ := activeAlarm_accepted_iff hcreate raisedAndCleared
    (rfl : (numberedAlarm 40 true).active = true) (by decide)
  obtain ⟨hok, hlisted⟩ := haccepted (by decide +kernel)
  exact ⟨hok, hlisted, hrefused (by decide +kernel)⟩

/-- Cleared alarms use up the room: no alarm is active, yet a new one is refused. -/
theorem clearedAlarms_refuse_new :
    let model := (empty 1 1).run raisedAndCleared
    let alarm := numberedAlarm 200 true
    Reachable model ∧ model.activeAlarmCount = 0 ∧ alarm.active = true ∧
      alarm.sourceNodeId.text ≠ [] ∧ alarm.alarmCode.text ≠ [] ∧
      model.updateAlarm (some alarm) = (.noMem, model) ∧
      ∀ i, (model.updateAlarm (some alarm)).2.getActiveAlarm i = none := by
  intro model alarm
  have hrefused : model.updateAlarm (some alarm) = (.noMem, model) := by decide +kernel
  have hnone : model.alarms.filter Alarm.active = [] := by decide +kernel
  refine ⟨⟨1, 1, _, raisedAndCleared, rfl, rfl⟩, ?_, rfl, by decide, by decide, hrefused, ?_⟩
  · rw [activeAlarmCount_eq, hnone]
    rfl
  · intro i
    rw [hrefused, getActiveAlarm_eq, hnone]
    rfl

end CrowPanel.DataModel
