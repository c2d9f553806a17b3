import CrowPanel.DataModel.Operations
import Mathlib.Order.Defs.Unbundled

/-!
# Generations

The three counters by which readers of the data model notice changes.  Inside a structure update the
structure counter stands still, and its end counts all changes since the beginning as one.

`Later` is what a reader can rely on while others call operations.  The counters only grow, and as
long as a counter has not moved, the part of the model that it stands for has not changed.  For the
structure this is said with `pendingGeneration`, the counter as it will be when the open update ends:
inside an update the structure can change while the counter stands still.
-/

namespace CrowPanel.DataModel

open Library

/-- `UINT32_MAX` -/
abbrev counterMax : ℕ := 2 ^ 32 - 1

/-- No counter has come to its end. -/
structure Counting (model : DataModel) : Prop where
  structure_lt : model.structureGeneration < counterMax
  value_lt : model.valueGeneration < counterMax
  alarm_lt : model.alarmGeneration < counterMax

instance (model : DataModel) : Decidable model.Counting :=
  decidable_of_iff (model.structureGeneration < counterMax ∧ model.valueGeneration < counterMax ∧
      model.alarmGeneration < counterMax)
    ⟨fun h => ⟨h.1, h.2.1, h.2.2⟩, fun h => ⟨h.structure_lt, h.value_lt, h.alarm_lt⟩⟩

theorem bump_eq {generation : ℕ} (hlt : generation < counterMax) :
    bump generation = generation + 1 := by
  have : generation + 1 < 2 ^ 32 := by
    unfold counterMax at hlt
    omega
  exact Nat.mod_eq_of_lt this

/-! ## Batches -/

/-- The calls that change which objects and tags there are. -/
def Op.changesStructure : Op → Bool
  | .clear | .addEquipment _ | .addTag _ => true
  | _ => false

/-- The calls other than the two that delimit a structure update. -/
def Op.withinUpdate : Op → Bool
  | .beginStructureUpdate | .endStructureUpdate => false
  | _ => true

/-- A successful structural change among the calls of a transcript. -/
def structureChanged (calls : List (Op × EspErr)) : Bool :=
  calls.any fun call => call.1.changesStructure && call.2 = .ok

section

variable {model : DataModel}

/-- A call inside an update leaves the structure counter alone and remembers a change. -/
theorem exec_withinUpdate (hactive : model.structureUpdateActive = true) {op : Op}
    (hop : op.withinUpdate = true) :
    (model.exec op).2.structureGeneration = model.structureGeneration ∧
      (model.exec op).2.structureUpdateActive = true ∧
      (model.exec op).2.structureDirty =
        (model.structureDirty || structureChanged [(op, (model.exec op).1)]) := by
  cases op with
  | clear => simp [exec, clear, markStructureChanged, hactive, structureChanged, Op.changesStructure]
  | beginStructureUpdate | endStructureUpdate => cases hop
  | addEquipment equipment =>
      cases equipment with
      | none => simp [exec, addEquipment, hactive, structureChanged]
      | some equipment =>
          simp only [exec, addEquipment]
          split <;>
            simp [markStructureChanged, hactive, structureChanged, Op.changesStructure]
  | addTag tag =>
      cases tag with
      | none => simp [exec, addTag, hactive, structureChanged]
      | some tag =>
          simp only [exec, addTag]
          split <;>
            simp [markStructureChanged, hactive, structureChanged, Op.changesStructure]
  | updateValue index value valid =>
      cases value with
      | none => simp [exec, updateValue, hactive, structureChanged, Op.changesStructure]
      | some value =>
          simp only [exec, updateValue]
          split <;> simp [hactive, structureChanged, Op.changesStructure]
  | updateAlarm alarm =>
      rcases model.updateAlarm_cases alarm with ⟨code, hsame⟩ | ⟨alarms, hreplaced⟩
      · simp [exec, hsame, hactive, structureChanged, Op.changesStructure]
      · simp [exec, hreplaced, hactive, structureChanged, Op.changesStructure]
  | clearAlarms => simp [exec, clearAlarms, hactive, structureChanged, Op.changesStructure]

theorem run_withinUpdate (hactive : model.structureUpdateActive = true) {ops : List Op}
    (hops : ∀ op ∈ ops, op.withinUpdate = true) :
    (model.run ops).structureGeneration = model.structureGeneration ∧
      (model.run ops).structureUpdateActive = true ∧
      (model.run ops).structureDirty =
        (model.structureDirty || structureChanged (model.transcript ops)) := by
  induction ops generalizing model with
  | nil => simp [hactive, structureChanged, transcript]
  | cons op ops ih =>
      obtain ⟨hgeneration, hstill, hdirty⟩ := exec_withinUpdate hactive (hops op List.mem_cons_self)
      obtain ⟨hrest, hlast, hrestDirty⟩ := ih hstill fun other hother =>
        hops other (List.mem_cons_of_mem _ hother)
      refine ⟨hrest.trans hgeneration, hlast, ?_⟩
      rw [DataModel.run, hrestDirty, hdirty]
      simp [structureChanged, transcript, Bool.or_assoc]

/-- A structure update counts once if something was changed in it, and not at all otherwise. -/
theorem update_structureGeneration (hlt : model.structureGeneration < counterMax) {ops : List Op}
    (hops : ∀ op ∈ ops, op.withinUpdate = true) :
    (model.run (.beginStructureUpdate :: (ops ++ [.endStructureUpdate]))).structureGeneration =
      if structureChanged (model.beginStructureUpdate.transcript ops) then
        model.structureGeneration + 1
      else model.structureGeneration := by
  have hactive : model.beginStructureUpdate.structureUpdateActive = true := rfl
  obtain ⟨hgeneration, hstill, hdirty⟩ := run_withinUpdate hactive hops
  have hclean : model.beginStructureUpdate.structureDirty = false := rfl
  rw [hclean, Bool.false_or] at hdirty
  have hrun : model.run (.beginStructureUpdate :: (ops ++ [.endStructureUpdate])) =
      (model.beginStructureUpdate.run ops).endStructureUpdate := by
    rw [DataModel.run, run_concat]
    rfl
  have hbefore : model.beginStructureUpdate.structureGeneration = model.structureGeneration := rfl
  rw [hrun, endStructureUpdate, hstill, hdirty, Bool.true_and]
  by_cases hchanged : structureChanged (model.beginStructureUpdate.transcript ops) = true
  · simp only [hchanged, if_true, classifyEntities]
    rw [hgeneration, hbefore, bump_eq hlt]
  · simp only [hchanged, if_false, Bool.false_eq_true]
    rw [hgeneration, hbefore]

end

/-! ## What a reader can rely on -/

/-- The objects and tags of a model. -/
structure Records where
  equipment : List Equipment
  tags : List Tag
  deriving DecidableEq

/-- A tag without its value. -/
def Tag.withoutValue (tag : Tag) : Tag :=
  { tag with valueValid := false, value := {} }

/-- The objects and tags of the model. -/
def records (model : DataModel) : Records :=
  ⟨model.equipment, model.tags⟩

/-- The objects and tags of the model, without the values. -/
def layout (model : DataModel) : Records :=
  ⟨model.equipment, model.tags.map Tag.withoutValue⟩

/-- The structure counter as it will be at the end of the open update, if one is open. -/
def pendingGeneration (model : DataModel) : ℕ :=
  if model.structureUpdateActive && model.structureDirty then model.structureGeneration + 1
  else model.structureGeneration

/-- The second model is the first one after some calls. -/
structure Later (model later : DataModel) : Prop where
  structure_le : model.structureGeneration ≤ later.structureGeneration
  pending_le : model.pendingGeneration ≤ later.pendingGeneration
  value_le : model.valueGeneration ≤ later.valueGeneration
  alarm_le : model.alarmGeneration ≤ later.alarmGeneration
  layout_eq : later.pendingGeneration ≤ model.structureGeneration → model.layout = later.layout
  records_eq : later.pendingGeneration ≤ model.structureGeneration →
    later.valueGeneration ≤ model.valueGeneration → model.records = later.records
  alarms_eq : later.alarmGeneration ≤ model.alarmGeneration → model.alarms = later.alarms

theorem structureGeneration_le_pendingGeneration (model : DataModel) :
    model.structureGeneration ≤ model.pendingGeneration := by
  unfold pendingGeneration
  split <;> omega

/-- Outside an update nothing is pending. -/
theorem pendingGeneration_of_idle {model : DataModel} (hidle : model.structureUpdateActive = false) :
    model.pendingGeneration = model.structureGeneration := by
  simp [pendingGeneration, hidle]

namespace Later

variable {model middle later : DataModel}

theorem refl (model : DataModel) : Later model model :=
  ⟨le_rfl, le_rfl, le_rfl, le_rfl, fun _ => rfl, fun _ _ => rfl, fun _ => rfl⟩

theorem trans (hfirst : Later model middle) (hsecond : Later middle later) : Later model later where
  structure_le := hfirst.structure_le.trans hsecond.structure_le
  pending_le := hfirst.pending_le.trans hsecond.pending_le
  value_le := hfirst.value_le.trans hsecond.value_le
  alarm_le := hfirst.alarm_le.trans hsecond.alarm_le
  layout_eq := fun hpending => by
    -- a counter that ends where it began has not moved in between
    have hmiddle := hsecond.pending_le.trans hpending
    have hlast := hpending.trans hfirst.structure_le
    exact (hfirst.layout_eq hmiddle).trans (hsecond.layout_eq hlast)
  records_eq := fun hpending hvalue => by
    have hmiddle := hfirst.records_eq (hsecond.pending_le.trans hpending)
      (hsecond.value_le.trans hvalue)
    have hlast := hsecond.records_eq (hpending.trans hfirst.structure_le)
      (hvalue.trans hfirst.value_le)
    exact hmiddle.trans hlast
  alarms_eq := fun halarm => by
    have hmiddle := hfirst.alarms_eq (hsecond.alarm_le.trans halarm)
    have hlast := hsecond.alarms_eq (halarm.trans hfirst.alarm_le)
    exact hmiddle.trans hlast

/-- A change of the structure is seen at the latest when the open update ends. -/
theorem of_structureChange (hlt : model.structureGeneration < counterMax)
    (hgeneration : later.structureGeneration = model.markStructureChanged.structureGeneration)
    (hactive : later.structureUpdateActive = model.structureUpdateActive)
    (hdirty : later.structureDirty = model.markStructureChanged.structureDirty)
    (hvalue : model.valueGeneration ≤ later.valueGeneration)
    (halarm : model.alarmGeneration ≤ later.alarmGeneration)
    (halarms : later.alarmGeneration ≤ model.alarmGeneration → model.alarms = later.alarms) :
    Later model later := by
  have hbefore := model.structureGeneration_le_pendingGeneration
  have hpending : later.pendingGeneration = model.structureGeneration + 1 ∧
      model.structureGeneration ≤ later.structureGeneration := by
    unfold pendingGeneration
    rw [hactive, hdirty, hgeneration]
    unfold markStructureChanged
    split
    · next hopen => simp [hopen]
    · next hclosed => simp [hclosed, bump_eq hlt]
  have hold : model.pendingGeneration ≤ model.structureGeneration + 1 := by
    unfold pendingGeneration
    split <;> omega
  exact
    { structure_le := hpending.2
      pending_le := by omega
      value_le := hvalue
      alarm_le := halarm
      layout_eq := fun hle => absurd hle (by omega)
      records_eq := fun hle => absurd hle (by omega)
      alarms_eq := halarms }

/-- A change that marks the structure and touches no counter and no alarm. -/
theorem of_marked {changed : DataModel} (hlt : model.structureGeneration < counterMax)
    (hgeneration : changed.structureGeneration = model.structureGeneration)
    (hactive : changed.structureUpdateActive = model.structureUpdateActive)
    (hvalue : changed.valueGeneration = model.valueGeneration)
    (halarm : changed.alarmGeneration = model.alarmGeneration)
    (halarms : changed.alarms = model.alarms) : Later model changed.markStructureChanged := by
  have hcounters : changed.markStructureChanged.valueGeneration = model.valueGeneration ∧
      changed.markStructureChanged.alarmGeneration = model.alarmGeneration := by
    unfold markStructureChanged
    split
    · exact ⟨hvalue, halarm⟩
    · exact ⟨hvalue, halarm⟩
  have hmarked : changed.markStructureChanged.structureGeneration =
        model.markStructureChanged.structureGeneration ∧
      changed.markStructureChanged.structureDirty = model.markStructureChanged.structureDirty := by
    simp only [markStructureChanged, hactive, hgeneration]
    split
    · exact ⟨rfl, rfl⟩
    · exact ⟨rfl, rfl⟩
  refine .of_structureChange hlt hmarked.1 ?_ hmarked.2 hcounters.1.ge hcounters.2.ge fun _ => ?_
  · rw [markStructureChanged_structureUpdateActive, hactive]
  · rw [markStructureChanged_alarms, halarms]

/-- A change of the alarms moves their counter only. -/
theorem of_alarms (alarms : List Alarm) (hlt : model.alarmGeneration < counterMax) :
    Later model { model with alarms, alarmGeneration := bump model.alarmGeneration } := by
  rw [bump_eq hlt]
  exact ⟨le_rfl, le_rfl, le_rfl, Nat.le_succ _, fun _ => rfl, fun _ _ => rfl,
    fun hle => absurd hle (Nat.not_succ_le_self _)⟩

end Later

instance : IsPreorder DataModel Later where
  refl := Later.refl
  trans := fun _ _ _ => Later.trans

theorem clear_later {model : DataModel} (hcounting : model.Counting) :
    Later model (model.exec .clear).2 := by
  obtain ⟨hstructure, hvalue, halarm⟩ := hcounting
  have hvalueBump := bump_eq hvalue
  have halarmBump := bump_eq halarm
  refine .of_structureChange hstructure ?_ ?_ ?_ ?_ ?_ ?_
  · simp only [exec, clear, markStructureChanged]
    split <;> rfl
  · simp [exec, clear]
  · simp only [exec, clear, markStructureChanged]
    split <;> rfl
  · simp only [exec, clear, markStructureChanged]
    split <;> simp only [hvalueBump] <;> omega
  · simp only [exec, clear, markStructureChanged]
    split <;> simp only [halarmBump] <;> omega
  · intro hle
    -- the counter of the alarms has moved, so the observer sees that they are gone
    simp only [exec, clear, markStructureChanged] at hle
    split at hle <;> simp only [halarmBump] at hle <;> omega

/-- The end of an update tells what was marked in it, and nothing else. -/
theorem endStructureUpdate_later {model : DataModel}
    (hlt : model.structureGeneration < counterMax) :
    Later model (model.exec .endStructureUpdate).2 := by
  simp only [exec, endStructureUpdate]
  split
  · next hdirty =>
      have hpending : model.pendingGeneration = model.structureGeneration + 1 := by
        simp [pendingGeneration, hdirty]
      have hbump := bump_eq hlt
      refine ⟨?_, ?_, le_rfl, le_rfl, fun hle => ?_, fun hle => ?_, fun _ => rfl⟩
      · simp only [classifyEntities, hbump]
        omega
      · simp only [pendingGeneration_of_idle, classifyEntities, hbump, hpending, le_rfl]
      · simp only [pendingGeneration_of_idle, classifyEntities, hbump] at hle
        omega
      · simp only [pendingGeneration_of_idle, classifyEntities, hbump] at hle
        omega
  · next hclean =>
      have hpending : model.pendingGeneration = model.structureGeneration := by
        simp [pendingGeneration, hclean]
      exact ⟨le_rfl, hpending.le, le_rfl, le_rfl, fun _ => rfl, fun _ _ => rfl, fun _ => rfl⟩

/-- Every call but a nested begin moves the model on, as long as no counter wraps. -/
theorem exec_later {model : DataModel} (hcounting : model.Counting) {op : Op}
    (hnested : op = .beginStructureUpdate → model.structureUpdateActive = false) :
    Later model (model.exec op).2 := by
  obtain ⟨hstructure, hvalue, halarm⟩ := hcounting
  cases op with
  | clear => exact clear_later ⟨hstructure, hvalue, halarm⟩
  | beginStructureUpdate =>
      have hidle := hnested rfl
      have hpending : (model.exec .beginStructureUpdate).2.pendingGeneration =
          model.pendingGeneration := by
        simp [exec, beginStructureUpdate, pendingGeneration, hidle]
      exact ⟨le_rfl, hpending.ge, le_rfl, le_rfl, fun _ => rfl, fun _ _ => rfl, fun _ => rfl⟩
  | endStructureUpdate => exact endStructureUpdate_later hstructure
  | addEquipment equipment =>
      cases equipment with
      | none => exact .refl model
      | some equipment =>
          simp only [exec, addEquipment]
          split
          · exact .refl model
          · exact .of_marked hstructure rfl rfl rfl rfl rfl
  | addTag tag =>
      cases tag with
      | none => exact .refl model
      | some tag =>
          simp only [exec, addTag]
          split
          · exact .refl model
          · exact .of_marked hstructure rfl rfl rfl rfl rfl
  | updateValue index value valid =>
      cases value with
      | none => exact .refl model
      | some value =>
          have hvalues := @updateValue_map_tags model index value valid _ Tag.withoutValue
            fun _ _ _ => rfl
          have hvalueBump := bump_eq hvalue
          simp only [exec, updateValue] at hvalues ⊢
          split
          · exact .refl model
          · next hindex =>
              simp only [if_neg hindex] at hvalues
              simp only [hvalueBump]
              exact ⟨le_rfl, le_rfl, Nat.le_succ _, le_rfl, fun _ => by simp [layout, hvalues],
                fun _ hle => absurd hle (Nat.not_succ_le_self _), fun _ => rfl⟩
  | updateAlarm alarm =>
      rcases model.updateAlarm_cases alarm with ⟨code, hsame⟩ | ⟨alarms, hreplaced⟩
      · simp only [exec, hsame]
        exact .refl model
      · simp only [exec, hreplaced]
        exact .of_alarms alarms halarm
  | clearAlarms => exact .of_alarms _ halarm

end CrowPanel.DataModel
