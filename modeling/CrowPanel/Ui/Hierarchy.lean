import CrowPanel.DataModel.Representation
import CrowPanel.Library.Forest
import CrowPanel.Ui.Undisturbed

/-!
# The hierarchy of the objects

The overview climbs from an object to its parents in several loops, each with the number of objects as
its guard.  In records whose objects form a forest no guard cuts a chain: the loops see the ancestors
of an object, and nothing else.
-/

namespace CrowPanel.Ui

open Library DataModel Reads

/-- The place of the parent of the object at a place. -/
def parentPlace (records : Records) (place : ℕ) : Option ℕ :=
  records.equipment[place]?.bind Equipment.parentIndex

/-- Objects and tags carry their places, and the objects form a forest. -/
structure Hierarchy (records : Records) : Prop where
  objects_indexed : ∀ (place : ℕ) (object : Equipment), records.equipment[place]? = some object →
    object.index = some place
  tags_indexed : ∀ (place : ℕ) (tag : Tag), records.tags[place]? = some tag →
    tag.index = some place
  parents_exist : ∀ place parent, parentPlace records place = some parent →
    parent < records.equipment.length
  wellFounded : WellFounded fun above below => parentPlace records below = some above

/-- Records whose parents stand before their children, as a discovery leaves them. -/
theorem hierarchy_of_parents_earlier {model : DataModel} (hrep : Representation model)
    (hearlier : ∀ (place : ℕ) (object : Equipment), model.equipment[place]? = some object →
      ∀ parent, object.parentIndex = some parent → parent < place) : Hierarchy model.records := by
  have hparent : ∀ place parent, parentPlace model.records place = some parent →
      parent < place ∧ place < model.equipment.length := by
    intro place parent hparent
    obtain ⟨object, hobject, hparent⟩ := Option.bind_eq_some_iff.mp hparent
    obtain ⟨hplace, -⟩ := List.getElem?_eq_some_iff.mp hobject
    exact ⟨hearlier place object hobject parent hparent, hplace⟩
  refine ⟨hrep.equipment_indexed, hrep.tags_indexed, fun place parent hplace => ?_, ?_⟩
  · obtain ⟨hlt, hplace⟩ := hparent place parent hplace
    exact hlt.trans hplace
  · exact Subrelation.wf (fun hstep => (hparent _ _ hstep).1) Nat.lt_wfRel.wf

namespace Hierarchy

variable {records : Records} (hierarchy : Hierarchy records) {place above : ℕ}

/-- The places with the parents of their objects; a place without an object is a root. -/
def forest : Forest ℕ where
  parent := parentPlace records
  wellFounded := hierarchy.wellFounded

include hierarchy in
/-- A place with a parent has an object, which names the parent. -/
theorem exists_object (hparent : parentPlace records place = some above) :
    ∃ object, records.equipment[place]? = some object ∧ object.index = some place ∧
      object.parentIndex = some above ∧ above ≠ place := by
  obtain ⟨object, hobject, hparentIndex⟩ := Option.bind_eq_some_iff.mp hparent
  refine ⟨object, hobject, hierarchy.objects_indexed place object hobject, hparentIndex, ?_⟩
  rintro rfl
  exact hierarchy.wellFounded.irrefl.irrefl _ hparent

/-- The parent of a place is that of its object. -/
theorem parent_eq {object : Equipment} (hobject : records.equipment[place]? = some object) :
    hierarchy.forest.parent place = object.parentIndex := by
  change records.equipment[place]?.bind Equipment.parentIndex = object.parentIndex
  rw [hobject, Option.bind_some]

/-- At a root there is no object, or one without a parent. -/
theorem root_cases (hroot : hierarchy.forest.parent place = none) :
    records.equipment[place]? = none ∨
      ∃ object, records.equipment[place]? = some object ∧ object.index = some place ∧
        object.parentIndex = none := by
  cases hobject : records.equipment[place]? with
  | none => exact .inl rfl
  | some object =>
      rw [hierarchy.parent_eq hobject] at hroot
      exact .inr ⟨object, rfl, hierarchy.objects_indexed place object hobject, hroot⟩

theorem ancestors_lt (hplace : place < records.equipment.length) :
    ∀ above ∈ hierarchy.forest.ancestors place, above < records.equipment.length := by
  induction place using hierarchy.forest.induction with
  | root place hroot =>
      rw [Forest.ancestors_root hroot]
      exact List.forall_mem_singleton.mpr hplace
  | child place parent hparent ih =>
      rw [Forest.ancestors_child hparent]
      exact List.forall_mem_cons.mpr ⟨hplace, ih (hierarchy.parents_exist place parent hparent)⟩

/-- A place without an object has no parent. -/
theorem parent_of_length_le (hplace : records.equipment.length ≤ place) :
    hierarchy.forest.parent place = none := by
  change records.equipment[place]?.bind Equipment.parentIndex = none
  rw [List.getElem?_eq_none hplace, Option.bind_none]

/-- Only objects have objects as ancestors. -/
theorem lt_of_mem_ancestors (habove : above ∈ hierarchy.forest.ancestors place)
    (hlt : above < records.equipment.length) : place < records.equipment.length := by
  by_contra hplace
  have hroot := hierarchy.parent_of_length_le (Nat.le_of_not_lt hplace)
  rw [Forest.ancestors_root hroot, List.mem_singleton] at habove
  omega

/-- The number of objects is a guard that admits every chain of parents. -/
theorem length_ancestors_le (hobjects : 0 < records.equipment.length) (place : ℕ) :
    (hierarchy.forest.ancestors place).length ≤ records.equipment.length := by
  rcases Nat.lt_or_ge place records.equipment.length with hplace | hplace
  · have hclosed : ∀ above ∈ hierarchy.forest.ancestors place,
        above ∈ Finset.range records.equipment.length := fun above habove =>
      Finset.mem_range.mpr (hierarchy.ancestors_lt hplace above habove)
    have hle := Forest.length_ancestors_le hclosed
    rwa [Finset.card_range] at hle
  · rw [Forest.ancestors_root (hierarchy.parent_of_length_le hplace), List.length_singleton]
    exact hobjects

end Hierarchy

/-! ## A small plant -/

def plantObject (index : ℕ) (parentIndex : Option ℕ) (entityKind : EntityKind) : Equipment :=
  { index := some index, parentIndex, entityKind }

def plantTag (index owner : ℕ) (role : String) : Tag :=
  { index := some index
    equipmentIndex := some owner
    semanticRole := .ofText _ (ascii role)
    dataType := .float
    readable := true }

/-- A station with a compressor, whose motor is measured too, and with a tank. -/
def plant : Records where
  equipment :=
    [plantObject 0 none .system, plantObject 1 (some 0) .activeEquipment,
      plantObject 2 (some 1) .passiveEquipment, plantObject 3 (some 0) .passiveEquipment]
  tags := [plantTag 0 2 "pressure", plantTag 1 1 "pressure", plantTag 2 3 "temperature"]

theorem plant_hierarchy : Hierarchy plant := by
  have hearlier : ∀ place parent, parentPlace plant place = some parent →
      parent < place ∧ parent < 4 := by
    intro place parent hparent
    rcases place with _ | _ | _ | _ | place <;> cases hparent <;> decide
  refine ⟨fun place object hobject => ?_, fun place tag htag => ?_,
    fun place parent hparent => (hearlier place parent hparent).2, ?_⟩
  · rcases place with _ | _ | _ | _ | place <;> cases hobject <;> rfl
  · rcases place with _ | _ | _ | place <;> cases htag <;> rfl
  · exact Subrelation.wf (fun hstep => (hearlier _ _ hstep).1) Nat.lt_wfRel.wf

end CrowPanel.Ui
