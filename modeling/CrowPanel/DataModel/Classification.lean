import CrowPanel.DataModel.Operations
import Mathlib.Logic.Equiv.Defs

/-!
# Classification of the objects

The server can publish the kind of an object; at the end of a batch of structure changes the panel
infers the kinds of the others from the hierarchy and from their tags.

The inferred kind is `specifiedKind`.  It reads no kind, so inferring again changes nothing, and it
asks only which objects and tags there are, so the numbers of the objects and the order of the tags do
not matter (`Renumbering`).
-/

namespace CrowPanel.DataModel

variable {model renumbered : DataModel} {index : ℕ}

/-- Some object has the object at `index` as its parent. -/
def IsParent (model : DataModel) (index : ℕ) : Prop :=
  ∃ child ∈ model.equipment, child.parentIndex = some index

/-- The object at `index` has such a tag. -/
def OwnsTag (model : DataModel) (index : ℕ) (such : Tag → Bool) : Prop :=
  ∃ tag ∈ model.tags, tag.equipmentIndex = some index ∧ such tag = true

instance (model : DataModel) (index : ℕ) : Decidable (IsParent model index) :=
  inferInstanceAs (Decidable (∃ child ∈ model.equipment, _))

instance (model : DataModel) (index : ℕ) (such : Tag → Bool) :
    Decidable (OwnsTag model index such) :=
  inferInstanceAs (Decidable (∃ tag ∈ model.tags, _))

/-- The roles of the tags of a process. -/
def processRoles : List String :=
  ["demand", "production_total", "consumption_total"]

/-- The kind of an object for which the server publishes none. -/
def specifiedKind (model : DataModel) (index : ℕ) : EntityKind :=
  if IsParent model index then .system
  else if OwnsTag model index fun tag => processRoles.any tag.hasRole then .process
  else if OwnsTag model index fun tag => tag.writable || tag.hasRole "operating_status" then
    .activeEquipment
  else if OwnsTag model index fun _ => true then .passiveEquipment
  else .group

/-! ## The inferred kind -/

theorem any_ownTags_iff (model : DataModel) (index : ℕ) (such : Tag → Bool) :
    (model.tags.filter fun tag => tag.equipmentIndex = some index).any such = true ↔
      OwnsTag model index such := by
  simp [OwnsTag]

theorem inferredKind_eq (model : DataModel) (index : ℕ) :
    model.inferredKind index = model.specifiedKind index := by
  have hparent : (model.equipment.any fun child => child.parentIndex = some index) = true ↔
      IsParent model index := by
    simp [IsParent]
  have hprocess : ((model.tags.filter fun tag => tag.equipmentIndex = some index).any fun tag =>
      tag.hasRole "demand" || tag.hasRole "production_total" ||
        tag.hasRole "consumption_total") = true ↔
      OwnsTag model index fun tag => processRoles.any tag.hasRole := by
    rw [any_ownTags_iff]
    simp [processRoles, Bool.or_assoc]
  have hactive : (((model.tags.filter fun tag => tag.equipmentIndex = some index).any fun tag =>
        tag.writable) ||
      (model.tags.filter fun tag => tag.equipmentIndex = some index).any fun tag =>
        tag.hasRole "operating_status") = true ↔
      OwnsTag model index fun tag => tag.writable || tag.hasRole "operating_status" := by
    simp only [Bool.or_eq_true, any_ownTags_iff, OwnsTag, ← exists_or, ← and_or_left]
  -- a measurement is a tag, so asking for both is asking for a tag
  have hpassive : (((model.tags.filter fun tag => tag.equipmentIndex = some index).any fun tag =>
        tag.readable && !tag.writable && tag.isNumeric) ||
      !(model.tags.filter fun tag => tag.equipmentIndex = some index).isEmpty) = true ↔
      OwnsTag model index fun _ => true := by
    rw [← any_ownTags_iff]
    cases model.tags.filter fun tag => tag.equipmentIndex = some index <;> simp
  exact if_congr hparent rfl
    (if_congr hprocess rfl (if_congr hactive rfl (if_congr hpassive rfl rfl)))

/-! ## Kinds inferred earlier -/

/-- The model with other kinds for the objects without an explicit one. -/
def withInferredKinds (model : DataModel) (kinds : ℕ → EntityKind) : DataModel :=
  { model with
    equipment := model.equipment.mapIdx fun index equipment =>
      if equipment.entityKindExplicit then equipment
      else { equipment with entityKind := kinds index } }

theorem classifyEntities_eq (model : DataModel) :
    model.classifyEntities = model.withInferredKinds model.specifiedKind := by
  rw [← funext (inferredKind_eq model)]
  rfl

theorem withInferredKinds_getElem? (kinds : ℕ → EntityKind) :
    (model.withInferredKinds kinds).equipment[index]? = model.equipment[index]?.map fun equipment =>
      if equipment.entityKindExplicit then equipment
      else { equipment with entityKind := kinds index } := by
  simp [withInferredKinds, List.getElem?_mapIdx]

theorem isParent_withInferredKinds (kinds : ℕ → EntityKind) :
    IsParent (model.withInferredKinds kinds) index ↔ IsParent model index := by
  simp only [IsParent, List.mem_iff_getElem?, withInferredKinds_getElem?, Option.map_eq_some_iff]
  constructor
  · rintro ⟨_, ⟨place, child, hchild, rfl⟩, hparent⟩
    refine ⟨child, ⟨place, hchild⟩, ?_⟩
    split at hparent <;> exact hparent
  · rintro ⟨child, ⟨place, hchild⟩, hparent⟩
    refine ⟨_, ⟨place, child, hchild, rfl⟩, ?_⟩
    split <;> exact hparent

/-- The kind that is inferred does not depend on kinds. -/
theorem specifiedKind_withInferredKinds (kinds : ℕ → EntityKind) :
    (model.withInferredKinds kinds).specifiedKind index = model.specifiedKind index :=
  if_congr (isParent_withInferredKinds kinds) rfl rfl

/-- Only the kinds inferred last remain. -/
theorem withInferredKinds_withInferredKinds (earlier later : ℕ → EntityKind) :
    (model.withInferredKinds earlier).withInferredKinds later = model.withInferredKinds later := by
  have hequipment : ((model.withInferredKinds earlier).withInferredKinds later).equipment =
      (model.withInferredKinds later).equipment := by
    refine List.ext_getElem? fun index => ?_
    simp only [withInferredKinds_getElem?, Option.map_map]
    refine congrArg (Option.map · _) (funext fun equipment => ?_)
    cases hexplicit : equipment.entityKindExplicit <;> simp [hexplicit]
  unfold withInferredKinds at hequipment ⊢
  rw [DataModel.mk.injEq]
  exact ⟨hequipment, rfl, rfl, rfl, rfl, rfl, rfl, rfl, rfl, rfl⟩

theorem classifyEntities_withInferredKinds (kinds : ℕ → EntityKind) :
    (model.withInferredKinds kinds).classifyEntities = model.classifyEntities := by
  rw [classifyEntities_eq, classifyEntities_eq, withInferredKinds_withInferredKinds,
    (funext fun _ => specifiedKind_withInferredKinds kinds :
      (model.withInferredKinds kinds).specifiedKind = model.specifiedKind)]

theorem classifyEntities_classifyEntities (model : DataModel) :
    model.classifyEntities.classifyEntities = model.classifyEntities := by
  rw [classifyEntities_eq model, classifyEntities_withInferredKinds, classifyEntities_eq]

/-! ## Renumbering -/

/-- An object under its new number, with the new number of its parent. -/
def Equipment.renumber (objects : ℕ → ℕ) (equipment : Equipment) : Equipment :=
  { equipment with
    index := equipment.index.map objects
    parentIndex := equipment.parentIndex.map objects }

/-- A tag with the new number of its object. -/
def Tag.renumber (objects : ℕ → ℕ) (tag : Tag) : Tag :=
  { tag with equipmentIndex := tag.equipmentIndex.map objects }

/-- A tag apart from its place among the tags. -/
def Tag.unplaced (tag : Tag) : Tag :=
  { tag with index := none }

@[simp] theorem Tag.unplaced_equipmentIndex (tag : Tag) :
    tag.unplaced.equipmentIndex = tag.equipmentIndex := rfl

@[simp] theorem Tag.renumber_equipmentIndex (objects : ℕ → ℕ) (tag : Tag) :
    (tag.renumber objects).equipmentIndex = tag.equipmentIndex.map objects := rfl

/-- Two models have the same objects under other numbers and the same tags in another order. -/
structure Renumbering (model renumbered : DataModel) where
  objects : Equiv.Perm ℕ
  equipment : ∀ index, renumbered.equipment[objects index]? =
    model.equipment[index]?.map (Equipment.renumber objects)
  tags : (renumbered.tags.map Tag.unplaced).Perm
    (model.tags.map fun tag => (tag.renumber objects).unplaced)
  structureUpdateActive : renumbered.structureUpdateActive = model.structureUpdateActive
  structureDirty : renumbered.structureDirty = model.structureDirty

/-- The model with these numbers for its objects and with its tags in this order. -/
def renumber (model : DataModel) (objects : Equiv.Perm ℕ) (tags : List Tag) : DataModel :=
  { model with
    equipment := (List.range model.equipment.length).map fun place =>
      (model.equipment.getD (objects.symm place) {}).renumber objects
    tags := tags.map (Tag.renumber objects) }

namespace Renumbering

/-- Every numbering of the objects and every order of the tags is one. -/
def ofPerm (objects : Equiv.Perm ℕ) {tags : List Tag}
    (hobjects : ∀ index, objects index < model.equipment.length ↔ index < model.equipment.length)
    (htags : tags.Perm model.tags) : Renumbering model (model.renumber objects tags) where
  objects := objects
  equipment index := by
    by_cases hindex : index < model.equipment.length
    · simp [renumber, (hobjects index).mpr hindex, hindex]
    · have hplace := mt (hobjects index).mp hindex
      simp [renumber, not_lt.mp hindex, not_lt.mp hplace]
  tags := by
    simpa [renumber, Function.comp_def] using htags.map fun tag => (tag.renumber objects).unplaced
  structureUpdateActive := rfl
  structureDirty := rfl

theorem isParent_iff (numbering : Renumbering model renumbered) :
    IsParent renumbered (numbering.objects index) ↔ IsParent model index := by
  simp only [IsParent, List.mem_iff_getElem?]
  constructor
  · rintro ⟨child, ⟨place, hchild⟩, hparent⟩
    obtain ⟨old, rfl⟩ := numbering.objects.surjective place
    rw [numbering.equipment, Option.map_eq_some_iff] at hchild
    obtain ⟨oldChild, hold, rfl⟩ := hchild
    obtain ⟨parent, hparent, hsame⟩ := Option.map_eq_some_iff.mp hparent
    exact ⟨oldChild, ⟨old, hold⟩, hparent.trans (congrArg some (numbering.objects.injective hsame))⟩
  · rintro ⟨child, ⟨place, hchild⟩, hparent⟩
    refine ⟨child.renumber numbering.objects, ⟨numbering.objects place, ?_⟩, ?_⟩
    · rw [numbering.equipment, hchild, Option.map_some]
    · exact congrArg (Option.map numbering.objects) hparent

theorem ownsTag_iff (numbering : Renumbering model renumbered) {such : Tag → Bool}
    (hunplaced : ∀ tag, such tag.unplaced = such tag)
    (hrenumber : ∀ objects tag, such (Tag.renumber objects tag) = such tag) :
    OwnsTag renumbered (numbering.objects index) such ↔ OwnsTag model index such := by
  have hnumber : ∀ tag : Tag, tag.equipmentIndex.map numbering.objects =
      some (numbering.objects index) ↔ tag.equipmentIndex = some index := fun tag =>
    (Option.map_injective numbering.objects.injective).eq_iff' rfl
  calc OwnsTag renumbered (numbering.objects index) such
      ↔ ∃ tag ∈ renumbered.tags.map Tag.unplaced,
          tag.equipmentIndex = some (numbering.objects index) ∧ such tag = true := by
        simp [OwnsTag, hunplaced]
    _ ↔ ∃ tag ∈ model.tags.map fun tag => (tag.renumber numbering.objects).unplaced,
          tag.equipmentIndex = some (numbering.objects index) ∧ such tag = true := by
        simp only [numbering.tags.mem_iff]
    _ ↔ OwnsTag model index such := by
        simp [OwnsTag, hunplaced, hrenumber, hnumber]

theorem specifiedKind_eq (numbering : Renumbering model renumbered) :
    renumbered.specifiedKind (numbering.objects index) = model.specifiedKind index := by
  refine if_congr numbering.isParent_iff rfl
    (if_congr ?_ rfl (if_congr ?_ rfl (if_congr ?_ rfl rfl)))
  · exact numbering.ownsTag_iff (fun _ => rfl) fun _ _ => rfl
  · exact numbering.ownsTag_iff (fun _ => rfl) fun _ _ => rfl
  · exact numbering.ownsTag_iff (fun _ => rfl) fun _ _ => rfl

/-- Every object keeps its kind under its new number. -/
theorem classifyEntities_getElem? (numbering : Renumbering model renumbered) (index : ℕ) :
    renumbered.classifyEntities.equipment[numbering.objects index]? =
      model.classifyEntities.equipment[index]?.map (Equipment.renumber numbering.objects) := by
  rw [classifyEntities_eq, classifyEntities_eq, withInferredKinds_getElem?,
    withInferredKinds_getElem?, numbering.equipment, Option.map_map, Option.map_map,
    numbering.specifiedKind_eq]
  refine congrArg (Option.map · _) (funext fun equipment => ?_)
  by_cases hexplicit : equipment.entityKindExplicit = true
  · simp [Equipment.renumber, hexplicit]
  · simp [Equipment.renumber, hexplicit]

end Renumbering

/-! ## The end of a batch -/

theorem endStructureUpdate_equipment (hactive : model.structureUpdateActive = true)
    (hdirty : model.structureDirty = true) :
    model.endStructureUpdate.equipment = model.classifyEntities.equipment := by
  simp [endStructureUpdate, hactive, hdirty]

theorem endStructureUpdate_congr {other : DataModel}
    (hactive : model.structureUpdateActive = true) (hdirty : model.structureDirty = true)
    (hotherActive : other.structureUpdateActive = true) (hotherDirty : other.structureDirty = true)
    (hsame : other.classifyEntities = model.classifyEntities) :
    other.endStructureUpdate = model.endStructureUpdate := by
  simp only [endStructureUpdate, hactive, hdirty, hotherActive, hotherDirty, hsame, Bool.and_self,
    if_true]

/-- At the end of a batch that changed the model, the explicit kinds stay and the others are the
specified ones, whatever was inferred before, however often it is inferred, and whatever the order
of the tags and the numbers of the objects. -/
theorem endStructureUpdate_classifies (hactive : model.structureUpdateActive = true)
    (hdirty : model.structureDirty = true) :
    (∀ index : ℕ, model.endStructureUpdate.equipment[index]? =
        model.equipment[index]?.map fun equipment =>
          if equipment.entityKindExplicit then equipment
          else { equipment with entityKind := model.specifiedKind index }) ∧
      (∀ kinds, (model.withInferredKinds kinds).endStructureUpdate = model.endStructureUpdate) ∧
      model.endStructureUpdate.classifyEntities = model.endStructureUpdate ∧
      ∀ (renumbered : DataModel) (numbering : Renumbering model renumbered) (index : ℕ),
        renumbered.endStructureUpdate.equipment[numbering.objects index]? =
          model.endStructureUpdate.equipment[index]?.map
            (Equipment.renumber numbering.objects) := by
  refine ⟨fun index => ?_, fun kinds => ?_, ?_, fun renumbered numbering index => ?_⟩
  · rw [endStructureUpdate_equipment hactive hdirty, classifyEntities_eq,
      withInferredKinds_getElem?]
  · exact endStructureUpdate_congr hactive hdirty hactive hdirty
      (classifyEntities_withInferredKinds kinds)
  · have hpublished : model.endStructureUpdate =
        { model.classifyEntities with
          structureGeneration := bump model.structureGeneration
          structureUpdateActive := false
          structureDirty := false } := by
      simp [endStructureUpdate, classifyEntities, hactive, hdirty]
    rw [hpublished]
    -- the generation and the flags are not read
    calc _ = { model.classifyEntities.classifyEntities with
          structureGeneration := bump model.structureGeneration
          structureUpdateActive := false
          structureDirty := false } := rfl
      _ = _ := by rw [classifyEntities_classifyEntities]
  · rw [endStructureUpdate_equipment hactive hdirty,
      endStructureUpdate_equipment (numbering.structureUpdateActive.trans hactive)
        (numbering.structureDirty.trans hdirty)]
    exact numbering.classifyEntities_getElem? index

/-- A plant with a pump that can be switched. -/
private def pumpModel : DataModel :=
  { empty 4 4 with
    equipment := [{ index := some 0, parentIndex := none }, { index := some 1 }]
    tags := [{ equipmentIndex := some 1, dataType := .boolean, writable := true }]
    structureUpdateActive := true
    structureDirty := true }

theorem pumpModel_classifies :
    pumpModel.endStructureUpdate.equipment[1]? =
        pumpModel.equipment[1]?.map (fun equipment =>
          if equipment.entityKindExplicit then equipment
          else { equipment with entityKind := pumpModel.specifiedKind 1 }) ∧
      pumpModel.specifiedKind 0 = .system ∧ pumpModel.specifiedKind 1 = .activeEquipment :=
  ⟨(@endStructureUpdate_classifies pumpModel rfl rfl).1 1, by decide +kernel,
    by decide +kernel⟩

end CrowPanel.DataModel
