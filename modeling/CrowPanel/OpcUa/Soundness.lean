import CrowPanel.DataModel.Representation
import CrowPanel.OpcUa.Walk

/-!
# Discovery is sound

After a good discovery the NodeId maps and the data model describe the same nodes, and the hierarchy
of the model is a forest; after any other discovery model and maps are empty.  Nothing is assumed
about the server, about what the client held before, or about the bounds.

## Strategy

* `Consistent` is the invariant of a running discovery.  Each elementary change of `Walk` preserves
  it (`DiscoveryStep.consistent`), the cleared context has it, and a good browse consists of
  elementary changes.
* `discoverAddressSpace_dataModel` reads the same browse as calls of the data model: a discovery is
  one structure update which clears the model, adds records, and clears again on failure.
-/

namespace CrowPanel.OpcUa

open Library DataModel Relation

/-- The maps and the model describe the same nodes. -/
structure Consistent (context : Context) : Prop where
  objects_nodup : context.equipmentNodeIds.Nodup
  tags_nodup : context.tagNodeIds.Nodup
  objects_custom : ∀ nodeId ∈ context.equipmentNodeIds, nodeId.namespaceIndex ≠ 0
  tags_custom : ∀ nodeId ∈ context.tagNodeIds, nodeId.namespaceIndex ≠ 0
  objects_text : context.dataModel.equipment.map Equipment.nodeId =
    context.equipmentNodeIds.map NodeId.text
  tags_text : context.dataModel.tags.map Tag.nodeId = context.tagNodeIds.map NodeId.text
  parents_earlier : ∀ (index : ℕ) (equipment : Equipment),
    context.dataModel.equipment[index]? = some equipment →
      ∀ parent, equipment.parentIndex = some parent → parent < index
  tags_owned : ∀ tag ∈ context.dataModel.tags,
    ∃ owner, tag.equipmentIndex = some owner ∧ owner < context.dataModel.equipment.length

/-- Storing after the last cell in use appends. -/
theorem storeLast_length {α : Type} (cells : List α) (blank value : α) :
    storeLast cells cells.length blank value = cells ++ [value] := by
  simp [storeLast, List.takeD_eq_take]

namespace Consistent

variable {context : Context}

theorem objects_length (hconsistent : Consistent context) :
    context.equipmentNodeIds.length = context.dataModel.equipment.length := by
  simpa using (congrArg List.length hconsistent.objects_text).symm

theorem tags_length (hconsistent : Consistent context) :
    context.tagNodeIds.length = context.dataModel.tags.length := by
  simpa using (congrArg List.length hconsistent.tags_text).symm

theorem withObject (hconsistent : Consistent context) {equipment : Equipment} {nodeId : NodeId}
    (hcustom : nodeId.namespaceIndex ≠ 0) (hunmapped : nodeId ∉ context.equipmentNodeIds)
    (htext : equipment.nodeId = nodeId.text) (hparent : context.HasObject equipment.parentIndex)
    (hroom : context.dataModel.equipment.length < context.dataModel.equipmentCapacity) :
    Consistent (context.withObject equipment nodeId) := by
  have hids : (context.withObject equipment nodeId).equipmentNodeIds =
      context.equipmentNodeIds ++ [nodeId] := by
    simp only [Context.withObject, ← hconsistent.objects_length, storeLast_length]
  have hequipment : (context.withObject equipment nodeId).dataModel.equipment =
      context.dataModel.equipment ++
        [{ equipment with index := some context.dataModel.equipment.length }] :=
    addEquipment_equipment hroom
  have htags : (context.withObject equipment nodeId).dataModel.tags = context.dataModel.tags :=
    addEquipment_tags _
  constructor
  · rw [hids]
    simpa using List.Nodup.concat hunmapped hconsistent.objects_nodup
  · exact hconsistent.tags_nodup
  · rw [hids]
    exact List.forall_mem_append.mpr ⟨hconsistent.objects_custom, by simpa using hcustom⟩
  · exact hconsistent.tags_custom
  · rw [hequipment, hids, List.map_append, List.map_append, hconsistent.objects_text]
    simp [htext]
  · rw [htags]
    exact hconsistent.tags_text
  · rw [hequipment]
    exact forall_getElem?_concat hconsistent.parents_earlier fun parent hobject =>
      hparent parent hobject
  · intro tag htag
    rw [htags] at htag
    obtain ⟨owner, howner, hlt⟩ := hconsistent.tags_owned tag htag
    exact ⟨owner, howner, by rw [hequipment]; simp; omega⟩

theorem withTag (hconsistent : Consistent context) {tag : Tag} {nodeId : NodeId}
    {type : Option BuiltinType} {owner : ℕ} (hcustom : nodeId.namespaceIndex ≠ 0)
    (hunmapped : nodeId ∉ context.tagNodeIds) (htext : tag.nodeId = nodeId.text)
    (howned : tag.equipmentIndex = some owner)
    (howner : owner < context.dataModel.equipment.length)
    (hroom : context.dataModel.tags.length < context.dataModel.tagCapacity) :
    Consistent (context.withTag tag nodeId type) := by
  have hids : (context.withTag tag nodeId type).tagNodeIds = context.tagNodeIds ++ [nodeId] := by
    simp only [Context.withTag, ← hconsistent.tags_length, storeLast_length]
  have htags : (context.withTag tag nodeId type).dataModel.tags =
      context.dataModel.tags ++ [{ tag with index := some context.dataModel.tags.length }] :=
    addTag_tags hroom
  have hequipment : (context.withTag tag nodeId type).dataModel.equipment =
      context.dataModel.equipment := addTag_equipment _
  constructor
  · exact hconsistent.objects_nodup
  · rw [hids]
    simpa using List.Nodup.concat hunmapped hconsistent.tags_nodup
  · exact hconsistent.objects_custom
  · rw [hids]
    exact List.forall_mem_append.mpr ⟨hconsistent.tags_custom, by simpa using hcustom⟩
  · rw [hequipment]
    exact hconsistent.objects_text
  · rw [htags, hids, List.map_append, List.map_append, hconsistent.tags_text]
    simp [htext]
  · rw [hequipment]
    exact hconsistent.parents_earlier
  · rw [htags, hequipment]
    exact List.forall_mem_append.mpr ⟨hconsistent.tags_owned, by simpa using ⟨owner, howned, howner⟩⟩

end Consistent

theorem DiscoveryStep.consistent {context next : Context} (hstep : DiscoveryStep context next)
    (hconsistent : Consistent context) : Consistent next := by
  cases hstep with
  | requests => exact { hconsistent with }
  | object custom unmapped text parent room =>
      exact hconsistent.withObject custom unmapped text parent room
  | tag custom unmapped text owned existsOwner room =>
      exact hconsistent.withTag custom unmapped text owned existsOwner room

theorem Steps.consistent {context next : Context} (hsteps : Steps context next)
    (hconsistent : Consistent context) : Consistent next := by
  induction hsteps with
  | refl => exact hconsistent
  | tail _ hstep ih => exact hstep.consistent ih

/-! ## The whole discovery -/

/-- The context from which `discover_address_space` starts to browse. -/
def Context.cleared (context : Context) : Context :=
  { context with dataModel := context.dataModel.beginStructureUpdate.clear }.clearTagNodeIds

theorem Context.cleared_consistent (context : Context) : Consistent context.cleared := by
  constructor <;> simp [Context.cleared, Context.clearTagNodeIds, DataModel.clear]

/-- The context after `data_model_end_structure_update`. -/
def Context.published (context : Context) : Context :=
  { context with dataModel := context.dataModel.endStructureUpdate }

/-- The context after the clean-up of a failed browse. -/
def Context.abandoned (context : Context) : Context :=
  { context with dataModel := context.dataModel.clear }.clearTagNodeIds

/-- A discovery browses from the cleared context and publishes the result, after a clean-up where
the browse has failed. -/
theorem discoverAddressSpace_cases (env : Environment) (context : Context) :
    ∃ status browsed,
      browseChildren env (context.configuration.maximumBrowseDepth + 1) .objectsFolder none
          context.cleared = (status, browsed) ∧
        discoverAddressSpace env context =
          (status, if status = .good then browsed.published else browsed.abandoned.published) := by
  let finish : StatusCode × Context → StatusCode × Context := fun result =>
    (result.1, (if result.1 ≠ .good then result.2.abandoned else result.2).published)
  have hfinish : discoverAddressSpace env context =
      finish (browseChildren env (context.configuration.maximumBrowseDepth + 1) .objectsFolder none
        context.cleared) := rfl
  rcases hbrowse : browseChildren env (context.configuration.maximumBrowseDepth + 1) .objectsFolder
    none context.cleared with ⟨status, browsed⟩
  refine ⟨status, browsed, rfl, ?_⟩
  rw [hfinish, hbrowse]
  by_cases hstatus : status = .good <;> simp [finish, hstatus]

/-- What the client and the model hold after a good discovery. -/
structure Discovered (context : Context) : Prop where
  objects_nodup : context.equipmentNodeIds.Nodup
  tags_nodup : context.tagNodeIds.Nodup
  objects_custom : ∀ nodeId ∈ context.equipmentNodeIds, nodeId.namespaceIndex ≠ 0
  tags_custom : ∀ nodeId ∈ context.tagNodeIds, nodeId.namespaceIndex ≠ 0
  objects_count : context.equipmentNodeIds.length = context.dataModel.objectCount
  tags_count : context.tagNodeIds.length = context.dataModel.tagCount
  object_text : ∀ (index : ℕ) (equipment : Equipment) (nodeId : NodeId),
    context.dataModel.getEquipment index = some equipment →
      context.equipmentNodeIds[index]? = some nodeId → equipment.nodeId = nodeId.text
  tag_text : ∀ (index : ℕ) (tag : Tag) (nodeId : NodeId),
    context.dataModel.getTag index = some tag →
      context.tagNodeIds[index]? = some nodeId → tag.nodeId = nodeId.text
  parent_earlier : ∀ (index : ℕ) (equipment : Equipment),
    context.dataModel.getEquipment index = some equipment →
      equipment.parentIndex = none ∨ ∃ parent, equipment.parentIndex = some parent ∧ parent < index
  tag_owned : ∀ (index : ℕ) (tag : Tag), context.dataModel.getTag index = some tag →
    ∃ owner, tag.equipmentIndex = some owner ∧ owner < context.dataModel.objectCount

/-- What they hold after a failed one. -/
structure Cleared (context : Context) : Prop where
  no_objects : context.dataModel.equipment = []
  no_tags : context.dataModel.tags = []
  no_alarms : context.dataModel.alarms = []
  no_object_ids : context.equipmentNodeIds = []
  no_tag_ids : context.tagNodeIds = []


/-- Publishing classifies objects, which leaves their texts and their parents alone. -/
theorem endStructureUpdate_equipment (model : DataModel) :
    ∃ classify : ℕ → Equipment → Equipment,
      (∀ index equipment, (classify index equipment).nodeId = equipment.nodeId ∧
        (classify index equipment).parentIndex = equipment.parentIndex) ∧
      model.endStructureUpdate.equipment = model.equipment.mapIdx classify := by
  unfold endStructureUpdate
  split
  · refine ⟨fun index equipment => if equipment.entityKindExplicit then equipment
      else { equipment with entityKind := model.inferredKind index }, ?_, rfl⟩
    intro index equipment
    dsimp only
    split <;> exact ⟨rfl, rfl⟩
  · refine ⟨fun _ equipment => equipment, fun _ _ => ⟨rfl, rfl⟩, List.ext_getElem? fun index => ?_⟩
    simp [List.getElem?_mapIdx]

@[simp] theorem endStructureUpdate_tags (model : DataModel) :
    model.endStructureUpdate.tags = model.tags := by
  unfold endStructureUpdate
  split <;> rfl

theorem Consistent.published {context : Context} (hconsistent : Consistent context) :
    Consistent context.published := by
  obtain ⟨classify, hclassify, hequipment⟩ := endStructureUpdate_equipment context.dataModel
  have htags : context.published.dataModel.tags = context.dataModel.tags :=
    endStructureUpdate_tags _
  exact
    { objects_nodup := hconsistent.objects_nodup
      tags_nodup := hconsistent.tags_nodup
      objects_custom := hconsistent.objects_custom
      tags_custom := hconsistent.tags_custom
      objects_text := by
        refine Eq.trans ?_ hconsistent.objects_text
        refine List.ext_getElem? fun index => ?_
        simp only [Context.published, hequipment, List.getElem?_map, List.getElem?_mapIdx,
          Option.map_map]
        congr 1
        funext equipment
        exact (hclassify index equipment).1
      tags_text := by
        rw [htags]
        exact hconsistent.tags_text
      parents_earlier := by
        intro index equipment hget parent hparent
        simp only [Context.published, hequipment, List.getElem?_mapIdx] at hget
        obtain ⟨before, hbefore, rfl⟩ := Option.map_eq_some_iff.mp hget
        rw [(hclassify index before).2] at hparent
        exact hconsistent.parents_earlier index before hbefore parent hparent
      tags_owned := by
        rw [htags]
        simpa [Context.published, hequipment] using hconsistent.tags_owned }

theorem Consistent.discovered {context : Context} (hconsistent : Consistent context) :
    Discovered context where
  objects_nodup := hconsistent.objects_nodup
  tags_nodup := hconsistent.tags_nodup
  objects_custom := hconsistent.objects_custom
  tags_custom := hconsistent.tags_custom
  objects_count := hconsistent.objects_length
  tags_count := hconsistent.tags_length
  object_text := by
    intro index equipment nodeId hget hid
    have htexts := congrArg (fun texts => texts[index]?) hconsistent.objects_text
    simp only [List.getElem?_map, hid] at htexts
    rw [show context.dataModel.equipment[index]? = some equipment from hget] at htexts
    exact Option.some.inj htexts
  tag_text := by
    intro index tag nodeId hget hid
    have htexts := congrArg (fun texts => texts[index]?) hconsistent.tags_text
    simp only [List.getElem?_map, hid] at htexts
    rw [show context.dataModel.tags[index]? = some tag from hget] at htexts
    exact Option.some.inj htexts
  parent_earlier := by
    intro index equipment hget
    rcases hparent : equipment.parentIndex with _ | parent
    · exact .inl rfl
    · exact .inr ⟨parent, rfl, hconsistent.parents_earlier index equipment hget parent hparent⟩
  tag_owned := fun index tag hget =>
    hconsistent.tags_owned tag (List.mem_of_getElem? hget)

theorem Context.abandoned_cleared (context : Context) : Cleared context.abandoned.published where
  no_objects := by
    obtain ⟨classify, _, hequipment⟩ := endStructureUpdate_equipment context.dataModel.clear
    exact hequipment.trans (by simp [DataModel.clear])
  no_tags := by
    refine (endStructureUpdate_tags context.dataModel.clear).trans ?_
    simp [DataModel.clear]
  no_alarms := by
    simp only [Context.published, endStructureUpdate]
    split <;> simp [Context.abandoned, Context.clearTagNodeIds, DataModel.clear, classifyEntities]
  no_object_ids := rfl
  no_tag_ids := rfl

theorem discoverAddressSpace_consistent {env : Environment} {context : Context}
    (hgood : (discoverAddressSpace env context).1 = .good) :
    Consistent (discoverAddressSpace env context).2 := by
  obtain ⟨status, browsed, hbrowse, hdiscover⟩ := discoverAddressSpace_cases env context
  have houtcome := browseChildren_outcome env (context.configuration.maximumBrowseDepth + 1)
    .objectsFolder none context.cleared (by simp [Context.HasObject])
  rw [hdiscover] at hgood ⊢
  obtain rfl : status = .good := hgood
  rw [hbrowse] at houtcome
  exact (houtcome.steps.consistent context.cleared_consistent).published

theorem discoverAddressSpace_discovered {env : Environment} {context : Context}
    (hgood : (discoverAddressSpace env context).1 = .good) :
    Discovered (discoverAddressSpace env context).2 :=
  (discoverAddressSpace_consistent hgood).discovered

theorem discoverAddressSpace_cleared {env : Environment} {context : Context}
    (hbad : (discoverAddressSpace env context).1 ≠ .good) :
    Cleared (discoverAddressSpace env context).2 := by
  obtain ⟨status, browsed, _, hdiscover⟩ := discoverAddressSpace_cases env context
  rw [hdiscover] at hbad ⊢
  have hstatus : status ≠ .good := hbad
  simp only [hstatus, if_false]
  exact browsed.abandoned_cleared

/-- **Discovery soundness.**  A good discovery leaves maps and model that describe the same distinct
custom nodes in a forest; any other one leaves them empty. -/
theorem discoverAddressSpace_sound (env : Environment) (context : Context) :
    let result := discoverAddressSpace env context
    (result.1 = .good → Discovered result.2) ∧ (result.1 ≠ .good → Cleared result.2) :=
  ⟨discoverAddressSpace_discovered, discoverAddressSpace_cleared⟩

/-- A server with a fixed address space: it returns all references at once, has no properties, and
all its variables are writable booleans without a value. -/
def staticServer (references : NodeId → List ReferenceDescription) : Environment where
  newBrowseDescription := fun _ => true
  browse := fun _ description =>
    { first := { results :=
        [{ references :=
            if description = childDescription description.nodeId then references description.nodeId
            else [] }] } }
  copyContinuationPoint := fun _ => .good
  readDataType := fun _ _ => (.good, .ns0 1)
  readUserAccessLevel := fun _ _ => (.good, 3)
  readValue := fun _ _ => (.good, .other)

/-- A pump that refers back to itself and has one variable. -/
def pumpSpace (nodeId : NodeId) : List ReferenceDescription :=
  if nodeId = .objectsFolder then
    [{ nodeId := ⟨1, .numeric 7⟩, nodeClass := .object, referenceTypeId := .organizes }]
  else if nodeId = ⟨1, .numeric 7⟩ then
    [{ nodeId := ⟨1, .numeric 8⟩, nodeClass := .variable, referenceTypeId := .hasComponent },
      { nodeId := ⟨1, .numeric 7⟩, nodeClass := .object, referenceTypeId := .organizes }]
  else []

/-- A client that holds nothing yet. -/
def freshContext (maximumBrowseDepth : ℕ) : Context where
  configuration := ⟨8, 8, maximumBrowseDepth⟩
  dataModel := .empty 8 8

theorem discoverAddressSpace_sound_pump :
    (discoverAddressSpace (staticServer pumpSpace) (freshContext 4)).2.tagNodeIds =
        [⟨1, .numeric 8⟩] ∧
      Discovered (discoverAddressSpace (staticServer pumpSpace) (freshContext 4)).2 :=
  ⟨by decide +kernel,
    (discoverAddressSpace_sound (staticServer pumpSpace) (freshContext 4)).1 (by decide +kernel)⟩

/-! ## The discovery as one structure update -/

theorem DiscoveryStep.additions {context next : Context} (hstep : DiscoveryStep context next) :
    ∃ ops, (∀ op ∈ ops, IsAddition op) ∧ next.dataModel = context.dataModel.run ops := by
  cases hstep with
  | requests => exact ⟨[], by simp, rfl⟩
  | object => exact ⟨[.addEquipment (some _)], by simp [IsAddition], rfl⟩
  | tag => exact ⟨[.addTag (some _)], by simp [IsAddition], rfl⟩

theorem Steps.additions {context next : Context} (hsteps : Steps context next) :
    ∃ ops, (∀ op ∈ ops, IsAddition op) ∧ next.dataModel = context.dataModel.run ops := by
  induction hsteps with
  | refl => exact ⟨[], by simp, rfl⟩
  | tail _ hstep ih =>
      obtain ⟨before, hbefore, hmiddle⟩ := ih
      obtain ⟨after, hafter, hnext⟩ := hstep.additions
      exact ⟨before ++ after, List.forall_mem_append.mpr ⟨hbefore, hafter⟩,
        by rw [hnext, hmiddle, run_append]⟩

theorem Outcome.additions {context next : Context} {status : StatusCode}
    (houtcome : Outcome context (status, next)) :
    ∃ ops, (∀ op ∈ ops, IsAddition op) ∧ next.dataModel = context.dataModel.run ops := by
  rcases houtcome with hsteps | ⟨_, middle, op, calls, hsteps, hop, hnext⟩
  · exact hsteps.additions
  · obtain ⟨ops, hops, hmiddle⟩ := hsteps.additions
    obtain rfl : next = _ := hnext
    exact ⟨ops ++ [op], List.forall_mem_append.mpr ⟨hops, by simpa using hop.isAddition⟩,
      by rw [run_concat, ← hmiddle]⟩

/-- For the data model a discovery is one structure update that clears, adds records, and clears
again when the discovery fails. -/
theorem discoverAddressSpace_dataModel (env : Environment) (context : Context) :
    ∃ additions, (∀ op ∈ additions, IsAddition op) ∧
      (discoverAddressSpace env context).2.dataModel =
        context.dataModel.run (.beginStructureUpdate :: .clear :: (additions ++
          ((if (discoverAddressSpace env context).1 = .good then [] else [.clear]) ++
            [.endStructureUpdate]))) := by
  obtain ⟨status, browsed, hbrowse, hdiscover⟩ := discoverAddressSpace_cases env context
  have houtcome := browseChildren_outcome env (context.configuration.maximumBrowseDepth + 1)
    .objectsFolder none context.cleared (by simp [Context.HasObject])
  rw [hbrowse] at houtcome
  obtain ⟨additions, hadditions, hbrowsed⟩ := houtcome.additions
  refine ⟨additions, hadditions, ?_⟩
  have hcleared : context.dataModel.beginStructureUpdate.clear.run additions =
      browsed.dataModel := hbrowsed.symm
  rw [hdiscover]
  simp only [DataModel.run, DataModel.exec, run_append, hcleared]
  by_cases hstatus : status = .good
  · simp [hstatus, Context.published]
  · simp [hstatus, Context.published, Context.abandoned, Context.clearTagNodeIds, DataModel.run,
      DataModel.exec]

end CrowPanel.OpcUa
