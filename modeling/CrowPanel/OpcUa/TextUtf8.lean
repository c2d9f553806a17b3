import CrowPanel.Library.Buffer
import CrowPanel.Library.Utf8
import CrowPanel.OpcUa.Soundness

/-!
# Names and units in UTF-8

`ua_string_to_text` cuts a text at a number of bytes, wherever that is.  What it leaves in the buffer is
well-formed UTF-8 exactly if the cut goes between two characters.

## Strategy

`uaStringToTextIn` is the function with its writes, and `uaStringToTextIn_leaves` says what it leaves in
a buffer of any size.  Whether that is well formed is a question about the cut alone
(`Utf8.wellFormed_take_iff`).  The names and units in the data model come from this function only, so
they are well formed after every discovery of a server whose texts survive the cut
(`discoverAddressSpace_wellNamed`).
-/

namespace CrowPanel.OpcUa

open Library DataModel

/-! ## The copy -/

/-- `ua_string_to_text`, as it writes into a buffer. -/
def uaStringToTextIn (buffer : Buffer) (source : UaString) : Option Buffer :=
  if buffer.length = 0 then some buffer
  else if source.getD [] = [] then buffer.store 0 0
  else
    let data := source.getD []
    let copyLength := if data.length < buffer.length - 1 then data.length else buffer.length - 1
    (buffer.copy 0 (data.take copyLength)).bind (Buffer.store · copyLength 0)

/-- A text of the server, without NUL. -/
structure UaString.IsText (source : UaString) : Prop where
  wellFormed : Utf8.WellFormed (source.getD [])
  noNul : 0 ∉ source.getD []

instance (source : UaString) : Decidable source.IsText :=
  decidable_of_iff (Utf8.WellFormed (source.getD []) ∧ 0 ∉ source.getD [])
    ⟨fun h => ⟨h.1, h.2⟩, fun h => ⟨h.wellFormed, h.noNul⟩⟩

section

variable {source : UaString} {buffer : Buffer} {size : ℕ}

/-- The copy stays within the buffer and cuts the text behind the last byte but one. -/
theorem uaStringToTextIn_leaves (source : UaString) (hsize : 0 < buffer.length) :
    Buffer.Leaves (uaStringToTextIn buffer source) buffer.length
      ((source.getD []).take (buffer.length - 1)) := by
  unfold uaStringToTextIn
  rw [if_neg (by omega)]
  split
  · next hempty =>
      obtain ⟨old, rest, rfl⟩ := List.exists_cons_of_length_pos hsize
      rw [hempty, List.take_nil]
      exact Buffer.leaves_store [] rest old
  · dsimp only
    have hcopied : (if (source.getD []).length < buffer.length - 1 then (source.getD []).length
        else buffer.length - 1) = ((source.getD []).take (buffer.length - 1)).length := by
      rw [List.length_take]
      split <;> omega
    have htake : (source.getD []).take ((source.getD []).take (buffer.length - 1)).length =
        (source.getD []).take (buffer.length - 1) := by
      rw [List.length_take, Nat.min_comm, ← List.take_take]
      exact List.take_of_length_le (List.length_take_le' _ _)
    rw [hcopied, htake]
    refine Buffer.leaves_copy_store ?_
    have hlength := List.length_take_le (buffer.length - 1) (source.getD [])
    omega

/-- The field of a record holds what the copy leaves. -/
theorem uaStringToText_text [NeZero size] (hsource : 0 ∉ source.getD []) :
    (uaStringToText size source).text = (source.getD []).take (size - 1) :=
  CharArray.ofText_text_take hsource

/-- A cut text is well formed exactly if the cut goes through no character. -/
theorem uaStringToText_wellFormed_iff [NeZero size] (hsource : source.IsText) :
    Utf8.WellFormed (uaStringToText size source).text ↔
      Utf8.KeepsCharacters (size - 1) (source.getD []) := by
  rw [uaStringToText_text hsource.noNul]
  exact Utf8.wellFormed_take_iff hsource.wellFormed _

end

/-! ## The records of the data model -/

/-- The name that a reference is shown with. -/
def ReferenceDescription.shownName (reference : ReferenceDescription) : UaString :=
  if reference.displayName.getD [] = [] then reference.browseName else reference.displayName

section

variable {reference : ReferenceDescription}

theorem displayNameOf_eq (hdisplay : reference.displayName.IsText) :
    displayNameOf reference = uaStringToText nameLength reference.shownName := by
  unfold displayNameOf ReferenceDescription.shownName
  have hempty : (uaStringToText nameLength reference.displayName).text = [] ↔
      reference.displayName.getD [] = [] := by
    rw [uaStringToText_text hdisplay.noNul, List.take_eq_nil_iff]
    simp
  dsimp only
  simp only [hempty]
  split <;> rfl

theorem displayNameOf_wellFormed_iff (hdisplay : reference.displayName.IsText)
    (hbrowse : reference.browseName.IsText) :
    Utf8.WellFormed (displayNameOf reference).text ↔
      Utf8.KeepsCharacters (nameLength - 1) (reference.shownName.getD []) := by
  have hshown : reference.shownName.IsText := by
    unfold ReferenceDescription.shownName
    split
    · exact hbrowse
    · exact hdisplay
  rw [displayNameOf_eq hdisplay]
  exact uaStringToText_wellFormed_iff hshown

end

/-- The properties whose value is the unit of a tag. -/
def IsUnitProperty (propertyName : Text) : Prop :=
  propertyName = ascii "EngineeringUnit" ∨ propertyName = ascii "EngineeringUnits"

theorem applyVariableProperty_unit {propertyName : Text} (hname : IsUnitProperty propertyName)
    (value : UaString) (tag : Tag) :
    (applyVariableProperty propertyName (.string value) tag).engineeringUnit =
      uaStringToText unitLength value := by
  unfold applyVariableProperty
  dsimp only
  rw [if_pos ⟨hname, by rfl⟩]
  rfl

/-! ## A whole discovery -/

/-- The names and the units in the data model are well formed. -/
structure WellNamed (model : DataModel) : Prop where
  equipment : ∀ equipment ∈ model.equipment, Utf8.WellFormed equipment.displayName.text
  tags : ∀ tag ∈ model.tags,
    Utf8.WellFormed tag.displayName.text ∧ Utf8.WellFormed tag.engineeringUnit.text

/-- The server publishes well-formed texts as names and units, and no cut goes through a character of
one of them. -/
structure Environment.KeepsCharacters (env : Environment) : Prop where
  names : ∀ calls nodeId, ∀ reference ∈ (env.browse calls (childDescription nodeId)).delivered,
    reference.displayName.IsText ∧ reference.browseName.IsText ∧
      Utf8.KeepsCharacters (nameLength - 1) (reference.shownName.getD [])
  units : ∀ nodeId property, env.IsProperty nodeId property →
    IsUnitProperty (uaStringToText nameLength property.browseName).text →
      ∀ calls unit, (env.readValue calls property.nodeId).1 = .good →
        (env.readValue calls property.nodeId).2.asString = some unit →
          unit.IsText ∧ Utf8.KeepsCharacters (unitLength - 1) (unit.getD [])

section

variable {env : Environment} {model : DataModel}

theorem WellNamed.addEquipment (hnamed : WellNamed model) {equipment : Equipment}
    (hname : Utf8.WellFormed equipment.displayName.text) :
    WellNamed (model.addEquipment (some equipment)).model where
  equipment := by
    by_cases hroom : model.equipment.length < model.equipmentCapacity
    · rw [addEquipment_equipment hroom]
      intro other hother
      rcases List.mem_append.mp hother with hold | hnew
      · exact hnamed.equipment other hold
      · obtain rfl := List.mem_singleton.mp hnew
        exact hname
    · simp only [DataModel.addEquipment, if_pos (not_lt.mp hroom)]
      exact hnamed.equipment
  tags := by
    rw [addEquipment_tags]
    exact hnamed.tags

theorem WellNamed.addTag (hnamed : WellNamed model) {tag : Tag}
    (hname : Utf8.WellFormed tag.displayName.text)
    (hunit : Utf8.WellFormed tag.engineeringUnit.text) :
    WellNamed (model.addTag (some tag)).model where
  equipment := by
    rw [addTag_equipment]
    exact hnamed.equipment
  tags := by
    by_cases hroom : model.tags.length < model.tagCapacity
    · rw [addTag_tags hroom]
      intro other hother
      rcases List.mem_append.mp hother with hold | hnew
      · exact hnamed.tags other hold
      · obtain rfl := List.mem_singleton.mp hnew
        exact ⟨hname, hunit⟩
    · simp only [DataModel.addTag, if_pos (not_lt.mp hroom)]
      exact hnamed.tags

/-- Metadata of an object do not change its name. -/
theorem readObjectMetadata_displayName (nodeId : NodeId) (equipment : Equipment)
    (context : Context) :
    ReadsInto (fun read => read.displayName = equipment.displayName) context
      (readObjectMetadata env nodeId equipment context) := by
  refine foldProperties_readsInto (fun property _ read context hkeeps => ?_) equipment context
    rfl
  unfold readObjectProperty
  dsimp only
  split
  · exact ⟨read, context.calls, rfl, hkeeps⟩
  · split
    · split <;> exact ⟨_, _, rfl, hkeeps⟩
    · exact ⟨read, _, rfl, hkeeps⟩

/-- A property leaves the name of a tag, and its unit is the old one or the text of the property. -/
theorem applyVariableProperty_names (propertyName : Text) (value : Variant) (tag : Tag) :
    (applyVariableProperty propertyName value tag).displayName = tag.displayName ∧
      ((applyVariableProperty propertyName value tag).engineeringUnit = tag.engineeringUnit ∨
        IsUnitProperty propertyName ∧ ∃ unit, value.asString = some unit ∧
          (applyVariableProperty propertyName value tag).engineeringUnit =
            uaStringToText unitLength unit) := by
  unfold applyVariableProperty
  dsimp only
  split_ifs with hunit
  · obtain ⟨unit, hvalue⟩ := Option.isSome_iff_exists.mp hunit.2
    exact ⟨rfl, .inr ⟨hunit.1, unit, hvalue, by rw [hvalue, Option.getD_some]⟩⟩
  · exact ⟨rfl, .inl rfl⟩
  · split <;> exact ⟨rfl, .inl rfl⟩
  · split <;> exact ⟨rfl, .inl rfl⟩
  · split <;> exact ⟨rfl, .inl rfl⟩
  · exact ⟨rfl, .inl rfl⟩

/-- Metadata of a variable leave its name, and the unit they give it is well formed. -/
theorem readVariableMetadata_names (henv : env.KeepsCharacters) (nodeId : NodeId) (tag : Tag)
    (context : Context) (hunit : Utf8.WellFormed tag.engineeringUnit.text) :
    ReadsInto (fun read => read.displayName = tag.displayName ∧
        Utf8.WellFormed read.engineeringUnit.text) context
      (readVariableMetadata env nodeId tag context) := by
  refine foldProperties_readsInto (fun property hproperty read context hkeeps => ?_) tag context
    ⟨rfl, hunit⟩
  unfold readVariableProperty
  dsimp only
  split
  · exact ⟨read, _, rfl, hkeeps⟩
  · next hstatus =>
    have hgood := not_not.mp hstatus
    obtain ⟨hname, hread⟩ := applyVariableProperty_names
      (uaStringToText nameLength property.browseName).text
      (env.readValue context.calls property.nodeId).2 read
    refine ⟨_, _, rfl, hname.trans hkeeps.1, ?_⟩
    rcases hread with hsame | ⟨hunit, unit, hvalue, hwritten⟩
    · rw [hsame]
      exact hkeeps.2
    · obtain ⟨htext, hkept⟩ := henv.units nodeId property hproperty hunit _ unit hgood hvalue
      rw [hwritten]
      exact (uaStringToText_wellFormed_iff htext).mpr hkept

theorem readInitialValue_names (nodeId : NodeId) (tag : Tag) (context : Context) :
    ReadsInto (fun read => read.displayName = tag.displayName ∧
        read.engineeringUnit = tag.engineeringUnit) context
      (readInitialValue env nodeId tag context) := by
  unfold readInitialValue
  split
  · dsimp only
    split <;> exact ⟨_, _, rfl, rfl, rfl⟩
  · exact ⟨tag, context.calls, rfl, rfl, rfl⟩

/-- The browse of the next level leaves names and units well formed. -/
def KeepsNamed (browse : Browse) : Prop :=
  ∀ nodeId parentIndex context, WellNamed context.dataModel →
    WellNamed (browse nodeId parentIndex context).2.dataModel

variable {browse : Browse} {context : Context} {parentIndex : Option ℕ}
  {reference : ReferenceDescription}

theorem addObject_wellNamed (hbrowse : KeepsNamed browse) (hnamed : WellNamed context.dataModel)
    (hname : Utf8.WellFormed (displayNameOf reference).text) :
    WellNamed (addObject env browse reference parentIndex context).2.dataModel := by
  obtain ⟨equipment, calls, hread, hdisplay⟩ :=
    @readObjectMetadata_displayName env reference.nodeId (equipmentOf reference parentIndex) context
  have hadded : WellNamed (context.dataModel.addEquipment (some equipment)).model :=
    hnamed.addEquipment (by rw [hdisplay]; exact hname)
  simp only [addObject, hread]
  split
  · exact hadded
  · split
    · exact hadded
    · exact hbrowse _ _ _ hadded

theorem addVariable_wellNamed (henv : env.KeepsCharacters) {owner : ℕ}
    (hnamed : WellNamed context.dataModel)
    (hname : Utf8.WellFormed (displayNameOf reference).text) :
    WellNamed (addVariable env reference owner context).2.dataModel := by
  unfold addVariable
  dsimp only
  split
  · exact hnamed
  split
  · exact hnamed
  split
  · exact hnamed
  generalize htag : tagOf reference owner _ _ = fresh
  generalize hasked : (context.record (.readDataType reference.nodeId)).record
    (.readUserAccessLevel reference.nodeId) = asked
  obtain ⟨valued, valuedCalls, hvalue, hvaluedName, hvaluedUnit⟩ :=
    @readInitialValue_names env reference.nodeId fresh asked
  have hunit : Utf8.WellFormed valued.engineeringUnit.text := by
    rw [hvaluedUnit, ← htag]
    exact Utf8.wellFormed_nil
  obtain ⟨tag, calls, hmetadata, htagName, htagUnit⟩ :=
    readVariableMetadata_names henv reference.nodeId valued { asked with calls := valuedCalls } hunit
  have hmodel : asked.dataModel = context.dataModel := by
    rw [← hasked]
    rfl
  have hadded : WellNamed (asked.dataModel.addTag (some tag)).model := by
    rw [hmodel]
    refine hnamed.addTag ?_ htagUnit
    rw [htagName, hvaluedName, ← htag]
    exact hname
  simp only [hvalue, hmetadata]
  split
  · exact hadded
  · split <;> exact hadded

theorem processReference_wellNamed (henv : env.KeepsCharacters) (hbrowse : KeepsNamed browse)
    (hnamed : WellNamed context.dataModel)
    (hname : Utf8.WellFormed (displayNameOf reference).text) :
    WellNamed (processReference env browse parentIndex reference context).2.dataModel := by
  have hhandled := @processReference_handled env browse parentIndex reference context
  generalize processReference env browse parentIndex reference context = result at hhandled ⊢
  cases hhandled with
  | skipped => exact hnamed
  | tag => exact addVariable_wellNamed henv hnamed hname
  | folder => exact hbrowse _ _ _ hnamed
  | mapped => exact hnamed
  | object => exact addObject_wellNamed hbrowse hnamed hname

/-- What every handled reference preserves holds after all of them. -/
theorem Processed.wellNamed {one : ReferenceDescription → Context → StatusCode × Context}
    {references : List ReferenceDescription} {result : StatusCode × Context}
    (hprocessed : Processed one references context result)
    (hone : ∀ reference ∈ references, ∀ context, WellNamed context.dataModel →
      WellNamed (one reference context).2.dataModel)
    (hnamed : WellNamed context.dataModel) : WellNamed result.2.dataModel := by
  induction hprocessed with
  | done => exact hnamed
  | request call _ ih => exact ih hone hnamed
  | next hnext _ ih =>
      have hmiddle := hnext ▸ hone _ List.mem_cons_self _ hnamed
      exact ih (fun other hother => hone other (List.mem_cons_of_mem _ hother)) hmiddle
  | failed hfailed _ _ calls =>
      have hlast := hfailed ▸ hone _ List.mem_cons_self _ hnamed
      exact hlast
  | aborted _ calls => exact hnamed

theorem browseChildren_wellNamed (henv : env.KeepsCharacters) (remaining : ℕ) :
    KeepsNamed (browseChildren env remaining) := by
  induction remaining with
  | zero => exact fun _ _ _ hnamed => hnamed
  | succ remaining ih =>
      intro nodeId parentIndex context hnamed
      refine (browseChildren_processed remaining nodeId context).wellNamed ?_ hnamed
      intro reference hreference context hnamed
      obtain ⟨hdisplay, hbrowseName, hkept⟩ := henv.names _ _ reference hreference
      exact processReference_wellNamed henv ih hnamed
        ((displayNameOf_wellFormed_iff hdisplay hbrowseName).mpr hkept)

/-- Publishing does not change a name or a unit. -/
theorem WellNamed.endStructureUpdate (hnamed : WellNamed model) :
    WellNamed model.endStructureUpdate where
  equipment := by
    unfold DataModel.endStructureUpdate
    split
    · intro equipment hequipment
      obtain ⟨index, hindex, rfl⟩ := List.mem_mapIdx.mp hequipment
      have hname := hnamed.equipment model.equipment[index] (List.getElem_mem hindex)
      split <;> exact hname
    · exact hnamed.equipment
  tags := by
    rw [endStructureUpdate_tags]
    exact hnamed.tags

theorem Context.wellNamed_cleared (context : Context) : WellNamed context.cleared.dataModel := by
  constructor <;> simp [Context.cleared, Context.clearTagNodeIds, DataModel.clear]

/-- After every discovery of a server whose texts survive the cuts, all names and units that the
screens can show are well formed. -/
theorem discoverAddressSpace_wellNamed (henv : env.KeepsCharacters) (context : Context) :
    WellNamed (discoverAddressSpace env context).2.dataModel := by
  obtain ⟨status, browsed, hbrowse, hdiscover⟩ := discoverAddressSpace_cases env context
  have hbrowsed := browseChildren_wellNamed henv (context.configuration.maximumBrowseDepth + 1)
    .objectsFolder none context.cleared context.wellNamed_cleared
  rw [hbrowse] at hbrowsed
  rw [hdiscover]
  split
  · exact hbrowsed.endStructureUpdate
  · refine WellNamed.endStructureUpdate ?_
    constructor <;> simp [Context.abandoned, Context.clearTagNodeIds, DataModel.clear]

end

/-- **Copied texts.**  A text of the server is copied within the buffer, whole or up to the byte that
leaves room for the terminator.  What is copied is well formed exactly if the cut goes through no
character, and so are the names and the units of the data model. -/
theorem uaStringToTextIn_wellFormed {source : UaString} (hsource : source.IsText) {buffer : Buffer}
    (hsize : 0 < buffer.length) :
    (∃ text, Buffer.Leaves (uaStringToTextIn buffer source) buffer.length text ∧
        text <+: source.getD [] ∧
        ((source.getD []).length < buffer.length → text = source.getD []) ∧
        (Utf8.WellFormed text ↔
          Utf8.KeepsCharacters (buffer.length - 1) (source.getD []))) ∧
      (∀ reference : ReferenceDescription, reference.displayName.IsText →
        reference.browseName.IsText →
          (∀ parentIndex, Utf8.WellFormed (equipmentOf reference parentIndex).displayName.text ↔
            Utf8.KeepsCharacters (nameLength - 1) (reference.shownName.getD [])) ∧
          ∀ owner dataTypeId accessLevel,
            Utf8.WellFormed (tagOf reference owner dataTypeId accessLevel).displayName.text ↔
              Utf8.KeepsCharacters (nameLength - 1) (reference.shownName.getD [])) ∧
      (∀ propertyName unit tag, IsUnitProperty propertyName → UaString.IsText unit →
        (Utf8.WellFormed
            (applyVariableProperty propertyName (.string unit) tag).engineeringUnit.text ↔
          Utf8.KeepsCharacters (unitLength - 1) (unit.getD []))) ∧
      ∀ (env : Environment) (context : Context), env.KeepsCharacters →
        WellNamed (discoverAddressSpace env context).2.dataModel := by
  refine ⟨⟨_, uaStringToTextIn_leaves source hsize, List.take_prefix _ _, fun hfits => ?_,
    Utf8.wellFormed_take_iff hsource.wellFormed _⟩, fun reference hdisplay hbrowse => ?_,
    fun propertyName unit tag hname hunit => ?_,
    fun env context henv => discoverAddressSpace_wellNamed henv context⟩
  · exact List.take_of_length_le (by omega)
  · have hiff := displayNameOf_wellFormed_iff hdisplay hbrowse
    exact ⟨fun _ => hiff, fun _ _ _ => hiff⟩
  · rw [applyVariableProperty_unit hname]
    exact uaStringToText_wellFormed_iff hunit

/-- 32 Cyrillic letters of two bytes each. -/
def cyrillicName : Text :=
  (List.replicate 32 [0xD0, 0x9F]).flatten

/-- The last letter of this name loses its second byte in a buffer of the size of a name. -/
theorem uaStringToTextIn_cuts_cyrillicName :
    UaString.IsText (some cyrillicName) ∧
      (∃ text, Buffer.Leaves (uaStringToTextIn (List.replicate nameLength 0) (some cyrillicName))
        nameLength text ∧ 0 ∉ text ∧ ¬ Utf8.WellFormed text) ∧
      (¬ ∃ text, Buffer.Leaves
          (uaStringToTextIn (List.replicate nameLength 0) (some cyrillicName)) nameLength text ∧
        text <+: cyrillicName ∧ Utf8.WellFormed text) ∧
      ¬ Utf8.WellFormed (equipmentOf
        { nodeId := ⟨1, .numeric 7⟩, nodeClass := .object, displayName := some cyrillicName }
        none).displayName.text := by
  have hrun : uaStringToTextIn (List.replicate nameLength 0) (some cyrillicName) =
      some (cyrillicName.take 63 ++ [0]) := by decide +kernel
  have hcut : ¬ Utf8.WellFormed (cyrillicName.take 63) := by decide +kernel
  refine ⟨by decide +kernel, ⟨_, ⟨_, hrun, by decide +kernel, [], rfl⟩, by decide +kernel, hcut⟩, ?_,
    by decide +kernel⟩
  rintro ⟨text, ⟨buffer, hbuffer, -, hholds⟩, hfront, hwellFormed⟩
  have hnul : 0 ∉ text := fun hmem =>
    absurd (hfront.subset hmem) (by decide +kernel : (0 : UInt8) ∉ cyrillicName)
  obtain rfl := Option.some.inj (hrun.symm.trans hbuffer)
  have htext : cString (cyrillicName.take 63 ++ [0]) = text := hholds.cString_eq hnul
  have hread : cString (cyrillicName.take 63 ++ [0]) = cyrillicName.take 63 := by decide +kernel
  exact hcut (by rwa [← hread, htext])

/-- A name of one letter fits. -/
theorem uaStringToTextIn_wellFormed_letter :
    UaString.IsText (some [0xD0, 0x9F]) ∧
      ∃ text, Buffer.Leaves (uaStringToTextIn [7, 7, 7] (some [0xD0, 0x9F])) 3 text ∧
        text <+: [0xD0, 0x9F] ∧
        (Utf8.WellFormed text ↔ Utf8.KeepsCharacters 2 [0xD0, 0x9F]) := by
  have hsource : UaString.IsText (some [0xD0, 0x9F]) := by decide +kernel
  obtain ⟨text, hleaves, hfront, -, hiff⟩ :=
    (@uaStringToTextIn_wellFormed (some [0xD0, 0x9F]) hsource [7, 7, 7] (by decide)).1
  exact ⟨hsource, text, hleaves, hfront, hiff⟩

end CrowPanel.OpcUa
