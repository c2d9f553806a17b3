import CrowPanel.OpcUa.Discovery
import Mathlib.Logic.Relation

/-!
# How the walk proceeds

Two descriptions of the discovery, each derived once from the functions of `Discovery` and used by
everything proved about it.

* `Processed` describes one call of `browse_children`.  Whatever the paging, the call handles the
  references of the answer one after the other and stops at the first bad status
  (`browseChildren_processed`).
* `DiscoveryStep` lists the elementary changes of the context: a request, a new object with its
  cell of the NodeId map, a new tag with its cell.  Every call makes such steps only, except that a
  failing call may add a last record without mapping it (`browseChildren_outcome`).
-/

namespace CrowPanel.OpcUa

open Library DataModel Relation

/-! ## One call of `browse_children` -/

/-- The references on the pages that a continuation point leads to. -/
def deliveredAfter : List BrowseResponse → List UInt8 → List ReferenceDescription
  | [], _ => []
  | response :: responses, continuationPoint =>
      if continuationPoint = [] then []
      else
        match response.results with
        | [page] => page.references ++ deliveredAfter responses page.continuationPoint
        | _ => []

/-- The references that a client receives which follows the continuation points of an answer. -/
def BrowseAnswer.delivered (answer : BrowseAnswer) : List ReferenceDescription :=
  match answer.first.results with
  | [page] => page.references ++ deliveredAfter answer.next page.continuationPoint
  | _ => []

/-- `Processed one references context result`: handling the references in order with `one`, making
requests in between, and giving up at the latest at the first bad status, leads from the context to
the result. -/
inductive Processed (one : ReferenceDescription → Context → StatusCode × Context) :
    List ReferenceDescription → Context → StatusCode × Context → Prop
  | done (context : Context) : Processed one [] context (.good, context)
  | request {references : List ReferenceDescription} {context : Context} (call : Call)
      {result : StatusCode × Context} (hrest : Processed one references (context.record call) result) :
      Processed one references context result
  | next {reference : ReferenceDescription} {references : List ReferenceDescription}
      {context middle : Context} {result : StatusCode × Context}
      (hone : one reference context = (.good, middle))
      (hrest : Processed one references middle result) :
      Processed one (reference :: references) context result
  | failed {reference : ReferenceDescription} {references : List ReferenceDescription}
      {context next : Context} {failure status : StatusCode}
      (hone : one reference context = (failure, next)) (hfailure : failure ≠ .good)
      (hstatus : status ≠ .good) (calls : List Call) :
      Processed one (reference :: references) context (status, { next with calls })
  | aborted {references : List ReferenceDescription} {context : Context} {status : StatusCode}
      (hstatus : status ≠ .good) (calls : List Call) :
      Processed one references context (status, { context with calls })

section

variable {env : Environment} {browse : Browse} {parentIndex : Option ℕ}

/-- The page handler on the first references of a longer list: it either handles them all, or its
bad status ends the processing of the list. -/
private theorem processReferences_processed (references rest : List ReferenceDescription)
    (context : Context) {status : StatusCode} {middle : Context}
    (hresult : processReferences env browse parentIndex references context = (status, middle)) :
    (status = .good → ∀ final,
        Processed (processReference env browse parentIndex) rest middle final →
        Processed (processReference env browse parentIndex) (references ++ rest) context final) ∧
      (status ≠ .good → ∀ final, final ≠ .good → ∀ calls,
        Processed (processReference env browse parentIndex) (references ++ rest) context
          (final, { middle with calls })) := by
  induction references generalizing context with
  | nil =>
      obtain ⟨rfl, rfl⟩ := Prod.mk.inj hresult
      exact ⟨fun _ final hfinal => hfinal, fun hbad => absurd rfl hbad⟩
  | cons reference references ih =>
      rcases hone : processReference env browse parentIndex reference context with ⟨code, next⟩
      by_cases hcode : code = .good
      · subst hcode
        simp only [processReferences, hone, ne_eq, not_true_eq_false, if_false] at hresult
        obtain ⟨hgood, hbad⟩ := ih next hresult
        exact ⟨fun h final hfinal => .next hone (hgood h final hfinal),
          fun h final hfinal calls => .next hone (hbad h final hfinal calls)⟩
      · simp only [processReferences, hone, ne_eq, hcode, not_false_eq_true, if_true] at hresult
        obtain ⟨rfl, rfl⟩ := Prod.mk.inj hresult
        exact ⟨fun h => absurd h hcode, fun _ final hfinal calls => .failed hone hcode hfinal calls⟩

private theorem processChildReferences_processed (page : BrowseResult)
    (rest : List ReferenceDescription) (context : Context) {status : StatusCode} {middle : Context}
    (hresult : processChildReferences env browse parentIndex page context = (status, middle)) :
    (status = .good → ∀ final,
        Processed (processReference env browse parentIndex) rest middle final →
        Processed (processReference env browse parentIndex) (page.references ++ rest) context
          final) ∧
      (status ≠ .good → ∀ final, final ≠ .good → ∀ calls,
        Processed (processReference env browse parentIndex) (page.references ++ rest) context
          (final, { middle with calls })) := by
  by_cases hpage : page.statusCode = .good
  · simp only [processChildReferences, hpage, ne_eq, not_true_eq_false, if_false] at hresult
    exact processReferences_processed page.references rest context hresult
  · simp only [processChildReferences, hpage, ne_eq, not_false_eq_true, if_true] at hresult
    obtain ⟨rfl, rfl⟩ := Prod.mk.inj hresult
    exact ⟨fun h => absurd h hpage, fun _ final hfinal calls => .aborted hfinal calls⟩

/-- A bad status ends the loop, with at most the release of the continuation point. -/
private theorem browsePages_of_bad {status : StatusCode} (hstatus : status ≠ .good)
    (responses : List BrowseResponse) (point : List UInt8) (context : Context) :
    ∃ calls, browsePages env browse parentIndex responses (status, point, context) =
      (status, { context with calls }) := by
  by_cases hpoint : point = []
  · exact ⟨context.calls, by cases responses <;> simp [browsePages, hpoint]⟩
  · exact ⟨_, by cases responses <;> simp [browsePages, hpoint, hstatus, Context.record] <;> rfl⟩

/-- One page, given what the loop makes of the pages after it. -/
private theorem processPage_processed {responses : List BrowseResponse} (page : BrowseResult)
    (hafter : ∀ context, Processed (processReference env browse parentIndex)
      (deliveredAfter responses page.continuationPoint) context
      (browsePages env browse parentIndex responses (.good, page.continuationPoint, context)))
    (context : Context) :
    Processed (processReference env browse parentIndex)
      (page.references ++ deliveredAfter responses page.continuationPoint) context
      (browsePages env browse parentIndex responses
        (processPage env browse parentIndex page context)) := by
  rcases hpage : processChildReferences env browse parentIndex page context with ⟨status, middle⟩
  obtain ⟨hgood, hbad⟩ := processChildReferences_processed page
    (deliveredAfter responses page.continuationPoint) context hpage
  -- whether the page or the copy of its continuation point failed, only requests follow
  have hstop : ∀ final, final ≠ .good → ∀ point calls,
      Processed (processReference env browse parentIndex)
        (page.references ++ deliveredAfter responses page.continuationPoint) context
        (browsePages env browse parentIndex responses (final, point, { middle with calls })) := by
    intro final hfinal point calls
    obtain ⟨later, hlater⟩ := @browsePages_of_bad env browse parentIndex _ hfinal responses point
      { middle with calls }
    rw [hlater]
    by_cases hstatus : status = .good
    · exact hgood hstatus _ (.aborted hfinal later)
    · exact hbad hstatus final hfinal later
  simp only [processPage, hpage]
  by_cases hstatus : status = .good
  · subst hstatus
    split
    · next hpoint => exact hgood rfl _ (by simpa only [hpoint] using hafter middle)
    · split
      · next hcopy => exact hstop _ hcopy _ _
      · exact hgood rfl _ (.request _ (hafter _))
  · split
    · exact hstop _ hstatus _ middle.calls
    · split
      · next hcopy => exact hstop _ hcopy _ _
      · exact hstop _ hstatus _ _

/-- The loop over the `BrowseNext` responses. -/
private theorem browsePages_processed (responses : List BrowseResponse) (point : List UInt8)
    (context : Context) :
    Processed (processReference env browse parentIndex) (deliveredAfter responses point) context
      (browsePages env browse parentIndex responses (.good, point, context)) := by
  induction responses generalizing point context with
  | nil =>
      by_cases hpoint : point = []
      · simpa [browsePages, deliveredAfter, hpoint] using Processed.done context
      · simp only [browsePages, deliveredAfter, hpoint, if_false, ne_eq, not_true_eq_false]
        exact .aborted (by decide) _
  | cons response responses ih =>
      by_cases hpoint : point = []
      · simpa [browsePages, deliveredAfter, hpoint] using Processed.done context
      simp only [browsePages, deliveredAfter, hpoint, if_false, ne_eq, not_true_eq_false]
      refine .request (.browseNext point) ?_
      by_cases hservice : response.serviceResult = .good
      · simp only [hservice, not_true_eq_false, if_false]
        rcases hresults : response.results with _ | ⟨page, _ | _⟩
        · exact .aborted (show StatusCode.badUnexpectedError ≠ .good by decide) _
        · exact processPage_processed page (ih page.continuationPoint) _
        · exact .aborted (show StatusCode.badUnexpectedError ≠ .good by decide) _
      · simp only [hservice, not_false_eq_true, if_true]
        exact .aborted hservice _

/-- One call of `browse_children` handles the references delivered to it in order. -/
theorem browseChildren_processed (remaining : ℕ) (parent : NodeId) (context : Context) :
    Processed (processReference env (browseChildren env remaining) parentIndex)
      (env.browse (context.record .newBrowseDescription).calls (childDescription parent)).delivered
      context (browseChildren env (remaining + 1) parent parentIndex context) := by
  simp only [browseChildren]
  refine .request .newBrowseDescription ?_
  split
  · exact .aborted (by decide) _
  · refine .request (.browse (childDescription parent)) ?_
    split
    · next hservice => exact .aborted hservice _
    · simp only [BrowseAnswer.delivered]
      rcases (env.browse (context.record .newBrowseDescription).calls
        (childDescription parent)).first.results with _ | ⟨page, _ | _⟩
      · exact .aborted (show StatusCode.badUnexpectedError ≠ .good by decide) _
      · exact processPage_processed page (fun _ => browsePages_processed _ _ _) _
      · exact .aborted (show StatusCode.badUnexpectedError ≠ .good by decide) _

end

/-! ## The elementary changes -/

namespace Context

/-- The context with a new object and its cell of the NodeId map. -/
def withObject (context : Context) (equipment : Equipment) (nodeId : NodeId) : Context :=
  { context with
    dataModel := (context.dataModel.addEquipment (some equipment)).model
    equipmentNodeIds :=
      storeLast context.equipmentNodeIds context.dataModel.equipment.length .null nodeId }

/-- The context with a new tag and its cells of the NodeId map. -/
def withTag (context : Context) (tag : Tag) (nodeId : NodeId) (type : Option BuiltinType) :
    Context :=
  { context with
    dataModel := (context.dataModel.addTag (some tag)).model
    tagNodeIds := storeLast context.tagNodeIds context.dataModel.tags.length .null nodeId
    tagBuiltinTypeIndices :=
      storeLast context.tagBuiltinTypeIndices context.dataModel.tags.length none type }

/-- The index names an object of the model. -/
def HasObject (context : Context) (index : Option ℕ) : Prop :=
  ∀ object, index = some object → object < context.dataModel.equipment.length

end Context

/-- The changes that a successful part of the discovery is made of. -/
inductive DiscoveryStep : Context → Context → Prop
  | requests (context : Context) (calls : List Call) : DiscoveryStep context { context with calls }
  | object {context : Context} {equipment : Equipment} {nodeId : NodeId}
      (custom : nodeId.namespaceIndex ≠ 0) (unmapped : nodeId ∉ context.equipmentNodeIds)
      (text : equipment.nodeId = nodeId.text) (parent : context.HasObject equipment.parentIndex)
      (room : context.dataModel.equipment.length < context.dataModel.equipmentCapacity)
      (cell : context.dataModel.equipment.length < context.configuration.maximumEquipmentObjects) :
      DiscoveryStep context (context.withObject equipment nodeId)
  | tag {context : Context} {tag : Tag} {nodeId : NodeId} {type : Option BuiltinType} {owner : ℕ}
      (custom : nodeId.namespaceIndex ≠ 0) (unmapped : nodeId ∉ context.tagNodeIds)
      (text : tag.nodeId = nodeId.text) (owned : tag.equipmentIndex = some owner)
      (exists_owner : owner < context.dataModel.equipment.length)
      (room : context.dataModel.tags.length < context.dataModel.tagCapacity)
      (cell : context.dataModel.tags.length < context.configuration.maximumTags) :
      DiscoveryStep context (context.withTag tag nodeId type)

/-- A number of elementary changes. -/
abbrev Steps : Context → Context → Prop := ReflTransGen DiscoveryStep

/-- A call that adds a record. -/
def IsAddition : Op → Prop
  | .addEquipment _ | .addTag _ => True
  | _ => False

/-- A call that adds a record for which the model has no room or the map no cell. -/
inductive Rejected (context : Context) : Op → Prop
  | object {equipment : Equipment} {nodeId : NodeId} (custom : nodeId.namespaceIndex ≠ 0)
      (unmapped : nodeId ∉ context.equipmentNodeIds) (text : equipment.nodeId = nodeId.text)
      (full : context.dataModel.equipmentCapacity ≤ context.dataModel.equipment.length ∨
        context.configuration.maximumEquipmentObjects ≤ context.dataModel.equipment.length) :
      Rejected context (.addEquipment (some equipment))
  | tag {tag : Tag} {nodeId : NodeId} (custom : nodeId.namespaceIndex ≠ 0)
      (unmapped : nodeId ∉ context.tagNodeIds) (text : tag.nodeId = nodeId.text)
      (full : context.dataModel.tagCapacity ≤ context.dataModel.tags.length ∨
        context.configuration.maximumTags ≤ context.dataModel.tags.length) :
      Rejected context (.addTag (some tag))

theorem Rejected.isAddition {context : Context} {op : Op} (hrejected : Rejected context op) :
    IsAddition op := by
  cases hrejected <;> trivial

/-- How a part of the discovery ends: after elementary changes, where a failing part may have made
one more call that adds a record, in vain. -/
def Outcome (context : Context) (result : StatusCode × Context) : Prop :=
  Steps context result.2 ∨
    result.1 ≠ .good ∧ ∃ middle op calls, Steps context middle ∧ Rejected middle op ∧
      result.2 = { middle with dataModel := (middle.dataModel.exec op).2, calls }

theorem DiscoveryStep.length_le {context next : Context} (hstep : DiscoveryStep context next) :
    context.dataModel.equipment.length ≤ next.dataModel.equipment.length := by
  cases hstep with
  | requests => exact le_rfl
  | object _ _ _ _ room => simp [Context.withObject, addEquipment_equipment room]
  | tag => simp [Context.withTag]

theorem Steps.length_le {context next : Context} (hsteps : Steps context next) :
    context.dataModel.equipment.length ≤ next.dataModel.equipment.length := by
  induction hsteps with
  | refl => exact le_rfl
  | tail _ hstep ih => exact ih.trans hstep.length_le

theorem Context.HasObject.mono {context next : Context} {index : Option ℕ}
    (hindex : context.HasObject index) (hsteps : Steps context next) : next.HasObject index :=
  fun object hobject => (hindex object hobject).trans_le hsteps.length_le

theorem Outcome.after {context middle : Context} {result : StatusCode × Context}
    (hsteps : Steps context middle) (houtcome : Outcome middle result) : Outcome context result := by
  rcases houtcome with hrest | ⟨hbad, last, op, calls, hrest, hop, hresult⟩
  · exact .inl (hsteps.trans hrest)
  · exact .inr ⟨hbad, last, op, calls, hsteps.trans hrest, hop, hresult⟩

theorem Outcome.steps {context next : Context} (houtcome : Outcome context (.good, next)) :
    Steps context next :=
  houtcome.resolve_right fun hbad => hbad.1 rfl

/-- After a failure only requests and the reported status can still change. -/
theorem Outcome.failed {context next : Context} {failure status : StatusCode}
    (houtcome : Outcome context (failure, next)) (hstatus : status ≠ .good) (calls : List Call) :
    Outcome context (status, { next with calls }) := by
  rcases houtcome with hsteps | ⟨_, middle, op, _, hsteps, hop, hresult⟩
  · exact .inl (hsteps.tail (.requests next calls))
  · obtain rfl : next = _ := hresult
    exact .inr ⟨hstatus, middle, op, calls, hsteps, hop, rfl⟩

/-! ## Reading metadata -/

section

variable {env : Environment}

/-- A read that makes requests and hands back a record with the property. -/
def ReadsInto {α : Type} (Keeps : α → Prop) (context : Context) (result : α × Context) : Prop :=
  ∃ record calls, result = (record, { context with calls }) ∧ Keeps record

private theorem foldl_readsInto {α : Type}
    {visit : α × Context → ReferenceDescription → α × Context} {Keeps : α → Prop}
    (properties : List ReferenceDescription)
    (hvisit : ∀ property ∈ properties, ∀ record context, Keeps record →
      ReadsInto Keeps context (visit (record, context) property))
    (record : α) (context : Context)
    (hkeeps : Keeps record) : ReadsInto Keeps context (properties.foldl visit (record, context)) := by
  induction properties generalizing record context with
  | nil => exact ⟨record, context.calls, rfl, hkeeps⟩
  | cons property properties ih =>
      obtain ⟨hfirst, hrest⟩ := List.forall_mem_cons.mp hvisit
      obtain ⟨next, calls, hnext, hkept⟩ := hfirst record context hkeeps
      obtain ⟨last, later, hlast, hkept⟩ := ih hrest next { context with calls } hkept
      exact ⟨last, later, by rw [List.foldl_cons, hnext, hlast], hkept⟩

/-- The references in an answer to the browse of a node's properties. -/
def Environment.IsProperty (env : Environment) (nodeId : NodeId) (property : ReferenceDescription) :
    Prop :=
  ∃ calls, property ∈
    (env.browse calls (propertyDescription nodeId)).first.results.flatMap BrowseResult.references

theorem foldProperties_readsInto {α : Type}
    {visit : α × Context → ReferenceDescription → α × Context} {Keeps : α → Prop}
    {nodeId : NodeId} (hvisit : ∀ property, env.IsProperty nodeId property →
      ∀ record context, Keeps record → ReadsInto Keeps context (visit (record, context) property))
    (record : α) (context : Context) (hkeeps : Keeps record) :
    ReadsInto Keeps context (foldProperties env visit nodeId record context) := by
  unfold foldProperties
  split
  · exact ⟨record, _, rfl, hkeeps⟩
  · dsimp only
    split
    · exact ⟨record, _, rfl, hkeeps⟩
    · obtain ⟨last, calls, hlast, hkept⟩ := foldl_readsInto _
        (fun property hproperty => hvisit property ⟨_, hproperty⟩) record _ hkeeps
      exact ⟨last, calls, hlast, hkept⟩

/-- Metadata of an object do not change where it stands nor what it is called. -/
theorem readObjectMetadata_readsInto (nodeId : NodeId) (equipment : Equipment) (context : Context) :
    ReadsInto (fun read => read.nodeId = equipment.nodeId ∧
        read.parentIndex = equipment.parentIndex) context
      (readObjectMetadata env nodeId equipment context) := by
  refine foldProperties_readsInto (fun property _ read context hkeeps => ?_) equipment context
    ⟨rfl, rfl⟩
  unfold readObjectProperty
  dsimp only
  split
  · exact ⟨read, context.calls, rfl, hkeeps⟩
  · split
    · split <;> exact ⟨_, _, rfl, hkeeps⟩
    · exact ⟨read, _, rfl, hkeeps⟩

theorem applyVariableProperty_keeps (name : Text) (value : Variant) (tag : Tag) :
    (applyVariableProperty name value tag).nodeId = tag.nodeId ∧
      (applyVariableProperty name value tag).equipmentIndex = tag.equipmentIndex := by
  unfold applyVariableProperty
  dsimp only
  split_ifs
  · exact ⟨rfl, rfl⟩
  · exact ⟨rfl, rfl⟩
  · split <;> exact ⟨rfl, rfl⟩
  · split <;> exact ⟨rfl, rfl⟩
  · split <;> exact ⟨rfl, rfl⟩
  · exact ⟨rfl, rfl⟩

/-- Metadata of a variable do not change its owner nor what it is called. -/
theorem readVariableMetadata_readsInto (nodeId : NodeId) (tag : Tag) (context : Context) :
    ReadsInto (fun read => read.nodeId = tag.nodeId ∧ read.equipmentIndex = tag.equipmentIndex)
      context (readVariableMetadata env nodeId tag context) := by
  refine foldProperties_readsInto (fun property _ read context hkeeps => ?_) tag context
    ⟨rfl, rfl⟩
  unfold readVariableProperty
  dsimp only
  split
  · exact ⟨read, _, rfl, hkeeps⟩
  · obtain ⟨htext, howner⟩ := applyVariableProperty_keeps
      (uaStringToText nameLength property.browseName).text
      (env.readValue context.calls property.nodeId).2 read
    exact ⟨_, _, rfl, htext.trans hkeeps.1, howner.trans hkeeps.2⟩

theorem readInitialValue_readsInto (nodeId : NodeId) (tag : Tag) (context : Context) :
    ReadsInto (fun read => read.nodeId = tag.nodeId ∧ read.equipmentIndex = tag.equipmentIndex)
      context (readInitialValue env nodeId tag context) := by
  unfold readInitialValue
  split
  · dsimp only
    split <;> exact ⟨_, _, rfl, rfl, rfl⟩
  · exact ⟨tag, context.calls, rfl, rfl, rfl⟩

/-! ## Objects, variables and references -/

variable {browse : Browse} {parentIndex : Option ℕ} {context : Context}

theorem findMappedNodeId_isSome_iff {mappedIds : List NodeId} {candidate : NodeId} :
    (findMappedNodeId mappedIds candidate).isSome ↔ candidate ∈ mappedIds := by
  simp [findMappedNodeId]

/-- The browse of the next level behaves. -/
def BrowseOutcome (browse : Browse) : Prop :=
  ∀ nodeId parentIndex context, context.HasObject parentIndex →
    Outcome context (browse nodeId parentIndex context)

/-- A new object either finds no room, or is added and mapped before its children are browsed. -/
theorem addObject_cases {reference : ReferenceDescription}
    (hcustom : reference.nodeId.namespaceIndex ≠ 0)
    (hunmapped : reference.nodeId ∉ context.equipmentNodeIds)
    (hparent : context.HasObject parentIndex) :
    (∃ next, addObject env browse reference parentIndex context = (.badOutOfMemory, next) ∧
        Outcome context (.badOutOfMemory, next)) ∨
      ∃ calls equipment,
        DiscoveryStep { context with calls }
            (Context.withObject { context with calls } equipment reference.nodeId) ∧
          context.dataModel.equipment.length < context.dataModel.equipmentCapacity ∧
          addObject env browse reference parentIndex context =
            browse reference.nodeId (some context.dataModel.equipment.length)
              (Context.withObject { context with calls } equipment reference.nodeId) := by
  obtain ⟨equipment, calls, hread, htext, hindex⟩ :=
    @readObjectMetadata_readsInto env reference.nodeId (equipmentOf reference parentIndex) context
  -- without room in the model or a cell in the map, the record may be there unmapped
  have hfull (hfull : context.dataModel.equipmentCapacity ≤ context.dataModel.equipment.length ∨
      context.configuration.maximumEquipmentObjects ≤ context.dataModel.equipment.length) :
      Outcome context (.badOutOfMemory, { context with
        dataModel := (context.dataModel.addEquipment (some equipment)).model, calls }) :=
    .inr ⟨show StatusCode.badOutOfMemory ≠ .good by decide, { context with calls },
      .addEquipment (some equipment), calls, .single (.requests context calls),
      .object hcustom hunmapped htext hfull, rfl⟩
  simp only [addObject, hread]
  split
  · next hindex => exact .inl ⟨_, rfl, hfull (.inl (addEquipment_index_eq_none_iff.mp hindex))⟩
  · next index hadded =>
      obtain ⟨hroom, rfl⟩ := addEquipment_index_eq_some_iff.mp hadded
      rw [addEquipment_code_of_room hroom]
      split
      · next hcell => exact .inl ⟨_, rfl, hfull (.inr (hcell.resolve_left (not_not.mpr rfl)))⟩
      · next hcell =>
          exact .inr ⟨calls, equipment, .object hcustom hunmapped htext
            (by rw [hindex]; exact hparent) hroom (Nat.lt_of_not_le (not_or.mp hcell).2), hroom, rfl⟩

theorem addObject_outcome (hbrowse : BrowseOutcome browse) {reference : ReferenceDescription}
    (hcustom : reference.nodeId.namespaceIndex ≠ 0)
    (hunmapped : reference.nodeId ∉ context.equipmentNodeIds)
    (hparent : context.HasObject parentIndex) :
    Outcome context (addObject env browse reference parentIndex context) := by
  rcases @addObject_cases env browse parentIndex context reference hcustom hunmapped hparent with
    ⟨next, hresult, houtcome⟩ | ⟨calls, equipment, hobject, hroom, hresult⟩
  · rwa [hresult]
  · rw [hresult]
    refine Outcome.after ((ReflTransGen.single (.requests context calls)).tail hobject)
      (hbrowse _ _ _ fun object hindex => ?_)
    obtain rfl := Option.some.inj hindex
    simp [Context.withObject, addEquipment_equipment hroom]

theorem addVariable_outcome {reference : ReferenceDescription} {owner : ℕ}
    (hcustom : reference.nodeId.namespaceIndex ≠ 0)
    (howner : owner < context.dataModel.equipment.length) :
    Outcome context (addVariable env reference owner context) ∧
      (addVariable env reference owner context).2.equipmentNodeIds = context.equipmentNodeIds := by
  unfold addVariable
  dsimp only
  split
  · exact ⟨.inl .refl, rfl⟩
  next hmapped =>
  rw [findMappedNodeId_isSome_iff] at hmapped
  split
  · exact ⟨.inl (.single (.requests context _)), rfl⟩
  split
  · exact ⟨.inl (.single (.requests context _)), rfl⟩
  generalize haccess : (env.readUserAccessLevel _ reference.nodeId).2 = accessLevel
  generalize hasked : (context.record (.readDataType reference.nodeId)).record
    (.readUserAccessLevel reference.nodeId) = asked
  obtain ⟨askedCalls, rfl⟩ : ∃ calls, asked = { context with calls } := ⟨_, hasked.symm⟩
  obtain ⟨valued, valuedCalls, hvalue, hvaluedText, hvaluedOwner⟩ := @readInitialValue_readsInto
    env reference.nodeId
    (tagOf reference owner (env.readDataType context.calls reference.nodeId).2 accessLevel)
    { context with calls := askedCalls }
  obtain ⟨tag, calls, hmetadata, htext, htagOwner⟩ := @readVariableMetadata_readsInto env
    reference.nodeId valued { context with calls := valuedCalls }
  have hrequests : Steps context { context with calls } := .single (.requests context calls)
  have hfull (hfull : context.dataModel.tagCapacity ≤ context.dataModel.tags.length ∨
      context.configuration.maximumTags ≤ context.dataModel.tags.length) :
      Outcome context (.badOutOfMemory,
        { context with dataModel := (context.dataModel.addTag (some tag)).model, calls }) :=
    .inr ⟨show StatusCode.badOutOfMemory ≠ .good by decide, { context with calls },
      .addTag (some tag), calls, hrequests,
      .tag hcustom hmapped (htext.trans hvaluedText) hfull, rfl⟩
  simp only [hvalue, hmetadata]
  split
  · next hindex => exact ⟨hfull (.inl (addTag_index_eq_none_iff.mp hindex)), rfl⟩
  · next index hadded =>
      obtain ⟨hroom, rfl⟩ := addTag_index_eq_some_iff.mp hadded
      rw [addTag_code_of_room hroom]
      split
      · next hcell => exact ⟨hfull (.inr (hcell.resolve_left (not_not.mpr rfl))), rfl⟩
      · next hcell =>
          exact ⟨.inl (hrequests.tail (.tag hcustom hmapped (htext.trans hvaluedText)
            (htagOwner.trans hvaluedOwner) howner hroom
            (Nat.lt_of_not_le (not_or.mp hcell).2))), rfl⟩

/-- The object to which the walk follows a reference. -/
def followed (reference : ReferenceDescription) : Option NodeId :=
  if reference.serverIndex = 0 ∧ reference.nodeClass = .object ∧ reference.nodeId ≠ .server then
    some reference.nodeId
  else none

/-- What the walk does with one reference. -/
inductive Handled (env : Environment) (browse : Browse) (parentIndex : Option ℕ)
    (reference : ReferenceDescription) (context : Context) : StatusCode × Context → Prop
  | skipped (hfollowed : followed reference = none) :
      Handled env browse parentIndex reference context (.good, context)
  | tag {owner : ℕ} (hfollowed : followed reference = none)
      (hcustom : reference.nodeId.namespaceIndex ≠ 0) (howner : parentIndex = some owner) :
      Handled env browse parentIndex reference context (addVariable env reference owner context)
  | folder (hfollowed : followed reference = some reference.nodeId)
      (hstandard : reference.nodeId.namespaceIndex = 0) :
      Handled env browse parentIndex reference context
        (browse reference.nodeId parentIndex context)
  | mapped (hfollowed : followed reference = some reference.nodeId)
      (hcustom : reference.nodeId.namespaceIndex ≠ 0)
      (hmapped : reference.nodeId ∈ context.equipmentNodeIds) :
      Handled env browse parentIndex reference context (.good, context)
  | object (hfollowed : followed reference = some reference.nodeId)
      (hcustom : reference.nodeId.namespaceIndex ≠ 0)
      (hunmapped : reference.nodeId ∉ context.equipmentNodeIds) :
      Handled env browse parentIndex reference context
        (addObject env browse reference parentIndex context)

theorem processReference_handled (reference : ReferenceDescription) (context : Context) :
    Handled env browse parentIndex reference context
      (processReference env browse parentIndex reference context) := by
  unfold processReference
  split
  · next hserver => exact .skipped (by simp [followed, hserver])
  next hlocal =>
  rw [ne_eq, not_not] at hlocal
  dsimp only
  split
  · next hstandard =>
      split
      · next hobject => exact .folder (by simp [followed, hlocal, hobject]) hstandard
      · next hobject => exact .skipped (if_neg fun h => hobject h.2)
  next hcustom =>
  have hserver : reference.nodeId ≠ .server := by
    rintro hserver
    exact hcustom (hserver ▸ rfl)
  cases hclass : reference.nodeClass with
  | object =>
      have hfollowed : followed reference = some reference.nodeId :=
        if_pos ⟨hlocal, hclass, hserver⟩
      dsimp only
      split
      · next hmapped => exact .mapped hfollowed hcustom (findMappedNodeId_isSome_iff.mp hmapped)
      · next hmapped =>
          exact .object hfollowed hcustom (mt findMappedNodeId_isSome_iff.mpr hmapped)
  | «variable» =>
      have hfollowed : followed reference = none := by simp [followed, hclass]
      dsimp only
      split
      · exact .skipped hfollowed
      · split
        · exact .skipped hfollowed
        · exact .tag hfollowed hcustom rfl
  | other => exact .skipped (by simp [followed, hclass])

theorem processReference_outcome (hbrowse : BrowseOutcome browse)
    (reference : ReferenceDescription) (hparent : context.HasObject parentIndex) :
    Outcome context (processReference env browse parentIndex reference context) := by
  have hhandled := @processReference_handled env browse parentIndex reference context
  generalize processReference env browse parentIndex reference context = result at hhandled ⊢
  cases hhandled with
  | skipped => exact .inl .refl
  | tag _ hcustom howner => exact (addVariable_outcome hcustom (hparent _ howner)).1
  | folder => exact hbrowse _ _ _ hparent
  | mapped => exact .inl .refl
  | object _ hcustom hunmapped => exact addObject_outcome hbrowse hcustom hunmapped hparent

theorem Processed.outcome {one : ReferenceDescription → Context → StatusCode × Context}
    (hone : ∀ reference context, context.HasObject parentIndex →
      Outcome context (one reference context))
    {references : List ReferenceDescription} {result : StatusCode × Context}
    (hprocessed : Processed one references context result)
    (hparent : context.HasObject parentIndex) : Outcome context result := by
  induction hprocessed with
  | done => exact .inl .refl
  | request call _ ih => exact Outcome.after (.single (.requests _ _)) (ih hparent)
  | next hnext _ ih =>
      have hsteps := (hnext ▸ hone _ _ hparent).steps
      exact Outcome.after hsteps (ih (hparent.mono hsteps))
  | failed hfailed _ hstatus calls => exact (hfailed ▸ hone _ _ hparent).failed hstatus calls
  | aborted _ calls => exact .inl (.single (.requests _ calls))

/-- Every browse makes elementary changes only, and leaves at most one record unmapped. -/
theorem browseChildren_outcome (env : Environment) (remaining : ℕ) :
    BrowseOutcome (browseChildren env remaining) := by
  induction remaining with
  | zero => exact fun _ _ context _ => .inl .refl
  | succ remaining ih =>
      exact fun nodeId parentIndex context hparent =>
        (browseChildren_processed remaining nodeId context).outcome
          (fun reference _ => processReference_outcome ih reference) hparent

end

end CrowPanel.OpcUa
