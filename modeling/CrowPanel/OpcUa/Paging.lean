import CrowPanel.OpcUa.Completeness

/-!
# Paging is invisible

A server may cut the references of a node into pages.  The walk handles a page, with everything
below the objects on it, before it asks for the next one; all the same the discovery ends as if every
list had come in one piece (`discoverAddressSpace_pages`).

## Strategy

Two discoveries are compared, one of a server that pages and one of a server that does not.  Their
contexts stay `Alike`: equal but for the requests which turn pages.  Every function of the walk
preserves that and hands back the same value.  For the pages of one list this is an induction on the
way the list is cut (`Pages.alike`), around which the induction on the levels left is wrapped.
-/

namespace CrowPanel.OpcUa

open Library DataModel

/-! ## Servers that page -/

/-- `Pages page next references`: the page and the responses which continue it deliver the
references.  Every page but the last comes with a continuation point. -/
inductive Pages : BrowseResult → List BrowseResponse → List ReferenceDescription → Prop
  | last (references : List ReferenceDescription) : Pages { references } [] references
  | more (references : List ReferenceDescription) {point : List UInt8} (hpoint : point ≠ [])
      {page : BrowseResult} {next : List BrowseResponse} {others : List ReferenceDescription}
      (hothers : Pages page next others) :
      Pages { continuationPoint := point, references } ({ results := [page] } :: next)
        (references ++ others)

/-- The request only turns to another page. -/
def Call.turnsPage : Call → Bool
  | .copyContinuationPoint _ | .browseNext _ | .releaseContinuationPoint _ => true
  | _ => false

/-- The requests that do not depend on paging. -/
def requests (calls : List Call) : List Call :=
  calls.filter fun call => !call.turnsPage

/-- Two servers with the same address space, of which `paged` cuts the references of a node into
pages, differently each time if it likes, and `whole` returns them at once.  Otherwise they answer
alike, whatever pages have been turned. -/
structure PagesOf (paged whole : Environment) (space : AddressSpace) : Prop where
  whole_browse : ∀ calls nodeId, whole.browse calls (childDescription nodeId) =
    { first := { results := [{ references := space nodeId }] } }
  paged_browse : ∀ calls nodeId, ∃ page next, Pages page next (space nodeId) ∧
    paged.browse calls (childDescription nodeId) = { first := { results := [page] }, next }
  copies : ∀ calls, paged.copyContinuationPoint calls = .good
  newBrowseDescription : ∀ {before after}, requests before = requests after →
    paged.newBrowseDescription before = whole.newBrowseDescription after
  properties : ∀ {before after}, requests before = requests after → ∀ nodeId,
    paged.browse before (propertyDescription nodeId) =
      whole.browse after (propertyDescription nodeId)
  readDataType : ∀ {before after}, requests before = requests after → ∀ nodeId,
    paged.readDataType before nodeId = whole.readDataType after nodeId
  readUserAccessLevel : ∀ {before after}, requests before = requests after → ∀ nodeId,
    paged.readUserAccessLevel before nodeId = whole.readUserAccessLevel after nodeId
  readValue : ∀ {before after}, requests before = requests after → ∀ nodeId,
    paged.readValue before nodeId = whole.readValue after nodeId

/-! ## Contexts that differ in the pages turned -/

/-- The contexts are the same but for requests that turn pages. -/
def Alike (paged whole : Context) : Prop :=
  ∃ calls, requests calls = requests whole.calls ∧ paged = { whole with calls }

/-- The values are the same and the contexts alike. -/
def AlikeResults {α : Type} (paged whole : α × Context) : Prop :=
  paged.1 = whole.1 ∧ Alike paged.2 whole.2

theorem AlikeResults.split {α : Type} {paged whole : α × Context}
    (halike : AlikeResults paged whole) :
    ∃ value context context', paged = (value, context) ∧ whole = (value, context') ∧
      Alike context context' :=
  ⟨paged.1, paged.2, whole.2, rfl, Prod.ext halike.1.symm rfl, halike.2⟩

theorem Alike.refl (context : Context) : Alike context context := ⟨context.calls, rfl, rfl⟩

theorem Alike.requests_eq {paged whole : Context} (halike : Alike paged whole) :
    requests paged.calls = requests whole.calls := by
  obtain ⟨calls, hcalls, rfl⟩ := halike
  exact hcalls

/-- Both make the same request. -/
theorem Alike.record {paged whole : Context} (halike : Alike paged whole) (call : Call) :
    Alike (paged.record call) (whole.record call) := by
  obtain ⟨calls, hcalls, rfl⟩ := halike
  refine ⟨call :: calls, ?_, rfl⟩
  simp only [requests, Context.record, List.filter_cons]
  split
  · exact congrArg _ hcalls
  · exact hcalls

/-- One of them turns a page. -/
theorem Alike.turnPage {paged whole : Context} (halike : Alike paged whole) {call : Call}
    (hturns : call.turnsPage = true) : Alike (paged.record call) whole := by
  obtain ⟨calls, hcalls, rfl⟩ := halike
  refine ⟨call :: calls, ?_, rfl⟩
  rw [← hcalls]
  simp [requests, hturns]

/-! ## Objects and variables -/

section

variable {paged whole : Environment} {space : AddressSpace} {context context' : Context}

theorem readObjectProperty_alike (hpages : PagesOf paged whole space)
    (halike : Alike context context') (equipment : Equipment) (property : ReferenceDescription) :
    AlikeResults (readObjectProperty paged (equipment, context) property)
      (readObjectProperty whole (equipment, context') property) := by
  have hread := hpages.readValue halike.requests_eq property.nodeId
  have hasked := halike.record (.readValue property.nodeId)
  rcases hvalue : whole.readValue context'.calls property.nodeId with ⟨status, value⟩
  simp only [readObjectProperty, hread, hvalue]
  split
  · exact ⟨rfl, halike⟩
  · rcases value.asString with _ | entityKind
    · exact ⟨rfl, hasked⟩
    · dsimp only
      split <;> exact ⟨rfl, hasked⟩

theorem readVariableProperty_alike (hpages : PagesOf paged whole space)
    (halike : Alike context context') (tag : Tag) (property : ReferenceDescription) :
    AlikeResults (readVariableProperty paged (tag, context) property)
      (readVariableProperty whole (tag, context') property) := by
  have hread := hpages.readValue halike.requests_eq property.nodeId
  have hasked := halike.record (.readValue property.nodeId)
  simp only [readVariableProperty, hread]
  split <;> exact ⟨rfl, hasked⟩

private theorem foldl_alike {α : Type}
    {visit visit' : α × Context → ReferenceDescription → α × Context}
    (hvisit : ∀ {context context'}, Alike context context' → ∀ record property,
      AlikeResults (visit (record, context) property) (visit' (record, context') property))
    (properties : List ReferenceDescription) (record : α) (halike : Alike context context') :
    AlikeResults (properties.foldl visit (record, context))
      (properties.foldl visit' (record, context')) := by
  induction properties generalizing record context context' with
  | nil => exact ⟨rfl, halike⟩
  | cons property properties ih =>
      obtain ⟨next, after, after', hvisited, hvisited', hafter⟩ :=
        (hvisit halike record property).split
      rw [List.foldl_cons, List.foldl_cons, hvisited, hvisited']
      exact ih next hafter

private theorem foldProperties_alike (hpages : PagesOf paged whole space) {α : Type}
    {visit visit' : α × Context → ReferenceDescription → α × Context}
    (hvisit : ∀ {context context'}, Alike context context' → ∀ record property,
      AlikeResults (visit (record, context) property) (visit' (record, context') property))
    (nodeId : NodeId) (record : α) (halike : Alike context context') :
    AlikeResults (foldProperties paged visit nodeId record context)
      (foldProperties whole visit' nodeId record context') := by
  have hnew := halike.record .newBrowseDescription
  have hbrowsed := hnew.record (.browse (propertyDescription nodeId))
  unfold foldProperties
  rw [hpages.newBrowseDescription halike.requests_eq]
  split
  · exact ⟨rfl, hnew⟩
  · dsimp only
    rw [hpages.properties hnew.requests_eq]
    split
    · exact ⟨rfl, hbrowsed⟩
    · exact foldl_alike hvisit _ record hbrowsed

theorem readObjectMetadata_alike (hpages : PagesOf paged whole space)
    (halike : Alike context context') (nodeId : NodeId) (equipment : Equipment) :
    AlikeResults (readObjectMetadata paged nodeId equipment context)
      (readObjectMetadata whole nodeId equipment context') :=
  foldProperties_alike hpages
    (fun halike record property => readObjectProperty_alike hpages halike record property)
    nodeId equipment halike

theorem readVariableMetadata_alike (hpages : PagesOf paged whole space)
    (halike : Alike context context') (nodeId : NodeId) (tag : Tag) :
    AlikeResults (readVariableMetadata paged nodeId tag context)
      (readVariableMetadata whole nodeId tag context') :=
  foldProperties_alike hpages
    (fun halike record property => readVariableProperty_alike hpages halike record property)
    nodeId tag halike

theorem readInitialValue_alike (hpages : PagesOf paged whole space)
    (halike : Alike context context') (nodeId : NodeId) (tag : Tag) :
    AlikeResults (readInitialValue paged nodeId tag context)
      (readInitialValue whole nodeId tag context') := by
  have hasked := halike.record (.readValue nodeId)
  simp only [readInitialValue, hpages.readValue halike.requests_eq nodeId]
  split
  · split <;> exact ⟨rfl, hasked⟩
  · exact ⟨rfl, halike⟩

theorem addVariable_alike (hpages : PagesOf paged whole space) (halike : Alike context context')
    (reference : ReferenceDescription) (owner : ℕ) :
    AlikeResults (addVariable paged reference owner context)
      (addVariable whole reference owner context') := by
  have htype := halike.record (.readDataType reference.nodeId)
  have haccess := htype.record (.readUserAccessLevel reference.nodeId)
  have hids : context.tagNodeIds = context'.tagNodeIds := by
    obtain ⟨calls, _, rfl⟩ := halike
    rfl
  simp only [addVariable, hids, hpages.readDataType halike.requests_eq,
    hpages.readUserAccessLevel htype.requests_eq]
  split
  · exact ⟨rfl, halike⟩
  split
  · exact ⟨rfl, htype⟩
  split
  · exact ⟨rfl, haccess⟩
  generalize tagOf reference owner _ _ = tag
  obtain ⟨valued, after, after', hvalue, hvalue', hafter⟩ :=
    (readInitialValue_alike hpages haccess reference.nodeId tag).split
  obtain ⟨read, last, last', hread, hread', calls, hcalls, rfl⟩ :=
    (readVariableMetadata_alike hpages hafter reference.nodeId valued).split
  simp only [hvalue, hvalue', hread, hread']
  split
  · exact ⟨rfl, calls, hcalls, rfl⟩
  · split <;> exact ⟨rfl, calls, hcalls, rfl⟩

/-- The browses of the next level end alike. -/
def AlikeBrowses (browse browse' : Browse) : Prop :=
  ∀ {context context'}, Alike context context' → ∀ nodeId parentIndex,
    AlikeResults (browse nodeId parentIndex context) (browse' nodeId parentIndex context')

variable {browse browse' : Browse}

theorem addObject_alike (hpages : PagesOf paged whole space) (hbrowse : AlikeBrowses browse browse')
    (halike : Alike context context') (reference : ReferenceDescription) (parentIndex : Option ℕ) :
    AlikeResults (addObject paged browse reference parentIndex context)
      (addObject whole browse' reference parentIndex context') := by
  obtain ⟨equipment, after, after', hread, hread', calls, hcalls, rfl⟩ :=
    (readObjectMetadata_alike hpages halike reference.nodeId
      (equipmentOf reference parentIndex)).split
  simp only [addObject, hread, hread']
  split
  · exact ⟨rfl, calls, hcalls, rfl⟩
  · split
    · exact ⟨rfl, calls, hcalls, rfl⟩
    · next index _ _ =>
        -- both have stored the same object in the same cell
        have hadded : Alike
            { after' with
              dataModel := (after'.dataModel.addEquipment (some equipment)).model
              equipmentNodeIds := storeLast after'.equipmentNodeIds index .null reference.nodeId
              calls }
            { after' with
              dataModel := (after'.dataModel.addEquipment (some equipment)).model
              equipmentNodeIds :=
                storeLast after'.equipmentNodeIds index .null reference.nodeId } :=
          ⟨calls, hcalls, rfl⟩
        exact hbrowse hadded _ _

/-! ## References and pages -/

theorem processReference_alike (hpages : PagesOf paged whole space)
    (hbrowse : AlikeBrowses browse browse') (halike : Alike context context')
    (parentIndex : Option ℕ) (reference : ReferenceDescription) :
    AlikeResults (processReference paged browse parentIndex reference context)
      (processReference whole browse' parentIndex reference context') := by
  have hids : context.equipmentNodeIds = context'.equipmentNodeIds := by
    obtain ⟨calls, _, rfl⟩ := halike
    rfl
  unfold processReference
  dsimp only
  rw [hids]
  split
  · exact ⟨rfl, halike⟩
  split
  · split
    · exact hbrowse halike _ _
    · exact ⟨rfl, halike⟩
  cases reference.nodeClass with
  | object =>
      dsimp only
      split
      · exact ⟨rfl, halike⟩
      · exact addObject_alike hpages hbrowse halike reference parentIndex
  | «variable» =>
      rcases parentIndex with _ | owner
      · exact ⟨rfl, halike⟩
      · dsimp only
        split
        · exact ⟨rfl, halike⟩
        · exact addVariable_alike hpages halike reference owner
  | other => exact ⟨rfl, halike⟩

theorem processReferences_alike (hpages : PagesOf paged whole space)
    (hbrowse : AlikeBrowses browse browse') (halike : Alike context context')
    (parentIndex : Option ℕ) (references : List ReferenceDescription) :
    AlikeResults (processReferences paged browse parentIndex references context)
      (processReferences whole browse' parentIndex references context') := by
  induction references generalizing context context' with
  | nil => exact ⟨rfl, halike⟩
  | cons reference references ih =>
      obtain ⟨status, next, next', hone, hone', hnext⟩ :=
        (processReference_alike hpages hbrowse halike parentIndex reference).split
      simp only [processReferences, hone, hone']
      split
      · exact ⟨rfl, hnext⟩
      · exact ih hnext

/-- A list of references in two parts: the second is handled if the first went well. -/
theorem processReferences_append {env : Environment} (parentIndex : Option ℕ)
    (references others : List ReferenceDescription) (context : Context) :
    processReferences env browse parentIndex (references ++ others) context =
      let (status, next) := processReferences env browse parentIndex references context
      if status ≠ .good then (status, next)
      else processReferences env browse parentIndex others next := by
  induction references generalizing context with
  | nil => simp [processReferences]
  | cons reference references ih =>
      rcases hone : processReference env browse parentIndex reference context with ⟨status, next⟩
      by_cases hstatus : status = .good
      · simpa [processReferences, hone, hstatus] using ih next
      · simp [processReferences, hone, hstatus]

/-- The pages of a list are handled like the list. -/
theorem Pages.alike (hpages : PagesOf paged whole space) (hbrowse : AlikeBrowses browse browse')
    {page : BrowseResult} {next : List BrowseResponse} {references : List ReferenceDescription}
    (hsplit : Pages page next references) (halike : Alike context context')
    (parentIndex : Option ℕ) :
    AlikeResults
      (browsePages paged browse parentIndex next
        (processPage paged browse parentIndex page context))
      (processReferences whole browse' parentIndex references context') := by
  induction hsplit generalizing context context' with
  | last references =>
      have hall := processReferences_alike hpages hbrowse halike parentIndex references
      simpa [browsePages, processPage, processChildReferences] using hall
  | @more references point hpoint page next others _ ih =>
      obtain ⟨status, middle, middle', hfirst, hfirst', hmiddle⟩ :=
        (processReferences_alike hpages hbrowse halike parentIndex references).split
      have hcopied : Alike (middle.record (.copyContinuationPoint point)) middle' :=
        hmiddle.turnPage rfl
      simp only [processReferences_append, processPage, processChildReferences, ne_eq,
        not_true_eq_false, if_false, hpoint, hpages.copies, hfirst, hfirst']
      by_cases hstatus : status = .good
      · simp only [browsePages, hpoint, hstatus, ne_eq, not_true_eq_false, if_false]
        exact ih (hcopied.turnPage rfl)
      · simp only [browsePages, hpoint, hstatus, ne_eq, not_false_eq_true, if_true, if_false]
        exact ⟨rfl, hcopied.turnPage rfl⟩

/-- A browse of a server that pages ends like that of one which does not. -/
theorem browseChildren_alike (hpages : PagesOf paged whole space) (remaining : ℕ) :
    AlikeBrowses (browseChildren paged remaining) (browseChildren whole remaining) := by
  induction remaining with
  | zero => exact fun halike _ _ => ⟨rfl, halike⟩
  | succ remaining ih =>
      intro context context' halike nodeId parentIndex
      have hnew := halike.record .newBrowseDescription
      have hbrowsed := hnew.record (.browse (childDescription nodeId))
      obtain ⟨page, next, hsplit, hanswer⟩ :=
        hpages.paged_browse (context.record .newBrowseDescription).calls nodeId
      simp only [browseChildren]
      rw [hpages.newBrowseDescription halike.requests_eq]
      split
      · exact ⟨rfl, hnew⟩
      · have hend := hsplit.alike hpages ih hbrowsed parentIndex
        simpa [hanswer, hpages.whole_browse, browsePages, processPage, processChildReferences]
          using hend

end

/-! ## The whole discovery -/

/-- **Paging transparency.**  However the server cuts its lists into pages, the discovery has the
result code, the data model and the NodeId maps of the discovery that gets every list at once. -/
theorem discoverAddressSpace_pages {paged whole : Environment} {space : AddressSpace}
    (hpages : PagesOf paged whole space) (context : Context) :
    let found := discoverAddressSpace paged context
    let expected := discoverAddressSpace whole context
    found.1 = expected.1 ∧
      found.2.dataModel = expected.2.dataModel ∧
      found.2.equipmentNodeIds = expected.2.equipmentNodeIds ∧
      found.2.tagNodeIds = expected.2.tagNodeIds ∧
      found.2.tagBuiltinTypeIndices = expected.2.tagBuiltinTypeIndices := by
  intro found expected
  obtain ⟨status, browsed, hbrowse, hfound⟩ := discoverAddressSpace_cases paged context
  obtain ⟨status', browsed', hbrowse', hexpected⟩ := discoverAddressSpace_cases whole context
  have hend := browseChildren_alike hpages (context.configuration.maximumBrowseDepth + 1)
    (.refl context.cleared) .objectsFolder none
  rw [hbrowse, hbrowse'] at hend
  obtain ⟨hstatus, calls, _, hbrowsed⟩ := hend
  obtain rfl : status = status' := hstatus
  obtain rfl : browsed = _ := hbrowsed
  simp only [found, expected, hfound, hexpected, true_and]
  split <;> exact ⟨rfl, rfl, rfl, rfl⟩

/-- The references one on a page. -/
def onePerPage : List ReferenceDescription → BrowseResult × List BrowseResponse
  | [] => ({ references := [] }, [])
  | reference :: references =>
      let (page, next) := onePerPage references
      ({ continuationPoint := [1], references := [reference] }, { results := [page] } :: next)

theorem onePerPage_pages (references : List ReferenceDescription) :
    Pages (onePerPage references).1 (onePerPage references).2 references := by
  induction references with
  | nil => exact .last []
  | cons reference references ih => exact .more [reference] (List.cons_ne_nil 1 []) ih

/-- The server of `staticServer`, which now returns one reference at a time. -/
def onePerPageServer (space : AddressSpace) : Environment :=
  { staticServer space with
    browse := fun calls description =>
      if description = childDescription description.nodeId then
        let (page, next) := onePerPage (space description.nodeId)
        { first := { results := [page] }, next }
      else (staticServer space).browse calls description }

theorem onePerPageServer_pagesOf (space : AddressSpace) :
    PagesOf (onePerPageServer space) (staticServer space) space where
  whole_browse := fun _ _ => by simp [staticServer, childDescription]
  paged_browse := fun _ nodeId =>
    ⟨_, _, onePerPage_pages (space nodeId), by simp [onePerPageServer, childDescription]⟩
  copies := fun _ => rfl
  newBrowseDescription := fun _ => rfl
  properties := fun _ _ => by
    simp [onePerPageServer, staticServer, childDescription, propertyDescription]
  readDataType := fun _ _ => rfl
  readUserAccessLevel := fun _ _ => rfl
  readValue := fun _ _ => rfl

theorem discoverAddressSpace_pages_pump :
    (discoverAddressSpace (onePerPageServer pumpSpace) (freshContext 4)).2.tagNodeIds =
      [⟨1, .numeric 8⟩] :=
  (discoverAddressSpace_pages (onePerPageServer_pagesOf pumpSpace)
    (freshContext 4)).2.2.2.1.trans (by decide +kernel)

end CrowPanel.OpcUa
