import CrowPanel.Library.BoundedSearch
import CrowPanel.OpcUa.Soundness

/-!
# How complete discovery is

Discovery is meant to find every custom object within its depth.  It does not: an object that the
walk first enters by a long route is expanded with few levels left, and a shorter route to it is
later skipped because it is mapped already (`detour_not_complete`).

`discoverAddressSpace_complete` says what is found, for every address space: the objects for which
`InTime` of `BoundedSearch` holds.  Where it holds of every object within the depth, the discovery
finds exactly these, in whatever order the server returns the references.

## Strategy

The walk is a search in the sense of `BoundedSearch`: branch number `index` of a node is its
reference at this place, the tracked nodes are the custom ones.  The records are a ghost set of pairs
of an object and the route by which it was entered; `BrowseSearches` says what one browse adds to
them, and follows by induction on the levels left, with an inner induction on the references of a
node (`Processed.searches`).
-/

namespace CrowPanel.OpcUa

open Library DataModel Relation

/-- The references that a forward browse for hierarchical references of a node yields. -/
abbrev AddressSpace := NodeId → List ReferenceDescription

/-- The address space as the walk of discovery sees it. -/
def AddressSpace.graph (space : AddressSpace) : SearchSpace NodeId where
  root := .objectsFolder
  branch nodeId index := (space nodeId)[index]?.bind followed
  tracked nodeId := nodeId.namespaceIndex ≠ 0
  root_untracked := by simp

/-- A server with this address space: it delivers the references of a node in some order and split
into pages, always in the order of the address space when it is `ordered`. -/
structure Serves (env : Environment) (space : AddressSpace) (ordered : Prop) : Prop where
  complete : ∀ calls nodeId,
    (env.browse calls (childDescription nodeId)).delivered.Perm (space nodeId)
  inOrder : ordered → ∀ calls nodeId,
    (env.browse calls (childDescription nodeId)).delivered = space nodeId

/-- The records are about the mapped objects. -/
def Recorded (context : Context) (records : Set (NodeId × List ℕ)) : Prop :=
  ∀ nodeId, nodeId ∈ context.equipmentNodeIds ↔ ∃ route, (nodeId, route) ∈ records

/-- What the walk keeps while it works below the custom objects `entered`. -/
structure Searching (context : Context) (parentIndex : Option ℕ) (entered : List NodeId)
    (records : Set (NodeId × List ℕ)) : Prop where
  consistent : Consistent context
  parent : context.HasObject parentIndex
  entered_mapped : ∀ nodeId ∈ entered, nodeId ∈ context.equipmentNodeIds
  recorded : Recorded context records

/-- The records of a search below a route. -/
structure Searched (space : AddressSpace) (limit : ℕ) (ordered : Prop) (route : List ℕ)
    (next : Context) (before after : Set (NodeId × List ℕ)) : Prop where
  recorded : Recorded next after
  explored : SearchSpace.Explored space.graph limit ordered before after
  below : ∀ entry ∈ after, entry ∉ before → route <+: entry.2

/-- No record is after a route, if that matters. -/
def NoneAfter (ordered : Prop) (records : Set (NodeId × List ℕ)) (route : List ℕ) : Prop :=
  ordered → ∀ entry ∈ records, NotAfter entry.2 route

/-- A hop has led to a record. -/
def Found (ordered : Prop) (records : Set (NodeId × List ℕ)) (nodeId : NodeId)
    (route : List ℕ) : Prop :=
  ∃ found, (nodeId, found) ∈ records ∧ (ordered → NotAfter found route)

/-- What a good browse of a node with `remaining` levels adds to the records. -/
def BrowseSearches (space : AddressSpace) (limit : ℕ) (ordered : Prop) (remaining : ℕ)
    (browse : Browse) : Prop :=
  ∀ nodeId parentIndex context next route entered records,
    space.graph.Walk nodeId route entered → route.length + remaining = limit →
    Searching context parentIndex entered records → NoneAfter ordered records route →
    browse nodeId parentIndex context = (.good, next) →
    ∃ after, Searched space limit ordered route next records after ∧
      ∀ hop target, space.graph.Hop nodeId hop target → hop.length ≤ remaining →
        Found ordered after target (route ++ hop)

section

variable {env : Environment} {space : AddressSpace} {limit remaining : ℕ} {ordered : Prop}
  {browse : Browse} {parentIndex : Option ℕ} {context next : Context} {nodeId : NodeId}
  {route : List ℕ} {entered : List NodeId} {records : Set (NodeId × List ℕ)}
  {reference : ReferenceDescription} {index : ℕ}

theorem Searching.of_steps (hsearching : Searching context parentIndex entered records)
    (hsteps : Steps context next) {after : Set (NodeId × List ℕ)} (hgrows : records ⊆ after)
    (hrecorded : Recorded next after) : Searching next parentIndex entered after where
  consistent := hsteps.consistent hsearching.consistent
  parent := hsearching.parent.mono hsteps
  entered_mapped := by
    intro nodeId hentered
    obtain ⟨route, hrecord⟩ := (hsearching.recorded nodeId).mp
      (hsearching.entered_mapped nodeId hentered)
    exact (hrecorded nodeId).mpr ⟨route, hgrows hrecord⟩
  recorded := hrecorded

theorem Searched.refl (hrecorded : Recorded next records) :
    Searched space limit ordered route next records records where
  recorded := hrecorded
  explored := .refl records
  below := fun _ hmem hnew => absurd hmem hnew

/-- The hops over one branch have led to records. -/
def BranchFound (space : AddressSpace) (ordered : Prop) (remaining : ℕ) (nodeId : NodeId)
    (route : List ℕ) (index : ℕ) (records : Set (NodeId × List ℕ)) : Prop :=
  ∀ hop target, space.graph.Hop nodeId (index :: hop) target → hop.length ≤ remaining →
    Found ordered records target (route ++ index :: hop)

/-- A reference to a folder passes the search on. -/
theorem folder_searches (hbrowse : BrowseSearches space limit ordered remaining browse)
    (hindex : (space nodeId)[index]? = some reference)
    (hfollowed : followed reference = some reference.nodeId)
    (hstandard : reference.nodeId.namespaceIndex = 0)
    (hwalk : space.graph.Walk nodeId route entered) (hlimit : route.length + (remaining + 1) = limit)
    (hsearching : Searching context parentIndex entered records)
    (hafter : NoneAfter ordered records (route ++ [index]))
    (hgood : browse reference.nodeId parentIndex context = (.good, next)) :
    ∃ after, Searched space limit ordered (route ++ [index]) next records after ∧
      BranchFound space ordered remaining nodeId route index after := by
  have hbranch : space.graph.branch nodeId index = some reference.nodeId := by
    simp [AddressSpace.graph, hindex, hfollowed]
  have huntracked : ¬ space.graph.tracked reference.nodeId := not_not.mpr hstandard
  obtain ⟨after, hsearched, hhops⟩ := hbrowse reference.nodeId parentIndex context next
    (route ++ [index]) entered records (.pass hwalk hbranch huntracked)
    (by simp; omega) hsearching hafter hgood
  refine ⟨after, hsearched, fun hop target hhop hlength => ?_⟩
  cases hhop with
  | enter hbranch' htracked =>
      obtain rfl := Option.some.inj (hbranch.symm.trans hbranch')
      exact absurd htracked huntracked
  | pass hbranch' _ hrest =>
      obtain rfl := Option.some.inj (hbranch.symm.trans hbranch')
      simpa using hhops hop target hrest hlength

/-- A reference to a mapped object is skipped, and the object has its record. -/
theorem mapped_searches (hindex : (space nodeId)[index]? = some reference)
    (hfollowed : followed reference = some reference.nodeId)
    (hcustom : reference.nodeId.namespaceIndex ≠ 0)
    (hmapped : reference.nodeId ∈ context.equipmentNodeIds)
    (hsearching : Searching context parentIndex entered records)
    (hafter : NoneAfter ordered records (route ++ [index])) :
    Searched space limit ordered (route ++ [index]) context records records ∧
      BranchFound space ordered remaining nodeId route index records := by
  have hbranch : space.graph.branch nodeId index = some reference.nodeId := by
    simp [AddressSpace.graph, hindex, hfollowed]
  refine ⟨.refl hsearching.recorded, fun hop target hhop _ => ?_⟩
  cases hhop with
  | enter hbranch' htracked =>
      obtain rfl := Option.some.inj (hbranch.symm.trans hbranch')
      obtain ⟨found, hfound⟩ := (hsearching.recorded _).mp hmapped
      exact ⟨found, hfound, fun hordered => hafter hordered _ hfound⟩
  | pass hbranch' huntracked =>
      obtain rfl := Option.some.inj (hbranch.symm.trans hbranch')
      exact absurd hcustom huntracked

/-- What mapping a new object does to the search. -/
theorem Searching.withObject {calls : List Call} {equipment : Equipment} {newId : NodeId}
    (hsearching : Searching context parentIndex entered records)
    (hobject : DiscoveryStep { context with calls }
      (Context.withObject { context with calls } equipment newId))
    (hroom : context.dataModel.equipment.length < context.dataModel.equipmentCapacity) :
    Searching (Context.withObject { context with calls } equipment newId)
      (some context.dataModel.equipment.length) (newId :: entered)
      (insert (newId, route) records) := by
  have hsteps : Steps context (Context.withObject { context with calls } equipment newId) :=
    (ReflTransGen.single (.requests context calls)).tail hobject
  have hids : (Context.withObject { context with calls } equipment newId).equipmentNodeIds =
      context.equipmentNodeIds ++ [newId] := by
    simp only [Context.withObject, ← hsearching.consistent.objects_length, storeLast_length]
  constructor
  · exact hsteps.consistent hsearching.consistent
  · intro object hindex
    obtain rfl := Option.some.inj hindex
    simp [Context.withObject, addEquipment_equipment hroom]
  · rw [hids]
    intro nodeId hentered
    rcases List.mem_cons.mp hentered with rfl | hold
    · simp
    · exact List.mem_append_left _ (hsearching.entered_mapped nodeId hold)
  · intro nodeId
    rw [hids, List.mem_append, List.mem_singleton, hsearching.recorded nodeId]
    constructor
    · rintro (⟨found, hfound⟩ | rfl)
      · exact ⟨found, Set.mem_insert_of_mem _ hfound⟩
      · exact ⟨route, Set.mem_insert _ _⟩
    · rintro ⟨found, hfound | hfound⟩
      · exact .inr (congrArg Prod.fst hfound)
      · exact .inl ⟨found, hfound⟩

/-- A reference to a new object gives it the route as its record, and the search goes on below it. -/
theorem object_searches (hbrowse : BrowseSearches space limit ordered remaining browse)
    (hindex : (space nodeId)[index]? = some reference)
    (hfollowed : followed reference = some reference.nodeId)
    (hcustom : reference.nodeId.namespaceIndex ≠ 0)
    (hunmapped : reference.nodeId ∉ context.equipmentNodeIds)
    (hwalk : space.graph.Walk nodeId route entered) (hlimit : route.length + (remaining + 1) = limit)
    (hsearching : Searching context parentIndex entered records)
    (hafter : NoneAfter ordered records (route ++ [index]))
    (hgood : addObject env browse reference parentIndex context = (.good, next)) :
    ∃ after, Searched space limit ordered (route ++ [index]) next records after ∧
      BranchFound space ordered remaining nodeId route index after := by
  rcases @addObject_cases env browse parentIndex context reference hcustom hunmapped
      hsearching.parent with ⟨full, hresult, _⟩ | ⟨calls, equipment, hobject, hroom, hresult⟩
  · rw [hresult] at hgood
    exact absurd (congrArg Prod.fst hgood) (show StatusCode.badOutOfMemory ≠ .good by decide)
  rw [hresult] at hgood
  have hbranch : space.graph.branch nodeId index = some reference.nodeId := by
    simp [AddressSpace.graph, hindex, hfollowed]
  have hnew : reference.nodeId ∉ entered := fun hentered =>
    hunmapped (hsearching.entered_mapped _ hentered)
  have henter : space.graph.Walk reference.nodeId (route ++ [index])
      (reference.nodeId :: entered) := .enter hwalk hbranch hcustom hnew
  obtain ⟨after, hsearched, hhops⟩ := hbrowse reference.nodeId _ _ next (route ++ [index])
    (reference.nodeId :: entered) (insert (reference.nodeId, route ++ [index]) records) henter
    (by simp; omega) (hsearching.withObject hobject hroom)
    (fun hordered => Set.forall_mem_insert.mpr ⟨.refl _, hafter hordered⟩) hgood
  have hrecord : (reference.nodeId, route ++ [index]) ∈ after :=
    hsearched.explored.grows (Set.mem_insert _ _)
  refine ⟨after, ⟨hsearched.recorded, ⟨?_, ?_⟩, ?_⟩, ?_⟩
  · exact (Set.subset_insert _ _).trans hsearched.explored.grows
  · intro target found hfound hfresh
    by_cases hold : (target, found) ∈ insert (reference.nodeId, route ++ [index]) records
    · obtain ⟨rfl, rfl⟩ := Prod.mk.inj (hold.resolve_right hfresh)
      refine ⟨⟨_, henter⟩, by simp; omega, fun hop last hhop hlength => ?_⟩
      exact hhops hop last hhop (by simp at hlength; omega)
    · exact hsearched.explored.expanded target found hfound hold
  · intro entry hentry hfresh
    by_cases hold : entry ∈ insert (reference.nodeId, route ++ [index]) records
    · exact hold.resolve_right hfresh ▸ List.prefix_rfl
    · exact hsearched.below entry hentry hold
  · intro hop target hhop hlength
    cases hhop with
    | enter hbranch' _ =>
        obtain rfl := Option.some.inj (hbranch.symm.trans hbranch')
        exact ⟨_, hrecord, fun _ => .refl _⟩
    | pass hbranch' huntracked =>
        obtain rfl := Option.some.inj (hbranch.symm.trans hbranch')
        exact absurd hcustom huntracked

/-- One reference of a node. -/
theorem processReference_searches (houtcome : BrowseOutcome browse)
    (hbrowse : BrowseSearches space limit ordered remaining browse)
    (hindex : (space nodeId)[index]? = some reference)
    (hwalk : space.graph.Walk nodeId route entered) (hlimit : route.length + (remaining + 1) = limit)
    (hsearching : Searching context parentIndex entered records)
    (hafter : NoneAfter ordered records (route ++ [index]))
    (hgood : processReference env browse parentIndex reference context = (.good, next)) :
    ∃ after, Searched space limit ordered (route ++ [index]) next records after ∧
      Searching next parentIndex entered after ∧
      BranchFound space ordered remaining nodeId route index after := by
  have hsteps : Steps context next :=
    (hgood ▸ @processReference_outcome env browse parentIndex context houtcome reference
      hsearching.parent : Outcome context (.good, next)).steps
  suffices hfound : ∃ after, Searched space limit ordered (route ++ [index]) next records after ∧
      BranchFound space ordered remaining nodeId route index after by
    obtain ⟨after, hsearched, hbranches⟩ := hfound
    exact ⟨after, hsearched,
      hsearching.of_steps hsteps hsearched.explored.grows hsearched.recorded, hbranches⟩
  have hhandled := @processReference_handled env browse parentIndex reference context
  -- a reference which is not followed has no branch in the graph
  have hno : followed reference = none →
      BranchFound space ordered remaining nodeId route index records := by
    intro hfollowed hop target hhop
    cases hhop <;> simp_all [AddressSpace.graph]
  generalize hresult : processReference env browse parentIndex reference context = result
    at hhandled hgood
  cases hhandled with
  | skipped hfollowed =>
      obtain rfl : context = next := congrArg Prod.snd hgood
      exact ⟨records, .refl hsearching.recorded, hno hfollowed⟩
  | tag hfollowed hcustom howner =>
      have hids := (@addVariable_outcome env context _ _ hcustom (hsearching.parent _ howner)).2
      rw [hgood] at hids
      refine ⟨records, .refl fun nodeId => ?_, hno hfollowed⟩
      rw [← hsearching.recorded nodeId, ← hids]
  | folder hfollowed hstandard =>
      exact folder_searches hbrowse hindex hfollowed hstandard hwalk hlimit hsearching hafter hgood
  | mapped hfollowed hcustom hmapped =>
      obtain rfl : context = next := congrArg Prod.snd hgood
      exact ⟨records, mapped_searches hindex hfollowed hcustom hmapped hsearching hafter⟩
  | object hfollowed hcustom hunmapped =>
      exact object_searches hbrowse hindex hfollowed hcustom hunmapped hwalk hlimit hsearching hafter
        hgood

/-- The same reference at a later place is found as well. -/
theorem BranchFound.relabel {later : ℕ} {after : Set (NodeId × List ℕ)}
    (hfound : BranchFound space ordered remaining nodeId route index records)
    (hsame : (space nodeId)[index]? = (space nodeId)[later]?) (hle : ordered → index ≤ later)
    (hgrows : records ⊆ after) : BranchFound space ordered remaining nodeId route later after := by
  intro hop target hhop hlength
  have hbranch : space.graph.branch nodeId index = space.graph.branch nodeId later := by
    simp [AddressSpace.graph, hsame]
  have hhop' : space.graph.Hop nodeId (index :: hop) target := by
    cases hhop with
    | enter hnext htracked => exact .enter (hbranch.trans hnext) htracked
    | pass hnext huntracked hrest => exact .pass (hbranch.trans hnext) huntracked hrest
  obtain ⟨found, hmem, hafter⟩ := hfound hop target hhop' hlength
  refine ⟨found, hgrows hmem, fun hordered => (hafter hordered).trans ?_⟩
  rcases (hle hordered).lt_or_eq with hlt | rfl
  · exact .append_less route hlt hop hop
  · exact .refl _

/-- The place of the first reference that is left. -/
theorem exists_label {references : List ReferenceDescription} {start : ℕ}
    (hmem : reference ∈ space nodeId)
    (hstart : ordered → reference :: references = (space nodeId).drop start) :
    ∃ index, (space nodeId)[index]? = some reference ∧ (ordered → index = start) := by
  by_cases hordered : ordered
  · refine ⟨start, ?_, fun _ => rfl⟩
    have hfirst := congrArg (fun rest => rest[0]?) (hstart hordered)
    simpa using hfirst.symm
  · obtain ⟨index, hindex⟩ := List.mem_iff_getElem?.mp hmem
    exact ⟨index, hindex, fun h => absurd h hordered⟩

/-- The references of a node, one after the other. -/
theorem Processed.searches (houtcome : BrowseOutcome browse)
    (hbrowse : BrowseSearches space limit ordered remaining browse)
    (hwalk : space.graph.Walk nodeId route entered) (hlimit : route.length + (remaining + 1) = limit)
    {references : List ReferenceDescription} {result : StatusCode × Context} (start : ℕ)
    (hprocessed : Processed (processReference env browse parentIndex) references context result)
    (hgood : result = (.good, next)) (hmem : ∀ reference ∈ references, reference ∈ space nodeId)
    (hstart : ordered → references = (space nodeId).drop start)
    (hsearching : Searching context parentIndex entered records)
    (hafter : NoneAfter ordered records (route ++ [start])) :
    ∃ after, Searched space limit ordered route next records after ∧
      ∀ reference ∈ references, ∀ index, (space nodeId)[index]? = some reference →
        (ordered → start ≤ index) → BranchFound space ordered remaining nodeId route index after := by
  -- along the references; `start` is the place of the next one when the records are ordered
  induction hprocessed generalizing start records with
  | done context =>
      obtain rfl : context = next := congrArg Prod.snd hgood
      exact ⟨records, .refl hsearching.recorded, by simp⟩
  | @request _ context call _ _ ih =>
      have hrequest : Steps context (context.record call) := .single (.requests context _)
      exact ih start hgood hmem hstart
        (hsearching.of_steps hrequest subset_rfl hsearching.recorded) hafter
  | @next reference references context middle _ hone hrest ih =>
      obtain ⟨index, hindex, hlabel⟩ := exists_label (hmem reference List.mem_cons_self) hstart
      obtain ⟨between, hsearched, hsearching, hbranch⟩ := processReference_searches houtcome hbrowse
        hindex hwalk hlimit hsearching (fun hordered => hlabel hordered ▸ hafter hordered) hone
      have hbetween : NoneAfter ordered between (route ++ [start + 1]) := by
        intro hordered entry hentry
        by_cases hold : entry ∈ records
        · exact (hafter hordered entry hold).trans (.append_less route (Nat.lt_succ_self _) [] [])
        · obtain ⟨rest, hrest⟩ := hsearched.below entry hentry hold
          rw [← hrest, hlabel hordered, List.append_assoc]
          exact .append_less route (Nat.lt_succ_self _) rest []
      have hnextStart : ordered → references = (space nodeId).drop (start + 1) := by
        intro hordered
        have htail := congrArg List.tail (hstart hordered)
        simpa using htail
      obtain ⟨after, hsearchedRest, hbranches⟩ := ih (start + 1) hgood
        (fun other hother => hmem other (List.mem_cons_of_mem _ hother)) hnextStart hsearching
        hbetween
      refine ⟨after, ⟨hsearchedRest.recorded, hsearched.explored.trans hsearchedRest.explored, ?_⟩, ?_⟩
      · intro entry hentry hfresh
        by_cases hmiddle : entry ∈ between
        · exact (List.prefix_append route [index]).trans (hsearched.below entry hmiddle hfresh)
        · exact hsearchedRest.below entry hentry hmiddle
      · intro other hother place hplace hle
        by_cases hfirst : other = reference
        · subst hfirst
          exact hbranch.relabel (hindex.trans hplace.symm)
            (fun hordered => hlabel hordered ▸ hle hordered) hsearchedRest.explored.grows
        · have hrest := (List.mem_cons.mp hother).resolve_left hfirst
          refine hbranches other hrest place hplace fun hordered => ?_
          -- at `start` itself stands the first reference
          rcases (hle hordered).lt_or_eq with hlt | rfl
          · exact hlt
          · rw [← hlabel hordered, hindex] at hplace
            exact absurd (Option.some.inj hplace).symm hfirst
  | failed _ _ hstatus => exact absurd (congrArg Prod.fst hgood) hstatus
  | aborted hstatus => exact absurd (congrArg Prod.fst hgood) hstatus

end

/-- Every browse with enough levels searches. -/
theorem browseChildren_searches {env : Environment} {space : AddressSpace} {limit : ℕ}
    {ordered : Prop} (hserves : Serves env space ordered) (remaining : ℕ) :
    BrowseSearches space limit ordered remaining (browseChildren env remaining) := by
  induction remaining with
  | zero =>
      intro nodeId parentIndex context next route entered records _ _ hsearching _ hgood
      obtain rfl : context = next := congrArg Prod.snd hgood
      refine ⟨records, .refl hsearching.recorded, fun hop target hhop hlength => ?_⟩
      cases hhop <;> simp at hlength
  | succ remaining ih =>
      intro nodeId parentIndex context next route entered records hwalk hlimit hsearching hafter hgood
      have hprocessed :=
        @browseChildren_processed env parentIndex remaining nodeId context
      rw [hgood] at hprocessed
      have hdelivered := hserves.complete (context.record .newBrowseDescription).calls nodeId
      obtain ⟨after, hsearched, hbranches⟩ := Processed.searches (browseChildren_outcome env remaining) ih
        hwalk hlimit 0 hprocessed rfl
        (fun reference hreference => hdelivered.subset hreference)
        (fun hordered => by simpa using hserves.inOrder hordered _ nodeId) hsearching
        (fun hordered entry hentry => (hafter hordered entry hentry).trans (.append route [0]))
      refine ⟨after, hsearched, fun hop target hhop hlength => ?_⟩
      -- the first branch of the hop is a reference that has been handled
      obtain ⟨index, rest, rfl, child, hchild⟩ := hhop.first_branch
      obtain ⟨reference, hreference, _⟩ := Option.bind_eq_some_iff.mp hchild
      exact hbranches reference (hdelivered.symm.subset (List.mem_of_getElem? hreference)) index
        hreference (fun _ => Nat.zero_le _) rest target hhop (by simpa using hlength)

/-! ## The whole discovery -/

/-- A custom object that some path of local objects reaches within the limit. -/
def Within (space : AddressSpace) (limit : ℕ) (nodeId : NodeId) : Prop :=
  nodeId.namespaceIndex ≠ 0 ∧ ∃ route, space.graph.Reaches nodeId route ∧ route.length ≤ limit

/-- The model has an object for the node. -/
def Present (context : Context) (nodeId : NodeId) : Prop :=
  ∃ index equipment, context.equipmentNodeIds[index]? = some nodeId ∧
    context.dataModel.getEquipment index = some equipment ∧ equipment.nodeId = nodeId.text

theorem Discovered.present_iff {context : Context} (hdiscovered : Discovered context)
    {nodeId : NodeId} : Present context nodeId ↔ nodeId ∈ context.equipmentNodeIds := by
  constructor
  · rintro ⟨index, _, hid, _, _⟩
    exact List.mem_of_getElem? hid
  · intro hmem
    obtain ⟨index, hid⟩ := List.mem_iff_getElem?.mp hmem
    have hlt : index < context.dataModel.equipment.length := by
      have hlength := (List.getElem?_eq_some_iff.mp hid).1
      rwa [hdiscovered.objects_count] at hlength
    have hget : context.dataModel.getEquipment index = some context.dataModel.equipment[index] :=
      List.getElem?_eq_getElem hlt
    exact ⟨index, _, hid, hget, hdiscovered.object_text index _ nodeId hget hid⟩

/-- **Discovery completeness.**  A good discovery finds every object that is in time.  Where all
custom objects within the depth are, it finds these and no others. -/
theorem discoverAddressSpace_complete {env : Environment} {space : AddressSpace} {ordered : Prop}
    {context : Context} (hserves : Serves env space ordered)
    (hgood : (discoverAddressSpace env context).1 = .good) :
    let limit := context.configuration.maximumBrowseDepth + 1
    let found := (discoverAddressSpace env context).2
    (∀ nodeId route, space.graph.InTime limit ordered nodeId route → Present found nodeId) ∧
      ((∀ nodeId, Within space limit nodeId →
          ∃ route, space.graph.InTime limit ordered nodeId route) →
        ∀ nodeId, Present found nodeId ↔ Within space limit nodeId) := by
  intro limit found
  have hdiscovered : Discovered found := discoverAddressSpace_discovered hgood
  obtain ⟨status, browsed, hbrowse, hdiscover⟩ := discoverAddressSpace_cases env context
  obtain rfl : status = .good := by
    rw [hdiscover] at hgood
    exact hgood
  have hids : found.equipmentNodeIds = browsed.equipmentNodeIds := by
    simp only [found, hdiscover]
    rfl
  have hsearching : Searching context.cleared none [] ∅ :=
    { consistent := context.cleared_consistent
      parent := by simp [Context.HasObject]
      entered_mapped := by simp
      recorded := fun nodeId => by simp [Context.cleared, Context.clearTagNodeIds] }
  obtain ⟨records, hsearched, hhops⟩ := @browseChildren_searches env space limit ordered hserves limit
    .objectsFolder none context.cleared browsed [] [] ∅ .root (by simp) hsearching
    (fun _ entry hentry => absurd hentry (Set.notMem_empty _)) hbrowse
  have hintime : ∀ nodeId route, space.graph.InTime limit ordered nodeId route →
      Present found nodeId := by
    intro nodeId route hroute
    obtain ⟨record, hrecord, _⟩ := hroute.found hsearched.explored hhops
    rw [hdiscovered.present_iff, hids]
    exact (hsearched.recorded nodeId).mpr ⟨record, hrecord⟩
  refine ⟨hintime, fun hall nodeId => ⟨fun hpresent => ?_, fun hwithin => ?_⟩⟩
  · have hmem := hdiscovered.present_iff.mp hpresent
    obtain ⟨route, hrecord⟩ := (hsearched.recorded nodeId).mp (hids ▸ hmem)
    obtain ⟨⟨entered, hwalk⟩, hlimit, _⟩ := hsearched.explored.expanded nodeId route hrecord
      (Set.notMem_empty _)
    exact ⟨hdiscovered.objects_custom nodeId hmem, route, hwalk.reaches, hlimit⟩
  · obtain ⟨route, hroute⟩ := hall nodeId hwithin
    exact hintime nodeId route hroute

theorem staticServer_serves (space : AddressSpace) (ordered : Prop) :
    Serves (staticServer space) space ordered where
  complete := fun _ _ => by simp [staticServer, BrowseAnswer.delivered, deliveredAfter,
    childDescription]
  inOrder := fun _ _ _ => by simp [staticServer, BrowseAnswer.delivered, deliveredAfter,
    childDescription]

theorem pump_inTime : (AddressSpace.graph pumpSpace).InTime 5 True ⟨1, .numeric 7⟩ [0] := by
  have hcustom : (1 : UInt16) ≠ 0 := by decide
  exact .first (.enter rfl hcustom) (by decide)

/-- The pump is found, and it is all there is. -/
theorem discoverAddressSpace_complete_pump :
    Present (discoverAddressSpace (staticServer pumpSpace) (freshContext 4)).2 ⟨1, .numeric 7⟩ :=
  (discoverAddressSpace_complete (staticServer_serves pumpSpace True)
    (show (discoverAddressSpace (staticServer pumpSpace) (freshContext 4)).1 = .good by
      decide +kernel)).1 _ _ pump_inTime

/-! ## The detour -/

/-- An object without names. -/
private def objectReference (identifier : UInt32) : ReferenceDescription :=
  { nodeId := ⟨1, .numeric identifier⟩, nodeClass := .object, referenceTypeId := .organizes }

/-- Object 3 is a root, and also lies two levels below the root object 1; object 4 is its child. -/
def detourSpace (roots : List UInt32) : AddressSpace := fun nodeId =>
  if nodeId = .objectsFolder then roots.map objectReference
  else if nodeId = ⟨1, .numeric 1⟩ then [objectReference 2]
  else if nodeId = ⟨1, .numeric 2⟩ then [objectReference 3]
  else if nodeId = ⟨1, .numeric 3⟩ then [objectReference 4]
  else []

/-- With depth 2 object 4 is two references away from the Objects folder.  It is not found when the
server returns object 1 first, and found when it returns object 3 first. -/
theorem detour_not_complete :
    (Serves (staticServer (detourSpace [1, 3])) (detourSpace [1, 3]) True ∧
      (discoverAddressSpace (staticServer (detourSpace [1, 3])) (freshContext 2)).1 = .good ∧
      Within (detourSpace [1, 3]) 3 ⟨1, .numeric 4⟩ ∧
      ¬ Present (discoverAddressSpace (staticServer (detourSpace [1, 3])) (freshContext 2)).2
        ⟨1, .numeric 4⟩ ∧
      ∀ equipment ∈ (discoverAddressSpace (staticServer (detourSpace [1, 3]))
        (freshContext 2)).2.dataModel.equipment, equipment.nodeId ≠ NodeId.text ⟨1, .numeric 4⟩) ∧
    (Serves (staticServer (detourSpace [3, 1])) (detourSpace [3, 1]) True ∧
      Present (discoverAddressSpace (staticServer (detourSpace [3, 1])) (freshContext 2)).2
        ⟨1, .numeric 4⟩) := by
  refine ⟨⟨staticServer_serves _ _, by decide +kernel, ⟨by decide, [1, 0], ?_, by decide⟩, ?_,
    by decide +kernel⟩, staticServer_serves _ _, ?_⟩
  · exact .step (.step .root (show _ = some (NodeId.mk 1 (.numeric 3)) by decide +kernel))
      (by decide +kernel)
  · rintro ⟨index, _, hid, _, _⟩
    exact absurd (List.mem_of_getElem? hid) (by decide +kernel)
  · have hgood : (discoverAddressSpace (staticServer (detourSpace [3, 1])) (freshContext 2)).1 =
        .good := by decide +kernel
    exact (discoverAddressSpace_discovered hgood).present_iff.mpr (by decide +kernel)

end CrowPanel.OpcUa
