import CrowPanel.Library.LinearUse
import CrowPanel.OpcUa.Paging

/-!
# What becomes of continuation points

A server that returns a list in pages hands out continuation points, and keeps resources for each
until the client presents it again, to continue or to release.  `exchanges` tells, along the walk,
every request of this kind with the response to it.  `browse_children` presents each point exactly
once that comes with a page it processes.  The browses for metadata look at the references of the
response only, and a response that is turned away as a whole is not looked at either: the points in
these are never presented.

## Strategy

`Conversation` accounts for a part of the discovery: its exchanges are the requests it made, and the
points that are left over are those in responses nobody follows.  It holds of the requests for
metadata (`Inquires.conversation`), of a list of references, of the pages of an answer together with
the point that leads to them, and so by induction on the levels left of every browse.
-/

namespace CrowPanel.OpcUa

open Library DataModel

/-! ## Exchanges -/

/-- The continuation points in a response. -/
def BrowseResponse.points (response : BrowseResponse) : List (List UInt8) :=
  (response.results.map BrowseResult.continuationPoint).filter (· ≠ [])

/-- `browse_children` processes the response. -/
def BrowseResponse.accepted (response : BrowseResponse) : Prop :=
  response.serviceResult = .good ∧ response.results.length = 1

instance (response : BrowseResponse) : Decidable response.accepted :=
  inferInstanceAs (Decidable (_ ∧ _))

/-- A request about pages, with the response to it; that to a release is not looked at. -/
inductive Exchange where
  | browse (description : BrowseDescription) (response : BrowseResponse)
  | browseNext (point : List UInt8) (response : BrowseResponse)
  | release (point : List UInt8)

namespace Exchange

/-- The request of the exchange. -/
def call : Exchange → Call
  | .browse description _ => .browse description
  | .browseNext point _ => .browseNext point
  | .release point => .releaseContinuationPoint point

/-- The client follows a point in the response. -/
def followed : Exchange → Prop
  | .browse description response =>
      description.referenceTypeId ≠ .hasProperty ∧ response.accepted
  | .browseNext _ response => response.accepted
  | .release _ => True

instance : DecidablePred followed
  | .browse _ _ => inferInstanceAs (Decidable (_ ∧ _))
  | .browseNext _ response => inferInstanceAs (Decidable response.accepted)
  | .release _ => .isTrue trivial

/-- The points that the request presents. -/
def presented : Exchange → List (List UInt8)
  | .browse _ _ => []
  | .browseNext point _ | .release point => [point]

/-- The points that the response delivers. -/
def delivered : Exchange → List (List UInt8)
  | .browse _ response | .browseNext _ response => response.points
  | .release _ => []

/-- What the exchange means for the points: the response comes after the request. -/
def events (exchange : Exchange) : List (TokenEvent (List UInt8)) :=
  exchange.presented.map .presented ++ exchange.delivered.map .issued

/-- The points of a response that is not followed. -/
def lost (exchange : Exchange) : List (List UInt8) :=
  if exchange.followed then [] else exchange.delivered

end Exchange

/-- The request is one of those in `Exchange`. -/
def Call.isExchange : Call → Bool
  | .browse _ | .browseNext _ | .releaseContinuationPoint _ => true
  | _ => false

/-- The requests of the exchanges so far, latest first. -/
def Context.exchangeCalls (context : Context) : List Call :=
  context.calls.filter Call.isExchange

/-! ## The exchanges of the walk -/

/-- The exchanges that a browse of a node makes. -/
abbrev BrowseLog := NodeId → Option ℕ → Context → List Exchange

section

variable (env : Environment)

/-- The browses among the latest requests. -/
def recentBrowses : ℕ → List Call → List Exchange
  | 0, _ => []
  | _ + 1, [] => []
  | count + 1, call :: before =>
      recentBrowses count before ++
        match call with
        | .browse description => [.browse description (env.browse before description).first]
        | _ => []

/-- The browses between two contexts. -/
def browsesBetween (context next : Context) : List Exchange :=
  recentBrowses env (next.calls.length - context.calls.length) next.calls

/-- The exchanges of `addObject`. -/
def addObjectExchanges (log : BrowseLog) (reference : ReferenceDescription)
    (parentEquipmentIndex : Option ℕ) (context : Context) : List Exchange :=
  let (equipment, read) := readObjectMetadata env reference.nodeId
    (equipmentOf reference parentEquipmentIndex) context
  let equipmentIndex := read.dataModel.equipment.length
  browsesBetween env context read ++
    if equipmentIndex < read.dataModel.equipmentCapacity ∧
        equipmentIndex < read.configuration.maximumEquipmentObjects then
      log reference.nodeId (some equipmentIndex) (read.withObject equipment reference.nodeId)
    else []

variable (browse : Browse) (log : BrowseLog) (parentEquipmentIndex : Option ℕ)

/-- The exchanges of `processReference`. -/
def referenceExchanges (reference : ReferenceDescription) (context : Context) : List Exchange :=
  if OpcUa.followed reference = none then
    browsesBetween env context (processReference env browse parentEquipmentIndex reference context).2
  else if reference.nodeId.namespaceIndex = 0 then
    log reference.nodeId parentEquipmentIndex context
  else if reference.nodeId ∈ context.equipmentNodeIds then []
  else addObjectExchanges env log reference parentEquipmentIndex context

/-- The exchanges of `processReferences`. -/
def referencesExchanges : List ReferenceDescription → Context → List Exchange
  | [], _ => []
  | reference :: references, context =>
      let (result, next) := processReference env browse parentEquipmentIndex reference context
      referenceExchanges env browse log parentEquipmentIndex reference context ++
        if result ≠ .good then [] else referencesExchanges references next

/-- The exchanges of `processPage`. -/
def pageExchanges (page : BrowseResult) (context : Context) : List Exchange :=
  if page.statusCode ≠ .good then []
  else referencesExchanges env browse log parentEquipmentIndex page.references context

/-- The exchanges of `browsePages`. -/
def pagesExchanges : List BrowseResponse → StatusCode × List UInt8 × Context → List Exchange
  | pages, (result, continuationPoint, context) =>
      if continuationPoint = [] then []
      else if result ≠ .good then [.release continuationPoint]
      else
        let context := context.record (.browseNext continuationPoint)
        match pages with
        | [] =>
            [.browseNext continuationPoint
              { serviceResult := .badContinuationPointInvalid, results := [] }]
        | response :: pages =>
            .browseNext continuationPoint response ::
              if response.serviceResult ≠ .good then []
              else
                match response.results with
                | [page] =>
                    pageExchanges env browse log parentEquipmentIndex page context ++
                      pagesExchanges pages (processPage env browse parentEquipmentIndex page context)
                | _ => []

/-- The exchanges of `browseChildren`. -/
def exchanges : ℕ → BrowseLog
  | 0, _, _, _ => []
  | remaining + 1, parentNodeId, parentEquipmentIndex, context =>
      if env.newBrowseDescription context.calls = false then []
      else
        let context := context.record .newBrowseDescription
        let answer := env.browse context.calls (childDescription parentNodeId)
        let context := context.record (.browse (childDescription parentNodeId))
        .browse (childDescription parentNodeId) answer.first ::
          if answer.first.serviceResult ≠ .good then []
          else
            match answer.first.results with
            | [page] =>
                pageExchanges env (browseChildren env remaining) (exchanges remaining)
                    parentEquipmentIndex page context ++
                  pagesExchanges env (browseChildren env remaining) (exchanges remaining)
                    parentEquipmentIndex answer.next
                    (processPage env (browseChildren env remaining) parentEquipmentIndex page context)
            | _ => []

/-- The exchanges of `discoverAddressSpace`. -/
def discoveryExchanges (context : Context) : List Exchange :=
  exchanges env (context.configuration.maximumBrowseDepth + 1) .objectsFolder none context.cleared

end

/-! ## Requests for metadata -/

/-- The request is one that reads values or properties. -/
def Call.IsInquiry : Call → Prop
  | .newBrowseDescription | .readDataType _ | .readUserAccessLevel _ | .readValue _ => True
  | .browse description => description.referenceTypeId = .hasProperty
  | .copyContinuationPoint _ | .browseNext _ | .releaseContinuationPoint _ => False

/-- Only inquiries lie between the contexts. -/
def Inquires (context next : Context) : Prop :=
  ∃ calls, next.calls = calls ++ context.calls ∧ ∀ call ∈ calls, call.IsInquiry

section

variable {env : Environment} {context middle next : Context}

theorem Inquires.refl (context : Context) : Inquires context context := ⟨[], rfl, by simp⟩

theorem Inquires.trans (hfirst : Inquires context middle) (hsecond : Inquires middle next) :
    Inquires context next := by
  obtain ⟨first, hmiddle, hinquiries⟩ := hfirst
  obtain ⟨second, hnext, hlater⟩ := hsecond
  exact ⟨second ++ first, by rw [hnext, hmiddle, List.append_assoc],
    List.forall_mem_append.mpr ⟨hlater, hinquiries⟩⟩

theorem Inquires.record (hinquires : Inquires context middle) {call : Call}
    (hcall : call.IsInquiry) : Inquires context (middle.record call) :=
  hinquires.trans ⟨[call], rfl, by simpa using hcall⟩

theorem readObjectProperty_inquires (equipment : Equipment) (property : ReferenceDescription) :
    Inquires context (readObjectProperty env (equipment, context) property).2 := by
  have hasked : Inquires context (context.record (.readValue property.nodeId)) :=
    (Inquires.refl context).record trivial
  unfold readObjectProperty
  dsimp only
  split
  · exact .refl context
  · split
    · split <;> exact hasked
    · exact hasked

theorem readVariableProperty_inquires (tag : Tag) (property : ReferenceDescription) :
    Inquires context (readVariableProperty env (tag, context) property).2 := by
  have hasked : Inquires context (context.record (.readValue property.nodeId)) :=
    (Inquires.refl context).record trivial
  unfold readVariableProperty
  dsimp only
  split <;> exact hasked

private theorem foldl_inquires {α : Type}
    {visit : α × Context → ReferenceDescription → α × Context}
    (hvisit : ∀ record context property, Inquires context (visit (record, context) property).2)
    (properties : List ReferenceDescription) (state : α × Context) :
    Inquires state.2 (properties.foldl visit state).2 := by
  induction properties generalizing state with
  | nil => exact .refl _
  | cons property properties ih => exact (hvisit state.1 state.2 property).trans (ih _)

private theorem foldProperties_inquires {α : Type}
    {visit : α × Context → ReferenceDescription → α × Context}
    (hvisit : ∀ record context property, Inquires context (visit (record, context) property).2)
    (nodeId : NodeId) (record : α) :
    Inquires context (foldProperties env visit nodeId record context).2 := by
  have hnew : Inquires context (context.record .newBrowseDescription) :=
    (Inquires.refl context).record trivial
  have hbrowsed := hnew.record (show (Call.browse (propertyDescription nodeId)).IsInquiry from rfl)
  unfold foldProperties
  split
  · exact hnew
  · dsimp only
    split
    · exact hbrowsed
    · exact hbrowsed.trans (foldl_inquires hvisit _ (record, _))

theorem readObjectMetadata_inquires (nodeId : NodeId) (equipment : Equipment) :
    Inquires context (readObjectMetadata env nodeId equipment context).2 :=
  foldProperties_inquires (fun record _ property => readObjectProperty_inquires record property)
    nodeId equipment

theorem readVariableMetadata_inquires (nodeId : NodeId) (tag : Tag) :
    Inquires context (readVariableMetadata env nodeId tag context).2 :=
  foldProperties_inquires (fun record _ property => readVariableProperty_inquires record property)
    nodeId tag

theorem readInitialValue_inquires (nodeId : NodeId) (tag : Tag) :
    Inquires context (readInitialValue env nodeId tag context).2 := by
  have hasked : Inquires context (context.record (.readValue nodeId)) :=
    (Inquires.refl context).record trivial
  unfold readInitialValue
  dsimp only
  split
  · split <;> exact hasked
  · exact .refl context

theorem addVariable_inquires (reference : ReferenceDescription) (owner : ℕ) :
    Inquires context (addVariable env reference owner context).2 := by
  have htype : Inquires context (context.record (.readDataType reference.nodeId)) :=
    (Inquires.refl context).record trivial
  have haccess := htype.record (show (Call.readUserAccessLevel reference.nodeId).IsInquiry from trivial)
  have hread (tag valued : Tag) := (haccess.trans
    (@readInitialValue_inquires env _ reference.nodeId tag)).trans
      (@readVariableMetadata_inquires env _ reference.nodeId valued)
  unfold addVariable
  dsimp only
  split
  · exact .refl context
  split
  · exact htype
  split
  · exact haccess
  split
  · exact hread _ _
  · split <;> exact hread _ _

/-- A reference that is not followed leads to inquiries only. -/
theorem processReference_inquires {browse : Browse} {parentIndex : Option ℕ}
    {reference : ReferenceDescription} (hfollowed : followed reference = none) :
    Inquires context (processReference env browse parentIndex reference context).2 := by
  have hhandled := @processReference_handled env browse parentIndex reference context
  generalize processReference env browse parentIndex reference context = result at hhandled ⊢
  cases hhandled with
  | skipped => exact .refl context
  | tag _ _ _ => exact addVariable_inquires reference _
  | folder hobject => exact absurd hfollowed (by simp [hobject])
  | mapped hobject => exact absurd hfollowed (by simp [hobject])
  | object hobject => exact absurd hfollowed (by simp [hobject])

end

/-! ## The account of the points -/

/-- The point, if there is one. -/
def pointOf (point : List UInt8) : List (List UInt8) := [point].filter (· ≠ [])

/-- The exchanges lie between the contexts, and after the issue of the point held they present each
point once that is not lost. -/
structure Conversation (held : List UInt8) (context next : Context) (log : List Exchange) :
    Prop where
  calls : next.exchangeCalls = (log.map Exchange.call).reverse ++ context.exchangeCalls
  owes : Owes ((pointOf held).map .issued ++ log.flatMap Exchange.events)
    (log.flatMap Exchange.lost)

theorem Exchange.isExchange_call (exchange : Exchange) : exchange.call.isExchange = true := by
  cases exchange <;> rfl

theorem Context.exchangeCalls_record {context : Context} {call : Call} :
    (context.record call).exchangeCalls =
      if call.isExchange then call :: context.exchangeCalls else context.exchangeCalls := by
  simp only [Context.exchangeCalls, Context.record, List.filter_cons]

theorem Owes.presented {points : List (List UInt8)} {point : List UInt8}
    (hpoints : points = pointOf point) :
    Owes ((pointOf point).map .issued ++ points.map TokenEvent.presented) [] := by
  subst hpoints
  by_cases hpoint : point = []
  · simpa [pointOf, hpoint] using Owes.nil
  · simpa [pointOf, hpoint] using Owes.settle point

namespace Conversation

variable {held point : List UInt8} {context middle next : Context} {log rest : List Exchange}
  {exchange : Exchange}

/-- Nothing is exchanged. -/
theorem nil (hcalls : next.exchangeCalls = context.exchangeCalls) :
    Conversation [] context next [] where
  calls := by simpa using hcalls
  owes := by simpa [pointOf] using Owes.nil

/-- One conversation takes place before another goes on. -/
theorem append (hfirst : Conversation [] context middle log)
    (hrest : Conversation held middle next rest) : Conversation held context next (log ++ rest) where
  calls := by simp [hrest.calls, hfirst.calls]
  owes := by
    have hinner : Owes (log.flatMap Exchange.events) (log.flatMap Exchange.lost) := by
      simpa [pointOf] using hfirst.owes
    rw [List.flatMap_append, List.flatMap_append, ← List.append_assoc]
    exact hrest.owes.insert hinner

/-- Requests which are no exchanges may come first. -/
theorem silent (hcalls : middle.exchangeCalls = context.exchangeCalls)
    (hrest : Conversation held middle next rest) : Conversation held context next rest where
  calls := by rw [hrest.calls, hcalls]
  owes := hrest.owes

/-- The point is presented, and the response leads to the next one. -/
theorem follow (hpresented : exchange.presented = pointOf held)
    (hfollowed : exchange.followed) (hdelivered : exchange.delivered = pointOf point)
    (hrest : Conversation point (context.record exchange.call) next log) :
    Conversation held context next (exchange :: log) where
  calls := by
    simp [hrest.calls, Context.exchangeCalls_record, exchange.isExchange_call]
  owes := by
    have hsettled := (Owes.presented hpresented).append hrest.owes
    simpa [Exchange.events, Exchange.lost, hfollowed, hdelivered] using hsettled

/-- The point is presented, and the points in the response are lost. -/
theorem last (hpresented : exchange.presented = pointOf held)
    (hlost : exchange.lost = exchange.delivered) :
    Conversation held context (context.record exchange.call) [exchange] where
  calls := by simp [Context.exchangeCalls_record, exchange.isExchange_call]
  owes := by
    have hsettled := (Owes.presented hpresented).append (Owes.issues exchange.delivered)
    simpa [Exchange.events, hlost] using hsettled

end Conversation

section

variable {env : Environment} {context next : Context}

/-- The points of a response which is not processed are lost. -/
theorem Exchange.lost_of_not_followed {exchange : Exchange} (hfollowed : ¬ exchange.followed) :
    exchange.lost = exchange.delivered :=
  if_neg hfollowed

private theorem recentBrowses_conversation (calls before : List Call)
    (hinquiries : ∀ call ∈ calls, call.IsInquiry) :
    let log := recentBrowses env calls.length (calls ++ before)
    calls.filter Call.isExchange = (log.map Exchange.call).reverse ∧
      Owes (log.flatMap Exchange.events) (log.flatMap Exchange.lost) := by
  induction calls with
  | nil => exact ⟨rfl, .nil⟩
  | cons call calls ih =>
      obtain ⟨hcall, hinquiries⟩ := List.forall_mem_cons.mp hinquiries
      obtain ⟨hcalls, howes⟩ := ih hinquiries
      cases call with
      | browse description =>
          have hproperty : ¬ (Exchange.browse description
              (env.browse (calls ++ before) description).first).followed := fun h => h.1 hcall
          refine ⟨by simp [recentBrowses, List.filter_cons, Call.isExchange, Exchange.call, hcalls], ?_⟩
          simpa [recentBrowses, Exchange.events, Exchange.presented,
            Exchange.lost_of_not_followed hproperty] using howes.append (.issues _)
      | newBrowseDescription => simpa [recentBrowses, Call.isExchange] using ⟨hcalls, howes⟩
      | readDataType => simpa [recentBrowses, Call.isExchange] using ⟨hcalls, howes⟩
      | readUserAccessLevel => simpa [recentBrowses, Call.isExchange] using ⟨hcalls, howes⟩
      | readValue => simpa [recentBrowses, Call.isExchange] using ⟨hcalls, howes⟩
      | copyContinuationPoint => exact hcall.elim
      | browseNext => exact hcall.elim
      | releaseContinuationPoint => exact hcall.elim

/-- Inquiries lose all points they are given. -/
theorem Inquires.conversation (hinquires : Inquires context next) :
    Conversation [] context next (browsesBetween env context next) := by
  obtain ⟨calls, hnext, hinquiries⟩ := hinquires
  obtain ⟨hcalls, howes⟩ := @recentBrowses_conversation env calls context.calls hinquiries
  have hlength : next.calls.length - context.calls.length = calls.length := by
    rw [hnext, List.length_append]
    omega
  have hlog : browsesBetween env context next =
      recentBrowses env calls.length (calls ++ context.calls) := by
    rw [browsesBetween, hlength, hnext]
  rw [hlog]
  constructor
  · rw [Context.exchangeCalls, Context.exchangeCalls, hnext, List.filter_append, hcalls]
  · simpa [pointOf] using howes

/-- The browses of the next level account for the points. -/
def BrowseConverses (browse : Browse) (log : BrowseLog) : Prop :=
  ∀ nodeId parentIndex context,
    Conversation [] context (browse nodeId parentIndex context).2 (log nodeId parentIndex context)

variable {browse : Browse} {log : BrowseLog} {parentIndex : Option ℕ}

theorem addObject_conversation (hbrowse : BrowseConverses browse log)
    (reference : ReferenceDescription) :
    Conversation [] context (addObject env browse reference parentIndex context).2
      (addObjectExchanges env log reference parentIndex context) := by
  rcases hread : readObjectMetadata env reference.nodeId (equipmentOf reference parentIndex) context
    with ⟨equipment, read⟩
  have hinquires : Inquires context read := by
    simpa only [hread] using @readObjectMetadata_inquires env context reference.nodeId
      (equipmentOf reference parentIndex)
  simp only [addObject, addObjectExchanges, hread]
  refine hinquires.conversation.append ?_
  rcases hindex : (read.dataModel.addEquipment (some equipment)).index with _ | index
  · have hfull := addEquipment_index_eq_none_iff.mp hindex
    rw [if_neg (by omega)]
    exact .nil rfl
  obtain ⟨hroom, rfl⟩ := addEquipment_index_eq_some_iff.mp hindex
  by_cases hcell : read.dataModel.equipment.length < read.configuration.maximumEquipmentObjects
  · simp only [addEquipment_code_of_room hroom, hroom, hcell, not_le.mpr hcell, ne_eq,
      not_true_eq_false, or_self, and_self, if_false, if_true]
    have hobject : (read.withObject equipment reference.nodeId).exchangeCalls =
        read.exchangeCalls := rfl
    exact .silent hobject (hbrowse _ _ _)
  · simp only [not_lt.mp hcell, hcell, or_true, and_false, if_false, if_true]
    exact .nil rfl

theorem processReference_conversation (hbrowse : BrowseConverses browse log)
    (reference : ReferenceDescription) (context : Context) :
    Conversation [] context (processReference env browse parentIndex reference context).2
      (referenceExchanges env browse log parentIndex reference context) := by
  unfold referenceExchanges
  by_cases hnone : followed reference = none
  · rw [if_pos hnone]
    exact (processReference_inquires hnone).conversation
  rw [if_neg hnone]
  have hhandled := @processReference_handled env browse parentIndex reference context
  generalize processReference env browse parentIndex reference context = result at hhandled ⊢
  cases hhandled with
  | skipped hfollowed => exact absurd hfollowed hnone
  | tag hfollowed => exact absurd hfollowed hnone
  | folder _ hstandard =>
      rw [if_pos hstandard]
      exact hbrowse _ _ _
  | mapped _ hcustom hmapped =>
      rw [if_neg hcustom, if_pos hmapped]
      exact .nil rfl
  | object _ hcustom hunmapped =>
      rw [if_neg hcustom, if_neg hunmapped]
      exact addObject_conversation hbrowse reference

theorem processReferences_conversation (hbrowse : BrowseConverses browse log)
    (references : List ReferenceDescription) (context : Context) :
    Conversation [] context (processReferences env browse parentIndex references context).2
      (referencesExchanges env browse log parentIndex references context) := by
  induction references generalizing context with
  | nil => exact .nil rfl
  | cons reference references ih =>
      have hone := @processReference_conversation env browse log parentIndex hbrowse reference context
      simp only [processReferences, referencesExchanges]
      split
      · exact hone.append (.nil rfl)
      · exact hone.append (ih _)

theorem processChildReferences_conversation (hbrowse : BrowseConverses browse log)
    (page : BrowseResult) (context : Context) :
    Conversation [] context (processChildReferences env browse parentIndex page context).2
      (pageExchanges env browse log parentIndex page context) := by
  unfold processChildReferences pageExchanges
  split
  · exact .nil rfl
  · exact processReferences_conversation hbrowse page.references context

/-- The client holds the continuation point of the page when it can copy it. -/
theorem processPage_eq (hcopies : ∀ calls, env.copyContinuationPoint calls = .good)
    (page : BrowseResult) (context : Context) :
    ∃ middle,
      middle.exchangeCalls =
          (processChildReferences env browse parentIndex page context).2.exchangeCalls ∧
        processPage env browse parentIndex page context =
          ((processChildReferences env browse parentIndex page context).1, page.continuationPoint,
            middle) := by
  unfold processPage
  by_cases hpoint : page.continuationPoint = []
  · exact ⟨_, rfl, by simp [hpoint]⟩
  · refine ⟨(processChildReferences env browse parentIndex page context).2.record
      (.copyContinuationPoint page.continuationPoint), Context.exchangeCalls_record, ?_⟩
    simp only [hpoint, hcopies, ne_eq, not_true_eq_false, if_false]

/-- A page and the pages after it, given the account of these. -/
private theorem page_conversation (hcopies : ∀ calls, env.copyContinuationPoint calls = .good)
    (hbrowse : BrowseConverses browse log) {pages : List BrowseResponse}
    (hpages : ∀ status point context, Conversation point context
      (browsePages env browse parentIndex pages (status, point, context)).2
      (pagesExchanges env browse log parentIndex pages (status, point, context)))
    (page : BrowseResult) (context : Context) :
    Conversation page.continuationPoint context
      (browsePages env browse parentIndex pages
        (processPage env browse parentIndex page context)).2
      (pageExchanges env browse log parentIndex page context ++
        pagesExchanges env browse log parentIndex pages
          (processPage env browse parentIndex page context)) := by
  obtain ⟨middle, hcalls, hpage⟩ := @processPage_eq env browse parentIndex hcopies page context
  rw [hpage]
  exact (processChildReferences_conversation hbrowse page context).append
    (.silent hcalls (hpages _ _ middle))

/-- A response to a request for children: its page and the pages after it are accounted for, or all
its points are lost. -/
private theorem response_conversation (hcopies : ∀ calls, env.copyContinuationPoint calls = .good)
    (hbrowse : BrowseConverses browse log) {pages : List BrowseResponse}
    (hpages : ∀ status point context, Conversation point context
      (browsePages env browse parentIndex pages (status, point, context)).2
      (pagesExchanges env browse log parentIndex pages (status, point, context)))
    {held : List UInt8} {exchange : Exchange} {response : BrowseResponse}
    (hpresented : exchange.presented = pointOf held)
    (hdelivered : exchange.delivered = response.points)
    (hfollowed : exchange.followed ↔ response.accepted) (context : Context) :
    let asked := context.record exchange.call
    Conversation held context
      (if response.serviceResult ≠ .good then (response.serviceResult, asked)
        else
          match response.results with
          | [page] =>
              browsePages env browse parentIndex pages
                (processPage env browse parentIndex page asked)
          | _ => (.badUnexpectedError, asked)).2
      (exchange ::
        if response.serviceResult ≠ .good then []
        else
          match response.results with
          | [page] =>
              pageExchanges env browse log parentIndex page asked ++
                pagesExchanges env browse log parentIndex pages
                  (processPage env browse parentIndex page asked)
          | _ => []) := by
  intro asked
  have hturnedAway (hrejected : ¬ response.accepted) : Conversation held context asked [exchange] :=
    .last hpresented (Exchange.lost_of_not_followed (mt hfollowed.mp hrejected))
  split
  · next hservice => exact hturnedAway fun haccepted => hservice haccepted.1
  next hservice =>
  rcases hresults : response.results with _ | ⟨page, _ | ⟨second, others⟩⟩
  · exact hturnedAway fun haccepted => by simpa [hresults] using haccepted.2
  · have haccepted : response.accepted := ⟨not_not.mp hservice, by simp [hresults]⟩
    have hpoint : exchange.delivered = pointOf page.continuationPoint := by
      simp [hdelivered, BrowseResponse.points, hresults, pointOf]
    exact .follow hpresented (hfollowed.mpr haccepted) hpoint
      (page_conversation hcopies hbrowse hpages page asked)
  · exact hturnedAway fun haccepted => by simpa [hresults] using haccepted.2

/-- Without a point, or after a failure, no page is asked for. -/
private theorem browsePages_conversation_of_stop {point : List UInt8} {status : StatusCode}
    (hstop : point = [] ∨ status ≠ .good) (pages : List BrowseResponse) (context : Context) :
    Conversation point context
      (browsePages env browse parentIndex pages (status, point, context)).2
      (pagesExchanges env browse log parentIndex pages (status, point, context)) := by
  by_cases hpoint : point = []
  · subst hpoint
    cases pages <;> simpa [browsePages, pagesExchanges] using Conversation.nil rfl
  have hstatus := hstop.resolve_left hpoint
  have hreleased : Conversation point context
      (context.record (Exchange.release point).call) [.release point] :=
    .last (by simp [Exchange.presented, pointOf, hpoint]) (by simp [Exchange.lost, Exchange.delivered])
  cases pages <;> simpa [browsePages, pagesExchanges, hpoint, hstatus, Exchange.call] using hreleased

/-- The pages of an answer, after the point that leads to them. -/
theorem browsePages_conversation (hcopies : ∀ calls, env.copyContinuationPoint calls = .good)
    (hbrowse : BrowseConverses browse log) (pages : List BrowseResponse) (status : StatusCode)
    (point : List UInt8) (context : Context) :
    Conversation point context
      (browsePages env browse parentIndex pages (status, point, context)).2
      (pagesExchanges env browse log parentIndex pages (status, point, context)) := by
  induction pages generalizing status point context with
  | nil =>
      by_cases hstop : point = [] ∨ status ≠ .good
      · exact browsePages_conversation_of_stop hstop [] context
      obtain ⟨hpoint, hstatus⟩ := not_or.mp hstop
      rw [ne_eq, not_not] at hstatus
      have hpresented (response : BrowseResponse) :
          (Exchange.browseNext point response).presented = pointOf point := by
        simp [Exchange.presented, pointOf, hpoint]
      simp only [browsePages, pagesExchanges, hpoint, hstatus, ne_eq, not_true_eq_false, if_false]
      exact .last (hpresented _) (by simp [Exchange.lost, Exchange.delivered, BrowseResponse.points])
  | cons response pages ih =>
      by_cases hstop : point = [] ∨ status ≠ .good
      · exact browsePages_conversation_of_stop hstop (response :: pages) context
      obtain ⟨hpoint, hstatus⟩ := not_or.mp hstop
      rw [ne_eq, not_not] at hstatus
      have hpresented : (Exchange.browseNext point response).presented = pointOf point := by
        simp [Exchange.presented, pointOf, hpoint]
      simp only [browsePages, pagesExchanges, hpoint, hstatus, ne_eq, not_true_eq_false, if_false]
      exact response_conversation hcopies hbrowse ih hpresented rfl .rfl context

/-- Every browse presents each point exactly once that it does not lose. -/
theorem browseChildren_conversation (hcopies : ∀ calls, env.copyContinuationPoint calls = .good)
    (remaining : ℕ) : BrowseConverses (browseChildren env remaining) (exchanges env remaining) := by
  induction remaining with
  | zero => exact fun _ _ _ => .nil rfl
  | succ remaining ih =>
      intro nodeId parentIndex context
      simp only [browseChildren, exchanges]
      split
      · exact .nil rfl
      have hnew : (context.record .newBrowseDescription).exchangeCalls = context.exchangeCalls :=
        Context.exchangeCalls_record
      refine .silent hnew ?_
      have hfollowed (response : BrowseResponse) :
          (Exchange.browse (childDescription nodeId) response).followed ↔ response.accepted :=
        and_iff_right (show NodeId.hierarchicalReferences ≠ .hasProperty by decide)
      exact response_conversation hcopies ih (browsePages_conversation hcopies ih _) rfl rfl
        (hfollowed _) (context.record .newBrowseDescription)

end

/-! ## The whole discovery -/

section

variable {env : Environment} (hcopies : ∀ calls, env.copyContinuationPoint calls = .good)
  (context : Context)

include hcopies

private theorem discovery_conversation :
    Conversation [] context (discoverAddressSpace env context).2 (discoveryExchanges env context) := by
  obtain ⟨status, browsed, hbrowse, hdiscover⟩ := discoverAddressSpace_cases env context
  have hconversation := browseChildren_conversation hcopies
    (context.configuration.maximumBrowseDepth + 1) .objectsFolder none context.cleared
  rw [hbrowse] at hconversation
  have hpublished : (discoverAddressSpace env context).2.exchangeCalls = browsed.exchangeCalls := by
    rw [hdiscover]
    by_cases hstatus : status = .good
    · rw [if_pos hstatus]
      rfl
    · rw [if_neg hstatus]
      rfl
  exact ⟨hpublished.trans hconversation.calls, hconversation.owes⟩

/-- The exchanges tell the requests of the discovery. -/
theorem discoverAddressSpace_exchangeCalls :
    (discoverAddressSpace env context).2.exchangeCalls =
      ((discoveryExchanges env context).map Exchange.call).reverse ++ context.exchangeCalls :=
  (discovery_conversation hcopies context).calls

/-- **Continuation points.**  When memory suffices, the points delivered during a discovery are each
presented exactly once afterwards if and only if every response that delivers one is that of a
browse for children, or of its continuation, and is processed. -/
theorem discoverAddressSpace_points :
    ExactlyOnce ((discoveryExchanges env context).flatMap Exchange.events) ↔
      ∀ exchange ∈ discoveryExchanges env context, exchange.delivered ≠ [] → exchange.followed := by
  have howes : Owes ((discoveryExchanges env context).flatMap Exchange.events)
      ((discoveryExchanges env context).flatMap Exchange.lost) := by
    simpa [pointOf] using (discovery_conversation hcopies context).owes
  rw [howes.exactlyOnce_iff, List.flatMap_eq_nil_iff]
  refine forall₂_congr fun exchange _ => ?_
  unfold Exchange.lost
  split
  · next hfollowed => simp [hfollowed]
  · next hfollowed => simp [hfollowed]

end

/-- Children in pages, properties in one: no point is lost. -/
theorem discoverAddressSpace_points_pump :
    ExactlyOnce ((discoveryExchanges (onePerPageServer pumpSpace) (freshContext 4)).flatMap
      Exchange.events) :=
  (discoverAddressSpace_points (fun _ => rfl) (freshContext 4)).mpr (by decide +kernel)

/-- The server of `onePerPageServer`, on which every node has two properties, also one on a page. -/
def propertyPagesServer (space : AddressSpace) : Environment :=
  { onePerPageServer space with
    browse := fun calls description =>
      if description = propertyDescription description.nodeId then
        { first := { results :=
            [{ continuationPoint := [2]
               references := [{ nodeId := ⟨1, .numeric 20⟩, nodeClass := .variable }] }] }
          next := [{ results :=
            [{ references := [{ nodeId := ⟨1, .numeric 21⟩, nodeClass := .variable }] }] }] }
      else (onePerPageServer space).browse calls description }

/-- The discovery goes well, and the points of the properties are never presented. -/
theorem propertyPages_leak :
    (∀ calls, (propertyPagesServer pumpSpace).copyContinuationPoint calls = .good) ∧
      (discoverAddressSpace (propertyPagesServer pumpSpace) (freshContext 4)).1 = .good ∧
      ¬ ExactlyOnce ((discoveryExchanges (propertyPagesServer pumpSpace) (freshContext 4)).flatMap
        Exchange.events) :=
  ⟨fun _ => rfl, by decide +kernel, fun honce => absurd (honce.balance [2]) (by decide +kernel)⟩

end CrowPanel.OpcUa
