import CrowPanel.OpcUa.Discovery

/-!
# The write queue

Other tasks hand write requests to the client task through a FreeRTOS queue of fixed length, and the
client task takes them out in its session loop.  A request carries the index of a tag; the NodeId is
looked up when the request is taken out.  The value of a write is that of the request, converted to
the type of the tag; the conversion is left out.
-/

namespace CrowPanel.OpcUa

open Library DataModel

/-- `OPCUA_WRITE_QUEUE_LENGTH` -/
abbrev writeQueueLength : ℕ := 12

/-- `write_request_type_t` -/
inductive WriteRequestType where
  | boolean
  | number
  deriving DecidableEq

/-- `write_request_t`.  `target` is a ghost: the node of the tag for which the request was made. -/
structure WriteRequest where
  tagIndex : Option ℕ
  type : WriteRequestType
  booleanValue : Bool := false
  numericValue : Double := .finite 0
  target : NodeId
  deriving DecidableEq

/-- The request of `opcua_client_write_boolean`. -/
def booleanRequest (tagIndex : Option ℕ) (value : Bool) (target : NodeId) : WriteRequest :=
  { tagIndex, type := .boolean, booleanValue := value, target }

/-- The request of `opcua_client_write_number`. -/
def numberRequest (tagIndex : Option ℕ) (value : Double) (target : NodeId) : WriteRequest :=
  { tagIndex, type := .number, numericValue := value, target }

/-- `xQueueSend` without waiting, as `opcua_client_write_boolean` and `opcua_client_write_number` end
with it. -/
def sendRequest (queue : List WriteRequest) (request : WriteRequest) :
    EspErr × List WriteRequest :=
  if queue.length < writeQueueLength then (.ok, queue ++ [request]) else (.timeout, queue)

/-- The types which `process_write_requests` writes for a number request. -/
def numericTypes : List BuiltinType :=
  [.sByte, .byte, .int16, .uInt16, .int32, .uInt32, .int64, .uInt64, .float, .double]

/-- The comparison of the request type with the type of the tag in `process_write_requests`; the
result is the type of the value to write. -/
def WriteRequestType.writes (type : WriteRequestType) (builtinType : Option BuiltinType) :
    Option BuiltinType :=
  builtinType.filter fun builtin =>
    (type = .boolean ∧ builtin = .boolean) ∨ (type = .number ∧ builtin ∈ numericTypes)

/-- A call of `UA_Client_writeValueAttribute`. -/
structure WriteCall where
  nodeId : NodeId
  type : BuiltinType
  request : WriteRequest
  deriving DecidableEq

/-- One request in the loop of `process_write_requests`; `none` when it is rejected. -/
def processWriteRequest (context : Context) (request : WriteRequest) : Option WriteCall :=
  match request.tagIndex with
  | none => none
  | some tagIndex =>
      if context.tagNodeIds.length ≤ tagIndex then none
      else
        match context.dataModel.getTag tagIndex with
        | none => none
        | some tag =>
            if tag.writable = false then none
            else
              let builtinType := context.tagBuiltinTypeIndices.getD tagIndex none
              (request.type.writes builtinType).map fun type =>
                { nodeId := context.tagNodeIds.getD tagIndex .null, type, request }

/-- The checks of `process_write_requests` let the request pass. -/
def Accepts (context : Context) (request : WriteRequest) : Prop :=
  ∃ tagIndex tag, request.tagIndex = some tagIndex ∧ tagIndex < context.tagNodeIds.length ∧
    context.dataModel.getTag tagIndex = some tag ∧ tag.writable = true ∧
    (request.type.writes (context.tagBuiltinTypeIndices.getD tagIndex none)).isSome

/-- The node that the client maps at the index of a request. -/
def mappedNode (context : Context) (request : WriteRequest) : Option NodeId :=
  request.tagIndex.bind fun tagIndex => context.tagNodeIds[tagIndex]?

section

variable {context : Context} {request : WriteRequest} {call : WriteCall}

/-- A write is made for an accepted request, to the node mapped at its index. -/
theorem processWriteRequest_eq_some_iff :
    processWriteRequest context request = some call ↔
      Accepts context request ∧ mappedNode context request = some call.nodeId ∧
        call.request = request ∧
        ∃ tagIndex, request.tagIndex = some tagIndex ∧
          request.type.writes (context.tagBuiltinTypeIndices.getD tagIndex none) =
            some call.type := by
  constructor
  · intro hcall
    unfold processWriteRequest at hcall
    split at hcall
    · cases hcall
    next tagIndex hindex =>
    split at hcall
    · cases hcall
    next hmapped =>
    split at hcall
    · cases hcall
    next tag htag =>
    split at hcall
    · cases hcall
    next hwritable =>
    obtain ⟨type, htype, rfl⟩ := Option.map_eq_some_iff.mp hcall
    have hlt : tagIndex < context.tagNodeIds.length := Nat.lt_of_not_le hmapped
    refine ⟨⟨tagIndex, tag, hindex, hlt, htag, by simpa using hwritable, ?_⟩, ?_, rfl, tagIndex,
      hindex, htype⟩
    · rw [htype]
      rfl
    · simp [mappedNode, hindex, List.getElem?_eq_getElem hlt]
  · rintro ⟨⟨tagIndex, tag, hindex, hlt, htag, hwritable, _⟩, hmapped, rfl, index, hother, htype⟩
    obtain rfl : tagIndex = index := Option.some.inj (hindex.symm.trans hother)
    have hnode : context.tagNodeIds.getD tagIndex .null = call.nodeId := by
      have hget : context.tagNodeIds[tagIndex]? = some call.nodeId := by
        simpa [mappedNode, hindex] using hmapped
      simp [List.getD, hget]
    have hnotBeyond : ¬ context.tagNodeIds.length ≤ tagIndex := Nat.not_le_of_lt hlt
    simp only [processWriteRequest, hindex, hnotBeyond, if_false, htag, hwritable,
      Bool.true_eq_false, htype, Option.map_some, hnode]

/-- Exactly the accepted requests lead to a write. -/
theorem exists_processWriteRequest (haccepts : Accepts context request) :
    ∃ call, processWriteRequest context request = some call ∧
      mappedNode context request = some call.nodeId ∧ call.request = request := by
  obtain ⟨tagIndex, tag, hindex, hlt, htag, hwritable, htype⟩ := haccepts
  obtain ⟨type, htype⟩ := Option.isSome_iff_exists.mp htype
  let call : WriteCall := ⟨context.tagNodeIds.getD tagIndex .null, type, request⟩
  have hmapped : mappedNode context request = some call.nodeId := by
    simp [mappedNode, hindex, call, List.getElem?_eq_getElem hlt]
  refine ⟨call, processWriteRequest_eq_some_iff.mpr ⟨?_, hmapped, rfl, tagIndex, hindex, htype⟩,
    hmapped, rfl⟩
  exact ⟨tagIndex, tag, hindex, hlt, htag, hwritable, by rw [htype]; rfl⟩

/-- The request reaches the node it was made for, if it is let pass. -/
def OnTarget (context : Context) (request : WriteRequest) : Prop :=
  Accepts context request → mappedNode context request = some request.target

theorem OnTarget.nodeId_eq (honTarget : OnTarget context request)
    (hcall : processWriteRequest context request = some call) :
    call.nodeId = call.request.target := by
  obtain ⟨haccepts, hmapped, hrequest, _⟩ := processWriteRequest_eq_some_iff.mp hcall
  have htarget : some call.nodeId = some request.target := hmapped.symm.trans (honTarget haccepts)
  rw [hrequest]
  exact Option.some.inj htarget

/-- What the checks look at: the maps, and which tags are there and writable. -/
theorem Accepts.congr {other : Context} (haccepts : Accepts context request)
    (hids : other.tagNodeIds = context.tagNodeIds)
    (htypes : other.tagBuiltinTypeIndices = context.tagBuiltinTypeIndices)
    (hwritable : other.dataModel.tags.map Tag.writable = context.dataModel.tags.map Tag.writable) :
    Accepts other request := by
  obtain ⟨tagIndex, tag, hindex, hlt, htag, htagWritable, htype⟩ := haccepts
  have hflag : (other.dataModel.getTag tagIndex).map Tag.writable = some true := by
    have hsame := congrArg (fun flags => flags[tagIndex]?) hwritable
    simp only [List.getElem?_map] at hsame
    simp only [getTag, hsame] at htag ⊢
    simp [htag, htagWritable]
  obtain ⟨otherTag, hother, hotherWritable⟩ := Option.map_eq_some_iff.mp hflag
  exact ⟨tagIndex, otherTag, hindex, by rwa [hids], hother, hotherWritable, by rwa [htypes]⟩

end

end CrowPanel.OpcUa
