import CrowPanel.Library.Machine
import CrowPanel.OpcUa.Control
import CrowPanel.OpcUa.Discovery

/-!
# The client task

`client_task` as a machine.  A `Place` is a point of its code: every read of a flag that other tasks
write, every call which can fail and every section under the mutex is a step of its own, so the
requests of other tasks may come between any two of them.  The outcome of a call outside the
component (the network, the clock, the OPC UA stack, the allocator) is part of the event.

A discovery is one step: the task is the only writer of the NodeId maps and of the structure of the
model.  The stack delivers a notification for an item of the client object that created it, at any
time while that object exists, and never afterwards.  The status text is left out.
-/

namespace CrowPanel.OpcUa

open Library DataModel

/-- A monitored item as the stack keeps it: the context pointer handed to it and the node it is for.
`discovery` is a ghost: the number of the discovery after which it was created. -/
structure MonitoredItem where
  context : ℕ
  nodeId : NodeId
  discovery : ℕ
  deriving DecidableEq

/-- `UA_Client`, as far as notifications for values go. -/
structure UaClient where
  items : List MonitoredItem := []
  deriving DecidableEq

/-- `UA_DataValue` -/
structure DataValue where
  hasValue : Bool := true
  value : Variant

/-- The points of `client_task` and of the functions it calls. -/
inductive Place where
  /-- `while (! stop_requested)` -/
  | outer
  /-- `while (pause_requested && ! stop_requested)` -/
  | pauseLoop
  | pauseLoopStop
  | afterPause
  /-- `while (! network_is_ready() && ! stop_requested)`, left by a `break` when paused -/
  | networkLoop
  | networkLoopStop
  | networkLoopPause
  | afterNetwork
  | afterNetworkPause
  /-- `while (! time_sync_is_valid() && ! stop_requested && ! pause_requested)` -/
  | timeLoop
  | timeLoopStop
  | timeLoopPause
  | afterTime
  | afterTimePause
  | copyEndpoint
  | newClient
  | connect
  | discover
  /-- `create_subscriptions` before and in its loop over the tags -/
  | subscribe
  | monitor (tagIndex : ℕ)
  /-- `while (! stop_requested && ! pause_requested && ! reconnect_requested && ready)` -/
  | sessionStop
  | sessionPause
  | sessionReconnect
  | sessionNetwork
  | writeRequests
  | iterate
  | getState
  | disconnect
  | deleteClient
  /-- `wait_for_retry` -/
  | retryElapsed
  | retryStop
  | retryPause
  /-- after the loop -/
  | finish
  | stopped
  deriving DecidableEq

/-- The client with its task. -/
structure ClientTask where
  control : ClientControl
  context : Context
  uaClient : Option UaClient := none
  /-- the local variable `endpoint_url` of the task -/
  endpointUrl : CharArray endpointLength := .empty
  place : Place := .stopped
  /-- ghost: the number of discoveries so far -/
  discoveries : ℕ := 0

/-- What can happen next: a step of the task, given the outcome of the call it makes, a discovery
against some environment, a notification for an item of the stack, an alarm event, or a request of
another task. -/
inductive TaskEvent where
  | proceed (outcome : Bool)
  | discover (env : Environment)
  | notify (item : ℕ) (value : Option DataValue)
  | alarm (alarm : Alarm)
  | start
  | stop
  | pause
  | resume
  | setEndpoint (endpointUrl : Option Text)

/-- `data_change_callback`; the tag index is recovered from the context pointer. -/
def dataChangeCallback (model : DataModel) (monitoredItemContext : ℕ) (value : Option DataValue) :
    DataModel :=
  let tagIndex := monitoredItemContext - 1
  match value with
  | none => model
  | some value =>
      if value.hasValue = false then model
      else
        match model.getTag tagIndex with
        | none => model
        | some tag =>
            let modelValue := variantToModelValue value.value tag.dataType
            (model.updateValue tagIndex (some (modelValue.getD {})) modelValue.isSome).2

namespace ClientTask

def goto (task : ClientTask) (place : Place) : ClientTask :=
  { task with place }

/-- The conditions of the task, with the places where it goes on when they hold and when not. -/
def condition (task : ClientTask) (outcome : Bool) : Place → Option (Bool × Place × Place)
  | .outer => some (task.control.stopRequested, .finish, .pauseLoop)
  | .pauseLoop => some (task.control.pauseRequested, .pauseLoopStop, .afterPause)
  | .pauseLoopStop => some (task.control.stopRequested, .afterPause, .pauseLoop)
  | .afterPause => some (task.control.stopRequested, .finish, .networkLoop)
  | .networkLoop => some (outcome, .afterNetwork, .networkLoopStop)
  | .networkLoopStop => some (task.control.stopRequested, .afterNetwork, .networkLoopPause)
  | .networkLoopPause => some (task.control.pauseRequested, .afterNetwork, .networkLoop)
  | .afterNetwork => some (task.control.stopRequested, .finish, .afterNetworkPause)
  | .afterNetworkPause => some (task.control.pauseRequested, .outer, .timeLoop)
  | .timeLoop => some (outcome, .afterTime, .timeLoopStop)
  | .timeLoopStop => some (task.control.stopRequested, .afterTime, .timeLoopPause)
  | .timeLoopPause => some (task.control.pauseRequested, .afterTime, .timeLoop)
  | .afterTime => some (task.control.stopRequested, .finish, .afterTimePause)
  | .afterTimePause => some (task.control.pauseRequested, .outer, .copyEndpoint)
  | .sessionStop => some (task.control.stopRequested, .disconnect, .sessionPause)
  | .sessionPause => some (task.control.pauseRequested, .disconnect, .sessionReconnect)
  | .sessionReconnect => some (task.control.reconnectRequested, .disconnect, .sessionNetwork)
  | .sessionNetwork => some (outcome, .writeRequests, .disconnect)
  | .writeRequests => some (true, .iterate, .iterate)
  | .iterate => some (outcome, .getState, .disconnect)
  | .getState => some (outcome, .sessionStop, .disconnect)
  | .disconnect => some (true, .deleteClient, .deleteClient)
  | .retryElapsed => some (outcome, .outer, .retryStop)
  | .retryStop => some (task.control.stopRequested, .outer, .retryPause)
  | .retryPause => some (task.control.pauseRequested, .outer, .retryElapsed)
  | _ => none

/-- One pass of the loop in `create_subscriptions`; `created` is the outcome of
`UA_Client_MonitoredItems_createDataChange`. -/
def monitorTag (task : ClientTask) (tagIndex : ℕ) (created : Bool) : ClientTask :=
  match task.context.dataModel.getTag tagIndex with
  | none => task
  | some tag =>
      if tag.readable = false ∨ created = false then task
      else
        let item : MonitoredItem :=
          { context := tagIndex + 1
            nodeId := task.context.tagNodeIds.getD tagIndex .null
            discovery := task.discoveries }
        { task with uaClient := task.uaClient.map fun client => ⟨client.items ++ [item]⟩ }

/-- A step of the task itself, other than a discovery. -/
def proceed (task : ClientTask) (outcome : Bool) : Option ClientTask :=
  match task.condition outcome task.place with
  | some (holds, yes, no) => some (task.goto (if holds then yes else no))
  | none =>
      match task.place with
      | .copyEndpoint =>
          some
            { task with
              endpointUrl := task.control.endpointUrl
              control := { task.control with reconnectRequested := false }
              place := .newClient }
      | .newClient =>
          if outcome then some { task with uaClient := some {}, place := .connect }
          else some (task.goto .retryElapsed)
      | .connect =>
          if outcome then some (task.goto .discover)
          else some { task with uaClient := none, place := .retryElapsed }
      | .subscribe => some (task.goto (if outcome then .monitor 0 else .sessionStop))
      | .monitor tagIndex =>
          if tagIndex < task.context.tagNodeIds.length then
            some ((task.monitorTag tagIndex outcome).goto (.monitor (tagIndex + 1)))
          -- `create_event_subscriptions` follows; its items have a callback of their own
          else some (task.goto .sessionStop)
      | .deleteClient => some { task with uaClient := none, place := .retryElapsed }
      | .finish => some { task with context := task.context.clearTagNodeIds, place := .stopped }
      | _ => none

/-- The discovery with the handling of its result. -/
def runDiscovery (task : ClientTask) (env : Environment) : ClientTask :=
  let (status, context) := discoverAddressSpace env task.context
  let discovered := { task with context, discoveries := task.discoveries + 1 }
  if status = .good then discovered.goto .subscribe
  else { discovered with uaClient := none, place := .retryElapsed }

def withModel (task : ClientTask) (dataModel : DataModel) : ClientTask :=
  { task with context := { task.context with dataModel } }

def step (task : ClientTask) : TaskEvent → Option ClientTask
  | .proceed outcome => task.proceed outcome
  | .discover env => if task.place = .discover then some (task.runDiscovery env) else none
  | .notify item value =>
      (task.uaClient.bind fun client => client.items[item]?).map fun item =>
        task.withModel (dataChangeCallback task.context.dataModel item.context value)
  | .alarm alarm =>
      if task.uaClient.isSome then
        some (task.withModel (task.context.dataModel.updateAlarm (some alarm)).2)
      else none
  | .start =>
      if task.place = .stopped then
        some { task with control := task.control.start, place := .outer }
      else none
  | .stop => some { task with control := task.control.stop }
  | .pause => some { task with control := task.control.pause }
  | .resume => some { task with control := task.control.resume }
  | .setEndpoint endpointUrl =>
      some { task with control := (task.control.setEndpoint endpointUrl).2 }

/-- The runs of a client whose task has not been started. -/
def machine : Machine ClientTask TaskEvent where
  start task := task.place = .stopped ∧ task.uaClient = none
  step := step

end ClientTask

end CrowPanel.OpcUa
