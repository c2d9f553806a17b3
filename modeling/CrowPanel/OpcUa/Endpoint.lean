import CrowPanel.OpcUa.ClientTask

/-!
# The endpoint of the client task

Other tasks change the configured endpoint while the client task works with a copy.  Whoever changes
it also sets `reconnect_requested`, and the task clears the flag in the section in which it copies, so
a cleared flag means that the copy is current.  The session loop looks at the flag before every pass.

## Strategy

`proceed_endpoint` is the inversion of a step of the task for what matters here: only the place of the
copy touches the copy or the flags.  A history variable tells whether the task has copied at all, and
whether it has begun to evaluate the condition of the session loop since the endpoint was changed.
-/

namespace CrowPanel.OpcUa

open Library

/-- What has happened to the endpoint. -/
structure EndpointHistory where
  /-- The running task has copied an endpoint. -/
  copied : Bool := false
  /-- The condition of the session loop has been evaluated since the last change of the endpoint. -/
  evaluated : Bool := false
  deriving DecidableEq

namespace ClientTask

/-- How the history follows the events. -/
def noteEndpoint (task : ClientTask) (event : TaskEvent) (history : EndpointHistory) :
    EndpointHistory :=
  match event with
  | .start => {}
  | .setEndpoint endpointUrl =>
      if (task.control.setEndpoint endpointUrl).1 = .ok then { history with evaluated := false }
      else history
  | .proceed _ =>
      if task.place = .copyEndpoint then { history with copied := true }
      else if task.place = .sessionStop then { history with evaluated := true }
      else history
  | _ => history

/-- The client with the history of its endpoint. -/
def endpointMachine : Machine (ClientTask × EndpointHistory) TaskEvent :=
  machine.withHistory {} noteEndpoint

end ClientTask

/-- The places between the copy of the endpoint and the end of the session. -/
def Place.pastCopy : Place → Bool
  | .newClient | .connect | .discover | .subscribe | .monitor _ | .sessionStop | .sessionPause
  | .sessionReconnect | .sessionNetwork | .writeRequests | .iterate | .getState => true
  | _ => false

/-- The places of the session loop after it has looked at `reconnect_requested`. -/
def Place.inLoop : Place → Bool
  | .sessionNetwork | .writeRequests | .iterate | .getState => true
  | _ => false

/-- A refused endpoint changes nothing. -/
theorem ClientControl.setEndpoint_error {control : ClientControl} {endpointUrl : Option Text}
    (herror : (control.setEndpoint endpointUrl).1 ≠ .ok) :
    (control.setEndpoint endpointUrl).2 = control := by
  cases endpointUrl with
  | none => rfl
  | some url =>
      simp only [setEndpoint] at herror ⊢
      split_ifs at herror ⊢ <;> first | rfl | exact absurd rfl herror

/-- An accepted one asks for a reconnection. -/
theorem ClientControl.setEndpoint_ok {control : ClientControl} {endpointUrl : Option Text}
    (hok : (control.setEndpoint endpointUrl).1 = .ok) :
    (control.setEndpoint endpointUrl).2.reconnectRequested = true := by
  cases endpointUrl with
  | none => cases hok
  | some url =>
      simp only [setEndpoint] at hok ⊢
      split_ifs at hok ⊢
      rfl

namespace ClientTask

variable {task next : ClientTask} {outcome : Bool}

/-- A condition leads on from a place past the copy to one past the copy only, and into the loop only
from the loop or past a cleared flag. -/
theorem condition_endpoint {holds : Bool} {yes no : Place}
    (hcondition : task.condition outcome task.place = some (holds, yes, no)) :
    ((if holds then yes else no).pastCopy = true → task.place.pastCopy = true) ∧
      ((if holds then yes else no).inLoop = true →
        task.place.inLoop = true ∨
          (task.place = .sessionReconnect ∧ task.control.reconnectRequested = false)) := by
  cases hplace : task.place <;>
    simp only [hplace, condition, Option.some.injEq, Prod.mk.injEq, reduceCtorEq] at hcondition
  case sessionReconnect =>
    obtain ⟨rfl, rfl, rfl⟩ := hcondition
    cases task.control.reconnectRequested <;> simp [Place.pastCopy, Place.inLoop]
  all_goals
    obtain ⟨rfl, rfl, rfl⟩ := hcondition
    split <;> simp [Place.pastCopy, Place.inLoop]

/-- What a step of the task does to its endpoint. -/
inductive EndpointCourse (task next : ClientTask) : Prop
  | copied (place : task.place = .copyEndpoint) (next_place : next.place = .newClient)
      (endpointUrl : next.endpointUrl = task.control.endpointUrl)
      (control : next.control = { task.control with reconnectRequested := false })
  | kept (place : task.place ≠ .copyEndpoint) (endpointUrl : next.endpointUrl = task.endpointUrl)
      (control : next.control = task.control)
      (pastCopy : next.place.pastCopy = true → task.place.pastCopy = true)
      (inLoop : next.place.inLoop = true → task.place.inLoop = true ∨
        (task.place = .sessionReconnect ∧ task.control.reconnectRequested = false))

theorem monitorTag_frame (task : ClientTask) (tagIndex : ℕ) (created : Bool) :
    (task.monitorTag tagIndex created).endpointUrl = task.endpointUrl ∧
      (task.monitorTag tagIndex created).control = task.control := by
  unfold monitorTag
  split
  · exact ⟨rfl, rfl⟩
  · split <;> exact ⟨rfl, rfl⟩

theorem runDiscovery_frame (task : ClientTask) (env : Environment) :
    (task.runDiscovery env).endpointUrl = task.endpointUrl ∧
      (task.runDiscovery env).control = task.control ∧
      (task.runDiscovery env).place.inLoop = false := by
  simp only [runDiscovery]
  split <;> exact ⟨rfl, rfl, rfl⟩

theorem proceed_endpoint (hproceed : task.proceed outcome = some next) :
    EndpointCourse task next := by
  unfold proceed at hproceed
  split at hproceed
  · next holds yes no hcondition =>
      obtain rfl := Option.some.inj hproceed
      obtain ⟨hpast, hloop⟩ := condition_endpoint hcondition
      refine .kept (fun hplace => ?_) rfl rfl hpast hloop
      simp [hplace, condition] at hcondition
  · split at hproceed
    case h_1 hplace =>
      obtain rfl := Option.some.inj hproceed
      exact .copied hplace rfl rfl rfl
    case h_2 hplace =>
      split at hproceed <;> obtain rfl := Option.some.inj hproceed <;>
        exact .kept (by simp [hplace]) rfl rfl (by simp [goto, hplace, Place.pastCopy])
          (by simp [goto, Place.inLoop])
    case h_3 hplace =>
      split at hproceed <;> obtain rfl := Option.some.inj hproceed <;>
        exact .kept (by simp [hplace]) rfl rfl (by simp [hplace, Place.pastCopy])
          (by simp [goto, Place.inLoop])
    case h_4 hplace =>
      obtain rfl := Option.some.inj hproceed
      exact .kept (by simp [hplace]) rfl rfl (by simp [hplace, Place.pastCopy])
        (by cases outcome <;> simp [goto, Place.inLoop])
    case h_5 tagIndex hplace =>
      obtain ⟨hurl, hcontrol⟩ := task.monitorTag_frame tagIndex outcome
      split at hproceed <;> obtain rfl := Option.some.inj hproceed
      · exact .kept (by simp [hplace]) hurl hcontrol (by simp [hplace, Place.pastCopy])
          (by simp [goto, Place.inLoop])
      · exact .kept (by simp [hplace]) rfl rfl (by simp [hplace, Place.pastCopy])
          (by simp [goto, Place.inLoop])
    case h_6 hplace =>
      obtain rfl := Option.some.inj hproceed
      exact .kept (by simp [hplace]) rfl rfl (by simp [Place.pastCopy]) (by simp [Place.inLoop])
    case h_7 hplace =>
      obtain rfl := Option.some.inj hproceed
      exact .kept (by simp [hplace]) rfl rfl (by simp [Place.pastCopy]) (by simp [Place.inLoop])
    case h_8 => cases hproceed

/-! ## Every run -/

/-- What the flags say about the task's copy of the endpoint. -/
structure EndpointKept (state : ClientTask × EndpointHistory) : Prop where
  copied : state.1.place.pastCopy = true → state.2.copied = true
  current : state.2.copied = true → state.1.control.reconnectRequested = false →
    state.1.endpointUrl = state.1.control.endpointUrl
  evaluated : state.2.evaluated = true → state.1.place.inLoop = true →
    state.1.endpointUrl = state.1.control.endpointUrl

variable {history : EndpointHistory} {event : TaskEvent}

/-- A step that touches neither the place, nor the copy, nor the endpoint, and withdraws no request. -/
theorem EndpointKept.congr (hkept : EndpointKept (task, history))
    (hplace : next.place = task.place) (hcopy : next.endpointUrl = task.endpointUrl)
    (hurl : next.control.endpointUrl = task.control.endpointUrl)
    (hrequest : next.control.reconnectRequested = false → task.control.reconnectRequested = false) :
    EndpointKept (next, history) where
  copied hpast := hkept.copied (hplace ▸ hpast)
  current hcopied hcleared := by
    rw [hcopy, hurl]
    exact hkept.current hcopied (hrequest hcleared)
  evaluated hevaluated hloop := by
    rw [hcopy, hurl]
    exact hkept.evaluated hevaluated (hplace ▸ hloop)

theorem proceed_endpointKept (hkept : EndpointKept (task, history))
    (hproceed : task.proceed outcome = some next) :
    EndpointKept (next, task.noteEndpoint (.proceed outcome) history) := by
  cases proceed_endpoint hproceed with
  | copied hplace hnext hcopy hcontrol =>
      have hsame : next.endpointUrl = next.control.endpointUrl := by rw [hcopy, hcontrol]
      exact ⟨fun _ => by simp [noteEndpoint, hplace], fun _ _ => hsame, fun _ _ => hsame⟩
  | kept hplace hcopy hcontrol hpast hloop =>
      have hcopiedSame : (task.noteEndpoint (.proceed outcome) history).copied = history.copied := by
        simp only [noteEndpoint, if_neg hplace]
        split <;> rfl
      refine ⟨fun hafter => ?_, fun hcopied hcleared => ?_, fun hevaluated hafter => ?_⟩
      · exact hcopiedSame.trans (hkept.copied (hpast hafter))
      · rw [hcopy, hcontrol]
        exact hkept.current (hcopiedSame.symm.trans hcopied) (hcontrol ▸ hcleared)
      · rw [hcopy, hcontrol]
        rcases hloop hafter with hbefore | ⟨hreconnect, hcleared⟩
        · -- inside the loop the condition is not begun anew
          have hnotStop : task.place ≠ .sessionStop := by
            rintro hstop
            simp [hstop, Place.inLoop] at hbefore
          simp only [noteEndpoint, if_neg hplace, if_neg hnotStop] at hevaluated
          exact hkept.evaluated hevaluated hbefore
        · exact hkept.current (hkept.copied (by simp [hreconnect, Place.pastCopy])) hcleared

theorem setEndpoint_endpointKept (hkept : EndpointKept (task, history))
    (endpointUrl : Option Text) :
    EndpointKept ({ task with control := (task.control.setEndpoint endpointUrl).2 },
      task.noteEndpoint (.setEndpoint endpointUrl) history) := by
  by_cases hok : (task.control.setEndpoint endpointUrl).1 = .ok
  · simp only [noteEndpoint, if_pos hok]
    refine ⟨hkept.copied, fun _ hcleared => ?_, fun hevaluated => by cases hevaluated⟩
    simp [ClientControl.setEndpoint_ok hok] at hcleared
  · simp only [noteEndpoint, if_neg hok, ClientControl.setEndpoint_error hok]
    exact hkept

theorem step_endpointKept (hkept : EndpointKept (task, history))
    (hstep : task.step event = some next) :
    EndpointKept (next, task.noteEndpoint event history) := by
  cases event with
  | proceed outcome => exact proceed_endpointKept hkept hstep
  | discover env =>
      simp only [step] at hstep
      split at hstep
      · next hplace =>
          obtain rfl := Option.some.inj hstep
          obtain ⟨hcopy, hcontrol, hnotLoop⟩ := task.runDiscovery_frame env
          have hcopied := hkept.copied (by simp [hplace, Place.pastCopy])
          refine ⟨fun _ => hcopied, fun _ hcleared => ?_, fun _ hloop => ?_⟩
          · rw [hcopy, hcontrol]
            exact hkept.current hcopied (hcontrol ▸ hcleared)
          · simp [hnotLoop] at hloop
      · cases hstep
  | notify item value =>
      obtain ⟨_, -, rfl⟩ := Option.map_eq_some_iff.mp hstep
      exact hkept.congr rfl rfl rfl id
  | alarm alarm =>
      simp only [step] at hstep
      split at hstep
      · obtain rfl := Option.some.inj hstep
        exact hkept.congr rfl rfl rfl id
      · cases hstep
  | start =>
      simp only [step] at hstep
      split at hstep
      · obtain rfl := Option.some.inj hstep
        exact ⟨fun hpast => by simp [Place.pastCopy] at hpast, nofun, nofun⟩
      · cases hstep
  | stop | resume =>
      obtain rfl := Option.some.inj hstep
      exact hkept.congr rfl rfl rfl id
  | pause =>
      obtain rfl := Option.some.inj hstep
      exact hkept.congr rfl rfl rfl fun hcleared => by simp [ClientControl.pause] at hcleared
  | setEndpoint endpointUrl =>
      obtain rfl := Option.some.inj hstep
      exact setEndpoint_endpointKept hkept endpointUrl

theorem reachable_endpointKept {state : ClientTask × EndpointHistory}
    (hreached : endpointMachine.Reachable state) : EndpointKept state := by
  refine hreached.invariant ?_ fun state event next hkept hstep => ?_
  · rintro ⟨task, history⟩ ⟨⟨hplace, -⟩, rfl⟩
    have hstopped : task.place = .stopped := hplace
    exact ⟨fun hpast => by simp [hstopped, Place.pastCopy] at hpast, nofun, nofun⟩
  · obtain ⟨hstep, hnext⟩ := Machine.withHistory_step hstep
    have hafter := step_endpointKept hkept hstep
    rwa [← hnext] at hafter

/-- **Endpoint updates.**  After the task has copied an endpoint, a cleared `reconnect_requested` means
that the copy is the configured endpoint.  A pass of the session loop whose condition was evaluated
after the last change works with the configured endpoint, and a refused endpoint changes nothing. -/
theorem endpoint_current (state : ClientTask × EndpointHistory)
    (hreached : endpointMachine.Reachable state) :
    (state.2.copied = true → state.1.control.reconnectRequested = false →
      state.1.endpointUrl = state.1.control.endpointUrl) ∧
    (state.2.evaluated = true → state.1.place.inLoop = true →
      state.1.endpointUrl = state.1.control.endpointUrl) ∧
    ∀ endpointUrl, (state.1.control.setEndpoint endpointUrl).1 ≠ .ok →
      (state.1.control.setEndpoint endpointUrl).2 = state.1.control :=
  have hkept := reachable_endpointKept hreached
  ⟨hkept.current, hkept.evaluated, fun _ => ClientControl.setEndpoint_error⟩

/-- A client that has not been started. -/
private def restingTask : ClientTask where
  control := { endpointUrl := .empty }
  context := { configuration := ⟨4, 4, 2⟩, dataModel := .empty 4 4 }

private theorem restingTask_start : endpointMachine.start (restingTask, {}) :=
  ⟨⟨rfl, rfl⟩, rfl⟩

/-- The endpoint is changed while the task waits for the network, and copied when there is one. -/
private def copyRun : List TaskEvent :=
  .start :: List.replicate 3 (.proceed false) ++
    [.setEndpoint (some (ascii "opc.tcp://plc:4840")), .proceed true, .proceed false, .proceed false,
      .proceed true, .proceed false, .proceed false, .proceed false]

theorem endpoint_current_copied :
    ∃ state, endpointMachine.replay (restingTask, {}) copyRun = some state ∧
      state.1.endpointUrl.text = ascii "opc.tcp://plc:4840" ∧
      state.1.endpointUrl = state.1.control.endpointUrl := by
  have hsome : (endpointMachine.replay (restingTask, {}) copyRun).isSome := by decide +kernel
  obtain ⟨state, hreplay⟩ := Option.isSome_iff_exists.mp hsome
  have hseen : (endpointMachine.replay (restingTask, {}) copyRun).map (fun state =>
      (state.2.copied, state.1.control.reconnectRequested, state.1.endpointUrl.text)) =
        some (true, false, ascii "opc.tcp://plc:4840") := by decide +kernel
  simp only [hreplay, Option.map_some, Option.some.injEq, Prod.mk.injEq] at hseen
  obtain ⟨hcopied, hcleared, htext⟩ := hseen
  have hreached := Machine.reachable_of_replay restingTask_start hreplay
  exact ⟨state, hreplay, htext, (endpoint_current state hreached).1 hcopied hcleared⟩

end ClientTask

end CrowPanel.OpcUa
