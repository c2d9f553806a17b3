import CrowPanel.Ui.WritePath
import CrowPanel.OpcUa.Soundness

/-!
# Where the writes go

A request names its tag by index, and an index means what the latest discovery made it mean.  The
queue is not emptied when the maps are, and the widgets of an earlier discovery work on until the
next rebuild, so a write can go to a node for which nobody operated a widget.

## Strategy

* `Course` says once what a step does to the queue, the writes and whatever the checks of
  `process_write_requests` look at.
* The requests of a widget are for the tag that it was built for and for the automatic mode of the
  equipment of that tag, whatever its handler finds when it looks for them.
* There are two ways in which a request comes to be queued in a session: it is waiting when the
  session is opened, or it is sent during the session.  `KeepsTarget` asks of these two steps that
  the request is then on target; inside a session nothing can divert it any more.  So writes reach
  their targets in the runs of such steps.
* Conversely, whenever a step breaks the condition, emptying the queue makes the wrong write.
-/

namespace CrowPanel.Ui

open Library DataModel OpcUa

/-! ## What the checks look at -/

/-- The contexts agree on everything that `process_write_requests` reads. -/
structure SameChecks (context other : Context) : Prop where
  ids : other.tagNodeIds = context.tagNodeIds
  types : other.tagBuiltinTypeIndices = context.tagBuiltinTypeIndices
  writable : other.dataModel.tags.map Tag.writable = context.dataModel.tags.map Tag.writable

namespace SameChecks

variable {context other : Context}

theorem refl (context : Context) : SameChecks context context := ⟨rfl, rfl, rfl⟩

theorem accepts_iff (hsame : SameChecks context other) {request : WriteRequest} :
    Accepts other request ↔ Accepts context request :=
  ⟨fun haccepts => haccepts.congr hsame.ids.symm hsame.types.symm hsame.writable.symm,
    fun haccepts => haccepts.congr hsame.ids hsame.types hsame.writable⟩

theorem onTarget_iff (hsame : SameChecks context other) {request : WriteRequest} :
    OnTarget other request ↔ OnTarget context request := by
  unfold OnTarget mappedNode
  rw [hsame.accepts_iff, hsame.ids]

theorem updateValue (context : Context) (index : ℕ) (value : Value) (valid : Bool) :
    SameChecks context { context with
      dataModel := (context.dataModel.updateValue index (some value) valid).2 } := by
  exact ⟨rfl, rfl, updateValue_map_tags fun _ _ _ => rfl⟩

end SameChecks

namespace Panel

variable {panel next : Panel} {event : Event}

/-! ## What a step does -/

/-- What a step does to the requests and to what decides about them. -/
inductive Course (panel next : Panel) : Event → Prop
  | quiet {event : Event} (written : next.written = panel.written) (queue : next.queue = panel.queue)
      (session : next.place = .session →
        panel.place = .session ∧ SameChecks panel.context next.context) :
      Course panel next event
  | opened (ending : panel.place = .ending true) (session : next.place = .session)
      (written : next.written = panel.written) (queue : next.queue = panel.queue)
      (same : SameChecks panel.context next.context) : Course panel next .proceed
  | sent {request : WriteRequest} (sending : panel.sending = some request)
      (room : panel.queue.length < writeQueueLength) (written : next.written = panel.written)
      (queue : next.queue = panel.queue ++ [request]) (place : next.place = panel.place)
      (context : next.context = panel.context) : Course panel next .handle
  | drained {request : WriteRequest} (session : panel.place = .session)
      (queue : panel.queue = request :: next.queue)
      (written : next.written =
        (processWriteRequest panel.context request).toList ++ panel.written)
      (place : next.place = panel.place) (context : next.context = panel.context) :
      Course panel next .drain

/-- A step of the task outside the session leaves queue and writes alone. -/
private theorem Course.outside (hplace : next.place ≠ .session)
    (hwritten : next.written = panel.written) (hqueue : next.queue = panel.queue) :
    Course panel next event :=
  .quiet hwritten hqueue fun hsession => absurd hsession hplace

/-- A step of the UI that puts nothing into the queue. -/
private theorem Course.apart (hwritten : next.written = panel.written)
    (hqueue : next.queue = panel.queue) (hplace : next.place = panel.place)
    (hcontext : next.context = panel.context) : Course panel next event :=
  .quiet hwritten hqueue fun hsession =>
    ⟨hplace ▸ hsession, by rw [hcontext]; exact .refl _⟩

theorem proceed_course (hproceed : panel.proceed = some next) : Course panel next .proceed := by
  cases proceed_proceeds hproceed with
  | began | clearedModel | clearedMap | objectLost | objectStored | tagLost | tagStored | failed
  | abandoned => exact .outside (by simp) rfl rfl
  | ended good hplace =>
      cases good with
      | true => exact .opened hplace rfl rfl rfl ⟨rfl, rfl, by simp [withModel]⟩
      | false => exact .outside (by simp) rfl rfl

theorem handle_course (hhandle : panel.handle = some next) : Course panel next .handle := by
  obtain ⟨queue, observed, controls, activity, rfl, hqueue⟩ := handle_cases hhandle
  rcases hqueue with rfl | ⟨request, hsending, hroom, hqueue⟩
  · exact .apart rfl rfl rfl rfl
  · exact .sent hsending hroom rfl hqueue rfl rfl

theorem drain_course (hdrain : panel.drain = some next) : Course panel next .drain := by
  unfold drain at hdrain
  split at hdrain
  · next hsession =>
      split at hdrain
      · cases hdrain
      · next request queue hqueue =>
          obtain rfl := Option.some.inj hdrain
          exact .drained hsession hqueue rfl rfl rfl
  · cases hdrain

/-- The inversion of a step. -/
theorem step_course (hstep : machine.step panel event = some next) : Course panel next event := by
  cases event with
  | proceed => exact proceed_course hstep
  | drain => exact drain_course hstep
  | handle => exact handle_course hstep
  | connect | disconnect =>
      simp only [machine, step] at hstep
      split at hstep
      · obtain rfl := Option.some.inj hstep
        exact .outside (by simp) rfl rfl
      · cases hstep
  | finish | request =>
      simp only [machine, step] at hstep
      split at hstep
      · next hplace =>
          obtain rfl := Option.some.inj hstep
          exact .outside (by simp [hplace]) rfl rfl
      · cases hstep
  | browsed good =>
      simp only [machine, step] at hstep
      split at hstep
      · obtain rfl := Option.some.inj hstep
        exact .outside (by cases good <;> simp) rfl rfl
      · cases hstep
  | addObject | addTag =>
      simp only [machine, step, addObject, addTag] at hstep
      split at hstep
      · obtain rfl := Option.some.inj hstep
        exact .outside (by simp) rfl rfl
      · cases hstep
  -- a notification within a session keeps the map and the nodes
  | updateValue index value valid =>
      simp only [machine, step] at hstep
      split at hstep
      · next hsession =>
          obtain rfl := Option.some.inj hstep
          exact .quiet rfl rfl fun _ => ⟨hsession, .updateValue _ _ _ _⟩
      · cases hstep
  | updateAlarm alarm =>
      simp only [machine, step] at hstep
      split at hstep
      · next hsession =>
          obtain rfl := Option.some.inj hstep
          exact .quiet rfl rfl fun _ => ⟨hsession, rfl, rfl, by simp [withModel]⟩
      · cases hstep
  | refresh | build | built | toggle | release =>
      obtain ⟨controls, activity, rfl⟩ := widgets_frame (by trivial) hstep
      exact .apart rfl rfl rfl rfl

/-! ## The condition -/

/-- A session is opened only when every waiting request is on target, and during a session a request
is sent only if it is. -/
def KeepsTarget (panel : Panel) : Event → Prop
  | .proceed => panel.place = .ending true → ∀ request ∈ panel.queue, OnTarget panel.context request
  | .handle =>
      panel.place = .session → panel.queue.length < writeQueueLength →
        ∀ request ∈ panel.sending, OnTarget panel.context request
  | _ => True

/-- All writes so far have reached their targets, and in a session the waiting ones will. -/
structure Aimed (panel : Panel) : Prop where
  written : ∀ call ∈ panel.written, call.nodeId = call.request.target
  waiting : panel.place = .session → ∀ request ∈ panel.queue, OnTarget panel.context request

theorem Aimed.step (haimed : panel.Aimed) (hkeeps : panel.KeepsTarget event)
    (hstep : machine.step panel event = some next) : next.Aimed := by
  cases step_course hstep with
  | quiet hwritten hqueue hsession =>
      refine ⟨by rw [hwritten]; exact haimed.written, fun hplace request hrequest => ?_⟩
      obtain ⟨hbefore, hsame⟩ := hsession hplace
      rw [hqueue] at hrequest
      exact hsame.onTarget_iff.mpr (haimed.waiting hbefore request hrequest)
  | opened hending _ hwritten hqueue hsame =>
      refine ⟨by rw [hwritten]; exact haimed.written, fun _ request hrequest => ?_⟩
      rw [hqueue] at hrequest
      exact hsame.onTarget_iff.mpr (hkeeps hending request hrequest)
  | sent hsending hroom hwritten hqueue hplace hcontext =>
      refine ⟨by rw [hwritten]; exact haimed.written, fun hsession request hrequest => ?_⟩
      rw [hplace] at hsession
      rw [hcontext]
      rw [hqueue] at hrequest
      rcases List.mem_append.mp hrequest with hold | hnew
      · exact haimed.waiting hsession request hold
      · obtain rfl := List.mem_singleton.mp hnew
        exact hkeeps hsession hroom request hsending
  | @drained request hsession hqueue hwritten hplace hcontext =>
      have hwaiting := haimed.waiting hsession
      rw [hqueue] at hwaiting
      refine ⟨fun call hcall => ?_, fun _ other hother => ?_⟩
      · rw [hwritten] at hcall
        rcases List.mem_append.mp hcall with hnew | hold
        · exact (hwaiting request List.mem_cons_self).nodeId_eq (by simpa using hnew)
        · exact haimed.written call hold
      · rw [hcontext]
        exact hwaiting other (List.mem_cons_of_mem _ hother)

theorem start_aimed (hstart : machine.start panel) : panel.Aimed := by
  obtain ⟨_, _, _, _, hqueue, _, _, hwritten⟩ := hstart
  exact ⟨by simp [hwritten], by simp [hqueue]⟩

/-- In a run that meets the condition every write reaches its target. -/
theorem ReachedBy.aimed (hreached : machine.ReachedBy KeepsTarget panel) : panel.Aimed :=
  hreached.invariant (fun _ hstart => start_aimed hstart)
    fun _ _ _ _ haimed hkeeps hstep => haimed.step hkeeps hstep

/-! ## The condition is needed -/

/-- A step that breaks the condition leaves a session in which a waiting request is off target. -/
theorem exists_offTarget (hstep : machine.step panel event = some next)
    (hbreaks : ¬ panel.KeepsTarget event) :
    next.place = .session ∧ ∃ request ∈ next.queue, ¬ OnTarget next.context request := by
  cases event with
  | proceed =>
      simp only [KeepsTarget, not_forall] at hbreaks
      obtain ⟨hending, request, hrequest, hoff⟩ := hbreaks
      cases step_course hstep with
      | quiet _ _ hsession =>
          -- the step after the end of a good batch opens the session
          have hplace : next.place = .session := by
            simp only [machine, step, proceed, hending] at hstep
            obtain rfl := Option.some.inj hstep
            rfl
          exact absurd ((hsession hplace).1.symm.trans hending) (by simp)
      | opened _ hsession _ hqueue hsame =>
          exact ⟨hsession, request, hqueue ▸ hrequest, fun hon => hoff (hsame.onTarget_iff.mp hon)⟩
  | handle =>
      simp only [KeepsTarget, not_forall] at hbreaks
      obtain ⟨hsession, hroom, request, hsending, hoff⟩ := hbreaks
      have hnext : next.place = panel.place ∧ next.context = panel.context ∧
          next.queue = panel.queue ++ [request] := by
        simp only [sending] at hsending
        simp only [machine, step, handle] at hstep
        split at hsending
        · next mode other hactivity =>
            obtain rfl : mode = request := by simpa using hsending
            simp only [hactivity, sendRequest, hroom, if_true] at hstep
            obtain rfl := Option.some.inj hstep
            exact ⟨rfl, rfl, rfl⟩
        · next other hactivity =>
            obtain rfl : other = request := by simpa using hsending
            simp only [hactivity, sendRequest, hroom, if_true] at hstep
            obtain rfl := Option.some.inj hstep
            exact ⟨rfl, rfl, rfl⟩
        · cases hsending
      obtain ⟨hplace, hcontext, hqueue⟩ := hnext
      refine ⟨hplace.trans hsession, request, ?_, by rw [hcontext]; exact hoff⟩
      rw [hqueue]
      exact List.mem_append_right _ List.mem_cons_self
  | _ => exact absurd trivial hbreaks

theorem step_drain (hsession : panel.place = .session) {request : WriteRequest}
    {rest : List WriteRequest} (hqueue : panel.queue = request :: rest) :
    machine.step panel .drain = some
      { panel with
        queue := rest
        written := (processWriteRequest panel.context request).toList ++ panel.written } := by
  show panel.drain = _
  unfold drain
  rw [if_pos hsession, hqueue]

/-- In a session the queue can be emptied down to any request, and that request is then handled. -/
theorem exists_drained (hsession : panel.place = .session) {request : WriteRequest}
    (before : List WriteRequest) {after : List WriteRequest}
    (hqueue : panel.queue = before ++ request :: after) :
    ∃ last, machine.replay panel (List.replicate (before.length + 1) .drain) = some last ∧
      ∀ call, processWriteRequest panel.context request = some call → call ∈ last.written := by
  induction before generalizing panel with
  | nil =>
      let last : Panel :=
        { panel with
          queue := after
          written := (processWriteRequest panel.context request).toList ++ panel.written }
      refine ⟨last, ?_, fun call hcall => ?_⟩
      · simp [Machine.replay, step_drain hsession hqueue, last]
      · simp [last, hcall]
  | cons first before ih =>
      let middle : Panel :=
        { panel with
          queue := before ++ request :: after
          written := (processWriteRequest panel.context first).toList ++ panel.written }
      obtain ⟨last, hreplay, hhandled⟩ := @ih middle hsession rfl
      refine ⟨last, ?_, hhandled⟩
      rw [List.length_cons, List.replicate_succ]
      simp only [Machine.replay, step_drain hsession hqueue, Option.bind_some]
      exact hreplay

/-- Emptying the queue makes the wrong write. -/
theorem exists_misdirected (hsession : panel.place = .session)
    (hoff : ∃ request ∈ panel.queue, ¬ OnTarget panel.context request) :
    ∃ count last, machine.replay panel (List.replicate count .drain) = some last ∧
      ∃ call ∈ last.written, call.nodeId ≠ call.request.target := by
  obtain ⟨request, hrequest, hoff⟩ := hoff
  obtain ⟨haccepts, hmapped⟩ := Classical.not_imp.mp hoff
  obtain ⟨call, hcall, hnode, hcallRequest⟩ := exists_processWriteRequest haccepts
  obtain ⟨before, after, hqueue⟩ := List.append_of_mem hrequest
  obtain ⟨last, hreplay, hhandled⟩ := exists_drained hsession before hqueue
  refine ⟨before.length + 1, last, hreplay, call, hhandled call hcall, fun htarget => hmapped ?_⟩
  rw [hnode, htarget, hcallRequest]

/-- **Write targets.**  In every run whose steps all keep the waiting requests on target, every write
goes to the node of the tag it was requested for; and a step that does not keep them there leaves a
session in which the client makes a wrong write by merely emptying the queue. -/
theorem writes_reach_targets (panel : Panel) :
    (machine.ReachedBy KeepsTarget panel →
      ∀ call ∈ panel.written, call.nodeId = call.request.target) ∧
    ∀ event next, machine.step panel event = some next → ¬ panel.KeepsTarget event →
      ∃ count last, machine.replay next (List.replicate count .drain) = some last ∧
        ∃ call ∈ last.written, call.nodeId ≠ call.request.target := by
  refine ⟨fun hreached => (ReachedBy.aimed hreached).written, ?_⟩
  intro event next hstep hbreaks
  obtain ⟨hsession, hoff⟩ := exists_offTarget hstep hbreaks
  exact exists_misdirected hsession hoff

/-! ## A run that goes wrong, and one that does not -/

/-- A panel that has just been created. -/
private def newPanel : Panel where
  context := freshContext 4
  observedGeneration := 2 ^ 32 - 1

private theorem newPanel_start : machine.start newPanel :=
  ⟨rfl, rfl, rfl, rfl, rfl, rfl, rfl, rfl⟩

/-- A session with a server that has one object with some writable variables. -/
private def sessionWith (nodes : List (String × NodeId)) : List Event :=
  let object : NodeId := ⟨1, .numeric 7⟩
  [.connect, .proceed, .proceed, .proceed, .addObject { nodeId := object.text } object, .proceed] ++
    nodes.flatMap (fun (role, nodeId) =>
      [.addTag
        { nodeId := nodeId.text, equipmentIndex := some 0, dataType := .boolean, writable := true,
          semanticRole := .ofText _ (ascii role) }
        nodeId (some .boolean), .proceed]) ++
    [.browsed true, .proceed]

/-- The panel builds a switch for the variable, and the operator turns it on. -/
private def operateSwitch : List Event :=
  [.handle, .build 0, .built, .toggle 0 true, .handle, .handle]

/-- The switch of one valve is turned on just before the session ends; the next server has another
valve at the same index. -/
private def otherValveRun : List Event :=
  sessionWith [("", ⟨1, .numeric 8⟩)] ++ operateSwitch ++ [.disconnect] ++
    sessionWith [("", ⟨1, .numeric 9⟩)] ++ [.drain]

theorem writes_miss_target :
    ¬ ∀ panel, machine.Reachable panel → ∀ call ∈ panel.written, call.nodeId = call.request.target := by
  intro hclaim
  have hwritten : (machine.replay newPanel otherValveRun).map Panel.written =
      some [⟨⟨1, .numeric 9⟩, .boolean, booleanRequest (some 0) true ⟨1, .numeric 8⟩⟩] := by
    decide +kernel
  obtain ⟨last, hreplay, hlast⟩ := Option.map_eq_some_iff.mp hwritten
  have htarget := hclaim last (Machine.reachable_of_replay newPanel_start hreplay)
  rw [hlast] at htarget
  exact absurd (htarget _ List.mem_cons_self) (by decide)

/-- Whether the checks pass can be computed. -/
instance decidableAccepts (context : Context) (request : WriteRequest) :
    Decidable (Accepts context request) :=
  decidable_of_iff ((processWriteRequest context request).isSome = true)
    ⟨fun hsome => by
      obtain ⟨call, hcall⟩ := Option.isSome_iff_exists.mp hsome
      exact (processWriteRequest_eq_some_iff.mp hcall).1,
    fun haccepts => by
      obtain ⟨call, hcall, _⟩ := exists_processWriteRequest haccepts
      rw [hcall]
      rfl⟩

instance decidableOnTarget (context : Context) (request : WriteRequest) :
    Decidable (OnTarget context request) :=
  inferInstanceAs (Decidable (Accepts context request → _))

instance decidableKeepsTarget (panel : Panel) (event : Event) :
    Decidable (panel.KeepsTarget event) :=
  match event with
  | .proceed => inferInstanceAs (Decidable (panel.place = .ending true →
      ∀ request ∈ panel.queue, OnTarget panel.context request))
  | .handle => inferInstanceAs (Decidable (panel.place = .session →
      panel.queue.length < writeQueueLength →
        ∀ request ∈ panel.sending, OnTarget panel.context request))
  | .connect | .disconnect | .finish | .request _ | .addObject _ _ | .addTag _ _ _ | .browsed _
  | .drain | .updateValue _ _ _ | .updateAlarm _ | .refresh | .build _ | .built | .toggle _ _
  | .release _ _ => inferInstanceAs (Decidable True)

/-- A session in which the valve is in automatic mode. -/
private def automaticSession (valve mode : NodeId) : List Event :=
  sessionWith [("operating_command", valve), ("automatic_mode", mode)] ++
    [.updateValue 1 { booleanValue := true } true]

/-- The switch is operated and sends the end of the automatic mode and its own command. -/
private def commandValve : List Event :=
  [.toggle 0 true, .handle, .handle, .handle, .handle, .handle, .handle]

/-- The switch of the valve was built before the connection was lost; the same valve is there again,
and the operator has both the mode and the valve written. -/
private def sameValveRun : List Event :=
  automaticSession ⟨1, .numeric 8⟩ ⟨1, .numeric 9⟩ ++ [.handle, .build 0, .built, .disconnect] ++
    automaticSession ⟨1, .numeric 8⟩ ⟨1, .numeric 9⟩ ++ commandValve ++ [.drain, .drain]

theorem writes_reach_targets_same_valve :
    ∃ last, machine.replay newPanel sameValveRun = some last ∧ last.written.length = 2 ∧
      ∀ call ∈ last.written, call.nodeId = call.request.target := by
  have hadmitted : machine.Admitted KeepsTarget newPanel sameValveRun := by decide +kernel
  have hwritten : (machine.replay newPanel sameValveRun).map (fun last => last.written.length) =
      some 2 := by
    decide +kernel
  obtain ⟨last, hreplay, hlast⟩ := Option.map_eq_some_iff.mp hwritten
  refine ⟨last, hreplay, hlast, ?_⟩
  exact (writes_reach_targets last).1
    (Machine.ReachedBy.replay (.start newPanel_start) hadmitted hreplay)

/-- A valve without an automatic mode gets one on another server: the switch that was built before
would end the mode of an equipment that it was not built for. -/
example : ¬ machine.Admitted KeepsTarget newPanel
    (sessionWith [("", ⟨1, .numeric 8⟩)] ++ [.handle, .build 0, .built, .disconnect] ++
      automaticSession ⟨1, .numeric 8⟩ ⟨1, .numeric 19⟩ ++ commandValve) := by
  decide +kernel

end Panel

end CrowPanel.Ui
