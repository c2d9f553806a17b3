import CrowPanel.Ui.WriteTarget

/-!
# Leaving the automatic mode

The command of an equipment that is in automatic mode is two writes: one that ends the automatic mode,
and the command itself.  `boolean_switch_event` sends them one after the other, and nothing takes the
first one back when the second finds the queue full.

## Strategy

A history variable beside the machine of the panel follows the switch that is being operated:
everything that has been put into the queue before, the free places at the first send, and the
requests that the client task has taken out since.  The invariant (`Tracks`) goes by what the handler
is doing.  At its end the queue has room for the second request unless it had exactly one place for
the first.
-/

namespace CrowPanel.Ui

open Library DataModel OpcUa

namespace Panel

variable {panel next : Panel} {event : Event}

/-! ## The client task and the handler -/

/-- The steps of the client task, but for those that take out a request. -/
def OfTask : Event → Prop
  | .connect | .disconnect | .finish | .proceed | .request _ | .addObject _ _ | .addTag _ _ _
  | .browsed _ | .updateValue _ _ _ | .updateAlarm _ => True
  | _ => False

theorem proceed_frame (hproceed : panel.proceed = some next) :
    ∃ context known place, next = { panel with context, known, place } := by
  cases proceed_proceeds hproceed <;> exact ⟨_, _, _, rfl⟩

/-- Otherwise the client task leaves the queue and the UI alone. -/
theorem task_frame (hevent : OfTask event) (hstep : machine.step panel event = some next) :
    ∃ context known place, next = { panel with context, known, place } := by
  cases event with
  | connect | disconnect | finish | request | browsed | updateValue | updateAlarm =>
      simp only [machine, step] at hstep
      split at hstep
      · obtain rfl := Option.some.inj hstep
        exact ⟨_, _, _, rfl⟩
      · cases hstep
  | addObject | addTag =>
      simp only [machine, step, addObject, addTag] at hstep
      split at hstep
      · obtain rfl := Option.some.inj hstep
        exact ⟨_, _, _, rfl⟩
      · cases hstep
  | proceed => exact proceed_frame hstep
  | _ => exact hevent.elim

/-- The tag which the next step of the handler finds to keep the equipment in automatic mode. -/
def foundMode (panel : Panel) : Option Tag :=
  match panel.activity with
  | .findMode _ _ equipmentIndex tagCount index =>
      if tagCount ≤ index then none
      else
        (panel.context.dataModel.getTag index).filter fun mode =>
          mode.equipmentIndex = equipmentIndex ∧ mode.hasRole "automatic_mode" ∧
            mode.valueValid ∧ mode.value.booleanValue
  | _ => none

/-- What the write says that the next step of the UI sends. -/
def reports (panel : Panel) : Option EspErr :=
  panel.sending.map fun request => (sendRequest panel.queue request).1

/-! ## The switch that is being operated -/

/-- What is remembered of it. -/
structure Handling where
  /-- the requests that the client task has taken out -/
  taken : List WriteRequest := []
  /-- the requests that had been put into the queue when the switch was operated -/
  before : List WriteRequest := []
  /-- the write of the switch -/
  command : Option WriteRequest := none
  /-- the tag that keeps its equipment in automatic mode -/
  mode : Option Tag := none
  /-- the free places of the queue when the automatic mode is to be left -/
  free : ℕ := 0
  /-- how many requests the client task has taken out since -/
  drained : ℕ := 0
  deriving DecidableEq

def note (panel : Panel) (event : Event) (handling : Handling) : Handling :=
  match event with
  | .toggle place value =>
      { handling with
        before := handling.taken ++ panel.queue
        command := (panel.operated place .booleanSwitch).map fun control =>
          booleanRequest control.tagIndex value control.builtFor
        mode := none }
  | .release _ _ => { handling with mode := none }
  | .drain =>
      { handling with
        taken := handling.taken ++ panel.queue.take 1
        drained := handling.drained + 1 }
  | .handle =>
      match panel.activity with
      | .findMode _ _ _ _ _ => { handling with mode := panel.foundMode }
      | .leaveMode _ _ =>
          { handling with free := writeQueueLength - panel.queue.length, drained := 0 }
      | _ => handling
  | _ => handling

/-- The panel beside what is remembered. -/
def tracked : Machine (Panel × Handling) Event :=
  machine.withHistory {} note

/-- Both requests have been put into the queue in their order. -/
def PairSent (queue : List WriteRequest) (handling : Handling) : Prop :=
  ∃ mode command target, handling.mode = some mode ∧ handling.command = some command ∧
    handling.taken ++ queue = handling.before ++ [booleanRequest mode.index false target, command]

/-- None of the two has been put into the queue. -/
def NothingSent (queue : List WriteRequest) (handling : Handling) : Prop :=
  handling.taken ++ queue = handling.before

instance (queue : List WriteRequest) (handling : Handling) :
    Decidable (NothingSent queue handling) :=
  inferInstanceAs (Decidable (_ = _))

/-- How a handler that ends with the step from `panel` to `next` should leave the queue. -/
def AllOrNothing (panel next : Panel) (handling : Handling) : Prop :=
  panel.reports = some .ok ∧ PairSent next.queue handling ∨
    panel.reports ≠ some .ok ∧ NothingSent next.queue handling

/-- The handler is looking for the automatic mode. -/
def Searching (panel : Panel) (request : WriteRequest) : Prop :=
  match panel.activity with
  | .toggled _ other | .countTags _ other _ | .findMode _ other _ _ _ => other = request
  | _ => False

/-- What holds of the queue while a switch is being operated. -/
structure Tracks (panel : Panel) (handling : Handling) : Prop where
  queue_le : panel.queue.length ≤ writeQueueLength
  searching : ∀ request, panel.Searching request → handling.command = some request ∧
    handling.mode = none ∧ NothingSent panel.queue handling
  leaving : ∀ leave request, panel.activity = .leaveMode leave request →
    handling.command = some request ∧ NothingSent panel.queue handling ∧
      ∃ mode target, handling.mode = some mode ∧ leave = booleanRequest mode.index false target
  sending : ∀ request mode, panel.activity = .send request → handling.mode = some mode →
    handling.command = some request ∧ 0 < handling.free ∧
      panel.queue.length + handling.drained + handling.free = writeQueueLength + 1 ∧
        ∃ target, handling.taken ++ panel.queue =
          handling.before ++ [booleanRequest mode.index false target]

/-! ## The invariant -/

section

variable {handling : Handling}

/-- Nothing is asked while no switch is operated. -/
theorem Tracks.quiet (hle : panel.queue.length ≤ writeQueueLength)
    (hactivity : panel.activity = .idle ∨ panel.activity = .rebuild ∨ panel.activity = .building) :
    panel.Tracks handling := by
  refine ⟨hle, fun request hsearching => ?_, fun leave request hleave => ?_,
    fun request mode hsend => ?_⟩
  · rcases hactivity with h | h | h <;> simp [Searching, h] at hsearching
  · rcases hactivity with h | h | h <;> rw [h] at hleave <;> cases hleave
  · rcases hactivity with h | h | h <;> rw [h] at hsend <;> cases hsend

/-- The handler is about to send the last of its requests. -/
theorem Tracks.beforeSend {request : WriteRequest} (hle : panel.queue.length ≤ writeQueueLength)
    (hactivity : panel.activity = .send request)
    (hsending : ∀ mode, handling.mode = some mode → handling.command = some request ∧
      0 < handling.free ∧
        panel.queue.length + handling.drained + handling.free = writeQueueLength + 1 ∧
          ∃ target, handling.taken ++ panel.queue =
            handling.before ++ [booleanRequest mode.index false target]) :
    panel.Tracks handling := by
  refine ⟨hle, fun other hother => ?_, fun leave other hleave => ?_, fun other mode hsend => ?_⟩
  · simp [Searching, hactivity] at hother
  · rw [hactivity] at hleave
    cases hleave
  · rw [hactivity] at hsend
    obtain rfl := Activity.send.inj hsend
    exact hsending mode

/-- The handler goes on with its search. -/
theorem Tracks.beforeSearch {request : WriteRequest}
    (hle : panel.queue.length ≤ writeQueueLength) (hactivity : panel.Searching request)
    (hcommand : handling.command = some request) (hmode : handling.mode = none)
    (hsent : NothingSent panel.queue handling) : panel.Tracks handling := by
  refine ⟨hle, fun other hother => ⟨?_, hmode, hsent⟩, fun leave other hleave => ?_,
    fun other mode hsend => ?_⟩
  · unfold Searching at hactivity hother
    split at hactivity <;> simp_all
  · simp [Searching, hleave] at hactivity
  · simp [Searching, hsend] at hactivity

/-- The handler has found the equipment in automatic mode. -/
theorem Tracks.beforeLeave {request : WriteRequest} {mode : Tag} {target : NodeId}
    (hle : panel.queue.length ≤ writeQueueLength)
    (hactivity : panel.activity = .leaveMode (booleanRequest mode.index false target) request)
    (hcommand : handling.command = some request) (hsent : NothingSent panel.queue handling)
    (hmode : handling.mode = some mode) : panel.Tracks handling := by
  refine ⟨hle, fun other hother => ?_, fun leave other hleave => ?_, fun other found hsend => ?_⟩
  · simp [Searching, hactivity] at hother
  · rw [hactivity] at hleave
    obtain ⟨rfl, rfl⟩ := Activity.leaveMode.inj hleave
    exact ⟨hcommand, hsent, mode, target, hmode, rfl⟩
  · rw [hactivity] at hsend
    cases hsend

theorem Tracks.drain (htracks : panel.Tracks handling) (hdrain : panel.drain = some next) :
    next.Tracks (note panel .drain handling) := by
  unfold Panel.drain at hdrain
  split at hdrain
  · split at hdrain
    · cases hdrain
    · next request queue hqueue =>
        obtain rfl := Option.some.inj hdrain
        have hlength : panel.queue.length = queue.length + 1 := by rw [hqueue, List.length_cons]
        have hentered : handling.taken ++ panel.queue.take 1 ++ queue =
            handling.taken ++ panel.queue := by
          simp [hqueue]
        have hle := htracks.queue_le
        refine ⟨by dsimp only; omega, fun request hsearching => ?_, fun leave request hleave => ?_,
          fun request mode hsend hmode => ?_⟩
        · obtain ⟨hcommand, hmode, hsent⟩ := htracks.searching request hsearching
          exact ⟨hcommand, hmode, hentered.trans hsent⟩
        · obtain ⟨hcommand, hsent, hmode⟩ := htracks.leaving leave request hleave
          exact ⟨hcommand, hentered.trans hsent, hmode⟩
        · obtain ⟨hcommand, hfree, hroom, target, hsent⟩ := htracks.sending request mode hsend hmode
          refine ⟨hcommand, hfree, ?_, target, hentered.trans hsent⟩
          dsimp only [note]
          omega
  · cases hdrain

/-- The queue is never longer than it is. -/
theorem sendRequest_length_le {queue : List WriteRequest} (hle : queue.length ≤ writeQueueLength)
    (request : WriteRequest) : (sendRequest queue request).2.length ≤ writeQueueLength := by
  rcases sendRequest_cases queue request with hfull | ⟨hroom, hsent⟩
  · rwa [hfull]
  · rw [hsent, List.length_append, List.length_singleton]
    exact hroom

theorem Tracks.handle (htracks : panel.Tracks handling) (hhandle : panel.handle = some next) :
    next.Tracks (note panel .handle handling) := by
  cases handle_handles hhandle with
  | rebuilt hactivity =>
      simp only [note, hactivity]
      exact .quiet htracks.queue_le (.inr (.inr rfl))
  | @plain _ request hactivity =>
      obtain ⟨-, hmode, -⟩ := htracks.searching request (by simp [Searching, hactivity])
      simp only [note, hactivity]
      exact .beforeSend htracks.queue_le rfl fun mode hsome => by
        rw [hmode] at hsome
        cases hsome
  | @command _ request _ hactivity | @counted _ request _ hactivity =>
      obtain ⟨hcommand, hmode, hsent⟩ := htracks.searching request (by simp [Searching, hactivity])
      simp only [note, hactivity]
      exact .beforeSearch htracks.queue_le rfl hcommand hmode hsent
  | searched hactivity hdone =>
      -- the search has come to the end, or to a mode that needs no change
      have hnone : panel.foundMode = none := by
        simp only [foundMode, hactivity]
        rcases hdone with hend | ⟨mode, htag, hfree⟩
        · exact if_pos hend
        · rw [htag]
          split
          · rfl
          · exact Option.filter_some_neg (decide_eq_false fun hall => hfree hall.2.2)
      simp only [note, hactivity, hnone]
      exact .beforeSend htracks.queue_le rfl fun mode hsome => by cases hsome
  -- a tag that is not the mode of the equipment leaves the search where it was
  | @searching _ request _ _ _ hactivity hother =>
      obtain ⟨hcommand, -, hsent⟩ := htracks.searching request (by simp [Searching, hactivity])
      have hnone : panel.foundMode = none := by
        simp only [foundMode, hactivity]
        split
        · rfl
        · rw [Option.filter_eq_none_iff]
          intro mode hmode hall
          have hall := of_decide_eq_true hall
          exact hother mode hmode ⟨hall.1, hall.2.1⟩
      simp only [note, hactivity, hnone]
      exact .beforeSearch htracks.queue_le rfl hcommand rfl hsent
  | @found _ request _ _ _ mode hactivity hmore htag hrole hforces =>
      obtain ⟨hcommand, -, hsent⟩ := htracks.searching request (by simp [Searching, hactivity])
      have hfound : panel.foundMode = some mode := by
        simp only [foundMode, hactivity]
        rw [if_neg hmore, htag]
        exact Option.filter_some_pos (decide_eq_true ⟨hrole.1, hrole.2, hforces.1, hforces.2⟩)
      simp only [note, hactivity, hfound]
      exact .beforeLeave htracks.queue_le rfl hcommand hsent rfl
  | kept hactivity =>
      simp only [note, hactivity]
      exact .quiet htracks.queue_le (.inl rfl)
  -- the mode has gone into the queue, maybe to its last free place
  | left hactivity hroom =>
      obtain ⟨hcommand, hsent, mode, target, hmode, rfl⟩ := htracks.leaving _ _ hactivity
      simp only [note, hactivity]
      refine .beforeSend ?_ rfl fun other hother => ?_
      · rw [List.length_append, List.length_singleton]
        exact hroom
      · obtain rfl := Option.some.inj (hmode.symm.trans hother)
        refine ⟨hcommand, Nat.sub_pos_of_lt hroom, ?_, target, ?_⟩
        · rw [List.length_append, List.length_singleton]
          dsimp only
          omega
        · rw [← List.append_assoc, hsent]
  | sent hactivity =>
      simp only [note, hactivity]
      exact .quiet (sendRequest_length_le htracks.queue_le _) (.inl rfl)

theorem Tracks.step (htracks : panel.Tracks handling)
    (hstep : machine.step panel event = some next) : next.Tracks (note panel event handling) := by
  cases event with
  | connect | disconnect | finish | proceed | request | addObject | addTag | browsed
  | updateValue | updateAlarm =>
      obtain ⟨context, known, place, rfl⟩ := task_frame (by trivial) hstep
      exact ⟨htracks.queue_le, htracks.searching, htracks.leaving, htracks.sending⟩
  | drain => exact htracks.drain hstep
  | handle => exact htracks.handle hstep
  | refresh =>
      simp only [machine, Panel.step] at hstep
      split at hstep
      · next hidle =>
          split at hstep <;> obtain rfl := Option.some.inj hstep
          · exact .quiet htracks.queue_le (.inl hidle)
          · exact .quiet htracks.queue_le (.inr (.inl rfl))
      · cases hstep
  | build tagIndex =>
      simp only [machine, Panel.step, build] at hstep
      split at hstep
      · next hbuilding =>
          have hquiet : ∀ controls, Tracks { panel with controls } handling := fun controls =>
            .quiet htracks.queue_le (.inr (.inr hbuilding))
          split at hstep
          · obtain rfl := Option.some.inj hstep
            exact hquiet _
          · split at hstep <;> obtain rfl := Option.some.inj hstep <;> exact hquiet _
      · cases hstep
  | built =>
      simp only [machine, Panel.step] at hstep
      split at hstep
      · obtain rfl := Option.some.inj hstep
        exact .quiet htracks.queue_le (.inl rfl)
      · cases hstep
  | toggle place value =>
      obtain ⟨control, hoperated, rfl⟩ := Option.map_eq_some_iff.mp hstep
      simp only [note, hoperated, Option.map_some]
      exact .beforeSearch htracks.queue_le rfl rfl rfl rfl
  | release place value =>
      obtain ⟨control, -, rfl⟩ := Option.map_eq_some_iff.mp hstep
      exact .beforeSend htracks.queue_le rfl fun mode hmode => by cases hmode

theorem tracked_tracks {state : Panel × Handling} (hreached : tracked.Reachable state) :
    state.1.Tracks state.2 := by
  have hstart : ∀ state, tracked.start state → state.1.Tracks state.2 := by
    rintro state ⟨⟨-, -, -, -, hqueue, -, hactivity, -⟩, -⟩
    refine .quiet ?_ (.inr (.inl hactivity))
    rw [hqueue]
    exact Nat.zero_le _
  have hstep : ∀ state event after, state.1.Tracks state.2 →
      tracked.step state event = some after → after.1.Tracks after.2 := by
    intro state event after htracks hafter
    obtain ⟨hnext, hnote⟩ := Machine.withHistory_step hafter
    rw [hnote]
    exact htracks.step hnext
  exact @Machine.Reachable.invariant _ _ _ _ (fun state => state.1.Tracks state.2) hstart hstep hreached

/-- A handler ends with its last send, or with the first one if it fails. -/
theorem handle_idle (hhandle : panel.handle = some next) (hidle : next.activity = .idle) :
    (∃ leave request, panel.activity = .leaveMode leave request ∧
      writeQueueLength ≤ panel.queue.length ∧ next = { panel with activity := .idle }) ∨
    ∃ request, panel.activity = .send request ∧
      next = { panel with queue := (sendRequest panel.queue request).2, activity := .idle } := by
  cases handle_handles hhandle with
  | rebuilt | plain | command | counted | searched | searching | found | left => cases hidle
  | kept hactivity hfull => exact .inl ⟨_, _, hactivity, Nat.not_lt.mp hfull, rfl⟩
  | sent hactivity => exact .inr ⟨_, hactivity, rfl⟩

/-- When a switch of an equipment in automatic mode has been operated, both writes have been put into
the queue, or an error is reported and none has, unless the queue had exactly one free place for the
first and no request was taken out before the second. -/
theorem allOrNothing_iff {after : Handling} (hreached : tracked.Reachable (panel, handling))
    (hstep : tracked.step (panel, handling) .handle = some (next, after))
    (hidle : next.activity = .idle) (hmode : after.mode.isSome = true) :
    AllOrNothing panel next after ↔ after.free ≠ 1 ∨ 0 < after.drained := by
  have htracks : panel.Tracks handling := tracked_tracks hreached
  have hle := htracks.queue_le
  obtain ⟨hhandle, hnote⟩ := Machine.withHistory_step hstep
  change panel.handle = some next at hhandle
  dsimp only at hnote
  rcases handle_idle hhandle hidle with ⟨leave, request, hactivity, hfull, rfl⟩ |
    ⟨request, hactivity, rfl⟩
  -- the queue is full for the mode already, so nothing has been sent
  · obtain ⟨-, hsent, -⟩ := htracks.leaving leave request hactivity
    simp only [note, hactivity] at hnote
    have hreports : panel.reports = some .timeout := by
      simp [reports, Panel.sending, hactivity, sendRequest, Nat.not_lt.mpr hfull]
    have hfree : after.free = 0 := by
      rw [hnote]
      exact Nat.sub_eq_zero_of_le hfull
    refine iff_of_true (.inr ⟨by simp [hreports], ?_⟩) (.inl (by omega))
    rw [hnote]
    exact hsent
  · simp only [note, hactivity] at hnote
    obtain rfl := hnote
    obtain ⟨mode, hmode⟩ := Option.isSome_iff_exists.mp hmode
    obtain ⟨hcommand, hfree, hroom, target, hsent⟩ := htracks.sending request mode hactivity hmode
    -- the command finds a place, or the mode stays in the queue without it
    by_cases hplace : panel.queue.length < writeQueueLength
    · have hadded : sendRequest panel.queue request = (.ok, panel.queue ++ [request]) := if_pos hplace
      refine iff_of_true (.inl ⟨?_, mode, request, target, hmode, hcommand, ?_⟩) (by omega)
      · simp [reports, Panel.sending, hactivity, hadded]
      · dsimp only
        rw [hadded, ← List.append_assoc, hsent, List.append_assoc]
        rfl
    · have hfull : sendRequest panel.queue request = (.timeout, panel.queue) := if_neg hplace
      refine iff_of_false (fun hall => ?_) (by omega)
      rcases hall with ⟨hreports, -⟩ | ⟨-, hnothing⟩
      · simp [reports, Panel.sending, hactivity, hfull] at hreports
      · have hsame : after.taken ++ panel.queue = after.before := by
          rw [← hnothing, hfull]
        have hlength := congrArg List.length (hsent.symm.trans hsame)
        simp at hlength

end

private def freshPanel : Panel where
  context := freshContext 4
  observedGeneration := 2 ^ 32 - 1

/-- An equipment with a command and an automatic mode that is on, and a switch for each of them. -/
private def automaticPump : List Event :=
  let object : NodeId := ⟨1, .numeric 7⟩
  let command : NodeId := ⟨1, .numeric 8⟩
  let mode : NodeId := ⟨1, .numeric 9⟩
  [.connect, .proceed, .proceed, .proceed, .addObject { nodeId := object.text } object, .proceed,
    .addTag
      { nodeId := command.text, semanticRole := .ofText _ (ascii "operating_command"),
        dataType := .boolean, writable := true }
      command (some .boolean), .proceed,
    .addTag
      { nodeId := mode.text, semanticRole := .ofText _ (ascii "automatic_mode"),
        dataType := .boolean, writable := true }
      mode (some .boolean), .proceed,
    .browsed true, .proceed, .updateValue 1 { booleanValue := true } true,
    .handle, .build 0, .build 1, .built]

/-- The switch of the automatic mode is operated some times; each time is one request. -/
private def waiting (count : ℕ) : List Event :=
  (List.replicate count [Event.toggle 1 true, .handle, .handle]).flatten

/-- The command is given, up to its last send. -/
private def giveCommand : List Event :=
  [.toggle 0 true, .handle, .handle, .handle, .handle, .handle]

private def trackedAfter (events : List Event) : Panel × Handling :=
  (tracked.replay (freshPanel, {}) events).getD (freshPanel, {})

private theorem trackedAfter_reachable {events : List Event}
    (hrun : (tracked.replay (freshPanel, {}) events).isSome = true) :
    tracked.Reachable ((trackedAfter events).1, (trackedAfter events).2) := by
  obtain ⟨last, hlast⟩ := Option.isSome_iff_exists.mp hrun
  have hstart : tracked.start (freshPanel, {}) := ⟨⟨rfl, rfl, rfl, rfl, rfl, rfl, rfl, rfl⟩, rfl⟩
  rw [trackedAfter, hlast, Option.getD_some]
  exact Machine.reachable_of_replay hstart hlast

/-- With an empty queue both requests are sent. -/
theorem allOrNothing_empty :
    AllOrNothing (trackedAfter (automaticPump ++ giveCommand)).1
      (trackedAfter (automaticPump ++ giveCommand ++ [.handle])).1
      (trackedAfter (automaticPump ++ giveCommand ++ [.handle])).2 := by
  have hreached := @trackedAfter_reachable (automaticPump ++ giveCommand) (by decide +kernel)
  exact (allOrNothing_iff hreached (by decide +kernel) (by decide +kernel) (by decide +kernel)).mpr
    (by decide +kernel)

/-- With eleven requests waiting, the automatic mode is ended and the command is lost. -/
theorem allOrNothing_eleven :
    ¬ ∀ (panel next : Panel) (handling after : Handling), tracked.Reachable (panel, handling) →
      tracked.step (panel, handling) .handle = some (next, after) → next.activity = .idle →
        after.mode.isSome = true → AllOrNothing panel next after := by
  intro hclaim
  have hreached := @trackedAfter_reachable (automaticPump ++ waiting 11 ++ giveCommand)
    (by decide +kernel)
  have hall := hclaim _ (trackedAfter (automaticPump ++ waiting 11 ++ giveCommand ++ [.handle])).1 _
    (trackedAfter (automaticPump ++ waiting 11 ++ giveCommand ++ [.handle])).2 hreached
    (by decide +kernel) (by decide +kernel) (by decide +kernel)
  rcases hall with ⟨hreports, -⟩ | ⟨-, hnothing⟩
  · exact absurd hreports (by decide +kernel)
  · exact absurd hnothing (by decide +kernel)

end Panel

end CrowPanel.Ui
