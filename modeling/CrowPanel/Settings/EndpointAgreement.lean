import CrowPanel.Library.Machine
import CrowPanel.Settings.PortalForm

/-!
# The stored and the configured endpoint

An endpoint comes from the portal's form, from a UART message or from the dialog of the settings page.
The portal stores it and posts an event, UART only posts the event; the page's handler of the event
makes an asynchronous call of LVGL, which stores the endpoint and configures the client with it.  The
handler lives as long as the page, and the call does nothing when the page it was made for is gone.

Every task moves on its own: the HTTP server, the UART task, the default event loop and the task of
LVGL.  Stopping the portal waits for the request that it is serving.  Writes to NVS and allocations
succeed, and so do posts to the event loop.

## Strategy

As long as no update is dropped, an endpoint that is stored but not configured is still on its way
(`Agreeing.stored`), and so is a save that has been answered but not applied (`Agreeing.answered`).
-/

namespace CrowPanel.Settings

open Library OpcUa

/-- An endpoint on its way to the client.  `serial` is a ghost which tells the saves apart. -/
structure Save where
  serial : ℕ
  endpoint : Endpoint
  deriving DecidableEq

/-- `openplc_settings_context_t`; an asynchronous call knows it by its address. -/
structure SettingsContext where
  address : ℕ
  active : Bool := false
  dialog : Bool := false
  deriving DecidableEq

/-- `save_and_apply_endpoint` between its two parts. -/
structure Applying where
  save : Save
  fromDialog : Bool
  deriving DecidableEq

/-- Everything that has to do with the endpoint. -/
structure EndpointSystem where
  /-- the endpoint in NVS -/
  stored : CharArray endpointLength
  client : ClientControl
  /-- `s_context`, whose event handler is registered as long -/
  context : Option SettingsContext := none
  portalRunning : Bool := false
  /-- what `save_post_handler` has stored and not yet posted -/
  portalSave : Option Save := none
  /-- the endpoint events in the queue of the default event loop -/
  events : List Save := []
  /-- the calls of `apply_received_endpoint_async` that are due, with their contexts; LVGL runs them
  in any order -/
  asyncCalls : List (ℕ × Save) := []
  applying : Option Applying := none
  /-- ghost: the number of saves so far -/
  saves : ℕ := 0
  /-- ghost: the saves that were answered with success -/
  answered : List Save := []
  /-- ghost: the saves with which the client was configured -/
  applied : List Save := []

/-- A step of one of the tasks. -/
inductive EndpointEvent where
  /-- `open_settings_event`; the allocator chooses the address -/
  | openSettings (address : ℕ)
  /-- `close_settings_event` -/
  | closeSettings
  /-- `openplc_settings_activate` -/
  | activate (portalStarts : Bool)
  /-- `openplc_settings_deactivate` -/
  | deactivate
  /-- `refresh_portal` -/
  | refreshPortal (wifiConnected portalStarts : Bool)
  | openDialog
  | closeDialog
  /-- `dialog_save_event` -/
  | saveDialog (endpoint : Text)
  /-- `save_post_handler`, until the endpoint is stored -/
  | portalRequest (body : Text)
  /-- the rest of it -/
  | portalPost
  /-- `parse_opcua_endpoint_json` -/
  | uartMessage (message : UartMessage)
  /-- `endpoint_event_handler` -/
  | deliver
  /-- `apply_received_endpoint_async`, until the endpoint is stored -/
  | runAsyncCall (place : ℕ)
  /-- the second part of `save_and_apply_endpoint` -/
  | apply

namespace EndpointSystem

/-- The task of LVGL is free, and nothing keeps the portal from stopping. -/
def idle (system : EndpointSystem) : Bool :=
  system.applying.isNone && system.portalSave.isNone

/-- A new save of an endpoint. -/
def newSave (system : EndpointSystem) (endpoint : Endpoint) : Save :=
  ⟨system.saves, endpoint⟩

def withContext (system : EndpointSystem) (context : Option SettingsContext) : EndpointSystem :=
  { system with context }

/-- `settings_config_save_opcua_endpoint` for a valid endpoint, within `save_and_apply_endpoint`. -/
def beginApplying (system : EndpointSystem) (save : Save) (fromDialog : Bool) : EndpointSystem :=
  { system with stored := save.endpoint.text, applying := some ⟨save, fromDialog⟩ }

/-- `apply_opcua_endpoint` and what depends on its result. -/
def finishApplying (system : EndpointSystem) (applying : Applying) : EndpointSystem :=
  let save := applying.save
  let configured := system.client.setEndpoint (some save.endpoint.text.text)
  if configured.1 ≠ .ok then { system with applying := none }
  else
    { system with
      client := configured.2
      context :=
        if applying.fromDialog then
          system.context.map fun context => { context with dialog := false }
        else system.context
      applying := none
      answered := if applying.fromDialog then system.answered ++ [save] else system.answered
      applied := system.applied ++ [save] }

def step (system : EndpointSystem) : EndpointEvent → Option EndpointSystem
  | .openSettings address =>
      if system.context = none ∧ system.applying = none then
        some { system with context := some { address }, client := system.client.pause }
      else none
  | .closeSettings =>
      if system.context ≠ none ∧ system.idle then
        some { system with context := none, portalRunning := false, client := system.client.resume }
      else none
  | .activate portalStarts =>
      match system.context with
      | none => none
      | some context =>
          if system.applying = none ∧ context.active = false then
            some
              { system with
                context := some { context with active := true }
                portalRunning := system.portalRunning || portalStarts }
          else none
  | .deactivate =>
      match system.context with
      | none => none
      | some context =>
          if system.idle ∧ context.active then
            some
              { system with
                context := some { context with active := false }
                portalRunning := false }
          else none
  | .refreshPortal wifiConnected portalStarts =>
      if system.idle ∧ system.context.any SettingsContext.active then
        some
          { system with
            portalRunning := wifiConnected && (system.portalRunning || portalStarts) }
      else none
  | .openDialog =>
      if system.applying = none then
        system.context.map fun context =>
          system.withContext (some { context with dialog := true })
      else none
  | .closeDialog =>
      if system.applying = none then
        system.context.map fun context =>
          system.withContext (some { context with dialog := false })
      else none
  | .saveDialog endpoint =>
      if system.applying = none ∧ system.context.any SettingsContext.dialog then
        match Endpoint.check endpoint with
        | none => some system
        | some endpoint =>
            some
              { system.beginApplying (system.newSave endpoint) true with
                saves := system.saves + 1 }
      else none
  | .portalRequest body =>
      if system.portalRunning ∧ system.portalSave = none then
        match (parseForm body).toOption.bind Endpoint.check with
        | none => some system
        | some endpoint =>
            some
              { system with
                stored := endpoint.text
                portalSave := some (system.newSave endpoint)
                saves := system.saves + 1 }
      else none
  | .portalPost =>
      system.portalSave.map fun save =>
        { system with
          portalSave := none
          events := system.events ++ [save]
          answered := system.answered ++ [save] }
  | .uartMessage message =>
      match message.parse with
      | none => some system
      | some endpoint =>
          some
            { system with
              events := system.events ++ [system.newSave endpoint]
              saves := system.saves + 1
              answered := system.answered ++ [system.newSave endpoint] }
  | .deliver =>
      match system.events with
      | [] => none
      | save :: events =>
          match system.context with
          -- without the page there is no handler
          | none => some { system with events }
          | some context =>
              some
                { system with
                  events
                  asyncCalls := system.asyncCalls ++ [(context.address, save)] }
  | .runAsyncCall place =>
      if system.applying = none then
        system.asyncCalls[place]?.map fun call =>
          let called := { system with asyncCalls := system.asyncCalls.eraseIdx place }
          if system.context.map SettingsContext.address = some call.1 then
            called.beginApplying call.2 false
          else called
      else none
  | .apply => system.applying.map system.finishApplying

/-- Nothing has happened to the endpoint yet. -/
structure Start (system : EndpointSystem) : Prop where
  agreed : system.stored = system.client.endpointUrl
  closed : system.context = none ∧ system.portalRunning = false
  quiet : system.portalSave = none ∧ system.events = [] ∧ system.asyncCalls = [] ∧
    system.applying = none
  fresh : system.answered = []

def machine : Machine EndpointSystem EndpointEvent where
  start := Start
  step := step

/-- No event is undelivered, no asynchronous call is due, and no save is in progress. -/
def Quiet (system : EndpointSystem) : Prop :=
  system.events = [] ∧ system.asyncCalls = [] ∧ system.portalSave = none ∧ system.applying = none

/-- An update finds the page it needs: an event its handler, an asynchronous call the context it was
made for. -/
def UpdateKept (system : EndpointSystem) : EndpointEvent → Prop
  | .deliver => system.context.isSome
  | .runAsyncCall place =>
      ∀ call ∈ system.asyncCalls[place]?,
        system.context.map SettingsContext.address = some call.1
  | _ => True

instance (system : EndpointSystem) : ∀ event, Decidable (system.UpdateKept event)
  | .deliver => inferInstanceAs (Decidable (system.context.isSome = true))
  | .runAsyncCall place =>
      inferInstanceAs (Decidable (∀ call ∈ system.asyncCalls[place]?,
        system.context.map SettingsContext.address = some call.1))
  | .openSettings _ | .closeSettings | .activate _ | .deactivate | .refreshPortal _ _ | .openDialog
  | .closeDialog | .saveDialog _ | .portalRequest _ | .portalPost | .uartMessage _ | .apply =>
      inferInstanceAs (Decidable True)

/-! ## The invariant -/

variable {system next : EndpointSystem}

/-- An update is on its way to the task of LVGL. -/
def Owed (system : EndpointSystem) : Prop :=
  system.portalSave ≠ none ∨ system.events ≠ [] ∨ system.asyncCalls ≠ []

/-- The save is on its way to the client. -/
def UnderWay (system : EndpointSystem) (save : Save) : Prop :=
  save ∈ system.events ∨ save ∈ system.asyncCalls.map Prod.snd ∨
    ∃ applying, system.applying = some applying ∧ applying.save = save

/-- What holds as long as no update is dropped. -/
structure Agreeing (system : EndpointSystem) : Prop where
  stored : system.applying = none → system.stored = system.client.endpointUrl ∨ system.Owed
  storing : ∀ applying, system.applying = some applying →
    system.stored = applying.save.endpoint.text ∨ system.Owed
  answered : ∀ save ∈ system.answered, save ∈ system.applied ∨ system.UnderWay save

/-- Only the endpoints and what is on its way matter. -/
theorem Agreeing.congr (hagreeing : system.Agreeing) (hstored : next.stored = system.stored)
    (hclient : next.client.endpointUrl = system.client.endpointUrl)
    (hportal : next.portalSave = system.portalSave) (hevents : next.events = system.events)
    (hcalls : next.asyncCalls = system.asyncCalls) (happlying : next.applying = system.applying)
    (hanswered : next.answered = system.answered) (happlied : next.applied = system.applied) :
    next.Agreeing := by
  have howed : next.Owed ↔ system.Owed := by rw [Owed, hportal, hevents, hcalls, Owed]
  refine ⟨?_, ?_, ?_⟩
  · rw [happlying, hstored, hclient, howed]
    exact hagreeing.stored
  · rw [happlying, hstored, howed]
    exact hagreeing.storing
  · simp only [UnderWay, hanswered, happlied, hevents, hcalls, happlying]
    exact hagreeing.answered

/-- While an update is on its way, only the answered saves matter. -/
theorem Agreeing.of_owed (howed : next.Owed)
    (hanswered : ∀ save ∈ next.answered, save ∈ next.applied ∨ next.UnderWay save) :
    next.Agreeing :=
  ⟨fun _ => .inr howed, fun _ _ => .inr howed, hanswered⟩

/-- A client accepts every valid endpoint. -/
theorem setEndpoint_valid (client : ClientControl) (endpoint : Endpoint) :
    client.setEndpoint (some endpoint.text.text) =
      (.ok, { client with endpointUrl := endpoint.text, reconnectRequested := true }) := by
  have hscheme : ¬endpoint.text.text.take 10 ≠ ascii "opc.tcp://" := not_not.mpr endpoint.scheme
  have hfits : ¬endpointLength ≤ endpoint.text.text.length := Nat.not_le.mpr endpoint.text.fits
  simp only [ClientControl.setEndpoint, if_neg hscheme, if_neg hfits, CharArray.ofText_self]

/-- An endpoint that has been stored by the task of LVGL is configured next. -/
theorem Agreeing.finishApplying (hagreeing : system.Agreeing) {applying : Applying}
    (happlying : system.applying = some applying) : (system.finishApplying applying).Agreeing := by
  unfold EndpointSystem.finishApplying
  dsimp only
  rw [setEndpoint_valid, if_neg (by simp)]
  refine ⟨fun _ => hagreeing.storing applying happlying, fun _ hother => ?_, fun save hsave => ?_⟩
  · cases hother
  · have hdone : save = applying.save → save ∈ system.applied ++ [applying.save] := by
      rintro rfl
      exact List.mem_append_right _ (List.mem_singleton.mpr rfl)
    have hold : save ∈ system.answered ∨ save = applying.save := by
      split at hsave
      · simpa using hsave
      · exact .inl hsave
    rcases hold with hold | hnew
    · rcases hagreeing.answered save hold with hdone | hevent | hcall | ⟨other, hother, rfl⟩
      · exact .inl (List.mem_append_left _ hdone)
      · exact .inr (.inl hevent)
      · exact .inr (.inr (.inl hcall))
      · obtain rfl := Option.some.inj (happlying.symm.trans hother)
        exact .inl (hdone rfl)
    · exact .inl (hdone hnew)

/-- The task of LVGL has stored an endpoint; what is on its way elsewhere still is. -/
theorem Agreeing.beginApplying (hagreeing : system.Agreeing) (hidle : system.applying = none)
    {save : Save} {fromDialog : Bool} :
    (system.beginApplying save fromDialog).Agreeing := by
  refine ⟨fun hnone => (by cases hnone), fun applying happlying => ?_, fun other hother => ?_⟩
  · obtain rfl := Option.some.inj happlying
    exact .inl rfl
  · rcases hagreeing.answered other hother with hdone | hevent | hcall | ⟨applying, hsome, -⟩
    · exact .inl hdone
    · exact .inr (.inl hevent)
    · exact .inr (.inr (.inl hcall))
    · cases hidle.symm.trans hsome

/-- A call in its context takes its save from the calls that are due to the client. -/
theorem Agreeing.runAsyncCall (hagreeing : system.Agreeing) (hidle : system.applying = none)
    {place : ℕ} {call : ℕ × Save} (hcall : system.asyncCalls[place]? = some call) :
    ({ system with asyncCalls := system.asyncCalls.eraseIdx place }.beginApplying call.2
      false).Agreeing := by
  refine ⟨fun hnone => (by cases hnone), fun applying happlying => ?_, fun save hsave => ?_⟩
  · obtain rfl := Option.some.inj happlying
    exact .inl rfl
  · rcases hagreeing.answered save hsave with hdone | hevent | hdue | ⟨applying, hsome, -⟩
    · exact .inl hdone
    · exact .inr (.inl hevent)
    · obtain ⟨due, hmem, rfl⟩ := List.mem_map.mp hdue
      obtain ⟨hplace, rfl⟩ := List.getElem?_eq_some_iff.mp hcall
      have hsplit := (List.getElem_cons_eraseIdx_perm hplace).mem_iff.mpr hmem
      rcases List.mem_cons.mp hsplit with rfl | hrest
      · exact .inr (.inr (.inr ⟨_, rfl, rfl⟩))
      · exact .inr (.inr (.inl (List.mem_map_of_mem hrest)))
    · cases hidle.symm.trans hsome

/-- More events leave on its way what was. -/
theorem UnderWay.mono {save : Save} (hsave : system.UnderWay save)
    (hevents : system.events ⊆ next.events) (hcalls : next.asyncCalls = system.asyncCalls)
    (happlying : next.applying = system.applying) : next.UnderWay save := by
  rcases hsave with hevent | hcall | happly
  · exact .inl (hevents hevent)
  · exact .inr (.inl (hcalls ▸ hcall))
  · exact .inr (.inr (happlying ▸ happly))

/-- A save is posted as an event and answered. -/
theorem Agreeing.post (hagreeing : system.Agreeing) {save : Save}
    (hevents : next.events = system.events ++ [save])
    (hanswered : next.answered = system.answered ++ [save]) (happlied : next.applied = system.applied)
    (hcalls : next.asyncCalls = system.asyncCalls) (happlying : next.applying = system.applying) :
    next.Agreeing := by
  have hposted : next.events ≠ [] := by simp [hevents]
  refine .of_owed (.inr (.inl hposted)) fun other hother => ?_
  rw [hanswered] at hother
  rw [happlied]
  rcases List.mem_append.mp hother with hold | hnew
  · have hsubset : system.events ⊆ next.events := by
      rw [hevents]
      exact List.subset_append_left _ _
    exact (hagreeing.answered other hold).imp_right fun hway =>
      hway.mono hsubset hcalls happlying
  · refine .inr (.inl ?_)
    rw [hevents]
    exact List.mem_append_right _ hnew

/-- A delivered event becomes an asynchronous call; the other updates stay where they are. -/
theorem Agreeing.deliver (hagreeing : system.Agreeing) {save : Save} {events : List Save}
    (hevents : system.events = save :: events) (context : SettingsContext) :
    { system with
      context := some context
      events
      asyncCalls := system.asyncCalls ++ [(context.address, save)] }.Agreeing := by
  refine .of_owed (.inr (.inr (by simp))) fun other hother => ?_
  rcases hagreeing.answered other hother with hdone | hevent | hcall | happlying
  · exact .inl hdone
  · rw [hevents] at hevent
    rcases List.mem_cons.mp hevent with rfl | hrest
    · exact .inr (.inr (.inl (by simp)))
    · exact .inr (.inl hrest)
  · refine .inr (.inr (.inl ?_))
    rw [List.map_append]
    exact List.mem_append_left _ hcall
  · exact .inr (.inr (.inr happlying))

/-- One step, unless it drops an update. -/
theorem Agreeing.step (hagreeing : system.Agreeing) {event : EndpointEvent}
    (hkept : system.UpdateKept event) (hstep : machine.step system event = some next) :
    next.Agreeing := by
  cases event with
  -- what the screen does by itself moves no update
  | openSettings address | closeSettings =>
      simp only [machine, EndpointSystem.step] at hstep
      split at hstep
      · obtain rfl := Option.some.inj hstep
        exact hagreeing.congr rfl rfl rfl rfl rfl rfl rfl rfl
      · cases hstep
  | activate portalStarts | deactivate =>
      simp only [machine, EndpointSystem.step] at hstep
      split at hstep
      · cases hstep
      · split at hstep
        · obtain rfl := Option.some.inj hstep
          exact hagreeing.congr rfl rfl rfl rfl rfl rfl rfl rfl
        · cases hstep
  | refreshPortal wifiConnected portalStarts =>
      simp only [machine, EndpointSystem.step] at hstep
      split at hstep
      · obtain rfl := Option.some.inj hstep
        exact hagreeing.congr rfl rfl rfl rfl rfl rfl rfl rfl
      · cases hstep
  | openDialog | closeDialog =>
      simp only [machine, EndpointSystem.step] at hstep
      split at hstep
      · obtain ⟨context, -, rfl⟩ := Option.map_eq_some_iff.mp hstep
        exact hagreeing.congr rfl rfl rfl rfl rfl rfl rfl rfl
      · cases hstep
  | saveDialog endpoint =>
      simp only [machine, EndpointSystem.step] at hstep
      split at hstep
      · next hguard =>
          split at hstep
          · obtain rfl := Option.some.inj hstep
            exact hagreeing
          · obtain rfl := Option.some.inj hstep
            exact (hagreeing.beginApplying hguard.1).congr rfl rfl rfl rfl rfl rfl rfl rfl
      · cases hstep
  | portalRequest body =>
      simp only [machine, EndpointSystem.step] at hstep
      split at hstep
      · split at hstep
        · obtain rfl := Option.some.inj hstep
          exact hagreeing
        · obtain rfl := Option.some.inj hstep
          -- the save is stored, and its update still to be posted
          refine .of_owed (.inl (by simp)) fun save hsave => ?_
          exact (hagreeing.answered save hsave).imp_right fun hway =>
            hway.mono (List.Subset.refl _) rfl rfl
      · cases hstep
  | portalPost =>
      obtain ⟨posted, -, rfl⟩ := Option.map_eq_some_iff.mp hstep
      exact hagreeing.post rfl rfl rfl rfl rfl
  | uartMessage message =>
      simp only [machine, EndpointSystem.step] at hstep
      split at hstep
      · obtain rfl := Option.some.inj hstep
        exact hagreeing
      · obtain rfl := Option.some.inj hstep
        exact hagreeing.post rfl rfl rfl rfl rfl
  | deliver =>
      obtain ⟨context, hcontext⟩ := Option.isSome_iff_exists.mp hkept
      simp only [machine, EndpointSystem.step, hcontext] at hstep
      split at hstep
      · cases hstep
      · next delivered events hevents =>
          obtain rfl := Option.some.inj hstep
          exact hagreeing.deliver hevents context
  | runAsyncCall place =>
      simp only [machine, EndpointSystem.step] at hstep
      split at hstep
      · next hidle =>
          obtain ⟨call, hcall, rfl⟩ := Option.map_eq_some_iff.mp hstep
          -- an update of a context that is no longer active would be dropped here
          rw [if_pos (hkept call hcall)]
          exact hagreeing.runAsyncCall hidle hcall
      · cases hstep
  | apply =>
      obtain ⟨applying, happlying, rfl⟩ := Option.map_eq_some_iff.mp hstep
      exact hagreeing.finishApplying happlying

theorem Start.agreeing (hstart : system.Start) : system.Agreeing := by
  obtain ⟨-, -, -, hidle⟩ := hstart.quiet
  refine ⟨fun _ => .inl hstart.agreed, fun applying happlying => ?_, fun save hsave => ?_⟩
  · cases hidle.symm.trans happlying
  · rw [hstart.fresh] at hsave
    cases hsave

/-- **Endpoint agreement.**  In every run in which no update misses the page it needs, whenever nothing
is on its way the client is configured with the endpoint in NVS, and every save that was answered with
success has been applied. -/
theorem endpoints_agree (hreached : machine.ReachedBy UpdateKept system) (hquiet : system.Quiet) :
    system.stored = system.client.endpointUrl ∧
      ∀ save ∈ system.answered, save ∈ system.applied := by
  have hagreeing : system.Agreeing := hreached.invariant (fun _ hstart => Start.agreeing hstart)
    fun _ _ _ _ hagreeing hkept hstep => hagreeing.step hkept hstep
  obtain ⟨hevents, hcalls, hportal, hidle⟩ := hquiet
  constructor
  · rcases hagreeing.stored hidle with hagreed | howed
    · exact hagreed
    · rcases howed with howed | howed | howed
      · exact absurd hportal howed
      · exact absurd hevents howed
      · exact absurd hcalls howed
  · intro save hsave
    rcases hagreeing.answered save hsave with hdone | hevent | hcall | ⟨applying, hsome, -⟩
    · exact hdone
    · rw [hevents] at hevent
      cases hevent
    · rw [hcalls] at hcall
      cases hcall
    · cases hidle.symm.trans hsome

/-! ## A page that is closed too early -/

/-- A panel configured with the stored endpoint. -/
private def configured : EndpointSystem where
  stored := .ofText _ (ascii "opc.tcp://old")
  client := { endpointUrl := .ofText _ (ascii "opc.tcp://old") }

private theorem configured_start : machine.start configured :=
  ⟨rfl, ⟨rfl, rfl⟩, ⟨rfl, rfl, rfl, rfl⟩, rfl⟩

/-- A new endpoint is saved through the portal. -/
private def portalSaves : List EndpointEvent :=
  [.openSettings 1, .activate true, .portalRequest (ascii "endpoint=opc.tcp://new"), .portalPost]

/-- The page stays open until the endpoint is configured. -/
private def applies : List EndpointEvent :=
  portalSaves ++ [.deliver, .runAsyncCall 0, .apply]

/-- The page is closed before the event is delivered. -/
private def leaves : List EndpointEvent :=
  portalSaves ++ [.closeSettings, .deliver]

private theorem applies_isSome : (machine.replay configured applies).isSome := by
  decide +kernel

private theorem leaves_isSome : (machine.replay configured leaves).isSome := by
  decide +kernel

private def appliedSystem : EndpointSystem :=
  (machine.replay configured applies).get applies_isSome

private def leftSystem : EndpointSystem :=
  (machine.replay configured leaves).get leaves_isSome

private theorem leftSystem_reachable : machine.Reachable leftSystem :=
  Machine.reachable_of_replay configured_start (Option.some_get leaves_isSome).symm

private theorem appliedSystem_reached : machine.ReachedBy UpdateKept appliedSystem :=
  Machine.ReachedBy.replay (.start configured_start) (by decide +kernel)
    (Option.some_get applies_isSome).symm

theorem endpoints_agree_applied :
    appliedSystem.Quiet ∧ appliedSystem.stored.text = ascii "opc.tcp://new" ∧
      appliedSystem.stored = appliedSystem.client.endpointUrl ∧
        ∀ save ∈ appliedSystem.answered, save ∈ appliedSystem.applied := by
  have hquiet : appliedSystem.Quiet :=
    ⟨by decide +kernel, by decide +kernel, by decide +kernel, by decide +kernel⟩
  exact ⟨hquiet, by decide +kernel, endpoints_agree appliedSystem_reached hquiet⟩

/-- The portal has answered that the endpoint is saved, but the client keeps the old one. -/
theorem left_disagrees :
    machine.Reachable leftSystem ∧ leftSystem.Quiet ∧ leftSystem.answered ≠ [] ∧
      leftSystem.applied = [] ∧ leftSystem.stored.text = ascii "opc.tcp://new" ∧
      leftSystem.client.endpointUrl.text = ascii "opc.tcp://old" ∧
      ¬(leftSystem.stored = leftSystem.client.endpointUrl ∧
        ∀ save ∈ leftSystem.answered, save ∈ leftSystem.applied) := by
  have hquiet : leftSystem.Quiet :=
    ⟨by decide +kernel, by decide +kernel, by decide +kernel, by decide +kernel⟩
  refine ⟨leftSystem_reachable, hquiet, by decide +kernel, by decide +kernel, by decide +kernel,
    by decide +kernel, fun hagreed => ?_⟩
  have hdifferent : leftSystem.stored ≠ leftSystem.client.endpointUrl := by decide +kernel
  exact hdifferent hagreed.1

end EndpointSystem

end CrowPanel.Settings
