import CrowPanel.Settings.PortalResources

/-!
# The settings overlay

The overlay shows one of three sections.  The Wi-Fi section runs the configuration portal, the OpenPLC
section the portal for the endpoint, each with an HTTP server on port 80; the sections are switched by
the task of LVGL, which waits for every call of a portal it makes.  The answers of ESP-IDF, the task
that stops the portal after a form has been saved, and the DNS server come in between.

## Strategy

`Sections` ties what the task of LVGL is doing to the flags of the sections: a start of the portal is
one of this task, and only the Wi-Fi section makes it.  Other tasks only go on with a stop, which
neither starts anything nor lets the portal run (`Portal.Slows`).
-/

namespace CrowPanel.Settings

open Library

/-! ## The overlay -/

/-- `SETTINGS_SECTION_SYSTEM` and so on -/
inductive SettingsSection where
  | system
  | wifi
  | openplc
  deriving DecidableEq

/-- Who has called `config_portal_stop` in the task of LVGL. -/
inductive StopCaller where
  /-- `wifi_menu_deactivate`, for another section, or for the end of the overlay -/
  | deactivate (target : Option SettingsSection)
  /-- `on_connected` -/
  | connected
  /-- `on_disconnected` -/
  | disconnected
  deriving DecidableEq

/-- What the task of LVGL is in the middle of. -/
inductive OverlayTask where
  /-- `start_portal_if_needed` waits for a call of `config_portal_start` -/
  | start (call : Call)
  | stop (call : Call) (caller : StopCaller)
  /-- `on_disconnected`, before `start_portal_if_needed` -/
  | restart
  /-- `wifi_menu_deactivate` has returned to `show_settings_section`, or to
  `settings_overlay_deleted_event` -/
  | deactivated (target : Option SettingsSection)
  deriving DecidableEq

/-- What the calls of ESP-IDF return in `openplc_config_portal_start`. -/
structure PortalAnswers where
  address : Bool := true
  started : Bool := true
  registered : Bool := true
  deriving DecidableEq

structure SettingsOverlay where
  /-- the section that is shown; `none` while there is no overlay -/
  shown : Option SettingsSection := none
  task : Option OverlayTask := none
  /-- `wifi_ctrl_is_connected` -/
  connected : Bool := false
  /-- `wifi_menu_active` -/
  active : Bool := false
  /-- `s_wifi_menu.portal_running` -/
  portalRunning : Bool := false
  /-- `update_timer` is not `NULL` -/
  updateTimer : Bool := false
  /-- the handles of the three event handlers are not `NULL` -/
  handler : Bool := false
  /-- how often the event handlers are registered -/
  registrations : ℕ := 0
  portal : Portal := {}
  /-- `s_context` of `openplc_settings.c`, by its flag `active` -/
  context : Option Bool := none
  /-- `s_server` of `openplc_config_portal.c` is not `NULL` -/
  server : Bool := false
  /-- `s_local_url` of `openplc_config_portal.c` is not empty -/
  localUrl : Bool := false
  deriving DecidableEq

inductive OverlayEvent where
  /-- `open_settings_event` -/
  | openSettings
  /-- `close_settings_event` -/
  | closeSettings
  /-- `settings_section_event` -/
  | selectSection (selected : SettingsSection)
  /-- the task of LVGL goes on after `wifi_menu_deactivate` -/
  | goOn (start refresh : PortalAnswers)
  /-- the call returns that the task of LVGL waits for, and it comes to the next one -/
  | resume (ok : Bool) (next : Option Call)
  /-- `start_portal_if_needed`, of `display_scan_data` or in `on_disconnected`, with what
  `wifi_ctrl_is_connected` says the second time -/
  | startPortal (connected : Bool)
  /-- `on_connected` -/
  | onConnected
  /-- `on_disconnected` -/
  | onDisconnected
  /-- `qr_update_timer_cb`, and whether the portal has a URL in local mode -/
  | qrTimer (addressed : Bool)
  /-- `portal_timer_callback` -/
  | portalTimer (answers : PortalAnswers)
  /-- a step of the portal in another task -/
  | portal (event : PortalEvent)
  /-- the Wi-Fi connects, or disconnects -/
  | wifi (connected : Bool)
  deriving DecidableEq

namespace SettingsOverlay

/-! ### The portal for the endpoint -/

/-- `openplc_config_portal_stop` -/
def stopOpenplc (overlay : SettingsOverlay) : SettingsOverlay :=
  { overlay with server := false, localUrl := false }

/-- `openplc_config_portal_start`; its server needs the port. -/
def startOpenplc (overlay : SettingsOverlay) (answers : PortalAnswers) : SettingsOverlay :=
  if overlay.server then overlay
  else if !overlay.connected || !answers.address then overlay
  else
    let overlay := { overlay with localUrl := true }
    if !answers.started || overlay.portal.httpServer then overlay
    else if !answers.registered then overlay.stopOpenplc
    else { overlay with server := true }

/-- `refresh_portal` -/
def refreshPortal (overlay : SettingsOverlay) (answers : PortalAnswers) : SettingsOverlay :=
  if overlay.context ≠ some true then overlay
  else if !overlay.connected && overlay.server then overlay.stopOpenplc
  else if !overlay.server && overlay.connected then overlay.startOpenplc answers
  else overlay

/-- `openplc_settings_activate` -/
def activateOpenplc (overlay : SettingsOverlay) (start refresh : PortalAnswers) : SettingsOverlay :=
  if overlay.context ≠ some false then overlay
  else ({ overlay with context := some true }.startOpenplc start).refreshPortal refresh

/-- `openplc_settings_deactivate` -/
def deactivateOpenplc (overlay : SettingsOverlay) : SettingsOverlay :=
  if overlay.context ≠ some true then overlay
  else { overlay with context := some false }.stopOpenplc

/-! ### The Wi-Fi menu -/

/-- What follows a stop of the portal. -/
def afterStop (overlay : SettingsOverlay) : StopCaller → SettingsOverlay
  | .deactivate target =>
      { overlay with portalRunning := false, task := some (.deactivated target) }
  | .connected => { overlay with portalRunning := false, updateTimer := false, task := none }
  | .disconnected => { overlay with portalRunning := false, task := some .restart }

/-- `config_portal_stop` in the task of LVGL -/
def stopPortal (overlay : SettingsOverlay) (caller : StopCaller) : SettingsOverlay :=
  let stopping := { overlay with portal := overlay.portal.stop }
  if overlay.portal.running then { stopping with task := some (.stop .httpdStop caller) }
  else stopping.afterStop caller

/-- The call that a start waits for first. -/
def firstCall (connected : Bool) : Call :=
  if connected then .localNetif else .apNetif

/-- `start_portal_if_needed`, until it waits -/
def startPortalIfNeeded (overlay : SettingsOverlay) (connected : Bool) : SettingsOverlay :=
  if !overlay.active || overlay.connected then { overlay with task := none }
  else if overlay.portal.running then { overlay with portalRunning := true, task := none }
  else
    let starting :=
      { overlay with portalRunning := false, portal := overlay.portal.startRuntime connected }
    if overlay.portal.starting then { starting with task := none }
    else { starting with task := some (.start (firstCall connected)) }

/-- The rest of `start_portal_if_needed`. -/
def portalStarted (overlay : SettingsOverlay) : SettingsOverlay :=
  { overlay with
    portalRunning := overlay.portal.running
    updateTimer := overlay.portal.running || overlay.updateTimer
    task := none }

/-- `qr_update_timer_cb` waits for the portal's URL. -/
def keepsTimer (overlay : SettingsOverlay) (addressed : Bool) : Bool :=
  overlay.portal.running &&
    match overlay.portal.accessMode with
    | some .localMode => !addressed
    | some .ap => false
    | none => true

/-- `esp_event_handler_instance_register` for the three handlers, over the handles of before; it does not
fail. -/
def register (overlay : SettingsOverlay) : SettingsOverlay :=
  { overlay with handler := true, registrations := overlay.registrations + 1 }

/-- `esp_event_handler_instance_unregister` for the handles there are. -/
def unregister (overlay : SettingsOverlay) : SettingsOverlay :=
  { overlay with
    handler := false
    registrations := if overlay.handler then overlay.registrations - 1 else overlay.registrations }

/-- `wifi_menu_activate` -/
def activateWifiMenu (overlay : SettingsOverlay) : SettingsOverlay :=
  if overlay.active then overlay
  else if overlay.handler then { overlay with active := true }
  else { overlay.register with active := true }

/-- `wifi_menu_deactivate`, until it waits -/
def deactivateWifiMenu (overlay : SettingsOverlay) (target : Option SettingsSection) :
    SettingsOverlay :=
  if !overlay.active then { overlay with task := some (.deactivated target) }
  else
    let inactive := { overlay.unregister with active := false, updateTimer := false }
    if overlay.portalRunning || overlay.portal.running then inactive.stopPortal (.deactivate target)
    else { inactive with task := some (.deactivated target) }

/-- `wifi_menu_create` -/
def createWifiMenu (overlay : SettingsOverlay) : SettingsOverlay :=
  { overlay.register with portalRunning := false, updateTimer := false }

/-! ### The sections -/

/-- `show_settings_section`, until it waits -/
def showSection (overlay : SettingsOverlay) (selected : SettingsSection) : SettingsOverlay :=
  let showing := { overlay with shown := some selected }
  if selected = .wifi then showing.deactivateOpenplc.activateWifiMenu
  else showing.deactivateWifiMenu (some selected)

/-- The rest of `show_settings_section`, or of the end of the overlay. -/
def afterDeactivate (overlay : SettingsOverlay) (start refresh : PortalAnswers) :
    Option SettingsSection → SettingsOverlay
  | none => { overlay.deactivateOpenplc with shown := none, context := none, task := none }
  | some .openplc => { overlay.activateOpenplc start refresh with task := none }
  | some _ => { overlay.deactivateOpenplc with task := none }

/-- A call returns that the task of LVGL waits for: the next one, or the end of the start or stop. -/
def resume (overlay : SettingsOverlay) (ok : Bool) (next : Option Call) (call : Call)
    (waits : Call → OverlayTask) (finish : SettingsOverlay → SettingsOverlay) :
    Option SettingsOverlay :=
  -- no server of the portal while the other one has the port
  if call.opensServer && ok && overlay.server then none
  else
    (overlay.portal.step (.resume call ok)).bind fun portal =>
      match next with
      | some next =>
          if portal.calls = next ::ₘ overlay.portal.calls.erase call then
            some { overlay with portal, task := some (waits next) }
          else none
      | none =>
          if portal.calls = overlay.portal.calls.erase call then some (finish { overlay with portal })
          else none

/-- The call that the task of LVGL waits for. -/
def ownCall (overlay : SettingsOverlay) : Multiset Call :=
  match overlay.task with
  | some (.start call) | some (.stop call _) => {call}
  | _ => 0

/-- A step of the portal that another task may make. -/
def Elsewhere (overlay : SettingsOverlay) : PortalEvent → Prop
  | .start _ => False
  | .resume call _ => call ∈ overlay.portal.calls - overlay.ownCall
  | .stop | .stopAsync | .dnsTask _ => True

instance (overlay : SettingsOverlay) : ∀ event, Decidable (overlay.Elsewhere event)
  | .start _ => inferInstanceAs (Decidable False)
  | .resume call _ => inferInstanceAs (Decidable (call ∈ overlay.portal.calls - overlay.ownCall))
  | .stop | .stopAsync | .dnsTask _ => inferInstanceAs (Decidable True)

def step (overlay : SettingsOverlay) : OverlayEvent → Option SettingsOverlay
  | .openSettings =>
      if overlay.task = none ∧ overlay.shown = none then
        some ({ overlay.createWifiMenu with context := some false }.showSection .system)
      else none
  | .closeSettings =>
      if overlay.task = none ∧ overlay.shown ≠ none then some (overlay.deactivateWifiMenu none)
      else none
  | .selectSection selected =>
      if overlay.task = none ∧ overlay.shown ≠ none then some (overlay.showSection selected) else none
  | .goOn start refresh =>
      match overlay.task with
      | some (.deactivated target) => some (overlay.afterDeactivate start refresh target)
      | _ => none
  | .resume ok next =>
      match overlay.task with
      | some (.start call) => overlay.resume ok next call .start portalStarted
      | some (.stop call caller) =>
          overlay.resume ok next call (.stop · caller) fun stopped => stopped.afterStop caller
      | _ => none
  | .startPortal connected =>
      if overlay.task = none ∨ overlay.task = some .restart then
        some (overlay.startPortalIfNeeded connected)
      else none
  | .onConnected =>
      if overlay.task ≠ none then none
      else if !overlay.active then some overlay
      else if overlay.portal.running then some (overlay.stopPortal .connected)
      else some (overlay.afterStop .connected)
  | .onDisconnected =>
      if overlay.task ≠ none then none
      else if !overlay.active then some overlay
      else if overlay.portalRunning then some (overlay.stopPortal .disconnected)
      else some { overlay with task := some .restart }
  | .qrTimer addressed =>
      if overlay.task = none ∧ overlay.updateTimer = true then
        some { overlay with updateTimer := overlay.keepsTimer addressed }
      else none
  | .portalTimer answers =>
      if overlay.task = none ∧ overlay.context ≠ none then some (overlay.refreshPortal answers)
      else none
  | .portal event =>
      if overlay.Elsewhere event then
        (overlay.portal.step event).map fun portal => { overlay with portal }
      else none
  | .wifi connected => some { overlay with connected }

/-- There is no overlay, and the portal is off. -/
def machine : Machine SettingsOverlay OverlayEvent where
  start overlay := overlay = {}
  step := step

end SettingsOverlay

/-! ## The portal, seen from the overlay -/

namespace Portal

variable {portal next : Portal} {event : PortalEvent} {call : Call} {ok : Bool}

/-- The calls of starts in progress. -/
def startCalls (portal : Portal) : Multiset Call :=
  portal.calls.filter fun call => call.isStop = false

theorem startCalls_await_stop (hstop : call.isStop = true) :
    (portal.await call).startCalls = portal.startCalls := by
  simp [startCalls, hstop]

theorem startCalls_await_start (hstart : call.isStop = false) :
    (portal.await call).startCalls = call ::ₘ portal.startCalls := by
  simp [startCalls, hstart]

/-- A call leads to another one of the same start or stop, or to its end.  Only a start makes the portal
run, and at the end of a stop it does not. -/
structure Resumes (portal : Portal) (call : Call) (next : Portal) : Prop where
  calls : next.calls = portal.calls ∨
    ∃ other, next.calls = other ::ₘ portal.calls ∧ other.isStop = call.isStop
  running : next.running = true → portal.running = true ∨ call.isStop = false
  stopped : call.isStop = true → next.calls = portal.calls → next.running = false

theorem Resumes.awaits {after : Portal} {other : Call} (hcalls : after.calls = portal.calls)
    (hrunning : after.running = portal.running) (hkind : other.isStop = call.isStop) :
    portal.Resumes call (after.await other) where
  calls := .inr ⟨other, by rw [await_calls, hcalls], hkind⟩
  running := fun hnext => .inl (hrunning ▸ hnext)
  stopped := by
    intro _ hsame
    rw [await_calls, hcalls] at hsame
    exact absurd (congrArg Multiset.card hsame) (by simp)

theorem Resumes.ends (hstart : call.isStop = false) (hcalls : next.calls = portal.calls) :
    portal.Resumes call next where
  calls := .inl hcalls
  running := fun _ => .inr hstart
  stopped := by
    intro hstop
    rw [hstart] at hstop
    cases hstop

theorem Resumes.stops (hrunning : next.running = false) (hcalls : next.calls = portal.calls) :
    portal.Resumes call next where
  calls := .inl hcalls
  running := by simp [hrunning]
  stopped := fun _ _ => hrunning

theorem resumes_of_resume (hresume : portal.resume ok call = some next) :
    portal.Resumes call next := by
  cases call with
  | httpdStop =>
      simp only [resume, Option.some.injEq] at hresume
      subst hresume
      split_ifs
      · exact .awaits rfl rfl rfl
      · exact .stops rfl rfl
  | setModeSta =>
      simp only [resume, Option.some.injEq] at hresume
      subst hresume
      split_ifs
      · exact .stops rfl rfl
      · exact .stops rfl rfl
  | httpdStart mode =>
      obtain ⟨-, rfl⟩ | ⟨-, -, rfl⟩ := resume_httpdStart hresume
      · exact .ends rfl rfl
      · exact .awaits rfl rfl rfl
  | register mode uri uris =>
      simp only [resume, Option.some.injEq] at hresume
      subst hresume
      split_ifs
      · exact .ends rfl rfl
      · cases uris with
        | cons => exact .awaits rfl rfl rfl
        | nil =>
            cases mode with
            | ap => exact .awaits rfl rfl rfl
            | localMode => exact .ends rfl rfl
  | _ =>
      simp only [resume, Option.some.injEq] at hresume
      subst hresume
      split_ifs
      all_goals first
        | exact .awaits rfl rfl rfl
        | exact .ends rfl rfl

end Portal

/-- A step of another task: it makes no start, and the portal does not begin to run. -/
structure Portal.Slows (portal next : Portal) : Prop where
  startCalls : next.startCalls = portal.startCalls
  running : next.running = true → portal.running = true

namespace SettingsOverlay

variable {overlay next : SettingsOverlay} {event : OverlayEvent}

/-! ## The sections -/

/-- What holds while the task of LVGL is in the middle of something. -/
def During (overlay : SettingsOverlay) : Option OverlayTask → Prop
  | none =>
      overlay.portal.startCalls = 0 ∧ (overlay.portal.running = true → overlay.active = true) ∧
        (overlay.context = some true → overlay.shown = some .openplc)
  | some (.start call) =>
      overlay.active = true ∧ call.isStop = false ∧ overlay.portal.startCalls = {call}
  | some (.stop call (.deactivate target)) =>
      call.isStop = true ∧ overlay.portal.startCalls = 0 ∧ overlay.active = false ∧
        overlay.context ≠ some true ∧ ∀ selected ∈ target, overlay.shown = some selected
  | some (.stop call _) =>
      call.isStop = true ∧ overlay.portal.startCalls = 0 ∧ overlay.active = true
  | some .restart => overlay.portal.startCalls = 0 ∧ overlay.active = true
  | some (.deactivated target) =>
      overlay.portal.startCalls = 0 ∧ overlay.active = false ∧ overlay.portal.running = false ∧
        ∀ selected ∈ target, overlay.shown = some selected

/-- The task of LVGL and the flags of the sections. -/
structure Sections (overlay : SettingsOverlay) : Prop where
  during : overlay.During overlay.task
  wifi : overlay.active = true → overlay.shown = some .wifi ∧ overlay.context ≠ some true
  server : overlay.server = true → overlay.context = some true
  timer : overlay.updateTimer = true → overlay.active = true

theorem During.congr {task : Option OverlayTask} (hduring : overlay.During task)
    (hportal : next.portal = overlay.portal) (hactive : next.active = overlay.active)
    (hcontext : next.context = overlay.context) (hshown : next.shown = overlay.shown) :
    next.During task := by
  rcases task with _ | _ | ⟨_, _ | _ | _⟩ | _ | _
  all_goals
    simp only [During, hportal, hactive, hcontext, hshown]
    exact hduring

theorem Sections.unchanged (hsections : overlay.Sections) {portal : Portal}
    (hslows : overlay.portal.Slows portal) : Sections { overlay with portal } := by
  refine ⟨?_, hsections.wifi, hsections.server, hsections.timer⟩
  have hduring := hsections.during
  have hcalls := hslows.startCalls
  cases htask : overlay.task with
  | none =>
      rw [htask] at hduring
      exact ⟨hcalls.trans hduring.1, fun hrunning => hduring.2.1 (hslows.running hrunning),
        hduring.2.2⟩
  | some task =>
      rw [htask] at hduring
      cases task with
      | start call => exact ⟨hduring.1, hduring.2.1, hcalls.trans hduring.2.2⟩
      | stop call caller =>
          cases caller with
          | deactivate target => exact ⟨hduring.1, hcalls.trans hduring.2.1, hduring.2.2⟩
          | connected => exact ⟨hduring.1, hcalls.trans hduring.2.1, hduring.2.2⟩
          | disconnected => exact ⟨hduring.1, hcalls.trans hduring.2.1, hduring.2.2⟩
      | restart => exact ⟨hcalls.trans hduring.1, hduring.2⟩
      | deactivated target =>
          obtain ⟨hnone, hactive, hrunning, hshown⟩ := hduring
          refine ⟨hcalls.trans hnone, hactive, ?_, hshown⟩
          by_contra hnext
          exact absurd (hslows.running (by simpa using hnext)) (by simp [hrunning])

/-- The starts in progress are those of the task of LVGL. -/
theorem Sections.startCalls_le (hsections : overlay.Sections) :
    overlay.portal.startCalls ≤ overlay.ownCall := by
  have hduring := hsections.during
  unfold ownCall
  cases htask : overlay.task with
  | none =>
      rw [htask] at hduring
      exact hduring.1.le
  | some task =>
      rw [htask] at hduring
      cases task with
      | start call => exact hduring.2.2.le
      | stop call caller =>
          have hnone : overlay.portal.startCalls = 0 := by
            cases caller with
            | deactivate target => exact hduring.2.1
            | connected => exact hduring.2.1
            | disconnected => exact hduring.2.1
          rw [hnone]
          exact Multiset.zero_le _
      | restart => exact hduring.1.le
      | deactivated target => exact hduring.1.le

/-- Another task can only go on with a stop. -/
theorem Sections.slows (hsections : overlay.Sections) {event : PortalEvent} {portal : Portal}
    (helsewhere : overlay.Elsewhere event) (hstep : overlay.portal.step event = some portal) :
    overlay.portal.Slows portal := by
  cases Portal.stepKind_of_step hstep with
  | idle => exact ⟨rfl, id⟩
  | begins => exact helsewhere.elim
  | cancels => exact ⟨rfl, id⟩
  | closes => exact ⟨Portal.startCalls_await_stop rfl, id⟩
  | dns => exact ⟨rfl, id⟩
  | @resume rest _ call ok hportal hresume =>
      have hmem : call ∈ overlay.portal.calls - overlay.ownCall := helsewhere
      have hstop : call.isStop = true := by
        by_contra hstart
        have hleft : call ∈ (overlay.portal.calls - overlay.ownCall).filter
            fun call => call.isStop = false :=
          Multiset.mem_filter.mpr ⟨hmem, by simpa using hstart⟩
        have hown : overlay.portal.startCalls ≤
            overlay.ownCall.filter fun call => call.isStop = false :=
          Multiset.le_filter.mpr
            ⟨hsections.startCalls_le, fun other hother => (Multiset.mem_filter.mp hother).2⟩
        rw [Multiset.filter_sub] at hleft
        have hnone : overlay.portal.startCalls -
            (overlay.ownCall.filter fun call => call.isStop = false) = 0 :=
          Multiset.le_zero.mp (Multiset.sub_le_iff_le_add.mpr (by simpa using hown))
        exact Multiset.notMem_zero call (hnone ▸ hleft)
      have hresumes := Portal.resumes_of_resume hresume
      refine ⟨?_, fun hrunning => ?_⟩
      · have hbefore : overlay.portal.startCalls = rest.startCalls := by
          rw [hportal, Portal.startCalls_await_stop hstop]
        rw [hbefore]
        rcases hresumes.calls with hcalls | ⟨other, hcalls, hkind⟩
        · simp only [Portal.startCalls, hcalls]
        · simp [Portal.startCalls, hcalls, hkind, hstop]
      · rw [hportal]
        rcases hresumes.running hrunning with hsame | hstart
        · exact hsame
        · rw [hstop] at hstart
          cases hstart

/-! ### The portal for the endpoint -/

/-- The section for the endpoint changes nothing but its own server and URL. -/
structure Serves (overlay next : SettingsOverlay) : Prop where
  same : next = { overlay with server := next.server, localUrl := next.localUrl }
  server : next.server = true → overlay.server = true ∨ overlay.context = some true

theorem startOpenplc_serves (overlay : SettingsOverlay) (answers : PortalAnswers)
    (hactive : overlay.context = some true) : overlay.Serves (overlay.startOpenplc answers) := by
  unfold startOpenplc
  dsimp only
  split_ifs
  · exact ⟨rfl, .inl⟩
  · exact ⟨rfl, .inl⟩
  · exact ⟨rfl, .inl⟩
  · exact ⟨rfl, fun _ => .inr hactive⟩
  · exact ⟨rfl, fun _ => .inr hactive⟩

theorem refreshPortal_serves (overlay : SettingsOverlay) (answers : PortalAnswers) :
    overlay.Serves (overlay.refreshPortal answers) := by
  unfold refreshPortal
  split_ifs with hactive
  · exact ⟨rfl, .inl⟩
  · exact ⟨rfl, fun hserver => by cases hserver⟩
  · exact overlay.startOpenplc_serves answers (not_not.mp hactive)
  · exact ⟨rfl, .inl⟩

theorem Serves.trans {middle : SettingsOverlay} (hfirst : overlay.Serves middle)
    (hsecond : middle.Serves next) : overlay.Serves next := by
  have hcontext : middle.context = overlay.context := by rw [hfirst.same]
  refine ⟨?_, fun hserver => ?_⟩
  · rw [hsecond.same, hfirst.same]
  · rcases hsecond.server hserver with hmiddle | hactive
    · exact hfirst.server hmiddle
    · exact .inr (hcontext ▸ hactive)

theorem Sections.serves (hsections : overlay.Sections) (hserves : overlay.Serves next) :
    next.Sections := by
  rw [hserves.same]
  refine ⟨hsections.during.congr rfl rfl rfl rfl, hsections.wifi, fun hserver => ?_,
    hsections.timer⟩
  · rcases hserves.server hserver with hbefore | hactive
    · exact hsections.server hbefore
    · exact hactive

/-! ### Leaving the Wi-Fi section -/

theorem stopPortal_sections (caller : StopCaller) (hnone : overlay.portal.startCalls = 0)
    (hduring : ∀ portal : Portal, portal.startCalls = 0 →
      During { overlay with portal } (some (.stop .httpdStop caller)))
    (hafter : ∀ portal : Portal, portal.startCalls = 0 → portal.running = false →
      Sections (afterStop { overlay with portal } caller))
    (hwifi : overlay.active = true → overlay.shown = some .wifi ∧ overlay.context ≠ some true)
    (hserver : overlay.server = true → overlay.context = some true)
    (htimer : overlay.updateTimer = true → overlay.active = true) :
    Sections (overlay.stopPortal caller) := by
  have hslows : overlay.portal.Slows overlay.portal.stop := by
    unfold Portal.stop
    split_ifs
    · exact ⟨rfl, id⟩
    · exact ⟨rfl, id⟩
    · exact ⟨Portal.startCalls_await_stop rfl, id⟩
  have hcalls := hslows.startCalls.trans hnone
  unfold stopPortal
  dsimp only
  split
  · exact ⟨hduring _ hcalls, hwifi, hserver, htimer⟩
  · next hrunning =>
      refine hafter _ hcalls ?_
      by_contra hnext
      exact hrunning (hslows.running (by simpa using hnext))

theorem deactivateWifiMenu_sections {target : Option SettingsSection}
    (hnone : overlay.portal.startCalls = 0)
    (hrunning : overlay.portal.running = true → overlay.active = true)
    (hcontext : overlay.active = true → overlay.context ≠ some true)
    (hserver : overlay.server = true → overlay.context = some true)
    (htimer : overlay.updateTimer = true → overlay.active = true)
    (hshown : ∀ selected ∈ target, overlay.shown = some selected) :
    Sections (overlay.deactivateWifiMenu target) := by
  unfold deactivateWifiMenu
  dsimp only
  split_ifs with hinactive hstops
  · rw [Bool.not_eq_true'] at hinactive
    have hoff : overlay.portal.running = false := by
      by_contra hon
      exact absurd (hrunning (by simpa using hon)) (by simp [hinactive])
    refine ⟨⟨hnone, hinactive, hoff, hshown⟩, fun hactive => ?_, hserver, htimer⟩
    exact absurd hactive (by simp [hinactive])
  · have hactive : overlay.active = true := by simpa using hinactive
    have hother := hcontext hactive
    refine stopPortal_sections _ hnone ?_ ?_ ?_ hserver ?_
    · exact fun portal hportal => ⟨rfl, hportal, rfl, hother, hshown⟩
    · intro portal hportal hoff
      refine ⟨⟨hportal, rfl, hoff, hshown⟩, ?_, hserver, ?_⟩
      · rintro ⟨⟩
      · rintro ⟨⟩
    · rintro ⟨⟩
    · rintro ⟨⟩
  · rw [Bool.or_eq_true, not_or, Bool.not_eq_true, Bool.not_eq_true] at hstops
    refine ⟨⟨hnone, rfl, hstops.2, hshown⟩, ?_, hserver, ?_⟩
    · rintro ⟨⟩
    · rintro ⟨⟩

/-! ### The steps of the task of LVGL -/

theorem deactivateOpenplc_context (overlay : SettingsOverlay) :
    overlay.deactivateOpenplc.context ≠ some true := by
  unfold deactivateOpenplc
  split_ifs with hactive
  · exact hactive
  · simp [stopOpenplc]

theorem deactivateOpenplc_server (hserver : overlay.server = true → overlay.context = some true) :
    overlay.deactivateOpenplc.server = false := by
  unfold deactivateOpenplc
  split_ifs with hactive
  · by_contra hon
    exact hactive (hserver (by simpa using hon))
  · rfl

/-- The section for the endpoint leaves the rest of the overlay alone. -/
theorem deactivateOpenplc_same (overlay : SettingsOverlay) :
    overlay.deactivateOpenplc =
      { overlay with
        context := overlay.deactivateOpenplc.context
        server := overlay.deactivateOpenplc.server
        localUrl := overlay.deactivateOpenplc.localUrl } := by
  unfold deactivateOpenplc
  split_ifs
  · rfl
  · rfl

theorem Sections.showSection (hsections : overlay.Sections) (htask : overlay.task = none)
    (selected : SettingsSection) : Sections (overlay.showSection selected) := by
  have hduring := hsections.during
  rw [htask] at hduring
  obtain ⟨hnone, hrunning, hopenplc⟩ := hduring
  unfold SettingsOverlay.showSection
  dsimp only
  split_ifs with hwifi
  · subst hwifi
    have hcontext := deactivateOpenplc_context { overlay with shown := some .wifi }
    have hoff : (deactivateOpenplc { overlay with shown := some .wifi }).server = false :=
      deactivateOpenplc_server hsections.server
    rw [deactivateOpenplc_same]
    generalize (deactivateOpenplc { overlay with shown := some .wifi }).context = context at *
    generalize (deactivateOpenplc { overlay with shown := some .wifi }).server = server at *
    subst hoff
    have hkept : ∀ active handler registrations, active = true → Sections
        { overlay with
          shown := some .wifi
          context := context
          server := false
          localUrl := (deactivateOpenplc { overlay with shown := some .wifi }).localUrl
          active := active
          handler := handler
          registrations := registrations } := by
      intro active handler registrations hactive
      refine ⟨?_, fun _ => ⟨rfl, hcontext⟩, ?_, fun _ => hactive⟩
      · show During _ overlay.task
        rw [htask]
        exact ⟨hnone, fun _ => hactive, fun hopen => absurd hopen hcontext⟩
      · rintro ⟨⟩
    unfold activateWifiMenu
    split_ifs with hactive
    · exact hkept _ _ _ hactive
    · exact hkept _ _ _ rfl
    · exact hkept _ _ _ rfl
  · refine deactivateWifiMenu_sections hnone hrunning (fun hactive => (hsections.wifi hactive).2)
      hsections.server hsections.timer ?_
    rintro _ ⟨⟩
    rfl

theorem Sections.openSettings (hsections : overlay.Sections) (htask : overlay.task = none)
    (hclosed : overlay.shown = none) :
    Sections ({ overlay.createWifiMenu with context := some false }.showSection .system) := by
  have hduring := hsections.during
  rw [htask] at hduring
  obtain ⟨hnone, hrunning, hopenplc⟩ := hduring
  have hinactive : overlay.active = false := by
    by_contra hactive
    exact absurd ((hsections.wifi (by simpa using hactive)).1.symm.trans hclosed) (by simp)
  have hoff : overlay.server = false := by
    by_contra hserver
    have hshown := hopenplc (hsections.server (by simpa using hserver))
    exact absurd (hshown.symm.trans hclosed) (by simp)
  have hcreated : Sections { overlay.createWifiMenu with context := some false } := by
    refine ⟨?_, fun hactive => ?_, fun hserver => ?_, ?_⟩
    · show During _ overlay.task
      rw [htask]
      refine ⟨hnone, hrunning, ?_⟩
      rintro ⟨⟩
    · exact absurd (hinactive.symm.trans hactive) (by simp)
    · exact absurd (hoff.symm.trans hserver) (by simp)
    · rintro ⟨⟩
  exact hcreated.showSection htask .system

theorem Sections.closeSettings (hsections : overlay.Sections) (htask : overlay.task = none) :
    Sections (overlay.deactivateWifiMenu none) := by
  have hduring := hsections.during
  rw [htask] at hduring
  refine deactivateWifiMenu_sections hduring.1 hduring.2.1
    (fun hactive => (hsections.wifi hactive).2) hsections.server hsections.timer ?_
  rintro _ ⟨⟩

theorem Sections.afterDeactivate (hsections : overlay.Sections)
    {target : Option SettingsSection} (htask : overlay.task = some (.deactivated target))
    (start refresh : PortalAnswers) : Sections (overlay.afterDeactivate start refresh target) := by
  have hduring := hsections.during
  rw [htask] at hduring
  obtain ⟨hnone, hinactive, hoff, hshown⟩ := hduring
  have hrunning : overlay.portal.running = true → overlay.active = true := by simp [hoff]
  have hwifi : ∀ {claim : Prop}, overlay.active = true → claim := by simp [hinactive]
  have hclosed := deactivateOpenplc_server hsections.server
  have hcontext := overlay.deactivateOpenplc_context
  cases target with
  | none =>
      simp only [SettingsOverlay.afterDeactivate]
      rw [deactivateOpenplc_same, hclosed]
      refine ⟨⟨hnone, hrunning, ?_⟩, hwifi, ?_, hsections.timer⟩
      · rintro ⟨⟩
      · rintro ⟨⟩
  | some selected =>
      have hleft : Sections { overlay.deactivateOpenplc with task := none } := by
        rw [deactivateOpenplc_same, hclosed]
        refine ⟨⟨hnone, hrunning, fun hopen => absurd hopen hcontext⟩, hwifi, ?_, hsections.timer⟩
        rintro ⟨⟩
      cases selected with
      | system => exact hleft
      | wifi => exact hleft
      | openplc =>
          simp only [SettingsOverlay.afterDeactivate]
          unfold activateOpenplc
          split_ifs with hcreated
          · exact ⟨⟨hnone, hrunning, fun _ => hshown _ rfl⟩, hwifi, hsections.server,
              hsections.timer⟩
          · have hserves := (startOpenplc_serves { overlay with context := some true } start rfl).trans
              (refreshPortal_serves _ refresh)
            rw [hserves.same]
            exact ⟨⟨hnone, hrunning, fun _ => hshown _ rfl⟩, hwifi, fun _ => rfl, hsections.timer⟩

theorem startCalls_startRuntime {portal : Portal} (hrunning : ¬portal.running = true)
    (hstarting : ¬portal.starting = true) (connected : Bool) :
    (firstCall connected).isStop = false ∧
      (portal.startRuntime connected).startCalls = firstCall connected ::ₘ portal.startCalls := by
  unfold Portal.startRuntime firstCall
  rw [if_neg hrunning, if_neg hstarting]
  cases connected with
  | false => exact ⟨rfl, Portal.startCalls_await_start rfl⟩
  | true => exact ⟨rfl, Portal.startCalls_await_start rfl⟩

/-- `start_portal_if_needed` is called in the Wi-Fi section, or it does nothing. -/
theorem Sections.startPortal (hsections : overlay.Sections)
    (htask : overlay.task = none ∨ overlay.task = some .restart) (connected : Bool) :
    Sections (overlay.startPortalIfNeeded connected) := by
  have hduring := hsections.during
  have hkinds : overlay.portal.startCalls = 0 ∧
      (overlay.portal.running = true → overlay.active = true) ∧
        (overlay.context = some true → overlay.shown = some .openplc) := by
    rcases htask with htask | htask
    · rw [htask] at hduring
      exact hduring
    · rw [htask] at hduring
      refine ⟨hduring.1, fun _ => hduring.2, fun hopen => ?_⟩
      exact absurd hopen (hsections.wifi hduring.2).2
  obtain ⟨hnone, hrunning, hopenplc⟩ := hkinds
  unfold startPortalIfNeeded
  dsimp only
  split_ifs with hneeded hon hstarting
  · exact ⟨⟨hnone, hrunning, hopenplc⟩, hsections.wifi, hsections.server, hsections.timer⟩
  · exact ⟨⟨hnone, hrunning, hopenplc⟩, hsections.wifi, hsections.server, hsections.timer⟩
  · have hsame : overlay.portal.startRuntime connected = overlay.portal := by
      unfold Portal.startRuntime
      rw [if_neg hon, if_pos hstarting]
    rw [hsame]
    exact ⟨⟨hnone, hrunning, hopenplc⟩, hsections.wifi, hsections.server, hsections.timer⟩
  · have hactive : overlay.active = true := by
      by_contra hinactive
      exact hneeded (by simp [hinactive])
    obtain ⟨hfirst, hcalls⟩ := startCalls_startRuntime hon hstarting connected
    refine ⟨⟨hactive, hfirst, ?_⟩, hsections.wifi, hsections.server, hsections.timer⟩
    rw [hcalls, hnone]
    rfl

theorem Sections.onConnected (hsections : overlay.Sections) (htask : overlay.task = none)
    (hactive : overlay.active = true) :
    Sections (overlay.stopPortal .connected) ∧
      (overlay.portal.running = false → Sections (overlay.afterStop .connected)) := by
  have hduring := hsections.during
  rw [htask] at hduring
  obtain ⟨hnone, -, hopenplc⟩ := hduring
  have hafter : ∀ portal : Portal, portal.startCalls = 0 →
      Sections (afterStop { overlay with portal } .connected) := by
    intro portal hcalls
    refine ⟨⟨hcalls, fun _ => hactive, hopenplc⟩, hsections.wifi, hsections.server, ?_⟩
    rintro ⟨⟩
  refine ⟨?_, fun _ => hafter _ hnone⟩
  refine stopPortal_sections _ hnone ?_ ?_ hsections.wifi hsections.server hsections.timer
  · exact fun portal hcalls => ⟨rfl, hcalls, hactive⟩
  · exact fun portal hcalls _ => hafter portal hcalls

theorem Sections.onDisconnected (hsections : overlay.Sections) (htask : overlay.task = none)
    (hactive : overlay.active = true) :
    Sections (overlay.stopPortal .disconnected) ∧ Sections { overlay with task := some .restart } := by
  have hduring := hsections.during
  rw [htask] at hduring
  obtain ⟨hnone, -, -⟩ := hduring
  refine ⟨?_, ⟨hnone, hactive⟩, hsections.wifi, hsections.server, hsections.timer⟩
  refine stopPortal_sections _ hnone ?_ ?_ hsections.wifi hsections.server hsections.timer
  · exact fun portal hcalls => ⟨rfl, hcalls, hactive⟩
  · exact fun portal hcalls _ =>
      ⟨⟨hcalls, hactive⟩, hsections.wifi, hsections.server, hsections.timer⟩

/-- What the return of a call does: the start or stop goes on to the next call, or it ends. -/
theorem resume_eq_some {ok : Bool} {after : Option Call} {call : Call} {waits : Call → OverlayTask}
    {finish : SettingsOverlay → SettingsOverlay}
    (hresume : overlay.resume ok after call waits finish = some next) :
    ∃ rest portal : Portal, overlay.portal = rest.await call ∧ rest.resume ok call = some portal ∧
      ((∃ other, portal.calls = other ::ₘ rest.calls ∧
          next = { overlay with portal, task := some (waits other) }) ∨
        (portal.calls = rest.calls ∧ next = finish { overlay with portal })) := by
  unfold SettingsOverlay.resume at hresume
  split_ifs at hresume
  obtain ⟨portal, hstep, hnext⟩ := Option.bind_eq_some_iff.mp hresume
  obtain ⟨rest, hrest, hportal⟩ := Portal.step_resume hstep
  have herase : overlay.portal.calls.erase call = rest.calls := by
    rw [hrest, Portal.await_calls, Multiset.erase_cons_head]
  rw [herase] at hnext
  refine ⟨rest, portal, hrest, hportal, ?_⟩
  cases after with
  | none =>
      obtain ⟨hcalls, hnext⟩ := Option.ite_none_right_eq_some.mp hnext
      exact .inr ⟨hcalls, (Option.some.inj hnext).symm⟩
  | some other =>
      obtain ⟨hcalls, hnext⟩ := Option.ite_none_right_eq_some.mp hnext
      exact .inl ⟨other, hcalls, (Option.some.inj hnext).symm⟩

/-- The next call is one of the same start or stop. -/
theorem isStop_next {rest portal : Portal} {call other : Call} (hresumes : rest.Resumes call portal)
    (hcalls : portal.calls = other ::ₘ rest.calls) : other.isStop = call.isStop := by
  rcases hresumes.calls with hsame | ⟨another, hanother, hkind⟩
  · exact absurd (congrArg Multiset.card (hsame.symm.trans hcalls)) (by simp)
  · rw [← (Multiset.cons_inj_left _).mp (hanother.symm.trans hcalls), hkind]

theorem Sections.resumeStart (hsections : overlay.Sections) {ok : Bool} {after : Option Call}
    {call : Call} (htask : overlay.task = some (.start call))
    (hresume : overlay.resume ok after call .start portalStarted = some next) : next.Sections := by
  have hduring := hsections.during
  rw [htask] at hduring
  obtain ⟨hactive, hstart, hcalls⟩ := hduring
  obtain ⟨rest, portal, hrest, hportal, hnext⟩ := resume_eq_some hresume
  have hresumes := Portal.resumes_of_resume hportal
  have hnone : rest.startCalls = 0 := by
    rw [hrest, Portal.startCalls_await_start hstart] at hcalls
    exact (Multiset.cons_inj_right call).mp hcalls
  rcases hnext with ⟨other, hother, rfl⟩ | ⟨hsame, rfl⟩
  · have hkind := (isStop_next hresumes hother).trans hstart
    refine ⟨⟨hactive, hkind, ?_⟩, hsections.wifi, hsections.server, hsections.timer⟩
    have hnext : portal.startCalls = other ::ₘ rest.startCalls := by
      simp [Portal.startCalls, hother, hkind]
    rw [hnext, hnone]
    rfl
  · have hended : portal.startCalls = 0 := by
      rw [← hnone]
      simp only [Portal.startCalls, hsame]
    refine ⟨⟨hended, fun _ => hactive, fun hopen => ?_⟩, hsections.wifi, hsections.server,
      fun _ => hactive⟩
    exact absurd hopen (hsections.wifi hactive).2

theorem Sections.resumeStop (hsections : overlay.Sections) {ok : Bool} {after : Option Call}
    {call : Call} {caller : StopCaller} (htask : overlay.task = some (.stop call caller))
    (hresume : overlay.resume ok after call (.stop · caller) (fun stopped => stopped.afterStop caller) =
      some next) : next.Sections := by
  have hduring := hsections.during
  rw [htask] at hduring
  obtain ⟨rest, portal, hrest, hportal, hnext⟩ := resume_eq_some hresume
  have hresumes := Portal.resumes_of_resume hportal
  have hkinds : call.isStop = true ∧ overlay.portal.startCalls = 0 := by
    cases caller with
    | deactivate target => exact ⟨hduring.1, hduring.2.1⟩
    | connected => exact ⟨hduring.1, hduring.2.1⟩
    | disconnected => exact ⟨hduring.1, hduring.2.1⟩
  obtain ⟨hstop, hcalls⟩ := hkinds
  have hnone : rest.startCalls = 0 := by
    rwa [hrest, Portal.startCalls_await_stop hstop] at hcalls
  rcases hnext with ⟨other, hother, rfl⟩ | ⟨hsame, rfl⟩
  · have hkind := (isStop_next hresumes hother).trans hstop
    have hnext : portal.startCalls = 0 := by
      rw [← hnone]
      simp [Portal.startCalls, hother, hkind]
    refine ⟨?_, hsections.wifi, hsections.server, hsections.timer⟩
    cases caller with
    | deactivate target => exact ⟨hkind, hnext, hduring.2.2⟩
    | connected => exact ⟨hkind, hnext, hduring.2.2⟩
    | disconnected => exact ⟨hkind, hnext, hduring.2.2⟩
  · have hoff := hresumes.stopped hstop hsame
    have hnext : portal.startCalls = 0 := by
      rw [← hnone]
      simp only [Portal.startCalls, hsame]
    cases caller with
    | deactivate target =>
        obtain ⟨-, -, hinactive, -, hshown⟩ := hduring
        exact ⟨⟨hnext, hinactive, hoff, hshown⟩, hsections.wifi, hsections.server, hsections.timer⟩
    | connected =>
        refine ⟨⟨hnext, fun _ => hduring.2.2, fun hopen => ?_⟩, hsections.wifi, hsections.server, ?_⟩
        · exact absurd hopen (hsections.wifi hduring.2.2).2
        · rintro ⟨⟩
    | disconnected =>
        exact ⟨⟨hnext, hduring.2.2⟩, hsections.wifi, hsections.server, hsections.timer⟩

theorem Sections.step (hsections : overlay.Sections) (hstep : overlay.step event = some next) :
    next.Sections := by
  cases event with
  | openSettings =>
      obtain ⟨⟨htask, hclosed⟩, hnext⟩ := Option.ite_none_right_eq_some.mp hstep
      obtain rfl := Option.some.inj hnext
      exact hsections.openSettings htask hclosed
  | closeSettings =>
      obtain ⟨⟨htask, -⟩, hnext⟩ := Option.ite_none_right_eq_some.mp hstep
      obtain rfl := Option.some.inj hnext
      exact hsections.closeSettings htask
  | selectSection selected =>
      obtain ⟨⟨htask, -⟩, hnext⟩ := Option.ite_none_right_eq_some.mp hstep
      obtain rfl := Option.some.inj hnext
      exact hsections.showSection htask selected
  | goOn start refresh =>
      simp only [SettingsOverlay.step] at hstep
      split at hstep
      · next target htask =>
          obtain rfl := Option.some.inj hstep
          exact hsections.afterDeactivate htask start refresh
      · cases hstep
  | resume ok after =>
      simp only [SettingsOverlay.step] at hstep
      split at hstep
      · next call htask => exact hsections.resumeStart htask hstep
      · next call caller htask => exact hsections.resumeStop htask hstep
      · cases hstep
  | startPortal connected =>
      obtain ⟨htask, hnext⟩ := Option.ite_none_right_eq_some.mp hstep
      obtain rfl := Option.some.inj hnext
      exact hsections.startPortal htask connected
  | onConnected =>
      simp only [SettingsOverlay.step] at hstep
      split_ifs at hstep with hbusy hinactive hrunning
      · exact Option.some.inj hstep ▸ hsections
      all_goals
        have hactive : overlay.active = true := by simpa using hinactive
        obtain ⟨hstop, hafter⟩ := hsections.onConnected (not_not.mp hbusy) hactive
        obtain rfl := Option.some.inj hstep
      · exact hstop
      · exact hafter (by simpa using hrunning)
  | onDisconnected =>
      simp only [SettingsOverlay.step] at hstep
      split_ifs at hstep with hbusy hinactive hrunning
      · exact Option.some.inj hstep ▸ hsections
      all_goals
        have hactive : overlay.active = true := by simpa using hinactive
        obtain ⟨hstop, hafter⟩ := hsections.onDisconnected (not_not.mp hbusy) hactive
        obtain rfl := Option.some.inj hstep
      · exact hstop
      · exact hafter
  | qrTimer addressed =>
      obtain ⟨⟨-, htimer⟩, hnext⟩ := Option.ite_none_right_eq_some.mp hstep
      obtain rfl := Option.some.inj hnext
      exact ⟨hsections.during.congr rfl rfl rfl rfl, hsections.wifi, hsections.server,
        fun _ => hsections.timer htimer⟩
  | portalTimer answers =>
      obtain ⟨-, hnext⟩ := Option.ite_none_right_eq_some.mp hstep
      obtain rfl := Option.some.inj hnext
      exact hsections.serves (overlay.refreshPortal_serves answers)
  | portal event =>
      obtain ⟨helsewhere, hnext⟩ := Option.ite_none_right_eq_some.mp hstep
      obtain ⟨portal, hportal, rfl⟩ := Option.map_eq_some_iff.mp hnext
      exact hsections.unchanged (hsections.slows helsewhere hportal)
  | wifi connected =>
      obtain rfl := Option.some.inj hstep
      exact ⟨hsections.during.congr rfl rfl rfl rfl, hsections.wifi, hsections.server,
        hsections.timer⟩

theorem sections_of_reached {ok : SettingsOverlay → OverlayEvent → Prop}
    (hreached : machine.ReachedBy ok overlay) : overlay.Sections := by
  refine hreached.invariant ?_ fun _ _ _ _ hsections _ hstep => hsections.step hstep
  rintro overlay rfl
  refine ⟨⟨rfl, ?_, ?_⟩, ?_, ?_, ?_⟩ <;> rintro ⟨⟩

end SettingsOverlay

end CrowPanel.Settings
