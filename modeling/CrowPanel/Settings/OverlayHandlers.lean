import CrowPanel.Settings.SettingsOverlay

/-!
# The event handlers of the Wi-Fi menu

`wifi_menu_create` registers the handlers of the Wi-Fi menu, `wifi_menu_activate` those that are not
there, and `wifi_menu_deactivate` takes them back if the menu is active.  Beside the overlay the file
keeps an account of the overlays that never showed the Wi-Fi section.

## Strategy

`Handlers` says how many registrations there are while an overlay is open, before and after it has shown
the section, and when it is closed.  Most steps leave all of that alone (`step_leaves`).
-/

namespace CrowPanel.Settings

open Library

namespace SettingsOverlay

variable {overlay next : SettingsOverlay} {event : OverlayEvent}

/-! ## The account -/

/-- What has become of the event handlers of the overlays so far. -/
structure Visits where
  /-- the Wi-Fi section has been shown since the overlay was opened -/
  visited : Bool := false
  /-- the overlays that were closed without having shown it -/
  missed : ℕ := 0
  deriving DecidableEq

def Visits.note (overlay : SettingsOverlay) (event : OverlayEvent) (visits : Visits) : Visits :=
  match event with
  | .openSettings => { visits with visited := false }
  | .selectSection .wifi => { visits with visited := true }
  | .goOn _ _ =>
      if overlay.task = some (.deactivated none) ∧ visits.visited = false then
        { visits with missed := visits.missed + 1 }
      else visits
  | _ => visits

/-- The runs of the overlay, with the visits of the Wi-Fi section. -/
def visiting : Machine (SettingsOverlay × Visits) OverlayEvent :=
  machine.withHistory {} Visits.note

/-- There is no overlay, and nothing goes on of the last one. -/
def Closed (overlay : SettingsOverlay) : Prop :=
  overlay.shown = none ∧ overlay.active = false ∧ overlay.task = none

/-- The registrations of the event handlers, while the overlay is open and after that. -/
structure Handlers (overlay : SettingsOverlay) (visits : Visits) : Prop where
  opened : overlay.shown ≠ none →
    overlay.registrations = visits.missed + if overlay.handler then 1 else 0
  closed : overlay.shown = none → overlay.registrations = visits.missed ∧ overlay.Closed
  /-- until the Wi-Fi section is shown, the handlers are those of `wifi_menu_create` -/
  unvisited : overlay.shown ≠ none → visits.visited = false →
    overlay.handler = true ∧ overlay.active = false
  /-- and from then on they follow the section -/
  visited : overlay.shown ≠ none → visits.visited = true → overlay.handler = overlay.active

/-! ## Steps that leave the handlers alone -/

/-- A step leaves the event handlers as they are. -/
structure Leaves (overlay next : SettingsOverlay) : Prop where
  shown : next.shown = overlay.shown
  active : next.active = overlay.active
  handler : next.handler = overlay.handler
  registrations : next.registrations = overlay.registrations
  closed : overlay.Closed → next.Closed

theorem Handlers.leaves {visits : Visits} (hhandlers : overlay.Handlers visits)
    (hleaves : overlay.Leaves next) : next.Handlers visits := by
  obtain ⟨hopened, hclosed, hunvisited, hvisited⟩ := hhandlers
  obtain ⟨hshown, hactive, hhandler, hregistrations, hstays⟩ := hleaves
  rw [← hshown, ← hhandler, ← hregistrations] at hopened
  rw [← hshown, ← hhandler, ← hactive] at hunvisited hvisited
  refine ⟨hopened, fun hnone => ?_, hunvisited, hvisited⟩
  obtain ⟨hmissed, hidle⟩ := hclosed (hshown ▸ hnone)
  exact ⟨hregistrations.trans hmissed, hstays hidle⟩

theorem Serves.leaves (hserves : overlay.Serves next) : overlay.Leaves next := by
  rw [hserves.same]
  exact ⟨rfl, rfl, rfl, rfl, id⟩

theorem Leaves.trans {middle : SettingsOverlay} (hfirst : overlay.Leaves middle)
    (hsecond : middle.Leaves next) : overlay.Leaves next where
  shown := hsecond.shown.trans hfirst.shown
  active := hsecond.active.trans hfirst.active
  handler := hsecond.handler.trans hfirst.handler
  registrations := hsecond.registrations.trans hfirst.registrations
  closed := fun hclosed => hsecond.closed (hfirst.closed hclosed)

theorem leaves_of_busy (hbusy : ¬overlay.Closed)
    (hshown : next.shown = overlay.shown) (hactive : next.active = overlay.active)
    (hhandler : next.handler = overlay.handler)
    (hregistrations : next.registrations = overlay.registrations) : overlay.Leaves next :=
  ⟨hshown, hactive, hhandler, hregistrations, fun hclosed => absurd hclosed hbusy⟩

theorem not_closed_of_task (hbusy : overlay.task ≠ none) : ¬overlay.Closed := by
  rintro ⟨-, -, hidle⟩
  exact hbusy hidle

theorem not_closed_of_active (hactive : overlay.active = true) : ¬overlay.Closed := by
  rintro ⟨-, hinactive, -⟩
  exact absurd (hactive.symm.trans hinactive) (by decide)

theorem afterStop_leaves (hbusy : ¬overlay.Closed)
    (caller : StopCaller) : overlay.Leaves (overlay.afterStop caller) := by
  cases caller with
  | deactivate target => exact leaves_of_busy hbusy rfl rfl rfl rfl
  | connected => exact leaves_of_busy hbusy rfl rfl rfl rfl
  | disconnected => exact leaves_of_busy hbusy rfl rfl rfl rfl

theorem stopPortal_leaves (hbusy : ¬overlay.Closed)
    (caller : StopCaller) : overlay.Leaves (overlay.stopPortal caller) := by
  unfold stopPortal
  dsimp only
  split
  · exact leaves_of_busy hbusy rfl rfl rfl rfl
  · have hstopped : overlay.Leaves { overlay with portal := overlay.portal.stop } :=
      leaves_of_busy hbusy rfl rfl rfl rfl
    exact hstopped.trans
      (@afterStop_leaves { overlay with portal := overlay.portal.stop } hbusy caller)

theorem startPortalIfNeeded_leaves (overlay : SettingsOverlay) (connected : Bool) :
    overlay.Leaves (overlay.startPortalIfNeeded connected) := by
  unfold startPortalIfNeeded
  dsimp only
  split_ifs with hneeded
  · exact ⟨rfl, rfl, rfl, rfl, fun hclosed => ⟨hclosed.1, hclosed.2.1, rfl⟩⟩
  all_goals
    have hactive : overlay.active = true := by
      by_contra hinactive
      exact hneeded (by simp [hinactive])
    exact leaves_of_busy (not_closed_of_active hactive) rfl rfl rfl rfl

theorem resume_leaves {ok : Bool} {after : Option Call} {call : Call} {waits : Call → OverlayTask}
    {finish : SettingsOverlay → SettingsOverlay} (hbusy : ¬overlay.Closed)
    (hfinish : ∀ {overlay : SettingsOverlay}, ¬overlay.Closed → overlay.Leaves (finish overlay))
    (hresume : overlay.resume ok after call waits finish = some next) : overlay.Leaves next := by
  obtain ⟨rest, portal, -, -, ⟨other, -, rfl⟩ | ⟨-, rfl⟩⟩ := resume_eq_some hresume
  · exact leaves_of_busy hbusy rfl rfl rfl rfl
  · have hportal : overlay.Leaves { overlay with portal } :=
      leaves_of_busy hbusy rfl rfl rfl rfl
    exact hportal.trans (hfinish hbusy)

/-- Only the events of the overlay itself change the event handlers. -/
theorem step_leaves (hopen : event ≠ .openSettings) (hclose : event ≠ .closeSettings)
    (hselect : ∀ selected, event ≠ .selectSection selected)
    (hgoOn : ∀ start refresh, event ≠ .goOn start refresh)
    (hstep : overlay.step event = some next) : overlay.Leaves next := by
  cases event with
  | openSettings => exact absurd rfl hopen
  | closeSettings => exact absurd rfl hclose
  | selectSection selected => exact absurd rfl (hselect selected)
  | goOn start refresh => exact absurd rfl (hgoOn start refresh)
  | resume ok after =>
      simp only [step] at hstep
      split at hstep
      · next call htask =>
          have hbusy := not_closed_of_task (by rw [htask]; exact Option.some_ne_none _)
          have hfinish : ∀ {overlay : SettingsOverlay}, ¬overlay.Closed →
              overlay.Leaves overlay.portalStarted :=
            fun hbusy => leaves_of_busy hbusy rfl rfl rfl rfl
          exact resume_leaves hbusy hfinish hstep
      · next call caller htask =>
          have hbusy := not_closed_of_task (by rw [htask]; exact Option.some_ne_none _)
          exact resume_leaves hbusy (fun hbusy => afterStop_leaves hbusy caller) hstep
      · cases hstep
  | startPortal connected =>
      obtain ⟨-, hnext⟩ := Option.ite_none_right_eq_some.mp hstep
      obtain rfl := Option.some.inj hnext
      exact overlay.startPortalIfNeeded_leaves connected
  | onConnected | onDisconnected =>
      simp only [step] at hstep
      split_ifs at hstep with hbusy hinactive
      all_goals obtain rfl := Option.some.inj hstep
      · exact ⟨rfl, rfl, rfl, rfl, id⟩
      all_goals
        have hactive : overlay.active = true := by simpa using hinactive
      · exact stopPortal_leaves (not_closed_of_active hactive) _
      · exact leaves_of_busy (not_closed_of_active hactive) rfl rfl rfl rfl
  | qrTimer addressed =>
      obtain ⟨-, hnext⟩ := Option.ite_none_right_eq_some.mp hstep
      obtain rfl := Option.some.inj hnext
      exact ⟨rfl, rfl, rfl, rfl, id⟩
  | portalTimer answers =>
      obtain ⟨-, hnext⟩ := Option.ite_none_right_eq_some.mp hstep
      obtain rfl := Option.some.inj hnext
      exact (overlay.refreshPortal_serves answers).leaves
  | portal portalEvent =>
      obtain ⟨-, hnext⟩ := Option.ite_none_right_eq_some.mp hstep
      obtain ⟨portal, -, rfl⟩ := Option.map_eq_some_iff.mp hnext
      exact ⟨rfl, rfl, rfl, rfl, id⟩
  | wifi connected =>
      obtain rfl := Option.some.inj hstep
      exact ⟨rfl, rfl, rfl, rfl, id⟩

theorem deactivateOpenplc_leaves (overlay : SettingsOverlay) :
    overlay.Leaves overlay.deactivateOpenplc := by
  rw [deactivateOpenplc_same]
  exact ⟨rfl, rfl, rfl, rfl, id⟩

/-! ## The steps of the overlay -/

/-- The overlay is left with the handlers of a section that is not shown. -/
theorem Handlers.deactivateWifiMenu {visits : Visits} (hhandlers : overlay.Handlers visits)
    (hshown : overlay.shown ≠ none) (target : Option SettingsSection) :
    Handlers (overlay.deactivateWifiMenu target) visits := by
  obtain ⟨hopened, -, hunvisited, hvisited⟩ := hhandlers
  unfold SettingsOverlay.deactivateWifiMenu
  dsimp only
  split_ifs with hinactive hstops
  · exact ⟨hopened, fun hnone => absurd hnone hshown, hunvisited, hvisited⟩
  all_goals
    have hactive : overlay.active = true := by simpa using hinactive
    have hon : visits.visited = true := by
      by_contra hoff
      have := hunvisited hshown (by simpa using hoff)
      exact absurd (hactive.symm.trans this.2) (by decide)
    have hhandler : overlay.handler = true := (hvisited hshown hon).trans hactive
    have hmissed : overlay.registrations - 1 = visits.missed := by
      rw [hopened hshown, if_pos hhandler]
      rfl
    have hleft : Handlers { overlay.unregister with active := false, updateTimer := false } visits := by
      refine ⟨fun _ => ?_, fun hnone => absurd hnone hshown, fun _ hoff => ?_, fun _ _ => rfl⟩
      · simp only [unregister, if_pos hhandler]
        exact hmissed
      · exact absurd (hon.symm.trans hoff) (by decide)
  · have hbusy : ¬Closed { overlay.unregister with active := false, updateTimer := false } := by
      rintro ⟨hnone, -, -⟩
      exact hshown hnone
    exact hleft.leaves (stopPortal_leaves hbusy _)
  · exact ⟨hleft.opened, fun hnone => absurd hnone hshown, hleft.unvisited, hleft.visited⟩

theorem Handlers.activateWifiMenu {visits : Visits} (hhandlers : overlay.Handlers visits)
    (hshown : overlay.shown ≠ none) :
    Handlers overlay.activateWifiMenu { visits with visited := true } := by
  obtain ⟨hopened, -, hunvisited, hvisited⟩ := hhandlers
  have hcount := hopened hshown
  unfold SettingsOverlay.activateWifiMenu
  split_ifs with hactive hhandler
  · have hhandler : overlay.handler = true := by
      cases hon : visits.visited with
      | false => exact (hunvisited hshown hon).1
      | true => exact (hvisited hshown hon).trans hactive
    refine ⟨fun _ => hcount, fun hnone => absurd hnone hshown, ?_, fun _ _ => ?_⟩
    · rintro - ⟨⟩
    · rw [hhandler, hactive]
  · refine ⟨fun _ => hcount, fun hnone => absurd hnone hshown, ?_, fun _ _ => hhandler⟩
    rintro - ⟨⟩
  · rw [if_neg hhandler] at hcount
    refine ⟨fun _ => ?_, fun hnone => absurd hnone hshown, ?_, fun _ _ => rfl⟩
    · show overlay.registrations + 1 = visits.missed + 1
      rw [hcount]
    · rintro - ⟨⟩

theorem Handlers.showSection {visits : Visits} (hhandlers : overlay.Handlers visits)
    (hshown : overlay.shown ≠ none) (selected : SettingsSection) :
    Handlers (overlay.showSection selected)
      (visits.note overlay (.selectSection selected)) := by
  have hshowing : Handlers { overlay with shown := some selected } visits :=
    ⟨fun _ => hhandlers.opened hshown, fun hnone => absurd hnone (Option.some_ne_none _),
      fun _ => hhandlers.unvisited hshown, fun _ => hhandlers.visited hshown⟩
  have hsome : (some selected) ≠ none := Option.some_ne_none _
  unfold SettingsOverlay.showSection
  dsimp only
  split_ifs with hwifi
  · subst hwifi
    have hclosed := deactivateOpenplc_leaves { overlay with shown := some .wifi }
    refine (hshowing.leaves hclosed).activateWifiMenu ?_
    rw [hclosed.shown]
    exact hsome
  · have hnote : visits.note overlay (.selectSection selected) = visits := by
      cases selected with
      | system => rfl
      | wifi => exact absurd rfl hwifi
      | openplc => rfl
    rw [hnote]
    exact hshowing.deactivateWifiMenu hsome _

theorem Handlers.openSettings {visits : Visits} (hhandlers : overlay.Handlers visits)
    (hnone : overlay.shown = none) :
    Handlers ({ overlay.createWifiMenu with context := some false }.showSection .system)
      { visits with visited := false } := by
  obtain ⟨hmissed, -, hinactive, -⟩ := hhandlers.closed hnone
  have hsome : some SettingsSection.system ≠ none := Option.some_ne_none _
  have hcreated : Handlers
      { overlay.createWifiMenu with context := some false, shown := some .system }
      { visits with visited := false } := by
    refine ⟨fun _ => ?_, fun hclosed => absurd hclosed hsome, fun _ _ => ⟨rfl, hinactive⟩, ?_⟩
    · show overlay.registrations + 1 = visits.missed + 1
      rw [hmissed]
    · rintro - ⟨⟩
  exact hcreated.deactivateWifiMenu hsome _

theorem afterDeactivate_leaves (hbusy : ¬overlay.Closed) (start refresh : PortalAnswers)
    (selected : SettingsSection) :
    overlay.Leaves (overlay.afterDeactivate start refresh (some selected)) := by
  have hleft : overlay.Leaves { overlay.deactivateOpenplc with task := none } := by
    rw [deactivateOpenplc_same]
    exact leaves_of_busy hbusy rfl rfl rfl rfl
  cases selected with
  | system => exact hleft
  | wifi => exact hleft
  | openplc =>
      simp only [afterDeactivate]
      unfold activateOpenplc
      split_ifs
      · exact leaves_of_busy hbusy rfl rfl rfl rfl
      · have hserves := (startOpenplc_serves { overlay with context := some true } start rfl).trans
          (refreshPortal_serves _ refresh)
        rw [hserves.same]
        exact leaves_of_busy hbusy rfl rfl rfl rfl

/-- The end of an overlay leaves one registration behind, if the Wi-Fi section was never shown. -/
theorem Handlers.goOn {visits : Visits} (hhandlers : overlay.Handlers visits)
    (hsections : overlay.Sections) {target : Option SettingsSection}
    (htask : overlay.task = some (.deactivated target)) (start refresh : PortalAnswers) :
    Handlers (overlay.afterDeactivate start refresh target)
      (visits.note overlay (.goOn start refresh)) := by
  have hbusy : ¬overlay.Closed := by
    apply not_closed_of_task
    rw [htask]
    exact Option.some_ne_none _
  cases target with
  | some selected =>
      have hnote : visits.note overlay (.goOn start refresh) = visits := by
        simp [Visits.note, htask]
      rw [hnote]
      exact hhandlers.leaves (afterDeactivate_leaves hbusy start refresh selected)
  | none =>
      have hduring := hsections.during
      rw [htask] at hduring
      have hshown : overlay.shown ≠ none := fun hnone => hbusy (hhandlers.closed hnone).2
      have hcount := hhandlers.opened hshown
      have hleft := overlay.deactivateOpenplc_leaves
      have hmissed : overlay.registrations = (visits.note overlay (.goOn start refresh)).missed := by
        cases hon : visits.visited with
        | false =>
            rw [hcount, if_pos (hhandlers.unvisited hshown hon).1]
            simp [Visits.note, htask, hon]
        | true =>
            have hhandler := (hhandlers.visited hshown hon).trans hduring.2.1
            simp [Visits.note, hcount, hhandler, hon]
      have hinactive : overlay.deactivateOpenplc.active = false := hleft.active.trans hduring.2.1
      refine ⟨fun hopen => absurd rfl hopen, fun _ => ⟨?_, rfl, hinactive, rfl⟩,
        fun hopen => absurd rfl hopen, fun hopen => absurd rfl hopen⟩
      exact hleft.registrations.trans hmissed

theorem step_handlers {visits : Visits} (hsections : overlay.Sections)
    (hhandlers : overlay.Handlers visits) (hstep : overlay.step event = some next) :
    next.Handlers (visits.note overlay event) := by
  cases event with
  | openSettings =>
      obtain ⟨⟨-, hnone⟩, hnext⟩ := Option.ite_none_right_eq_some.mp hstep
      obtain rfl := Option.some.inj hnext
      exact hhandlers.openSettings hnone
  | closeSettings =>
      obtain ⟨⟨-, hshown⟩, hnext⟩ := Option.ite_none_right_eq_some.mp hstep
      obtain rfl := Option.some.inj hnext
      exact hhandlers.deactivateWifiMenu hshown none
  | selectSection selected =>
      obtain ⟨⟨-, hshown⟩, hnext⟩ := Option.ite_none_right_eq_some.mp hstep
      obtain rfl := Option.some.inj hnext
      exact hhandlers.showSection hshown selected
  | goOn start refresh =>
      simp only [step] at hstep
      split at hstep
      · next target htask =>
          obtain rfl := Option.some.inj hstep
          exact hhandlers.goOn hsections htask start refresh
      · cases hstep
  | _ =>
      refine hhandlers.leaves (step_leaves ?_ ?_ ?_ ?_ hstep)
      all_goals
        intros
        simp

theorem handlers_of_reached {state : SettingsOverlay × Visits} (hreached : visiting.Reachable state) :
    state.1.Handlers state.2 := by
  induction hreached with
  | start hstart =>
      obtain ⟨hfirst, hvisits⟩ := hstart
      rw [hfirst, hvisits]
      exact ⟨fun hopen => absurd rfl hopen, fun _ => ⟨rfl, rfl, rfl, rfl⟩,
        fun hopen => absurd rfl hopen, fun hopen => absurd rfl hopen⟩
  | @step state next event hbefore _ hstep ih =>
      obtain ⟨hmove, hnote⟩ := Machine.withHistory_step hstep
      rw [hnote]
      exact step_handlers (sections_of_reached (Machine.Reachable.forget hbefore)) ih hmove

/-- **An event is handled once too often for every overlay that never showed the Wi-Fi section.**
`wifi_menu_create` registers the handlers, but `wifi_menu_deactivate` only takes them back from a menu
that is active; the next overlay loses the handles. -/
theorem registrations_of_visits {state : SettingsOverlay × Visits}
    (hreached : visiting.Reachable state) :
    (state.1.shown = none → state.1.registrations = state.2.missed) ∧
      (state.1.active = true → state.1.registrations = state.2.missed + 1) := by
  have hhandlers := handlers_of_reached hreached
  have hsections := sections_of_reached (Machine.Reachable.forget hreached)
  refine ⟨fun hnone => (hhandlers.closed hnone).1, fun hactive => ?_⟩
  have hshown : state.1.shown ≠ none := by
    rw [(hsections.wifi hactive).1]
    exact Option.some_ne_none _
  have hhandler : state.1.handler = true := by
    cases hon : state.2.visited with
    | false => exact (hhandlers.unvisited hshown hon).1
    | true => exact (hhandlers.visited hshown hon).trans hactive
  rw [hhandlers.opened hshown, if_pos hhandler]

/-- An overlay is closed at once, and the next one is too, but for a look at the Wi-Fi section. -/
private def looksOnce : List OverlayEvent :=
  [.openSettings, .goOn {} {}, .closeSettings, .goOn {} {}, .openSettings, .goOn {} {},
    .selectSection .wifi]

private theorem looksOnce_isSome : (visiting.replay ({}, {}) looksOnce).isSome := by
  decide +kernel

private def lookedOnce : SettingsOverlay × Visits :=
  (visiting.replay ({}, {}) looksOnce).get looksOnce_isSome

theorem registrations_of_visits_twice :
    lookedOnce.1.active = true ∧ lookedOnce.2.missed = 1 ∧ lookedOnce.1.registrations = 2 := by
  have hactive : lookedOnce.1.active = true := by decide +kernel
  have hmissed : lookedOnce.2.missed = 1 := by decide +kernel
  have hstart : visiting.start ({}, {}) := ⟨rfl, rfl⟩
  have hreached : visiting.Reachable lookedOnce :=
    Machine.reachable_of_replay hstart (Option.some_get looksOnce_isSome).symm
  refine ⟨hactive, hmissed, ?_⟩
  rw [(registrations_of_visits hreached).2 hactive, hmissed]

end SettingsOverlay

end CrowPanel.Settings
