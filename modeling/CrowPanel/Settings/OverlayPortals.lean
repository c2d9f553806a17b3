import CrowPanel.Settings.SettingsOverlay

/-!
# The two portals

The Wi-Fi section and the OpenPLC section both need port 80.  This file shows that neither portal finds
it taken by the other one, whatever comes in between the switches of the sections.

## Strategy

Every step of the overlay is a step of the portal's own machine, or it leaves the portal alone
(`step_moves`).  So what is known of the runs of that machine holds beside the overlay: with no start
in progress and the portal stopped, nothing of it is left.  `Sections` says where that is so.
-/

namespace CrowPanel.Settings

open Library

namespace SettingsOverlay

variable {overlay next : SettingsOverlay} {event : OverlayEvent}

/-! ## The runs of the portal -/

/-- A step leaves nothing of the portal behind for which nobody answers. -/
def Keeps (overlay : SettingsOverlay) : OverlayEvent → Prop
  | .resume ok _ => ∀ call ∈ overlay.ownCall, overlay.portal.Keeps (.resume call ok)
  | .portal event => overlay.portal.Keeps event
  | _ => True

instance (overlay : SettingsOverlay) : ∀ event, Decidable (overlay.Keeps event)
  | .resume _ _ => Multiset.decidableForallMultiset
  | .portal event => inferInstanceAs (Decidable (overlay.portal.Keeps event))
  | .openSettings | .closeSettings | .selectSection _ | .goOn _ _ | .startPortal _ | .onConnected
  | .onDisconnected | .qrTimer _ | .portalTimer _ | .wifi _ => inferInstanceAs (Decidable True)

/-- A step is one of the portal, or it leaves the portal as it is. -/
def MovesPortal (overlay : SettingsOverlay) (event : OverlayEvent) (portal : Portal) : Prop :=
  portal = overlay.portal ∨ ∃ portalEvent, overlay.portal.step portalEvent = some portal ∧
    (overlay.Keeps event → overlay.portal.Keeps portalEvent)

theorem movesPortal_stop (overlay : SettingsOverlay) (event : OverlayEvent) :
    overlay.MovesPortal event overlay.portal.stop :=
  .inr ⟨.stop, rfl, fun _ => trivial⟩

@[simp] theorem afterStop_portal (overlay : SettingsOverlay) (caller : StopCaller) :
    (overlay.afterStop caller).portal = overlay.portal := by
  cases caller <;> rfl

@[simp] theorem stopPortal_portal (overlay : SettingsOverlay) (caller : StopCaller) :
    (overlay.stopPortal caller).portal = overlay.portal.stop := by
  unfold stopPortal
  dsimp only
  split
  · rfl
  · exact afterStop_portal _ _

@[simp] theorem deactivateOpenplc_portal (overlay : SettingsOverlay) :
    overlay.deactivateOpenplc.portal = overlay.portal := by
  rw [deactivateOpenplc_same]

@[simp] theorem activateWifiMenu_portal (overlay : SettingsOverlay) :
    overlay.activateWifiMenu.portal = overlay.portal := by
  unfold activateWifiMenu
  split_ifs <;> rfl

@[simp] theorem Serves.portal (hserves : overlay.Serves next) : next.portal = overlay.portal := by
  rw [hserves.same]

theorem deactivateWifiMenu_moves (overlay : SettingsOverlay) (target : Option SettingsSection)
    (event : OverlayEvent) : overlay.MovesPortal event (overlay.deactivateWifiMenu target).portal := by
  unfold deactivateWifiMenu
  dsimp only
  split_ifs
  · exact .inl rfl
  · rw [stopPortal_portal]
    exact overlay.movesPortal_stop event
  · exact .inl rfl

theorem showSection_moves (overlay : SettingsOverlay) (selected : SettingsSection)
    (event : OverlayEvent) : overlay.MovesPortal event (overlay.showSection selected).portal := by
  unfold showSection
  dsimp only
  split_ifs
  · rw [activateWifiMenu_portal, deactivateOpenplc_portal]
    exact .inl rfl
  · exact deactivateWifiMenu_moves _ _ _

theorem afterDeactivate_portal (overlay : SettingsOverlay) (start refresh : PortalAnswers)
    (target : Option SettingsSection) :
    (overlay.afterDeactivate start refresh target).portal = overlay.portal := by
  rcases target with _ | _ | _ | _
  · exact overlay.deactivateOpenplc_portal
  · exact overlay.deactivateOpenplc_portal
  · exact overlay.deactivateOpenplc_portal
  · simp only [afterDeactivate]
    unfold activateOpenplc
    split_ifs
    · rfl
    · exact ((startOpenplc_serves { overlay with context := some true } start rfl).trans
        (refreshPortal_serves _ refresh)).portal

theorem startPortalIfNeeded_moves (overlay : SettingsOverlay) (connected : Bool)
    (event : OverlayEvent) :
    overlay.MovesPortal event (overlay.startPortalIfNeeded connected).portal := by
  unfold startPortalIfNeeded
  dsimp only
  split_ifs
  · exact .inl rfl
  · exact .inl rfl
  · exact .inr ⟨.start connected, rfl, fun _ => trivial⟩
  · exact .inr ⟨.start connected, rfl, fun _ => trivial⟩

theorem resume_moves {ok : Bool} {after : Option Call} {call : Call} {waits : Call → OverlayTask}
    {finish : SettingsOverlay → SettingsOverlay} (hown : call ∈ overlay.ownCall)
    (hfinish : ∀ overlay, (finish overlay).portal = overlay.portal)
    (hresume : overlay.resume ok after call waits finish = some next) :
    overlay.MovesPortal (.resume ok after) next.portal := by
  obtain ⟨rest, portal, hrest, hportal, hnext⟩ := resume_eq_some hresume
  have hstep : overlay.portal.step (.resume call ok) = some portal := by
    rw [hrest, Portal.step_await, hportal]
  have hsame : next.portal = portal := by
    rcases hnext with ⟨other, -, rfl⟩ | ⟨-, rfl⟩
    · rfl
    · exact hfinish _
  rw [hsame]
  exact .inr ⟨_, hstep, fun hkeeps => hkeeps call hown⟩

theorem step_moves (hstep : overlay.step event = some next) :
    overlay.MovesPortal event next.portal := by
  cases event with
  | openSettings =>
      obtain ⟨-, hnext⟩ := Option.ite_none_right_eq_some.mp hstep
      obtain rfl := Option.some.inj hnext
      exact showSection_moves { overlay.createWifiMenu with context := some false } .system .openSettings
  | closeSettings =>
      obtain ⟨-, hnext⟩ := Option.ite_none_right_eq_some.mp hstep
      obtain rfl := Option.some.inj hnext
      exact deactivateWifiMenu_moves _ _ _
  | selectSection selected =>
      obtain ⟨-, hnext⟩ := Option.ite_none_right_eq_some.mp hstep
      obtain rfl := Option.some.inj hnext
      exact showSection_moves _ _ _
  | goOn start refresh =>
      simp only [step] at hstep
      split at hstep
      · obtain rfl := Option.some.inj hstep
        exact .inl (overlay.afterDeactivate_portal _ _ _)
      · cases hstep
  | resume ok after =>
      simp only [step] at hstep
      split at hstep
      · next call htask =>
          have hfinish : ∀ overlay : SettingsOverlay, overlay.portalStarted.portal = overlay.portal :=
            fun _ => rfl
          refine resume_moves ?_ hfinish hstep
          simp [ownCall, htask]
      · next call caller htask =>
          refine resume_moves ?_ (fun stopped => stopped.afterStop_portal caller) hstep
          simp [ownCall, htask]
      · cases hstep
  | startPortal connected =>
      obtain ⟨-, hnext⟩ := Option.ite_none_right_eq_some.mp hstep
      obtain rfl := Option.some.inj hnext
      exact startPortalIfNeeded_moves _ _ _
  | onConnected | onDisconnected =>
      simp only [step] at hstep
      split_ifs at hstep
      all_goals obtain rfl := Option.some.inj hstep
      · exact .inl rfl
      · rw [stopPortal_portal]
        exact overlay.movesPortal_stop _
      · exact .inl rfl
  | qrTimer addressed =>
      obtain ⟨-, hnext⟩ := Option.ite_none_right_eq_some.mp hstep
      obtain rfl := Option.some.inj hnext
      exact .inl rfl
  | portalTimer answers =>
      obtain ⟨-, hnext⟩ := Option.ite_none_right_eq_some.mp hstep
      obtain rfl := Option.some.inj hnext
      exact .inl (overlay.refreshPortal_serves answers).portal
  | portal portalEvent =>
      obtain ⟨-, hnext⟩ := Option.ite_none_right_eq_some.mp hstep
      obtain ⟨portal, hportal, rfl⟩ := Option.map_eq_some_iff.mp hnext
      exact .inr ⟨portalEvent, hportal, fun hkeeps => hkeeps⟩
  | wifi connected =>
      obtain rfl := Option.some.inj hstep
      exact .inl rfl

/-- Each portal is served in its own section only. -/
structure Apart (overlay : SettingsOverlay) : Prop where
  /-- the portal of the Wi-Fi section runs in no other one -/
  portal : overlay.task = none → overlay.shown ≠ some .wifi → overlay.portal.running = false
  /-- and the portal for the endpoint in no other one than its own -/
  server : overlay.task = none → overlay.server = true → overlay.shown = some .openplc
  /-- the server of the Wi-Fi section does not find the port taken by the other one -/
  wifiPort : ∀ call, overlay.task = some (.start call) → overlay.server = false
  /-- the timer that draws the QR code finds its labels -/
  timer : overlay.updateTimer = true → overlay.shown = some .wifi

theorem Sections.apart (hsections : overlay.Sections) : overlay.Apart := by
  have hduring := hsections.during
  refine ⟨fun htask hshown => ?_, fun htask hserver => ?_, fun call htask => ?_, fun htimer => ?_⟩
  · rw [htask] at hduring
    by_contra hon
    exact hshown (hsections.wifi (hduring.2.1 (by simpa using hon))).1
  · rw [htask] at hduring
    exact hduring.2.2 (hsections.server hserver)
  · rw [htask] at hduring
    by_contra hserver
    exact (hsections.wifi hduring.1).2 (hsections.server (by simpa using hserver))
  · exact (hsections.wifi (hsections.timer htimer)).1

/-- While the server for the endpoint runs, or is about to, no start or stop of the portal is in
progress in the task of LVGL, and the portal does not run. -/
theorem Sections.idle (hsections : overlay.Sections)
    (hopenplc : overlay.server = true ∨ ∃ target, overlay.task = some (.deactivated target)) :
    overlay.portal.startCalls = 0 ∧ overlay.portal.running = false := by
  have hduring := hsections.during
  have hinactive : overlay.server = true → overlay.active ≠ true := fun hserver hactive =>
    (hsections.wifi hactive).2 (hsections.server hserver)
  cases htask : overlay.task with
  | none =>
      obtain hserver | ⟨target, hleft⟩ := hopenplc
      · have hrunning := hsections.apart.portal htask
        rw [hsections.apart.server htask hserver] at hrunning
        rw [htask] at hduring
        exact ⟨hduring.1, hrunning (by decide)⟩
      · rw [htask] at hleft
        cases hleft
  | some task =>
      rw [htask] at hduring hopenplc
      cases task with
      | deactivated target => exact ⟨hduring.1, hduring.2.2.1⟩
      | start call =>
          obtain hserver | ⟨target, ⟨⟩⟩ := hopenplc
          exact absurd hduring.1 (hinactive hserver)
      | stop call caller =>
          obtain hserver | ⟨target, ⟨⟩⟩ := hopenplc
          cases caller with
          | deactivate target => exact absurd (hsections.server hserver) hduring.2.2.2.1
          | connected => exact absurd hduring.2.2 (hinactive hserver)
          | disconnected => exact absurd hduring.2.2 (hinactive hserver)
      | restart =>
          obtain hserver | ⟨target, ⟨⟩⟩ := hopenplc
          exact absurd hduring.2 (hinactive hserver)

/-- The calls of a start or a stop are all answered with success. -/
private def answered (calls : List Call) : List OverlayEvent :=
  (calls.tail.map some ++ [none]).map (.resume true)

end SettingsOverlay

end CrowPanel.Settings
