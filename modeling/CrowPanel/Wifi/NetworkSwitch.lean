import CrowPanel.Wifi.Recovery

/-!
# Switching to another network

`on_uart_event` takes a connected station to another network: it suppresses reconnecting, asks the
driver to disconnect, waits, lifts the suppression and asks it to connect.  All of this is one callback
of the default event loop, and the disconnection it causes is delivered by the same loop.  So when the
disconnection is handled the suppression is over, and the handler takes it for a lost link.
-/

namespace CrowPanel.Wifi

open Library

namespace Station

/-- The steps of a switch: the credentials arrive, other tasks move while `on_uart_event` waits, and it
goes on. -/
structure Switch where
  ssid : CharArray 33
  password : CharArray 64
  saved : Option (CharArray 32 × CharArray 64)
  disconnectAnswers : DriverAnswers
  waiting : List StationEvent
  connectAnswers : DriverAnswers

/-- The network that the credentials lead to: their own, or else the saved one. -/
def Switch.target (switch : Switch) : Text :=
  if switch.ssid.text ≠ [] then switch.ssid.text
  else switch.saved.elim [] fun saved => saved.1.text

/-- The steps of `on_uart_event`, with what happens during its wait. -/
def Switch.events (switch : Switch) : List StationEvent :=
  .loop (.uartCredentials switch.ssid switch.password switch.saved switch.disconnectAnswers) ::
    (switch.waiting ++ [.uartConnect switch.connectAnswers])

/-- The new connection is still being made, and nothing leads back to the old network. -/
def SwitchKept (mgr : WifiMgr) (old : CharArray 33) : Prop :=
  mgr.pendingConnect = true ∧ mgr.reconnectTimer.armed = false ∧ mgr.networkSsid.text ≠ old.text

variable {station next : Station}

/-- When `on_uart_event` returns, reconnecting is allowed again. -/
theorem switch_reconnectSuppressed {switch : Switch}
    (hswitch : machine.replay station switch.events = some next) :
    next.mgr.reconnectSuppressed = false := by
  rw [Switch.events, ← List.cons_append, Machine.replay_append] at hswitch
  obtain ⟨waiting, -, hlast⟩ := Option.bind_eq_some_iff.mp hswitch
  obtain ⟨connected, hconnect, hdone⟩ := Option.bind_eq_some_iff.mp hlast
  obtain rfl := Option.some.inj hdone
  obtain ⟨connect, -, rfl⟩ := Option.map_eq_some_iff.mp hconnect
  exact waiting.mgr.onUartConnect_reconnectSuppressed connect switch.connectAnswers

/-- No handled disconnection leaves a connection pending. -/
theorem staDisconnected_not_switchKept (old : CharArray 33) (reason : ℕ) :
    ¬SwitchKept (station.onEvent (.staDisconnected old.text reason)).mgr old := by
  rintro ⟨hpending, -, -⟩
  have hcleared : (station.onEvent (.staDisconnected old.text reason)).mgr.pendingConnect = false := by
    simp only [onEvent, handled, WifiMgr.onStaDisconnected]
    rw [WifiMgr.scheduleStateSave_field _ WifiMgr.pendingConnect fun _ _ _ => rfl]
    split <;> rfl
  simp [hcleared] at hpending

/-- A disconnection that may be reconnected arms the timer and selects the network that was left. -/
theorem staDisconnected_rearms {old : CharArray 33} (reason : ℕ) (hold : old.text ≠ [])
    (hstarted : station.mgr.interfaceStarted = true)
    (hallowed : station.mgr.reconnectSuppressed = false) (hportal : station.portalRunning = false) :
    (station.onEvent (.staDisconnected old.text reason)).mgr.reconnectTimer.armed = true ∧
      (station.onEvent (.staDisconnected old.text reason)).mgr.networkSsid = old := by
  have htarget : station.mgr.disconnectTarget old.text = old := by
    rw [WifiMgr.disconnectTarget, if_pos hold, CharArray.ofText_self]
  have hreconnect : station.mgr.shouldReconnect false old.text = true := by
    simp [WifiMgr.shouldReconnect, hstarted, hallowed, hold]
  simp only [onEvent, handled, WifiMgr.onStaDisconnected, htarget, hportal, hreconnect, if_true]
  refine ⟨?_, ?_⟩
  · simp [OneShotTimer.reset]
  · rw [WifiMgr.scheduleStateSave_field _ WifiMgr.networkSsid fun _ _ _ => rfl]

/-- **Network switches.**  Whatever the loop delivers before it, the disconnection that a switch causes
is never taken for a part of the switch: when it has been handled, no connection is pending.  Handled
at once, it even arms the reconnect timer and selects the old network again, unless the portal is
running. -/
theorem switch_treated_as_loss {switch : Switch} (old : CharArray 33) (reason : ℕ)
    (hswitch : machine.replay station switch.events = some next) :
    (∀ queued last, machine.replay next queued = some last →
      ¬SwitchKept (last.onEvent (.staDisconnected old.text reason)).mgr old) ∧
    (old.text ≠ [] → next.mgr.interfaceStarted = true → next.portalRunning = false →
      (next.onEvent (.staDisconnected old.text reason)).mgr.reconnectTimer.armed = true ∧
        (next.onEvent (.staDisconnected old.text reason)).mgr.networkSsid = old) := by
  refine ⟨fun _ _ _ => staDisconnected_not_switchKept old reason, fun hold hstarted hportal => ?_⟩
  exact staDisconnected_rearms reason hold hstarted (switch_reconnectSuppressed hswitch) hportal

/-- The credentials of another network. -/
private def toOffice : Switch where
  ssid := .ofText _ (ascii "office")
  password := .ofText _ (ascii "other-secret")
  saved := none
  disconnectAnswers := {}
  waiting := []
  connectAnswers := {}

private def plant : CharArray 33 := .ofText _ (ascii "plant")

private theorem connectedRun_switch : ∃ station next,
    machine.replay fresh connectedRun = some station ∧ station.mgr.connected = true ∧
      machine.replay station toOffice.events = some next ∧
      next.mgr.interfaceStarted = true ∧ next.portalRunning = false :=
  ⟨_, _, rfl, rfl, rfl, rfl, rfl⟩

theorem switch_treated_as_loss_office : ∃ station next : Station,
    machine.replay station toOffice.events = some next ∧
      (next.onEvent (.staDisconnected plant.text WifiMgr.reasonAssocLeave)).mgr.reconnectTimer.armed =
        true := by
  obtain ⟨station, next, -, -, hswitch, hstarted, hportal⟩ := connectedRun_switch
  have hlost :=
    (switch_treated_as_loss plant WifiMgr.reasonAssocLeave hswitch).2 (by decide) hstarted hportal
  exact ⟨station, next, hswitch, hlost.1⟩

theorem switch_not_kept :
    ¬∀ (station next : Station) (switch : Switch) (old : CharArray 33) (reason : ℕ),
      machine.Reachable station → station.uart = none → station.mgr.connected = true →
      station.mgr.networkSsid = old → switch.target ≠ old.text →
      machine.replay station switch.events = some next →
        SwitchKept (next.onEvent (.staDisconnected old.text reason)).mgr old := by
  intro hclaim
  have hreached : machine.Reachable ((machine.replay fresh connectedRun).get rfl) :=
    Machine.reachable_of_replay fresh_start (Option.some_get _).symm
  have hkept := hclaim _ _ toOffice plant WifiMgr.reasonAssocLeave hreached rfl rfl (by decide)
    (by decide) rfl
  exact staDisconnected_not_switchKept plant WifiMgr.reasonAssocLeave hkept

end Station

end CrowPanel.Wifi
