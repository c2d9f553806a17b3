import CrowPanel.Wifi.Recovery

/-!
# Having an address

`wifi_ctrl_has_ip_address` promises a current address.  It looks at two flags, and `ip_lost` is
cleared in two places: by the handler of a new address, and by the callback of the reconnect timer
before it forces the station to reassociate.  From then until the disconnection that it asks for has
been handled, the station passes for one with an address.

## Strategy

A history variable keeps the latest of the events that settle whether there is an address.  Every
event that takes the address away sets `ip_lost`, so a cleared flag means that the latest one brought
an address, as long as the callback does not clear it (`step_settled`).
-/

namespace CrowPanel.Wifi

open Library

/-- `wifi_ctrl_has_ip_address` of an initialized manager -/
def WifiMgr.hasIpAddress (mgr : WifiMgr) : Bool :=
  mgr.connected && !mgr.ipLost

/-- The events that settle whether the station has an address. -/
inductive LinkEvent where
  | staConnected
  | staDisconnected
  | staStop
  | lostIp
  | gotIp
  deriving DecidableEq

/-- Which of these events an event is. -/
def StationEvent.link : StationEvent → Option LinkEvent
  | .loop (.staConnected _ _ _) => some .staConnected
  | .loop (.staDisconnected _ _) => some .staDisconnected
  | .loop .staStop => some .staStop
  | .loop .lostIp => some .lostIp
  | .loop .gotIp => some .gotIp
  | _ => none

/-- The station with the latest event that settled whether it has an address. -/
def addressMachine : Machine (Station × Option LinkEvent) StationEvent :=
  Station.machine.withHistory none fun _ event latest => event.link.or latest

namespace Station

/-- The state in which `reconnect_timer_cb` forces the station to reassociate. -/
def ForcesReassociation (station : Station) : Prop :=
  station.mgr.interfaceStarted = true ∧ station.mgr.reconnectSuppressed = false ∧
    station.portalRunning = false ∧ station.mgr.connected = true ∧ station.mgr.ipLost = true

instance (station : Station) : Decidable station.ForcesReassociation :=
  inferInstanceAs (Decidable (_ ∧ _))

/-- A callback of the reconnect timer does not force the station to reassociate. -/
def AddressKept (station : Station) : StationEvent → Prop
  | .timerCallback => ¬station.ForcesReassociation
  | _ => True

instance (station : Station) : ∀ event, Decidable (station.AddressKept event)
  | .timerCallback => inferInstanceAs (Decidable (¬_))
  | .loop _ | .uartConnect _ | .timerExpiry | .timerRequest _ | .portalStart | .portalStop =>
      inferInstanceAs (Decidable True)

variable {station next : Station} {event : StationEvent} {latest : Option LinkEvent}

/-! ## The flag and the latest event -/

/-- The flag says whether the latest event brought an address. -/
def Settled (state : Station × Option LinkEvent) : Prop :=
  state.1.mgr.ipLost = false ↔ state.2 = some .gotIp

/-- A handler whose event settles nothing leaves the flag alone. -/
theorem onEvent_ipLost {event : LoopEvent} (hlink : (StationEvent.loop event).link = none) :
    (station.onEvent event).mgr.ipLost = station.mgr.ipLost := by
  cases event with
  | staStop | staConnected | staDisconnected | gotIp | lostIp => simp [StationEvent.link] at hlink
  | staStart answers =>
      simp only [onEvent, handled, WifiMgr.onStaStart]
      split <;> simp [WifiMgr.setPendingSsid]
  | enableRequest enabled =>
      rcases enabled with - | (- | -) <;> simp only [onEvent, handled, WifiMgr.onEnableRequest]
      split <;> simp
  | scanEnableRequest enabled =>
      cases enabled <;> simp [onEvent, handled, WifiMgr.onScanEnableRequest]
  | setNetworkRequest ssid => cases ssid <;> rfl
  | connectRequest password answers =>
      simp only [onEvent, handled, WifiMgr.onConnectRequest]
      split
      · cases password with
        | none => rfl
        | some password =>
            dsimp only
            split <;> simp [WifiMgr.setPendingSsid]
      · rfl
  | disconnectRequest answers =>
      simp only [onEvent, handled, WifiMgr.onDisconnectRequest]
      split <;> rfl
  | uartCredentials ssid password saved answers =>
      simp only [onEvent, handled, WifiMgr.onUartCredentials]
      split_ifs <;> cases saved <;> simp

/-- The flag after an event that settles whether there is an address. -/
theorem onEvent_settled {event : LoopEvent} {link : LinkEvent}
    (hlink : (StationEvent.loop event).link = some link) :
    Settled (station.onEvent event, some link) := by
  cases event <;> simp only [StationEvent.link, Option.some.injEq, reduceCtorEq] at hlink <;>
    subst hlink
  case staStop => simp [Settled, onEvent, handled, WifiMgr.onStaStop]
  case staConnected ssid configPassword saved =>
      cases configPassword <;> cases saved <;>
        simp only [Settled, onEvent, handled, WifiMgr.onStaConnected,
          WifiMgr.scheduleStateSave_ipLost] <;> split_ifs <;> simp
  case staDisconnected ssid reason =>
      simp only [Settled, onEvent, handled, WifiMgr.onStaDisconnected,
        WifiMgr.scheduleStateSave_ipLost]
      split <;> simp
  case gotIp => simp [Settled, onEvent, handled, WifiMgr.onGotIp]
  case lostIp =>
      simp only [Settled, onEvent, handled, WifiMgr.onLostIp]
      split <;> simp

/-- Of the callback, only a forced reassociation touches the flag. -/
theorem timerCallback_ipLost (hstep : station.timerCallback = some next) :
    next.mgr.connected = station.mgr.connected ∧
      (station.ForcesReassociation → next.mgr.ipLost = false) ∧
      (¬station.ForcesReassociation → next.mgr.ipLost = station.mgr.ipLost) := by
  obtain ⟨reconnectTimer, -, rfl⟩ := Option.map_eq_some_iff.mp hstep
  have hforces : station.ForcesReassociation ↔ (station.mgr.interfaceStarted &&
      !station.mgr.reconnectSuppressed && !station.portalRunning && station.mgr.connected &&
        station.mgr.ipLost) = true := by
    simp [ForcesReassociation, and_assoc]
  rw [hforces]
  refine ⟨?_, fun hforced => ?_, fun hkept => ?_⟩
  · simp only [WifiMgr.recoverySection]
    split_ifs <;> rfl
  · simp only [WifiMgr.recoverySection, hforced, if_true]
  · simp only [Bool.not_eq_true] at hkept
    simp only [WifiMgr.recoverySection, hkept, Bool.false_eq_true, if_false]
    split_ifs <;> rfl

/-- A step whose event settles nothing leaves the flag alone, unless the callback forces the station
to reassociate. -/
theorem step_ipLost (hkept : station.AddressKept event) (hlink : event.link = none)
    (hstep : station.step event = some next) : next.mgr.ipLost = station.mgr.ipLost := by
  cases step_moves hstep with
  | loop event => exact onEvent_ipLost hlink
  | uartConnect answers => simp [handled, WifiMgr.onUartConnect, WifiMgr.setPendingSsid]
  | timerExpiry => rfl
  | timerCallback htake => exact (timerCallback_ipLost hstep).2.2 hkept
  | timerRequest accepted => cases accepted <;> rfl
  | portalStart | portalStop => rfl

theorem step_settled (hsettled : Settled (station, latest)) (hkept : station.AddressKept event)
    (hstep : station.step event = some next) : Settled (next, event.link.or latest) := by
  cases hlink : event.link with
  | none =>
      rw [Settled, step_ipLost hkept hlink hstep]
      exact hsettled
  | some link =>
      cases step_moves hstep with
      | loop event => exact onEvent_settled hlink
      | _ => simp [StationEvent.link] at hlink

/-- **Address status.**  In a run in which the callback of the reconnect timer never forces the station
to reassociate, a station that claims an address has got one, and nothing has happened to it since.
A callback that does force it makes the station claim an address which it has not got. -/
theorem hasIpAddress_latest (state : Station × Option LinkEvent) :
    (addressMachine.ReachedBy (fun state event => state.1.AddressKept event) state →
      state.1.mgr.hasIpAddress = true → state.2 = some .gotIp) ∧
    ∀ event next,
      addressMachine.ReachedBy (fun state event => state.1.AddressKept event) state →
      ¬state.1.AddressKept event → addressMachine.step state event = some next →
        next.1.mgr.hasIpAddress = true ∧ next.2 ≠ some .gotIp := by
  have hsettled (hreached : addressMachine.ReachedBy
      (fun state event => state.1.AddressKept event) state) : Settled state := by
    refine hreached.invariant ?_ fun state event next _ hsettled hkept hstep => ?_
    · rintro ⟨station, latest⟩ ⟨⟨_, _, rfl⟩, rfl⟩
      simp only [Settled, WifiMgr.loadState]
      split <;> simp
    · obtain ⟨hstep, hnext⟩ := Machine.withHistory_step hstep
      have hafter := step_settled hsettled hkept hstep
      rwa [← hnext] at hafter
  refine ⟨fun hreached hip => ?_, fun event next hreached hforced hstep => ?_⟩
  · have hflag : state.1.mgr.ipLost = false := by
      simp only [WifiMgr.hasIpAddress, Bool.and_eq_true, Bool.not_eq_true'] at hip
      exact hip.2
    exact (hsettled hreached).mp hflag
  · cases event with
    | timerCallback =>
        have hforces : state.1.ForcesReassociation := not_not.mp hforced
        obtain ⟨hstep, hnext⟩ := Machine.withHistory_step hstep
        obtain ⟨hconnected, hcleared, -⟩ := timerCallback_ipLost hstep
        have hlost : state.1.mgr.ipLost = true := hforces.2.2.2.2
        refine ⟨?_, ?_⟩
        · simp [WifiMgr.hasIpAddress, hconnected, hforces.2.2.2.1, hcleared hforces]
        · rw [hnext]
          intro hlatest
          have hkept := (hsettled hreached).mpr hlatest
          simp [hlost] at hkept
    | _ => exact absurd trivial hforced

private theorem fresh_address_start : addressMachine.start (fresh, none) :=
  ⟨fresh_start, rfl⟩

/-- The station has got its address. -/
theorem hasIpAddress_latest_connected :
    ∃ state, addressMachine.replay (fresh, none) connectedRun = some state ∧
      state.1.mgr.hasIpAddress = true ∧ state.2 = some .gotIp := by
  have hreplay : addressMachine.replay (fresh, none) connectedRun =
      some ((addressMachine.replay (fresh, none) connectedRun).get rfl) := (Option.some_get _).symm
  have hreached := Machine.ReachedBy.replay (.start fresh_address_start)
    (show addressMachine.Admitted (fun state event => state.1.AddressKept event) (fresh, none)
      connectedRun by decide) hreplay
  exact ⟨_, hreplay, rfl, (hasIpAddress_latest _).1 hreached rfl⟩

/-- The address is lost, and the callback of the reconnect timer asks the station to reassociate. -/
def reassociatingRun : List StationEvent :=
  connectedRun ++ [.loop .lostIp, .timerExpiry, .timerCallback]

/-- The station then claims an address, although the latest event took it away. -/
theorem reassociating_claims_address :
    ¬∀ state, addressMachine.Reachable state → state.1.mgr.hasIpAddress = true →
      state.2 = some .gotIp := by
  intro hclaim
  have hreplay : addressMachine.replay (fresh, none) reassociatingRun =
      some ((addressMachine.replay (fresh, none) reassociatingRun).get rfl) :=
    (Option.some_get _).symm
  have hlatest := hclaim _ (Machine.reachable_of_replay fresh_address_start hreplay) rfl
  exact absurd hlatest (by decide)

end Station

end CrowPanel.Wifi
