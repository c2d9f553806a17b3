import CrowPanel.Wifi.Recovery

/-!
# A user's disconnect

A request to disconnect and a request to turn Wi-Fi off set `reconnect_suppressed`, and until the flag
is cleared nothing in the controller may ask the driver to connect.  Here every handler and every
callback of the reconnect timer is one step.

## Strategy

The flag is cleared only by the four events that `Permits` names.  While it is set, the handlers other
than those of these events make no connect request, and a callback of the reconnect timer, even one
dispatched before the request, makes none at all (`control_suppressed`).
-/

namespace CrowPanel.Wifi

open Library

/-- A handler or a callback, with the answers it gets. -/
inductive ControlEvent where
  | handler (portalRunning : Bool) (event : LoopEvent)
  | timerExpiry
  | timerCallback (portalRunning accepted : Bool)

namespace WifiMgr

/-- `on_uart_event` as a whole -/
def onUartEvent (mgr : WifiMgr) (ssid : CharArray 33) (password : CharArray 64)
    (saved : Option (CharArray 32 × CharArray 64)) (answers : DriverAnswers) :
    WifiMgr × List Effect :=
  let (mgr, effects, uart) := mgr.onUartCredentials ssid password saved answers
  match uart with
  | none => (mgr, effects)
  | some connect =>
      let (mgr, connectEffects) := mgr.onUartConnect connect answers
      (mgr, effects ++ connectEffects)

/-- The handlers of the default event loop. -/
def handle (mgr : WifiMgr) (portalRunning : Bool) : LoopEvent → WifiMgr × List Effect
  | .staStart answers => mgr.onStaStart answers
  | .staStop => mgr.onStaStop
  | .staConnected ssid configPassword saved => mgr.onStaConnected ssid configPassword saved
  | .staDisconnected ssid reason => mgr.onStaDisconnected portalRunning ssid reason
  | .gotIp => mgr.onGotIp
  | .lostIp => mgr.onLostIp
  | .enableRequest enabled => mgr.onEnableRequest enabled
  | .scanEnableRequest enabled => mgr.onScanEnableRequest enabled
  | .setNetworkRequest ssid => mgr.onSetNetworkRequest ssid
  | .connectRequest password answers => mgr.onConnectRequest password answers
  | .disconnectRequest answers => mgr.onDisconnectRequest answers
  | .uartCredentials ssid password saved answers => mgr.onUartEvent ssid password saved answers

/-- `reconnect_timer_cb` as a whole -/
def reconnectTimerCb (mgr : WifiMgr) (portalRunning accepted : Bool) : WifiMgr × List Effect :=
  match mgr.recoverySection portalRunning with
  | (mgr, none) => (mgr, [])
  | (mgr, some .disconnect) => (mgr.recoveryAnswered accepted, [.disconnect accepted])
  | (mgr, some .connect) => (mgr.recoveryAnswered accepted, [.connect accepted])

/-- A step of the controller, with what it asks of the other components. -/
def control (mgr : WifiMgr) : ControlEvent → Option (WifiMgr × List Effect)
  | .handler portalRunning event => some (mgr.handle portalRunning event)
  | .timerExpiry => mgr.reconnectTimer.expire.map fun reconnectTimer =>
      ({ mgr with reconnectTimer }, [])
  | .timerCallback portalRunning accepted =>
      mgr.reconnectTimer.takeCallback.map fun reconnectTimer =>
        { mgr with reconnectTimer }.reconnectTimerCb portalRunning accepted

/-- The requests of a user who wants no connection. -/
def DisconnectedBy (mgr : WifiMgr) : LoopEvent → Prop
  | .disconnectRequest _ => mgr.connected = true
  | .enableRequest enabled => enabled = some false
  | _ => False

/-- The events after which the controller may connect again. -/
def Permits (mgr : WifiMgr) : ControlEvent → Prop
  | .handler _ (.enableRequest enabled) => enabled = some true
  | .handler _ (.connectRequest _ _) => mgr.connected = false
  | .handler _ (.uartCredentials _ _ _ _) | .handler _ (.staStart _) => True
  | _ => False

/-- The controller from a given state on. -/
def controlMachine (first : WifiMgr) : Machine WifiMgr ControlEvent where
  start mgr := mgr = first
  step mgr event := (mgr.control event).map Prod.fst

variable {mgr next : WifiMgr} {event : ControlEvent} {effects : List Effect}

/-- Nothing here asks the driver to connect. -/
def NoConnect (effects : List Effect) : Prop :=
  ∀ accepted, Effect.connect accepted ∉ effects

/-- The handlers of the disconnect requests set the flag. -/
theorem handle_disconnectedBy {request : LoopEvent} (hrequest : mgr.DisconnectedBy request)
    (portalRunning : Bool) : (mgr.handle portalRunning request).1.reconnectSuppressed = true := by
  cases request with
  | disconnectRequest answers =>
      have hconnected : mgr.connected = true := hrequest
      simp [handle, onDisconnectRequest, hconnected]
  | enableRequest enabled =>
      obtain rfl : enabled = some false := hrequest
      simp only [handle, onEnableRequest]
      split <;> simp
  | _ => exact hrequest.elim

theorem setScanning_noConnect (scanning : Bool) : NoConnect (mgr.setScanning scanning).2.2 := by
  intro accepted
  cases scanning <;> simp only [setScanning] <;> split_ifs <;> simp

/-- While reconnecting is suppressed, a handler whose event does not permit it neither clears the flag
nor connects. -/
theorem handle_suppressed (hsuppressed : mgr.reconnectSuppressed = true) {portalRunning : Bool}
    {event : LoopEvent} (hforbidden : ¬mgr.Permits (.handler portalRunning event)) :
    (mgr.handle portalRunning event).1.reconnectSuppressed = true ∧
      NoConnect (mgr.handle portalRunning event).2 := by
  cases event with
  | staStart | uartCredentials => exact absurd trivial hforbidden
  | staStop =>
      refine ⟨by simp [handle, onStaStop, hsuppressed], fun accepted => ?_⟩
      simp only [handle, onStaStop, List.mem_append, not_or]
      exact ⟨setScanning_noConnect false accepted, by simp⟩
  | staConnected ssid configPassword saved =>
      refine ⟨?_, fun accepted => by simp [handle, onStaConnected]⟩
      exact (mgr.onStaConnected_reconnectSuppressed ssid configPassword saved).trans hsuppressed
  | staDisconnected ssid reason =>
      refine ⟨?_, fun accepted => ?_⟩
      · simp only [handle, onStaDisconnected, scheduleStateSave_reconnectSuppressed]
        split <;> exact hsuppressed
      · simp only [handle, onStaDisconnected, disconnectMessage, postConnectError]
        split_ifs <;> simp
  | gotIp => exact ⟨hsuppressed, by simp [NoConnect, handle, onGotIp]⟩
  | lostIp => exact ⟨by simp [handle, onLostIp, hsuppressed], by simp [NoConnect, handle, onLostIp]⟩
  | enableRequest enabled =>
      rcases enabled with - | (- | -)
      · exact ⟨hsuppressed, by simp [NoConnect, handle, onEnableRequest]⟩
      · refine ⟨handle_disconnectedBy (show mgr.DisconnectedBy (.enableRequest (some false)) from rfl)
          portalRunning, fun accepted => ?_⟩
        simp only [handle, onEnableRequest]
        split
        · simp only [List.mem_append, not_or]
          exact ⟨setScanning_noConnect false accepted, by simp⟩
        · simp
      · exact absurd rfl hforbidden
  | scanEnableRequest enabled =>
      cases enabled with
      | none => exact ⟨hsuppressed, by simp [NoConnect, handle, onScanEnableRequest]⟩
      | some enabled =>
          exact ⟨by simpa [handle, onScanEnableRequest] using hsuppressed,
            setScanning_noConnect enabled⟩
  | setNetworkRequest ssid =>
      refine ⟨(mgr.onSetNetworkRequest_reconnectSuppressed ssid).trans hsuppressed,
        fun accepted => ?_⟩
      cases ssid <;> simp only [handle, onSetNetworkRequest]
      · simp
      · split <;> simp
  | connectRequest password answers =>
      have hconnected : mgr.connected = true := by simpa [Permits] using hforbidden
      simp [NoConnect, handle, onConnectRequest, hconnected, hsuppressed, postConnectError]
  | disconnectRequest answers =>
      simp only [NoConnect, handle, onDisconnectRequest]
      split <;> simp [hsuppressed]

/-- The same for every step: a callback of the reconnect timer finds the flag set. -/
theorem control_suppressed (hsuppressed : mgr.reconnectSuppressed = true)
    (hforbidden : ¬mgr.Permits event) (hcontrol : mgr.control event = some (next, effects)) :
    next.reconnectSuppressed = true ∧ NoConnect effects := by
  cases event with
  | handler portalRunning event =>
      obtain ⟨rfl, rfl⟩ := Prod.mk.inj (Option.some.inj hcontrol)
      exact handle_suppressed hsuppressed hforbidden
  | timerExpiry =>
      obtain ⟨reconnectTimer, -, hresult⟩ := Option.map_eq_some_iff.mp hcontrol
      obtain ⟨rfl, rfl⟩ := Prod.mk.inj hresult
      exact ⟨hsuppressed, by simp [NoConnect]⟩
  | timerCallback portalRunning accepted =>
      obtain ⟨reconnectTimer, -, hresult⟩ := Option.map_eq_some_iff.mp hcontrol
      have hsection : ({ mgr with reconnectTimer }.recoverySection portalRunning) =
          ({ mgr with reconnectTimer }, none) := by
        simp [recoverySection, hsuppressed]
      simp only [reconnectTimerCb, hsection, Prod.mk.injEq] at hresult
      obtain ⟨rfl, rfl⟩ := hresult
      exact ⟨hsuppressed, by simp [NoConnect]⟩

/-- **A disconnect sticks.**  After a user has disconnected the station or turned Wi-Fi off, no run of
events asks the driver to connect, until one of them permits it. -/
theorem disconnect_sticks {portalRunning : Bool} {request : LoopEvent} {last : WifiMgr}
    (hrequest : mgr.DisconnectedBy request)
    (hreached : (controlMachine (mgr.handle portalRunning request).1).ReachedBy
      (fun mgr event => ¬mgr.Permits event) last)
    (hforbidden : ¬last.Permits event) (hcontrol : last.control event = some (next, effects)) :
    ∀ accepted, Effect.connect accepted ∉ effects := by
  refine (control_suppressed ?_ hforbidden hcontrol).2
  clear hforbidden hcontrol
  induction hreached with
  | start hstart =>
      obtain rfl := hstart
      exact handle_disconnectedBy hrequest portalRunning
  | step _ hforbidden hstep ih =>
      obtain ⟨⟨after, effects⟩, hcontrol, rfl⟩ := Option.map_eq_some_iff.mp hstep
      exact (control_suppressed ih hforbidden hcontrol).1

instance (mgr : WifiMgr) : ∀ event, Decidable (mgr.Permits event)
  | .handler _ (.enableRequest _) => inferInstanceAs (Decidable (_ = _))
  | .handler _ (.connectRequest _ _) => inferInstanceAs (Decidable (_ = _))
  | .handler _ (.uartCredentials _ _ _ _) | .handler _ (.staStart _) =>
      inferInstanceAs (Decidable True)
  | .timerExpiry | .timerCallback _ _ | .handler _ .staStop | .handler _ (.staConnected _ _ _)
  | .handler _ (.staDisconnected _ _) | .handler _ .gotIp | .handler _ .lostIp
  | .handler _ (.scanEnableRequest _) | .handler _ (.setNetworkRequest _)
  | .handler _ (.disconnectRequest _) => inferInstanceAs (Decidable False)

/-- A manager whose link was lost, with the callback of the reconnect timer already dispatched when the
user turns Wi-Fi off. -/
private def reconnecting : WifiMgr :=
  { interfaceStarted := true
    networkSsid := .ofText _ (ascii "plant")
    reconnectTimer := { period := 2000, pending := true } }

theorem disconnect_sticks_pending_callback :
    ∃ next effects, (reconnecting.handle false (.enableRequest (some false))).1.control
      (.timerCallback false true) = some (next, effects) ∧
        ∀ accepted, Effect.connect accepted ∉ effects := by
  have hrequest : reconnecting.DisconnectedBy (.enableRequest (some false)) := rfl
  have hcontrol : (reconnecting.handle false (.enableRequest (some false))).1.control
      (.timerCallback false true) = some (_, _) := rfl
  exact ⟨_, _, hcontrol, disconnect_sticks hrequest (.start rfl) (by decide) hcontrol⟩

end WifiMgr

end CrowPanel.Wifi
