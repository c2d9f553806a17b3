import CrowPanel.Library.Machine
import CrowPanel.Wifi.Manager

/-!
# Recovery of a lost link

`Station` puts the manager together with the configuration portal, the reconnect timer's callback
and the driver's answers.  Recovery is *owed* from the moment a handler for a disconnection or a lost
address arms the reconnect timer until an address, a stop of the interface or a request of the user
settles the matter.

## Strategy

While recovery is owed something must still be under way: the timer, its callback, a request to the
driver, or a connection that has no address yet (`UnderWay`).  Two steps can break this: a callback
that returns without a request, and a disconnection that is handled without arming the timer.  Both
happen when the configuration portal is running, and `config_portal_stop` does not make up for it.
`RecoveryKept` states what the state before the step must be like for them not to happen; all other
steps keep recovery under way, settle it, or arm the timer (`step_recoverable`).
-/

namespace CrowPanel.Wifi

open Library

/-- The station with its environment. -/
structure Station where
  mgr : WifiMgr
  /-- `s_portal_running` -/
  portalRunning : Bool := false
  /-- The request that a running `reconnect_timer_cb` is about to make. -/
  recovery : Option Recovery := none
  /-- The connection that a waiting `on_uart_event` is about to make. -/
  uart : Option UartConnect := none
  /-- A request to the driver was accepted and has not been answered. -/
  outstanding : Bool := false
  /-- The station is connected and waits for an address. -/
  awaitingIp : Bool := false
  /-- A handler has armed the reconnect timer and nothing has settled the matter since. -/
  owed : Bool := false
  deriving DecidableEq

/-- The events that the default event loop delivers. -/
inductive LoopEvent where
  | staStart (answers : DriverAnswers)
  | staStop
  | staConnected (ssid : Text) (configPassword : Option Text)
      (saved : Option (CharArray 33 × CharArray 65))
  | staDisconnected (ssid : Text) (reason : ℕ)
  | gotIp
  | lostIp
  | enableRequest (enabled : Option Bool)
  | scanEnableRequest (enabled : Option Bool)
  | setNetworkRequest (ssid : Option Text)
  | connectRequest (password : Option Text) (answers : DriverAnswers)
  | disconnectRequest (answers : DriverAnswers)
  | uartCredentials (ssid : CharArray 33) (password : CharArray 64)
      (saved : Option (CharArray 32 × CharArray 64)) (answers : DriverAnswers)
  deriving DecidableEq

/-- Delivered events, the steps of the reconnect timer and those of the configuration portal. -/
inductive StationEvent where
  | loop (event : LoopEvent)
  | uartConnect (answers : DriverAnswers)
  | timerExpiry
  | timerCallback
  | timerRequest (accepted : Bool)
  | portalStart
  | portalStop
  deriving DecidableEq

/-- A connect or disconnect request that the driver has accepted. -/
def Effect.isAcceptedRequest : Effect → Bool
  | .connect accepted => accepted
  | .disconnect accepted => accepted
  | _ => false

namespace Station

/-- A handler has run on the event loop. -/
def handled (station : Station) (result : WifiMgr × List Effect) : Station :=
  { station with
    mgr := result.1
    outstanding := station.outstanding || result.2.any Effect.isAcceptedRequest }

/-- A handler of the default event loop. -/
def onEvent (station : Station) : LoopEvent → Station
  | .staStart answers => station.handled (station.mgr.onStaStart answers)
  | .staStop => { station.handled station.mgr.onStaStop with owed := false }
  | .staConnected ssid configPassword saved =>
      { station.handled (station.mgr.onStaConnected ssid configPassword saved) with
        outstanding := false
        awaitingIp := true }
  | .staDisconnected ssid reason =>
      let target := station.mgr.disconnectTarget ssid
      { station.handled (station.mgr.onStaDisconnected station.portalRunning ssid reason) with
        outstanding := false
        awaitingIp := false
        owed := station.owed || station.mgr.shouldReconnect station.portalRunning target.text }
  | .gotIp => { station.handled station.mgr.onGotIp with awaitingIp := false, owed := false }
  | .lostIp =>
      { station.handled station.mgr.onLostIp with
        awaitingIp := false
        owed := station.owed || !station.mgr.reconnectSuppressed }
  | .enableRequest enabled =>
      { station.handled (station.mgr.onEnableRequest enabled) with
        owed := station.owed && enabled ≠ some false }
  | .scanEnableRequest enabled => station.handled (station.mgr.onScanEnableRequest enabled)
  | .setNetworkRequest ssid => station.handled (station.mgr.onSetNetworkRequest ssid)
  | .connectRequest password answers =>
      { station.handled (station.mgr.onConnectRequest password answers) with owed := false }
  | .disconnectRequest answers =>
      { station.handled (station.mgr.onDisconnectRequest answers) with owed := false }
  | .uartCredentials ssid password saved answers =>
      let (mgr, effects, uart) := station.mgr.onUartCredentials ssid password saved answers
      { station.handled (mgr, effects) with uart, owed := false }

/-- The end of the wait in `on_uart_event`. -/
def uartConnect (station : Station) (answers : DriverAnswers) : Option Station :=
  station.uart.map fun connect =>
    { station.handled (station.mgr.onUartConnect connect answers) with uart := none }

/-- The reconnect timer expires; the timer task is busy while the callback talks to the driver. -/
def timerExpiry (station : Station) : Option Station :=
  if station.recovery.isSome then none
  else station.mgr.reconnectTimer.expire.map fun reconnectTimer =>
    { station with mgr := { station.mgr with reconnectTimer } }

/-- The section of `reconnect_timer_cb`. -/
def timerCallback (station : Station) : Option Station :=
  station.mgr.reconnectTimer.takeCallback.map fun reconnectTimer =>
    let (mgr, recovery) :=
      { station.mgr with reconnectTimer }.recoverySection station.portalRunning
    { station with mgr, recovery }

/-- The driver answers the request of `reconnect_timer_cb`. -/
def timerRequest (station : Station) (accepted : Bool) : Option Station :=
  if station.recovery.isSome then
    some
      { station with
        mgr := station.mgr.recoveryAnswered accepted
        recovery := none
        outstanding := station.outstanding || accepted }
  else none

def step (station : Station) : StationEvent → Option Station
  -- the event loop is blocked while `on_uart_event` waits
  | .loop event => if station.uart.isSome then none else some (station.onEvent event)
  | .uartConnect answers => station.uartConnect answers
  | .timerExpiry => station.timerExpiry
  | .timerCallback => station.timerCallback
  | .timerRequest accepted => station.timerRequest accepted
  | .portalStart =>
      if station.portalRunning then none else some { station with portalRunning := true }
  | .portalStop =>
      if station.portalRunning then some { station with portalRunning := false } else none

/-- The station after `wifi_ctrl_init`, with any saved settings. -/
def machine : Machine Station StationEvent where
  start station := ∃ wasEnabled saved, station = { mgr := .loadState wasEnabled saved }
  step := step

/-- What each step requires, and where it leads. -/
inductive Moves (station : Station) : StationEvent → Station → Prop
  | loop (event : LoopEvent) (hfree : station.uart = none) :
      Moves station (.loop event) (station.onEvent event)
  | uartConnect (answers : DriverAnswers) {connect : UartConnect}
      (hwaiting : station.uart = some connect) :
      Moves station (.uartConnect answers)
        { station.handled (station.mgr.onUartConnect connect answers) with uart := none }
  | timerExpiry {reconnectTimer : OneShotTimer} (hidle : station.recovery = none)
      (hexpire : station.mgr.reconnectTimer.expire = some reconnectTimer) :
      Moves station .timerExpiry { station with mgr := { station.mgr with reconnectTimer } }
  | timerCallback {reconnectTimer : OneShotTimer}
      (htake : station.mgr.reconnectTimer.takeCallback = some reconnectTimer) :
      Moves station .timerCallback
        { station with
          mgr := ({ station.mgr with reconnectTimer }.recoverySection station.portalRunning).1
          recovery :=
            ({ station.mgr with reconnectTimer }.recoverySection station.portalRunning).2 }
  | timerRequest (accepted : Bool) (hasked : station.recovery.isSome = true) :
      Moves station (.timerRequest accepted)
        { station with
          mgr := station.mgr.recoveryAnswered accepted
          recovery := none
          outstanding := station.outstanding || accepted }
  | portalStart (hstopped : station.portalRunning = false) :
      Moves station .portalStart { station with portalRunning := true }
  | portalStop (hrunning : station.portalRunning = true) :
      Moves station .portalStop { station with portalRunning := false }

theorem step_moves {station next : Station} {event : StationEvent}
    (hstep : station.step event = some next) : Moves station event next := by
  cases event with
  | loop event =>
      simp only [step] at hstep
      split at hstep
      · cases hstep
      · next hfree =>
          obtain rfl := Option.some.inj hstep
          exact .loop event (by simpa using hfree)
  | uartConnect answers =>
      obtain ⟨connect, hwaiting, rfl⟩ := Option.map_eq_some_iff.mp hstep
      exact .uartConnect answers hwaiting
  | timerExpiry =>
      simp only [step, timerExpiry] at hstep
      split at hstep
      · cases hstep
      · next hidle =>
          obtain ⟨reconnectTimer, hexpire, rfl⟩ := Option.map_eq_some_iff.mp hstep
          exact .timerExpiry (by simpa using hidle) hexpire
  | timerCallback =>
      obtain ⟨reconnectTimer, htake, rfl⟩ := Option.map_eq_some_iff.mp hstep
      exact .timerCallback htake
  | timerRequest accepted =>
      simp only [step, timerRequest] at hstep
      split at hstep
      · next hasked =>
          obtain rfl := Option.some.inj hstep
          exact .timerRequest accepted hasked
      · cases hstep
  | portalStart =>
      simp only [step] at hstep
      split at hstep
      · cases hstep
      · next hstopped =>
          obtain rfl := Option.some.inj hstep
          exact .portalStart (by simpa using hstopped)
  | portalStop =>
      simp only [step] at hstep
      split at hstep
      · next hrunning =>
          obtain rfl := Option.some.inj hstep
          exact .portalStop hrunning
      · cases hstep

/-- Something is still under way that can restore the link. -/
def UnderWay (station : Station) : Prop :=
  station.mgr.reconnectTimer.Live ∨ station.recovery.isSome ∨ station.outstanding = true ∨
    station.awaitingIp = true

instance (station : Station) : Decidable station.UnderWay :=
  inferInstanceAs (Decidable (_ ∨ _))

/-- The state before a step that does not drop owed recovery.  Where nothing else is under way, a
callback of the timer has to find the portal stopped, the interface started and something to do; and
so has a disconnection. -/
def RecoveryKept (station : Station) : StationEvent → Prop
  | .timerCallback => station.owed = true → station.mgr.reconnectTimer.armed = false →
      station.outstanding = false → station.awaitingIp = false →
        station.portalRunning = false ∧ station.mgr.interfaceStarted = true ∧
          if station.mgr.connected then station.mgr.ipLost = true
          else station.mgr.networkSsid.text ≠ []
  | .loop (.staDisconnected ssid _) => station.owed = true →
      ¬station.mgr.reconnectTimer.Live → station.recovery = none →
        station.portalRunning = false ∧ station.mgr.interfaceStarted = true ∧
          (station.mgr.disconnectTarget ssid).text ≠ []
  | _ => True

/-- While recovery is owed it is not suppressed, and something is under way. -/
structure Recoverable (station : Station) : Prop where
  notSuppressed : station.owed = true → station.mgr.reconnectSuppressed = false
  underWay : station.owed = true → station.UnderWay

variable {station next : Station} {event : StationEvent}

/-! ## The kinds of steps -/

theorem Recoverable.of_settled (hsettled : station.owed = false) : Recoverable station where
  notSuppressed := by simp [hsettled]
  underWay := by simp [hsettled]

/-- A step that arms the timer puts recovery under way. -/
theorem Recoverable.of_armed (hallowed : station.mgr.reconnectSuppressed = false)
    (harmed : station.mgr.reconnectTimer.armed = true) : Recoverable station where
  notSuppressed _ := hallowed
  underWay _ := .inl (.inl harmed)

/-- A handler that leaves the timer alone and suppresses nothing keeps recovery under way. -/
theorem Recoverable.handled (hrecoverable : Recoverable station) {result : WifiMgr × List Effect}
    {owed : Bool} (howed : owed = true → station.owed = true)
    (htimer : result.1.reconnectTimer = station.mgr.reconnectTimer)
    (hallowed : station.mgr.reconnectSuppressed = false → result.1.reconnectSuppressed = false) :
    Recoverable { station.handled result with owed } where
  notSuppressed hafter := hallowed (hrecoverable.notSuppressed (howed hafter))
  underWay hafter := by
    rcases hrecoverable.underWay (howed hafter) with htimerLive | hcallback | hrequest | hip
    · exact .inl (by simpa only [Station.handled, htimer] using htimerLive)
    · exact .inr (.inl hcallback)
    · exact .inr (.inr (.inl (by simp [Station.handled, hrequest])))
    · exact .inr (.inr (.inr hip))

theorem staDisconnected_recoverable (hrecoverable : Recoverable station) {ssid : Text}
    {reason : ℕ} (hkept : station.RecoveryKept (.loop (.staDisconnected ssid reason))) :
    Recoverable (station.onEvent (.staDisconnected ssid reason)) := by
  cases hreconnect : station.mgr.shouldReconnect station.portalRunning
      (station.mgr.disconnectTarget ssid).text with
  | true =>
      have hallowed : station.mgr.reconnectSuppressed = false := by
        simp only [WifiMgr.shouldReconnect, Bool.and_eq_true, Bool.not_eq_true'] at hreconnect
        exact hreconnect.1.1.2
      refine .of_armed ?_ ?_ <;>
        simp [onEvent, handled, WifiMgr.onStaDisconnected, hreconnect, hallowed,
          OneShotTimer.reset]
  | false =>
      have howed : (station.onEvent (.staDisconnected ssid reason)).owed = station.owed := by
        simp [onEvent, hreconnect]
      refine ⟨fun hafter => ?_, fun hafter => ?_⟩
      · have hallowed := hrecoverable.notSuppressed (howed ▸ hafter)
        simpa [onEvent, handled, WifiMgr.onStaDisconnected, hreconnect] using hallowed
      rw [howed] at hafter
      by_cases hlive : station.mgr.reconnectTimer.Live
      · exact .inl (by simpa [onEvent, handled, WifiMgr.onStaDisconnected, hreconnect] using hlive)
      by_cases hcallback : station.recovery = none
      · -- the condition on the step contradicts the missing reconnect
        obtain ⟨hportal, hstarted, htarget⟩ := hkept hafter hlive hcallback
        simp [WifiMgr.shouldReconnect, hportal, hstarted, htarget,
          hrecoverable.notSuppressed hafter] at hreconnect
      · exact .inr (.inl (Option.isSome_iff_ne_none.mpr hcallback))

theorem lostIp_recoverable (hrecoverable : Recoverable station) :
    Recoverable (station.onEvent .lostIp) := by
  cases hsuppressed : station.mgr.reconnectSuppressed with
  | false =>
      refine .of_armed ?_ ?_ <;>
        simp [onEvent, handled, WifiMgr.onLostIp, hsuppressed, OneShotTimer.reset]
  | true =>
      refine .of_settled ?_
      cases howed : station.owed with
      | false => simp [onEvent, howed, hsuppressed]
      | true => simp [hrecoverable.notSuppressed howed] at hsuppressed

theorem enableRequest_recoverable (hrecoverable : Recoverable station) (enabled : Option Bool) :
    Recoverable (station.onEvent (.enableRequest enabled)) := by
  have howed : (station.owed && enabled ≠ some false) = true → station.owed = true := fun h =>
    (Bool.and_eq_true_iff.mp h).1
  rcases enabled with - | (- | -)
  · exact hrecoverable.handled howed rfl id
  · exact .of_settled (by simp [onEvent])
  · exact hrecoverable.handled howed rfl fun _ => rfl

theorem onEvent_recoverable (hrecoverable : Recoverable station) {event : LoopEvent}
    (hkept : station.RecoveryKept (.loop event)) : Recoverable (station.onEvent event) := by
  cases event with
  | staStart answers =>
      exact hrecoverable.handled id (station.mgr.onStaStart_reconnectTimer answers)
        fun _ => station.mgr.onStaStart_reconnectSuppressed answers
  | staStop | gotIp | connectRequest | disconnectRequest | uartCredentials =>
      exact .of_settled rfl
  | staConnected ssid configPassword saved =>
      refine ⟨fun howed => ?_, fun _ => .inr (.inr (.inr rfl))⟩
      exact (station.mgr.onStaConnected_reconnectSuppressed ssid configPassword saved).trans
        (hrecoverable.notSuppressed howed)
  | staDisconnected ssid reason => exact staDisconnected_recoverable hrecoverable hkept
  | lostIp => exact lostIp_recoverable hrecoverable
  | enableRequest enabled => exact enableRequest_recoverable hrecoverable enabled
  | scanEnableRequest enabled =>
      refine hrecoverable.handled id (station.mgr.onScanEnableRequest_reconnectTimer enabled) ?_
      rw [station.mgr.onScanEnableRequest_reconnectSuppressed enabled]
      exact id
  | setNetworkRequest ssid =>
      refine hrecoverable.handled id (station.mgr.onSetNetworkRequest_reconnectTimer ssid) ?_
      rw [station.mgr.onSetNetworkRequest_reconnectSuppressed ssid]
      exact id

theorem timerCallback_recoverable (hrecoverable : Recoverable station)
    (hkept : station.RecoveryKept .timerCallback) {reconnectTimer : OneShotTimer}
    (htake : station.mgr.reconnectTimer.takeCallback = some reconnectTimer) :
    Recoverable
      { station with
        mgr := ({ station.mgr with reconnectTimer }.recoverySection station.portalRunning).1
        recovery :=
          ({ station.mgr with reconnectTimer }.recoverySection station.portalRunning).2 } := by
  have harmedSame : reconnectTimer.armed = station.mgr.reconnectTimer.armed := by
    rw [(OneShotTimer.takeCallback_eq_some_iff.mp htake).2]
  constructor
  · intro howed
    have hallowed := hrecoverable.notSuppressed howed
    simp only [WifiMgr.recoverySection]
    split_ifs <;> exact hallowed
  intro howed
  have hallowed := hrecoverable.notSuppressed howed
  cases harmed : station.mgr.reconnectTimer.armed with
  | true =>
      refine .inl (.inl ?_)
      simp only [WifiMgr.recoverySection]
      split_ifs <;> exact harmedSame.trans harmed
  | false =>
  cases hrequest : station.outstanding with
  | true => exact .inr (.inr (.inl rfl))
  | false =>
  cases hip : station.awaitingIp with
  | true => exact .inr (.inr (.inr rfl))
  | false =>
      -- nothing else is under way, so the callback has to make a request
      obtain ⟨hportal, hstarted, hwork⟩ := hkept howed harmed hrequest hip
      refine .inr (.inl ?_)
      cases hconnected : station.mgr.connected with
      | true =>
          have hlost : station.mgr.ipLost = true := by simpa [hconnected] using hwork
          simp [WifiMgr.recoverySection, hportal, hstarted, hallowed, hconnected, hlost]
      | false =>
          have hssid : station.mgr.networkSsid.text ≠ [] := by simpa [hconnected] using hwork
          simp [WifiMgr.recoverySection, hportal, hstarted, hallowed, hconnected, hssid]

theorem timerRequest_recoverable (hrecoverable : Recoverable station) (accepted : Bool) :
    Recoverable
      { station with
        mgr := station.mgr.recoveryAnswered accepted
        recovery := none
        outstanding := station.outstanding || accepted } := by
  cases accepted with
  | true =>
      refine ⟨hrecoverable.notSuppressed, fun _ => .inr (.inr (.inl ?_))⟩
      simp
  | false =>
      -- a refused request arms the timer again
      exact ⟨hrecoverable.notSuppressed, fun _ => .inl (.inl rfl)⟩

theorem step_recoverable (hrecoverable : Recoverable station) (hkept : station.RecoveryKept event)
    (hstep : station.step event = some next) : Recoverable next := by
  cases step_moves hstep with
  | loop event => exact onEvent_recoverable hrecoverable hkept
  | @uartConnect answers connect =>
      have hkept := hrecoverable.handled id
        (station.mgr.onUartConnect_reconnectTimer connect answers)
        fun _ => station.mgr.onUartConnect_reconnectSuppressed connect answers
      exact ⟨hkept.notSuppressed, hkept.underWay⟩
  | timerExpiry _ hexpire =>
      obtain ⟨-, -, rfl⟩ := OneShotTimer.expire_eq_some_iff.mp hexpire
      exact ⟨hrecoverable.notSuppressed, fun _ => .inl (.inr rfl)⟩
  | timerCallback htake => exact timerCallback_recoverable hrecoverable hkept htake
  | timerRequest accepted => exact timerRequest_recoverable hrecoverable accepted
  | portalStart | portalStop => exact ⟨hrecoverable.notSuppressed, hrecoverable.underWay⟩

/-- Owed recovery is never lost in a run in which every callback and every disconnection meets its
condition. -/
theorem owed_underWay (hreached : machine.ReachedBy RecoveryKept station)
    (howed : station.owed = true) : station.UnderWay := by
  have hrecoverable : Recoverable station := by
    refine hreached.invariant ?_ fun _ _ _ _ hrecoverable hkept hstep =>
      step_recoverable hrecoverable hkept hstep
    rintro state ⟨_, _, rfl⟩
    exact .of_settled rfl
  exact hrecoverable.underWay howed

/-- The condition is exact: a callback that violates it leaves recovery owed with nothing under
way. -/
theorem timerCallback_drops (hdropped : ¬station.RecoveryKept .timerCallback)
    (hstep : station.timerCallback = some next) :
    next.owed = true ∧ ¬next.UnderWay := by
  obtain ⟨reconnectTimer, htake, rfl⟩ := Option.map_eq_some_iff.mp hstep
  simp only [RecoveryKept, Classical.not_imp] at hdropped
  obtain ⟨howed, harmed, hrequest, hip, hnothing⟩ := hdropped
  have hdormant : ¬reconnectTimer.Live := by
    obtain ⟨-, rfl⟩ := OneShotTimer.takeCallback_eq_some_iff.mp htake
    simp [OneShotTimer.Live, harmed]
  have hsection : ({ station.mgr with reconnectTimer }.recoverySection station.portalRunning) =
      ({ station.mgr with reconnectTimer }, none) := by
    simp only [WifiMgr.recoverySection]
    cases hconnected : station.mgr.connected <;> simp_all
  refine ⟨howed, ?_⟩
  rw [hsection]
  simp [UnderWay, hdormant, hrequest, hip]

/-- So does a disconnection that violates it. -/
theorem staDisconnected_drops {ssid : Text} {reason : ℕ}
    (hdropped : ¬station.RecoveryKept (.loop (.staDisconnected ssid reason))) :
    (station.onEvent (.staDisconnected ssid reason)).owed = true ∧
      ¬(station.onEvent (.staDisconnected ssid reason)).UnderWay := by
  simp only [RecoveryKept, Classical.not_imp] at hdropped
  obtain ⟨howed, hdormant, hcallback, hnothing⟩ := hdropped
  have hreconnect : station.mgr.shouldReconnect station.portalRunning
      (station.mgr.disconnectTarget ssid).text = false := by
    rw [← Bool.not_eq_true]
    intro hreconnect
    simp only [WifiMgr.shouldReconnect, Bool.and_eq_true, Bool.not_eq_true',
      decide_eq_true_eq] at hreconnect
    exact hnothing ⟨hreconnect.1.2, hreconnect.1.1.1, hreconnect.2⟩
  refine ⟨by simp [onEvent, howed], ?_⟩
  simp [UnderWay, onEvent, handled, WifiMgr.onStaDisconnected, hreconnect, hdormant, hcallback]

/-! ## Runs on one station -/

/-- The events by which a user connects the station to a network. -/
def connectedRun : List StationEvent :=
  [.loop (.staStart {}), .loop (.setNetworkRequest (some (ascii "plant"))),
    .loop (.connectRequest (some (ascii "secret-key")) {}),
    .loop (.staConnected (ascii "plant") (some (ascii "secret-key")) none), .loop .gotIp]

/-- `WIFI_REASON_BEACON_TIMEOUT` -/
abbrev reasonBeaconTimeout : ℕ := 200

/-- The link is lost, and the callback of the timer is asking the driver to connect again. -/
def recoveringRun : List StationEvent :=
  connectedRun ++
    [.loop (.staDisconnected (ascii "plant") reasonBeaconTimeout), .timerExpiry, .timerCallback]

/-- The portal runs while the timer's callback does, and is then stopped. -/
def portalRun : List StationEvent :=
  connectedRun ++
    [.loop (.staDisconnected (ascii "plant") reasonBeaconTimeout), .portalStart, .timerExpiry,
      .timerCallback, .portalStop]

instance (station : Station) : ∀ event, Decidable (station.RecoveryKept event)
  | .timerCallback => inferInstanceAs (Decidable (_ → _ → _ → _ → _ ∧ _ ∧ ite _ _ _))
  | .loop (.staDisconnected _ _) => inferInstanceAs (Decidable (_ → _ → _ → _))
  | .uartConnect _ | .timerExpiry | .timerRequest _ | .portalStart | .portalStop
  | .loop (.staStart _) | .loop .staStop | .loop (.staConnected _ _ _) | .loop .gotIp
  | .loop .lostIp | .loop (.enableRequest _) | .loop (.scanEnableRequest _)
  | .loop (.setNetworkRequest _) | .loop (.connectRequest _ _) | .loop (.disconnectRequest _)
  | .loop (.uartCredentials _ _ _ _) => inferInstanceAs (Decidable True)

/-- A station without saved settings. -/
def fresh : Station :=
  { mgr := .loadState false none }

theorem fresh_start : machine.start fresh :=
  ⟨false, none, rfl⟩

theorem owed_underWay_recovering :
    ∃ station, machine.replay fresh recoveringRun = some station ∧ station.UnderWay := by
  have hreplay : machine.replay fresh recoveringRun =
      some ((machine.replay fresh recoveringRun).get rfl) := (Option.some_get _).symm
  refine ⟨_, hreplay, owed_underWay ?_ rfl⟩
  exact Machine.ReachedBy.replay (.start fresh_start) (by decide) hreplay

/-- After the portal has been stopped recovery is still owed, but nothing is under way. -/
theorem portalRun_loses_recovery :
    ∃ station, machine.replay fresh portalRun = some station ∧ machine.Reachable station ∧
      station.owed = true ∧ station.portalRunning = false ∧ ¬station.UnderWay := by
  have hreplay : machine.replay fresh portalRun =
      some ((machine.replay fresh portalRun).get rfl) := (Option.some_get _).symm
  exact ⟨_, hreplay, Machine.reachable_of_replay fresh_start hreplay, rfl, rfl, by decide⟩

end Station

end CrowPanel.Wifi
