import CrowPanel.Wifi.Saving
import Mathlib.Data.List.TakeDrop

/-!
# The credentials in the driver's configuration

A pair of an SSID and a password comes in a UART event, or in the two requests with which a user
selects a network and connects to it.  `wifi_connect` copies it into the driver's configuration with
two calls of `strncpy`, each of which leaves the last byte of its field alone, and chooses the threshold
for the authentication twice.

## Strategy

`mem_wifiConnect` says what configuration the driver is given, and `delivers_wifiConnect_iff` when it
holds the pair.  It remains that the pair is still the one that was chosen: `on_uart_event` keeps it
while it waits (`Tracks`), and a selection stays until a handler replaces it (`selected_networkSsid`).
-/

namespace CrowPanel.Wifi

open Library

/-! ## The copies -/

/-- A zeroed field of `size` bytes after `strncpy(field, text, limit)`. -/
def strncpyField (size limit : ℕ) (text : Text) : Text :=
  let copied := (cString text).take limit
  copied ++ List.replicate (size - copied.length) 0

/-- With one byte kept back, the field holds what a terminated array of its size holds. -/
theorem cString_strncpyField (size : ℕ) [NeZero size] (text : Text) :
    cString (strncpyField size (size - 1) text) = (CharArray.ofText size text).text := by
  have hcopied : 0 ∉ (cString text).take (size - 1) := fun hzero =>
    cString_noNul text (List.mem_of_mem_take hzero)
  have hpadding (count : ℕ) : cString (List.replicate count 0) = [] := by
    cases count with
    | zero => rfl
    | succ count => exact cString_zero_cons _
  unfold strncpyField
  dsimp only
  rw [cString_append hcopied, hpadding, List.append_nil]
  rfl

/-! ## What the driver is given -/

/-- The configuration holds the pair, and admits open networks exactly if there is no password. -/
structure StaConfig.Holds (config : StaConfig) (ssid password : Text) : Prop where
  ssidText : config.ssid.text = ssid
  passwordText : config.password.text = password
  authmode : config.thresholdAuthmode = .openNetwork ↔ password = []

/-- Every configuration that `wifi_connect` gives to the driver holds the pair. -/
def Delivers (effects : List Effect) (ssid password : Text) : Prop :=
  ∀ config, Effect.setConfig (some config) ∈ effects → config.Holds ssid password

section

variable {mgr : WifiMgr} {config : StaConfig} {answers : DriverAnswers}

theorem mem_wifiConnect {ssid password : Text} :
    Effect.setConfig (some config) ∈ wifiConnect ssid password answers ↔ ssid ≠ [] ∧
      config = ⟨.ofText _ ssid, .ofText _ password, -80, .wpa2Psk⟩ := by
  unfold wifiConnect
  split_ifs with hssid <;> simp [hssid]

theorem tryStopScanner_noConfig (mgr : WifiMgr) :
    Effect.setConfig (some config) ∉ mgr.tryStopScanner.2 := by
  unfold WifiMgr.tryStopScanner WifiMgr.setScanning
  simp only [Bool.false_eq_true, if_false]
  cases mgr.scanning <;> simp

theorem mem_onUartConnect {connect : UartConnect} :
    Effect.setConfig (some config) ∈ (mgr.onUartConnect connect answers).2 ↔
      Effect.setConfig (some config) ∈ wifiConnect connect.ssid connect.password answers := by
  simp [WifiMgr.onUartConnect, WifiMgr.connectToNetwork, tryStopScanner_noConfig]

/-- The state in which a request to connect is refused. -/
def WifiMgr.Refuses (mgr : WifiMgr) : Prop :=
  mgr.connected = true ∨ mgr.interfaceStarted = false

instance (mgr : WifiMgr) : Decidable mgr.Refuses :=
  inferInstanceAs (Decidable (_ ∨ _))

theorem mem_onConnectRequest {password : CharArray 64} (hpassword : password.text ≠ []) :
    Effect.setConfig (some config) ∈ (mgr.onConnectRequest (some password.text) answers).2 ↔
      ¬ mgr.Refuses ∧
        Effect.setConfig (some config) ∈ wifiConnect mgr.networkSsid.text password.text answers := by
  have hrefuses : (!mgr.connected && mgr.interfaceStarted) = true ↔ ¬ mgr.Refuses := by
    simp [WifiMgr.Refuses]
  unfold WifiMgr.onConnectRequest
  dsimp only
  rw [CharArray.ofText_self]
  by_cases hidle : mgr.Refuses
  · rw [if_neg fun hgoes => hrefuses.mp hgoes hidle]
    simp [hidle, WifiMgr.postConnectError]
  rw [if_pos (hrefuses.mpr hidle)]
  by_cases hssid : mgr.networkSsid.text = []
  · rw [if_neg fun hboth => hboth.1 hssid, mem_wifiConnect]
    simp [hssid]
  · rw [if_pos ⟨hssid, hpassword⟩]
    simp [hidle, WifiMgr.connectToNetwork, WifiMgr.setPendingSsid, tryStopScanner_noConfig]

/-- The configuration holds a pair exactly if the SSID has lost nothing and there is a password. -/
theorem delivers_wifiConnect_iff {given : CharArray 33} {ssid : Text} {password : CharArray 64} :
    Delivers (wifiConnect given.text password.text answers) ssid password.text ↔
      given.text = [] ∨ given.text.take 31 = ssid ∧ password.text ≠ [] := by
  have hholds : StaConfig.Holds ⟨.ofText _ given.text, .ofText _ password.text, -80, .wpa2Psk⟩ ssid
      password.text ↔ given.text.take 31 = ssid ∧ password.text ≠ [] := by
    have hssid := @CharArray.ofText_text_take 32 _ _ given.noNul
    constructor
    · rintro ⟨hgiven, -, hauthmode⟩
      exact ⟨hssid.symm.trans hgiven, fun hempty => nomatch hauthmode.mpr hempty⟩
    · rintro ⟨hgiven, hpassword⟩
      refine ⟨hssid.trans hgiven, congrArg _ (CharArray.ofText_self password), ?_⟩
      simpa using hpassword
  unfold Delivers
  simp only [mem_wifiConnect]
  constructor
  · intro hall
    by_cases hgiven : given.text = []
    · exact .inl hgiven
    · exact .inr (hholds.mp (hall _ ⟨hgiven, rfl⟩))
  · rintro (hgiven | hkept) config ⟨hnonempty, rfl⟩
    · exact absurd hgiven hnonempty
    · exact hholds.mpr hkept

end

/-! ## Runs -/

/-- The pairs on their way: the network that the user has selected, until a request to connect takes
it up, and the last pair that has come in a UART event. -/
structure Chosen where
  selected : Option (CharArray 33) := none
  arrived : Option (CharArray 33 × CharArray 64) := none
  deriving DecidableEq

namespace Station

/-- The ghost beside the station. -/
def noteChosen (_ : Station) (event : StationEvent) (chosen : Chosen) : Chosen :=
  match event with
  | .loop (.setNetworkRequest (some ssid)) => { chosen with selected := some (.ofText _ ssid) }
  | .loop (.connectRequest _ _) => { chosen with selected := none }
  | .loop (.uartCredentials ssid password _ _) => { chosen with arrived := some (ssid, password) }
  | _ => chosen

/-- The station with the pairs that are chosen. -/
def choosingMachine : Machine (Station × Chosen) StationEvent :=
  machine.withHistory {} noteChosen

/-- The state before a step that leaves the selection in `network_ssid`. -/
def SelectionKept (state : Station × Chosen) : StationEvent → Prop
  | .loop .staStop => state.2.selected = none
  | .loop (.staConnected ssid _ _) => ∀ selected ∈ state.2.selected, .ofText _ ssid = selected
  | .loop (.staDisconnected ssid _) => ∀ selected ∈ state.2.selected,
      state.1.mgr.disconnectTarget ssid = selected ∧
        state.1.mgr.shouldReconnect state.1.portalRunning selected.text = true
  | _ => True

instance (state : Station × Chosen) : ∀ event, Decidable (SelectionKept state event)
  | .loop .staStop => inferInstanceAs (Decidable (_ = _))
  | .loop (.staConnected _ _ _) => inferInstanceAs (Decidable (∀ selected ∈ _, _))
  | .loop (.staDisconnected _ _) => inferInstanceAs (Decidable (∀ selected ∈ _, _ ∧ _))
  | .uartConnect _ | .timerExpiry | .timerCallback | .timerRequest _ | .portalStart | .portalStop
  | .loop (.staStart _) | .loop .gotIp | .loop .lostIp | .loop (.enableRequest _)
  | .loop (.scanEnableRequest _) | .loop (.setNetworkRequest _) | .loop (.connectRequest _ _)
  | .loop (.disconnectRequest _) | .loop (.uartCredentials _ _ _ _) =>
      inferInstanceAs (Decidable True)

variable {station next : Station} {chosen : Chosen} {state : Station × Chosen}

/-- A waiting `on_uart_event` holds the pair that has come. -/
def Tracks (state : Station × Chosen) : Prop :=
  ∀ connect ∈ state.1.uart, ∃ ssid password, state.2.arrived = some (ssid, password) ∧
    connect.password = password.text ∧ (ssid.text ≠ [] → connect.ssid = ssid.text)

/-- What `on_uart_event` waits with. -/
theorem onUartCredentials_pair {mgr : WifiMgr} {ssid : CharArray 33} {password : CharArray 64}
    {saved : Option (CharArray 32 × CharArray 64)} {answers : DriverAnswers} {connect : UartConnect}
    (hconnect : connect ∈ (mgr.onUartCredentials ssid password saved answers).2.2) :
    connect.password = password.text ∧ (ssid.text ≠ [] → connect.ssid = ssid.text) := by
  unfold WifiMgr.onUartCredentials at hconnect
  by_cases hssid : ssid.text = []
  · refine ⟨?_, fun hnonempty => absurd hssid hnonempty⟩
    cases saved with
    | none => simp [hssid] at hconnect
    | some pair =>
        simp only [hssid, ne_eq, not_true_eq_false, if_false] at hconnect
        split_ifs at hconnect
        · cases hconnect
        · exact (Option.some.inj hconnect) ▸ rfl
        · exact (Option.some.inj hconnect) ▸ rfl
  · simp only [hssid, ne_eq, not_false_eq_true, if_true, if_false] at hconnect
    split_ifs at hconnect <;> exact (Option.some.inj hconnect) ▸ ⟨rfl, fun _ => rfl⟩

theorem step_tracks {event : StationEvent} (htracks : Tracks (station, chosen))
    (hstep : station.step event = some next) : Tracks (next, noteChosen station event chosen) := by
  cases step_moves hstep with
  | loop event hfree =>
      cases event with
      | uartCredentials ssid password saved answers =>
          intro connect hconnect
          exact ⟨ssid, password, rfl, onUartCredentials_pair hconnect⟩
      | _ =>
          -- the other handlers do not wait
          intro connect hconnect
          exact absurd (hfree.symm.trans hconnect) nofun
  | uartConnect => exact nofun
  | timerExpiry | timerCallback | timerRequest | portalStart | portalStop => exact htracks

theorem reachable_tracks (hreached : choosingMachine.Reachable state) : Tracks state := by
  refine @Machine.Reachable.invariant _ _ _ _ Tracks ?_ ?_ hreached
  · rintro ⟨station, chosen⟩ ⟨⟨wasEnabled, saved, rfl⟩, -⟩
    cases wasEnabled <;> cases saved <;> exact nofun
  · intro state event next htracks hstep
    obtain ⟨hstation, hchosen⟩ := Machine.withHistory_step hstep
    have hnext := step_tracks htracks hstation
    rwa [← hchosen] at hnext

/-- The handlers that write `network_ssid`. -/
def WritesSsid : LoopEvent → Prop
  | .staStop | .staConnected _ _ _ | .staDisconnected _ _ | .setNetworkRequest (some _) => True
  | _ => False

theorem onEvent_networkSsid {event : LoopEvent} (hother : ¬ WritesSsid event) :
    (station.onEvent event).mgr.networkSsid = station.mgr.networkSsid := by
  cases event with
  | staStop | staConnected | staDisconnected => exact absurd trivial hother
  | setNetworkRequest ssid =>
      cases ssid with
      | none => rfl
      | some ssid => exact absurd trivial hother
  | gotIp => rfl
  | staStart answers =>
      simp only [onEvent, handled, WifiMgr.onStaStart]
      split <;> simp [WifiMgr.setPendingSsid]
  | lostIp =>
      simp only [onEvent, handled, WifiMgr.onLostIp]
      split <;> rfl
  | enableRequest enabled =>
      rcases enabled with - | (- | -) <;> simp only [onEvent, handled, WifiMgr.onEnableRequest]
      split <;> simp
  | scanEnableRequest enabled =>
      cases enabled <;> simp [onEvent, handled, WifiMgr.onScanEnableRequest]
  | connectRequest password answers =>
      simp only [onEvent, handled, WifiMgr.onConnectRequest]
      cases password <;> dsimp only <;> split_ifs <;> simp [WifiMgr.setPendingSsid]
  | disconnectRequest answers =>
      simp only [onEvent, handled, WifiMgr.onDisconnectRequest]
      split <;> rfl
  | uartCredentials ssid password saved answers =>
      simp only [onEvent, handled, WifiMgr.onUartCredentials]
      cases saved <;> dsimp only <;> split_ifs <;> rfl

/-- The selection is in `network_ssid`. -/
def SelectionHeld (state : Station × Chosen) : Prop :=
  ∀ selected ∈ state.2.selected, state.1.mgr.networkSsid = selected

theorem step_selectionHeld {event : StationEvent} (hheld : SelectionHeld (station, chosen))
    (hkept : SelectionKept (station, chosen) event) (hstep : station.step event = some next) :
    SelectionHeld (next, noteChosen station event chosen) := by
  intro selected hselected
  cases step_moves hstep with
  | loop event =>
      cases event with
      | staStop => cases hselected.symm.trans hkept
      | staConnected ssid configPassword saved =>
          obtain ⟨changed, hafter, -, -, -, hssid, -⟩ :=
            station.mgr.onStaConnected_eq ssid configPassword saved
          simp only [onEvent, handled, hafter, WifiMgr.scheduleStateSave_networkSsid, hssid]
          exact hkept selected hselected
      | staDisconnected ssid reason =>
          obtain ⟨htarget, hreconnect⟩ := hkept selected hselected
          simp [onEvent, handled, WifiMgr.onStaDisconnected, htarget, hreconnect]
      | setNetworkRequest ssid =>
          cases ssid with
          | none => exact hheld selected hselected
          | some ssid => exact Option.some.inj hselected
      | connectRequest => cases hselected
      | _ =>
          refine Eq.trans ?_ (hheld selected hselected)
          exact onEvent_networkSsid id
  | @uartConnect answers connect =>
      have hsame : (station.mgr.onUartConnect connect answers).1.networkSsid =
          station.mgr.networkSsid := by
        simp [WifiMgr.onUartConnect, WifiMgr.setPendingSsid]
      exact hsame.trans (hheld selected hselected)
  | timerCallback =>
      refine Eq.trans ?_ (hheld selected hselected)
      simp only [WifiMgr.recoverySection]
      split_ifs <;> rfl
  | timerRequest accepted =>
      refine Eq.trans ?_ (hheld selected hselected)
      cases accepted <;> rfl
  | timerExpiry | portalStart | portalStop => exact hheld selected hselected

/-- Along steps that keep it, the selection is in `network_ssid`. -/
theorem reachedBy_selectionHeld (hreached : choosingMachine.ReachedBy SelectionKept state) :
    SelectionHeld state := by
  refine @Machine.ReachedBy.invariant _ _ _ _ _ SelectionHeld ?_ ?_ hreached
  · rintro ⟨station, chosen⟩ ⟨-, rfl⟩
    exact nofun
  · intro state event next _ hheld hkept hstep
    obtain ⟨hstation, hchosen⟩ := Machine.withHistory_step hstep
    have hnext := step_selectionHeld hheld hkept hstation
    rwa [← hchosen] at hnext

/-! ## Delivery -/

variable {ssid : CharArray 33} {password : CharArray 64} {answers : DriverAnswers}

/-- A pair from a UART event reaches the driver whole exactly if the SSID leaves a byte of its field
free and there is a password. -/
theorem uart_delivers_iff (hreached : choosingMachine.Reachable (station, chosen))
    (harrived : chosen.arrived = some (ssid, password)) (hssid : ssid.text ≠ [])
    {connect : UartConnect} (hconnect : station.uart = some connect) :
    Delivers (station.mgr.onUartConnect connect answers).2 ssid.text password.text ↔
      ssid.text.length ≤ 31 ∧ password.text ≠ [] := by
  obtain ⟨_, _, hpair, hpassword, hgiven⟩ := reachable_tracks hreached connect hconnect
  rw [harrived, Option.some.injEq, Prod.mk.injEq] at hpair
  obtain ⟨rfl, rfl⟩ := hpair
  have hgiven := hgiven hssid
  unfold Delivers
  simp only [mem_onUartConnect, hpassword, hgiven]
  rw [← Delivers, delivers_wifiConnect_iff, List.take_eq_self_iff]
  simp [hssid]

/-- A pair that a user chooses reaches the driver whole unless the SSID has lost something, be it in
`network_ssid` or on the way from there. -/
theorem ui_delivers_iff {mgr : WifiMgr} (hpassword : password.text ≠ []) :
    Delivers (mgr.onConnectRequest (some password.text) answers).2 ssid.text password.text ↔
      mgr.Refuses ∨ mgr.networkSsid.text = [] ∨ mgr.networkSsid.text.take 31 = ssid.text := by
  by_cases hrefuses : mgr.Refuses
  · simp [Delivers, mem_onConnectRequest hpassword, hrefuses]
  · unfold Delivers
    simp only [mem_onConnectRequest hpassword, hrefuses, not_false_eq_true, true_and, false_or]
    rw [← Delivers, delivers_wifiConnect_iff]
    simp [hpassword]

/-- After its wait `on_uart_event` always gives the driver a configuration. -/
theorem uart_gives (hreached : choosingMachine.Reachable (station, chosen))
    (harrived : chosen.arrived = some (ssid, password)) (hssid : ssid.text ≠ [])
    {connect : UartConnect} (hconnect : station.uart = some connect) :
    ∃ config, Effect.setConfig (some config) ∈ (station.mgr.onUartConnect connect answers).2 := by
  obtain ⟨_, _, hpair, -, hgiven⟩ := reachable_tracks hreached connect hconnect
  rw [harrived, Option.some.injEq, Prod.mk.injEq] at hpair
  obtain ⟨rfl, rfl⟩ := hpair
  refine ⟨_, mem_onUartConnect.mpr (mem_wifiConnect.mpr ⟨?_, rfl⟩)⟩
  rw [hgiven hssid]
  exact hssid

/-- When a selection has been kept, only its length matters. -/
theorem selected_delivers_iff (hreached : choosingMachine.ReachedBy SelectionKept (station, chosen))
    (hselected : chosen.selected = some ssid) (hssid : ssid.text ≠ [])
    (hpassword : password.text ≠ []) :
    Delivers (station.mgr.onConnectRequest (some password.text) answers).2 ssid.text password.text ↔
      station.mgr.Refuses ∨ ssid.text.length ≤ 31 := by
  have hheld : station.mgr.networkSsid = ssid := reachedBy_selectionHeld hreached ssid hselected
  rw [ui_delivers_iff hpassword, hheld, List.take_eq_self_iff]
  simp [hssid]

/-- **Delivery of credentials.**  A pair from a UART event reaches the driver whole exactly if its SSID
has at most 31 bytes and its password is not empty.  A pair that a user chooses does exactly if no
configuration is given at all, or the first 31 bytes of `network_ssid` are the SSID; when no handler
has replaced the selection, that is when it has at most 31 bytes. -/
theorem credentials_delivered_iff (ssid : CharArray 33) (password : CharArray 64)
    (answers : DriverAnswers) :
    (∀ (station : Station) (chosen : Chosen) (connect : UartConnect),
      choosingMachine.Reachable (station, chosen) → chosen.arrived = some (ssid, password) →
        ssid.text ≠ [] → station.uart = some connect →
          (∃ config, Effect.setConfig (some config) ∈
            (station.mgr.onUartConnect connect answers).2) ∧
          (Delivers (station.mgr.onUartConnect connect answers).2 ssid.text password.text ↔
            ssid.text.length ≤ 31 ∧ password.text ≠ [])) ∧
    (∀ mgr : WifiMgr, password.text ≠ [] →
      (Delivers (mgr.onConnectRequest (some password.text) answers).2 ssid.text password.text ↔
        mgr.Refuses ∨ mgr.networkSsid.text = [] ∨ mgr.networkSsid.text.take 31 = ssid.text)) ∧
    ∀ (station : Station) (chosen : Chosen),
      choosingMachine.ReachedBy SelectionKept (station, chosen) → chosen.selected = some ssid →
        ssid.text ≠ [] → password.text ≠ [] →
          (Delivers (station.mgr.onConnectRequest (some password.text) answers).2 ssid.text
            password.text ↔ station.mgr.Refuses ∨ ssid.text.length ≤ 31) :=
  ⟨fun _ _ _ hreached harrived hssid hconnect =>
      ⟨uart_gives hreached harrived hssid hconnect,
        uart_delivers_iff hreached harrived hssid hconnect⟩,
    fun _ hpassword => ui_delivers_iff hpassword,
    fun _ _ hreached hselected hssid hpassword =>
      selected_delivers_iff hreached hselected hssid hpassword⟩

theorem fresh_choosing : choosingMachine.start (fresh, {}) :=
  ⟨fresh_start, rfl⟩

private def shopFloor : CharArray 33 := .ofText _ (ascii "shop-floor")

private def shopFloorKey : CharArray 64 := .ofText _ (ascii "long-enough-key")

/-- A network is selected while the station is up. -/
private def selectingRun : List StationEvent :=
  [.loop (.staStart {}), .loop (.scanEnableRequest (some true)),
    .loop (.setNetworkRequest (some shopFloor.text)), .portalStart, .portalStop]

theorem credentials_delivered_shopFloor :
    ∃ station chosen, choosingMachine.replay (fresh, {}) selectingRun = some (station, chosen) ∧
      ¬ station.mgr.Refuses ∧
        Delivers (station.mgr.onConnectRequest (some shopFloorKey.text) {}).2 shopFloor.text
          shopFloorKey.text := by
  have hreplay : choosingMachine.replay (fresh, {}) selectingRun =
      some ((choosingMachine.replay (fresh, {}) selectingRun).get rfl) := (Option.some_get _).symm
  have hreached := Machine.ReachedBy.replay (.start fresh_choosing)
    (show choosingMachine.Admitted SelectionKept (fresh, {}) selectingRun by decide) hreplay
  refine ⟨_, _, hreplay, by decide, ?_⟩
  have hiff := (credentials_delivered_iff shopFloor shopFloorKey {}).2.2 _ _ hreached rfl
    (by decide) (by decide)
  exact hiff.mpr (.inr (by decide))

private def guest : CharArray 33 := .ofText _ (ascii "guest")

/-- The credentials of an open network come over UART. -/
private def openRun : List StationEvent :=
  [.loop (.staStart {}), .loop (.uartCredentials guest .empty none {})]

/-- An open network is asked for WPA2. -/
theorem credentials_not_delivered_guest :
    ¬ ∀ (station : Station) (chosen : Chosen), choosingMachine.Reachable (station, chosen) →
      (∀ (ssid : CharArray 33) (password : CharArray 64) (connect : UartConnect)
        (answers : DriverAnswers), chosen.arrived = some (ssid, password) → ssid.text ≠ [] →
          station.uart = some connect →
            Delivers (station.mgr.onUartConnect connect answers).2 ssid.text password.text) ∧
      ∀ (ssid : CharArray 33) (password : CharArray 64) (answers : DriverAnswers),
        chosen.selected = some ssid → ssid.text ≠ [] → password.text ≠ [] →
          Delivers (station.mgr.onConnectRequest (some password.text) answers).2 ssid.text
            password.text := by
  intro hclaim
  have hreplay : choosingMachine.replay (fresh, {}) openRun =
      some ((choosingMachine.replay (fresh, {}) openRun).get rfl) := (Option.some_get _).symm
  have hreached := Machine.reachable_of_replay fresh_choosing hreplay
  have hdelivers := (hclaim _ _ hreached).1 guest .empty ⟨guest.text, []⟩ {} rfl (by decide) rfl
  exact ((uart_delivers_iff hreached rfl (by decide) rfl).mp hdelivers).2 rfl

end Station

end CrowPanel.Wifi
