import CrowPanel.Library.CText
import CrowPanel.Library.OneShotTimer
import Mathlib.Data.List.Basic

/-!
# The Wi-Fi manager

`WifiMgr` is `wifi_mgr_t` after `wifi_ctrl_init`, with the pending SSID of `credentials.c`.  The
handlers of Wi-Fi, IP, settings and UART events are functions of the manager; what they ask of the
driver, the scanner task, the connectivity checker and the user interface is returned as a list of
effects, in the order of the calls.

The handlers run one after the other on the default event loop, the timer callbacks on the timer
task.  Two functions release the mutex on the way and are given in two halves: `on_uart_event`, which
waits after a disconnect, and `reconnect_timer_cb`, which calls the driver after its section.  The
answers of the driver and of NVS are arguments.
-/

namespace CrowPanel.Wifi

open Library

/-! ## The driver interface -/

/-- `wifi_auth_mode_t`, as far as `wifi_connect` uses it. -/
inductive AuthMode where
  | openNetwork
  | wpa2Psk
  deriving DecidableEq

/-- The station part of `wifi_config_t`. -/
structure StaConfig where
  ssid : CharArray 32
  password : CharArray 64
  thresholdRssi : ℤ
  thresholdAuthmode : AuthMode
  deriving DecidableEq

/-- What the handlers ask of the other components; a request carries the driver's answer. -/
inductive Effect where
  | start
  | stop
  | setConfig (config : Option StaConfig)
  | connect (accepted : Bool)
  | disconnect (accepted : Bool)
  | scanStop
  | notifyScanTask
  | connectivityStart
  | connectivityStop
  | connectResult (error : ℕ) (details : Text)
  | connecting
  | passwordRequested (ssid : Text)
  | scanStateChanged (isEnabled : Bool)
  deriving DecidableEq

/-- How the driver answers the calls of one handler. -/
structure DriverAnswers where
  setConfig : Bool := true
  connect : Bool := true
  disconnect : Bool := true
  deriving DecidableEq

/-- `wifi_connect` -/
def wifiConnect (ssid password : Text) (answers : DriverAnswers) : List Effect :=
  if ssid = [] then []
  else
    let authmode := if password = [] then AuthMode.openNetwork else .wpa2Psk
    let config : StaConfig :=
      { ssid := .ofText _ ssid
        password := .ofText _ password
        thresholdRssi := 0
        thresholdAuthmode := authmode }
    -- the threshold chosen from the password is overwritten
    let config := { config with thresholdRssi := -80, thresholdAuthmode := .wpa2Psk }
    .setConfig (some config) ::
      if answers.setConfig then [.connect answers.connect] else []

/-! ## The manager -/

/-- `wifi_mgr_t`, with `s_pending_ssid`. -/
structure WifiMgr where
  scanning : Bool := false
  scanRequested : Bool := false
  interfaceStarted : Bool := false
  connected : Bool := false
  pendingSave : Bool := false
  networkSsid : CharArray 33 := .empty
  networkPassword : CharArray 64 := .empty
  pendingConnect : Bool := false
  pendingConnectFromUartCredentials : Bool := false
  uartPasswordReady : Bool := false
  uartNetworkSsid : CharArray 33 := .empty
  uartNetworkPassword : CharArray 64 := .empty
  autoStartWifi : Bool := false
  autoConnectFromSaved : Bool := false
  reconnectSuppressed : Bool := false
  ipLost : Bool := true
  saveTimer : OneShotTimer := { period := 3000 }
  reconnectTimer : OneShotTimer := { period := 2000 }
  lastSaveHash : BitVec 32 := 0
  pendingSsid : CharArray 33 := .empty
  deriving DecidableEq

/-- The connection that `on_uart_event` makes after its wait. -/
structure UartConnect where
  ssid : Text
  password : Text
  deriving DecidableEq

/-- The driver request that `reconnect_timer_cb` makes after its section. -/
inductive Recovery where
  | disconnect
  | connect
  deriving DecidableEq

namespace WifiMgr

/-- The manager after `wifi_ctrl_init`, with what `wifi_ctrl_load_state` reads from NVS. -/
def loadState (wasEnabled : Bool) (saved : Option (CharArray 33 × CharArray 65)) : WifiMgr :=
  match wasEnabled, saved with
  | true, some (savedSsid, savedPass) =>
      { uartNetworkSsid := .ofText _ savedSsid.text
        uartNetworkPassword := .ofText _ savedPass.text
        uartPasswordReady := true
        autoConnectFromSaved := true
        autoStartWifi := true
        networkSsid := .ofText _ savedSsid.text
        networkPassword := .ofText _ savedPass.text }
  | _, _ => { autoStartWifi := true }

/-- The fields that `calculate_state_hash` reads, hashed; `char` is unsigned on the target. -/
def hashOf (interfaceStarted connected : Bool) (networkSsid : Text) : BitVec 32 :=
  let enabled : BitVec 32 := if interfaceStarted then 0x1234 else 0x5678
  let hash := enabled ^^^ (if connected then 0x9ABC else 0xDEF0)
  if connected && networkSsid ≠ [] then
    networkSsid.zipIdx.foldl
      (fun hash entry => hash ^^^ BitVec.ofNat 32 (entry.1.toNat <<< (entry.2 % 4 * 8))) hash
  else hash

/-- `calculate_state_hash` -/
def stateHash (mgr : WifiMgr) : BitVec 32 :=
  hashOf mgr.interfaceStarted mgr.connected mgr.networkSsid.text

/-- `wifi_ctrl_schedule_state_save` -/
def scheduleStateSave (mgr : WifiMgr) : WifiMgr :=
  if mgr.stateHash = mgr.lastSaveHash then mgr
  else { mgr with pendingSave := true, saveTimer := mgr.saveTimer.stop.reset }

/-- `credentials_set_pending_ssid` -/
def setPendingSsid (mgr : WifiMgr) (ssid : Text) : WifiMgr :=
  { mgr with pendingSsid := .ofText _ ssid }

/-- `set_scanning`.  The wait for the scanner task is cut short: the flag it polls is still set. -/
def setScanning (mgr : WifiMgr) (scanning : Bool) : Bool × WifiMgr × List Effect :=
  if scanning then
    if mgr.interfaceStarted = false then (false, { mgr with scanRequested := true }, [])
    else if mgr.scanning then (true, { mgr with scanRequested := true }, [])
    else (true, { mgr with scanRequested := true }, [.notifyScanTask])
  else
    (mgr.scanning, { mgr with scanRequested := false },
      if mgr.scanning then [.scanStop] else [])

/-- `wifi_ctrl_try_stop_scanner` -/
def tryStopScanner (mgr : WifiMgr) : WifiMgr × List Effect :=
  let (stopped, mgr, effects) := mgr.setScanning false
  (mgr, if stopped then effects ++ [.scanStateChanged mgr.scanning] else effects)

/-- `connect_to_network` -/
def connectToNetwork (mgr : WifiMgr) (ssid password : Text) (answers : DriverAnswers) :
    WifiMgr × List Effect :=
  let (mgr, effects) := mgr.tryStopScanner
  (mgr, effects ++ wifiConnect ssid password answers)

/-- `post_connect_error` -/
def postConnectError (error : ℕ) (details : Text) : Effect :=
  .connectResult error (CharArray.ofText 64 details).text

/-! ## Wi-Fi events -/

/-- `on_wifi_event`, `WIFI_EVENT_STA_START` -/
def onStaStart (mgr : WifiMgr) (answers : DriverAnswers) : WifiMgr × List Effect :=
  let mgr := { mgr with interfaceStarted := true, reconnectSuppressed := false }
  if mgr.autoConnectFromSaved && mgr.networkSsid.text ≠ [] && mgr.networkPassword.text ≠ [] then
    let mgr := { mgr with pendingConnect := true }.setPendingSsid mgr.networkSsid.text
    let (mgr, effects) := mgr.connectToNetwork mgr.networkSsid.text mgr.networkPassword.text answers
    (mgr.scheduleStateSave, effects)
  else (mgr.scheduleStateSave, [])

/-- `on_wifi_event`, `WIFI_EVENT_STA_STOP` -/
def onStaStop (mgr : WifiMgr) : WifiMgr × List Effect :=
  let mgr :=
    { mgr with
      reconnectTimer := mgr.reconnectTimer.stop
      interfaceStarted := false
      connected := false
      ipLost := true
      pendingConnectFromUartCredentials := false
      networkSsid := .empty
      networkPassword := .empty }
  let (_, mgr, effects) := mgr.setScanning false
  (mgr.scheduleStateSave, effects ++ [.connectivityStop])

/-- `on_wifi_event`, `WIFI_EVENT_STA_CONNECTED`.  `configPassword` is the password of the driver's
configuration, `saved` what NVS holds; `none` when reading it fails. -/
def onStaConnected (mgr : WifiMgr) (ssid : Text) (configPassword : Option Text)
    (saved : Option (CharArray 33 × CharArray 65)) : WifiMgr × List Effect :=
  let mgr :=
    { mgr with
      connected := true
      ipLost := true
      reconnectTimer := mgr.reconnectTimer.stop
      networkSsid := .ofText _ ssid }
  let mgr :=
    match configPassword with
    | some password =>
        if password = [] then mgr else { mgr with networkPassword := .ofText _ password }
    | none => mgr
  let mgr :=
    if mgr.pendingConnectFromUartCredentials then
      let mgr :=
        match saved with
        | some (savedSsid, savedPass) =>
            { mgr with
              uartNetworkSsid := .ofText _ savedSsid.text
              uartNetworkPassword := .ofText _ savedPass.text }
        | none => mgr
      { mgr with pendingConnectFromUartCredentials := false }
    else mgr
  (mgr.scheduleStateSave, [])

/-- `WIFI_REASON_UNSPECIFIED` -/
abbrev reasonUnspecified : ℕ := 1

/-- `WIFI_REASON_ASSOC_LEAVE` -/
abbrev reasonAssocLeave : ℕ := 8

/-- The network a disconnection is about, as `on_wifi_event` determines it. -/
def disconnectTarget (mgr : WifiMgr) (ssid : Text) : CharArray 33 :=
  if ssid ≠ [] then .ofText _ ssid
  else if mgr.pendingConnect && mgr.pendingSsid.text ≠ [] then mgr.pendingSsid
  else if mgr.networkSsid.text ≠ [] then mgr.networkSsid
  else if mgr.pendingConnectFromUartCredentials && mgr.uartNetworkSsid.text ≠ [] then
    mgr.uartNetworkSsid
  else .empty

/-- The message posted for a disconnection while the portal is not running. -/
def disconnectMessage (mgr : WifiMgr) (target : Text) (reason : ℕ) : Effect :=
  if reason = reasonAssocLeave ∨ reason = reasonUnspecified then
    postConnectError reason (ascii "Disconnected from " ++ target)
  else if mgr.pendingConnect || mgr.pendingConnectFromUartCredentials then
    postConnectError reason (ascii "Failed to connect to " ++ target)
  else postConnectError reason (ascii "Failed to auto-connect to " ++ target)

/-- `should_reconnect` of the `WIFI_EVENT_STA_DISCONNECTED` handler -/
def shouldReconnect (mgr : WifiMgr) (portalRunning : Bool) (target : Text) : Bool :=
  mgr.interfaceStarted && !mgr.reconnectSuppressed && !portalRunning && target ≠ []

/-- `on_wifi_event`, `WIFI_EVENT_STA_DISCONNECTED` -/
def onStaDisconnected (mgr : WifiMgr) (portalRunning : Bool) (ssid : Text) (reason : ℕ) :
    WifiMgr × List Effect :=
  let target := mgr.disconnectTarget ssid
  let effects := if portalRunning then [] else [mgr.disconnectMessage target.text reason]
  let reconnect := mgr.shouldReconnect portalRunning target.text
  let mgr :=
    { mgr with
      connected := false
      ipLost := true
      pendingConnectFromUartCredentials := false
      pendingConnect := false
      pendingSsid := .empty }
  let mgr :=
    if reconnect then
      { mgr with networkSsid := target, reconnectTimer := mgr.reconnectTimer.reset }
    else { mgr with networkSsid := .empty, networkPassword := .empty }
  (mgr.scheduleStateSave, effects ++ [.connectivityStop])

/-! ## IP events -/

/-- `on_ip_event`, `IP_EVENT_STA_GOT_IP` -/
def onGotIp (mgr : WifiMgr) : WifiMgr × List Effect :=
  ({ mgr with ipLost := false, reconnectTimer := mgr.reconnectTimer.stop }, [.connectivityStart])

/-- `on_ip_event`, `IP_EVENT_STA_LOST_IP` -/
def onLostIp (mgr : WifiMgr) : WifiMgr × List Effect :=
  let mgr := { mgr with ipLost := true }
  (if mgr.reconnectSuppressed then mgr
    else { mgr with reconnectTimer := mgr.reconnectTimer.reset }, [.connectivityStop])

/-! ## Requests of the user interface -/

/-- `on_ui_request`, `WIFI_ENABLE_REQ` -/
def onEnableRequest (mgr : WifiMgr) : Option Bool → WifiMgr × List Effect
  | none => (mgr, [])
  | some true =>
      ({ mgr with reconnectSuppressed := false }, if mgr.interfaceStarted then [] else [.start])
  | some false =>
      let mgr :=
        { mgr with reconnectSuppressed := true, reconnectTimer := mgr.reconnectTimer.stop }
      if mgr.interfaceStarted then
        let (_, mgr, effects) := mgr.setScanning false
        (mgr, effects ++ [.stop])
      else (mgr, [])

/-- `on_ui_request`, `SCAN_ENABLE_REQ` -/
def onScanEnableRequest (mgr : WifiMgr) : Option Bool → WifiMgr × List Effect
  | none => (mgr, [])
  | some enabled => (mgr.setScanning enabled).2

/-- `on_ui_request`, `SET_NETWORK_REQ` -/
def onSetNetworkRequest (mgr : WifiMgr) : Option Text → WifiMgr × List Effect
  | none => (mgr, [])
  | some ssid =>
      ({ mgr with networkSsid := .ofText _ ssid },
        if ssid = [] then [] else [.passwordRequested (CharArray.ofText 32 ssid).text])

/-- `on_ui_request`, `CONNECT_REQ` -/
def onConnectRequest (mgr : WifiMgr) (password : Option Text) (answers : DriverAnswers) :
    WifiMgr × List Effect :=
  if !mgr.connected && mgr.interfaceStarted then
    let mgr := { mgr with reconnectSuppressed := false }
    match password with
    | none => (mgr, [])
    | some password =>
        let mgr := { mgr with networkPassword := .ofText _ password }
        if mgr.networkSsid.text ≠ [] ∧ mgr.networkPassword.text ≠ [] then
          let mgr := { mgr with pendingConnect := true }.setPendingSsid mgr.networkSsid.text
          let (mgr, stopEffects) := mgr.tryStopScanner
          let (mgr, effects) :=
            mgr.connectToNetwork mgr.networkSsid.text mgr.networkPassword.text answers
          (mgr, stopEffects ++ .connecting :: effects)
        else (mgr, [])
  else (mgr, [postConnectError 0 (ascii "Already connected to network")])

/-- `on_ui_request`, `DISCONNECT_REQ` -/
def onDisconnectRequest (mgr : WifiMgr) (answers : DriverAnswers) : WifiMgr × List Effect :=
  if mgr.connected then
    ({ mgr with reconnectSuppressed := true, reconnectTimer := mgr.reconnectTimer.stop },
      [.disconnect answers.disconnect])
  else (mgr, [])

/-! ## UART credentials -/

/-- `on_uart_event` up to the wait.  `saved` is what NVS holds, read into buffers of 32 and 64 bytes. -/
def onUartCredentials (mgr : WifiMgr) (ssid : CharArray 33) (password : CharArray 64)
    (saved : Option (CharArray 32 × CharArray 64)) (answers : DriverAnswers) :
    WifiMgr × List Effect × Option UartConnect :=
  let mgr := { mgr with uartNetworkPassword := password }
  let mgr := if ssid.text ≠ [] then { mgr with uartNetworkSsid := ssid } else mgr
  let mgr := { mgr with uartPasswordReady := true }
  let (mgr, ssidToUse) :=
    if ssid.text ≠ [] then (mgr, ssid.text)
    else
      match saved with
      | some (savedSsid, _) =>
          ({ mgr with uartNetworkSsid := .ofText _ savedSsid.text }, savedSsid.text)
      | none => (mgr, [])
  if ssidToUse = [] then (mgr, [], none)
  else
    let connect : UartConnect := ⟨ssidToUse, password.text⟩
    if mgr.connected then
      ({ mgr with reconnectSuppressed := true }, [.disconnect answers.disconnect], some connect)
    else (mgr, [], some connect)

/-- `on_uart_event` after the wait. -/
def onUartConnect (mgr : WifiMgr) (connect : UartConnect) (answers : DriverAnswers) :
    WifiMgr × List Effect :=
  let mgr :=
    { mgr with
      pendingConnect := true
      pendingConnectFromUartCredentials := true
      reconnectSuppressed := false }.setPendingSsid connect.ssid
  let (mgr, effects) := mgr.connectToNetwork connect.ssid connect.password answers
  (mgr, .setConfig none :: effects)

/-! ## Recovery -/

/-- The section of `reconnect_timer_cb`; `none` when the callback returns without a request. -/
def recoverySection (mgr : WifiMgr) (portalRunning : Bool) : WifiMgr × Option Recovery :=
  let recoveryAllowed := mgr.interfaceStarted && !mgr.reconnectSuppressed && !portalRunning
  let forceReassociate := recoveryAllowed && mgr.connected && mgr.ipLost
  let reconnectStation := recoveryAllowed && !mgr.connected && mgr.networkSsid.text ≠ []
  let mgr := if forceReassociate then { mgr with ipLost := false } else mgr
  if forceReassociate then (mgr, some .disconnect)
  else if reconnectStation then (mgr, some .connect)
  else (mgr, none)

/-- `reconnect_timer_cb` after the driver has answered its request. -/
def recoveryAnswered (mgr : WifiMgr) (accepted : Bool) : WifiMgr :=
  if accepted then mgr else { mgr with reconnectTimer := mgr.reconnectTimer.reset }

/-! ## What the handlers do to the recovery -/

section Frames

variable (mgr : WifiMgr)

/-- Scheduling a save changes the pending flag and the save timer only. -/
theorem scheduleStateSave_field {α : Type} (field : WifiMgr → α)
    (hfield : ∀ mgr pendingSave saveTimer,
      field { mgr with pendingSave := pendingSave, saveTimer := saveTimer } = field mgr) :
    field mgr.scheduleStateSave = field mgr := by
  unfold scheduleStateSave
  split
  · rfl
  · exact hfield mgr _ _

@[simp] theorem setScanning_mgr (scanning : Bool) :
    (mgr.setScanning scanning).2.1 = { mgr with scanRequested := scanning } := by
  cases scanning <;> simp only [setScanning, if_true, Bool.false_eq_true, if_false]
  split_ifs <;> rfl

@[simp] theorem tryStopScanner_mgr : mgr.tryStopScanner.1 = { mgr with scanRequested := false } :=
  mgr.setScanning_mgr false

@[simp] theorem connectToNetwork_mgr (ssid password : Text) (answers : DriverAnswers) :
    (mgr.connectToNetwork ssid password answers).1 = { mgr with scanRequested := false } :=
  mgr.tryStopScanner_mgr

@[simp] theorem scheduleStateSave_reconnectTimer :
    mgr.scheduleStateSave.reconnectTimer = mgr.reconnectTimer :=
  mgr.scheduleStateSave_field reconnectTimer fun _ _ _ => rfl

@[simp] theorem scheduleStateSave_reconnectSuppressed :
    mgr.scheduleStateSave.reconnectSuppressed = mgr.reconnectSuppressed :=
  mgr.scheduleStateSave_field reconnectSuppressed fun _ _ _ => rfl

@[simp] theorem scheduleStateSave_ipLost : mgr.scheduleStateSave.ipLost = mgr.ipLost :=
  mgr.scheduleStateSave_field ipLost fun _ _ _ => rfl

@[simp] theorem setPendingSsid_reconnectTimer (ssid : Text) :
    (mgr.setPendingSsid ssid).reconnectTimer = mgr.reconnectTimer := rfl

@[simp] theorem setPendingSsid_reconnectSuppressed (ssid : Text) :
    (mgr.setPendingSsid ssid).reconnectSuppressed = mgr.reconnectSuppressed := rfl

theorem onStaStart_reconnectTimer (answers : DriverAnswers) :
    (mgr.onStaStart answers).1.reconnectTimer = mgr.reconnectTimer := by
  unfold onStaStart
  dsimp only
  split <;> simp

theorem onStaStart_reconnectSuppressed (answers : DriverAnswers) :
    (mgr.onStaStart answers).1.reconnectSuppressed = false := by
  unfold onStaStart
  dsimp only
  split <;> simp

theorem onStaConnected_reconnectSuppressed (ssid : Text) (configPassword : Option Text)
    (saved : Option (CharArray 33 × CharArray 65)) :
    (mgr.onStaConnected ssid configPassword saved).1.reconnectSuppressed =
      mgr.reconnectSuppressed := by
  cases configPassword <;> cases saved <;>
    simp only [onStaConnected, scheduleStateSave_reconnectSuppressed] <;> split_ifs <;> rfl

theorem onScanEnableRequest_reconnectTimer (enabled : Option Bool) :
    (mgr.onScanEnableRequest enabled).1.reconnectTimer = mgr.reconnectTimer := by
  cases enabled <;> simp [onScanEnableRequest]

theorem onScanEnableRequest_reconnectSuppressed (enabled : Option Bool) :
    (mgr.onScanEnableRequest enabled).1.reconnectSuppressed = mgr.reconnectSuppressed := by
  cases enabled <;> simp [onScanEnableRequest]

theorem onSetNetworkRequest_reconnectTimer (ssid : Option Text) :
    (mgr.onSetNetworkRequest ssid).1.reconnectTimer = mgr.reconnectTimer := by
  cases ssid <;> rfl

theorem onSetNetworkRequest_reconnectSuppressed (ssid : Option Text) :
    (mgr.onSetNetworkRequest ssid).1.reconnectSuppressed = mgr.reconnectSuppressed := by
  cases ssid <;> rfl

theorem onUartConnect_reconnectTimer (connect : UartConnect) (answers : DriverAnswers) :
    (mgr.onUartConnect connect answers).1.reconnectTimer = mgr.reconnectTimer := by
  simp [onUartConnect]

theorem onUartConnect_reconnectSuppressed (connect : UartConnect) (answers : DriverAnswers) :
    (mgr.onUartConnect connect answers).1.reconnectSuppressed = false := by
  simp [onUartConnect]

end Frames

end WifiMgr

end CrowPanel.Wifi
