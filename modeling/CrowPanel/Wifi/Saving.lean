import CrowPanel.Wifi.Recovery

/-!
# Saving the Wi-Fi state

The manager writes its state to NVS in two ways: `save_state_timer_cb`, some time after a handler has
scheduled it, and `wifi_ctrl_force_state_save`.  Neither holds the mutex while it writes.  The callback
writes the network from the manager's own buffers, which the handlers go on changing; the forced save
writes copies that it has made before.

`SavingStation` puts the station together with the saves in progress and with NVS, whose writes
succeed.  A step of a save ends where the mutex is released or where NVS or a buffer is accessed
without it.  The associations, the saved pairs and the state behind `last_save_hash` are ghosts.
-/

namespace CrowPanel.Wifi

open Library

/-! ## Storage -/

/-- What NVS holds for Wi-Fi. -/
structure Nvs where
  wifiEnabled : Option Bool := none
  wifiSsid : Option Text := none
  wifiPass : Option Text := none
  deriving DecidableEq

namespace Nvs

/-- `settings_config_save_wifi_enabled` -/
def saveWifiEnabled (nvs : Nvs) (enabled : Bool) : Nvs :=
  { nvs with wifiEnabled := some enabled }

/-- The first half of `save_wifi_credentials_to_nvs` -/
def saveSsid (nvs : Nvs) (ssid : Text) : Nvs :=
  if ssid ≠ [] then { nvs with wifiSsid := some ssid } else nvs

/-- The second half of `save_wifi_credentials_to_nvs` -/
def savePassword (nvs : Nvs) (password : Text) : Nvs :=
  if password ≠ [] then { nvs with wifiPass := some password } else { nvs with wifiPass := none }

/-- `save_wifi_credentials_to_nvs` -/
def saveCredentials (nvs : Nvs) (ssid password : Text) : Nvs :=
  (nvs.saveSsid ssid).savePassword password

/-- NVS holds the flag and the network; a network without a password has none stored. -/
structure Holds (nvs : Nvs) (enabled : Bool) (ssid password : Text) : Prop where
  wifiEnabled : nvs.wifiEnabled = some enabled
  wifiSsid : nvs.wifiSsid = some ssid
  wifiPass : nvs.wifiPass.getD [] = password

end Nvs

/-! ## Saves in progress -/

/-- The part of the manager that a save is about. -/
structure WifiState where
  interfaceStarted : Bool
  connected : Bool
  networkSsid : CharArray 33
  networkPassword : CharArray 64
  deriving DecidableEq

def WifiMgr.wifiState (mgr : WifiMgr) : WifiState :=
  ⟨mgr.interfaceStarted, mgr.connected, mgr.networkSsid, mgr.networkPassword⟩

/-- What `calculate_state_hash` makes of a state; it leaves out the password. -/
def WifiState.hash (state : WifiState) : BitVec 32 :=
  WifiMgr.hashOf state.interfaceStarted state.connected state.networkSsid.text

/-- What `save_state_timer_cb` does next after its first section. -/
inductive SaveStage where
  | saveEnabled
  /-- `wifi_was_connected && strlen(s_mgr.network_ssid) > 0` -/
  | testSsid
  | saveSsid
  | savePassword (ssid : Text)
  | finish
  deriving DecidableEq

/-- A `save_state_timer_cb` that has released the mutex, with its local variables.  `taken` and
`passwordThen` are ghosts: the state in its first section, and `network_password` when the SSID was
read. -/
structure SaveCallback where
  currentHash : BitVec 32
  wifiWasEnabled : Bool
  wifiWasConnected : Bool
  taken : WifiState
  passwordThen : Text := []
  stage : SaveStage := .saveEnabled
  deriving DecidableEq

/-- A `wifi_ctrl_force_state_save` that has released the mutex, with its local variables. -/
structure ForcedSave where
  wifiWasEnabled : Bool
  wifiWasConnected : Bool
  ssidCopy : CharArray 33
  passCopy : CharArray 65
  enabledSaved : Bool := false
  deriving DecidableEq

/-- The station with the saves in progress and with NVS. -/
structure SavingStation where
  station : Station
  nvs : Nvs := {}
  callback : Option SaveCallback := none
  forced : List ForcedSave := []
  /-- ghost: the pairs handed to `save_wifi_credentials_to_nvs` -/
  saved : List (Text × Text) := []
  /-- ghost: the associations, each with the password of the driver's configuration -/
  associated : List (Text × Text) := []
  /-- ghost: the state that `last_save_hash` was computed from -/
  lastSaved : Option WifiState := none
  deriving DecidableEq

/-- Steps of the station, calls of the two save functions, and steps of the saves in progress.  An
association comes with the password of the driver's configuration, which the handler may fail to
read. -/
inductive SaveEvent where
  | station (event : StationEvent)
  | associated (ssid : CharArray 33) (password : CharArray 65) (readable : Bool)
      (saved : Option (CharArray 33 × CharArray 65))
  | schedule
  | timerExpiry
  | timerCallback
  | callbackStep
  | force
  | forcedStep (place : ℕ)
  deriving DecidableEq

namespace WifiMgr

def withSaveTimer (mgr : WifiMgr) (saveTimer : OneShotTimer) : WifiMgr :=
  { mgr with saveTimer }

/-- The first section of `save_state_timer_cb`; `none` when the callback ends with it. -/
def saveSection (mgr : WifiMgr) : WifiMgr × Option SaveCallback :=
  if mgr.pendingSave = false then (mgr, none)
  else if mgr.stateHash ≠ mgr.lastSaveHash then
    (mgr,
      some
        { currentHash := mgr.stateHash
          wifiWasEnabled := mgr.interfaceStarted
          wifiWasConnected := mgr.connected
          taken := mgr.wifiState })
  else ({ mgr with pendingSave := false }, none)

/-- `wifi_ctrl_force_state_save` up to the release of the mutex. -/
def forceSection (mgr : WifiMgr) : WifiMgr × ForcedSave :=
  let mgr := { mgr with saveTimer := mgr.saveTimer.stop }
  let forced : ForcedSave :=
    { wifiWasEnabled := mgr.interfaceStarted
      wifiWasConnected := mgr.connected
      ssidCopy := if mgr.connected then .ofText _ mgr.networkSsid.text else .empty
      passCopy := if mgr.connected then .ofText _ mgr.networkPassword.text else .empty }
  ({ mgr with lastSaveHash := mgr.stateHash, pendingSave := false }, forced)

/-- A forced save takes both buffers of a connected station whole. -/
theorem forceSection_copied (mgr : WifiMgr) (hconnected : mgr.connected = true) :
    mgr.forceSection.2.ssidCopy.text = mgr.networkSsid.text ∧
      mgr.forceSection.2.passCopy.text = mgr.networkPassword.text := by
  have hfits := mgr.networkPassword.fits
  have hpassword : (CharArray.ofText 65 mgr.networkPassword.text).text = mgr.networkPassword.text :=
    CharArray.ofText_text mgr.networkPassword.noNul (by omega)
  simp [forceSection, hconnected, hpassword]

end WifiMgr

/-- The SSID that a request selects. -/
def StationEvent.selected : StationEvent → Option Text
  | .loop (.setNetworkRequest ssid) => ssid
  | _ => none

/-- The step of the station behind an event. -/
def SaveEvent.stationEvent : SaveEvent → Option StationEvent
  -- associations come with the password of the driver's configuration
  | .station (.loop (.staConnected _ _ _)) => none
  | .station event => some event
  | .associated ssid password readable saved =>
      some (.loop (.staConnected ssid.text (if readable then some password.text else none) saved))
  | _ => none

/-- The SSID of an association with the password of the driver's configuration. -/
def SaveEvent.association : SaveEvent → Option (Text × Text)
  | .associated ssid password _ _ => some (ssid.text, password.text)
  | _ => none

namespace SavingStation

def mgr (store : SavingStation) : WifiMgr :=
  store.station.mgr

def withMgr (store : SavingStation) (mgr : WifiMgr) : SavingStation :=
  { store with station := { store.station with mgr } }

/-- A step of the station. -/
def stationStep (store : SavingStation) (event : SaveEvent) : Option SavingStation :=
  event.stationEvent.bind fun stationEvent =>
    (store.station.step stationEvent).map fun station =>
      { store with station, associated := event.association.toList ++ store.associated }

/-- The next step of a callback that has released the mutex. -/
def callbackStep (store : SavingStation) (callback : SaveCallback) : SavingStation :=
  match callback.stage with
  | .saveEnabled =>
      { store with
        nvs := store.nvs.saveWifiEnabled callback.wifiWasEnabled
        callback := some { callback with stage := .testSsid } }
  | .testSsid =>
      let found := callback.wifiWasConnected && store.mgr.networkSsid.text ≠ []
      { store with
        callback := some { callback with stage := if found then .saveSsid else .finish } }
  | .saveSsid =>
      let ssid := store.mgr.networkSsid.text
      { store with
        nvs := store.nvs.saveSsid ssid
        callback :=
          some
            { callback with
              passwordThen := store.mgr.networkPassword.text
              stage := .savePassword ssid } }
  | .savePassword ssid =>
      let password := store.mgr.networkPassword.text
      { store with
        nvs := store.nvs.savePassword password
        saved := (ssid, password) :: store.saved
        callback := some { callback with stage := .finish } }
  | .finish =>
      { store.withMgr { store.mgr with
          lastSaveHash := callback.currentHash
          pendingSave := false } with
        callback := none
        lastSaved := some callback.taken }

/-- The next step of a forced save that has released the mutex. -/
def forcedStep (store : SavingStation) (place : ℕ) (forced : ForcedSave) : SavingStation :=
  if forced.enabledSaved = false then
    { store with
      nvs := store.nvs.saveWifiEnabled forced.wifiWasEnabled
      forced := store.forced.set place { forced with enabledSaved := true } }
  else
    let ended := { store with forced := store.forced.eraseIdx place }
    if forced.wifiWasConnected && forced.ssidCopy.text ≠ [] then
      { ended with
        nvs := store.nvs.saveCredentials forced.ssidCopy.text forced.passCopy.text
        saved := (forced.ssidCopy.text, forced.passCopy.text) :: store.saved }
    else ended

def step (store : SavingStation) (event : SaveEvent) : Option SavingStation :=
  match event with
  | .station _ | .associated _ _ _ _ => store.stationStep event
  | .schedule => some (store.withMgr store.mgr.scheduleStateSave)
  -- the timer task is busy while a callback runs
  | .timerExpiry =>
      if store.callback.isSome then none
      else store.mgr.saveTimer.expire.map fun saveTimer =>
        store.withMgr (store.mgr.withSaveTimer saveTimer)
  | .timerCallback =>
      if store.callback.isSome then none
      else store.mgr.saveTimer.takeCallback.map fun saveTimer =>
        let saved := (store.mgr.withSaveTimer saveTimer).saveSection
        { store.withMgr saved.1 with callback := saved.2 }
  | .callbackStep => store.callback.map store.callbackStep
  | .force =>
      some
        { store.withMgr store.mgr.forceSection.1 with
          forced := store.forced ++ [store.mgr.forceSection.2]
          lastSaved := some store.mgr.wifiState }
  | .forcedStep place => store.forced[place]?.map (store.forcedStep place)

/-- The station after `wifi_ctrl_init`, with whatever NVS holds. -/
def machine : Machine SavingStation SaveEvent where
  start store := ∃ wasEnabled saved nvs,
    store = { station := { mgr := .loadState wasEnabled saved }, nvs }
  step := step

/-- The timer expires and its callback starts only while no callback runs. -/
theorem timerExpiry_step {store next : SavingStation}
    (hstep : store.step .timerExpiry = some next) :
    ∃ saveTimer, store.mgr.saveTimer.expire = some saveTimer ∧
      next = store.withMgr (store.mgr.withSaveTimer saveTimer) := by
  simp only [step] at hstep
  split at hstep
  · cases hstep
  · obtain ⟨saveTimer, hexpire, rfl⟩ := Option.map_eq_some_iff.mp hstep
    exact ⟨saveTimer, hexpire, rfl⟩

theorem timerCallback_step {store next : SavingStation}
    (hstep : store.step .timerCallback = some next) :
    ∃ saveTimer, store.callback = none ∧ store.mgr.saveTimer.takeCallback = some saveTimer ∧
      next = { store.withMgr (store.mgr.withSaveTimer saveTimer).saveSection.1 with
        callback := (store.mgr.withSaveTimer saveTimer).saveSection.2 } := by
  simp only [step] at hstep
  split at hstep
  · cases hstep
  · next hidle =>
      obtain ⟨saveTimer, htake, rfl⟩ := Option.map_eq_some_iff.mp hstep
      exact ⟨saveTimer, by simpa using hidle, htake, rfl⟩

/-- A save is pending, armed or in progress. -/
def Saving (store : SavingStation) : Prop :=
  store.mgr.pendingSave = true ∨ store.mgr.saveTimer.Live ∨ store.callback.isSome ∨ store.forced ≠ []

end SavingStation

/-! ## What a step of the station means for a save -/

/-- The variables of the saves are the same. -/
structure WifiMgr.SameSaves (before after : WifiMgr) : Prop where
  pendingSave : after.pendingSave = before.pendingSave
  saveTimer : after.saveTimer = before.saveTimer
  lastSaveHash : after.lastSaveHash = before.lastSaveHash

namespace WifiMgr

variable (mgr : WifiMgr)

@[simp] theorem scheduleStateSave_wifiState : mgr.scheduleStateSave.wifiState = mgr.wifiState :=
  mgr.scheduleStateSave_field wifiState fun _ _ _ => rfl

@[simp] theorem scheduleStateSave_connected : mgr.scheduleStateSave.connected = mgr.connected :=
  mgr.scheduleStateSave_field connected fun _ _ _ => rfl

@[simp] theorem scheduleStateSave_lastSaveHash :
    mgr.scheduleStateSave.lastSaveHash = mgr.lastSaveHash :=
  mgr.scheduleStateSave_field lastSaveHash fun _ _ _ => rfl

@[simp] theorem scheduleStateSave_networkSsid :
    mgr.scheduleStateSave.networkSsid = mgr.networkSsid :=
  mgr.scheduleStateSave_field networkSsid fun _ _ _ => rfl

@[simp] theorem scheduleStateSave_networkPassword :
    mgr.scheduleStateSave.networkPassword = mgr.networkPassword :=
  mgr.scheduleStateSave_field networkPassword fun _ _ _ => rfl

end WifiMgr

/-- What the handler of an association leaves in `network_password`. -/
def WifiMgr.passwordKept (mgr : WifiMgr) : Option Text → CharArray 64
  | some password => if password = [] then mgr.networkPassword else .ofText _ password
  | none => mgr.networkPassword

theorem WifiMgr.onStaConnected_eq (mgr : WifiMgr) (ssid : Text) (configPassword : Option Text)
    (saved : Option (CharArray 33 × CharArray 65)) :
    ∃ changed, (mgr.onStaConnected ssid configPassword saved).1 = changed.scheduleStateSave ∧
      changed.interfaceStarted = mgr.interfaceStarted ∧ mgr.SameSaves changed ∧
        changed.connected = true ∧ changed.networkSsid = .ofText _ ssid ∧
        changed.networkPassword = mgr.passwordKept configPassword := by
  cases configPassword <;> cases saved <;> simp only [onStaConnected] <;> split_ifs <;>
    refine ⟨_, rfl, rfl, ⟨rfl, rfl, rfl⟩, rfl, rfl, ?_⟩ <;> simp_all [passwordKept]

namespace Station

/-- The kinds of steps: a handler schedules a save, an association does so with a new network, a
selection changes the SSID, and any other step leaves a connected station as it was. -/
inductive StepKind (before after : WifiMgr) : StationEvent → Prop where
  | scheduled {event : StationEvent} (changed : WifiMgr) (hafter : after = changed.scheduleStateSave)
      (hsame : before.SameSaves changed)
      (hnetwork : changed.connected = true → before.connected = true ∧
        changed.networkSsid = before.networkSsid ∧
          changed.networkPassword = before.networkPassword) : StepKind before after event
  | associated {ssid : Text} {configPassword : Option Text}
      {saved : Option (CharArray 33 × CharArray 65)} (changed : WifiMgr)
      (hafter : after = changed.scheduleStateSave) (hsame : before.SameSaves changed)
      (hconnected : changed.connected = true) (hssid : changed.networkSsid = .ofText _ ssid)
      (hpassword : changed.networkPassword = before.passwordKept configPassword) :
      StepKind before after (.loop (.staConnected ssid configPassword saved))
  | selected (ssid : Text) (hafter : after = { before with networkSsid := .ofText _ ssid }) :
      StepKind before after (.loop (.setNetworkRequest (some ssid)))
  | quiet {event : StationEvent} (hsame : before.SameSaves after)
      (hstate : after.connected = true → after.wifiState = before.wifiState) :
      StepKind before after event

variable {station next : Station} {event : StationEvent}

/-- No handler touches `last_save_hash`. -/
theorem StepKind.lastSaveHash {before after : WifiMgr} (hkind : StepKind before after event) :
    after.lastSaveHash = before.lastSaveHash := by
  cases hkind with
  | scheduled changed hafter hsame | associated changed hafter hsame =>
      rw [hafter, WifiMgr.scheduleStateSave_lastSaveHash, hsame.lastSaveHash]
  | selected ssid hafter => rw [hafter]
  | quiet hsame => exact hsame.lastSaveHash

/-- Nothing of what a save is about has changed. -/
theorem StepKind.of_unchanged {before after : WifiMgr}
    (hpending : after.pendingSave = before.pendingSave)
    (htimer : after.saveTimer = before.saveTimer) (hhash : after.lastSaveHash = before.lastSaveHash)
    (hstate : after.wifiState = before.wifiState) : StepKind before after event :=
  .quiet ⟨hpending, htimer, hhash⟩ fun _ => hstate

theorem onEvent_kind (event : LoopEvent) :
    StepKind station.mgr (station.onEvent event).mgr (.loop event) := by
  cases event with
  | staStart answers =>
      simp only [onEvent, handled, WifiMgr.onStaStart]
      split
      · refine .scheduled _ rfl ?_ ?_
        · constructor <;> simp [WifiMgr.setPendingSsid]
        · simp [WifiMgr.setPendingSsid]
      · exact .scheduled _ rfl ⟨rfl, rfl, rfl⟩ fun hconnected => ⟨hconnected, rfl, rfl⟩
  | staStop =>
      refine .scheduled _ rfl ?_ ?_
      · constructor <;> simp
      · simp
  | staConnected ssid configPassword saved =>
      obtain ⟨changed, hafter, -, hsame, hconnected, hssid, hpassword⟩ :=
        station.mgr.onStaConnected_eq ssid configPassword saved
      exact .associated changed hafter hsame hconnected hssid hpassword
  | staDisconnected ssid reason =>
      simp only [onEvent, handled, WifiMgr.onStaDisconnected]
      split <;> exact .scheduled _ rfl ⟨rfl, rfl, rfl⟩ (by simp)
  | gotIp => exact .of_unchanged rfl rfl rfl rfl
  | lostIp =>
      simp only [onEvent, handled, WifiMgr.onLostIp]
      split <;> exact .of_unchanged rfl rfl rfl rfl
  | enableRequest enabled =>
      rcases enabled with - | (- | -) <;> simp only [onEvent, handled, WifiMgr.onEnableRequest]
      · exact .of_unchanged rfl rfl rfl rfl
      · split <;> refine .of_unchanged ?_ ?_ ?_ ?_ <;> simp [WifiMgr.wifiState]
      · exact .of_unchanged rfl rfl rfl rfl
  | scanEnableRequest enabled =>
      cases enabled with
      | none => exact .of_unchanged rfl rfl rfl rfl
      | some enabled =>
          refine .of_unchanged ?_ ?_ ?_ ?_ <;>
            simp [onEvent, handled, WifiMgr.onScanEnableRequest, WifiMgr.wifiState]
  | setNetworkRequest ssid =>
      cases ssid with
      | none => exact .of_unchanged rfl rfl rfl rfl
      | some ssid => exact .selected ssid rfl
  | connectRequest password answers =>
      simp only [onEvent, handled, WifiMgr.onConnectRequest]
      split
      · rename_i hidle
        have hdown : station.mgr.connected = false := by simp at hidle; exact hidle.1
        cases password with
        | none => exact .of_unchanged rfl rfl rfl rfl
        | some password =>
            dsimp only
            split
            · refine .quiet ?_ ?_
              · constructor <;> simp [WifiMgr.setPendingSsid]
              · simp [WifiMgr.setPendingSsid, hdown]
            · exact .quiet ⟨rfl, rfl, rfl⟩ (by simp [hdown])
      · exact .of_unchanged rfl rfl rfl rfl
  | disconnectRequest answers =>
      simp only [onEvent, handled, WifiMgr.onDisconnectRequest]
      split <;> exact .of_unchanged rfl rfl rfl rfl
  | uartCredentials ssid password saved answers =>
      simp only [onEvent, handled, WifiMgr.onUartCredentials]
      split_ifs <;> cases saved <;> refine .of_unchanged ?_ ?_ ?_ ?_ <;> simp [WifiMgr.wifiState]

/-- The state of which an event tells a station: a handler takes over what the driver reports or the
user asks for. -/
def announced (station : Station) : StationEvent → WifiState
  | .loop (.staStart _) => { station.mgr.wifiState with interfaceStarted := true }
  | .loop .staStop => ⟨false, false, .empty, .empty⟩
  | .loop (.staConnected ssid configPassword _) =>
      { station.mgr.wifiState with
        connected := true
        networkSsid := .ofText _ ssid
        networkPassword := station.mgr.passwordKept configPassword }
  | .loop (.staDisconnected ssid _) =>
      let target := station.mgr.disconnectTarget ssid
      if station.mgr.shouldReconnect station.portalRunning target.text then
        { station.mgr.wifiState with connected := false, networkSsid := target }
      else ⟨station.mgr.interfaceStarted, false, .empty, .empty⟩
  | .loop (.setNetworkRequest (some ssid)) =>
      { station.mgr.wifiState with networkSsid := .ofText _ ssid }
  | .loop (.connectRequest (some password) _) =>
      if !station.mgr.connected && station.mgr.interfaceStarted then
        { station.mgr.wifiState with networkPassword := .ofText _ password }
      else station.mgr.wifiState
  | _ => station.mgr.wifiState

theorem onEvent_wifiState (event : LoopEvent) :
    (station.onEvent event).mgr.wifiState = station.announced (.loop event) := by
  cases event with
  | staStart answers =>
      simp only [onEvent, handled, WifiMgr.onStaStart, announced]
      split <;> rw [WifiMgr.scheduleStateSave_wifiState] <;>
        simp [WifiMgr.setPendingSsid, WifiMgr.wifiState]
  | staStop =>
      simp only [onEvent, handled, WifiMgr.onStaStop, announced]
      rw [WifiMgr.scheduleStateSave_wifiState]
      simp [WifiMgr.wifiState]
  | staConnected ssid configPassword saved =>
      obtain ⟨changed, hafter, hstarted, -, hconnected, hssid, hpassword⟩ :=
        station.mgr.onStaConnected_eq ssid configPassword saved
      simp only [onEvent, handled, announced]
      rw [hafter, WifiMgr.scheduleStateSave_wifiState]
      simp [WifiMgr.wifiState, hstarted, hconnected, hssid, hpassword]
  | staDisconnected ssid reason =>
      simp only [onEvent, handled, WifiMgr.onStaDisconnected, announced]
      split <;> rw [WifiMgr.scheduleStateSave_wifiState] <;> simp [WifiMgr.wifiState]
  | gotIp => rfl
  | lostIp =>
      simp only [onEvent, handled, WifiMgr.onLostIp]
      split <;> rfl
  | enableRequest enabled =>
      rcases enabled with - | (- | -) <;> simp only [onEvent, handled, WifiMgr.onEnableRequest]
      · rfl
      · split <;> simp [WifiMgr.wifiState, announced]
      · rfl
  | scanEnableRequest enabled =>
      cases enabled with
      | none => rfl
      | some enabled =>
          simp [onEvent, handled, WifiMgr.onScanEnableRequest, WifiMgr.wifiState, announced]
  | setNetworkRequest ssid => cases ssid <;> rfl
  | connectRequest password answers =>
      simp only [onEvent, handled, WifiMgr.onConnectRequest]
      cases password with
      | none => split <;> rfl
      | some password =>
          simp only [announced]
          split
          · split <;> simp [WifiMgr.setPendingSsid, WifiMgr.wifiState]
          · rfl
  | disconnectRequest answers =>
      simp only [onEvent, handled, WifiMgr.onDisconnectRequest]
      split <;> rfl
  | uartCredentials ssid password saved answers =>
      simp only [onEvent, handled, WifiMgr.onUartCredentials, announced]
      split_ifs <;> cases saved <;> simp [WifiMgr.wifiState]

/-- Every step leaves the state that its event tells of. -/
theorem step_wifiState (hstep : station.step event = some next) :
    next.mgr.wifiState = station.announced event := by
  cases step_moves hstep with
  | loop event => exact onEvent_wifiState event
  | uartConnect answers =>
      simp [handled, WifiMgr.onUartConnect, WifiMgr.setPendingSsid, WifiMgr.wifiState, announced]
  | timerExpiry | portalStart | portalStop => rfl
  | timerCallback =>
      simp only [WifiMgr.recoverySection]
      split_ifs <;> rfl
  | timerRequest accepted => cases accepted <;> rfl

theorem step_kind (hstep : station.step event = some next) :
    StepKind station.mgr next.mgr event := by
  cases step_moves hstep with
  | loop event => exact onEvent_kind event
  | uartConnect answers =>
      refine .of_unchanged ?_ ?_ ?_ ?_ <;>
        simp [handled, WifiMgr.onUartConnect, WifiMgr.setPendingSsid, WifiMgr.wifiState]
  | timerExpiry | portalStart | portalStop => exact .of_unchanged rfl rfl rfl rfl
  | timerCallback =>
      simp only [WifiMgr.recoverySection]
      split_ifs <;> exact .of_unchanged rfl rfl rfl rfl
  | timerRequest accepted => cases accepted <;> exact .of_unchanged rfl rfl rfl rfl

end Station

namespace SavingStation

variable {store next : SavingStation} {event : SaveEvent}

/-- A step of the station leaves the saves in progress and NVS alone. -/
theorem stationStep_spec (hstep : store.stationStep event = some next) :
    ∃ stationEvent station, event.stationEvent = some stationEvent ∧
      store.station.step stationEvent = some station ∧
        Station.StepKind store.mgr station.mgr stationEvent ∧
          next = { store with
            station := station
            associated := event.association.toList ++ store.associated } := by
  obtain ⟨stationEvent, hevent, hmap⟩ := Option.bind_eq_some_iff.mp hstep
  obtain ⟨station, hstation, rfl⟩ := Option.map_eq_some_iff.mp hmap
  exact ⟨stationEvent, station, hevent, hstation, Station.step_kind hstation, rfl⟩

/-- The station handles an association only together with the driver's configuration. -/
theorem stationEvent_staConnected {ssid : Text} {configPassword : Option Text}
    {saved : Option (CharArray 33 × CharArray 65)}
    (hevent : event.stationEvent = some (.loop (.staConnected ssid configPassword saved))) :
    ∃ ssid' password readable, event = .associated ssid' password readable saved ∧
      ssid = ssid'.text ∧ configPassword = if readable then some password.text else none := by
  cases event with
  | associated ssid' password readable saved' =>
      simp only [SaveEvent.stationEvent, Option.some.injEq, StationEvent.loop.injEq,
        LoopEvent.staConnected.injEq] at hevent
      obtain ⟨rfl, rfl, rfl⟩ := hevent
      exact ⟨ssid', password, readable, rfl, rfl, rfl⟩
  | station event => rcases event with (_ | _) | _ <;> simp [SaveEvent.stationEvent] at hevent
  | _ => simp [SaveEvent.stationEvent] at hevent

theorem stationEvent_setNetworkRequest {ssid : Text}
    (hevent : event.stationEvent = some (.loop (.setNetworkRequest (some ssid)))) :
    event = .station (.loop (.setNetworkRequest (some ssid))) := by
  cases event with
  | associated ssid' password readable saved' => simp [SaveEvent.stationEvent] at hevent
  | station event => rcases event with (_ | _) | _ <;> simp_all [SaveEvent.stationEvent]
  | _ => simp [SaveEvent.stationEvent] at hevent

/-! ## Runs on one station -/

/-- A station without saved settings. -/
def fresh : SavingStation :=
  { station := .fresh }

theorem fresh_start : machine.start fresh :=
  ⟨false, none, {}, rfl⟩

/-- The events by which a user connects the station to a network. -/
def connecting (ssid password : Text) : List SaveEvent :=
  [.station (.loop (.setNetworkRequest (some ssid))),
    .station (.loop (.connectRequest (some password) {})),
    .associated (.ofText _ ssid) (.ofText _ password) true none]

/-- A whole `save_state_timer_cb` that saves a connection. -/
def timerSave : List SaveEvent :=
  [.timerExpiry, .timerCallback, .callbackStep, .callbackStep, .callbackStep, .callbackStep,
    .callbackStep]

end SavingStation

end CrowPanel.Wifi
