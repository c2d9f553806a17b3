import CrowPanel.Wifi.Saving

/-!
# Completeness of the saves

When no save is pending, armed or in progress, NVS should hold the state of a connected station.  The
change check compares hashes: it takes two networks for one when their SSIDs have the same exclusive
or, and it does not look at the password at all.  A change between the sections of
`save_state_timer_cb` is forgotten with the pending flag, a selection made while connected schedules
nothing, and a forced save may write after a later one.

## Strategy

`SaveKept` excludes these steps, by what an event tells the station (`Station.announced`).  Then the hash
of the state last saved tells it from every other connected state (`Told`).  So a connected station's
state is the one last saved, or a save of it is due or in progress; all saves in progress write the
same state, and what they have written so far stays (`Recorded`).
-/

namespace CrowPanel.Wifi

open Library

/-! ## What NVS holds -/

namespace Nvs

variable (nvs : Nvs)

/-- NVS holds a state whose save has been completed. -/
def Stores (state : WifiState) : Prop :=
  state.connected = true →
    nvs.Holds state.interfaceStarted state.networkSsid.text state.networkPassword.text

@[simp] theorem saveSsid_wifiEnabled (ssid : Text) :
    (nvs.saveSsid ssid).wifiEnabled = nvs.wifiEnabled := by
  unfold saveSsid
  split <;> rfl

theorem saveSsid_wifiSsid {ssid : Text} (hssid : ssid ≠ []) :
    (nvs.saveSsid ssid).wifiSsid = some ssid := by
  rw [saveSsid, if_pos hssid]

@[simp] theorem savePassword_wifiEnabled (password : Text) :
    (nvs.savePassword password).wifiEnabled = nvs.wifiEnabled := by
  unfold savePassword
  split <;> rfl

@[simp] theorem savePassword_wifiSsid (password : Text) :
    (nvs.savePassword password).wifiSsid = nvs.wifiSsid := by
  unfold savePassword
  split <;> rfl

@[simp] theorem savePassword_wifiPass (password : Text) :
    (nvs.savePassword password).wifiPass.getD [] = password := by
  unfold savePassword
  split
  · rfl
  · rename_i hempty
    exact (not_not.mp hempty).symm

/-- Saving the credentials completes the save of a connected state. -/
theorem saveCredentials_holds {enabled : Bool} {ssid : Text} (password : Text)
    (henabled : nvs.wifiEnabled = some enabled) (hssid : ssid ≠ []) :
    (nvs.saveCredentials ssid password).Holds enabled ssid password where
  wifiEnabled := by simpa [saveCredentials] using henabled
  wifiSsid := by simpa [saveCredentials] using nvs.saveSsid_wifiSsid hssid
  wifiPass := by simp [saveCredentials]

end Nvs

/-! ## Saves of one state -/

/-- A save of the state is pending, its timer will call the callback, and the hash tells it apart. -/
def WifiMgr.SaveDue (mgr : WifiMgr) : Prop :=
  mgr.pendingSave = true ∧ mgr.saveTimer.Live ∧ mgr.stateHash ≠ mgr.lastSaveHash

namespace WifiMgr

variable {mgr before after : WifiMgr}

theorem stateHash_congr (hstate : after.wifiState = before.wifiState) :
    after.stateHash = before.stateHash :=
  congrArg WifiState.hash hstate

theorem SaveDue.congr (hdue : before.SaveDue) (hsame : before.SameSaves after)
    (hstate : after.wifiState = before.wifiState) : after.SaveDue := by
  rw [SaveDue, hsame.pendingSave, hsame.saveTimer, hsame.lastSaveHash, stateHash_congr hstate]
  exact hdue

/-- Scheduling a save makes it due, unless the hash is that of the last one. -/
theorem scheduleStateSave_due
    (hhash : mgr.scheduleStateSave.stateHash ≠ mgr.scheduleStateSave.lastSaveHash) :
    mgr.scheduleStateSave.SaveDue := by
  refine ⟨?_, ?_, hhash⟩ <;> unfold scheduleStateSave at hhash ⊢ <;> split
  · rename_i hsame
    rw [if_pos hsame] at hhash
    exact absurd hsame hhash
  · rfl
  · rename_i hsame
    rw [if_pos hsame] at hhash
    exact absurd hsame hhash
  · exact .inl rfl

theorem saveSection_idle (mgr : WifiMgr) (hpending : mgr.pendingSave = false) :
    mgr.saveSection = (mgr, none) := by
  rw [saveSection, if_pos hpending]

/-- The change check finds nothing. -/
theorem saveSection_same (mgr : WifiMgr) (hpending : mgr.pendingSave = true)
    (hhash : mgr.stateHash = mgr.lastSaveHash) :
    mgr.saveSection = ({ mgr with pendingSave := false }, none) := by
  rw [saveSection, if_neg (by simp [hpending]), if_neg (not_not.mpr hhash)]

theorem saveSection_changed (mgr : WifiMgr) (hpending : mgr.pendingSave = true)
    (hhash : mgr.stateHash ≠ mgr.lastSaveHash) :
    mgr.saveSection = (mgr, some ⟨mgr.stateHash, mgr.interfaceStarted, mgr.connected, mgr.wifiState, [],
      .saveEnabled⟩) := by
  rw [saveSection, if_neg (by simp [hpending]), if_pos hhash]

end WifiMgr

/-- The forced save has copied the state. -/
def ForcedSave.Copies (forced : ForcedSave) (state : WifiState) : Prop :=
  forced.wifiWasEnabled = state.interfaceStarted ∧ forced.wifiWasConnected = state.connected ∧
    (state.connected = true → forced.ssidCopy.text = state.networkSsid.text ∧
      forced.passCopy.text = state.networkPassword.text)

instance (forced : ForcedSave) (state : WifiState) : Decidable (forced.Copies state) :=
  inferInstanceAs (Decidable (_ ∧ _ ∧ (_ → _)))

/-- The callback saves the state. -/
structure SaveCallback.Saves (callback : SaveCallback) (state : WifiState) : Prop where
  currentHash : callback.currentHash = state.hash
  wifiWasEnabled : callback.wifiWasEnabled = state.interfaceStarted
  wifiWasConnected : callback.wifiWasConnected = state.connected
  taken : callback.taken = state

/-- What a callback that saves the state has written before the stage. -/
def SaveStage.Written (nvs : Nvs) (state : WifiState) : SaveStage → Prop
  | .saveEnabled => True
  | .testSsid => nvs.wifiEnabled = some state.interfaceStarted
  | .saveSsid => nvs.wifiEnabled = some state.interfaceStarted ∧ state.networkSsid.text ≠ []
  | .savePassword ssid =>
      nvs.wifiEnabled = some state.interfaceStarted ∧ ssid = state.networkSsid.text ∧
        nvs.wifiSsid = some ssid
  | .finish => nvs.Stores state

namespace SaveStage

variable {nvs : Nvs} {state : WifiState} {stage : SaveStage}

/-- Another save of the same state may write the flag in between. -/
theorem Written.saveWifiEnabled (hwritten : stage.Written nvs state) :
    stage.Written (nvs.saveWifiEnabled state.interfaceStarted) state := by
  cases stage with
  | saveEnabled => trivial
  | testSsid => rfl
  | saveSsid => exact ⟨rfl, hwritten.2⟩
  | savePassword ssid => exact ⟨rfl, hwritten.2⟩
  | finish =>
      intro hconnected
      have hholds := hwritten hconnected
      exact ⟨rfl, hholds.wifiSsid, hholds.wifiPass⟩

/-- Another save of the same state may write the credentials in between. -/
theorem Written.saveCredentials (hwritten : stage.Written nvs state)
    (henabled : nvs.wifiEnabled = some state.interfaceStarted)
    (hssid : state.networkSsid.text ≠ []) :
    stage.Written (nvs.saveCredentials state.networkSsid.text state.networkPassword.text) state := by
  have hholds := nvs.saveCredentials_holds state.networkPassword.text henabled hssid
  cases stage with
  | saveEnabled => trivial
  | testSsid => exact hholds.wifiEnabled
  | saveSsid => exact ⟨hholds.wifiEnabled, hssid⟩
  | savePassword ssid =>
      obtain ⟨-, rfl, -⟩ := hwritten
      exact ⟨hholds.wifiEnabled, rfl, hholds.wifiSsid⟩
  | finish => exact fun _ => hholds

end SaveStage

/-! ## Runs without a lost save -/

namespace SavingStation

/-- A request to select a network while connected keeps the SSID, unless a save is on its way. -/
def SelectionKept (store : SavingStation) (event : SaveEvent) : Prop :=
  ∀ stationEvent ∈ event.stationEvent, ∀ ssid ∈ stationEvent.selected,
    store.mgr.connected = true →
      CharArray.ofText 33 ssid = store.mgr.networkSsid ∨
        (CharArray.ofText 33 ssid).text ≠ [] ∧ store.mgr.pendingSave = true ∧
          store.mgr.saveTimer.Live

/-- The state, if it is a connected one, is told from the state last saved by its hash.  Before the
first save `last_save_hash` is zero. -/
def Tells (store : SavingStation) (state : WifiState) : Prop :=
  state.connected = true → state.hash = store.lastSaved.elim 0 WifiState.hash →
    store.lastSaved = some state

/-- An event tells of the state in which the station is already, or of one that its hash tells from the
state last saved, while no callback is saving the old one. -/
def HandlerKept (store : SavingStation) (event : SaveEvent) : Prop :=
  ∀ stationEvent ∈ event.stationEvent,
    store.station.announced stationEvent = store.mgr.wifiState ∨
      store.callback = none ∧ store.Tells (store.station.announced stationEvent)

/-- The forced saves in progress are saves of the current state. -/
def ForcedCurrent (store : SavingStation) : Prop :=
  ∀ forced ∈ store.forced, forced.Copies store.mgr.wifiState

/-- The state before a step that loses no save. -/
def SaveKept (store : SavingStation) (event : SaveEvent) : Prop :=
  match event with
  | .station _ => store.SelectionKept event ∧ store.HandlerKept event
  | .associated ssid _ _ _ => ssid.text ≠ [] ∧ store.HandlerKept event
  | .timerCallback => store.mgr.pendingSave = true →
      store.mgr.stateHash ≠ store.mgr.lastSaveHash → store.ForcedCurrent
  | .force => store.ForcedCurrent
  | .schedule | .timerExpiry | .callbackStep | .forcedStep _ => True

instance (store : SavingStation) (event : SaveEvent) : Decidable (store.SelectionKept event) :=
  inferInstanceAs (Decidable (∀ _ ∈ _, ∀ _ ∈ _, _ → _ ∨ _))

instance (store : SavingStation) (state : WifiState) : Decidable (store.Tells state) :=
  inferInstanceAs (Decidable (_ → _ → _))

instance (store : SavingStation) (event : SaveEvent) : Decidable (store.HandlerKept event) :=
  inferInstanceAs (Decidable (∀ _ ∈ _, _ ∨ _ ∧ _))

instance (store : SavingStation) : Decidable store.ForcedCurrent :=
  inferInstanceAs (Decidable (∀ _ ∈ _, _))

instance (store : SavingStation) : ∀ event, Decidable (store.SaveKept event)
  | .station _ | .associated _ _ _ _ => inferInstanceAs (Decidable (_ ∧ _))
  | .timerCallback => inferInstanceAs (Decidable (_ → _ → _))
  | .force => inferInstanceAs (Decidable (ForcedCurrent _))
  | .schedule | .timerExpiry | .callbackStep | .forcedStep _ => inferInstanceAs (Decidable True)

/-- What is saved, being saved and due to be saved. -/
structure Recorded (store : SavingStation) : Prop where
  ssid : store.mgr.connected = true → store.mgr.networkSsid.text ≠ []
  savedSsid : ∀ state ∈ store.lastSaved, state.connected = true → state.networkSsid.text ≠ []
  /-- The forced saves in progress are saves of the state last saved. -/
  copies : ∀ forced ∈ store.forced, ∃ state ∈ store.lastSaved, forced.Copies state
  enabled : ∀ forced ∈ store.forced, forced.enabledSaved = true →
    store.nvs.wifiEnabled = some forced.wifiWasEnabled
  /-- While a callback is in progress all saves are saves of the current state. -/
  callback : ∀ callback ∈ store.callback, callback.Saves store.mgr.wifiState ∧
    callback.stage.Written store.nvs store.mgr.wifiState ∧ store.ForcedCurrent
  stored : store.callback = none → store.forced = [] → ∀ state ∈ store.lastSaved,
    store.nvs.Stores state
  due : store.mgr.connected = true → store.lastSaved = some store.mgr.wifiState ∨
    store.mgr.SaveDue ∨ store.callback.isSome = true

/-- `last_save_hash` is that of the state last saved, and tells it from any other connected state. -/
structure Told (store : SavingStation) : Prop where
  lastHash : store.mgr.lastSaveHash = store.lastSaved.elim 0 WifiState.hash
  told : store.Tells store.mgr.wifiState

variable {store next : SavingStation} {event : SaveEvent}

/-- The change check takes no connected state for another one. -/
theorem Told.lastSaved (htold : Told store) (hconnected : store.mgr.connected = true)
    (hhash : store.mgr.stateHash = store.mgr.lastSaveHash) :
    store.lastSaved = some store.mgr.wifiState :=
  htold.told hconnected (hhash.trans htold.lastHash)

/-- A step that changes neither the state nor `last_save_hash`. -/
theorem Told.congr (htold : Told store) (hstate : next.mgr.wifiState = store.mgr.wifiState)
    (hhash : next.mgr.lastSaveHash = store.mgr.lastSaveHash)
    (hsaved : next.lastSaved = store.lastSaved) : Told next := by
  refine ⟨?_, ?_⟩
  · rw [hhash, hsaved]
    exact htold.lastHash
  · unfold Tells
    rw [hstate, hsaved]
    exact htold.told

/-- The SSID stays nonempty while the station is connected. -/
theorem stationStep_ssid (hrecorded : Recorded store) (hkept : store.SaveKept event)
    (hstep : store.stationStep event = some next) (hconnected : next.mgr.connected = true) :
    next.mgr.networkSsid.text ≠ [] := by
  obtain ⟨stationEvent, station, hevent, -, hkind, rfl⟩ := stationStep_spec hstep
  change station.mgr.connected = true at hconnected
  change station.mgr.networkSsid.text ≠ []
  cases hkind with
  | scheduled changed hafter _ hnetwork =>
      rw [hafter, WifiMgr.scheduleStateSave_connected] at hconnected
      obtain ⟨hwas, hssid, -⟩ := hnetwork hconnected
      rw [hafter, WifiMgr.scheduleStateSave_networkSsid, hssid]
      exact hrecorded.ssid hwas
  | associated changed hafter _ _ hssid =>
      obtain ⟨ssid, password, readable, rfl, rfl, rfl⟩ := stationEvent_staConnected hevent
      rw [hafter, WifiMgr.scheduleStateSave_networkSsid, hssid, CharArray.ofText_self]
      exact hkept.1
  | selected ssid hafter =>
      obtain rfl := stationEvent_setNetworkRequest hevent
      rw [hafter] at hconnected ⊢
      rcases hkept.1 _ hevent ssid rfl hconnected with hsame | ⟨hnonempty, -⟩
      · exact hsame ▸ hrecorded.ssid hconnected
      · exact hnonempty
  | quiet _ hstate =>
      have hstate := hstate hconnected
      simp only [WifiMgr.wifiState, WifiState.mk.injEq] at hstate
      rw [hstate.2.2.1]
      exact hrecorded.ssid (hstate.2.1 ▸ hconnected)

/-- What a handler leaves is the state last saved, or a save of it is due. -/
theorem stationStep_due (hrecorded : Recorded store) (hkept : store.SaveKept event)
    (hhash : next.mgr.stateHash ≠ next.mgr.lastSaveHash)
    (hstep : store.stationStep event = some next) (hconnected : next.mgr.connected = true) :
    store.lastSaved = some next.mgr.wifiState ∨ next.mgr.SaveDue ∨ store.callback.isSome = true := by
  obtain ⟨stationEvent, station, hevent, -, hkind, rfl⟩ := stationStep_spec hstep
  change station.mgr.connected = true at hconnected
  change store.lastSaved = some station.mgr.wifiState ∨ station.mgr.SaveDue ∨ _
  change station.mgr.stateHash ≠ station.mgr.lastSaveHash at hhash
  cases hkind with
  | scheduled changed hafter | associated changed hafter =>
      rw [hafter] at hhash ⊢
      exact .inr (.inl (WifiMgr.scheduleStateSave_due hhash))
  | selected ssid hafter =>
      obtain rfl := stationEvent_setNetworkRequest hevent
      rw [hafter] at hconnected hhash ⊢
      rcases hkept.1 _ hevent ssid rfl hconnected with hsame | ⟨-, hpending, hlive⟩
      · rw [hsame]
        exact hrecorded.due hconnected
      · exact .inr (.inl ⟨hpending, hlive, hhash⟩)
  | quiet hsame hstate =>
      have hstate := hstate hconnected
      have hwas : store.mgr.connected = true :=
        (congrArg WifiState.connected hstate).symm.trans hconnected
      rw [hstate]
      rcases hrecorded.due hwas with hsaved | hdue | hcallback
      · exact .inl hsaved
      · exact .inr (.inl (hdue.congr hsame hstate))
      · exact .inr (.inr hcallback)

theorem handlerKept_of_saveKept (hkept : store.SaveKept event)
    (hstep : store.stationStep event = some next) : store.HandlerKept event := by
  obtain ⟨stationEvent, hevent, -⟩ := Option.bind_eq_some_iff.mp hstep
  cases event with
  | station | associated => exact hkept.2
  | _ => simp [SaveEvent.stationEvent] at hevent

theorem stationStep_told (htold : Told store) (hkept : store.SaveKept event)
    (hstep : store.stationStep event = some next) : Told next := by
  have hhandler := handlerKept_of_saveKept hkept hstep
  obtain ⟨stationEvent, station, hevent, hstation, hkind, rfl⟩ := stationStep_spec hstep
  have hstate : station.mgr.wifiState = store.station.announced stationEvent :=
    Station.step_wifiState hstation
  rcases hhandler stationEvent hevent with hsame | ⟨-, htells⟩
  · exact htold.congr (hstate.trans hsame) hkind.lastSaveHash rfl
  · refine ⟨hkind.lastSaveHash.trans htold.lastHash, ?_⟩
    change store.Tells station.mgr.wifiState
    rwa [hstate]

theorem stationStep_recorded (hrecorded : Recorded store) (htold : Told next)
    (hkept : store.SaveKept event) (hstep : store.stationStep event = some next) :
    Recorded next := by
  have hssid := stationStep_ssid hrecorded hkept hstep
  have hhandler := handlerKept_of_saveKept hkept hstep
  have hlast : next.lastSaved = store.lastSaved := by
    obtain ⟨_, _, _, _, _, rfl⟩ := stationStep_spec hstep
    rfl
  have hdue (hconnected : next.mgr.connected = true) : store.lastSaved = some next.mgr.wifiState ∨
      next.mgr.SaveDue ∨ store.callback.isSome = true := by
    by_cases hsame : next.mgr.stateHash = next.mgr.lastSaveHash
    · exact .inl (hlast.symm.trans (htold.lastSaved hconnected hsame))
    · exact stationStep_due hrecorded hkept hsame hstep hconnected
  obtain ⟨stationEvent, station, hevent, hstation, -, rfl⟩ := stationStep_spec hstep
  refine ⟨hssid, hrecorded.savedSsid, hrecorded.copies, hrecorded.enabled,
    fun callback hcallback => ?_, hrecorded.stored, hdue⟩
  -- while a callback is saving the state no event tells of another one
  have hsame : store.station.announced stationEvent = store.mgr.wifiState := by
    refine (hhandler stationEvent hevent).resolve_right fun hother => ?_
    cases hother.1.symm.trans hcallback
  have hstate : station.mgr.wifiState = store.mgr.wifiState :=
    (Station.step_wifiState hstation).trans hsame
  rw [ForcedCurrent, mgr, hstate]
  exact hrecorded.callback callback hcallback

theorem schedule_recorded (hrecorded : Recorded store) :
    Recorded (store.withMgr store.mgr.scheduleStateSave) := by
  have hstate : (store.withMgr store.mgr.scheduleStateSave).mgr.wifiState = store.mgr.wifiState :=
    store.mgr.scheduleStateSave_wifiState
  refine ⟨?_, hrecorded.savedSsid, hrecorded.copies, hrecorded.enabled, ?_, hrecorded.stored, ?_⟩
  · simpa [withMgr, mgr] using hrecorded.ssid
  · intro callback hcallback
    rw [ForcedCurrent, hstate]
    exact hrecorded.callback callback hcallback
  · intro hconnected
    rw [hstate]
    by_cases hsame : store.mgr.stateHash = store.mgr.lastSaveHash
    · have hidle : store.mgr.scheduleStateSave = store.mgr := by
        rw [WifiMgr.scheduleStateSave, if_pos hsame]
      rw [hidle] at hconnected ⊢
      exact hrecorded.due hconnected
    · have hscheduled : store.mgr.scheduleStateSave.stateHash ≠
          store.mgr.scheduleStateSave.lastSaveHash := by
        rw [WifiMgr.stateHash_congr store.mgr.scheduleStateSave_wifiState,
          WifiMgr.scheduleStateSave, if_neg hsame]
        exact hsame
      exact .inr (.inl (WifiMgr.scheduleStateSave_due hscheduled))

theorem timerExpiry_recorded (hrecorded : Recorded store)
    (hstep : store.step .timerExpiry = some next) : Recorded next := by
  obtain ⟨saveTimer, hexpire, rfl⟩ := timerExpiry_step hstep
  refine ⟨hrecorded.ssid, hrecorded.savedSsid, hrecorded.copies, hrecorded.enabled,
    hrecorded.callback, hrecorded.stored, fun hconnected => ?_⟩
  rcases hrecorded.due hconnected with hsaved | ⟨hpending, -, hhash⟩ | hcallback
  · exact .inl hsaved
  · have hdispatched : saveTimer.pending = true := by
      rw [(OneShotTimer.expire_eq_some_iff.mp hexpire).2.2]
    exact .inr (.inl ⟨hpending, .inr hdispatched, hhash⟩)
  · exact .inr (.inr hcallback)

theorem timerCallback_recorded (hrecorded : Recorded store) (hkept : store.SaveKept .timerCallback)
    (hstep : store.step .timerCallback = some next) : Recorded next := by
  obtain ⟨saveTimer, hnone, -, rfl⟩ := timerCallback_step hstep
  cases hpending : store.mgr.pendingSave with
  | false =>
      rw [WifiMgr.saveSection_idle (store.mgr.withSaveTimer saveTimer) hpending]
      refine ⟨hrecorded.ssid, hrecorded.savedSsid, hrecorded.copies, hrecorded.enabled, by simp,
        fun _ => hrecorded.stored hnone, fun hconnected => ?_⟩
      rcases hrecorded.due hconnected with hsaved | ⟨hdue, -, -⟩ | hcallback
      · exact .inl hsaved
      · simp [hpending] at hdue
      · simp [hnone] at hcallback
  | true =>
  by_cases hhash : store.mgr.stateHash = store.mgr.lastSaveHash
  · rw [WifiMgr.saveSection_same (store.mgr.withSaveTimer saveTimer) hpending hhash]
    refine ⟨hrecorded.ssid, hrecorded.savedSsid, hrecorded.copies, hrecorded.enabled, by simp,
      fun _ => hrecorded.stored hnone, fun hconnected => ?_⟩
    rcases hrecorded.due hconnected with hsaved | ⟨-, -, hdiffers⟩ | hcallback
    · exact .inl hsaved
    · exact absurd hhash hdiffers
    · simp [hnone] at hcallback
  · rw [WifiMgr.saveSection_changed (store.mgr.withSaveTimer saveTimer) hpending hhash]
    refine ⟨hrecorded.ssid, hrecorded.savedSsid, hrecorded.copies, hrecorded.enabled, ?_, by simp,
      fun _ => .inr (.inr rfl)⟩
    rintro callback hcallback
    obtain rfl := Option.some.inj hcallback
    exact ⟨⟨rfl, rfl, rfl, rfl⟩, trivial, hkept hpending hhash⟩

/-- The callback goes on to a stage before which it has written everything. -/
theorem Recorded.proceed (hrecorded : Recorded store) {callback : SaveCallback}
    (hcallback : store.callback = some callback) {nvs : Nvs} {stage : SaveStage}
    {passwordThen : Text} {saved : List (Text × Text)}
    (henabled : ∀ forced ∈ store.forced, forced.enabledSaved = true →
      nvs.wifiEnabled = some forced.wifiWasEnabled)
    (hwritten : stage.Written nvs store.mgr.wifiState) :
    Recorded
      { store with nvs, saved, callback := some { callback with passwordThen, stage } } := by
  obtain ⟨hsaves, -, hforced⟩ := hrecorded.callback callback hcallback
  refine ⟨hrecorded.ssid, hrecorded.savedSsid, hrecorded.copies, henabled, ?_, by simp,
    fun _ => .inr (.inr rfl)⟩
  rintro _ ⟨⟩
  exact ⟨⟨hsaves.currentHash, hsaves.wifiWasEnabled, hsaves.wifiWasConnected, hsaves.taken⟩,
    hwritten, hforced⟩

/-- A step of the callback writes the current state, or completes its save. -/
theorem callbackStep_recorded (hrecorded : Recorded store) {callback : SaveCallback}
    (hcallback : store.callback = some callback) : Recorded (store.callbackStep callback) := by
  obtain ⟨hsaves, hwritten, hforced⟩ := hrecorded.callback callback hcallback
  cases hstage : callback.stage with
  | saveEnabled =>
      simp only [callbackStep, hstage]
      refine hrecorded.proceed hcallback (fun forced hmem _ => ?_)
        (congrArg some hsaves.wifiWasEnabled)
      exact congrArg some (hsaves.wifiWasEnabled.trans (hforced forced hmem).1.symm)
  | testSsid =>
      rw [hstage] at hwritten
      simp only [callbackStep, hstage]
      refine hrecorded.proceed hcallback hrecorded.enabled ?_
      split
      · rename_i hfound
        exact ⟨hwritten, by simp at hfound; exact hfound.2⟩
      · rename_i hskipped
        intro hconnected
        -- a connected station has an SSID, so the credentials are not skipped
        have hwas : callback.wifiWasConnected = true := hsaves.wifiWasConnected.trans hconnected
        exact absurd (hrecorded.ssid hconnected) (by simpa [hwas] using hskipped)
  | saveSsid =>
      rw [hstage] at hwritten
      obtain ⟨henabled, hssid⟩ := hwritten
      simp only [callbackStep, hstage]
      refine hrecorded.proceed hcallback (fun forced hmem hdone => ?_)
        ⟨(store.nvs.saveSsid_wifiEnabled _).trans henabled, rfl, store.nvs.saveSsid_wifiSsid hssid⟩
      simpa using hrecorded.enabled forced hmem hdone
  | savePassword ssid =>
      rw [hstage] at hwritten
      obtain ⟨henabled, rfl, hssid⟩ := hwritten
      simp only [callbackStep, hstage]
      refine hrecorded.proceed hcallback (fun forced hmem hdone => ?_) fun _ =>
        ⟨(store.nvs.savePassword_wifiEnabled _).trans henabled,
          (store.nvs.savePassword_wifiSsid _).trans hssid, store.nvs.savePassword_wifiPass _⟩
      simpa using hrecorded.enabled forced hmem hdone
  | finish =>
      rw [hstage] at hwritten
      simp only [callbackStep, hstage]
      refine ⟨hrecorded.ssid, ?_, fun forced hmem => ⟨callback.taken, rfl, ?_⟩, hrecorded.enabled,
        by simp, fun _ _ => ?_, fun _ => .inl ?_⟩
      · rintro _ ⟨⟩
        rw [hsaves.taken]
        exact hrecorded.ssid
      · rw [hsaves.taken]
        exact hforced forced hmem
      · rintro _ ⟨⟩
        rw [hsaves.taken]
        exact hwritten
      · exact congrArg some hsaves.taken

theorem forceSection_copies (mgr : WifiMgr) : mgr.forceSection.2.Copies mgr.wifiState :=
  ⟨rfl, rfl, mgr.forceSection_copied⟩

theorem force_recorded (hrecorded : Recorded store) (hkept : store.ForcedCurrent)
    (hstep : store.step .force = some next) : Recorded next := by
  obtain rfl := Option.some.inj hstep
  have hcopies : ∀ forced ∈ store.forced ++ [store.mgr.forceSection.2],
      forced.Copies store.mgr.wifiState := by
    intro forced hforced
    rcases List.mem_append.mp hforced with hbefore | hnew
    · exact hkept forced hbefore
    · obtain rfl := List.mem_singleton.mp hnew
      exact forceSection_copies store.mgr
  refine ⟨hrecorded.ssid, ?_, fun forced hforced => ⟨_, rfl, hcopies forced hforced⟩,
    fun forced hforced hdone => ?_, fun callback hcallback => ?_, by simp, fun _ => .inl rfl⟩
  · rintro _ ⟨⟩
    exact hrecorded.ssid
  · rcases List.mem_append.mp hforced with hbefore | hnew
    · exact hrecorded.enabled forced hbefore hdone
    · obtain rfl := List.mem_singleton.mp hnew
      simp [WifiMgr.forceSection] at hdone
  · obtain ⟨hsaves, hwritten, -⟩ := hrecorded.callback callback hcallback
    exact ⟨hsaves, hwritten, hcopies⟩

/-- The flag is written by a forced save. -/
theorem forcedStep_enabled (hrecorded : Recorded store) {place : ℕ} {forced : ForcedSave}
    (hplace : store.forced[place]? = some forced) (hfirst : forced.enabledSaved = false) :
    Recorded (store.forcedStep place forced) := by
  have hmem : forced ∈ store.forced := List.mem_of_getElem? hplace
  have hset {other : ForcedSave}
      (hother : other ∈ store.forced.set place { forced with enabledSaved := true }) :
      other ∈ store.forced ∨ other = { forced with enabledSaved := true } :=
    List.mem_or_eq_of_mem_set hother
  obtain ⟨state, hstate, hcopies⟩ := hrecorded.copies forced hmem
  rw [forcedStep, if_pos hfirst]
  refine ⟨hrecorded.ssid, hrecorded.savedSsid, fun other hother => ?_, fun other hother _ => ?_,
    fun callback hcallback => ?_, fun _ hnone => ?_, hrecorded.due⟩
  · rcases hset hother with hbefore | rfl
    · exact hrecorded.copies other hbefore
    · exact ⟨state, hstate, hcopies⟩
  · rcases hset hother with hbefore | rfl
    · -- all forced saves in progress copy the state last saved
      obtain ⟨state', hstate', hcopies'⟩ := hrecorded.copies other hbefore
      obtain rfl : state = state' := Option.mem_unique hstate hstate'
      exact congrArg some (hcopies.1.trans hcopies'.1.symm)
    · rfl
  · obtain ⟨hsaves, hwritten, hcurrent⟩ := hrecorded.callback callback hcallback
    refine ⟨hsaves, ?_, fun other hother => ?_⟩
    · simp only [(hcurrent forced hmem).1]
      exact hwritten.saveWifiEnabled
    · rcases hset hother with hbefore | rfl
      · exact hcurrent other hbefore
      · exact hcurrent forced hmem
  · have hempty : store.forced = [] := by simpa using hnone
    simp [hempty] at hmem

/-- The credentials are written by a forced save, which ends with them. -/
theorem forcedStep_ended (hrecorded : Recorded store) {place : ℕ} {forced : ForcedSave}
    (hplace : store.forced[place]? = some forced) (hsecond : forced.enabledSaved = true) :
    Recorded (store.forcedStep place forced) := by
  have hmem : forced ∈ store.forced := List.mem_of_getElem? hplace
  obtain ⟨state, hstate, hcopies⟩ := hrecorded.copies forced hmem
  have henabled : store.nvs.wifiEnabled = some forced.wifiWasEnabled :=
    hrecorded.enabled forced hmem hsecond
  have hrest {other : ForcedSave} (hother : other ∈ store.forced.eraseIdx place) :
      other ∈ store.forced := List.mem_of_mem_eraseIdx hother
  rw [forcedStep, if_neg (by simp [hsecond])]
  dsimp only
  split
  · rename_i hfound
    simp only [Bool.and_eq_true, decide_eq_true_eq] at hfound
    obtain ⟨hwas, hssid⟩ := hfound
    refine ⟨hrecorded.ssid, hrecorded.savedSsid,
      fun other hother => hrecorded.copies other (hrest hother), fun other hother hdone => ?_,
      fun callback hcallback => ?_, fun hnone _ state' hstate' => ?_, hrecorded.due⟩
    · simpa [Nvs.saveCredentials] using hrecorded.enabled other (hrest hother) hdone
    · obtain ⟨hsaves, hwritten, hcurrent⟩ := hrecorded.callback callback hcallback
      obtain ⟨hflag, hconnected, hpair⟩ := hcurrent forced hmem
      obtain ⟨hcopy, hpass⟩ := hpair (hconnected.symm.trans hwas)
      refine ⟨hsaves, ?_, fun other hother => hcurrent other (hrest hother)⟩
      simp only [hcopy, hpass]
      exact hwritten.saveCredentials (henabled.trans (congrArg some hflag)) (hcopy ▸ hssid)
    · obtain rfl : state = state' := Option.mem_unique hstate hstate'
      intro hconnected
      obtain ⟨hcopy, hpass⟩ := hcopies.2.2 hconnected
      simp only [hcopy, hpass]
      have hflag := henabled.trans (congrArg some hcopies.1)
      exact store.nvs.saveCredentials_holds _ hflag (hcopy ▸ hssid)
  · rename_i hskipped
    refine ⟨hrecorded.ssid, hrecorded.savedSsid,
      fun other hother => hrecorded.copies other (hrest hother),
      fun other hother hdone => hrecorded.enabled other (hrest hother) hdone,
      fun callback hcallback => ?_, fun hnone _ state' hstate' => ?_, hrecorded.due⟩
    · obtain ⟨hsaves, hwritten, hcurrent⟩ := hrecorded.callback callback hcallback
      exact ⟨hsaves, hwritten, fun other hother => hcurrent other (hrest hother)⟩
    · obtain rfl : state = state' := Option.mem_unique hstate hstate'
      intro hconnected
      -- a connected state that was saved has an SSID, so the credentials are not skipped
      have hwas : forced.wifiWasConnected = true := hcopies.2.1.trans hconnected
      have hssid := hrecorded.savedSsid state hstate hconnected
      rw [← (hcopies.2.2 hconnected).1] at hssid
      exact absurd hssid (by simpa [hwas] using hskipped)

/-- The hash and the state last saved are set together. -/
theorem step_told (htold : Told store) (hrecorded : Recorded store) (hkept : store.SaveKept event)
    (hstep : store.step event = some next) : Told next := by
  cases event with
  | station | associated => exact stationStep_told htold hkept hstep
  | schedule =>
      obtain rfl := Option.some.inj hstep
      exact htold.congr (store.mgr.scheduleStateSave_wifiState)
        store.mgr.scheduleStateSave_lastSaveHash rfl
  | timerExpiry =>
      obtain ⟨saveTimer, -, rfl⟩ := timerExpiry_step hstep
      exact htold.congr rfl rfl rfl
  | timerCallback =>
      obtain ⟨saveTimer, -, -, rfl⟩ := timerCallback_step hstep
      simp only [WifiMgr.saveSection]
      split_ifs <;> exact htold.congr rfl rfl rfl
  | callbackStep =>
      obtain ⟨callback, hcallback, rfl⟩ := Option.map_eq_some_iff.mp hstep
      obtain ⟨hsaves, -, -⟩ := hrecorded.callback callback hcallback
      cases hstage : callback.stage with
      | finish =>
          simp only [callbackStep, hstage]
          refine ⟨?_, fun _ _ => congrArg some hsaves.taken⟩
          show callback.currentHash = callback.taken.hash
          rw [hsaves.currentHash, hsaves.taken]
      | saveEnabled | testSsid | saveSsid | savePassword =>
          simp only [callbackStep, hstage]
          exact htold.congr rfl rfl rfl
  | force =>
      obtain rfl := Option.some.inj hstep
      exact ⟨rfl, fun _ _ => rfl⟩
  | forcedStep place =>
      obtain ⟨forced, -, rfl⟩ := Option.map_eq_some_iff.mp hstep
      simp only [forcedStep]
      split_ifs <;> exact htold.congr rfl rfl rfl

theorem step_recorded (hrecorded : Recorded store) (htold : Told next)
    (hkept : store.SaveKept event) (hstep : store.step event = some next) : Recorded next := by
  cases event with
  | station | associated => exact stationStep_recorded hrecorded htold hkept hstep
  | schedule =>
      obtain rfl := Option.some.inj hstep
      exact schedule_recorded hrecorded
  | timerExpiry => exact timerExpiry_recorded hrecorded hstep
  | timerCallback => exact timerCallback_recorded hrecorded hkept hstep
  | callbackStep =>
      obtain ⟨callback, hcallback, rfl⟩ := Option.map_eq_some_iff.mp hstep
      exact callbackStep_recorded hrecorded hcallback
  | force => exact force_recorded hrecorded hkept hstep
  | forcedStep place =>
      obtain ⟨forced, hplace, rfl⟩ := Option.map_eq_some_iff.mp hstep
      cases hfirst : forced.enabledSaved with
      | false => exact forcedStep_enabled hrecorded hplace hfirst
      | true => exact forcedStep_ended hrecorded hplace hfirst

theorem start_told (hstart : machine.start store) : Told store ∧ Recorded store := by
  obtain ⟨wasEnabled, saved, nvs, rfl⟩ := hstart
  have hdown : (WifiMgr.loadState wasEnabled saved).connected = false := by
    unfold WifiMgr.loadState
    split <;> rfl
  have hhash : (WifiMgr.loadState wasEnabled saved).lastSaveHash = 0 := by
    unfold WifiMgr.loadState
    split <;> rfl
  refine ⟨⟨hhash, fun hconnected => ?_⟩, ?_⟩
  · exact absurd (hdown.symm.trans hconnected) (by simp)
  · constructor <;> simp [mgr, hdown]

theorem ReachedBy.told (hreached : machine.ReachedBy SaveKept store) :
    Told store ∧ Recorded store := by
  refine Machine.ReachedBy.invariant (I := fun store => Told store ∧ Recorded store)
    (fun _ hstart => start_told hstart) ?_ hreached
  rintro _ _ _ - ⟨htold, hrecorded⟩ hkept hstep
  have hnext := step_told htold hrecorded hkept hstep
  exact ⟨hnext, step_recorded hrecorded hnext hkept hstep⟩

/-- **No lost save.**  In a run that loses no save, NVS holds the state of a connected station whenever
no save is pending, armed or in progress; and whenever the change check finds no change in a connected
station, the state that was saved last is the one that the station is in. -/
theorem nvs_holds (hreached : machine.ReachedBy SaveKept store)
    (hconnected : store.mgr.connected = true) :
    (¬store.Saving → store.nvs.Holds store.mgr.interfaceStarted store.mgr.networkSsid.text
      store.mgr.networkPassword.text) ∧
    (store.mgr.stateHash = store.mgr.lastSaveHash →
      store.lastSaved = some store.mgr.wifiState) := by
  obtain ⟨htold, hrecorded⟩ := ReachedBy.told hreached
  refine ⟨fun hquiet => ?_, htold.lastSaved hconnected⟩
  simp only [Saving, not_or] at hquiet
  obtain ⟨hpending, -, hcallback, hforced⟩ := hquiet
  have hnone : store.callback = none := by simpa using hcallback
  have hsaved : store.lastSaved = some store.mgr.wifiState := by
    rcases hrecorded.due hconnected with hsaved | ⟨hdue, -, -⟩ | hbusy
    · exact hsaved
    · exact absurd hdue hpending
    · exact absurd hbusy hcallback
  exact hrecorded.stored hnone (not_not.mp hforced) _ hsaved hconnected

/-- The station connects, and the timer saves its state. -/
def savedRun : List SaveEvent :=
  .station (.loop (.staStart {})) :: connecting (ascii "plant") (ascii "secret-key") ++ timerSave

instance (store : SavingStation) : Decidable store.Saving :=
  inferInstanceAs (Decidable (_ ∨ _ ∨ _ ∨ _))

theorem nvs_holds_saved :
    ∃ store, machine.replay fresh savedRun = some store ∧
      store.nvs.Holds store.mgr.interfaceStarted store.mgr.networkSsid.text
        store.mgr.networkPassword.text ∧ store.lastSaved = some store.mgr.wifiState := by
  have hreplay : machine.replay fresh savedRun =
      some ((machine.replay fresh savedRun).get (by decide +kernel)) := (Option.some_get _).symm
  have hadmitted : machine.Admitted SaveKept fresh savedRun := by decide +kernel
  have hreached := Machine.ReachedBy.replay (.start fresh_start) hadmitted hreplay
  obtain ⟨hholds, hsaved⟩ := nvs_holds hreached (by decide +kernel)
  exact ⟨_, hreplay, hholds (by decide +kernel), hsaved (by decide +kernel)⟩

/-- The station leaves one network for another whose SSID has the same exclusive or, before the timer
fires. -/
def collidingRun : List SaveEvent :=
  .station (.loop (.staStart {})) :: connecting (ascii "gateport") (ascii "secret-key") ++
    timerSave ++ .station (.loop (.staDisconnected (ascii "gateport") WifiMgr.reasonAssocLeave)) ::
      connecting (ascii "portgate") (ascii "another-key") ++ [.timerExpiry, .timerCallback]

/-- The new network is then taken for the saved one and never written. -/
theorem colliding_not_saved :
    ¬∀ store, machine.Reachable store → store.mgr.connected = true → ¬store.Saving →
      store.nvs.Holds store.mgr.interfaceStarted store.mgr.networkSsid.text
        store.mgr.networkPassword.text := by
  intro hclaim
  have hreplay : machine.replay fresh collidingRun =
      some ((machine.replay fresh collidingRun).get (by decide +kernel)) := (Option.some_get _).symm
  have hholds := hclaim _ (Machine.reachable_of_replay fresh_start hreplay) (by decide +kernel)
    (by decide +kernel)
  exact absurd hholds.wifiSsid (by decide +kernel)

end SavingStation

end CrowPanel.Wifi
