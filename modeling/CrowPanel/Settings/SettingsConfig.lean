import CrowPanel.Settings.EndpointForm

/-!
# The configuration in NVS

The namespace `app_config` of `settings_config.c`: a key for each setting, of one type of NVS.  Every
call of NVS may fail, and the flash may hold anything, left by another version or written by another
tool.  A call that fails may have written all the same; which of its entries it has written is a
parameter.

The panel sees the namespace through its loads.  `SavedSettings` is what they give, each for any buffer
of the caller: `loads` if some calls fail, `saved` if none does.  Numbers may be used as they are, since
a load replaces what it cannot use by a default.

## Strategy

A save is described by what it does to `SavedSettings` (`ConfigRequest.apply`, `ConfigRequest.after`).
The loads see a mixture of two namespaces as the mixture of what they see of each (`saved_mix`), so one
lemma says that each request keeps to its description, whatever is in the flash (`perform_performs`); a
run of requests follows by induction.
-/

namespace CrowPanel.Settings

open Library OpcUa

/-! ## Values that may be used -/

/-- A brightness of the display in percent. -/
abbrev Brightness := { value : UInt8 // 1 ≤ value ∧ value ≤ 100 }

/-- A volume in percent. -/
abbrev Volume := { value : UInt8 // value ≤ 100 }

/-- `allowed` of `is_valid_sleep_timeout_ms` -/
def allowedSleepTimeouts : List UInt32 :=
  [60000, 180000, 300000, 600000, 1800000, 3600000]

/-- `is_valid_sleep_timeout_ms` -/
def isValidSleepTimeoutMs (timeoutMs : UInt32) : Bool :=
  allowedSleepTimeouts.contains timeoutMs

/-- A time after which the panel may sleep, in milliseconds. -/
abbrev SleepTimeout := { value : UInt32 // isValidSleepTimeoutMs value = true }

/-- A port of the web sockets of Home Assistant. -/
abbrev WsPort := { value : UInt16 // value ≠ 0 }

/-- The default of `settings_config_load_brightness`. -/
def defaultBrightness : Brightness := ⟨80, by decide⟩

/-- The default of `settings_config_load_audio_volume`. -/
def defaultVolume : Volume := ⟨80, by decide⟩

/-- What `settings_config_save_audio_volume` stores for a larger volume. -/
def largestVolume : Volume := ⟨100, by decide⟩

/-- `DEFAULT_SLEEP_TIMEOUT_MS` -/
def defaultSleepTimeout : SleepTimeout := ⟨180000, by decide⟩

/-- The default of `settings_config_load_ha_ws_port`. -/
def defaultWsPort : WsPort := ⟨3000, by decide⟩

/-! ## The namespace -/

/-- The entries of `app_config`, a text with its NUL in a blob or a string.  An entry of another type
is not found. -/
structure ConfigEntries where
  wifiEnabled : Option UInt8 := none
  uartEnabled : Option UInt8 := none
  weatherKey : Option Text := none
  calendarKey : Option Text := none
  brightness : Option UInt8 := none
  audioVolume : Option UInt8 := none
  sleepTimeoutMs : Option UInt32 := none
  haEnabled : Option UInt8 := none
  haUrl : Option Text := none
  haLogin : Option Text := none
  haPassword : Option Text := none
  haWsPort : Option UInt16 := none
  opcuaEndpoint : Option Text := none
  deriving DecidableEq

/-- The keys of `app_config`. -/
inductive ConfigKey where
  | wifiEnabled
  | uartEnabled
  | weatherKey
  | calendarKey
  | brightness
  | audioVolume
  | sleepTimeoutMs
  | haEnabled
  | haUrl
  | haLogin
  | haPassword
  | haWsPort
  | opcuaEndpoint
  deriving DecidableEq

/-- The entries of `after` under some keys, and those of `before` under the others. -/
def ConfigEntries.mix (changed : ConfigKey → Bool) (before after : ConfigEntries) :
    ConfigEntries where
  wifiEnabled := if changed .wifiEnabled then after.wifiEnabled else before.wifiEnabled
  uartEnabled := if changed .uartEnabled then after.uartEnabled else before.uartEnabled
  weatherKey := if changed .weatherKey then after.weatherKey else before.weatherKey
  calendarKey := if changed .calendarKey then after.calendarKey else before.calendarKey
  brightness := if changed .brightness then after.brightness else before.brightness
  audioVolume := if changed .audioVolume then after.audioVolume else before.audioVolume
  sleepTimeoutMs := if changed .sleepTimeoutMs then after.sleepTimeoutMs else before.sleepTimeoutMs
  haEnabled := if changed .haEnabled then after.haEnabled else before.haEnabled
  haUrl := if changed .haUrl then after.haUrl else before.haUrl
  haLogin := if changed .haLogin then after.haLogin else before.haLogin
  haPassword := if changed .haPassword then after.haPassword else before.haPassword
  haWsPort := if changed .haWsPort then after.haWsPort else before.haWsPort
  opcuaEndpoint := if changed .opcuaEndpoint then after.opcuaEndpoint else before.opcuaEndpoint

/-- What the calls of NVS return during a save, those that are not made as well, and under which keys a
call that fails has changed the entry all the same. -/
structure WriteCalls where
  opened : EspErr := .ok
  written : EspErr := .ok
  committed : EspErr := .ok
  changed : ConfigKey → Bool := fun _ => false

/-- What the calls of NVS return during a load, those that are not made as well. -/
structure ReadCalls where
  opened : EspErr := .ok
  size : EspErr := .ok
  read : EspErr := .ok
  deriving DecidableEq

/-- All the calls of a save succeed. -/
def WriteCalls.Succeed (calls : WriteCalls) : Prop :=
  calls.opened = .ok ∧ calls.written = .ok ∧ calls.committed = .ok

instance (calls : WriteCalls) : Decidable calls.Succeed :=
  inferInstanceAs (Decidable (_ ∧ _))

/-! ## Saving -/

/-- The calls of NVS that a save makes. -/
def saveEntry (calls : WriteCalls) (write : ConfigEntries → ConfigEntries) (entries : ConfigEntries) :
    EspErr × ConfigEntries :=
  if calls.opened ≠ .ok then (calls.opened, entries)
  else if calls.written ≠ .ok then (calls.written, entries.mix calls.changed (write entries))
  else if calls.committed ≠ .ok then (calls.committed, entries.mix calls.changed (write entries))
  else (.ok, write entries)

/-- A save of a text up to its NUL; the text may be missing. -/
def saveText (calls : WriteCalls) (text : Option Text)
    (write : Text → ConfigEntries → ConfigEntries) (entries : ConfigEntries) :
    EspErr × ConfigEntries :=
  match text with
  | none => (.invalidArg, entries)
  | some text => saveEntry calls (write (cString text)) entries

/-- `enabled ? 1 : 0` -/
def flagByte (enabled : Bool) : UInt8 :=
  if enabled then 1 else 0

section

variable (calls : WriteCalls) (entries : ConfigEntries)

/-- `settings_config_save_audio_volume` -/
def saveAudioVolume (volume : UInt8) : EspErr × ConfigEntries :=
  let volume := if 100 < volume then 100 else volume
  saveEntry calls ({ · with audioVolume := some volume }) entries

/-- `settings_config_save_sleep_timeout_ms`, without the update of the sleep mode that follows a
success -/
def saveSleepTimeoutMs (timeoutMs : UInt32) : EspErr × ConfigEntries :=
  if isValidSleepTimeoutMs timeoutMs = false then (.invalidArg, entries)
  else saveEntry calls ({ · with sleepTimeoutMs := some timeoutMs }) entries

/-- `settings_config_save_brightness`, without the update of the sleep mode that follows a success -/
def saveBrightness (brightness : UInt8) : EspErr × ConfigEntries :=
  if brightness < 1 ∨ 100 < brightness then (.invalidArg, entries)
  else saveEntry calls ({ · with brightness := some brightness }) entries

/-- `settings_config_save_wifi_enabled` -/
def saveWifiEnabled (enabled : Bool) : EspErr × ConfigEntries :=
  saveEntry calls ({ · with wifiEnabled := some (flagByte enabled) }) entries

/-- `settings_config_save_uart_enabled` -/
def saveUartEnabled (enabled : Bool) : EspErr × ConfigEntries :=
  saveEntry calls ({ · with uartEnabled := some (flagByte enabled) }) entries

/-- `settings_config_save_ha_enabled` -/
def saveHaEnabled (enabled : Bool) : EspErr × ConfigEntries :=
  saveEntry calls ({ · with haEnabled := some (flagByte enabled) }) entries

/-- `settings_config_save_weather_key` -/
def saveWeatherKey (key : Option Text) : EspErr × ConfigEntries :=
  saveText calls key (fun text entries => { entries with weatherKey := some text }) entries

/-- `settings_config_save_calendar_key` -/
def saveCalendarKey (key : Option Text) : EspErr × ConfigEntries :=
  saveText calls key (fun text entries => { entries with calendarKey := some text }) entries

/-- `settings_config_save_ha_url` -/
def saveHaUrl (url : Option Text) : EspErr × ConfigEntries :=
  saveText calls url (fun text entries => { entries with haUrl := some text }) entries

/-- `settings_config_save_ha_login` -/
def saveHaLogin (login : Option Text) : EspErr × ConfigEntries :=
  saveText calls login (fun text entries => { entries with haLogin := some text }) entries

/-- `settings_config_save_ha_password` -/
def saveHaPassword (password : Option Text) : EspErr × ConfigEntries :=
  saveText calls password (fun text entries => { entries with haPassword := some text }) entries

/-- `settings_config_save_ha_ws_port` -/
def saveHaWsPort (port : UInt16) : EspErr × ConfigEntries :=
  saveEntry calls ({ · with haWsPort := some port }) entries

/-- `settings_config_save_opcua_endpoint` with what it does to the namespace -/
def saveOpcuaEndpoint (endpointUrl : Option Text) : EspErr × ConfigEntries :=
  match endpointUrl.bind Endpoint.check with
  | none => (.invalidArg, entries)
  | some endpoint =>
      saveEntry calls ({ · with opcuaEndpoint := some endpoint.text.text }) entries

/-- `settings_config_clear_all` -/
def clearAll : EspErr × ConfigEntries :=
  saveEntry calls (fun _ => {}) entries

end

/-! ## Loading -/

/-- The result of a call that reads an entry, and what is in the variable for it then. -/
def nvsGet {α : Type} (entry : Option α) (returned : EspErr) (before : α) : EspErr × α :=
  match entry with
  | none => (.notFound, before)
  | some value => if returned = .ok then (.ok, value) else (returned, before)

/-- A number that is loaded over its default. -/
def loadNumber {α : Type} (calls : ReadCalls) (entry : Option α) (number : α) : α :=
  if calls.opened = .ok then (nvsGet entry calls.read number).2 else number

/-- A flag; it is off unless it is found. -/
def loadFlag (calls : ReadCalls) (entry : Option UInt8) : Bool :=
  if calls.opened ≠ .ok then false
  else
    let (err, value) := nvsGet entry calls.read 0
    if err = .ok then decide (value ≠ 0) else false

/-- A text that is loaded into a buffer of `len` bytes which holds `buffer`. -/
def loadText (calls : ReadCalls) (entry : Option Text) (len : ℕ) (buffer : Text) : EspErr × Text :=
  if len = 0 then (.invalidArg, buffer)
  else if calls.opened ≠ .ok then (calls.opened, buffer)
  else
    let (err, requiredSize) := nvsGet (entry.map fun text => text.length + 1) calls.size 0
    if err = .ok ∧ 0 < requiredSize ∧ requiredSize ≤ len then
      let (err, text) := nvsGet entry calls.read buffer
      (err, if err = .ok then cString text else buffer)
    else (err, buffer)

section

variable (calls : ReadCalls) (entries : ConfigEntries)

/-- `settings_config_load_audio_volume` -/
def loadAudioVolume : Volume :=
  let volume := loadNumber calls entries.audioVolume 80
  if hvalid : volume ≤ 100 then ⟨volume, hvalid⟩ else defaultVolume

/-- `settings_config_load_sleep_timeout_ms` -/
def loadSleepTimeoutMs : SleepTimeout :=
  let timeoutMs := loadNumber calls entries.sleepTimeoutMs defaultSleepTimeout.1
  if hvalid : isValidSleepTimeoutMs timeoutMs = true then ⟨timeoutMs, hvalid⟩ else defaultSleepTimeout

/-- `settings_config_load_brightness` -/
def loadBrightness : Brightness :=
  let brightness := loadNumber calls entries.brightness 80
  if hvalid : 1 ≤ brightness ∧ brightness ≤ 100 then ⟨brightness, hvalid⟩ else defaultBrightness

/-- `settings_config_load_wifi_enabled` -/
def loadWifiEnabled : Bool :=
  loadFlag calls entries.wifiEnabled

/-- `settings_config_load_uart_enabled` -/
def loadUartEnabled : Bool :=
  loadFlag calls entries.uartEnabled

/-- `settings_config_load_ha_enabled` -/
def loadHaEnabled : Bool :=
  loadFlag calls entries.haEnabled

/-- `settings_config_load_weather_key` -/
def loadWeatherKey (len : ℕ) (key : Text) : EspErr × Text :=
  loadText calls entries.weatherKey len key

/-- `settings_config_load_calendar_key` -/
def loadCalendarKey (len : ℕ) (key : Text) : EspErr × Text :=
  loadText calls entries.calendarKey len key

/-- `settings_config_load_ha_url` -/
def loadHaUrl (len : ℕ) (url : Text) : EspErr × Text :=
  loadText calls entries.haUrl len url

/-- `settings_config_load_ha_login` -/
def loadHaLogin (len : ℕ) (login : Text) : EspErr × Text :=
  loadText calls entries.haLogin len login

/-- `settings_config_load_ha_password` -/
def loadHaPassword (len : ℕ) (password : Text) : EspErr × Text :=
  loadText calls entries.haPassword len password

/-- `settings_config_load_ha_ws_port` -/
def loadHaWsPort : WsPort :=
  let (err, port) :=
    if calls.opened = .ok then nvsGet entries.haWsPort calls.read 3000 else (calls.opened, 3000)
  if hvalid : err = .ok ∧ port ≠ 0 then ⟨port, hvalid.2⟩ else defaultWsPort

/-- `nvs_get_str` of the endpoint into a buffer of `length` bytes which holds `buffer`. -/
def getOpcuaEndpoint (length : ℕ) (buffer : Text) : EspErr × Text :=
  if calls.opened ≠ .ok then (calls.opened, buffer)
  else
    let (err, url) := nvsGet entries.opcuaEndpoint calls.read buffer
    if err = .ok ∧ length < url.length + 1 then (.invalidSize, buffer) else (err, cString url)

/-- `settings_config_load_opcua_endpoint` -/
def loadOpcuaEndpoint (length : ℕ) (buffer : Text) (default : Option Text) : EspErr × Text :=
  match default with
  | none => (.invalidArg, buffer)
  | some default =>
      if length = 0 then (.invalidArg, buffer)
      else
        let (result, url) := getOpcuaEndpoint calls entries length buffer
        if result = .ok ∧ url.take 10 = ascii "opc.tcp://" then (.ok, url)
        else (if result = .notFound then .ok else result, (cString default).take (length - 1))

/-- `settings_config_has_saved_opcua_endpoint` -/
def hasSavedOpcuaEndpoint : Bool :=
  let (result, url) := getOpcuaEndpoint calls entries endpointLength []
  decide (result = .ok ∧ url.take 10 = ascii "opc.tcp://")

end

/-! ## What the panel sees -/

/-- What the load of a text does to a buffer of some size that holds some text. -/
abbrev TextLoad := ℕ → Text → EspErr × Text

/-- The same for the load of the endpoint, which is given a default. -/
abbrev EndpointLoad := ℕ → Text → Option Text → EspErr × Text

/-- What the loads give. -/
@[ext] structure SavedSettings where
  wifiEnabled : Bool
  uartEnabled : Bool
  weatherKey : TextLoad
  calendarKey : TextLoad
  brightness : Brightness
  audioVolume : Volume
  sleepTimeoutMs : SleepTimeout
  haEnabled : Bool
  haUrl : TextLoad
  haLogin : TextLoad
  haPassword : TextLoad
  haWsPort : WsPort
  opcuaEndpoint : EndpointLoad
  hasOpcuaEndpoint : Bool

/-- What the loads give of a namespace if their calls of NVS return this. -/
def ConfigEntries.loads (calls : ReadCalls) (entries : ConfigEntries) : SavedSettings where
  wifiEnabled := loadWifiEnabled calls entries
  uartEnabled := loadUartEnabled calls entries
  weatherKey := loadWeatherKey calls entries
  calendarKey := loadCalendarKey calls entries
  brightness := loadBrightness calls entries
  audioVolume := loadAudioVolume calls entries
  sleepTimeoutMs := loadSleepTimeoutMs calls entries
  haEnabled := loadHaEnabled calls entries
  haUrl := loadHaUrl calls entries
  haLogin := loadHaLogin calls entries
  haPassword := loadHaPassword calls entries
  haWsPort := loadHaWsPort calls entries
  opcuaEndpoint := loadOpcuaEndpoint calls entries
  hasOpcuaEndpoint := hasSavedOpcuaEndpoint calls entries

/-- What the loads give of a namespace when no call fails. -/
def ConfigEntries.saved (entries : ConfigEntries) : SavedSettings :=
  entries.loads {}

/-- The load of a text that has been saved.  If the buffer is too small, the load reports success all
the same and the buffer is as it was. -/
def savedText (text : Text) : TextLoad := fun len buffer =>
  if len = 0 then (.invalidArg, buffer)
  else (.ok, if text.length + 1 ≤ len then text else buffer)

/-- The load of a text that is not there. -/
def missingText : TextLoad := fun len buffer =>
  if len = 0 then (.invalidArg, buffer) else (.notFound, buffer)

/-- The load of an endpoint that has been saved; the default takes its place where it does not fit. -/
def savedEndpoint (endpoint : Endpoint) : EndpointLoad := fun length buffer default =>
  match default with
  | none => (.invalidArg, buffer)
  | some default =>
      if length = 0 then (.invalidArg, buffer)
      else if endpoint.text.text.length + 1 ≤ length then (.ok, endpoint.text.text)
      else (.invalidSize, (cString default).take (length - 1))

/-- The load of an endpoint that is not there. -/
def missingEndpoint : EndpointLoad := fun length buffer default =>
  match default with
  | none => (.invalidArg, buffer)
  | some default =>
      if length = 0 then (.invalidArg, buffer) else (.ok, (cString default).take (length - 1))

/-- The settings of a namespace that is empty. -/
def SavedSettings.default : SavedSettings where
  wifiEnabled := false
  uartEnabled := false
  weatherKey := missingText
  calendarKey := missingText
  brightness := defaultBrightness
  audioVolume := defaultVolume
  sleepTimeoutMs := defaultSleepTimeout
  haEnabled := false
  haUrl := missingText
  haLogin := missingText
  haPassword := missingText
  haWsPort := defaultWsPort
  opcuaEndpoint := missingEndpoint
  hasOpcuaEndpoint := false

/-- The settings of `after` under some keys, and those of `before` under the others. -/
def SavedSettings.mix (changed : ConfigKey → Bool) (before after : SavedSettings) :
    SavedSettings where
  wifiEnabled := if changed .wifiEnabled then after.wifiEnabled else before.wifiEnabled
  uartEnabled := if changed .uartEnabled then after.uartEnabled else before.uartEnabled
  weatherKey := if changed .weatherKey then after.weatherKey else before.weatherKey
  calendarKey := if changed .calendarKey then after.calendarKey else before.calendarKey
  brightness := if changed .brightness then after.brightness else before.brightness
  audioVolume := if changed .audioVolume then after.audioVolume else before.audioVolume
  sleepTimeoutMs := if changed .sleepTimeoutMs then after.sleepTimeoutMs else before.sleepTimeoutMs
  haEnabled := if changed .haEnabled then after.haEnabled else before.haEnabled
  haUrl := if changed .haUrl then after.haUrl else before.haUrl
  haLogin := if changed .haLogin then after.haLogin else before.haLogin
  haPassword := if changed .haPassword then after.haPassword else before.haPassword
  haWsPort := if changed .haWsPort then after.haWsPort else before.haWsPort
  opcuaEndpoint := if changed .opcuaEndpoint then after.opcuaEndpoint else before.opcuaEndpoint
  hasOpcuaEndpoint :=
    if changed .opcuaEndpoint then after.hasOpcuaEndpoint else before.hasOpcuaEndpoint

/-- A call of one of the functions that write. -/
inductive ConfigRequest where
  | wifiEnabled (enabled : Bool)
  | uartEnabled (enabled : Bool)
  | weatherKey (key : Option Text)
  | calendarKey (key : Option Text)
  | brightness (value : UInt8)
  | audioVolume (volume : UInt8)
  | sleepTimeoutMs (timeoutMs : UInt32)
  | haEnabled (enabled : Bool)
  | haUrl (url : Option Text)
  | haLogin (login : Option Text)
  | haPassword (password : Option Text)
  | haWsPort (port : UInt16)
  | opcuaEndpoint (url : Option Text)
  | clearAll

namespace ConfigRequest

/-- The call, given what the calls of NVS return. -/
def perform (calls : WriteCalls) (entries : ConfigEntries) : ConfigRequest → EspErr × ConfigEntries
  | wifiEnabled enabled => saveWifiEnabled calls entries enabled
  | uartEnabled enabled => saveUartEnabled calls entries enabled
  | weatherKey key => saveWeatherKey calls entries key
  | calendarKey key => saveCalendarKey calls entries key
  | brightness value => saveBrightness calls entries value
  | audioVolume volume => saveAudioVolume calls entries volume
  | sleepTimeoutMs timeoutMs => saveSleepTimeoutMs calls entries timeoutMs
  | haEnabled enabled => saveHaEnabled calls entries enabled
  | haUrl url => saveHaUrl calls entries url
  | haLogin login => saveHaLogin calls entries login
  | haPassword password => saveHaPassword calls entries password
  | haWsPort port => saveHaWsPort calls entries port
  | opcuaEndpoint url => saveOpcuaEndpoint calls entries url
  | clearAll => Settings.clearAll calls entries

/-- The function accepts its argument. -/
def Accepted : ConfigRequest → Prop
  | weatherKey text | calendarKey text | haUrl text | haLogin text | haPassword text =>
      text.isSome = true
  | brightness value => 1 ≤ value ∧ value ≤ 100
  | sleepTimeoutMs value => isValidSleepTimeoutMs value = true
  | opcuaEndpoint url => (url.bind Endpoint.check).isSome = true
  | wifiEnabled _ | uartEnabled _ | audioVolume _ | haEnabled _ | haWsPort _ | clearAll => True

instance : ∀ request : ConfigRequest, Decidable request.Accepted
  | weatherKey text | calendarKey text | haUrl text | haLogin text | haPassword text =>
      inferInstanceAs (Decidable (text.isSome = true))
  | brightness value => inferInstanceAs (Decidable (1 ≤ value ∧ value ≤ 100))
  | sleepTimeoutMs value => inferInstanceAs (Decidable (isValidSleepTimeoutMs value = true))
  | opcuaEndpoint url => inferInstanceAs (Decidable ((url.bind Endpoint.check).isSome = true))
  | wifiEnabled _ | uartEnabled _ | audioVolume _ | haEnabled _ | haWsPort _ | clearAll =>
      inferInstanceAs (Decidable True)

/-- What an accepted request does to the settings. -/
def apply (settings : SavedSettings) : ConfigRequest → SavedSettings
  | wifiEnabled enabled => { settings with wifiEnabled := enabled }
  | uartEnabled enabled => { settings with uartEnabled := enabled }
  | weatherKey key =>
      { settings with weatherKey := key.elim settings.weatherKey fun key => savedText (cString key) }
  | calendarKey key =>
      { settings with calendarKey := key.elim settings.calendarKey fun key => savedText (cString key) }
  | brightness value =>
      { settings with
        brightness := if hvalid : 1 ≤ value ∧ value ≤ 100 then ⟨value, hvalid⟩ else defaultBrightness }
  | audioVolume volume =>
      { settings with
        audioVolume := if hvalid : volume ≤ 100 then ⟨volume, hvalid⟩ else largestVolume }
  | sleepTimeoutMs value =>
      { settings with
        sleepTimeoutMs :=
          if hvalid : isValidSleepTimeoutMs value = true then ⟨value, hvalid⟩ else defaultSleepTimeout }
  | haEnabled enabled => { settings with haEnabled := enabled }
  | haUrl url => { settings with haUrl := url.elim settings.haUrl fun url => savedText (cString url) }
  | haLogin login =>
      { settings with haLogin := login.elim settings.haLogin fun login => savedText (cString login) }
  | haPassword password =>
      { settings with
        haPassword := password.elim settings.haPassword fun password => savedText (cString password) }
  | haWsPort port =>
      { settings with haWsPort := if hvalid : port ≠ 0 then ⟨port, hvalid⟩ else defaultWsPort }
  | opcuaEndpoint url =>
      match url.bind Endpoint.check with
      | none => settings
      | some endpoint =>
          { settings with opcuaEndpoint := savedEndpoint endpoint, hasOpcuaEndpoint := true }
  | clearAll => .default

/-- The settings after a request.  One that is accepted and fails has changed what its calls have
changed all the same. -/
def after (calls : WriteCalls) (settings : SavedSettings) (request : ConfigRequest) :
    SavedSettings :=
  if request.Accepted ∧ calls.opened = .ok then
    if calls.Succeed then request.apply settings
    else settings.mix calls.changed (request.apply settings)
  else settings

end ConfigRequest

/-! ## What the loads see -/

section

variable (changed : ConfigKey → Bool) (entries other : ConfigEntries)

/-- Each load sees the entry under its key only. -/
theorem saved_mix : (entries.mix changed other).saved =
    SavedSettings.mix changed entries.saved other.saved := by
  apply SavedSettings.ext
  case wifiEnabled | uartEnabled | haEnabled => exact apply_ite (loadFlag {}) _ _ _
  case weatherKey | calendarKey | haUrl | haLogin | haPassword => exact apply_ite (loadText {}) _ _ _
  case brightness =>
    exact apply_ite (fun brightness => loadBrightness {} { entries with brightness }) _ _ _
  case audioVolume =>
    exact apply_ite (fun audioVolume => loadAudioVolume {} { entries with audioVolume }) _ _ _
  case sleepTimeoutMs =>
    exact apply_ite (fun sleepTimeoutMs => loadSleepTimeoutMs {} { entries with sleepTimeoutMs }) _ _ _
  case haWsPort =>
    exact apply_ite (fun haWsPort => loadHaWsPort {} { entries with haWsPort }) _ _ _
  case opcuaEndpoint =>
    exact apply_ite (fun opcuaEndpoint => loadOpcuaEndpoint {} { entries with opcuaEndpoint }) _ _ _
  case hasOpcuaEndpoint =>
    exact apply_ite (fun opcuaEndpoint => hasSavedOpcuaEndpoint {} { entries with opcuaEndpoint }) _ _ _

theorem SavedSettings.mix_unchanged {before after : SavedSettings}
    (hunchanged : ∀ key, changed key = false) : before.mix changed after = before := by
  simp [SavedSettings.mix, hunchanged]

end

/-- A text with its NUL is loaded if it fits. -/
theorem loadText_some (text : Text) : loadText {} (some (cString text)) = savedText (cString text) := by
  funext len buffer
  have hnul := cString_noNul text
  unfold loadText savedText
  by_cases hlen : len = 0
  · rw [if_pos hlen, if_pos hlen]
  rw [if_neg hlen, if_neg hlen]
  by_cases hfits : (cString text).length + 1 ≤ len
  · simp [nvsGet, hfits, cString_of_noNul hnul]
  · simp [nvsGet, hfits]

/-- A number that is found replaces its default. -/
@[simp] theorem loadNumber_some {α : Type} (value number : α) :
    loadNumber {} (some value) number = value := rfl

theorem loadFlag_flagByte (enabled : Bool) : loadFlag {} (some (flagByte enabled)) = enabled := by
  cases enabled <;> rfl

section

variable (entries : ConfigEntries)

theorem getOpcuaEndpoint_some (endpoint : Endpoint) (length : ℕ) (buffer : Text) :
    getOpcuaEndpoint {} { entries with opcuaEndpoint := some endpoint.text.text } length buffer =
      if endpoint.text.text.length + 1 ≤ length then (.ok, endpoint.text.text)
      else (.invalidSize, buffer) := by
  have hurl := cString_of_noNul endpoint.text.noNul
  unfold getOpcuaEndpoint
  by_cases hfits : endpoint.text.text.length + 1 ≤ length
  · simp [nvsGet, hurl, hfits, not_lt.mpr hfits]
  · simp [nvsGet, hfits, not_le.mp hfits]

theorem loadOpcuaEndpoint_some (endpoint : Endpoint) :
    loadOpcuaEndpoint {} { entries with opcuaEndpoint := some endpoint.text.text } =
      savedEndpoint endpoint := by
  funext length buffer default
  unfold loadOpcuaEndpoint savedEndpoint
  cases default with
  | none => rfl
  | some default =>
      rw [getOpcuaEndpoint_some]
      dsimp only
      by_cases hlength : length = 0
      · rw [if_pos hlength, if_pos hlength]
      rw [if_neg hlength, if_neg hlength]
      by_cases hfits : endpoint.text.text.length + 1 ≤ length
      · simp [hfits, endpoint.scheme]
      · simp [hfits]

theorem loadOpcuaEndpoint_none : loadOpcuaEndpoint {} {} = missingEndpoint := by
  funext length buffer default
  cases default with
  | none => rfl
  | some default => simp [loadOpcuaEndpoint, missingEndpoint, getOpcuaEndpoint, nvsGet]

theorem hasSavedOpcuaEndpoint_some (endpoint : Endpoint) :
    hasSavedOpcuaEndpoint {} { entries with opcuaEndpoint := some endpoint.text.text } = true := by
  have hfits : endpoint.text.text.length + 1 ≤ endpointLength := endpoint.text.fits
  simp [hasSavedOpcuaEndpoint, getOpcuaEndpoint_some, hfits, endpoint.scheme]

end

theorem saved_empty : ConfigEntries.saved {} = .default := by
  apply SavedSettings.ext
  case opcuaEndpoint => exact loadOpcuaEndpoint_none
  all_goals rfl

/-! ## What a request does -/

section

variable {calls : WriteCalls} {entries : ConfigEntries}

/-- What a request does to the settings, if `settings` are those after a success. -/
structure Performs (calls : WriteCalls) (entries : ConfigEntries) (accepted : Prop)
    (result : EspErr × ConfigEntries) (settings : SavedSettings) : Prop where
  ok_iff : result.1 = .ok ↔ accepted ∧ calls.Succeed
  succeeded : accepted → calls.Succeed → result.2.saved = settings
  failed : accepted → calls.opened = .ok → ¬calls.Succeed →
    result.2.saved = entries.saved.mix calls.changed settings
  kept : ¬(accepted ∧ calls.opened = .ok) → result.2 = entries

theorem Performs.of_write {accepted : Prop} (haccepted : accepted)
    {write : ConfigEntries → ConfigEntries} {settings : SavedSettings}
    (hsettings : (write entries).saved = settings) :
    Performs calls entries accepted (saveEntry calls write entries) settings := by
  have hmixed := saved_mix calls.changed entries (write entries)
  rw [hsettings] at hmixed
  unfold saveEntry
  split_ifs with hopened hwritten hcommitted
  · exact ⟨by simp [WriteCalls.Succeed, hopened], fun _ hall => absurd hall.1 hopened,
      fun _ hok => absurd hok hopened, fun _ => rfl⟩
  · exact ⟨by simp [WriteCalls.Succeed, hwritten], fun _ hall => absurd hall.2.1 hwritten,
      fun _ _ _ => hmixed, fun hnot => absurd ⟨haccepted, not_not.mp hopened⟩ hnot⟩
  · exact ⟨by simp [WriteCalls.Succeed, hcommitted], fun _ hall => absurd hall.2.2 hcommitted,
      fun _ _ _ => hmixed, fun hnot => absurd ⟨haccepted, not_not.mp hopened⟩ hnot⟩
  · have hall : calls.Succeed :=
      ⟨not_not.mp hopened, not_not.mp hwritten, not_not.mp hcommitted⟩
    exact ⟨by simp [haccepted, hall], fun _ _ => hsettings, fun _ _ hfailed => absurd hall hfailed,
      fun hnot => absurd ⟨haccepted, hall.1⟩ hnot⟩

theorem Performs.refused {accepted : Prop} {settings : SavedSettings} (hrefused : ¬accepted) :
    Performs calls entries accepted (.invalidArg, entries) settings :=
  ⟨by simp [hrefused], fun haccepted => absurd haccepted hrefused,
    fun haccepted => absurd haccepted hrefused, fun _ => rfl⟩

/-- A save of a text changes what the load of this text gives. -/
theorem Performs.of_text (change : TextLoad → SavedSettings) {text : Option Text} {kept : TextLoad}
    {write : Text → ConfigEntries → ConfigEntries}
    (hchange : ∀ text, (write text entries).saved = change (loadText {} (some text))) :
    Performs calls entries (text.isSome = true) (saveText calls text write entries)
      (change (text.elim kept fun text => savedText (cString text))) := by
  cases text with
  | none => exact .refused (by simp)
  | some given =>
      apply Performs.of_write rfl
      calc (write (cString given) entries).saved
          = change (loadText {} (some (cString given))) := hchange _
        _ = change (savedText (cString given)) := congrArg change (loadText_some given)

theorem saveBrightness_performs (value : UInt8) :
    Performs calls entries (1 ≤ value ∧ value ≤ 100) (saveBrightness calls entries value)
      (ConfigRequest.apply entries.saved (.brightness value)) := by
  unfold saveBrightness
  by_cases hvalid : 1 ≤ value ∧ value ≤ 100
  · have hchecked : ¬(value < 1 ∨ 100 < value) := by simpa only [not_or, UInt8.not_lt] using hvalid
    rw [if_neg hchecked]
    exact .of_write hvalid rfl
  · have hrefused : value < 1 ∨ 100 < value := by
      by_contra hchecked
      exact hvalid (by simpa only [not_or, UInt8.not_lt] using hchecked)
    rw [if_pos hrefused]
    exact .refused hvalid

theorem saveSleepTimeoutMs_performs (timeoutMs : UInt32) :
    Performs calls entries (isValidSleepTimeoutMs timeoutMs = true)
      (saveSleepTimeoutMs calls entries timeoutMs)
      (ConfigRequest.apply entries.saved (.sleepTimeoutMs timeoutMs)) := by
  unfold saveSleepTimeoutMs
  split
  · next hrefused => exact .refused (by simp [hrefused])
  · next hvalid => exact .of_write (by simpa using hvalid) rfl

/-- A volume that is too large is stored as 100. -/
theorem saveAudioVolume_performs (volume : UInt8) :
    Performs calls entries True (saveAudioVolume calls entries volume)
      (ConfigRequest.apply entries.saved (.audioVolume volume)) := by
  apply Performs.of_write trivial
  refine congrArg (fun value => { entries.saved with audioVolume := value }) ?_
  change (if hvalid : (if 100 < volume then 100 else volume) ≤ 100 then _ else _) = _
  by_cases hlarge : 100 < volume
  · have hinvalid : ¬volume ≤ 100 := UInt8.not_le.mpr hlarge
    simp [hlarge, hinvalid, largestVolume]
  · have hvalid : volume ≤ 100 := UInt8.not_lt.mp hlarge
    simp [hlarge, hvalid]

theorem saveOpcuaEndpoint_performs (url : Option Text) :
    Performs calls entries ((url.bind Endpoint.check).isSome = true)
      (saveOpcuaEndpoint calls entries url)
      (ConfigRequest.apply entries.saved (.opcuaEndpoint url)) := by
  unfold saveOpcuaEndpoint
  simp only [ConfigRequest.apply]
  cases url.bind Endpoint.check with
  | none => exact .refused (by simp)
  | some endpoint =>
      apply Performs.of_write rfl
      apply SavedSettings.ext
      case opcuaEndpoint => exact loadOpcuaEndpoint_some entries endpoint
      case hasOpcuaEndpoint => exact hasSavedOpcuaEndpoint_some entries endpoint
      all_goals rfl

/-- **A request and the settings.**  Whatever the flash holds, a request that is accepted and whose calls
succeed changes the one setting it is about, and one that is refused changes nothing. -/
theorem perform_performs (calls : WriteCalls) (entries : ConfigEntries) (request : ConfigRequest) :
    Performs calls entries request.Accepted (request.perform calls entries)
      (request.apply entries.saved) := by
  cases request with
  | wifiEnabled enabled =>
      apply Performs.of_write trivial
      exact congrArg (fun flag => { entries.saved with wifiEnabled := flag }) (loadFlag_flagByte enabled)
  | uartEnabled enabled =>
      apply Performs.of_write trivial
      exact congrArg (fun flag => { entries.saved with uartEnabled := flag }) (loadFlag_flagByte enabled)
  | haEnabled enabled =>
      apply Performs.of_write trivial
      exact congrArg (fun flag => { entries.saved with haEnabled := flag }) (loadFlag_flagByte enabled)
  | weatherKey text =>
      simp only [ConfigRequest.perform, ConfigRequest.Accepted, ConfigRequest.apply, saveWeatherKey]
      apply Performs.of_text fun load => { entries.saved with weatherKey := load }
      intro given
      rfl
  | calendarKey text =>
      simp only [ConfigRequest.perform, ConfigRequest.Accepted, ConfigRequest.apply, saveCalendarKey]
      apply Performs.of_text fun load => { entries.saved with calendarKey := load }
      intro given
      rfl
  | haUrl text =>
      simp only [ConfigRequest.perform, ConfigRequest.Accepted, ConfigRequest.apply, saveHaUrl]
      apply Performs.of_text fun load => { entries.saved with haUrl := load }
      intro given
      rfl
  | haLogin text =>
      simp only [ConfigRequest.perform, ConfigRequest.Accepted, ConfigRequest.apply, saveHaLogin]
      apply Performs.of_text fun load => { entries.saved with haLogin := load }
      intro given
      rfl
  | haPassword text =>
      simp only [ConfigRequest.perform, ConfigRequest.Accepted, ConfigRequest.apply, saveHaPassword]
      apply Performs.of_text fun load => { entries.saved with haPassword := load }
      intro given
      rfl
  | brightness value => exact saveBrightness_performs value
  | audioVolume volume => exact saveAudioVolume_performs volume
  | sleepTimeoutMs timeoutMs => exact saveSleepTimeoutMs_performs timeoutMs
  | haWsPort port =>
      apply Performs.of_write trivial
      have hport : loadHaWsPort {} { entries with haWsPort := some port } =
          if hvalid : port ≠ 0 then ⟨port, hvalid⟩ else defaultWsPort := by
        simp [loadHaWsPort, nvsGet]
      exact congrArg (fun value => { entries.saved with haWsPort := value }) hport
  | opcuaEndpoint url => exact saveOpcuaEndpoint_performs url
  | clearAll =>
      apply Performs.of_write trivial
      exact saved_empty

theorem perform_saved (calls : WriteCalls) (entries : ConfigEntries) (request : ConfigRequest) :
    (request.perform calls entries).2.saved = request.after calls entries.saved := by
  have hperforms := perform_performs calls entries request
  unfold ConfigRequest.after
  split_ifs with hopened hall
  · exact hperforms.succeeded hopened.1 hall
  · exact hperforms.failed hopened.1 hopened.2 hall
  · rw [hperforms.kept hopened]

/-- A request of which nothing is left behind unless it succeeds. -/
theorem after_unchanged {request : ConfigRequest} (hunchanged : ∀ key, calls.changed key = false) :
    request.after calls entries.saved =
      if (request.perform calls entries).1 = .ok then request.apply entries.saved
      else entries.saved := by
  have hok := (perform_performs calls entries request).ok_iff
  unfold ConfigRequest.after
  rw [SavedSettings.mix_unchanged calls.changed hunchanged]
  by_cases hall : request.Accepted ∧ calls.Succeed
  · rw [if_pos ⟨hall.1, hall.2.1⟩, if_pos hall.2, if_pos (hok.mpr hall)]
  · rw [if_neg (mt hok.mp hall)]
    split_ifs with hopened hsucceed
    · exact absurd ⟨hopened.1, hsucceed⟩ hall
    · rfl
    · rfl

/-- The function of the OpenPLC page returns the same. -/
theorem saveOpcuaEndpoint_result (url : Option Text) :
    (saveOpcuaEndpoint calls entries url).1 =
      (settingsConfigSaveOpcuaEndpoint
        { opened := calls.opened, set := calls.written, committed := calls.committed } url).1 := by
  unfold saveOpcuaEndpoint settingsConfigSaveOpcuaEndpoint saveEntry
  cases url.bind Endpoint.check with
  | none => rfl
  | some endpoint =>
      dsimp only
      split_ifs with hopened hwritten hcommitted
      · rfl
      · rfl
      · rfl
      · exact (not_not.mp hcommitted).symm
      · exact absurd (not_not.mp hcommitted) ‹_›

end

/-! ## Loads that fail -/

/-- A load gives the setting or its default. -/
def FallsBack {α : Type} (default loaded saved : α) : Prop :=
  loaded = saved ∨ loaded = default

/-- The load of a text gives the text, or an error and the buffer as it was. -/
def TextFallsBack (loaded saved : TextLoad) : Prop :=
  ∀ len buffer, loaded len buffer = saved len buffer ∨
    (loaded len buffer).1 ≠ .ok ∧ (loaded len buffer).2 = buffer

/-- The load of the endpoint gives the endpoint or the default, cut to the buffer. -/
def EndpointFallsBack (loaded saved : EndpointLoad) : Prop :=
  ∀ length buffer default, loaded length buffer default = saved length buffer default ∨
    ∃ url ∈ default, (loaded length buffer default).2 = (cString url).take (length - 1)

/-- Loads over failing calls, compared with loads over calls that succeed. -/
structure LoadsFallBack (loaded saved : SavedSettings) : Prop where
  wifiEnabled : FallsBack false loaded.wifiEnabled saved.wifiEnabled
  uartEnabled : FallsBack false loaded.uartEnabled saved.uartEnabled
  weatherKey : TextFallsBack loaded.weatherKey saved.weatherKey
  calendarKey : TextFallsBack loaded.calendarKey saved.calendarKey
  brightness : FallsBack defaultBrightness loaded.brightness saved.brightness
  audioVolume : FallsBack defaultVolume loaded.audioVolume saved.audioVolume
  sleepTimeoutMs : FallsBack defaultSleepTimeout loaded.sleepTimeoutMs saved.sleepTimeoutMs
  haEnabled : FallsBack false loaded.haEnabled saved.haEnabled
  haUrl : TextFallsBack loaded.haUrl saved.haUrl
  haLogin : TextFallsBack loaded.haLogin saved.haLogin
  haPassword : TextFallsBack loaded.haPassword saved.haPassword
  haWsPort : FallsBack defaultWsPort loaded.haWsPort saved.haWsPort
  opcuaEndpoint : EndpointFallsBack loaded.opcuaEndpoint saved.opcuaEndpoint
  hasOpcuaEndpoint : FallsBack false loaded.hasOpcuaEndpoint saved.hasOpcuaEndpoint

section

variable (calls : ReadCalls) (entries : ConfigEntries)

/-- A read over failing calls finds the entry or reports an error. -/
theorem nvsGet_cases {α : Type} (entry : Option α) (returned : EspErr) (before : α) :
    nvsGet entry returned before = nvsGet entry .ok before ∨
      (nvsGet entry returned before).1 ≠ .ok ∧ (nvsGet entry returned before).2 = before := by
  cases entry with
  | none => exact .inl rfl
  | some value =>
      by_cases hread : returned = .ok
      · exact .inl (congrArg (nvsGet (some value) · before) hread)
      · exact .inr (by simp [nvsGet, hread])

theorem loadNumber_cases {α : Type} (entry : Option α) (number : α) :
    loadNumber calls entry number = loadNumber {} entry number ∨
      loadNumber calls entry number = number := by
  unfold loadNumber
  split
  · rcases nvsGet_cases entry calls.read number with hsame | ⟨-, hkept⟩
    · exact .inl (congrArg Prod.snd hsame)
    · exact .inr hkept
  · exact .inr rfl

theorem loadFlag_cases (entry : Option UInt8) :
    FallsBack false (loadFlag calls entry) (loadFlag {} entry) := by
  unfold loadFlag FallsBack
  split
  · exact .inr rfl
  · rcases nvsGet_cases entry calls.read 0 with hsame | ⟨herr, -⟩
    · left
      rw [hsame]
      rfl
    · right
      simp only [if_neg herr]

theorem loadText_cases (entry : Option Text) :
    TextFallsBack (loadText calls entry) (loadText {} entry) := by
  intro len buffer
  unfold loadText
  by_cases hlen : len = 0
  · left
    rw [if_pos hlen, if_pos hlen]
  rw [if_neg hlen, if_neg hlen]
  by_cases hopened : calls.opened = .ok
  · rw [if_neg (not_not.mpr hopened), if_neg (not_not.mpr rfl)]
    rcases nvsGet_cases (entry.map fun text => text.length + 1) calls.size 0 with hsize | ⟨herr, -⟩
    · rw [hsize]
      dsimp only
      split
      · rcases nvsGet_cases entry calls.read buffer with hread | ⟨herr, -⟩
        · left
          rw [hread]
        · right
          exact ⟨herr, if_neg herr⟩
      · exact .inl rfl
    · right
      dsimp only
      rw [if_neg fun hfound => herr hfound.1]
      exact ⟨herr, rfl⟩
  · right
    rw [if_pos hopened]
    exact ⟨hopened, rfl⟩

/-- A number that is checked after its load. -/
theorem fallsBack_of_number {α β : Type} (checked : α → β) (entry : Option α) (number : α) :
    FallsBack (checked number) (checked (loadNumber calls entry number))
      (checked (loadNumber {} entry number)) := by
  rcases loadNumber_cases calls entry number with hsame | hdefault
  · exact .inl (congrArg checked hsame)
  · exact .inr (congrArg checked hdefault)

theorem loadBrightness_cases :
    FallsBack defaultBrightness (loadBrightness calls entries) (loadBrightness {} entries) :=
  fallsBack_of_number calls
    (fun brightness => loadBrightness {} { entries with brightness := some brightness }) _ 80

theorem loadAudioVolume_cases :
    FallsBack defaultVolume (loadAudioVolume calls entries) (loadAudioVolume {} entries) :=
  fallsBack_of_number calls
    (fun volume => loadAudioVolume {} { entries with audioVolume := some volume }) _ 80

theorem loadSleepTimeoutMs_cases :
    FallsBack defaultSleepTimeout (loadSleepTimeoutMs calls entries)
      (loadSleepTimeoutMs {} entries) :=
  fallsBack_of_number calls
    (fun timeoutMs => loadSleepTimeoutMs {} { entries with sleepTimeoutMs := some timeoutMs }) _ _

theorem loadHaWsPort_cases :
    FallsBack defaultWsPort (loadHaWsPort calls entries) (loadHaWsPort {} entries) := by
  unfold FallsBack loadHaWsPort
  by_cases hopened : calls.opened = .ok
  · rw [if_pos hopened, if_pos rfl]
    rcases nvsGet_cases entries.haWsPort calls.read 3000 with hsame | ⟨herr, -⟩
    · left
      rw [hsame]
    · right
      simp only [herr, false_and, dite_false]
  · right
    rw [if_neg hopened]
    simp only [hopened, false_and, dite_false]

/-- The endpoint over failing calls. -/
theorem getOpcuaEndpoint_cases (length : ℕ) (buffer : Text) :
    getOpcuaEndpoint calls entries length buffer = getOpcuaEndpoint {} entries length buffer ∨
      (getOpcuaEndpoint calls entries length buffer).1 ≠ .ok := by
  unfold getOpcuaEndpoint
  split
  · next hopened => exact .inr hopened
  · rw [if_neg (not_not.mpr rfl)]
    rcases nvsGet_cases entries.opcuaEndpoint calls.read buffer with hsame | ⟨herr, -⟩
    · left
      rw [hsame]
    · right
      dsimp only
      rw [if_neg fun hfound => herr hfound.1]
      exact herr

theorem loadOpcuaEndpoint_cases :
    EndpointFallsBack (loadOpcuaEndpoint calls entries) (loadOpcuaEndpoint {} entries) := by
  intro length buffer default
  unfold loadOpcuaEndpoint
  cases default with
  | none => exact .inl rfl
  | some default =>
      dsimp only
      split
      · exact .inl rfl
      · rcases getOpcuaEndpoint_cases calls entries length buffer with hsame | herr
        · left
          rw [hsame]
        · right
          rw [if_neg fun hfound => herr hfound.1]
          exact ⟨default, rfl, rfl⟩

theorem hasSavedOpcuaEndpoint_cases :
    FallsBack false (hasSavedOpcuaEndpoint calls entries) (hasSavedOpcuaEndpoint {} entries) := by
  unfold FallsBack hasSavedOpcuaEndpoint
  rcases getOpcuaEndpoint_cases calls entries endpointLength [] with hsame | herr
  · left
    rw [hsame]
  · right
    simp only [herr, false_and, decide_false]

/-- **Loads over failing calls.**  Whichever calls of NVS fail, a load gives the setting or its
default. -/
theorem loads_cases : LoadsFallBack (entries.loads calls) entries.saved where
  wifiEnabled := loadFlag_cases calls _
  uartEnabled := loadFlag_cases calls _
  weatherKey := loadText_cases calls _
  calendarKey := loadText_cases calls _
  brightness := loadBrightness_cases calls entries
  audioVolume := loadAudioVolume_cases calls entries
  sleepTimeoutMs := loadSleepTimeoutMs_cases calls entries
  haEnabled := loadFlag_cases calls _
  haUrl := loadText_cases calls _
  haLogin := loadText_cases calls _
  haPassword := loadText_cases calls _
  haWsPort := loadHaWsPort_cases calls entries
  opcuaEndpoint := loadOpcuaEndpoint_cases calls entries
  hasOpcuaEndpoint := hasSavedOpcuaEndpoint_cases calls entries

end

/-! ## Runs of requests -/

/-- The requests one after the other, with their results. -/
def performAll : List (ConfigRequest × WriteCalls) → ConfigEntries →
    List (ConfigRequest × EspErr) × ConfigEntries
  | [], entries => ([], entries)
  | (request, calls) :: requests, entries =>
      let (result, entries) := request.perform calls entries
      let (results, entries) := performAll requests entries
      ((request, result) :: results, entries)

/-- The requests that have reported success. -/
def succeeded (results : List (ConfigRequest × EspErr)) : List ConfigRequest :=
  (results.filter fun result => result.2 = .ok).map Prod.fst

/-- The results of the requests one after the other. -/
theorem performAll_results (requests : List (ConfigRequest × WriteCalls)) (entries : ConfigEntries) :
    List.Forall₂ (fun call result => result.1 = call.1 ∧
      (result.2 = .ok ↔ call.1.Accepted ∧ call.2.Succeed)) requests
        (performAll requests entries).1 := by
  induction requests generalizing entries with
  | nil => exact .nil
  | cons call requests ih =>
      obtain ⟨request, calls⟩ := call
      exact .cons ⟨rfl, (perform_performs calls entries request).ok_iff⟩ (ih _)

theorem performAll_after (requests : List (ConfigRequest × WriteCalls)) (entries : ConfigEntries) :
    (performAll requests entries).2.saved =
      requests.foldl (fun settings call => call.1.after call.2 settings) entries.saved := by
  induction requests generalizing entries with
  | nil => rfl
  | cons call requests ih =>
      obtain ⟨request, calls⟩ := call
      rw [List.foldl_cons, ← perform_saved calls entries request]
      exact ih _

/-- If nothing is left behind of what fails, the requests that succeed decide. -/
theorem performAll_succeeded (requests : List (ConfigRequest × WriteCalls)) (entries : ConfigEntries)
    (hunchanged : ∀ call ∈ requests, ∀ key, call.2.changed key = false) :
    (performAll requests entries).2.saved =
      (succeeded (performAll requests entries).1).foldl ConfigRequest.apply entries.saved := by
  induction requests generalizing entries with
  | nil => rfl
  | cons call requests ih =>
      obtain ⟨request, calls⟩ := call
      obtain ⟨hfirst, hothers⟩ := List.forall_mem_cons.mp hunchanged
      have hstep : succeeded (performAll ((request, calls) :: requests) entries).1 =
          (if (request.perform calls entries).1 = .ok then [request] else []) ++
            succeeded (performAll requests (request.perform calls entries).2).1 := by
        simp only [succeeded, performAll]
        split <;> simp [*]
      rw [hstep, List.foldl_append]
      refine (ih (request.perform calls entries).2 hothers).trans
        (congrArg (List.foldl ConfigRequest.apply · _) ?_)
      rw [perform_saved, after_unchanged hfirst]
      split <;> rfl

/-- **The settings after any requests.**  Whatever the flash holds and whichever calls of NVS fail: the
loads see the settings that the requests make of those at the start, one after the other, where a
request that has failed leaves behind what its calls have changed all the same; if that is nothing, the
requests that have reported success decide alone.  A request reports success exactly if it is accepted
and all of its calls succeed, and a load whose own calls fail gives the setting or its default. -/
theorem performAll_saved (requests : List (ConfigRequest × WriteCalls)) (entries : ConfigEntries) :
    (performAll requests entries).2.saved =
        requests.foldl (fun settings call => call.1.after call.2 settings) entries.saved ∧
      ((∀ call ∈ requests, ∀ key, call.2.changed key = false) →
        (performAll requests entries).2.saved =
          (succeeded (performAll requests entries).1).foldl ConfigRequest.apply entries.saved) ∧
      List.Forall₂ (fun call result => result.1 = call.1 ∧
        (result.2 = .ok ↔ call.1.Accepted ∧ call.2.Succeed)) requests
          (performAll requests entries).1 ∧
      ∀ calls, LoadsFallBack ((performAll requests entries).2.loads calls)
        (performAll requests entries).2.saved :=
  ⟨performAll_after requests entries, performAll_succeeded requests entries,
    performAll_results requests entries, fun calls => loads_cases calls _⟩

end CrowPanel.Settings
