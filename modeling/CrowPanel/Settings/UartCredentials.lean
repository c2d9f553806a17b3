import CrowPanel.Library.Json
import Mathlib.Data.List.DropRight

/-!
# Credentials over UART

`parse_wifi_password_json`, `parse_api_keys_json` and `parse_ha_creds_json` read a message with cJSON
and store what it carries.  A message that is not accepted as a whole should leave no trace, and of one
that is accepted exactly its own values should be stored and passed on.

## Strategy

`accepted` says which messages are accepted and what they carry; it looks at a message only.
`AllOrNothing` compares the outcome of a parser with it.  The parsers differ from it at three places:
a wrong CRC is only logged, the SSID is stored before the password is looked at and stays when the next
message has none, and long Home Assistant fields are cut.  `Spared` says when none of this does harm.
-/

namespace CrowPanel.Settings

open Library

/-- `MAX_PASSWORD_LEN` -/
abbrev maxPasswordLen : ℕ := 64

/-- `UART_SSID_BUFFER_LENGTH` -/
abbrev uartSsidBufferLength : ℕ := 33

/-- `MAX_KEY_LEN` -/
abbrev maxKeyLen : ℕ := 256

/-- `MAX_HA_URL_LEN` -/
abbrev maxHaUrlLen : ℕ := 256

/-- `MAX_HA_LOGIN_LEN` -/
abbrev maxHaLoginLen : ℕ := 65

/-- The port that is taken when a message names none. -/
def defaultHaWsPort : UInt16 := 3000

/-! ## The state -/

/-- The static variables of `uart_handler.c` that hold credentials. -/
structure UartCredentials where
  wifiPassword : CharArray maxPasswordLen := .empty
  wifiSsid : CharArray uartSsidBufferLength := .empty
  weatherApiKey : CharArray maxKeyLen := .empty
  calendarApiKey : CharArray maxKeyLen := .empty
  passwordReceived : Bool := false
  weatherKeyReceived : Bool := false
  calendarKeyReceived : Bool := false
  keysReceived : Bool := false
  ssidReceived : Bool := false
  haUrl : CharArray maxHaUrlLen := .empty
  haLogin : CharArray maxHaLoginLen := .empty
  haPassword : CharArray maxPasswordLen := .empty
  haWsPort : UInt16 := defaultHaWsPort
  haCredsReceived : Bool := false
  deriving DecidableEq

namespace UartCredentials

/-- `uart_password_handler_get_ssid` -/
def getSsid (stored : UartCredentials) : Option Text :=
  if stored.ssidReceived then some stored.wifiSsid.text else none

/-- `uart_password_handler_get_password` -/
def getPassword (stored : UartCredentials) : Option Text :=
  if stored.passwordReceived then some stored.wifiPassword.text else none

/-- `uart_password_handler_get_weather_key` -/
def getWeatherKey (stored : UartCredentials) : Option Text :=
  if stored.weatherKeyReceived then some stored.weatherApiKey.text else none

/-- `uart_password_handler_get_calendar_key` -/
def getCalendarKey (stored : UartCredentials) : Option Text :=
  if stored.calendarKeyReceived then some stored.calendarApiKey.text else none

end UartCredentials

/-- `uart_handler_callbacks_t` without its context.  An absent callback is a null pointer. -/
structure UartHandlerCallbacks where
  onRecvWifiPassword : Option (Option Text → Text → Bool) := none
  onRecvWeatherApiKey : Option (Text → Bool) := none
  onRecvCalendarApiKey : Option (Text → Bool) := none
  onRecvHaCreds : Option (Text → Text → Text → Bool) := none

/-- What a parser does besides storing. -/
inductive CredentialOutput
  /-- The log line about the CRC. -/
  | crcChecked (agrees : Bool)
  /-- `uart_send_response` -/
  | respond (response : String)
  /-- `on_recv_wifi_password` -/
  | wifiPassword (ssid : Option Text) (password : Text)
  /-- `on_recv_weather_api_key` -/
  | weatherApiKey (key : Text)
  /-- `on_recv_calendar_api_key` -/
  | calendarApiKey (key : Text)
  /-- `on_recv_ha_creds` -/
  | haCreds (url login password : Text)
  deriving DecidableEq

def CredentialOutput.isCallback : CredentialOutput → Bool
  | .crcChecked _ | .respond _ => false
  | _ => true

/-- The calls of callbacks. -/
def calls (outputs : List CredentialOutput) : List CredentialOutput :=
  outputs.filter CredentialOutput.isCallback

/-- What a parser returns and leaves behind. -/
structure Parsed where
  success : Bool
  stored : UartCredentials
  outputs : List CredentialOutput := []
  deriving DecidableEq

/-- The parsers of credentials. -/
inductive CredentialParser
  | wifiPassword
  | apiKeys
  | haCreds
  deriving DecidableEq

/-! ## Reading a message -/

/-- What the parsers use of cJSON, of the CRC in ROM and of the heap. -/
structure JsonLibrary where
  /-- `strdup` finds memory. -/
  copies : Bool
  /-- `cJSON_Parse` -/
  parse : Text → Option Json
  /-- `cJSON_PrintUnformatted`, of a value that `cJSON_Duplicate` copied -/
  printUnformatted : Json → Option Text
  /-- `valueint` of a number -/
  valueint : Text → ℤ
  /-- `esp_crc32_le` from 0 -/
  crc32 : Text → UInt32

/-- `trim_newline` -/
def trimNewline (text : Text) : Text :=
  text.rdropWhile fun byte => byte = 0x0A ∨ byte = 0x0D

/-- A digit as `%X` writes it. -/
def upperHexDigit (value : ℕ) : UInt8 :=
  if value < 10 then (0x30 + value).toUInt8 else (0x37 + value).toUInt8

/-- A number as `%08lX` writes it. -/
def upperHex (value : UInt32) : Text :=
  (List.range 8).map fun place => upperHexDigit (value.toNat / 16 ^ (7 - place) % 16)

variable (library : JsonLibrary)

/-- The document in a message. -/
def readMessage (json : Text) : Option Json :=
  if json = [] ∨ library.copies = false then none
  else library.parse (trimNewline json)

/-- The CRC of a message is compared with the one that it carries, and the result is logged. -/
def checkCrc (root : Json) : List CredentialOutput :=
  match root.stringItem "crc32" with
  | none => []
  | some crc =>
      match library.printUnformatted (root.deleteItem (ascii "crc32")) with
      | none => []
      | some pureJson => [.crcChecked (sameIgnoringCase (upperHex (library.crc32 pureJson)) crc)]

/-- The port in a Home Assistant message. -/
def readHaWsPort (root : Json) : UInt16 :=
  match root.getObjectItem (ascii "ha_ws_port") with
  | some (.number literal) =>
      let port := library.valueint literal
      if 1 ≤ port ∧ port ≤ 65535 then port.toNat.toUInt16 else defaultHaWsPort
  | _ => defaultHaWsPort

/-! ## The parsers -/

variable (callbacks : UartHandlerCallbacks)

/-- `notify_keys_received`, after the keys were stored. -/
def notifyKeysReceived (stored : UartCredentials) : UartCredentials × List CredentialOutput :=
  if stored.weatherKeyReceived && stored.calendarKeyReceived then
    let weatherKey := stored.weatherApiKey.text
    let calendarKey := stored.calendarApiKey.text
    let weatherKeySetRes := callbacks.onRecvWeatherApiKey.any fun set => set weatherKey
    let calendarKeySetRes := callbacks.onRecvCalendarApiKey.any fun set => set calendarKey
    ({ stored with keysReceived := true },
      (if callbacks.onRecvWeatherApiKey.isSome then [.weatherApiKey weatherKey] else []) ++
        (if callbacks.onRecvCalendarApiKey.isSome then [.calendarApiKey calendarKey] else []) ++
          [.respond <|
            if weatherKeySetRes && calendarKeySetRes then
              "\x7b\"status\":\"OK\",\"message\":\"API keys received and stored\"\x7d"
            else "\x7b\"status\":\"ERROR\",\"message\":\"Failed to store API keys\"\x7d"])
  else (stored, [])

/-- The SSID of a Wi-Fi message is stored when it fits. -/
def storeSsid (root : Json) (stored : UartCredentials) : UartCredentials :=
  match root.stringItem "ssid" with
  | some ssid =>
      if 0 < ssid.length ∧ ssid.length < uartSsidBufferLength then
        { stored with wifiSsid := .ofText _ ssid, ssidReceived := true }
      else stored
  | none => stored

/-- `parse_wifi_password_json` -/
def parseWifiPassword (json : Text) (stored : UartCredentials) : Parsed :=
  match readMessage library json with
  | none => { success := false, stored }
  | some root =>
      let type := (root.stringItem "type").getD []
      if ¬(type = ascii "wifi_password" ∨ type = ascii "wifi_config") then
        { success := false, stored }
      else
        let named := storeSsid root stored
        match root.stringItem "password" with
        | none => { success := false, stored := named }
        | some password =>
            if password.length = 0 ∨ maxPasswordLen ≤ password.length then
              { success := false, stored := named }
            else
              { success := true
                stored := { named with wifiPassword := .ofText _ password, passwordReceived := true }
                outputs := checkCrc library root ++
                  [.respond "\x7b\"status\":\"OK\",\"message\":\"WiFi credentials received\"\x7d"] ++
                    if callbacks.onRecvWifiPassword.isSome then
                      [.wifiPassword named.getSsid password]
                    else [] }

/-- `parse_api_keys_json` -/
def parseApiKeys (json : Text) (stored : UartCredentials) : Parsed :=
  match readMessage library json with
  | none => { success := false, stored }
  | some root =>
      if root.stringItem "type" ≠ some (ascii "api_keys") then { success := false, stored }
      else
        match root.stringItem "weather_key", root.stringItem "calendar_key" with
        | some weatherKey, some calendarKey =>
            if weatherKey.length = 0 ∨ calendarKey.length = 0 ∨ maxKeyLen ≤ weatherKey.length ∨
                maxKeyLen ≤ calendarKey.length then
              { success := false, stored }
            else
              let (notified, notifications) :=
                notifyKeysReceived callbacks
                  { stored with
                    weatherApiKey := .ofText _ weatherKey
                    weatherKeyReceived := true
                    calendarApiKey := .ofText _ calendarKey
                    calendarKeyReceived := true }
              { success := true
                stored := notified
                outputs := checkCrc library root ++ notifications }
        | _, _ => { success := false, stored }

/-- `parse_ha_creds_json` -/
def parseHaCreds (json : Text) (stored : UartCredentials) : Parsed :=
  match readMessage library json with
  | none => { success := false, stored }
  | some root =>
      if root.stringItem "type" ≠ some (ascii "ha_creds") then { success := false, stored }
      else
        let url := (root.stringItem "ha_url").getD []
        let login := (root.stringItem "ha_login").getD []
        let password := (root.stringItem "ha_password").getD []
        { success := true
          stored :=
            { stored with
              haUrl := .ofText _ url
              haLogin := .ofText _ login
              haPassword := .ofText _ password
              haWsPort := readHaWsPort library root
              haCredsReceived := true }
          outputs := checkCrc library root ++
            [.respond "\x7b\"status\":\"OK\",\"message\":\"HA credentials received\"\x7d"] ++
              if callbacks.onRecvHaCreds.isSome then [.haCreds url login password] else [] }

/-- The parser of a kind of message. -/
def parseCredentials : CredentialParser → Text → UartCredentials → Parsed
  | .wifiPassword => parseWifiPassword library callbacks
  | .apiKeys => parseApiKeys library callbacks
  | .haCreds => parseHaCreds library callbacks

/-! ## Accepted messages -/

/-- What a message carries. -/
inductive Credentials
  | wifi (ssid : Option Text) (password : Text)
  | apiKeys (weatherKey calendarKey : Text)
  | haCreds (url login password : Text) (wsPort : UInt16)
  deriving DecidableEq

/-- The types of the messages to a parser. -/
def CredentialParser.types : CredentialParser → List String
  | .wifiPassword => ["wifi_password", "wifi_config"]
  | .apiKeys => ["api_keys"]
  | .haCreds => ["ha_creds"]

/-- The message has the type that the parser reads. -/
def HasType (root : Json) (parser : CredentialParser) : Prop :=
  ∃ type ∈ parser.types, root.stringItem "type" = some (ascii type)

instance (root : Json) (parser : CredentialParser) : Decidable (HasType root parser) :=
  inferInstanceAs (Decidable (∃ type ∈ parser.types, _))

/-- The CRC of a message, if it has one, is the one of its rest. -/
def crcAgrees (root : Json) : Bool :=
  match root.stringItem "crc32" with
  | none => true
  | some crc =>
      (library.printUnformatted (root.deleteItem (ascii "crc32"))).any fun rest =>
        sameIgnoringCase (upperHex (library.crc32 rest)) crc

/-- The string under a name, unless it is empty. -/
def given (root : Json) (name : String) : Option Text :=
  (root.stringItem name).filter (· ≠ [])

/-- The values of a message, all of them within their buffers.  The SSID and the Home Assistant
fields can be absent. -/
def carried (root : Json) : CredentialParser → Option Credentials
  | .wifiPassword =>
      (given root "password").bind fun password =>
        if password.length < maxPasswordLen ∧
            ∀ ssid ∈ given root "ssid", ssid.length < uartSsidBufferLength then
          some (.wifi (given root "ssid") password)
        else none
  | .apiKeys =>
      (given root "weather_key").bind fun weatherKey =>
        (given root "calendar_key").bind fun calendarKey =>
          if weatherKey.length < maxKeyLen ∧ calendarKey.length < maxKeyLen then
            some (.apiKeys weatherKey calendarKey)
          else none
  | .haCreds =>
      let url := (root.stringItem "ha_url").getD []
      let login := (root.stringItem "ha_login").getD []
      let password := (root.stringItem "ha_password").getD []
      if url.length < maxHaUrlLen ∧ login.length < maxHaLoginLen ∧
          password.length < maxPasswordLen then
        some (.haCreds url login password (readHaWsPort library root))
      else none

/-- What a document carries that is accepted as a whole. -/
def acceptedIn (root : Json) (parser : CredentialParser) : Option Credentials :=
  if HasType root parser ∧ crcAgrees library root then carried library root parser else none

/-- What a message carries that is accepted as a whole. -/
def accepted (parser : CredentialParser) (json : Text) : Option Credentials :=
  (readMessage library json).bind fun root => acceptedIn library root parser

/-- These values are stored. -/
def Credentials.StoredIn (stored : UartCredentials) : Credentials → Prop
  | .wifi ssid password => stored.getSsid = ssid ∧ stored.getPassword = some password
  | .apiKeys weatherKey calendarKey =>
      stored.getWeatherKey = some weatherKey ∧ stored.getCalendarKey = some calendarKey ∧
        stored.keysReceived = true
  | .haCreds url login password wsPort =>
      stored.haCredsReceived = true ∧ stored.haUrl.text = url ∧ stored.haLogin.text = login ∧
        stored.haPassword.text = password ∧ stored.haWsPort = wsPort

instance (stored : UartCredentials) : DecidablePred (Credentials.StoredIn stored)
  | .wifi _ _ | .apiKeys _ _ => inferInstanceAs (Decidable (_ ∧ _))
  | .haCreds _ _ _ _ => inferInstanceAs (Decidable (_ ∧ _))

/-- The calls that pass these values on. -/
def Credentials.calls : Credentials → List CredentialOutput
  | .wifi ssid password =>
      if callbacks.onRecvWifiPassword.isSome then [.wifiPassword ssid password] else []
  | .apiKeys weatherKey calendarKey =>
      (if callbacks.onRecvWeatherApiKey.isSome then [.weatherApiKey weatherKey] else []) ++
        if callbacks.onRecvCalendarApiKey.isSome then [.calendarApiKey calendarKey] else []
  | .haCreds url login password _ =>
      if callbacks.onRecvHaCreds.isSome then [.haCreds url login password] else []

/-- A message that is not accepted changes nothing and is passed to no callback; of an accepted one
exactly its values are stored and passed on. -/
def AllOrNothing (before : UartCredentials) (parsed : Parsed) : Option Credentials → Prop
  | none => parsed.stored = before ∧ calls parsed.outputs = []
  | some values => values.StoredIn parsed.stored ∧ calls parsed.outputs = values.calls callbacks

/-! ## When nothing goes wrong -/

/-- A string that a Wi-Fi or an API message can have under this name. -/
def storable (root : Json) (name : String) (size : ℕ) : Option Text :=
  (given root name).filter fun text => text.length < size

/-- An accepted Wi-Fi message has an SSID, or none was received before; of one that is not accepted
each value that passes its own check is stored already, and there is no callback for the password. -/
def SparedWifi (root : Json) (before : UartCredentials) : Prop :=
  if (acceptedIn library root .wifiPassword).isSome then
    given root "ssid" = none → before.ssidReceived = false
  else
    (∀ ssid ∈ storable root "ssid" uartSsidBufferLength, before.getSsid = some ssid) ∧
      ∀ password ∈ storable root "password" maxPasswordLen,
        before.getPassword = some password ∧ callbacks.onRecvWifiPassword = none

/-- The CRC of the message agrees, or its keys do not pass their check, or they were received already
and there is no callback for them. -/
def SparedKeys (root : Json) (before : UartCredentials) : Prop :=
  crcAgrees library root = true ∨
    ∀ weatherKey ∈ storable root "weather_key" maxKeyLen,
      ∀ calendarKey ∈ storable root "calendar_key" maxKeyLen,
        before.getWeatherKey = some weatherKey ∧ before.getCalendarKey = some calendarKey ∧
          before.keysReceived = true ∧ callbacks.onRecvWeatherApiKey = none ∧
            callbacks.onRecvCalendarApiKey = none

/-- The message is accepted, or what it carries, cut to the buffers, was received already and there
is no callback for it. -/
def SparedHaCreds (root : Json) (before : UartCredentials) : Prop :=
  (acceptedIn library root .haCreds).isSome ∨
    (before.haCredsReceived = true ∧
      before.haUrl = .ofText _ ((root.stringItem "ha_url").getD []) ∧
      before.haLogin = .ofText _ ((root.stringItem "ha_login").getD []) ∧
      before.haPassword = .ofText _ ((root.stringItem "ha_password").getD []) ∧
      before.haWsPort = readHaWsPort library root ∧ callbacks.onRecvHaCreds = none)

/-- When a parser treats a message of its type as a whole. -/
def SparedIn (root : Json) (before : UartCredentials) : CredentialParser → Prop
  | .wifiPassword => SparedWifi library callbacks root before
  | .apiKeys => SparedKeys library callbacks root before
  | .haCreds => SparedHaCreds library callbacks root before

/-- When a parser treats a message as a whole. -/
def Spared (parser : CredentialParser) (json : Text) (before : UartCredentials) : Prop :=
  ∀ root, readMessage library json = some root → HasType root parser →
    SparedIn library callbacks root before parser

/-! ## The parsers on a message of their type -/

variable {library callbacks} {json : Text} {root : Json} {before : UartCredentials}

theorem given_eq_some_iff {name : String} {text : Text} :
    given root name = some text ↔ root.stringItem name = some text ∧ text ≠ [] := by
  simp [given, Option.filter_eq_some_iff]

theorem storable_eq_some_iff {name : String} {size : ℕ} {text : Text} :
    storable root name size = some text ↔
      root.stringItem name = some text ∧ text ≠ [] ∧ text.length < size := by
  simp [storable, Option.filter_eq_some_iff, given_eq_some_iff, and_assoc]

theorem ofText_of_storable {name : String} {size : ℕ} [NeZero size] {text : Text}
    {array : CharArray size} (hstorable : storable root name size = some text) :
    CharArray.ofText size text = array ↔ array.text = text := by
  obtain ⟨hitem, -, hfits⟩ := storable_eq_some_iff.mp hstorable
  exact CharArray.ofText_eq_iff (Json.noNul_of_stringItem hitem) hfits

theorem noNul_getD_stringItem {name : String} : 0 ∉ (root.stringItem name).getD [] := by
  cases hitem : root.stringItem name with
  | none => exact List.not_mem_nil
  | some text => exact Json.noNul_of_stringItem hitem

theorem calls_append (first second : List CredentialOutput) :
    calls (first ++ second) = calls first ++ calls second :=
  List.filter_append _ _

/-- The check of the CRC calls nobody. -/
@[simp] theorem calls_checkCrc : calls (checkCrc library root) = [] := by
  unfold checkCrc
  split
  · rfl
  · split <;> rfl

@[simp] theorem calls_respond (response : String) : calls [.respond response] = [] := rfl

/-- What passes values on is calls only. -/
@[simp] theorem calls_calls (values : Credentials) :
    calls (values.calls callbacks) = values.calls callbacks := by
  cases values with
  | wifi ssid password =>
      dsimp only [Credentials.calls]
      split <;> rfl
  | apiKeys weatherKey calendarKey =>
      dsimp only [Credentials.calls]
      split <;> split <;> rfl
  | haCreds url login password wsPort =>
      dsimp only [Credentials.calls]
      split <;> rfl

theorem storeSsid_of_storable {ssid : Text}
    (hssid : storable root "ssid" uartSsidBufferLength = some ssid) :
    storeSsid root before = { before with wifiSsid := .ofText _ ssid, ssidReceived := true } := by
  obtain ⟨hitem, hempty, hfits⟩ := storable_eq_some_iff.mp hssid
  simp only [storeSsid, hitem]
  rw [if_pos ⟨List.length_pos_of_ne_nil hempty, hfits⟩]

theorem storeSsid_of_not_storable (hssid : storable root "ssid" uartSsidBufferLength = none) :
    storeSsid root before = before := by
  unfold storeSsid
  split
  · next ssid hitem =>
      refine if_neg fun hfits => ?_
      have hstored : storable root "ssid" uartSsidBufferLength = some ssid :=
        storable_eq_some_iff.mpr ⟨hitem, List.ne_nil_of_length_pos hfits.1, hfits.2⟩
      rw [hssid] at hstored
      cases hstored
  · rfl

theorem getSsid_storeSsid :
    (storeSsid root before).getSsid =
      (storable root "ssid" uartSsidBufferLength).or before.getSsid := by
  cases hssid : storable root "ssid" uartSsidBufferLength with
  | none => rw [storeSsid_of_not_storable hssid, Option.none_or]
  | some ssid =>
      rw [storeSsid_of_storable hssid, Option.some_or]
      exact congrArg some ((ofText_of_storable hssid).mp rfl)

/-- Storing the SSID changes nothing if it was stored before. -/
theorem storeSsid_eq_iff :
    storeSsid root before = before ↔
      ∀ ssid ∈ storable root "ssid" uartSsidBufferLength, before.getSsid = some ssid := by
  cases hssid : storable root "ssid" uartSsidBufferLength with
  | none => simp [storeSsid_of_not_storable hssid]
  | some ssid =>
      rw [storeSsid_of_storable hssid]
      simp only [Option.mem_some_iff, forall_eq']
      cases before with
      | mk _ wifiSsid _ _ _ _ _ _ ssidReceived =>
        cases ssidReceived <;> simp [UartCredentials.getSsid, ofText_of_storable hssid]

@[simp] theorem storeSsid_wifiPassword :
    (storeSsid root before).wifiPassword = before.wifiPassword := by
  unfold storeSsid
  split
  · split <;> rfl
  · rfl

@[simp] theorem storeSsid_passwordReceived :
    (storeSsid root before).passwordReceived = before.passwordReceived := by
  unfold storeSsid
  split
  · split <;> rfl
  · rfl

/-- Storing SSID and password changes nothing if both were stored before. -/
theorem storePassword_eq_iff {password : Text}
    (hpassword : storable root "password" maxPasswordLen = some password) :
    { storeSsid root before with wifiPassword := .ofText _ password, passwordReceived := true } =
        before ↔
      storeSsid root before = before ∧ before.getPassword = some password := by
  constructor
  · intro hsame
    have htext := congrArg UartCredentials.wifiPassword hsame
    have hreceived := congrArg UartCredentials.passwordReceived hsame
    refine ⟨?_, ?_⟩
    · calc storeSsid root before
          = { storeSsid root before with
              wifiPassword := (storeSsid root before).wifiPassword
              passwordReceived := (storeSsid root before).passwordReceived } := rfl
        _ = before := by
            rw [storeSsid_wifiPassword, storeSsid_passwordReceived, ← htext, ← hreceived]
            exact hsame
    · rw [UartCredentials.getPassword, ← hreceived, if_pos rfl,
        (ofText_of_storable hpassword).mp htext]
  · rintro ⟨hssid, hstored⟩
    rw [hssid]
    cases before with
    | mk wifiPassword _ _ _ passwordReceived =>
        cases passwordReceived with
        | false => cases hstored
        | true =>
            have htext := Option.some.inj hstored
            rw [(ofText_of_storable hpassword).mpr htext]

theorem parseWifiPassword_of_type (hread : readMessage library json = some root)
    (htype : HasType root .wifiPassword) :
    parseWifiPassword library callbacks json before =
      match storable root "password" maxPasswordLen with
      | none => { success := false, stored := storeSsid root before }
      | some password =>
          { success := true
            stored :=
              { storeSsid root before with
                wifiPassword := .ofText _ password, passwordReceived := true }
            outputs := checkCrc library root ++
              [.respond "\x7b\"status\":\"OK\",\"message\":\"WiFi credentials received\"\x7d"] ++
                if callbacks.onRecvWifiPassword.isSome then
                  [.wifiPassword (storeSsid root before).getSsid password]
                else [] } := by
  have htype' : (root.stringItem "type").getD [] = ascii "wifi_password" ∨
      (root.stringItem "type").getD [] = ascii "wifi_config" := by
    obtain ⟨type, hmem, hitem⟩ := htype
    simp only [CredentialParser.types, List.mem_cons, List.not_mem_nil, or_false] at hmem
    rcases hmem with rfl | rfl <;> simp [hitem]
  simp only [parseWifiPassword, hread]
  rw [if_neg (not_not_intro htype')]
  split
  · next hitem => simp [storable, given, hitem]
  · next password hitem =>
      by_cases hlength : password.length = 0 ∨ maxPasswordLen ≤ password.length
      · have hnone : storable root "password" maxPasswordLen = none := by
          refine Option.eq_none_iff_forall_ne_some.mpr fun text htext => ?_
          obtain ⟨hsame, hempty, hfits⟩ := storable_eq_some_iff.mp htext
          obtain rfl := Option.some.inj (hitem.symm.trans hsame)
          have hpos := List.length_pos_of_ne_nil hempty
          omega
        rw [if_pos hlength, hnone]
      · obtain ⟨hempty, hfits⟩ := not_or.mp hlength
        have hsome : storable root "password" maxPasswordLen = some password :=
          storable_eq_some_iff.mpr
            ⟨hitem, fun hnil => hempty (by rw [hnil]; rfl), not_le.mp hfits⟩
        rw [if_neg hlength, hsome]

theorem carried_wifiPassword_of_not_storable
    (hpassword : storable root "password" maxPasswordLen = none) :
    carried library root .wifiPassword = none := by
  unfold carried
  refine Option.bind_eq_none_iff.mpr fun password hgiven => if_neg fun hfits => ?_
  obtain ⟨hitem, hempty⟩ := given_eq_some_iff.mp hgiven
  have hsome := storable_eq_some_iff.mpr ⟨hitem, hempty, hfits.1⟩
  rw [hpassword] at hsome
  cases hsome

theorem carried_wifiPassword_of_storable {password : Text} {values : Credentials}
    (hpassword : storable root "password" maxPasswordLen = some password)
    (hcarried : carried library root .wifiPassword = some values) :
    values = .wifi (given root "ssid") password ∧
      storable root "ssid" uartSsidBufferLength = given root "ssid" := by
  obtain ⟨hitem, hempty, -⟩ := storable_eq_some_iff.mp hpassword
  simp only [carried, given_eq_some_iff.mpr ⟨hitem, hempty⟩, Option.bind_some] at hcarried
  split at hcarried
  · next hfits =>
      refine ⟨(Option.some.inj hcarried).symm, ?_⟩
      cases hssid : given root "ssid" with
      | none => rw [storable, hssid, Option.filter_none]
      | some ssid =>
          have hsize := hfits.2 ssid hssid
          exact storable_eq_some_iff.mpr
            ⟨(given_eq_some_iff.mp hssid).1, (given_eq_some_iff.mp hssid).2, hsize⟩
  · cases hcarried

theorem acceptedIn_eq_some {parser : CredentialParser} {values : Credentials}
    (haccepted : acceptedIn library root parser = some values) :
    carried library root parser = some values := by
  unfold acceptedIn at haccepted
  split at haccepted
  · exact haccepted
  · cases haccepted

theorem allOrNothing_wifiPassword (hread : readMessage library json = some root)
    (htype : HasType root .wifiPassword) :
    AllOrNothing callbacks before (parseWifiPassword library callbacks json before)
        (acceptedIn library root .wifiPassword) ↔ SparedWifi library callbacks root before := by
  rw [parseWifiPassword_of_type hread htype, SparedWifi]
  cases hpassword : storable root "password" maxPasswordLen with
  | none =>
      -- the parser fails, but it has stored the SSID by then
      have hnone : acceptedIn library root .wifiPassword = none := by
        rw [acceptedIn, carried_wifiPassword_of_not_storable hpassword, ite_self]
      simp [hnone, AllOrNothing, storeSsid_eq_iff, calls]
  | some password =>
      cases haccepted : acceptedIn library root .wifiPassword with
      | none =>
          simp only [AllOrNothing, storePassword_eq_iff hpassword, storeSsid_eq_iff, calls_append,
            calls_checkCrc, calls_respond, List.nil_append, Option.isSome_none, Bool.false_eq_true,
            if_false, Option.mem_some_iff, forall_eq', and_assoc]
          refine and_congr_right fun _ => and_congr_right fun _ => ?_
          cases callbacks.onRecvWifiPassword <;> simp [calls, CredentialOutput.isCallback]
      | some values =>
          obtain ⟨rfl, hssid⟩ :=
            carried_wifiPassword_of_storable hpassword (acceptedIn_eq_some haccepted)
          simp only [AllOrNothing, Credentials.StoredIn, Option.isSome_some, if_true]
          have hnamed : (storeSsid root before).getSsid = given root "ssid" ↔
              (given root "ssid" = none → before.ssidReceived = false) := by
            rw [getSsid_storeSsid, hssid]
            cases given root "ssid" with
            | none => simp [UartCredentials.getSsid]
            | some ssid => simp
          have hstored : ({ storeSsid root before with
              wifiPassword := .ofText _ password, passwordReceived := true } :
                UartCredentials).getPassword = some password :=
            congrArg some ((ofText_of_storable hpassword).mp rfl)
          rw [← hnamed]
          refine ⟨fun hall => hall.1.1, fun hsame => ⟨⟨hsame, hstored⟩, ?_⟩⟩
          rw [calls_append, calls_append, calls_checkCrc, calls_respond, hsame]
          exact calls_calls (.wifi (given root "ssid") password)

/-! ### API keys -/

/-- The two keys, where both pass their check. -/
def storableKeys (root : Json) : Option (Text × Text) :=
  (storable root "weather_key" maxKeyLen).bind fun weatherKey =>
    (storable root "calendar_key" maxKeyLen).map fun calendarKey => (weatherKey, calendarKey)

theorem storableKeys_eq_some_iff {weatherKey calendarKey : Text} :
    storableKeys root = some (weatherKey, calendarKey) ↔
      storable root "weather_key" maxKeyLen = some weatherKey ∧
        storable root "calendar_key" maxKeyLen = some calendarKey := by
  simp [storableKeys, Option.bind_eq_some_iff]

/-- The state with both keys. -/
def storeKeys (weatherKey calendarKey : Text) (stored : UartCredentials) : UartCredentials :=
  { stored with
    weatherApiKey := .ofText _ weatherKey
    weatherKeyReceived := true
    calendarApiKey := .ofText _ calendarKey
    calendarKeyReceived := true
    keysReceived := true }

theorem storeKeys_eq_iff {weatherKey calendarKey : Text}
    (hkeys : storableKeys root = some (weatherKey, calendarKey)) :
    storeKeys weatherKey calendarKey before = before ↔
      before.getWeatherKey = some weatherKey ∧ before.getCalendarKey = some calendarKey ∧
        before.keysReceived = true := by
  obtain ⟨hweather, hcalendar⟩ := storableKeys_eq_some_iff.mp hkeys
  cases before with
  | mk _ _ _ _ _ weatherKeyReceived calendarKeyReceived keysReceived =>
      simp only [storeKeys, UartCredentials.mk.injEq, ofText_of_storable hweather,
        ofText_of_storable hcalendar, UartCredentials.getWeatherKey, UartCredentials.getCalendarKey]
      cases weatherKeyReceived <;> cases calendarKeyReceived <;> simp [eq_comm]

theorem parseApiKeys_of_storable {weatherKey calendarKey : Text}
    (hread : readMessage library json = some root) (htype : HasType root .apiKeys)
    (hkeys : storableKeys root = some (weatherKey, calendarKey)) :
    (parseApiKeys library callbacks json before).stored = storeKeys weatherKey calendarKey before ∧
      calls (parseApiKeys library callbacks json before).outputs =
        (Credentials.apiKeys weatherKey calendarKey).calls callbacks := by
  obtain ⟨hweather, hcalendar⟩ := storableKeys_eq_some_iff.mp hkeys
  obtain ⟨hweatherItem, hweatherEmpty, hweatherFits⟩ := storable_eq_some_iff.mp hweather
  obtain ⟨hcalendarItem, hcalendarEmpty, hcalendarFits⟩ := storable_eq_some_iff.mp hcalendar
  have htype' : root.stringItem "type" = some (ascii "api_keys") := by
    simpa [HasType, CredentialParser.types] using htype
  have hlengths : ¬(weatherKey.length = 0 ∨ calendarKey.length = 0 ∨
      maxKeyLen ≤ weatherKey.length ∨ maxKeyLen ≤ calendarKey.length) := by
    have hweatherPos := List.length_pos_of_ne_nil hweatherEmpty
    have hcalendarPos := List.length_pos_of_ne_nil hcalendarEmpty
    omega
  simp only [parseApiKeys, hread, htype', hweatherItem, hcalendarItem, ne_eq, not_true_eq_false,
    if_false, if_neg hlengths, notifyKeysReceived, Bool.and_self, if_true]
  refine ⟨rfl, ?_⟩
  rw [(ofText_of_storable hweather).mp rfl, (ofText_of_storable hcalendar).mp rfl, calls_append,
    calls_append, calls_checkCrc, calls_respond, List.nil_append, List.append_nil]
  exact calls_calls (.apiKeys weatherKey calendarKey)

theorem parseApiKeys_of_not_storable (hread : readMessage library json = some root)
    (hkeys : storableKeys root = none) :
    parseApiKeys library callbacks json before = { success := false, stored := before } := by
  simp only [parseApiKeys, hread]
  split
  · rfl
  · split
    · next weatherKey calendarKey hweather hcalendar =>
        refine if_pos (by_contra fun hlengths => ?_)
        obtain ⟨hweatherEmpty, hcalendarEmpty, hweatherFits, hcalendarFits⟩ :
            weatherKey.length ≠ 0 ∧ calendarKey.length ≠ 0 ∧ weatherKey.length < maxKeyLen ∧
              calendarKey.length < maxKeyLen := by
          omega
        have hsome : storableKeys root = some (weatherKey, calendarKey) :=
          storableKeys_eq_some_iff.mpr
            ⟨storable_eq_some_iff.mpr ⟨hweather, ne_of_apply_ne _ hweatherEmpty, hweatherFits⟩,
              storable_eq_some_iff.mpr ⟨hcalendar, ne_of_apply_ne _ hcalendarEmpty, hcalendarFits⟩⟩
        rw [hkeys] at hsome
        cases hsome
    · rfl

theorem carried_apiKeys :
    carried library root .apiKeys =
      (storableKeys root).map fun keys => .apiKeys keys.1 keys.2 := by
  simp only [carried, storableKeys, storable]
  cases given root "weather_key" with
  | none => rfl
  | some weatherKey =>
      cases given root "calendar_key" with
      | none =>
          simp only [Option.bind_some, Option.bind_none, Option.filter_none, Option.map_none]
          cases (some weatherKey).filter fun text => text.length < maxKeyLen <;> rfl
      | some calendarKey =>
          by_cases hweather : weatherKey.length < maxKeyLen <;>
            by_cases hcalendar : calendarKey.length < maxKeyLen <;>
              simp [Option.filter, hweather, hcalendar]

theorem calls_eq_nil_iff {weatherKey calendarKey : Text} :
    (Credentials.apiKeys weatherKey calendarKey).calls callbacks = [] ↔
      callbacks.onRecvWeatherApiKey = none ∧ callbacks.onRecvCalendarApiKey = none := by
  cases hweather : callbacks.onRecvWeatherApiKey <;>
    cases hcalendar : callbacks.onRecvCalendarApiKey <;>
      simp [Credentials.calls, hweather, hcalendar]

theorem allOrNothing_apiKeys (hread : readMessage library json = some root)
    (htype : HasType root .apiKeys) :
    AllOrNothing callbacks before (parseApiKeys library callbacks json before)
        (acceptedIn library root .apiKeys) ↔ SparedKeys library callbacks root before := by
  cases hkeys : storableKeys root with
  | none =>
      have hnone : acceptedIn library root .apiKeys = none := by
        rw [acceptedIn, carried_apiKeys, hkeys, Option.map_none, ite_self]
      rw [parseApiKeys_of_not_storable hread hkeys, hnone]
      refine iff_of_true ⟨rfl, rfl⟩ (.inr fun weatherKey hweather calendarKey hcalendar => ?_)
      have hsome := storableKeys_eq_some_iff.mpr ⟨hweather, hcalendar⟩
      rw [hkeys] at hsome
      cases hsome
  | some keys =>
      obtain ⟨weatherKey, calendarKey⟩ := keys
      obtain ⟨hstored, hcalls⟩ :=
        @parseApiKeys_of_storable library callbacks json root before _ _ hread htype hkeys
      have hcarried : carried library root .apiKeys = some (.apiKeys weatherKey calendarKey) := by
        rw [carried_apiKeys, hkeys, Option.map_some]
      obtain ⟨hweather, hcalendar⟩ := storableKeys_eq_some_iff.mp hkeys
      rw [acceptedIn, hcarried, SparedKeys, hweather, hcalendar]
      by_cases hcrc : crcAgrees library root = true
      · rw [if_pos ⟨htype, hcrc⟩]
        refine iff_of_true ⟨?_, hcalls⟩ (.inl hcrc)
        rw [hstored]
        exact (storeKeys_eq_iff hkeys).mp rfl
      · rw [if_neg fun haccepted => hcrc haccepted.2]
        simp only [AllOrNothing, hstored, hcalls, storeKeys_eq_iff hkeys, calls_eq_nil_iff,
          Option.mem_some_iff, forall_eq', hcrc, Bool.false_eq_true, false_or, and_assoc]

/-! ### Home Assistant -/

theorem allOrNothing_haCreds (hread : readMessage library json = some root)
    (htype : HasType root .haCreds) :
    AllOrNothing callbacks before (parseHaCreds library callbacks json before)
        (acceptedIn library root .haCreds) ↔ SparedHaCreds library callbacks root before := by
  have htype' : root.stringItem "type" = some (ascii "ha_creds") := by
    simpa [HasType, CredentialParser.types] using htype
  simp only [parseHaCreds, hread, htype', ne_eq, not_true_eq_false, if_false, SparedHaCreds]
  cases haccepted : acceptedIn library root .haCreds with
  | none =>
      -- what is refused is stored all the same, so it has to be what was there before
      simp only [AllOrNothing, calls_append, calls_checkCrc, calls_respond, List.nil_append,
        Option.isSome_none, Bool.false_eq_true, false_or]
      have hcalls : calls (if callbacks.onRecvHaCreds.isSome then
          [.haCreds ((root.stringItem "ha_url").getD []) ((root.stringItem "ha_login").getD [])
            ((root.stringItem "ha_password").getD [])] else []) = [] ↔
          callbacks.onRecvHaCreds = none := by
        cases callbacks.onRecvHaCreds <;> simp [calls, CredentialOutput.isCallback]
      rw [hcalls]
      cases before
      simp only [UartCredentials.mk.injEq, true_and, and_assoc]
      constructor
      · rintro ⟨hurl, hlogin, hpassword, hport, hreceived, hnone⟩
        exact ⟨hreceived.symm, hurl.symm, hlogin.symm, hpassword.symm, hport.symm, hnone⟩
      · rintro ⟨hreceived, hurl, hlogin, hpassword, hport, hnone⟩
        exact ⟨hurl.symm, hlogin.symm, hpassword.symm, hport.symm, hreceived.symm, hnone⟩
  | some values =>
      have hcarried := acceptedIn_eq_some haccepted
      unfold carried at hcarried
      dsimp only at hcarried
      split at hcarried
      · next hfits =>
          obtain rfl := Option.some.inj hcarried
          obtain ⟨hurl, hlogin, hpassword⟩ := hfits
          refine iff_of_true ⟨⟨rfl, ?_, ?_, ?_, rfl⟩, ?_⟩ (.inl rfl)
          · exact CharArray.ofText_text noNul_getD_stringItem hurl
          · exact CharArray.ofText_text noNul_getD_stringItem hlogin
          · exact CharArray.ofText_text noNul_getD_stringItem hpassword
          · rw [calls_append, calls_append, calls_checkCrc, calls_respond]
            exact calls_calls (.haCreds _ _ _ (readHaWsPort library root))
      · cases hcarried

/-! ### All parsers -/

theorem parseCredentials_of_not_read {parser : CredentialParser}
    (hread : ∀ root, readMessage library json = some root → ¬HasType root parser) :
    parseCredentials library callbacks parser json before =
      { success := false, stored := before } := by
  cases hroot : readMessage library json with
  | none =>
      cases parser <;>
        simp only [parseCredentials, parseWifiPassword, parseApiKeys, parseHaCreds, hroot]
  | some root =>
      have htype := hread root hroot
      cases parser with
      | wifiPassword =>
          have hother : ¬((root.stringItem "type").getD [] = ascii "wifi_password" ∨
              (root.stringItem "type").getD [] = ascii "wifi_config") := by
            cases hitem : root.stringItem "type" with
            | none => decide
            | some type =>
                rw [Option.getD_some]
                rintro (rfl | rfl)
                · exact htype ⟨"wifi_password", by simp [CredentialParser.types], hitem⟩
                · exact htype ⟨"wifi_config", by simp [CredentialParser.types], hitem⟩
          simp only [parseCredentials, parseWifiPassword, hroot, if_pos hother]
      | apiKeys =>
          have hother : root.stringItem "type" ≠ some (ascii "api_keys") := fun hitem =>
            htype ⟨"api_keys", List.mem_singleton.mpr rfl, hitem⟩
          simp only [parseCredentials, parseApiKeys, hroot, if_pos hother]
      | haCreds =>
          have hother : root.stringItem "type" ≠ some (ascii "ha_creds") := fun hitem =>
            htype ⟨"ha_creds", List.mem_singleton.mpr rfl, hitem⟩
          simp only [parseCredentials, parseHaCreds, hroot, if_pos hother]

/-- A parser of credentials treats a message as a whole exactly under `Spared`. -/
theorem allOrNothing_iff_spared (library : JsonLibrary) (callbacks : UartHandlerCallbacks)
    (parser : CredentialParser) (json : Text) (before : UartCredentials) :
    AllOrNothing callbacks before (parseCredentials library callbacks parser json before)
        (accepted library parser json) ↔ Spared library callbacks parser json before := by
  by_cases hread : ∃ root, readMessage library json = some root ∧ HasType root parser
  · obtain ⟨root, hread, htype⟩ := hread
    have hspared : Spared library callbacks parser json before ↔
        SparedIn library callbacks root before parser := by
      simp [Spared, hread, htype]
    rw [hspared, accepted, hread, Option.bind_some]
    cases parser with
    | wifiPassword => exact allOrNothing_wifiPassword hread htype
    | apiKeys => exact allOrNothing_apiKeys hread htype
    | haCreds => exact allOrNothing_haCreds hread htype
  · have hnot : ∀ root, readMessage library json = some root → ¬HasType root parser :=
      fun root hroot htype => hread ⟨root, hroot, htype⟩
    have hnone : accepted library parser json = none :=
      Option.bind_eq_none_iff.mpr fun root hroot => if_neg fun haccepted =>
        hnot root hroot haccepted.1
    rw [parseCredentials_of_not_read hnot, hnone]
    exact iff_of_true ⟨rfl, rfl⟩ fun root hroot htype => absurd htype (hnot root hroot)

/-- A message with an SSID and without a password. -/
private def ssidMessage : Text :=
  ascii "\x7b\"type\":\"wifi_config\",\"ssid\":\"Plant\"\x7d"

/-- A library that reads this message. -/
private def ssidLibrary : JsonLibrary where
  copies := true
  parse json :=
    if json = ssidMessage then
      some (.object [(ascii "type", .string (ascii "wifi_config")),
        (ascii "ssid", .string (ascii "Plant"))])
    else none
  printUnformatted _ := none
  valueint _ := 0
  crc32 _ := 0

/-- The message is rejected for its missing password, and its SSID stays. -/
theorem ssid_of_rejected :
    accepted ssidLibrary .wifiPassword ssidMessage = none ∧
      (parseCredentials ssidLibrary {} .wifiPassword ssidMessage {}).success = false ∧
      (parseCredentials ssidLibrary {} .wifiPassword ssidMessage {}).stored.getSsid =
        some (ascii "Plant") ∧
      ¬AllOrNothing {} {} (parseCredentials ssidLibrary {} .wifiPassword ssidMessage {})
        (accepted ssidLibrary .wifiPassword ssidMessage) := by
  have hrejected : accepted ssidLibrary .wifiPassword ssidMessage = none := by decide +kernel
  have hstored : (parseCredentials ssidLibrary {} .wifiPassword ssidMessage {}).stored.getSsid =
      some (ascii "Plant") := by decide +kernel
  refine ⟨hrejected, by decide +kernel, hstored, fun hall => ?_⟩
  rw [hrejected] at hall
  rw [hall.1] at hstored
  cases hstored

end CrowPanel.Settings
