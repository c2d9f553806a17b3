import CrowPanel.Settings.CredentialStore
import CrowPanel.Settings.PortalForm
import CrowPanel.Settings.PortalLifecycle

/-!
# The form of the configuration portal

`handle_save_post` reads the fields of a form with `form_get_value` and stores them.  A value is cut
to the size of its buffer first and decoded then, so an escape counts as three bytes: a name with many
bytes that a browser escapes does not arrive whole, although it would fit.

## Strategy

`formGetValueFrom_formBody` says what the search through the body finds in a form, and
`urlDecode_isDecoder` that the decoder is one in the sense of the library.  Whether a cut value is
still the value that was sent is then `IsDecoder.decode_take_iff`.
-/

namespace CrowPanel.Settings

open Library

/-! ## Decoding -/

/-- `url_decode_inplace`, which is the loop of `url_decode` -/
def urlDecodeInplace (value : Text) : Text :=
  urlDecode value

/-! ## Finding a field -/

/-- The loop of `form_get_value` from a cursor on; the result is what is copied into the buffer. -/
def formGetValueFrom (key : Text) (outSize : ℕ) : Text → Option Text
  | [] => none
  | byte :: bytes =>
      let cursor := byte :: bytes
      let pairEnd := (cursor.takeWhile (· ≠ 0x26)).length
      -- the cursor goes on behind the separator, or to the end
      let following := cursor.drop (pairEnd + 1)
      match cursor.findIdx? (· = 0x3D) with
      | none => formGetValueFrom key outSize following
      | some valueSep =>
          if pairEnd < valueSep then formGetValueFrom key outSize following
          else if valueSep = key.length ∧ cursor.take key.length = key then
            let valueLen := pairEnd - valueSep - 1
            let valueLen := if outSize ≤ valueLen then outSize - 1 else valueLen
            some ((cursor.drop (valueSep + 1)).take valueLen)
          else formGetValueFrom key outSize following
termination_by cursor => cursor.length
decreasing_by
  all_goals
    rw [List.length_drop, List.length_cons]
    omega

/-- `form_get_value`: whether the key was found, and the buffer. -/
def formGetValue (body key : Text) (outSize : ℕ) [NeZero outSize] : Bool × CharArray outSize :=
  match formGetValueFrom key outSize (cString body) with
  | none => (false, .empty)
  | some value => (true, .ofText outSize (urlDecodeInplace value))

section

variable {key : Text} {outSize : ℕ}

/-- What the loop does with a field, at the end of the form or before a separator. -/
theorem formGetValueFrom_field {field : FormField} (hequals : 0x3D ∉ field.name)
    (hampersand : 0x26 ∉ field.text) {tail : Text}
    (htail : tail = [] ∨ ∃ rest, tail = 0x26 :: rest) :
    formGetValueFrom key outSize (field.text ++ tail) =
      if field.name = key then some (field.value.take (outSize - 1))
      else formGetValueFrom key outSize (tail.drop 1) := by
  have hpair := takeWhile_ne_append hampersand htail
  -- the first equals sign is the one behind the name
  have hsep : (field.text ++ tail).findIdx? (· = 0x3D) = some field.name.length := by
    have hname : field.name.findIdx? (· = 0x3D) = none := by
      rw [List.findIdx?_eq_none_iff]
      intro byte hbyte
      simpa using fun hsame : byte = 0x3D => hequals (hsame ▸ hbyte)
    rw [FormField.text, List.append_assoc, List.findIdx?_append, hname]
    simp [List.findIdx?_cons]
  have hlength : field.text.length = field.name.length + (field.value.length + 1) := by
    simp [FormField.text]
  have hfollowing : (field.text ++ tail).drop (field.text.length + 1) = tail.drop 1 :=
    List.drop_length_add_append 1
  have hkey : (field.name.length = key.length ∧ (field.text ++ tail).take key.length = key) ↔
      field.name = key := by
    have htake : (field.text ++ tail).take field.name.length = field.name := by
      rw [FormField.text, List.append_assoc, List.take_left]
    refine ⟨fun hsame => ?_, ?_⟩
    · rw [← hsame.2, ← hsame.1, htake]
    · rintro rfl
      exact ⟨rfl, htake⟩
  have hvalue : ∀ count, count ≤ field.value.length →
      ((field.text ++ tail).drop (field.name.length + 1)).take count = field.value.take count := by
    intro count hcount
    rw [FormField.text, List.append_assoc, List.drop_length_add_append, List.cons_append,
      List.drop_one, List.tail_cons, List.take_append_of_le_length hcount]
  -- the loop goes on only while the cursor is not at the end
  obtain ⟨byte, bytes, hcursor⟩ : ∃ byte bytes, field.text ++ tail = byte :: bytes := by
    refine List.exists_cons_of_ne_nil ?_
    simp [FormField.text]
  rw [hcursor] at hpair hsep hfollowing hkey hvalue ⊢
  rw [formGetValueFrom]
  dsimp only
  rw [hsep]
  dsimp only
  rw [hpair, hfollowing, if_neg (by omega)]
  simp only [hkey]
  split
  · have hlen : field.text.length - field.name.length - 1 = field.value.length := by omega
    rw [hlen]
    split
    · next hlong => rw [hvalue _ (by omega)]
    · next hshort =>
        rw [hvalue _ le_rfl, List.take_length, List.take_of_length_le (by omega)]
  · rfl

/-- The loop finds the first field with the key, and cuts its value to the size of the buffer. -/
theorem formGetValueFrom_formBody {fields : List FormField}
    (hseparate : ∀ field ∈ fields, field.Separate) :
    formGetValueFrom key outSize (formBody fields) =
      (fields.find? fun field => field.name = key).map fun field =>
        field.value.take (outSize - 1) := by
  fun_induction formBody fields with
  | case1 => simp [formGetValueFrom]
  | case2 field =>
      have hfirst := hseparate field List.mem_cons_self
      have hfield := @formGetValueFrom_field key outSize field hfirst.equals_name
        hfirst.ampersand_text [] (.inl rfl)
      rw [List.append_nil] at hfield
      rw [hfield]
      by_cases hname : field.name = key <;> simp [hname, formGetValueFrom]
  | case3 field next fields ih =>
      have hrest := ih fun other hother => hseparate other (List.mem_cons_of_mem _ hother)
      have hfirst := hseparate field List.mem_cons_self
      rw [formGetValueFrom_field hfirst.equals_name hfirst.ampersand_text (.inr ⟨_, rfl⟩)]
      by_cases hname : field.name = key
      · simp [hname]
      · simp [hname, hrest]

/-- What the buffer holds of a value that the form carries. -/
theorem formGetValue_text [NeZero outSize] {fields : List FormField} {value : Text}
    {field : FormField} (hseparate : ∀ field ∈ fields, field.Separate)
    (hcarries : Carries fields key value field)
    (hplain : ∀ byte ∈ key, byte ≠ 0x25 ∧ byte ≠ 0x2B) (hnul : 0 ∉ value) :
    (formGetValue (formBody fields) key outSize).2.text =
      if field.name = key then urlDecode (field.value.take (outSize - 1)) else [] := by
  unfold formGetValue
  rw [cString_of_noNul (formBody_noNul hseparate), formGetValueFrom_formBody hseparate,
    hcarries.find? hplain]
  split_ifs with hname
  · have hpos : 0 < outSize := Nat.pos_of_ne_zero (NeZero.ne outSize)
    have hdecoded : (urlDecode (field.value.take (outSize - 1))).length < outSize := by
      have hle := length_urlDecode_le (field.value.take (outSize - 1))
      rw [List.length_take] at hle
      omega
    exact CharArray.ofText_text
      (urlDecode_isDecoder.decode_take_noNul hcarries.value hnul _) hdecoded
  · rfl

/-- A value arrives whole if its name is not encoded and the cut does no harm. -/
theorem formGetValue_text_iff [NeZero outSize] {fields : List FormField} {value : Text}
    {field : FormField} (hseparate : ∀ field ∈ fields, field.Separate)
    (hcarries : Carries fields key value field)
    (hplain : ∀ byte ∈ key, byte ≠ 0x25 ∧ byte ≠ 0x2B) (hnul : 0 ∉ value) :
    (formGetValue (formBody fields) key outSize).2.text = value ↔
      field.name = key ∧ HarmlessCut (outSize - 1) field.value ∨ value = [] := by
  rw [formGetValue_text hseparate hcarries hplain hnul]
  split_ifs with hname
  · rw [urlDecode_isDecoder.decode_take_iff hcarries.value]
    refine ⟨fun hcut => .inl ⟨hname, hcut⟩, ?_⟩
    rintro (⟨-, hcut⟩ | rfl)
    · exact hcut
    · exact .inl (by simp [hcarries.value.eq_nil])
  · simp [hname, eq_comm]

end

/-! ## Saving the form -/

/-- `MAX_FORM_BODY` -/
abbrev maxFormBody : ℕ := 2048

/-- `MAX_API_KEY_LEN` -/
abbrev maxApiKeyLen : ℕ := 1024

/-- The events of the form: `app_settings_uart_wifi_cred_data_t` and its siblings. -/
inductive CredentialEvent where
  | wifi (password : CharArray 64) (ssid : CharArray 33) (len : UInt8)
  | weather (key : CharArray 1024) (len : UInt8)
  | calendar (key : CharArray 2048) (len : UInt8)
  deriving DecidableEq

/-- How the loop over `httpd_req_recv` ends. -/
inductive Received where
  | body (text : Text)
  | timeout
  | failed
  deriving DecidableEq

structure FormRequest where
  contentLen : ℕ
  allocated : Bool
  received : Received
  deriving DecidableEq

/-- A request that is received as a whole. -/
def FormRequest.post (body : Text) : FormRequest :=
  { contentLen := body.length, allocated := true, received := .body body }

/-- What NVS returns while a form is saved. -/
structure FormCalls where
  credentials : SaveCalls := {}
  weatherKey : EspErr := .ok
  calendarKey : EspErr := .ok
  deriving DecidableEq

/-- The static variables of `config_portal.c` that the handler uses, and what is stored. -/
structure FormPortal where
  accessMode : Option AccessMode
  runtimeMode : Bool := false
  currentWifiSsid : CharArray 33 := .empty
  currentWifiPass : CharArray 65 := .empty
  htmlCacheValid : Bool := false
  dataSaved : Bool := false
  blobs : CredentialBlobs := {}
  weatherKey : Option Text := none
  calendarKey : Option Text := none
  deriving DecidableEq

inductive FormResponse where
  | error (status : ℕ) (message : String)
  | timeout
  /-- `kSuccessPage` -/
  | success
  deriving DecidableEq

structure FormResult where
  code : EspErr
  response : FormResponse
  portal : FormPortal
  posted : List CredentialEvent := []
  /-- whether `portal_stop_task` is started -/
  stops : Bool := false
  deriving DecidableEq

/-- The part of `handle_save_post` for the access point. -/
def saveWifiForm (calls : FormCalls) (portal : FormPortal) (body : Text) :
    FormPortal × List CredentialEvent :=
  let wifiSsid := (formGetValue body (ascii "wifi_ssid") 33).2.text
  let wifiPass := (formGetValue body (ascii "wifi_pass") 65).2.text
  if wifiSsid = [] then (portal, [])
  else
    ({ portal with
        blobs := (saveWifiCredentialsToNvs calls.credentials portal.blobs wifiSsid wifiPass).2
        currentWifiSsid := .ofText 33 wifiSsid
        currentWifiPass := .ofText 65 wifiPass
        htmlCacheValid := false
        dataSaved := true },
      -- an open network is not announced
      if wifiPass = [] then []
      else [.wifi (.ofText 64 wifiPass) (.ofText 33 wifiSsid) wifiPass.length.toUInt8])

/-- The part of `handle_save_post` for the local network. -/
def saveKeysForm (calls : FormCalls) (portal : FormPortal) (body : Text) :
    FormPortal × List CredentialEvent :=
  let weatherKey := (formGetValue body (ascii "weather_key") maxApiKeyLen).2.text
  let calendarKey := (formGetValue body (ascii "calendar_key") 2048).2.text
  ({ portal with
      weatherKey := if calls.weatherKey = .ok then some weatherKey else portal.weatherKey
      calendarKey := if calls.calendarKey = .ok then some calendarKey else portal.calendarKey
      htmlCacheValid := false
      dataSaved := true },
    (if weatherKey = [] then []
      else [.weather (.ofText 1024 weatherKey) weatherKey.length.toUInt8]) ++
    if calendarKey = [] then []
    else [.calendar (.ofText 2048 calendarKey) calendarKey.length.toUInt8])

/-- `handle_save_post` -/
def handleSavePost (calls : FormCalls) (portal : FormPortal) (request : FormRequest) : FormResult :=
  if request.contentLen = 0 ∨ maxFormBody < request.contentLen then
    { code := .fail, response := .error 400 "Invalid form body", portal }
  else if request.allocated = false then
    { code := .noMem, response := .error 500 "Out of memory", portal }
  else
    match request.received with
    | .timeout => { code := .timeout, response := .timeout, portal }
    | .failed => { code := .fail, response := .error 500 "Receive failed", portal }
    | .body body =>
        let (portal, posted) :=
          if portal.accessMode = some .ap then saveWifiForm calls portal body
          else saveKeysForm calls portal body
        { code := .ok, response := .success, portal, posted, stops := portal.runtimeMode }

/-- In AP mode the portal stores the pair from the form, whatever it held before. -/
def StoresPair (body ssid password : Text) : Prop :=
  ∀ portal : FormPortal, portal.accessMode = some .ap →
    let after := (handleSavePost {} portal (.post body)).portal
    after.blobs.Hold ssid password ∧ after.currentWifiSsid.text = ssid ∧
      after.currentWifiPass.text = password

/-- The whole of a form within the limit reaches the part for the access point. -/
theorem handleSavePost_portal {calls : FormCalls} {portal : FormPortal} {body : Text}
    (hap : portal.accessMode = some .ap) (hbody : body ≠ []) (hlimit : body.length ≤ maxFormBody) :
    (handleSavePost calls portal (.post body)).portal = (saveWifiForm calls portal body).1 := by
  have hlength : ¬ (body.length = 0 ∨ maxFormBody < body.length) := by
    rw [List.length_eq_zero_iff]
    exact not_or.mpr ⟨hbody, not_lt.mpr hlimit⟩
  simp only [handleSavePost, FormRequest.post, if_neg hlength, hap, Bool.true_eq_false, if_false,
    if_true]

/-- The pair is stored exactly if both values arrive whole. -/
theorem storesPair_iff_values {body ssid password : Text} (hssid : ssid ≠ []) (hbody : body ≠ [])
    (hlimit : body.length ≤ maxFormBody) :
    StoresPair body ssid password ↔
      (formGetValue body (ascii "wifi_ssid") 33).2.text = ssid ∧
        (formGetValue body (ascii "wifi_pass") 65).2.text = password := by
  refine ⟨fun hstores => ?_, fun ⟨hfirst, hsecond⟩ portal hap => ?_⟩
  · have hholds := (hstores { accessMode := some .ap } rfl).1
    rw [handleSavePost_portal rfl hbody hlimit] at hholds
    unfold saveWifiForm at hholds
    dsimp only at hholds
    split at hholds
    · simp [CredentialBlobs.Hold] at hholds
    · next hfound => exact (saveWifiCredentialsToNvs_hold hfound _ ssid password).mp hholds
  · dsimp only
    rw [handleSavePost_portal hap hbody hlimit]
    unfold saveWifiForm
    dsimp only
    rw [hfirst, hsecond, if_neg hssid]
    refine ⟨(saveWifiCredentialsToNvs_hold hssid _ ssid password).mpr ⟨rfl, rfl⟩, ?_, ?_⟩
    · rw [← hfirst, CharArray.ofText_self]
    · rw [← hsecond, CharArray.ofText_self]

theorem mem_formBody_ne_nil {fields : List FormField} {field : FormField} (hmem : field ∈ fields) :
    formBody fields ≠ [] := by
  fun_cases formBody fields with
  | case1 => simp at hmem
  | case2 other => simp [FormField.text]
  | case3 other next fields => simp [FormField.text]

/-- A form that carries a pair stores it exactly if the names stand in it as they are and the values
are not cut, or cut without harm.  A missing password is an empty one. -/
theorem storesPair_iff_uncut {fields : List FormField} {ssid password : Text}
    {ssidField passField : FormField} (hseparate : ∀ field ∈ fields, field.Separate)
    (hcarriesSsid : Carries fields (ascii "wifi_ssid") ssid ssidField)
    (hcarriesPass : Carries fields (ascii "wifi_pass") password passField)
    (hssid : ssid ≠ []) (hnulSsid : 0 ∉ ssid) (hnulPass : 0 ∉ password)
    (hlimit : (formBody fields).length ≤ maxFormBody) :
    StoresPair (formBody fields) ssid password ↔
      (ssidField.name = ascii "wifi_ssid" ∧ HarmlessCut 32 ssidField.value) ∧
        (passField.name = ascii "wifi_pass" ∧ HarmlessCut 64 passField.value ∨ password = []) := by
  rw [storesPair_iff_values hssid (mem_formBody_ne_nil hcarriesSsid.mem) hlimit,
    formGetValue_text_iff hseparate hcarriesSsid (by decide) hnulSsid,
    formGetValue_text_iff hseparate hcarriesPass (by decide) hnulPass, or_iff_left hssid]

theorem carries_of_names {fields : List FormField} {key value : Text} {field : FormField}
    (hmem : field ∈ fields) (hname : Encodes key field.name) (hvalue : Encodes value field.value)
    (hothers : ∀ other ∈ fields, urlDecode other.name = key → other = field) :
    Carries fields key value field :=
  ⟨hmem, hname, hvalue, fun other hother hencodes =>
    hothers other hother (urlDecode_isDecoder.decode_encodes hencodes)⟩

private def plainForm : List FormField :=
  [⟨ascii "page", ascii "2"⟩, ⟨ascii "wifi_pass", percentEncode (ascii "open & shut")⟩,
    ⟨ascii "wifi_ssid", ascii "Pump-house"⟩]

/-- A form for a name in ASCII. -/
theorem storesPair_plain :
    StoresPair (formBody plainForm) (ascii "Pump-house") (ascii "open & shut") := by
  have hssid : Carries plainForm (ascii "wifi_ssid") (ascii "Pump-house")
      ⟨ascii "wifi_ssid", ascii "Pump-house"⟩ :=
    carries_of_names (by decide) (.self (by decide)) (.self (by decide)) (by decide)
  have hpass : Carries plainForm (ascii "wifi_pass") (ascii "open & shut")
      ⟨ascii "wifi_pass", percentEncode (ascii "open & shut")⟩ :=
    carries_of_names (by decide) (.self (by decide)) (encodes_percentEncode _) (by decide)
  exact (storesPair_iff_uncut (by decide) hssid hpass (by decide) (by decide) (by decide)
    (by decide)).mpr ⟨⟨rfl, .inl (by decide)⟩, .inl ⟨rfl, .inl (by decide)⟩⟩

/-- "Привет" -/
private def cyrillicName : Text :=
  [0xD0, 0x9F, 0xD1, 0x80, 0xD0, 0xB8, 0xD0, 0xB2, 0xD0, 0xB5, 0xD1, 0x82]

private def cyrillicForm : List FormField :=
  [⟨ascii "wifi_ssid", percentEncode cyrillicName⟩, ⟨ascii "wifi_pass", ascii "secret12"⟩]

/-- A name of twelve bytes takes thirty-six when it is escaped. -/
theorem storesPair_cyrillic :
    ¬ ∀ (fields : List FormField) (ssid password : Text) (ssidField passField : FormField),
      (∀ field ∈ fields, field.Separate) → Carries fields (ascii "wifi_ssid") ssid ssidField →
      Carries fields (ascii "wifi_pass") password passField →
      ssidField.name = ascii "wifi_ssid" → passField.name = ascii "wifi_pass" →
      0 ∉ ssid → 1 ≤ ssid.length → ssid.length ≤ 32 → 0 ∉ password → password.length ≤ 63 →
      (formBody fields).length ≤ maxFormBody → StoresPair (formBody fields) ssid password := by
  intro hclaim
  have hssid : Carries cyrillicForm (ascii "wifi_ssid") cyrillicName
      ⟨ascii "wifi_ssid", percentEncode cyrillicName⟩ :=
    carries_of_names (by decide) (.self (by decide)) (encodes_percentEncode _) (by decide)
  have hpass : Carries cyrillicForm (ascii "wifi_pass") (ascii "secret12")
      ⟨ascii "wifi_pass", ascii "secret12"⟩ :=
    carries_of_names (by decide) (.self (by decide)) (.self (by decide)) (by decide)
  have hstores := hclaim cyrillicForm cyrillicName (ascii "secret12") _ _ (by decide) hssid hpass
    rfl rfl (by decide) (by decide) (by decide) (by decide) (by decide) (by decide)
  rw [storesPair_iff_values (by decide) (mem_formBody_ne_nil hssid.mem) (by decide),
    formGetValue_text (by decide) hssid (by decide) (by decide)] at hstores
  exact absurd hstores.1 (by decide)

end CrowPanel.Settings
