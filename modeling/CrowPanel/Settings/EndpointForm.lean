import CrowPanel.Settings.PortalForm

/-!
# The form of the OpenPLC page

`save_post_handler` receives a form, takes the endpoint from its front, stores it and posts it to the
event loop.  The endpoint is at last given to the client, so three functions accept endpoints: the
handler, `settings_config_save_opcua_endpoint` and `opcua_client_set_endpoint`.

## Strategy

`parseForm_eq_ok_iff` says which bodies the handler accepts, in terms of the field at the front
(`FrontField`); the body may arrive in any pieces (`receiveBody_arrives`).  What the handler stores has
passed `Endpoint.check`, which is the check of the other two functions (`check_isSome_iff`).
-/

namespace CrowPanel.Settings

open Library OpcUa

/-! ## Receiving the form -/

/-- What a call of `httpd_req_recv` gives. -/
inductive Receive where
  | bytes (first : UInt8) (more : Text)
  /-- `HTTPD_SOCK_ERR_TIMEOUT` -/
  | timeout
  /-- the connection is closed, or another error -/
  | failed
  deriving DecidableEq

/-- How far the loop over `httpd_req_recv` comes. -/
inductive Reception where
  | body (text : Text)
  | failed
  | waiting
  deriving DecidableEq

/-- The loop over `httpd_req_recv`, which asks for what is missing only. -/
def receiveBody (contentLen : ℕ) (received : Text) : List Receive → Reception
  | [] => if received.length < contentLen then .waiting else .body received
  | receive :: receives =>
      if received.length < contentLen then
        match receive with
        | .timeout => receiveBody contentLen received receives
        | .failed => .failed
        | .bytes first more =>
            let piece := (first :: more).take (contentLen - received.length)
            receiveBody contentLen (received ++ piece) receives
      else .body received

/-- The body comes in these pieces, with timeouts between them. -/
inductive Arrives : Text → List Receive → Prop
  | nil (receives : List Receive) : Arrives [] receives
  | timeout {body : Text} {receives : List Receive} (hrest : Arrives body receives) :
      Arrives body (.timeout :: receives)
  | bytes (first : UInt8) (more : Text) {body : Text} {receives : List Receive}
      (hrest : Arrives body receives) : Arrives (first :: more ++ body) (.bytes first more :: receives)

theorem receiveBody_done {contentLen : ℕ} {received : Text} (hdone : contentLen ≤ received.length)
    (receives : List Receive) : receiveBody contentLen received receives = .body received := by
  cases receives <;> simp [receiveBody, not_lt.mpr hdone]

/-- However a body arrives, the loop ends with all of it. -/
theorem receiveBody_arrives {body : Text} {receives : List Receive} (harrives : Arrives body receives)
    (received : Text) :
    receiveBody (received.length + body.length) received receives = .body (received ++ body) := by
  induction harrives generalizing received with
  | nil => rw [receiveBody_done (by simp), List.append_nil]
  | @timeout body receives _ ih =>
      cases body with
      | nil => rw [receiveBody_done (by simp), List.append_nil]
      | cons byte bytes =>
          have hmissing : received.length < received.length + (byte :: bytes).length := by simp
          rw [receiveBody, if_pos hmissing]
          exact ih received
  | @bytes first more body receives _ ih =>
      have hmissing : received.length < received.length + (first :: more ++ body).length := by simp
      have hpiece : (first :: more).take
          (received.length + (first :: more ++ body).length - received.length) = first :: more := by
        refine List.take_of_length_le ?_
        simp only [List.length_append]
        omega
      have hlength : received.length + (first :: more ++ body).length =
          (received ++ first :: more).length + body.length := by
        simp only [List.length_append]
        omega
      rw [receiveBody, if_pos hmissing]
      dsimp only
      rw [hpiece, hlength, ih, List.append_assoc]

/-! ## The field at the front -/

/-- The body begins with the field, which ends with the body, at a NUL or at an ampersand. -/
structure FrontField (body value : Text) : Prop where
  nul : 0 ∉ value
  ampersand : 0x26 ∉ value
  ends : ∃ tail, body = ascii "endpoint=" ++ (value ++ tail) ∧
    (tail = [] ∨ ∃ rest, tail = 0 :: rest ∨ tail = 0x26 :: rest)

theorem dropWhile_ne_cases (sep : UInt8) (bytes : Text) :
    bytes.dropWhile (· ≠ sep) = [] ∨ ∃ rest, bytes.dropWhile (· ≠ sep) = sep :: rest := by
  induction bytes with
  | nil => exact .inl rfl
  | cons byte bytes ih =>
      by_cases hsep : byte = sep
      · exact .inr ⟨bytes, by simp [hsep]⟩
      · simpa [List.dropWhile_cons, hsep] using ih

/-- What the handler takes for the field. -/
theorem frontField_iff {body value : Text} :
    FrontField body value ↔ (cString body).take 9 = ascii "endpoint=" ∧
      value = ((cString body).drop 9).takeWhile (· ≠ 0x26) := by
  constructor
  · rintro ⟨hnul, hampersand, tail, rfl, htail⟩
    have hform : cString (ascii "endpoint=" ++ (value ++ tail)) =
        ascii "endpoint=" ++ (value ++ cString tail) := by
      rw [cString_append (by decide), cString_append hnul]
    have hlength : (ascii "endpoint=").length = 9 := by decide
    rw [hform, ← hlength, List.take_left, List.drop_left,
      List.takeWhile_append_of_pos (decide_ne_of_notMem hampersand)]
    rcases htail with rfl | ⟨rest, rfl | rfl⟩ <;> simp [cString]
  · rintro ⟨hstart, rfl⟩
    refine ⟨fun hmem => ?_, fun hmem => ?_,
      ((cString body).drop 9).dropWhile (· ≠ 0x26) ++ body.dropWhile (· ≠ 0), ?_, ?_⟩
    · exact cString_noNul body (List.mem_of_mem_drop ((List.takeWhile_sublist _).subset hmem))
    · simpa using List.mem_takeWhile_imp hmem
    · rw [← List.append_assoc ((cString body |>.drop 9).takeWhile _), List.takeWhile_append_dropWhile,
        ← hstart, ← List.append_assoc, List.take_append_drop]
      exact List.takeWhile_append_dropWhile.symm
    · rcases dropWhile_ne_cases 0x26 ((cString body).drop 9) with hrest | ⟨rest, hrest⟩
      · rcases dropWhile_ne_cases 0 body with hlast | ⟨rest, hlast⟩
        · exact .inl (by rw [hrest, hlast, List.append_nil])
        · exact .inr ⟨rest, .inl (by rw [hrest, hlast, List.nil_append])⟩
      · exact .inr ⟨rest ++ body.dropWhile (· ≠ 0), .inr (by rw [hrest, List.cons_append])⟩

/-- The bodies from which the handler takes an endpoint. -/
theorem parseForm_eq_ok_iff {body endpoint : Text} :
    parseForm body = .ok endpoint ↔ body.length < formLimit ∧ ∃ value, FrontField body value ∧
      value.length < endpointLength ∧ endpoint = cString (urlDecode value) ∧
        endpoint.take 10 = ascii "opc.tcp://" := by
  have hfield : (∃ value, FrontField body value ∧ value.length < endpointLength ∧
      endpoint = cString (urlDecode value) ∧ endpoint.take 10 = ascii "opc.tcp://") ↔
      (cString body).take 9 = ascii "endpoint=" ∧
        (((cString body).drop 9).takeWhile (· ≠ 0x26)).length < endpointLength ∧
          endpoint = cString (urlDecode (((cString body).drop 9).takeWhile (· ≠ 0x26))) ∧
            endpoint.take 10 = ascii "opc.tcp://" := by
    simp only [frontField_iff, and_assoc, exists_and_left, exists_eq_left]
  have hcString : ∀ bytes : Text, bytes.takeWhile (· ≠ 0) = cString bytes := fun _ => rfl
  rw [hfield]
  simp only [parseForm, hcString]
  generalize (List.drop 9 (cString body)).takeWhile (· ≠ 0x26) = value
  split_ifs with hsize hstart hlength hscheme
  · refine ⟨nofun, fun ⟨hlimit, hfront, _⟩ => ?_⟩
    rcases hsize with hempty | hlarge
    · rw [List.length_eq_zero_iff.mp hempty] at hfront
      exact absurd hfront (by decide)
    · exact absurd hlimit (not_lt.mpr hlarge)
  · exact ⟨nofun, fun ⟨_, hfront, _⟩ => absurd hfront hstart⟩
  · exact ⟨nofun, fun ⟨_, _, hshort, _⟩ => absurd hshort (not_lt.mpr hlength)⟩
  · exact ⟨nofun, fun ⟨_, _, _, hendpoint, htake⟩ => absurd htake (hendpoint ▸ hscheme)⟩
  · obtain ⟨-, hlimit⟩ := not_or.mp hsize
    rw [Except.ok.injEq]
    refine ⟨?_, fun ⟨_, _, _, hendpoint, _⟩ => hendpoint.symm⟩
    rintro rfl
    exact ⟨not_le.mp hlimit, not_not.mp hstart, not_le.mp hlength, rfl, not_not.mp hscheme⟩

/-! ## The three acceptors -/

/-- What all of them ask for. -/
structure ValidEndpoint (endpoint : Text) : Prop where
  noNul : 0 ∉ endpoint
  scheme : endpoint.take 10 = ascii "opc.tcp://"
  short : endpoint.length < endpointLength

/-- An endpoint of the type is one, and every one is of the type. -/
theorem Endpoint.valid (endpoint : Endpoint) : ValidEndpoint endpoint.text.text :=
  ⟨endpoint.text.noNul, endpoint.scheme, endpoint.text.fits⟩

theorem ValidEndpoint.check {url : Text} (hvalid : ValidEndpoint url) :
    ∃ endpoint, Endpoint.check url = some endpoint ∧ endpoint.text.text = url := by
  have htext := CharArray.ofText_text hvalid.noNul hvalid.short
  unfold Endpoint.check
  dsimp only
  rw [dif_pos ⟨by rw [htext]; exact hvalid.scheme, hvalid.short⟩]
  exact ⟨_, rfl, htext⟩

theorem check_isSome_iff {url : Text} (hnul : 0 ∉ url) :
    (Endpoint.check url).isSome ↔ ValidEndpoint url := by
  constructor
  · intro hsome
    unfold Endpoint.check at hsome
    dsimp only at hsome
    split at hsome
    · next hvalid =>
        rw [CharArray.ofText_text hnul hvalid.2] at hvalid
        exact ⟨hnul, hvalid.1, hvalid.2⟩
    · cases hsome
  · intro hvalid
    obtain ⟨endpoint, hcheck, -⟩ := hvalid.check
    rw [hcheck, Option.isSome_some]

/-- What the calls of NVS and of the event loop return, those that are not made as well. -/
structure EndpointCalls where
  opened : EspErr := .ok
  set : EspErr := .ok
  committed : EspErr := .ok
  post : EspErr := .ok
  deriving DecidableEq

/-- `settings_config_save_opcua_endpoint`: the result, and what it has stored. -/
def settingsConfigSaveOpcuaEndpoint (calls : EndpointCalls) (endpointUrl : Option Text) :
    EspErr × Option Endpoint :=
  match endpointUrl.bind Endpoint.check with
  | none => (.invalidArg, none)
  | some endpoint =>
      if calls.opened ≠ .ok then (calls.opened, none)
      else if calls.set ≠ .ok then (calls.set, none)
      else (calls.committed, if calls.committed = .ok then some endpoint else none)

theorem settingsConfigSaveOpcuaEndpoint_ok_iff {url : Text} (hnul : 0 ∉ url) :
    (settingsConfigSaveOpcuaEndpoint {} (some url)).1 = .ok ↔ ValidEndpoint url := by
  rw [← check_isSome_iff hnul]
  unfold settingsConfigSaveOpcuaEndpoint
  rw [Option.bind_some]
  cases Endpoint.check url <;> simp

theorem setEndpoint_ok_iff {url : Text} (hnul : 0 ∉ url) (control : ClientControl) :
    (control.setEndpoint (some url)).1 = .ok ↔ ValidEndpoint url := by
  unfold ClientControl.setEndpoint
  dsimp only
  split_ifs with hscheme hlength
  · exact ⟨nofun, fun hvalid => absurd hvalid.scheme hscheme⟩
  · exact ⟨nofun, fun hvalid => absurd hvalid.short (not_lt.mpr hlength)⟩
  · exact ⟨fun _ => ⟨hnul, not_not.mp hscheme, not_le.mp hlength⟩, fun _ => rfl⟩

/-! ## The handler -/

/-- `app_settings_uart_opcua_endpoint_data_t` -/
structure EndpointData where
  endpoint : CharArray 256
  length : UInt16
  deriving DecidableEq

structure EndpointRequest where
  contentLen : ℕ
  receives : List Receive
  deriving DecidableEq

/-- What the loop of the handler receives. -/
def EndpointRequest.reception (request : EndpointRequest) : Reception :=
  receiveBody request.contentLen [] request.receives

inductive EndpointResponse where
  | error (status : ℕ) (message : String)
  | saved
  deriving DecidableEq

/-- What the handler has done; a request without a response is still being received. -/
structure EndpointResult where
  response : Option EndpointResponse
  stored : Option Endpoint := none
  published : Option EndpointData := none
  deriving DecidableEq

/-- The part of `save_post_handler` for an endpoint from the form. -/
def saveFormEndpoint (calls : EndpointCalls) (endpoint : Text) : EndpointResult :=
  let (result, stored) := settingsConfigSaveOpcuaEndpoint calls (some endpoint)
  let payload := CharArray.ofText 256 endpoint
  let (result, published) :=
    if result ≠ .ok then (result, none)
    else if calls.post ≠ .ok then (calls.post, none)
    else (EspErr.ok, some ⟨payload, payload.text.length.toUInt16⟩)
  if result ≠ .ok then
    { response := some (.error 500 "Cannot save endpoint"), stored, published }
  else { response := some .saved, stored, published }

/-- `save_post_handler` -/
def savePostHandler (calls : EndpointCalls) (request : EndpointRequest) : EndpointResult :=
  if request.contentLen = 0 ∨ formLimit ≤ request.contentLen then
    { response := some (.error 400 "Invalid form size") }
  else
    match request.reception with
    | .waiting => { response := none }
    | .failed => { response := some (.error 400 "Cannot read form") }
    | .body body =>
        match parseForm body with
        | .error message => { response := some (.error 400 message) }
        | .ok endpoint => saveFormEndpoint calls endpoint

/-- The endpoint is in NVS and in the event. -/
def EndpointResult.Has (result : EndpointResult) (endpoint : Text) : Prop :=
  (∃ stored, result.stored = some stored ∧ stored.text.text = endpoint) ∧
    ∃ payload, result.published = some payload ∧ payload.endpoint.text = endpoint ∧
      payload.length.toNat = endpoint.length

section

variable {calls : EndpointCalls} {request : EndpointRequest}

/-- The calls of NVS succeed. -/
def EndpointCalls.Saved (calls : EndpointCalls) : Prop :=
  calls.opened = .ok ∧ calls.set = .ok ∧ calls.committed = .ok

instance (calls : EndpointCalls) : Decidable calls.Saved :=
  inferInstanceAs (Decidable (_ ∧ _ ∧ _))

/-- An endpoint that passes the check is stored unless NVS fails, and published if it is stored. -/
theorem saveFormEndpoint_eq {endpoint : Endpoint}
    (hcheck : Endpoint.check endpoint.text.text = some endpoint) :
    saveFormEndpoint calls endpoint.text.text =
      { response := some
          (if calls.Saved ∧ calls.post = .ok then .saved else .error 500 "Cannot save endpoint")
        stored := if calls.Saved then some endpoint else none
        published :=
          if calls.Saved ∧ calls.post = .ok then
            some ⟨endpoint.text, endpoint.text.text.length.toUInt16⟩
          else none } := by
  unfold saveFormEndpoint settingsConfigSaveOpcuaEndpoint EndpointCalls.Saved
  rw [Option.bind_some, hcheck, show CharArray.ofText 256 endpoint.text.text = endpoint.text from
    CharArray.ofText_self endpoint.text]
  dsimp only
  split_ifs <;> simp_all

/-- The handler does nothing, or a form has come in with an endpoint. -/
theorem savePostHandler_cases (calls : EndpointCalls) (request : EndpointRequest) :
    (savePostHandler calls request).stored = none ∧
        (savePostHandler calls request).published = none ∨
      ∃ body endpoint, request.reception = .body body ∧ parseForm body = .ok endpoint.text.text ∧
        Endpoint.check endpoint.text.text = some endpoint ∧
          savePostHandler calls request = saveFormEndpoint calls endpoint.text.text := by
  by_cases hsize : request.contentLen = 0 ∨ formLimit ≤ request.contentLen
  · simp [savePostHandler, hsize]
  · unfold savePostHandler
    rw [if_neg hsize]
    cases request.reception with
    | waiting => exact .inl ⟨rfl, rfl⟩
    | failed => exact .inl ⟨rfl, rfl⟩
    | body body =>
        cases hparse : parseForm body with
        | error message => exact .inl (by simp [hparse])
        | ok text =>
            obtain ⟨endpoint, hcheck, rfl⟩ := check_of_parseForm hparse
            exact .inr ⟨body, endpoint, rfl, hparse, hcheck, by simp [hparse]⟩

/-- What is stored is what the field at the front of the form stands for. -/
theorem stored_of_savePostHandler {endpoint : Endpoint}
    (hstored : (savePostHandler calls request).stored = some endpoint) :
    ∃ body value, request.reception = .body body ∧ FrontField body value ∧
      endpoint.text.text = cString (urlDecode value) := by
  rcases savePostHandler_cases calls request with
    ⟨hnone, -⟩ | ⟨body, found, hreception, hparse, hcheck, hresult⟩
  · rw [hnone] at hstored
    cases hstored
  · rw [hresult, saveFormEndpoint_eq hcheck] at hstored
    obtain ⟨-, hfound⟩ := Option.ite_none_right_eq_some.mp hstored
    obtain rfl := Option.some.inj hfound
    obtain ⟨-, value, hfield, -, htext, -⟩ := parseForm_eq_ok_iff.mp hparse
    exact ⟨body, value, hreception, hfield, htext⟩

/-- The event follows a save, and carries what was saved. -/
theorem published_of_savePostHandler {payload : EndpointData}
    (hpublished : (savePostHandler calls request).published = some payload) :
    ∃ endpoint, (savePostHandler calls request).stored = some endpoint ∧
      payload.endpoint = endpoint.text ∧
        payload.length.toNat = endpoint.text.text.length := by
  rcases savePostHandler_cases calls request with ⟨-, hnone⟩ | ⟨_, endpoint, -, -, hcheck, hresult⟩
  · rw [hnone] at hpublished
    cases hpublished
  · rw [hresult, saveFormEndpoint_eq hcheck] at hpublished ⊢
    obtain ⟨⟨hsaved, -⟩, hpayload⟩ := Option.ite_none_right_eq_some.mp hpublished
    obtain rfl := Option.some.inj hpayload
    refine ⟨endpoint, if_pos hsaved, rfl, ?_⟩
    have hfits : endpoint.text.text.length < 256 := endpoint.text.fits
    simp only [Nat.toUInt16_eq, UInt16.toNat_ofNat']
    omega

theorem reception_arrives {body : Text} {receives : List Receive}
    (harrives : Arrives body receives) :
    (⟨body.length, receives⟩ : EndpointRequest).reception = .body body := by
  have harrived := receiveBody_arrives harrives []
  rwa [List.length_nil, Nat.zero_add, List.nil_append] at harrived

/-- However the body arrives, the handler stores what the step `portalRequest` of the endpoint system
stores. -/
theorem savePostHandler_stored {body : Text} {receives : List Receive}
    (harrives : Arrives body receives) :
    (savePostHandler {} ⟨body.length, receives⟩).stored =
      (parseForm body).toOption.bind Endpoint.check := by
  by_cases hsize : body.length = 0 ∨ formLimit ≤ body.length
  · have hparse : parseForm body = .error "Invalid form size" := if_pos hsize
    unfold savePostHandler
    rw [if_pos hsize, hparse]
    rfl
  · unfold savePostHandler
    rw [if_neg hsize, reception_arrives harrives]
    dsimp only
    cases hparse : parseForm body with
    | error message => rfl
    | ok text =>
        obtain ⟨endpoint, hcheck, rfl⟩ := check_of_parseForm hparse
        dsimp only [Except.toOption, Option.bind_some]
        rw [saveFormEndpoint_eq hcheck, hcheck]
        rfl

/-- A valid endpoint that arrives in an encoding which fits is stored and published. -/
theorem savePostHandler_has {body value endpoint : Text} {receives : List Receive}
    (hvalid : ValidEndpoint endpoint) (hencodes : Encodes endpoint value)
    (hfield : FrontField body value) (hshort : value.length < endpointLength)
    (hlimit : body.length < formLimit) (harrives : Arrives body receives) :
    (savePostHandler {} ⟨body.length, receives⟩).Has endpoint := by
  have hparse : parseForm body = .ok endpoint := by
    refine parseForm_eq_ok_iff.mpr ⟨hlimit, value, hfield, hshort, ?_, hvalid.scheme⟩
    rw [urlDecode_isDecoder.decode_encodes hencodes, cString_of_noNul hvalid.noNul]
  have hsize : ¬ (body.length = 0 ∨ formLimit ≤ body.length) := by
    rintro (hempty | hlarge)
    · rw [List.length_eq_zero_iff.mp hempty] at hparse
      cases hparse
    · exact absurd hlimit (not_lt.mpr hlarge)
  have hhandler : savePostHandler {} ⟨body.length, receives⟩ = saveFormEndpoint {} endpoint := by
    unfold savePostHandler
    rw [if_neg hsize, reception_arrives harrives]
    simp only [hparse]
  obtain ⟨stored, hcheck, rfl⟩ := hvalid.check
  have hsaved : (savePostHandler {} ⟨body.length, receives⟩).published =
      some ⟨stored.text, stored.text.text.length.toUInt16⟩ := by
    rw [hhandler, saveFormEndpoint_eq hcheck]
    rfl
  obtain ⟨_, hstored, hsame, hlength⟩ := published_of_savePostHandler hsaved
  exact ⟨⟨_, hstored, by rw [← hsame]⟩, _, hsaved, rfl, by rw [hlength, ← hsame]⟩

end

/-- The page stores valid endpoints only, each as the form has it, and publishes what it stores; the
two other functions accept the valid endpoints and no more. -/
theorem savePostHandler_validEndpoints :
    (∀ (endpoint value body : Text) (receives : List Receive), ValidEndpoint endpoint →
      Encodes endpoint value → FrontField body value → value.length < endpointLength →
        body.length < formLimit → Arrives body receives →
          (savePostHandler {} ⟨body.length, receives⟩).Has endpoint) ∧
    (∀ (calls : EndpointCalls) (request : EndpointRequest) (endpoint : Endpoint),
      (savePostHandler calls request).stored = some endpoint →
        ValidEndpoint endpoint.text.text ∧ ∃ body value, request.reception = .body body ∧
          FrontField body value ∧ endpoint.text.text = cString (urlDecode value)) ∧
    (∀ (calls : EndpointCalls) (request : EndpointRequest) (payload : EndpointData),
      (savePostHandler calls request).published = some payload →
        ∃ endpoint, (savePostHandler calls request).stored = some endpoint ∧
          payload.endpoint = endpoint.text ∧ payload.length.toNat = endpoint.text.text.length) ∧
    ∀ (url : Text) (control : ClientControl), 0 ∉ url →
      ((settingsConfigSaveOpcuaEndpoint {} (some url)).1 = .ok ↔ ValidEndpoint url) ∧
        ((control.setEndpoint (some url)).1 = .ok ↔ ValidEndpoint url) :=
  ⟨fun _ _ _ _ hvalid hencodes hfield hshort hlimit harrives =>
      savePostHandler_has hvalid hencodes hfield hshort hlimit harrives,
    fun _ _ endpoint hstored => ⟨endpoint.valid, stored_of_savePostHandler hstored⟩,
    fun _ _ _ hpublished => published_of_savePostHandler hpublished,
    fun _ control hnul => ⟨settingsConfigSaveOpcuaEndpoint_ok_iff hnul,
      setEndpoint_ok_iff hnul control⟩⟩

/-- An endpoint with an escape, in two pieces and before another field. -/
theorem savePostHandler_escaped :
    (savePostHandler {} ⟨29, [.bytes 0x65 (ascii "ndpoint=%6Fpc."), .timeout,
      .bytes 0x74 (ascii "cp://plc&more")]⟩).Has (ascii "opc.tcp://plc") := by
  have hencodes : Encodes (ascii "opc.tcp://plc") (ascii "%6Fpc.tcp://plc") :=
    .cons (@Code.escape 0x36 0x46 6 15 (by decide) (by decide)) (.self (by decide))
  have hfield : FrontField (ascii "endpoint=%6Fpc.tcp://plc&more") (ascii "%6Fpc.tcp://plc") :=
    ⟨by decide, by decide, ascii "&more", by decide, .inr ⟨ascii "more", .inr (by decide)⟩⟩
  have harrives : Arrives (ascii "endpoint=%6Fpc.tcp://plc&more")
      [.bytes 0x65 (ascii "ndpoint=%6Fpc."), .timeout, .bytes 0x74 (ascii "cp://plc&more")] :=
    .bytes 0x65 (ascii "ndpoint=%6Fpc.") (.timeout (.bytes 0x74 (ascii "cp://plc&more") (.nil [])))
  exact savePostHandler_validEndpoints.1 _ _ _ _ ⟨by decide, by decide, by decide⟩ hencodes hfield
    (by decide) (by decide) harrives

/-- Another field behind the endpoint does no harm, and such a body is none of those that carry just
an endpoint. -/
theorem savePostHandler_secondField :
    ¬ ((∀ (endpoint value : Text) (receives : List Receive), ValidEndpoint endpoint →
        Encodes endpoint value → 0x26 ∉ value → Arrives (ascii "endpoint=" ++ value) receives →
          (savePostHandler {} ⟨(ascii "endpoint=" ++ value).length, receives⟩).Has endpoint) ∧
      ∀ (body : Text) (receives : List Receive),
        (¬ ∃ endpoint value, ValidEndpoint endpoint ∧ Encodes endpoint value ∧ 0x26 ∉ value ∧
          body = ascii "endpoint=" ++ value) → Arrives body receives →
            (savePostHandler {} ⟨body.length, receives⟩).stored = none ∧
              (savePostHandler {} ⟨body.length, receives⟩).published = none) := by
  rintro ⟨-, hothers⟩
  have hother : ¬ ∃ endpoint value, ValidEndpoint endpoint ∧ Encodes endpoint value ∧
      0x26 ∉ value ∧ ascii "endpoint=opc.tcp://plc&keep=1" = ascii "endpoint=" ++ value := by
    rintro ⟨_, value, -, -, hampersand, hbody⟩
    have hnone : 0x26 ∉ ascii "endpoint=" ++ value := by
      rw [List.mem_append]
      exact not_or.mpr ⟨by decide, hampersand⟩
    rw [← hbody] at hnone
    exact hnone (by decide)
  have hnothing := hothers _ [.bytes 0x65 (ascii "ndpoint=opc.tcp://plc&keep=1")] hother
    (.bytes 0x65 (ascii "ndpoint=opc.tcp://plc&keep=1") (.nil []))
  exact absurd hnothing.1 (by decide)

end CrowPanel.Settings
