import CrowPanel.Library.UrlEncoding
import CrowPanel.OpcUa.Control

/-!
# Endpoints from outside

What the OpenPLC page accepts as an endpoint: the check of `settings_config.c`, the form that
`save_post_handler` reads, and the message that `parse_opcua_endpoint_json` reads.  A valid endpoint
carries its scheme with it, so later checks of it cannot fail.
-/

namespace CrowPanel.Settings

open Library OpcUa

/-- A valid endpoint in a buffer of `SETTINGS_OPCUA_ENDPOINT_LENGTH` bytes. -/
structure Endpoint where
  text : CharArray endpointLength
  scheme : text.text.take 10 = ascii "opc.tcp://"
  deriving DecidableEq

/-- The check of `settings_config_save_opcua_endpoint` and of `save_and_apply_endpoint`. -/
def Endpoint.check (endpointUrl : Text) : Option Endpoint :=
  let text := CharArray.ofText endpointLength endpointUrl
  if hvalid : text.text.take 10 = ascii "opc.tcp://" ∧ endpointUrl.length < endpointLength then
    some ⟨text, hvalid.1⟩
  else none

/-! ## The form of the portal -/

/-- `isxdigit` -/
def isHexDigit (byte : UInt8) : Bool :=
  (0x30 ≤ byte && byte ≤ 0x39) || (0x41 ≤ byte && byte ≤ 0x46) || (0x61 ≤ byte && byte ≤ 0x66)

/-- The value of a hexadecimal digit. -/
def hexValue (byte : UInt8) : UInt8 :=
  if byte ≤ 0x39 then byte - 0x30 else if byte ≤ 0x46 then byte - 0x37 else byte - 0x57

/-- `url_decode`, before the result is read as a C string. -/
def urlDecode : Text → Text
  | byte :: high :: low :: tail =>
      if byte = 0x2B then 0x20 :: urlDecode (high :: low :: tail)
      else if byte = 0x25 ∧ isHexDigit high ∧ isHexDigit low then
        (16 * hexValue high + hexValue low) :: urlDecode tail
      else byte :: urlDecode (high :: low :: tail)
  -- too short for an escape sequence
  | byte :: rest => (if byte = 0x2B then 0x20 else byte) :: urlDecode rest
  | [] => []

theorem hexDigit?_eq (byte : UInt8) :
    hexDigit? byte = if isHexDigit byte then some (hexValue byte) else none := by
  unfold hexDigit? isHexDigit hexValue
  split_ifs <;> simp_all <;> grind

/-- A byte that is neither of the two signs stands for itself. -/
theorem urlDecode_plain {byte : UInt8} (hpercent : byte ≠ 0x25) (hplus : byte ≠ 0x2B) (rest : Text) :
    urlDecode (byte :: rest) = byte :: urlDecode rest := by
  rcases rest with _ | ⟨high, _ | ⟨low, tail⟩⟩ <;> simp [urlDecode, hpercent, hplus]

theorem urlDecode_isDecoder : IsDecoder urlDecode where
  nil := rfl
  code := by
    intro byte code rest hcode
    cases hcode with
    | plain hpercent hplus => exact urlDecode_plain hpercent hplus rest
    | plus => rcases rest with _ | ⟨high, _ | ⟨low, tail⟩⟩ <;> simp [urlDecode]
    | escape hhigh hlow =>
        rw [hexDigit?_eq, Option.ite_none_right_eq_some] at hhigh hlow
        obtain ⟨hhigh, hfirst⟩ := hhigh
        obtain ⟨hlow, hsecond⟩ := hlow
        obtain rfl := Option.some.inj hfirst
        obtain rfl := Option.some.inj hsecond
        simp [urlDecode, hhigh, hlow]
  broken := by
    intro rest hbroken
    rcases rest with _ | ⟨high, _ | ⟨low, tail⟩⟩
    · rfl
    · rfl
    · have hdigits : ¬ (isHexDigit high = true ∧ isHexDigit low = true) := by
        rintro ⟨hhigh, hlow⟩
        rcases hbroken high low tail rfl with hnone | hnone <;>
          simp [hexDigit?_eq, hhigh, hlow] at hnone
      simp [urlDecode, hdigits]

/-- `OPENPLC_PORTAL_FORM_LIMIT` -/
abbrev formLimit : ℕ := 512

/-- The endpoint in the body of a request to `save_post_handler`, or the text of the bad-request
response.  All of the body has been received. -/
def parseForm (body : Text) : Except String Text :=
  let form := body.takeWhile (· ≠ 0)
  if body.length = 0 ∨ formLimit ≤ body.length then .error "Invalid form size"
  else if form.take 9 ≠ ascii "endpoint=" then .error "Endpoint is missing"
  else
    let encodedEndpoint := (form.drop 9).takeWhile (· ≠ 0x26)
    if endpointLength ≤ encodedEndpoint.length then .error "Endpoint is too long"
    else
      let endpoint := (urlDecode encodedEndpoint).takeWhile (· ≠ 0)
      if endpoint.take 10 ≠ ascii "opc.tcp://" then .error "Invalid OPC UA endpoint"
      else .ok endpoint

theorem length_urlDecode_le (text : Text) : (urlDecode text).length ≤ text.length := by
  fun_induction urlDecode text with
  | case1 high low tail ih => simpa using ih
  | case2 byte high low tail hplus hencoded ih =>
      simp only [List.length_cons]
      omega
  | case3 byte high low tail hplus hplain ih => simpa using ih
  | case4 byte rest hshort ih => simpa using ih
  | case5 => exact Nat.le_refl 0

/-- An endpoint taken from a form passes the check under which it is stored. -/
theorem check_of_parseForm {body endpoint : Text} (hparse : parseForm body = .ok endpoint) :
    ∃ valid, Endpoint.check endpoint = some valid ∧ valid.text.text = endpoint := by
  unfold parseForm at hparse
  dsimp only at hparse
  split at hparse
  · cases hparse
  split at hparse
  · cases hparse
  split at hparse
  · cases hparse
  · next hlength =>
      split at hparse
      · cases hparse
      · next hscheme =>
          obtain rfl := Except.ok.inj hparse
          generalize (List.drop 9 (List.takeWhile (· ≠ 0) body)).takeWhile (· ≠ 0x26) = encoded
            at hlength hscheme
          have hnul : 0 ∉ (urlDecode encoded).takeWhile (· ≠ 0) := by
            intro hmem
            simpa using List.mem_takeWhile_imp hmem
          have hshort : ((urlDecode encoded).takeWhile (· ≠ 0)).length < endpointLength := by
            have hdecoded := length_urlDecode_le encoded
            have hcut : ((urlDecode encoded).takeWhile (· ≠ 0)).length ≤
                (urlDecode encoded).length := (List.takeWhile_prefix _).length_le
            omega
          have htext := CharArray.ofText_text hnul hshort
          unfold Endpoint.check
          dsimp only
          rw [dif_pos ⟨by rw [htext]; exact not_not.mp hscheme, hshort⟩]
          exact ⟨_, rfl, htext⟩

/-! ## The message over UART -/

/-- The strings under the names `type` and `endpoint` in a JSON object. -/
structure UartMessage where
  type : Option Text
  endpoint : Option Text
  deriving DecidableEq

/-- `parse_opcua_endpoint_json`, up to the event that it posts. -/
def UartMessage.parse (message : UartMessage) : Option Endpoint :=
  if message.type = some (ascii "openplc_config") ∨ message.type = some (ascii "opcua_config") then
    message.endpoint.bind Endpoint.check
  else none

end CrowPanel.Settings
