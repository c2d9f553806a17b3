import CrowPanel.OpcUa.NodeId
import CrowPanel.Settings.HtmlEscape
import CrowPanel.Settings.ScanResults
import Mathlib.Algebra.Order.BigOperators.Group.List

/-!
# The list of networks on the page of the portal

`build_scan_list_html` writes one button for each stored result into a buffer of `256 + 512 * count`
bytes.  A button holds the name twice, and a byte of a name may take six bytes, so the buffer may be
too small: `snprintf` then cuts the button that does not fit, and no other follows.

## Strategy

`buttonLength` computes the length of a button from the stored result.  In front of each call of
`snprintf` the text ends at `pos`, so what is written is the whole button exactly if it ends before
the end of the buffer; once a button is cut the text is shorter than the page would be
(`scanListLoop_complete_iff`).
-/

namespace CrowPanel.Settings

open Library

/-- `auth_mode_requires_password`; `WIFI_AUTH_OWE` is an enumerator and not a macro, so its case is
not compiled. -/
def authModeRequiresPassword : ScanAuthMode → Bool
  | .openNetwork => false
  | _ => true

/-- `auth_mode_label` -/
def authModeLabel : ScanAuthMode → Text
  | .openNetwork => ascii "Open"
  | .wep => ascii "WEP"
  | .wpaPsk => ascii "WPA"
  | .wpa2Psk => ascii "WPA2"
  | .wpaWpa2Psk => ascii "WPA/WPA2"
  | .wpa2Enterprise => ascii "Enterprise"
  | .wpa3Psk => ascii "WPA3"
  | .wpa2Wpa3Psk => ascii "WPA2/WPA3"
  | .other _ => ascii "Secure"

/-- The local `tag_class` of `build_scan_list_html`. -/
def tagClass (authmode : ScanAuthMode) : Text :=
  if authModeRequiresPassword authmode then ascii "wifi-tag" else ascii "wifi-tag wifi-tag-open"

/-- The conversion `%d`. -/
def printInt (value : ℤ) : Text :=
  if value < 0 then ascii "-" ++ OpcUa.printDigits 10 value.natAbs
  else OpcUa.printDigits 10 value.natAbs

/-- What the format of `build_scan_list_html` makes of one result and its escaped name. -/
def formatButton (escSsid : Text) (result : PortalScanResult) : Text :=
  ascii "<button class='wifi-item' type='button' data-ssid='" ++ escSsid ++
  ascii "' data-secure='" ++ printInt (if authModeRequiresPassword result.authmode then 1 else 0) ++
  ascii "' onclick='selectNetwork(this)'>" ++
  ascii "<span class='wifi-name'>" ++ escSsid ++ ascii "</span>" ++
  ascii "<span class='wifi-meta'><span class='" ++ tagClass result.authmode ++ ascii "'>" ++
  authModeLabel result.authmode ++ ascii "</span><span>" ++ printInt result.rssi ++
  ascii " dBm</span></span>" ++ ascii "</button>"

/-- What the calls of `build_scan_list_html` return: whether there is a mutex, and which allocations
succeed (the copy of the notice, the buffer, and the escaped name of each result). -/
structure ScanListCalls where
  mutex : Bool := true
  notice : Bool := true
  html : Bool := true
  escaped : ℕ → Bool := fun _ => true

/-- The `kEmpty` of `build_scan_list_html`. -/
def scanEmpty : Text :=
  ascii "<div class='scan-empty'>No networks found. Refresh or enter SSID manually.</div>"

/-- The loop of `build_scan_list_html` from the result `index`: `html` is the text in the buffer and
`pos` the number of bytes that the calls of `snprintf` wanted to write so far. -/
def scanListLoop (escaped : ℕ → Bool) (cap : ℕ) (html : Text) (pos index : ℕ) :
    List PortalScanResult → Option Text
  | [] => some html
  | result :: results =>
      match htmlEscapeDup (escaped index) (some result.ssid.text) with
      | none => none
      | some escSsid =>
          let button := formatButton escSsid result
          -- `snprintf` writes at `pos` and leaves room for the terminator
          let written := html.take pos ++ button.take (cap - pos - 1)
          if cap ≤ pos + button.length then some written
          else scanListLoop escaped cap written (pos + button.length) (index + 1) results

/-- The size of the buffer. -/
def scanListCap (count : ℕ) : ℕ :=
  256 + count * 512

/-- `build_scan_list_html` -/
def buildScanListHtml (calls : ScanListCalls) (results : List PortalScanResult) : Option Text :=
  if calls.mutex = false then none
  else if results.length = 0 then
    if calls.notice = true then some scanEmpty else none
  else if calls.html = false then none
  else scanListLoop calls.escaped (scanListCap results.length) [] 0 0 results

/-! ## The whole page -/

/-- The complete button of a result. -/
def scanButton (result : PortalScanResult) : Text :=
  formatButton (htmlEscape result.ssid.text) result

/-- The list that shows every result; without results there is nothing to show but the notice. -/
def completeScanList (results : List PortalScanResult) : Text :=
  if results = [] then scanEmpty else results.flatMap scanButton

/-- The number of bytes that `%d` takes. -/
def decimalWidth (value : ℤ) : ℕ :=
  (if value < 0 then 1 else 0) + (Nat.toDigits 10 value.natAbs).length

/-- The length of a button: the text around the fields, the name twice, the class and the label of
the protection and the signal strength. -/
def buttonLength (result : PortalScanResult) : ℕ :=
  209 + 2 * (result.ssid.text.map escapedWidth).sum + (tagClass result.authmode).length +
    (authModeLabel result.authmode).length + decimalWidth result.rssi

theorem length_printInt (value : ℤ) : (printInt value).length = decimalWidth value := by
  unfold printInt decimalWidth
  split_ifs <;> simp [OpcUa.printDigits, ascii, Nat.add_comm]

theorem length_scanButton (result : PortalScanResult) :
    (scanButton result).length = buttonLength result := by
  have hsecure :
      (printInt (if authModeRequiresPassword result.authmode then 1 else 0)).length = 1 := by
    split <;> decide
  have hname := length_htmlEscape result.ssid.text
  have hrssi := length_printInt result.rssi
  calc (scanButton result).length
      = 51 + (htmlEscape result.ssid.text).length + 15 + 1 + 32 + 24 +
          (htmlEscape result.ssid.text).length + 7 + 37 + (tagClass result.authmode).length + 2 +
          (authModeLabel result.authmode).length + 13 + (printInt result.rssi).length + 18 + 9 := by
        simp only [scanButton, formatButton, List.length_append, hsecure]
        rfl
    _ = buttonLength result := by
        unfold buttonLength
        omega

/-! ## The loop -/

/-- The loop makes the whole page exactly if the page and its terminator fit. -/
theorem scanListLoop_complete_iff {escaped : ℕ → Bool} {cap : ℕ} {results : List PortalScanResult}
    {html : Text} {pos index : ℕ} (hescaped : ∀ index, escaped index = true)
    (hpos : html.length = pos) (hroom : pos < cap) :
    scanListLoop escaped cap html pos index results = some (html ++ results.flatMap scanButton) ↔
      pos + (results.map buttonLength).sum < cap := by
  induction results generalizing html pos index with
  | nil => simpa [scanListLoop] using hroom
  | cons result results ih =>
      have htake : html.take pos = html := List.take_of_length_le hpos.le
      have hbutton : formatButton (htmlEscape result.ssid.text) result = scanButton result := rfl
      have hlength := length_scanButton result
      rw [scanListLoop, hescaped index, htmlEscapeDup_true]
      simp only [hbutton, htake, List.flatMap_cons, List.map_cons, List.sum_cons]
      split
      · next hcut =>
          -- the text ends before the end of the buffer, and the page would not
          refine iff_of_false (fun hwhole => ?_) (by omega)
          have hsame := congrArg List.length (Option.some.inj hwhole)
          simp only [List.length_append, List.length_take] at hsame
          omega
      · next hfits =>
          have hwritten : (scanButton result).take (cap - pos - 1) = scanButton result :=
            List.take_of_length_le (by omega)
          rw [hwritten, ← List.append_assoc, ih (by rw [List.length_append, hpos]) (by omega),
            hlength, Nat.add_assoc]

/-! ## The page -/

/-- Every allocation succeeds. -/
structure ScanListCalls.Succeed (calls : ScanListCalls) : Prop where
  mutex : calls.mutex = true
  notice : calls.notice = true
  html : calls.html = true
  escaped : ∀ index, calls.escaped index = true

/-- The buttons of the results fit into the buffer, with a terminator. -/
def ButtonsFit (results : List PortalScanResult) : Prop :=
  (results.map buttonLength).sum < scanListCap results.length

instance (results : List PortalScanResult) : Decidable (ButtonsFit results) :=
  inferInstanceAs (Decidable (_ < _))

/-- The list is complete exactly if its buttons fit. -/
theorem buildScanListHtml_complete_iff (calls : ScanListCalls) (results : List PortalScanResult)
    (hcalls : calls.Succeed) :
    buildScanListHtml calls results = some (completeScanList results) ↔ ButtonsFit results := by
  obtain ⟨hmutex, hnotice, hhtml, hescaped⟩ := hcalls
  cases results with
  | nil =>
      refine iff_of_true ?_ (show 0 < scanListCap 0 by decide)
      simp [buildScanListHtml, completeScanList, hmutex, hnotice]
  | cons result results =>
      have hroom : 0 < scanListCap (result :: results).length := by
        unfold scanListCap
        omega
      have hloop := @scanListLoop_complete_iff calls.escaped _ (result :: results) [] 0 0 hescaped
        rfl hroom
      rw [List.nil_append, Nat.zero_add] at hloop
      rw [completeScanList, if_neg (List.cons_ne_nil _ _), ButtonsFit, ← hloop]
      simp [buildScanListHtml, hmutex, hhtml]

/-- Three networks with names of 32 bytes that are almost all quotes. -/
def quotedNetworks : List PortalScanResult :=
  [0x22, 0x26, 0x27].map fun last =>
    { ssid := .ofText 33 (List.replicate 31 0x22 ++ [last]), rssi := -60, authmode := .wpa2Psk }

theorem buildScanListHtml_cuts_quoted :
    quotedNetworks.length ≤ maxPortalScanResults ∧
    (∀ result ∈ quotedNetworks, result.ssid.text.length = 32) ∧
    buildScanListHtml {} quotedNetworks = some ((quotedNetworks.flatMap scanButton).take 1791) ∧
    buildScanListHtml {} quotedNetworks ≠ some (quotedNetworks.flatMap scanButton) := by
  decide +kernel

theorem buildScanListHtml_complete_two_quoted :
    buildScanListHtml {} (quotedNetworks.take 2) =
      some (completeScanList (quotedNetworks.take 2)) :=
  (buildScanListHtml_complete_iff {} (quotedNetworks.take 2) ⟨rfl, rfl, rfl, fun _ => rfl⟩).mpr
    (by decide +kernel)

/-! ## Names that always fit -/

theorem length_protection_le (authmode : ScanAuthMode) :
    (tagClass authmode).length + (authModeLabel authmode).length ≤ 26 := by
  cases authmode <;> exact Nat.le_of_ble_eq_true rfl

theorem decimalWidth_le {rssi : ℤ} (hlow : -128 ≤ rssi) (hhigh : rssi < 128) :
    decimalWidth rssi ≤ 4 := by
  have hdigits : (Nat.toDigits 10 rssi.natAbs).length ≤ 3 :=
    (Nat.length_toDigits_le_iff (by decide) (by decide)).mpr (by omega)
  unfold decimalWidth
  split <;> omega

/-- The estimate of 512 bytes is enough for names that take no more than 136 bytes when escaped. -/
theorem buttonsFit_of_short {results : List PortalScanResult}
    (hname : ∀ result ∈ results, (htmlEscape result.ssid.text).length ≤ 136)
    (hrssi : ∀ result ∈ results, -128 ≤ result.rssi ∧ result.rssi < 128) : ButtonsFit results := by
  have hlength : ∀ length ∈ results.map buttonLength, length ≤ 512 := by
    refine List.forall_mem_map.mpr fun result hresult => ?_
    have hprotection := length_protection_le result.authmode
    have hwidth := decimalWidth_le (hrssi result hresult).1 (hrssi result hresult).2
    have hescaped := hname result hresult
    rw [length_htmlEscape] at hescaped
    unfold buttonLength
    omega
  have hsum := List.sum_le_card_nsmul (results.map buttonLength) 512 hlength
  rw [List.length_map, nsmul_eq_mul, Nat.cast_id] at hsum
  unfold ButtonsFit scanListCap
  omega

end CrowPanel.Settings
