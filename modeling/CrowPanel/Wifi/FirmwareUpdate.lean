import CrowPanel.DataModel.Types
import CrowPanel.Library.CText
import CrowPanel.Library.Machine
import Mathlib.Data.List.Induction

/-!
# The firmware of the Wi-Fi module

At every boot `c6_fw_update_check_and_apply` compares the firmware of the Wi-Fi module with the version
that the panel wants.  If they differ, the image that is built into the panel is sent to the module in
chunks, and the panel restarts.

The calls go to the module with their answers on record; an answer may depend on everything that has
been exchanged before.

## Strategy

`OtaPhase` says what a module makes of the exchanges of an update: it is `broken` as soon as one of
them comes out of turn.  The loop that writes the chunks keeps the phase at what has been accepted of
the image, which settles a single boot.  Which firmware a module starts is not for the panel to say:
`StartsImage` is what the update relies on.  Over the boots the module then runs the image once it has
been taken, and the panel comes to rest exactly if the image reports the version that the panel wants.
-/

namespace CrowPanel.Wifi

open Library

/-- `esp_hosted_coprocessor_fwver_t`, and `c6_fw_version_t` -/
structure FwVersion where
  major : ℕ
  minor : ℕ
  patch : ℕ
  deriving DecidableEq

/-- `C6_FW_UPDATE_DESIRED_MAJOR`, `C6_FW_UPDATE_DESIRED_MINOR` and `C6_FW_UPDATE_DESIRED_PATCH` -/
def desiredFwVersion : FwVersion :=
  ⟨2, 11, 0⟩

/-- `versions_equal` -/
def versionsEqual (current desired : FwVersion) : Bool :=
  current.major = desired.major ∧ current.minor = desired.minor ∧ current.patch = desired.patch

theorem versionsEqual_iff {current desired : FwVersion} :
    versionsEqual current desired = true ↔ current = desired := by
  obtain ⟨major, minor, patch⟩ := current
  obtain ⟨major', minor', patch'⟩ := desired
  simp [versionsEqual]

/-- `slave_supports_activate` -/
def slaveSupportsActivate (current : FwVersion) : Bool :=
  2 < current.major ∨ current.major = 2 ∧ 5 < current.minor

/-! ## The image -/

/-- `C6_FW_UPDATE_EXPECTED_PROJECT_NAME` -/
def expectedProjectName : Text :=
  ascii "network_adapter"

/-- `ESP_IMAGE_HEADER_MAGIC` -/
def imageHeaderMagic : UInt8 :=
  0xE9

/-- `sizeof(esp_image_header_t)` -/
def imageHeaderSize : ℕ :=
  24

/-- `app_desc_offset`, with a segment header of 8 bytes -/
def appDescOffset : ℕ :=
  imageHeaderSize + 8

/-- `sizeof(esp_app_desc_t)` -/
def appDescSize : ℕ :=
  256

/-- The field of `esp_app_desc_t` at an offset, copied by `strlcpy` to a buffer of 32 bytes. -/
def appDescText (image : List UInt8) (offset : ℕ) : Text :=
  (cString (image.drop (appDescOffset + offset))).take 31

/-- `parse_embedded_image`: the size, `app_version_text` and `project_name_text`. -/
def parseEmbeddedImage (image : List UInt8) : Except EspErr (ℕ × Text × Text) :=
  if image.length < imageHeaderSize then .error .invalidSize
  else if image.head? ≠ some imageHeaderMagic then .error .invalidArg
  else if image.length < appDescOffset + appDescSize then .error .invalidSize
  else
    let appVersionText := appDescText image 16
    let projectNameText := appDescText image 48
    if projectNameText ≠ expectedProjectName then .error .invalidArg
    else .ok (image.length, appVersionText, projectNameText)

/-- An image that is turned down is reported as an error. -/
theorem parseEmbeddedImage_error {image : List UInt8} {err : EspErr}
    (hparse : parseEmbeddedImage image = .error err) : err ≠ .ok := by
  rintro rfl
  unfold parseEmbeddedImage at hparse
  split at hparse
  · cases hparse
  split at hparse
  · cases hparse
  split at hparse
  · cases hparse
  dsimp only at hparse
  split at hparse <;> cases hparse

/-! ## The exchanges with the module -/

/-- The calls of ESP-Hosted that are made here. -/
inductive HostedCall where
  /-- `esp_hosted_init` -/
  | init
  /-- `esp_hosted_connect_to_slave` -/
  | connectToSlave
  /-- `esp_hosted_get_coprocessor_fwversion` -/
  | getFwVersion
  /-- `esp_hosted_slave_ota_begin` -/
  | otaBegin
  /-- `esp_hosted_slave_ota_write` -/
  | otaWrite (chunk : List UInt8)
  /-- `esp_hosted_slave_ota_end` -/
  | otaEnd
  /-- `esp_hosted_slave_ota_activate` -/
  | otaActivate
  deriving DecidableEq

/-- A call with its answer. -/
structure Exchange where
  call : HostedCall
  answer : EspErr
  deriving DecidableEq

/-- The module at one boot: its answer to a call after some exchanges, and the version it reports when
it answers that call with `ESP_OK`. -/
structure Slave where
  answer : List Exchange → HostedCall → EspErr
  version : FwVersion

/-- The exchanges with one more call. -/
def Slave.exchange (slave : Slave) (trace : List Exchange) (call : HostedCall) : List Exchange :=
  trace ++ [⟨call, slave.answer trace call⟩]

/-- `C6_FW_UPDATE_CHUNK_SIZE` -/
def chunkSize : ℕ :=
  1400

/-- `chunk_len` -/
def chunkLen (remaining : ℕ) : ℕ :=
  if remaining > chunkSize then chunkSize else remaining

theorem chunkLen_pos {remaining : ℕ} (hremaining : 0 < remaining) : 0 < chunkLen remaining := by
  unfold chunkLen chunkSize
  split <;> omega

theorem chunkLen_le (remaining : ℕ) : chunkLen remaining ≤ remaining := by
  unfold chunkLen
  split <;> omega

theorem chunkLen_le_chunkSize (remaining : ℕ) : chunkLen remaining ≤ chunkSize := by
  unfold chunkLen
  split <;> omega

/-- The chunk that is written at `offset`. -/
def chunkAt (image : List UInt8) (offset : ℕ) : List UInt8 :=
  (image.drop offset).take (chunkLen (image.length - offset))

theorem chunkAt_length (image : List UInt8) (offset : ℕ) :
    (chunkAt image offset).length = chunkLen (image.length - offset) := by
  have hle := chunkLen_le (image.length - offset)
  rw [chunkAt, List.length_take, List.length_drop]
  omega

theorem chunkAt_pos {image : List UInt8} {offset : ℕ} (hleft : offset < image.length) :
    0 < (chunkAt image offset).length := by
  rw [chunkAt_length]
  exact chunkLen_pos (Nat.sub_pos_of_lt hleft)

/-- The loop of `write_embedded_image_to_slave` from `offset` on, and the end of the update. -/
def writeFrom (slave : Slave) (image : List UInt8) (offset : ℕ) (trace : List Exchange) :
    EspErr × List Exchange :=
  if offset < image.length then
    let write := HostedCall.otaWrite (chunkAt image offset)
    let ret := slave.answer trace write
    let written := slave.exchange trace write
    if ret ≠ .ok then (ret, slave.exchange written .otaEnd)
    else writeFrom slave image (offset + (chunkAt image offset).length) written
  else (slave.answer trace .otaEnd, slave.exchange trace .otaEnd)
termination_by image.length - offset
decreasing_by
  have hpos := chunkAt_pos ‹offset < image.length›
  omega

/-- `write_embedded_image_to_slave` -/
def writeEmbeddedImageToSlave (slave : Slave) (image : List UInt8) (trace : List Exchange) :
    EspErr × List Exchange :=
  let ret := slave.answer trace .otaBegin
  let begun := slave.exchange trace .otaBegin
  if ret ≠ .ok then (ret, begun) else writeFrom slave image 0 begun

/-- What `c6_fw_update_check_and_apply` has done when it returns or restarts the panel. -/
structure UpdateOutcome where
  result : EspErr
  trace : List Exchange
  /-- the texts given to `notify_status` -/
  notices : List Text := []
  /-- `esp_restart` has been called. -/
  restarted : Bool := false
  deriving DecidableEq

/-- The part of `c6_fw_update_check_and_apply` from the first notice on; `ret` is what the reading of
the version has returned. -/
def applyUpdate (slave : Slave) (image : List UInt8) (ret : EspErr) (trace : List Exchange) :
    UpdateOutcome :=
  let upgrading := [ascii "Upgrading WiFi module..."]
  let updated := upgrading ++ [ascii "WiFi module updated\nRestarting..."]
  let (err, trace) := writeEmbeddedImageToSlave slave image trace
  if err ≠ .ok then ⟨err, trace, upgrading, false⟩
  else if ret = .ok ∧ slaveSupportsActivate slave.version then
    let err := slave.answer trace .otaActivate
    let trace := slave.exchange trace .otaActivate
    if err ≠ .ok then ⟨err, trace, upgrading, false⟩ else ⟨.ok, trace, updated, true⟩
  else ⟨.ok, trace, updated, true⟩

/-- `c6_fw_update_check_and_apply` -/
def checkAndApply (slave : Slave) (image : List UInt8) : UpdateOutcome :=
  match parseEmbeddedImage image with
  | .error err => { result := err, trace := [] }
  | .ok _ =>
      let initErr := slave.answer [] .init
      let trace := slave.exchange [] .init
      if initErr ≠ .ok then { result := initErr, trace }
      else
        let connectErr := slave.answer trace .connectToSlave
        let trace := slave.exchange trace .connectToSlave
        if connectErr ≠ .ok then { result := connectErr, trace }
        else
          let ret := slave.answer trace .getFwVersion
          let trace := slave.exchange trace .getFwVersion
          if ret = .ok ∧ versionsEqual slave.version desiredFwVersion then { result := .ok, trace }
          else applyUpdate slave image ret trace

/-! ## What the module makes of it -/

/-- Where a module is in an update. -/
inductive OtaPhase where
  | idle
  /-- The update has begun, and these bytes have been accepted. -/
  | receiving (bytes : List UInt8)
  /-- A chunk has been refused. -/
  | refused
  /-- The update has ended with these bytes. -/
  | staged (bytes : List UInt8)
  /-- The activation of these bytes has been accepted. -/
  | active (bytes : List UInt8)
  /-- The activation of these bytes has been refused. -/
  | inactive (bytes : List UInt8)
  /-- The update has ended without an image. -/
  | over
  /-- A call has come out of turn. -/
  | broken
  deriving DecidableEq

/-- The next exchange; a chunk must have between 1 and `chunkSize` bytes. -/
def OtaPhase.next (phase : OtaPhase) (exchange : Exchange) : OtaPhase :=
  match exchange.call, phase with
  | .otaBegin, .idle => if exchange.answer = .ok then .receiving [] else .over
  | .otaWrite chunk, .receiving bytes =>
      if chunk.length = 0 ∨ chunkSize < chunk.length then .broken
      else if exchange.answer = .ok then .receiving (bytes ++ chunk)
      else .refused
  | .otaEnd, .receiving bytes => if exchange.answer = .ok then .staged bytes else .over
  | .otaEnd, .refused => .over
  | .otaActivate, .staged bytes => if exchange.answer = .ok then .active bytes else .inactive bytes
  | .init, .idle | .connectToSlave, .idle | .getFwVersion, .idle => .idle
  | _, _ => .broken

/-- The image that the module has taken. -/
def OtaPhase.taken : OtaPhase → Option (List UInt8)
  | .staged bytes | .active bytes | .inactive bytes => some bytes
  | .idle | .receiving _ | .refused | .over | .broken => none

/-- The phase after some exchanges. -/
def otaPhase (trace : List Exchange) : OtaPhase :=
  trace.foldl OtaPhase.next .idle

/-- At no point of the exchanges has the module accepted anything but a prefix of the image. -/
def SendsPrefixes (image : List UInt8) (trace : List Exchange) : Prop :=
  ∀ before, before <+: trace → ∀ bytes, otaPhase before = .receiving bytes → bytes <+: image

variable {slave : Slave} {image : List UInt8} {trace : List Exchange} {call : HostedCall}

theorem otaPhase_exchange :
    otaPhase (slave.exchange trace call) = (otaPhase trace).next ⟨call, slave.answer trace call⟩ := by
  simp [otaPhase, Slave.exchange]

theorem SendsPrefixes.nil : SendsPrefixes image [] := by
  intro before hbefore bytes hphase
  obtain rfl := List.prefix_nil.mp hbefore
  cases hphase

theorem SendsPrefixes.exchange (hsends : SendsPrefixes image trace)
    (hphase : ∀ bytes, otaPhase (slave.exchange trace call) = .receiving bytes → bytes <+: image) :
    SendsPrefixes image (slave.exchange trace call) := by
  intro before hbefore
  rcases List.prefix_concat_iff.mp hbefore with rfl | hearlier
  · exact hphase
  · exact hsends before hearlier

/-- How an update can end: with the whole image, or with a failed call. -/
def EndsUpdate (image : List UInt8) (err : EspErr) (after : List Exchange) : Prop :=
  SendsPrefixes image after ∧
    (err = .ok ∧ otaPhase after = .staged image ∨ err ≠ .ok ∧ otaPhase after = .over)

/-- An end of the update after a refused chunk. -/
theorem endsUpdate_refused (hsends : SendsPrefixes image trace) (hphase : otaPhase trace = .refused)
    {err : EspErr} (herr : err ≠ .ok) : EndsUpdate image err (slave.exchange trace .otaEnd) := by
  have hover : otaPhase (slave.exchange trace .otaEnd) = .over := by
    rw [otaPhase_exchange, hphase]
    rfl
  exact ⟨hsends.exchange (by simp [hover]), .inr ⟨herr, hover⟩⟩

/-- The bytes up to `offset` and the chunk there. -/
theorem take_append_chunkAt (image : List UInt8) (offset : ℕ) :
    image.take offset ++ chunkAt image offset =
      image.take (offset + (chunkAt image offset).length) := by
  rw [chunkAt_length, chunkAt, List.take_add]

/-- The module takes the chunk after the bytes that it has, or refuses it. -/
theorem otaPhase_chunk (slave : Slave) {offset : ℕ} (hleft : offset < image.length)
    (hphase : otaPhase trace = .receiving (image.take offset)) :
    otaPhase (slave.exchange trace (.otaWrite (chunkAt image offset))) =
      if slave.answer trace (.otaWrite (chunkAt image offset)) = .ok then
        .receiving (image.take (offset + (chunkAt image offset).length))
      else .refused := by
  have hturn : ¬((chunkAt image offset).length = 0 ∨ chunkSize < (chunkAt image offset).length) := by
    have hpos := chunkAt_pos hleft
    have hsize := chunkLen_le_chunkSize (image.length - offset)
    rw [chunkAt_length] at hpos ⊢
    omega
  rw [otaPhase_exchange, hphase, ← take_append_chunkAt]
  exact if_neg hturn

/-- The end of an update all of whose chunks have been taken. -/
theorem endsUpdate_complete (hsends : SendsPrefixes image trace)
    (hphase : otaPhase trace = .receiving image) :
    EndsUpdate image (slave.answer trace .otaEnd) (slave.exchange trace .otaEnd) := by
  have hend : otaPhase (slave.exchange trace .otaEnd) =
      if slave.answer trace .otaEnd = .ok then .staged image else .over := by
    rw [otaPhase_exchange, hphase]
    rfl
  refine ⟨hsends.exchange fun bytes hbytes => ?_, ?_⟩
  · rw [hend] at hbytes
    split at hbytes <;> cases hbytes
  · by_cases hok : slave.answer trace .otaEnd = .ok
    · exact .inl ⟨hok, hend.trans (if_pos hok)⟩
    · exact .inr ⟨hok, hend.trans (if_neg hok)⟩

theorem writeFrom_ends {offset : ℕ} (hoffset : offset ≤ image.length)
    (hphase : otaPhase trace = .receiving (image.take offset)) (hsends : SendsPrefixes image trace) :
    EndsUpdate image (writeFrom slave image offset trace).1 (writeFrom slave image offset trace).2 := by
  induction hremaining : image.length - offset using Nat.strong_induction_on generalizing offset trace with
  | _ remaining ih =>
      rw [writeFrom]
      by_cases hleft : offset < image.length
      · have hchunk := otaPhase_chunk slave hleft hphase
        rw [if_pos hleft]
        dsimp only
        by_cases hret : slave.answer trace (.otaWrite (chunkAt image offset)) = .ok
        · rw [if_pos hret] at hchunk
          have hlength := chunkAt_length image offset
          have hpos := chunkAt_pos hleft
          have hle := chunkLen_le (image.length - offset)
          rw [if_neg (not_not.mpr hret)]
          refine ih _ ?_ ?_ hchunk (hsends.exchange fun bytes hbytes => ?_) rfl
          · omega
          · omega
          · rw [hchunk] at hbytes
            exact OtaPhase.receiving.inj hbytes ▸ List.take_prefix ..
        · rw [if_neg hret] at hchunk
          rw [if_pos hret]
          exact endsUpdate_refused (hsends.exchange (by simp [hchunk])) hchunk hret
      · have hall : image.take offset = image := List.take_of_length_le (by omega)
        rw [if_neg hleft]
        exact endsUpdate_complete hsends (hall ▸ hphase)

/-- An update that begins in an idle module ends with the whole image in it, or it has failed. -/
theorem writeEmbeddedImageToSlave_ends (slave : Slave) (hphase : otaPhase trace = .idle)
    (hsends : SendsPrefixes image trace) :
    EndsUpdate image (writeEmbeddedImageToSlave slave image trace).1
      (writeEmbeddedImageToSlave slave image trace).2 := by
  have hbegun : otaPhase (slave.exchange trace .otaBegin) =
      if slave.answer trace .otaBegin = .ok then .receiving [] else .over := by
    rw [otaPhase_exchange, hphase]
    rfl
  unfold writeEmbeddedImageToSlave
  dsimp only
  by_cases hret : slave.answer trace .otaBegin = .ok
  · rw [if_pos hret] at hbegun
    rw [if_neg (not_not.mpr hret)]
    refine writeFrom_ends (Nat.zero_le _) hbegun (hsends.exchange fun bytes hbytes => ?_)
    rw [hbegun] at hbytes
    exact OtaPhase.receiving.inj hbytes ▸ List.nil_prefix
  · rw [if_neg hret] at hbegun
    rw [if_pos hret]
    exact ⟨hsends.exchange (by simp [hbegun]), .inr ⟨hret, hbegun⟩⟩

/-! ## A boot -/

/-- The exchanges up to the reading of the version, when the module is reached. -/
def reachedTrace : List Exchange :=
  [⟨.init, .ok⟩, ⟨.connectToSlave, .ok⟩]

/-- ESP-Hosted is initialised, and the module is connected. -/
def Slave.Reached (slave : Slave) : Prop :=
  slave.answer [] .init = .ok ∧ slave.answer [⟨.init, .ok⟩] .connectToSlave = .ok

/-- The version that is read from a module that is reached, if it can be read. -/
def Slave.read (slave : Slave) : Option FwVersion :=
  if slave.answer reachedTrace .getFwVersion = .ok then some slave.version else none

/-- The image passes `parse_embedded_image`. -/
def Valid (image : List UInt8) : Prop :=
  (parseEmbeddedImage image).isOk = true

/-- How a boot can end. -/
inductive BootEnd (slave : Slave) (image : List UInt8) (outcome : UpdateOutcome) : Prop
  | unreached (hunreached : ¬(Valid image ∧ slave.Reached)) (hresult : outcome.result ≠ .ok)
      (hrestarted : outcome.restarted = false) (hphase : otaPhase outcome.trace = .idle)
  | upToDate (hvalid : Valid image) (hreached : slave.Reached)
      (hread : slave.read = some desiredFwVersion) (hresult : outcome.result = .ok)
      (hrestarted : outcome.restarted = false) (hphase : otaPhase outcome.trace = .idle)
  | failed (hvalid : Valid image) (hreached : slave.Reached)
      (hread : slave.read ≠ some desiredFwVersion) (hresult : outcome.result ≠ .ok)
      (hrestarted : outcome.restarted = false) (hphase : otaPhase outcome.trace = .over)
  | inactive (hvalid : Valid image) (hreached : slave.Reached) (version : FwVersion)
      (hread : slave.read = some version) (hother : version ≠ desiredFwVersion)
      (hsupports : slaveSupportsActivate version = true) (hresult : outcome.result ≠ .ok)
      (hrestarted : outcome.restarted = false) (hphase : otaPhase outcome.trace = .inactive image)
  | staged (hvalid : Valid image) (hreached : slave.Reached)
      (hread : ∀ version ∈ slave.read, version ≠ desiredFwVersion ∧ slaveSupportsActivate version = false)
      (hresult : outcome.result = .ok) (hrestarted : outcome.restarted = true)
      (hphase : otaPhase outcome.trace = .staged image)
  | activated (hvalid : Valid image) (hreached : slave.Reached) (version : FwVersion)
      (hread : slave.read = some version) (hother : version ≠ desiredFwVersion)
      (hsupports : slaveSupportsActivate version = true) (hresult : outcome.result = .ok)
      (hrestarted : outcome.restarted = true) (hphase : otaPhase outcome.trace = .active image)

theorem applyUpdate_ends (hvalid : Valid image) (hreached : slave.Reached) {ret : EspErr}
    (hret : ret = slave.answer reachedTrace .getFwVersion)
    (hother : slave.read ≠ some desiredFwVersion) (hphase : otaPhase trace = .idle)
    (hsends : SendsPrefixes image trace) :
    SendsPrefixes image (applyUpdate slave image ret trace).trace ∧
      BootEnd slave image (applyUpdate slave image ret trace) := by
  have hends := writeEmbeddedImageToSlave_ends slave hphase hsends
  unfold applyUpdate
  generalize writeEmbeddedImageToSlave slave image trace = sent at hends ⊢
  obtain ⟨err, written⟩ := sent
  obtain ⟨hsends, ⟨rfl, hstaged⟩ | ⟨herr, hover⟩⟩ := hends
  · dsimp only at hsends hstaged ⊢
    rw [if_neg (not_not.mpr rfl)]
    by_cases hactivate : ret = .ok ∧ slaveSupportsActivate slave.version = true
    · have hread : slave.read = some slave.version := if_pos (hret ▸ hactivate.1)
      have hactive : otaPhase (slave.exchange written .otaActivate) =
          if slave.answer written .otaActivate = .ok then .active image else .inactive image := by
        rw [otaPhase_exchange, hstaged]
        rfl
      have hsent : SendsPrefixes image (slave.exchange written .otaActivate) := by
        refine hsends.exchange fun bytes hbytes => ?_
        rw [hactive] at hbytes
        split at hbytes <;> cases hbytes
      have hversion : slave.version ≠ desiredFwVersion := by
        intro heq
        exact hother (hread.trans (congrArg some heq))
      rw [if_pos hactivate]
      by_cases hok : slave.answer written .otaActivate = .ok
      · rw [if_neg (not_not.mpr hok)]
        exact ⟨hsent, .activated hvalid hreached slave.version hread hversion hactivate.2 rfl rfl
          (hactive.trans (if_pos hok))⟩
      · rw [if_pos hok]
        exact ⟨hsent, .inactive hvalid hreached slave.version hread hversion hactivate.2 hok rfl
          (hactive.trans (if_neg hok))⟩
    · rw [if_neg hactivate]
      refine ⟨hsends, .staged hvalid hreached (fun version hversion => ?_) rfl rfl hstaged⟩
      have hread : slave.read = some version := hversion
      refine ⟨fun heq => hother (hread.trans (congrArg some heq)), ?_⟩
      unfold Slave.read at hread
      split at hread
      · next hok =>
        obtain rfl := Option.some.inj hread
        simpa [hret.trans hok] using hactivate
      · cases hread
  · dsimp only at hsends hover ⊢
    rw [if_pos herr]
    exact ⟨hsends, .failed hvalid hreached hother herr rfl hover⟩

/-- A call before the update. -/
theorem idle_exchange (slave : Slave)
    (hcall : call = .init ∨ call = .connectToSlave ∨ call = .getFwVersion)
    (hphase : otaPhase trace = .idle) (hsends : SendsPrefixes image trace) :
    otaPhase (slave.exchange trace call) = .idle ∧ SendsPrefixes image (slave.exchange trace call) := by
  have hidle : otaPhase (slave.exchange trace call) = .idle := by
    rw [otaPhase_exchange, hphase]
    rcases hcall with rfl | rfl | rfl <;> rfl
  exact ⟨hidle, hsends.exchange (by simp [hidle])⟩

theorem checkAndApply_ends (slave : Slave) (image : List UInt8) :
    SendsPrefixes image (checkAndApply slave image).trace ∧
      BootEnd slave image (checkAndApply slave image) := by
  obtain ⟨hinitial, hinitSends⟩ := idle_exchange slave (.inl rfl) rfl (.nil : SendsPrefixes image [])
  obtain ⟨hconnected, hconnectSends⟩ := idle_exchange slave (.inr (.inl rfl)) hinitial hinitSends
  obtain ⟨hversion, hversionSends⟩ := idle_exchange slave (.inr (.inr rfl)) hconnected hconnectSends
  unfold checkAndApply
  cases hparse : parseEmbeddedImage image with
  | error err =>
      have hinvalid : ¬Valid image := by simp [Valid, hparse, Except.isOk, Except.toBool]
      refine ⟨.nil, .unreached (fun h => hinvalid h.1) ?_ rfl rfl⟩
      exact parseEmbeddedImage_error hparse
  | ok parsed =>
      have hvalid : Valid image := by simp [Valid, hparse, Except.isOk, Except.toBool]
      dsimp only
      by_cases hinit : slave.answer [] .init = .ok
      · rw [if_neg (not_not.mpr hinit)]
        have hfirst : slave.exchange [] .init = [⟨.init, .ok⟩] := by simp [Slave.exchange, hinit]
        by_cases hconnect : slave.answer [⟨.init, .ok⟩] .connectToSlave = .ok
        · have hreached : slave.Reached := ⟨hinit, hconnect⟩
          have htrace : slave.exchange [⟨.init, .ok⟩] .connectToSlave = reachedTrace := by
            simp [Slave.exchange, hconnect, reachedTrace]
          rw [hfirst, htrace] at hversion hversionSends
          rw [hfirst, htrace, if_neg (not_not.mpr hconnect)]
          split
          · next hcurrent =>
            have hread : slave.read = some desiredFwVersion :=
              (if_pos hcurrent.1).trans (congrArg some (versionsEqual_iff.mp hcurrent.2))
            exact ⟨hversionSends, .upToDate hvalid hreached hread rfl rfl hversion⟩
          · next hother =>
            refine applyUpdate_ends hvalid hreached rfl (fun hread => hother ?_) hversion hversionSends
            unfold Slave.read at hread
            split at hread
            · next hok => exact ⟨hok, versionsEqual_iff.mpr (Option.some.inj hread)⟩
            · cases hread
        · rw [hfirst] at hconnected hconnectSends
          rw [hfirst, if_pos hconnect]
          exact ⟨hconnectSends, .unreached (fun h => hconnect h.2.2) hconnect rfl hconnected⟩
      · rw [if_pos hinit]
        exact ⟨hinitSends, .unreached (fun h => hinit h.2.1) hinit rfl hinitial⟩

/-- The calls that can be made without an update. -/
def HostedCall.Harmless (call : HostedCall) : Prop :=
  call = .init ∨ call = .connectToSlave ∨ call = .getFwVersion

/-- The module over the boots of the panel. -/
structure ModuleRun where
  /-- the version that the module runs -/
  installed : FwVersion
  /-- the boots at which no error is reported -/
  succeeded : ℕ := 0
  restarts : ℕ := 0
  /-- the restarts at boots in which the version has not been read -/
  unread : ℕ := 0
  deriving DecidableEq

/-- What the module answers at a boot. -/
abbrev Boot := List Exchange → HostedCall → EspErr

/-- What the update relies on: `starts installed trace` is the version that a module runs after the
exchanges of a boot at which it ran `installed`, and `reports image` the version that an image has. -/
structure StartsImage (reports : List UInt8 → FwVersion)
    (starts : FwVersion → List Exchange → FwVersion) : Prop where
  /-- The module starts its own firmware or an image that it has taken. -/
  own_or_taken : ∀ installed trace, starts installed trace = installed ∨
    ∃ bytes ∈ (otaPhase trace).taken, starts installed trace = reports bytes
  /-- What has been activated is started. -/
  activated : ∀ installed trace bytes, otaPhase trace = .active bytes →
    starts installed trace = reports bytes
  /-- A module without activation starts what it has taken. -/
  unaided : ∀ installed trace bytes, otaPhase trace = .staged bytes →
    slaveSupportsActivate installed = false → starts installed trace = reports bytes

variable {reports : List UInt8 → FwVersion} {starts : FwVersion → List Exchange → FwVersion}

/-- A module that has not taken an image keeps its firmware. -/
theorem StartsImage.own (hstarts : StartsImage reports starts) (installed : FwVersion)
    (htaken : (otaPhase trace).taken = none) : starts installed trace = installed := by
  rcases hstarts.own_or_taken installed trace with hown | ⟨bytes, hbytes, -⟩
  · exact hown
  · rw [htaken] at hbytes
    cases hbytes

theorem StartsImage.one_of (hstarts : StartsImage reports starts) (installed : FwVersion)
    (htaken : (otaPhase trace).taken = some image) :
    starts installed trace ∈ [installed, reports image] := by
  rcases hstarts.own_or_taken installed trace with hown | ⟨bytes, hbytes, himage⟩
  · simp [hown]
  · obtain rfl : image = bytes := by simpa [htaken] using hbytes
    simp [himage]

/-- A boot of the panel. -/
def ModuleRun.boot (starts : FwVersion → List Exchange → FwVersion) (image : List UInt8)
    (run : ModuleRun) (answers : Boot) : ModuleRun :=
  let slave : Slave := ⟨answers, run.installed⟩
  let outcome := checkAndApply slave image
  { installed := starts run.installed outcome.trace
    succeeded := if outcome.result = .ok then run.succeeded + 1 else run.succeeded
    restarts := if outcome.restarted then run.restarts + 1 else run.restarts
    unread := if outcome.restarted ∧ slave.read = none then run.unread + 1 else run.unread }

/-- The boots of a panel with this image and a module that runs `installed` at first. -/
def bootMachine (starts : FwVersion → List Exchange → FwVersion) (image : List UInt8)
    (installed : FwVersion) : Machine ModuleRun Boot where
  start run := run = { installed }
  step run answers := some (run.boot starts image answers)

/-- What a boot does: it fails, and may leave the image in the module; it finds the version that is
wanted; it is an update after another version has been read; or an update without having read one. -/
theorem ModuleRun.boot_cases (hstarts : StartsImage reports starts) (image : List UInt8)
    (run : ModuleRun) (answers : Boot) :
    (∃ installed ∈ [run.installed, reports image],
        run.boot starts image answers = { run with installed }) ∨
      run.installed = desiredFwVersion ∧
        run.boot starts image answers = { run with succeeded := run.succeeded + 1 } ∨
      run.installed ≠ desiredFwVersion ∧
        run.boot starts image answers =
          { run with
            installed := reports image
            succeeded := run.succeeded + 1
            restarts := run.restarts + 1 } ∨
      ∃ installed ∈ [run.installed, reports image],
        run.boot starts image answers =
          { installed
            succeeded := run.succeeded + 1
            restarts := run.restarts + 1
            unread := run.unread + 1 } := by
  have hread : ∀ version ∈ Slave.read ⟨answers, run.installed⟩, version = run.installed := by
    intro version hversion
    unfold Slave.read at hversion
    split at hversion
    · exact (Option.mem_some.mp hversion).symm
    · cases hversion
  unfold ModuleRun.boot
  cases (checkAndApply_ends ⟨answers, run.installed⟩ image).2 with
  | unreached hunreached hresult hrestarted hphase =>
      left
      have hown := hstarts.own run.installed (congrArg OtaPhase.taken hphase)
      exact ⟨run.installed, by simp, by simp [hresult, hrestarted, hown]⟩
  | upToDate hvalid hreached hversion hresult hrestarted hphase =>
      right; left
      have hown := hstarts.own run.installed (congrArg OtaPhase.taken hphase)
      exact ⟨(hread _ hversion).symm, by simp [hresult, hrestarted, hown]⟩
  | failed hvalid hreached hversion hresult hrestarted hphase =>
      left
      have hown := hstarts.own run.installed (congrArg OtaPhase.taken hphase)
      exact ⟨run.installed, by simp, by simp [hresult, hrestarted, hown]⟩
  | inactive hvalid hreached version hversion hother hsupports hresult hrestarted hphase =>
      left
      exact ⟨_, hstarts.one_of run.installed (congrArg OtaPhase.taken hphase), by
        simp [hresult, hrestarted]⟩
  | staged hvalid hreached hversion hresult hrestarted hphase =>
      cases hsome : Slave.read ⟨answers, run.installed⟩ with
      | none =>
          right; right; right
          exact ⟨_, hstarts.one_of run.installed (congrArg OtaPhase.taken hphase), by
            simp [hresult, hrestarted, hsome]⟩
      | some version =>
          right; right; left
          obtain rfl := hread version hsome
          obtain ⟨hother, hsupports⟩ := hversion _ hsome
          have himage := hstarts.unaided run.installed _ image hphase hsupports
          exact ⟨hother, by simp [hresult, hrestarted, hsome, himage]⟩
  | activated hvalid hreached version hversion hother hsupports hresult hrestarted hphase =>
      right; right; left
      obtain rfl := hread version hversion
      have himage := hstarts.activated run.installed _ image hphase
      exact ⟨hother, by simp [hresult, hrestarted, hversion, himage]⟩

/-- **Boot after boot.**  If the image reports the version that the panel wants, the panel restarts at
most once more than there are restarts without a version, and then the module runs that version.  If it
reports another one, each boot that reports no error restarts the panel, as nothing else compares the
image with the version that is wanted. -/
theorem boots_settle (hstarts : StartsImage reports starts) {installed : FwVersion} {run : ModuleRun}
    (hreached : (bootMachine starts image installed).Reachable run) :
    (reports image = desiredFwVersion →
        run.restarts ≤ run.unread + 1 ∧
          (run.unread < run.restarts → run.installed = desiredFwVersion)) ∧
      (reports image ≠ desiredFwVersion → installed ≠ desiredFwVersion →
        run.restarts = run.succeeded ∧ run.installed ≠ desiredFwVersion) := by
  refine Machine.Reachable.invariant (I := fun run => (reports image = desiredFwVersion →
    run.restarts ≤ run.unread + 1 ∧
      (run.unread < run.restarts → run.installed = desiredFwVersion)) ∧
    (reports image ≠ desiredFwVersion → installed ≠ desiredFwVersion →
      run.restarts = run.succeeded ∧ run.installed ≠ desiredFwVersion)) ?_ ?_ hreached
  · rintro run rfl
    exact ⟨fun _ => ⟨Nat.zero_le _, fun hlt => absurd hlt (Nat.lt_irrefl 0)⟩, fun _ h => ⟨rfl, h⟩⟩
  · rintro run answers next ⟨hsettles, hloops⟩ hstep
    obtain rfl := Option.some.inj hstep
    obtain ⟨version, hversion, hfailed⟩ | ⟨hcurrent, hsame⟩ | ⟨hother, hupdated⟩ |
      ⟨version, hversion, hupdated⟩ := run.boot_cases hstarts image answers
    · rw [hfailed]
      simp only [List.mem_cons, List.not_mem_nil, or_false] at hversion
      refine ⟨fun himage => ⟨(hsettles himage).1, fun hlt => ?_⟩,
        fun himage hfirst => ⟨(hloops himage hfirst).1, ?_⟩⟩
      · rcases hversion with rfl | rfl
        · exact (hsettles himage).2 hlt
        · exact himage
      · rcases hversion with rfl | rfl
        · exact (hloops himage hfirst).2
        · exact himage
    · rw [hsame]
      exact ⟨hsettles, fun himage hfirst => absurd hcurrent (hloops himage hfirst).2⟩
    · rw [hupdated]
      refine ⟨fun himage => ?_, fun himage hfirst => ⟨?_, himage⟩⟩
      · have hnone : ¬run.unread < run.restarts := fun hlt => hother ((hsettles himage).2 hlt)
        exact ⟨by dsimp only; omega, fun _ => himage⟩
      · exact congrArg (· + 1) (hloops himage hfirst).1
    · rw [hupdated]
      simp only [List.mem_cons, List.not_mem_nil, or_false] at hversion
      refine ⟨fun himage => ?_, fun himage hfirst => ⟨?_, ?_⟩⟩
      · obtain ⟨hbound, hinstalled⟩ := hsettles himage
        refine ⟨by dsimp only; omega, fun hlt => ?_⟩
        rcases hversion with rfl | rfl
        · exact hinstalled (by dsimp only at hlt; omega)
        · exact himage
      · exact congrArg (· + 1) (hloops himage hfirst).1
      · rcases hversion with rfl | rfl
        · exact (hloops himage hfirst).2
        · exact himage

/-- An image without code. -/
private def bareImage : List UInt8 :=
  imageHeaderMagic :: List.replicate 79 0 ++ ascii "network_adapter" ++ List.replicate 200 0

/-- A module that starts an image once it has been activated, or at once where it knows no activation. -/
private def startsActivated (reports : List UInt8 → FwVersion) (installed : FwVersion)
    (trace : List Exchange) : FwVersion :=
  match otaPhase trace with
  | .active bytes => reports bytes
  | .staged bytes => if slaveSupportsActivate installed then installed else reports bytes
  | .inactive _ | .idle | .receiving _ | .refused | .over | .broken => installed

private theorem startsActivated_startsImage (reports : List UInt8 → FwVersion) :
    StartsImage reports (startsActivated reports) where
  own_or_taken installed trace := by
    unfold startsActivated
    cases otaPhase trace with
    | active bytes => exact .inr ⟨bytes, rfl, rfl⟩
    | staged bytes =>
        dsimp only
        split
        · exact .inl rfl
        · exact .inr ⟨bytes, rfl, rfl⟩
    | _ => exact .inl rfl
  activated installed trace bytes hphase := by simp [startsActivated, hphase]
  unaided installed trace bytes hphase hsupports := by simp [startsActivated, hphase, hsupports]

/-- A module of version 2.5.0 that answers every call is updated once, or at each of three boots. -/
theorem boots_settle_old :
    (∃ run, (bootMachine (startsActivated fun _ => desiredFwVersion) bareImage ⟨2, 5, 0⟩).replay
        { installed := ⟨2, 5, 0⟩ } (List.replicate 3 fun _ _ => .ok) = some run ∧
      run.succeeded = 3 ∧ run.restarts ≤ run.unread + 1) ∧
    ∃ run, (bootMachine (startsActivated fun _ => ⟨2, 12, 0⟩) bareImage ⟨2, 5, 0⟩).replay
        { installed := ⟨2, 5, 0⟩ } (List.replicate 3 fun _ _ => .ok) = some run ∧
      run.succeeded = 3 ∧ run.restarts = run.succeeded := by
  have hsucceeded : ∀ reported ∈ [desiredFwVersion, ⟨2, 12, 0⟩],
      ((bootMachine (startsActivated fun _ => reported) bareImage ⟨2, 5, 0⟩).replay
        { installed := ⟨2, 5, 0⟩ } (List.replicate 3 fun _ _ => .ok)).map ModuleRun.succeeded =
          some 3 := by
    decide +kernel
  obtain ⟨once, honce, hboots⟩ := Option.map_eq_some_iff.mp (hsucceeded _ (.head _))
  obtain ⟨always, halways, hboots'⟩ := Option.map_eq_some_iff.mp (hsucceeded _ (.tail _ (.head _)))
  have hreached := Machine.reachable_of_replay rfl honce
  have hreached' := Machine.reachable_of_replay rfl halways
  have hsettle := boots_settle (startsActivated_startsImage fun _ => desiredFwVersion) hreached
  have hloop := boots_settle (startsActivated_startsImage fun _ => ⟨2, 12, 0⟩) hreached'
  exact ⟨⟨once, honce, hboots, (hsettle.1 rfl).1⟩,
    ⟨always, halways, hboots', (hloop.2 (by decide) (by decide)).1⟩⟩

end CrowPanel.Wifi
