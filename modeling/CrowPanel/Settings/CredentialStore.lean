import CrowPanel.DataModel.Types
import CrowPanel.Library.CText

/-!
# The store of the Wi-Fi credentials

The blobs that `credentials.c` keeps in the NVS namespace `wifi_cfg`.  Every call of NVS may fail, and
what has been written is in the store only once it is committed.

A save should be all or nothing: what it has reported to store is what a load gives, and a save that
fails is not noticed by a load.  The two blobs are written one after the other, though, and neither the
erasure of the password nor the commit is looked at.  `Harmless` says when this does no harm.
-/

namespace CrowPanel.Settings

open Library

/-- The blobs of the namespace, each a text with its NUL. -/
structure CredentialBlobs where
  wifiSsid : Option Text := none
  wifiPass : Option Text := none
  deriving DecidableEq

/-- What the calls of NVS return during a save, those that are not made as well. -/
structure SaveCalls where
  opened : EspErr := .ok
  setSsid : EspErr := .ok
  setPass : EspErr := .ok
  erasePass : EspErr := .ok
  committed : EspErr := .ok
  deriving DecidableEq

/-- `save_wifi_credentials_to_nvs` -/
def saveWifiCredentialsToNvs (calls : SaveCalls) (blobs : CredentialBlobs) (ssid password : Text) :
    EspErr × CredentialBlobs :=
  if calls.opened ≠ .ok then (.fail, blobs)
  else
    let (finalErr, written) :=
      if ssid = [] then (EspErr.invalidArg, blobs)
      else if calls.setSsid ≠ .ok then (calls.setSsid, blobs)
      else (EspErr.ok, { blobs with wifiSsid := some ssid })
    let (finalErr, written) :=
      if password = [] then
        (finalErr, if calls.erasePass = .ok then { written with wifiPass := none } else written)
      else if calls.setPass ≠ .ok then (calls.setPass, written)
      else (finalErr, { written with wifiPass := some password })
    (finalErr, if calls.committed = .ok then written else blobs)

/-- The pair is in the store; without a password there is no blob for it. -/
def CredentialBlobs.Hold (blobs : CredentialBlobs) (ssid password : Text) : Prop :=
  blobs.wifiSsid = some ssid ∧ blobs.wifiPass = if password = [] then none else some password

instance (blobs : CredentialBlobs) (ssid password : Text) : Decidable (blobs.Hold ssid password) :=
  inferInstanceAs (Decidable (_ ∧ _))

/-- When no call fails, a save of a pair with an SSID stores this pair and no other. -/
theorem saveWifiCredentialsToNvs_hold {ssid password : Text} (hssid : ssid ≠ [])
    (blobs : CredentialBlobs) (otherSsid otherPassword : Text) :
    (saveWifiCredentialsToNvs {} blobs ssid password).2.Hold otherSsid otherPassword ↔
      ssid = otherSsid ∧ password = otherPassword := by
  unfold saveWifiCredentialsToNvs CredentialBlobs.Hold
  by_cases hpassword : password = [] <;> by_cases hother : otherPassword = []
  · simp [hssid, hpassword, hother]
  · simp [hssid, hpassword, hother, eq_comm]
  · simp [hssid, hpassword, hother]
  · simp [hssid, hpassword, hother]

/-! ## Loading -/

/-- What the calls of NVS return during a load.  A blob that is absent is not found whatever stands
here. -/
structure LoadCalls where
  opened : EspErr := .ok
  sizeSsid : EspErr := .ok
  readSsid : EspErr := .ok
  sizePass : EspErr := .ok
  readPass : EspErr := .ok
  deriving DecidableEq

/-- `nvs_get_blob` without a buffer: the result and the size of the blob. -/
def blobSize (blob : Option Text) (returned : EspErr) : EspErr × ℕ :=
  match blob with
  | none => (.notFound, 0)
  | some text => if returned = .ok then (.ok, text.length + 1) else (returned, 0)

/-- `load_wifi_credentials_from_nvs` into buffers of the sizes `ssidLen` and `passwordLen`, which hold
`ssid` and `password` before. -/
def loadWifiCredentialsFromNvs (calls : LoadCalls) (blobs : CredentialBlobs) (ssidLen passwordLen : ℕ)
    (ssid password : Text) : EspErr × Text × Text :=
  if calls.opened ≠ .ok then (.fail, ssid, password)
  else
    let (err, requiredSize) := blobSize blobs.wifiSsid calls.sizeSsid
    let (ssid, ssidFound) :=
      if err = .ok ∧ 0 < requiredSize ∧ requiredSize ≤ ssidLen then
        if calls.readSsid = .ok then (cString (blobs.wifiSsid.getD []), true) else (ssid, false)
      else if err = .notFound then ([], false)
      else if ssidLen < requiredSize then ([], false)
      else (ssid, false)
    let (err, requiredSize) := blobSize blobs.wifiPass calls.sizePass
    let password :=
      if err = .ok ∧ 0 < requiredSize ∧ requiredSize ≤ passwordLen then
        if calls.readPass = .ok then cString (blobs.wifiPass.getD []) else []
      else []
    (if ssidFound then .ok else .fail, ssid, password)

namespace CredentialBlobs

/-- The SSID that a load gives; there is none when the blob is absent or too long. -/
def ssid (blobs : CredentialBlobs) : Option Text :=
  (blobs.wifiSsid.filter fun text => text.length ≤ 32).map cString

/-- The password that a load gives. -/
def password (blobs : CredentialBlobs) : Text :=
  ((blobs.wifiPass.filter fun text => text.length ≤ 64).map cString).getD []

end CredentialBlobs

theorem blobSize_some (text : Text) : blobSize (some text) .ok = (.ok, text.length + 1) := rfl

/-- What a load into the buffers of the panel gives when no call fails. -/
theorem loadWifiCredentialsFromNvs_eq (blobs : CredentialBlobs) (ssidBuffer passwordBuffer : Text) :
    loadWifiCredentialsFromNvs {} blobs 33 65 ssidBuffer passwordBuffer =
      (if blobs.ssid.isSome then .ok else .fail, blobs.ssid.getD [], blobs.password) := by
  obtain ⟨wifiSsid, wifiPass⟩ := blobs
  have hpassword : (if (blobSize wifiPass .ok).1 = .ok ∧ 0 < (blobSize wifiPass .ok).2 ∧
      (blobSize wifiPass .ok).2 ≤ 65 then cString (wifiPass.getD []) else []) =
        CredentialBlobs.password ⟨wifiSsid, wifiPass⟩ := by
    cases wifiPass with
    | none => rfl
    | some text =>
        rw [CredentialBlobs.password, Option.filter_some, blobSize_some]
        by_cases hfits : text.length ≤ 64
        · rw [if_pos ⟨rfl, Nat.succ_pos _, Nat.succ_le_succ hfits⟩,
            if_pos (decide_eq_true hfits)]
          rfl
        · rw [if_neg fun h => hfits (Nat.le_of_succ_le_succ h.2.2),
            if_neg (mt of_decide_eq_true hfits)]
          rfl
  have hssid : (if (blobSize wifiSsid .ok).1 = .ok ∧ 0 < (blobSize wifiSsid .ok).2 ∧
      (blobSize wifiSsid .ok).2 ≤ 33 then (cString (wifiSsid.getD []), true)
      else if (blobSize wifiSsid .ok).1 = .notFound then ([], false)
      else if 33 < (blobSize wifiSsid .ok).2 then ([], false) else (ssidBuffer, false)) =
        ((CredentialBlobs.ssid ⟨wifiSsid, wifiPass⟩).getD [],
          (CredentialBlobs.ssid ⟨wifiSsid, wifiPass⟩).isSome) := by
    cases wifiSsid with
    | none => rfl
    | some text =>
        rw [CredentialBlobs.ssid, Option.filter_some, blobSize_some]
        by_cases hfits : text.length ≤ 32
        · rw [if_pos ⟨rfl, Nat.succ_pos _, Nat.succ_le_succ hfits⟩,
            if_pos (decide_eq_true hfits)]
          rfl
        · have hlong : 33 < text.length + 1 := by omega
          rw [if_neg fun h => hfits (Nat.le_of_succ_le_succ h.2.2), if_neg nofun, if_pos hlong,
            if_neg (mt of_decide_eq_true hfits)]
          rfl
  simp only [loadWifiCredentialsFromNvs, ne_eq, not_true_eq_false, if_false, if_true, hpassword,
    hssid]

/-! ## All or nothing -/

namespace SaveCalls

/-- The SSID is written. -/
def WritesSsid (calls : SaveCalls) (ssid : Text) : Prop :=
  ssid ≠ [] ∧ calls.setSsid = .ok

/-- The password is written or, when it is empty, erased. -/
def WritesPass (calls : SaveCalls) (password : Text) : Prop :=
  (password = [] → calls.erasePass = .ok) ∧ (password ≠ [] → calls.setPass = .ok)

/-- Nothing that a save looks at fails. -/
def Succeeds (calls : SaveCalls) (ssid password : Text) : Prop :=
  calls.WritesSsid ssid ∧ (password ≠ [] → calls.setPass = .ok)

instance (calls : SaveCalls) (ssid : Text) : Decidable (calls.WritesSsid ssid) :=
  inferInstanceAs (Decidable (_ ∧ _))

instance (calls : SaveCalls) (password : Text) : Decidable (calls.WritesPass password) :=
  inferInstanceAs (Decidable ((_ → _) ∧ (_ → _)))

instance (calls : SaveCalls) (ssid password : Text) : Decidable (calls.Succeeds ssid password) :=
  inferInstanceAs (Decidable (_ ∧ _))

end SaveCalls

/-- What a save writes; it is in the store when the commit does not fail. -/
def CredentialBlobs.written (blobs : CredentialBlobs) (calls : SaveCalls) (ssid password : Text) :
    CredentialBlobs where
  wifiSsid := if calls.WritesSsid ssid then some ssid else blobs.wifiSsid
  wifiPass :=
    if calls.WritesPass password then (if password = [] then none else some password)
    else blobs.wifiPass

/-- After a save that reports success a load gives the saved pair, and after one that reports an error
it gives what it gave before. -/
def SavesWhole (calls : SaveCalls) (blobs : CredentialBlobs) (ssid password : Text) : Prop :=
  ∀ ssidBuffer passwordBuffer,
    let load := fun blobs => loadWifiCredentialsFromNvs {} blobs 33 65 ssidBuffer passwordBuffer
    let (err, saved) := saveWifiCredentialsToNvs calls blobs ssid password
    if err = .ok then load saved = (.ok, ssid, password) else load saved = load blobs

/-- The calls that fail do no harm to an opened store. -/
structure Harmless (calls : SaveCalls) (blobs : CredentialBlobs) (ssid password : Text) : Prop where
  /-- When the commit fails under a save that succeeds, the pair is in the store anyway. -/
  committed : calls.committed ≠ .ok → calls.Succeeds ssid password →
    blobs.ssid = some ssid ∧ blobs.password = password
  /-- A save without a password erases the old one, unless there is none to be loaded. -/
  erased : calls.committed = .ok → calls.Succeeds ssid password → password = [] →
    calls.erasePass = .ok ∨ blobs.password = []
  /-- A save that does not succeed writes nothing new. -/
  kept : calls.committed = .ok → ¬ calls.Succeeds ssid password →
    (calls.WritesSsid ssid → blobs.ssid = some ssid) ∧
      (calls.WritesPass password → blobs.password = password)

section

variable {calls : SaveCalls} {blobs saved : CredentialBlobs} {ssid password : Text}

/-- What a save does to an opened store. -/
theorem saveWifiCredentialsToNvs_opened (hopened : calls.opened = .ok) :
    ((saveWifiCredentialsToNvs calls blobs ssid password).1 = .ok ↔ calls.Succeeds ssid password) ∧
      (saveWifiCredentialsToNvs calls blobs ssid password).2 =
        if calls.committed = .ok then blobs.written calls ssid password else blobs := by
  unfold saveWifiCredentialsToNvs CredentialBlobs.written SaveCalls.Succeeds SaveCalls.WritesSsid
    SaveCalls.WritesPass
  by_cases hssid : ssid = [] <;> by_cases hset : calls.setSsid = .ok <;>
    by_cases hpassword : password = [] <;> by_cases hpass : calls.setPass = .ok <;>
      by_cases herase : calls.erasePass = .ok <;>
        simp [hopened, hssid, hset, hpassword, hpass, herase]

theorem saveWifiCredentialsToNvs_closed (hclosed : calls.opened ≠ .ok) :
    saveWifiCredentialsToNvs calls blobs ssid password = (.fail, blobs) :=
  if_pos hclosed

/-- A load finds the pair. -/
theorem loadWifiCredentialsFromNvs_eq_iff {ssidBuffer passwordBuffer : Text} :
    loadWifiCredentialsFromNvs {} blobs 33 65 ssidBuffer passwordBuffer = (.ok, ssid, password) ↔
      blobs.ssid = some ssid ∧ blobs.password = password := by
  rw [loadWifiCredentialsFromNvs_eq]
  cases blobs.ssid with
  | none => simp
  | some found => simp

/-- A load tells no difference between two stores. -/
theorem loadWifiCredentialsFromNvs_congr_iff {ssidBuffer passwordBuffer : Text} :
    loadWifiCredentialsFromNvs {} saved 33 65 ssidBuffer passwordBuffer =
        loadWifiCredentialsFromNvs {} blobs 33 65 ssidBuffer passwordBuffer ↔
      saved.ssid = blobs.ssid ∧ saved.password = blobs.password := by
  rw [loadWifiCredentialsFromNvs_eq, loadWifiCredentialsFromNvs_eq]
  cases saved.ssid <;> cases blobs.ssid <;> simp

theorem written_ssid (hnul : 0 ∉ ssid) (hlength : ssid.length ≤ 32) :
    (blobs.written calls ssid password).ssid =
      if calls.WritesSsid ssid then some ssid else blobs.ssid := by
  unfold CredentialBlobs.ssid CredentialBlobs.written
  dsimp only
  split
  · rw [Option.filter_some, if_pos (decide_eq_true hlength), Option.map_some, cString_of_noNul hnul]
  · rfl

theorem written_password (hnul : 0 ∉ password) (hlength : password.length ≤ 64) :
    (blobs.written calls ssid password).password =
      if calls.WritesPass password then password else blobs.password := by
  unfold CredentialBlobs.password CredentialBlobs.written
  dsimp only
  split
  · by_cases hempty : password = []
    · rw [if_pos hempty, hempty]
      rfl
    · rw [if_neg hempty, Option.filter_some, if_pos (decide_eq_true hlength), Option.map_some,
        cString_of_noNul hnul, Option.getD_some]
  · rfl

/-- What a save of an opened store should have done, in terms of what a load gives. -/
theorem savesWhole_opened (hopened : calls.opened = .ok)
    (hsaved : (if calls.committed = .ok then blobs.written calls ssid password else blobs) = saved) :
    SavesWhole calls blobs ssid password ↔
      if calls.Succeeds ssid password then saved.ssid = some ssid ∧ saved.password = password
      else saved.ssid = blobs.ssid ∧ saved.password = blobs.password := by
  obtain ⟨hreported, hstored⟩ :=
    @saveWifiCredentialsToNvs_opened calls blobs ssid password hopened
  unfold SavesWhole
  simp only [hreported, hstored, hsaved]
  split
  · simp only [loadWifiCredentialsFromNvs_eq_iff, forall_const]
  · simp only [loadWifiCredentialsFromNvs_congr_iff, forall_const]

/-! ### The calls that fail, case by case -/

theorem harmless_iff_of_lost (hlost : calls.committed ≠ .ok) :
    Harmless calls blobs ssid password ↔
      (calls.Succeeds ssid password → blobs.ssid = some ssid ∧ blobs.password = password) := by
  constructor
  · intro hharmless hsucceeds
    exact hharmless.committed hlost hsucceeds
  · intro hstored
    exact ⟨fun _ hsucceeds => hstored hsucceeds, fun hcommitted => absurd hcommitted hlost,
      fun hcommitted => absurd hcommitted hlost⟩

theorem harmless_iff_of_succeeds (hcommitted : calls.committed = .ok)
    (hsucceeds : calls.Succeeds ssid password) :
    Harmless calls blobs ssid password ↔
      (password = [] → calls.erasePass = .ok ∨ blobs.password = []) := by
  constructor
  · intro hharmless hempty
    exact hharmless.erased hcommitted hsucceeds hempty
  · intro herased
    exact ⟨fun hlost => absurd hcommitted hlost, fun _ _ hempty => herased hempty,
      fun _ hfails => absurd hsucceeds hfails⟩

theorem harmless_iff_of_fails (hcommitted : calls.committed = .ok)
    (hfails : ¬ calls.Succeeds ssid password) :
    Harmless calls blobs ssid password ↔
      (calls.WritesSsid ssid → blobs.ssid = some ssid) ∧
        (calls.WritesPass password → blobs.password = password) := by
  constructor
  · intro hharmless
    exact hharmless.kept hcommitted hfails
  · intro hkept
    exact ⟨fun hlost => absurd hcommitted hlost, fun _ hsucceeds => absurd hsucceeds hfails,
      fun _ _ => hkept⟩

/-- After a save that succeeds, a load gives the password unless an old one was not erased. -/
theorem written_password_iff_of_succeeds (hsucceeds : calls.Succeeds ssid password) :
    (if calls.WritesPass password then password else blobs.password) = password ↔
      (password = [] → calls.erasePass = .ok ∨ blobs.password = []) := by
  by_cases hempty : password = []
  · have hwrites : calls.WritesPass password ↔ calls.erasePass = .ok :=
      ⟨fun hwrites => hwrites.1 hempty, fun herased => ⟨fun _ => herased, (absurd hempty ·)⟩⟩
    rw [if_congr hwrites rfl rfl]
    by_cases herased : calls.erasePass = .ok
    · simp [herased]
    · simp [herased, hempty]
  · have hwrites : calls.WritesPass password := ⟨(absurd · hempty), hsucceeds.2⟩
    simp [hwrites, hempty]

/-- **Saving credentials.**  A save is all or nothing exactly if the store is not opened or the calls
of NVS that fail do no harm. -/
theorem savesWhole_iff_harmless (hnulSsid : 0 ∉ ssid) (hssid : ssid.length ≤ 32)
    (hnulPassword : 0 ∉ password) (hpassword : password.length ≤ 64) :
    SavesWhole calls blobs ssid password ↔
      (calls.opened = .ok → Harmless calls blobs ssid password) := by
  by_cases hopened : calls.opened = .ok
  swap
  · simp [SavesWhole, saveWifiCredentialsToNvs_closed hopened, hopened]
  simp only [hopened, forall_const]
  rw [savesWhole_opened hopened rfl]
  by_cases hcommitted : calls.committed = .ok
  · rw [if_pos hcommitted, written_ssid hnulSsid hssid, written_password hnulPassword hpassword]
    by_cases hsucceeds : calls.Succeeds ssid password
    · rw [if_pos hsucceeds, if_pos hsucceeds.1, harmless_iff_of_succeeds hcommitted hsucceeds,
        written_password_iff_of_succeeds hsucceeds]
      exact and_iff_right rfl
    · -- nothing that was written may be news
      rw [if_neg hsucceeds, harmless_iff_of_fails hcommitted hsucceeds, ite_eq_right_iff,
        ite_eq_right_iff]
      exact and_congr (imp_congr_right fun _ => eq_comm) (imp_congr_right fun _ => eq_comm)
  · rw [if_neg hcommitted, harmless_iff_of_lost hcommitted]
    split
    · next hsucceeds => exact (imp_iff_right hsucceeds).symm
    · next hfails => exact iff_of_true ⟨rfl, rfl⟩ fun hsucceeds => absurd hsucceeds hfails

/-- A save to an empty store of which nothing fails. -/
theorem savesWhole_plant : SavesWhole {} {} (ascii "plant") (ascii "secret12") :=
  (savesWhole_iff_harmless (by decide) (by decide) (by decide) (by decide)).mpr fun _ =>
    ⟨fun h => absurd rfl h, fun _ _ h => absurd h (by decide), fun _ h => absurd (by decide) h⟩

/-- A save whose password is not written leaves the old password beside the new SSID. -/
theorem not_savesWhole_office :
    ¬ ∀ (calls : SaveCalls) (blobs : CredentialBlobs) (ssid password : Text), 0 ∉ ssid →
      ssid.length ≤ 32 → 0 ∉ password → password.length ≤ 64 →
        SavesWhole calls blobs ssid password := by
  intro hclaim
  have hwhole := hclaim { setPass := .noMem }
    { wifiSsid := some (ascii "plant"), wifiPass := some (ascii "secret12") } (ascii "office")
    (ascii "another1") (by decide) (by decide) (by decide) (by decide) [] []
  exact absurd hwhole (by decide)

end

end CrowPanel.Settings
