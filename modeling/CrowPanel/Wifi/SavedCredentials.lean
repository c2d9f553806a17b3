import CrowPanel.Wifi.Saving

/-!
# Saved credentials

A save hands the pair in `network_ssid` and `network_password` to `save_wifi_credentials_to_nvs`.  While
the station is connected this is meant to be the pair it has associated with.  Three things come
between: a selection made while connected overwrites the SSID, an open network leaves the password of
the previous one in place, and `save_state_timer_cb` reads the two buffers one after the other without
the mutex.  `PairKept` excludes these, and then nothing is saved that was not associated with: a
callback takes the SSID of a pair, and the password that it takes is still the one that goes with it.
-/

namespace CrowPanel.Wifi

open Library

namespace SavingStation

/-- What a callback finds in the buffers goes together: it reads the SSID of a connected station, or of
the network of its first section, and the password has not changed since it has read the SSID. -/
def PairFound (mgr : WifiMgr) (callback : SaveCallback) : SaveStage → Prop
  | .saveSsid => mgr.connected = true ∨
      mgr.networkSsid = callback.taken.networkSsid ∧
        mgr.networkPassword = callback.taken.networkPassword
  | .savePassword _ => mgr.networkPassword.text = callback.passwordThen
  | .saveEnabled | .testSsid | .finish => True

instance (mgr : WifiMgr) (callback : SaveCallback) :
    ∀ stage, Decidable (PairFound mgr callback stage)
  | .saveSsid => inferInstanceAs (Decidable (_ ∨ _ ∧ _))
  | .savePassword _ => inferInstanceAs (Decidable (_ = _))
  | .saveEnabled | .testSsid | .finish => inferInstanceAs (Decidable True)

/-- The state before a step that keeps the two buffers a pair. -/
def PairKept (store : SavingStation) : SaveEvent → Prop
  -- the password is copied whole, or it is the one in the buffer anyway
  | .associated _ password readable _ =>
      readable = true ∧ password.text ≠ [] ∧ password.text.length < 64 ∨
        store.mgr.networkPassword.text = password.text
  | .station event => ∀ ssid ∈ event.selected, store.mgr.connected = true →
      CharArray.ofText 33 ssid = store.mgr.networkSsid
  | .callbackStep => ∀ callback ∈ store.callback, PairFound store.mgr callback callback.stage
  | .schedule | .timerExpiry | .timerCallback | .force | .forcedStep _ => True

instance (store : SavingStation) : ∀ event, Decidable (store.PairKept event)
  | .associated _ _ _ _ => inferInstanceAs (Decidable (_ ∨ _))
  | .station event => inferInstanceAs (Decidable (∀ ssid ∈ event.selected, _ → _))
  | .callbackStep => inferInstanceAs (Decidable (∀ callback ∈ store.callback, PairFound _ _ _))
  | .schedule | .timerExpiry | .timerCallback | .force | .forcedStep _ =>
      inferInstanceAs (Decidable True)

/-- A callback saves a pair of an association: the network of its first section, and what it has read
since. -/
structure SaveCallback.Real (callback : SaveCallback) (associated : List (Text × Text)) : Prop where
  taken : callback.wifiWasConnected = true →
    (callback.taken.networkSsid.text, callback.taken.networkPassword.text) ∈ associated
  begun : callback.stage = .saveSsid → callback.wifiWasConnected = true
  read : ∀ ssid, callback.stage = .savePassword ssid → (ssid, callback.passwordThen) ∈ associated

/-- What a connected station holds, what a save is about to write and what has been saved are pairs of
associations. -/
structure RealPairs (store : SavingStation) : Prop where
  current : store.mgr.connected = true →
    (store.mgr.networkSsid.text, store.mgr.networkPassword.text) ∈ store.associated
  copied : ∀ forced ∈ store.forced, forced.wifiWasConnected = true →
    (forced.ssidCopy.text, forced.passCopy.text) ∈ store.associated
  callback : ∀ callback ∈ store.callback, SaveCallback.Real callback store.associated
  saved : ∀ pair ∈ store.saved, pair ∈ store.associated

variable {store next : SavingStation} {event : SaveEvent}

/-- Under its condition, an association leaves the password of the driver's configuration. -/
theorem passwordKept_text {mgr : WifiMgr} {password : CharArray 65} {readable : Bool}
    (hkept : readable = true ∧ password.text ≠ [] ∧ password.text.length < 64 ∨
      mgr.networkPassword.text = password.text) :
    (mgr.passwordKept (if readable then some password.text else none)).text = password.text := by
  rcases hkept with ⟨rfl, hnonempty, hfits⟩ | hsame
  · simp [WifiMgr.passwordKept, hnonempty, CharArray.ofText_text password.noNul hfits]
  cases readable with
  | false => exact hsame
  | true =>
      simp only [if_true, WifiMgr.passwordKept]
      split
      · exact hsame
      · rw [← hsame, CharArray.ofText_self]

/-- A handler leaves a connected station with a pair it has associated with. -/
theorem stationStep_realPairs (hreal : RealPairs store) (hkept : store.PairKept event)
    (hstep : store.stationStep event = some next) : RealPairs next := by
  obtain ⟨stationEvent, station, hevent, -, hkind, rfl⟩ := stationStep_spec hstep
  have hgrows {pair : Text × Text} (hpair : pair ∈ store.associated) :
      pair ∈ event.association.toList ++ store.associated := List.mem_append_right _ hpair
  refine ⟨fun hconnected => ?_, fun forced hforced hwas => ?_, fun callback hcallback => ?_,
    fun pair hpair => ?_⟩
  · change station.mgr.connected = true at hconnected
    change (station.mgr.networkSsid.text, station.mgr.networkPassword.text) ∈ _
    cases hkind with
    | scheduled changed hafter _ hnetwork =>
        rw [hafter, WifiMgr.scheduleStateSave_connected] at hconnected
        obtain ⟨hwas, hssid, hpassword⟩ := hnetwork hconnected
        rw [hafter, WifiMgr.scheduleStateSave_networkSsid, WifiMgr.scheduleStateSave_networkPassword,
          hssid, hpassword]
        exact hgrows (hreal.current hwas)
    | associated changed hafter _ _ hssid hpassword =>
        obtain ⟨ssid, password, readable, rfl, rfl, rfl⟩ := stationEvent_staConnected hevent
        have hpair : changed.networkPassword.text = password.text :=
          hpassword ▸ passwordKept_text hkept
        simp [hafter, hssid, hpair, SaveEvent.association]
    | selected ssid hafter =>
        obtain rfl := stationEvent_setNetworkRequest hevent
        rw [hafter] at hconnected
        have hsame := hkept ssid rfl hconnected
        rw [hafter, hsame]
        exact hgrows (hreal.current hconnected)
    | quiet _ hstate =>
        have hstate := hstate hconnected
        simp only [WifiMgr.wifiState, WifiState.mk.injEq] at hstate
        obtain ⟨-, hwas, hssid, hpassword⟩ := hstate
        rw [hssid, hpassword]
        exact hgrows (hreal.current (hwas ▸ hconnected))
  · exact hgrows (hreal.copied forced hforced hwas)
  · obtain ⟨htaken, hbegun, hread⟩ := hreal.callback callback hcallback
    exact ⟨fun hwas => hgrows (htaken hwas), hbegun, fun ssid hstage => hgrows (hread ssid hstage)⟩
  · exact hgrows (hreal.saved pair hpair)

/-- The callback saves the pair that it has found in the buffers. -/
theorem callbackStep_realPairs (hreal : RealPairs store) (hkept : store.PairKept .callbackStep)
    {callback : SaveCallback} (hcallback : store.callback = some callback) :
    RealPairs (store.callbackStep callback) := by
  obtain ⟨htaken, hbegun, hread⟩ := hreal.callback callback hcallback
  have hfinds := hkept callback hcallback
  cases hstage : callback.stage with
  | saveEnabled =>
      simp only [callbackStep, hstage]
      refine ⟨hreal.current, hreal.copied, ?_, hreal.saved⟩
      rintro _ ⟨⟩
      exact ⟨htaken, by simp, by simp⟩
  | testSsid =>
      simp only [callbackStep, hstage]
      refine ⟨hreal.current, hreal.copied, ?_, hreal.saved⟩
      rintro _ ⟨⟩
      refine ⟨htaken, fun hnext => ?_, fun ssid hnext => ?_⟩
      · dsimp only at hnext ⊢
        split at hnext
        · next hfound => exact (Bool.and_eq_true_iff.mp hfound).1
        · cases hnext
      · dsimp only at hnext
        split at hnext <;> cases hnext
  | saveSsid =>
      simp only [callbackStep, hstage]
      refine ⟨hreal.current, hreal.copied, ?_, hreal.saved⟩
      rintro _ ⟨⟩
      refine ⟨htaken, by simp, fun ssid hnext => ?_⟩
      obtain rfl := SaveStage.savePassword.inj hnext
      simp only [PairFound, hstage] at hfinds
      rcases hfinds with hconnected | ⟨hssid, hpassword⟩
      · exact hreal.current hconnected
      · -- the network of the first section is still there
        rw [hssid, hpassword]
        exact htaken (hbegun hstage)
  | savePassword ssid =>
      simp only [PairFound, hstage] at hfinds
      simp only [callbackStep, hstage]
      refine ⟨hreal.current, hreal.copied, ?_, fun pair hpair => ?_⟩
      · rintro _ ⟨⟩
        exact ⟨htaken, by simp, by simp⟩
      · rcases List.mem_cons.mp hpair with rfl | hbefore
        · rw [hfinds]
          exact hread ssid hstage
        · exact hreal.saved pair hbefore
  | finish =>
      simp only [callbackStep, hstage]
      exact ⟨hreal.current, hreal.copied, by simp, hreal.saved⟩

theorem forcedStep_realPairs (hreal : RealPairs store) {place : ℕ} {forced : ForcedSave}
    (hplace : store.forced[place]? = some forced) : RealPairs (store.forcedStep place forced) := by
  have hforced : forced ∈ store.forced := List.mem_of_getElem? hplace
  have hrest {other : ForcedSave} (hother : other ∈ store.forced.eraseIdx place)
      (hwas : other.wifiWasConnected = true) :
      (other.ssidCopy.text, other.passCopy.text) ∈ store.associated :=
    hreal.copied other (List.mem_of_mem_eraseIdx hother) hwas
  simp only [forcedStep]
  split
  · refine ⟨hreal.current, fun other hother hwas => ?_, hreal.callback, hreal.saved⟩
    rcases List.mem_or_eq_of_mem_set hother with hbefore | rfl
    · exact hreal.copied other hbefore hwas
    · exact hreal.copied forced hforced hwas
  split
  · rename_i hfound
    refine ⟨hreal.current, fun _ hother hwas => hrest hother hwas, hreal.callback,
      fun pair hpair => ?_⟩
    rcases List.mem_cons.mp hpair with rfl | hbefore
    · exact hreal.copied forced hforced (by simp at hfound; exact hfound.1)
    · exact hreal.saved pair hbefore
  · exact ⟨hreal.current, fun _ hother hwas => hrest hother hwas, hreal.callback, hreal.saved⟩

theorem step_realPairs (hreal : RealPairs store) (hkept : store.PairKept event)
    (hstep : store.step event = some next) : RealPairs next := by
  cases event with
  | station | associated => exact stationStep_realPairs hreal hkept hstep
  | schedule =>
      obtain rfl := Option.some.inj hstep
      refine ⟨?_, hreal.copied, hreal.callback, hreal.saved⟩
      simpa [withMgr, mgr] using hreal.current
  | timerExpiry =>
      obtain ⟨saveTimer, -, rfl⟩ := timerExpiry_step hstep
      exact ⟨hreal.current, hreal.copied, hreal.callback, hreal.saved⟩
  | timerCallback =>
      obtain ⟨saveTimer, -, -, rfl⟩ := timerCallback_step hstep
      simp only [WifiMgr.saveSection]
      split_ifs
      · exact ⟨hreal.current, hreal.copied, by simp, hreal.saved⟩
      · refine ⟨hreal.current, hreal.copied, ?_, hreal.saved⟩
        rintro _ ⟨⟩
        exact ⟨hreal.current, by simp, by simp⟩
      · exact ⟨hreal.current, hreal.copied, by simp, hreal.saved⟩
  | callbackStep =>
      obtain ⟨callback, hcallback, rfl⟩ := Option.map_eq_some_iff.mp hstep
      exact callbackStep_realPairs hreal hkept hcallback
  | force =>
      obtain rfl := Option.some.inj hstep
      refine ⟨hreal.current, fun forced hforced hwas => ?_, hreal.callback, hreal.saved⟩
      rcases List.mem_append.mp hforced with hbefore | hnew
      · exact hreal.copied forced hbefore hwas
      · obtain rfl := List.mem_singleton.mp hnew
        obtain ⟨hssid, hpassword⟩ := WifiMgr.forceSection_copied store.mgr hwas
        rw [hssid, hpassword]
        exact hreal.current hwas
  | forcedStep place =>
      obtain ⟨forced, hplace, rfl⟩ := Option.map_eq_some_iff.mp hstep
      exact forcedStep_realPairs hreal hplace

/-- **Saved credentials.**  In a run that keeps the two buffers a pair, only pairs of associations are
saved. -/
theorem saved_associated (hreached : machine.ReachedBy PairKept store) :
    ∀ pair ∈ store.saved, pair ∈ store.associated := by
  have hreal : RealPairs store := by
    refine hreached.invariant ?_ fun _ _ _ _ hreal hkept hstep => step_realPairs hreal hkept hstep
    rintro state ⟨wasEnabled, saved, nvs, rfl⟩
    constructor
    · simp only [mgr, WifiMgr.loadState]
      split <;> simp
    · simp
    · simp
    · simp
  exact hreal.saved

/-- The station connects, and its state is saved in both ways. -/
def plantRun : List SaveEvent :=
  .station (.loop (.staStart {})) :: connecting (ascii "plant") (ascii "secret-key") ++ timerSave ++
    [.force, .forcedStep 0, .forcedStep 0]

theorem saved_associated_plant :
    ∃ store, machine.replay fresh plantRun = some store ∧ store.saved.length = 2 ∧
      ∀ pair ∈ store.saved, pair ∈ store.associated := by
  have hreplay : machine.replay fresh plantRun =
      some ((machine.replay fresh plantRun).get (by decide +kernel)) := (Option.some_get _).symm
  have hadmitted : machine.Admitted PairKept fresh plantRun := by decide +kernel
  refine ⟨_, hreplay, by decide +kernel, saved_associated ?_⟩
  exact Machine.ReachedBy.replay (.start fresh_start) hadmitted hreplay

/-- The user taps another network while the save is still scheduled. -/
def tappedRun : List SaveEvent :=
  .station (.loop (.staStart {})) :: connecting (ascii "plant") (ascii "secret-key") ++
    .station (.loop (.setNetworkRequest (some (ascii "office")))) :: timerSave

/-- The password of one network is then saved for another. -/
theorem tapped_saves_wrong_pair :
    ¬∀ store, machine.Reachable store → ∀ pair ∈ store.saved, pair ∈ store.associated := by
  intro hclaim
  have hreplay : machine.replay fresh tappedRun =
      some ((machine.replay fresh tappedRun).get (by decide +kernel)) := (Option.some_get _).symm
  have hreal := hclaim _ (Machine.reachable_of_replay fresh_start hreplay)
    (ascii "office", ascii "secret-key") (by decide +kernel)
  exact absurd hreal (by decide +kernel)

end SavingStation

end CrowPanel.Wifi
