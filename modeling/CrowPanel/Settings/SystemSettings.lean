import CrowPanel.Library.Machine
import CrowPanel.Settings.SettingsConfig
import CrowPanel.Sleep.SleepMode

/-!
# The system settings

Brightness, volume and the time to sleep each have three homes: NVS, the part of the panel that uses
the value, and the page that shows it.  The task of LVGL moves values from the page to the others, the
restore task of `system_settings.c` moves them from NVS, at the start and after every wake, and the
sleep mode dims the display and lights it again.  A task may be interrupted between any two of its
calls; NVS, the display and the codec may refuse any of them.

## Strategy

The types of what is loaded leave no room for values out of range, so for `InRange` each step has only
to pass them on.  The sleep mode asks the display only once to be lit, so `Lit` is about the runs in which
it does not refuse.  That the homes agree takes more (`Agreeing`): what the restore task has loaded is
still what NVS holds, and what a callback of the page has begun is finished, as long as the tasks keep
out of each other's way (`Keeps`).
-/

namespace CrowPanel.Settings

open Library Sleep

/-! ## The tasks -/

/-- `system_settings_apply_saved` in the restore task, by its next call, with what it has loaded. -/
inductive RestoreStage where
  | loadBrightness
  | loadVolume (brightness : Brightness)
  | loadTimeout (brightness : Brightness) (volume : Volume)
  | updateBrightness (brightness : Brightness) (volume : Volume) (timeout : SleepTimeout)
  | updateTimeout (brightness : Brightness) (volume : Volume) (timeout : SleepTimeout)
  | setDisplay (brightness : Brightness) (volume : Volume)
  | applyVolume (volume : Volume)
  deriving DecidableEq

/-- What the restore task has loaded is what NVS holds. -/
def RestoreStage.Loaded (saved : SavedSettings) : RestoreStage → Prop
  | .loadBrightness => True
  | .loadVolume brightness => brightness = saved.brightness
  | .loadTimeout brightness volume => brightness = saved.brightness ∧ volume = saved.audioVolume
  | .updateBrightness brightness volume timeout | .updateTimeout brightness volume timeout =>
      brightness = saved.brightness ∧ volume = saved.audioVolume ∧ timeout = saved.sleepTimeoutMs
  | .setDisplay brightness volume => brightness = saved.brightness ∧ volume = saved.audioVolume
  | .applyVolume volume => volume = saved.audioVolume

/-- A callback of the page that has one more call to make. -/
inductive PageCall where
  /-- `brightness_event`, before `bsp_display_brightness_set` -/
  | setDisplay (brightness : Brightness)
  /-- `settings_config_save_brightness`, before `sleep_update_normal_brightness` -/
  | updateBrightness (brightness : Brightness)
  /-- `settings_config_save_sleep_timeout_ms`, before `sleep_update_idle_timeout` -/
  | updateTimeout (timeout : SleepTimeout)
  deriving DecidableEq

/-- The page of `system_settings_create`: where the sliders stand, and the button that is highlighted,
by its time. -/
structure SystemPage where
  brightness : Brightness
  volume : Volume
  selected : SleepTimeout
  deriving DecidableEq

/-- Everything that has to do with the three settings. -/
structure SystemPanel where
  entries : ConfigEntries
  /-- the sleep mode; its `brightness` is the level last given to the display, by whomever -/
  sleep : SleepMode
  /-- the volume last given to the codec -/
  codecVolume : Option Volume := none
  restore : Option RestoreStage := none
  page : Option SystemPage := none
  callback : Option PageCall := none
  /-- ghost: the brightness in use is that of the slider and has not been saved -/
  brightnessMoved : Bool := false
  /-- ghost: the same of the volume -/
  volumeMoved : Bool := false

/-- A step of one of the tasks. -/
inductive SystemEvent where
  /-- `system_settings_restore_async` creates the task -/
  | restoreAsync
  /-- the next call of the restore task, with what NVS returns, and whether the display or the codec
  obeys -/
  | restore (calls : ReadCalls) (obeys : Bool)
  /-- `system_settings_create` -/
  | createPage (brightness volume timeout : ReadCalls)
  | deletePage
  /-- `brightness_event` with `LV_EVENT_VALUE_CHANGED` -/
  | moveBrightness (value : Brightness)
  /-- `brightness_event` with `LV_EVENT_RELEASED` -/
  | releaseBrightness (calls : WriteCalls)
  /-- `volume_event` with `LV_EVENT_VALUE_CHANGED` -/
  | moveVolume (value : Volume) (obeys : Bool)
  /-- `volume_event` with `LV_EVENT_RELEASED` -/
  | releaseVolume (calls : WriteCalls)
  /-- `sleep_option_event` for one of `SLEEP_OPTIONS` -/
  | pressTimeout (timeout : SleepTimeout) (calls : WriteCalls)
  /-- the callback of the page goes on -/
  | continueCallback (obeys : Bool)
  /-- the section of `enter_sleep_internal`, and whether the display obeys -/
  | enterSleep (obeys : Bool)
  /-- the section of `wake_internal` -/
  | wake (obeys : Bool)

/-- The display obeys the sleep mode, as far as the step is one of its sections. -/
def SystemEvent.obeysSleep : SystemEvent → Bool
  | .enterSleep obeys | .wake obeys => obeys
  | _ => true

namespace SystemPanel

/-- The sleep mode after a section that found the display at some level.  If the display does not obey,
it stays there; the sleep mode ignores that. -/
def afterSection (mode : SleepMode) (obeys : Bool) (level : ℤ) : SleepMode :=
  if obeys then mode else { mode with brightness := level }

/-- `bsp_display_brightness_set` -/
def setDisplay (panel : SystemPanel) (obeys : Bool) (brightness : Brightness) : SystemPanel :=
  if obeys then { panel with sleep := panel.sleep.brightnessSet brightness.1.toNat } else panel

/-- `apply_volume` -/
def applyVolume (panel : SystemPanel) (obeys : Bool) (volume : Volume) : SystemPanel :=
  if obeys then { panel with codecVolume := some volume } else panel

/-- `sleep_update_normal_brightness` -/
def updateNormalBrightness (panel : SystemPanel) (brightness : Brightness) : SystemPanel :=
  { panel with sleep := panel.sleep.updateNormalBrightness brightness.1.toNat }

/-- `sleep_update_idle_timeout` -/
def updateIdleTimeout (panel : SystemPanel) (timeout : SleepTimeout) : SystemPanel :=
  { panel with sleep := panel.sleep.updateIdleTimeout timeout.1.toNat }

/-- A call of the restore task. -/
def runRestore (panel : SystemPanel) (calls : ReadCalls) (obeys : Bool) : RestoreStage → SystemPanel
  | .loadBrightness =>
      { panel with restore := some (.loadVolume (loadBrightness calls panel.entries)) }
  | .loadVolume brightness =>
      { panel with restore := some (.loadTimeout brightness (loadAudioVolume calls panel.entries)) }
  | .loadTimeout brightness volume =>
      { panel with
        restore := some (.updateBrightness brightness volume (loadSleepTimeoutMs calls panel.entries)) }
  | .updateBrightness brightness volume timeout =>
      { panel.updateNormalBrightness brightness with
        restore := some (.updateTimeout brightness volume timeout), brightnessMoved := false }
  | .updateTimeout brightness volume timeout =>
      { panel.updateIdleTimeout timeout with restore := some (.setDisplay brightness volume) }
  | .setDisplay brightness volume =>
      { panel.setDisplay obeys brightness with restore := some (.applyVolume volume) }
  | .applyVolume volume =>
      { panel.applyVolume obeys volume with restore := none, volumeMoved := false }

/-- What is left of a callback of the page. -/
def runCallback (panel : SystemPanel) (obeys : Bool) : PageCall → SystemPanel
  | .setDisplay brightness => { panel.setDisplay obeys brightness with callback := none }
  | .updateBrightness brightness =>
      { panel.updateNormalBrightness brightness with callback := none, brightnessMoved := false }
  | .updateTimeout timeout =>
      { panel.updateIdleTimeout timeout with
        callback := none
        page := panel.page.map fun page => { page with selected := timeout } }

/-- `settings_config_save_brightness`, until its update of the sleep mode -/
def releaseBrightness (panel : SystemPanel) (calls : WriteCalls) (brightness : Brightness) :
    SystemPanel :=
  match saveBrightness calls panel.entries brightness.1 with
  | (.ok, entries) => { panel with entries, callback := some (.updateBrightness brightness) }
  | (_, entries) => { panel with entries }

/-- `settings_config_save_audio_volume` in `volume_event` -/
def releaseVolume (panel : SystemPanel) (calls : WriteCalls) (volume : Volume) : SystemPanel :=
  match saveAudioVolume calls panel.entries volume.1 with
  | (.ok, entries) => { panel with entries, volumeMoved := false }
  | (_, entries) => { panel with entries }

/-- `sleep_option_event`, until the update of the sleep mode -/
def pressTimeout (panel : SystemPanel) (calls : WriteCalls) (timeout : SleepTimeout) : SystemPanel :=
  match saveSleepTimeoutMs calls panel.entries timeout.1 with
  | (.ok, entries) => { panel with entries, callback := some (.updateTimeout timeout) }
  | (_, entries) => { panel with entries }

/-- The page while the task of LVGL has nothing else to do. -/
def freePage (panel : SystemPanel) : Option SystemPage :=
  if panel.callback = none then panel.page else none

def step (panel : SystemPanel) : SystemEvent → Option SystemPanel
  | .restoreAsync =>
      if panel.restore = none then some { panel with restore := some .loadBrightness } else none
  | .restore calls obeys => panel.restore.map (panel.runRestore calls obeys)
  | .createPage brightness volume timeout =>
      if panel.page = none ∧ panel.callback = none then
        some { panel with
          page := some
            { brightness := loadBrightness brightness panel.entries
              volume := loadAudioVolume volume panel.entries
              selected := loadSleepTimeoutMs timeout panel.entries } }
      else none
  | .deletePage => panel.freePage.map fun _ => { panel with page := none }
  | .moveBrightness value =>
      panel.freePage.map fun page =>
        { panel.updateNormalBrightness value with
          page := some { page with brightness := value }
          callback := some (.setDisplay value)
          brightnessMoved := true }
  | .releaseBrightness calls =>
      panel.freePage.map fun page => panel.releaseBrightness calls page.brightness
  | .moveVolume value obeys =>
      panel.freePage.map fun page =>
        { panel.applyVolume obeys value with
          page := some { page with volume := value }
          volumeMoved := true }
  | .releaseVolume calls => panel.freePage.map fun page => panel.releaseVolume calls page.volume
  | .pressTimeout timeout calls => panel.freePage.map fun _ => panel.pressTimeout calls timeout
  | .continueCallback obeys => panel.callback.map (panel.runCallback obeys)
  | .enterSleep obeys =>
      some { panel with
        sleep := afterSection panel.sleep.enterSleepInternal.1 obeys panel.sleep.brightness }
  | .wake obeys =>
      some { panel with
        sleep := afterSection panel.sleep.wakeInternal.1 obeys panel.sleep.brightness }

/-- What `idle_monitor_init` gives to `sleep_init`; a wake lights the display without delay. -/
def sleepConfiguration (brightness timeout : ReadCalls) (entries : ConfigEntries) : SleepCfg where
  idleTimeoutMs := (loadSleepTimeoutMs timeout entries).1.toNat
  normalBrightnessPct := (loadBrightness brightness entries).1.toNat
  sleepBrightnessPct := 0
  wakeBrightnessDelayMs := 0

/-- The panel after `idle_monitor_init`, with any namespace and any level of the display before. -/
def Start (obeys : Bool) (panel : SystemPanel) : Prop :=
  ∃ brightness timeout entries mode level,
    SleepMode.init (sleepConfiguration brightness timeout entries) = .ok mode ∧
      panel = { entries, sleep := afterSection mode obeys level }

def machine : Machine SystemPanel SystemEvent where
  start panel := ∃ obeys, Start obeys panel
  step := step

/-- The runs in which the display has obeyed `sleep_init`. -/
def litMachine : Machine SystemPanel SystemEvent where
  start := Start true
  step := step

variable {panel next : SystemPanel} {event : SystemEvent}

/-! ## The values in range -/

/-- What a step does to the sleep mode, if the display obeys the sleep mode or not. -/
inductive SleepChange (mode : SleepMode) (obeyed : Bool) : SleepMode → Prop
  | same : SleepChange mode obeyed mode
  | setDisplay (brightness : Brightness) :
      SleepChange mode obeyed (mode.brightnessSet brightness.1.toNat)
  | updateBrightness (brightness : Brightness) :
      SleepChange mode obeyed (mode.updateNormalBrightness brightness.1.toNat)
  | updateTimeout (timeout : SleepTimeout) :
      SleepChange mode obeyed (mode.updateIdleTimeout timeout.1.toNat)
  | enterSleep :
      SleepChange mode obeyed (afterSection mode.enterSleepInternal.1 obeyed mode.brightness)
  | wake : SleepChange mode obeyed (afterSection mode.wakeInternal.1 obeyed mode.brightness)

theorem setDisplay_sleep (panel : SystemPanel) (obeyed obeys : Bool) (brightness : Brightness) :
    SleepChange panel.sleep obeyed (panel.setDisplay obeys brightness).sleep := by
  unfold setDisplay
  split
  · exact .setDisplay brightness
  · exact .same

@[simp] theorem applyVolume_sleep (panel : SystemPanel) (obeys : Bool) (volume : Volume) :
    (panel.applyVolume obeys volume).sleep = panel.sleep := by
  unfold applyVolume
  split <;> rfl

theorem runRestore_sleep (panel : SystemPanel) (calls : ReadCalls) (obeyed obeys : Bool)
    (stage : RestoreStage) :
    SleepChange panel.sleep obeyed (panel.runRestore calls obeys stage).sleep := by
  cases stage with
  | loadBrightness | loadVolume _ | loadTimeout _ _ => exact .same
  | updateBrightness brightness _ _ => exact .updateBrightness brightness
  | updateTimeout _ _ timeout => exact .updateTimeout timeout
  | setDisplay brightness _ => exact panel.setDisplay_sleep obeyed obeys brightness
  | applyVolume volume =>
      simp only [runRestore, applyVolume_sleep]
      exact .same

theorem runCallback_sleep (panel : SystemPanel) (obeyed obeys : Bool) (call : PageCall) :
    SleepChange panel.sleep obeyed (panel.runCallback obeys call).sleep := by
  cases call with
  | setDisplay brightness => exact panel.setDisplay_sleep obeyed obeys brightness
  | updateBrightness brightness => exact .updateBrightness brightness
  | updateTimeout timeout => exact .updateTimeout timeout

@[simp] theorem releaseBrightness_sleep (panel : SystemPanel) (calls : WriteCalls)
    (brightness : Brightness) : (panel.releaseBrightness calls brightness).sleep = panel.sleep := by
  unfold releaseBrightness
  split <;> rfl

@[simp] theorem releaseVolume_sleep (panel : SystemPanel) (calls : WriteCalls) (volume : Volume) :
    (panel.releaseVolume calls volume).sleep = panel.sleep := by
  unfold releaseVolume
  split <;> rfl

@[simp] theorem pressTimeout_sleep (panel : SystemPanel) (calls : WriteCalls)
    (timeout : SleepTimeout) : (panel.pressTimeout calls timeout).sleep = panel.sleep := by
  unfold pressTimeout
  split <;> rfl

theorem step_sleep (hstep : panel.step event = some next) :
    SleepChange panel.sleep event.obeysSleep next.sleep := by
  cases event with
  | restoreAsync =>
      obtain ⟨-, hnext⟩ := Option.ite_none_right_eq_some.mp hstep
      obtain rfl := Option.some.inj hnext
      exact .same
  | restore calls obeys =>
      obtain ⟨stage, -, rfl⟩ := Option.map_eq_some_iff.mp hstep
      exact panel.runRestore_sleep calls true obeys stage
  | createPage brightness volume timeout =>
      obtain ⟨-, hnext⟩ := Option.ite_none_right_eq_some.mp hstep
      obtain rfl := Option.some.inj hnext
      exact .same
  | deletePage =>
      obtain ⟨_, -, rfl⟩ := Option.map_eq_some_iff.mp hstep
      exact .same
  | moveBrightness value =>
      obtain ⟨_, -, rfl⟩ := Option.map_eq_some_iff.mp hstep
      exact .updateBrightness value
  | releaseBrightness calls =>
      obtain ⟨_, -, rfl⟩ := Option.map_eq_some_iff.mp hstep
      rw [releaseBrightness_sleep]
      exact .same
  | moveVolume value obeys =>
      obtain ⟨_, -, rfl⟩ := Option.map_eq_some_iff.mp hstep
      simp only [applyVolume_sleep]
      exact .same
  | releaseVolume calls =>
      obtain ⟨_, -, rfl⟩ := Option.map_eq_some_iff.mp hstep
      rw [releaseVolume_sleep]
      exact .same
  | pressTimeout timeout calls =>
      obtain ⟨_, -, rfl⟩ := Option.map_eq_some_iff.mp hstep
      rw [pressTimeout_sleep]
      exact .same
  | continueCallback obeys =>
      obtain ⟨call, -, rfl⟩ := Option.map_eq_some_iff.mp hstep
      exact panel.runCallback_sleep true obeys call
  | enterSleep obeys =>
      obtain rfl := Option.some.inj hstep
      exact .enterSleep
  | wake obeys =>
      obtain rfl := Option.some.inj hstep
      exact .wake

/-- A level at which the display is lit. -/
def IsLit (level : ℤ) : Prop :=
  1 ≤ level ∧ level ≤ 100

/-- Every value in use is one that its user can work with. -/
structure InRange (mode : SleepMode) : Prop where
  normal : IsLit mode.cfg.normalBrightnessPct
  timeout : ∃ timeout : SleepTimeout, mode.cfg.idleTimeoutMs = timeout.1.toNat
  period : ∃ timeout : SleepTimeout, mode.idleTimer.period = timeout.1.toNat
  dark : mode.cfg.sleepBrightnessPct = 0
  prompt : mode.cfg.wakeBrightnessDelayMs = 0

/-- The display is lit while the panel is awake, and else it may be off. -/
structure Lit (mode : SleepMode) : Prop where
  lit : mode.state = .awake → IsLit mode.brightness
  level : mode.brightness = 0 ∨ IsLit mode.brightness

theorem isLit_brightness (brightness : Brightness) : IsLit brightness.1.toNat := by
  obtain ⟨value, hmin, hmax⟩ := brightness
  have hmin : 1 ≤ value.toNat := UInt8.le_iff_toNat_le.mp hmin
  have hmax : value.toNat ≤ 100 := UInt8.le_iff_toNat_le.mp hmax
  simp only [IsLit]
  omega

/-- A level that is lit goes to the driver as it is. -/
theorem IsLit.mod {level : ℤ} (hlit : IsLit level) : level % 256 = level := by
  obtain ⟨hmin, hmax⟩ := hlit
  exact Int.emod_eq_of_lt (by omega) (by omega)

/-- The timeouts that are allowed are not zero. -/
theorem sleepTimeout_pos (timeout : SleepTimeout) : timeout.1.toNat ≠ 0 := by
  obtain ⟨value, hvalid⟩ := timeout
  intro hzero
  have hvalue : value = 0 := UInt32.toNat_inj.mp hzero
  subst hvalue
  revert hvalid
  decide

/-- The configuration and the timers do not depend on what the display does. -/
theorem InRange.afterSection {mode : SleepMode} (hrange : InRange mode) (obeys : Bool) (level : ℤ) :
    InRange (afterSection mode obeys level) := by
  unfold SystemPanel.afterSection
  split
  · exact hrange
  · exact { hrange with }

theorem InRange.change {mode next : SleepMode} {obeyed : Bool} (hrange : InRange mode)
    (hchange : SleepChange mode obeyed next) : InRange next := by
  cases hchange with
  | same => exact hrange
  | setDisplay brightness =>
      exact { hrange with }
  | updateBrightness brightness =>
      exact { hrange with normal := isLit_brightness brightness }
  | updateTimeout timeout =>
      unfold SleepMode.updateIdleTimeout
      rw [if_neg (sleepTimeout_pos timeout)]
      cases hstate : mode.state with
      | awake => exact { hrange with timeout := ⟨timeout, rfl⟩, period := ⟨timeout, rfl⟩ }
      | sleeping => exact { hrange with timeout := ⟨timeout, rfl⟩ }
  | enterSleep =>
      apply InRange.afterSection
      cases hstate : mode.state with
      | awake =>
          rw [enterSleepInternal_awake hstate]
          exact { hrange with }
      | sleeping =>
          rw [enterSleepInternal_sleeping hstate]
          exact hrange
  | wake =>
      apply InRange.afterSection
      cases hstate : mode.state with
      | awake =>
          rw [wakeInternal_awake hstate]
          exact { hrange with }
      | sleeping =>
          rw [wakeInternal_sleeping hstate, if_pos hrange.prompt]
          exact { hrange with }

/-- Only a wake that the display refuses leaves it dark. -/
theorem Lit.change {mode next : SleepMode} {obeyed : Bool} (hlit : Lit mode) (hrange : InRange mode)
    (hobeyed : mode.state = .sleeping → obeyed = true) (hchange : SleepChange mode obeyed next) :
    Lit next := by
  cases hchange with
  | same => exact hlit
  | setDisplay brightness =>
      have hlevel : IsLit ((brightness.1.toNat : ℤ) % 256) := by
        rw [(isLit_brightness brightness).mod]
        exact isLit_brightness brightness
      exact ⟨fun _ => hlevel, .inr hlevel⟩
  | updateBrightness brightness => exact ⟨hlit.lit, hlit.level⟩
  | updateTimeout timeout =>
      have hlevel := updateIdleTimeout_brightness mode timeout.1.toNat
      refine ⟨fun hawake => ?_, ?_⟩
      · rw [hlevel]
        exact hlit.lit ((updateIdleTimeout_state mode _).symm.trans hawake)
      · rw [hlevel]
        exact hlit.level
  | enterSleep =>
      cases hstate : mode.state with
      | awake =>
          rw [enterSleepInternal_awake hstate]
          cases obeyed with
          | true => exact ⟨fun hawake => (by cases hawake), .inl (by simp [afterSection, hrange.dark])⟩
          | false => exact ⟨fun hawake => (by cases hawake), hlit.level⟩
      | sleeping =>
          rw [enterSleepInternal_sleeping hstate, hobeyed hstate]
          exact hlit
  | wake =>
      cases hstate : mode.state with
      | awake =>
          rw [wakeInternal_awake hstate]
          cases obeyed with
          | true | false => exact ⟨fun _ => hlit.lit hstate, hlit.level⟩
      | sleeping =>
          have hlevel : IsLit (mode.cfg.normalBrightnessPct % 256) := by
            rw [hrange.normal.mod]
            exact hrange.normal
          rw [wakeInternal_sleeping hstate, if_pos hrange.prompt, hobeyed hstate]
          exact ⟨fun _ => hlevel, .inr hlevel⟩

/-- `sleep_init` accepts what `idle_monitor_init` gives it. -/
theorem init_sleepConfiguration (brightness timeout : ReadCalls) (entries : ConfigEntries) :
    ∃ mode, SleepMode.init (sleepConfiguration brightness timeout entries) = .ok mode ∧
      InRange mode ∧ Lit mode := by
  obtain ⟨hmin, hmax⟩ := isLit_brightness (loadBrightness brightness entries)
  have hpositive := sleepTimeout_pos (loadSleepTimeoutMs timeout entries)
  have hnormal : ¬((sleepConfiguration brightness timeout entries).normalBrightnessPct < 0 ∨
      100 < (sleepConfiguration brightness timeout entries).normalBrightnessPct) := by
    simp only [sleepConfiguration]
    omega
  have haccepted : ∃ mode,
      SleepMode.init (sleepConfiguration brightness timeout entries) = .ok mode := by
    unfold SleepMode.init
    rw [if_neg (show ¬(sleepConfiguration brightness timeout entries).idleTimeoutMs = 0 from hpositive),
      if_neg hnormal, if_neg (by simp [sleepConfiguration])]
    exact ⟨_, rfl⟩
  obtain ⟨mode, hinit⟩ := haccepted
  have hlit : IsLit (((loadBrightness brightness entries).1.toNat : ℤ) % 256) := by
    rw [IsLit.mod ⟨hmin, hmax⟩]
    exact ⟨hmin, hmax⟩
  obtain ⟨-, -, rfl⟩ := init_eq_ok hinit
  exact ⟨_, hinit, ⟨⟨hmin, hmax⟩, ⟨_, rfl⟩, ⟨_, rfl⟩, rfl, rfl⟩, fun _ => hlit, .inr hlit⟩

theorem start_inRange {obeys : Bool} (hstart : Start obeys panel) : InRange panel.sleep := by
  obtain ⟨brightness, timeout, entries, mode, level, hinit, rfl⟩ := hstart
  obtain ⟨other, hother, hrange, -⟩ := init_sleepConfiguration brightness timeout entries
  obtain rfl : mode = other := Except.ok.inj (hinit.symm.trans hother)
  exact hrange.afterSection obeys level

theorem start_lit (hstart : Start true panel) : Lit panel.sleep := by
  obtain ⟨brightness, timeout, entries, mode, level, hinit, rfl⟩ := hstart
  obtain ⟨other, hother, -, hlit⟩ := init_sleepConfiguration brightness timeout entries
  obtain rfl : mode = other := Except.ok.inj (hinit.symm.trans hother)
  exact hlit

theorem reachable_inRange (hreached : machine.Reachable panel) : InRange panel.sleep := by
  refine Machine.Reachable.invariant (I := fun panel => InRange panel.sleep) ?_ ?_ hreached
  · rintro panel ⟨obeys, hstart⟩
    exact start_inRange hstart
  · intro panel event next hrange hstep
    exact hrange.change (step_sleep hstep)

/-- The display does not refuse a wake of the panel. -/
def Lights (panel : SystemPanel) (event : SystemEvent) : Prop :=
  panel.sleep.state = .sleeping → event.obeysSleep = true

instance (panel : SystemPanel) (event : SystemEvent) : Decidable (Lights panel event) :=
  inferInstanceAs (Decidable (_ → _))

theorem reachedBy_lit (hreached : litMachine.ReachedBy Lights panel) : Lit panel.sleep := by
  have hkept : InRange panel.sleep ∧ Lit panel.sleep := by
    refine Machine.ReachedBy.invariant (I := fun panel => InRange panel.sleep ∧ Lit panel.sleep)
      ?_ ?_ hreached
    · intro panel hstart
      exact ⟨start_inRange hstart, start_lit hstart⟩
    · rintro panel event next - ⟨hrange, hlit⟩ hlights hstep
      have hchange := step_sleep hstep
      exact ⟨hrange.change hchange, hlit.change hrange hlights hchange⟩
  exact hkept.2

/-- **No value out of range is used.**  Whatever NVS holds at the start, whichever calls of NVS, the
display and the codec fail, and however the tasks interleave, the sleep mode starts and always has a
brightness from 1 to 100 and one of the six timeouts, and its timer runs with one of them.  Unless the
display refuses `sleep_init` or a wake, it is lit while the panel is awake. -/
theorem inRange :
    (∀ (brightness timeout : ReadCalls) (entries : ConfigEntries),
      ∃ mode, SleepMode.init (sleepConfiguration brightness timeout entries) = .ok mode) ∧
    (∀ panel, machine.Reachable panel → InRange panel.sleep) ∧
    ∀ panel, litMachine.ReachedBy Lights panel → Lit panel.sleep := by
  refine ⟨fun brightness timeout entries => ?_, fun panel hreached => reachable_inRange hreached,
    fun panel hreached => reachedBy_lit hreached⟩
  obtain ⟨mode, hinit, -⟩ := init_sleepConfiguration brightness timeout entries
  exact ⟨mode, hinit⟩

/-- The panel that starts while NVS holds nothing that may be used. -/
def wornPanel : SystemPanel where
  entries := { brightness := some 200, audioVolume := some 150, sleepTimeoutMs := some 7 }
  sleep :=
    { cfg :=
        { idleTimeoutMs := 180000
          normalBrightnessPct := 80
          sleepBrightnessPct := 0
          wakeBrightnessDelayMs := 0 }
      state := .awake
      idleTimer := { period := 180000, armed := true }
      wakeBrightnessTimer := { period := 1 }
      brightness := 80 }

theorem start_wornPanel : Start true wornPanel :=
  ⟨{}, {}, wornPanel.entries, wornPanel.sleep, 0, rfl, rfl⟩

/-- The slider is moved while the panel is restored, and the panel falls asleep in between; the display
refuses to be dimmed, and what the slider asks of it. -/
def wornEvents : List SystemEvent :=
  [.restoreAsync, .restore {} true, .createPage {} {} {}, .moveBrightness ⟨1, by decide⟩,
    .enterSleep false, .restore {} true, .continueCallback false, .wake true]

theorem inRange_worn :
    ∃ panel, machine.replay wornPanel wornEvents = some panel ∧ InRange panel.sleep ∧
      Lit panel.sleep := by
  refine ⟨_, rfl, inRange.2.1 _ (Machine.reachable_of_replay ?_
    (show machine.replay wornPanel wornEvents = some _ from rfl)), inRange.2.2 _ ?_⟩
  · exact ⟨true, start_wornPanel⟩
  · have hadmitted : litMachine.Admitted Lights wornPanel wornEvents := by decide +kernel
    exact .replay (.start start_wornPanel) hadmitted rfl

/-! ## Agreement -/

/-- A value is on its way from one home to another. -/
def Busy (panel : SystemPanel) : Prop :=
  panel.restore ≠ none ∨ panel.callback ≠ none ∨ panel.brightnessMoved = true ∨
    panel.volumeMoved = true

instance (panel : SystemPanel) : Decidable panel.Busy :=
  inferInstanceAs (Decidable (_ ∨ _))

theorem not_busy : ¬panel.Busy ↔ panel.restore = none ∧ panel.callback = none ∧
    panel.brightnessMoved = false ∧ panel.volumeMoved = false := by
  simp [Busy]

/-- Every home of a setting has the value that NVS holds; the display has it while the panel is awake. -/
structure Settled (panel : SystemPanel) : Prop where
  normal : panel.sleep.cfg.normalBrightnessPct = panel.entries.saved.brightness.1.toNat
  idle : panel.sleep.cfg.idleTimeoutMs = panel.entries.saved.sleepTimeoutMs.1.toNat
  period : panel.sleep.idleTimer.period = panel.entries.saved.sleepTimeoutMs.1.toNat
  display : panel.sleep.brightness =
    if panel.sleep.state = .awake then ((panel.entries.saved.brightness.1.toNat : ℕ) : ℤ) else 0
  codec : ∀ volume, panel.codecVolume = some volume → volume = panel.entries.saved.audioVolume
  page : ∀ page, panel.page = some page →
    page = { brightness := panel.entries.saved.brightness
             volume := panel.entries.saved.audioVolume
             selected := panel.entries.saved.sleepTimeoutMs }

/-- The load finds what is stored. -/
def Finds (calls : ReadCalls) : Prop :=
  calls.opened = .ok ∧ calls.read = .ok

/-- No call fails, and the tasks keep out of each other's way: the settings are changed while the panel
is awake and no restore is in progress, and the panel is not restored and does not fall asleep in the
middle of a change. -/
def Keeps (panel : SystemPanel) : SystemEvent → Prop
  | .restoreAsync => panel.sleep.state = .awake ∧ ¬panel.Busy
  | .restore calls obeys => Finds calls ∧ obeys = true
  | .createPage brightness volume timeout => Finds brightness ∧ Finds volume ∧ Finds timeout
  | .deletePage => panel.brightnessMoved = false ∧ panel.volumeMoved = false
  | .moveBrightness _ => panel.sleep.state = .awake ∧ panel.restore = none
  | .moveVolume _ obeys => panel.sleep.state = .awake ∧ panel.restore = none ∧ obeys = true
  | .releaseBrightness calls | .releaseVolume calls | .pressTimeout _ calls =>
      panel.sleep.state = .awake ∧ panel.restore = none ∧ calls.Succeed
  | .continueCallback obeys => obeys = true
  | .enterSleep obeys => ¬panel.Busy ∧ obeys = true
  | .wake obeys => obeys = true

instance (calls : ReadCalls) : Decidable (Finds calls) :=
  inferInstanceAs (Decidable (_ ∧ _))

instance : ∀ (panel : SystemPanel) (event : SystemEvent), Decidable (Keeps panel event)
  | _, .restoreAsync | _, .restore _ _ | _, .createPage _ _ _ | _, .deletePage | _, .moveBrightness _
  | _, .moveVolume _ _ | _, .releaseBrightness _ | _, .releaseVolume _ | _, .pressTimeout _ _
  | _, .enterSleep _ => inferInstanceAs (Decidable (_ ∧ _))
  | _, .continueCallback _ | _, .wake _ => inferInstanceAs (Decidable (_ = _))

/-- The runs from a settled state, however it has been reached. -/
def settledMachine : Machine SystemPanel SystemEvent where
  start panel := machine.Reachable panel ∧ panel.Settled ∧ ¬panel.Busy
  step := step

/-- The homes of the brightness have the current one, but for the calls that are still to come. -/
structure BrightnessAgrees (panel : SystemPanel) (current : Brightness) : Prop where
  normal : panel.sleep.cfg.normalBrightnessPct = current.1.toNat
  display : panel.sleep.state = .awake → (∀ value, panel.callback ≠ some (.setDisplay value)) →
    panel.sleep.brightness = current.1.toNat
  page : ∀ page, panel.page = some page → page.brightness = current
  saved : panel.brightnessMoved = false → panel.entries.saved.brightness = current
  toShow : ∀ value, panel.callback = some (.setDisplay value) → value = current
  toUpdate : ∀ value, panel.callback = some (.updateBrightness value) →
    value = current ∧ panel.entries.saved.brightness = current

structure VolumeAgrees (panel : SystemPanel) (current : Volume) : Prop where
  codec : ∀ volume, panel.codecVolume = some volume → volume = current
  page : ∀ page, panel.page = some page → page.volume = current
  saved : panel.volumeMoved = false → panel.entries.saved.audioVolume = current

structure TimeoutAgrees (panel : SystemPanel) (current : SleepTimeout) : Prop where
  idle : panel.sleep.cfg.idleTimeoutMs = current.1.toNat
  period : panel.sleep.idleTimer.period = current.1.toNat
  page : ∀ page, panel.page = some page → page.selected = current
  saved : (∀ value, panel.callback ≠ some (.updateTimeout value)) →
    panel.entries.saved.sleepTimeoutMs = current
  toUpdate : ∀ value, panel.callback = some (.updateTimeout value) →
    panel.entries.saved.sleepTimeoutMs = value

structure Agreeing (panel : SystemPanel) : Prop where
  brightness : ∃ current, BrightnessAgrees panel current
  volume : ∃ current, VolumeAgrees panel current
  timeout : ∃ current, TimeoutAgrees panel current
  loaded : ∀ stage, panel.restore = some stage → stage.Loaded panel.entries.saved
  alone : panel.restore ≠ none →
    panel.callback = none ∧ panel.brightnessMoved = false ∧ panel.volumeMoved = false
  closed : panel.page = none →
    panel.callback = none ∧ panel.brightnessMoved = false ∧ panel.volumeMoved = false
  awake : panel.Busy → panel.sleep.state = .awake
  dark : panel.sleep.state = .sleeping → panel.sleep.brightness = 0

theorem loadBrightness_found {calls : ReadCalls} (hfinds : Finds calls) (entries : ConfigEntries) :
    loadBrightness calls entries = entries.saved.brightness := by
  simp only [ConfigEntries.saved, ConfigEntries.loads, loadBrightness, loadNumber, hfinds.1, hfinds.2,
    if_true]

theorem loadAudioVolume_found {calls : ReadCalls} (hfinds : Finds calls) (entries : ConfigEntries) :
    loadAudioVolume calls entries = entries.saved.audioVolume := by
  simp only [ConfigEntries.saved, ConfigEntries.loads, loadAudioVolume, loadNumber, hfinds.1,
    hfinds.2, if_true]

theorem loadSleepTimeoutMs_found {calls : ReadCalls} (hfinds : Finds calls)
    (entries : ConfigEntries) :
    loadSleepTimeoutMs calls entries = entries.saved.sleepTimeoutMs := by
  simp only [ConfigEntries.saved, ConfigEntries.loads, loadSleepTimeoutMs, loadNumber, hfinds.1,
    hfinds.2, if_true]

theorem freePage_eq_some {page : SystemPage} :
    panel.freePage = some page ↔ panel.callback = none ∧ panel.page = some page := by
  unfold freePage
  split <;> simp [*]

/-- In a settled panel the three settings agree, each on the value in NVS. -/
theorem Settled.agreeing (hsettled : panel.Settled) (hidle : ¬panel.Busy) : panel.Agreeing := by
  obtain ⟨hrestore, hcallback, hbrightness, hvolume⟩ := not_busy.mp hidle
  refine ⟨⟨panel.entries.saved.brightness, ?_⟩, ⟨panel.entries.saved.audioVolume, ?_⟩,
    ⟨panel.entries.saved.sleepTimeoutMs, ?_⟩, ?_, ?_, ?_, ?_, ?_⟩
  · refine ⟨hsettled.normal, ?_, ?_, fun _ => rfl, ?_, ?_⟩
    · intro hawake _
      rw [hsettled.display, if_pos hawake]
    · intro page hpage
      rw [hsettled.page page hpage]
    · simp [hcallback]
    · simp [hcallback]
  · refine ⟨hsettled.codec, ?_, fun _ => rfl⟩
    intro page hpage
    rw [hsettled.page page hpage]
  · refine ⟨hsettled.idle, hsettled.period, ?_, fun _ => rfl, ?_⟩
    · intro page hpage
      rw [hsettled.page page hpage]
    · simp [hcallback]
  · simp [hrestore]
  · exact fun _ => ⟨hcallback, hbrightness, hvolume⟩
  · exact fun _ => ⟨hcallback, hbrightness, hvolume⟩
  · exact fun hbusy => absurd hbusy hidle
  · intro hsleeping
    rw [hsettled.display, if_neg (by simp [hsleeping])]

/-- Once nothing is on its way, what agrees is settled. -/
theorem Agreeing.settled (hagreeing : panel.Agreeing) (hidle : ¬panel.Busy) : panel.Settled := by
  obtain ⟨-, hcallback, hbrightness, hvolume⟩ := not_busy.mp hidle
  obtain ⟨brightness, hb⟩ := hagreeing.brightness
  obtain ⟨volume, hv⟩ := hagreeing.volume
  obtain ⟨timeout, ht⟩ := hagreeing.timeout
  obtain rfl := hb.saved hbrightness
  obtain rfl := hv.saved hvolume
  obtain rfl := ht.saved (by simp [hcallback])
  refine ⟨hb.normal, ht.idle, ht.period, ?_, hv.codec, ?_⟩
  · cases hstate : panel.sleep.state with
    | awake => exact hb.display hstate (by simp [hcallback])
    | sleeping => exact hagreeing.dark hstate
  · intro page hpage
    rw [← hb.page page hpage, ← hv.page page hpage, ← ht.page page hpage]

/-! ### The restore task -/

/-- The restore task starts or goes on. -/
theorem Agreeing.atStage (hagreeing : panel.Agreeing) {stage : RestoreStage}
    (hawake : panel.sleep.state = .awake)
    (halone : panel.callback = none ∧ panel.brightnessMoved = false ∧ panel.volumeMoved = false)
    (hloaded : stage.Loaded panel.entries.saved) :
    Agreeing { panel with restore := some stage } := by
  obtain ⟨brightness, hb⟩ := hagreeing.brightness
  obtain ⟨volume, hv⟩ := hagreeing.volume
  obtain ⟨timeout, ht⟩ := hagreeing.timeout
  refine ⟨⟨brightness, { hb with }⟩, ⟨volume, { hv with }⟩, ⟨timeout, { ht with }⟩, ?_,
    fun _ => halone, hagreeing.closed, fun _ => hawake, hagreeing.dark⟩
  intro next hnext
  obtain rfl := Option.some.inj hnext
  exact hloaded

/-- The restore task is done. -/
theorem Agreeing.restored (hagreeing : panel.Agreeing) : Agreeing { panel with restore := none } := by
  obtain ⟨brightness, hb⟩ := hagreeing.brightness
  obtain ⟨volume, hv⟩ := hagreeing.volume
  obtain ⟨timeout, ht⟩ := hagreeing.timeout
  refine ⟨⟨brightness, { hb with }⟩, ⟨volume, { hv with }⟩, ⟨timeout, { ht with }⟩, ?_, ?_,
    hagreeing.closed, ?_, hagreeing.dark⟩
  · simp
  · simp
  · rintro (hrestore | hbusy)
    · exact absurd rfl hrestore
    · exact hagreeing.awake (.inr hbusy)

/-- A brightness that agrees may be used again. -/
theorem Agreeing.reuseBrightness (hagreeing : panel.Agreeing)
    (hmoved : panel.brightnessMoved = false) :
    panel.updateNormalBrightness panel.entries.saved.brightness = panel := by
  obtain ⟨brightness, hb⟩ := hagreeing.brightness
  have hnormal : ((panel.entries.saved.brightness.1.toNat : ℕ) : ℤ) =
      panel.sleep.cfg.normalBrightnessPct := by
    rw [hb.saved hmoved, hb.normal]
  simp only [updateNormalBrightness, SleepMode.updateNormalBrightness, hnormal]

theorem Agreeing.reuseDisplay (hagreeing : panel.Agreeing) (hawake : panel.sleep.state = .awake)
    (hcallback : panel.callback = none) (hmoved : panel.brightnessMoved = false) :
    panel.setDisplay true panel.entries.saved.brightness = panel := by
  obtain ⟨brightness, hb⟩ := hagreeing.brightness
  have hlevel : ((panel.entries.saved.brightness.1.toNat : ℕ) : ℤ) % 256 = panel.sleep.brightness := by
    rw [(isLit_brightness _).mod, hb.display hawake (by simp [hcallback]), hb.saved hmoved]
  simp only [setDisplay, SleepMode.brightnessSet, if_true, hlevel]

/-- While the panel is awake, a timeout goes to the timer at once. -/
theorem updateIdleTimeout_awake {mode : SleepMode} (hawake : mode.state = .awake)
    (timeout : SleepTimeout) :
    mode.updateIdleTimeout timeout.1.toNat =
      { mode with
        cfg := { mode.cfg with idleTimeoutMs := timeout.1.toNat }
        idleTimer := (mode.idleTimer.changePeriod timeout.1.toNat).reset } := by
  unfold SleepMode.updateIdleTimeout
  rw [if_neg (sleepTimeout_pos timeout), hawake]
  rfl

theorem Agreeing.reuseTimeout (hagreeing : panel.Agreeing) (hawake : panel.sleep.state = .awake)
    (hcallback : panel.callback = none) :
    Agreeing (panel.updateIdleTimeout panel.entries.saved.sleepTimeoutMs) := by
  obtain ⟨brightness, hb⟩ := hagreeing.brightness
  obtain ⟨timeout, ht⟩ := hagreeing.timeout
  have hsaved : panel.entries.saved.sleepTimeoutMs = timeout := ht.saved (by simp [hcallback])
  unfold updateIdleTimeout
  rw [updateIdleTimeout_awake hawake, hsaved]
  exact { hagreeing with
    brightness := ⟨brightness, { hb with }⟩
    volume := hagreeing.volume.imp fun _ hv => { hv with }
    timeout := ⟨timeout, { ht with idle := rfl, period := rfl }⟩ }

theorem Agreeing.reuseVolume (hagreeing : panel.Agreeing) (hmoved : panel.volumeMoved = false) :
    Agreeing (panel.applyVolume true panel.entries.saved.audioVolume) := by
  obtain ⟨volume, hv⟩ := hagreeing.volume
  unfold applyVolume
  rw [if_pos rfl, hv.saved hmoved]
  exact { hagreeing with
    brightness := hagreeing.brightness.imp fun _ hb => { hb with }
    volume := ⟨volume, { hv with codec := fun _ hset => (Option.some.inj hset).symm }⟩
    timeout := hagreeing.timeout.imp fun _ ht => { ht with } }

/-- A restore in between leaves what agrees as it is. -/
theorem Agreeing.runRestore (hagreeing : panel.Agreeing) {calls : ReadCalls} (hfinds : Finds calls)
    {stage : RestoreStage} (hstage : panel.restore = some stage) :
    Agreeing (panel.runRestore calls true stage) := by
  have hrunning : panel.restore ≠ none := by simp [hstage]
  have hawake := hagreeing.awake (.inl hrunning)
  have halone := hagreeing.alone hrunning
  have hloaded := hagreeing.loaded stage hstage
  obtain ⟨hcallback, hbrightness, hvolume⟩ := hagreeing.alone hrunning
  cases stage with
  | loadBrightness => exact hagreeing.atStage hawake halone (loadBrightness_found hfinds _)
  | loadVolume brightness =>
      exact hagreeing.atStage hawake halone ⟨hloaded, loadAudioVolume_found hfinds _⟩
  | loadTimeout brightness volume =>
      exact hagreeing.atStage hawake halone
        ⟨hloaded.1, hloaded.2, loadSleepTimeoutMs_found hfinds _⟩
  | updateBrightness brightness volume timeout =>
      obtain rfl := hloaded.1
      have hnext : Agreeing { panel with
          restore := some (.updateTimeout panel.entries.saved.brightness volume timeout) } :=
        hagreeing.atStage hawake halone hloaded
      simp only [SystemPanel.runRestore, hagreeing.reuseBrightness hbrightness]
      rwa [hbrightness] at hnext
  | updateTimeout brightness volume timeout =>
      obtain ⟨rfl, rfl, rfl⟩ := hloaded
      have hnext := hagreeing.reuseTimeout hawake hcallback
      refine hnext.atStage ?_ halone ⟨rfl, rfl⟩
      exact (updateIdleTimeout_state _ _).trans hawake
  | setDisplay brightness volume =>
      obtain ⟨rfl, rfl⟩ := hloaded
      simp only [SystemPanel.runRestore, hagreeing.reuseDisplay hawake hcallback hbrightness]
      exact hagreeing.atStage hawake halone rfl
  | applyVolume volume =>
      obtain rfl := hloaded
      have hnext := (hagreeing.reuseVolume hvolume).restored
      have hunmoved : (panel.applyVolume true panel.entries.saved.audioVolume).volumeMoved = false :=
        hvolume
      rwa [hunmoved] at hnext

/-! ### The page -/

theorem Agreeing.createPage (hagreeing : panel.Agreeing) (hclosed : panel.page = none) :
    Agreeing { panel with
      page := some
        { brightness := panel.entries.saved.brightness
          volume := panel.entries.saved.audioVolume
          selected := panel.entries.saved.sleepTimeoutMs } } := by
  obtain ⟨hcallback, hbrightness, hvolume⟩ := hagreeing.closed hclosed
  obtain ⟨brightness, hb⟩ := hagreeing.brightness
  obtain ⟨volume, hv⟩ := hagreeing.volume
  obtain ⟨timeout, ht⟩ := hagreeing.timeout
  refine { hagreeing with
    brightness := ⟨brightness, { hb with page := ?_ }⟩
    volume := ⟨volume, { hv with page := ?_ }⟩
    timeout := ⟨timeout, { ht with page := ?_ }⟩
    closed := ?_ }
  · rintro _ ⟨⟩
    exact hb.saved hbrightness
  · rintro _ ⟨⟩
    exact hv.saved hvolume
  · rintro _ ⟨⟩
    exact ht.saved (by simp [hcallback])
  · simp

theorem Agreeing.deletePage (hagreeing : panel.Agreeing) (hcallback : panel.callback = none)
    (hbrightness : panel.brightnessMoved = false) (hvolume : panel.volumeMoved = false) :
    Agreeing { panel with page := none } := by
  obtain ⟨brightness, hb⟩ := hagreeing.brightness
  obtain ⟨volume, hv⟩ := hagreeing.volume
  obtain ⟨timeout, ht⟩ := hagreeing.timeout
  exact { hagreeing with
    brightness := ⟨brightness, { hb with page := by simp }⟩
    volume := ⟨volume, { hv with page := by simp }⟩
    timeout := ⟨timeout, { ht with page := by simp }⟩
    closed := fun _ => ⟨hcallback, hbrightness, hvolume⟩ }

theorem Agreeing.moveBrightness (hagreeing : panel.Agreeing) {page : SystemPage}
    (hpage : panel.page = some page) (hcallback : panel.callback = none)
    (hawake : panel.sleep.state = .awake) (hrestore : panel.restore = none) (value : Brightness) :
    Agreeing { panel.updateNormalBrightness value with
      page := some { page with brightness := value }
      callback := some (.setDisplay value)
      brightnessMoved := true } := by
  obtain ⟨volume, hv⟩ := hagreeing.volume
  obtain ⟨timeout, ht⟩ := hagreeing.timeout
  refine ⟨⟨value, rfl, ?_, ?_, ?_, ?_, ?_⟩, ⟨volume, { hv with page := ?_ }⟩,
    ⟨timeout, { ht with page := ?_, saved := ?_, toUpdate := ?_ }⟩, ?_, ?_, ?_, fun _ => hawake,
    hagreeing.dark⟩
  · exact fun _ hnone => absurd rfl (hnone value)
  · rintro _ ⟨⟩
    rfl
  · rintro ⟨⟩
  · rintro _ ⟨⟩
    rfl
  · rintro _ ⟨⟩
  · rintro _ ⟨⟩
    exact hv.page page hpage
  · rintro _ ⟨⟩
    exact ht.page page hpage
  · exact fun _ => ht.saved (by simp [hcallback])
  · rintro _ ⟨⟩
  · exact fun stage hstage => absurd (hrestore.symm.trans hstage) (by simp)
  · exact fun hrunning => absurd hrestore hrunning
  · rintro ⟨⟩

theorem Agreeing.moveVolume (hagreeing : panel.Agreeing) {page : SystemPage}
    (hpage : panel.page = some page) (hawake : panel.sleep.state = .awake)
    (hrestore : panel.restore = none) (value : Volume) :
    Agreeing { panel.applyVolume true value with
      page := some { page with volume := value }
      volumeMoved := true } := by
  obtain ⟨brightness, hb⟩ := hagreeing.brightness
  obtain ⟨timeout, ht⟩ := hagreeing.timeout
  refine ⟨⟨brightness, { hb with page := ?_ }⟩, ⟨value, ?_, ?_, ?_⟩,
    ⟨timeout, { ht with page := ?_ }⟩, ?_, ?_, ?_, fun _ => hawake, hagreeing.dark⟩
  · rintro _ ⟨⟩
    exact hb.page page hpage
  · rintro _ ⟨⟩
    rfl
  · rintro _ ⟨⟩
    rfl
  · rintro ⟨⟩
  · rintro _ ⟨⟩
    exact ht.page page hpage
  · exact fun stage hstage => absurd (hrestore.symm.trans hstage) (by simp)
  · exact fun hrunning => absurd hrestore hrunning
  · rintro ⟨⟩

theorem saved_of_saveBrightness {calls : WriteCalls} (hsucceed : calls.Succeed)
    (entries : ConfigEntries) (value : Brightness) :
    ∃ after, saveBrightness calls entries value.1 = (.ok, after) ∧
      after.saved = { entries.saved with brightness := value } := by
  have hperforms : Performs calls entries (1 ≤ value.1 ∧ value.1 ≤ 100)
      (saveBrightness calls entries value.1)
      (ConfigRequest.apply entries.saved (.brightness value.1)) := saveBrightness_performs value.1
  have hok := hperforms.ok_iff.mpr ⟨value.2, hsucceed⟩
  refine ⟨_, Prod.ext hok rfl, (hperforms.succeeded value.2 hsucceed).trans ?_⟩
  simp only [ConfigRequest.apply, value.2, dif_pos, and_self]

theorem saved_of_saveAudioVolume {calls : WriteCalls} (hsucceed : calls.Succeed)
    (entries : ConfigEntries) (value : Volume) :
    ∃ after, saveAudioVolume calls entries value.1 = (.ok, after) ∧
      after.saved = { entries.saved with audioVolume := value } := by
  have hperforms : Performs calls entries True (saveAudioVolume calls entries value.1)
      (ConfigRequest.apply entries.saved (.audioVolume value.1)) := saveAudioVolume_performs value.1
  have hok := hperforms.ok_iff.mpr ⟨trivial, hsucceed⟩
  refine ⟨_, Prod.ext hok rfl, (hperforms.succeeded trivial hsucceed).trans ?_⟩
  simp only [ConfigRequest.apply, value.2, dif_pos]

theorem saved_of_saveSleepTimeoutMs {calls : WriteCalls} (hsucceed : calls.Succeed)
    (entries : ConfigEntries) (value : SleepTimeout) :
    ∃ after, saveSleepTimeoutMs calls entries value.1 = (.ok, after) ∧
      after.saved = { entries.saved with sleepTimeoutMs := value } := by
  have hperforms : Performs calls entries (isValidSleepTimeoutMs value.1 = true)
      (saveSleepTimeoutMs calls entries value.1)
      (ConfigRequest.apply entries.saved (.sleepTimeoutMs value.1)) :=
    saveSleepTimeoutMs_performs value.1
  have hok := hperforms.ok_iff.mpr ⟨value.2, hsucceed⟩
  refine ⟨_, Prod.ext hok rfl, (hperforms.succeeded value.2 hsucceed).trans ?_⟩
  simp only [ConfigRequest.apply, value.2, dif_pos]

theorem Agreeing.releaseBrightness (hagreeing : panel.Agreeing) {page : SystemPage}
    (hpage : panel.page = some page) (hcallback : panel.callback = none)
    (hawake : panel.sleep.state = .awake) (hrestore : panel.restore = none) {calls : WriteCalls}
    (hsucceed : calls.Succeed) : Agreeing (panel.releaseBrightness calls page.brightness) := by
  obtain ⟨brightness, hb⟩ := hagreeing.brightness
  obtain ⟨volume, hv⟩ := hagreeing.volume
  obtain ⟨timeout, ht⟩ := hagreeing.timeout
  obtain rfl := hb.page page hpage
  obtain ⟨after, hsave, hafter⟩ := saved_of_saveBrightness hsucceed panel.entries page.brightness
  have hsaved : after.saved.brightness = page.brightness := by rw [hafter]
  unfold SystemPanel.releaseBrightness
  rw [hsave]
  refine ⟨⟨page.brightness, hb.normal, ?_, hb.page, fun _ => hsaved, ?_, ?_⟩,
    ⟨volume, { hv with saved := ?_ }⟩, ⟨timeout, { ht with saved := ?_, toUpdate := ?_ }⟩,
    ?_, ?_, ?_, fun _ => hawake, hagreeing.dark⟩
  · exact fun _ _ => hb.display hawake (by simp [hcallback])
  · rintro _ ⟨⟩
  · rintro _ ⟨⟩
    exact ⟨rfl, hsaved⟩
  · exact fun hmoved => (congrArg SavedSettings.audioVolume hafter).trans (hv.saved hmoved)
  · exact fun _ => (congrArg SavedSettings.sleepTimeoutMs hafter).trans (ht.saved (by simp [hcallback]))
  · rintro _ ⟨⟩
  · exact fun stage hstage => absurd (hrestore.symm.trans hstage) (by simp)
  · exact fun hrunning => absurd hrestore hrunning
  · exact fun hclosed => absurd (hclosed.symm.trans hpage) (by simp)

theorem Agreeing.releaseVolume (hagreeing : panel.Agreeing) {page : SystemPage}
    (hpage : panel.page = some page) (hcallback : panel.callback = none)
    (hawake : panel.sleep.state = .awake) (hrestore : panel.restore = none) {calls : WriteCalls}
    (hsucceed : calls.Succeed) : Agreeing (panel.releaseVolume calls page.volume) := by
  obtain ⟨brightness, hb⟩ := hagreeing.brightness
  obtain ⟨volume, hv⟩ := hagreeing.volume
  obtain ⟨timeout, ht⟩ := hagreeing.timeout
  obtain rfl := hv.page page hpage
  obtain ⟨after, hsave, hafter⟩ := saved_of_saveAudioVolume hsucceed panel.entries page.volume
  unfold SystemPanel.releaseVolume
  rw [hsave]
  refine ⟨⟨brightness, { hb with saved := ?_, toUpdate := ?_ }⟩,
    ⟨page.volume, { hv with saved := ?_ }⟩, ⟨timeout, { ht with saved := ?_, toUpdate := ?_ }⟩,
    ?_, ?_, ?_, fun _ => hawake, hagreeing.dark⟩
  · exact fun hmoved => (congrArg SavedSettings.brightness hafter).trans (hb.saved hmoved)
  · exact fun value hvalue => absurd (hcallback.symm.trans hvalue) (by simp)
  · exact fun _ => congrArg SavedSettings.audioVolume hafter
  · exact fun _ => (congrArg SavedSettings.sleepTimeoutMs hafter).trans (ht.saved (by simp [hcallback]))
  · exact fun value hvalue => absurd (hcallback.symm.trans hvalue) (by simp)
  · exact fun stage hstage => absurd (hrestore.symm.trans hstage) (by simp)
  · exact fun hrunning => absurd hrestore hrunning
  · exact fun hclosed => absurd (hclosed.symm.trans hpage) (by simp)

theorem Agreeing.pressTimeout (hagreeing : panel.Agreeing) {page : SystemPage}
    (hpage : panel.page = some page) (hcallback : panel.callback = none)
    (hawake : panel.sleep.state = .awake) (hrestore : panel.restore = none) {calls : WriteCalls}
    (hsucceed : calls.Succeed) (value : SleepTimeout) :
    Agreeing (panel.pressTimeout calls value) := by
  obtain ⟨brightness, hb⟩ := hagreeing.brightness
  obtain ⟨volume, hv⟩ := hagreeing.volume
  obtain ⟨timeout, ht⟩ := hagreeing.timeout
  obtain ⟨after, hsave, hafter⟩ := saved_of_saveSleepTimeoutMs hsucceed panel.entries value
  unfold SystemPanel.pressTimeout
  rw [hsave]
  refine ⟨⟨brightness, { hb with display := ?_, saved := ?_, toShow := ?_, toUpdate := ?_ }⟩,
    ⟨volume, { hv with saved := ?_ }⟩, ⟨timeout, { ht with saved := ?_, toUpdate := ?_ }⟩,
    ?_, ?_, ?_, fun _ => hawake, hagreeing.dark⟩
  · exact fun _ _ => hb.display hawake (by simp [hcallback])
  · exact fun hmoved => (congrArg SavedSettings.brightness hafter).trans (hb.saved hmoved)
  · rintro _ ⟨⟩
  · rintro _ ⟨⟩
  · exact fun hmoved => (congrArg SavedSettings.audioVolume hafter).trans (hv.saved hmoved)
  · exact fun hnone => absurd rfl (hnone value)
  · rintro _ ⟨⟩
    exact congrArg SavedSettings.sleepTimeoutMs hafter
  · exact fun stage hstage => absurd (hrestore.symm.trans hstage) (by simp)
  · exact fun hrunning => absurd hrestore hrunning
  · exact fun hclosed => absurd (hclosed.symm.trans hpage) (by simp)

/-- A callback that goes on brings the homes together again. -/
theorem Agreeing.runCallback (hagreeing : panel.Agreeing) {call : PageCall}
    (hcall : panel.callback = some call) : Agreeing (panel.runCallback true call) := by
  obtain ⟨brightness, hb⟩ := hagreeing.brightness
  obtain ⟨volume, hv⟩ := hagreeing.volume
  obtain ⟨timeout, ht⟩ := hagreeing.timeout
  have hawake := hagreeing.awake (.inr (.inl (by simp [hcall])))
  have hrestore : panel.restore = none := by
    by_contra hrunning
    exact absurd ((hagreeing.alone hrunning).1.symm.trans hcall) (by simp)
  have hopen : panel.page ≠ none := by
    intro hclosed
    exact absurd ((hagreeing.closed hclosed).1.symm.trans hcall) (by simp)
  have hloaded : ∀ stage, panel.restore = some stage → stage.Loaded panel.entries.saved :=
    fun stage hstage => absurd (hrestore.symm.trans hstage) (by simp)
  cases call with
  | setDisplay value =>
      obtain rfl := hb.toShow value hcall
      refine ⟨⟨value, hb.normal, fun _ _ => (isLit_brightness value).mod, hb.page, hb.saved, ?_, ?_⟩,
        ⟨volume, { hv with }⟩, ⟨timeout, { ht with saved := ?_, toUpdate := ?_ }⟩, hloaded, ?_, ?_,
        fun _ => hawake, fun hsleeping => absurd (hawake.symm.trans hsleeping) (by simp)⟩
      · rintro _ ⟨⟩
      · rintro _ ⟨⟩
      · exact fun _ => ht.saved (by simp [hcall])
      · rintro _ ⟨⟩
      · exact fun hrunning => absurd hrestore hrunning
      · exact fun hclosed => absurd hclosed hopen
  | updateBrightness value =>
      obtain ⟨rfl, hsaved⟩ := hb.toUpdate value hcall
      refine ⟨⟨value, rfl, ?_, hb.page, fun _ => hsaved, ?_, ?_⟩, ⟨volume, { hv with }⟩,
        ⟨timeout, { ht with saved := ?_, toUpdate := ?_ }⟩, hloaded, ?_, ?_, fun _ => hawake,
        hagreeing.dark⟩
      · exact fun _ _ => hb.display hawake (by simp [hcall])
      · rintro _ ⟨⟩
      · rintro _ ⟨⟩
      · exact fun _ => ht.saved (by simp [hcall])
      · rintro _ ⟨⟩
      · exact fun hrunning => absurd hrestore hrunning
      · exact fun hclosed => absurd hclosed hopen
  | updateTimeout value =>
      obtain ⟨page, hpage⟩ := Option.ne_none_iff_exists'.mp hopen
      have hsaved := ht.toUpdate value hcall
      unfold SystemPanel.runCallback SystemPanel.updateIdleTimeout
      simp only [updateIdleTimeout_awake hawake, hpage, Option.map_some]
      refine ⟨⟨brightness, hb.normal, ?_, ?_, hb.saved, ?_, ?_⟩, ⟨volume, { hv with page := ?_ }⟩,
        ⟨value, rfl, rfl, ?_, fun _ => hsaved, ?_⟩, hloaded, ?_, ?_, fun _ => hawake,
        hagreeing.dark⟩
      · exact fun _ _ => hb.display hawake (by simp [hcall])
      · rintro _ ⟨⟩
        exact hb.page page hpage
      · rintro _ ⟨⟩
      · rintro _ ⟨⟩
      · rintro _ ⟨⟩
        exact hv.page page hpage
      · rintro _ ⟨⟩
        rfl
      · rintro _ ⟨⟩
      · exact fun hrunning => absurd hrestore hrunning
      · rintro ⟨⟩

/-! ### The sleep mode -/

theorem Agreeing.enterSleep (hagreeing : panel.Agreeing) (hrange : InRange panel.sleep)
    (hidle : ¬panel.Busy) : Agreeing { panel with sleep := panel.sleep.enterSleepInternal.1 } := by
  obtain ⟨brightness, hb⟩ := hagreeing.brightness
  obtain ⟨timeout, ht⟩ := hagreeing.timeout
  cases hstate : panel.sleep.state with
  | awake =>
      rw [enterSleepInternal_awake hstate]
      exact { hagreeing with
        brightness := ⟨brightness, { hb with display := fun hawake _ => (by cases hawake) }⟩
        volume := hagreeing.volume.imp fun _ hv => { hv with }
        timeout := ⟨timeout, { ht with }⟩
        awake := fun hbusy => absurd hbusy hidle
        dark := fun _ => by simp [hrange.dark] }
  | sleeping =>
      rw [enterSleepInternal_sleeping hstate]
      exact hagreeing

theorem Agreeing.wake (hagreeing : panel.Agreeing) (hrange : InRange panel.sleep) :
    Agreeing { panel with sleep := panel.sleep.wakeInternal.1 } := by
  obtain ⟨brightness, hb⟩ := hagreeing.brightness
  obtain ⟨timeout, ht⟩ := hagreeing.timeout
  cases hstate : panel.sleep.state with
  | awake =>
      rw [wakeInternal_awake hstate]
      exact { hagreeing with
        brightness := ⟨brightness, { hb with }⟩
        volume := hagreeing.volume.imp fun _ hv => { hv with }
        timeout := ⟨timeout, { ht with }⟩ }
  | sleeping =>
      have hlevel : panel.sleep.cfg.normalBrightnessPct % 256 = brightness.1.toNat := by
        rw [hrange.normal.mod]
        exact hb.normal
      rw [wakeInternal_sleeping hstate, if_pos hrange.prompt]
      exact { hagreeing with
        brightness := ⟨brightness, { hb with display := fun _ _ => hlevel }⟩
        volume := hagreeing.volume.imp fun _ hv => { hv with }
        timeout := ⟨timeout, { ht with }⟩
        awake := fun _ => rfl
        dark := fun hsleeping => (by cases hsleeping) }

theorem Agreeing.step (hagreeing : panel.Agreeing) (hrange : InRange panel.sleep)
    (hkeeps : Keeps panel event) (hstep : panel.step event = some next) : next.Agreeing := by
  cases event with
  | restoreAsync =>
      obtain ⟨hawake, hidle⟩ := hkeeps
      obtain ⟨-, hcallback, hbrightness, hvolume⟩ := not_busy.mp hidle
      obtain ⟨-, hnext⟩ := Option.ite_none_right_eq_some.mp hstep
      obtain rfl := Option.some.inj hnext
      exact hagreeing.atStage hawake ⟨hcallback, hbrightness, hvolume⟩ trivial
  | restore calls obeys =>
      obtain ⟨hfinds, rfl⟩ := hkeeps
      obtain ⟨stage, hstage, rfl⟩ := Option.map_eq_some_iff.mp hstep
      exact hagreeing.runRestore hfinds hstage
  | createPage brightness volume timeout =>
      obtain ⟨hbrightness, hvolume, htimeout⟩ := hkeeps
      obtain ⟨⟨hclosed, -⟩, hnext⟩ := Option.ite_none_right_eq_some.mp hstep
      obtain rfl := Option.some.inj hnext
      rw [loadBrightness_found hbrightness, loadAudioVolume_found hvolume,
        loadSleepTimeoutMs_found htimeout]
      exact hagreeing.createPage hclosed
  | deletePage =>
      obtain ⟨page, hfree, rfl⟩ := Option.map_eq_some_iff.mp hstep
      exact hagreeing.deletePage (freePage_eq_some.mp hfree).1 hkeeps.1 hkeeps.2
  | moveBrightness value =>
      obtain ⟨hawake, hrestore⟩ := hkeeps
      obtain ⟨page, hfree, rfl⟩ := Option.map_eq_some_iff.mp hstep
      obtain ⟨hcallback, hpage⟩ := freePage_eq_some.mp hfree
      exact hagreeing.moveBrightness hpage hcallback hawake hrestore value
  | releaseBrightness calls =>
      obtain ⟨hawake, hrestore, hsucceed⟩ := hkeeps
      obtain ⟨page, hfree, rfl⟩ := Option.map_eq_some_iff.mp hstep
      obtain ⟨hcallback, hpage⟩ := freePage_eq_some.mp hfree
      exact hagreeing.releaseBrightness hpage hcallback hawake hrestore hsucceed
  | moveVolume value obeys =>
      obtain ⟨hawake, hrestore, rfl⟩ := hkeeps
      obtain ⟨page, hfree, rfl⟩ := Option.map_eq_some_iff.mp hstep
      exact hagreeing.moveVolume (freePage_eq_some.mp hfree).2 hawake hrestore value
  | releaseVolume calls =>
      obtain ⟨hawake, hrestore, hsucceed⟩ := hkeeps
      obtain ⟨page, hfree, rfl⟩ := Option.map_eq_some_iff.mp hstep
      obtain ⟨hcallback, hpage⟩ := freePage_eq_some.mp hfree
      exact hagreeing.releaseVolume hpage hcallback hawake hrestore hsucceed
  | pressTimeout timeout calls =>
      obtain ⟨hawake, hrestore, hsucceed⟩ := hkeeps
      obtain ⟨page, hfree, rfl⟩ := Option.map_eq_some_iff.mp hstep
      obtain ⟨hcallback, hpage⟩ := freePage_eq_some.mp hfree
      exact hagreeing.pressTimeout hpage hcallback hawake hrestore hsucceed timeout
  | continueCallback obeys =>
      obtain rfl : obeys = true := hkeeps
      obtain ⟨call, hcall, rfl⟩ := Option.map_eq_some_iff.mp hstep
      exact hagreeing.runCallback hcall
  | enterSleep obeys =>
      obtain ⟨hidle, rfl⟩ := hkeeps
      obtain rfl := Option.some.inj hstep
      exact hagreeing.enterSleep hrange hidle
  | wake obeys =>
      obtain rfl : obeys = true := hkeeps
      obtain rfl := Option.some.inj hstep
      exact hagreeing.wake hrange

/-- **The settings agree.**  From a settled panel, as long as no call fails and the tasks keep out of
each other's way, the panel is settled again whenever nothing is on its way. -/
theorem settings_agree (hreached : settledMachine.ReachedBy Keeps panel) (hidle : ¬panel.Busy) :
    panel.Settled := by
  have hkept : InRange panel.sleep ∧ Agreeing panel := by
    refine Machine.ReachedBy.invariant (I := fun panel => InRange panel.sleep ∧ Agreeing panel)
      ?_ ?_ hreached
    · intro panel hstart
      exact ⟨reachable_inRange hstart.1, hstart.2.1.agreeing hstart.2.2⟩
    · rintro panel event next - ⟨hrange, hagreeing⟩ hkeeps hstep
      exact ⟨hrange.change (step_sleep hstep), hagreeing.step hrange hkeeps hstep⟩
  exact hkept.2.settled hidle

/-- The panel that starts with an empty namespace. -/
def freshPanel : SystemPanel where
  entries := {}
  sleep :=
    { cfg :=
        { idleTimeoutMs := 180000
          normalBrightnessPct := 80
          sleepBrightnessPct := 0
          wakeBrightnessDelayMs := 0 }
      state := .awake
      idleTimer := { period := 180000, armed := true }
      wakeBrightnessTimer := { period := 1 }
      brightness := 80 }

theorem start_freshPanel : machine.start freshPanel :=
  ⟨true, {}, {}, {}, freshPanel.sleep, 0, rfl, rfl⟩

/-- A brightness of 30, a volume of 10 and a minute are set on the page; the panel sleeps, wakes and
is restored. -/
def changeEvents : List SystemEvent :=
  [.createPage {} {} {}, .moveBrightness ⟨30, by decide⟩, .continueCallback true,
    .releaseBrightness {}, .continueCallback true, .moveVolume ⟨10, by decide⟩ true,
    .releaseVolume {}, .pressTimeout ⟨60000, by decide⟩ {}, .continueCallback true, .enterSleep true,
    .wake true, .restoreAsync] ++ List.replicate 7 (.restore {} true)

theorem settings_agree_changed :
    ∃ panel, settledMachine.replay freshPanel changeEvents = some panel ∧
      panel.entries.brightness = some 30 ∧ panel.Settled := by
  have hstart : settledMachine.start freshPanel := by
    refine ⟨.start start_freshPanel, ⟨rfl, rfl, rfl, rfl, ?_, ?_⟩, by decide⟩
    · rintro _ ⟨⟩
    · rintro _ ⟨⟩
  have hadmitted : settledMachine.Admitted Keeps freshPanel changeEvents := by decide +kernel
  exact ⟨_, rfl, rfl, settings_agree (.replay (.start hstart) hadmitted rfl) (by decide +kernel)⟩

/-! ## Restoring -/

/-- The panel with the values that NVS holds in every home, while the page is closed. -/
def restored (panel : SystemPanel) : SystemPanel :=
  let used := (panel.updateNormalBrightness panel.entries.saved.brightness).updateIdleTimeout
    panel.entries.saved.sleepTimeoutMs
  let shown := (used.setDisplay true panel.entries.saved.brightness).applyVolume true
    panel.entries.saved.audioVolume
  { shown with restore := none, brightnessMoved := false, volumeMoved := false }

/-- The events of a restore that nothing disturbs. -/
def restoreEvents (calls : ReadCalls) : List SystemEvent :=
  .restoreAsync :: List.replicate 7 (.restore calls true)

theorem replay_restoreEvents (hrestore : panel.restore = none) {calls : ReadCalls}
    (hfinds : Finds calls) :
    machine.replay panel (restoreEvents calls) = some panel.restored := by
  have hbrightness := loadBrightness_found hfinds panel.entries
  have hvolume := loadAudioVolume_found hfinds panel.entries
  have htimeout := loadSleepTimeoutMs_found hfinds panel.entries
  simp only [restoreEvents, List.replicate, Machine.replay, machine, step, hrestore, if_true,
    Option.bind_some, Option.map_some, runRestore, hbrightness, hvolume, htimeout]
  rfl

theorem restored_settled (hawake : panel.sleep.state = .awake) (hcallback : panel.callback = none)
    (hclosed : panel.page = none) : panel.restored.Settled ∧ ¬panel.restored.Busy := by
  have hlevel := (isLit_brightness panel.entries.saved.brightness).mod
  have hstate : (panel.updateNormalBrightness panel.entries.saved.brightness).sleep.state = .awake :=
    hawake
  have hupdate := updateIdleTimeout_awake hstate panel.entries.saved.sleepTimeoutMs
  unfold restored updateIdleTimeout
  rw [hupdate]
  refine ⟨⟨rfl, rfl, rfl, ?_, ?_, ?_⟩, not_busy.mpr ⟨rfl, hcallback, rfl, rfl⟩⟩
  · exact hlevel.trans (if_pos hawake).symm
  · rintro _ ⟨⟩
    rfl
  · exact fun page hpage => absurd (hclosed.symm.trans hpage) (by simp)

/-- **A restore settles the panel.**  Whatever has failed or interfered before, a restore that nothing
disturbs leaves a settled panel, if the page is closed and NVS can be read. -/
theorem restore_settles (hreached : machine.Reachable panel) (hawake : panel.sleep.state = .awake)
    (hrestore : panel.restore = none) (hcallback : panel.callback = none)
    (hclosed : panel.page = none) {calls : ReadCalls} (hfinds : Finds calls) :
    ∃ restored, machine.replay panel (restoreEvents calls) = some restored ∧
      settledMachine.start restored := by
  have hreplay := replay_restoreEvents hrestore hfinds
  refine ⟨panel.restored, hreplay, ?_, restored_settled hawake hcallback hclosed⟩
  exact Machine.ReachedBy.replay hreached (Machine.admitted_true _) hreplay

/-- The volume is changed while NVS refuses to write, and the page is left. -/
def unsavedEvents : List SystemEvent :=
  [.createPage {} {} {}, .moveVolume ⟨10, by decide⟩ true, .releaseVolume { written := .fail },
    .deletePage]

theorem restore_settles_unsaved :
    ∃ panel, machine.replay freshPanel unsavedEvents = some panel ∧
      panel.codecVolume = some ⟨10, by decide⟩ ∧ panel.entries.saved.audioVolume = ⟨80, by decide⟩ ∧
      ∃ restored, machine.replay panel (restoreEvents {}) = some restored ∧
        settledMachine.start restored := by
  refine ⟨_, rfl, rfl, rfl, restore_settles ?_ rfl rfl rfl rfl ⟨rfl, rfl⟩⟩
  exact Machine.reachable_of_replay start_freshPanel
    (show machine.replay freshPanel unsavedEvents = some _ from rfl)

end SystemPanel

end CrowPanel.Settings
