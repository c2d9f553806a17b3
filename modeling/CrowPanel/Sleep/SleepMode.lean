import CrowPanel.Library.OneShotTimer
import CrowPanel.DataModel.Types

/-!
# The sleep state machine

`SleepMode` is the context of `sleep_mode.c` once `sleep_init` has succeeded.  The functions below are
the sections that run under its mutex; a section which changes the state also returns the event that
its caller posts after it has released the mutex.  `brightness` is the level that the driver has been
given; the sleep mode does not look at what the driver answers.  Timer commands succeed, and with a tick
rate of 1 kHz a timer period in ticks is the time in milliseconds.
-/

namespace CrowPanel.Sleep

open Library

/-- `sleep_state_t` -/
inductive SleepState where
  | awake
  | sleeping
  deriving DecidableEq

/-- `sleep_evt_t` -/
inductive SleepEvt where
  | enter
  | wake
  deriving DecidableEq

/-- The settings of `sleep_cfg_t`; the brightness driver is represented by the levels it is given. -/
structure SleepCfg where
  idleTimeoutMs : ℕ
  normalBrightnessPct : ℤ
  sleepBrightnessPct : ℤ
  wakeBrightnessDelayMs : ℕ
  deriving DecidableEq

/-- `sleep_ctx_t` after `sleep_init`, with the last level given to the brightness driver. -/
structure SleepMode where
  cfg : SleepCfg
  state : SleepState
  idleTimer : OneShotTimer
  wakeBrightnessTimer : OneShotTimer
  brightness : ℤ
  deriving DecidableEq

namespace SleepMode

/-- Calls the brightness driver; the level is converted to `uint8_t`. -/
def brightnessSet (mode : SleepMode) (pct : ℤ) : SleepMode :=
  { mode with brightness := pct % 256 }

/-- `sleep_init` with its allocations succeeding. -/
def init (cfg : SleepCfg) : Except EspErr SleepMode :=
  if cfg.idleTimeoutMs = 0 then .error .invalidArg
  else if cfg.normalBrightnessPct < 0 ∨ 100 < cfg.normalBrightnessPct then .error .invalidArg
  else if cfg.sleepBrightnessPct < 0 ∨ 100 < cfg.sleepBrightnessPct then .error .invalidArg
  else .ok
    { cfg
      state := .awake
      idleTimer := ({ period := cfg.idleTimeoutMs } : OneShotTimer).reset
      wakeBrightnessTimer := { period := 1 }
      brightness := cfg.normalBrightnessPct % 256 }

/-- `restart_idle_timer_locked` -/
def restartIdleTimer (mode : SleepMode) : SleepMode :=
  { mode with idleTimer := mode.idleTimer.reset }

/-- The section of `enter_sleep_internal`. -/
def enterSleepInternal (mode : SleepMode) : SleepMode × Option SleepEvt :=
  match mode.state with
  | .awake =>
      let dimmed := brightnessSet
        { mode with wakeBrightnessTimer := mode.wakeBrightnessTimer.stop }
        mode.cfg.sleepBrightnessPct
      ({ dimmed with state := .sleeping }, some .enter)
  | .sleeping => (mode, none)

/-- The section of `wake_internal`. -/
def wakeInternal (mode : SleepMode) : SleepMode × Option SleepEvt :=
  match mode.state with
  | .sleeping =>
      let awake := restartIdleTimer { mode with state := .awake }
      if mode.cfg.wakeBrightnessDelayMs = 0 then
        (brightnessSet awake mode.cfg.normalBrightnessPct, some .wake)
      else
        ({ awake with
          wakeBrightnessTimer :=
            (awake.wakeBrightnessTimer.changePeriod mode.cfg.wakeBrightnessDelayMs).reset },
          some .wake)
  | .awake => (restartIdleTimer mode, none)

/-- `wake_brightness_timer_cb` -/
def wakeBrightnessTimerCb (mode : SleepMode) : SleepMode :=
  match mode.state with
  | .awake => brightnessSet mode mode.cfg.normalBrightnessPct
  | .sleeping => mode

/-- `sleep_update_normal_brightness` -/
def updateNormalBrightness (mode : SleepMode) (brightnessPct : ℤ) : SleepMode :=
  { mode with cfg := { mode.cfg with normalBrightnessPct := brightnessPct } }

/-- `sleep_update_idle_timeout` -/
def updateIdleTimeout (mode : SleepMode) (idleTimeoutMs : ℕ) : SleepMode :=
  if idleTimeoutMs = 0 then mode
  else
    let updated := { mode with cfg := { mode.cfg with idleTimeoutMs } }
    match mode.state with
    | .awake => restartIdleTimer
        { updated with idleTimer := updated.idleTimer.changePeriod idleTimeoutMs }
    | .sleeping => updated

end SleepMode

/-- What `sleep_init` accepts, and the context it leaves. -/
theorem init_eq_ok {cfg : SleepCfg} {mode : SleepMode} (hinit : SleepMode.init cfg = .ok mode) :
    0 ≤ cfg.sleepBrightnessPct ∧ cfg.sleepBrightnessPct ≤ 100 ∧
      mode = { cfg
               state := .awake
               idleTimer := { period := cfg.idleTimeoutMs, armed := true }
               wakeBrightnessTimer := { period := 1 }
               brightness := cfg.normalBrightnessPct % 256 } := by
  unfold SleepMode.init at hinit
  split at hinit
  · cases hinit
  split at hinit
  · cases hinit
  split at hinit
  · cases hinit
  · next hsleep =>
      rw [not_or, not_lt, not_lt] at hsleep
      exact ⟨hsleep.1, hsleep.2, (Except.ok.inj hinit).symm⟩

/-! ## What a section does to the state -/

/-- The state a posted event announces. -/
def SleepEvt.target : SleepEvt → SleepState
  | .enter => .sleeping
  | .wake => .awake

variable {mode next : SleepMode} {posted : Option SleepEvt}

/-- A section either posts nothing and keeps the state, or it leaves the other state for the one
its event announces. -/
def Announces (mode next : SleepMode) : Option SleepEvt → Prop
  | none => next.state = mode.state
  | some evt => mode.state ≠ evt.target ∧ next.state = evt.target

theorem enterSleepInternal_announces (mode : SleepMode) :
    Announces mode mode.enterSleepInternal.1 mode.enterSleepInternal.2 := by
  unfold SleepMode.enterSleepInternal
  cases hstate : mode.state <;> simp [Announces, SleepEvt.target, hstate]

theorem wakeInternal_announces (mode : SleepMode) :
    Announces mode mode.wakeInternal.1 mode.wakeInternal.2 := by
  unfold SleepMode.wakeInternal
  cases hstate : mode.state with
  | awake => simp [Announces, SleepMode.restartIdleTimer]
  | sleeping =>
      dsimp only
      split <;> simp [Announces, SleepEvt.target, SleepMode.restartIdleTimer,
        SleepMode.brightnessSet, hstate]

/-- Going to sleep dims the display, whatever the wake-brightness timer was going to do. -/
theorem enterSleepInternal_awake (hawake : mode.state = .awake) :
    mode.enterSleepInternal.1 =
      { mode with
        wakeBrightnessTimer := mode.wakeBrightnessTimer.stop
        brightness := mode.cfg.sleepBrightnessPct % 256
        state := .sleeping } := by
  simp [SleepMode.enterSleepInternal, hawake, SleepMode.brightnessSet]

theorem enterSleepInternal_sleeping (hsleeping : mode.state = .sleeping) :
    mode.enterSleepInternal.1 = mode := by
  simp [SleepMode.enterSleepInternal, hsleeping]

theorem wakeInternal_awake (hawake : mode.state = .awake) :
    mode.wakeInternal.1 = { mode with idleTimer := mode.idleTimer.reset } := by
  simp [SleepMode.wakeInternal, hawake, SleepMode.restartIdleTimer]

/-- A wake lights the display at once, or arms the timer that will do it. -/
theorem wakeInternal_sleeping (hsleeping : mode.state = .sleeping) :
    mode.wakeInternal.1 =
      if mode.cfg.wakeBrightnessDelayMs = 0 then
        { mode with
          idleTimer := mode.idleTimer.reset
          brightness := mode.cfg.normalBrightnessPct % 256
          state := .awake }
      else
        { mode with
          idleTimer := mode.idleTimer.reset
          wakeBrightnessTimer :=
            (mode.wakeBrightnessTimer.changePeriod mode.cfg.wakeBrightnessDelayMs).reset
          state := .awake } := by
  simp only [SleepMode.wakeInternal, hsleeping, SleepMode.restartIdleTimer,
    SleepMode.brightnessSet]
  split <;> rfl

@[simp] theorem wakeBrightnessTimerCb_state (mode : SleepMode) :
    mode.wakeBrightnessTimerCb.state = mode.state := by
  unfold SleepMode.wakeBrightnessTimerCb
  cases hstate : mode.state <;> simp [SleepMode.brightnessSet, hstate]

@[simp] theorem updateIdleTimeout_state (mode : SleepMode) (idleTimeoutMs : ℕ) :
    (mode.updateIdleTimeout idleTimeoutMs).state = mode.state := by
  unfold SleepMode.updateIdleTimeout
  split
  · rfl
  · cases hstate : mode.state <;> simp [SleepMode.restartIdleTimer]

@[simp] theorem updateIdleTimeout_brightness (mode : SleepMode) (idleTimeoutMs : ℕ) :
    (mode.updateIdleTimeout idleTimeoutMs).brightness = mode.brightness := by
  unfold SleepMode.updateIdleTimeout
  split
  · rfl
  · cases hstate : mode.state <;> simp [SleepMode.restartIdleTimer]

end CrowPanel.Sleep
