import CrowPanel.Sleep.PauseBalance

/-!
# The timers of the sleep state machine

Two one-shot timers drive the display: the idle timer puts it to sleep, and after a wake the
wake-brightness timer may restore its brightness late.  Both invariants below are about what was
done last: which idle timeout was set, and which brightness was commanded.  Each of these is a
history variable beside the panel.

## Strategy

`step_sleep` says once what an event can do to the sleep context.  Every invariant is a case
analysis on it, with the two sections of `SleepMode` read by their state.
-/

namespace CrowPanel.Sleep.Panel

open Library

/-! ## What a step does to the sleep context -/

/-- The sleep context after an event. -/
inductive SleepStep (mode : SleepMode) : PanelEvent → SleepMode → Prop
  | idleExpiry {idleTimer : OneShotTimer} (htimer : mode.idleTimer.expire = some idleTimer) :
      SleepStep mode .idleExpiry { mode with idleTimer }
  | idleCallback {idleTimer : OneShotTimer}
      (htimer : mode.idleTimer.takeCallback = some idleTimer) :
      SleepStep mode .idleCallback { mode with idleTimer }.enterSleepInternal.1
  | wakeBrightnessExpiry {wakeBrightnessTimer : OneShotTimer}
      (htimer : mode.wakeBrightnessTimer.expire = some wakeBrightnessTimer) :
      SleepStep mode .wakeBrightnessExpiry { mode with wakeBrightnessTimer }
  | wakeBrightnessCallback {wakeBrightnessTimer : OneShotTimer}
      (htimer : mode.wakeBrightnessTimer.takeCallback = some wakeBrightnessTimer) :
      SleepStep mode .wakeBrightnessCallback
        { mode with wakeBrightnessTimer }.wakeBrightnessTimerCb
  | forceSleep : SleepStep mode .forceSleep mode.enterSleepInternal.1
  | forceWake : SleepStep mode .forceWake mode.wakeInternal.1
  | notifyActivity : SleepStep mode .notifyActivity mode.wakeInternal.1
  | updateNormalBrightness (brightnessPct : ℤ) :
      SleepStep mode (.updateNormalBrightness brightnessPct)
        (mode.updateNormalBrightness brightnessPct)
  | updateIdleTimeout (idleTimeoutMs : ℕ) :
      SleepStep mode (.updateIdleTimeout idleTimeoutMs) (mode.updateIdleTimeout idleTimeoutMs)
  | post (call : ℕ) : SleepStep mode (.post call) mode
  | deliver : SleepStep mode .deliver mode
  | openSettings : SleepStep mode .openSettings mode
  | closeSettings : SleepStep mode .closeSettings mode

variable {panel next : Panel} {event : PanelEvent}

theorem step_sleep (hstep : panel.step event = some next) :
    SleepStep panel.sleep event next.sleep := by
  cases event with
  | idleExpiry =>
      obtain ⟨_, htimer, rfl⟩ := Option.map_eq_some_iff.mp hstep
      exact .idleExpiry htimer
  | idleCallback =>
      obtain ⟨_, htimer, rfl⟩ := Option.map_eq_some_iff.mp hstep
      exact .idleCallback htimer
  | wakeBrightnessExpiry =>
      obtain ⟨_, htimer, rfl⟩ := Option.map_eq_some_iff.mp hstep
      exact .wakeBrightnessExpiry htimer
  | wakeBrightnessCallback =>
      obtain ⟨_, htimer, rfl⟩ := Option.map_eq_some_iff.mp hstep
      exact .wakeBrightnessCallback htimer
  | forceSleep =>
      obtain rfl := Option.some.inj hstep
      exact .forceSleep
  | forceWake =>
      obtain rfl := Option.some.inj hstep
      exact .forceWake
  | notifyActivity =>
      obtain rfl := Option.some.inj hstep
      exact .notifyActivity
  | updateNormalBrightness brightnessPct =>
      obtain rfl := Option.some.inj hstep
      exact .updateNormalBrightness brightnessPct
  | updateIdleTimeout idleTimeoutMs =>
      obtain rfl := Option.some.inj hstep
      exact .updateIdleTimeout idleTimeoutMs
  | post call =>
      obtain ⟨_, -, rfl⟩ := Option.map_eq_some_iff.mp hstep
      exact .post call
  | deliver =>
      cases hqueue : panel.queue with
      | nil => simp [step, hqueue] at hstep
      | cons evt queue =>
          obtain rfl : _ = next := by simpa [step, hqueue] using hstep
          exact .deliver
  | openSettings =>
      obtain rfl : panel.openSettings = next := Option.some.inj hstep
      have hsleep : panel.openSettings.sleep = panel.sleep := by
        unfold openSettings
        split <;> rfl
      rw [hsleep]
      exact .openSettings
  | closeSettings =>
      obtain rfl : panel.closeSettings = next := Option.some.inj hstep
      have hsleep : panel.closeSettings.sleep = panel.sleep := by
        unfold closeSettings
        split <;> rfl
      rw [hsleep]
      exact .closeSettings

/-! ## The idle timer -/

/-- The idle timeout that was last set while the display was awake. -/
def noteTimeout (panel : Panel) : PanelEvent → ℕ → ℕ
  | .updateIdleTimeout idleTimeoutMs, timeout =>
      if idleTimeoutMs ≠ 0 ∧ panel.sleep.state = .awake then idleTimeoutMs else timeout
  | _, timeout => timeout

/-- The panel beside the idle timeout that was last set while the display was awake. -/
def timeoutMachine : Machine (Panel × ℕ) PanelEvent :=
  machine.withHistoryFrom (fun panel => panel.sleep.cfg.idleTimeoutMs) noteTimeout

/-- While the display is awake the idle timer runs with the configured timeout, or has expired and
is about to put the display to sleep. -/
def IdleTimerSet (panel : Panel) : Prop :=
  panel.sleep.state = .awake →
    (panel.sleep.idleTimer.armed = true ∧
        panel.sleep.idleTimer.period = panel.sleep.cfg.idleTimeoutMs) ∨
      panel.sleep.idleTimer.pending = true

/-- If the event wakes the display, the configured timeout is the one that was last set while the
display was awake, or the callback of the idle timer is pending. -/
def WakesWithTimeout (state : Panel × ℕ) : PanelEvent → Prop
  | .forceWake | .notifyActivity => state.1.sleep.state = .sleeping →
      state.1.sleep.cfg.idleTimeoutMs = state.2 ∨ state.1.sleep.idleTimer.pending = true
  | _ => True

instance (state : Panel × ℕ) : ∀ event, Decidable (WakesWithTimeout state event)
  | .forceWake | .notifyActivity => inferInstanceAs (Decidable (_ → _))
  | .idleExpiry | .idleCallback | .wakeBrightnessExpiry | .wakeBrightnessCallback | .forceSleep
  | .updateNormalBrightness _ | .updateIdleTimeout _ | .post _ | .deliver | .openSettings
  | .closeSettings => inferInstanceAs (Decidable True)

/-- What the steps keep, as long as they meet the condition. -/
structure TimeoutKept (mode : SleepMode) (timeout : ℕ) : Prop where
  period_eq : mode.idleTimer.period = timeout
  live : mode.state = .awake → mode.idleTimer.Live
  timeout_eq : mode.state = .awake → mode.cfg.idleTimeoutMs = timeout ∨ mode.idleTimer.pending = true

variable {mode after : SleepMode} {timeout : ℕ}

theorem TimeoutKept.idleTimerSet (hkept : TimeoutKept panel.sleep timeout) : IdleTimerSet panel := by
  intro hawake
  obtain hsame | hpending := hkept.timeout_eq hawake
  · obtain harmed | hpending := hkept.live hawake
    · exact .inl ⟨harmed, by rw [hkept.period_eq, hsame]⟩
    · exact .inr hpending
  · exact .inr hpending

/-- A display that goes to sleep leaves its idle timer alone. -/
theorem TimeoutKept.enterSleep (hperiod : mode.idleTimer.period = timeout) :
    TimeoutKept mode.enterSleepInternal.1 timeout := by
  cases hstate : mode.state with
  | awake =>
      rw [enterSleepInternal_awake hstate]
      exact ⟨hperiod, nofun, nofun⟩
  | sleeping =>
      have hvacuous : mode.state ≠ .awake := by simp [hstate]
      rw [enterSleepInternal_sleeping hstate]
      exact ⟨hperiod, fun hawake => absurd hawake hvacuous, fun hawake => absurd hawake hvacuous⟩

/-- A wake arms the idle timer with the period it has. -/
theorem TimeoutKept.wake (hkept : TimeoutKept mode timeout)
    (hwakes : mode.state = .sleeping →
      mode.cfg.idleTimeoutMs = timeout ∨ mode.idleTimer.pending = true) :
    TimeoutKept mode.wakeInternal.1 timeout := by
  cases hstate : mode.state with
  | awake =>
      rw [wakeInternal_awake hstate]
      exact ⟨hkept.period_eq, fun _ => .inl rfl, hkept.timeout_eq⟩
  | sleeping =>
      rw [wakeInternal_sleeping hstate]
      split <;> exact ⟨hkept.period_eq, fun _ => .inl rfl, fun _ => hwakes hstate⟩

theorem TimeoutKept.updateIdleTimeout (hkept : TimeoutKept mode timeout) (idleTimeoutMs : ℕ) :
    TimeoutKept (mode.updateIdleTimeout idleTimeoutMs)
      (if idleTimeoutMs ≠ 0 ∧ mode.state = .awake then idleTimeoutMs else timeout) := by
  by_cases hzero : idleTimeoutMs = 0
  · simpa only [SleepMode.updateIdleTimeout, hzero, if_true, ne_eq, not_true_eq_false, false_and,
      if_false] using hkept
  · cases hstate : mode.state with
    | awake =>
        simp only [SleepMode.updateIdleTimeout, hzero, hstate, SleepMode.restartIdleTimer, ne_eq,
          not_false_eq_true, and_self, if_true, if_false]
        exact ⟨rfl, fun _ => .inl rfl, fun _ => .inl rfl⟩
    | sleeping =>
        -- the configuration changes, but neither the timer nor what was set while awake
        have hvacuous : mode.state ≠ .awake := by simp [hstate]
        simp only [SleepMode.updateIdleTimeout, hzero, hstate, ne_eq, not_false_eq_true,
          reduceCtorEq, and_false, if_false]
        refine ⟨hkept.period_eq, ?_, ?_⟩
        · intro hawake
          cases hawake
        · intro hawake
          cases hawake

theorem TimeoutKept.step (hkept : TimeoutKept panel.sleep timeout)
    (hwakes : WakesWithTimeout (panel, timeout) event)
    (hstep : SleepStep panel.sleep event after) :
    TimeoutKept after (noteTimeout panel event timeout) := by
  cases hstep with
  | idleExpiry htimer =>
      obtain ⟨-, -, rfl⟩ := OneShotTimer.expire_eq_some_iff.mp htimer
      exact ⟨hkept.period_eq, fun _ => .inr rfl, fun _ => .inr rfl⟩
  | idleCallback htimer =>
      obtain ⟨-, rfl⟩ := OneShotTimer.takeCallback_eq_some_iff.mp htimer
      exact .enterSleep hkept.period_eq
  | forceSleep => exact .enterSleep hkept.period_eq
  | forceWake => exact hkept.wake hwakes
  | notifyActivity => exact hkept.wake hwakes
  | updateIdleTimeout idleTimeoutMs => exact hkept.updateIdleTimeout idleTimeoutMs
  | wakeBrightnessCallback htimer =>
      unfold SleepMode.wakeBrightnessTimerCb
      split <;> exact ⟨hkept.period_eq, hkept.live, hkept.timeout_eq⟩
  | wakeBrightnessExpiry htimer => exact ⟨hkept.period_eq, hkept.live, hkept.timeout_eq⟩
  | updateNormalBrightness => exact ⟨hkept.period_eq, hkept.live, hkept.timeout_eq⟩
  | post | deliver | openSettings | closeSettings => exact hkept

theorem timeoutKept_start {state : Panel × ℕ} (hstart : timeoutMachine.start state) :
    TimeoutKept state.1.sleep state.2 := by
  obtain ⟨⟨⟨cfg, hinit⟩, -⟩, horigin⟩ := hstart
  obtain ⟨-, -, hmode⟩ := init_eq_ok hinit
  have htimeout : state.2 = state.1.sleep.cfg.idleTimeoutMs := horigin
  rw [htimeout, hmode]
  exact ⟨rfl, fun _ => .inl rfl, fun _ => .inl rfl⟩

theorem timeoutKept_reached {state : Panel × ℕ}
    (hreached : timeoutMachine.ReachedBy WakesWithTimeout state) :
    TimeoutKept state.1.sleep state.2 := by
  refine hreached.invariant (I := fun state => TimeoutKept state.1.sleep state.2)
    (fun _ => timeoutKept_start) ?_
  intro state event next _ hkept hwakes hstep
  obtain ⟨hpanel, hnote⟩ := Machine.withHistoryFrom_step hstep
  rw [hnote]
  exact hkept.step hwakes (step_sleep hpanel)

/-- A wake that finds another timeout configured arms the timer with the wrong period. -/
theorem not_idleTimerSet_of_wake (hkept : TimeoutKept mode timeout)
    (hsleeping : mode.state = .sleeping) (hother : mode.cfg.idleTimeoutMs ≠ timeout)
    (hpending : mode.idleTimer.pending = false) (hwake : next.sleep = mode.wakeInternal.1) :
    ¬IdleTimerSet next := by
  intro hset
  rw [wakeInternal_sleeping hsleeping] at hwake
  have hawake : next.sleep.state = .awake := by
    rw [hwake]
    split <;> rfl
  have htimer : next.sleep.idleTimer = mode.idleTimer.reset := by
    rw [hwake]
    split <;> rfl
  have hcfg : next.sleep.cfg = mode.cfg := by
    rw [hwake]
    split <;> rfl
  obtain ⟨-, hperiod⟩ | hstill := hset hawake
  · rw [htimer, hcfg] at hperiod
    exact hother (hperiod.symm.trans hkept.period_eq)
  · rw [htimer] at hstill
    simp [OneShotTimer.reset, hpending] at hstill

/-- In every run in which each wake finds the timeout that was last set while the display was awake
(or the callback of the idle timer pending), the idle timer of an awake display runs with the
configured timeout or its callback is pending.  A wake that meets neither ends this. -/
theorem idleTimer_set {state : Panel × ℕ}
    (hreached : timeoutMachine.ReachedBy WakesWithTimeout state) :
    IdleTimerSet state.1 ∧
      ∀ event next, timeoutMachine.step state event = some next →
        (IdleTimerSet next.1 ↔ WakesWithTimeout state event) := by
  have hkept := timeoutKept_reached hreached
  refine ⟨hkept.idleTimerSet, fun event next hstep => ?_⟩
  refine ⟨fun hset => ?_, fun hwakes =>
    (timeoutKept_reached (.step hreached hwakes hstep)).idleTimerSet⟩
  have hsleep := step_sleep (Machine.withHistoryFrom_step hstep).1
  by_contra hfails
  cases event with
  | forceWake | notifyActivity =>
      simp only [WakesWithTimeout, not_forall, not_or, Bool.not_eq_true] at hfails
      obtain ⟨hsleeping, hother, hpending⟩ := hfails
      refine not_idleTimerSet_of_wake hkept hsleeping hother hpending ?_ hset
      generalize next.1.sleep = after at hsleep
      cases hsleep
      rfl
  | idleExpiry | idleCallback | wakeBrightnessExpiry | wakeBrightnessCallback | forceSleep
  | updateNormalBrightness | updateIdleTimeout | post | deliver | openSettings
  | closeSettings => exact hfails trivial

/-- The timeout is shortened and the display sleeps on idle, then wakes. -/
theorem idleTimer_set_idle_run :
    let events : List PanelEvent :=
      [.updateIdleTimeout 30000, .idleExpiry, .idleCallback, .notifyActivity]
    ∃ state, timeoutMachine.replay (started, 60000) events = some state ∧
      IdleTimerSet state.1 := by
  intro events
  have hreplay : timeoutMachine.replay (started, 60000) events =
      some ((timeoutMachine.replay (started, 60000) events).get rfl) := (Option.some_get _).symm
  refine ⟨_, hreplay, (idleTimer_set ?_).1⟩
  have hstart : timeoutMachine.start (started, 60000) := ⟨started_start, rfl⟩
  exact Machine.ReachedBy.replay (.start hstart)
    (show timeoutMachine.Admitted WakesWithTimeout _ _ by decide) hreplay

/-- The timeout is shortened while the display sleeps. -/
def timeoutSetAsleep : List PanelEvent :=
  [.forceSleep, .updateIdleTimeout 30000, .forceWake]

/-- The display is awake and its idle timer runs with the old period. -/
theorem timeoutSetAsleep_keeps_old_period :
    ∃ panel, machine.replay started timeoutSetAsleep = some panel ∧ machine.Reachable panel ∧
      panel.sleep.cfg.idleTimeoutMs = 30000 ∧ panel.sleep.idleTimer.period = 60000 ∧
      ¬IdleTimerSet panel := by
  have hreplay : machine.replay started timeoutSetAsleep =
      some ((machine.replay started timeoutSetAsleep).get rfl) := (Option.some_get _).symm
  refine ⟨_, hreplay, Machine.reachable_of_replay started_start hreplay, rfl, rfl, fun hset => ?_⟩
  obtain ⟨-, hperiod⟩ | hpending := hset rfl
  · exact absurd hperiod (by decide)
  · exact absurd hpending (by decide)

/-! ## The backlight -/

/-- A level given to the brightness driver, and the normal brightness configured at that time. -/
structure BrightnessCommand where
  level : ℤ
  normal : ℤ
  deriving DecidableEq

/-- The level that the event makes `sleep_mode` give to the driver. -/
def commandedLevel (mode : SleepMode) : PanelEvent → Option ℤ
  | .idleCallback | .forceSleep =>
      if mode.state = .awake then some mode.cfg.sleepBrightnessPct else none
  | .forceWake | .notifyActivity =>
      if mode.state = .sleeping ∧ mode.cfg.wakeBrightnessDelayMs = 0 then
        some mode.cfg.normalBrightnessPct
      else none
  | .wakeBrightnessCallback =>
      if mode.state = .awake then some mode.cfg.normalBrightnessPct else none
  | _ => none

/-- The last command, once a level has been given to the driver or none has. -/
def BrightnessCommand.record (last : BrightnessCommand) (mode : SleepMode) :
    Option ℤ → BrightnessCommand
  | some level => ⟨level, mode.cfg.normalBrightnessPct⟩
  | none => last

def noteCommand (panel : Panel) (event : PanelEvent) (last : BrightnessCommand) :
    BrightnessCommand :=
  last.record panel.sleep (commandedLevel panel.sleep event)

/-- The panel beside its last command; `sleep_init` commands the normal brightness. -/
def commandMachine : Machine (Panel × BrightnessCommand) PanelEvent :=
  machine.withHistoryFrom
    (fun panel => ⟨panel.sleep.cfg.normalBrightnessPct, panel.sleep.cfg.normalBrightnessPct⟩)
    noteCommand

/-- The backlight follows the state, with the wake-brightness timer as its only debt. -/
structure BacklightKept (mode : SleepMode) (last : BrightnessCommand) : Prop where
  sleepBrightnessPct_le : 0 ≤ mode.cfg.sleepBrightnessPct ∧ mode.cfg.sleepBrightnessPct ≤ 100
  brightness_eq : mode.brightness = last.level % 256
  dimmed : mode.state = .sleeping → last.level = mode.cfg.sleepBrightnessPct
  restored : mode.state = .awake → ¬mode.wakeBrightnessTimer.Live → last.level = last.normal

variable {last : BrightnessCommand}

theorem BacklightKept.enterSleep (hkept : BacklightKept mode last) :
    BacklightKept mode.enterSleepInternal.1
      (last.record mode (if mode.state = .awake then some mode.cfg.sleepBrightnessPct else none)) := by
  cases hstate : mode.state with
  | awake =>
      rw [enterSleepInternal_awake hstate]
      exact ⟨hkept.sleepBrightnessPct_le, rfl, fun _ => rfl, nofun⟩
  | sleeping =>
      rw [enterSleepInternal_sleeping hstate]
      exact hkept

/-- A wake with a delay leaves the display dimmed, and the timer armed. -/
theorem BacklightKept.wake (hkept : BacklightKept mode last) :
    BacklightKept mode.wakeInternal.1
      (last.record mode
        (if mode.state = .sleeping ∧ mode.cfg.wakeBrightnessDelayMs = 0 then
          some mode.cfg.normalBrightnessPct else none)) := by
  cases hstate : mode.state with
  | awake =>
      rw [wakeInternal_awake hstate]
      simp only [reduceCtorEq, false_and, if_false]
      exact ⟨hkept.sleepBrightnessPct_le, hkept.brightness_eq, hkept.dimmed, hkept.restored⟩
  | sleeping =>
      rw [wakeInternal_sleeping hstate]
      by_cases hdelay : mode.cfg.wakeBrightnessDelayMs = 0
      · simp only [hdelay, and_self, if_true]
        exact ⟨hkept.sleepBrightnessPct_le, rfl, nofun, fun _ _ => rfl⟩
      · simp only [hdelay, and_false, if_false]
        exact ⟨hkept.sleepBrightnessPct_le, hkept.brightness_eq, nofun,
          fun _ hdone => absurd (.inl rfl) hdone⟩

theorem BacklightKept.wakeBrightnessTimerCb (hkept : BacklightKept mode last)
    (wakeBrightnessTimer : OneShotTimer) :
    BacklightKept { mode with wakeBrightnessTimer }.wakeBrightnessTimerCb
      (last.record mode
        (if mode.state = .awake then some mode.cfg.normalBrightnessPct else none)) := by
  cases hstate : mode.state with
  | awake =>
      simp only [SleepMode.wakeBrightnessTimerCb, SleepMode.brightnessSet, if_true]
      refine ⟨hkept.sleepBrightnessPct_le, rfl, ?_, fun _ _ => rfl⟩
      intro hasleep
      cases hasleep
  | sleeping =>
      -- a callback that was dispatched before the display went to sleep
      simp only [SleepMode.wakeBrightnessTimerCb, reduceCtorEq, if_false]
      refine ⟨hkept.sleepBrightnessPct_le, hkept.brightness_eq, fun _ => hkept.dimmed hstate, ?_⟩
      intro hawake
      cases hawake

theorem BacklightKept.step (hkept : BacklightKept panel.sleep last)
    (hstep : SleepStep panel.sleep event after) :
    BacklightKept after (noteCommand panel event last) := by
  obtain ⟨hrange, hbrightness, hdimmed, hrestored⟩ := id hkept
  cases hstep with
  | idleCallback htimer =>
      have hidle : ∀ idleTimer, BacklightKept { panel.sleep with idleTimer } last := fun _ =>
        ⟨hrange, hbrightness, hdimmed, hrestored⟩
      exact (hidle _).enterSleep
  | forceSleep => exact hkept.enterSleep
  | forceWake | notifyActivity => exact hkept.wake
  | wakeBrightnessExpiry htimer =>
      -- the timer is no longer armed, but its callback is pending
      obtain ⟨-, -, rfl⟩ := OneShotTimer.expire_eq_some_iff.mp htimer
      exact ⟨hrange, hbrightness, hdimmed, fun _ hdone => absurd (.inr rfl) hdone⟩
  | wakeBrightnessCallback htimer => exact hkept.wakeBrightnessTimerCb _
  | updateIdleTimeout idleTimeoutMs =>
      unfold SleepMode.updateIdleTimeout
      split
      · exact hkept
      · dsimp only
        split <;> exact ⟨hrange, hbrightness, hdimmed, hrestored⟩
  | idleExpiry htimer => exact ⟨hrange, hbrightness, hdimmed, hrestored⟩
  | updateNormalBrightness => exact ⟨hrange, hbrightness, hdimmed, hrestored⟩
  | post | deliver | openSettings | closeSettings => exact hkept

theorem backlightKept_start {state : Panel × BrightnessCommand}
    (hstart : commandMachine.start state) : BacklightKept state.1.sleep state.2 := by
  obtain ⟨⟨⟨cfg, hinit⟩, -⟩, horigin⟩ := hstart
  obtain ⟨hnonneg, hle, hmode⟩ := init_eq_ok hinit
  have hlast : state.2 =
      ⟨state.1.sleep.cfg.normalBrightnessPct, state.1.sleep.cfg.normalBrightnessPct⟩ := horigin
  rw [hlast, hmode]
  exact ⟨⟨hnonneg, hle⟩, rfl, nofun, fun _ _ => rfl⟩

/-- In every run, the last level given to the driver is the sleep brightness while the display
sleeps.  While it is awake and the wake-brightness timer has nothing left to do, it is the normal
brightness configured at the time of the command, as the driver's `uint8_t` holds it. -/
theorem backlight_follows_state {state : Panel × BrightnessCommand}
    (hreached : commandMachine.Reachable state) :
    (state.1.sleep.state = .sleeping →
        state.1.sleep.brightness = state.1.sleep.cfg.sleepBrightnessPct) ∧
      (state.1.sleep.state = .awake → ¬state.1.sleep.wakeBrightnessTimer.Live →
        state.1.sleep.brightness = state.2.normal % 256 ∧
          (0 ≤ state.2.normal → state.2.normal ≤ 100 →
            state.1.sleep.brightness = state.2.normal)) := by
  have hkept : BacklightKept state.1.sleep state.2 := by
    refine hreached.invariant (I := fun state => BacklightKept state.1.sleep state.2)
      (fun _ => backlightKept_start) ?_
    intro state event next hkept hstep
    obtain ⟨hpanel, hnote⟩ := Machine.withHistoryFrom_step hstep
    rw [hnote]
    exact hkept.step (step_sleep hpanel)
  obtain ⟨hnonneg, hle⟩ := hkept.sleepBrightnessPct_le
  have hbrightness := hkept.brightness_eq
  constructor
  · intro hsleeping
    have hlevel := hkept.dimmed hsleeping
    omega
  · intro hawake hdone
    have hlevel := hkept.restored hawake hdone
    exact ⟨by rw [hbrightness, hlevel], by omega⟩

/-- A panel after start-up whose display is lit 50 ms after a wake. -/
private def delayed : Panel :=
  { started with sleep := { started.sleep with cfg := ⟨60000, 80, 0, 50⟩ } }

private theorem delayed_start : machine.start delayed :=
  ⟨⟨⟨60000, 80, 0, 50⟩, rfl⟩, rfl, rfl, rfl, rfl⟩

/-- The wake-brightness timer expires, the display is sent to sleep before the callback runs, and
the stale callback leaves it dark. -/
theorem backlight_follows_state_delayed_wake :
    let events : List PanelEvent :=
      [.forceSleep, .notifyActivity, .wakeBrightnessExpiry, .forceSleep, .wakeBrightnessCallback]
    ∃ state, commandMachine.replay (delayed, ⟨80, 80⟩) events = some state ∧
      state.1.sleep.state = .sleeping ∧ state.1.sleep.brightness = 0 := by
  intro events
  have hreplay : commandMachine.replay (delayed, ⟨80, 80⟩) events =
      some ((commandMachine.replay (delayed, ⟨80, 80⟩) events).get rfl) :=
    (Option.some_get _).symm
  have hstart : commandMachine.start (delayed, ⟨80, 80⟩) := ⟨delayed_start, rfl⟩
  have hreached := Machine.reachable_of_replay hstart hreplay
  exact ⟨_, hreplay, rfl, (backlight_follows_state hreached).1 rfl⟩

end CrowPanel.Sleep.Panel
