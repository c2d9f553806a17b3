import CrowPanel.Sleep.Timers

/-!
# The path of a touch

The interrupt of the touch controller resets a one-shot timer, whose callback gives a binary semaphore;
a task takes it and reports activity to the sleep state machine.  Resetting the timer over and over,
and giving a semaphore that is given already, makes one report out of many touches.

## Strategy

A touch that is not answered yet is on its way in one of four places: in the armed timer, in its
dispatched callback, in the semaphore or in the task (`TouchPath.Live`).  Each stage hands it on to the
next one, and none of them holds more than one report (`TouchPath.load`).
-/

namespace CrowPanel.Sleep

open Library

/-- What is left of touches on their way to `sleep_notify_activity`. -/
structure TouchPath where
  /-- `touch_debounce_timer` -/
  debounce : OneShotTimer := { period := 100 }
  /-- `touch_activity_sem` is given -/
  semaphore : Bool := false
  /-- `idle_monitor_task` has taken it -/
  taken : Bool := false
  deriving DecidableEq

/-- The panel with its touch screen. -/
structure Monitor where
  panel : Panel
  touch : TouchPath := {}
  deriving DecidableEq

inductive MonitorEvent where
  /-- `touch_isr_callback`, and whether the timer's queue takes its command -/
  | touch (queued : Bool)
  | debounceExpiry
  /-- `touch_debounce_callback` -/
  | debounceCallback
  /-- `idle_monitor_task` takes the semaphore -/
  | take
  /-- and calls `sleep_notify_activity` -/
  | notify
  | panel (event : PanelEvent)
  deriving DecidableEq

namespace TouchPath

/-- A report is on its way. -/
def Live (path : TouchPath) : Prop :=
  path.debounce.Live ∨ path.semaphore = true ∨ path.taken = true

instance (path : TouchPath) : Decidable path.Live :=
  inferInstanceAs (Decidable (_ ∨ _ ∨ _))

/-- The number of reports on their way. -/
def load (path : TouchPath) : ℕ :=
  path.debounce.armed.toNat + path.debounce.pending.toNat + path.semaphore.toNat + path.taken.toNat

end TouchPath

namespace Monitor

def step (monitor : Monitor) : MonitorEvent → Option Monitor
  | .touch queued =>
      some
        (if queued then
          { monitor with touch := { monitor.touch with debounce := monitor.touch.debounce.reset } }
        else monitor)
  | .debounceExpiry => monitor.touch.debounce.expire.map fun debounce =>
      { monitor with touch := { monitor.touch with debounce } }
  | .debounceCallback => monitor.touch.debounce.takeCallback.map fun debounce =>
      { monitor with touch := { monitor.touch with debounce, semaphore := true } }
  | .take =>
      if monitor.touch.semaphore && !monitor.touch.taken then
        some { monitor with touch := { monitor.touch with semaphore := false, taken := true } }
      else none
  | .notify =>
      if monitor.touch.taken then
        (monitor.panel.step .notifyActivity).map fun panel =>
          { panel, touch := { monitor.touch with taken := false } }
      else none
  | .panel event =>
      -- nobody else calls `sleep_notify_activity`
      if event = .notifyActivity then none
      else (monitor.panel.step event).map fun panel => { monitor with panel }

/-- The panel before its first touch. -/
def machine : Machine Monitor MonitorEvent where
  start monitor := Panel.machine.start monitor.panel ∧ monitor.touch = {}
  step := step

/-! ## Touches and reports -/

/-- What has become of the latest touch. -/
inductive Touched where
  | never
  /-- there was no report after it -/
  | waiting
  | answered
  /-- the panel has been put to sleep since it was answered -/
  | over
  deriving DecidableEq

structure TouchHistory where
  latest : Touched := .never
  touches : ℕ := 0
  reports : ℕ := 0
  deriving DecidableEq

def TouchHistory.note (_ : Monitor) (event : MonitorEvent) (history : TouchHistory) : TouchHistory :=
  match event with
  | .touch _ => { history with latest := .waiting, touches := history.touches + 1 }
  | .notify =>
      { history with
        latest := if history.latest = .waiting then .answered else history.latest
        reports := history.reports + 1 }
  | .panel .idleCallback | .panel .forceSleep =>
      { history with latest := if history.latest = .answered then .over else history.latest }
  | _ => history

/-- The monitor beside the touches and reports so far. -/
def touched : Machine (Monitor × TouchHistory) MonitorEvent :=
  machine.withHistory {} TouchHistory.note

/-- The timer's queue has room for a touch, unless a report is on its way anyway. -/
def Queued (state : Monitor × TouchHistory) : MonitorEvent → Prop
  | .touch queued => queued = true ∨ state.1.touch.Live
  | _ => True

instance (state : Monitor × TouchHistory) : ∀ event, Decidable (Queued state event)
  | .touch queued => inferInstanceAs (Decidable (queued = true ∨ state.1.touch.Live))
  | .debounceExpiry | .debounceCallback | .take | .notify | .panel _ =>
      inferInstanceAs (Decidable True)

/-- No touch is forgotten, and no report is made up. -/
structure Answers (monitor : Monitor) (history : TouchHistory) : Prop where
  waiting : history.latest = .waiting → monitor.touch.Live
  awake : history.latest = .answered → monitor.panel.sleep.state = .awake
  reports : history.reports + monitor.touch.load ≤ history.touches

variable {monitor next : Monitor} {history : TouchHistory} {event : MonitorEvent}

/-- Only the idle timer and `sleep_force_sleep` put the panel to sleep. -/
theorem awake_of_step {panel after : Panel} {event : PanelEvent}
    (hstep : panel.step event = some after) (hawake : panel.sleep.state = .awake)
    (hidle : event ≠ .idleCallback) (hforce : event ≠ .forceSleep) :
    after.sleep.state = .awake := by
  have hsleep := Panel.step_sleep hstep
  generalize after.sleep = mode at hsleep
  cases hsleep with
  | idleCallback => exact absurd rfl hidle
  | forceSleep => exact absurd rfl hforce
  | wakeBrightnessCallback => rwa [wakeBrightnessTimerCb_state]
  | forceWake | notifyActivity =>
      rw [wakeInternal_awake hawake]
      exact hawake
  | updateIdleTimeout => rwa [updateIdleTimeout_state]
  | _ => exact hawake

theorem awake_of_notify {panel after : Panel} (hstep : panel.step .notifyActivity = some after) :
    after.sleep.state = .awake := by
  obtain rfl := Option.some.inj hstep
  have hannounces := wakeInternal_announces panel.sleep
  show panel.sleep.wakeInternal.1.state = .awake
  cases hstate : panel.sleep.state with
  | awake =>
      rw [wakeInternal_awake hstate]
      exact hstate
  | sleeping =>
      rw [wakeInternal_sleeping hstate]
      split_ifs
      · rfl
      · rfl

theorem Answers.touch (hanswers : monitor.Answers history) {queued : Bool}
    (hqueued : queued = true ∨ monitor.touch.Live)
    (hstep : monitor.step (.touch queued) = some next) :
    next.Answers (history.note monitor (.touch queued)) := by
  obtain rfl := Option.some.inj hstep
  have hreports := hanswers.reports
  refine ⟨fun _ => ?_, ?_, ?_⟩
  · split_ifs with hroom
    · exact .inl (.inl rfl)
    · exact hqueued.resolve_left hroom
  · rintro ⟨⟩
  · show history.reports + _ ≤ history.touches + 1
    split_ifs
    · have harmed := Bool.toNat_le monitor.touch.debounce.armed
      simp only [TouchPath.load, OneShotTimer.reset, Bool.toNat_true] at hreports ⊢
      omega
    · omega

/-- A report moves on to the next stage of its way, where it may meet another one. -/
theorem Answers.moves (hanswers : monitor.Answers history) {path : TouchPath} (hlive : path.Live)
    (hload : path.load ≤ monitor.touch.load) :
    Answers { monitor with touch := path } history where
  waiting := fun _ => hlive
  awake := hanswers.awake
  reports := (Nat.add_le_add_left hload _).trans hanswers.reports

/-- The panel goes to sleep after the answer, or before the report that wakes it again. -/
theorem Answers.panel (hanswers : monitor.Answers history) {event : PanelEvent} {panel : Panel}
    (hstep : monitor.panel.step event = some panel) :
    Answers { monitor with panel } (history.note monitor (.panel event)) := by
  have hslept : Answers { monitor with panel }
      { history with latest := if history.latest = .answered then .over else history.latest } := by
    refine ⟨fun hwaiting => ?_, fun hanswered => ?_, hanswers.reports⟩
    · split_ifs at hwaiting
      exact hanswers.waiting hwaiting
    · split_ifs at hanswered with hlatest
      exact absurd hanswered hlatest
  by_cases hidle : event = .idleCallback
  · rw [hidle]
    exact hslept
  · by_cases hforce : event = .forceSleep
    · rw [hforce]
      exact hslept
    · have hnote : history.note monitor (.panel event) = history := by
        unfold TouchHistory.note
        split
        · next hsame => cases hsame
        · next hsame => cases hsame
        · next hsame =>
            cases hsame
            exact absurd rfl hidle
        · next hsame =>
            cases hsame
            exact absurd rfl hforce
        · rfl
      rw [hnote]
      exact ⟨hanswers.waiting,
        fun hanswered => awake_of_step hstep (hanswers.awake hanswered) hidle hforce,
        hanswers.reports⟩

theorem Answers.step (hanswers : monitor.Answers history) (hqueued : Queued (monitor, history) event)
    (hstep : monitor.step event = some next) : next.Answers (history.note monitor event) := by
  cases event with
  | touch queued => exact hanswers.touch hqueued hstep
  | debounceExpiry =>
      obtain ⟨debounce, hdebounce, rfl⟩ := Option.map_eq_some_iff.mp hstep
      obtain ⟨harmed, hpending, rfl⟩ := OneShotTimer.expire_eq_some_iff.mp hdebounce
      refine hanswers.moves (.inl (.inr rfl)) ?_
      simp [TouchPath.load, harmed, hpending]
  | debounceCallback =>
      obtain ⟨debounce, hdebounce, rfl⟩ := Option.map_eq_some_iff.mp hstep
      obtain ⟨hpending, rfl⟩ := OneShotTimer.takeCallback_eq_some_iff.mp hdebounce
      refine hanswers.moves (.inr (.inl rfl)) ?_
      simp only [TouchPath.load, hpending, Bool.toNat_true, Bool.toNat_false]
      omega
  | take =>
      obtain ⟨hfree, hnext⟩ := Option.ite_none_right_eq_some.mp hstep
      obtain rfl := Option.some.inj hnext
      have hgiven : monitor.touch.semaphore = true ∧ monitor.touch.taken = false := by
        simpa using hfree
      refine hanswers.moves (.inr (.inr rfl)) ?_
      simp [TouchPath.load, hgiven]
  | notify =>
      obtain ⟨htaken, hnext⟩ := Option.ite_none_right_eq_some.mp hstep
      obtain ⟨panel, hpanel, rfl⟩ := Option.map_eq_some_iff.mp hnext
      refine ⟨fun hwaiting => ?_, fun _ => awake_of_notify hpanel, ?_⟩
      · simp only [TouchHistory.note] at hwaiting
        split_ifs at hwaiting with hlatest
        exact absurd hwaiting hlatest
      · have hreports := hanswers.reports
        simp only [TouchHistory.note, TouchPath.load, htaken, Bool.toNat_true,
          Bool.toNat_false] at hreports ⊢
        omega
  | panel event =>
      obtain ⟨hother, hnext⟩ := Option.ite_none_left_eq_some.mp hstep
      obtain ⟨panel, hpanel, rfl⟩ := Option.map_eq_some_iff.mp hnext
      exact hanswers.panel hpanel

theorem answers_of_reached {state : Monitor × TouchHistory} (hreached : touched.ReachedBy Queued state) :
    state.1.Answers state.2 := by
  induction hreached with
  | start hstart =>
      obtain ⟨⟨-, htouch⟩, hhistory⟩ := hstart
      rw [hhistory]
      refine ⟨?_, ?_, ?_⟩
      · rintro ⟨⟩
      · rintro ⟨⟩
      · rw [htouch]
        exact le_rfl
  | @step state next event _ hqueued hstep ih =>
      obtain ⟨hmove, hnote⟩ := Machine.withHistory_step hstep
      rw [hnote]
      exact ih.step hqueued hmove

/-- **Every touch wakes the panel.**  However the touch path and the sleep state machine interleave:
once nothing is on its way any more, the latest touch has been answered, and unless the panel was put to
sleep after that, it is awake.  There is never more than one report for each touch. -/
theorem touch_answered {state : Monitor × TouchHistory} (hreached : touched.ReachedBy Queued state)
    (hrest : ¬state.1.touch.Live) :
    state.2.latest ≠ .waiting ∧
      (state.2.latest = .answered → state.1.panel.sleep.state = .awake) ∧
      state.2.reports ≤ state.2.touches := by
  have hanswers := answers_of_reached hreached
  refine ⟨fun hwaiting => hrest (hanswers.waiting hwaiting), hanswers.awake, ?_⟩
  have hreports := hanswers.reports
  omega

/-- Two touches come just before the idle timer puts the panel to sleep. -/
private def touchedTwice : List MonitorEvent :=
  [.touch true, .touch false, .panel .idleExpiry, .panel .idleCallback, .debounceExpiry,
    .debounceCallback, .take, .notify]

private def beforeTouch : Monitor × TouchHistory :=
  ({ panel := Panel.started }, {})

private theorem touchedTwice_isSome : (touched.replay beforeTouch touchedTwice).isSome := by
  decide +kernel

private def afterTouch : Monitor × TouchHistory :=
  (touched.replay beforeTouch touchedTwice).get touchedTwice_isSome

theorem touch_answered_twice :
    afterTouch.2.touches = 2 ∧ afterTouch.2.reports ≤ 2 ∧
      afterTouch.1.panel.sleep.state = .awake := by
  have hstart : touched.start beforeTouch := ⟨⟨Panel.started_start, rfl⟩, rfl⟩
  have hreached : touched.ReachedBy Queued afterTouch :=
    Machine.ReachedBy.replay (.start hstart) (by decide +kernel)
      (Option.some_get touchedTwice_isSome).symm
  obtain ⟨-, hawake, hreports⟩ := touch_answered hreached (by decide +kernel)
  have htouches : afterTouch.2.touches = 2 := by decide +kernel
  exact ⟨htouches, htouches ▸ hreports, hawake (by decide +kernel)⟩

end Monitor

end CrowPanel.Sleep
