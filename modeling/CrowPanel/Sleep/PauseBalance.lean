import CrowPanel.Library.Machine
import CrowPanel.OpcUa.Control
import CrowPanel.Sleep.SleepMode
import Mathlib.Data.Int.ModEq
import Mathlib.Tactic.Ring

/-!
# The pause depth of the OPC UA client

Two owners pause the client: the display sleep, through the events that `handle_sleep_event`
receives, and the settings overlay, directly.  A section of the sleep state machine runs under its
mutex, but its event is posted only after the mutex has been released, so the posts of two calls can
come in the opposite order of their sections.

## Strategy

Every undelivered event still owes the counter a step up or down.  As long as no resume finds the
counter at zero, the counter plus these debts equals the number of owners that are paused, modulo
the width of the counter (`Balanced`).  In a quiescent state there are no debts, both sides are at
most two, and the equation is exact.

A resume that finds the counter at zero loses its step.  `wakePostedFirst` is the shortest such run.
If calls post in the order of their sections no resume is lost (`reachedBy_of_posts_in_order`).
-/

namespace CrowPanel.Sleep

open Library OpcUa

/-- The parties that move the pause depth. -/
structure Panel where
  sleep : SleepMode
  /-- Events of calls between their section and their post, by the order of the sections. -/
  inFlight : List SleepEvt
  /-- Posted events that the event loop has not delivered yet. -/
  queue : List SleepEvt
  control : ClientControl
  overlayOpen : Bool
  deriving DecidableEq

/-- What can happen next. -/
inductive PanelEvent where
  | idleExpiry
  | idleCallback
  | wakeBrightnessExpiry
  | wakeBrightnessCallback
  | forceSleep
  | forceWake
  | notifyActivity
  | updateNormalBrightness (brightnessPct : ℤ)
  | updateIdleTimeout (idleTimeoutMs : ℕ)
  | post (call : ℕ)
  | deliver
  | openSettings
  | closeSettings
  deriving DecidableEq

namespace Panel

/-- `handle_sleep_event` -/
def handleSleepEvent (control : ClientControl) : SleepEvt → ClientControl
  | .enter => control.pause
  | .wake => control.resume

/-- A section has run; its call still has to post. -/
def afterSection (panel : Panel) (result : SleepMode × Option SleepEvt) : Panel :=
  { panel with sleep := result.1, inFlight := panel.inFlight ++ result.2.toList }

/-- `open_settings_event`, which only raises an overlay that exists. -/
def openSettings (panel : Panel) : Panel :=
  if panel.overlayOpen then panel
  else { panel with control := panel.control.pause, overlayOpen := true }

/-- `close_settings_event`, with the `settings_overlay_deleted_event` it causes. -/
def closeSettings (panel : Panel) : Panel :=
  if panel.overlayOpen then { panel with control := panel.control.resume, overlayOpen := false }
  else panel

def step (panel : Panel) : PanelEvent → Option Panel
  | .idleExpiry => panel.sleep.idleTimer.expire.map fun idleTimer =>
      { panel with sleep := { panel.sleep with idleTimer } }
  | .idleCallback => panel.sleep.idleTimer.takeCallback.map fun idleTimer =>
      panel.afterSection { panel.sleep with idleTimer }.enterSleepInternal
  | .wakeBrightnessExpiry => panel.sleep.wakeBrightnessTimer.expire.map fun wakeBrightnessTimer =>
      { panel with sleep := { panel.sleep with wakeBrightnessTimer } }
  | .wakeBrightnessCallback =>
      panel.sleep.wakeBrightnessTimer.takeCallback.map fun wakeBrightnessTimer =>
        { panel with sleep := { panel.sleep with wakeBrightnessTimer }.wakeBrightnessTimerCb }
  | .forceSleep => some (panel.afterSection panel.sleep.enterSleepInternal)
  | .forceWake => some (panel.afterSection panel.sleep.wakeInternal)
  | .notifyActivity => some (panel.afterSection panel.sleep.wakeInternal)
  | .updateNormalBrightness brightnessPct =>
      some { panel with sleep := panel.sleep.updateNormalBrightness brightnessPct }
  | .updateIdleTimeout idleTimeoutMs =>
      some { panel with sleep := panel.sleep.updateIdleTimeout idleTimeoutMs }
  | .post call => panel.inFlight[call]?.map fun evt =>
      { panel with inFlight := panel.inFlight.eraseIdx call, queue := panel.queue ++ [evt] }
  | .deliver =>
      match panel.queue with
      | [] => none
      | evt :: queue =>
          some { panel with queue, control := handleSleepEvent panel.control evt }
  | .openSettings => some panel.openSettings
  | .closeSettings => some panel.closeSettings

/-- The panel starts awake with the overlay closed and nothing paused. -/
def machine : Machine Panel PanelEvent where
  start panel :=
    (∃ cfg, SleepMode.init cfg = .ok panel.sleep) ∧ panel.inFlight = [] ∧ panel.queue = [] ∧
      panel.control.pauseDepth = 0 ∧ panel.overlayOpen = false
  step := step

/-- No event is undelivered and no call is between its section and its post. -/
def Quiescent (panel : Panel) : Prop :=
  panel.inFlight = [] ∧ panel.queue = []

/-- The number of owners that want the client paused. -/
def owners (panel : Panel) : ℕ :=
  (if panel.sleep.state = .sleeping then 1 else 0) + if panel.overlayOpen then 1 else 0

/-- If the event makes the panel call `opcua_client_resume`, the pause depth is not zero. -/
def ResumeFindsPause (panel : Panel) : PanelEvent → Prop
  | .deliver => panel.queue.head? = some .wake → 0 < panel.control.pauseDepth
  | .closeSettings => panel.overlayOpen = true → 0 < panel.control.pauseDepth
  | _ => True

instance (panel : Panel) : ∀ event, Decidable (panel.ResumeFindsPause event)
  | .deliver => inferInstanceAs (Decidable (_ → _))
  | .closeSettings => inferInstanceAs (Decidable (_ → _))
  | .idleExpiry | .idleCallback | .wakeBrightnessExpiry | .wakeBrightnessCallback | .forceSleep
  | .forceWake | .notifyActivity | .updateNormalBrightness _ | .updateIdleTimeout _ | .post _
  | .openSettings => inferInstanceAs (Decidable True)

variable {panel next : Panel} {event : PanelEvent}

/-- What a step can do to the panel. -/
inductive StepKind (panel : Panel) : PanelEvent → Panel → Prop
  /-- Timers and settings move without a change of the sleep state. -/
  | quiet {event : PanelEvent} {sleep : SleepMode} (hstate : sleep.state = panel.sleep.state) :
      StepKind panel event { panel with sleep }
  | ran {event : PanelEvent} {mode after : SleepMode} {posted : Option SleepEvt}
      (hsame : mode.state = panel.sleep.state) (hannounces : Announces mode after posted) :
      StepKind panel event (panel.afterSection (after, posted))
  | post {call : ℕ} {evt : SleepEvt} (hget : panel.inFlight[call]? = some evt) :
      StepKind panel (.post call)
        { panel with inFlight := panel.inFlight.eraseIdx call, queue := panel.queue ++ [evt] }
  | deliver {evt : SleepEvt} {queue : List SleepEvt} (hqueue : panel.queue = evt :: queue) :
      StepKind panel .deliver
        { panel with queue, control := handleSleepEvent panel.control evt }
  | openSettings : StepKind panel .openSettings panel.openSettings
  | closeSettings : StepKind panel .closeSettings panel.closeSettings

theorem step_kind (hstep : panel.step event = some next) : StepKind panel event next := by
  cases event with
  | idleExpiry =>
      obtain ⟨_, -, rfl⟩ := Option.map_eq_some_iff.mp hstep
      exact .quiet rfl
  | idleCallback =>
      obtain ⟨_, -, rfl⟩ := Option.map_eq_some_iff.mp hstep
      exact .ran rfl (enterSleepInternal_announces _)
  | wakeBrightnessExpiry =>
      obtain ⟨_, -, rfl⟩ := Option.map_eq_some_iff.mp hstep
      exact .quiet rfl
  | wakeBrightnessCallback =>
      obtain ⟨_, -, rfl⟩ := Option.map_eq_some_iff.mp hstep
      exact .quiet (wakeBrightnessTimerCb_state _)
  | forceSleep =>
      obtain rfl := Option.some.inj hstep
      exact .ran rfl (enterSleepInternal_announces _)
  | forceWake | notifyActivity =>
      obtain rfl := Option.some.inj hstep
      exact .ran rfl (wakeInternal_announces _)
  | updateNormalBrightness brightnessPct =>
      obtain rfl := Option.some.inj hstep
      exact .quiet rfl
  | updateIdleTimeout idleTimeoutMs =>
      obtain rfl := Option.some.inj hstep
      exact .quiet (updateIdleTimeout_state _ _)
  | post call =>
      obtain ⟨evt, hget, rfl⟩ := Option.map_eq_some_iff.mp hstep
      exact .post hget
  | deliver =>
      cases hqueue : panel.queue with
      | nil => simp [step, hqueue] at hstep
      | cons evt queue =>
          obtain rfl : _ = next := by simpa [step, hqueue] using hstep
          exact .deliver hqueue
  | openSettings =>
      obtain rfl := Option.some.inj hstep
      exact .openSettings
  | closeSettings =>
      obtain rfl := Option.some.inj hstep
      exact .closeSettings

/-! ## The balance -/

/-- The step which an undelivered event still owes the pause depth. -/
def debt : SleepEvt → ℤ
  | .enter => 1
  | .wake => -1

/-- What a list of undelivered events owes. -/
def debts (events : List SleepEvt) : ℤ :=
  (events.map debt).sum

@[simp] theorem debts_nil : debts [] = 0 := rfl

@[simp] theorem debts_cons (evt : SleepEvt) (events : List SleepEvt) :
    debts (evt :: events) = debt evt + debts events := by
  simp [debts]

@[simp] theorem debts_append (first second : List SleepEvt) :
    debts (first ++ second) = debts first + debts second := by
  simp [debts]

/-- Posting an event moves its debt and changes no sum. -/
theorem debts_eraseIdx {events : List SleepEvt} {call : ℕ} {evt : SleepEvt}
    (hget : events[call]? = some evt) : debts (events.eraseIdx call) + debt evt = debts events := by
  induction events generalizing call with
  | nil => simp at hget
  | cons first events ih =>
      cases call with
      | zero =>
          obtain rfl : first = evt := by simpa using hget
          simp [add_comm]
      | succ call =>
          have hrest := ih (by simpa using hget)
          simp only [List.eraseIdx_cons_succ, debts_cons]
          omega

/-- One more owner while asleep. -/
def sleepOwner : SleepState → ℤ
  | .awake => 0
  | .sleeping => 1

/-- The counter and the outstanding debts add up to the owners, modulo the counter's width. -/
structure Balanced (panel : Panel) : Prop where
  depth_lt : panel.control.pauseDepth < 2 ^ 32
  balance : (panel.control.pauseDepth : ℤ) + debts panel.queue + debts panel.inFlight ≡
    sleepOwner panel.sleep.state + (if panel.overlayOpen then 1 else 0) [ZMOD 2 ^ 32]

/-- A section changes the owners by the debt of the event it leaves to post. -/
theorem sleepOwner_announces {mode after : SleepMode} {posted : Option SleepEvt}
    (hannounces : Announces mode after posted) :
    sleepOwner after.state = sleepOwner mode.state + debts posted.toList := by
  cases posted with
  | none =>
      have hstate : after.state = mode.state := hannounces
      simp [hstate]
  | some evt =>
      obtain ⟨hbefore, hafter⟩ := hannounces
      rw [hafter]
      cases evt <;> cases hstate : mode.state <;>
        simp_all [SleepEvt.target, sleepOwner, debt]

theorem afterSection_balanced (hbalanced : Balanced panel) {mode after : SleepMode}
    {posted : Option SleepEvt} (hsame : mode.state = panel.sleep.state)
    (hannounces : Announces mode after posted) :
    Balanced (panel.afterSection (after, posted)) where
  depth_lt := hbalanced.depth_lt
  balance := by
    have howner := sleepOwner_announces hannounces
    rw [hsame] at howner
    have hadded := hbalanced.balance.add_right (debts posted.toList)
    simp only [afterSection, debts_append, howner]
    calc (panel.control.pauseDepth : ℤ) + debts panel.queue +
          (debts panel.inFlight + debts posted.toList)
        = panel.control.pauseDepth + debts panel.queue + debts panel.inFlight +
            debts posted.toList := by ring
      _ ≡ sleepOwner panel.sleep.state + (if panel.overlayOpen then 1 else 0) +
            debts posted.toList [ZMOD 2 ^ 32] := hadded
      _ = sleepOwner panel.sleep.state + debts posted.toList +
            (if panel.overlayOpen then 1 else 0) := by ring

/-- A pause counts one step up, modulo the width. -/
theorem pause_depth (control : ClientControl) :
    control.pause.pauseDepth < 2 ^ 32 ∧
      (control.pause.pauseDepth : ℤ) ≡ control.pauseDepth + 1 [ZMOD 2 ^ 32] := by
  refine ⟨Nat.mod_lt _ (by norm_num), ?_⟩
  simp only [ClientControl.pause]
  push_cast
  exact Int.mod_modEq _ _

/-- A resume that finds a pause counts one step down. -/
theorem resume_depth {control : ClientControl} (hpause : 0 < control.pauseDepth) :
    (control.resume.pauseDepth : ℤ) = control.pauseDepth - 1 := by
  simp only [ClientControl.resume, if_pos hpause]
  omega

theorem deliver_balanced (hbalanced : Balanced panel) {evt : SleepEvt} {queue : List SleepEvt}
    (hqueue : panel.queue = evt :: queue)
    (hpause : evt = .wake → 0 < panel.control.pauseDepth) :
    Balanced { panel with queue, control := handleSleepEvent panel.control evt } := by
  obtain ⟨hlt, hbalance⟩ := hbalanced
  rw [hqueue] at hbalance
  cases evt with
  | enter =>
      obtain ⟨hafter, hdepth⟩ := pause_depth panel.control
      refine ⟨hafter, ?_⟩
      simp only [debts_cons, debt, handleSleepEvent, Int.ModEq] at hbalance hdepth ⊢
      omega
  | wake =>
      have hdepth := resume_depth (hpause rfl)
      simp only [debts_cons, debt] at hbalance
      constructor
      · simp only [handleSleepEvent]
        omega
      · simp only [handleSleepEvent, hdepth, Int.ModEq] at hbalance ⊢
        omega

theorem openSettings_balanced (hbalanced : Balanced panel) : Balanced panel.openSettings := by
  unfold openSettings
  split
  · exact hbalanced
  · next hclosed =>
      obtain ⟨hlt, hbalance⟩ := hbalanced
      obtain ⟨hafter, hdepth⟩ := pause_depth panel.control
      refine ⟨hafter, ?_⟩
      simp only [hclosed, Int.ModEq, Bool.false_eq_true, if_false, if_true] at hbalance hdepth ⊢
      omega

theorem closeSettings_balanced (hbalanced : Balanced panel)
    (hpause : panel.overlayOpen = true → 0 < panel.control.pauseDepth) :
    Balanced panel.closeSettings := by
  unfold closeSettings
  split
  · next hopen =>
      obtain ⟨hlt, hbalance⟩ := hbalanced
      have hdepth := resume_depth (hpause hopen)
      constructor
      · simp only
        omega
      · simp only [hopen, hdepth, Int.ModEq, Bool.false_eq_true, if_false, if_true] at hbalance ⊢
        omega
  · exact hbalanced

/-- Replacing the sleep context without touching its state keeps the balance. -/
theorem Balanced.of_same_state (hbalanced : Balanced panel) {sleep : SleepMode}
    (hstate : sleep.state = panel.sleep.state) : Balanced { panel with sleep } where
  depth_lt := hbalanced.depth_lt
  balance := by
    simp only [hstate]
    exact hbalanced.balance

theorem step_balanced (hbalanced : Balanced panel) (hpause : panel.ResumeFindsPause event)
    (hstep : panel.step event = some next) : Balanced next := by
  cases step_kind hstep with
  | quiet hstate => exact hbalanced.of_same_state hstate
  | ran hsame hannounces => exact afterSection_balanced hbalanced hsame hannounces
  | post hget =>
      have hmoved := debts_eraseIdx hget
      refine ⟨hbalanced.depth_lt, ?_⟩
      have hbalance := hbalanced.balance
      simp only [debts_append, debts_cons, debts_nil, Int.ModEq] at hbalance ⊢
      omega
  | deliver hqueue =>
      refine deliver_balanced hbalanced hqueue fun hwake => hpause ?_
      rw [hqueue, hwake, List.head?_cons]
  | openSettings => exact openSettings_balanced hbalanced
  | closeSettings => exact closeSettings_balanced hbalanced hpause

theorem init_state {cfg : SleepCfg} {sleep : SleepMode} (hinit : SleepMode.init cfg = .ok sleep) :
    sleep.state = .awake := by
  obtain ⟨-, -, rfl⟩ := init_eq_ok hinit
  rfl

theorem start_balanced (hstart : machine.start panel) : Balanced panel := by
  obtain ⟨⟨cfg, hinit⟩, hinFlight, hqueue, hdepth, hclosed⟩ := hstart
  refine ⟨by omega, ?_⟩
  simp [hinFlight, hqueue, hdepth, hclosed, init_state hinit, sleepOwner]

/-- In every run in which no resume finds the pause depth at zero, every quiescent state has exactly
one pause for each owner: the sleeping display and the open settings overlay. -/
theorem pauseDepth_eq_owners (hreached : machine.ReachedBy ResumeFindsPause panel)
    (hquiescent : panel.Quiescent) : panel.control.pauseDepth = panel.owners := by
  have hbalanced : Balanced panel :=
    hreached.invariant (fun _ => start_balanced)
      fun _ _ _ _ hbalanced hpause hstep => step_balanced hbalanced hpause hstep
  obtain ⟨hlt, hbalance⟩ := hbalanced
  obtain ⟨hinFlight, hqueue⟩ := hquiescent
  rw [hinFlight, hqueue] at hbalance
  unfold owners
  cases hstate : panel.sleep.state <;> cases hopen : panel.overlayOpen <;>
    simp only [hstate, hopen, sleepOwner, debts_nil, Int.ModEq, if_true, reduceCtorEq, if_false,
      Bool.false_eq_true] at hbalance ⊢ <;> omega

/-! ## Posts in the order of their sections -/

/-- The call whose section ran first posts first. -/
def PostsInOrder (_ : Panel) : PanelEvent → Prop
  | .post call => call = 0
  | _ => True

/-- The events, delivered in this order, alternate between pausing and resuming and lead from
`paused` to the state. -/
def Alternates : Bool → List SleepEvt → SleepState → Prop
  | paused, [], state => paused = true ↔ state = .sleeping
  | paused, .enter :: events, state => paused = false ∧ Alternates true events state
  | paused, .wake :: events, state => paused = true ∧ Alternates false events state

theorem Alternates.concat {paused : Bool} {events : List SleepEvt} {state after : SleepState}
    {evt : SleepEvt} (halternates : Alternates paused events state) (hbefore : state ≠ evt.target)
    (hafter : after = evt.target) : Alternates paused (events ++ [evt]) after := by
  subst hafter
  induction events generalizing paused with
  | nil => cases evt <;> cases state <;> cases paused <;> simp_all [Alternates, SleepEvt.target]
  | cons first events ih =>
      cases first with
      | enter => exact ⟨halternates.1, ih halternates.2⟩
      | wake => exact ⟨halternates.1, ih halternates.2⟩

/-- The pause of the display has been delivered or not, and the undelivered events continue from
there to the present state. -/
structure Ordered (panel : Panel) : Prop where
  alternates : ∃ paused : Bool,
    panel.control.pauseDepth = paused.toNat + panel.overlayOpen.toNat ∧
      Alternates paused (panel.queue ++ panel.inFlight) panel.sleep.state

theorem Ordered.resumeFindsPause (hordered : Ordered panel) (event : PanelEvent) :
    panel.ResumeFindsPause event := by
  obtain ⟨paused, hdepth, halternates⟩ := hordered
  cases event with
  | deliver =>
      intro hwake
      cases hqueue : panel.queue with
      | nil => simp [hqueue] at hwake
      | cons evt queue =>
          obtain rfl : evt = .wake := by simpa [hqueue] using hwake
          rw [hqueue] at halternates
          obtain ⟨rfl, -⟩ := halternates
          simp only [Bool.toNat_true] at hdepth
          omega
  | closeSettings =>
      intro hopen
      simp only [hopen, Bool.toNat_true] at hdepth
      omega
  | idleExpiry | idleCallback | wakeBrightnessExpiry | wakeBrightnessCallback | forceSleep
  | forceWake | notifyActivity | updateNormalBrightness | updateIdleTimeout | post
  | openSettings => trivial

theorem afterSection_ordered (hordered : Ordered panel) {mode after : SleepMode}
    {posted : Option SleepEvt} (hsame : mode.state = panel.sleep.state)
    (hannounces : Announces mode after posted) : Ordered (panel.afterSection (after, posted)) := by
  obtain ⟨paused, hdepth, halternates⟩ := hordered
  refine ⟨paused, hdepth, ?_⟩
  rw [← hsame] at halternates
  simp only [afterSection, ← List.append_assoc]
  cases posted with
  | none =>
      have hstate : after.state = mode.state := hannounces
      simpa [hstate] using halternates
  | some evt => exact halternates.concat hannounces.1 hannounces.2

theorem Ordered.of_same_state (hordered : Ordered panel) {sleep : SleepMode}
    (hstate : sleep.state = panel.sleep.state) : Ordered { panel with sleep } := by
  obtain ⟨paused, hdepth, halternates⟩ := hordered
  exact ⟨paused, hdepth, by simpa only [hstate] using halternates⟩

theorem deliver_ordered (hordered : Ordered panel) {evt : SleepEvt} {queue : List SleepEvt}
    (hqueue : panel.queue = evt :: queue) :
    Ordered { panel with queue, control := handleSleepEvent panel.control evt } := by
  obtain ⟨paused, hdepth, halternates⟩ := hordered
  have hopen := Bool.toNat_le panel.overlayOpen
  rw [hqueue] at halternates
  cases evt with
  | enter =>
      obtain ⟨rfl, hrest⟩ := halternates
      refine ⟨true, ?_, hrest⟩
      simp only [handleSleepEvent, ClientControl.pause, Bool.toNat_true, Bool.toNat_false]
        at hdepth ⊢
      omega
  | wake =>
      obtain ⟨rfl, hrest⟩ := halternates
      refine ⟨false, ?_, hrest⟩
      simp only [handleSleepEvent, ClientControl.resume, Bool.toNat_true, Bool.toNat_false]
        at hdepth ⊢
      split <;> omega

theorem openSettings_ordered (hordered : Ordered panel) : Ordered panel.openSettings := by
  obtain ⟨paused, hdepth, halternates⟩ := hordered
  have hpaused := Bool.toNat_le paused
  unfold openSettings
  cases hclosed : panel.overlayOpen with
  | true => exact ⟨paused, hdepth, halternates⟩
  | false =>
      refine ⟨paused, ?_, halternates⟩
      simp only [hclosed, Bool.toNat_false] at hdepth
      simp only [ClientControl.pause, Bool.false_eq_true, if_false, Bool.toNat_true]
      omega

theorem closeSettings_ordered (hordered : Ordered panel) : Ordered panel.closeSettings := by
  obtain ⟨paused, hdepth, halternates⟩ := hordered
  unfold closeSettings
  cases hopen : panel.overlayOpen with
  | true =>
      refine ⟨paused, ?_, halternates⟩
      simp only [hopen, Bool.toNat_true] at hdepth
      simp only [ClientControl.resume, if_true, Bool.toNat_false]
      split <;> omega
  | false => exact ⟨paused, hdepth, halternates⟩

theorem step_ordered (hordered : Ordered panel) (hpost : PostsInOrder panel event)
    (hstep : panel.step event = some next) : Ordered next := by
  cases step_kind hstep with
  | quiet hstate => exact hordered.of_same_state hstate
  | ran hsame hannounces => exact afterSection_ordered hordered hsame hannounces
  | post hget =>
      obtain ⟨paused, hdepth, halternates⟩ := hordered
      refine ⟨paused, hdepth, ?_⟩
      simp only [PostsInOrder] at hpost
      subst hpost
      cases hinFlight : panel.inFlight with
      | nil => simp [hinFlight] at hget
      | cons first rest =>
          obtain rfl : first = _ := by simpa [hinFlight] using hget
          simpa [hinFlight] using halternates
  | deliver hqueue => exact deliver_ordered hordered hqueue
  | openSettings => exact openSettings_ordered hordered
  | closeSettings => exact closeSettings_ordered hordered

theorem start_ordered (hstart : machine.start panel) : Ordered panel := by
  obtain ⟨⟨cfg, hinit⟩, hinFlight, hqueue, hdepth, hclosed⟩ := hstart
  refine ⟨false, by simp [hdepth, hclosed], ?_⟩
  simp [hinFlight, hqueue, Alternates, init_state hinit]

/-- Calls that post in the order of their sections never lose a resume. -/
theorem reachedBy_of_posts_in_order (hreached : machine.ReachedBy PostsInOrder panel) :
    machine.ReachedBy ResumeFindsPause panel := by
  have hordered : ∀ {panel}, machine.ReachedBy PostsInOrder panel → Ordered panel := fun hreached =>
    hreached.invariant (fun _ => start_ordered) fun _ _ _ _ hordered hpost hstep =>
      step_ordered hordered hpost hstep
  induction hreached with
  | start hstart => exact .start hstart
  | step hprev hpost hstep ih => exact .step ih ((hordered hprev).resumeFindsPause _) hstep

/-! ## Runs on one panel -/

/-- A panel after start-up, with a timeout of a minute. -/
def started : Panel where
  sleep :=
    { cfg := ⟨60000, 80, 0, 0⟩
      state := .awake
      idleTimer := { period := 60000, armed := true }
      wakeBrightnessTimer := { period := 1 }
      brightness := 80 }
  inFlight := []
  queue := []
  control := { endpointUrl := .ofText _ (ascii "opc.tcp://plc:4840") }
  overlayOpen := false

theorem started_start : machine.start started :=
  ⟨⟨⟨60000, 80, 0, 0⟩, rfl⟩, rfl, rfl, rfl, rfl⟩

/-- The display sleeps on idle while the settings are open, and both are undone. -/
theorem pauseDepth_eq_owners_idle_run :
    let events : List PanelEvent := [.openSettings, .idleExpiry, .idleCallback, .post 0, .deliver]
    ∃ panel, machine.replay started events = some panel ∧
      panel.control.pauseDepth = panel.owners := by
  intro events
  have hreplay : machine.replay started events = some ((machine.replay started events).get rfl) :=
    (Option.some_get _).symm
  refine ⟨_, hreplay, pauseDepth_eq_owners ?_ ⟨rfl, rfl⟩⟩
  exact Machine.ReachedBy.replay (.start started_start) (by decide) hreplay

/-- The display wakes between the section and the post of the call that put it to sleep, and the
wake event is posted first. -/
def wakePostedFirst : List PanelEvent :=
  [.idleExpiry, .idleCallback, .notifyActivity, .post 1, .post 0, .deliver, .deliver]

/-- The client is left paused although the panel is awake and its settings are closed. -/
theorem wakePostedFirst_leaves_paused :
    ∃ panel, machine.replay started wakePostedFirst = some panel ∧ machine.Reachable panel ∧
      panel.Quiescent ∧ panel.sleep.state = .awake ∧ panel.overlayOpen = false ∧
      panel.control.pauseDepth = 1 ∧ panel.control.pauseRequested = true ∧ panel.owners = 0 := by
  have hreplay : machine.replay started wakePostedFirst =
      some ((machine.replay started wakePostedFirst).get rfl) := (Option.some_get _).symm
  exact ⟨_, hreplay, Machine.reachable_of_replay started_start hreplay, ⟨rfl, rfl⟩, rfl, rfl, rfl,
    rfl, rfl⟩

end Panel

end CrowPanel.Sleep
