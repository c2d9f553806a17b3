import CrowPanel.Library.Machine
import CrowPanel.Settings.UartTask

/-!
# Commands to the UART task

`uart_password_handler_start` and `uart_password_handler_stop` look at `uart_running`, which the task
follows later, and leave their command as a bit of the task's notification.  The bits have no order: a
stop that is pending together with a start goes first and takes the start with it.

## Strategy

`predicted` is what the pending bits will make of the task, and no step of the task changes it.  So a
command is heeded exactly if the call that gives it leaves the prediction right (`Heeded`), and a call
that does not shows as soon as the task has taken everything that is pending (`exists_settled`).
-/

namespace CrowPanel.Settings

open Library

/-- The two calls. -/
inductive UartCommand
  | start
  | stop
  deriving DecidableEq

/-- Where the call in progress is. -/
inductive UartCall
  | none
  /-- `uart_password_handler_start` has found `uart_running` clear. -/
  | starting
  /-- `uart_password_handler_stop` has found `uart_running` set. -/
  | stopping
  /-- `uart_password_handler_stop` has notified the task. -/
  | clearing
  deriving DecidableEq

/-- Where the task is with a notification. -/
inductive UartPlace
  | waiting
  /-- The task no longer listens and is about to clear `uart_running`. -/
  | stopping
  /-- The task listens and is about to set `uart_running`. -/
  | starting
  /-- The task waits before it reports to be ready. -/
  | delaying
  deriving DecidableEq

/-- The task and its callers. -/
structure UartSystem where
  listening : Bool := false
  /-- `uart_running` -/
  running : Bool := false
  /-- The bits that the task has not taken yet. -/
  notification : Notification := {}
  place : UartPlace := .waiting
  call : UartCall := .none
  /-- The command of the last call that has given it, or returned without doing so. -/
  last : Option UartCommand := none
  deriving DecidableEq

inductive UartStep
  | call (command : UartCommand)
  /-- The call in progress goes on. -/
  | proceedCall
  /-- The task takes the notification. -/
  | take
  /-- The task goes on with the notification it has taken. -/
  | proceed
  deriving DecidableEq

namespace UartSystem

/-- `uart_password_handler_start` and `uart_password_handler_stop`, up to their notification -/
def begin (system : UartSystem) : UartCommand → UartSystem
  | .start =>
      if system.running then { system with last := some .start }
      else { system with call := .starting }
  | .stop =>
      if system.running = false then { system with last := some .stop }
      else { system with call := .stopping }

def step (system : UartSystem) : UartStep → Option UartSystem
  | .call command => if system.call = .none then some (system.begin command) else none
  | .proceedCall =>
      match system.call with
      | .none => none
      | .starting =>
          some
            { system with
              notification := { system.notification with start := true }
              last := some .start
              call := .none }
      | .stopping =>
          some
            { system with
              notification := { system.notification with stop := true }
              last := some .stop
              call := .clearing }
      | .clearing => some { system with running := false, call := .none }
  | .take =>
      if system.place = .waiting ∧ system.notification ≠ {} then
        some
          { system with
            listening := system.notification.listening system.listening
            place := if system.notification.stop then .stopping else .starting
            notification := {} }
      else none
  | .proceed =>
      match system.place with
      | .waiting => none
      | .stopping => some { system with running := false, place := .waiting }
      | .starting => some { system with running := true, place := .delaying }
      | .delaying => some { system with place := .waiting }

/-- The handler has been initialized, and nobody has called it. -/
def machine : Machine UartSystem UartStep where
  start system := system = {}
  step := step

/-! ## Heeded commands -/

/-- Whether the task will listen after it has taken what is pending. -/
def predicted (system : UartSystem) : Bool :=
  system.notification.listening system.listening

/-- Everything pending has been taken, and the task is waiting. -/
def Quiescent (system : UartSystem) : Prop :=
  system.notification = {} ∧ system.place = .waiting

/-- A call that returns at once because of `uart_running` leaves the task to what it will do anyway, and
a start is not given while a stop is pending. -/
def Heeded (system : UartSystem) : UartStep → Prop
  | .call .start => system.running = true → system.predicted = true
  | .call .stop => system.running = false → system.predicted = false
  | .proceedCall => system.call = .starting → system.notification.stop = false
  | .take | .proceed => True

instance (system : UartSystem) (step : UartStep) : Decidable (system.Heeded step) :=
  match step with
  | .call .start => inferInstanceAs (Decidable (_ → _))
  | .call .stop => inferInstanceAs (Decidable (_ → _))
  | .proceedCall => inferInstanceAs (Decidable (_ → _))
  | .take | .proceed => inferInstanceAs (Decidable True)

/-- The task will listen exactly if the last command says so. -/
def Obedient (system : UartSystem) : Prop :=
  system.predicted = true ↔ system.last = some .start

/-- Whether the task listens as the last of the calls says. -/
def ListensAsTold (system : UartSystem) : Prop :=
  system.listening = true ↔ system.last = some .start

instance (system : UartSystem) : Decidable system.Quiescent :=
  inferInstanceAs (Decidable (_ ∧ _))

instance (system : UartSystem) : Decidable system.ListensAsTold :=
  inferInstanceAs (Decidable (_ ↔ _))

variable {system next : UartSystem}

/-- Taking the notification is the iteration of the task's loop. -/
theorem take_listening (succeeds : UartParser → Text → Bool) {task : UartTask}
    (htask : task.listening = system.listening) (queued : Option UartEvent)
    (hstep : system.step .take = some next) :
    (task.iterate succeeds system.notification queued).1.listening = next.listening := by
  simp only [step] at hstep
  split at hstep
  · obtain rfl := Option.some.inj hstep
    rw [task.iterate_listening, htask]
  · cases hstep

/-- A command is obeyed exactly if it is heeded. -/
theorem obedient_iff_heeded (hobedient : system.Obedient) {event : UartStep}
    (hstep : system.step event = some next) : next.Obedient ↔ system.Heeded event := by
  cases event with
  | call command =>
      simp only [step] at hstep
      split at hstep
      · obtain rfl := Option.some.inj hstep
        by_cases hrunning : system.running = true
        · cases command with
          | start => simp [Obedient, begin, Heeded, hrunning, predicted]
          | stop =>
              simp only [begin, Heeded, hrunning, Bool.true_eq_false, if_false, false_imp_iff,
                iff_true]
              exact hobedient
        · rw [Bool.not_eq_true] at hrunning
          cases command with
          | start =>
              simp only [begin, Heeded, hrunning, Bool.false_eq_true, if_false, false_imp_iff,
                iff_true]
              exact hobedient
          | stop => simp [Obedient, begin, Heeded, hrunning, predicted]
      · cases hstep
  | proceedCall =>
      simp only [step] at hstep
      split at hstep
      · cases hstep
      · next hcall =>
          obtain rfl := Option.some.inj hstep
          simp [Obedient, Heeded, hcall, predicted, Notification.listening]
      · next hcall =>
          obtain rfl := Option.some.inj hstep
          simp [Obedient, Heeded, hcall, predicted, Notification.listening]
      · next hcall =>
          obtain rfl := Option.some.inj hstep
          simp only [Heeded, hcall, reduceCtorEq, false_imp_iff, iff_true]
          exact hobedient
  | take =>
      simp only [step] at hstep
      split at hstep
      · obtain rfl := Option.some.inj hstep
        exact iff_of_true hobedient trivial
      · cases hstep
  | proceed =>
      simp only [step] at hstep
      split at hstep
      · cases hstep
      all_goals
        obtain rfl := Option.some.inj hstep
        exact iff_of_true hobedient trivial

theorem ReachedBy.obedient (hreached : machine.ReachedBy Heeded system) : system.Obedient := by
  refine hreached.invariant (fun first hfirst => ?_) fun before event next _ hbefore hok hstep => ?_
  · obtain rfl : first = {} := hfirst
    simp [Obedient, predicted, Notification.listening]
  · exact (obedient_iff_heeded hbefore hstep).mpr hok

/-! ## What becomes of a command that is not heeded -/

/-- The task ends what it is doing. -/
theorem exists_waiting (system : UartSystem) :
    ∃ count waiting, machine.replay system (List.replicate count .proceed) = some waiting ∧
      waiting.place = .waiting ∧ waiting.notification = system.notification ∧
      waiting.listening = system.listening ∧ waiting.last = system.last := by
  obtain ⟨listening, running, notification, place, call, last⟩ := system
  cases place with
  | waiting => exact ⟨0, _, rfl, rfl, rfl, rfl, rfl⟩
  | stopping | delaying => exact ⟨1, _, rfl, rfl, rfl, rfl, rfl⟩
  | starting => exact ⟨2, _, rfl, rfl, rfl, rfl, rfl⟩

/-- Without further calls the task takes everything pending and listens as predicted. -/
theorem exists_settled (system : UartSystem) :
    ∃ events settled, (∀ event ∈ events, event = .take ∨ event = .proceed) ∧
      machine.replay system events = some settled ∧ settled.Quiescent ∧
      settled.listening = system.predicted ∧ settled.last = system.last := by
  have hproceed (count : ℕ) :
      ∀ event ∈ List.replicate count UartStep.proceed, event = .take ∨ event = .proceed :=
    fun event hevent => Or.inr (List.eq_of_mem_replicate hevent)
  obtain ⟨count, waiting, hwaiting, hplace, hnotification, hlistening, hlast⟩ :=
    exists_waiting system
  by_cases hnone : system.notification = {}
  · refine ⟨_, waiting, hproceed count, hwaiting, ⟨hnotification.trans hnone, hplace⟩, ?_, hlast⟩
    rw [hlistening, predicted, hnone]
    rfl
  · have htake : waiting.step .take = some
        { waiting with
          listening := waiting.notification.listening waiting.listening
          place := if waiting.notification.stop then .stopping else .starting
          notification := {} } := if_pos ⟨hplace, hnotification ▸ hnone⟩
    obtain ⟨rest, settled, hsettled, hsettledPlace, hsettledNotification, hsettledListening,
      hsettledLast⟩ := exists_waiting
        { waiting with
          listening := waiting.notification.listening waiting.listening
          place := if waiting.notification.stop then .stopping else .starting
          notification := {} }
    refine ⟨List.replicate count .proceed ++ .take :: List.replicate rest .proceed, settled, ?_, ?_,
      ⟨hsettledNotification, hsettledPlace⟩, ?_, hsettledLast.trans hlast⟩
    · rw [List.forall_mem_append, List.forall_mem_cons]
      exact ⟨hproceed count, Or.inl rfl, hproceed rest⟩
    · refine Machine.replay_trans hwaiting ?_
      rw [Machine.replay]
      show (waiting.step .take).bind _ = _
      rw [htake, Option.bind_some]
      exact hsettled
    · rw [hsettledListening, hnotification, hlistening]
      rfl

/-! ## Main theorem -/

/-- In every run of heeded calls the task listens as the last call says, whenever nothing is pending
and it is waiting.  A call that is not heeded leaves a system that does not, once the task has taken
what is pending. -/
theorem listens_as_told (system : UartSystem) :
    (machine.ReachedBy Heeded system → system.Quiescent → system.ListensAsTold) ∧
      ∀ event next, machine.ReachedBy Heeded system → system.step event = some next →
        ¬system.Heeded event →
        ∃ events settled, (∀ event ∈ events, event = .take ∨ event = .proceed) ∧
          machine.replay next events = some settled ∧ settled.Quiescent ∧
          ¬settled.ListensAsTold := by
  constructor
  · intro hreached hquiescent
    have hobedient := ReachedBy.obedient hreached
    rw [Obedient, predicted, hquiescent.1] at hobedient
    exact hobedient
  · intro event next hreached hstep hunheeded
    have hlost : ¬next.Obedient := by
      rw [obedient_iff_heeded (ReachedBy.obedient hreached) hstep]
      exact hunheeded
    obtain ⟨events, settled, hevents, hreplay, hquiescent, hlistening, hlast⟩ := exists_settled next
    refine ⟨events, settled, hevents, hreplay, hquiescent, ?_⟩
    rw [ListensAsTold, hlistening, hlast]
    exact hlost

/-! ## Two runs -/

/-- A start that the task has taken before the stop. -/
def unhurried : List UartStep :=
  [.call .start, .proceedCall, .take, .proceed, .proceed, .call .stop, .proceedCall, .proceedCall,
    .take, .proceed]

private theorem unhurried_isSome : (machine.replay {} unhurried).isSome := by decide +kernel

private def stoppedSystem : UartSystem :=
  (machine.replay {} unhurried).get unhurried_isSome

theorem listens_as_told_unhurried :
    stoppedSystem.last = some .stop ∧ stoppedSystem.Quiescent ∧ stoppedSystem.ListensAsTold := by
  have hreplay : machine.replay {} unhurried = some stoppedSystem := (Option.some_get _).symm
  have hadmitted : machine.Admitted Heeded {} unhurried := by decide +kernel
  have hstart : machine.start {} := rfl
  have hquiescent : stoppedSystem.Quiescent := by decide +kernel
  exact ⟨by decide +kernel, hquiescent,
    (listens_as_told stoppedSystem).1 (.replay (.start hstart) hadmitted hreplay) hquiescent⟩

/-- A stop that comes before the task has taken the start finds `uart_running` clear. -/
def hurried : List UartStep :=
  [.call .start, .proceedCall, .call .stop, .take, .proceed, .proceed]

private theorem hurried_isSome : (machine.replay {} hurried).isSome := by decide +kernel

private def deafSystem : UartSystem :=
  (machine.replay {} hurried).get hurried_isSome

/-- The handler goes on listening after the stop. -/
theorem hurried_not_as_told :
    machine.Reachable deafSystem ∧ deafSystem.Quiescent ∧ deafSystem.listening = true ∧
      deafSystem.last = some .stop ∧ ¬deafSystem.ListensAsTold := by
  have hstart : machine.start {} := rfl
  refine ⟨Machine.reachable_of_replay hstart (Option.some_get hurried_isSome).symm, ?_, ?_, ?_, ?_⟩
  all_goals decide +kernel

end UartSystem

end CrowPanel.Settings
