import Mathlib.Tactic.Common

/-!
# One-shot software timers

A one-shot timer is dormant or armed.  When an armed timer expires, the timer task dispatches its
callback: from then on the timer is dormant and the callback is pending, until it runs.  Stopping
the timer disarms it but does not take back a callback that has been dispatched.  Resetting a timer
arms it, and so does changing its period.
-/

namespace CrowPanel.Library

/-- A one-shot timer with its callback. -/
structure OneShotTimer where
  period : ℕ
  armed : Bool := false
  pending : Bool := false
  deriving DecidableEq

namespace OneShotTimer

/-- Starts the timer, from the beginning if it runs already. -/
def reset (timer : OneShotTimer) : OneShotTimer :=
  { timer with armed := true }

def stop (timer : OneShotTimer) : OneShotTimer :=
  { timer with armed := false }

/-- Sets a new period; a dormant timer is started by it. -/
def changePeriod (timer : OneShotTimer) (period : ℕ) : OneShotTimer :=
  { timer with period, armed := true }

/-- An armed timer expires and its callback is dispatched. -/
def expire (timer : OneShotTimer) : Option OneShotTimer :=
  if timer.armed && !timer.pending then some { timer with armed := false, pending := true } else none

/-- The timer task calls the dispatched callback. -/
def takeCallback (timer : OneShotTimer) : Option OneShotTimer :=
  if timer.pending then some { timer with pending := false } else none

theorem expire_eq_some_iff {timer next : OneShotTimer} :
    timer.expire = some next ↔ timer.armed = true ∧ timer.pending = false ∧
      next = { timer with armed := false, pending := true } := by
  rw [expire, Option.ite_none_right_eq_some, Option.some.injEq, Bool.and_eq_true,
    Bool.not_eq_true', and_assoc, @eq_comm _ next]

theorem takeCallback_eq_some_iff {timer next : OneShotTimer} :
    timer.takeCallback = some next ↔ timer.pending = true ∧ next = { timer with pending := false } := by
  rw [takeCallback, Option.ite_none_right_eq_some, Option.some.injEq, @eq_comm _ next]

/-- The timer will still call its callback. -/
def Live (timer : OneShotTimer) : Prop :=
  timer.armed = true ∨ timer.pending = true

instance (timer : OneShotTimer) : Decidable timer.Live :=
  inferInstanceAs (Decidable (_ ∨ _))

end OneShotTimer

end CrowPanel.Library
