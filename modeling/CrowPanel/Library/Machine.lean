import Mathlib.Data.List.Basic
import Mathlib.Tactic.Common

/-!
# Machines with guarded steps

A machine is a set of start states together with a *partial* step function: an event which is not
enabled has no successor.  Every nondeterministic choice (which task moves, what the peer answers)
is part of the event, so one definition serves both the replay of a concrete trace, which can be
computed, and the proofs about all runs.

Invariants are proved about `ReachedBy ok`, the states reached by steps all of which meet a side
condition `ok`.  The condition is evaluated in the state before the step.  Plain reachability is
the case in which every step is admitted.
-/

namespace CrowPanel.Library

variable {σ ε : Type*}

/-- A transition system whose choices are all recorded in its events. -/
structure Machine (σ ε : Type*) where
  start : σ → Prop
  step : σ → ε → Option σ

namespace Machine

variable (M : Machine σ ε) {ok : σ → ε → Prop} {state next : σ} {event : ε}

/-- The states of the runs whose steps all satisfy `ok`. -/
inductive ReachedBy (ok : σ → ε → Prop) : σ → Prop
  | start {state : σ} (hstart : M.start state) : ReachedBy ok state
  | step {state next : σ} {event : ε} (hreached : ReachedBy ok state) (hok : ok state event)
      (hstep : M.step state event = some next) : ReachedBy ok next

/-- The states of all runs. -/
def Reachable (state : σ) : Prop :=
  M.ReachedBy (fun _ _ => True) state

/-- Replays a list of events; `none` as soon as one of them is not enabled. -/
def replay : σ → List ε → Option σ
  | state, [] => some state
  | state, event :: events => (M.step state event).bind fun next => replay next events

/-- Every step of the replay is enabled and satisfies `ok`. -/
def Admitted (ok : σ → ε → Prop) : σ → List ε → Prop
  | _, [] => True
  | state, event :: events =>
      ok state event ∧ ∀ next ∈ M.step state event, Admitted ok next events

variable {M}

theorem ReachedBy.mono {ok' : σ → ε → Prop} (hreached : M.ReachedBy ok state)
    (himp : ∀ state event, ok state event → ok' state event) : M.ReachedBy ok' state := by
  induction hreached with
  | start hstart => exact .start hstart
  | step _ hok hstep ih => exact .step ih (himp _ _ hok) hstep

theorem Reachable.start (hstart : M.start state) : M.Reachable state :=
  ReachedBy.start hstart

/-- A predicate that holds in every start state and is preserved by every admitted step holds in
every state reached by admitted steps.  The step may use that its source is reached. -/
theorem ReachedBy.invariant {I : σ → Prop} (hstart : ∀ state, M.start state → I state)
    (hpreserved : ∀ state event next, M.ReachedBy ok state → I state → ok state event →
      M.step state event = some next → I next)
    (hreached : M.ReachedBy ok state) : I state := by
  induction hreached with
  | start h => exact hstart _ h
  | step hprev hok hstep ih => exact hpreserved _ _ _ hprev ih hok hstep

theorem Reachable.invariant {I : σ → Prop} (hstart : ∀ state, M.start state → I state)
    (hpreserved : ∀ state event next, I state → M.step state event = some next → I next)
    (hreached : M.Reachable state) : I state :=
  ReachedBy.invariant hstart (fun _ _ _ _ hI _ hstep => hpreserved _ _ _ hI hstep) hreached

theorem replay_append (state : σ) (first second : List ε) :
    M.replay state (first ++ second) = (M.replay state first).bind (M.replay · second) := by
  induction first generalizing state with
  | nil => rfl
  | cons event events ih =>
      simp only [List.cons_append, replay]
      cases M.step state event with
      | none => rfl
      | some next => exact ih next

/-- One replay after another. -/
theorem replay_trans {first second : List ε} {middle last : σ}
    (hfirst : M.replay state first = some middle) (hsecond : M.replay middle second = some last) :
    M.replay state (first ++ second) = some last := by
  rw [replay_append, hfirst]
  exact hsecond

/-- An admitted replay ends in a state reached by admitted steps. -/
theorem ReachedBy.replay (hreached : M.ReachedBy ok state) {events : List ε} {last : σ}
    (hadmitted : M.Admitted ok state events) (hreplay : M.replay state events = some last) :
    M.ReachedBy ok last := by
  induction events generalizing state with
  | nil =>
      obtain rfl : state = last := by simpa [Machine.replay] using hreplay
      exact hreached
  | cons event events ih =>
      obtain ⟨middle, hstep, hrest⟩ := Option.bind_eq_some_iff.mp hreplay
      exact ih (.step hreached hadmitted.1 hstep) (hadmitted.2 _ hstep) hrest

theorem admitted_true (events : List ε) : M.Admitted (fun _ _ => True) state events := by
  induction events generalizing state with
  | nil => trivial
  | cons event events ih => exact ⟨trivial, fun _ _ => ih⟩

/-- A replay from a start state ends in a reachable state. -/
theorem reachable_of_replay (hstart : M.start state) {events : List ε} {last : σ}
    (hreplay : M.replay state events = some last) : M.Reachable last :=
  ReachedBy.replay (.start hstart) (admitted_true events) hreplay

section History

variable {τ : Type*} (first : τ) (note : σ → ε → τ → τ)

/-- The machine beside a history variable, which follows the events and decides nothing. -/
def withHistory (M : Machine σ ε) : Machine (σ × τ) ε where
  start state := M.start state.1 ∧ state.2 = first
  step state event := (M.step state.1 event).map fun next => (next, note state.1 event state.2)

variable {first note}

/-- A step beside the history variable is a step of the machine. -/
theorem withHistory_step {state next : σ × τ}
    (hstep : (M.withHistory first note).step state event = some next) :
    M.step state.1 event = some next.1 ∧ next.2 = note state.1 event state.2 := by
  obtain ⟨after, hafter, rfl⟩ := Option.map_eq_some_iff.mp hstep
  exact ⟨hafter, rfl⟩

/-- What is reached beside a history variable is reached without it. -/
theorem ReachedBy.forget {ok : σ × τ → ε → Prop} {ok' : σ → ε → Prop} {state : σ × τ}
    (himp : ∀ state event, ok state event → ok' state.1 event)
    (hreached : (M.withHistory first note).ReachedBy ok state) : M.ReachedBy ok' state.1 := by
  induction hreached with
  | start hstart => exact .start hstart.1
  | step _ hok hstep ih => exact .step ih (himp _ _ hok) (withHistory_step hstep).1

theorem Reachable.forget {state : σ × τ}
    (hreached : (M.withHistory first note).Reachable state) : M.Reachable state.1 :=
  ReachedBy.forget (fun _ _ _ => trivial) hreached

/-- The machine beside a history variable whose first value is read off the start state. -/
def withHistoryFrom (origin : σ → τ) (note : σ → ε → τ → τ) (M : Machine σ ε) :
    Machine (σ × τ) ε where
  start state := M.start state.1 ∧ state.2 = origin state.1
  step state event := (M.step state.1 event).map fun next => (next, note state.1 event state.2)

theorem withHistoryFrom_step {origin : σ → τ} {state next : σ × τ}
    (hstep : (M.withHistoryFrom origin note).step state event = some next) :
    M.step state.1 event = some next.1 ∧ next.2 = note state.1 event state.2 := by
  obtain ⟨after, hafter, rfl⟩ := Option.map_eq_some_iff.mp hstep
  exact ⟨hafter, rfl⟩

theorem ReachedBy.forgetFrom {origin : σ → τ} {ok : σ × τ → ε → Prop} {ok' : σ → ε → Prop}
    {state : σ × τ} (himp : ∀ state event, ok state event → ok' state.1 event)
    (hreached : (M.withHistoryFrom origin note).ReachedBy ok state) : M.ReachedBy ok' state.1 := by
  induction hreached with
  | start hstart => exact .start hstart.1
  | step _ hok hstep ih => exact .step ih (himp _ _ hok) (withHistoryFrom_step hstep).1

end History

/-- Admission along a concrete replay can be computed. -/
instance decidableAdmitted [∀ state event, Decidable (ok state event)] :
    ∀ (state : σ) (events : List ε), Decidable (M.Admitted ok state events)
  | _, [] => inferInstanceAs (Decidable True)
  | state, event :: events =>
      have : Decidable (∀ next ∈ M.step state event, M.Admitted ok next events) :=
        match h : M.step state event with
        | none => isTrue (by simp)
        | some next =>
            match decidableAdmitted next events with
            | isTrue hyes => isTrue (by simpa using hyes)
            | isFalse hno => isFalse (by simpa using hno)
      inferInstanceAs (Decidable (_ ∧ _))

end Machine

end CrowPanel.Library
