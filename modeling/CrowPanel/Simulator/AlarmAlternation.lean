import CrowPanel.Simulator.AlarmEdges
import Mathlib.Data.List.Chain

/-!
# Alternating alarm transitions

A caller of `FaultManager` sees the transitions that `evaluate` and `reset` return.  For each source
and code they alternate between active and cleared, and the active alarms are those whose last
transition was to active.

## Strategy

A call returns at most one transition for a key, to active if the key was not active and from active
if it was: `Returns` says so for both functions.  The history of a key then grows by an entry that
differs from its last one, which is what `Alternating` asks for.
-/

namespace CrowPanel.Simulator

open Library

/-! ## Calls of the fault manager -/

/-- The identifiers of a station and of its compressors are different. -/
def Station.DistinctIdentifiers (station : Station) : Prop :=
  (station.identifier :: station.compressors.map Compressor.identifier).Nodup

instance (station : Station) : Decidable station.DistinctIdentifiers :=
  inferInstanceAs (Decidable (List.Nodup _))

/-- A call, with the station in the state in which the caller passes it. -/
inductive FaultCall
  | evaluate (station : Station) (elapsedSeconds : ℚ)
  | reset (station : Station)

def FaultCall.station : FaultCall → Station
  | .evaluate station _ => station
  | .reset station => station

def FaultManager.call (faults : FaultManager) : FaultCall →
    FaultManager × Station × List AlarmTransition
  | .evaluate station elapsedSeconds => faults.evaluate station elapsedSeconds
  | .reset station => faults.reset station

/-- A fault manager with the transitions that its calls have returned. -/
structure AlarmLog where
  faults : FaultManager
  emitted : List AlarmTransition

/-- The runs of a fault manager that starts without alarms. -/
def AlarmLog.machine : Machine AlarmLog FaultCall where
  start log := log.faults.activeAlarms = [] ∧ log.emitted = []
  step log call :=
    some ⟨(log.faults.call call).1, log.emitted ++ (log.faults.call call).2.2⟩

/-- What a list of transitions tells of a key, in its order. -/
def told (key : AlarmKey) (transitions : List AlarmTransition) : List Bool :=
  (transitions.filter fun transition => transition.key = key).map AlarmTransition.active

/-- Active and cleared take turns, and active comes first. -/
def Alternating (states : List Bool) : Prop :=
  (false :: states).IsChain (· ≠ ·)

instance (states : List Bool) : Decidable (Alternating states) :=
  inferInstanceAs (Decidable (List.IsChain _ _))

/-! ## One call -/

theorem told_append (key : AlarmKey) (first second : List AlarmTransition) :
    told key (first ++ second) = told key first ++ told key second := by
  simp [told]

/-- Transitions for different keys tell at most once of each. -/
theorem told_of_nodup {transitions : List AlarmTransition} {active : Bool}
    (hnodup : (transitions.map AlarmTransition.key).Nodup)
    (hactive : ∀ transition ∈ transitions, transition.active = active) (key : AlarmKey) :
    told key transitions =
      if key ∈ transitions.map AlarmTransition.key then [active] else [] := by
  induction transitions with
  | nil => rfl
  | cons transition transitions ih =>
      rw [List.map_cons, List.nodup_cons] at hnodup
      obtain ⟨hfirst, hrest⟩ := List.forall_mem_cons.mp hactive
      have htold := ih hnodup.2 hrest
      by_cases hkey : transition.key = key
      · subst hkey
        rw [if_neg hnodup.1] at htold
        have hfilter : told transition.key (transition :: transitions) =
            transition.active :: told transition.key transitions := by
          simp [told]
        rw [hfilter, htold, hfirst, List.map_cons, if_pos List.mem_cons_self]
      · have hfilter : told key (transition :: transitions) = told key transitions := by
          simp [told, hkey]
        rw [hfilter, htold, List.map_cons]
        simp [Ne.symm hkey]

/-- What a call does to a key: it returns one transition if the key becomes active or ceases to be,
and none otherwise. -/
def Returns (faults next : FaultManager) (transitions : List AlarmTransition) : Prop :=
  ∀ key, told key transitions =
    if key ∈ faults.activeKeys ↔ key ∈ next.activeKeys then []
    else [decide (key ∈ next.activeKeys)]

namespace FaultManager

variable {faults next : FaultManager} {station : Station}

theorem evaluate_returns (hnodup : faults.activeKeys.Nodup) (elapsedSeconds : ℚ) :
    Returns faults (faults.evaluate station elapsedSeconds).1
        (faults.evaluate station elapsedSeconds).2.2 ∧
      (faults.evaluate station elapsedSeconds).1.activeKeys.Nodup := by
  obtain ⟨hraises, -⟩ := faults.evaluate_raises station elapsedSeconds
  have hafter := hraises.nodup hnodup
  refine ⟨fun key => ?_, hafter⟩
  have hkeys : (faults.evaluate station elapsedSeconds).1.activeKeys = faults.activeKeys ++
      (faults.evaluate station elapsedSeconds).2.2.map AlarmTransition.key := by
    rw [activeKeys, hraises.alarms, List.map_append, activeKeys]
  rw [hkeys] at hafter ⊢
  rw [told_of_nodup hafter.of_append_right hraises.active key]
  have hdisjoint := List.disjoint_of_nodup_append hafter
  by_cases hnew : key ∈ (faults.evaluate station elapsedSeconds).2.2.map AlarmTransition.key
  · have hold : key ∉ faults.activeKeys := fun hold => hdisjoint hold hnew
    simp [hnew, hold]
  · simp [hnew]

theorem reset_returns (hnodup : faults.activeKeys.Nodup) :
    Returns faults (faults.reset station).1 (faults.reset station).2.2 ∧
      (faults.reset station).1.activeKeys.Nodup := by
  refine ⟨fun key => ?_, List.nodup_nil⟩
  have hkeys : (faults.activeAlarms.map cleared).map AlarmTransition.key = faults.activeKeys := by
    rw [List.map_map]
    rfl
  have hactive : ∀ transition ∈ faults.activeAlarms.map cleared, transition.active = false :=
    List.forall_mem_map.mpr fun _ _ => rfl
  have hnone : key ∉ (faults.reset station).1.activeKeys := List.not_mem_nil
  change told key (faults.activeAlarms.map cleared) = _
  rw [told_of_nodup (hkeys ▸ hnodup) hactive key, hkeys]
  by_cases hkey : key ∈ faults.activeKeys <;> simp [hkey, hnone]

theorem call_returns (hnodup : faults.activeKeys.Nodup) (call : FaultCall) :
    Returns faults (faults.call call).1 (faults.call call).2.2 ∧
      (faults.call call).1.activeKeys.Nodup := by
  cases call with
  | evaluate station elapsedSeconds => exact evaluate_returns hnodup elapsedSeconds
  | reset station => exact reset_returns hnodup

end FaultManager

/-! ## The transitions of a run -/

/-- The transitions of each key alternate, and the active keys are those last told to be active. -/
structure AlarmLog.Faithful (log : AlarmLog) : Prop where
  nodup : log.faults.activeKeys.Nodup
  alternating : ∀ key, Alternating (told key log.emitted)
  active_iff : ∀ key, key ∈ log.faults.activeKeys ↔ (told key log.emitted).getLast? = some true

theorem Alternating.concat {states : List Bool} {state : Bool} (halternating : Alternating states)
    (hstate : state = true ↔ states.getLast? ≠ some true) : Alternating (states ++ [state]) := by
  rw [Alternating, ← List.cons_append, List.isChain_append]
  refine ⟨halternating, List.isChain_singleton _, ?_⟩
  intro last hlast first hfirst
  rw [List.getLast?_cons, Option.mem_some_iff] at hlast
  obtain rfl : state = first := by simpa using hfirst
  cases hstates : states.getLast? with
  | none => cases state <;> simp_all
  | some last => cases state <;> cases last <;> simp_all

theorem AlarmLog.Faithful.step {log : AlarmLog} (hfaithful : log.Faithful) {next : FaultManager}
    {transitions : List AlarmTransition} (hreturns : Returns log.faults next transitions)
    (hnodup : next.activeKeys.Nodup) : (AlarmLog.mk next (log.emitted ++ transitions)).Faithful := by
  refine ⟨hnodup, fun key => ?_, fun key => ?_⟩
  all_goals
    have hactive := hfaithful.active_iff key
    have halternating := hfaithful.alternating key
    rw [told_append, hreturns key]
    by_cases hsame : key ∈ log.faults.activeKeys ↔ key ∈ next.activeKeys
  · rw [if_pos hsame, List.append_nil]
    exact halternating
  · rw [if_neg hsame]
    refine halternating.concat ?_
    rw [decide_eq_true_eq, ne_eq, ← hactive]
    tauto
  · rw [if_pos hsame, List.append_nil, ← hactive]
    exact hsame.symm
  · rw [if_neg hsame, List.getLast?_concat, Option.some_inj, decide_eq_true_eq]

/-! ## The flags of the compressors -/

namespace FaultManager

variable {faults : FaultManager} {identifier : Text}

theorem setAlarm_hasAlarm_of_ne {transition : AlarmTransition}
    (hother : transition.sourceIdentifier ≠ identifier) (condition : Bool) :
    (faults.setAlarm transition condition).1.hasAlarm identifier = faults.hasAlarm identifier := by
  unfold setAlarm
  split
  · simp [hasAlarm, hother]
  · rfl

/-- The alarms of one compressor do not count for another source. -/
theorem evaluateCompressor_hasAlarm_of_ne {compressor : Compressor}
    (hother : compressor.identifier ≠ identifier) (elapsedSeconds : ℚ) :
    (faults.evaluateCompressor compressor elapsedSeconds).1.hasAlarm identifier =
      faults.hasAlarm identifier := by
  have hset (faults : FaultManager) (alarmCode message : Text) (severity : ℕ) (condition : Bool) :
      (faults.setAlarm (compressorAlarm compressor alarmCode message severity)
        condition).1.hasAlarm identifier = faults.hasAlarm identifier :=
    setAlarm_hasAlarm_of_ne hother condition
  unfold evaluateCompressor
  dsimp only
  rw [hset, hset, hset]
  rfl

theorem evaluateCompressors_hasAlarm_of_notMem {compressors : List Compressor}
    (hother : identifier ∉ compressors.map Compressor.identifier) (elapsedSeconds : ℚ) :
    (faults.evaluateCompressors elapsedSeconds compressors).1.hasAlarm identifier =
      faults.hasAlarm identifier := by
  induction compressors generalizing faults with
  | nil => rfl
  | cons compressor compressors ih =>
      rw [List.map_cons, List.mem_cons, not_or] at hother
      exact (ih hother.2).trans (evaluateCompressor_hasAlarm_of_ne (Ne.symm hother.1) elapsedSeconds)

/-- After the loop every compressor has the flag that its alarms call for, since the compressors after
it have other identifiers. -/
theorem evaluateCompressors_alarmActive {compressors : List Compressor}
    (hnodup : (compressors.map Compressor.identifier).Nodup) (elapsedSeconds : ℚ) :
    ∀ compressor ∈ (faults.evaluateCompressors elapsedSeconds compressors).2.1,
      compressor.identifier ∈ compressors.map Compressor.identifier ∧
      compressor.alarmActive = (faults.evaluateCompressors elapsedSeconds
        compressors).1.hasAlarm compressor.identifier := by
  induction compressors generalizing faults with
  | nil => exact List.forall_mem_nil _
  | cons compressor compressors ih =>
      rw [List.map_cons, List.nodup_cons] at hnodup
      refine List.forall_mem_cons.mpr ⟨⟨List.mem_cons_self, ?_⟩, fun other hmem => ?_⟩
      · exact (evaluateCompressors_hasAlarm_of_notMem hnodup.1 elapsedSeconds).symm
      · obtain ⟨hidentifier, hflag⟩ := ih hnodup.2 other hmem
        exact ⟨List.mem_cons_of_mem _ hidentifier, hflag⟩

theorem call_alarmActive (faults : FaultManager) {call : FaultCall}
    (hdistinct : call.station.DistinctIdentifiers) :
    ∀ compressor ∈ (faults.call call).2.1.compressors,
      compressor.alarmActive = (faults.call call).1.hasAlarm compressor.identifier := by
  cases call with
  | evaluate station elapsedSeconds =>
      obtain ⟨hstation, hcompressors⟩ := List.nodup_cons.mp hdistinct
      intro compressor hcompressor
      obtain ⟨hidentifier, hflag⟩ :=
        evaluateCompressors_alarmActive hcompressors elapsedSeconds compressor hcompressor
      have hother : station.identifier ≠ compressor.identifier := by
        intro heq
        exact hstation (heq ▸ hidentifier)
      exact hflag.trans (setAlarm_hasAlarm_of_ne hother _).symm
  | reset station =>
      intro compressor hcompressor
      obtain ⟨before, -, rfl⟩ := List.mem_map.mp hcompressor
      rfl

end FaultManager

/-! ## Main theorem -/

/-- However a fault manager is called, for stations whose identifiers are distinct: the transitions of
each key alternate, beginning with active; the active alarms are those last told to be active; and
after each call the flag of every compressor says whether it has an alarm. -/
theorem alarms_alternate {log : AlarmLog}
    (hreached : AlarmLog.machine.ReachedBy (fun _ call => call.station.DistinctIdentifiers) log) :
    (∀ key, Alternating (told key log.emitted)) ∧
      (∀ key, key ∈ log.faults.activeKeys ↔ (told key log.emitted).getLast? = some true) ∧
      ∀ call : FaultCall, call.station.DistinctIdentifiers →
        ∀ compressor ∈ (log.faults.call call).2.1.compressors,
          compressor.alarmActive = (log.faults.call call).1.hasAlarm compressor.identifier := by
  have hfaithful : log.Faithful := by
    refine hreached.invariant (fun first hfirst => ?_) fun before call next _ hbefore _ hstep => ?_
    · have hkeys := FaultManager.activeKeys_eq_nil hfirst.1
      constructor <;> simp [hkeys, hfirst.2, told, Alternating]
    · obtain rfl := Option.some.inj hstep
      obtain ⟨hreturns, hnodup⟩ := FaultManager.call_returns hbefore.nodup call
      exact hbefore.step hreturns hnodup
  exact ⟨hfaithful.alternating, hfaithful.active_iff,
    fun _ hdistinct => log.faults.call_alarmActive hdistinct⟩

/-- An injected sensor fault is raised, reset and raised again. -/
def faultedTwice : List FaultCall :=
  let station : Station :=
    { identifier := ascii "compressed_air_station"
      displayName := ascii "Compressed Air Station"
      compressors :=
        [{ identifier := ascii "compressor_1"
           displayName := ascii "Compressor 1"
           sensorFaultCommand := true }] }
  [.evaluate station 1, .reset station, .evaluate station 1]

private def freshLog : AlarmLog := ⟨{ configuration := alarmRules }, []⟩

private theorem faultedTwice_isSome : (AlarmLog.machine.replay freshLog faultedTwice).isSome := by
  decide +kernel

private def faultedLog : AlarmLog :=
  (AlarmLog.machine.replay freshLog faultedTwice).get faultedTwice_isSome

theorem alarms_alternate_faultedTwice :
    told (ascii "compressor_1", sensorFault) faultedLog.emitted = [true, false, true] ∧
      (∀ key, Alternating (told key faultedLog.emitted)) ∧
      (∀ key, key ∈ faultedLog.faults.activeKeys ↔
        (told key faultedLog.emitted).getLast? = some true) ∧
      ∀ call : FaultCall, call.station.DistinctIdentifiers →
        ∀ compressor ∈ (faultedLog.faults.call call).2.1.compressors,
          compressor.alarmActive = (faultedLog.faults.call call).1.hasAlarm compressor.identifier := by
  have hreplay : AlarmLog.machine.replay freshLog faultedTwice = some faultedLog :=
    (Option.some_get _).symm
  have hadmitted : AlarmLog.machine.Admitted (fun _ call => call.station.DistinctIdentifiers)
      freshLog faultedTwice := by decide +kernel
  have hstart : AlarmLog.machine.start freshLog := ⟨rfl, rfl⟩
  exact ⟨by decide +kernel, alarms_alternate (.replay (.start hstart) hadmitted hreplay)⟩

end CrowPanel.Simulator
