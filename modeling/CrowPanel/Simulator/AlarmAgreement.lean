import CrowPanel.OpcUa.NodeIdText
import CrowPanel.Simulator.AlarmEdges

/-!
# The alarms of the panel and of the simulator

The simulator's cycle beside the panel's client task.  An event goes out when it is emitted, provided
that the panel has subscribed to its source by then, and arrives in the order in which it was sent;
with the client object the session ends, and what is in flight is lost.

A session begins with an empty table, and nothing tells the panel of the alarms that are active
already.  So what it shows are the active alarms that were raised in this session.

## Strategy

`Told` relates the events sent in a session to the simulator: when no event about a key is due, the
last event about it tells whether it is active, if it was raised in the session at all.  The panel's
table is the `KeyedSlots.contents` of the events which it has received.
-/

namespace CrowPanel.Simulator

open Library OpcUa

/-- The object and its browse name behind the identifier of a source. -/
structure EventSources where
  nodeId : Text → NodeId
  name : Text → UaString

namespace EventSources

/-- The event that `emit_alarm_event` triggers, as it is selected by the panel. -/
def fields (sources : EventSources) (transition : AlarmTransition) : EventFields where
  sourceNode := sources.nodeId transition.sourceIdentifier
  sourceName := sources.name transition.sourceIdentifier
  message := some transition.eventMessage
  severity := transition.severity.toUInt16

/-- The key under which the panel files an alarm. -/
def panelKey (sources : EventSources) (key : AlarmKey) : DataModel.AlarmKey :=
  ((sources.nodeId key.1).text.text, key.2)

/-- The texts of the NodeIds tell the sources apart. -/
def Distinct (sources : EventSources) (keys : List AlarmKey) : Prop :=
  ∀ first ∈ keys, ∀ second ∈ keys,
    (sources.nodeId first.1).text.text = (sources.nodeId second.1).text.text → first.1 = second.1

/-- Distinct NodeIds whose texts fit do. -/
theorem distinct_of_renders {sources : EventSources} {keys : List AlarmKey}
    (hrenders : ∀ key ∈ keys, (sources.nodeId key.1).Renders)
    (hdistinct : ∀ first ∈ keys, ∀ second ∈ keys,
      (sources.nodeId first.1).withData = (sources.nodeId second.1).withData → first.1 = second.1) :
    sources.Distinct keys := by
  intro first hfirst second hsecond htext
  apply hdistinct first hfirst second hsecond
  exact (NodeId.text_eq_iff (hrenders first hfirst) (hrenders second hsecond)).mp
    (CharArray.ext_text htext)

variable {sources : EventSources} {keys : List AlarmKey}

theorem Distinct.panelKey_inj (hdistinct : sources.Distinct keys) {first second : AlarmKey}
    (hfirst : first ∈ keys) (hsecond : second ∈ keys) :
    sources.panelKey first = sources.panelKey second ↔ first = second := by
  refine ⟨fun hkey => ?_, fun hkey => by rw [hkey]⟩
  obtain ⟨htext, hcode⟩ := Prod.mk.inj hkey
  exact Prod.ext (hdistinct first hfirst second hsecond htext) hcode

/-- The alarm which the panel finds in an event. -/
def alarm (sources : EventSources) (transition : AlarmTransition) : DataModel.Alarm :=
  (sources.fields transition).alarm.getD {}

/-- The panel understands every event of the station. -/
theorem fields_alarm {station : Station} {transition : AlarmTransition}
    (hsound : transition.Sound station.alarmKeys) :
    (sources.fields transition).alarm = some (sources.alarm transition) ∧
      (sources.alarm transition).key = sources.panelKey transition.key ∧
      (sources.alarm transition).active = transition.active := by
  have hmessage : (sources.fields transition).message = some transition.eventMessage := rfl
  obtain ⟨alarm, halarm, hkey, hactive⟩ := alarm_of_tells hmessage
    (AlarmTransition.eventMessage_tells hsound) (Station.alarmCode_plain hsound.key_mem)
  have hself : sources.alarm transition = alarm := by rw [EventSources.alarm, halarm, Option.getD_some]
  rw [hself]
  exact ⟨halarm, hkey, hactive⟩

/-- As many keys at most as the station has. -/
theorem length_panelKeys (sources : EventSources) (keys : List AlarmKey) :
    (keys.dedup.map sources.panelKey).dedup.length ≤ keys.dedup.length := by
  have hlength := (List.dedup_sublist (keys.dedup.map sources.panelKey)).length_le
  rwa [List.length_map] at hlength

theorem alarm_key_mem {station : Station} {transition : AlarmTransition}
    (hsound : transition.Sound station.alarmKeys) {alarm : DataModel.Alarm}
    (halarm : (sources.fields transition).alarm = some alarm) :
    alarm.key ∈ station.alarmKeys.dedup.map sources.panelKey := by
  obtain ⟨hparsed, hkey, -⟩ := @fields_alarm sources _ _ hsound
  obtain rfl := Option.some.inj (hparsed.symm.trans halarm)
  rw [hkey]
  exact List.mem_map_of_mem (List.mem_dedup.mpr hsound.key_mem)

end EventSources

/-! ## The system -/

/-- The simulator and the panel's client. -/
structure AlarmSystem where
  simulation : Simulation
  task : ClientTask
  /-- the sources whose events the server sends in this session -/
  subscribed : List Text := []
  inFlight : List EventFields := []
  /-- ghost: the events sent in this session -/
  sent : List AlarmTransition := []

/-- A step of the simulator, the creation of a monitored item for the events of a source, the arrival
of an event, or a step of the panel's client. -/
inductive AlarmEvent where
  | simulator (event : CycleEvent)
  | subscribe (identifier : Text)
  | deliver
  | panel (event : TaskEvent)

namespace AlarmSystem

variable (sources : EventSources)

/-- The server sends an event to a client that has subscribed to its source. -/
def send (system : AlarmSystem) : Option AlarmTransition → AlarmSystem
  | none => system
  | some transition =>
      if transition.sourceIdentifier ∈ system.subscribed then
        { system with
          inFlight := system.inFlight ++ [sources.fields transition]
          sent := system.sent ++ [transition] }
      else system

/-- The panel is in `create_event_subscriptions`, where it may come to the object of the source. -/
def subscribable (system : AlarmSystem) (identifier : Text) : Bool :=
  match system.task.place with
  | .monitor tagIndex =>
      system.task.context.tagNodeIds.length ≤ tagIndex &&
        system.task.context.equipmentNodeIds.contains (sources.nodeId identifier)
  | _ => false

/-- What is left of a session without its client object. -/
def endSession (system : AlarmSystem) : AlarmSystem :=
  { system with subscribed := [], inFlight := [], sent := [] }

def withTask (system : AlarmSystem) (task : ClientTask) : AlarmSystem :=
  { system with task }

def step (system : AlarmSystem) : AlarmEvent → Option AlarmSystem
  | .simulator event =>
      (system.simulation.step event).map fun simulation =>
        { system.send sources (system.simulation.emitted event) with simulation }
  | .subscribe identifier =>
      if system.subscribable sources identifier then
        some { system with subscribed := identifier :: system.subscribed }
      else none
  | .deliver =>
      match system.inFlight with
      | [] => none
      | eventFields :: inFlight =>
          some
            { system with
              task := system.task.withModel
                (eventNotificationCallback system.task.context.dataModel (some eventFields))
              inFlight }
  -- alarms arrive as events
  | .panel (.alarm _) => none
  | .panel event =>
      (system.task.step event).map fun task =>
        if task.uaClient = none then (system.withTask task).endSession else system.withTask task

/-- Neither the simulator nor the panel has begun, and there is a slot for every alarm. -/
structure Start (system : AlarmSystem) : Prop where
  simulation : Simulation.machine.start system.simulation
  task : ClientTask.machine.start system.task
  session : system.subscribed = [] ∧ system.inFlight = [] ∧ system.sent = []
  distinct : sources.Distinct system.simulation.station.alarmKeys
  room : system.simulation.station.alarmKeys.dedup.length ≤ DataModel.maxAlarms

def machine : Machine AlarmSystem AlarmEvent where
  start := Start sources
  step := step sources

/-- The panel has a session and has subscribed to all sources of alarms. -/
def Connected (system : AlarmSystem) : Prop :=
  system.task.place.phase = .session ∧
    ∀ key ∈ system.simulation.station.alarmKeys, key.1 ∈ system.subscribed

/-- No event is in flight or due. -/
def Settled (system : AlarmSystem) : Prop :=
  system.inFlight = [] ∧ system.simulation.pending = []

end AlarmSystem

/-! ## What a session has told -/

/-- The last event about a key tells that its alarm is active. -/
def LastActive (sent : List AlarmTransition) (key : AlarmKey) : Prop :=
  (KeyedSlots.latest AlarmTransition.key sent key).any AlarmTransition.active = true

/-- An event tells that the alarm is active. -/
def Raised (sent : List AlarmTransition) (key : AlarmKey) : Prop :=
  ∃ event ∈ sent, event.key = key ∧ event.active = true

/-- The events sent in a session beside the simulator. -/
structure Told (simulation : Simulation) (subscribed : List Text) (sent : List AlarmTransition) :
    Prop where
  subscribed : ∀ event ∈ sent, event.sourceIdentifier ∈ subscribed
  sound : ∀ event ∈ sent, event.Sound simulation.station.alarmKeys
  settled : ∀ key, key ∉ simulation.pending.map AlarmTransition.key →
    (LastActive sent key ↔ key ∈ simulation.faults.activeKeys ∧ Raised sent key)
  rising : ∀ event ∈ simulation.pending, event.active = true → ¬LastActive sent event.key

section Told

variable {simulation next : Simulation} {subscribed : List Text} {sent : List AlarmTransition}
  {transition : AlarmTransition} {key : AlarmKey}

theorem lastActive_concat :
    LastActive (sent ++ [transition]) key ↔
      if transition.key = key then transition.active = true else LastActive sent key := by
  unfold LastActive
  rw [KeyedSlots.latest_concat]
  by_cases hkey : transition.key = key
  · rw [if_pos hkey, if_pos hkey, Option.any_some]
  · rw [if_neg hkey, if_neg hkey]

theorem raised_concat :
    Raised (sent ++ [transition]) key ↔
      Raised sent key ∨ transition.key = key ∧ transition.active = true := by
  simp [Raised, or_and_right, exists_or]

/-- Of a key about which nothing was sent, nothing is known. -/
theorem not_lastActive (hkey : ∀ event ∈ sent, event.key ≠ key) : ¬LastActive sent key := by
  rw [LastActive, KeyedSlots.latest_eq_none hkey]
  exact Bool.false_ne_true

theorem Told.nothing (simulation : Simulation) : Told simulation [] [] where
  subscribed := by simp
  sound := by simp
  settled key _ := by simp [LastActive, Raised, KeyedSlots.latest]
  rising event _ _ := by simp [LastActive, KeyedSlots.latest]

theorem Told.subscribe (htold : Told simulation subscribed sent) (identifier : Text) :
    Told simulation (identifier :: subscribed) sent where
  subscribed event hevent := List.mem_cons_of_mem _ (htold.subscribed event hevent)
  sound := htold.sound
  settled := htold.settled
  rising := htold.rising

/-- An event that is sent says of its alarm what holds of it now. -/
theorem Told.heard (htold : Told simulation subscribed sent) (hedges : simulation.Edges)
    (hkeys : next.station.alarmKeys = simulation.station.alarmKeys)
    (hactive : next.faults.activeKeys = simulation.faults.activeKeys)
    (hpending : simulation.pending = transition :: next.pending)
    (hsource : transition.sourceIdentifier ∈ subscribed) :
    Told next subscribed (sent ++ [transition]) := by
  have hdue : transition ∈ simulation.pending := by
    rw [hpending]
    exact List.mem_cons_self
  have hfresh : transition.key ∉ next.pending.map AlarmTransition.key := by
    have hnodup := hedges.pending_nodup
    rw [hpending, List.map_cons, List.nodup_cons] at hnodup
    exact hnodup.1
  refine ⟨?_, ?_, fun key hkey => ?_, fun event hevent hrises => ?_⟩
  · exact List.forall_mem_append.mpr ⟨htold.subscribed, List.forall_mem_singleton.mpr hsource⟩
  · rw [hkeys]
    exact List.forall_mem_append.mpr
      ⟨htold.sound, List.forall_mem_singleton.mpr (hedges.pending_sound _ hdue)⟩
  · rw [lastActive_concat, raised_concat, hactive]
    by_cases hsame : transition.key = key
    · subst hsame
      rw [if_pos rfl, ← hedges.pending_active _ hdue]
      exact ⟨fun hrises => ⟨hrises, .inr ⟨rfl, hrises⟩⟩, And.left⟩
    · have hstill : key ∉ simulation.pending.map AlarmTransition.key := by
        rw [hpending, List.map_cons, List.mem_cons, not_or]
        exact ⟨Ne.symm hsame, hkey⟩
      rw [if_neg hsame, htold.settled key hstill, or_iff_left fun hnew => hsame hnew.1]
  · rw [lastActive_concat, if_neg]
    · refine htold.rising event ?_ hrises
      rw [hpending]
      exact List.mem_cons_of_mem _ hevent
    · intro hsame
      exact hfresh (hsame ▸ List.mem_map_of_mem hevent)

/-- Nothing was ever told about a source to which the panel has not subscribed. -/
theorem Told.missed (htold : Told simulation subscribed sent)
    (hkeys : next.station.alarmKeys = simulation.station.alarmKeys)
    (hactive : next.faults.activeKeys = simulation.faults.activeKeys)
    (hpending : simulation.pending = transition :: next.pending)
    (hsource : transition.sourceIdentifier ∉ subscribed) : Told next subscribed sent := by
  have hother : ∀ event ∈ sent, event.key ≠ transition.key := by
    intro event hevent hsame
    have hidentifier : event.sourceIdentifier = transition.sourceIdentifier :=
      congrArg Prod.fst hsame
    exact hsource (hidentifier ▸ htold.subscribed event hevent)
  refine ⟨htold.subscribed, hkeys ▸ htold.sound, fun key hkey => ?_, fun event hevent hrises => ?_⟩
  · rw [hactive]
    by_cases hsame : transition.key = key
    · subst hsame
      refine iff_of_false (not_lastActive hother) ?_
      rintro ⟨-, event, hevent, hsame, -⟩
      exact hother event hevent hsame
    · refine htold.settled key ?_
      rw [hpending, List.map_cons, List.mem_cons, not_or]
      exact ⟨Ne.symm hsame, hkey⟩
  · refine htold.rising event ?_ hrises
    rw [hpending]
    exact List.mem_cons_of_mem _ hevent

/-- An alarm is raised when its key was not active and nothing was due. -/
theorem Told.raise (htold : Told simulation subscribed sent)
    (hkeys : next.station.alarmKeys = simulation.station.alarmKeys)
    (hnone : simulation.pending = [])
    (hraises : FaultManager.Raises simulation.station.alarmKeys simulation.faults next.faults
      next.pending) (hedges : simulation.Edges) : Told next subscribed sent := by
  have hactive : next.faults.activeKeys =
      simulation.faults.activeKeys ++ next.pending.map AlarmTransition.key := by
    rw [FaultManager.activeKeys, hraises.alarms, List.map_append, FaultManager.activeKeys]
  have hdisjoint := (List.nodup_append.mp (hactive ▸ hraises.nodup hedges.alarms_nodup)).2.2
  have hsettled (key : AlarmKey) := htold.settled key (by simp [hnone])
  refine ⟨htold.subscribed, hkeys ▸ htold.sound, fun key hkey => ?_, fun event hevent _ => ?_⟩
  · rw [hsettled key, hactive, List.mem_append, or_iff_left hkey]
  · rw [hsettled event.key]
    rintro ⟨hkey, -⟩
    exact hdisjoint _ hkey _ (List.mem_map_of_mem hevent) rfl

/-- All alarms are cleared when nothing was due. -/
theorem Told.clear (htold : Told simulation subscribed sent)
    (hkeys : next.station.alarmKeys = simulation.station.alarmKeys)
    (hnone : simulation.pending = []) (halarms : next.faults.activeAlarms = [])
    (hcleared : next.pending = simulation.faults.activeAlarms.map FaultManager.cleared) :
    Told next subscribed sent := by
  have hsameKeys : next.pending.map AlarmTransition.key = simulation.faults.activeKeys := by
    rw [hcleared, List.map_map]
    rfl
  have hactive : next.faults.activeKeys = [] := FaultManager.activeKeys_eq_nil halarms
  refine ⟨htold.subscribed, hkeys ▸ htold.sound, fun key hkey => ?_, fun event hevent hrises => ?_⟩
  · rw [htold.settled key (by simp [hnone]), hactive]
    rw [hsameKeys] at hkey
    exact iff_of_false (fun hold => hkey hold.1) (fun hnow => List.not_mem_nil hnow.1)
  · rw [hcleared] at hevent
    obtain ⟨alarm, -, rfl⟩ := List.mem_map.mp hevent
    cases hrises

end Told

/-! ## The system as a whole -/

namespace AlarmSystem

variable {sources : EventSources} {system next : AlarmSystem}

/-- The panel's table holds what has arrived of the events sent in this session. -/
def Filed (sources : EventSources) (system : AlarmSystem) : Prop :=
  ∃ delivered, delivered ++ system.inFlight = system.sent.map sources.fields ∧
    system.task.context.dataModel.alarms =
      KeyedSlots.contents DataModel.Alarm.key DataModel.Alarm.active
        (delivered.filterMap EventFields.alarm)

/-- What holds in every run. -/
structure Agreement (sources : EventSources) (system : AlarmSystem) : Prop where
  edges : system.simulation.Edges
  told : Told system.simulation system.subscribed system.sent
  phased : system.task.Phased
  outside : system.task.place.phase ≠ .session →
    system.subscribed = [] ∧ system.inFlight = [] ∧ system.sent = []
  filed : system.task.place.phase = .session → Filed sources system
  distinct : sources.Distinct system.simulation.station.alarmKeys
  room : system.simulation.station.alarmKeys.dedup.length ≤ DataModel.maxAlarms

theorem Start.agreement (hstart : Start sources system) : Agreement sources system := by
  obtain ⟨hsubscribed, hinFlight, hsent⟩ := hstart.session
  obtain ⟨hplace, hclient⟩ := hstart.task
  have hphase : system.task.place.phase = .idle := by rw [hplace]; rfl
  refine ⟨hstart.simulation.edges, ?_, ?_, fun _ => hstart.session, ?_, hstart.distinct, hstart.room⟩
  · rw [hsubscribed, hsent]
    exact Told.nothing _
  · simpa [ClientTask.Phased, hphase] using hclient
  · rw [hphase]
    exact fun hsession => absurd hsession (by decide)

/-- A step of the simulator, with the event that it may send. -/
theorem Agreement.simulate (hagreement : Agreement sources system) {event : CycleEvent}
    {simulation : Simulation} (hstep : system.simulation.step event = some simulation) :
    Agreement sources
      { system.send sources (system.simulation.emitted event) with simulation } := by
  obtain ⟨halarmStep, hkeys⟩ := Simulation.step_alarms hagreement.edges.ordered hstep
  have hedges := hagreement.edges.step hstep
  have hdistinct := hkeys.symm ▸ hagreement.distinct
  have hroom := hkeys.symm ▸ hagreement.room
  -- as long as the panel does not hear of it, only what it has been told is at stake
  have hunheard (htold : Told simulation system.subscribed system.sent) :
      Agreement sources { system with simulation } :=
    ⟨hedges, htold, hagreement.phased, hagreement.outside, hagreement.filed, hdistinct, hroom⟩
  generalize system.simulation.emitted event = emitted at halarmStep
  cases halarmStep with
  | quiet halarms hpending =>
      have hactive : simulation.faults.activeKeys = system.simulation.faults.activeKeys :=
        FaultManager.activeKeys_congr halarms
      have htold : Told simulation system.subscribed system.sent :=
        { subscribed := hagreement.told.subscribed
          sound := hkeys ▸ hagreement.told.sound
          settled := by rw [hpending, hactive]; exact hagreement.told.settled
          rising := by rw [hpending]; exact hagreement.told.rising }
      exact hunheard htold
  | raise hnone hraises =>
      exact hunheard (hagreement.told.raise hkeys hnone hraises hagreement.edges)
  | clear hnone halarms hcleared =>
      exact hunheard (hagreement.told.clear hkeys hnone halarms hcleared)
  | @emit transition halarms hpending =>
      have hactive : simulation.faults.activeKeys = system.simulation.faults.activeKeys :=
        FaultManager.activeKeys_congr halarms
      simp only [send]
      split
      · next hsource =>
          have htold := hagreement.told.heard hagreement.edges hkeys hactive hpending hsource
          refine ⟨hedges, htold, hagreement.phased, fun hphase => ?_, fun hphase => ?_, hdistinct,
            hroom⟩
          · rw [(hagreement.outside hphase).1] at hsource
            exact absurd hsource List.not_mem_nil
          · obtain ⟨delivered, hsplit, htable⟩ := hagreement.filed hphase
            refine ⟨delivered, ?_, htable⟩
            rw [List.map_append, ← hsplit, List.append_assoc]
            rfl
      · next hsource =>
          exact hunheard (hagreement.told.missed hkeys hactive hpending hsource)

/-- An event that arrives is filed. -/
theorem Filed.deliver (hfiled : Filed sources system)
    (hsound : ∀ event ∈ system.sent, event.Sound system.simulation.station.alarmKeys)
    (hroom : system.simulation.station.alarmKeys.dedup.length ≤ DataModel.maxAlarms)
    {eventFields : EventFields} {inFlight : List EventFields}
    (hinFlight : system.inFlight = eventFields :: inFlight) :
    Filed sources
      { system with
        task := system.task.withModel
          (eventNotificationCallback system.task.context.dataModel (some eventFields))
        inFlight } := by
  obtain ⟨delivered, hsplit, htable⟩ := hfiled
  rw [hinFlight] at hsplit
  -- whatever has arrived or arrives now was sent
  have hsent : ∀ fields ∈ delivered ++ [eventFields],
      ∃ event ∈ system.sent, sources.fields event = fields := by
    intro fields hfields
    apply List.mem_map.mp
    rw [← hsplit]
    simp only [List.mem_append, List.mem_cons, List.not_mem_nil, or_false] at hfields ⊢
    rcases hfields with hold | hnew
    · exact .inl hold
    · exact .inr (.inl hnew)
  obtain ⟨event, hevent, rfl⟩ := hsent eventFields (by simp)
  obtain ⟨hparsed, hkey, -⟩ := @EventSources.fields_alarm sources _ event (hsound event hevent)
  have hkeys : ∀ alarm ∈ delivered.filterMap EventFields.alarm,
      alarm.key ∈ system.simulation.station.alarmKeys.dedup.map sources.panelKey := by
    intro alarm halarm
    obtain ⟨fields, hfields, halarm⟩ := List.mem_filterMap.mp halarm
    obtain ⟨other, hother, rfl⟩ := hsent fields (List.mem_append_left _ hfields)
    exact EventSources.alarm_key_mem (hsound other hother) halarm
  have hslots := (sources.length_panelKeys system.simulation.station.alarmKeys).trans hroom
  obtain ⟨slots, hreport⟩ := Option.ne_none_iff_exists'.mp (@KeyedSlots.report_ne_none _ _ _
    DataModel.Alarm.key DataModel.Alarm.active _ _ _ _ hkeys
    (EventSources.alarm_key_mem (hsound event hevent) hparsed) hslots)
  refine ⟨delivered ++ [sources.fields event], ?_, ?_⟩
  · rw [List.append_assoc]
    exact hsplit
  · have hcode : event.alarmCode ≠ [] :=
      (Station.alarmCode_plain (hsound event hevent).key_mem).ne_nil
    have hcontents := KeyedSlots.report_contents hreport
    rw [← htable] at hreport
    rw [List.filterMap_append, List.filterMap_cons_some hparsed, List.filterMap_nil]
    exact (eventNotificationCallback_alarms hparsed hkey hcode hreport).trans hcontents

/-- The arrival of an event. -/
theorem Agreement.deliver (hagreement : Agreement sources system) {eventFields : EventFields}
    {inFlight : List EventFields} (hinFlight : system.inFlight = eventFields :: inFlight) :
    Agreement sources
      { system with
        task := system.task.withModel
          (eventNotificationCallback system.task.context.dataModel (some eventFields))
        inFlight } := by
  have hphase : system.task.place.phase = .session := by
    by_contra hphase
    rw [(hagreement.outside hphase).2.1] at hinFlight
    cases hinFlight
  have hfiled := (hagreement.filed hphase).deliver hagreement.told.sound hagreement.room hinFlight
  refine ⟨hagreement.edges, hagreement.told, ?_, fun hother => absurd hphase hother, fun _ => hfiled,
    hagreement.distinct, hagreement.room⟩
  refine hagreement.phased.congr rfl rfl rfl ?_ rfl
  exact congrArg (List.map DataModel.Tag.nodeId) (eventNotificationCallback_tags _ _)

/-- A step of the client: a session begins with an empty table and ends with the client object. -/
theorem Agreement.panel (hagreement : Agreement sources system) {event : TaskEvent}
    {task : ClientTask} (hevent : ∀ alarm, event ≠ .alarm alarm)
    (hstep : system.task.step event = some task) :
    Agreement sources
      (if task.uaClient = none then (system.withTask task).endSession
        else system.withTask task) := by
  have hphased : task.Phased := ClientTask.step_phased hagreement.phased hstep
  split
  · next hclient =>
      refine ⟨hagreement.edges, Told.nothing _, hphased, fun _ => ⟨rfl, rfl, rfl⟩, fun hphase => ?_,
        hagreement.distinct, hagreement.room⟩
      obtain ⟨-, client, hsome, -⟩ := hphased.session hphase
      cases hclient.symm.trans hsome
  · next hclient =>
      cases ClientTask.step_phaseStep hevent hstep with
      | stay hphase halarms =>
          refine ⟨hagreement.edges, hagreement.told, hphased, fun hother => ?_, fun hsession => ?_,
            hagreement.distinct, hagreement.room⟩
          · exact hagreement.outside fun hsession => hother (hphase.trans hsession)
          · obtain ⟨delivered, hsplit, htable⟩ := hagreement.filed (hphase.symm.trans hsession)
            exact ⟨delivered, hsplit, halarms.trans htable⟩
      | create hidle hfresh =>
          have hnothing := hagreement.outside (by rw [hidle]; decide)
          refine ⟨hagreement.edges, hagreement.told, hphased, fun _ => hnothing, fun hsession => ?_,
            hagreement.distinct, hagreement.room⟩
          cases hfresh.symm.trans hsession
      | begin hfresh hsession halarms =>
          obtain ⟨hsubscribed, hinFlight, hsent⟩ := hagreement.outside (by rw [hfresh]; decide)
          refine ⟨hagreement.edges, hagreement.told, hphased, fun hother => absurd hsession hother,
            fun _ => ⟨[], ?_, halarms⟩, hagreement.distinct, hagreement.room⟩
          show [] ++ system.inFlight = system.sent.map sources.fields
          rw [hinFlight, hsent]
          rfl
      | leave hidle => exact absurd (hphased.idle hidle) hclient

theorem Agreement.step (hagreement : Agreement sources system) {event : AlarmEvent}
    (hstep : (machine sources).step system event = some next) : Agreement sources next := by
  cases event with
  | simulator event =>
      obtain ⟨simulation, hsimulation, rfl⟩ := Option.map_eq_some_iff.mp hstep
      exact hagreement.simulate hsimulation
  | subscribe identifier =>
      simp only [machine, AlarmSystem.step] at hstep
      split at hstep
      · next hsubscribable =>
          obtain rfl := Option.some.inj hstep
          have hphase : system.task.place.phase = .session := by
            unfold subscribable at hsubscribable
            split at hsubscribable
            · next hplace => rw [hplace]; rfl
            · cases hsubscribable
          exact ⟨hagreement.edges, hagreement.told.subscribe identifier, hagreement.phased,
            fun hother => absurd hphase hother, hagreement.filed, hagreement.distinct,
            hagreement.room⟩
      · cases hstep
  | deliver =>
      simp only [machine, AlarmSystem.step] at hstep
      split at hstep
      · cases hstep
      · next hinFlight =>
          obtain rfl := Option.some.inj hstep
          exact hagreement.deliver hinFlight
  | panel event =>
      have hevent : ∀ alarm, event ≠ .alarm alarm := by
        rintro alarm rfl
        cases hstep
      have hpanel : ∃ task, system.task.step event = some task ∧
          (if task.uaClient = none then (system.withTask task).endSession
            else system.withTask task) = next := by
        cases event with
        | alarm alarm => cases hstep
        | _ => exact Option.map_eq_some_iff.mp hstep
      obtain ⟨task, htask, rfl⟩ := hpanel
      exact hagreement.panel hevent htask

theorem reachable_agreement (hreachable : (machine sources).Reachable system) :
    Agreement sources system :=
  hreachable.invariant (fun _ hstart => Start.agreement hstart) fun _ _ _ hagreement hstep =>
    hagreement.step hstep

/-! ## What the panel shows -/

/-- Once everything has arrived, the table holds all events sent in the session. -/
theorem Agreement.table (hagreement : Agreement sources system)
    (hphase : system.task.place.phase = .session) (hinFlight : system.inFlight = []) :
    system.task.context.dataModel.alarms =
      KeyedSlots.contents DataModel.Alarm.key DataModel.Alarm.active
        (system.sent.map sources.alarm) := by
  obtain ⟨delivered, hsplit, htable⟩ := hagreement.filed hphase
  rw [hinFlight, List.append_nil] at hsplit
  rw [htable, hsplit, List.filterMap_map, ← List.filterMap_eq_map]
  congr 1
  exact List.filterMap_congr fun event hevent =>
    (EventSources.fields_alarm (hagreement.told.sound event hevent)).1

/-- An alarm is active in the table as the last event about it told. -/
theorem Agreement.active_iff (hagreement : Agreement sources system)
    (hphase : system.task.place.phase = .session) (hinFlight : system.inFlight = []) {key : AlarmKey}
    (hkey : key ∈ system.simulation.station.alarmKeys) :
    (∃ alarm ∈ system.task.context.dataModel.alarms,
        alarm.active = true ∧ alarm.key = sources.panelKey key) ↔ LastActive system.sent key := by
  have hsound := hagreement.told.sound
  have hlatest := @KeyedSlots.latest_map _ _ _ AlarmTransition.key system.sent key _ _ _
    DataModel.Alarm.key sources.alarm (sources.panelKey key) fun event hevent => by
      rw [(EventSources.fields_alarm (hsound event hevent)).2.1]
      exact hagreement.distinct.panelKey_inj (hsound event hevent).key_mem hkey
  rw [hagreement.table hphase hinFlight, KeyedSlots.exists_active_contents_iff, hlatest, LastActive]
  cases hlast : KeyedSlots.latest AlarmTransition.key system.sent key with
  | none => exact Iff.rfl
  | some event =>
      have hactive := (@EventSources.fields_alarm sources _ _
        (hsound event (KeyedSlots.latest_mem hlast))).2.2
      rw [Option.map_some, Option.any_some, Option.any_some, hactive]

/-- Every alarm in the table was sent in the session. -/
theorem Agreement.exists_sent (hagreement : Agreement sources system)
    (hphase : system.task.place.phase = .session) (hinFlight : system.inFlight = [])
    {alarm : DataModel.Alarm} (halarm : alarm ∈ system.task.context.dataModel.alarms) :
    ∃ event ∈ system.sent, alarm.key = sources.panelKey event.key := by
  rw [hagreement.table hphase hinFlight] at halarm
  have hlatest := KeyedSlots.latest_of_mem_contents halarm
  obtain ⟨event, hevent, rfl⟩ := List.mem_map.mp (KeyedSlots.latest_mem hlatest)
  exact ⟨event, hevent, (EventSources.fields_alarm (hagreement.told.sound event hevent)).2.1⟩

/-- **Alarm agreement.**  In every run, whenever the panel has a session with all its subscriptions and
no event is due or in flight, the active alarms of its data model are those active alarms of the
simulator that were raised in this session, after the panel had subscribed to their source. -/
theorem alarms_agree (hreachable : (machine sources).Reachable system)
    (hconnected : system.Connected) (hsettled : system.Settled) (key : DataModel.AlarmKey) :
    (∃ activeIndex alarm,
        system.task.context.dataModel.getActiveAlarm activeIndex = some alarm ∧ alarm.key = key) ↔
      ∃ alarm ∈ system.simulation.faults.activeAlarms, sources.panelKey alarm.key = key ∧
        ∃ event ∈ system.sent, event.key = alarm.key ∧ event.active = true := by
  have hagreement := reachable_agreement hreachable
  obtain ⟨hinFlight, hpending⟩ := hsettled
  have hsettled (known : AlarmKey) := hagreement.told.settled known (by simp [hpending])
  have hactive {known : AlarmKey} (hknown : known ∈ system.simulation.station.alarmKeys) :=
    (hagreement.active_iff hconnected.1 hinFlight hknown).trans (hsettled known)
  rw [DataModel.exists_getActiveAlarm_iff]
  constructor
  · rintro ⟨alarm, halarm, hshown, rfl⟩
    obtain ⟨event, hevent, hkey⟩ := hagreement.exists_sent hconnected.1 hinFlight halarm
    have hknown := (hagreement.told.sound event hevent).key_mem
    obtain ⟨hlatched, hraised⟩ := (hactive hknown).mp ⟨alarm, halarm, hshown, hkey⟩
    obtain ⟨latched, hmem, hsame⟩ := List.mem_map.mp hlatched
    exact ⟨latched, hmem, by rw [hsame, hkey], hsame ▸ hraised⟩
  · rintro ⟨alarm, halarm, rfl, hraised⟩
    have hknown := (hagreement.edges.alarms_sound alarm halarm).key_mem
    exact (hactive hknown).mpr ⟨List.mem_map_of_mem halarm, hraised⟩

/-! ## A panel that reconnects -/

/-- The station is the object of the server that the panel discovers. -/
private def pumpSource : EventSources where
  nodeId _ := ⟨1, .numeric 7⟩
  name _ := some (ascii "Pump")

/-- A station without compressors beside a panel, before both begin. -/
private def stationSystem : AlarmSystem where
  simulation :=
    { station := { identifier := ascii "station", displayName := ascii "Station", compressors := [] }
      faults := { configuration := alarmRules }
      updateInterval := 1 / 10
      compressorNodes := [] }
  task := ClientTask.idleTask

private theorem stationSystem_start : (machine pumpSource).start stationSystem where
  simulation := ⟨rfl, rfl, rfl⟩
  task := ClientTask.idleTask_start
  session := ⟨rfl, rfl, rfl⟩
  distinct := by
    unfold EventSources.Distinct
    decide +kernel
  room := by decide +kernel

/-- The panel connects, subscribes to the station, and enters its session. -/
private def connects (session : List TaskEvent) : List AlarmEvent :=
  session.dropLast.map .panel ++ [.subscribe (ascii "station"), .panel (.proceed true)]

/-- A cycle in which the pressure is too high, until its event is emitted. -/
private def pressureRises : List AlarmEvent :=
  .simulator .beginCycle ::
    List.replicate 8 (.simulator (.act { receiverPressureBar := 10 })) ++ [.deliver]

/-- The panel pauses, loses its client object, and is resumed. -/
private def pauses : List AlarmEvent :=
  .panel .pause :: List.replicate 4 (.panel (.proceed false)) ++
    [.panel (.proceed true), .panel .resume]

private theorem raised_isSome :
    ((machine pumpSource).replay stationSystem
      (connects ClientTask.pumpSession ++ pressureRises)).isSome := by
  decide +kernel

private def raisedSystem : AlarmSystem :=
  ((machine pumpSource).replay stationSystem
    (connects ClientTask.pumpSession ++ pressureRises)).get raised_isSome

private theorem forgotten_isSome :
    ((machine pumpSource).replay raisedSystem
      (pauses ++ connects ClientTask.pumpSession.tail)).isSome := by
  decide +kernel

private def forgottenSystem : AlarmSystem :=
  ((machine pumpSource).replay raisedSystem
    (pauses ++ connects ClientTask.pumpSession.tail)).get forgotten_isSome

private theorem raisedSystem_reachable : (machine pumpSource).Reachable raisedSystem :=
  Machine.reachable_of_replay stationSystem_start (Option.some_get raised_isSome).symm

private theorem forgottenSystem_reachable : (machine pumpSource).Reachable forgottenSystem :=
  Machine.ReachedBy.replay raisedSystem_reachable (Machine.admitted_true _)
    (Option.some_get forgotten_isSome).symm

/-- The alarm that is raised in the first session is shown. -/
theorem alarms_agree_raised :
    raisedSystem.Connected ∧ raisedSystem.Settled ∧
      ∃ activeIndex alarm,
        raisedSystem.task.context.dataModel.getActiveAlarm activeIndex = some alarm ∧
          alarm.key = (ascii "ns=1;i=7", highPressure) := by
  have hconnected : raisedSystem.Connected := ⟨by decide +kernel, by decide +kernel⟩
  have hsettled : raisedSystem.Settled := ⟨by decide +kernel, by decide +kernel⟩
  refine ⟨hconnected, hsettled, ?_⟩
  exact (alarms_agree raisedSystem_reachable hconnected hsettled _).mpr (by decide +kernel)

/-- The alarm stays active, but after the pause the panel does not know of it. -/
theorem reconnected_forgets_alarm :
    (machine pumpSource).Reachable forgottenSystem ∧ forgottenSystem.Connected ∧
      forgottenSystem.Settled ∧
      ¬∀ key, (∃ activeIndex alarm,
          forgottenSystem.task.context.dataModel.getActiveAlarm activeIndex = some alarm ∧
            alarm.key = key) ↔
        ∃ alarm ∈ forgottenSystem.simulation.faults.activeAlarms,
          pumpSource.panelKey alarm.key = key := by
  refine ⟨forgottenSystem_reachable, ⟨by decide +kernel, by decide +kernel⟩,
    ⟨by decide +kernel, by decide +kernel⟩, fun hagree => ?_⟩
  have hactive : ∃ alarm ∈ forgottenSystem.simulation.faults.activeAlarms,
      pumpSource.panelKey alarm.key = (ascii "ns=1;i=7", highPressure) := by decide +kernel
  have hnone : forgottenSystem.task.context.dataModel.alarms = [] := by decide +kernel
  obtain ⟨alarm, halarm, -⟩ := DataModel.exists_getActiveAlarm_iff.mp ((hagree _).mpr hactive)
  rw [hnone] at halarm
  exact List.not_mem_nil halarm

end AlarmSystem

end CrowPanel.Simulator
