import CrowPanel.OpcUa.ClientTask
import CrowPanel.OpcUa.Soundness

/-!
# Notifications reach the tag they were requested for

The context pointer of a monitored item is a tag index plus one, and every discovery reuses the
indices.  No item outlives the map its index belongs to: the task deletes the client object on every
way from one discovery to the next, and items are created only after a discovery that succeeded.

## Strategy

The places fall into three phases: before a client object exists (`idle`), between its creation and
the end of the discovery (`fresh`), and afterwards until it is deleted (`session`).  `Phased` says what
holds in each of them.  The conditions of the task lead to places of the same phase
(`condition_phase`), so only the few places with an effect need an argument.
-/

namespace CrowPanel.OpcUa

open Library DataModel

/-- What the client object holds at a place. -/
inductive Phase where
  | idle
  | fresh
  | session
  deriving DecidableEq

def Place.phase : Place → Phase
  | .connect | .discover => .fresh
  | .subscribe | .monitor _ | .sessionStop | .sessionPause | .sessionReconnect | .sessionNetwork
  | .writeRequests | .iterate | .getState | .disconnect | .deleteClient => .session
  | _ => .idle

namespace ClientTask

variable {task next : ClientTask}

/-- The item was created after the latest discovery, for the node now mapped at its index. -/
structure Routed (task : ClientTask) (item : MonitoredItem) : Prop where
  current : item.discovery = task.discoveries
  mapped : task.context.tagNodeIds[item.context - 1]? = some item.nodeId

/-- The tags of the model carry the texts of the mapped NodeIds. -/
def Labelled (context : Context) : Prop :=
  context.dataModel.tags.map Tag.nodeId = context.tagNodeIds.map NodeId.text

/-- What holds of the client object in the phases of the task. -/
def Phased (task : ClientTask) : Prop :=
  match task.place.phase with
  | .idle => task.uaClient = none
  | .fresh => task.uaClient = some {}
  | .session =>
      Labelled task.context ∧
        ∃ client, task.uaClient = some client ∧ ∀ item ∈ client.items, task.Routed item

theorem Phased.idle (hphased : task.Phased) (hphase : task.place.phase = .idle) :
    task.uaClient = none := by
  simpa [Phased, hphase] using hphased

theorem Phased.fresh (hphased : task.Phased) (hphase : task.place.phase = .fresh) :
    task.uaClient = some {} := by
  simpa [Phased, hphase] using hphased

theorem Phased.session (hphased : task.Phased) (hphase : task.place.phase = .session) :
    Labelled task.context ∧
      ∃ client, task.uaClient = some client ∧ ∀ item ∈ client.items, task.Routed item := by
  simpa [Phased, hphase] using hphased

/-- An item of the stack is always routed, whatever the phase. -/
theorem Phased.routed (hphased : task.Phased) {client : UaClient}
    (hclient : task.uaClient = some client) {item : MonitoredItem} (hitem : item ∈ client.items) :
    Labelled task.context ∧ task.Routed item := by
  cases hphase : task.place.phase with
  | idle => simp [hphased.idle hphase] at hclient
  | fresh =>
      obtain rfl : ({} : UaClient) = client := by simpa [hphased.fresh hphase] using hclient
      exact absurd hitem (List.not_mem_nil)
  | session =>
      obtain ⟨hlabelled, other, hother, hrouted⟩ := hphased.session hphase
      obtain rfl : other = client := Option.some.inj (hother.symm.trans hclient)
      exact ⟨hlabelled, hrouted item hitem⟩

/-- Only the place's phase, the client object, the maps, the labels and the count of discoveries
matter. -/
theorem Phased.congr (hphased : task.Phased) (hphase : next.place.phase = task.place.phase)
    (hclient : next.uaClient = task.uaClient)
    (hids : next.context.tagNodeIds = task.context.tagNodeIds)
    (hlabels : next.context.dataModel.tags.map Tag.nodeId =
      task.context.dataModel.tags.map Tag.nodeId)
    (hdiscoveries : next.discoveries = task.discoveries) : next.Phased := by
  unfold Phased at *
  rw [hphase, hclient]
  cases hcase : task.place.phase with
  | idle => simpa [hcase] using hphased
  | fresh => simpa [hcase] using hphased
  | session =>
      rw [hcase] at hphased
      obtain ⟨hlabelled, client, hsome, hrouted⟩ := hphased
      refine ⟨?_, client, hsome, fun item hitem => ?_⟩
      · unfold Labelled
        rw [hlabels, hids]
        exact hlabelled
      · exact ⟨(hrouted item hitem).current.trans hdiscoveries.symm,
          hids ▸ (hrouted item hitem).mapped⟩

/-- The conditions of the task stay within a phase. -/
theorem condition_phase {outcome holds : Bool} {place yes no : Place}
    (hcondition : task.condition outcome place = some (holds, yes, no)) :
    yes.phase = place.phase ∧ no.phase = place.phase := by
  cases place <;> simp only [condition, Option.some.injEq, Prod.mk.injEq, reduceCtorEq] at hcondition
  all_goals
    obtain ⟨_, rfl, rfl⟩ := hcondition
    exact ⟨rfl, rfl⟩

theorem dataChangeCallback_tags (model : DataModel) (pointer : ℕ) (value : Option DataValue) :
    dataChangeCallback model pointer value = model ∨
      ∃ modelValue valid, dataChangeCallback model pointer value =
        (model.updateValue (pointer - 1) (some modelValue) valid).2 := by
  unfold dataChangeCallback
  dsimp only
  split
  · exact .inl rfl
  · split
    · exact .inl rfl
    · split
      · exact .inl rfl
      · exact .inr ⟨_, _, rfl⟩

/-- Storing a value leaves the other tags alone. -/
theorem updateValue_getTag_of_ne (model : DataModel) {index other : ℕ} (value : Value) (valid : Bool)
    (hother : other ≠ index) :
    (model.updateValue index (some value) valid).2.getTag other = model.getTag other := by
  simp only [updateValue]
  split
  · rfl
  · simp [getTag, Ne.symm hother]

theorem dataChangeCallback_labels (model : DataModel) (pointer : ℕ) (value : Option DataValue) :
    (dataChangeCallback model pointer value).tags.map Tag.nodeId = model.tags.map Tag.nodeId := by
  rcases dataChangeCallback_tags model pointer value with hsame | ⟨modelValue, valid, hupdate⟩
  · rw [hsame]
  · rw [hupdate]
    exact updateValue_map_tags fun _ _ _ => rfl

/-- A pass over a tag adds at most an item for the node mapped at the tag's index. -/
theorem monitorTag_cases (task : ClientTask) (tagIndex : ℕ) (created : Bool) :
    task.monitorTag tagIndex created = task ∨
      task.monitorTag tagIndex created =
        { task with uaClient := task.uaClient.map fun client => ⟨client.items ++
          [⟨tagIndex + 1, task.context.tagNodeIds.getD tagIndex .null, task.discoveries⟩]⟩ } := by
  unfold monitorTag
  split
  · exact .inl rfl
  · split
    · exact .inl rfl
    · exact .inr rfl

theorem monitor_phased (hphased : task.Phased) {tagIndex : ℕ} (hplace : task.place = .monitor tagIndex)
    (hindex : tagIndex < task.context.tagNodeIds.length) (created : Bool) :
    ((task.monitorTag tagIndex created).goto (.monitor (tagIndex + 1))).Phased := by
  obtain ⟨hlabelled, client, hclient, hrouted⟩ := hphased.session (by rw [hplace]; rfl)
  rcases task.monitorTag_cases tagIndex created with hsame | hadded
  · rw [hsame]
    exact hphased.congr (by rw [hplace]; rfl) rfl rfl rfl rfl
  · rw [hadded]
    refine ⟨hlabelled, ⟨client.items ++
      [⟨tagIndex + 1, task.context.tagNodeIds.getD tagIndex .null, task.discoveries⟩]⟩,
      by simp only [goto, hclient, Option.map_some], fun item hitem => ?_⟩
    rcases List.mem_append.mp hitem with hold | hnew
    · exact ⟨(hrouted item hold).current, (hrouted item hold).mapped⟩
    · obtain rfl := List.mem_singleton.mp hnew
      refine ⟨rfl, ?_⟩
      simp [goto, List.getElem?_eq_getElem hindex]

theorem proceed_phased (hphased : task.Phased) {outcome : Bool}
    (hproceed : task.proceed outcome = some next) : next.Phased := by
  unfold proceed at hproceed
  split at hproceed
  · next holds yes no hcondition =>
      obtain ⟨hyes, hno⟩ := condition_phase hcondition
      obtain rfl := Option.some.inj hproceed
      refine hphased.congr ?_ rfl rfl rfl rfl
      cases holds
      · exact hno
      · exact hyes
  · split at hproceed
    · next hplace =>
        obtain rfl := Option.some.inj hproceed
        exact hphased.idle (by rw [hplace]; rfl)
    · next hplace =>
        split at hproceed
        · obtain rfl := Option.some.inj hproceed
          rfl
        · obtain rfl := Option.some.inj hproceed
          exact hphased.congr (by rw [hplace]; rfl) rfl rfl rfl rfl
    · next hplace =>
        split at hproceed
        · obtain rfl := Option.some.inj hproceed
          exact hphased.congr (by rw [hplace]; rfl) rfl rfl rfl rfl
        · obtain rfl := Option.some.inj hproceed
          rfl
    · next hplace =>
        obtain rfl := Option.some.inj hproceed
        refine hphased.congr ?_ rfl rfl rfl rfl
        rw [hplace]
        cases outcome <;> rfl
    · next tagIndex hplace =>
        split at hproceed
        · next hindex =>
            obtain rfl := Option.some.inj hproceed
            exact monitor_phased hphased hplace hindex outcome
        · obtain rfl := Option.some.inj hproceed
          exact hphased.congr (by rw [hplace]; rfl) rfl rfl rfl rfl
    · obtain rfl := Option.some.inj hproceed
      rfl
    · next hplace =>
        obtain rfl := Option.some.inj hproceed
        exact hphased.idle (by rw [hplace]; rfl)
    · cases hproceed

/-- A discovery starts without items, and either labels the tags anew or ends the session. -/
theorem runDiscovery_phased (hphased : task.Phased) (hplace : task.place = .discover)
    (env : Environment) : (task.runDiscovery env).Phased := by
  have hclient : task.uaClient = some {} := hphased.fresh (by rw [hplace]; rfl)
  unfold runDiscovery
  rcases hdiscover : discoverAddressSpace env task.context with ⟨status, context⟩
  dsimp only
  split
  · next hgood =>
      have hconsistent := @discoverAddressSpace_consistent env task.context
      rw [hdiscover] at hconsistent
      exact ⟨(hconsistent hgood).tags_text, {}, hclient,
        fun item hitem => absurd hitem List.not_mem_nil⟩
  · rfl

theorem step_phased (hphased : task.Phased) {event : TaskEvent}
    (hstep : machine.step task event = some next) : next.Phased := by
  cases event with
  | proceed outcome => exact proceed_phased hphased hstep
  | discover env =>
      simp only [machine, step] at hstep
      split at hstep
      · next hplace =>
          obtain rfl := Option.some.inj hstep
          exact runDiscovery_phased hphased hplace env
      · cases hstep
  | notify item value =>
      obtain ⟨item, _, rfl⟩ := Option.map_eq_some_iff.mp hstep
      exact hphased.congr rfl rfl rfl (dataChangeCallback_labels _ _ _) rfl
  | alarm alarm =>
      simp only [machine, step] at hstep
      split at hstep
      · obtain rfl := Option.some.inj hstep
        exact hphased.congr rfl rfl rfl (by simp [withModel]) rfl
      · cases hstep
  | start =>
      simp only [machine, step] at hstep
      split at hstep
      · next hplace =>
          obtain rfl := Option.some.inj hstep
          exact hphased.congr (by rw [hplace]; rfl) rfl rfl rfl rfl
      · cases hstep
  | stop | pause | resume | setEndpoint =>
      obtain rfl := Option.some.inj hstep
      exact hphased.congr rfl rfl rfl rfl rfl

theorem reachable_phased (hreachable : machine.Reachable task) : task.Phased :=
  hreachable.invariant (fun task hstart => by
    obtain ⟨hplace, hclient⟩ := hstart
    simp [Phased, hplace, hclient, Place.phase]) fun _ _ _ hphased hstep => step_phased hphased hstep

/-- **Notification routing.**  In every run, a notification is delivered for an item of the latest
discovery, and what it stores goes to the tag that is mapped to the node the item was created for;
the other tags stay as they are. -/
theorem notify_routed (hreachable : machine.Reachable task) {place : ℕ} {value : Option DataValue}
    (hstep : machine.step task (.notify place value) = some next) :
    ∃ client item, task.uaClient = some client ∧ client.items[place]? = some item ∧
      item.discovery = task.discoveries ∧
      task.context.tagNodeIds[item.context - 1]? = some item.nodeId ∧
      (∃ tag, task.context.dataModel.getTag (item.context - 1) = some tag ∧
        tag.nodeId = item.nodeId.text) ∧
      next.context.dataModel = dataChangeCallback task.context.dataModel item.context value ∧
      ∀ other, other ≠ item.context - 1 →
        next.context.dataModel.getTag other = task.context.dataModel.getTag other := by
  obtain ⟨item, hitem, rfl⟩ := Option.map_eq_some_iff.mp hstep
  obtain ⟨client, hclient, hget⟩ := Option.bind_eq_some_iff.mp hitem
  obtain ⟨hlabelled, hrouted⟩ :=
    (reachable_phased hreachable).routed hclient (List.mem_of_getElem? hget)
  have hlabel := congrArg (fun labels => labels[item.context - 1]?) hlabelled
  simp only [List.getElem?_map, hrouted.mapped, Option.map_some] at hlabel
  refine ⟨client, item, hclient, hget, hrouted.current, hrouted.mapped,
    Option.map_eq_some_iff.mp hlabel, rfl, fun other hother => ?_⟩
  show (dataChangeCallback task.context.dataModel item.context value).getTag other = _
  rcases dataChangeCallback_tags task.context.dataModel item.context value with hsame | hupdate
  · rw [hsame]
  · obtain ⟨modelValue, valid, hupdate⟩ := hupdate
    rw [hupdate, updateValue_getTag_of_ne _ modelValue valid hother]

/-! ## A run that delivers -/

/-- A client that has not been started, with room for one root and its tags. -/
def idleTask : ClientTask where
  control := { endpointUrl := .empty }
  context := freshContext 4

theorem idleTask_start : machine.start idleTask := ⟨rfl, rfl⟩

/-- From the start to the first pass of the session loop, against the server with the pump. -/
def pumpSession : List TaskEvent :=
  .start :: List.replicate 3 (.proceed false) ++ [.proceed true] ++ List.replicate 2 (.proceed false) ++
    [.proceed true] ++ List.replicate 2 (.proceed false) ++ List.replicate 3 (.proceed true) ++
    [.discover (staticServer pumpSpace), .proceed true, .proceed true, .proceed true]

private theorem pumpSession_isSome : (machine.replay idleTask pumpSession).isSome := by
  decide +kernel

/-- The client with a session in which the pump's variable is monitored. -/
private def pumpTask : ClientTask :=
  (machine.replay idleTask pumpSession).get pumpSession_isSome

private theorem pumpTask_reachable : machine.Reachable pumpTask :=
  Machine.reachable_of_replay idleTask_start (Option.some_get pumpSession_isSome).symm

/-- The value true, delivered for the pump's variable. -/
private def pumpRuns : Option DataValue := some { value := .boolean true }

theorem notify_routed_pump :
    pumpTask.context.tagNodeIds = [⟨1, .numeric 8⟩] ∧
      ∃ item, (pumpTask.uaClient.bind fun client => client.items[0]?) = some item ∧
        pumpTask.context.tagNodeIds[item.context - 1]? = some item.nodeId := by
  refine ⟨by decide +kernel, ?_⟩
  obtain ⟨next, hnext⟩ := Option.isSome_iff_exists.mp
    (show (machine.step pumpTask (.notify 0 pumpRuns)).isSome by decide +kernel)
  obtain ⟨client, item, hclient, hitem, _, hmapped, _⟩ := notify_routed pumpTask_reachable hnext
  exact ⟨item, by rw [hclient]; exact hitem, hmapped⟩

end ClientTask

end CrowPanel.OpcUa
