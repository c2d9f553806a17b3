import CrowPanel.Ui.WritePath
import CrowPanel.OpcUa.Soundness
import Mathlib.Data.List.ReduceOption

/-!
# The discovery, step by step

Two links between the machine of the write path and the rest of the client.

* `discoverAddressSpace_replay`: whatever the server answers, `discover_address_space` as a whole is
  a run of the machine from the point after the connection.  So nothing that the client can do is
  lost by taking the discovery apart.
* `Mapped`: the ghosts are what they are said to be.  The tags carry the texts of the listed nodes,
  and in a session the list is the map of the client.
* `reachable_modeNode`: for an equipment of the current discovery the ghosts name the very node of the
  automatic mode that a handler finds.
-/

namespace CrowPanel.Ui

open Library DataModel OpcUa Relation

namespace Panel

variable {panel next : Panel} {event : Event}

/-! ## The elementary changes as steps -/

/-- A run of the task leads to a panel that differs in the context, the ghosts and the place. -/
def Leads (panel : Panel) (context : Context) (place : TaskPlace) : Prop :=
  ∃ events known, machine.replay panel events = some { panel with context, known, place }

theorem Leads.refl (panel : Panel) : panel.Leads panel.context panel.place :=
  ⟨[], panel.known, rfl⟩

/-- After a run of the task comes another one. -/
theorem Leads.trans {context final : Context} {place last : TaskPlace}
    (hleads : panel.Leads context place)
    (hrest : ∀ known, { panel with context, known, place }.Leads final last) :
    panel.Leads final last := by
  obtain ⟨events, known, hreplay⟩ := hleads
  obtain ⟨later, others, hlater⟩ := hrest known
  exact ⟨events ++ later, others, Machine.replay_trans hreplay hlater⟩

theorem Leads.of_replay {events : List Event} {context : Context} {known : Known}
    {place : TaskPlace}
    (hreplay : machine.replay panel events = some { panel with context, known, place }) :
    panel.Leads context place :=
  ⟨events, known, hreplay⟩

theorem requests_leads (hplace : panel.place = .browsing) (calls : List Call) :
    panel.Leads { panel.context with calls } .browsing := by
  refine @Leads.of_replay _ [.request calls] _ panel.known _ ?_
  simp [Machine.replay, machine, step, hplace]

/-- The addition of an object with the store that follows. -/
theorem withObject_leads (hplace : panel.place = .browsing) {equipment : Equipment}
    {nodeId : NodeId} (hcustom : nodeId.namespaceIndex ≠ 0)
    (hunmapped : nodeId ∉ panel.context.equipmentNodeIds) (htext : equipment.nodeId = nodeId.text)
    (hroom : panel.context.dataModel.equipment.length < panel.context.dataModel.equipmentCapacity)
    (hcell : panel.context.dataModel.equipment.length <
      panel.context.configuration.maximumEquipmentObjects) :
    panel.Leads (panel.context.withObject equipment nodeId) .browsing := by
  have hindex := (@addEquipment_index_eq_some_iff _ equipment _).mpr ⟨hroom, rfl⟩
  have hcode := @addEquipment_code_of_room _ equipment hroom
  refine @Leads.of_replay _ [.addObject equipment nodeId, .proceed] _ panel.known _ ?_
  simp [Machine.replay, machine, step, addObject, proceed, withModel, Context.withObject, hplace,
    hcustom, hunmapped, htext, hindex, hcode, Nat.not_le_of_lt hcell]

/-- The addition of a tag with the store that follows. -/
theorem withTag_leads (hplace : panel.place = .browsing) {tag : Tag} {nodeId : NodeId}
    (type : Option BuiltinType) (hcustom : nodeId.namespaceIndex ≠ 0)
    (hunmapped : nodeId ∉ panel.context.tagNodeIds) (htext : tag.nodeId = nodeId.text)
    (hroom : panel.context.dataModel.tags.length < panel.context.dataModel.tagCapacity)
    (hcell : panel.context.dataModel.tags.length < panel.context.configuration.maximumTags) :
    panel.Leads (panel.context.withTag tag nodeId type) .browsing := by
  have hindex := (@addTag_index_eq_some_iff _ tag _).mpr ⟨hroom, rfl⟩
  have hcode := @addTag_code_of_room _ tag hroom
  refine @Leads.of_replay _ [.addTag tag nodeId type, .proceed] _ (panel.known.withTag tag nodeId) _ ?_
  simp [Machine.replay, machine, step, addTag, proceed, withModel, Context.withTag, hplace,
    hcustom, hunmapped, htext, hindex, hcode, Nat.not_le_of_lt hcell]

/-- An addition in vain. -/
theorem rejected_leads (hplace : panel.place = .browsing) {op : Op}
    (hrejected : Rejected panel.context op) :
    panel.Leads { panel.context with dataModel := (panel.context.dataModel.exec op).2 } .failed := by
  cases hrejected with
  | @object equipment nodeId hcustom hunmapped htext hfull =>
      refine @Leads.of_replay _ [.addObject equipment nodeId, .proceed] _ panel.known _ ?_
      by_cases hroom : panel.context.dataModel.equipment.length <
          panel.context.dataModel.equipmentCapacity
      · have hindex := (@addEquipment_index_eq_some_iff _ equipment _).mpr ⟨hroom, rfl⟩
        have hcell := hfull.resolve_left (Nat.not_le_of_lt hroom)
        simp [Machine.replay, machine, step, addObject, proceed, withModel, exec, hplace, hcustom,
          hunmapped, htext, hindex, hcell]
      · have hindex := (@addEquipment_index_eq_none_iff _ equipment).mpr (Nat.le_of_not_lt hroom)
        simp [Machine.replay, machine, step, addObject, proceed, withModel, exec, hplace, hcustom,
          hunmapped, htext, hindex]
  | @tag tag nodeId hcustom hunmapped htext hfull =>
      by_cases hroom : panel.context.dataModel.tags.length < panel.context.dataModel.tagCapacity
      · refine @Leads.of_replay _ [.addTag tag nodeId none, .proceed] _
          (panel.known.withTag tag nodeId) _ ?_
        have hindex := (@addTag_index_eq_some_iff _ tag _).mpr ⟨hroom, rfl⟩
        have hcell := hfull.resolve_left (Nat.not_le_of_lt hroom)
        simp [Machine.replay, machine, step, addTag, proceed, withModel, exec, hplace, hcustom,
          hunmapped, htext, hindex, hcell]
      · refine @Leads.of_replay _ [.addTag tag nodeId none, .proceed] _ panel.known _ ?_
        have hindex := (@addTag_index_eq_none_iff _ tag).mpr (Nat.le_of_not_lt hroom)
        simp [Machine.replay, machine, step, addTag, proceed, withModel, exec, hplace, hcustom,
          hunmapped, htext, hindex]

theorem discoveryStep_leads (hplace : panel.place = .browsing) {context : Context}
    (hstep : DiscoveryStep panel.context context) : panel.Leads context .browsing := by
  cases hstep with
  | requests calls => exact requests_leads hplace calls
  | object hcustom hunmapped htext _ hroom hcell =>
      exact withObject_leads hplace hcustom hunmapped htext hroom hcell
  | @tag _ nodeId type _ hcustom hunmapped htext _ _ hroom hcell =>
      exact withTag_leads hplace type hcustom hunmapped htext hroom hcell

theorem steps_leads (hplace : panel.place = .browsing) {context : Context}
    (hsteps : Steps panel.context context) : panel.Leads context .browsing := by
  induction hsteps with
  | refl => simpa [hplace] using Leads.refl panel
  | tail _ hstep ih =>
      exact ih.trans fun known => discoveryStep_leads rfl hstep

/-! ## The whole discovery -/

/-- A browse that fails ends before the clean-up. -/
theorem outcome_leads (hplace : panel.place = .browsing) {status : StatusCode} {context : Context}
    (houtcome : Outcome panel.context (status, context)) :
    panel.Leads context (if status = .good then .ending true else .failed) := by
  rcases houtcome with hsteps | ⟨hbad, middle, op, calls, hsteps, hrejected, hresult⟩
  · refine (steps_leads hplace hsteps).trans fun known => ?_
    refine @Leads.of_replay _ [.browsed (status = .good)] _ known _ ?_
    simp [Machine.replay, machine, step]
  · have hbad : status ≠ .good := hbad
    obtain rfl : context = _ := hresult
    rw [if_neg hbad]
    refine (steps_leads hplace hsteps).trans fun known => ?_
    refine (requests_leads rfl calls).trans fun others => ?_
    -- the requests after the addition are made before it here
    refine @rejected_leads
      { panel with context := { middle with calls }, known := others, place := .browsing } rfl op
      ?_
    cases hrejected with
    | object hcustom hunmapped htext hfull => exact .object hcustom hunmapped htext hfull
    | tag hcustom hunmapped htext hfull => exact .tag hcustom hunmapped htext hfull

theorem cleared_leads (hplace : panel.place = .connected) :
    panel.Leads panel.context.cleared .browsing := by
  refine @Leads.of_replay _ [.proceed, .proceed, .proceed] _ panel.known.forgotten _ ?_
  simp [Machine.replay, machine, step, proceed, withModel, Context.cleared,
    Context.clearTagNodeIds, hplace]

/-- **The discovery is a run of the machine.**  It leads from the point after the connection to a
session, or back to the point before it, with the context that `discover_address_space` makes. -/
theorem discoverAddressSpace_leads (env : Environment) (hplace : panel.place = .connected) :
    panel.Leads (discoverAddressSpace env panel.context).2
      (if (discoverAddressSpace env panel.context).1 = .good then .session else .disconnected) := by
  obtain ⟨status, browsed, hbrowse, hdiscover⟩ := discoverAddressSpace_cases env panel.context
  have houtcome := browseChildren_outcome env
    (panel.context.configuration.maximumBrowseDepth + 1) .objectsFolder none panel.context.cleared
    (by simp [Context.HasObject])
  rw [hbrowse] at houtcome
  rw [hdiscover]
  refine (cleared_leads hplace).trans fun known => ?_
  refine (outcome_leads rfl houtcome).trans fun others => ?_
  by_cases hstatus : status = .good
  · refine @Leads.of_replay _ [.proceed] _ others _ ?_
    simp [Machine.replay, machine, step, proceed, withModel, Context.published, hstatus]
  · refine @Leads.of_replay _ [.proceed, .proceed, .proceed] _ others.forgotten _ ?_
    simp [Machine.replay, machine, step, proceed, withModel, Context.published, Context.abandoned,
      Context.clearTagNodeIds, hstatus]

end Panel

/-! ## The ghosts -/

namespace Known

/-- What a tag adds to the automatic modes. -/
def modeOf (discovery : ℕ) (tag : Tag) (nodeId : NodeId) : Option (Owner × NodeId) :=
  if tag.hasRole "automatic_mode" then some (⟨discovery, tag.equipmentIndex⟩, nodeId) else none

/-- The ghosts tell about the tags of the model: each has the text of its node, and those that are an
automatic mode are the modes of the current discovery, in their order. -/
structure Follows (known : Known) (tags : List Tag) : Prop where
  labels : tags.map Tag.nodeId = known.tagNodes.map NodeId.text
  discovery_le : ∀ mode ∈ known.modes, mode.1.discovery ≤ known.discovery
  modes : known.modes.filter (fun mode => mode.1.discovery = known.discovery) =
    (List.zipWith (modeOf known.discovery) tags known.tagNodes).reduceOption

variable {known : Known} {tags : List Tag}

theorem Follows.length_eq (hfollows : known.Follows tags) :
    tags.length = known.tagNodes.length := by
  simpa using congrArg List.length hfollows.labels

/-- Only the nodes, the roles and the equipment of the tags count. -/
theorem Follows.congr (hfollows : known.Follows tags) {others : List Tag}
    (hlabels : others.map Tag.nodeId = tags.map Tag.nodeId)
    (hmodes : others.map (modeOf known.discovery) = tags.map (modeOf known.discovery)) :
    known.Follows others := by
  refine ⟨hlabels.trans hfollows.labels, hfollows.discovery_le, ?_⟩
  have hzip : ∀ list : List Tag, List.zipWith (modeOf known.discovery) list known.tagNodes =
      List.zipWith (fun mode nodeId => mode nodeId) (list.map (modeOf known.discovery))
        known.tagNodes := fun list => by
    rw [List.zipWith_map_left]
  rw [hzip, hmodes, ← hzip]
  exact hfollows.modes

/-- After a clear no mode belongs to the current discovery. -/
theorem Follows.forgotten (hfollows : known.Follows tags) : known.forgotten.Follows [] := by
  refine ⟨rfl, fun mode hmode => ?_, List.filter_eq_nil_iff.mpr fun mode hmode => ?_⟩
  · exact Nat.le_succ_of_le (hfollows.discovery_le mode hmode)
  · have hle := hfollows.discovery_le mode hmode
    intro hsame
    have hsame : mode.1.discovery = known.discovery + 1 := of_decide_eq_true hsame
    omega

theorem Follows.withTag (hfollows : known.Follows tags) {tag stored : Tag} {nodeId : NodeId}
    (htext : tag.nodeId = nodeId.text) (hstored : stored.nodeId = tag.nodeId)
    (hmode : modeOf known.discovery stored = modeOf known.discovery tag) :
    (known.withTag tag nodeId).Follows (tags ++ [stored]) := by
  have hadded : (known.withTag tag nodeId).modes =
      known.modes ++ (modeOf known.discovery tag nodeId).toList := by
    unfold Known.withTag modeOf
    split <;> simp
  have hdiscovery : ∀ mode ∈ (modeOf known.discovery tag nodeId).toList,
      mode.1.discovery = known.discovery := by
    unfold modeOf
    split <;> simp
  refine ⟨?_, fun mode hmem => ?_, ?_⟩
  · simp [Known.withTag, hfollows.labels, hstored, htext]
  · rw [hadded] at hmem
    rcases List.mem_append.mp hmem with hold | hnew
    · exact hfollows.discovery_le mode hold
    · exact (hdiscovery mode hnew).le
  · have hall : (modeOf known.discovery tag nodeId).toList.filter
        (fun mode => mode.1.discovery = known.discovery) =
        (modeOf known.discovery tag nodeId).toList :=
      List.filter_eq_self.mpr fun mode hmem => by simpa using hdiscovery mode hmem
    show (known.withTag tag nodeId).modes.filter (fun mode => mode.1.discovery = known.discovery) =
      (List.zipWith (modeOf known.discovery) (tags ++ [stored])
        (known.tagNodes ++ [nodeId])).reduceOption
    rw [hadded, List.filter_append, hall, hfollows.modes, List.zipWith_append hfollows.length_eq,
      List.reduceOption_append]
    congr 1
    simp only [List.zipWith_cons_cons, List.zipWith_nil_right, hmode]
    cases modeOf known.discovery tag nodeId <;> rfl

/-- A mode of the current discovery is looked up among the modes of that discovery. -/
theorem lookup_filter (modes : List (Owner × NodeId)) (owner : Owner) :
    (modes.filter fun mode => mode.1.discovery = owner.discovery).lookup owner =
      modes.lookup owner := by
  induction modes with
  | nil => rfl
  | cons mode modes ih =>
      obtain ⟨other, nodeId⟩ := mode
      by_cases hsame : other.discovery = owner.discovery
      · simp [hsame, List.lookup_cons, ih]
      · have hother : (owner == other) = false :=
          beq_eq_false_iff_ne.mpr fun heq => hsame (congrArg Owner.discovery heq.symm)
        simp [hsame, List.lookup_cons, hother, ih]

/-- Among the modes of some tags, that of an equipment is the first of its tags with the role. -/
theorem lookup_zipWith_modeOf {discovery index : ℕ} {mode : Tag} {nodes : List NodeId}
    (hlength : tags.length = nodes.length) (htag : tags[index]? = some mode)
    (hrole : mode.hasRole "automatic_mode" = true)
    (hfirst : ∀ earlier < index, ∀ tag, tags[earlier]? = some tag →
      ¬ (tag.equipmentIndex = mode.equipmentIndex ∧ tag.hasRole "automatic_mode")) :
    (List.zipWith (modeOf discovery) tags nodes).reduceOption.lookup
      ⟨discovery, mode.equipmentIndex⟩ = nodes[index]? := by
  induction tags generalizing nodes index with
  | nil => simp at htag
  | cons tag tags ih =>
      cases nodes with
      | nil => simp at hlength
      | cons nodeId nodes =>
          cases index with
          | zero =>
              obtain rfl : tag = mode := by simpa using htag
              simp [modeOf, hrole]
          | succ index =>
              have hother := hfirst 0 (Nat.succ_pos index) tag rfl
              have hrest := ih (by simpa using hlength) (by simpa using htag)
                fun earlier hlt other hget => hfirst (earlier + 1) (Nat.succ_lt_succ hlt) other
                  (by simpa using hget)
              by_cases htagRole : tag.hasRole "automatic_mode" = true
              · have hne : ((⟨discovery, mode.equipmentIndex⟩ : Owner) ==
                    ⟨discovery, tag.equipmentIndex⟩) = false :=
                  beq_eq_false_iff_ne.mpr fun heq =>
                    hother ⟨(congrArg Owner.equipmentIndex heq).symm, htagRole⟩
                simpa [modeOf, htagRole, List.lookup_cons, hne] using hrest
              · simpa [modeOf, htagRole] using hrest

/-- For an equipment of the current discovery the ghosts name the node of its automatic mode. -/
theorem Follows.modeNode_eq (hfollows : known.Follows tags) {index : ℕ} {mode : Tag}
    (htag : tags[index]? = some mode) (hrole : mode.hasRole "automatic_mode" = true)
    (hfirst : ∀ earlier < index, ∀ tag, tags[earlier]? = some tag →
      ¬ (tag.equipmentIndex = mode.equipmentIndex ∧ tag.hasRole "automatic_mode")) :
    known.modeNode ⟨known.discovery, mode.equipmentIndex⟩ = known.tagNodes.getD index .null := by
  rw [modeNode, ← lookup_filter, hfollows.modes,
    lookup_zipWith_modeOf hfollows.length_eq htag hrole hfirst, List.getD_eq_getElem?_getD]

end Known

namespace Panel

variable {panel next : Panel} {event : Event}

/-- How the ghost list relates to the map at a place of the task. -/
def MapAgrees (panel : Panel) : Prop :=
  match panel.place with
  | .modelCleared | .abandoned => panel.known.tagNodes = []
  | .browsing | .objectAdded _ _ _ | .tagAdded _ none _ _ | .ending _ | .session =>
      panel.known.tagNodes = panel.context.tagNodeIds
  | .tagAdded _ (some index) nodeId _ =>
      index = panel.context.tagNodeIds.length ∧
        panel.known.tagNodes = panel.context.tagNodeIds ++ [nodeId]
  | .disconnected | .connected | .begun | .failed => True

/-- The ghosts tell about the tags of the model, and the map is on the way to hold their nodes too. -/
structure Mapped (panel : Panel) : Prop where
  follows : panel.known.Follows panel.context.dataModel.tags
  map : panel.MapAgrees

theorem Mapped.congr (hmapped : panel.Mapped) (hplace : next.place = panel.place)
    (hknown : next.known = panel.known) (hids : next.context.tagNodeIds = panel.context.tagNodeIds)
    (hfollows : panel.known.Follows next.context.dataModel.tags) : next.Mapped := by
  refine ⟨by rwa [hknown], ?_⟩
  have hmap := hmapped.map
  unfold MapAgrees at hmap ⊢
  rw [hplace, hknown, hids]
  exact hmap

theorem proceed_mapped (hmapped : panel.Mapped) (hproceed : panel.proceed = some next) :
    next.Mapped := by
  obtain ⟨hfollows, hmap⟩ := hmapped
  unfold MapAgrees at hmap
  cases proceed_proceeds hproceed with
  | began | objectLost | tagLost => exact ⟨hfollows, trivial⟩
  | clearedModel | failed => exact ⟨by simpa [withModel, DataModel.clear] using hfollows.forgotten, rfl⟩
  | clearedMap hplace | abandoned hplace | objectStored hplace =>
      simp only [hplace] at hmap
      exact ⟨hfollows, hmap⟩
  | tagStored hplace =>
      simp only [hplace] at hmap
      obtain ⟨rfl, hnodes⟩ := hmap
      exact ⟨hfollows, hnodes.trans (storeLast_length _ _ _).symm⟩
  | ended good hplace =>
      simp only [hplace] at hmap
      refine ⟨by simpa [withModel] using hfollows, ?_⟩
      cases good
      · trivial
      · exact hmap

theorem addTag_mapped (hmapped : panel.Mapped) {tag : Tag} {nodeId : NodeId}
    {type : Option BuiltinType} (hadd : panel.addTag tag nodeId type = some next) :
    next.Mapped := by
  unfold addTag at hadd
  split at hadd
  · next henabled =>
      obtain ⟨hplace, _, _, htext⟩ := henabled
      have hmap := hmapped.map
      simp only [MapAgrees, hplace] at hmap
      obtain rfl := Option.some.inj hadd
      cases hindex : (panel.context.dataModel.addTag (some tag)).index with
      | none =>
          have hfull := addTag_index_eq_none_iff.mp hindex
          have hsame : (panel.context.dataModel.addTag (some tag)).model = panel.context.dataModel := by
            simp [DataModel.addTag, hfull]
          refine ⟨?_, hmap⟩
          simpa [withModel, hsame] using hmapped.follows
      | some index =>
          obtain ⟨hroom, rfl⟩ := addTag_index_eq_some_iff.mp hindex
          have hlength := hmapped.follows.length_eq
          refine ⟨?_, hlength.trans (congrArg List.length hmap), ?_⟩
          · show (panel.known.withTag tag nodeId).Follows
              (panel.context.dataModel.addTag (some tag)).model.tags
            rw [addTag_tags hroom]
            exact hmapped.follows.withTag htext rfl rfl
          · simp [withModel, Known.withTag, hmap]
  · cases hadd

theorem step_mapped (hmapped : panel.Mapped) (hstep : machine.step panel event = some next) :
    next.Mapped := by
  cases event with
  | proceed => exact proceed_mapped hmapped hstep
  | addTag tag nodeId type => exact addTag_mapped hmapped hstep
  -- outside a session nothing is said about the map
  | connect | disconnect | finish =>
      simp only [machine, step] at hstep
      split at hstep
      · next hplace =>
          obtain rfl := Option.some.inj hstep
          exact ⟨hmapped.follows, by simp [MapAgrees, hplace]⟩
      · cases hstep
  | addObject equipment nodeId =>
      simp only [machine, step, addObject] at hstep
      split at hstep
      · next henabled =>
          have hmap := hmapped.map
          simp only [MapAgrees, henabled.1] at hmap
          obtain rfl := Option.some.inj hstep
          exact ⟨by simpa [withModel] using hmapped.follows, hmap⟩
      · cases hstep
  | browsed good =>
      simp only [machine, step] at hstep
      split at hstep
      · next hplace =>
          have hmap := hmapped.map
          simp only [MapAgrees, hplace] at hmap
          obtain rfl := Option.some.inj hstep
          refine ⟨hmapped.follows, ?_⟩
          cases good
          · trivial
          · exact hmap
      · cases hstep
  | request calls =>
      simp only [machine, step] at hstep
      split at hstep
      · obtain rfl := Option.some.inj hstep
        exact hmapped.congr rfl rfl rfl hmapped.follows
      · cases hstep
  | updateValue index value valid =>
      simp only [machine, step] at hstep
      split at hstep
      · obtain rfl := Option.some.inj hstep
        exact hmapped.congr rfl rfl rfl (hmapped.follows.congr
          (updateValue_map_tags fun _ _ _ => rfl) (updateValue_map_tags fun _ _ _ => rfl))
      · cases hstep
  | updateAlarm alarm =>
      simp only [machine, step] at hstep
      split at hstep
      · obtain rfl := Option.some.inj hstep
        exact hmapped.congr rfl rfl rfl (by simpa [withModel] using hmapped.follows)
      · cases hstep
  | drain =>
      simp only [machine, step, drain] at hstep
      split at hstep
      · split at hstep
        · cases hstep
        · obtain rfl := Option.some.inj hstep
          exact hmapped.congr rfl rfl rfl hmapped.follows
      · cases hstep
  | handle =>
      obtain ⟨queue, observed, controls, activity, rfl, _⟩ := handle_cases hstep
      exact hmapped.congr rfl rfl rfl hmapped.follows
  | refresh | build | built | toggle | release =>
      obtain ⟨controls, activity, rfl⟩ := widgets_frame (by trivial) hstep
      exact hmapped.congr rfl rfl rfl hmapped.follows

/-- The ghosts are right in every run: the listed nodes are those of the tags, and in a session they
are the mapped ones. -/
theorem reachable_mapped (hreachable : machine.Reachable panel) : panel.Mapped := by
  refine hreachable.invariant (fun panel hstart => ?_) fun _ _ _ => step_mapped
  obtain ⟨htags, _, hknown, hplace, _⟩ := hstart
  refine ⟨?_, by simp [MapAgrees, hplace]⟩
  rw [htags, hknown]
  exact ⟨rfl, by simp, rfl⟩

/-- What a handler finds in the model of a session for a widget of the same discovery is what the
ghosts say: the write that ends the automatic mode is for the node that the client maps. -/
theorem reachable_modeNode (hreachable : machine.Reachable panel) (hsession : panel.place = .session)
    {index : ℕ} {mode : Tag} (htag : panel.context.dataModel.getTag index = some mode)
    (hrole : mode.hasRole "automatic_mode" = true)
    (hfirst : ∀ earlier < index, ∀ tag, panel.context.dataModel.getTag earlier = some tag →
      ¬ (tag.equipmentIndex = mode.equipmentIndex ∧ tag.hasRole "automatic_mode")) :
    panel.known.modeNode ⟨panel.known.discovery, mode.equipmentIndex⟩ =
      panel.context.tagNodeIds.getD index .null := by
  obtain ⟨hfollows, hmap⟩ := reachable_mapped hreachable
  simp only [MapAgrees, hsession] at hmap
  rw [hfollows.modeNode_eq htag hrole hfirst, hmap]

end Panel

end CrowPanel.Ui
