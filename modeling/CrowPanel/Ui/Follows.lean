import CrowPanel.DataModel.Alarms
import CrowPanel.Ui.Refresh
import CrowPanel.Ui.Undisturbed

/-!
# Following the model

What the UI knows while the client task goes on changing the model.

`Follows ui model` is the invariant.  It is stated with `UpTo`: the generations that the UI has
observed are not behind those of the model.  As long as this is so for the structure, the bindings
are those that an undisturbed rebuild would make; for the alarms and the values likewise.  A
generation is recorded before the reads that it stands for, and never from the future (`Behind`).
Hence what moved during the reads is seen in the counter afterwards, and the clause says nothing.

Each program of the UI keeps the invariant, whatever the client task does in between.  The reads of a
program count from the world in which they begin: `Kept` says that nothing they look at has changed
since.
-/

namespace CrowPanel.Ui

open Library DataModel Reads

/-- What may happen between two reads: calls of the client task, and time. -/
def Advances (world later : World) : Prop :=
  Later world.model later.model

instance : IsPreorder World Advances where
  refl := fun world => Later.refl world.model
  trans := fun _ _ _ => Later.trans

/-- Since `start` the structure has been kept, and the values and the alarms if so required. -/
structure Kept (values alarms : Bool) (start final : World) : Prop where
  structure_le : final.model.pendingGeneration ≤ start.model.structureGeneration
  value_le : values = true → final.model.valueGeneration ≤ start.model.valueGeneration
  alarm_le : alarms = true → final.model.alarmGeneration ≤ start.model.alarmGeneration

section

variable {values alarms : Bool} {start middle final : World}

theorem Kept.restart (hadvances : Advances start middle) (hkept : Kept values alarms start final) :
    Kept values alarms middle final where
  structure_le := hkept.structure_le.trans hadvances.structure_le
  value_le := fun hvalues => (hkept.value_le hvalues).trans hadvances.value_le
  alarm_le := fun halarms => (hkept.alarm_le halarms).trans hadvances.alarm_le

theorem Kept.layout_eq (hadvances : Advances start final) (hkept : Kept values alarms start final) :
    start.model.layout = final.model.layout :=
  Later.layout_eq hadvances hkept.structure_le

theorem Kept.records_eq (hadvances : Advances start final) (hkept : Kept true alarms start final) :
    start.model.records = final.model.records :=
  Later.records_eq hadvances hkept.structure_le (hkept.value_le rfl)

theorem Kept.alarms_eq (hadvances : Advances start final) (hkept : Kept values true start final) :
    start.model.alarms = final.model.alarms :=
  Later.alarms_eq hadvances (hkept.alarm_le rfl)

/-- Only the count of the objects and the alarms matter to the alarm page. -/
theorem Kept.alarmCenter_eq (hadvances : Advances start final)
    (hkept : Kept values true start final) :
    alarmCenter start.model = alarmCenter final.model := by
  have hequipment : start.model.equipment = final.model.equipment :=
    congrArg Records.equipment (hkept.layout_eq hadvances)
  simp only [alarmCenter, objectCount, hequipment, hkept.alarms_eq hadvances]

theorem Kept.contents_eq (hadvances : Advances start final) (hkept : Kept true true start final) :
    contents start.model = contents final.model := by
  simp only [contents, hkept.records_eq hadvances, hkept.alarms_eq hadvances]

end

/-! ## Lookups -/

section

variable {α : Type} {world : World}

theorem layout_observation :
    Observation Advances (fun world => world.model.layout) (Kept false false) :=
  ⟨Kept.restart, Kept.layout_eq⟩

theorem records_observation :
    Observation Advances (fun world => world.model.records) (Kept true false) :=
  ⟨Kept.restart, Kept.records_eq⟩

theorem alarmCenter_observation :
    Observation Advances (fun world => alarmCenter world.model) (Kept false true) :=
  ⟨Kept.restart, Kept.alarmCenter_eq⟩

theorem contents_observation :
    Observation Advances (fun world => contents world.model) (Kept true true) :=
  ⟨Kept.restart, Kept.contents_eq⟩

theorem onLayout_ensures (lookup : Lookup α) :
    Ensures Advances (onLayout lookup) world fun result later =>
      Kept false false world later → result = lookup.run later.model.layout :=
  ensures_through layout_observation lookup world

theorem onRecords_ensures (lookup : Lookup α) :
    Ensures Advances (onRecords lookup) world fun result later =>
      Kept true false world later → result = lookup.run later.model.records :=
  ensures_through records_observation lookup world

end

/-! ## Widgets -/

/-- The value that a switch has to show: for a command the valid status of the same equipment. -/
def modelValue (tag : Tag) (records : Records) : Bool :=
  let status :=
    if tag.hasRole "operating_command" then
      records.tags.find? fun status =>
        status.equipmentIndex = tag.equipmentIndex && status.hasRole "operating_status"
    else none
  match status with
  | some status => if status.valueValid then status.value.booleanValue else tag.value.booleanValue
  | none => tag.value.booleanValue

theorem run_switchValue (tag : Tag) (records : Records) :
    (switchValue tag).run records = modelValue tag records := by
  unfold switchValue modelValue
  split
  · simp only [run_bind, run_findTagByRole, run_pure]
    cases records.tags.find? fun status =>
        status.equipmentIndex = tag.equipmentIndex && status.hasRole "operating_status" with
    | none => rfl
    | some status => cases hvalid : status.valueValid <;> simp [Option.filter, hvalid]
  · rfl

/-- The flag behind an index of a state binding: its tag is valid and true. -/
def flagAt (records : Records) (index : Option ℕ) : Bool :=
  isRaised (index.bind fun place => records.tags[place]?)

/-- The state that a binding should show. -/
def StateBinding.stateIn (binding : StateBinding) (records : Records) : StateReading where
  running := flagAt records binding.statusTagIndex && binding.entityKind ≠ .passiveEquipment
  alarm := flagAt records binding.alarmTagIndex

theorem run_readState (binding : StateBinding) (records : Records) :
    (readState binding).run records = binding.stateIn records := by
  have hflag : ∀ index, (readFlag index).run records = flagAt records index := by
    intro index
    cases index <;> rfl
  simp only [readState, run_bind, hflag, run_pure]
  rfl

/-- The label that a binding should have for a valid or invalid tag. -/
def TagBinding.labelOf (binding : TagBinding) (tag : Tag) (records : Records) : ValueLabel :=
  if tag.valueValid = false then .noValue
  else if binding.type = .booleanSwitch then .switched (modelValue tag records)
  else .formatted tag

/-- The widget shows the tag.  A switch agrees with its label, and the knob of a slider stands at the
value of the tag, unless it has been moved by hand since the last update. -/
structure TagWidget.ShowsTag (widget : TagWidget) (tag : Tag) (records : Records) : Prop where
  label_eq : widget.label = widget.binding.labelOf tag records
  checked_eq : ∀ value, widget.label = .switched value → widget.checked = value
  knob_eq : widget.binding.type = .numericSlider → tag.valueValid = true → widget.moved = false →
    widget.knob = some tag

/-- A switch that holds a value that was written. -/
def TagWidget.HoldsWrite (widget : TagWidget) : Prop :=
  widget.binding.type = .booleanSwitch ∧ widget.writePending = true

/-- The widget shows its tag, unless it holds a write. -/
def TagWidget.Shows (widget : TagWidget) (records : Records) : Prop :=
  widget.HoldsWrite ∨
    ∀ tag, (readTag widget.binding.tagIndex).run records = some tag → widget.ShowsTag tag records

def StateWidget.Shows (widget : StateWidget) (records : Records) : Prop :=
  widget.displayed = some (widget.binding.stateIn records)

def SignalWidget.Shows (widget : SignalWidget) (records : Records) : Prop :=
  ∀ tag, (readTag widget.tagIndex).run records = some tag → widget.label = some (valueLabel tag)

section

variable {world : World}

theorem TagWidget.holds_ensures (widget : TagWidget) (value : Bool) :
    Ensures Advances (widget.holds value) world fun held _ =>
      held = true → widget.writePending = true := by
  unfold holds
  split
  · next hpending =>
      exact Ensures.read_bind fun later _ => ensures_pure fun _ _ _ => hpending.1
  · exact ensures_pure fun _ _ hfalse => absurd hfalse (by simp)

theorem TagWidget.updateTagBinding_ensures (widget : TagWidget) (tag : Tag) :
    Ensures Advances (widget.updateTagBinding tag) world fun result later =>
      result.binding = widget.binding ∧
        (Kept true false world later →
          result.HoldsWrite ∨ result.ShowsTag tag later.model.records) := by
  unfold updateTagBinding
  split
  · next hinvalid =>
      refine ensures_pure fun later _ =>
        ⟨rfl, fun _ => .inr ⟨?_, fun value hvalue => ?_, fun _ hvalid => ?_⟩⟩
      · simp [TagBinding.labelOf, hinvalid]
      · cases hvalue
      · exact absurd (hinvalid.symm.trans hvalid) (by simp)
  · next hvalid =>
      split
      · next hswitch =>
          refine Ensures.bind (onRecords_ensures (switchValue tag)) fun value middle hmiddle hvalue => ?_
          refine Ensures.bind (widget.holds_ensures value) fun held later hlater hheld => ?_
          split
          · next hholds =>
              have hpending := hheld later (refl_of Advances later) hholds
              exact ensures_pure fun final _ => ⟨rfl, fun _ => .inl ⟨hswitch, hpending⟩⟩
          · refine ensures_pure fun final hfinal => ⟨rfl, fun hkept => .inr ⟨?_, ?_, ?_⟩⟩
            · have hnow := hvalue final (trans_of Advances hlater hfinal) hkept
              simp only [TagBinding.labelOf, if_neg hvalid, if_pos hswitch, hnow, run_switchValue]
            · rintro shown ⟨⟩
              rfl
            · exact fun hslider => absurd (hswitch.symm.trans hslider) (by simp)
      · next hplain =>
          refine ensures_pure fun later _ =>
            ⟨rfl, fun _ => .inr ⟨?_, fun value hvalue => ?_, fun hslider _ _ => if_pos hslider⟩⟩
          · simp only [TagBinding.labelOf, if_neg hvalid, if_neg hplain]
          · cases hvalue

/-- An update from a tag that was read in `start`. -/
theorem TagWidget.updateFrom_ensures {start : World} (widget : TagWidget) {found : Option Tag}
    (hstart : Advances start world)
    (hfound : ∀ later, Advances world later → Kept true false start later →
      found = (readTag widget.binding.tagIndex).run later.model.records) :
    Ensures Advances (widget.updateFrom found) world fun result later =>
      result.binding = widget.binding ∧
        (Kept true false start later → result.Shows later.model.records) := by
  cases found with
  | none =>
      refine ensures_pure fun later hlater => ⟨rfl, fun hkept => .inr fun tag htag => ?_⟩
      have hnow := hfound later hlater hkept
      rw [htag] at hnow
      cases hnow
  | some read =>
      refine (widget.updateTagBinding_ensures read).imp fun result later hlater hupdated => ?_
      refine ⟨hupdated.1, fun hkept => ?_⟩
      rcases hupdated.2 (hkept.restart hstart) with hpending | hshows
      · exact .inl hpending
      · refine .inr fun tag htag => ?_
        have hnow := hfound later hlater hkept
        rw [← hupdated.1] at hnow
        obtain rfl : read = tag := Option.some.inj (hnow.trans htag)
        exact hshows

theorem TagWidget.update_ensures (widget : TagWidget) :
    Ensures Advances widget.update world fun result later =>
      result.binding = widget.binding ∧
        (Kept true false world later → result.Shows later.model.records) :=
  Ensures.bind (onRecords_ensures (readTag widget.binding.tagIndex))
    fun _ _ hmiddle hfound => updateFrom_ensures { widget with moved := false } hmiddle hfound

/-- An operated switch either holds the value that was written or shows its tag again. -/
theorem TagWidget.booleanSwitchEvent_ensures {widget : TagWidget}
    (hswitch : widget.binding.type = .booleanSwitch) (modeResult result : EspErr) :
    Ensures Advances (widget.booleanSwitchEvent modeResult result) world fun result later =>
      result.binding = widget.binding ∧
        (Kept true false world later → result.Shows later.model.records) := by
  refine Ensures.bind (onRecords_ensures (readTag widget.binding.tagIndex))
    fun command second hsecond hcommand => ?_
  refine Ensures.bind ensures_true fun automaticMode third hthird _ => ?_
  have hstart := trans_of Advances hsecond hthird
  have hrefused := updateFrom_ensures { widget with checked := !widget.checked } hstart
    fun later hlater => hcommand later (trans_of Advances hthird hlater)
  split
  · exact hrefused
  · split
    · exact hrefused
    · exact Ensures.read_bind fun last hlast => ensures_pure fun final hfinal =>
        ⟨rfl, fun _ => .inl ⟨hswitch, rfl⟩⟩

theorem StateWidget.update_ensures (widget : StateWidget) :
    Ensures Advances widget.update world fun result later =>
      result.binding = widget.binding ∧
        (Kept true false world later → result.Shows later.model.records) := by
  refine Ensures.bind (onRecords_ensures (readState widget.binding))
    fun reading middle hmiddle hreading => ?_
  exact ensures_pure fun later hlater =>
    ⟨rfl, fun hkept => congrArg some ((hreading later hlater hkept).trans (run_readState _ _))⟩

theorem SignalWidget.update_ensures (widget : SignalWidget) :
    Ensures Advances widget.update world fun result later =>
      result.tagIndex = widget.tagIndex ∧
        (Kept true false world later → result.Shows later.model.records) := by
  refine Ensures.bind (onRecords_ensures (readTag widget.tagIndex))
    fun found middle hmiddle hfound => ?_
  cases found with
  | none =>
      refine ensures_pure fun later hlater => ⟨rfl, fun hkept tag htag => ?_⟩
      have hnow := hfound later hlater hkept
      rw [htag] at hnow
      cases hnow
  | some read =>
      refine ensures_pure fun later hlater => ⟨rfl, fun hkept tag htag => ?_⟩
      have hnow := hfound later hlater hkept
      obtain rfl : read = tag := Option.some.inj (hnow.trans htag)
      rfl

/-- The loop over the widgets of a page.  It changes none of their bindings, and afterwards they show
what is in the model if nothing has changed since the loop began. -/
theorem updateAll_ensures {widget binding : Type} {update : widget → Program widget}
    {bound : widget → binding} {Shows : widget → Records → Prop}
    (hupdate : ∀ item world, Ensures Advances (update item) world fun result later =>
      bound result = bound item ∧
        (Kept true false world later → Shows result later.model.records))
    (items : List widget) :
    Ensures Advances (items.mapM' update) world fun results later =>
      results.map bound = items.map bound ∧
        (Kept true false world later → ∀ result ∈ results, Shows result later.model.records) := by
  have hitems : Ensures Advances (items.mapM' update) world fun results later =>
      List.Forall₂ (fun item result => bound result = bound item ∧
        (Kept true false world later → Shows result later.model.records)) items results :=
    ensures_mapM' fun item _ later hlater => (hupdate item later).imp fun result final _ hresult =>
      ⟨hresult.1, fun hkept => hresult.2 (hkept.restart hlater)⟩
  refine hitems.imp fun results later _ hresults => ?_
  clear hitems
  induction hresults with
  | nil => simp
  | cons hitem _ ih =>
      refine ⟨by simp only [List.map_cons, hitem.1, ih.1], fun hkept result hmem => ?_⟩
      rcases List.mem_cons.mp hmem with rfl | hmem
      · exact hitem.2 hkept
      · exact ih.2 hkept result hmem

end

/-! ## Pages -/

structure EquipmentPage.Shows (page : EquipmentPage) (records : Records) : Prop where
  tags : ∀ widget ∈ page.tags, widget.Shows records
  states : ∀ widget ∈ page.states, widget.Shows records

structure OverviewPage.Shows (page : OverviewPage) (records : Records) : Prop where
  nodes : ∀ widget ∈ page.nodes, widget.Shows records
  signals : ∀ widget ∈ page.signals, widget.Shows records

theorem EquipmentView.create_view (view : EquipmentView) : view.create.view = view := by
  simp [EquipmentView.create, EquipmentPage.view, TagBinding.create, Function.comp_def]

theorem OverviewView.create_view (view : OverviewView) : view.create.view = view := by
  simp [OverviewView.create, OverviewPage.view, Function.comp_def]

section

variable {world : World}

theorem EquipmentPage.update_ensures (page : EquipmentPage) :
    Ensures Advances page.update world fun result later =>
      result.view = page.view ∧
        (Kept true false world later → result.Shows later.model.records) := by
  refine Ensures.bind (updateAll_ensures (fun item _ => StateWidget.update_ensures item) page.states)
    fun states middle hmiddle hstates => ?_
  refine Ensures.bind (updateAll_ensures (fun item _ => TagWidget.update_ensures item) page.tags)
    fun tags last hlast htags => ?_
  refine ensures_pure fun final hfinal => ?_
  obtain ⟨hstatesBound, hstatesShow⟩ := hstates final (trans_of Advances hlast hfinal)
  obtain ⟨htagsBound, htagsShow⟩ := htags final hfinal
  refine ⟨?_, fun hkept => ⟨htagsShow (hkept.restart hmiddle), hstatesShow hkept⟩⟩
  simp only [EquipmentPage.view, hstatesBound, htagsBound]

theorem OverviewPage.update_ensures (page : OverviewPage) :
    Ensures Advances page.update world fun result later =>
      result.view = page.view ∧
        (Kept true false world later → result.Shows later.model.records) ∧
        (Kept true true world later →
          result.summary = some (summarize.run (contents later.model))) := by
  refine Ensures.bind (updateAll_ensures (fun item _ => StateWidget.update_ensures item) page.nodes)
    fun nodes second hsecond hnodes => ?_
  refine Ensures.bind (ensures_through contents_observation summarize second)
    fun summary third hthird hsummary => ?_
  refine Ensures.bind
    (updateAll_ensures (fun item _ => SignalWidget.update_ensures item) page.signals)
    fun signals last hlast hsignals => ?_
  refine ensures_pure fun final hfinal => ?_
  have hthirdFinal := trans_of Advances hlast hfinal
  obtain ⟨hnodesBound, hnodesShow⟩ := hnodes final (trans_of Advances hthird hthirdFinal)
  obtain ⟨hsignalsBound, hsignalsShow⟩ := hsignals final hfinal
  refine ⟨?_, fun hkept => ⟨hnodesShow hkept, ?_⟩, fun hkept => ?_⟩
  · simp only [OverviewPage.view, hnodesBound, hsignalsBound]
  · exact hsignalsShow ((hkept.restart hsecond).restart hthird)
  · exact congrArg some (hsummary final hthirdFinal (hkept.restart hsecond))

/-- A widget that is replaced by one with the same binding. -/
theorem EquipmentPage.set_view {page : EquipmentPage} {place : ℕ} {widget operated : TagWidget}
    (hwidget : page.tags[place]? = some widget) (hbinding : operated.binding = widget.binding) :
    ({ page with tags := page.tags.set place operated } : EquipmentPage).view = page.view := by
  have hplace : (page.tags.map TagWidget.binding)[place]? = some operated.binding := by
    rw [List.getElem?_map, hwidget, hbinding]
    rfl
  obtain ⟨hbound, hat⟩ := List.getElem?_eq_some_iff.mp hplace
  simp only [EquipmentPage.view, List.map_set, ← hat, List.set_getElem_self]

theorem EquipmentPage.Shows.set {page : EquipmentPage} {records : Records} {operated : TagWidget}
    (hpage : page.Shows records) (hoperated : operated.Shows records) (place : ℕ) :
    ({ page with tags := page.tags.set place operated } : EquipmentPage).Shows records := by
  refine ⟨fun other hother => ?_, hpage.states⟩
  rcases List.mem_or_eq_of_mem_set hother with hold | rfl
  · exact hpage.tags other hold
  · exact hoperated

/-- An operated switch leaves the rest of its page alone. -/
theorem EquipmentPage.toggle_ensures {page : EquipmentPage} {place : ℕ} {modeResult result : EspErr}
    {program : Program EquipmentPage} (htoggle : page.toggle place modeResult result = some program) :
    Ensures Advances program world fun after later =>
      after.view = page.view ∧ (Kept true false world later → page.Shows later.model.records →
        after.Shows later.model.records) := by
  obtain ⟨widget, hfilter, rfl⟩ := Option.map_eq_some_iff.mp htoggle
  obtain ⟨hwidget, htype⟩ := Option.filter_eq_some_iff.mp hfilter
  have hswitch : widget.binding.type = .booleanSwitch := of_decide_eq_true htype
  refine Ensures.bind (TagWidget.booleanSwitchEvent_ensures hswitch modeResult result)
    fun operated middle _ hoperated => ensures_pure fun later hlater => ?_
  obtain ⟨hbinding, hshows⟩ := hoperated later hlater
  exact ⟨set_view hwidget hbinding, fun hkept hpage => hpage.set (hshows hkept) place⟩

/-- A slider that was moved by hand shows its tag as well as before. -/
theorem EquipmentPage.slide_shows {page after : EquipmentPage} {place : ℕ}
    (hslide : page.slide place = some after) :
    after.view = page.view ∧ ∀ records, page.Shows records → after.Shows records := by
  obtain ⟨widget, hfilter, rfl⟩ := Option.map_eq_some_iff.mp hslide
  obtain ⟨hwidget, -⟩ := Option.filter_eq_some_iff.mp hfilter
  refine ⟨set_view hwidget rfl, fun records hpage => hpage.set ?_ place⟩
  refine (hpage.tags widget (List.mem_of_getElem? hwidget)).imp_right fun hshows tag htag => ?_
  have hmoved : ¬widget.numericSliderEvent.moved = false := by simp [TagWidget.numericSliderEvent]
  exact { hshows tag htag with knob_eq := fun _ _ hunmoved => absurd hunmoved hmoved }

/-- A sample leaves the bindings of the charts alone. -/
theorem sampleTrends_ensures (trends : List TrendWidget) :
    Ensures Advances (trends.mapM' TrendWidget.sample) world fun result _ =>
      result.map TrendWidget.tagIndex = trends.map TrendWidget.tagIndex := by
  have hsample : ∀ (widget : TrendWidget) (world : World), Ensures Advances widget.sample world
      fun result later => result.tagIndex = widget.tagIndex ∧ (Kept true false world later → True) := by
    intro widget world
    refine Ensures.bind ensures_true fun tag middle _ _ => ?_
    cases tag with
    | none => exact ensures_pure fun _ _ => ⟨rfl, fun _ => trivial⟩
    | some tag => exact ensures_pure fun _ _ => ⟨rfl, fun _ => trivial⟩
  have hall := @updateAll_ensures world _ _ _ _ (fun _ _ => True) hsample trends
  exact hall.imp fun _ _ _ hresult => hresult.1

theorem trendsCreate_ensures :
    Ensures Advances trendsCreate world fun result later => Kept false false world later →
      result.map TrendWidget.tagIndex = createTrends.run later.model.layout := by
  refine Ensures.bind (onLayout_ensures createTrends) fun charts middle hmiddle hcharts => ?_
  refine (sampleTrends_ensures _).imp fun trends later hlater htrends hkept => ?_
  rw [htrends, List.map_map, ← hcharts later hlater hkept]
  exact List.map_id charts

theorem EquipmentPage.create_ensures (mode : PageMode) :
    Ensures Advances (EquipmentPage.create mode) world fun result later =>
      Kept false false world later →
        result.view = (createEquipmentView mode).run later.model.layout := by
  refine Ensures.bind (onLayout_ensures (createEquipmentView mode))
    fun view middle hmiddle hview => ?_
  refine (EquipmentPage.update_ensures view.create).imp fun page later hlater hpage hkept => ?_
  rw [hpage.1, view.create_view, hview later hlater hkept]

theorem OverviewPage.create_ensures :
    Ensures Advances OverviewPage.create world fun result later =>
      Kept false false world later → result.view = createOverviewView.run later.model.layout := by
  refine Ensures.bind (onLayout_ensures createOverviewView) fun view middle hmiddle hview => ?_
  refine (OverviewPage.update_ensures view.create).imp fun page later hlater hpage hkept => ?_
  rw [hpage.1, view.create_view, hview later hlater hkept]

end

/-! ## The generator -/

namespace Generator

/-- The observed generations are not behind those of the model. -/
structure UpTo (ui : Generator) (values alarms : Bool) (model : DataModel) : Prop where
  structure_le : model.pendingGeneration ≤ ui.observedStructureGeneration
  value_le : values = true → ui.observedValueGeneration ≠ counterMax ∧
    model.valueGeneration ≤ ui.observedValueGeneration
  alarm_le : alarms = true → ui.observedAlarmGeneration ≠ counterMax ∧
    model.alarmGeneration ≤ ui.observedAlarmGeneration

/-- The observed generations are not ahead of the model. -/
structure Behind (ui : Generator) (model : DataModel) : Prop where
  structure_le : ui.observedStructureGeneration ≤ model.structureGeneration
  value_le : ui.observedValueGeneration ≠ counterMax →
    ui.observedValueGeneration ≤ model.valueGeneration
  alarm_le : ui.observedAlarmGeneration ≠ counterMax →
    ui.observedAlarmGeneration ≤ model.alarmGeneration

/-- All that is displayed of the tags. -/
structure Shows (ui : Generator) (records : Records) : Prop where
  overview : ui.overview.Shows records
  equipment : ui.equipment.Shows records
  controls : ui.controls.Shows records

/-- What the UI displays is what its observed generations promise. -/
structure Follows (ui : Generator) (model : DataModel) : Prop where
  behind : ui.Behind model
  bindings : ui.UpTo false false model → ui.bindings = createBindings.run model.layout
  shows : ui.UpTo true false model → ui.Shows model.records
  alarms : ui.UpTo false true model → ui.alarms = rebuildAlarmList.run (alarmCenter model)
  summary : ui.UpTo true true model → ui.overview.summary = some (summarize.run (contents model))

variable {ui : Generator} {world : World}

theorem Behind.later {later : World} (hbehind : ui.Behind world.model)
    (hlater : Advances world later) : ui.Behind later.model where
  structure_le := hbehind.structure_le.trans hlater.structure_le
  value_le := fun hobserved => (hbehind.value_le hobserved).trans hlater.value_le
  alarm_le := fun hobserved => (hbehind.alarm_le hobserved).trans hlater.alarm_le

/-- What has been observed in `world`, and is still up to date, has been kept since. -/
theorem Behind.kept {values alarms : Bool} {later : World} (hbehind : ui.Behind world.model)
    (hupTo : ui.UpTo values alarms later.model) : Kept values alarms world later where
  structure_le := hupTo.structure_le.trans hbehind.structure_le
  value_le := fun hvalues =>
    have hobserved := hupTo.value_le hvalues
    hobserved.2.trans (hbehind.value_le hobserved.1)
  alarm_le := fun halarms =>
    have hobserved := hupTo.alarm_le halarms
    hobserved.2.trans (hbehind.alarm_le hobserved.1)

end Generator

/-- The parts of a rebuild, with the counter it has recorded first. -/
theorem rebuildInterface_ensures {world : World} :
    Ensures Advances rebuildInterface world fun ui later => ui.Follows later.model := by
  refine Ensures.read_bind fun first hfirst => ?_
  refine Ensures.bind OverviewPage.create_ensures fun overview second hsecond hoverview => ?_
  refine Ensures.bind (EquipmentPage.create_ensures .details)
    fun equipment third hthird hequipment => ?_
  refine Ensures.bind (EquipmentPage.create_ensures .controls)
    fun controls fourth hfourth hcontrols => ?_
  refine Ensures.bind trendsCreate_ensures fun trends fifth hfifth htrends => ?_
  refine Ensures.bind (ensures_through alarmCenter_observation rebuildAlarmList fifth)
    fun alarms last hlast _ => ?_
  refine ensures_pure fun final hfinal => ?_
  have hfifthFinal := trans_of Advances hlast hfinal
  have hfourthFinal := trans_of Advances hfifth hfifthFinal
  have hthirdFinal := trans_of Advances hfourth hfourthFinal
  have hsecondFinal := trans_of Advances hthird hthirdFinal
  have hfirstFinal := trans_of Advances hsecond hsecondFinal
  refine ⟨⟨hfirstFinal.structure_le, ?_, ?_⟩, fun hupTo => ?_, ?_, ?_, ?_⟩
  · exact fun hobserved => absurd rfl hobserved
  · exact fun hobserved => absurd rfl hobserved
  · -- the structure has been kept since its counter was recorded, hence during every page
    have hkept : Kept false false first final :=
      ⟨hupTo.structure_le, fun hfalse => absurd hfalse (by simp), fun hfalse => absurd hfalse (by simp)⟩
    have hkeptSecond := hkept.restart hsecond
    have hkeptThird := hkeptSecond.restart hthird
    have hkeptFourth := hkeptThird.restart hfourth
    simp only [Generator.bindings, createBindings, run_bind, run_pure,
      hoverview final hsecondFinal hkept, hequipment final hthirdFinal hkeptSecond,
      hcontrols final hfourthFinal hkeptThird, htrends final hfifthFinal hkeptFourth]
  · exact fun hupTo => absurd rfl (hupTo.value_le rfl).1
  · exact fun hupTo => absurd rfl (hupTo.alarm_le rfl).1
  · exact fun hupTo => absurd rfl (hupTo.value_le rfl).1

namespace Generator

variable {ui : Generator} {world : World}

/-- A generator that follows the model, whatever happens while it rests. -/
def KeepsUp (ui : Generator) (world : World) : Prop :=
  ∀ later, Advances world later → ui.Follows later.model

theorem KeepsUp.after {later : World} (hkeeps : ui.KeepsUp world) (hlater : Advances world later) :
    ui.KeepsUp later :=
  fun final hfinal => hkeeps final (trans_of Advances hlater hfinal)

theorem KeepsUp.follows (hkeeps : ui.KeepsUp world) : ui.Follows world.model :=
  hkeeps world (refl_of Advances world)

theorem refreshStructure_ensures (hkeeps : ui.KeepsUp world) :
    Ensures Advances ui.refreshStructure world fun result later => result.Follows later.model := by
  refine Ensures.read_bind fun middle hmiddle => ?_
  split
  · exact ensures_pure (hkeeps.after hmiddle)
  · exact rebuildInterface_ensures

theorem refreshAlarms_ensures (hkeeps : ui.KeepsUp world) :
    Ensures Advances ui.refreshAlarms world fun result later => result.Follows later.model := by
  refine Ensures.read_bind fun first hfirst => ?_
  have hkeepsFirst := hkeeps.after hfirst
  split
  · exact ensures_pure hkeepsFirst
  · refine Ensures.bind (ensures_through alarmCenter_observation rebuildAlarmList first)
      fun alarms second hsecond halarms => ?_
    refine Ensures.bind ui.overview.update_ensures fun overview last hlast hoverview => ?_
    refine ensures_pure fun final hfinal => ?_
    have hsecondFinal := trans_of Advances hlast hfinal
    have hfirstFinal := trans_of Advances hsecond hsecondFinal
    obtain ⟨hview, hshows, hsummary⟩ := hoverview final hfinal
    have hfollows := hkeepsFirst final hfirstFinal
    -- the new counter of the alarms is that of the first world
    have hbehind : Behind
        { ui with
          observedAlarmGeneration := first.model.alarmGeneration
          alarms := alarms
          overview := overview } first.model :=
      { hkeepsFirst.follows.behind with alarm_le := fun _ => le_rfl }
    have hbehindSecond := hbehind.later hsecond
    refine ⟨hbehind.later hfirstFinal, fun hupTo => ?_, fun hupTo => ?_, fun hupTo => ?_,
      fun hupTo => ?_⟩
    · rw [← hfollows.bindings ⟨hupTo.structure_le, nofun, nofun⟩]
      simp only [bindings, hview]
    · have hold := hfollows.shows ⟨hupTo.structure_le, hupTo.value_le, nofun⟩
      exact ⟨hshows (hbehindSecond.kept hupTo), hold.equipment, hold.controls⟩
    · exact halarms final hsecondFinal (hbehind.kept hupTo)
    · exact hsummary (hbehindSecond.kept hupTo)

theorem refreshValues_ensures (hkeeps : ui.KeepsUp world) :
    Ensures Advances ui.refreshValues world fun result later => result.Follows later.model := by
  refine Ensures.read_bind fun first hfirst => ?_
  have hkeepsFirst := hkeeps.after hfirst
  split
  · exact ensures_pure hkeepsFirst
  · refine Ensures.bind ui.overview.update_ensures fun overview second hsecond hoverview => ?_
    refine Ensures.bind ui.equipment.update_ensures fun equipment third hthird hequipment => ?_
    refine Ensures.bind ui.controls.update_ensures fun controls last hlast hcontrols => ?_
    refine ensures_pure fun final hfinal => ?_
    have hthirdFinal := trans_of Advances hlast hfinal
    have hsecondFinal := trans_of Advances hthird hthirdFinal
    have hfirstFinal := trans_of Advances hsecond hsecondFinal
    obtain ⟨hoverviewView, hoverviewShows, hsummary⟩ := hoverview final hsecondFinal
    obtain ⟨hequipmentView, hequipmentShows⟩ := hequipment final hthirdFinal
    obtain ⟨hcontrolsView, hcontrolsShows⟩ := hcontrols final hfinal
    have hfollows := hkeepsFirst final hfirstFinal
    have hbehind : Behind
        { ui with
          observedValueGeneration := first.model.valueGeneration
          overview := overview
          equipment := equipment
          controls := controls } first.model :=
      { hkeepsFirst.follows.behind with value_le := fun _ => le_rfl }
    refine ⟨hbehind.later hfirstFinal, fun hupTo => ?_, fun hupTo => ?_, fun hupTo => ?_,
      fun hupTo => ?_⟩
    · rw [← hfollows.bindings ⟨hupTo.structure_le, nofun, nofun⟩]
      simp only [bindings, hoverviewView, hequipmentView, hcontrolsView]
    · have hkept := hbehind.kept hupTo
      have hkeptSecond := hkept.restart hsecond
      exact ⟨hoverviewShows hkept, hequipmentShows hkeptSecond,
        hcontrolsShows (hkeptSecond.restart hthird)⟩
    · exact hfollows.alarms ⟨hupTo.structure_le, nofun, hupTo.alarm_le⟩
    · exact hsummary (hbehind.kept hupTo)

/-- A tick keeps the promises, whatever the client task does in it. -/
theorem refreshTimerCallback_ensures (hkeeps : ui.KeepsUp world) :
    Ensures Advances ui.refreshTimerCallback world fun result later =>
      result.Follows later.model := by
  refine Ensures.bind (refreshStructure_ensures hkeeps) fun rebuilt _ _ hrebuilt => ?_
  refine Ensures.bind (refreshAlarms_ensures hrebuilt) fun relisted _ _ hrelisted => ?_
  exact refreshValues_ensures hrelisted

/-- The promises concern the widgets only where values are shown, and the charts not even there. -/
theorem Follows.withWidgets {model : DataModel} {equipment controls : EquipmentPage}
    {trends : List TrendWidget} (hfollows : ui.Follows model)
    (hequipment : equipment.view = ui.equipment.view) (hcontrols : controls.view = ui.controls.view)
    (htrends : trends.map TrendWidget.tagIndex = ui.trends.map TrendWidget.tagIndex)
    (hshows : ui.UpTo true false model → ui.Shows model.records →
      equipment.Shows model.records ∧ controls.Shows model.records) :
    ({ ui with equipment, controls, trends } : Generator).Follows model := by
  obtain ⟨⟨hstructure, hvalue, halarm⟩, hbindings, hshown, halarms, hsummary⟩ := hfollows
  refine ⟨⟨hstructure, hvalue, halarm⟩, fun hupTo => ?_, fun hupTo => ?_, fun hupTo => ?_,
    fun hupTo => ?_⟩
  · have hsame : ({ ui with equipment, controls, trends } : Generator).bindings = ui.bindings := by
      simp only [Generator.bindings, hequipment, hcontrols, htrends]
    exact hsame.trans (hbindings ⟨hupTo.structure_le, nofun, nofun⟩)
  · have hui : ui.UpTo true false model := ⟨hupTo.structure_le, hupTo.value_le, nofun⟩
    obtain ⟨hequipmentShows, hcontrolsShows⟩ := hshows hui (hshown hui)
    exact ⟨(hshown hui).overview, hequipmentShows, hcontrolsShows⟩
  · exact halarms ⟨hupTo.structure_le, nofun, hupTo.alarm_le⟩
  · exact hsummary ⟨hupTo.structure_le, hupTo.value_le, hupTo.alarm_le⟩

/-- A sample of the charts keeps the promises. -/
theorem sampleTimerCallback_ensures (hkeeps : ui.KeepsUp world) :
    Ensures Advances ui.sampleTimerCallback world fun result later =>
      result.Follows later.model := by
  refine Ensures.bind (sampleTrends_ensures ui.trends)
    fun trends middle hmiddle htrends => ensures_pure fun later hlater => ?_
  exact (hkeeps later (trans_of Advances hmiddle hlater)).withWidgets rfl rfl (htrends later hlater)
    fun _ hold => ⟨hold.equipment, hold.controls⟩

/-- The operation of a switch keeps the promises too. -/
theorem toggle_ensures {mode : PageMode} {place : ℕ} {modeResult result : EspErr}
    {program : Program Generator} (htoggle : ui.toggle mode place modeResult result = some program)
    (hkeeps : ui.KeepsUp world) :
    Ensures Advances program world fun after later => after.Follows later.model := by
  have hbehind := hkeeps.follows.behind
  cases mode with
  | details =>
      obtain ⟨operation, hoperation, rfl⟩ := Option.map_eq_some_iff.mp htoggle
      refine Ensures.bind (EquipmentPage.toggle_ensures hoperation)
        fun equipment middle hmiddle hequipment => ensures_pure fun later hlater => ?_
      obtain ⟨hview, hshows⟩ := hequipment later hlater
      exact (hkeeps later (trans_of Advances hmiddle hlater)).withWidgets hview rfl rfl
        fun hupTo hold => ⟨hshows (hbehind.kept hupTo) hold.equipment, hold.controls⟩
  | controls =>
      obtain ⟨operation, hoperation, rfl⟩ := Option.map_eq_some_iff.mp htoggle
      refine Ensures.bind (EquipmentPage.toggle_ensures hoperation)
        fun controls middle hmiddle hcontrols => ensures_pure fun later hlater => ?_
      obtain ⟨hview, hshows⟩ := hcontrols later hlater
      exact (hkeeps later (trans_of Advances hmiddle hlater)).withWidgets rfl hview rfl
        fun hupTo hold => ⟨hold.equipment, hshows (hbehind.kept hupTo) hold.controls⟩

/-- So does the operation of a slider. -/
theorem KeepsUp.slide {mode : PageMode} {place : ℕ} {after : Generator} (hkeeps : ui.KeepsUp world)
    (hslide : ui.slide mode place = some after) : after.KeepsUp world := by
  intro later hlater
  have hfollows := hkeeps later hlater
  cases mode with
  | details =>
      obtain ⟨equipment, hequipment, rfl⟩ := Option.map_eq_some_iff.mp hslide
      obtain ⟨hview, hshows⟩ := EquipmentPage.slide_shows hequipment
      exact hfollows.withWidgets hview rfl rfl fun _ hold =>
        ⟨hshows _ hold.equipment, hold.controls⟩
  | controls =>
      obtain ⟨controls, hcontrols, rfl⟩ := Option.map_eq_some_iff.mp hslide
      obtain ⟨hview, hshows⟩ := EquipmentPage.slide_shows hcontrols
      exact hfollows.withWidgets rfl hview rfl fun _ hold =>
        ⟨hold.equipment, hshows _ hold.controls⟩

end Generator

end CrowPanel.Ui
