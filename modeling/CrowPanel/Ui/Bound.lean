import CrowPanel.Ui.HierarchyCards
import CrowPanel.Ui.SignalSelection
import Mathlib.Algebra.Order.BigOperators.Group.List

/-!
# What the interface is bound to

The bindings of every page, told from the objects and the tags alone.

* The pages for equipment and controls hold, card by card, the cells of every object with a card and
  the state of the object; no cell is left out, since the cells of different objects are for different
  tags.
* The trends have a chart for each of the first candidates.
* The overview has a node for every asset, under its root, and of every slot the signal of the least
  rank, with the first object above the first of them that is above all.  This is so when the objects
  form a forest; otherwise its nodes are still for assets and its signals for tags.
-/

namespace CrowPanel.Ui

open Library DataModel Reads

variable {records : Records}

/-! ## The cells of a page -/

/-- An object has no more cells than tags: no tag has both a control and a metric. -/
theorem length_cellsOf_le (owner : Equipment) (mode : PageMode) :
    (cellsOf records owner mode).length ≤
      records.tags.countP fun tag => tag.equipmentIndex = owner.index := by
  have hsplit := List.countP_eq_countP_filter_add records.tags
    (fun tag => decide (tag.equipmentIndex = owner.index)) Tag.writable
  rw [List.countP_filter, List.countP_filter] at hsplit
  have hcontrols : (controlsOf records owner).length =
      records.tags.countP fun tag => tag.equipmentIndex = owner.index && tag.writable := by
    rw [controlsOf, List.length_map, List.countP_eq_length_filter]
  have hmetrics : (metricsOf records owner).length ≤
      records.tags.countP fun tag => tag.equipmentIndex = owner.index && !tag.writable := by
    rw [metricsOf, List.length_map, ← List.countP_eq_length_filter]
    refine List.countP_mono_left fun tag _ hshown => ?_
    simp only [Bool.and_eq_true] at hshown ⊢
    exact ⟨hshown.1, hshown.2.1.2⟩
  cases mode with
  | details =>
      rw [cellsOf, List.length_append]
      omega
  | controls =>
      rw [cellsOf]
      omega

theorem sum_owned (owners : List Equipment) (tag : Tag) :
    (owners.map fun owner => if tag.equipmentIndex = owner.index then 1 else 0).sum =
      (owners.map Equipment.index).count tag.equipmentIndex := by
  induction owners with
  | nil => rfl
  | cons owner owners ih =>
      rw [List.map_cons, List.sum_cons, ih, List.map_cons, List.count_cons, Nat.add_comm]
      simp only [beq_iff_eq, eq_comm (a := tag.equipmentIndex)]

/-- A tag has one owner, so several objects together have no more tags than there are. -/
theorem sum_countP_owner_le {owners : List Equipment} (hdistinct : (owners.map Equipment.index).Nodup)
    (tags : List Tag) :
    (owners.map fun owner => tags.countP fun tag => tag.equipmentIndex = owner.index).sum ≤
      tags.length := by
  induction tags with
  | nil => simp
  | cons tag tags ih =>
      have hone : (owners.map Equipment.index).count tag.equipmentIndex ≤ 1 :=
        List.nodup_iff_count_le_one.mp hdistinct _
      have hsum := sum_owned owners tag
      simp only [List.countP_cons, decide_eq_true_eq, List.sum_map_add, List.length_cons]
      omega

/-- The cells that are bound on a page, card by card. -/
def pageCells (records : Records) (mode : PageMode) : List TagBinding :=
  (cardOwners records mode).flatMap fun owner => cellsOf records owner mode

theorem length_pageCells_le (hdistinct : (records.equipment.map Equipment.index).Nodup)
    (mode : PageMode) : (pageCells records mode).length ≤ records.tags.length := by
  have howners : ((cardOwners records mode).map Equipment.index).Nodup :=
    hdistinct.sublist (List.filter_sublist.map _)
  calc (pageCells records mode).length
      = ((cardOwners records mode).map fun owner => (cellsOf records owner mode).length).sum := by
        rw [pageCells, List.length_flatMap]
    _ ≤ ((cardOwners records mode).map fun owner =>
          records.tags.countP fun tag => tag.equipmentIndex = owner.index).sum :=
        List.sum_le_sum fun owner _ => length_cellsOf_le owner mode
    _ ≤ records.tags.length := sum_countP_owner_le howners records.tags

/-- No cell is left out for want of bindings. -/
theorem run_createEquipmentView_tagBindings
    (hdistinct : (records.equipment.map Equipment.index).Nodup) (mode : PageMode) :
    ((createEquipmentView mode).run records).tagBindings = pageCells records mode := by
  rw [run_createEquipmentView]
  exact List.take_of_length_le (Nat.le_succ_of_le (length_pageCells_le hdistinct mode))

/-! ## The signals of the overview -/

section

variable (hierarchy : Hierarchy records)

/-- The signal of a slot: the measurement of the least rank for the first role that has one. -/
def slotSignal (slot : List String) : Option ℕ :=
  slot.findSome? fun role =>
    ((candidatesFor hierarchy role).argmin SignalCandidate.rank).bind SignalCandidate.tagIndex

/-- The signals of the overview. -/
def overviewSignals : List ℕ :=
  overviewSignalSlots.filterMap (slotSignal hierarchy)

/-- The object that the caption of the signals names: the first one above the first signal that is
above all the others. -/
def sharedScope : List ℕ → Option Equipment
  | [] => none
  | first :: others =>
      (tagOwner records first).bind fun owner =>
        ((hierarchy.forest.ancestors owner).find? (containsAll hierarchy others)).bind
          fun scope => records.equipment[scope]?

end

/-- A slot selects a tag of the model. -/
theorem run_selectSignalForSlot_eq (hierarchy : Hierarchy records) (slot : List String) :
    (selectSignalForSlot slot).run records = (slotSignal hierarchy slot).map some := by
  have hrole : ∀ role, ((candidatesFor hierarchy role).argmin SignalCandidate.rank).map
      SignalCandidate.tagIndex = (((candidatesFor hierarchy role).argmin
        SignalCandidate.rank).bind SignalCandidate.tagIndex).map some := by
    intro role
    cases hbest : (candidatesFor hierarchy role).argmin SignalCandidate.rank with
    | none => rfl
    | some best =>
        obtain ⟨place, tag, hindex, -⟩ := argmin_candidates hierarchy hbest
        rw [Option.map_some, Option.bind_some, hindex, Option.map_some]
  simp only [run_selectSignalForSlot hierarchy, hrole, slotSignal, List.map_findSome?]
  rfl

theorem getElem?_of_slotSignal (hierarchy : Hierarchy records) {slot : List String} {place : ℕ}
    (hselected : slotSignal hierarchy slot = some place) :
    ∃ tag, records.tags[place]? = some tag ∧ tag.index = some place := by
  obtain ⟨role, -, hrole⟩ := List.exists_of_findSome?_eq_some hselected
  obtain ⟨best, hbest, hplace⟩ := Option.bind_eq_some_iff.mp hrole
  obtain ⟨other, tag, hindex, htag, -⟩ := argmin_candidates hierarchy hbest
  obtain rfl : other = place := Option.some.inj (hindex.symm.trans hplace)
  exact ⟨tag, htag, hierarchy.tags_indexed other tag htag⟩

/-- The selected tags are found again by their indices. -/
theorem run_readSelected (hierarchy : Hierarchy records) :
    ((((overviewSignals hierarchy).map some).mapM' readTag).run records).reduceOption.map Tag.index =
      (overviewSignals hierarchy).map some := by
  have hfound : ∀ place ∈ overviewSignals hierarchy,
      ∃ tag, records.tags[place]? = some tag ∧ tag.index = some place := by
    intro place hmem
    obtain ⟨slot, -, hslot⟩ := List.mem_filterMap.mp hmem
    exact getElem?_of_slotSignal hierarchy hslot
  rw [run_mapM']
  generalize overviewSignals hierarchy = places at hfound ⊢
  induction places with
  | nil => rfl
  | cons place places ih =>
      obtain ⟨⟨tag, htag, hindex⟩, hrest⟩ := List.forall_mem_cons.mp hfound
      have hread : (readTag (some place)).run records = some tag := htag
      rw [List.map_cons, List.map_cons, hread, List.reduceOption_cons_of_some, List.map_cons,
        hindex, ih hrest]

theorem run_createPrioritySignals (hierarchy : Hierarchy records) {view : OverviewView}
    (hsignals : view.signals = []) (hscope : view.scope = none) :
    view.createPrioritySignals.run records =
      { view with
        signals := (overviewSignals hierarchy).map some
        scope := sharedScope hierarchy (overviewSignals hierarchy) } := by
  have hselected : ((overviewSignalSlots.mapM' selectSignalForSlot).run records).reduceOption =
      (overviewSignals hierarchy).map some := by
    simp only [run_mapM', run_selectSignalForSlot_eq hierarchy, overviewSignals]
    generalize overviewSignalSlots = slots
    induction slots with
    | nil => rfl
    | cons slot slots ih =>
        cases hslot : slotSignal hierarchy slot <;> simp [hslot, ih]
  simp only [OverviewView.createPrioritySignals, run_bind, hselected]
  cases hplaces : overviewSignals hierarchy with
  | nil => simp [sharedScope, ← hsignals, ← hscope]
  | cons first others =>
      have hread := run_readSelected hierarchy
      rw [hplaces] at hread
      rw [if_neg (by simp), run_bind, run_bind, run_pure, hread, run_findSharedSignalScope hierarchy,
        hsignals]
      rfl

/-! ## The pages -/

/-- The page has the cells of its cards, and the states of their owners. -/
structure EquipmentView.Binds (view : EquipmentView) (records : Records) (mode : PageMode) :
    Prop where
  tags : view.tagBindings = pageCells records mode
  states : view.stateBindings = (cardOwners records mode).map (stateOf records)

/-- The overview has nodes for assets and signals for tags.  In a forest these are the assets under
each root, the best signal of each slot, and the object that the signals share. -/
structure OverviewView.Binds (view : OverviewView) (records : Records) : Prop where
  nodes_physical : ∀ node ∈ view.nodes, ∃ equipment ∈ records.equipment,
    equipment.entityKind.isEquipment = true ∧ node = stateOf records equipment
  signals_tags : ∀ index ∈ view.signals, ∃ tag ∈ records.tags, tag.index = index
  nodes : ∀ hierarchy : Hierarchy records, view.nodes =
    ((rootObjects records).flatMap (cardAssets hierarchy)).map (stateOf records)
  signals : ∀ hierarchy : Hierarchy records,
    view.signals = (overviewSignals hierarchy).map some
  scope : ∀ hierarchy : Hierarchy records,
    view.scope = sharedScope hierarchy (overviewSignals hierarchy)

/-- All pages are bound to the objects and tags. -/
structure Bindings.Binds (bindings : Bindings) (records : Records) : Prop where
  overview : bindings.overview.Binds records
  equipment : bindings.equipment.Binds records .details
  controls : bindings.controls.Binds records .controls
  trends : bindings.trends =
    ((records.tags.filter isTrendCandidate).map Tag.index).take trendsMaxCharts

theorem createEquipmentView_binds (hdistinct : (records.equipment.map Equipment.index).Nodup)
    (mode : PageMode) : ((createEquipmentView mode).run records).Binds records mode where
  tags := run_createEquipmentView_tagBindings hdistinct mode
  states := by rw [run_createEquipmentView]

theorem createOverviewView_binds : (createOverviewView.run records).Binds records := by
  have hcards : OverviewView.Building ((OverviewView.createHierarchyCards
      { nodeCapacity := records.equipment.length }).run records) records :=
    OverviewView.Building.empty.createHierarchyCards
  have hview : ∀ hierarchy : Hierarchy records, createOverviewView.run records =
      { (OverviewView.createHierarchyCards
          { nodeCapacity := records.equipment.length }).run records with
        signals := (overviewSignals hierarchy).map some
        scope := sharedScope hierarchy (overviewSignals hierarchy) } := by
    intro hierarchy
    rw [← run_createPrioritySignals hierarchy hcards.signals_eq hcards.scope_eq]
    simp only [createOverviewView, readObjectCount, run_bind, run_read]
  refine ⟨mem_createOverviewView.2, mem_createOverviewView.1, fun hierarchy => ?_,
    fun hierarchy => ?_, fun hierarchy => ?_⟩
  · rw [hview hierarchy]
    exact run_createHierarchyCards hierarchy
  · rw [hview hierarchy]
  · rw [hview hierarchy]

/-- An undisturbed rebuild binds every page to what is there. -/
theorem createBindings_binds (hdistinct : (records.equipment.map Equipment.index).Nodup) :
    (createBindings.run records).Binds records := by
  rw [run_createBindings]
  exact ⟨createOverviewView_binds, createEquipmentView_binds hdistinct .details,
    createEquipmentView_binds hdistinct .controls, run_createTrends⟩

end CrowPanel.Ui
