import CrowPanel.Ui.Hierarchy
import Mathlib.Tactic.Ring

/-!
# The hierarchy cards of the overview

Each object without a parent gets a card, if there are assets under it: the physical equipment in its
tree, active before passive.  If there is no card at all, a fallback shows every asset on the card of
the first object.

## Strategy

`belongs` says without a walk which card an asset is on, and `cardAssets` are the assets of a card in
their order.  A card adds their nodes to the view (`run_createHierarchyCard`), as far as there are
bindings for them.  In a forest every asset has one root, so the cards share no asset and leave none
out; the bindings suffice, and without a card there is no asset for the fallback.
-/

namespace CrowPanel.Ui

open Library DataModel Reads

variable {records : Records}

/-! ## Which assets are on a card -/

/-- The asset stands under the root, or is it. -/
def belongs (hierarchy : Hierarchy records) (root asset : Equipment) : Bool :=
  asset.entityKind.isEquipment &&
    asset.index.any fun place => root.index.any fun top => top ∈ hierarchy.forest.ancestors place

/-- The assets on the card of a root. -/
def cardAssets (hierarchy : Hierarchy records) (root : Equipment) : List Equipment :=
  [EntityKind.activeEquipment, .passiveEquipment].flatMap fun kind =>
    records.equipment.filter fun asset => asset.entityKind = kind && belongs hierarchy root asset

/-- The objects without a parent. -/
def rootObjects (records : Records) : List Equipment :=
  records.equipment.filter fun object => object.parentIndex.isNone

theorem run_belongsToScopeFrom_none (root : Equipment) (guard : ℕ) :
    (belongsToScopeFrom root guard none).run records = false := by
  cases guard <;> rfl

theorem run_belongsToScopeFrom (hierarchy : Hierarchy records) {root : Equipment}
    {top guard place : ℕ} (hroot : root.index = some top)
    (hguard : (hierarchy.forest.ancestors place).length ≤ guard) :
    (belongsToScopeFrom root guard (some place)).run records =
      decide (top ∈ hierarchy.forest.ancestors place) := by
  refine hierarchy.forest.climb (P := fun guard place =>
    (belongsToScopeFrom root guard (some place)).run records =
      decide (top ∈ hierarchy.forest.ancestors place))
    (fun guard place hnone => ?_) (fun guard place above hparent ih => ?_) hguard
  · rw [Forest.ancestors_root hnone, belongsToScopeFrom]
    simp only [reduceCtorEq, if_false, hroot, Option.some_inj, List.mem_singleton]
    by_cases hsame : place = top
    · simp only [hsame, if_true, run_pure, decide_true]
    · simp only [hsame, Ne.symm hsame, if_false, run_bind, readEquipment, run_read,
        Option.bind_some, decide_false]
      rcases hierarchy.root_cases hnone with hobject | ⟨object, hobject, -, hparent⟩
      · rw [hobject]
        rfl
      · rw [hobject]
        simp only [hparent]
        split
        · rfl
        · exact run_belongsToScopeFrom_none root guard
  · obtain ⟨object, hobject, hindex, hparentIndex, hne⟩ := hierarchy.exists_object hparent
    rw [Forest.ancestors_child hparent, belongsToScopeFrom]
    simp only [reduceCtorEq, if_false, hroot, Option.some_inj, List.mem_cons]
    by_cases hsame : place = top
    · simp only [hsame, if_true, run_pure, true_or, decide_true]
    · simp only [hsame, Ne.symm hsame, if_false, run_bind, readEquipment, run_read,
        Option.bind_some, hobject, hindex, hparentIndex, Option.some_inj, hne, false_or, ih]

/-- Membership on a card, as the loops of the card ask for it. -/
theorem run_equipmentBelongsToScope (hierarchy : Hierarchy records) {root asset : Equipment}
    {top : ℕ} (hroot : root.index = some top) (hasset : asset ∈ records.equipment) :
    (equipmentBelongsToScope asset root false).run records = belongs hierarchy root asset := by
  obtain ⟨place, hplace⟩ := List.mem_iff_getElem?.mp hasset
  have hindex := hierarchy.objects_indexed place asset hplace
  obtain ⟨hlt, -⟩ := List.getElem?_eq_some_iff.mp hplace
  have hobjects := Nat.zero_lt_of_lt hlt
  have hparent := hierarchy.parent_eq hplace
  unfold equipmentBelongsToScope belongs
  rw [hindex, hroot, Option.any_some, Option.any_some]
  cases asset.entityKind.isEquipment with
  | false => rfl
  | true =>
      simp only [reduceCtorEq, if_false, Bool.false_eq_true, false_or, Option.some_inj,
        Bool.true_and]
      split
      · next hsame =>
          rw [hsame]
          exact (decide_eq_true Forest.self_mem_ancestors).symm
      · next hother =>
          rw [run_bind, readObjectCount, run_read]
          cases habove : asset.parentIndex with
          | none =>
              rw [Forest.ancestors_root (hparent.trans habove), run_belongsToScopeFrom_none,
                eq_comm, decide_eq_false_iff_not, List.mem_singleton]
              exact Ne.symm hother
          | some above =>
              have hguard := hierarchy.length_ancestors_le hobjects above
              rw [Forest.ancestors_child (hparent.trans habove),
                run_belongsToScopeFrom hierarchy hroot hguard]
              simp only [List.mem_cons, Ne.symm hother, false_or]

/-! ## The loops of a card -/

/-- A loop over the places of the objects is a loop over the objects. -/
theorem foldl_objects {β : Type} {step : β → ℕ → β} {visit : β → Equipment → β}
    (hstep : ∀ result place object, records.equipment[place]? = some object →
      step result place = visit result object) (first : β) :
    (List.range records.equipment.length).foldl step first =
      records.equipment.foldl visit first := by
  have hvisit : ∀ result : β, ∀ place ∈ List.range records.equipment.length,
      step result place = (records.equipment[place]?).elim result (visit result) := by
    intro result place hplace
    have hobject := List.getElem?_eq_getElem (List.mem_range.mp hplace)
    rw [hstep result place _ hobject, hobject, Option.elim_some]
  rw [List.foldl_ext _ _ _ hvisit]
  exact foldl_range_getElem? records.equipment (fun result object =>
    object.elim result (visit result)) first

/-- The first loop of a card counts the assets for which `counted` holds. -/
theorem run_countChildren {root : Equipment} {flatFallback : Bool} {counted : Equipment → Bool}
    (hcounted : ∀ object ∈ records.equipment,
      (equipmentBelongsToScope object root flatFallback).run records = counted object) :
    ((List.range records.equipment.length).foldlM (countChild root flatFallback) 0).run records =
      records.equipment.countP counted := by
  have hvisit : ∀ (count place : ℕ) (object : Equipment),
      records.equipment[place]? = some object →
      (countChild root flatFallback count place).run records =
        if counted object then count + 1 else count := by
    intro count place object hobject
    rw [countChild, run_bind, readEquipment, run_read, Option.bind_some, hobject]
    dsimp only
    rw [run_bind, hcounted object (List.mem_of_getElem? hobject), run_pure]
  rw [run_foldlM, foldl_objects hvisit, foldl_countP, Nat.zero_add]

namespace OverviewView

variable {view : OverviewView}

/-- More nodes, as far as there are bindings for them. -/
def addNodes (view : OverviewView) (nodes : List StateBinding) : OverviewView :=
  { view with nodes := (view.nodes ++ nodes).take view.nodeCapacity }

@[simp] theorem addNodes_nodeCapacity (nodes : List StateBinding) :
    (view.addNodes nodes).nodeCapacity = view.nodeCapacity := rfl

theorem addNodes_fit (nodes : List StateBinding) :
    (view.addNodes nodes).nodes.length ≤ (view.addNodes nodes).nodeCapacity :=
  List.length_take_le _ _

theorem addNodes_append (first second : List StateBinding) :
    (view.addNodes first).addNodes second = view.addNodes (first ++ second) := by
  simp only [addNodes, take_append_take, List.append_assoc]

theorem addNodes_nil (hfit : view.nodes.length ≤ view.nodeCapacity) : view.addNodes [] = view := by
  rw [addNodes, List.append_nil, List.take_of_length_le hfit]

/-- One node after the other. -/
theorem foldl_createEquipmentNode (hfit : view.nodes.length ≤ view.nodeCapacity)
    (assets : List Equipment) :
    assets.foldl (fun view asset => (view.createEquipmentNode asset).run records) view =
      view.addNodes (assets.map (stateOf records)) := by
  rw [addNodes, ← foldl_appendBelow hfit]
  clear hfit
  induction assets generalizing view with
  | nil => rfl
  | cons asset assets ih =>
      rw [List.foldl_cons, ih, createEquipmentNode, List.map_cons, List.foldl_cons]
      split
      · next hfull => rw [if_neg (Nat.not_lt_of_le hfull), run_pure]
      · next hroom =>
          rw [if_pos (Nat.lt_of_not_le hroom), run_bind, run_readStateBinding, run_pure]

/-- A round of the last loop. -/
theorem run_createChild (hierarchy : Hierarchy records) {root : Equipment} {top : ℕ}
    (hroot : root.index = some top) (kind : EntityKind) (view : OverviewView) (place : ℕ)
    (child : Equipment) (hchild : records.equipment[place]? = some child) :
    (createChild root false kind view place).run records =
      if (decide (child.entityKind = kind) && belongs hierarchy root child) = true then
        (view.createEquipmentNode child).run records
      else view := by
  have hbelongs := run_equipmentBelongsToScope hierarchy hroot (List.mem_of_getElem? hchild)
  rw [createChild, run_bind, readEquipment, run_read, Option.bind_some, hchild]
  by_cases hkind : child.entityKind = kind
  · simp only [hkind, ne_eq, not_true_eq_false, if_false, run_bind, hbelongs, decide_true,
      Bool.true_and]
    split <;> rfl
  · simp only [hkind, ne_eq, not_false_eq_true, if_true, run_pure, decide_false, Bool.false_and,
      Bool.false_eq_true, if_false]

end OverviewView

theorem mem_cardAssets (hierarchy : Hierarchy records) {root asset : Equipment} :
    asset ∈ cardAssets hierarchy root ↔
      asset ∈ records.equipment ∧ belongs hierarchy root asset = true := by
  have hphysical : belongs hierarchy root asset = true →
      asset.entityKind = .activeEquipment ∨ asset.entityKind = .passiveEquipment := by
    intro hbelongs
    exact of_decide_eq_true (Bool.and_eq_true_iff.mp hbelongs).1
  simp only [cardAssets, List.mem_flatMap, List.mem_cons, List.not_mem_nil, or_false,
    List.mem_filter, Bool.and_eq_true, decide_eq_true_eq]
  constructor
  · rintro ⟨-, -, hmem, -, hbelongs⟩
    exact ⟨hmem, hbelongs⟩
  · rintro ⟨hmem, hbelongs⟩
    exact ⟨asset.entityKind, hphysical hbelongs, hmem, rfl, hbelongs⟩

namespace OverviewView

variable {view : OverviewView}

/-- A card adds the nodes of its assets, and there is a card exactly if there are assets for it. -/
theorem run_createHierarchyCard (hierarchy : Hierarchy records)
    (hfit : view.nodes.length ≤ view.nodeCapacity) {root : Equipment} {top : ℕ}
    (hroot : root.index = some top) :
    (view.createHierarchyCard root false).run records =
      (view.addNodes ((cardAssets hierarchy root).map (stateOf records)),
        !(cardAssets hierarchy root).isEmpty) := by
  have hempty : records.equipment.countP (belongs hierarchy root) = 0 ↔
      cardAssets hierarchy root = [] := by
    rw [List.countP_eq_zero, List.eq_nil_iff_forall_not_mem]
    simp only [mem_cardAssets, not_and]
  have hnodes : [EntityKind.activeEquipment, .passiveEquipment].foldl (fun view kind =>
      ((List.range records.equipment.length).foldlM (createChild root false kind) view).run
        records) view = view.addNodes ((cardAssets hierarchy root).map (stateOf records)) := by
    rw [← foldl_createEquipmentNode hfit, cardAssets, List.foldl_flatMap]
    refine List.foldl_ext _ _ _ fun view kind _ => ?_
    rw [run_foldlM, foldl_objects (run_createChild hierarchy hroot kind), List.foldl_filter]
  rw [createHierarchyCard, run_bind, readObjectCount, run_read, run_bind,
    run_countChildren fun object => run_equipmentBelongsToScope hierarchy hroot]
  split
  · next hnone =>
      rw [run_pure, hempty.mp hnone, List.map_nil, addNodes_nil hfit]
      rfl
  · next hsome =>
      have hnonempty : (cardAssets hierarchy root).isEmpty = false :=
        Bool.eq_false_iff.mpr fun hnil => hsome (hempty.mpr (List.isEmpty_iff.mp hnil))
      rw [run_bind, run_foldlM, hnodes, run_pure, hnonempty]
      rfl

/-- One round over the objects: a root makes its card. -/
theorem run_createRoot (hierarchy : Hierarchy records) (made : OverviewView × ℕ) (place : ℕ)
    (object : Equipment) (hobject : records.equipment[place]? = some object) :
    (createRoot records.equipment.length made place).run records =
      if object.parentIndex.isNone = true then
        let card := (made.1.createHierarchyCard object false).run records
        (card.1, if card.2 then made.2 + 1 else made.2)
      else made := by
  rw [createRoot, run_bind, readEquipment, run_read, Option.bind_some, hobject]
  dsimp only
  cases hparent : object.parentIndex with
  | none =>
      rw [Option.all_none, if_pos rfl, run_bind, run_pure, Option.isNone_none, if_pos rfl]
  | some parent =>
      have hlt : parent < records.equipment.length := by
        refine hierarchy.parents_exist place parent ?_
        rw [parentPlace, hobject, Option.bind_some, hparent]
      have hroot : (decide (records.equipment.length ≤ parent)) = false :=
        decide_eq_false (Nat.not_le_of_lt hlt)
      rw [Option.all_some, hroot]
      rfl

/-- The cards of several roots. -/
theorem foldl_createHierarchyCard (hierarchy : Hierarchy records)
    (hfit : view.nodes.length ≤ view.nodeCapacity) {roots : List Equipment}
    (hroots : ∀ root ∈ roots, root ∈ records.equipment) (cardCount : ℕ) :
    roots.foldl (fun made root =>
        let card := (made.1.createHierarchyCard root false).run records
        (card.1, if card.2 then made.2 + 1 else made.2)) (view, cardCount) =
      (view.addNodes ((roots.flatMap (cardAssets hierarchy)).map (stateOf records)),
        cardCount + roots.countP fun root => !(cardAssets hierarchy root).isEmpty) := by
  induction roots generalizing view cardCount with
  | nil =>
      rw [List.flatMap_nil, List.map_nil, addNodes_nil hfit]
      rfl
  | cons root roots ih =>
      obtain ⟨hroot, hrest⟩ := List.forall_mem_cons.mp hroots
      obtain ⟨top, htop⟩ := List.mem_iff_getElem?.mp hroot
      have hcard := run_createHierarchyCard hierarchy hfit (hierarchy.objects_indexed top root htop)
      rw [List.foldl_cons, hcard]
      dsimp only
      rw [ih (addNodes_fit _) hrest, addNodes_append, List.flatMap_cons, List.map_append,
        List.countP_cons]
      congr 1
      cases (cardAssets hierarchy root).isEmpty with
      | true => simp
      | false => simp only [Bool.not_false, if_true]; ring

end OverviewView

/-! ## The partition -/

theorem nodup_objects (hierarchy : Hierarchy records) : records.equipment.Nodup := by
  refine List.pairwise_iff_getElem.mpr fun place other hplace hother hlt hsame => ?_
  have hfirst := hierarchy.objects_indexed place _ (List.getElem?_eq_getElem hplace)
  have hsecond := hierarchy.objects_indexed other _ (List.getElem?_eq_getElem hother)
  rw [hsame, hsecond, Option.some_inj] at hfirst
  omega

theorem mem_rootObjects {root : Equipment} :
    root ∈ rootObjects records ↔ root ∈ records.equipment ∧ root.parentIndex = none := by
  rw [rootObjects, List.mem_filter, Option.isNone_iff_eq_none]

/-- An asset is on the card of a root exactly if the root is its own. -/
theorem belongs_iff (hierarchy : Hierarchy records) {root asset : Equipment} {top place : ℕ}
    (hroot : records.equipment[top]? = some root) (hasset : records.equipment[place]? = some asset) :
    belongs hierarchy root asset = true ↔
      asset.entityKind.isEquipment = true ∧ top ∈ hierarchy.forest.ancestors place := by
  rw [belongs, hierarchy.objects_indexed top root hroot,
    hierarchy.objects_indexed place asset hasset]
  simp

theorem nodup_cardAssets (hierarchy : Hierarchy records) (root : Equipment) :
    (cardAssets hierarchy root).Nodup := by
  have hfilter : ∀ kind : EntityKind, (records.equipment.filter fun asset =>
      asset.entityKind = kind && belongs hierarchy root asset).Nodup := fun kind =>
    (nodup_objects hierarchy).filter _
  rw [cardAssets, List.nodup_flatMap]
  refine ⟨fun kind _ => hfilter kind, List.pairwise_pair.mpr ?_⟩
  intro asset hactive hpassive
  have hfirst := of_decide_eq_true (Bool.and_eq_true_iff.mp (List.mem_filter.mp hactive).2).1
  have hsecond := of_decide_eq_true (Bool.and_eq_true_iff.mp (List.mem_filter.mp hpassive).2).1
  rw [hfirst] at hsecond
  cases hsecond

/-- Each asset is on exactly one card, and nothing else is on a card. -/
theorem cardAssets_perm (hierarchy : Hierarchy records) :
    ((rootObjects records).flatMap (cardAssets hierarchy)).Perm
      (records.equipment.filter fun object => object.entityKind.isEquipment) := by
  have hnodup := nodup_objects hierarchy
  have hplace : ∀ {object : Equipment}, object ∈ records.equipment →
      ∃ place : ℕ, records.equipment[place]? = some object := List.mem_iff_getElem?.mp
  refine (List.perm_ext_iff_of_nodup ?_ (hnodup.filter _)).mpr fun asset => ?_
  · rw [List.nodup_flatMap]
    refine ⟨fun root _ => nodup_cardAssets hierarchy root,
      (hnodup.filter _).pairwise_of_forall_ne fun root hroot other hother hne => ?_⟩
    -- an asset on two cards would have two roots
    intro asset hfirst hsecond
    obtain ⟨hmem, hbelongs⟩ := (mem_cardAssets hierarchy).mp hfirst
    obtain ⟨-, hbelongsOther⟩ := (mem_cardAssets hierarchy).mp hsecond
    obtain ⟨hrootMem, hrootParent⟩ := mem_rootObjects.mp hroot
    obtain ⟨hotherMem, hotherParent⟩ := mem_rootObjects.mp hother
    obtain ⟨place, hasset⟩ := hplace hmem
    obtain ⟨top, htop⟩ := hplace hrootMem
    obtain ⟨otherTop, hotherTop⟩ := hplace hotherMem
    obtain ⟨found, -, -, hunique⟩ := Forest.exists_root (F := hierarchy.forest) place
    have habove := ((belongs_iff hierarchy htop hasset).mp hbelongs).2
    have hotherAbove := ((belongs_iff hierarchy hotherTop hasset).mp hbelongsOther).2
    have hsame : top = otherTop :=
      (hunique top habove ((hierarchy.parent_eq htop).trans hrootParent)).trans
        (hunique otherTop hotherAbove ((hierarchy.parent_eq hotherTop).trans hotherParent)).symm
    rw [hsame, hotherTop, Option.some_inj] at htop
    exact hne htop.symm
  · rw [List.mem_flatMap, List.mem_filter]
    constructor
    · rintro ⟨root, hroot, hcard⟩
      obtain ⟨hmem, hbelongs⟩ := (mem_cardAssets hierarchy).mp hcard
      exact ⟨hmem, (Bool.and_eq_true_iff.mp hbelongs).1⟩
    · rintro ⟨hmem, hphysical⟩
      obtain ⟨place, hasset⟩ := hplace hmem
      obtain ⟨top, habove, hnone, -⟩ := Forest.exists_root (F := hierarchy.forest) place
      obtain ⟨hlt, -⟩ := List.getElem?_eq_some_iff.mp hasset
      have htop := List.getElem?_eq_getElem (hierarchy.ancestors_lt hlt top habove)
      refine ⟨_, mem_rootObjects.mpr ⟨List.mem_of_getElem? htop,
        (hierarchy.parent_eq htop).symm.trans hnone⟩, ?_⟩
      exact (mem_cardAssets hierarchy).mpr
        ⟨hmem, (belongs_iff hierarchy htop hasset).mpr ⟨hphysical, habove⟩⟩

/-- The fallback for a model without assets makes no card. -/
theorem run_flatFallback {view : OverviewView} (root : Equipment)
    (hnone : ∀ object ∈ records.equipment, object.entityKind.isEquipment = false) :
    (view.createHierarchyCard root true).run records = (view, false) := by
  have hcount : ∀ object ∈ records.equipment,
      (equipmentBelongsToScope object root true).run records = false := by
    intro object hobject
    rw [equipmentBelongsToScope, if_pos (hnone object hobject), run_pure]
  have hzero : records.equipment.countP (fun _ => false) = 0 := by simp
  rw [OverviewView.createHierarchyCard, run_bind, readObjectCount, run_read, run_bind,
    run_countChildren hcount, if_pos hzero, run_pure]

/-- All the nodes of the hierarchy cards. -/
theorem run_createHierarchyCards (hierarchy : Hierarchy records) :
    ((OverviewView.createHierarchyCards
        { nodeCapacity := records.equipment.length }).run records).nodes =
      ((rootObjects records).flatMap (cardAssets hierarchy)).map (stateOf records) := by
  have hperm := cardAssets_perm hierarchy
  have hfit : (((rootObjects records).flatMap (cardAssets hierarchy)).map
      (stateOf records)).length ≤ records.equipment.length := by
    rw [List.length_map, hperm.length_eq]
    exact List.length_filter_le _ _
  let first : OverviewView := { nodeCapacity := records.equipment.length }
  have hloop := OverviewView.foldl_createHierarchyCard hierarchy
    (show first.nodes.length ≤ first.nodeCapacity from Nat.zero_le _)
    (fun root hroot => (mem_rootObjects.mp hroot).1) 0
  rw [rootObjects, List.foldl_filter, ← rootObjects] at hloop
  have hnodes : (first.addNodes (((rootObjects records).flatMap (cardAssets hierarchy)).map
      (stateOf records))).nodes = ((rootObjects records).flatMap (cardAssets hierarchy)).map
        (stateOf records) := by
    rw [OverviewView.addNodes, List.nil_append, List.take_of_length_le hfit]
  rw [OverviewView.createHierarchyCards, run_bind, readObjectCount, run_read]
  split
  · next hempty =>
      have hnobody : rootObjects records = [] := by
        rw [rootObjects, List.length_eq_zero_iff.mp hempty, List.filter_nil]
      rw [hnobody]
      rfl
  · next hobjects =>
      rw [run_bind, run_foldlM, foldl_objects (OverviewView.run_createRoot hierarchy), hloop]
      dsimp only
      split
      · -- no card: then there is no asset, and the fallback adds nothing
        next hcards =>
          have hempty : ∀ root ∈ rootObjects records, cardAssets hierarchy root = [] := by
            intro root hroot
            rw [Nat.zero_add, List.countP_eq_zero] at hcards
            simpa using hcards root hroot
          have hnone : ∀ object ∈ records.equipment, object.entityKind.isEquipment = false := by
            rw [List.flatMap_eq_nil_iff.mpr hempty, List.nil_perm, List.filter_eq_nil_iff] at hperm
            exact fun object hobject => Bool.eq_false_iff.mpr (hperm object hobject)
          rw [run_bind, readEquipment, run_read, Option.bind_some,
            List.getElem?_eq_getElem (Nat.pos_of_ne_zero hobjects)]
          dsimp only
          rw [run_bind, run_flatFallback _ hnone]
          exact hnodes
      · exact hnodes

/-- The object without a parent above an asset. -/
def IsRootOf (hierarchy : Hierarchy records) (root asset : Equipment) : Prop :=
  root.parentIndex = none ∧ ∃ top place : ℕ, records.equipment[top]? = some root ∧
    records.equipment[place]? = some asset ∧ top ∈ hierarchy.forest.ancestors place

theorem mem_cardAssets_iff_isRootOf (hierarchy : Hierarchy records) {root : Equipment}
    (hroot : root ∈ rootObjects records) (asset : Equipment) :
    asset ∈ cardAssets hierarchy root ↔
      asset.entityKind.isEquipment = true ∧ IsRootOf hierarchy root asset := by
  obtain ⟨hmem, hnone⟩ := mem_rootObjects.mp hroot
  rw [mem_cardAssets]
  constructor
  · rintro ⟨hasset, hbelongs⟩
    obtain ⟨top, htop⟩ := List.mem_iff_getElem?.mp hmem
    obtain ⟨place, hplace⟩ := List.mem_iff_getElem?.mp hasset
    obtain ⟨hphysical, habove⟩ := (belongs_iff hierarchy htop hplace).mp hbelongs
    exact ⟨hphysical, hnone, top, place, htop, hplace, habove⟩
  · rintro ⟨hphysical, -, top, place, htop, hplace, habove⟩
    exact ⟨List.mem_of_getElem? hplace,
      (belongs_iff hierarchy htop hplace).mpr ⟨hphysical, habove⟩⟩

/-- **Hierarchy cards.**  The nodes of the overview are those of the cards, root by root.  The card of
a root makes a node for each asset whose root it is.  Together the cards have every asset once and
nothing else, as many as there are assets, which is not more than there are bindings. -/
theorem createHierarchyCards_partition (hierarchy : Hierarchy records) :
    let made := (OverviewView.createHierarchyCards
      { nodeCapacity := readObjectCount.run records }).run records
    made.nodes = ((rootObjects records).flatMap (cardAssets hierarchy)).map (stateOf records) ∧
      (∀ root ∈ rootObjects records, ∀ view : OverviewView,
        view.nodes.length + (cardAssets hierarchy root).length ≤ view.nodeCapacity →
          ((view.createHierarchyCard root false).run records).1.nodes =
            view.nodes ++ (cardAssets hierarchy root).map (stateOf records)) ∧
      (∀ root ∈ rootObjects records, ∀ asset, asset ∈ cardAssets hierarchy root ↔
        asset.entityKind.isEquipment = true ∧ IsRootOf hierarchy root asset) ∧
      ((rootObjects records).flatMap (cardAssets hierarchy)).Perm
        (records.equipment.filter fun object => object.entityKind.isEquipment) ∧
      made.nodes.length = readAssetCount.run records ∧
      made.nodes.length ≤ readObjectCount.run records := by
  intro made
  have hnodes := run_createHierarchyCards hierarchy
  have hperm := cardAssets_perm hierarchy
  have hlength : made.nodes.length = readAssetCount.run records := by
    calc made.nodes.length
        = (((rootObjects records).flatMap (cardAssets hierarchy)).map (stateOf records)).length :=
          congrArg List.length hnodes
      _ = (records.equipment.filter fun object => object.entityKind.isEquipment).length := by
          rw [List.length_map, hperm.length_eq]
      _ = readAssetCount.run records := List.countP_eq_length_filter.symm
  refine ⟨hnodes, fun root hroot view hroom => ?_,
    fun root hroot => mem_cardAssets_iff_isRootOf hierarchy hroot, hperm, hlength, ?_⟩
  · obtain ⟨top, htop⟩ := List.mem_iff_getElem?.mp (mem_rootObjects.mp hroot).1
    have hfit : view.nodes.length ≤ view.nodeCapacity := by omega
    rw [OverviewView.run_createHierarchyCard hierarchy hfit
      (hierarchy.objects_indexed top root htop), OverviewView.addNodes]
    refine List.take_of_length_le ?_
    rwa [List.length_append, List.length_map]
  · rw [hlength]
    exact List.countP_le_length

/-- The station has one card, with the compressor before its motor and the tank. -/
theorem createHierarchyCards_partition_plant :
    ((OverviewView.createHierarchyCards { nodeCapacity := 4 }).run plant).nodes.map
        StateBinding.equipmentIndex = [some 1, some 2, some 3] ∧
      ((OverviewView.createHierarchyCards { nodeCapacity := 4 }).run plant).nodes.length = 3 :=
  ⟨by decide +kernel, (createHierarchyCards_partition plant_hierarchy).2.2.2.2.1⟩

end CrowPanel.Ui
