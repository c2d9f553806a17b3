import Mathlib.Data.List.Basic
import Mathlib.Data.List.Dedup
import Mathlib.Data.List.Induction
import Mathlib.Data.List.Nodup
import Mathlib.Data.List.Perm.Subperm
import Mathlib.Tactic.Common

/-!
# Bounded tables of keyed slots

A table keeps one slot for each key it has seen active.  A report for a known key overwrites its
slot in place, whether the report is active or not; a report for an unknown key takes a new slot if
it is active and is dropped otherwise.  Slots are never given back, so the table can be full while
few of its items are active.

The abstract meaning of a table is a function of the reports it has accepted:

* `activationOrder reports` lists the keys by their first active report;
* `latest reports k` is the last report about `k`;
* `contents reports` is the latest report of each activated key, in activation order.

`report_contents` states that accepting a report keeps the slots equal to `contents`, and
`report_eq_none_iff` says exactly which reports are refused.
-/

namespace CrowPanel.Library.KeyedSlots

variable {ι κ : Type*} [DecidableEq κ] (key : ι → κ) (active : ι → Bool)

/-- Files one report in the table; `none` when it needs a slot and there is none left. -/
def report (capacity : ℕ) (slots : List ι) (item : ι) : Option (List ι) :=
  match slots.findIdx? (fun other => key other = key item) with
  | some slot => some (slots.set slot item)
  | none =>
      if active item = false then some slots
      else if capacity ≤ slots.length then none
      else some (slots ++ [item])

/-- The keys that were reported active, each once, by their first active report. -/
def activationOrder (reports : List ι) : List κ :=
  ((reports.filter active).map key).eraseDups

/-- The last report about a key. -/
def latest (reports : List ι) (k : κ) : Option ι :=
  reports.reverse.find? fun item => key item = k

/-- The latest report of each activated key, in the order of the first activations. -/
def contents (reports : List ι) : List ι :=
  (activationOrder key active reports).filterMap (latest key reports)

@[simp] theorem contents_nil : contents key active ([] : List ι) = [] := rfl

/-- A change of the item in one slot is not seen in a field which it keeps. -/
theorem map_modify {α : Type*} {field : ι → α} {change : ι → ι}
    (hfield : ∀ item, field (change item) = field item) (slots : List ι) (slot : ℕ) :
    (slots.modify slot change).map field = slots.map field := by
  refine List.ext_getElem? fun place => ?_
  rw [List.getElem?_map, List.getElem?_map, List.getElem?_modify]
  rcases slots[place]? with _ | item
  · rfl
  · by_cases hplace : slot = place
    · simp [hplace, hfield]
    · simp [hplace]

/-! ## The abstract table after one more report -/

section Abstract

variable {key active} {reports : List ι} {item : ι} {k : κ}

theorem mem_activationOrder :
    k ∈ activationOrder key active reports ↔
      ∃ item ∈ reports, active item = true ∧ key item = k := by
  simp [activationOrder, List.mem_eraseDups, and_assoc]

theorem activationOrder_concat :
    activationOrder key active (reports ++ [item]) =
      if active item = true ∧ key item ∉ activationOrder key active reports then
        activationOrder key active reports ++ [key item]
      else activationOrder key active reports := by
  by_cases hactive : active item = true
  · by_cases hknown : key item ∈ activationOrder key active reports
    · have hmem : key item ∈ (reports.filter active).map key := List.mem_eraseDups.mp hknown
      simp [activationOrder, hactive, List.eraseDups_append, List.removeAll, hmem,
        List.mem_eraseDups]
    · have hfresh : key item ∉ (reports.filter active).map key :=
        fun hmem => hknown (List.mem_eraseDups.mpr hmem)
      simp only [activationOrder, List.filter_append, List.map_append, List.eraseDups_append,
        List.mem_eraseDups, hactive, hfresh, not_false_eq_true, and_self, if_true,
        List.filter_cons_of_pos, List.filter_nil, List.map_cons, List.map_nil]
      simp [List.removeAll, hfresh, List.eraseDups_cons]
  · simp [activationOrder, hactive]

theorem nodup_activationOrder : (activationOrder key active reports).Nodup := by
  induction reports using List.reverseRecOn with
  | nil => simp [activationOrder]
  | append_singleton reports item ih =>
      rw [activationOrder_concat]
      split
      · next hfresh =>
          refine List.nodup_append.mpr ⟨ih, by simp, ?_⟩
          simpa using fun k hk (h : k = key item) => hfresh.2 (h ▸ hk)
      · exact ih

theorem latest_concat :
    latest key (reports ++ [item]) k = if key item = k then some item else latest key reports k := by
  by_cases hkey : key item = k <;> simp [latest, hkey]

theorem latest_key (hlatest : latest key reports k = some item) : key item = k := by
  simpa using List.find?_some hlatest

theorem latest_mem (hlatest : latest key reports k = some item) : item ∈ reports := by
  simpa using List.mem_of_find?_eq_some hlatest

theorem exists_latest (hactivated : k ∈ activationOrder key active reports) :
    ∃ item, latest key reports k = some item := by
  obtain ⟨item, hmem, -, hkey⟩ := mem_activationOrder.mp hactivated
  refine Option.isSome_iff_exists.mp (List.find?_isSome.mpr ⟨item, by simpa using hmem, ?_⟩)
  simpa using hkey

/-- A key whose latest report is active has been activated. -/
theorem mem_activationOrder_of_latest (hlatest : latest key reports k = some item)
    (hactive : active item = true) : k ∈ activationOrder key active reports :=
  mem_activationOrder.mpr ⟨item, latest_mem hlatest, hactive, latest_key hlatest⟩

/-- There is no latest report about a key that no report is about. -/
theorem latest_eq_none (hkey : ∀ item ∈ reports, key item ≠ k) : latest key reports k = none := by
  refine List.find?_eq_none.mpr fun item hitem => ?_
  simpa using hkey item (List.mem_reverse.mp hitem)

/-- Reports read in other terms have the same latest report, where these tell the keys apart. -/
theorem latest_map {ι' κ' : Type*} [DecidableEq κ'] {key' : ι' → κ'} {translate : ι → ι'} {k' : κ'}
    (hkeys : ∀ item ∈ reports, key' (translate item) = k' ↔ key item = k) :
    latest key' (reports.map translate) k' = (latest key reports k).map translate := by
  induction reports using List.reverseRecOn with
  | nil => rfl
  | append_singleton reports item ih =>
      have hlast := hkeys item (List.mem_append_right _ List.mem_cons_self)
      have hrest := ih fun other hother => hkeys other (List.mem_append_left _ hother)
      rw [List.map_append, List.map_singleton, latest_concat, latest_concat, hrest]
      by_cases hkey : key item = k
      · rw [if_pos hkey, if_pos (hlast.mpr hkey), Option.map_some]
      · rw [if_neg hkey, if_neg fun hother => hkey (hlast.mp hother)]

/-- The keys of the slots, read off in slot order, are the activated keys. -/
theorem contents_map_key :
    (contents key active reports).map key = activationOrder key active reports := by
  have hkeys : ∀ order : List κ, (∀ k ∈ order, ∃ item, latest key reports k = some item) →
      (order.filterMap (latest key reports)).map key = order := by
    intro order
    induction order with
    | nil => intro _; rfl
    | cons k order ih =>
        intro hall
        obtain ⟨item, hlatest⟩ := hall k List.mem_cons_self
        rw [List.filterMap_cons_some hlatest, List.map_cons, latest_key hlatest,
          ih fun k' hk' => hall k' (List.mem_cons_of_mem _ hk')]
  exact hkeys _ fun k hk => exists_latest hk

theorem length_contents :
    (contents key active reports).length = (activationOrder key active reports).length := by
  rw [← contents_map_key, List.length_map]

theorem latest_of_mem_contents (hmem : item ∈ contents key active reports) :
    latest key reports (key item) = some item := by
  obtain ⟨k, -, hlatest⟩ := List.mem_filterMap.mp hmem
  rwa [latest_key hlatest]

/-- The active slots are those of the keys whose latest report is active. -/
theorem exists_active_contents_iff :
    (∃ item ∈ contents key active reports, active item = true ∧ key item = k) ↔
      (latest key reports k).any active = true := by
  rw [Option.any_eq_true]
  constructor
  · rintro ⟨item, hmem, hactive, rfl⟩
    exact ⟨item, latest_of_mem_contents hmem, hactive⟩
  · rintro ⟨item, hlatest, hactive⟩
    have hactivated := mem_activationOrder_of_latest hlatest hactive
    exact ⟨item, List.mem_filterMap.mpr ⟨k, hactivated, hlatest⟩, hactive, latest_key hlatest⟩

/-- The slot of a key is found exactly when the key has been activated. -/
theorem find_slot_eq_none_iff :
    (contents key active reports).findIdx? (fun other => key other = k) = none ↔
      k ∉ activationOrder key active reports := by
  rw [List.findIdx?_eq_none_iff, ← contents_map_key, List.mem_map]
  simp only [decide_eq_false_iff_not, not_exists, not_and]

end Abstract

/-! ## Reports refine the abstract table -/

section Refinement

variable {key active} {capacity : ℕ} {reports slots : List ι} {item : ι}

/-- Overwriting the slot of a key is the same as asking for the new latest reports. -/
private theorem set_slot_filterMap {order : List κ} {before after : κ → Option ι} {slot : ℕ}
    (hnodup : order.Nodup)
    (hbefore : ∀ k ∈ order, ∃ item, before k = some item ∧ key item = k)
    (hother : ∀ k, k ≠ key item → after k = before k) (hself : after (key item) = some item)
    (hslot : (order.filterMap before).findIdx? (fun other => key other = key item) = some slot) :
    (order.filterMap before).set slot item = order.filterMap after := by
  induction order generalizing slot with
  | nil => simp at hslot
  | cons k order ih =>
      obtain ⟨hfresh, hnodup⟩ := List.nodup_cons.mp hnodup
      obtain ⟨old, hold, hkey⟩ := hbefore k List.mem_cons_self
      rw [List.filterMap_cons_some hold] at hslot ⊢
      by_cases hk : k = key item
      · have hrest : order.filterMap after = order.filterMap before :=
          List.filterMap_congr fun k' hk' => hother k' fun h => hfresh (hk ▸ h ▸ hk')
        have hzero : slot = 0 := by simpa [List.findIdx?_cons, hkey, hk] using hslot.symm
        rw [hzero, List.set_cons_zero, hk, List.filterMap_cons_some hself, hrest]
      · obtain ⟨slot', hslot', rfl⟩ : ∃ slot', (order.filterMap before).findIdx?
            (fun other => key other = key item) = some slot' ∧ slot' + 1 = slot := by
          simpa [List.findIdx?_cons, hkey, hk] using hslot
        rw [List.set_cons_succ, List.filterMap_cons_some ((hother k hk).trans hold),
          ih hnodup (fun k' hk' => hbefore k' (List.mem_cons_of_mem _ hk')) hslot']

private theorem contents_concat_of_not_activating
    (hkeep : ¬(active item = true ∧ key item ∉ activationOrder key active reports)) :
    contents key active (reports ++ [item]) =
      (activationOrder key active reports).filterMap (latest key (reports ++ [item])) := by
  rw [contents.eq_def, activationOrder_concat, if_neg hkeep]

private theorem contents_concat_of_unknown
    (hunknown : key item ∉ activationOrder key active reports) :
    contents key active (reports ++ [item]) =
      contents key active reports ++ if active item = true then [item] else [] := by
  have hkept : (activationOrder key active reports).filterMap (latest key (reports ++ [item])) =
      contents key active reports :=
    List.filterMap_congr fun k hk => by
      rw [latest_concat, if_neg fun h => hunknown (by rwa [h])]
  by_cases hactive : active item = true
  · rw [contents.eq_def, activationOrder_concat, if_pos ⟨hactive, hunknown⟩, if_pos hactive,
      List.filterMap_append, hkept]
    simp [latest_concat]
  · rw [contents_concat_of_not_activating fun h => hactive h.1, hkept, if_neg hactive,
      List.append_nil]

/-- Accepting a report keeps the slots equal to the abstract contents. -/
theorem report_contents
    (hreport : report key active capacity (contents key active reports) item = some slots) :
    slots = contents key active (reports ++ [item]) := by
  unfold report at hreport
  split at hreport
  · next slot hslot =>
      have hknown : key item ∈ activationOrder key active reports := by
        by_contra hunknown
        simp [find_slot_eq_none_iff.mpr hunknown] at hslot
      rw [← Option.some.inj hreport, contents_concat_of_not_activating fun h => h.2 hknown]
      refine set_slot_filterMap nodup_activationOrder ?_ ?_ ?_ hslot
      · intro k hk
        obtain ⟨old, hold⟩ := exists_latest hk
        exact ⟨old, hold, latest_key hold⟩
      · intro k hk
        rw [latest_concat, if_neg (Ne.symm hk)]
      · rw [latest_concat, if_pos rfl]
  · next hnone =>
      rw [contents_concat_of_unknown (find_slot_eq_none_iff.mp hnone)]
      split at hreport
      · next hinactive => simpa [hinactive] using hreport.symm
      · next hactive =>
          split at hreport
          · cases hreport
          · simpa [hactive] using hreport.symm

/-- A report is refused exactly when it would activate one key too many. -/
theorem report_eq_none_iff :
    report key active capacity (contents key active reports) item = none ↔
      active item = true ∧ key item ∉ activationOrder key active reports ∧
        capacity ≤ (activationOrder key active reports).length := by
  rw [← find_slot_eq_none_iff, ← length_contents, report]
  cases hfind : (contents key active reports).findIdx? (fun other => key other = key item) with
  | some slot => simp
  | none => cases active item <;> simp

/-- No report is refused as long as all keys are among as many as there is room for. -/
theorem report_ne_none {keys : List κ} (hreports : ∀ other ∈ reports, key other ∈ keys)
    (hitem : key item ∈ keys) (hroom : keys.dedup.length ≤ capacity) :
    report key active capacity (contents key active reports) item ≠ none := by
  intro hnone
  obtain ⟨-, hunknown, hfull⟩ := report_eq_none_iff.mp hnone
  have hsubset : key item :: activationOrder key active reports ⊆ keys.dedup := by
    refine List.cons_subset.mpr ⟨List.mem_dedup.mpr hitem, fun k hk => ?_⟩
    obtain ⟨other, hother, -, rfl⟩ := mem_activationOrder.mp hk
    exact List.mem_dedup.mpr (hreports other hother)
  have hnodup := List.nodup_cons.mpr ⟨hunknown, @nodup_activationOrder _ _ _ key active reports⟩
  have hlength := (hnodup.subperm hsubset).length_le
  rw [List.length_cons] at hlength
  omega

end Refinement

end CrowPanel.Library.KeyedSlots
